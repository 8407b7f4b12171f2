import MemberAddress.Log.Registry
import Mathlib.Tactic

/-!
# Levels inherited along dotted names

A component without a level has that of the nearest component above it. The way up passes over the
character before a dot, which is harmless as long as no two dots follow each other: then it leads
through all prefixes that end before a dot, the longest first.

* `Registry.IsDottedPrefix` are the components above a component by name, `Registry.prefixes` lists
  them;
* `Registry.ancestors_eq`: the way up meets those of them that are known, and
  `Registry.isDotted_iff_ancestors_eq`: it does so for no other names;
* `Registry.Governs` says which level is that of the longest prefix that has one, and
  `Registry.effectiveLevel_eq` that it is the one that counts.
-/

namespace MemberAddress.Registry

variable {r : Registry} {component p q : Text} {look : Text → Option Whole} {level level' : Whole}

/-! ### Prefixes of a name -/

/-- A component itself, the top, or what stands before a dot of the name. -/
def IsDottedPrefix (p component : Text) : Prop :=
  p = [] ∨ p = component ∨ ∃ rest, component = p ++ '.' :: rest

/-- No two dots follow each other in the name, nor does it begin with a dot. -/
def IsDotted (component : Text) : Prop :=
  ('.' :: component).IsChain fun a b => a ≠ '.' ∨ b ≠ '.'

/-- What stands before the dots of a name that is given in reverse with a dot before it. -/
def prefixesIn : Text → List Text
  | [] => []
  | c :: rest => if c = '.' then rest.reverse.tail :: prefixesIn rest else prefixesIn rest

theorem prefixesIn_dot (rest : Text) :
    prefixesIn ('.' :: rest) = rest.reverse.tail :: prefixesIn rest := rfl

theorem prefixesIn_of_ne {c : Char} (h : c ≠ '.') (rest : Text) :
    prefixesIn (c :: rest) = prefixesIn rest := if_neg h

/-- The prefixes of a component, the longest first. -/
def prefixes (component : Text) : List Text :=
  if component = [] then [[]] else component :: prefixesIn ('.' :: component).reverse

theorem mem_prefixesIn_iff {t : Text} :
    p ∈ prefixesIn t ↔ ∃ u v, t = u ++ '.' :: v ∧ p = v.reverse.tail := by
  induction t with
  | nil => simp [prefixesIn]
  | cons c rest ih =>
    have hlater : p ∈ prefixesIn rest ↔
        ∃ u v, c :: rest = c :: u ++ '.' :: v ∧ p = v.reverse.tail := by
      simpa using ih
    rw [prefixesIn]
    constructor
    · intro h
      split at h
      · next hc =>
        rcases List.mem_cons.1 h with rfl | h
        · exact ⟨[], rest, by rw [hc, List.nil_append], rfl⟩
        · obtain ⟨u, v, huv, hp⟩ := hlater.1 h
          exact ⟨c :: u, v, huv, hp⟩
      · obtain ⟨u, v, huv, hp⟩ := hlater.1 h
        exact ⟨c :: u, v, huv, hp⟩
    · rintro ⟨u, v, huv, hp⟩
      cases u with
      | nil =>
        obtain ⟨rfl, rfl⟩ := List.cons.inj huv
        simp [hp]
      | cons d u =>
        obtain ⟨rfl, hrest⟩ := List.cons.inj huv
        have hmem : p ∈ prefixesIn rest := hlater.2 ⟨u, v, huv, hp⟩
        split
        · exact List.mem_cons_of_mem _ hmem
        · exact hmem

theorem mem_prefixes_iff : p ∈ prefixes component ↔ IsDottedPrefix p component := by
  unfold prefixes IsDottedPrefix
  by_cases hc : component = []
  · simp [hc]
  · simp only [hc, if_false, List.mem_cons, mem_prefixesIn_iff]
    constructor
    · rintro (rfl | ⟨u, v, huv, rfl⟩)
      · exact .inr (.inl rfl)
      · have hname : '.' :: component = v.reverse ++ '.' :: u.reverse := by
          rw [← List.reverse_reverse ('.' :: component), huv]
          simp
        cases hv : v.reverse with
        | nil => exact .inl rfl
        | cons d w =>
          rw [hv] at hname
          exact .inr (.inr ⟨u.reverse, (List.cons.inj hname).2⟩)
    · rintro (rfl | rfl | ⟨rest, rfl⟩)
      · exact .inr ⟨component.reverse, [], by simp, rfl⟩
      · exact .inl rfl
      · exact .inr ⟨rest.reverse, ('.' :: p).reverse, by simp, by simp⟩

example : prefixes "network.resolver".toList =
    ["network.resolver".toList, "network".toList, []] := by decide

theorem length_le_of_mem_prefixesIn {t : Text} (h : p ∈ prefixesIn t) :
    p.length ≤ t.length - 2 := by
  obtain ⟨u, v, rfl, rfl⟩ := mem_prefixesIn_iff.1 h
  simp only [List.length_tail, List.length_reverse, List.length_append, List.length_cons]
  omega

theorem pairwise_prefixesIn (t : Text) :
    (prefixesIn t).Pairwise fun p q => q.length ≤ p.length := by
  induction t with
  | nil => exact .nil
  | cons c rest ih =>
    rw [prefixesIn]
    split
    · refine .cons (fun q hq => ?_) ih
      rw [List.length_tail, List.length_reverse]
      exact (length_le_of_mem_prefixesIn hq).trans (Nat.sub_le_sub_left (by decide) _)
    · exact ih

/-- No prefix is longer than one before it. -/
theorem pairwise_prefixes (component : Text) :
    (prefixes component).Pairwise fun p q => q.length ≤ p.length := by
  unfold prefixes
  split
  · exact .cons nofun .nil
  · refine .cons (fun q hq => ?_) (pairwise_prefixesIn _)
    have hle := length_le_of_mem_prefixesIn hq
    rw [List.length_reverse, List.length_cons] at hle
    omega

/-! ### The way up -/

/-- The way up meets the prefixes that are known, and the top. -/
theorem above_eq {t : Text} (h : t.IsChain fun a b => a ≠ '.' ∨ b ≠ '.')
    (hend : '.' ∈ t.getLast?) :
    r.above t = (prefixesIn t).filter fun p => p = [] ∨ p ∈ r.known := by
  fun_induction above r t with
  | case1 => cases hend
  | case2 => simp [prefixesIn]
  | case3 c hc => simp [prefixesIn, hc]
  | case4 d rest above hknown ih =>
    have hin : decide (above = [] ∨ above ∈ r.known) = true := decide_eq_true (.inr hknown)
    rw [ih h.tail hend, prefixesIn_dot, List.filter_cons, if_pos hin]
  | case5 d rest above hunknown ih =>
    -- the character that is passed over is no dot, so that no prefix is missed
    have hd : d ≠ '.' := by
      rcases List.isChain_cons_cons.1 h with ⟨hdot | hd, -⟩
      · exact absurd rfl hdot
      · exact hd
    cases rest with
    | nil =>
      cases hend
      exact absurd rfl hd
    | cons e rest =>
      have habove : above ≠ [] := by simp [above]
      have hout : ¬ decide (above = [] ∨ above ∈ r.known) = true := by
        rw [decide_eq_true_iff]
        exact not_or.2 ⟨habove, hunknown⟩
      rw [ih h.tail.tail hend, prefixesIn_dot, List.filter_cons, if_neg hout, prefixesIn_of_ne hd]
  | case6 c d rest hc ih => rw [ih h.tail hend, prefixesIn_of_ne hc]

/-- What the way up meets are prefixes that are known or the top, in their order. -/
theorem above_sublist (r : Registry) (t : Text) :
    (r.above t).Sublist ((prefixesIn t).filter fun p => p = [] ∨ p ∈ r.known) := by
  fun_induction above r t with
  | case1 => exact .slnil
  | case2 => simp [prefixesIn]
  | case3 c hc => exact List.nil_sublist _
  | case4 d rest above hknown ih =>
    have hin : decide (above = [] ∨ above ∈ r.known) = true := decide_eq_true (.inr hknown)
    rw [prefixesIn_dot, List.filter_cons, if_pos hin]
    exact ih.cons_cons _
  | case5 d rest above hunknown ih =>
    have hrest : (prefixesIn rest).Sublist (prefixesIn (d :: rest)) := by
      rw [prefixesIn]
      split
      · exact List.sublist_cons_self _ _
      · exact List.Sublist.refl _
    exact ih.trans ((hrest.trans (List.sublist_cons_self _ _)).filter _)
  | case6 c d rest hc ih => rwa [prefixesIn_of_ne hc]

theorem above_dot_of_mem {d : Char} {rest : Text} (h : (d :: rest).reverse.tail ∈ r.known) :
    r.above ('.' :: d :: rest) = (d :: rest).reverse.tail :: r.above (d :: rest) :=
  (if_pos rfl).trans (if_pos h)

theorem above_dot_of_notMem {d : Char} {rest : Text} (h : (d :: rest).reverse.tail ∉ r.known) :
    r.above ('.' :: d :: rest) = r.above rest :=
  (if_pos rfl).trans (if_neg h)

/-- After a dot that is met first, another one is passed over if the name between them is not known,
and with it the prefix that ends there. -/
theorem exists_above_ne {rest : Text} {long : List Text}
    (hlong : ∀ p ∈ long, rest.length < p.length) : ∃ r : Registry, long ⊆ r.known ∧
      r.above ('.' :: '.' :: rest) ≠
        (prefixesIn ('.' :: '.' :: rest)).filter fun p => p = [] ∨ p ∈ r.known := by
  set missed := rest.reverse.tail with hmissed
  set name := ('.' :: rest).reverse.tail with hname
  have hlength : name.length = rest.length := by simp [hname]
  obtain ⟨known, hsubset, hin, hout⟩ : ∃ known : List Text, long ⊆ known ∧
      (missed = [] ∨ missed ∈ known) ∧ name ∉ known := by
    have hnew : name ∉ long := fun h => (hlength ▸ hlong name h).false
    by_cases hnil : missed = []
    · exact ⟨long, List.Subset.refl _, .inl hnil, hnew⟩
    · refine ⟨missed :: long, List.subset_cons_self _ _, .inr List.mem_cons_self, fun h => ?_⟩
      rcases List.mem_cons.1 h with heq | h
      · have hpos : 0 < missed.length := List.length_pos_iff.2 hnil
        have hshort : missed.length = rest.length - 1 := by simp [hmissed]
        rw [← heq] at hpos hshort
        omega
      · exact hnew h
  refine ⟨{ empty with known := known }, hsubset, fun h => ?_⟩
  rw [above_dot_of_notMem hout] at h
  have hle := (above_sublist { empty with known := known } rest).length_le
  have hge := ((List.sublist_cons_self name (missed :: prefixesIn rest)).filter
    fun p => decide (p = [] ∨ p ∈ known)).length_le
  rw [List.filter_cons, if_pos (decide_eq_true hin), List.length_cons] at hge
  rw [h] at hle
  exact absurd (hge.trans hle) (Nat.not_succ_le_self _)

/-- If the way up meets the known prefixes and the top whatever is known, no two dots follow each
other. The induction lets names be known that are as long as the text. -/
theorem isChain_of_above_eq {t : Text} (long : List Text)
    (hlong : ∀ p ∈ long, t.length ≤ p.length + 1)
    (h : ∀ r : Registry, long ⊆ r.known →
      r.above t = (prefixesIn t).filter fun p => p = [] ∨ p ∈ r.known) :
    t.IsChain fun a b => a ≠ '.' ∨ b ≠ '.' := by
  induction t generalizing long with
  | nil => exact .nil
  | cons c t ih =>
    cases t with
    | nil => exact .singleton c
    | cons d rest =>
      by_cases hc : c = '.'
      · subst hc
        have hd : d ≠ '.' := by
          rintro rfl
          obtain ⟨r, hsubset, hne⟩ := exists_above_ne fun p hp => Nat.lt_of_succ_le
            (Nat.le_of_succ_le_succ (hlong p hp))
          exact hne (h r hsubset)
        set name := (d :: rest).reverse.tail with hname
        refine .cons_cons (.inr hd) (ih (name :: long) (List.forall_mem_cons.2 ⟨?_, ?_⟩) ?_)
        · simp [hname]
        · exact fun p hp => (Nat.le_succ _).trans (hlong p hp)
        · intro r hr
          have hknown : name ∈ r.known := hr List.mem_cons_self
          have heq := h r fun p hp => hr (List.mem_cons_of_mem _ hp)
          rw [above_dot_of_mem hknown, prefixesIn_dot, List.filter_cons,
            if_pos (decide_eq_true (.inr hknown))] at heq
          exact (List.cons.inj heq).2
      · refine .cons_cons (.inl hc) (ih long (fun p hp => ?_) fun r hr => ?_)
        · exact (Nat.le_succ _).trans (hlong p hp)
        · have hr := h r hr
          rwa [above, if_neg hc, prefixesIn_of_ne hc] at hr

/-- The way up from a component is that from the text of its name with a dot before it. -/
theorem ancestors_eq_iff_above (hc : component ≠ []) :
    (r.ancestors component =
      (prefixes component).filter fun p => p = component ∨ p = [] ∨ p ∈ r.known) ↔
    r.above ('.' :: component).reverse =
      (prefixesIn ('.' :: component).reverse).filter fun p => p = [] ∨ p ∈ r.known := by
  have hne : ∀ p ∈ prefixesIn ('.' :: component).reverse, p ≠ component := by
    rintro p hp rfl
    have hle := length_le_of_mem_prefixesIn hp
    have hpos : 0 < p.length := List.length_pos_iff.2 hc
    rw [List.length_reverse, List.length_cons] at hle
    omega
  have hfilter : ((prefixesIn ('.' :: component).reverse).filter fun p =>
      p = component ∨ p = [] ∨ p ∈ r.known) =
        (prefixesIn ('.' :: component).reverse).filter fun p => p = [] ∨ p ∈ r.known :=
    List.filter_congr fun p hp => by simp [hne p hp]
  rw [ancestors, prefixes, if_neg hc, if_neg hc, List.filter_cons_of_pos (by simp), hfilter,
    List.cons_inj_right]

theorem isChain_reverse_iff : ('.' :: component).reverse.IsChain (fun a b => a ≠ '.' ∨ b ≠ '.') ↔
    IsDotted component := by
  rw [List.isChain_reverse]
  exact ⟨fun h => h.imp fun a b => Or.symm, fun h => h.imp fun a b => Or.symm⟩

theorem ancestors_eq (h : IsDotted component) :
    r.ancestors component =
      (prefixes component).filter fun p => p = component ∨ p = [] ∨ p ∈ r.known := by
  by_cases hc : component = []
  · simp [hc, ancestors, prefixes]
  · exact (ancestors_eq_iff_above hc).2 (above_eq (isChain_reverse_iff.2 h) (by simp))

/-- Just for the names without two dots in a row does the way up meet all prefixes that are known. -/
theorem isDotted_iff_ancestors_eq : IsDotted component ↔ ∀ r : Registry,
    r.ancestors component =
      (prefixes component).filter fun p => p = component ∨ p = [] ∨ p ∈ r.known := by
  refine ⟨fun h r => ancestors_eq h, fun h => ?_⟩
  by_cases hc : component = []
  · exact hc ▸ .singleton '.'
  · exact isChain_reverse_iff.1 (isChain_of_above_eq [] nofun
      fun r _ => (ancestors_eq_iff_above hc).1 (h r))

theorem nil_mem_ancestors (h : IsDotted component) : [] ∈ r.ancestors component := by
  rw [ancestors_eq h, List.mem_filter, mem_prefixes_iff]
  exact ⟨.inl rfl, by simp⟩

/-- A name that begins with a dot is cut off from the top. -/
example : [] ∉ empty.ancestors ".".toList := by decide

/-! ### The level that counts -/

/-- A level is that of the longest dotted prefix of a component that has one. -/
structure Governs (look : Text → Option Whole) (component p : Text) (level : Whole) : Prop where
  isDottedPrefix : IsDottedPrefix p component
  level : look p = some level
  longest : ∀ q, IsDottedPrefix q component → p.length < q.length → look q = none

theorem IsDottedPrefix.isPrefix (h : IsDottedPrefix p component) : p <+: component := by
  rcases h with rfl | rfl | ⟨rest, rfl⟩
  · exact List.nil_prefix
  · exact List.prefix_refl _
  · exact List.prefix_append _ _

/-- There is one longest prefix that has a level. -/
theorem Governs.unique (h : Governs look component p level) (h' : Governs look component q level') :
    p = q ∧ level = level' := by
  have hlength : p.length = q.length := by
    rcases lt_trichotomy p.length q.length with hlt | heq | hlt
    · cases (h.longest q h'.isDottedPrefix hlt).symm.trans h'.level
    · exact heq
    · cases (h'.longest p h.isDottedPrefix hlt).symm.trans h.level
  have hpq : p = q := (List.prefix_of_prefix_length_le h.isDottedPrefix.isPrefix
    h'.isDottedPrefix.isPrefix hlength.le).eq_of_length hlength
  subst hpq
  exact ⟨rfl, Option.some.inj (h.level.symm.trans h'.level)⟩

/-- The first prefix that has a level is the longest. -/
theorem exists_governs_of_findSome? (h : (prefixes component).findSome? look = some level) :
    ∃ p, Governs look component p level := by
  obtain ⟨longer, p, shorter, hsplit, hp, hnone⟩ := List.findSome?_eq_some_iff.1 h
  have hmem : p ∈ prefixes component := by simp [hsplit]
  refine ⟨p, mem_prefixes_iff.1 hmem, hp, fun q hq hlt => ?_⟩
  have hqmem : q ∈ longer ++ p :: shorter := hsplit ▸ mem_prefixes_iff.2 hq
  have hpairwise := pairwise_prefixes component
  rw [hsplit, List.pairwise_append, List.pairwise_cons] at hpairwise
  rcases List.mem_append.1 hqmem with hq | hq
  · exact hnone q hq
  · rcases List.mem_cons.1 hq with rfl | hq
    · exact absurd hlt (lt_irrefl _)
    · exact absurd (hpairwise.2.1.1 q hq) (not_le.2 hlt)

theorem exists_findSome?_of_isDottedPrefix (hp : IsDottedPrefix p component)
    (hset : look p = some level) : ∃ level', (prefixes component).findSome? look = some level' := by
  rw [← Option.isSome_iff_exists, List.findSome?_isSome_iff]
  exact ⟨p, mem_prefixes_iff.2 hp, by rw [hset]; rfl⟩

theorem findSome?_prefixes_iff :
    (prefixes component).findSome? look = some level ↔ ∃ p, Governs look component p level := by
  refine ⟨exists_governs_of_findSome?, fun ⟨p, h⟩ => ?_⟩
  obtain ⟨level', hlevel'⟩ := exists_findSome?_of_isDottedPrefix h.isDottedPrefix h.level
  obtain ⟨q, h'⟩ := exists_governs_of_findSome? hlevel'
  rw [hlevel', (h.unique h').2]

/-- With a level for the top there is always a longest prefix that has one. -/
theorem exists_governs (h : look [] = some level) (component : Text) :
    ∃ p level, Governs look component p level := by
  obtain ⟨level', hlevel'⟩ := exists_findSome?_of_isDottedPrefix (.inl rfl) h
  obtain ⟨p, hp⟩ := exists_governs_of_findSome? hlevel'
  exact ⟨p, level', hp⟩

/-- Components that were not met, and those without a level, are passed over. -/
theorem find?_ownLevel_filter {ps : List Text} {keep : Text → Bool}
    (hkeep : ∀ p ∈ ps, keep p = false → r.levels.lookup p = none)
    (hset : ∀ p level, r.levels.lookup p = some level → level.value ≠ 0) :
    (((ps.filter keep).map r.ownLevel).find? fun level => level.value != 0) =
      ps.findSome? fun p => r.levels.lookup p := by
  induction ps with
  | nil => rfl
  | cons p ps ih =>
    have ih := ih fun q hq => hkeep q (List.mem_cons_of_mem _ hq)
    cases hp : r.levels.lookup p with
    | none =>
      have hown : r.ownLevel p = unsetLevel := by rw [ownLevel, hp]; rfl
      rw [List.findSome?_cons_of_isNone (by simp [hp]), List.filter_cons]
      split
      · rw [List.map_cons, hown, List.find?_cons_of_neg (by decide), ih]
      · exact ih
    | some level =>
      have hkept : keep p = true := by
        by_contra hno
        cases (hkeep p List.mem_cons_self (by simpa using hno)).symm.trans hp
      have hown : r.ownLevel p = level := by rw [ownLevel, hp]; rfl
      rw [List.findSome?_cons_of_isSome (by simp [hp]), hp, List.filter_cons_of_pos hkept,
        List.map_cons, hown, List.find?_cons_of_pos (by simpa using hset p level hp)]

/-- The level that counts for a component is that of its longest dotted prefix that has one. -/
theorem effectiveLevel_eq (h : IsDotted component)
    (hmet : ∀ p level, r.levels.lookup p = some level → p = [] ∨ p ∈ r.known)
    (hset : ∀ p level, r.levels.lookup p = some level → level.value ≠ 0) :
    r.effectiveLevel component =
      ((prefixes component).findSome? fun p => r.levels.lookup p).getD baseLevel := by
  rw [effectiveLevel, ancestors_eq h, find?_ownLevel_filter (fun p _ hp => ?_) hset]
  by_contra hno
  obtain ⟨level, hlevel⟩ := Option.ne_none_iff_exists'.1 hno
  have hmem := hmet p level hlevel
  simp [hmem] at hp

end MemberAddress.Registry
