import MemberAddress.Proofs.Inheritance

/-!
# Logging over a run of calls

Any number of calls configure the logging, set levels and silence it, and between them components ask
whether records are let through, the answers to which are kept. What comes of it can be read off the
calls: the level that was set last for each component, and the handler that was installed last.

* `LogCall` are the calls, `Registry.step` is what one of them does and `Registry.run` what all of
  them do;
* `ReflectsLevels` and `ReflectsHandlers` say that a registry is what calls make of it; each call
  keeps them, and so does a run;
* `Registry.reaches_run_iff` says which records reach which handler. A format that is refused is the
  one thing that goes wrong: the earlier handler is gone by then, and none comes in its place.
-/

namespace MemberAddress

/-! ### Calls -/

/-- What a registry is asked for, in the order of time. A component that is about to log asks
whether a record at a level is let through. -/
inductive LogCall
  | configure (level : Value) (id : Nat) (format : Value)
  | setLevel (component : Text) (level : Value)
  | disable
  | consult (component : Text) (level : Int)

namespace LogCall

variable {call : LogCall} {calls : List LogCall} {h : Handler} {component c : Text}
  {level : Whole}

/-- The level that is given with a call. -/
def givenLevel? : LogCall → Option Value
  | configure level _ _ => some level
  | setLevel _ level => some level
  | disable => none
  | consult _ _ => none

/-- Levels are given as texts, known names or not, or as positive numbers. -/
def IsProper (call : LogCall) : Prop :=
  ∀ v, call.givenLevel? = some v → (∃ t, v = .text t) ∨ ∃ n, v.toInt? = some n ∧ 0 < n

/-- The component whose level a call sets, and the level. -/
def sets? : LogCall → Option (Text × Whole)
  | configure v _ _ => (readLevel v).toOption.map fun level => ([], level)
  | setLevel component v => (readLevel v).toOption.map fun level => (component, level)
  | disable => some ([], .number (Severity.critical.level + 1))
  | consult _ _ => none

/-- The handler that a call installs. -/
def installs? : LogCall → Option Handler
  | configure v id format =>
    match readLevel v, Format.read format with
    | .ok _, .ok format => some ⟨id, format⟩
    | _, _ => none
  | _ => none

/-- The level is one, but the format is none: there is no handler to be put in the place of the
earlier one. -/
def TakesAway : LogCall → Prop
  | configure v _ format => (∃ level, readLevel v = .ok level) ∧ ∃ e, Format.read format = .error e
  | _ => False

/-- The level that was set last for a component. -/
def lastSet (calls : List LogCall) (component : Text) : Option Whole :=
  (calls.filterMap sets?).reverse.lookup component

/-- The handler that was installed last. -/
def lastInstalled (calls : List LogCall) : Option Handler := (calls.filterMap installs?).getLast?

/-- A handler was taken away, and none was installed since. -/
def LosesHandler (calls : List LogCall) : Prop :=
  ∃ before call after, calls = before ++ call :: after ∧ call.TakesAway ∧
    ∀ later ∈ after, later.installs? = none

theorem lastSet_snoc : lastSet (calls ++ [call]) component =
    match call.sets? with
    | some (c, level) => if component = c then some level else lastSet calls component
    | none => lastSet calls component := by
  unfold lastSet
  cases hsets : call.sets? with
  | none => simp [hsets]
  | some set =>
    obtain ⟨c, level⟩ := set
    rw [List.filterMap_append, List.reverse_append]
    simp only [List.filterMap_cons, hsets, List.filterMap_nil, List.reverse_singleton,
      List.singleton_append, List.lookup_cons]
    by_cases hc : component = c
    · simp [hc]
    · simp [beq_false_of_ne hc, hc]

theorem lastInstalled_snoc :
    lastInstalled (calls ++ [call]) = call.installs?.or (lastInstalled calls) := by
  unfold lastInstalled
  cases hinstalls : call.installs? <;> simp [hinstalls]

theorem TakesAway.installs?_eq_none (h : call.TakesAway) : call.installs? = none := by
  cases call with
  | configure v id format =>
    obtain ⟨⟨level, hlevel⟩, e, he⟩ := h
    simp only [installs?, hlevel, he]
  | setLevel | disable | consult => cases h

theorem losesHandler_snoc : LosesHandler (calls ++ [call]) ↔
    call.TakesAway ∨ LosesHandler calls ∧ call.installs? = none := by
  constructor
  · rintro ⟨before, taker, after, hsplit, htakes, hafter⟩
    induction after using List.reverseRecOn with
    | nil =>
      obtain ⟨-, htaker⟩ := List.append_inj' hsplit rfl
      cases htaker
      exact .inl htakes
    | append_singleton after last _ =>
      rw [← List.cons_append, ← List.append_assoc] at hsplit
      obtain ⟨rfl, hlast⟩ := List.append_inj' hsplit rfl
      cases hlast
      exact .inr ⟨⟨before, taker, after, rfl, htakes, fun later hlater =>
        hafter later (List.mem_append_left _ hlater)⟩, hafter call (by simp)⟩
  · rintro (htakes | ⟨⟨before, taker, after, rfl, htakes, hafter⟩, hnone⟩)
    · exact ⟨calls, call, [], rfl, htakes, nofun⟩
    · refine ⟨before, taker, after ++ [call], by simp, htakes, fun later hlater => ?_⟩
      rcases List.mem_append.1 hlater with hlater | hlater
      · exact hafter later hlater
      · rw [List.mem_singleton.1 hlater, hnone]

theorem map_toOption_eq_some_iff {α β : Type} {x : Except Fault α} {f : α → β} {b : β} :
    x.toOption.map f = some b ↔ ∃ a, x = .ok a ∧ f a = b := by
  cases x <;> simp [Except.toOption]

theorem map_toOption_eq_none_iff {α β : Type} {x : Except Fault α} {f : α → β} :
    x.toOption.map f = none ↔ ∃ e, x = .error e := by
  cases x <;> simp [Except.toOption]

theorem not_losesHandler (h : ∀ call ∈ calls, ¬ call.TakesAway) : ¬ LosesHandler calls := by
  rintro ⟨before, call, after, rfl, htakes, -⟩
  exact h call (by simp) htakes

/-- A level that is set is one that was given and read, or the one that silences. -/
theorem level_of_sets? (h : call.sets? = some (c, level)) :
    (∃ v, call.givenLevel? = some v ∧ readLevel v = .ok level) ∨
      level = .number (Severity.critical.level + 1) := by
  cases call with
  | configure v id format =>
    obtain ⟨level', hlevel, hset⟩ := map_toOption_eq_some_iff.1 h
    cases hset
    exact .inl ⟨v, rfl, hlevel⟩
  | setLevel component v =>
    obtain ⟨level', hlevel, hset⟩ := map_toOption_eq_some_iff.1 h
    cases hset
    exact .inl ⟨v, rfl, hlevel⟩
  | disable =>
    cases h
    exact .inr rfl
  | consult component l => cases h

/-- A level that is properly given is positive. -/
theorem IsProper.pos_of_sets? (hproper : call.IsProper) (h : call.sets? = some (c, level)) :
    0 < level.value := by
  rcases level_of_sets? h with ⟨v, hv, hread⟩ | rfl
  · rcases hproper v hv with ⟨t, rfl⟩ | ⟨n, hn, hpos⟩
    · simp only [readLevel] at hread
      split at hread
      · next severity _ =>
        cases hread
        cases severity <;> decide
      · cases hread
    · cases v with
      | whole m => cases hread; cases hn; exact hpos
      | flag b => cases hread; cases hn; exact hpos
      | _ => cases hn
  · decide

end LogCall

namespace Registry

open LogCall

variable {r : Registry} {call : LogCall} {calls : List LogCall} {h k : Handler}
  {component c p : Text} {level : Whole}

/-- What one call does, and its answer. -/
def step (r : Registry) : LogCall → Registry × Except Fault Unit
  | .configure v id format => r.configureFormat v id format
  | .setLevel component v => r.setLevel component v
  | .disable => (r.disable, .ok ())
  | .consult component level => (r.consult component level, .ok ())

/-- What calls do one after the other, whatever their answers are. -/
def run (r : Registry) (calls : List LogCall) : Registry :=
  calls.foldl (fun r call => (r.step call).1) r

theorem run_snoc : r.run (calls ++ [call]) = ((r.run calls).step call).1 := by
  rw [run, List.foldl_append]
  rfl

/-! ### What one call does -/

@[simp] theorem levels_meet : (r.meet c).levels = r.levels := by
  unfold meet
  split <;> rfl

@[simp] theorem decided_meet : (r.meet c).decided = r.decided := by
  unfold meet
  split <;> rfl

@[simp] theorem handlers_meet : (r.meet c).handlers = r.handlers := by
  unfold meet
  split <;> rfl

@[simp] theorem installed_meet : (r.meet c).installed = r.installed := by
  unfold meet
  split <;> rfl

theorem known_subset_meet : r.known ⊆ (r.meet c).known := by
  unfold meet
  split
  · exact List.Subset.refl _
  · exact List.subset_cons_self _ _

theorem mem_known_meet : c = [] ∨ c ∈ (r.meet c).known := by
  unfold meet
  split
  · assumption
  · exact .inr List.mem_cons_self

theorem lookup_filter_ne (levels : List (Text × Whole)) (hp : p ≠ c) :
    (levels.filter fun entry => entry.1 != c).lookup p = levels.lookup p := by
  induction levels with
  | nil => rfl
  | cons entry levels ih =>
    obtain ⟨q, level⟩ := entry
    by_cases hq : q = c
    · rw [List.filter_cons_of_neg (by simp [hq]), ih, List.lookup_cons,
        beq_false_of_ne (hq ▸ hp)]
    · rw [List.filter_cons_of_pos (by simpa using hq), List.lookup_cons, List.lookup_cons, ih]

theorem lookup_putLevel :
    (r.putLevel c level).levels.lookup p = if p = c then some level else r.levels.lookup p := by
  show List.lookup p ((c, level) :: r.levels.filter fun entry => entry.1 != c) = _
  rw [List.lookup_cons]
  by_cases hp : p = c
  · simp [hp]
  · rw [beq_false_of_ne hp, if_neg hp, lookup_filter_ne _ hp]

/-- A call that sets a level sets it, and touches the handlers at most. -/
theorem step_of_sets? (h : call.sets? = some (c, level)) : ∃ handlers installed,
    (r.step call).1 = { r.putLevel c level with handlers := handlers, installed := installed } := by
  cases call with
  | configure v id format =>
    obtain ⟨level', hlevel, hset⟩ := map_toOption_eq_some_iff.1 h
    cases hset
    simp only [step, configureFormat, configure, hlevel]
    split <;> exact ⟨_, _, rfl⟩
  | setLevel component v =>
    obtain ⟨level', hlevel, hset⟩ := map_toOption_eq_some_iff.1 h
    cases hset
    simp only [step, setLevel, hlevel]
    exact ⟨_, _, rfl⟩
  | disable =>
    cases h
    exact ⟨_, _, rfl⟩
  | consult component l => cases h

/-- A call that sets no level leaves the levels and the handlers as they are. A component may be met
by it, and an answer kept. -/
theorem step_of_sets?_eq_none (h : call.sets? = none) :
    (r.step call).1.levels = r.levels ∧ (r.step call).1.handlers = r.handlers ∧
      (r.step call).1.installed = r.installed ∧ r.known ⊆ (r.step call).1.known ∧
      ((r.step call).1.decided = r.decided ∨ ∃ component level,
        (r.step call).1.decided =
          ((component, level), r.isEnabled component level) :: r.decided) := by
  cases call with
  | configure v id format =>
    obtain ⟨e, he⟩ := map_toOption_eq_none_iff.1 h
    have hstep : (r.step (.configure v id format)).1 = r := by
      simp only [step, configureFormat, configure, he]
      split <;> rfl
    rw [hstep]
    exact ⟨rfl, rfl, rfl, List.Subset.refl _, .inl rfl⟩
  | setLevel component v =>
    obtain ⟨e, he⟩ := map_toOption_eq_none_iff.1 h
    have hstep : (r.step (.setLevel component v)).1 = r.meet component := by
      simp only [step, setLevel, he]
    rw [hstep]
    exact ⟨levels_meet, handlers_meet, installed_meet, known_subset_meet, .inl decided_meet⟩
  | disable => cases h
  | consult component l =>
    exact ⟨levels_meet, handlers_meet, installed_meet, known_subset_meet,
      .inr ⟨component, l, rfl⟩⟩

/-- A call that installs a handler puts it in the place of the earlier one. -/
theorem step_of_installs? (h : call.installs? = some k) :
    (r.step call).1.installed = some k ∧ (r.step call).1.handlers =
      if k ∈ r.withoutInstalled then r.withoutInstalled else r.withoutInstalled ++ [k] := by
  cases call with
  | configure v id format =>
    simp only [installs?] at h
    split at h
    · next level format' hlevel hformat =>
      cases h
      constructor <;> simp only [step, configureFormat, configure, hlevel, hformat]
    · cases h
  | setLevel | disable | consult => cases h

/-- Just the calls that succeed in configuring install a handler. -/
theorem step_configure_ok_iff {v : Value} {id : Nat} {format : Value} :
    (r.step (.configure v id format)).2 = .ok () ↔
      ∃ k, (LogCall.configure v id format).installs? = some k ∧ k.id = id := by
  simp only [step, configureFormat, configure, installs?]
  cases readLevel v <;> cases Format.read format <;> simp

/-- With a format that is refused the earlier handler is gone all the same. -/
theorem handlers_step_of_takesAway (h : call.TakesAway) :
    (r.step call).1.handlers = r.withoutInstalled := by
  cases call with
  | configure v id format =>
    obtain ⟨⟨level, hlevel⟩, e, he⟩ := h
    simp only [step, configureFormat, he, hlevel]
  | setLevel | disable | consult => cases h

theorem step_of_not_takesAway (h : ¬ call.TakesAway) (hnone : call.installs? = none) :
    (r.step call).1.handlers = r.handlers ∧ (r.step call).1.installed = r.installed := by
  cases hsets : call.sets? with
  | none =>
    obtain ⟨-, hhandlers, hinstalled, -⟩ := step_of_sets?_eq_none (r := r) hsets
    exact ⟨hhandlers, hinstalled⟩
  | some set =>
    cases call with
    | configure v id format =>
      obtain ⟨level, hlevel, -⟩ := map_toOption_eq_some_iff.1 hsets
      cases hformat : Format.read format with
      | error e => exact absurd ⟨⟨level, hlevel⟩, e, hformat⟩ h
      | ok format' => simp only [installs?, hlevel, hformat, reduceCtorEq] at hnone
    | setLevel component v =>
      obtain ⟨level, hlevel, -⟩ := map_toOption_eq_some_iff.1 hsets
      simp only [step, setLevel, hlevel]
      exact ⟨handlers_meet, installed_meet⟩
    | disable => exact ⟨handlers_meet, installed_meet⟩
    | consult component l => cases hsets

/-! ### What calls make of the levels -/

/-- Whether levels let records of a component at a level through. -/
def letsThrough (look : Text → Option Whole) (component : Text) (level : Int) : Bool :=
  0 < level && (((prefixes component).findSome? look).getD baseLevel).value ≤ level

/-- A registry has the levels that calls have set, and what was decided is what these levels
decide. -/
structure ReflectsLevels (r : Registry) (calls : List LogCall) : Prop where
  levels : ∀ c, r.levels.lookup c = lastSet calls c
  met : ∀ c level, lastSet calls c = some level → c = [] ∨ c ∈ r.known
  pos : ∀ c level, lastSet calls c = some level → 0 < level.value
  decided : ∀ c, IsDotted c → ∀ level allowed, r.decided.lookup (c, level) = some allowed →
    allowed = letsThrough (lastSet calls) c level

theorem ReflectsLevels.allows_eq (hr : ReflectsLevels r calls) (hdotted : IsDotted c) (l : Int) :
    r.allows c l = letsThrough (lastSet calls) c l := by
  have heffective := effectiveLevel_eq (r := r) hdotted
    (fun p level hp => hr.met p level (hr.levels p ▸ hp))
    (fun p level hp => (hr.pos p level (hr.levels p ▸ hp)).ne')
  have hlook : (fun p => r.levels.lookup p) = lastSet calls := funext hr.levels
  rw [allows, heffective, hlook, letsThrough]

/-- What was decided before makes no difference. -/
theorem ReflectsLevels.isEnabled_eq (hr : ReflectsLevels r calls) (hdotted : IsDotted c) (l : Int) :
    r.isEnabled c l = letsThrough (lastSet calls) c l := by
  unfold isEnabled
  cases hdecided : r.decided.lookup (c, l) with
  | none => exact hr.allows_eq hdotted l
  | some allowed => exact hr.decided c hdotted l allowed hdecided

theorem reflectsLevels_empty : ReflectsLevels empty [] where
  levels _ := rfl
  met _ _ h := by cases h
  pos _ _ h := by cases h
  decided _ _ _ _ h := by cases h

theorem ReflectsLevels.step (hr : ReflectsLevels r calls) (hproper : call.IsProper) :
    ReflectsLevels (r.step call).1 (calls ++ [call]) := by
  cases hsets : call.sets? with
  | none =>
    have hlast : lastSet (calls ++ [call]) = lastSet calls := by
      funext c
      rw [lastSet_snoc, hsets]
    obtain ⟨hlevels, -, -, hknown, hdecided⟩ := step_of_sets?_eq_none (r := r) hsets
    constructor <;> rw [hlast]
    case levels =>
      rw [hlevels]
      exact hr.levels
    case met => exact fun c level h => (hr.met c level h).imp_right (@hknown c)
    case pos => exact hr.pos
    case decided =>
      intro c hdotted l allowed h
      rcases hdecided with hdecided | ⟨component, level, hdecided⟩
      · exact hr.decided c hdotted l allowed (hdecided ▸ h)
      · rw [hdecided, List.lookup_cons] at h
        split at h
        · -- the answer that was given just now
          next heq =>
          obtain ⟨rfl, rfl⟩ := Prod.mk.inj (eq_of_beq heq)
          rw [← Option.some.inj h]
          exact hr.isEnabled_eq hdotted l
        · exact hr.decided c hdotted l allowed h
  | some set =>
    obtain ⟨c, level⟩ := set
    have hlast : ∀ p, lastSet (calls ++ [call]) p =
        if p = c then some level else lastSet calls p := by
      intro p
      rw [lastSet_snoc, hsets]
    obtain ⟨handlers, installed, hstep⟩ := step_of_sets? (r := r) hsets
    rw [hstep]
    constructor
    case levels =>
      intro p
      rw [hlast, ← hr.levels]
      exact lookup_putLevel
    case met =>
      intro p level' h
      rw [hlast] at h
      split at h
      · next hp => exact hp ▸ mem_known_meet
      · exact (hr.met p level' h).imp_right (@known_subset_meet r c p)
    case pos =>
      intro p level' h
      rw [hlast] at h
      split at h
      · cases h
        exact hproper.pos_of_sets? hsets
      · exact hr.pos p level' h
    case decided =>
      -- nothing is decided any more
      intro p _ l allowed h
      cases h

theorem reflectsLevels_run (hproper : ∀ call ∈ calls, call.IsProper) :
    ReflectsLevels (empty.run calls) calls := by
  induction calls using List.reverseRecOn with
  | nil => exact reflectsLevels_empty
  | append_singleton calls call ih =>
    rw [run_snoc]
    exact (ih fun c hc => hproper c (List.mem_append_left _ hc)).step (hproper call (by simp))

/-! ### What calls make of the handlers -/

/-- A registry has the handler that calls have installed last, unless they have lost it. -/
structure ReflectsHandlers (r : Registry) (calls : List LogCall) : Prop where
  own : ∀ k ∈ r.handlers, r.installed = some k
  lost : LosesHandler calls → r.handlers = []
  kept : ¬ LosesHandler calls → r.handlers = (lastInstalled calls).toList

theorem ReflectsHandlers.withoutInstalled_eq_nil (hr : ReflectsHandlers r calls) :
    r.withoutInstalled = [] := by
  have hhandlers : r.handlers = [] ∨ ∃ k, r.handlers = [k] := by
    by_cases hloses : LosesHandler calls
    · exact .inl (hr.lost hloses)
    · rw [hr.kept hloses]
      cases lastInstalled calls with
      | none => exact .inl rfl
      | some k => exact .inr ⟨k, rfl⟩
  unfold withoutInstalled
  rcases hhandlers with hnil | ⟨k, hk⟩
  · rw [hnil]
    split <;> rfl
  · rw [hr.own k (by simp [hk]), hk]
    simp

theorem reflectsHandlers_empty : ReflectsHandlers empty [] where
  own _ h := by cases h
  lost _ := rfl
  kept _ := rfl

theorem ReflectsHandlers.step (hr : ReflectsHandlers r calls) (call : LogCall) :
    ReflectsHandlers (r.step call).1 (calls ++ [call]) := by
  have hnil := hr.withoutInstalled_eq_nil
  cases hinstalls : call.installs? with
  | some k =>
    obtain ⟨hinstalled, hhandlers⟩ := step_of_installs? (r := r) hinstalls
    rw [hnil, if_neg List.not_mem_nil] at hhandlers
    have hkept : ¬ LosesHandler (calls ++ [call]) := by
      rw [losesHandler_snoc]
      rintro (htakes | ⟨-, hnone⟩)
      · cases htakes.installs?_eq_none.symm.trans hinstalls
      · cases hnone.symm.trans hinstalls
    constructor
    case own =>
      intro k' hk'
      rw [hhandlers, List.nil_append, List.mem_singleton] at hk'
      rw [hinstalled, hk']
    case lost => exact fun hloses => absurd hloses hkept
    case kept =>
      intro _
      rw [hhandlers, lastInstalled_snoc, hinstalls]
      rfl
  | none =>
    by_cases htakes : call.TakesAway
    · have hhandlers := handlers_step_of_takesAway (r := r) htakes
      rw [hnil] at hhandlers
      constructor
      case own =>
        intro k' hk'
        rw [hhandlers] at hk'
        cases hk'
      case lost => exact fun _ => hhandlers
      case kept => exact fun hkept => absurd (losesHandler_snoc.2 (.inl htakes)) hkept
    · obtain ⟨hhandlers, hinstalled⟩ := step_of_not_takesAway (r := r) htakes hinstalls
      have hloses : LosesHandler (calls ++ [call]) ↔ LosesHandler calls := by
        simp [losesHandler_snoc, htakes, hinstalls]
      constructor
      case own =>
        rw [hhandlers, hinstalled]
        exact hr.own
      case lost =>
        rw [hhandlers, hloses]
        exact hr.lost
      case kept =>
        rw [hhandlers, hloses, lastInstalled_snoc, hinstalls, Option.none_or]
        exact hr.kept

theorem reflectsHandlers_run (calls : List LogCall) :
    ReflectsHandlers (empty.run calls) calls := by
  induction calls using List.reverseRecOn with
  | nil => exact reflectsHandlers_empty
  | append_singleton calls call ih =>
    rw [run_snoc]
    exact ih.step call

/-! ### Faults -/

theorem errorClass?_of_refused {v : Value} {e : Fault} (h : Format.read v = .error e) :
    e.errorClass? = none := by
  unfold Format.read at h
  split at h
  · split at h
    · split at h
      · cases h
      · cases h
        rfl
    · cases h
      rfl
  · cases h

/-- An unknown level changes no level and no handler. -/
theorem step_of_configuration_fault {e : Fault} (h : (r.step call).2 = .error e)
    (hclass : e.errorClass? = some .configuration) :
    (r.step call).1.levels = r.levels ∧ (r.step call).1.handlers = r.handlers ∧
      (r.step call).1.installed = r.installed := by
  have hsets : call.sets? = none := by
    cases call with
    | configure v id format =>
      rw [sets?, map_toOption_eq_none_iff]
      by_contra hno
      cases hlevel : readLevel v with
      | error e => exact hno ⟨e, hlevel⟩
      | ok level =>
        -- the fault then is that of the format, which is none of the library
        simp only [step, configureFormat, configure, hlevel] at h
        split at h
        · cases h
        · next hformat =>
          cases h
          cases (errorClass?_of_refused hformat).symm.trans hclass
    | setLevel component v =>
      rw [sets?, map_toOption_eq_none_iff]
      cases hlevel : readLevel v with
      | error e => exact ⟨e, rfl⟩
      | ok level =>
        simp only [step, setLevel, hlevel] at h
        cases h
    | disable => cases h
    | consult component l => rfl
  obtain ⟨hlevels, hhandlers, hinstalled, -⟩ := step_of_sets?_eq_none (r := r) hsets
  exact ⟨hlevels, hhandlers, hinstalled⟩

/-! ### Records on their way -/

/-- A record is handed to a handler: it is let through, the way up from its component leads to the
top, and the handler is one of the top. -/
def Reaches (r : Registry) (record : Record) (k : Handler) : Prop :=
  r.isEnabled record.component record.level.value = true ∧ [] ∈ r.ancestors record.component ∧
    k ∈ r.handlers

/-- What is written is what the handlers that a record reaches make of it. -/
theorem mem_emit_iff {time : Text} {record : Record} {id : Nat} {t : Text} :
    (id, t) ∈ r.emit time record ↔
      ∃ k, r.Reaches record k ∧ k.id = id ∧ k.format.write? time record = some t := by
  unfold emit Reaches
  split
  · next h =>
    rw [Bool.and_eq_true, List.contains_iff_mem] at h
    simp only [h, List.mem_filterMap, Option.map_eq_some_iff, Prod.mk.injEq, true_and]
    constructor
    · rintro ⟨k, hk, t', ht', rfl, rfl⟩
      exact ⟨k, hk, rfl, ht'⟩
    · rintro ⟨k, hk, rfl, ht⟩
      exact ⟨k, hk, t, ht, rfl, rfl⟩
  · next h =>
    rw [Bool.and_eq_true, List.contains_iff_mem] at h
    simp only [List.not_mem_nil, false_iff]
    rintro ⟨k, ⟨hlets, htop, -⟩, -⟩
    exact h ⟨hlets, htop⟩

/-- The level of the longest prefix decides. -/
theorem letsThrough_iff {look : Text → Option Whole} {l : Int} (h : Governs look component p level)
    (hpos : 0 < level.value) : letsThrough look component l = true ↔ level.value ≤ l := by
  rw [letsThrough, findSome?_prefixes_iff.2 ⟨p, h⟩, Option.getD_some, Bool.and_eq_true,
    decide_eq_true_iff, decide_eq_true_iff]
  exact ⟨And.right, fun hle => ⟨lt_of_lt_of_le hpos hle, hle⟩⟩

theorem ReflectsLevels.reaches_iff {record : Record} (hr : ReflectsLevels r calls)
    (hdotted : IsDotted record.component) (h : Governs (lastSet calls) record.component p level) :
    r.Reaches record k ↔ k ∈ r.handlers ∧ level.value ≤ record.level.value := by
  rw [Reaches, hr.isEnabled_eq hdotted, letsThrough_iff h (hr.pos p level h.level),
    and_iff_right (nil_mem_ancestors hdotted)]
  exact and_comm

/-! ### Silencing -/

/-- A component has a level of its own, or one from a component above it below the top. -/
def HasLevel (calls : List LogCall) (component : Text) : Prop :=
  ∃ p, p ≠ [] ∧ IsDottedPrefix p component ∧ lastSet calls p ≠ none

theorem lastSet_disable : lastSet (calls ++ [.disable]) p =
    if p = [] then some (.number (Severity.critical.level + 1)) else lastSet calls p :=
  lastSet_snoc

/-- Without a level of its own or from above, a component is governed by the silence of the top. -/
theorem governs_disable_of_not_hasLevel (h : ¬ HasLevel calls component) :
    Governs (lastSet (calls ++ [.disable])) component []
      (.number (Severity.critical.level + 1)) where
  isDottedPrefix := .inl rfl
  level := by rw [lastSet_disable, if_pos rfl]
  longest q hq hlonger := by
    have hne : q ≠ [] := List.ne_nil_of_length_pos hlonger
    rw [lastSet_disable, if_neg hne]
    by_contra hset
    exact h ⟨q, hne, hq, hset⟩

/-- A component with a level of its own or from above is governed by it as before. -/
theorem governs_disable_of_hasLevel (hlevel : HasLevel calls component)
    (h : Governs (lastSet calls) component p level) :
    Governs (lastSet (calls ++ [.disable])) component p level := by
  obtain ⟨q, hq, hqprefix, hqset⟩ := hlevel
  have hp : p ≠ [] := by
    rintro rfl
    exact hqset (h.longest q hqprefix (List.length_pos_iff.2 hq))
  refine ⟨h.isDottedPrefix, by rw [lastSet_disable, if_neg hp, h.level], fun p' hp' hlonger => ?_⟩
  rw [lastSet_disable, if_neg (List.ne_nil_of_length_pos (Nat.zero_lt_of_lt hlonger))]
  exact h.longest p' hp' hlonger

theorem ReflectsLevels.disable (hr : ReflectsLevels r calls) :
    ReflectsLevels r.disable (calls ++ [.disable]) :=
  have hproper : LogCall.disable.IsProper := fun v hv => by cases hv
  hr.step hproper

/-! ### Whole runs -/

theorem exists_lastSet_top (h : lastInstalled calls = some k) :
    ∃ level, lastSet calls [] = some level := by
  obtain ⟨call, hcall, hinstalls⟩ := List.mem_filterMap.1 (List.mem_of_getLast? h)
  have hset : ∃ level, call.sets? = some ([], level) := by
    cases call with
    | configure v id format =>
      simp only [installs?] at hinstalls
      split at hinstalls
      · next level _ hlevel _ =>
        exact ⟨level, map_toOption_eq_some_iff.2 ⟨level, hlevel, rfl⟩⟩
      · cases hinstalls
    | setLevel | disable | consult => cases hinstalls
  obtain ⟨level, hlevel⟩ := hset
  refine Option.isSome_iff_exists.1 (List.lookup_isSome_iff.2 ?_)
  exact ⟨_, List.mem_reverse.2 (List.mem_filterMap.2 ⟨call, hcall, hlevel⟩), beq_self_eq_true _⟩

/-- After a run in which some handler was installed, the handler of the last call that succeeded is
the only one, unless a call with a refused format came later: then there is none. A call that fails
for its level changes nothing. A record reaches the handler if its level is at least that of the
longest prefix that has one. Silence changes nothing for components with a level of their own or from
above, and no record of the others gets through up to the highest named level. -/
theorem reaches_run_iff (hproper : ∀ call ∈ calls, call.IsProper)
    (hlast : lastInstalled calls = some h) :
    ((empty.run calls).handlers = [h] ↔ ¬ LosesHandler calls) ∧
    (LosesHandler calls → (empty.run calls).handlers = []) ∧
    (∀ (r : Registry) v id format, (r.step (.configure v id format)).2 = .ok () ↔
      ∃ k, (LogCall.configure v id format).installs? = some k ∧ k.id = id) ∧
    (∀ (r : Registry) (call : LogCall) (e : Fault), (r.step call).2 = .error e →
      e.errorClass? = some .configuration →
        (r.step call).1.levels = r.levels ∧ (r.step call).1.handlers = r.handlers ∧
          (r.step call).1.installed = r.installed) ∧
    (∀ time record id t, (id, t) ∈ (empty.run calls).emit time record ↔
      ∃ k, (empty.run calls).Reaches record k ∧ k.id = id ∧
        k.format.write? time record = some t) ∧
    ∀ component, IsDotted component →
      (∃ p level, Governs (lastSet calls) component p level ∧
        ∀ record k, record.component = component →
          ((empty.run calls).Reaches record k ↔
            k ∈ (empty.run calls).handlers ∧ level.value ≤ record.level.value)) ∧
      (HasLevel calls component → ∀ record k, record.component = component →
        ((empty.run calls).disable.Reaches record k ↔ (empty.run calls).Reaches record k)) ∧
      (¬ HasLevel calls component → ∀ record k, record.component = component →
        ((empty.run calls).disable.Reaches record k ↔
          k ∈ (empty.run calls).handlers ∧ Severity.critical.level < record.level.value)) := by
  have hlevels := reflectsLevels_run hproper
  have hhandlers := reflectsHandlers_run calls
  obtain ⟨top, htop⟩ := exists_lastSet_top hlast
  have hsame : (empty.run calls).disable.handlers = (empty.run calls).handlers := handlers_meet
  refine ⟨⟨?_, ?_⟩, hhandlers.lost, fun r v id format => step_configure_ok_iff,
    fun r call e => step_of_configuration_fault, fun time record id t => mem_emit_iff,
    fun component hdotted => ⟨?_, ?_, ?_⟩⟩
  · intro hone hloses
    rw [hhandlers.lost hloses] at hone
    cases hone
  · intro hkept
    rw [hhandlers.kept hkept, hlast]
    rfl
  · obtain ⟨p, level, hgoverns⟩ := exists_governs htop component
    refine ⟨p, level, hgoverns, ?_⟩
    rintro record k rfl
    exact hlevels.reaches_iff hdotted hgoverns
  · rintro hlevel record k rfl
    obtain ⟨p, level, hgoverns⟩ := exists_governs htop record.component
    rw [hlevels.reaches_iff hdotted hgoverns,
      hlevels.disable.reaches_iff hdotted (governs_disable_of_hasLevel hlevel hgoverns), hsame]
  · rintro hlevel record k rfl
    rw [hlevels.disable.reaches_iff hdotted (governs_disable_of_not_hasLevel hlevel), hsame]
    exact and_congr_right fun _ => Int.add_one_le_iff

/-- Names and numbers, known and unknown, with a format that is accepted. -/
theorem reaches_run_iff_silenced :
    (empty.run [.configure (.text "info".toList) 0 (.text "%(message)s".toList),
      .setLevel "network".toList (.whole 10), .consult "network.resolver".toList 10,
      .configure (.text "loud".toList) 1 .null, .disable]).handlers =
      [⟨0, Format.ofText "%(message)s".toList⟩] := by
  refine (reaches_run_iff ?_ rfl).1.2 (not_losesHandler ?_)
  · intro call hcall v hv
    simp only [List.mem_cons, List.not_mem_nil, or_false] at hcall
    rcases hcall with rfl | rfl | rfl | rfl | rfl <;> cases hv
    · exact .inl ⟨_, rfl⟩
    · exact .inr ⟨10, rfl, by decide⟩
    · exact .inl ⟨_, rfl⟩
  · intro call hcall
    simp only [List.mem_cons, List.not_mem_nil, or_false] at hcall
    rcases hcall with rfl | rfl | rfl | rfl | rfl
    · rintro ⟨-, e, he⟩
      cases (show Format.read _ = .ok (Format.ofText "%(message)s".toList) from rfl).symm.trans he
    · exact id
    · exact id
    · rintro ⟨⟨level, hlevel⟩, -⟩
      cases (show readLevel _ = .error (.unknownLevel "loud".toList) from rfl).symm.trans hlevel
    · exact id

/-- A call with a format that is refused leaves no handler at all, although an earlier call had
installed one. -/
theorem not_handlers_eq_lastInstalled : ¬ ∀ (calls : List LogCall) (h : Handler),
    (∀ call ∈ calls, call.IsProper) → lastInstalled calls = some h →
      (empty.run calls).handlers = [h] := by
  intro hall
  have hone := hall [.configure (.text "info".toList) 0 (.text "%(message)s".toList),
    .configure (.text "info".toList) 1 (.text "plain".toList)] _ (fun call hcall v hv => ?_) rfl
  · cases hone
  · simp only [List.mem_cons, List.not_mem_nil, or_false] at hcall
    rcases hcall with rfl | rfl <;> cases hv <;> exact .inl ⟨_, rfl⟩

end Registry

end MemberAddress
