import MemberAddress.Text.Blank
import Mathlib.Data.List.DropRight
import Mathlib.Tactic

/-!
# Trimming and dividing texts

* blanks around a text do not matter to `Text.trim`, and a trimmed text stays as it is;
* `Text.fields` undoes joining with a separator, and joining undoes `Text.fields`.
-/

namespace MemberAddress.Text

variable {t u v pre post : Text} {c sep : Char}

/-! ### Blanks around a text -/

theorem trimEnd_eq_rdropWhile (t : Text) : trimEnd t = t.rdropWhile isBlank := rfl

theorem trimStart_append_of_blank (h : ∀ c ∈ pre, isBlank c = true) :
    trimStart (pre ++ t) = trimStart t :=
  List.dropWhile_append_of_pos h

theorem trimEnd_append_of_blank (h : ∀ c ∈ post, isBlank c = true) :
    trimEnd (t ++ post) = trimEnd t := by
  have hr : ∀ c ∈ post.reverse, isBlank c = true := fun c hc => h c (List.mem_reverse.1 hc)
  rw [trimEnd, List.reverse_append, List.dropWhile_append_of_pos hr, trimEnd]

theorem trimEnd_append_cons (hc : isBlank c = false) :
    trimEnd (u ++ c :: v) = u ++ c :: trimEnd v := by
  unfold trimEnd
  rw [List.reverse_append, List.reverse_cons, List.dropWhile_append, List.dropWhile_append]
  by_cases hv : v.reverse.dropWhile isBlank = []
  · simp [hv, hc]
  · simp [hv]

theorem trimStart_cons (hc : isBlank c = false) : trimStart (c :: t) = c :: t :=
  List.dropWhile_cons_of_neg (by simp [hc])

/-- Blanks before and after a text are taken off. -/
theorem trim_append_append (hpre : ∀ c ∈ pre, isBlank c = true)
    (hpost : ∀ c ∈ post, isBlank c = true) : trim (pre ++ t ++ post) = trim t := by
  rw [trim, List.append_assoc, trimStart_append_of_blank hpre, trim]
  by_cases ht : t.dropWhile isBlank = []
  · have hb : ∀ c ∈ t, isBlank c = true := List.dropWhile_eq_nil_iff.1 ht
    have he : trimStart (t ++ post) = trimStart post := trimStart_append_of_blank hb
    have hp : trimStart post = [] := List.dropWhile_eq_nil_iff.2 hpost
    rw [he, hp, show trimStart t = [] from ht]
  · have he : trimStart (t ++ post) = trimStart t ++ post := by
      simp [trimStart, List.dropWhile_append, ht]
    rw [he, trimEnd_append_of_blank hpost]

theorem trimEnd_eq_self (hlast : ∀ c ∈ t.getLast?, isBlank c = false) : trimEnd t = t := by
  rw [trimEnd_eq_rdropWhile, List.rdropWhile_eq_self_iff]
  intro hne
  simp [hlast _ (List.getLast?_eq_some_getLast hne)]

theorem mem_getLast?_of_suffix (h : u <:+ t) (hc : c ∈ u.getLast?) : c ∈ t.getLast? := by
  obtain ⟨front, rfl⟩ := h
  rw [List.getLast?_append, hc]
  rfl

/-- Only the start is trimmed of a text that does not end in a blank. -/
theorem trim_eq_trimStart (hlast : ∀ c ∈ t.getLast?, isBlank c = false) :
    trim t = trimStart t :=
  trimEnd_eq_self fun c hc => hlast c (mem_getLast?_of_suffix (List.dropWhile_suffix _) hc)

/-- A text that begins and ends with other characters than blanks is trimmed. -/
theorem trim_eq_self_of_ends (hfirst : ∀ c ∈ t.head?, isBlank c = false)
    (hlast : ∀ c ∈ t.getLast?, isBlank c = false) : trim t = t := by
  cases t with
  | nil => rfl
  | cons c rest => rw [trim, trimStart_cons (hfirst c rfl), trimEnd_eq_self hlast]

theorem trim_eq_self (h : ∀ c ∈ t, isBlank c = false) : trim t = t :=
  trim_eq_self_of_ends (fun c hc => h c (List.mem_of_mem_head? hc))
    fun c hc => h c (List.mem_of_getLast? hc)

/-- What stands between the ends of a trimmed text does not matter. -/
theorem trim_cons_append (hc : isBlank c = false) (hne : u ≠ [])
    (hu : ∀ d ∈ u, isBlank d = false) : trim (c :: t ++ u) = c :: t ++ u := by
  refine trim_eq_self_of_ends (by simpa using hc) fun d hd => hu d ?_
  rw [List.getLast?_append_of_ne_nil _ hne] at hd
  exact List.mem_of_getLast? hd

theorem mem_of_mem_trim (h : c ∈ trim t) : c ∈ t :=
  (List.dropWhile_sublist _).subset ((List.rdropWhile_prefix _ _).subset h)

theorem trim_trim (t : Text) : trim (trim t) = trim t := by
  have hstart : trimStart (trim t) = trim t := by
    have hpre : trim t <+: trimStart t := List.rdropWhile_prefix _ _
    rw [trimStart, List.dropWhile_eq_self_iff]
    intro hl hb
    have hl' : 0 < (trimStart t).length := lt_of_lt_of_le hl hpre.length_le
    rw [hpre.getElem hl] at hb
    exact List.dropWhile_get_zero_not isBlank t hl' hb
  rw [trim, hstart]
  exact List.rdropWhile_idempotent isBlank (trimStart t)

/-! ### Dividing and joining -/

theorem before_append (h : sep ∉ t) : before sep (t ++ sep :: u) = t := by
  rw [before, cut_append h]

theorem before_of_notMem (h : sep ∉ t) : before sep t = t := by
  rw [before, cut_eq_of_notMem h]

/-- A text that is cut in two has the separator between them, and none before. -/
theorem eq_of_cut_some (h : cut sep t = (u, some v)) : sep ∉ u ∧ t = u ++ sep :: v := by
  by_cases hmem : sep ∈ t
  · obtain ⟨u', v', rfl, hu⟩ := List.eq_append_cons_of_mem hmem
    rw [cut_append hu] at h
    cases h
    exact ⟨hu, rfl⟩
  · rw [cut_eq_of_notMem hmem] at h
    cases h

/-- A text that is not cut is left whole. -/
theorem eq_of_cut_none (h : cut sep t = (u, none)) : t = u := by
  by_cases hmem : sep ∈ t
  · obtain ⟨u', v', rfl, hu⟩ := List.eq_append_cons_of_mem hmem
    rw [cut_append hu] at h
    cases h
  · rw [cut_eq_of_notMem hmem] at h
    cases h
    rfl

/-- The fields are the parts that the library's division of lists gives. -/
theorem fields_eq_splitOn (sep : Char) (t : Text) : fields sep t = t.splitOn sep := by
  induction t with
  | nil => rfl
  | cons c rest ih =>
    obtain ⟨first, more, hr⟩ := List.exists_cons_of_ne_nil (List.splitOn_ne_nil sep rest)
    rw [fields] at ih
    rw [fields, pieces, ih, List.splitOn_cons_eq_if_modifyHead, hr]
    rfl

theorem fields_of_notMem (h : sep ∉ t) : fields sep t = [t] := by
  rw [fields_eq_splitOn, List.splitOn_eq_singleton h]

theorem fields_append (h : sep ∉ t) (rest : Text) :
    fields sep (t ++ sep :: rest) = t :: fields sep rest := by
  rw [fields_eq_splitOn, fields_eq_splitOn, List.splitOn_append_cons_self_of_not_mem h]

/-- Parts without the separator come back as they were joined. -/
theorem fields_intercalate {parts : List Text} (hne : parts ≠ []) (h : ∀ p ∈ parts, sep ∉ p) :
    fields sep (List.intercalate [sep] parts) = parts := by
  rw [fields_eq_splitOn, List.splitOn_intercalate sep h hne]

/-- A text is its fields, joined by the separator. -/
theorem intercalate_fields (sep : Char) (t : Text) :
    List.intercalate [sep] (fields sep t) = t := by
  rw [fields_eq_splitOn, List.intercalate_splitOn]

theorem length_fields (sep : Char) (t : Text) : (fields sep t).length = t.count sep + 1 := by
  rw [fields_eq_splitOn]
  induction t with
  | nil => rfl
  | cons c rest ih =>
    rw [List.splitOn_cons_eq_if_modifyHead, List.count_cons]
    split
    · rw [List.length_cons, ih]
    · rw [List.length_modifyHead, ih]

/-! ### Parts and separators -/

theorem mem_intercalate {parts : List Text} :
    c ∈ List.intercalate [sep] parts → c = sep ∨ ∃ p ∈ parts, c ∈ p := by
  induction parts with
  | nil => simp
  | cons p rest ih =>
    intro h
    by_cases hrest : rest = []
    · simp_all
    · rw [List.intercalate_cons_of_ne_nil hrest, List.mem_append, List.mem_append,
        List.mem_singleton] at h
      rcases h with (h | h) | h
      · exact .inr ⟨p, List.mem_cons_self, h⟩
      · exact .inl h
      · exact (ih h).imp_right fun ⟨q, hq, hc⟩ => ⟨q, List.mem_cons_of_mem _ hq, hc⟩

theorem mem_intercalate_of_mem {parts : List Text} {p : Text} (hp : p ∈ parts) (hc : c ∈ p) :
    c ∈ List.intercalate [sep] parts := by
  induction parts with
  | nil => cases hp
  | cons q rest ih =>
    by_cases hrest : rest = []
    · simp_all
    · rw [List.intercalate_cons_of_ne_nil hrest, List.mem_append]
      rcases List.mem_cons.1 hp with rfl | hp
      · exact .inl (List.mem_append_left _ hc)
      · exact .inr (ih hp)

/-- A separator between two lists of parts. -/
theorem intercalate_append {xs ys : List Text} (hx : xs ≠ []) (hy : ys ≠ []) :
    List.intercalate [sep] (xs ++ ys) =
      List.intercalate [sep] xs ++ sep :: List.intercalate [sep] ys := by
  induction xs with
  | nil => exact absurd rfl hx
  | cons x xs ih =>
    by_cases hxs : xs = []
    · simp [hxs, List.intercalate_cons_of_ne_nil hy]
    · have hne : xs ++ ys ≠ [] := by simp [hxs]
      rw [List.cons_append, List.intercalate_cons_of_ne_nil hne, ih hxs,
        List.intercalate_cons_of_ne_nil hxs]
      simp

/-- A character of a text is a separator or stands in a field. -/
theorem mem_fields_of_mem (sep : Char) (h : c ∈ t) : c = sep ∨ ∃ p ∈ fields sep t, c ∈ p :=
  mem_intercalate (by rwa [intercalate_fields])

theorem mem_of_mem_fields {p : Text} (hp : p ∈ fields sep t) (hc : c ∈ p) : c ∈ t := by
  rw [← intercalate_fields sep t]
  exact mem_intercalate_of_mem hp hc

end MemberAddress.Text
