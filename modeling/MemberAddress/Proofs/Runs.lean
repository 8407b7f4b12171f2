import MemberAddress.MemberList
import Mathlib.Data.List.Forall2
import Mathlib.Tactic

/-!
# The entries of a member list

The entries of a text are its maximal runs without separators. The runs are described without a
loop: a text is a gap, or a gap, a run and a rest that is empty or starts with a separator, so that
no run can be made longer. Every text has exactly one list of runs, and the entries are that list.

* `MemberList.Runs` are the maximal runs of a text from left to right, and `MemberList.runs_iff`
  finds them;
* `MemberList.split_append` divides a list of members that is put together from two;
* `MemberList.entries_intercalate` reads entries back that were joined by separators;
* `MemberList.split_runs` says all of this of a list of members.
-/

namespace MemberAddress

theorem Text.pieces_eq_splitOnP (isSeparator : Char → Bool) (t : Text) :
    pieces isSeparator t = t.splitOnP isSeparator := by
  induction t with
  | nil => rfl
  | cons c rest ih =>
    obtain ⟨first, more, hr⟩ := List.exists_cons_of_ne_nil (List.splitOnP_ne_nil isSeparator rest)
    rw [pieces, ih, List.splitOnP_cons_eq_if_modifyHead, hr]
    rfl

namespace MemberList

variable {t gap run rest sep : Text} {runs : List Text} {c : Char}

theorem isSeparator_iff : isSeparator c = true ↔ c = ',' ∨ c = ';' ∨ Text.isBlank c = true := by
  simp only [isSeparator, Bool.or_eq_true, beq_iff_eq, or_assoc]

/-- A text of separators alone. -/
def IsGap (t : Text) : Prop := ∀ c ∈ t, isSeparator c = true

/-- A text without separators that is not empty. -/
structure IsRun (t : Text) : Prop where
  ne_nil : t ≠ []
  plain : ∀ c ∈ t, isSeparator c = false

/-- The maximal runs of a text, from left to right. What stands before a run is a gap, and what
follows it is nothing or starts with a separator. -/
inductive Runs : Text → List Text → Prop
  | gap {gap : Text} : IsGap gap → Runs gap []
  | run {gap run rest : Text} {runs : List Text} : IsGap gap → IsRun run →
      (∀ c ∈ rest.head?, isSeparator c = true) → Runs rest runs →
      Runs (gap ++ run ++ rest) (run :: runs)

/-! ### The entries of a text -/

theorem entries_cons_separator (hc : isSeparator c = true) : entries (c :: t) = entries t := by
  simp [entries, Text.pieces, hc]

theorem entries_gap_append (h : IsGap gap) : entries (gap ++ t) = entries t := by
  induction gap with
  | nil => rfl
  | cons c gap ih =>
    rw [List.cons_append, entries_cons_separator (h c List.mem_cons_self),
      ih fun d hd => h d (List.mem_cons_of_mem _ hd)]

theorem entries_gap (h : IsGap gap) : entries gap = [] := by
  rw [← List.append_nil gap, entries_gap_append h]
  rfl

/-- A run up to the end of the text, or up to a separator, is the first entry. -/
theorem entries_run_append (h : IsRun run) (hrest : ∀ c ∈ rest.head?, isSeparator c = true) :
    entries (run ++ rest) = run :: entries rest := by
  cases rest with
  | nil => simp [entries, Text.pieces_eq_splitOnP, List.splitOnP_eq_singleton h.plain, h.ne_nil]
  | cons c rest =>
    have hc : isSeparator c = true := hrest c rfl
    rw [entries_cons_separator hc, entries, Text.pieces_eq_splitOnP,
      List.splitOnP_append_cons_of_forall_mem h.plain c hc, ← Text.pieces_eq_splitOnP]
    simp [entries, h.ne_nil]

theorem entries_of_runs (h : Runs t runs) : entries t = runs := by
  induction h with
  | gap hgap => exact entries_gap hgap
  | run hgap hrun hrest _ ih =>
    rw [List.append_assoc, entries_gap_append hgap, entries_run_append hrun hrest, ih]

/-! ### The runs of a text -/

theorem IsGap.cons (hc : isSeparator c = true) (h : IsGap gap) : IsGap (c :: gap) :=
  List.forall_mem_cons.2 ⟨hc, h⟩

theorem IsRun.singleton (hc : isSeparator c = false) : IsRun [c] :=
  ⟨by simp, by simpa using hc⟩

theorem IsRun.cons (hc : isSeparator c = false) (h : IsRun run) : IsRun (c :: run) :=
  ⟨by simp, List.forall_mem_cons.2 ⟨hc, h.plain⟩⟩

/-- A separator in front belongs to the first gap. -/
theorem Runs.cons_separator (hc : isSeparator c = true) (h : Runs t runs) : Runs (c :: t) runs := by
  cases h with
  | gap hgap => exact .gap (hgap.cons hc)
  | run hgap hrun hrest hruns => exact .run (hgap.cons hc) hrun hrest hruns

/-- Any other character in front makes the first run longer, if no gap is between them, and else is
a run by itself. -/
theorem Runs.exists_cons (hc : isSeparator c = false) (h : Runs t runs) :
    ∃ runs', Runs (c :: t) runs' := by
  have hnone : IsGap [] := nofun
  have halone (hd : ∀ d ∈ t.head?, isSeparator d = true) : Runs (c :: t) ([c] :: runs) :=
    .run hnone (.singleton hc) hd h
  cases h with
  | @gap gap hgap => exact ⟨_, halone fun d hd => hgap d (List.mem_of_mem_head? hd)⟩
  | @run gap run rest runs hgap hrun hrest hruns =>
    cases gap with
    | nil => exact ⟨_, .run hnone (hrun.cons hc) hrest hruns⟩
    | cons d gap =>
      refine ⟨_, halone fun e he => ?_⟩
      cases he
      exact hgap d List.mem_cons_self

theorem exists_runs (t : Text) : ∃ runs, Runs t runs := by
  induction t with
  | nil => exact ⟨[], .gap nofun⟩
  | cons c rest ih =>
    obtain ⟨runs, h⟩ := ih
    cases hc : isSeparator c with
    | true => exact ⟨runs, h.cons_separator hc⟩
    | false => exact h.exists_cons hc

/-- The entries of a text are its maximal runs, and nothing else is. -/
theorem runs_iff : Runs t runs ↔ entries t = runs := by
  refine ⟨entries_of_runs, ?_⟩
  rintro rfl
  obtain ⟨runs, h⟩ := exists_runs t
  rwa [entries_of_runs h]

example : entries " web, ;10.0.0.5:5701".toList = ["web".toList, "10.0.0.5:5701".toList] := rfl

theorem isRun_of_mem (h : Runs t runs) (hr : run ∈ runs) : IsRun run := by
  induction h with
  | gap => cases hr
  | run _ hrun _ _ ih =>
    rcases List.mem_cons.1 hr with rfl | hr
    · exact hrun
    · exact ih hr

theorem isRun_of_mem_entries (h : run ∈ entries t) : IsRun run := isRun_of_mem (runs_iff.2 rfl) h

/-- No character of a run is a comma, a semicolon or blank. -/
theorem IsRun.not_separator (h : IsRun run) (hc : c ∈ run) :
    c ≠ ',' ∧ c ≠ ';' ∧ Text.isBlank c = false := by
  have hplain := mt isSeparator_iff.2 (Bool.eq_false_iff.1 (h.plain c hc))
  simpa only [not_or, Bool.not_eq_true] using hplain

/-! ### Entries joined again -/

/-- Runs that are joined by a gap are the entries of the text that they make. -/
theorem entries_intercalate (hruns : ∀ run ∈ runs, IsRun run) (hgap : IsGap sep) (hne : sep ≠ []) :
    entries (List.intercalate sep runs) = runs := by
  have hhead (t : Text) : ∀ c ∈ (sep ++ t).head?, isSeparator c = true := by
    obtain ⟨c, more, rfl⟩ := List.exists_cons_of_ne_nil hne
    intro d hd
    cases hd
    exact hgap c List.mem_cons_self
  induction runs with
  | nil => rfl
  | cons run more ih =>
    have hrun : IsRun run := hruns run List.mem_cons_self
    have hmore : ∀ r ∈ more, IsRun r := fun r hr => hruns r (List.mem_cons_of_mem _ hr)
    by_cases hnil : more = []
    · have hlast : entries (run ++ []) = [run] := entries_run_append hrun nofun
      rw [hnil, List.intercalate_singleton, ← hlast, List.append_nil]
    · rw [List.intercalate_cons_of_ne_nil hnil, List.append_assoc,
        entries_run_append hrun (hhead _), entries_gap_append hgap, ih hmore]

/-! ### Lists of members -/

/-- A list that is put together from two is divided as they are. -/
theorem split_append (members more : List Value) :
    split (members ++ more) = split members >>= fun found => (split more).map (found ++ ·) := by
  induction members with
  | nil =>
    rw [List.nil_append]
    cases split more <;> rfl
  | cons v rest ih =>
    rw [List.cons_append, split, split, ih]
    cases memberText v with
    | error e => rfl
    | ok t =>
      cases split rest with
      | error e => rfl
      | ok found =>
        cases split more with
        | error e => rfl
        | ok found' => simp [bind, Except.bind, Except.map]

/-- A configured member: a text, or nothing. -/
def given : Option Text → Value
  | some t => .text t
  | none => .null

theorem split_given (members : List (Option Text)) :
    split (members.map given) = .ok (members.flatMap fun member => entries (member.getD [])) := by
  induction members with
  | nil => rfl
  | cons member rest ih =>
    have htext : memberText (given member) = .ok (member.getD []) := by
      cases member <;> rfl
    rw [List.map_cons, split, htext, ih]
    rfl

/-- The separators are the comma, the semicolon and the blanks. A list of members has as its entries
the maximal runs between separators, member by member from left to right, and there is but one way
to take them. A list put together from two has the entries of both, and entries that are joined by
separators are found again. -/
theorem split_runs (members : List (Option Text)) :
    (∀ c, isSeparator c = true ↔ c = ',' ∨ c = ';' ∨ Text.isBlank c = true) ∧
    ∃ found : List (List Text),
      (∀ found', List.Forall₂ (fun member runs => Runs (member.getD []) runs) members found' ↔
        found' = found) ∧
      split (members.map given) = .ok found.flatten ∧
      (∀ entry ∈ found.flatten,
        entry ≠ [] ∧ ∀ c ∈ entry, c ≠ ',' ∧ c ≠ ';' ∧ Text.isBlank c = false) ∧
      (∀ more, ∃ found', split (more.map given) = .ok found' ∧
        split ((members ++ more).map given) = .ok (found.flatten ++ found')) ∧
      ∀ sep, sep ≠ [] → IsGap sep →
        split [.text (List.intercalate sep found.flatten)] = .ok found.flatten := by
  have hsplit : split (members.map given) =
      .ok (members.map fun member => entries (member.getD [])).flatten := by
    rw [split_given, List.flatMap_def]
  have hrun : ∀ entry ∈ (members.map fun member => entries (member.getD [])).flatten,
      IsRun entry := by
    intro entry he
    simp only [List.mem_flatten, List.mem_map, exists_exists_and_eq_and] at he
    obtain ⟨member, -, he⟩ := he
    exact isRun_of_mem_entries he
  refine ⟨fun _ => isSeparator_iff,
    members.map fun member => entries (member.getD []), fun found' => ?_, hsplit,
    fun entry he => ⟨(hrun entry he).ne_nil, fun c hc => (hrun entry he).not_separator hc⟩,
    fun more => ?_, fun sep hne hgap => ?_⟩
  · simp only [runs_iff]
    rw [← List.forall₂_map_left_iff (f := fun member : Option Text => entries (member.getD [])),
      List.forall₂_eq_eq_eq, eq_comm]
  · refine ⟨_, split_given more, ?_⟩
    rw [List.map_append, split_append, hsplit, split_given]
    rfl
  · have hone (t : Text) : split [.text t] = .ok (entries t ++ []) := rfl
    rw [hone, entries_intercalate hrun hgap hne, List.append_nil]

end MemberList

end MemberAddress
