import MemberAddress.Proofs.Loading

/-!
# Assignments that are refused

The settings of a network may be assigned one after another, and a refused assignment may be caught.
It is not undone: a port or a number of ports is kept as it was given, and it is refused because of
what the settings hold then. So a refused assignment stays, and assignments to the other one of the
two are refused as well until the bad one is replaced.

* `NetworkConfig.after` are the settings after several assignments, refused ones among them;
* `NetworkConfig.port_after` and `NetworkConfig.portCount_after` say that the last assignment
  counts;
* `NetworkConfig.refuses_after_iff` says which assignment is refused;
* `NetworkConfig.keepsIntact_iff` says when refused assignments do no harm: when there are none.
-/

namespace MemberAddress

namespace NetworkAssignment

/-- The port that an assignment gives. -/
def port? : NetworkAssignment → Option Value
  | .port v => some v
  | _ => none

/-- The number of ports that an assignment gives. -/
def portCount? : NetworkAssignment → Option Value
  | .portCount v => some v
  | _ => none

/-- Whether an assignment gives a value that is checked. -/
def IsChecked (a : NetworkAssignment) : Prop := a.port?.isSome = true ∨ a.portCount?.isSome = true

/-- Whether the value that an assignment gives is right for its setting. -/
def IsValid : NetworkAssignment → Prop
  | .port v => NetworkConfig.isPort v = true
  | .portCount v => NetworkConfig.isPortCount v = true
  | _ => True

/-- The port that was assigned last. -/
def lastPort? (as : List NetworkAssignment) : Option Value := (as.filterMap port?).getLast?

/-- The number of ports that was assigned last. -/
def lastPortCount? (as : List NetworkAssignment) : Option Value :=
  (as.filterMap portCount?).getLast?

end NetworkAssignment

namespace NetworkConfig

open NetworkAssignment (lastPort? lastPortCount?)

variable {c : NetworkConfig} {a : NetworkAssignment} {as : List NetworkAssignment}

/-- Whether the port and the number of ports are in range. -/
structure IsInRange (c : NetworkConfig) : Prop where
  port : isPort c.port = true
  portCount : isPortCount c.portCount = true

/-- An assignment is refused with a fault of the configuration. -/
def Refuses (c : NetworkConfig) (a : NetworkAssignment) : Prop :=
  ∃ f, (c.assign a).2 = .error f ∧ f.errorClass? = some .configuration

/-- The settings after several assignments, refused ones among them. -/
def after (c : NetworkConfig) (as : List NetworkAssignment) : NetworkConfig :=
  as.foldl (fun c a => (c.assign a).1) c

/-! ### One assignment -/

theorem validate_ok_iff : c.validate = .ok () ↔ c.IsInRange := by
  constructor
  · intro h
    obtain ⟨hport, hcount, -⟩ := validated_ok_iff.1 (show validated c = .ok c by rw [validated, h])
    exact ⟨hport, hcount⟩
  · intro h
    simp [validate, h.port, h.portCount]

/-- What the check finds wrong is a fault of the configuration. -/
theorem validate_error_iff :
    (∃ f, c.validate = .error f ∧ f.errorClass? = some .configuration) ↔ ¬ c.IsInRange := by
  rw [← validate_ok_iff]
  constructor
  · rintro ⟨f, hf, -⟩ hok
    rw [hf] at hok
    cases hok
  · intro h
    cases hv : c.validate with
    | ok u => exact absurd hv h
    | error f => exact ⟨f, rfl, errorClass?_of_validated (by rw [validated, hv])⟩

theorem port_assign : (c.assign a).1.port = a.port?.getD c.port := by
  cases a <;> rfl

theorem portCount_assign : (c.assign a).1.portCount = a.portCount?.getD c.portCount := by
  cases a <;> rfl

/-- An assignment is refused for what the settings hold once it is done. -/
theorem refuses_iff : c.Refuses a ↔ a.IsChecked ∧ ¬ (c.assign a).1.IsInRange := by
  rw [← validate_error_iff]
  cases a with
  | port v => simp [Refuses, assign, NetworkAssignment.IsChecked, NetworkAssignment.port?]
  | portCount v => simp [Refuses, assign, NetworkAssignment.IsChecked, NetworkAssignment.portCount?]
  | _ => simp [Refuses, assign, NetworkAssignment.IsChecked, NetworkAssignment.port?,
      NetworkAssignment.portCount?]

/-- A valid assignment leaves settings in range that were in range. -/
theorem IsInRange.assign (h : c.IsInRange) (ha : a.IsValid) : (c.assign a).1.IsInRange := by
  constructor
  · rw [port_assign]
    cases a with
    | port v => exact ha
    | _ => exact h.port
  · rw [portCount_assign]
    cases a with
    | portCount v => exact ha
    | _ => exact h.portCount

/-- An assignment that leaves settings in range is valid. -/
theorem isValid_of_assign (h : (c.assign a).1.IsInRange) : a.IsValid := by
  cases a with
  | port v => exact h.port
  | portCount v => exact h.portCount
  | _ => trivial

theorem isChecked_of_not_isValid (h : ¬ a.IsValid) : a.IsChecked := by
  cases a with
  | port v => exact .inl rfl
  | portCount v => exact .inr rfl
  | _ => exact absurd trivial h

/-! ### Several assignments -/

@[simp] theorem after_nil : c.after [] = c := rfl

@[simp] theorem after_concat : c.after (as ++ [a]) = ((c.after as).assign a).1 := by
  simp [after]

/-- The port is the one that was assigned last, be it refused or not. -/
theorem port_after (c : NetworkConfig) (as : List NetworkAssignment) :
    (c.after as).port = (lastPort? as).getD c.port := by
  induction as using List.reverseRecOn with
  | nil => rfl
  | append_singleton as a ih =>
    rw [after_concat, port_assign, ih, lastPort?, lastPort?, List.filterMap_append,
      List.getLast?_append]
    cases h : a.port? <;> simp [h]

/-- The number of ports is the one that was assigned last, be it refused or not. -/
theorem portCount_after (c : NetworkConfig) (as : List NetworkAssignment) :
    (c.after as).portCount = (lastPortCount? as).getD c.portCount := by
  induction as using List.reverseRecOn with
  | nil => rfl
  | append_singleton as a ih =>
    rw [after_concat, portCount_assign, ih, lastPortCount?, lastPortCount?, List.filterMap_append,
      List.getLast?_append]
    cases h : a.portCount? <;> simp [h]

/-- Valid assignments keep settings in range. -/
theorem IsInRange.after (h : c.IsInRange) (has : ∀ a ∈ as, a.IsValid) : (c.after as).IsInRange := by
  induction as using List.reverseRecOn with
  | nil => exact h
  | append_singleton as a ih =>
    rw [after_concat]
    apply IsInRange.assign
    · apply ih
      intro b hb
      exact has b (List.mem_append_left _ hb)
    · apply has a
      simp

/-- After any assignments, one that is checked is refused exactly if the last port, itself included,
or the last number of ports is out of range. -/
theorem refuses_after_iff :
    (c.after as).Refuses a ↔ a.IsChecked ∧
      ¬ (isPort ((lastPort? (as ++ [a])).getD c.port) = true ∧
        isPortCount ((lastPortCount? (as ++ [a])).getD c.portCount) = true) := by
  rw [refuses_iff, ← after_concat, ← port_after, ← portCount_after]
  apply and_congr_right
  intro _
  exact not_congr ⟨fun h => ⟨h.port, h.portCount⟩, fun h => ⟨h.1, h.2⟩⟩

/-! ### Whether refusals do harm -/

/-- A refused assignment changes nothing. -/
def UndoesRefused (c : NetworkConfig) (as : List NetworkAssignment) : Prop :=
  ∀ before a, before ++ [a] <+: as → (c.after before).Refuses a →
    c.after (before ++ [a]) = c.after before

/-- The port and the number of ports are in range at every point. -/
def StaysInRange (c : NetworkConfig) (as : List NetworkAssignment) : Prop :=
  ∀ before, before <+: as → (c.after before).IsInRange

/-- Refused assignments do no harm: they change nothing, the settings stay in range, and a valid
assignment is never refused. -/
structure KeepsIntact (c : NetworkConfig) (as : List NetworkAssignment) : Prop where
  undoes : c.UndoesRefused as
  inRange : c.StaysInRange as
  accepts : ∀ before a, before ++ [a] <+: as → a.IsValid → ¬ (c.after before).Refuses a

theorem staysInRange_iff (h : c.IsInRange) : c.StaysInRange as ↔ ∀ a ∈ as, a.IsValid := by
  constructor
  · intro hrange a ha
    obtain ⟨before, rest, rfl⟩ := List.append_of_mem ha
    have hafter := hrange (before ++ [a]) ⟨rest, by simp⟩
    rw [after_concat] at hafter
    exact isValid_of_assign hafter
  · intro hvalid before hbefore
    apply h.after
    intro a ha
    exact hvalid a (hbefore.subset ha)

theorem undoesRefused_iff (h : c.IsInRange) : c.UndoesRefused as ↔ ∀ a ∈ as, a.IsValid := by
  constructor
  · -- the first value out of range would be refused and then be found in the settings
    intro hundoes
    have hprefix : ∀ before, before <+: as → ∀ a ∈ before, a.IsValid := by
      intro before
      induction before using List.reverseRecOn with
      | nil => simp
      | append_singleton before a ih =>
        intro hbefore
        have hvalid := ih ((List.prefix_append before [a]).trans hbefore)
        have hrange : (c.after before).IsInRange := h.after hvalid
        have ha : a.IsValid := by
          by_contra hbad
          have hout : ¬ ((c.after before).assign a).1.IsInRange := mt isValid_of_assign hbad
          have hrefused : (c.after before).Refuses a :=
            refuses_iff.2 ⟨isChecked_of_not_isValid hbad, hout⟩
          rw [← after_concat, hundoes before a hbefore hrefused] at hout
          exact hout hrange
        intro b hb
        rcases List.mem_append.1 hb with hb | hb
        · exact hvalid b hb
        · rwa [List.mem_singleton.1 hb]
    exact hprefix as (List.prefix_refl as)
  · intro hvalid before a hbefore hrefused
    have hrange := (staysInRange_iff h).2 hvalid (before ++ [a]) hbefore
    rw [after_concat] at hrange
    exact absurd hrange (refuses_iff.1 hrefused).2

theorem keepsIntact_iff_forall_isValid (h : c.IsInRange) :
    c.KeepsIntact as ↔ ∀ a ∈ as, a.IsValid := by
  constructor
  · intro hintact
    exact (staysInRange_iff h).1 hintact.inRange
  · intro hvalid
    have hrange := (staysInRange_iff h).2 hvalid
    refine ⟨(undoesRefused_iff h).2 hvalid, hrange, ?_⟩
    intro before a hbefore _ hrefused
    apply (refuses_iff.1 hrefused).2
    rw [← after_concat]
    exact hrange _ hbefore

/-- Refused assignments do no harm exactly if there are none: a value out of range that is refused
is never undone, and leaves the settings out of range. After any assignments, one is refused exactly
if it is checked and the last port or the last number of ports, itself included, is out of range. -/
theorem keepsIntact_iff (h : c.validate = .ok ()) (as : List NetworkAssignment) :
    (c.KeepsIntact as ↔ ∀ a ∈ as, a.IsValid) ∧ (c.UndoesRefused as ↔ ∀ a ∈ as, a.IsValid) ∧
      (c.StaysInRange as ↔ ∀ a ∈ as, a.IsValid) ∧
        ∀ a, (c.after as).Refuses a ↔ a.IsChecked ∧
          ¬ (isPort ((lastPort? (as ++ [a])).getD c.port) = true ∧
            isPortCount ((lastPortCount? (as ++ [a])).getD c.portCount) = true) := by
  have hrange : c.IsInRange := validate_ok_iff.1 h
  refine ⟨?_, ?_, ?_, ?_⟩
  · exact keepsIntact_iff_forall_isValid hrange
  · exact undoesRefused_iff hrange
  · exact staysInRange_iff hrange
  · intro a
    exact refuses_after_iff

/-- A port out of range does harm, and a number of ports in range is refused after it. -/
theorem keepsIntact_iff_default :
    default.validate = .ok () ∧ ¬ default.KeepsIntact [.port (.whole 70000)] ∧
      (default.after [.port (.whole 70000)]).Refuses (.portCount (.whole 5)) := by
  have hvalid : default.validate = .ok () := rfl
  obtain ⟨hintact, -, -, hrefuses⟩ := keepsIntact_iff hvalid [.port (.whole 70000)]
  have hport : ¬ isPort (.whole 70000) = true := by decide
  refine ⟨hvalid, ?_, ?_⟩
  · intro h
    exact hport (hintact.1 h _ List.mem_cons_self)
  · exact (hrefuses _).2 ⟨.inr rfl, fun h => hport h.1⟩

/-- A port out of range is refused and stays. -/
theorem not_keepsIntact_port : ¬ default.KeepsIntact [.port (.whole 70000)] := by
  intro h
  have hrange := h.inRange [.port (.whole 70000)] (List.prefix_refl _)
  exact absurd hrange.port (by decide)

end NetworkConfig

end MemberAddress
