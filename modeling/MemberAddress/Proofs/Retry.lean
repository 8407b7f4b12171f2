import MemberAddress.Proofs.Lifecycle

/-!
# A failed pick can be retried

A pick that fails raises the fault of the step that failed, closes what it opened, and leaves a
picker that goes on like a new one.

* `Picker.FailsWith` says which step of a pick fails first, and with which fault;
* `Picker.pick_error_iff` says that exactly this fault is raised;
* `Picker.pick_withClosed` says that a pick does not look at whether the picker was closed, hence
  `Picker.picksAsNew`;
* `Picker.leavesNothing_of_pick_error` says what is left after a failure;
* `Picker.retry_of_failed_pick` puts them together, after any run.
-/

namespace MemberAddress

namespace Picker

variable {σ : Type} {os : SocketSystem σ} {opener : Opener σ} {p : Picker} {env : Surroundings}
  {s : Session σ} {f : Fault}

/-! ### The fault of a pick -/

/-- The first step of a pick that fails, with its fault: no address can be chosen, no socket can be
opened at the chosen address, or no address to advertise can be found. -/
inductive FailsWith (p : Picker) (env : Surroundings) (opener : Opener σ) (s : Session σ) :
    Fault → Prop
  | choice {f : Fault} (h : (Choice.bind p.settings env).result = .error f) :
    FailsWith p env opener s f
  | opening {c : Candidate} {f : Fault} {s' : Session σ}
    (h : p.Opens env opener s c (.error f) s') : FailsWith p env opener s f
  | lookup {c : Candidate} {socket : Socket} {f : Fault} {s' : Session σ}
    (ho : p.Opens env opener s c (.ok socket) s')
    (hl : (advertise p.settings env.names (c.toAddress socket.address.port)).result = .error f) :
    FailsWith p env opener s f

/-- A step of a pick that fails hands its fault on. -/
theorem pick_of_failsWith (os : SocketSystem σ) (hfirst : ¬ p.HasPicked)
    (h : p.FailsWith env opener s f) : (p.pick env os opener s).1 = .error f := by
  unfold HasPicked at hfirst
  rw [pick, if_neg hfirst]
  cases h with
  | choice hc =>
    simp only [hc]
    rfl
  | opening h =>
    obtain ⟨hc, ho⟩ := h
    rw [afterChoice] at ho
    simp only [hc, ho]
    rfl
  | lookup h hl =>
    obtain ⟨hc, ho⟩ := h
    rw [afterChoice] at ho
    simp only [hc, ho, hl]
    rfl

/-- A pick raises exactly the fault of the first step that fails. -/
theorem pick_error_iff (os : SocketSystem σ) (hfirst : ¬ p.HasPicked) :
    (p.pick env os opener s).1 = .error f ↔ p.FailsWith env opener s f := by
  refine ⟨fun h => ?_, pick_of_failsWith os hfirst⟩
  rcases pick_cases os env opener s hfirst with
    ⟨f', hc, he⟩ | ⟨c, f', s₁, ho, he⟩ | ⟨c, socket, s₁, f', ho, hl, he⟩ |
      ⟨c, socket, s₁, a, -, -, he⟩
  · rw [he] at h
    cases h
    exact .choice hc
  · rw [he] at h
    cases h
    exact .opening ho
  · rw [he] at h
    cases h
    exact .lookup ho hl
  · rw [he] at h
    cases h

/-! ### Pickers that pick alike -/

/-- The picker with the mark that it was closed set or taken away. -/
def withClosed (p : Picker) (closed : Bool) : Picker := { p with closed := closed }

/-- Whether a picker was closed makes no difference to a pick. -/
theorem pick_withClosed (p : Picker) (closed : Bool) (env : Surroundings) (os : SocketSystem σ)
    (opener : Opener σ) (s : Session σ) :
    (p.withClosed closed).pick env os opener s =
      ((p.pick env os opener s).1, (p.pick env os opener s).2.1.withClosed closed,
        (p.pick env os opener s).2.2) := by
  unfold pick withClosed
  dsimp only
  split
  · rfl
  · split
    · rfl
    · split
      · rfl
      · split <;> rfl

/-- A pick does what the first pick of a new picker with the given settings does: the same answer or
fault, the same addresses and socket, the same dealings with the system. -/
structure PicksAsNew (p : Picker) (settings : Settings) (env : Surroundings) (os : SocketSystem σ)
    (opener : Opener σ) (s : Session σ) : Prop where
  result : (p.pick env os opener s).1 = ((new settings).pick env os opener s).1
  bindAddress : (p.pick env os opener s).2.1.bindAddress =
    ((new settings).pick env os opener s).2.1.bindAddress
  publicAddress : (p.pick env os opener s).2.1.publicAddress =
    ((new settings).pick env os opener s).2.1.publicAddress
  socket : (p.pick env os opener s).2.1.socket = ((new settings).pick env os opener s).2.1.socket
  session : (p.pick env os opener s).2.2 = ((new settings).pick env os opener s).2.2

/-- A picker that has not picked and holds no socket picks as a new one does. -/
theorem picksAsNew (hfirst : ¬ p.HasPicked) (hnone : p.socket = none) (env : Surroundings)
    (os : SocketSystem σ) (opener : Opener σ) (s : Session σ) :
    p.PicksAsNew p.settings env os opener s := by
  have hp : p = (new p.settings).withClosed p.closed := by
    obtain ⟨hb, hpub⟩ := not_hasPicked_iff.1 hfirst
    obtain ⟨settings, bindAddress, publicAddress, socket, closed⟩ := p
    subst hb hpub hnone
    rfl
  have hpick := pick_withClosed (new p.settings) p.closed env os opener s
  rw [← hp] at hpick
  constructor <;> rw [hpick] <;> rfl

/-! ### After a failure -/

/-- A pick that fails only takes the socket away. -/
theorem eq_of_pick_error {q : Picker} {s' : Session σ}
    (h : p.pick env os opener s = (.error f, q, s')) : q = { p with socket := none } := by
  by_cases hfirst : p.HasPicked
  · rw [pick_of_picked hfirst] at h
    cases h
  · rcases pick_cases os env opener s hfirst with
      ⟨f', -, he⟩ | ⟨c, f', s₁, -, he⟩ | ⟨c, socket, s₁, f', -, -, he⟩ |
        ⟨c, socket, s₁, a, -, -, he⟩ <;>
    rw [he] at h <;> cases h <;> rfl

/-- Between two sessions a picker has left nothing behind: no address is set, no socket is held, and
every socket that was opened meanwhile, or at any time, is closed. -/
structure LeavesNothing (p : Picker) (s s' : Session σ) : Prop where
  bindAddress : p.bindAddress = none
  publicAddress : p.publicAddress = none
  socket : p.socket = none
  closed : ∃ news, Session.Afresh s s' news ∧ openAfter news = []
  openSockets : s'.openSockets = []

/-- A pick that fails leaves nothing behind. -/
theorem leavesNothing_of_pick_error {q : Picker} {s' : Session σ} (hcons : IsConsistent p s)
    (hfirst : ¬ p.HasPicked) (hafresh : opener.OpensAfresh)
    (hclose : opener.ClosesOnFailure p.settings.bindAny)
    (h : p.pick env os opener s = (.error f, q, s')) :
    q.LeavesNothing s s' ∧ IsConsistent q s' := by
  have hq := eq_of_pick_error h
  obtain ⟨hb, hpub⟩ := not_hasPicked_iff.1 hfirst
  have hnone : q.socket = none := by rw [hq]
  have hcons' : IsConsistent q s' := by
    have hpick := hcons.pick os hafresh hclose env
    rwa [h] at hpick
  obtain ⟨news, hn, hopen⟩ :=
    afresh_pick hfirst (hcons.socket_eq_none hfirst) os hafresh hclose env s
  rw [h] at hn hopen
  refine ⟨⟨by rw [hq, hb], by rw [hq, hpub], hnone, ⟨news, hn, ?_⟩, ?_⟩, hcons'⟩
  · rw [hopen, hnone]
    rfl
  · rw [hcons'.held, hnone]
    rfl

/-- A failed pick raises the fault of the step that failed, leaves nothing behind, and can be
retried: after it, and after whatever else happens, a picker that still has not picked picks in
every world as a new one with the same settings does. -/
theorem retry_of_failed_pick (settings : Settings) (os : SocketSystem σ) (opener : Opener σ)
    (hafresh : opener.OpensAfresh) (hclose : opener.ClosesOnFailure settings.bindAny) (state : σ)
    (steps : List (Step σ)) (p : Picker) (s : Session σ)
    (hrun : run os opener steps (.new settings, .start state) = (p, s)) (hfirst : ¬ p.HasPicked)
    (env : Surroundings) :
    (∀ f, (p.pick env os opener s).1 = .error f ↔ p.FailsWith env opener s f) ∧
    ∀ f q s', p.pick env os opener s = (.error f, q, s') →
      q.LeavesNothing s s' ∧
      ∀ more r s₁, run os opener more (q, s') = (r, s₁) → ¬ r.HasPicked →
        ∀ (τ : Type) (env₂ : Surroundings) (os₂ : SocketSystem τ) (opener₂ : Opener τ)
          (s₂ : Session τ), r.PicksAsNew settings env₂ os₂ opener₂ s₂ := by
  have hsettings : p.settings = settings := by
    have h := settings_run os opener steps (.new settings, .start state)
    rwa [hrun] at h
  have hcons : IsConsistent p s := by
    have h := (IsConsistent.new settings state).run (x := (.new settings, .start state)) os hafresh
      hclose steps
    rwa [hrun] at h
  rw [← hsettings] at hclose ⊢
  refine ⟨fun f => pick_error_iff os hfirst, fun f q s' hp => ?_⟩
  obtain ⟨hleaves, hcons'⟩ := leavesNothing_of_pick_error hcons hfirst hafresh hclose hp
  refine ⟨hleaves, fun more r s₁ hmore hr τ env₂ os₂ opener₂ s₂ => ?_⟩
  -- the picker has lived on, but the invariant says that it holds no socket
  have hsame : q.settings = p.settings := by rw [eq_of_pick_error hp]
  have hsettings' : r.settings = p.settings := by
    have h := settings_run os opener more (q, s')
    rw [hmore] at h
    exact h.trans hsame
  have hcons₁ : IsConsistent r s₁ := by
    have h := hcons'.run (x := (q, s')) os hafresh (hsame ▸ hclose) more
    rwa [hmore] at h
  rw [← hsettings']
  exact picksAsNew hr (hcons₁.socket_eq_none hr) env₂ os₂ opener₂ s₂

/-- Settings that force the address of `pub.local` to be advertised. -/
def advertisingPub : Settings :=
  { Settings.default with publicAddress := some (.text "pub.local".toList) }

/-- The surroundings `10.0.0.1`, where `pub.local` is known. -/
def knowingPub : Surroundings := .knowing [("pub.local".toList, ["203.0.113.7".toList])]

/-- A pick that fails because `pub.local` is not known closes the socket that it opened; when the name
is known, the picker picks as a new one does. -/
theorem retry_of_failed_pick_lookup :
    closings (firstPick advertisingPub .oneAddress).2.2.events = [0] ∧
    (firstPick advertisingPub .oneAddress).2.2.openSockets = [] ∧
    (firstPick advertisingPub .oneAddress).2.1.PicksAsNew advertisingPub knowingPub PortTable.system
      (PortSearch.default.opener PortTable.system) (.start .empty) ∧
    (firstPick advertisingPub knowingPub).2.1.publicAddress =
      some ⟨"pub.local".toList, 5701, none⟩ := by
  have hclass : faultClass? (firstPick advertisingPub .oneAddress).1 = some .hostnameResolution := by
    decide +kernel
  obtain ⟨f, he, -⟩ := exists_error_of_faultClass? hclass
  have hpick : (new advertisingPub).pick .oneAddress PortTable.system
      (PortSearch.default.opener PortTable.system) (.start .empty) =
        (.error f, (firstPick advertisingPub .oneAddress).2) := by
    rw [← he]
    rfl
  obtain ⟨hleaves, hretry⟩ := (retry_of_failed_pick advertisingPub PortTable.system
    (PortSearch.default.opener PortTable.system) (PortSearch.opensAfresh_opener _ _)
    (PortSearch.closesOnFailure_opener _ _ rfl) .empty [] _ _ rfl (by decide) .oneAddress).2 f _ _
      hpick
  exact ⟨by decide +kernel, hleaves.openSockets, hretry [] _ _ rfl (by decide +kernel) _ _ _ _ _,
    by decide +kernel⟩

end Picker

end MemberAddress
