import MemberAddress.Proofs.Picking

/-!
# The life of a picker

A picker may be asked to pick, to show its socket and to close, in any order, while the world around
it changes. Whatever happens, the picker and the journal fit together (`Picker.IsConsistent`): both
addresses are set or none is, the socket that is held is the only open one, and it listens at the
port of the bind address.

* `Picker.Step` is one thing that happens, `Picker.run` is what a list of them leads to;
* `Picker.IsConsistent.step` is the step lemma, by cases on `Picker.pick_cases`;
* `Picker.consistent_run` is the whole, for every opener that deals with fresh sockets
  (`Opener.OpensAfresh`) and leaves none open when it fails (`Opener.ClosesOnFailure`).
-/

namespace MemberAddress

/-! ### Openers -/

namespace Opener

variable {σ : Type}

/-- An opener deals only with sockets that it asks for itself, and of these it leaves open the one
that it gives. -/
def OpensAfresh (opener : Opener σ) : Prop :=
  ∀ x port bindAny s answer s', opener x port bindAny s = (answer, s') →
    ∃ news, Session.Afresh s s' news ∧ ∀ socket, answer = .ok socket → openAfter news = [socket.id]

/-- An opener that fails leaves no socket open. -/
def ClosesOnFailure (opener : Opener σ) (bindAny : Bool) : Prop :=
  ∀ x port s f s', opener x port bindAny s = (.error f, s') →
    ∀ news, s'.events = news ++ s.events → openAfter news = []

end Opener

namespace PortSearch

variable {σ : Type} (os : SocketSystem σ) (search : PortSearch)

/-- The search for a port deals only with fresh sockets. -/
theorem opensAfresh_opener : (search.opener os).OpensAfresh := by
  intro x port bindAny s answer s' h
  obtain ⟨news, hn, hok, -⟩ := afresh_openSocket h
  exact ⟨news, hn, hok⟩

/-- When all addresses are bound to, there is no zone to be at fault, and a search over whole ports
that fails leaves no socket open. -/
theorem closesOnFailure_opener {first : Whole} (hport : search.port = .whole first) :
    (search.opener os).ClosesOnFailure true := by
  intro x port s f s' h news hnews
  obtain ⟨news', hn, -, herr⟩ := afresh_openSocket h
  obtain rfl : news = news' := List.append_cancel_right (hnews.symm.trans hn.events)
  rcases herr f rfl with ho | ⟨z, hz, -⟩ | ⟨x, hx, -⟩
  · exact ho
  · cases hz
  · obtain ⟨n, hn⟩ := exists_firstPort_whole hport (.number port)
    cases hn.symm.trans hx

end PortSearch

namespace Picker

variable {σ : Type} {os : SocketSystem σ} {opener : Opener σ} {p q : Picker} {s s' : Session σ}

/-! ### Steps and runs -/

/-- What may happen to a picker: a pick in given surroundings, a look at its socket, its closing, or
a change of the world outside. -/
inductive Step (σ : Type)
  | pick (env : Surroundings)
  | look
  | close
  | world (change : σ → σ)

/-- What one step does. -/
def step (os : SocketSystem σ) (opener : Opener σ) (x : Picker × Session σ) :
    Step σ → Picker × Session σ
  | .pick env => (x.1.pick env os opener x.2).2
  | .look => x
  | .close => x.1.close os x.2
  | .world change => (x.1, { x.2 with state := change x.2.state })

/-- What a list of steps does. -/
def run (os : SocketSystem σ) (opener : Opener σ) :
    List (Step σ) → Picker × Session σ → Picker × Session σ
  | [], x => x
  | a :: rest, x => run os opener rest (step os opener x a)

@[simp] theorem run_nil (x : Picker × Session σ) : run os opener [] x = x := rfl

@[simp] theorem run_cons (a : Step σ) (rest : List (Step σ)) (x : Picker × Session σ) :
    run os opener (a :: rest) x = run os opener rest (step os opener x a) := rfl

/-! ### One pick -/

/-- A pick that is not idle deals only with sockets that it asks for itself. Of these it leaves open
the one that the picker holds afterwards, unless no socket could be opened; then it leaves open what
the opener left. -/
theorem afresh_pick_or_failed (hfirst : ¬ p.HasPicked) (hnone : p.socket = none)
    (os : SocketSystem σ) (hafresh : opener.OpensAfresh) (env : Surroundings) (s : Session σ) :
    ∃ news, Session.Afresh s (p.pick env os opener s).2.2 news ∧
      (openAfter news = (p.pick env os opener s).2.1.socket.toList.map Socket.id ∨
        ∃ c f s₁, p.Opens env opener s c (.error f) s₁ ∧
          p.pick env os opener s = p.fail os p.socket f s₁ ∧ s₁.events = news ++ s.events) := by
  rcases pick_cases os env opener s hfirst with
    ⟨f, -, he⟩ | ⟨c, f, s₁, ho, he⟩ | ⟨c, socket, s₁, f, ho, -, he⟩ | ⟨c, socket, s₁, a, ho, -, he⟩
  · -- nothing was chosen, and no socket was asked for
    rw [he, hnone]
    exact ⟨[], .nil rfl rfl, .inl rfl⟩
  · -- no socket could be opened
    obtain ⟨news, hn, -⟩ := hafresh _ _ _ _ _ _ ho.2
    have hn : Session.Afresh s s₁ news := hn.congr_left rfl rfl
    refine ⟨news, ?_, .inr ⟨c, f, s₁, ho, he, hn.events⟩⟩
    rw [he, hnone]
    exact hn.congr_right rfl rfl
  · -- the socket is open when the lookup fails, and is closed again
    obtain ⟨news, hn, hok⟩ := hafresh _ _ _ _ _ _ ho.2
    have hn : Session.Afresh s s₁ news := hn.congr_left rfl rfl
    have hone : openAfter news = [socket.id] := hok socket rfl
    rw [he]
    refine ⟨.closed socket.id (some socket.address.port) :: news, ⟨?_, ?_⟩, .inl ?_⟩
    · exact congrArg (.closed socket.id (some socket.address.port) :: ·) hn.events
    · exact hn.orderly.close (by simp [hone]) _
    · simp [openAfter, hone, fail]
  · obtain ⟨news, hn, hok⟩ := hafresh _ _ _ _ _ _ ho.2
    have hn : Session.Afresh s s₁ news := hn.congr_left rfl rfl
    rw [he]
    exact ⟨news, hn.congr_right rfl rfl, .inl (hok socket rfl)⟩

/-- When the opener closes what it opened in vain, a pick leaves nothing open but the socket that the
picker holds. -/
theorem afresh_pick (hfirst : ¬ p.HasPicked) (hnone : p.socket = none) (os : SocketSystem σ)
    (hafresh : opener.OpensAfresh) (hclose : opener.ClosesOnFailure p.settings.bindAny)
    (env : Surroundings) (s : Session σ) :
    ∃ news, Session.Afresh s (p.pick env os opener s).2.2 news ∧
      openAfter news = (p.pick env os opener s).2.1.socket.toList.map Socket.id := by
  obtain ⟨news, hn, hopen | ⟨c, f, s₁, ho, he, hnews⟩⟩ :=
    afresh_pick_or_failed hfirst hnone os hafresh env s
  · exact ⟨news, hn, hopen⟩
  · refine ⟨news, hn, ?_⟩
    rw [he]
    exact hclose _ _ _ _ _ ho.2 news hnews

/-! ### The invariant -/

/-- A picker and its journal fit together. -/
structure IsConsistent (p : Picker) (s : Session σ) : Prop where
  /-- Both addresses are set, or none is. -/
  together : p.bindAddress = none ↔ p.publicAddress = none
  /-- The socket that is held is the only open one. -/
  held : s.openSockets = p.socket.toList.map Socket.id
  /-- The socket that is held listens at the port of the bind address. -/
  port : ∀ socket, p.socket = some socket →
    ∃ a, p.bindAddress = some a ∧ a.port = socket.address.port
  /-- Each socket was asked for by number and closed at most once. -/
  orderly : OrderlyBetween 0 s.sockets s.events

namespace IsConsistent

theorem new (settings : Settings) (state : σ) :
    IsConsistent (.new settings) (Session.start state) where
  together := Iff.rfl
  held := rfl
  port := by simp [Picker.new]
  orderly := .nil

/-- Before the first pick that succeeds, no socket is held. -/
theorem socket_eq_none (h : IsConsistent p s) (hfirst : ¬ p.HasPicked) : p.socket = none := by
  cases hs : p.socket with
  | none => rfl
  | some socket =>
    obtain ⟨a, ha, -⟩ := h.port socket hs
    rw [(not_hasPicked_iff.1 hfirst).1] at ha
    cases ha

/-- Only the number of sockets and the events count. -/
theorem congr (h : IsConsistent p s) (he : s'.events = s.events) (hs : s'.sockets = s.sockets) :
    IsConsistent p s' where
  together := h.together
  held := by
    have hopen : s'.openSockets = s.openSockets := congrArg openAfter he
    rw [hopen, h.held]
  port := h.port
  orderly := by
    rw [he, hs]
    exact h.orderly

/-- The socket that is held may be closed. -/
theorem release (h : IsConsistent p s) :
    IsConsistent { p with socket := none } (release os p.socket s) := by
  cases hs : p.socket with
  | none =>
    have hp : { p with socket := none } = p := by rw [← hs]
    rw [hp]
    exact h
  | some socket =>
    have hopen : openAfter s.events = [socket.id] := by
      have := h.held
      rwa [hs] at this
    refine ⟨h.together, ?_, by simp, h.orderly.close (by simp [hopen]) _⟩
    show openAfter (.closed socket.id _ :: s.events) = []
    simp [openAfter, hopen]

/-- Before the first pick that succeeds, what is open is what was opened last. -/
theorem afresh (h : IsConsistent p s) (hfirst : ¬ p.HasPicked) {news : List SocketEvent}
    (hn : Session.Afresh s s' news) :
    openAfter s'.events = openAfter news ∧ OrderlyBetween 0 s'.sockets s'.events := by
  have hnone : openAfter s.events = [] := by
    have := h.held
    rwa [h.socket_eq_none hfirst] at this
  rw [hn.events]
  refine ⟨?_, h.orderly.append hn.orderly⟩
  rw [h.orderly.openAfter_append hn.orderly, hnone, List.append_nil]

/-- A pick keeps picker and journal consistent. -/
theorem pick (h : IsConsistent p s) (os : SocketSystem σ) (hafresh : opener.OpensAfresh)
    (hclose : opener.ClosesOnFailure p.settings.bindAny) (env : Surroundings) :
    IsConsistent (p.pick env os opener s).2.1 (p.pick env os opener s).2.2 := by
  by_cases hfirst : p.HasPicked
  · rw [pick_of_picked hfirst]
    exact h
  obtain ⟨news, hn, hopen⟩ :=
    afresh_pick hfirst (h.socket_eq_none hfirst) os hafresh hclose env s
  obtain ⟨hall, hord⟩ := h.afresh hfirst hn
  obtain ⟨hb, hpub⟩ := not_hasPicked_iff.1 hfirst
  -- the sockets are settled; what is left are the addresses, in each of the four ways of a pick
  refine ⟨?_, hall.trans hopen, ?_, hord⟩
  · rcases pick_cases os env opener s hfirst with
      ⟨f, -, he⟩ | ⟨c, f, s₁, -, he⟩ | ⟨c, socket, s₁, f, -, -, he⟩ |
        ⟨c, socket, s₁, a, -, -, he⟩ <;>
    rw [he] <;> simp [fail, hb, hpub]
  · intro held hheld
    rcases pick_cases os env opener s hfirst with
      ⟨f, -, he⟩ | ⟨c, f, s₁, -, he⟩ | ⟨c, socket, s₁, f, -, -, he⟩ | ⟨c, socket, s₁, a, -, -, he⟩
    · rw [he] at hheld
      cases hheld
    · rw [he] at hheld
      cases hheld
    · rw [he] at hheld
      cases hheld
    · rw [he] at hheld ⊢
      cases hheld
      exact ⟨_, rfl, rfl⟩

/-- Every step keeps picker and journal consistent. -/
theorem step {x : Picker × Session σ} (h : IsConsistent x.1 x.2) (hafresh : opener.OpensAfresh)
    (hclose : opener.ClosesOnFailure x.1.settings.bindAny) (a : Step σ) :
    IsConsistent (Picker.step os opener x a).1 (Picker.step os opener x a).2 := by
  cases a with
  | pick env => exact h.pick os hafresh hclose env
  | look => exact h
  | close =>
    have hr : IsConsistent { x.1 with socket := none } (Picker.release os x.1.socket x.2) :=
      h.release
    exact ⟨hr.together, hr.held, hr.port, hr.orderly⟩
  | world change => exact h.congr rfl rfl

end IsConsistent

/-! ### Whole runs -/

/-- A pick changes nothing in a picker but its addresses and its socket. -/
theorem exists_eq_pick (p : Picker) (env : Surroundings) (os : SocketSystem σ) (opener : Opener σ)
    (s : Session σ) : ∃ bindAddress publicAddress socket, (p.pick env os opener s).2.1 =
      { p with bindAddress := bindAddress, publicAddress := publicAddress, socket := socket } := by
  by_cases hfirst : p.HasPicked
  · rw [pick_of_picked hfirst]
    exact ⟨_, _, _, rfl⟩
  · rcases pick_cases os env opener s hfirst with
      ⟨f, -, he⟩ | ⟨c, f, s₁, -, he⟩ | ⟨c, socket, s₁, f, -, -, he⟩ |
        ⟨c, socket, s₁, a, -, -, he⟩ <;>
    rw [he] <;> exact ⟨_, _, _, rfl⟩

theorem settings_pick (p : Picker) (env : Surroundings) (os : SocketSystem σ) (opener : Opener σ)
    (s : Session σ) : (p.pick env os opener s).2.1.settings = p.settings := by
  obtain ⟨bindAddress, publicAddress, socket, hq⟩ := exists_eq_pick p env os opener s
  rw [hq]

theorem settings_step (x : Picker × Session σ) (a : Step σ) :
    (step os opener x a).1.settings = x.1.settings := by
  cases a with
  | pick env => exact settings_pick x.1 env os opener x.2
  | _ => rfl

theorem settings_run (os : SocketSystem σ) (opener : Opener σ) (steps : List (Step σ))
    (x : Picker × Session σ) :
    (run os opener steps x).1.settings = x.1.settings := by
  induction steps generalizing x with
  | nil => rfl
  | cons a rest ih => rw [run_cons, ih, settings_step]

/-- The invariant holds after every run from a state in which it holds. -/
theorem IsConsistent.run {x : Picker × Session σ} (h : IsConsistent x.1 x.2) (os : SocketSystem σ)
    (hafresh : opener.OpensAfresh) (hclose : opener.ClosesOnFailure x.1.settings.bindAny)
    (steps : List (Step σ)) :
    IsConsistent (Picker.run os opener steps x).1 (Picker.run os opener steps x).2 := by
  induction steps generalizing x with
  | nil => exact h
  | cons a rest ih =>
    rw [run_cons]
    refine ih (h.step hafresh hclose a) ?_
    rwa [settings_step]

/-- A picker that has picked keeps its addresses in every step, and no step asks the opener for
anything. -/
theorem step_of_picked {x : Picker × Session σ} (h : x.1.HasPicked) (os : SocketSystem σ)
    (opener opener' : Opener σ) (a : Step σ) :
    step os opener' x a = step os opener x a ∧
      (step os opener x a).1.bindAddress = x.1.bindAddress ∧
      (step os opener x a).1.publicAddress = x.1.publicAddress := by
  cases a with
  | pick env =>
    have hpick : ∀ o : Opener σ, step os o x (.pick env) = x := fun o => by
      rw [step, pick_of_picked h]
    rw [hpick, hpick]
    exact ⟨rfl, rfl, rfl⟩
  | _ => exact ⟨rfl, rfl, rfl⟩

/-- The same of a whole run. -/
theorem run_of_picked {x : Picker × Session σ} (h : x.1.HasPicked) (os : SocketSystem σ)
    (opener opener' : Opener σ) (steps : List (Step σ)) :
    run os opener' steps x = run os opener steps x ∧
      (run os opener steps x).1.bindAddress = x.1.bindAddress ∧
      (run os opener steps x).1.publicAddress = x.1.publicAddress := by
  induction steps generalizing x with
  | nil => exact ⟨rfl, rfl, rfl⟩
  | cons a rest ih =>
    obtain ⟨hsame, hbind, hpublic⟩ := step_of_picked h os opener opener' a
    have hpicked : (step os opener x a).1.HasPicked := by
      rwa [HasPicked, hbind, hpublic]
    obtain ⟨hrun, hb, hp⟩ := ih hpicked
    rw [run_cons, run_cons, hsame]
    exact ⟨hrun, hb.trans hbind, hp.trans hpublic⟩

/-- In every run of a new picker whose opener closes what it opened when it fails: picker and
journal fit together, no socket is closed twice, addresses that are set stay as they are, and after
a pick that succeeds nothing depends on the opener any more. -/
theorem consistent_run (settings : Settings) (os : SocketSystem σ) (opener : Opener σ)
    (hafresh : opener.OpensAfresh) (hclose : opener.ClosesOnFailure settings.bindAny) (state : σ)
    (steps : List (Step σ)) (p : Picker) (s : Session σ)
    (hrun : run os opener steps (.new settings, .start state) = (p, s)) :
    IsConsistent p s ∧ (closings s.events).Nodup ∧
    (∀ more a, p.bindAddress = some a → (run os opener more (p, s)).1.bindAddress = some a) ∧
    (∀ more a, p.publicAddress = some a → (run os opener more (p, s)).1.publicAddress = some a) ∧
    ∀ env q s', p.pick env os opener s = (.ok (), q, s') →
      ∀ (opener' : Opener σ) (more : List (Step σ)),
        run os opener' more (q, s') = run os opener more (q, s') := by
  have hcons : IsConsistent p s := by
    have h := (IsConsistent.new settings state).run (x := (.new settings, .start state)) os hafresh
      hclose steps
    rwa [hrun] at h
  refine ⟨hcons, hcons.orderly.settled.of_append_right, fun more a ha => ?_, fun more a ha => ?_,
    fun env q s' hpick opener' more => ?_⟩
  · have hpicked : p.HasPicked := .inl (by simp [ha])
    exact (run_of_picked (x := (p, s)) hpicked os opener opener more).2.1.trans ha
  · have hpicked : p.HasPicked := .inr (by simp [ha])
    exact (run_of_picked (x := (p, s)) hpicked os opener opener more).2.2.trans ha
  · have hpicked : q.HasPicked := by
      by_cases hfirst : p.HasPicked
      · rw [pick_of_picked hfirst] at hpick
        cases hpick
        exact hfirst
      · obtain ⟨c, socket, s₁, -, hq⟩ := opens_of_pick_ok hfirst hpick
        exact .inl (by simp [hq])
    exact (run_of_picked (x := (q, s')) hpicked os opener opener' more).1

/-- A picker that picks in vain, picks again when its host has an address, and is closed. -/
def retried : Picker × Session PortTable :=
  run PortTable.system (PortSearch.default.opener PortTable.system)
    [.pick (.ofTables [] []), .look, .pick .oneAddress, .close]
    (.new (.ofLists ["10.0.0.*".toList] []), .start .empty)

/-- The second pick sets the address, and its socket is closed once. -/
theorem consistent_run_retried :
    retried.1.bindAddress = some ⟨"10.0.0.1".toList, 5701, none⟩ ∧
      closings retried.2.events = [0] ∧ IsConsistent retried.1 retried.2 := by
  refine ⟨by decide +kernel, by decide +kernel, ?_⟩
  exact (consistent_run (.ofLists ["10.0.0.*".toList] []) PortTable.system
    (PortSearch.default.opener PortTable.system) (PortSearch.opensAfresh_opener _ _)
    (PortSearch.closesOnFailure_opener _ _ rfl) .empty
    [.pick (.ofTables [] []), .look, .pick .oneAddress, .close] retried.1 retried.2 rfl).1

end Picker

end MemberAddress
