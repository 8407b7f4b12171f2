import MemberAddress.Proofs.Retry

/-!
# After the closing

A picker that was closed never shows a socket again. It may hold one all the same, since a pick does
not look at whether the picker was closed; and what a failed pick left open stays open.

* `Picker.lost` are the sockets that failed picks of a run left open;
* `Picker.Accounts` says where the open sockets of a session come from: they are the one that the
  picker holds and the lost ones. `Picker.Accounts.step` is the step lemma, by cases on the step;
* `Picker.hasPicked_iff_run` and `Picker.socket_run_of_picked` say what a picker holds when it is not
  closed again;
* `Picker.openSockets_of_closed` puts them together.
-/

namespace MemberAddress

theorem filter_notMem_append {news old : List Nat} (h : ∀ id ∈ news, id ∉ old) :
    ((news ++ old).filter fun id => !old.contains id) = news := by
  have hkeep : (news.filter fun id => !old.contains id) = news :=
    List.filter_eq_self.2 fun id hid => by simpa using h id hid
  have hdrop : (old.filter fun id => !old.contains id) = [] :=
    List.filter_eq_nil_iff.2 fun id hid => by simpa using hid
  rw [List.filter_append, hkeep, hdrop, List.append_nil]

namespace Picker

variable {σ : Type} {os : SocketSystem σ} {opener : Opener σ} {p : Picker} {s s' : Session σ}
  {x : Picker × Session σ} {gone : List Nat}

/-! ### Lost sockets -/

/-- The sockets that a step leaves open without an owner: those that are open after a pick that fails
and were not open before. -/
def lostIn (os : SocketSystem σ) (opener : Opener σ) (x : Picker × Session σ) : Step σ → List Nat
  | .pick env =>
    match x.1.pick env os opener x.2 with
    | (.ok _, _) => []
    | (.error _, _, s) => s.openSockets.filter fun id => !x.2.openSockets.contains id
  | _ => []

/-- The sockets that the steps of a run leave open without an owner, the last one first. -/
def lost (os : SocketSystem σ) (opener : Opener σ) :
    List (Step σ) → Picker × Session σ → List Nat
  | [], _ => []
  | a :: rest, x => lost os opener rest (step os opener x a) ++ lostIn os opener x a

/-- Every open socket is the one that the picker holds or a lost one, and only a picker that has
picked holds one. -/
structure Accounts (p : Picker) (s : Session σ) (gone : List Nat) : Prop where
  openSockets : s.openSockets = p.socket.toList.map Socket.id ++ gone
  orderly : OrderlyBetween 0 s.sockets s.events
  socket_eq_none : ¬ p.HasPicked → p.socket = none

namespace Accounts

theorem new (settings : Settings) (state : σ) :
    Accounts (.new settings) (Session.start state) [] where
  openSockets := rfl
  orderly := .nil
  socket_eq_none := fun _ => rfl

/-- A picker that holds no socket has only lost ones open. -/
theorem openSockets_of_none (h : Accounts p s gone) (hnone : p.socket = none) :
    s.openSockets = gone := by
  rw [h.openSockets, hnone]
  rfl

/-- What is new after a piece of work comes on top of what was lost before. -/
theorem afresh (h : Accounts p s gone) (hnone : p.socket = none) {news : List SocketEvent}
    (hn : Session.Afresh s s' news) :
    s'.openSockets = openAfter news ++ gone ∧ OrderlyBetween 0 s'.sockets s'.events ∧
      ∀ id ∈ openAfter news, id ∉ gone := by
  have hopen : openAfter s.events = gone := h.openSockets_of_none hnone
  refine ⟨?_, ?_, fun id hnew hold => ?_⟩
  · rw [Session.openSockets, hn.events, h.orderly.openAfter_append hn.orderly, hopen]
  · rw [hn.events]
    exact h.orderly.append hn.orderly
  · rw [← hopen] at hold
    have hge := (hn.orderly.lt_of_mem (List.mem_append_left _ hnew)).1
    have hlt := (h.orderly.lt_of_mem (List.mem_append_left _ hold)).2
    omega

/-- A pick: the picker holds the new socket if it succeeds, and loses what is left open if not. -/
theorem pick (h : Accounts p s gone) (os : SocketSystem σ) (hafresh : opener.OpensAfresh)
    (env : Surroundings) :
    Accounts (p.pick env os opener s).2.1 (p.pick env os opener s).2.2
      (lostIn os opener (p, s) (.pick env) ++ gone) := by
  by_cases hfirst : p.HasPicked
  · simp only [lostIn, pick_of_picked hfirst]
    exact h
  have hnone := h.socket_eq_none hfirst
  obtain ⟨news, hn, hleft⟩ := afresh_pick_or_failed hfirst hnone os hafresh env s
  rcases hp : p.pick env os opener s with ⟨answer, q, s'⟩
  rw [hp] at hn hleft
  obtain ⟨hopen, hord, hfresh⟩ := h.afresh hnone hn
  cases answer with
  | ok u =>
    have hheld : openAfter news = q.socket.toList.map Socket.id := by
      rcases hleft with hheld | ⟨c, f, s₁, -, he, -⟩
      · exact hheld
      · cases he
    refine ⟨?_, hord, fun hq => ?_⟩
    · simp only [lostIn, hp, List.nil_append]
      rw [hopen, hheld]
    · obtain ⟨c, socket, s₁, -, hb⟩ := opens_of_pick_ok hfirst hp
      exact absurd (.inl (by simp [hb])) hq
  | error f =>
    have hq : q.socket = none := by rw [eq_of_pick_error hp]
    refine ⟨?_, hord, fun _ => hq⟩
    -- of the sockets that are open now, those that were not open before are the new ones
    simp only [lostIn, hp, h.openSockets_of_none hnone]
    rw [hq, hopen, filter_notMem_append hfresh]
    rfl

/-- The closing gives up the socket that is held, and no other. -/
theorem close (h : Accounts p s gone) (os : SocketSystem σ) :
    Accounts (p.close os s).1 (p.close os s).2 gone := by
  cases hs : p.socket with
  | none =>
    have hclose : p.close os s = ({ p with socket := none, closed := true }, s) := by
      rw [Picker.close, hs]
      rfl
    rw [hclose]
    refine ⟨?_, h.orderly, fun _ => rfl⟩
    rw [h.openSockets, hs]
  | some socket =>
    have hclose : p.close os s = ({ p with socket := none, closed := true },
        s.closeSocket os socket.id (some socket.address.port)) := by
      rw [Picker.close, hs]
      rfl
    have hopen : openAfter s.events = socket.id :: gone := by
      have := h.openSockets
      rwa [hs] at this
    have hnodup : (socket.id :: gone).Nodup := hopen ▸ h.orderly.settled.of_append_left
    have hmem : socket.id ∈ openAfter s.events := by simp [hopen]
    rw [hclose]
    refine ⟨?_, h.orderly.close hmem _, fun _ => rfl⟩
    show (openAfter s.events).filter (· != socket.id) = gone
    rw [hopen, ← hnodup.erase_eq_filter, List.erase_cons_head]

/-- Every step accounts for the open sockets. -/
theorem step (h : Accounts x.1 x.2 gone) (hafresh : opener.OpensAfresh) (a : Step σ) :
    Accounts (step os opener x a).1 (step os opener x a).2 (lostIn os opener x a ++ gone) := by
  cases a with
  | pick env => exact h.pick os hafresh env
  | look => exact h
  | close => exact h.close os
  | world change => exact ⟨h.openSockets, h.orderly, h.socket_eq_none⟩

/-- So does every run. -/
theorem run (h : Accounts x.1 x.2 gone) (os : SocketSystem σ) (hafresh : opener.OpensAfresh)
    (steps : List (Step σ)) :
    Accounts (run os opener steps x).1 (run os opener steps x).2
      (lost os opener steps x ++ gone) := by
  induction steps generalizing x gone with
  | nil => exact h
  | cons a rest ih =>
    rw [run_cons, lost, List.append_assoc]
    exact ih (h.step hafresh a)

end Accounts

/-- When the opener closes what it opened in vain, nothing is lost. -/
theorem lost_eq_nil (settings : Settings) (os : SocketSystem σ) (hafresh : opener.OpensAfresh)
    (hclose : opener.ClosesOnFailure settings.bindAny) (state : σ) (steps : List (Step σ)) :
    lost os opener steps (.new settings, .start state) = [] := by
  have hheld := ((IsConsistent.new settings state).run (x := (.new settings, .start state)) os
    hafresh hclose steps).held
  have hall := ((Accounts.new settings state).run (x := (.new settings, .start state)) os hafresh
    steps).openSockets
  rw [hheld] at hall
  simpa using hall

/-! ### The mark of a closing -/

theorem closed_pick (p : Picker) (env : Surroundings) (os : SocketSystem σ) (opener : Opener σ)
    (s : Session σ) : (p.pick env os opener s).2.1.closed = p.closed := by
  obtain ⟨bindAddress, publicAddress, socket, hq⟩ := exists_eq_pick p env os opener s
  rw [hq]

/-- A picker that was closed once stays marked as closed. -/
theorem closed_run (h : x.1.closed = true) (os : SocketSystem σ) (opener : Opener σ)
    (steps : List (Step σ)) : (run os opener steps x).1.closed = true := by
  induction steps generalizing x with
  | nil => exact h
  | cons a rest ih =>
    rw [run_cons]
    apply ih
    cases a with
    | pick env => exact (closed_pick x.1 env os opener x.2).trans h
    | look => exact h
    | close => rfl
    | world change => exact h

/-! ### What a picker holds that is not closed again -/

theorem run_append (before after : List (Step σ)) (x : Picker × Session σ) :
    run os opener (before ++ after) x = run os opener after (run os opener before x) := by
  induction before generalizing x with
  | nil => rfl
  | cons a rest ih => exact ih _

/-- A picker that has picked keeps the socket that it holds, or none, until it is closed. -/
theorem socket_run_of_picked (h : x.1.HasPicked) (os : SocketSystem σ) (opener : Opener σ)
    {steps : List (Step σ)} (hsteps : .close ∉ steps) :
    (run os opener steps x).1.socket = x.1.socket := by
  induction steps generalizing x with
  | nil => rfl
  | cons a rest ih =>
    obtain ⟨-, hbind, hpublic⟩ := step_of_picked h os opener opener a
    have hpicked : (step os opener x a).1.HasPicked := by
      rwa [HasPicked, hbind, hpublic]
    rw [run_cons, ih hpicked fun hm => hsteps (List.mem_cons_of_mem _ hm)]
    cases a with
    | pick env => rw [step, pick_of_picked h]
    | close => exact absurd List.mem_cons_self hsteps
    | _ => rfl

/-- As long as it is not closed, a picker holds a socket just when it has picked. -/
theorem hasPicked_iff_step (h : x.1.HasPicked ↔ x.1.socket.isSome = true) (os : SocketSystem σ)
    (opener : Opener σ) {a : Step σ} (ha : a ≠ .close) :
    (step os opener x a).1.HasPicked ↔ (step os opener x a).1.socket.isSome = true := by
  cases a with
  | pick env =>
    by_cases hfirst : x.1.HasPicked
    · rw [step, pick_of_picked hfirst]
      exact h
    · rw [step]
      rcases pick_cases os env opener x.2 hfirst with
        ⟨f, -, he⟩ | ⟨c, f, s₁, -, he⟩ | ⟨c, socket, s₁, f, -, -, he⟩ |
          ⟨c, socket, s₁, a, -, -, he⟩
      · rw [he]
        exact iff_of_false hfirst (by simp [fail])
      · rw [he]
        exact iff_of_false hfirst (by simp [fail])
      · rw [he]
        exact iff_of_false hfirst (by simp [fail])
      · rw [he]
        exact iff_of_true (.inl rfl) rfl
  | look => exact h
  | close => exact absurd rfl ha
  | world change => exact h

theorem hasPicked_iff_run (h : x.1.HasPicked ↔ x.1.socket.isSome = true) (os : SocketSystem σ)
    (opener : Opener σ) {steps : List (Step σ)} (hsteps : .close ∉ steps) :
    (run os opener steps x).1.HasPicked ↔ (run os opener steps x).1.socket.isSome = true := by
  induction steps generalizing x with
  | nil => exact h
  | cons a rest ih =>
    have ha : a ≠ .close := fun he => hsteps (by simp [he])
    rw [run_cons]
    exact ih (hasPicked_iff_step h os opener ha) fun hm => hsteps (List.mem_cons_of_mem _ hm)

/-- After its last closing, a picker holds no socket exactly when it had picked before or has not
picked since. -/
theorem socket_eq_none_iff_of_close (x : Picker × Session σ) (os : SocketSystem σ)
    (opener : Opener σ) {steps : List (Step σ)} (hsteps : .close ∉ steps) :
    (run os opener steps (x.1.close os x.2)).1.socket = none ↔
      x.1.HasPicked ∨ ¬ (run os opener steps (x.1.close os x.2)).1.HasPicked := by
  by_cases hpicked : x.1.HasPicked
  · have hsocket := socket_run_of_picked (x := x.1.close os x.2) hpicked os opener hsteps
    exact iff_of_true hsocket (.inl hpicked)
  · have hnone : ¬ (x.1.close os x.2).1.HasPicked := hpicked
    have hrun := hasPicked_iff_run (x := x.1.close os x.2)
      (iff_of_false hnone (by simp [close])) os opener hsteps
    rw [or_iff_right hpicked, hrun]
    simp

/-! ### After the closing -/

/-- After a picker was closed, it shows no socket. What is open is the socket that it holds all the
same, and what failed picks left open. After the last closing, nothing is open exactly when nothing
was left open by a failed pick, and the picker had picked before that closing or has not picked
since. -/
theorem openSockets_of_closed (settings : Settings) (os : SocketSystem σ) (opener : Opener σ)
    (hafresh : opener.OpensAfresh) (state : σ) (before after : List (Step σ)) (p q : Picker)
    (s t : Session σ) (hp : run os opener before (.new settings, .start state) = (p, s))
    (hq : run os opener (before ++ .close :: after) (.new settings, .start state) = (q, t)) :
    q.serverSocket = .error .closed ∧
    t.openSockets = q.socket.toList.map Socket.id ++
      lost os opener (before ++ .close :: after) (.new settings, .start state) ∧
    (.close ∉ after → (t.openSockets = [] ↔
      lost os opener (before ++ .close :: after) (.new settings, .start state) = [] ∧
        (p.HasPicked ∨ ¬ q.HasPicked))) := by
  have hclosed : run os opener after (p.close os s) = (q, t) := by
    rw [run_append, hp] at hq
    exact hq
  have hmark : q.closed = true := by
    have h := closed_run (x := p.close os s) rfl os opener after
    rwa [hclosed] at h
  have hopen : t.openSockets = q.socket.toList.map Socket.id ++
      lost os opener (before ++ .close :: after) (.new settings, .start state) := by
    have h := ((Accounts.new settings state).run (x := (.new settings, .start state)) os hafresh
      (before ++ .close :: after)).openSockets
    rwa [hq, List.append_nil] at h
  refine ⟨if_pos hmark, hopen, fun hlast => ?_⟩
  have hsocket : q.socket = none ↔ p.HasPicked ∨ ¬ q.HasPicked := by
    have h := socket_eq_none_iff_of_close (p, s) os opener hlast
    rwa [hclosed] at h
  rw [hopen, List.append_eq_nil_iff, ← hsocket, and_comm]
  simp

/-- A picker that picks, is closed, and is asked to pick again. -/
def closedLate : Picker × Session PortTable :=
  run PortTable.system (PortSearch.default.opener PortTable.system)
    ([.pick .oneAddress] ++ .close :: [.pick .oneAddress, .look]) (.new .default, .start .empty)

/-- It shows no socket and holds none. -/
theorem openSockets_of_closed_late :
    closedLate.1.serverSocket = .error .closed ∧ closedLate.2.openSockets = [] := by
  obtain ⟨hshow, -, hopen⟩ := openSockets_of_closed .default PortTable.system
    (PortSearch.default.opener PortTable.system) (PortSearch.opensAfresh_opener _ _) .empty
    [.pick .oneAddress] [.pick .oneAddress, .look] _ closedLate.1 _ closedLate.2 rfl rfl
  have hlost := lost_eq_nil .default PortTable.system
    (PortSearch.opensAfresh_opener PortTable.system .default)
    (PortSearch.closesOnFailure_opener _ _ rfl) .empty
    ([.pick .oneAddress] ++ .close :: [.pick .oneAddress, .look])
  exact ⟨hshow, (hopen (by simp)).2 ⟨hlost, .inl (by decide +kernel)⟩⟩

/-- After it was closed, a picker shows no socket and none that it opened is open. -/
def HoldsNothingClosed (settings : Settings) (os : SocketSystem σ) (opener : Opener σ)
    (state : σ) : Prop :=
  ∀ (before after : List (Step σ)) (q : Picker) (t : Session σ),
    run os opener (before ++ .close :: after) (.new settings, .start state) = (q, t) →
      q.serverSocket = .error .closed ∧ t.openSockets = []

/-- A picker that is closed before it is asked to pick for the first time. -/
def closedEarly : Picker × Session PortTable :=
  run PortTable.system (PortSearch.default.opener PortTable.system)
    ([] ++ .close :: [.pick .oneAddress]) (.new .default, .start .empty)

/-- It opens a socket, and nobody is shown this socket. -/
theorem not_holdsNothingClosed_early :
    ¬ HoldsNothingClosed .default PortTable.system (PortSearch.default.opener PortTable.system)
      .empty := by
  intro h
  obtain ⟨-, hnone⟩ := h [] [.pick .oneAddress] closedEarly.1 closedEarly.2 rfl
  have hone : closedEarly.2.openSockets = [0] := by decide +kernel
  rw [hone] at hnone
  cases hnone

end Picker

end MemberAddress
