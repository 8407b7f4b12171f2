import MemberAddress.Proofs.Leaks

/-!
# The calls for one port

Trying one port is a fresh socket and a row of calls to the operating system. If the system grants
them all, the socket is the answer; if it refuses one, the socket is closed.

* `PortSearch.calls` are the calls in their order;
* `PortSearch.Opens` and `PortSearch.Fails` say what it is to have a port and to fail, and
  `PortSearch.RefusesCall` what a failure is to the system;
* `PortSearch.opens_or_fails` says that trying a port is one or the other, for a socket that the
  system grants and a readable zone; `PortSearch.attempt_of_refused` is about one that it refuses.
-/

namespace MemberAddress

namespace PortSearch

variable {σ : Type} {os : SocketSystem σ} {p : PortSearch} {address : Inet} {bindAny : Bool}
  {port : Int} {s s' : Session σ} {e : SystemError}

/-! ### The calls -/

/-- Sharing the address, if the settings say so. -/
def shareCall (os : SocketSystem σ) (p : PortSearch) (id : Nat) :
    ExceptT SystemError (StateM σ) Unit :=
  if p.reuseAddress.isTrue then ExceptT.mk (os.reuse id) else pure ()

/-- The index of a zone: the number that its digits denote, or the answer of the system for its
name. Without a zone it is zero. -/
def indexCall (os : SocketSystem σ) : Option Zone → ExceptT SystemError (StateM σ) Nat
  | none => pure 0
  | some zone =>
    if zone.text.all Text.isDigitSymbol then
      pure ((Text.numeral? 10 Text.digit? zone.text).getD 0)
    else ExceptT.mk (os.zoneIndex zone.text)

/-- The address to bind to. Only groups have a zone, and its index. -/
def target (version : Version) (host : Text) (port : Int) (index : Nat) : SocketAddress :=
  match version with
  | .v4 => .v4 host port
  | .v6 => .v6 host port index

/-- The calls for one port, on a socket that was created. The first one that is refused is the
last. -/
def calls (os : SocketSystem σ) (p : PortSearch) (address : Inet) (bindAny : Bool) (id : Nat)
    (port : Int) : ExceptT SystemError (StateM σ) SocketAddress := do
  shareCall os p id
  let index ← indexCall os (bindZone address bindAny)
  let name ← ExceptT.mk (os.bind id (target address.version (bindHost address bindAny) port index))
  ExceptT.mk (os.listen id p.backlog)
  return name

section Run

variable {ε α β : Type} {x : ExceptT ε (StateM σ) α} {f : α → ExceptT ε (StateM σ) β}
  {state state' : σ}

theorem run_bind_ok {a : α} (h : x.run state = (.ok a, state')) :
    (x >>= f).run state = (f a).run state' := by
  simp only [ExceptT.run] at h
  simp only [ExceptT.run, bind, ExceptT.bind, ExceptT.mk, StateT.bind, h, ExceptT.bindCont]

theorem run_bind_error {e : ε} (h : x.run state = (.error e, state')) :
    (x >>= f).run state = (.error e, state') := by
  simp only [ExceptT.run] at h
  simp only [ExceptT.run, bind, ExceptT.bind, ExceptT.mk, StateT.bind, h, ExceptT.bindCont]
  rfl

end Run

theorem shareCall_run {id : Nat} {answer : Except SystemError Unit}
    (h : shareAddress os p id s = (answer, s')) :
    (shareCall os p id).run s.state = (answer, s'.state) := by
  unfold shareAddress at h
  unfold shareCall
  split at h
  · next hshare =>
    cases h
    rw [if_pos hshare]
    rfl
  · next hshare =>
    cases h
    rw [if_neg hshare]
    rfl

/-- With a readable zone, the address to bind to comes from the call for the index. -/
theorem socketAddress_eq (h : ∀ z, bindZone address bindAny = some z → z.IsReadable) (host : Text)
    (state : σ) :
    socketAddress os address.version host (bindZone address bindAny) port state =
      match (indexCall os (bindZone address bindAny)).run state with
      | (.ok index, state') => (.ok (target address.version host port index), state')
      | (.error e, state') => (.error (.inl e), state') := by
  cases address with
  | v4 bits =>
    have hnone : bindZone (.v4 bits) bindAny = none := by cases bindAny <;> rfl
    rw [hnone]
    rfl
  | v6 bits zone =>
    cases hz : bindZone (.v6 bits zone) bindAny with
    | none => rfl
    | some z =>
      show socketAddress os .v6 host (some z) port state = _
      unfold socketAddress zoneIndex indexCall
      by_cases hall : z.text.all Text.isDigitSymbol = true
      · obtain ⟨hdigits, hlen⟩ := h z hz hall
        have hwhole : z.text.takeWhile Text.isDigit = z.text :=
          List.takeWhile_eq_self_iff.2 (List.all_eq_true.1 hdigits)
        obtain ⟨n, hn⟩ : ∃ n, Text.numeral? 10 Text.digit? z.text = some n :=
          Text.exists_numeral? z.ne_nil (List.all_eq_true.1 hdigits)
        simp only [if_pos hall, hwhole, if_neg (Nat.not_lt.2 hlen), hn]
        rfl
      · simp only [if_neg hall]
        have hcall : (ExceptT.mk (os.zoneIndex z.text) : ExceptT SystemError (StateM σ) Nat).run
            state = os.zoneIndex z.text state := rfl
        rw [hcall]
        rcases os.zoneIndex z.text state with ⟨_ | n, state'⟩
        · rfl
        · rfl

/-- What the calls for one port come to: a socket that is open, or an error and a socket that is
closed. -/
def ComesTo (os : SocketSystem σ) (id : Nat) (result : Except SystemError SocketAddress × σ)
    (a : Attempt) (s' : Session σ) : Prop :=
  match result with
  | (.ok name, state) => a = .opened ⟨id, name⟩ ∧ s'.state = state
  | (.error e, state) => a = .failed e ∧ s'.state = os.close id state

theorem bindAndListen_comesTo {id : Nat} {goal : SocketAddress} {a : Attempt}
    (h : bindAndListen os p id goal s = (a, s')) :
    ComesTo os id ((do
      let name ← ExceptT.mk (os.bind id goal)
      ExceptT.mk (os.listen id p.backlog)
      return name : ExceptT SystemError (StateM σ) SocketAddress).run s.state) a s' := by
  unfold bindAndListen at h
  split at h
  · next e state hbind =>
    cases h
    rw [run_bind_error (x := ExceptT.mk (os.bind id goal)) hbind]
    exact ⟨rfl, rfl⟩
  · next name state hbind =>
    rw [run_bind_ok (x := ExceptT.mk (os.bind id goal)) hbind]
    dsimp only at h
    split at h
    · next e state' hlisten =>
      cases h
      have hlisten : os.listen id p.backlog state = (.error e, state') := hlisten
      rw [run_bind_error (x := ExceptT.mk (os.listen id p.backlog)) hlisten]
      exact ⟨rfl, rfl⟩
    · next state' hlisten =>
      cases h
      have hlisten : os.listen id p.backlog state = (.ok (), state') := hlisten
      rw [run_bind_ok (x := ExceptT.mk (os.listen id p.backlog)) hlisten]
      exact ⟨rfl, rfl⟩

/-- Trying one port is creating a socket and its calls. -/
theorem attempt_comesTo (h : ∀ z, bindZone address bindAny = some z → z.IsReadable) {created : σ}
    (hc : os.create s.sockets address.version s.state = (.ok (), created)) {a : Attempt}
    (ha : attempt os p address.version (bindHost address bindAny) (bindZone address bindAny) port
      s = (a, s')) :
    ComesTo os s.sockets ((calls os p address bindAny s.sockets port).run created) a s' := by
  unfold attempt attemptAt at ha
  dsimp only at ha
  rw [hc] at ha
  dsimp only at ha
  split at ha
  · next e s₁ hshare =>
    cases ha
    have hcall : (shareCall os p s.sockets).run created = (.error e, s₁.state) :=
      shareCall_run hshare
    rw [calls, run_bind_error hcall]
    exact ⟨rfl, rfl⟩
  · next s₁ hshare =>
    have hcall : (shareCall os p s.sockets).run created = (.ok (), s₁.state) :=
      shareCall_run hshare
    rw [calls, run_bind_ok hcall]
    rw [socketAddress_eq h] at ha
    rcases hindex : (indexCall os (bindZone address bindAny)).run s₁.state with ⟨e | index, state⟩
    · rw [hindex] at ha
      cases ha
      rw [run_bind_error hindex]
      exact ⟨rfl, rfl⟩
    · rw [hindex] at ha
      rw [run_bind_ok hindex]
      exact bindAndListen_comesTo ha

/-! ### One port -/

/-- A port fails: a fresh socket of the version of the address is created, the system refuses
one of the calls, and the socket is closed. -/
structure Fails (os : SocketSystem σ) (p : PortSearch) (address : Inet) (bindAny : Bool)
    (port : Int) (s : Session σ) (e : SystemError) (s' : Session σ) : Prop where
  refused : ∃ created state, os.create s.sockets address.version s.state = (.ok (), created) ∧
    (calls os p address bindAny s.sockets port).run created = (.error e, state) ∧
    s'.state = os.close s.sockets state
  sockets : s'.sockets = s.sockets + 1
  journal : ∃ quiet bound, (∀ event ∈ quiet, event.IsQuiet ∧ event.socket? = some s.sockets) ∧
    s'.events = .closed s.sockets bound :: quiet ++
      .created s.sockets address.version :: s.events

/-- A port is had: a fresh socket of the version of the address is created, the system grants
all calls, and the socket stays open. -/
structure Opens (os : SocketSystem σ) (p : PortSearch) (address : Inet) (bindAny : Bool)
    (port : Int) (s : Session σ) (socket : Socket) (s' : Session σ) : Prop where
  granted : ∃ created, os.create s.sockets address.version s.state = (.ok (), created) ∧
    (calls os p address bindAny s.sockets port).run created = (.ok socket.address, s'.state)
  id : socket.id = s.sockets
  sockets : s'.sockets = s.sockets + 1
  journal : ∃ quiet, (∀ event ∈ quiet, event.IsQuiet ∧ event.socket? = some s.sockets) ∧
    s'.events = quiet ++ .created s.sockets address.version :: s.events

/-- The system creates a socket for a port and then refuses one of the calls. -/
def RefusesCall (os : SocketSystem σ) (p : PortSearch) (address : Inet) (bindAny : Bool)
    (port : Int) (s : Session σ) : Prop :=
  ∃ created state e, os.create s.sockets address.version s.state = (.ok (), created) ∧
    (calls os p address bindAny s.sockets port).run created = (.error e, state)

theorem Opens.not_refusesCall {socket : Socket} (h : Opens os p address bindAny port s socket s') :
    ¬ RefusesCall os p address bindAny port s := by
  rintro ⟨created, state, e, hc, hcalls⟩
  obtain ⟨created', hc', hcalls'⟩ := h.granted
  rw [hc] at hc'
  cases hc'
  rw [hcalls] at hcalls'
  cases hcalls'

/-- A socket that is not created is asked nothing. -/
theorem not_refusesCall (h : (os.create s.sockets address.version s.state).1 = .error e) :
    ¬ RefusesCall os p address bindAny port s := by
  rintro ⟨created, state, e', hc, -⟩
  rw [hc] at h
  cases h

/-- A socket that was created has the port, or it fails; nothing else ends the search. -/
theorem opens_or_fails {created : σ} {a : Attempt}
    (hc : os.create s.sockets address.version s.state = (.ok (), created))
    (hzone : ∀ z, bindZone address bindAny = some z → z.IsReadable)
    (h : attempt os p address.version (bindHost address bindAny) (bindZone address bindAny) port
      s = (a, s')) :
    (∃ socket, a = .opened socket ∧ Opens os p address bindAny port s socket s') ∨
      ∃ e, a = .failed e ∧ Fails os p address bindAny port s e s' := by
  have hcomes := attempt_comesTo hzone hc h
  obtain ⟨hsockets, hjournal⟩ :=
    attemptAt_journal (fun _ _ _ hf => isZoneFault_of_socketAddress hf) h
  rcases hcalls : (calls os p address bindAny s.sockets port).run created with ⟨e | name, state⟩
  · rw [hcalls] at hcomes
    obtain ⟨rfl, hstate⟩ := hcomes
    refine .inr ⟨e, rfl, ⟨created, state, hc, hcalls, hstate⟩, hsockets, ?_⟩
    rcases hjournal with ⟨e', ha, -⟩ | ⟨quiet, hq, ⟨name, ha, -⟩ | ⟨e', bound, -, he⟩ | ⟨f, ha, -⟩⟩
    · cases ha
    · cases ha
    · exact ⟨quiet, bound, hq, he⟩
    · cases ha
  · rw [hcalls] at hcomes
    obtain ⟨rfl, rfl⟩ := hcomes
    refine .inl ⟨⟨s.sockets, name⟩, rfl, ⟨created, hc, hcalls⟩, rfl, hsockets, ?_⟩
    rcases hjournal with ⟨e', ha, -⟩ | ⟨quiet, hq, ⟨name', -, he⟩ | ⟨e', bound, ha, -⟩ | ⟨f, ha, -⟩⟩
    · cases ha
    · exact ⟨quiet, hq, he⟩
    · cases ha
    · cases ha

/-- A socket that is not created ends the search, and its error is what is left. -/
theorem attempt_of_refused {refusing : σ} {version : Version} {host : Text} {zone : Option Zone}
    {a : Attempt} (hc : os.create s.sockets version s.state = (.error e, refusing))
    (h : attempt os p version host zone port s = (a, s')) :
    a = .aborted (.outside e.toOutside) := by
  unfold attempt attemptAt at h
  dsimp only at h
  rw [hc] at h
  cases h
  rfl

/-- What the system does is given by its state, so a port that fails does so in one way. -/
theorem Fails.unique {t s₁ t₁ : Session σ} {e' : SystemError}
    (h : Fails os p address bindAny port s e s₁) (h' : Fails os p address bindAny port t e' t₁)
    (hstate : t.state = s.state) (hsockets : t.sockets = s.sockets) :
    t₁.state = s₁.state ∧ t₁.sockets = s₁.sockets := by
  obtain ⟨created, state, hc, hcalls, hclose⟩ := h.refused
  obtain ⟨created', state', hc', hcalls', hclose'⟩ := h'.refused
  rw [hstate, hsockets, hc] at hc'
  cases hc'
  rw [hsockets, hcalls] at hcalls'
  cases hcalls'
  rw [hclose', hclose, h'.sockets, h.sockets, hsockets]
  exact ⟨rfl, rfl⟩

end PortSearch

end MemberAddress
