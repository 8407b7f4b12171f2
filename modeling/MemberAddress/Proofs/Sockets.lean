import MemberAddress.Socket.PortSearch
import Mathlib.Tactic

/-!
# What the journal says about sockets

The events of a session tell which sockets are open and which were closed. A piece of work is
orderly (`Session.Afresh`) when it deals only with sockets that it asked for itself and closes none
of them twice; such pieces can be put one after another (`OrderlyBetween.append`).

* `PortSearch.attemptAt_journal` lists what trying one port writes;
* `PortSearch.afresh_attemptAt` and `PortSearch.afresh_searchBy` say that it is orderly, by
  induction on the number of trials;
* `PortSearch.afresh_openSocket` says the same of the whole search, and that nothing stays open
  unless a socket is returned or the address was at fault (`PortSearch.IsAddressFault`).
-/

namespace MemberAddress

/-! ### The journal -/

namespace Session

variable {σ α : Type} (s : Session σ)

@[simp] theorem events_log (severity : Severity) (component message : Text) :
    (s.log severity component message).events = s.events := rfl

@[simp] theorem state_log (severity : Severity) (component message : Text) :
    (s.log severity component message).state = s.state := rfl

@[simp] theorem sockets_log (severity : Severity) (component message : Text) :
    (s.log severity component message).sockets = s.sockets := rfl

@[simp] theorem events_absorb (x : Logged α) : (s.absorb x).events = s.events := rfl

@[simp] theorem state_absorb (x : Logged α) : (s.absorb x).state = s.state := rfl

@[simp] theorem sockets_absorb (x : Logged α) : (s.absorb x).sockets = s.sockets := rfl

@[simp] theorem events_note (event : SocketEvent) (state : σ) :
    (s.note event state).events = event :: s.events := rfl

@[simp] theorem sockets_note (event : SocketEvent) (state : σ) :
    (s.note event state).sockets = s.sockets := rfl

@[simp] theorem events_closeSocket (os : SocketSystem σ) (id : Nat) (port : Option Int) :
    (s.closeSocket os id port).events = .closed id port :: s.events := rfl

@[simp] theorem sockets_closeSocket (os : SocketSystem σ) (id : Nat) (port : Option Int) :
    (s.closeSocket os id port).sockets = s.sockets := rfl

end Session

/-! ### Events -/

namespace SocketEvent

/-- The socket that an event is about. -/
def socket? : SocketEvent → Option Nat
  | .created id _ | .reused id | .bound id _ | .listening id _ | .closed id _ => some id
  | .refused _ => none

/-- The socket that an event closes. -/
def closed? : SocketEvent → Option Nat
  | .closed id _ => some id
  | _ => none

/-- Whether an event neither creates nor closes a socket. -/
def IsQuiet : SocketEvent → Prop
  | .created _ _ | .closed _ _ => False
  | _ => True

theorem socket?_of_closed? {e : SocketEvent} {id : Nat} (h : e.closed? = some id) :
    e.socket? = some id := by
  cases e with
  | closed id' port => exact h
  | _ => cases h

end SocketEvent

/-- The sockets that were closed, the last one first. -/
def closings (events : List SocketEvent) : List Nat := events.filterMap SocketEvent.closed?

theorem closings_append (news old : List SocketEvent) :
    closings (news ++ old) = closings news ++ closings old := List.filterMap_append

theorem exists_event_of_mem_closings {events : List SocketEvent} {id : Nat}
    (h : id ∈ closings events) : ∃ e ∈ events, e.socket? = some id := by
  obtain ⟨e, he, hc⟩ := List.mem_filterMap.1 h
  exact ⟨e, he, SocketEvent.socket?_of_closed? hc⟩

theorem exists_event_of_mem_openAfter {events : List SocketEvent} {id : Nat}
    (h : id ∈ openAfter events) : ∃ e ∈ events, e.socket? = some id := by
  induction events with
  | nil => cases h
  | cons e rest ih =>
    cases e with
    | created id' version =>
      rcases List.mem_cons.1 h with rfl | h
      · exact ⟨_, List.mem_cons_self, rfl⟩
      · obtain ⟨e, he, hs⟩ := ih h
        exact ⟨e, List.mem_cons_of_mem _ he, hs⟩
    | closed id' port =>
      obtain ⟨e, he, hs⟩ := ih (List.mem_filter.1 h).1
      exact ⟨e, List.mem_cons_of_mem _ he, hs⟩
    | _ =>
      obtain ⟨e, he, hs⟩ := ih h
      exact ⟨e, List.mem_cons_of_mem _ he, hs⟩

/-- News about other sockets leave the open ones open. -/
theorem openAfter_append {news old : List SocketEvent}
    (h : ∀ e ∈ news, ∀ id ∈ openAfter old, e.socket? ≠ some id) :
    openAfter (news ++ old) = openAfter news ++ openAfter old := by
  induction news with
  | nil => rfl
  | cons e rest ih =>
    have ih := ih fun e he => h e (List.mem_cons_of_mem _ he)
    cases e with
    | created id version => exact congrArg (id :: ·) ih
    | closed id port =>
      have hold : (openAfter old).filter (· != id) = openAfter old := by
        refine List.filter_eq_self.2 fun id' hid' => ?_
        have hne : id ≠ id' := by simpa [SocketEvent.socket?] using h _ List.mem_cons_self id' hid'
        simpa using hne.symm
      rw [List.cons_append, openAfter, ih, List.filter_append, hold, openAfter]
    | _ => exact ih

/-- Quiet events open nothing and close nothing. -/
theorem openAfter_quiet_append {news old : List SocketEvent} (h : ∀ e ∈ news, e.IsQuiet) :
    openAfter (news ++ old) = openAfter old := by
  induction news with
  | nil => rfl
  | cons e rest ih =>
    have hq := h e List.mem_cons_self
    have ih := ih fun e he => h e (List.mem_cons_of_mem _ he)
    cases e with
    | created id version => exact hq.elim
    | closed id port => exact hq.elim
    | _ => exact ih

theorem closings_quiet {news : List SocketEvent} (h : ∀ e ∈ news, e.IsQuiet) :
    closings news = [] := by
  refine List.filterMap_eq_nil_iff.2 fun e he => ?_
  have hq := h e he
  cases e with
  | closed id port => exact hq.elim
  | _ => rfl

/-! ### Orderly work -/

/-- News that are only about sockets with numbers from `low` on and below `high`, each of which is
left open at most once or closed at most once. -/
structure OrderlyBetween (low high : Nat) (news : List SocketEvent) : Prop where
  le : low ≤ high
  own : ∀ e ∈ news, ∀ id, e.socket? = some id → low ≤ id ∧ id < high
  settled : (openAfter news ++ closings news).Nodup

namespace OrderlyBetween

variable {low mid high : Nat} {old news : List SocketEvent}

theorem nil : OrderlyBetween low low [] := ⟨le_rfl, by simp, List.nodup_nil⟩

theorem lt_of_mem (h : OrderlyBetween low high news) {id : Nat}
    (hid : id ∈ openAfter news ++ closings news) : low ≤ id ∧ id < high := by
  obtain ⟨e, he, hs⟩ : ∃ e ∈ news, e.socket? = some id := by
    rcases List.mem_append.1 hid with hid | hid
    · exact exists_event_of_mem_openAfter hid
    · exact exists_event_of_mem_closings hid
  exact h.own e he id hs

/-- What is open after orderly news and before them. -/
theorem openAfter_append (h₁ : OrderlyBetween low mid old) (h₂ : OrderlyBetween mid high news) :
    openAfter (news ++ old) = openAfter news ++ openAfter old := by
  refine MemberAddress.openAfter_append fun e he id hid hs => ?_
  have hge := (h₂.own e he id hs).1
  have hlt := (h₁.lt_of_mem (List.mem_append_left _ hid)).2
  omega

/-- Orderly news after orderly news: they are about other sockets. -/
theorem append (h₁ : OrderlyBetween low mid old) (h₂ : OrderlyBetween mid high news) :
    OrderlyBetween low high (news ++ old) where
  le := h₁.le.trans h₂.le
  own := by
    intro e he id hid
    have hle₁ := h₁.le
    have hle₂ := h₂.le
    rcases List.mem_append.1 he with he | he
    · have := h₂.own e he id hid
      omega
    · have := h₁.own e he id hid
      omega
  settled := by
    have hperm : (openAfter (news ++ old) ++ closings (news ++ old)).Perm
        ((openAfter news ++ closings news) ++ (openAfter old ++ closings old)) := by
      rw [openAfter_append h₁ h₂, closings_append, List.append_assoc, List.append_assoc]
      refine List.Perm.append_left _ ?_
      rw [← List.append_assoc, ← List.append_assoc]
      exact List.Perm.append_right _ List.perm_append_comm
    refine hperm.nodup_iff.2 (List.Nodup.append h₂.settled h₁.settled fun id hid₂ hid₁ => ?_)
    have hge := (h₂.lt_of_mem hid₂).1
    have hlt := (h₁.lt_of_mem hid₁).2
    omega

/-- A socket that is open may be closed. -/
theorem close (h : OrderlyBetween low high news) {id : Nat} (hid : id ∈ openAfter news)
    (port : Option Int) : OrderlyBetween low high (.closed id port :: news) where
  le := h.le
  own := by
    intro e he id' hid'
    rcases List.mem_cons.1 he with rfl | he
    · obtain rfl : id = id' := Option.some.inj hid'
      exact h.lt_of_mem (List.mem_append_left _ hid)
    · exact h.own e he id' hid'
  settled := by
    have hnodup : (openAfter news).Nodup := h.settled.of_append_left
    have hperm : (openAfter news ++ closings news).Perm
        ((openAfter news).filter (· != id) ++ id :: closings news) := by
      rw [← hnodup.erase_eq_filter]
      exact ((List.perm_cons_erase hid).append_right _).trans List.perm_middle.symm
    exact hperm.nodup_iff.1 h.settled

end OrderlyBetween

namespace Session

variable {σ : Type} {s s₁ s₂ : Session σ} {news news₁ news₂ : List SocketEvent}

/-- Between two sessions the news came to the journal, and they are orderly about the sockets that
were asked for in between. -/
structure Afresh (s s₁ : Session σ) (news : List SocketEvent) : Prop where
  events : s₁.events = news ++ s.events
  orderly : OrderlyBetween s.sockets s₁.sockets news

namespace Afresh

/-- Work that leaves the journal alone. -/
theorem nil (he : s₁.events = s.events) (hs : s₁.sockets = s.sockets) : Afresh s s₁ [] :=
  ⟨he, hs ▸ .nil⟩

/-- Orderly work after orderly work. -/
theorem trans (h₁ : Afresh s s₁ news₁) (h₂ : Afresh s₁ s₂ news₂) : Afresh s s₂ (news₂ ++ news₁) :=
  ⟨by rw [h₂.events, h₁.events, List.append_assoc], h₁.orderly.append h₂.orderly⟩

/-- More records at the end change nothing. -/
theorem congr_right (h : Afresh s s₁ news) (he : s₂.events = s₁.events)
    (hs : s₂.sockets = s₁.sockets) : Afresh s s₂ news :=
  ⟨he.trans h.events, hs ▸ h.orderly⟩

/-- More records at the start change nothing. -/
theorem congr_left (h : Afresh s₁ s₂ news) (he : s₁.events = s.events)
    (hs : s₁.sockets = s.sockets) : Afresh s s₂ news :=
  ⟨he ▸ h.events, hs ▸ h.orderly⟩

end Afresh

end Session

/-! ### One port -/

namespace PortSearch

variable {σ : Type} {os : SocketSystem σ} {p : PortSearch} {version : Version} {host : Text}
  {zone : Option Zone} {port : Int} {id : Nat} {s s' : Session σ} {a : Attempt}

/-- Sharing the address is at most one quiet event. -/
theorem shareAddress_journal {answer : Except SystemError Unit}
    (h : shareAddress os p id s = (answer, s')) :
    s'.sockets = s.sockets ∧ ∃ quiet, (∀ e ∈ quiet, e.IsQuiet ∧ e.socket? = some id) ∧
      s'.events = quiet ++ s.events := by
  unfold shareAddress at h
  split at h
  · cases h
    exact ⟨rfl, [.reused id], by simp [SocketEvent.IsQuiet, SocketEvent.socket?], rfl⟩
  · cases h
    exact ⟨rfl, [], by simp, rfl⟩

/-- Binding and listening end with a socket that listens, or with one that is closed. -/
theorem bindAndListen_journal {address : SocketAddress}
    (h : bindAndListen os p id address s = (a, s')) :
    s'.sockets = s.sockets ∧ ∃ quiet, (∀ e ∈ quiet, e.IsQuiet ∧ e.socket? = some id) ∧
      ((∃ name, a = .opened ⟨id, name⟩ ∧ s'.events = quiet ++ s.events) ∨
        ∃ e bound, a = .failed e ∧ s'.events = .closed id bound :: quiet ++ s.events) := by
  unfold bindAndListen at h
  split at h
  · cases h
    exact ⟨rfl, [.bound id address], by simp [SocketEvent.IsQuiet, SocketEvent.socket?],
      .inr ⟨_, _, rfl, rfl⟩⟩
  · dsimp only at h
    split at h
    · cases h
      exact ⟨rfl, [.listening id p.backlog, .bound id address],
        by simp [SocketEvent.IsQuiet, SocketEvent.socket?], .inr ⟨_, _, rfl, rfl⟩⟩
    · cases h
      exact ⟨rfl, [.listening id p.backlog, .bound id address],
        by simp [SocketEvent.IsQuiet, SocketEvent.socket?], .inl ⟨_, rfl, rfl⟩⟩

/-- A zone is at fault when its digits form no numeral or too long a one. -/
def IsZoneFault (zone : Option Zone) (f : Fault) : Prop :=
  ∃ z, zone = some z ∧ z.text.all Text.isDigitSymbol = true ∧
    (f = .notANumeral z.text ∨ ∃ digits, f = .overlongNumeral digits)

theorem isZoneFault_of_socketAddress {state state' : σ} {f : Fault}
    (h : socketAddress os version host zone port state = (.error (.inr f), state')) :
    IsZoneFault zone f := by
  unfold socketAddress at h
  split at h
  · cases h
  · cases h
  · next z =>
    split at h
    · cases h
    · next e state₁ hz =>
      cases h
      unfold zoneIndex at hz
      split at hz
      · next hall =>
        dsimp only at hz
        split at hz
        · cases hz
          exact ⟨z, rfl, hall, .inr ⟨_, rfl⟩⟩
        · split at hz
          · cases hz
          · cases hz
            exact ⟨z, rfl, hall, .inl rfl⟩
      · split at hz
        · cases hz
        · cases hz

theorem isZoneFault_or_notWhole_of_realAddress {x : Binary64} {state state' : σ} {f : Fault}
    (h : realAddress os version host zone x state = (.error (.inr f), state')) :
    IsZoneFault zone f ∨ f = .notWhole (Value.real x).kind := by
  unfold realAddress at h
  split at h
  · next hz =>
    cases h
    exact .inl (isZoneFault_of_socketAddress hz)
  · cases h
    exact .inr rfl

/-- All that trying one port can write in the journal: a socket is refused, or one with the next
number is created and then listens, is closed, or is left over by a fault of its address. -/
theorem attemptAt_journal {address : σ → Except (SystemError ⊕ Fault) SocketAddress × σ}
    {IsFault : Fault → Prop}
    (haddress : ∀ f state state', address state = (.error (.inr f), state') → IsFault f)
    (h : attemptAt os p version address s = (a, s')) :
    s'.sockets = s.sockets + 1 ∧
      ((∃ e, a = .aborted (.outside e) ∧ s'.events = .refused version :: s.events) ∨
        ∃ quiet, (∀ e ∈ quiet, e.IsQuiet ∧ e.socket? = some s.sockets) ∧
          ((∃ name, a = .opened ⟨s.sockets, name⟩ ∧
              s'.events = quiet ++ .created s.sockets version :: s.events) ∨
            (∃ e bound, a = .failed e ∧
              s'.events = .closed s.sockets bound :: quiet ++
                .created s.sockets version :: s.events) ∨
            ∃ f, a = .aborted f ∧ IsFault f ∧
              s'.events = quiet ++ .created s.sockets version :: s.events)) := by
  unfold attemptAt at h
  dsimp only at h
  split at h
  · -- the system refuses a socket
    cases h
    exact ⟨rfl, .inl ⟨_, rfl, rfl⟩⟩
  · split at h
    · -- the address cannot be shared, and the socket is closed
      next e s₁ hshare =>
      obtain ⟨hs, quiet, hq, he⟩ := shareAddress_journal hshare
      cases h
      refine ⟨hs, .inr ⟨quiet, hq, .inr (.inl ⟨e, none, rfl, ?_⟩)⟩⟩
      rw [Session.events_closeSocket, he]
      rfl
    · next s₁ hshare =>
      obtain ⟨hs, quiet, hq, he⟩ := shareAddress_journal hshare
      split at h
      · cases h
        refine ⟨hs, .inr ⟨quiet, hq, .inr (.inl ⟨_, none, rfl, ?_⟩)⟩⟩
        rw [Session.events_closeSocket]
        simp only [he]
        rfl
      · -- the address is at fault, and nobody closes the socket
        next f state hf =>
        cases h
        exact ⟨hs, .inr ⟨quiet, hq, .inr (.inr ⟨f, rfl, haddress _ _ _ hf, he⟩)⟩⟩
      · obtain ⟨hs₂, quiet₂, hq₂, ho⟩ := bindAndListen_journal h
        refine ⟨hs₂.trans hs, .inr ⟨quiet₂ ++ quiet, ?_, ?_⟩⟩
        · exact fun e hmem => (List.mem_append.1 hmem).elim (hq₂ e) (hq e)
        · rcases ho with ⟨name, rfl, ho⟩ | ⟨e, bound, rfl, ho⟩
          · refine .inl ⟨name, rfl, ?_⟩
            rw [ho, he, List.append_assoc]
            rfl
          · refine .inr (.inl ⟨e, bound, rfl, ?_⟩)
            rw [ho, he]
            simp [Session.note]

/-- Creating a socket, and quiet events about it. -/
theorem orderly_created (version : Version) {quiet : List SocketEvent}
    (hq : ∀ e ∈ quiet, e.IsQuiet ∧ e.socket? = some id) :
    OrderlyBetween id (id + 1) (quiet ++ [.created id version]) ∧
      openAfter (quiet ++ [.created id version]) = [id] := by
  have hquiet : ∀ e ∈ quiet, e.IsQuiet := fun e he => (hq e he).1
  have hopen : openAfter (quiet ++ [.created id version]) = [id] := openAfter_quiet_append hquiet
  refine ⟨⟨Nat.le_succ id, fun e he id' hid' => ?_, ?_⟩, hopen⟩
  · have hown : e.socket? = some id := by
      rcases List.mem_append.1 he with he | he
      · exact (hq e he).2
      · rw [List.mem_singleton.1 he, SocketEvent.socket?]
    obtain rfl : id = id' := Option.some.inj (hown.symm.trans hid')
    omega
  · rw [hopen, closings_append, closings_quiet hquiet]
    exact List.nodup_singleton id

/-- What a fault that ends a search leaves open: nothing if it is from outside, but a fault of the
address, one that `IsFault` admits, leaves its socket. -/
def AbortLeaves (IsFault : Fault → Prop) (news : List SocketEvent) (f : Fault) : Prop :=
  openAfter news = [] ∧ (∃ e, f = .outside e) ∨ IsFault f

/-- What trying one port leaves open. -/
def AttemptLeaves (IsFault : Fault → Prop) (news : List SocketEvent) : Attempt → Prop
  | .opened socket => openAfter news = [socket.id]
  | .failed _ => openAfter news = []
  | .aborted f => AbortLeaves IsFault news f

/-- What trying several ports leaves open. -/
def SearchLeaves (IsFault : Fault → Prop) (news : List SocketEvent) : SearchOutcome → Prop
  | .opened socket => openAfter news = [socket.id]
  | .exhausted _ => openAfter news = []
  | .aborted f => AbortLeaves IsFault news f

section Address

variable {IsFault : Fault → Prop}

/-- Trying one port is orderly. It leaves the socket open that it gives, and otherwise none unless
the address is at fault. -/
theorem afresh_attemptAt {address : σ → Except (SystemError ⊕ Fault) SocketAddress × σ}
    (haddress : ∀ f state state', address state = (.error (.inr f), state') → IsFault f)
    (h : attemptAt os p version address s = (a, s')) :
    ∃ news, Session.Afresh s s' news ∧ AttemptLeaves IsFault news a := by
  obtain ⟨hs, ⟨e, rfl, he⟩ | ⟨quiet, hq, ho⟩⟩ := attemptAt_journal haddress h
  · refine ⟨[.refused version], ⟨he, by omega, ?_, List.nodup_nil⟩, .inl ⟨rfl, e, rfl⟩⟩
    rintro e' he' id hid
    rw [List.mem_singleton.1 he'] at hid
    cases hid
  · obtain ⟨hord, hopen⟩ := orderly_created version hq
    rw [← hs] at hord
    rcases ho with ⟨name, rfl, he⟩ | ⟨e, bound, rfl, he⟩ | ⟨f, rfl, hf, he⟩
    · exact ⟨_, ⟨by simp [he], hord⟩, hopen⟩
    · have hid : s.sockets ∈ openAfter (quiet ++ [.created s.sockets version]) := by simp [hopen]
      refine ⟨_, ⟨by simp [he], hord.close hid bound⟩, ?_⟩
      show openAfter _ = []
      simp [openAfter, hopen]
    · exact ⟨_, ⟨by simp [he], hord⟩, .inr hf⟩

/-! ### Several ports -/

/-- Trying several ports is orderly: what failed before is closed, so the last port alone decides
what stays open. -/
theorem afresh_searchBy {ports : Int → Number} {attempt : Int → Session σ → Attempt × Session σ}
    (hattempt : ∀ place s a s', attempt place s = (a, s') →
      ∃ news, Session.Afresh s s' news ∧ AttemptLeaves IsFault news a)
    {trials : Nat} {place : Int} {last : Option SystemError} {o : SearchOutcome}
    (h : searchBy host ports attempt trials place last s = (o, s')) :
    ∃ news, Session.Afresh s s' news ∧ SearchLeaves IsFault news o := by
  induction trials generalizing place last s with
  | zero =>
    cases h
    exact ⟨[], .nil rfl rfl, rfl⟩
  | succ trials ih =>
    unfold searchBy at h
    split at h
    · cases h
      exact ⟨[], .nil rfl rfl, rfl⟩
    · split at h
      · next socket s₁ ha =>
        cases h
        obtain ⟨news, hn, ho⟩ := hattempt _ _ _ _ ha
        exact ⟨news, hn.congr_right rfl rfl, ho⟩
      · -- this port failed and left nothing open, so the ports after it decide
        next e s₁ ha =>
        obtain ⟨news₁, hn₁, ho₁⟩ := hattempt _ _ _ _ ha
        obtain ⟨news₂, hn₂, ho₂⟩ := ih h
        have hn₂ : Session.Afresh s₁ s' news₂ := hn₂.congr_left rfl rfl
        have ho₁ : openAfter news₁ = [] := ho₁
        have ho : openAfter (news₂ ++ news₁) = openAfter news₂ := by
          rw [hn₁.orderly.openAfter_append hn₂.orderly, ho₁, List.append_nil]
        refine ⟨news₂ ++ news₁, hn₁.trans hn₂, ?_⟩
        cases o with
        | opened socket => exact ho.trans ho₂
        | exhausted last => exact ho.trans ho₂
        | aborted f => exact ho₂.imp_left fun h => ⟨ho.trans h.1, h.2⟩
      · next f s₁ ha =>
        cases h
        exact hattempt _ _ _ _ ha

end Address

theorem afresh_attempt (h : attempt os p version host zone port s = (a, s')) :
    ∃ news, Session.Afresh s s' news ∧ AttemptLeaves (IsZoneFault zone) news a :=
  afresh_attemptAt (fun _ _ _ hf => isZoneFault_of_socketAddress hf) h

theorem afresh_search {trials : Nat} {last : Option SystemError} {o : SearchOutcome}
    (h : search os p version host zone trials port last s = (o, s')) :
    ∃ news, Session.Afresh s s' news ∧ SearchLeaves (IsZoneFault zone) news o :=
  afresh_searchBy (fun _ _ _ _ ha => afresh_attempt ha) h

/-- The address for a first port is at fault when its zone is, or when the port is not whole. -/
def IsAddressFault (zone : Option Zone) (first : Number) (f : Fault) : Prop :=
  IsZoneFault zone f ∨ ∃ x, first = .real x ∧ f = .notWhole (Value.real x).kind

theorem SearchLeaves.mono {P Q : Fault → Prop} (hPQ : ∀ f, P f → Q f) {news : List SocketEvent}
    {o : SearchOutcome} (h : SearchLeaves P news o) : SearchLeaves Q news o := by
  cases o with
  | opened socket => exact h
  | exhausted last => exact h
  | aborted f => exact h.imp_right (hPQ f)

theorem afresh_searchFrom {first : Number} {trials : Nat} {o : SearchOutcome}
    (h : searchFrom os p version host zone first trials s = (o, s')) :
    ∃ news, Session.Afresh s s' news ∧ SearchLeaves (IsAddressFault zone first) news o := by
  have hwhole {port : Int} (h : search os p version host zone trials port none s = (o, s')) :
      ∃ news, Session.Afresh s s' news ∧ SearchLeaves (IsAddressFault zone first) news o := by
    obtain ⟨news, hn, hleaves⟩ := afresh_search h
    exact ⟨news, hn, hleaves.mono fun _ => .inl⟩
  cases first with
  | whole n => exact hwhole h
  | real x =>
    rw [searchFrom] at h
    split at h
    · refine afresh_searchBy (fun _ _ _ _ ha => afresh_attemptAt (fun f _ _ hf => ?_) ha) h
      exact (isZoneFault_or_notWhole_of_realAddress hf).imp_right fun hf => ⟨x, rfl, hf⟩
    · exact hwhole h

/-! ### The whole search -/

theorem error_of_trials {first : Number} {f : Fault} (h : p.trials first = .error f) :
    ∃ kind, f = .notWhole kind := by
  unfold trials wholeNumber at h
  split at h
  · cases hw : p.portCount.whole? with
    | some n =>
      rw [hw] at h
      cases h
    | none =>
      rw [hw] at h
      cases h
      exact ⟨_, rfl⟩
  · cases h

/-- Between whole numbers, the first port is whole. -/
theorem exists_firstPort_whole {port : Whole} (hp : p.port = .whole port) (requested : Whole) :
    ∃ first, p.firstPort (.whole requested) = .whole first := by
  rw [firstPort, hp]
  split
  · exact ⟨requested, rfl⟩
  · exact ⟨port, rfl⟩

/-- All that a whole search can do: the number of ports is not whole and nothing happens, or several
ports are tried and the outcome of that is the answer. -/
theorem openSocket_cases {address : Inet} {requested : Number} {bindAny : Bool}
    {answer : Except Fault Socket}
    (h : p.openSocket os address requested bindAny s = (answer, s')) :
    (∃ kind, answer = .error (.notWhole kind) ∧ s' = s) ∨
      ∃ trials s₀ o, s₀.events = s.events ∧ s₀.sockets = s.sockets ∧
        searchFrom os p address.version (bindHost address bindAny) (bindZone address bindAny)
          (p.firstPort requested) trials.toNat s₀ = (o, s') ∧
        ((∃ socket, o = .opened socket ∧ answer = .ok socket) ∨
          (∃ f, o = .aborted f ∧ answer = .error f) ∨
            ∃ last, o = .exhausted last ∧
              answer = .error (p.exhausted address (p.firstPort requested) trials last)) := by
  unfold openSocket at h
  split at h
  · next ht =>
    obtain ⟨kind, rfl⟩ := error_of_trials ht
    cases h
    exact .inl ⟨kind, rfl, rfl⟩
  · next trials _ =>
    refine .inr ?_
    unfold openFrom at h
    dsimp only at h
    -- the record about a port that the system chooses is no event
    have hlog : (if (p.firstPort requested).isZero then
        s.log .info serverSocketComponent ephemeralMessage else s).events = s.events ∧
        (if (p.firstPort requested).isZero then
          s.log .info serverSocketComponent ephemeralMessage else s).sockets = s.sockets := by
      split <;> exact ⟨rfl, rfl⟩
    split at h
    · next socket _ hsearch =>
      cases h
      exact ⟨trials, _, _, hlog.1, hlog.2, hsearch, .inl ⟨socket, rfl, rfl⟩⟩
    · next f _ hsearch =>
      cases h
      exact ⟨trials, _, _, hlog.1, hlog.2, hsearch, .inr (.inl ⟨f, rfl, rfl⟩)⟩
    · next last _ hsearch =>
      cases h
      exact ⟨trials, _, _, hlog.1, hlog.2, hsearch, .inr (.inr ⟨last, rfl, rfl⟩)⟩

/-- The whole search is orderly. It leaves the socket open that it gives; when it fails, nothing
stays open unless the address is at fault. -/
theorem afresh_openSocket {address : Inet} {requested : Number} {bindAny : Bool}
    {answer : Except Fault Socket}
    (h : p.openSocket os address requested bindAny s = (answer, s')) :
    ∃ news, Session.Afresh s s' news ∧
      (∀ socket, answer = .ok socket → openAfter news = [socket.id]) ∧
      ∀ f, answer = .error f → openAfter news = [] ∨
        IsAddressFault (bindZone address bindAny) (p.firstPort requested) f := by
  rcases openSocket_cases h with ⟨kind, rfl, rfl⟩ | ⟨trials, s₀, o, he, hs, hsearch, ho⟩
  · exact ⟨[], .nil rfl rfl, by simp, fun f _ => .inl rfl⟩
  · obtain ⟨news, hn, hleaves⟩ := afresh_searchFrom hsearch
    refine ⟨news, hn.congr_left he hs, ?_⟩
    rcases ho with ⟨socket, rfl, rfl⟩ | ⟨f, rfl, rfl⟩ | ⟨last, rfl, rfl⟩
    · exact ⟨by rintro _ ⟨⟩; exact hleaves, by simp⟩
    · exact ⟨by simp, by rintro _ ⟨⟩; exact hleaves.imp_left And.left⟩
    · exact ⟨by simp, fun f _ => .inl hleaves⟩

/-! ### Faults -/

theorem errorClass?_of_abortLeaves {first : Number} {news : List SocketEvent} {f : Fault}
    (h : AbortLeaves (IsAddressFault zone first) news f) : f.errorClass? = none := by
  rcases h with ⟨-, e, rfl⟩ | ⟨z, -, -, rfl | ⟨digits, rfl⟩⟩ | ⟨x, -, rfl⟩ <;> rfl

/-- The only fault of the library that a search ends with is that no port could be had. -/
theorem errorClass?_of_openSocket {address : Inet} {requested : Number} {bindAny : Bool} {f : Fault}
    (h : p.openSocket os address requested bindAny s = (.error f, s')) :
    f.errorClass? = none ∨ f.errorClass? = some .socketBind := by
  rcases openSocket_cases h with ⟨kind, hf, -⟩ | ⟨trials, s₀, o, -, -, hsearch, ho⟩
  · cases hf
    exact .inl rfl
  · obtain ⟨news, -, hleaves⟩ := afresh_searchFrom hsearch
    rcases ho with ⟨socket, -, hf⟩ | ⟨f, rfl, hf⟩ | ⟨last, -, hf⟩
    · cases hf
    · cases hf
      exact .inl (errorClass?_of_abortLeaves hleaves)
    · cases hf
      unfold exhausted
      split
      · exact .inr rfl
      · exact .inl rfl

end PortSearch

end MemberAddress
