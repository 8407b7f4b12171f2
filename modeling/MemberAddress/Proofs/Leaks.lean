import MemberAddress.Proofs.Lifecycle

/-!
# What a failed search leaves open

A search over whole ports closes the sockets that it asked for in vain, with one exception. A zone
that looks like a number but is none, such as the superscript `²`, ends the search with a fault when
its socket is there already, and this socket stays open. The same happens with a first port that is
not whole.

* `Zone.IsReadable` are the zones that do no such harm;
* `PortSearch.exists_attempt_of_aborted` says that a fault comes from the last port that was tried,
  and that nothing was open before;
* `PortSearch.leaves_openSocket` lists what a whole search leaves open;
* `PortSearch.closesAll_iff` says for which addresses a search never leaves too much open;
* `PortSearch.exists_error_of_real` says that no socket is had at a port that is not whole.
-/

namespace MemberAddress

/-! ### Zones -/

/-- A zone that looks like a number must be one: decimal digits, and not too many of them. -/
def Zone.IsReadable (z : Zone) : Prop :=
  z.text.all Text.isDigitSymbol = true →
    z.text.all Text.isDigit = true ∧ z.text.length ≤ Text.numeralLimit

instance (z : Zone) : Decidable z.IsReadable := inferInstanceAs (Decidable (_ → _))

namespace PortSearch

variable {σ : Type} {os : SocketSystem σ} {p : PortSearch} {version : Version} {host : Text}
  {zone : Option Zone} {port : Int} {s s' : Session σ} {f : Fault} {news : List SocketEvent}

/-- A zone without an index that is no fault of the system's is not readable. -/
theorem not_isReadable_of_zoneIndex {z : Zone} {state state' : σ}
    (h : zoneIndex os z.text state = (.error (.inr f), state')) : ¬ z.IsReadable := by
  intro hz
  unfold zoneIndex at h
  split at h
  · next hall =>
    obtain ⟨hdigits, hlen⟩ := hz hall
    have hwhole : z.text.takeWhile Text.isDigit = z.text :=
      List.takeWhile_eq_self_iff.2 (List.all_eq_true.1 hdigits)
    obtain ⟨n, hn⟩ : ∃ n, Text.numeral? 10 Text.digit? z.text = some n :=
      Text.exists_numeral? z.ne_nil (List.all_eq_true.1 hdigits)
    simp [hwhole, Nat.not_lt.2 hlen, hn] at h
  · split at h <;> cases h

theorem not_isReadable_of_socketAddress {state state' : σ}
    (h : socketAddress os version host zone port state = (.error (.inr f), state')) :
    ∃ z, zone = some z ∧ ¬ z.IsReadable := by
  unfold socketAddress at h
  split at h
  · cases h
  · cases h
  · next z =>
    split at h
    · cases h
    · next hz =>
      cases h
      exact ⟨z, rfl, not_isReadable_of_zoneIndex hz⟩

/-! ### The last port -/

theorem not_isZoneFault_outside (zone : Option Zone) (e : OutsideError) :
    ¬ IsZoneFault zone (.outside e) := by
  rintro ⟨z, -, -, h | ⟨digits, h⟩⟩ <;> cases h

/-- What a failure leaves open: the last socket when the zone is at fault, and otherwise nothing. -/
def FailureLeaves (zone : Option Zone) (f : Fault) (news : List SocketEvent) : Prop :=
  (¬ IsZoneFault zone f ∧ openAfter news = []) ∨
    (IsZoneFault zone f ∧ (∃ z, zone = some z ∧ ¬ z.IsReadable) ∧ ∃ id, openAfter news = [id])

/-- A fault of the zone shows in a zone that is not readable. -/
theorem not_isReadable_of_attempt (h : attempt os p version host zone port s = (.aborted f, s'))
    (hf : IsZoneFault zone f) : ∃ z, zone = some z ∧ ¬ z.IsReadable := by
  unfold attempt attemptAt at h
  dsimp only at h
  split at h
  · cases h
    exact absurd hf (not_isZoneFault_outside zone _)
  · split at h
    · cases h
    · split at h
      · cases h
      · next hz =>
        cases h
        exact not_isReadable_of_socketAddress hz
      · obtain ⟨-, -, -, ⟨name, ha, -⟩ | ⟨e, bound, ha, -⟩⟩ := bindAndListen_journal h <;> cases ha

/-- What a port leaves open whose trial ends the search. -/
theorem leaves_attempt (h : attempt os p version host zone port s = (.aborted f, s')) :
    ∃ news, Session.Afresh s s' news ∧ FailureLeaves zone f news := by
  obtain ⟨news, hn, hl⟩ := afresh_attempt h
  refine ⟨news, hn, ?_⟩
  rcases hl with ⟨ho, e, rfl⟩ | hz
  · exact .inl ⟨not_isZoneFault_outside zone e, ho⟩
  · refine .inr ⟨hz, not_isReadable_of_attempt h hz, ?_⟩
    -- the journal holds the creation of the socket and nothing that closes it
    obtain ⟨-, ⟨e, ha, -⟩ | ⟨quiet, hq, ho⟩⟩ :=
      attemptAt_journal (fun _ _ _ hf => isZoneFault_of_socketAddress hf) h
    · cases ha
      exact absurd hz (not_isZoneFault_outside zone e)
    · rcases ho with ⟨name, ha, -⟩ | ⟨e, bound, ha, -⟩ | ⟨f', -, -, he⟩
      · cases ha
      · cases ha
      · obtain rfl : news = quiet ++ [.created s.sockets version] :=
          List.append_cancel_right (hn.events.symm.trans (by simp [he]))
        exact ⟨_, (orderly_created version hq).2⟩

/-- A search that a fault ends is over with the port that has the fault, and the ports before it
left nothing open. -/
theorem exists_attempt_of_aborted {trials : Nat} {last : Option SystemError}
    (h : search os p version host zone trials port last s = (.aborted f, s')) :
    ∃ port' s₁ news, Session.Afresh s s₁ news ∧ openAfter news = [] ∧
      attempt os p version host zone port' s₁ = (.aborted f, s') := by
  induction trials generalizing port last s with
  | zero => cases h
  | succ trials ih =>
    rw [search_succ] at h
    split at h
    · cases h
    · split at h
      · cases h
      · next e s₁ ha =>
        obtain ⟨news₁, hn₁, ho₁⟩ := afresh_attempt ha
        obtain ⟨port', s₂, news₂, hn₂, ho₂, hlast⟩ := ih h
        have hn₂ : Session.Afresh s₁ s₂ news₂ := hn₂.congr_left rfl rfl
        have ho₁ : openAfter news₁ = [] := ho₁
        refine ⟨port', s₂, news₂ ++ news₁, hn₁.trans hn₂, ?_, hlast⟩
        rw [hn₁.orderly.openAfter_append hn₂.orderly, ho₁, ho₂, List.append_nil]
      · next ha =>
        cases h
        exact ⟨port, s, [], .nil rfl rfl, rfl, ha⟩

theorem leaves_search {trials : Nat} {last : Option SystemError}
    (h : search os p version host zone trials port last s = (.aborted f, s')) :
    ∃ news, Session.Afresh s s' news ∧ FailureLeaves zone f news := by
  obtain ⟨port', s₁, news₁, hn₁, ho₁, ha⟩ := exists_attempt_of_aborted h
  obtain ⟨news₂, hn₂, hl⟩ := leaves_attempt ha
  have ho : openAfter (news₂ ++ news₁) = openAfter news₂ := by
    rw [hn₁.orderly.openAfter_append hn₂.orderly, ho₁, List.append_nil]
  refine ⟨news₂ ++ news₁, hn₁.trans hn₂, ?_⟩
  rwa [FailureLeaves, ho]

/-! ### The whole search -/

theorem not_isZoneFault_notWhole (zone : Option Zone) (kind : Text) :
    ¬ IsZoneFault zone (.notWhole kind) := by
  rintro ⟨z, -, -, h | ⟨digits, h⟩⟩ <;> cases h

theorem not_isZoneFault_exhausted (zone : Option Zone) (address : Inet) (first : Number)
    (trials : Int) (last : Option SystemError) :
    ¬ IsZoneFault zone (p.exhausted address first trials last) := by
  unfold exhausted
  split <;> rintro ⟨z, -, -, h | ⟨digits, h⟩⟩ <;> cases h

/-- What a search from a whole port on leaves open when it fails. -/
theorem leaves_openSocket {address : Inet} {requested : Number} {bindAny : Bool} {first : Whole}
    (hfirst : p.firstPort requested = .whole first)
    (h : p.openSocket os address requested bindAny s = (.error f, s')) :
    ∃ news, Session.Afresh s s' news ∧ FailureLeaves (bindZone address bindAny) f news := by
  rcases openSocket_cases h with ⟨kind, hf, rfl⟩ | ⟨trials, s₀, o, he, hs, hsearch, ho⟩
  · cases hf
    exact ⟨[], .nil rfl rfl, .inl ⟨not_isZoneFault_notWhole _ kind, rfl⟩⟩
  · rw [hfirst] at hsearch
    have hsearch : search os p address.version (bindHost address bindAny)
        (bindZone address bindAny) trials.toNat (max first.value 0) none s₀ = (o, s') := hsearch
    rcases ho with ⟨socket, -, hf⟩ | ⟨f, rfl, hf⟩ | ⟨last, rfl, hf⟩
    · cases hf
    · cases hf
      obtain ⟨news, hn, hl⟩ := leaves_search hsearch
      exact ⟨news, hn.congr_left he hs, hl⟩
    · cases hf
      obtain ⟨news, hn, ho⟩ := afresh_search hsearch
      exact ⟨news, hn.congr_left he hs,
        .inl ⟨not_isZoneFault_exhausted _ address _ trials last, ho⟩⟩

/-- A search over whole ports for an address never leaves a socket open but the one that it gives,
whatever the other settings, the requested port and the answers of the system. -/
def ClosesAll (address : Inet) (bindAny : Bool) : Prop :=
  ∀ (port : Whole) (portCount autoIncrement reuseAddress : Value) (backlog : Int) (p : PortSearch),
    make port.toValue portCount autoIncrement reuseAddress backlog = .ok p →
    ∀ (σ : Type) (os : SocketSystem σ) (requested : Whole) (s s' : Session σ)
      (answer : Except Fault Socket),
      p.openSocket os address (.whole requested) bindAny s = (answer, s') →
        ∃ news, Session.Afresh s s' news ∧
          openAfter news = answer.toOption.toList.map Socket.id

theorem port_of_make {port : Whole} {portCount autoIncrement reuseAddress : Value} {backlog : Int}
    (h : make port.toValue portCount autoIncrement reuseAddress backlog = .ok p) :
    p.port = .whole port := by
  unfold make at h
  simp only [comparable_toValue] at h
  split at h
  · cases h
  · split at h
    · cases h
    · split at h
      · cases h
      · cases h
        rfl

/-- The search that tries the port 5701 and no other. -/
def fixedPort : PortSearch := { PortSearch.default with autoIncrement := .flag false }

/-- A zone that is not readable has no index, whatever the system. -/
theorem exists_zoneIndex_of_not_isReadable {z : Zone} (hz : ¬ z.IsReadable)
    (os : SocketSystem σ) :
    ∃ f, ∀ state, zoneIndex os z.text state = (.error (.inr f), state) := by
  obtain ⟨hall, hbad⟩ := Classical.not_imp.1 hz
  simp only [zoneIndex, if_pos hall]
  by_cases hlong : Text.numeralLimit < (z.text.takeWhile Text.isDigit).length
  · exact ⟨_, fun state => if_pos hlong⟩
  · cases hn : Text.numeral? 10 Text.digit? z.text with
    | none => exact ⟨_, fun state => by rw [if_neg hlong]⟩
    | some n =>
      have hdigits : ∀ c ∈ z.text, Text.isDigit c = true := Text.isSome_of_numeral? hn
      rw [List.takeWhile_eq_self_iff.2 hdigits] at hlong
      exact absurd ⟨List.all_eq_true.2 hdigits, Nat.not_lt.1 hlong⟩ hbad

/-- A zone that is not readable leaves a socket open, although the host refuses nothing. -/
theorem openSocket_fixedPort_of_not_isReadable {z : Zone} (hz : ¬ z.IsReadable)
    (bits : BitVec 128) :
    ∃ f s', fixedPort.openSocket PortTable.system (.v6 bits (some z)) (.whole (.number 0)) false
        (.start .empty) = (.error f, s') ∧
      s'.events = [.reused 0, .created 0 .v6] := by
  obtain ⟨f, hf⟩ := exists_zoneIndex_of_not_isReadable hz PortTable.system
  have hattempt : ∀ host, attempt PortTable.system fixedPort .v6 host (some z) 5701
      (.start .empty) = (.aborted f, ⟨.empty, 1, [.reused 0, .created 0 .v6], []⟩) := by
    intro host
    have hsocket : socketAddress PortTable.system .v6 host (some z) 5701 PortTable.empty =
        (.error (.inr f), .empty) := by
      simp only [socketAddress, hf]
    have hcreate : PortTable.system.create 0 .v6 .empty = (.ok (), .empty) := rfl
    have hshare : shareAddress PortTable.system fixedPort 0
        ⟨.empty, 1, [.created 0 .v6], []⟩ =
        (.ok (), ⟨.empty, 1, [.reused 0, .created 0 .v6], []⟩) := rfl
    simp only [attempt, attemptAt, Session.start, Session.note, hcreate, hshare, hsocket]
  refine ⟨f, ⟨.empty, 1, [.reused 0, .created 0 .v6], []⟩, ?_, rfl⟩
  show openFrom PortTable.system fixedPort (.v6 bits (some z)) (.whole (.number 5701)) 1 false
    (.start .empty) = _
  have hsearch : ∀ host, searchFrom PortTable.system fixedPort (Inet.v6 bits (some z)).version host
      (bindZone (.v6 bits (some z)) false) (.whole (.number 5701)) (Int.toNat 1) (.start .empty) =
        (.aborted f, ⟨.empty, 1, [.reused 0, .created 0 .v6], []⟩) := by
    intro host
    show search PortTable.system fixedPort .v6 host (some z) (0 + 1) 5701 none (.start .empty) = _
    rw [search_succ, if_neg (by decide), hattempt]
  rw [openFrom, if_neg (by decide), hsearch]

theorem not_closesAll_of_not_isReadable {z : Zone} (hz : ¬ z.IsReadable) (bits : BitVec 128) :
    ¬ ClosesAll (.v6 bits (some z)) false := by
  intro h
  obtain ⟨f, s', hopen, hevents⟩ := openSocket_fixedPort_of_not_isReadable hz bits
  have hmake : make (Whole.number 5701).toValue (.whole 100) (.flag false) (.flag true) 100 =
      .ok fixedPort := rfl
  obtain ⟨news, hn, hleft⟩ := h _ _ _ _ _ fixedPort hmake PortTable PortTable.system _ _ s' _ hopen
  have hnews : news = [.reused 0, .created 0 .v6] := by
    have he := hn.events
    rw [hevents] at he
    simpa [Session.start] using he.symm
  rw [hnews] at hleft
  cases hleft

/-- A search over whole ports for an address never leaves too much open exactly when the zone that
it binds to, if any, is readable. -/
theorem closesAll_iff (address : Inet) (bindAny : Bool) :
    ClosesAll address bindAny ↔ ∀ z, bindZone address bindAny = some z → z.IsReadable := by
  constructor
  · intro h z hz
    by_contra hbad
    -- only an address of groups has a zone, and a zone counts only when it is bound to
    cases bindAny with
    | true => cases hz
    | false =>
      cases address with
      | v4 bits => cases hz
      | v6 bits zone =>
        cases hz
        exact not_closesAll_of_not_isReadable hbad bits h
  · intro hz port portCount autoIncrement reuseAddress backlog p hmake σ os requested s s' answer h
    obtain ⟨first, hfirst⟩ := exists_firstPort_whole (port_of_make hmake) requested
    cases answer with
    | ok socket =>
      obtain ⟨news, hn, hok, -⟩ := afresh_openSocket h
      exact ⟨news, hn, hok socket rfl⟩
    | error f =>
      obtain ⟨news, hn, ⟨-, ho⟩ | ⟨-, ⟨z, hzone, hbad⟩, -⟩⟩ :=
        leaves_openSocket hfirst h
      · exact ⟨news, hn, ho⟩
      · exact absurd (hz z hzone) hbad

/-- The zone `²` looks like a number and is none: a search for `fe80::1` in that zone may leave a
socket open. -/
theorem not_closesAll_superscript :
    ¬ ClosesAll (.v6 0xfe800000000000000000000000000001 (Zone.ofText? "²".toList)) false := by
  have hzone : Zone.ofText? "²".toList = some ⟨"²".toList, by decide, by decide, by decide⟩ := by
    decide
  rw [hzone]
  exact not_closesAll_of_not_isReadable (by decide +kernel) _

/-! ### Ports that are not whole -/

theorem realAddress_ne_ok {x : Binary64} {address : SocketAddress} {state state' : σ} :
    realAddress os version host zone x state ≠ (.ok address, state') := by
  intro h
  unfold realAddress at h
  split at h <;> cases h

theorem attemptReal_ne_opened {x : Binary64} {socket : Socket} :
    attemptReal os p version host zone x s ≠ (.opened socket, s') := by
  intro h
  unfold attemptReal attemptAt at h
  dsimp only at h
  split at h
  · cases h
  · split at h
    · cases h
    · split at h
      · cases h
      · cases h
      · next hx => exact realAddress_ne_ok hx

/-- A search has a socket only if one of its tries has. -/
theorem searchBy_ne_opened {ports : Int → Number} {attempt : Int → Session σ → Attempt × Session σ}
    (hattempt : ∀ place s socket s', attempt place s ≠ (.opened socket, s')) {trials : Nat}
    {place : Int} {last : Option SystemError} {socket : Socket} :
    searchBy host ports attempt trials place last s ≠ (.opened socket, s') := by
  intro h
  induction trials generalizing place last s with
  | zero => cases h
  | succ trials ih =>
    unfold searchBy at h
    split at h
    · cases h
    · split at h
      · next hx => exact hattempt _ _ _ _ hx
      · exact ih h
      · cases h

/-- A search from a positive port on that is not whole has no socket to give, whatever the system
answers. -/
theorem exists_error_of_real {address : Inet} {requested : Number} {bindAny : Bool} {x : Binary64}
    {answer : Except Fault Socket} (hfirst : p.firstPort requested = .real x)
    (hpos : (Number.real x).isAbove 0 = true)
    (h : p.openSocket os address requested bindAny s = (answer, s')) : ∃ f, answer = .error f := by
  rcases openSocket_cases h with ⟨kind, rfl, -⟩ | ⟨trials, s₀, o, -, -, hsearch, ho⟩
  · exact ⟨_, rfl⟩
  · rw [hfirst, searchFrom, if_pos hpos] at hsearch
    rcases ho with ⟨socket, rfl, -⟩ | ⟨f, -, rfl⟩ | ⟨last, -, rfl⟩
    · exact absurd hsearch (searchBy_ne_opened fun _ _ _ _ => attemptReal_ne_opened)
    · exact ⟨f, rfl⟩
    · exact ⟨_, rfl⟩

/-- The socket with which this shows is left open. -/
example : (PortSearch.default.openSocket PortTable.system (.v4 0x0a000004)
    (.real (.ofRatio false 11403 2)) false (.start .empty)).2.openSockets = [0] := by decide +kernel

end PortSearch

end MemberAddress
