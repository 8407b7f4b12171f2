import MemberAddress.Proofs.Candidates

/-!
# The ports that a failed search names

A search that finds no port names the ports that it tried: the first and, if there were to be
several, the last. It counts the last from the first, but no port above the highest is tried.

* `PortSearch.Names` reads the ports off the message of a fault, and `PortSearch.names_iff` says
  which they are;
* `PortSearch.Tried` reads the ports that were tried off the journal and the records of a session,
  and `PortSearch.TriedInVain` is all that tries in vain leave there;
* `PortSearch.triedInVain_search` says that a search which finds no port leaves just that, by
  induction on the number of trials;
* `PortSearch.namesTried_iff` says when the ports that are named are those that were tried.
-/

namespace MemberAddress

/-! ### Numbers in a message -/

namespace Text

/-- What is no digit does not stand in a number. -/
theorem notMem_decimal {c : Char} (hc : digit? c = none) (n : Nat) : c ∉ decimal n := by
  intro hm
  have hread : numeral? 10 digit? (decimal n) = some n :=
    numeral?_toDigits (by decide) (by decide) n
  have hd := isSome_of_numeral? hread c hm
  rw [hc] at hd
  cases hd

theorem notMem_integer {c : Char} (hc : digit? c = none) (hminus : c ≠ '-') (n : Int) :
    c ∉ integer n := by
  cases n with
  | ofNat n => exact notMem_decimal hc n
  | negSucc n =>
    intro hm
    rcases List.mem_cons.1 hm with rfl | hm
    · exact hminus rfl
    · exact notMem_decimal hc (n + 1) hm

theorem decimal_injective : Function.Injective decimal := by
  intro m n h
  have hm : numeral? 10 digit? (decimal m) = some m :=
    numeral?_toDigits (by decide) (by decide) m
  have hn : numeral? 10 digit? (decimal n) = some n :=
    numeral?_toDigits (by decide) (by decide) n
  rw [h, hn] at hm
  exact (Option.some.inj hm).symm

/-- A number and a negative one are told apart by the minus sign. -/
theorem decimal_ne_minus (m : Nat) (t : Text) : decimal m ≠ '-' :: t := by
  intro h
  have hm : '-' ∈ decimal m := by
    rw [h]
    exact List.mem_cons_self
  exact notMem_decimal (by decide) m hm

theorem integer_injective : Function.Injective integer := by
  intro m n h
  cases m with
  | ofNat m =>
    cases n with
    | ofNat n => exact congrArg Int.ofNat (decimal_injective h)
    | negSucc n => exact absurd h (decimal_ne_minus m _)
  | negSucc m =>
    cases n with
    | ofNat n => exact absurd h.symm (decimal_ne_minus n _)
    | negSucc n =>
      have hsucc : m + 1 = n + 1 := decimal_injective (List.cons.inj h).2
      exact congrArg Int.negSucc (Nat.succ.inj hsucc)

end Text

namespace Whole

/-- A number that is not negative is shown without hyphens and full stops. -/
theorem notMem_text {w : Whole} (h : 0 ≤ w.value) {c : Char} (hc : c = '-' ∨ c = '.') :
    c ∉ w.text := by
  have hdigit : Text.digit? c = none := by rcases hc with rfl | rfl <;> decide
  cases w with
  | number n =>
    cases n with
    | ofNat n => exact Text.notMem_decimal hdigit n
    | negSucc n => exact absurd h (Int.not_le.2 (Int.negSucc_lt_zero n))
  | flag b => rcases hc with rfl | rfl <;> cases b <;> decide

/-- The text of a flag is no number. -/
theorem flagText_ne_integer (b : Bool) (n : Int) : Value.flagText b ≠ Text.integer n := by
  intro h
  obtain ⟨c, hc, hletter⟩ : ∃ c ∈ Value.flagText b, Text.digit? c = none ∧ c ≠ '-' := by
    cases b
    · exact ⟨'F', by decide, by decide, by decide⟩
    · exact ⟨'T', by decide, by decide, by decide⟩
  rw [h] at hc
  exact Text.notMem_integer hletter.1 hletter.2 n hc

/-- What is shown tells the number. -/
theorem value_eq_of_text {v w : Whole} (h : v.text = w.text) : v.value = w.value := by
  cases v with
  | number m =>
    cases w with
    | number n => exact Text.integer_injective h
    | flag b => exact absurd h.symm (flagText_ne_integer b m)
  | flag b =>
    cases w with
    | number n => exact absurd h (flagText_ne_integer b n)
    | flag b' =>
      cases b <;> cases b'
      · rfl
      · exact absurd h (by decide)
      · exact absurd h (by decide)
      · rfl

end Whole

/-! ### Requests to the system -/

/-- The port that an event asks the system for. -/
def SocketEvent.boundPort? : SocketEvent → Option Int
  | .bound _ address => some address.port
  | _ => none

/-- The ports that the system was asked for, the last one first. -/
def boundPorts (events : List SocketEvent) : List Int := events.filterMap SocketEvent.boundPort?

theorem boundPorts_append (news old : List SocketEvent) :
    boundPorts (news ++ old) = boundPorts news ++ boundPorts old := List.filterMap_append

/-- A system that refuses no call on a socket but to bind it and to let it listen. -/
structure SocketSystem.RefusesOnlyPorts {σ : Type} (os : SocketSystem σ) : Prop where
  reuse : ∀ id state, (os.reuse id state).1 = .ok ()
  zoneIndex : ∀ name state, ∃ n, (os.zoneIndex name state).1 = .ok n

namespace PortSearch

/-! ### The ports that a fault names -/

/-- The text of the ports from a first to a last: the one port, or both with a hyphen between. -/
def rangeText (first last : Whole) : Text :=
  if first.value = last.value then first.text else first.text ++ '-' :: last.text

/-- The message that no port of a range could be had for an address, with a note at the end. -/
def messageOf (address : Inet) (range note : Text) : Text :=
  "Cannot bind to a given address: ".toList ++ address.hostText ++ ", port(s): ".toList ++ range ++
    '.' :: " Hazelcast cannot start.".toList ++ note

/-- A fault names a port when the range that its message gives for an address holds the port. -/
def Names (address : Inet) (f : Fault) (port : Int) : Prop :=
  ∃ (first last : Whole) (note : Text), 0 ≤ first.value ∧ first.value ≤ port ∧ port ≤ last.value ∧
    f.message = messageOf address (rangeText first last) note

section Names

variable {first last first' last' : Whole}

theorem cut_rangeText (h : 0 ≤ first.value) :
    Text.cut '-' (rangeText first last) =
      (first.text, if first.value = last.value then none else some last.text) := by
  have hhyphen : '-' ∉ first.text := Whole.notMem_text h (.inl rfl)
  unfold rangeText
  split
  · exact Text.cut_eq_of_notMem hhyphen
  · exact Text.cut_append hhyphen last.text

theorem fullStop_notMem_rangeText (hfirst : 0 ≤ first.value) (hlast : 0 ≤ last.value) :
    '.' ∉ rangeText first last := by
  have hf : '.' ∉ first.text := Whole.notMem_text hfirst (.inr rfl)
  have hl : '.' ∉ last.text := Whole.notMem_text hlast (.inr rfl)
  unfold rangeText
  split
  · exact hf
  · simp [hf, hl]

/-- The text of a range tells the first port and the last. -/
theorem values_eq_of_rangeText (hfirst : 0 ≤ first.value) (hfirst' : 0 ≤ first'.value)
    (h : rangeText first last = rangeText first' last') :
    first.value = first'.value ∧ last.value = last'.value := by
  have hcut := congrArg (Text.cut '-') h
  rw [cut_rangeText hfirst, cut_rangeText hfirst', Prod.mk.injEq] at hcut
  obtain ⟨htext, hrest⟩ := hcut
  have hvalue := Whole.value_eq_of_text htext
  refine ⟨hvalue, ?_⟩
  split at hrest
  · next hone =>
    split at hrest
    · next hone' => omega
    · cases hrest
  · split at hrest
    · cases hrest
    · exact Whole.value_eq_of_text (Option.some.inj hrest)

theorem portsText_whole {trials : Int} (h : 1 ≤ trials) :
    Fault.portsText (.whole first) trials =
      rangeText first (.number (first.value + (trials - 1))) := by
  unfold Fault.portsText rangeText
  by_cases hone : trials = 1
  · rw [if_neg (by omega), if_pos (by simp only [Whole.value]; omega)]
    rfl
  · rw [if_pos (by omega), if_neg (by simp only [Whole.value]; omega), Number.lastOf_whole]
    rfl

theorem message_cannotBind (address : Inet) (first : Whole) {trials : Int} (h : 1 ≤ trials)
    (fixedPort : Bool) (e : Option OutsideError) :
    ∃ note, (Fault.cannotBind address (.whole first) trials fixedPort e).message =
      messageOf address (rangeText first (.number (first.value + (trials - 1)))) note := by
  rw [← portsText_whole h]
  exact ⟨if fixedPort then
    " Config-specified port is already in use and auto-increment is disabled.".toList else [], rfl⟩

/-- The range of a message ends at the full stop after it. -/
theorem range_eq_of_messageOf {address : Inet} {range range' note note' : Text}
    (hrange : '.' ∉ range) (hrange' : '.' ∉ range')
    (h : messageOf address range note = messageOf address range' note') : range = range' := by
  unfold messageOf at h
  simp only [List.append_assoc, List.append_cancel_left_eq, List.cons_append] at h
  have hcut := congrArg (Text.cut '.') h
  rw [Text.cut_append hrange, Text.cut_append hrange'] at hcut
  exact congrArg Prod.fst hcut

/-- The fault of a search over whole ports names as many ports from the first on as the search was
to try. -/
theorem names_iff {address : Inet} {trials : Int} {fixedPort : Bool} {e : Option OutsideError}
    {port : Int} (hfirst : 0 ≤ first.value) (htrials : 1 ≤ trials) :
    Names address (.cannotBind address (.whole first) trials fixedPort e) port ↔
      first.value ≤ port ∧ port ≤ first.value + trials - 1 := by
  obtain ⟨note, hmessage⟩ := message_cannotBind address first htrials fixedPort e
  have hlast : (Whole.number (first.value + (trials - 1))).value = first.value + trials - 1 := by
    simp only [Whole.value]
    omega
  unfold Names
  rw [hmessage]
  constructor
  · rintro ⟨first', last', note', hfirst', hle, hle', hsame⟩
    have hrange := range_eq_of_messageOf (fullStop_notMem_rangeText hfirst (by omega))
      (fullStop_notMem_rangeText hfirst' (by omega)) hsame
    obtain ⟨hvalue, hvalue'⟩ := values_eq_of_rangeText hfirst hfirst' hrange
    omega
  · rintro ⟨hle, hle'⟩
    exact ⟨first, _, note, hfirst, hle, by omega, rfl⟩

end Names

/-! ### The ports that were tried -/

section Tries

variable {σ : Type} {os : SocketSystem σ} {p : PortSearch} {version : Version} {host : Text}
  {zone : Option Zone} {port : Int} {s s₁ s' : Session σ} {e : SystemError}

/-- Between two sessions the system was asked for a port. -/
def AsksFor (s s' : Session σ) (port : Int) : Prop :=
  ∃ events, s'.events = events ++ s.events ∧ port ∈ boundPorts events

/-- The record of a port that was tried in vain. -/
def failureRecord (host : Text) (port : Int) (e : SystemError) : Record :=
  .of .debug serverSocketComponent (failureMessage host port e)

/-- Between two sessions it was noted that a port was tried in vain. -/
def NotesFailure (host : Text) (s s' : Session σ) (port : Int) : Prop :=
  ∃ records, s'.records = records ++ s.records ∧ ∃ e, failureRecord host port e ∈ records

/-- A port was tried between two sessions: the system was asked for it, or it was noted that it
could not be had. Where the system refuses another call first, there is only the note. -/
def Tried (host : Text) (s s' : Session σ) (port : Int) : Prop :=
  AsksFor s s' port ∨ NotesFailure host s s' port

/-- Between two sessions the system was asked for ports in their order, and for no others. Some may
be missing, but only where the system refuses another call before. -/
def AsksAmong (os : SocketSystem σ) (ports : List Int) (s s' : Session σ) : Prop :=
  ∃ events, s'.events = events ++ s.events ∧ (boundPorts events).Sublist ports.reverse ∧
    (os.RefusesOnlyPorts → boundPorts events = ports.reverse)

/-- All that tries in vain leave: requests, and a record of each try, in their order. -/
structure TriedInVain (os : SocketSystem σ) (host : Text) (ports : List Int) (s s' : Session σ) :
    Prop where
  asks : AsksAmong os ports s s'
  records : ∃ failures : List (Int × SystemError), failures.map Prod.fst = ports ∧
    s'.records = (failures.map fun f => failureRecord host f.1 f.2).reverse ++ s.records

/-- The record of a failure tells the port. -/
theorem port_eq_of_failureRecord {port' : Int} {e' : SystemError}
    (h : failureRecord host port e = failureRecord host port' e') : port = port' := by
  have hmessage : failureMessage host port e = failureMessage host port' e' :=
    congrArg Record.message h
  unfold failureMessage at hmessage
  simp only [List.append_assoc, List.append_cancel_left_eq, List.cons_append, List.cons.injEq,
    true_and] at hmessage
  have hcolon : ∀ n, ':' ∉ Text.integer n := Text.notMem_integer (by decide) (by decide)
  have hcut := congrArg (Text.cut ':') hmessage
  have hcolons : ": ".toList = ':' :: [' '] := rfl
  simp only [hcolons, List.cons_append, Text.cut_append (hcolon _)] at hcut
  exact Text.integer_injective (congrArg Prod.fst hcut)

/-! ### One try -/

/-- Between two sessions nothing was recorded, and the system was asked for the given ports, the
last one first. -/
structure Asks (ports : List Int) (s s' : Session σ) : Prop where
  records : s'.records = s.records
  events : ∃ events, s'.events = events ++ s.events ∧ boundPorts events = ports

namespace Asks

variable {ports ports' : List Int}

theorem refl (s : Session σ) : Asks [] s s := ⟨rfl, [], rfl, rfl⟩

theorem trans (h : Asks ports s s₁) (h' : Asks ports' s₁ s') : Asks (ports' ++ ports) s s' := by
  obtain ⟨hrecords, events, he, hports⟩ := h
  obtain ⟨hrecords', events', he', hports'⟩ := h'
  refine ⟨hrecords'.trans hrecords, events' ++ events, ?_, ?_⟩
  · rw [he', he, List.append_assoc]
  · rw [boundPorts_append, hports, hports']

/-- An event that asks for no port. -/
theorem note (h : Asks ports s s₁) (event : SocketEvent) (hnone : event.boundPort? = none)
    (state : σ) : Asks ports s (s₁.note event state) := by
  obtain ⟨hrecords, events, he, hports⟩ := h
  refine ⟨hrecords, event :: events, ?_, ?_⟩
  · rw [Session.events_note, he, List.cons_append]
  · rw [← hports]
    exact List.filterMap_cons_none hnone

end Asks

namespace AsksAmong

variable {ports ports' : List Int}

theorem of_asks (h : Asks ports.reverse s s') : AsksAmong os ports s s' := by
  obtain ⟨-, events, he, hports⟩ := h
  exact ⟨events, he, by rw [hports], fun _ => hports⟩

/-- Where the system refuses another call, it need not be asked for any port. -/
theorem of_asks_nil (h : Asks [] s s') (hos : ¬ os.RefusesOnlyPorts) :
    AsksAmong os ports s s' := by
  obtain ⟨-, events, he, hnone⟩ := h
  refine ⟨events, he, ?_, fun hrefuses => absurd hrefuses hos⟩
  rw [hnone]
  exact List.nil_sublist _

theorem append (h : AsksAmong os ports s s₁) (h' : AsksAmong os ports' s₁ s') :
    AsksAmong os (ports ++ ports') s s' := by
  obtain ⟨events, he, hsub, hall⟩ := h
  obtain ⟨events', he', hsub', hall'⟩ := h'
  refine ⟨events' ++ events, ?_, ?_, fun hos => ?_⟩
  · rw [he', he, List.append_assoc]
  · rw [boundPorts_append, List.reverse_append]
    exact hsub'.append hsub
  · rw [boundPorts_append, hall hos, hall' hos, List.reverse_append]

end AsksAmong

/-- Sharing the address asks for no port. -/
theorem asks_shareAddress {id : Nat} {answer : Except SystemError Unit}
    (h : shareAddress os p id s = (answer, s')) : Asks [] s s' := by
  unfold shareAddress at h
  split at h
  · cases h
    exact (Asks.refl s).note _ rfl _
  · cases h
    exact .refl s

theorem not_refusesOnlyPorts_of_shareAddress {id : Nat}
    (h : shareAddress os p id s = (.error e, s')) : ¬ os.RefusesOnlyPorts := by
  intro hos
  unfold shareAddress at h
  split at h
  · dsimp only at h
    rw [hos.reuse] at h
    cases h
  · cases h

/-- Binding and listening in vain asks for the port of the address. -/
theorem asks_bindAndListen {id : Nat} {address : SocketAddress}
    (h : bindAndListen os p id address s = (.failed e, s')) : Asks [address.port] s s' := by
  have hbound : ∀ state, Asks [address.port] s (s.note (.bound id address) state) :=
    fun state => ⟨rfl, [.bound id address], rfl, rfl⟩
  unfold bindAndListen at h
  split at h
  · cases h
    exact (hbound _).note _ rfl _
  · dsimp only at h
    split at h
    · cases h
      exact ((hbound _).note _ rfl _).note _ rfl _
    · cases h

theorem port_of_socketAddress {state state' : σ} {address : SocketAddress}
    (h : socketAddress os version host zone port state = (.ok address, state')) :
    address.port = port := by
  unfold socketAddress at h
  split at h
  · cases h
    rfl
  · cases h
    rfl
  · split at h
    · cases h
      rfl
    · cases h

/-- An error of the system before a port is asked for is an error of another call. -/
theorem not_refusesOnlyPorts_of_socketAddress {state state' : σ}
    (h : socketAddress os version host zone port state = (.error (.inl e), state')) :
    ¬ os.RefusesOnlyPorts := by
  intro hos
  unfold socketAddress at h
  split at h
  · cases h
  · cases h
  · next z =>
    split at h
    · cases h
    · next e' state₁ hz =>
      cases h
      unfold zoneIndex at hz
      split at hz
      · dsimp only at hz
        split at hz
        · cases hz
        · split at hz <;> cases hz
      · split at hz
        · cases hz
        · next hasked =>
          obtain ⟨n, hn⟩ := hos.zoneIndex z.text state
          rw [hasked] at hn
          cases hn

/-- A try in vain records nothing itself. It asks for its port, unless the system refuses a call on
the socket before that. -/
theorem attempt_asks (h : attempt os p version host zone port s = (.failed e, s')) :
    s'.records = s.records ∧ AsksAmong os [port] s s' := by
  unfold attempt attemptAt at h
  dsimp only at h
  split at h
  · cases h
  · next state hcreate =>
    -- neither the new socket nor sharing the address asks for a port
    have hcreated : Asks [] s { s.note (.created s.sockets version) state with
        sockets := s.sockets + 1 } := ⟨rfl, [.created s.sockets version], rfl, rfl⟩
    split at h
    · next e' s₁ hshare =>
      have hclosed := (hcreated.trans (asks_shareAddress hshare)).note
        (.closed s.sockets none) rfl (os.close s.sockets s₁.state)
      cases h
      exact ⟨hclosed.records, .of_asks_nil hclosed (not_refusesOnlyPorts_of_shareAddress hshare)⟩
    · next s₁ hshare =>
      have hshared := hcreated.trans (asks_shareAddress hshare)
      split at h
      · next e' state' hindex =>
        have hclosed := hshared.note (.closed s.sockets none) rfl (os.close s.sockets state')
        cases h
        exact ⟨hclosed.records, .of_asks_nil ⟨hclosed.records, hclosed.events⟩
          (not_refusesOnlyPorts_of_socketAddress hindex)⟩
      · cases h
      · next address state' hindex =>
        have hasks := asks_bindAndListen h
        rw [port_of_socketAddress hindex] at hasks
        have hall : Asks [port] s s' := hshared.trans ⟨hasks.records, hasks.events⟩
        exact ⟨hall.records, .of_asks hall⟩

/-! ### Several tries -/

theorem TriedInVain.nil (s : Session σ) : TriedInVain os host [] s s :=
  ⟨⟨[], rfl, List.Sublist.refl _, fun _ => rfl⟩, ⟨[], rfl, rfl⟩⟩

/-- A try in vain, its record, and further tries in vain. -/
theorem TriedInVain.cons {ports : List Int} (hrecords : s₁.records = s.records)
    (hasks : AsksAmong os [port] s s₁)
    (h : TriedInVain os host ports
      (s₁.log .debug serverSocketComponent (failureMessage host port e)) s') :
    TriedInVain os host (port :: ports) s s' := by
  obtain ⟨hasks', failures, hports, hr⟩ := h
  refine ⟨hasks.append hasks', (port, e) :: failures, by rw [List.map_cons, hports], ?_⟩
  rw [hr, List.map_cons, List.reverse_cons, List.append_assoc, ← hrecords]
  rfl

/-- A search that finds no port tries its candidates in vain, and nothing else. -/
theorem triedInVain_search {trials : Nat} {last last' : Option SystemError}
    (h : search os p version host zone trials port last s = (.exhausted last', s')) :
    TriedInVain os host (portsFrom trials port) s s' := by
  induction trials generalizing port last s with
  | zero =>
    cases h
    exact .nil _
  | succ trials ih =>
    rw [portsFrom_succ]
    rw [search_succ] at h
    split at h
    · next habove =>
      cases h
      rw [if_pos habove]
      exact .nil _
    · next hbelow =>
      rw [if_neg hbelow]
      split at h
      · cases h
      · next e s₁ hattempt =>
        obtain ⟨hrecords, hasks⟩ := attempt_asks hattempt
        exact .cons hrecords hasks (ih h)
      · cases h

/-- Tries in vain leave nothing of any port but their own. -/
theorem TriedInVain.tried_iff {ports : List Int} {s₀ : Session σ} {more : List Record}
    (h : TriedInVain os host ports s₀ s') (he : s₀.events = s.events)
    (hr : s₀.records = more ++ s.records) (hmore : ∀ e, failureRecord host port e ∉ more) :
    Tried host s s' port ↔ port ∈ ports := by
  obtain ⟨⟨events, hevents, hsub, -⟩, failures, rfl, hrecords⟩ := h
  rw [he] at hevents
  rw [hr, ← List.append_assoc] at hrecords
  constructor
  · rintro (⟨events', he', hport⟩ | ⟨records', hr', e, hnoted⟩)
    · rw [List.append_cancel_right (he'.symm.trans hevents)] at hport
      exact List.mem_reverse.1 (hsub.subset hport)
    · rw [List.append_cancel_right (hr'.symm.trans hrecords), List.mem_append,
        List.mem_reverse] at hnoted
      rcases hnoted with hnoted | hnoted
      · obtain ⟨failure, hmem, heq⟩ := List.mem_map.1 hnoted
        rw [← port_eq_of_failureRecord heq]
        exact List.mem_map_of_mem hmem
      · exact absurd hnoted (hmore e)
  · intro hport
    obtain ⟨⟨port, e⟩, hmem, rfl⟩ := List.mem_map.1 hport
    refine .inr ⟨_, hrecords, e, List.mem_append_left _ (List.mem_reverse.2 ?_)⟩
    exact List.mem_map.2 ⟨(port, e), hmem, rfl⟩

/-- Where the system refuses nothing else, tries in vain ask it for their ports. -/
theorem TriedInVain.asksFor_iff {ports : List Int} {s₀ : Session σ}
    (h : TriedInVain os host ports s₀ s') (hos : os.RefusesOnlyPorts)
    (he : s₀.events = s.events) : AsksFor s s' port ↔ port ∈ ports := by
  obtain ⟨⟨events, hevents, -, hall⟩, -⟩ := h
  rw [he] at hevents
  have hmem : port ∈ boundPorts events ↔ port ∈ ports := by rw [hall hos, List.mem_reverse]
  constructor
  · rintro ⟨events', he', hport⟩
    rw [List.append_cancel_right (he'.symm.trans hevents)] at hport
    exact hmem.1 hport
  · intro hport
    exact ⟨events, hevents, hmem.2 hport⟩

/-! ### The whole search -/

theorem mem_portsFrom {trials first port : Int} (h : 1 ≤ trials) :
    port ∈ portsFrom trials.toNat first ↔
      first ≤ port ∧ port ≤ first + trials - 1 ∧ port ≤ maxPort := by
  unfold portsFrom
  simp only [List.mem_filter, List.mem_map, List.mem_range, decide_eq_true_eq]
  constructor
  · rintro ⟨⟨i, hi, rfl⟩, hle⟩
    omega
  · rintro ⟨hfirst, hlast, hle⟩
    exact ⟨⟨(port - first).toNat, by omega, by omega⟩, hle⟩

/-- When a search from a port says that no port could be had, its ports were tried in vain, and the
fault is about them. -/
theorem exists_triedInVain_of_openFrom {address : Inet} {first : Whole} {trials : Int}
    {bindAny : Bool} {f : Fault} (hfirst : 0 ≤ first.value)
    (h : openFrom os p address (.whole first) trials bindAny s = (.error f, s'))
    (hf : f.errorClass? = some .socketBind) :
    (∃ fixedPort last, f = .cannotBind address (.whole first) trials fixedPort last) ∧
      ∃ s₀ more, s₀.events = s.events ∧ s₀.records = more ++ s.records ∧
        (∀ port e, failureRecord (bindHost address bindAny) port e ∉ more) ∧
        TriedInVain os (bindHost address bindAny) (portsFrom trials.toNat first.value) s₀ s' := by
  unfold openFrom at h
  dsimp only at h
  split at h
  · cases h
  · next f' s₁ hsearch =>
    cases h
    obtain ⟨news, -, hleaves⟩ := afresh_searchFrom hsearch
    rw [errorClass?_of_abortLeaves hleaves] at hf
    cases hf
  · next last s₁ hsearch =>
    cases h
    constructor
    · unfold exhausted at hf ⊢
      split
      · exact ⟨_, _, rfl⟩
      · next hlong =>
        rw [if_neg hlong] at hf
        cases hf
    · -- the record about a port that the system chooses is on another level
      rw [searchFrom_whole _ _ _ _ _ hfirst] at hsearch
      refine ⟨_, if (Number.whole first).isZero then
          [.of .info serverSocketComponent ephemeralMessage] else [],
        ?_, ?_, ?_, triedInVain_search hsearch⟩
      · split <;> rfl
      · split <;> rfl
      · intro port e hmem
        split at hmem
        · have hlevel := congrArg Record.level (List.mem_singleton.1 hmem)
          cases hlevel
        · cases hmem

/-- A fault names the ports that were tried, if any were. -/
def NamesTried (address : Inet) (bindAny : Bool) (s s' : Session σ) (f : Fault) : Prop :=
  (∃ port, Tried (bindHost address bindAny) s s' port) →
    ∀ port, Names address f port ↔ Tried (bindHost address bindAny) s s' port

section Whole

variable {address : Inet} {bindAny : Bool} {port count requested : Whole}
  {autoIncrement reuseAddress : Value} {backlog : Int} {f : Fault}
  (hmake : make port.toValue count.toValue autoIncrement reuseAddress backlog = .ok p)
  (h : p.openSocket os address (.whole requested) bindAny s = (.error f, s'))
  (hf : f.errorClass? = some .socketBind)

include hmake h

/-- A search over whole ports that says that no port could be had is a search from its first
port. -/
theorem openFrom_of_openSocket :
    openFrom os p address (.whole (startOf requested port))
      (trialsFrom (startOf requested port).value autoIncrement.isTrue count.value) bindAny s =
        (.error f, s') := by
  obtain ⟨rfl, -, -⟩ := eq_of_make hmake
  rw [← h]
  exact (openSocket_whole rfl rfl).symm

include hf

theorem names_openSocket_iff (n : Int) :
    Names address f n ↔ (startOf requested port).value ≤ n ∧
      n ≤ lastNamed (startOf requested port).value autoIncrement.isTrue count.value := by
  obtain ⟨-, hport, hcount⟩ := eq_of_make hmake
  obtain ⟨⟨fixedPort, last, rfl⟩, -⟩ :=
    exists_triedInVain_of_openFrom (startOf_nonneg hport) (openFrom_of_openSocket hmake h) hf
  exact names_iff (startOf_nonneg hport) (one_le_trialsFrom hcount _ _)

theorem tried_openSocket_iff (n : Int) :
    Tried (bindHost address bindAny) s s' n ↔ (startOf requested port).value ≤ n ∧
      n ≤ lastNamed (startOf requested port).value autoIncrement.isTrue count.value ∧
        n ≤ maxPort := by
  obtain ⟨-, hport, hcount⟩ := eq_of_make hmake
  obtain ⟨-, s₀, more, he, hr, hmore, hvain⟩ :=
    exists_triedInVain_of_openFrom (startOf_nonneg hport) (openFrom_of_openSocket hmake h) hf
  rw [hvain.tried_iff he hr (hmore n)]
  exact mem_portsFrom (one_le_trialsFrom hcount _ _)

theorem tried_openSocket_iff_asksFor (hos : os.RefusesOnlyPorts) (n : Int) :
    Tried (bindHost address bindAny) s s' n ↔ AsksFor s s' n := by
  obtain ⟨-, hport, -⟩ := eq_of_make hmake
  obtain ⟨-, s₀, more, he, hr, hmore, hvain⟩ :=
    exists_triedInVain_of_openFrom (startOf_nonneg hport) (openFrom_of_openSocket hmake h) hf
  rw [hvain.tried_iff he hr (hmore n), hvain.asksFor_iff hos he]

end Whole

/-- When a search over whole ports says that no port could be had, it names the ports from the
first to as many further on as it was to try, whatever the system refused. It tried those of them
that are not above the highest, and where the system refuses nothing but ports, these are the ports
that it asked the system for. So it names what it tried exactly when the last port that it names is
not above the highest, or when the first one is and none was tried. -/
theorem namesTried_iff {address : Inet} {bindAny : Bool} {port count requested : Whole}
    {autoIncrement reuseAddress : Value} {backlog : Int} {f : Fault}
    (hmake : make port.toValue count.toValue autoIncrement reuseAddress backlog = .ok p)
    (h : p.openSocket os address (.whole requested) bindAny s = (.error f, s'))
    (hf : f.errorClass? = some .socketBind) :
    let first := (startOf requested port).value
    let last := lastNamed first autoIncrement.isTrue count.value
    (∀ n, Names address f n ↔ first ≤ n ∧ n ≤ last) ∧
      (∀ n, Tried (bindHost address bindAny) s s' n ↔ first ≤ n ∧ n ≤ last ∧ n ≤ maxPort) ∧
      (os.RefusesOnlyPorts → ∀ n, Tried (bindHost address bindAny) s s' n ↔ AsksFor s s' n) ∧
      (NamesTried address bindAny s s' f ↔ maxPort < first ∨ last ≤ maxPort) := by
  intro first last
  have hnames : ∀ n, Names address f n ↔ first ≤ n ∧ n ≤ last := names_openSocket_iff hmake h hf
  have htried : ∀ n, Tried (bindHost address bindAny) s s' n ↔
      first ≤ n ∧ n ≤ last ∧ n ≤ maxPort := tried_openSocket_iff hmake h hf
  have hle : first ≤ last := by
    obtain ⟨-, -, hcount⟩ := eq_of_make hmake
    have hone : 1 ≤ trialsFrom first autoIncrement.isTrue count.value :=
      one_le_trialsFrom hcount _ _
    show first ≤ first + trialsFrom first autoIncrement.isTrue count.value - 1
    omega
  refine ⟨hnames, htried, tried_openSocket_iff_asksFor hmake h hf, ?_⟩
  simp only [NamesTried, hnames, htried]
  constructor
  · intro hsame
    by_contra hover
    obtain ⟨hfirst, hlast⟩ := not_or.1 hover
    -- the last port is named, but none above the highest is tried
    have hmeets := hsame ⟨first, by omega⟩ last
    omega
  · rintro (habove | hbelow)
    · rintro ⟨n, hn⟩
      omega
    · intro _ n
      omega

/-- A host on which the two highest ports are taken. -/
def fullHost : PortTable := { PortTable.empty with busy := [65534, 65535] }

/-- The search for up to a number of ports from the last but one on. -/
def fromLastButOne (count : Int) : PortSearch :=
  { PortSearch.default with port := .whole (.number 65534), portCount := .whole (.number count) }

/-- The numbers in its fault are short, so that it says that no port could be had. -/
theorem errorClass?_fromLastButOne {count : Int} (hpos : 1 ≤ count) (hle : count ≤ 100)
    (last : Option SystemError) :
    ((fromLastButOne count).exhausted (.v4 0x0a000004) (.whole (.number 65534)) count
      last).errorClass? = some .socketBind := by
  have hfirst : 0 ≤ (Whole.number 65534).value := by decide
  have hfive : ((Whole.number 65534).value + count - 1).toNat < 10 ^ 5 := by
    simp only [Whole.value]
    omega
  have hshort : 10 ^ 5 ≤ 10 ^ Text.numeralLimit := Nat.pow_le_pow_right (by decide) (by decide)
  exact ((isBindFault_exhausted _ last hfirst hpos).1 (hfive.trans_le hshort)).1

/-- A search for the two highest ports, when both are taken, names them, and these it tried. -/
theorem namesTried_iff_both :
    ∃ f s', (fromLastButOne 2).openSocket PortTable.system (.v4 0x0a000004) (.whole (.number 0))
        false (.start fullHost) = (.error f, s') ∧ f.errorClass? = some .socketBind ∧
      NamesTried (.v4 0x0a000004) false (.start fullHost) s' f := by
  have hmake : make (Whole.number 65534).toValue (Whole.number 2).toValue (.flag true)
      (.flag true) 100 = .ok (fromLastButOne 2) := rfl
  obtain ⟨last, s', hrun⟩ : ∃ last s', (fromLastButOne 2).openSocket PortTable.system
      (.v4 0x0a000004) (.whole (.number 0)) false (.start fullHost) =
        (.error ((fromLastButOne 2).exhausted (.v4 0x0a000004) (.whole (.number 65534)) 2 last),
          s') := ⟨_, _, rfl⟩
  have hf := errorClass?_fromLastButOne (by decide : (1 : Int) ≤ 2) (by decide) last
  obtain ⟨-, -, -, hnames⟩ := namesTried_iff hmake hrun hf
  exact ⟨_, s', hrun, hf, hnames.2 (.inr (by decide))⟩

/-- A search for a hundred ports from the last but one on, when both are taken, names ninety-eight
more than there are. -/
theorem not_namesTried_beyond :
    ∃ f s', make (.whole 65534) (.whole 100) (.flag true) (.flag true) 100 =
        .ok (fromLastButOne 100) ∧
      (fromLastButOne 100).openSocket PortTable.system (.v4 0x0a000004) (.whole (.number 0))
        false (.start fullHost) = (.error f, s') ∧ f.errorClass? = some .socketBind ∧
      ¬ NamesTried (.v4 0x0a000004) false (.start fullHost) s' f := by
  have hmake : make (Whole.number 65534).toValue (Whole.number 100).toValue (.flag true)
      (.flag true) 100 = .ok (fromLastButOne 100) := rfl
  obtain ⟨last, s', hrun⟩ : ∃ last s', (fromLastButOne 100).openSocket PortTable.system
      (.v4 0x0a000004) (.whole (.number 0)) false (.start fullHost) =
        (.error ((fromLastButOne 100).exhausted (.v4 0x0a000004) (.whole (.number 65534)) 100
          last), s') := ⟨_, _, rfl⟩
  have hf := errorClass?_fromLastButOne (by decide : (1 : Int) ≤ 100) (by decide) last
  have hnames := names_openSocket_iff hmake hrun hf
  have htried := tried_openSocket_iff hmake hrun hf
  refine ⟨_, s', hmake, hrun, hf, fun hsame => ?_⟩
  have hbeyond := (hsame ⟨65534, (htried 65534).2 (by decide)⟩ 65536).1
    ((hnames 65536).2 (by decide))
  exact absurd ((htried 65536).1 hbeyond) (by decide)

end Tries

end PortSearch

end MemberAddress
