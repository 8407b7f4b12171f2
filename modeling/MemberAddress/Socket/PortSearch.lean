import MemberAddress.Socket.System

/-!
# The search for a port

A member listens on the first port, counted up from a given one, that the operating system lets it
have.

* `PortSearch` are the settings of the search, `PortSearch.make` checks them;
* `PortSearch.attempt` tries one port;
* `PortSearch.search` tries ports one after another and never goes beyond the highest port;
* `PortSearch.openSocket` is the whole search, `PortSearch.exhausted` what is said when it fails.

The first port may be a number that is not whole. No address has such a port, but this shows only
when a socket is about to be bound (`PortSearch.attemptReal`, `PortSearch.searchReal`).
-/

namespace MemberAddress

/-- The settings of the search, kept as they were given: whether it goes on to further ports, whether
it shares ports, and numbers that may turn out not to be whole. -/
structure PortSearch where
  port : Number
  portCount : Number
  autoIncrement : Value
  reuseAddress : Value
  backlog : Int

/-- The outcome of trying one port: a listening socket, an error that lets the search go on, or a
fault that ends it. -/
inductive Attempt
  | opened (socket : Socket)
  | failed (error : SystemError)
  | aborted (fault : Fault)

/-- The outcome of trying several ports: a listening socket, no success with the last error, or a
fault that ended the search. -/
inductive SearchOutcome
  | opened (socket : Socket)
  | exhausted (last : Option SystemError)
  | aborted (fault : Fault)

namespace PortSearch

variable {σ : Type}

/-- The highest port. -/
def maxPort : Int := 65535

/-- The default number of ports tried. -/
def defaultPortCount : Int := 100

/-- The default length of the queue of a listening socket. -/
def defaultBacklog : Int := 100

/-- A number that is compared with bounds; other values cannot be compared. -/
def comparable (v : Value) : Except Fault Number :=
  match Number.ofValue? v with
  | some n => .ok n
  | none => .error (.notComparable v.kind)

theorem comparable_toValue (n : Whole) : comparable n.toValue = .ok (.whole n) := by
  cases n <;> rfl

/-- The settings of a search, checked. -/
def make (port portCount autoIncrement reuseAddress : Value) (backlog : Int) :
    Except Fault PortSearch :=
  match comparable port with
  | .error e => .error e
  | .ok port =>
    if port.isBelow 0 || port.isAbove maxPort then .error (.portOutOfRangeGot port)
    else
      match comparable portCount with
      | .error e => .error e
      | .ok portCount =>
        if portCount.isBelow 1 then .error .portCountTooSmall
        else .ok ⟨port, portCount, autoIncrement, reuseAddress, backlog⟩

/-! ### One port -/

/-- The index of a zone: the number that a run of digits denotes, or else the answer of the
system for the name. Digits that form no numeral are a fault, and so are too many of them. -/
def zoneIndex (os : SocketSystem σ) (zone : Text) (state : σ) :
    Except (SystemError ⊕ Fault) Nat × σ :=
  if zone.all Text.isDigitSymbol then
    let digits := (zone.takeWhile Text.isDigit).length
    if Text.numeralLimit < digits then (.error (.inr (.overlongNumeral digits)), state)
    else
      match Text.numeral? 10 Text.digit? zone with
      | some n => (.ok n, state)
      | none => (.error (.inr (.notANumeral zone)), state)
  else
    match os.zoneIndex zone state with
    | (.ok n, state) => (.ok n, state)
    | (.error e, state) => (.error (.inl e), state)

/-- The address to bind to, with the index of the zone for groups. -/
def socketAddress (os : SocketSystem σ) (version : Version) (host : Text) (zone : Option Zone)
    (port : Int) (state : σ) : Except (SystemError ⊕ Fault) SocketAddress × σ :=
  match version, zone with
  | .v4, _ => (.ok (.v4 host port), state)
  | .v6, none => (.ok (.v6 host port 0), state)
  | .v6, some zone =>
    match zoneIndex os zone.text state with
    | (.ok n, state) => (.ok (.v6 host port n), state)
    | (.error e, state) => (.error e, state)

/-- Binding and listening, with a socket that was created. -/
def bindAndListen (os : SocketSystem σ) (p : PortSearch) (id : Nat) (address : SocketAddress)
    (s : Session σ) : Attempt × Session σ :=
  match os.bind id address s.state with
  | (.error e, state) =>
    (.failed e, (s.note (.bound id address) state).closeSocket os id none)
  | (.ok name, state) =>
    let s := s.note (.bound id address) state
    match os.listen id p.backlog s.state with
    | (.error e, state) =>
      (.failed e, (s.note (.listening id p.backlog) state).closeSocket os id (some name.port))
    | (.ok (), state) => (.opened ⟨id, name⟩, s.note (.listening id p.backlog) state)

/-- Sharing the address, if the settings say so, with a socket that was created. -/
def shareAddress (os : SocketSystem σ) (p : PortSearch) (id : Nat) (s : Session σ) :
    Except SystemError Unit × Session σ :=
  if p.reuseAddress.isTrue then
    match os.reuse id s.state with
    | (answer, state) => (answer, s.note (.reused id) state)
  else (.ok (), s)

/-- The address to bind to at a port that is not whole. The zone is looked up first, and then it
turns out that there is no such address. -/
def realAddress (os : SocketSystem σ) (version : Version) (host : Text) (zone : Option Zone)
    (port : Binary64) (state : σ) : Except (SystemError ⊕ Fault) SocketAddress × σ :=
  match socketAddress os version host zone 0 state with
  | (.error e, state) => (.error e, state)
  | (.ok _, state) => (.error (.inr (.notWhole (Value.real port).kind)), state)

/-- One port, with a fresh socket and the address that is found for it. A socket that fails is
closed again; one that cannot be created ends the search, and so does a fault of the address. -/
def attemptAt (os : SocketSystem σ) (p : PortSearch) (version : Version)
    (address : σ → Except (SystemError ⊕ Fault) SocketAddress × σ) (s : Session σ) :
    Attempt × Session σ :=
  let id := s.sockets
  match os.create id version s.state with
  | (.error e, state) =>
    (.aborted (.outside e.toOutside), { s.note (.refused version) state with sockets := id + 1 })
  | (.ok (), state) =>
    let s := { s.note (.created id version) state with sockets := id + 1 }
    match shareAddress os p id s with
    | (.error e, s) => (.failed e, s.closeSocket os id none)
    | (.ok (), s) =>
      match address s.state with
      | (.error (.inl e), state) => (.failed e, { s with state := state }.closeSocket os id none)
      | (.error (.inr f), state) => (.aborted f, { s with state := state })
      | (.ok address, state) => bindAndListen os p id address { s with state := state }

/-- One port. A zone that is no numeral ends the search. -/
def attempt (os : SocketSystem σ) (p : PortSearch) (version : Version) (host : Text)
    (zone : Option Zone) (port : Int) (s : Session σ) : Attempt × Session σ :=
  attemptAt os p version (socketAddress os version host zone port) s

/-- One port that is not whole. It is never had, and what comes as far as its address ends the
search. -/
def attemptReal (os : SocketSystem σ) (p : PortSearch) (version : Version) (host : Text)
    (zone : Option Zone) (port : Binary64) (s : Session σ) : Attempt × Session σ :=
  attemptAt os p version (realAddress os version host zone port) s

/-! ### Several ports -/

/-- The record of a port that could not be had. -/
def failureMessage (host : Text) (port : Int) (e : SystemError) : Text :=
  "Cannot bind to ".toList ++ host ++ ':' :: Text.integer port ++ ": ".toList ++ e.message

/-- The record of a port that could be had. -/
def successMessage (host : Text) (socket : Socket) : Text :=
  "Bound server socket to ".toList ++ host ++ ':' :: Text.integer socket.address.port

/-- Up to `trials` ports, counted from `place` on, as far as they are not above the highest; `port`
are the ports by their places, and `attempt` tries the one in a place. -/
def searchBy (host : Text) (port : Int → Number)
    (attempt : Int → Session σ → Attempt × Session σ) :
    Nat → Int → Option SystemError → Session σ → SearchOutcome × Session σ
  | 0, _, last, s => (.exhausted last, s)
  | trials + 1, place, last, s =>
    if (port place).isAbove maxPort then (.exhausted last, s)
    else
      match attempt place s with
      | (.opened socket, s) =>
        (.opened socket, s.log .debug serverSocketComponent (successMessage host socket))
      | (.failed e, s) =>
        searchBy host port attempt trials (place + 1) (some e)
          (s.log .debug serverSocketComponent (failureMessage host (port place).integerPart e))
      | (.aborted f, s) => (.aborted f, s)

/-- Up to `trials` ports from `port` on, none of them above the highest. -/
def search (os : SocketSystem σ) (p : PortSearch) (version : Version) (host : Text)
    (zone : Option Zone) (trials : Nat) (port : Int) (last : Option SystemError) (s : Session σ) :
    SearchOutcome × Session σ :=
  searchBy host (fun port => .whole (.number port)) (attempt os p version host zone) trials port
    last s

/-- Up to `trials` ports from one on that is not whole, none of them above the highest. -/
def searchReal (os : SocketSystem σ) (p : PortSearch) (version : Version) (host : Text)
    (zone : Option Zone) (first : Binary64) (trials : Nat) (s : Session σ) :
    SearchOutcome × Session σ :=
  searchBy host (Number.real first).plus (fun _ => attemptReal os p version host zone first) trials
    0 none s

/-- One step of a search: it is over beyond the highest port, with a port that is had, and with a
fault; else it goes on. -/
theorem search_succ (os : SocketSystem σ) (p : PortSearch) (version : Version) (host : Text)
    (zone : Option Zone) (trials : Nat) (port : Int) (last : Option SystemError) (s : Session σ) :
    search os p version host zone (trials + 1) port last s =
      if maxPort < port then (.exhausted last, s)
      else
        match attempt os p version host zone port s with
        | (.opened socket, s) =>
          (.opened socket, s.log .debug serverSocketComponent (successMessage host socket))
        | (.failed e, s) =>
          search os p version host zone trials (port + 1) (some e)
            (s.log .debug serverSocketComponent (failureMessage host port e))
        | (.aborted f, s) => (.aborted f, s) := by
  have habove : ((Number.whole (.number port)).isAbove maxPort = true) = (maxPort < port) :=
    decide_eq_true_eq
  rw [search, searchBy]
  simp only [habove]
  rfl

/-- A number where only a whole one will do. -/
def wholeNumber (x : Number) : Except Fault Whole :=
  match x.whole? with
  | some n => .ok n
  | none => .error (.notWhole x.toValue.kind)

/-- The port at which a search starts: the requested one if positive, else that of the settings. -/
def firstPort (p : PortSearch) (requested : Number) : Number :=
  if requested.isAbove 0 then requested else p.port

/-- How many ports a search may try from a port on: one if the system chooses the port or if the
search must not go on, else as many as the settings say. -/
def trials (p : PortSearch) (first : Number) : Except Fault Int :=
  if first.isAbove 0 ∧ p.autoIncrement.isTrue then (wholeNumber p.portCount).map Whole.value
  else .ok 1

/-- The host to bind to: the address itself, or the address that stands for all of its version. -/
def bindHost (address : Inet) (bindAny : Bool) : Text :=
  if bindAny then
    match address.version with
    | .v4 => "0.0.0.0".toList
    | .v6 => "::".toList
  else address.hostText

/-- The zone to bind in: that of the address, and none for the address that stands for all. -/
def bindZone (address : Inet) (bindAny : Bool) : Option Zone :=
  if bindAny then none else address.zone

/-- The message when the system is to choose the port. -/
def ephemeralMessage : Text :=
  "No explicit port is given, system will pick up an ephemeral port.".toList

/-- The fault of a search that found no port. It names the first port and, of several, the last of
`trials` ports; numbers too long to write are a fault of their own. -/
def exhausted (p : PortSearch) (address : Inet) (first : Number) (trials : Int)
    (last : Option SystemError) : Fault :=
  if first.toValue.isShowable && (first.lastOf (max trials 1)).toValue.isShowable then
    .cannotBind address first trials (first.isAbove 0 && !p.autoIncrement.isTrue)
      (last.map SystemError.toOutside)
  else .overlongNumber

/-- Up to `trials` ports from a first one on. One that is not positive stands for port zero, for
which the system chooses a port. -/
def searchFrom (os : SocketSystem σ) (p : PortSearch) (version : Version) (host : Text)
    (zone : Option Zone) (first : Number) (trials : Nat) (s : Session σ) :
    SearchOutcome × Session σ :=
  match first with
  | .whole n => search os p version host zone trials (max n.value 0) none s
  | .real x =>
    if first.isAbove 0 then searchReal os p version host zone x trials s
    else search os p version host zone trials 0 none s

theorem searchFrom_whole (os : SocketSystem σ) (p : PortSearch) (version : Version) (host : Text)
    (zone : Option Zone) {first : Whole} (h : 0 ≤ first.value) (trials : Nat) (s : Session σ) :
    searchFrom os p version host zone (.whole first) trials s =
      search os p version host zone trials first.value none s := by
  rw [searchFrom, Int.max_eq_left h]

/-- A listening socket for an address, on the first of up to `trials` ports from `first` on that can
be had. -/
def openFrom (os : SocketSystem σ) (p : PortSearch) (address : Inet) (first : Number)
    (trials : Int) (bindAny : Bool) (s : Session σ) : Except Fault Socket × Session σ :=
  let s := if first.isZero then s.log .info serverSocketComponent ephemeralMessage else s
  match searchFrom os p address.version (bindHost address bindAny) (bindZone address bindAny) first
      trials.toNat s with
  | (.opened socket, s) => (.ok socket, s)
  | (.aborted f, s) => (.error f, s)
  | (.exhausted last, s) => (.error (p.exhausted address first trials last), s)

/-- A listening socket for an address, on the first port that can be had. -/
def openSocket (os : SocketSystem σ) (p : PortSearch) (address : Inet) (requested : Number)
    (bindAny : Bool) (s : Session σ) : Except Fault Socket × Session σ :=
  match p.trials (p.firstPort requested) with
  | .error f => (.error f, s)
  | .ok trials => openFrom os p address (p.firstPort requested) trials bindAny s

end PortSearch

end MemberAddress
