import MemberAddress.Address
import MemberAddress.Log.Record

/-!
# Sockets of the operating system

An operating system is whatever answers the six socket calls. Its answers may depend on all calls
before, and one thing alone is assumed of them: a call that fails does so with an error of the
system (`SystemError`). Looking up the index of a zone, binding and listening know no other failure
here, so that a zone with a null character in it, and a queue longer than a machine can count, are
left out.

* `SocketSystem` gives the answers to the calls;
* `Session` is the state of the system together with the journal of what was asked of it;
* `Session.openSockets` reads off the journal which sockets are open.

Every socket gets a number of its own when it is created, so that the journal can tell sockets
apart whatever the system does.
-/

namespace MemberAddress

/-- An error of a socket call. -/
structure SystemError where
  message : Text
  deriving DecidableEq, Repr

/-- The error as one of the errors from outside. -/
def SystemError.toOutside (e : SystemError) : OutsideError := ⟨.system, e.message⟩

/-- What a socket is bound to: host and port, and for groups the index of the zone. -/
inductive SocketAddress
  | v4 (host : Text) (port : Int)
  | v6 (host : Text) (port : Int) (zoneIndex : Nat)
  deriving DecidableEq, Repr

namespace SocketAddress

/-- The host of a socket address. -/
def host : SocketAddress → Text
  | .v4 host _ => host
  | .v6 host _ _ => host

/-- The port of a socket address. -/
def port : SocketAddress → Int
  | .v4 _ port => port
  | .v6 _ port _ => port

/-- The socket address with another port. -/
def withPort (a : SocketAddress) (port : Int) : SocketAddress :=
  match a with
  | .v4 host _ => .v4 host port
  | .v6 host _ zoneIndex => .v6 host port zoneIndex

/-- A socket address in the form that a log shows. -/
def shown : SocketAddress → Text
  | .v4 host port => '(' :: Text.quoted host ++ ", ".toList ++ Text.integer port ++ [')']
  | .v6 host port zoneIndex =>
    '(' :: Text.quoted host ++ ", ".toList ++ Text.integer port ++ ", 0, ".toList ++
      Text.decimal zoneIndex ++ [')']

end SocketAddress

/-- The answers of an operating system with states `σ` to the socket calls. Sockets are named by
number. -/
structure SocketSystem (σ : Type) where
  create : Nat → Version → σ → Except SystemError Unit × σ
  reuse : Nat → σ → Except SystemError Unit × σ
  zoneIndex : Text → σ → Except SystemError Nat × σ
  bind : Nat → SocketAddress → σ → Except SystemError SocketAddress × σ
  listen : Nat → Int → σ → Except SystemError Unit × σ
  close : Nat → σ → σ

/-- What was asked of the operating system. -/
inductive SocketEvent
  | created (id : Nat) (version : Version)
  | refused (version : Version)
  | reused (id : Nat)
  | bound (id : Nat) (address : SocketAddress)
  | listening (id : Nat) (backlog : Int)
  | closed (id : Nat) (port : Option Int)
  deriving DecidableEq, Repr

/-- A socket that was bound, with the address that the system gave it. -/
structure Socket where
  id : Nat
  address : SocketAddress
  deriving DecidableEq, Repr

/-- The dealings with an operating system: its state, how many sockets were asked for so far, and
the events and log records, the newest first. -/
structure Session (σ : Type) where
  state : σ
  sockets : Nat
  events : List SocketEvent
  records : List Record

namespace Session

variable {σ α : Type}

/-- The session before any call. -/
def start (state : σ) : Session σ := ⟨state, 0, [], []⟩

/-- The session with one more record. -/
def log (s : Session σ) (severity : Severity) (component message : Text) : Session σ :=
  { s with records := .of severity component message :: s.records }

/-- The session with the records of a logged step. -/
def absorb (s : Session σ) (x : Logged α) : Session σ :=
  { s with records := x.records.reverse ++ s.records }

/-- The session with one more event and the state after it. -/
def note (s : Session σ) (event : SocketEvent) (state : σ) : Session σ :=
  { s with state := state, events := event :: s.events }

/-- The session in which a socket was closed; `port` is the port that it was bound to, if any. -/
def closeSocket (os : SocketSystem σ) (s : Session σ) (id : Nat) (port : Option Int) : Session σ :=
  s.note (.closed id port) (os.close id s.state)

end Session

/-- The sockets that are open after the given events, the newest event first. -/
def openAfter : List SocketEvent → List Nat
  | [] => []
  | .created id _ :: rest => id :: openAfter rest
  | .closed id _ :: rest => (openAfter rest).filter (· != id)
  | _ :: rest => openAfter rest

/-- The sockets that are open in a session. -/
def Session.openSockets {σ : Type} (s : Session σ) : List Nat := openAfter s.events

end MemberAddress
