import MemberAddress.Picker.Choice
import MemberAddress.Socket.PortSearch

/-!
# The picker

* `Picker` picks, once, the address that a member binds to and the one that it advertises, and
  holds the socket that listens on the former;
* `Picker.pick` does the work; when it fails, the picker is as it was and the socket is closed;
* `Picker.close` gives the socket up, `Picker.serverSocket` shows it.

The socket is opened by an `Opener`; `PortSearch.opener` is the usual one.
-/

namespace MemberAddress

/-- A way to open a listening socket for an address, a requested port, and the wish to listen on
all addresses. -/
abbrev Opener (σ : Type) := Inet → Int → Bool → Session σ → Except Fault Socket × Session σ

/-- The opener that searches for a port. -/
def PortSearch.opener {σ : Type} (os : SocketSystem σ) (p : PortSearch) : Opener σ :=
  fun address requested bindAny s =>
    p.openSocket os address (.whole (.number requested)) bindAny s

/-- A picker: what it is told, and what it picked. -/
structure Picker where
  settings : Settings
  bindAddress : Option Address
  publicAddress : Option Address
  socket : Option Socket
  closed : Bool

namespace Picker

variable {σ : Type}

/-- A picker that has not picked yet. -/
def new (settings : Settings) : Picker := ⟨settings, none, none, none, false⟩

/-- The session in which the socket that the picker holds, if any, was closed. -/
def release (os : SocketSystem σ) (held : Option Socket) (s : Session σ) : Session σ :=
  match held with
  | none => s
  | some socket => s.closeSocket os socket.id (some socket.address.port)

/-- The message about the address that was picked. -/
def pickedMessage (bindAddress : Address) (socket : Socket) (bindAny : Bool) : Text :=
  "Picked ".toList ++ bindAddress.text ++ ", using socket ".toList ++ socket.address.shown ++
    ", bind any local is ".toList ++ Value.flagText bindAny

/-- The message about an address to advertise that was forced. -/
def publicMessage (address : Address) : Text := "Using public address: ".toList ++ address.text

/-- The message when the address to bind to is advertised. -/
def samePublicMessage (address : Address) : Text :=
  "Using public address the same as the bind address: ".toList ++ address.text

/-- The message about a fault. -/
def failureMessage (f : Fault) : Text :=
  "Cannot pick an address for this member: ".toList ++ f.message

/-- The address to advertise when the socket listens at the given address. -/
def advertise (s : Settings) (names : NameService) (bindAddress : Address) : Logged Address := do
  match ← Choice.advertised? s names bindAddress.port with
  | some c => do
    let address := c.toAddress c.endpoint.port
    Logged.log .info pickerComponent (publicMessage address)
    return address
  | none => do
    Logged.log .debug pickerComponent (samePublicMessage bindAddress)
    return bindAddress

/-- The picker after a fault: the socket that it holds is closed, and the rest is as it was. -/
def fail (p : Picker) (os : SocketSystem σ) (held : Option Socket) (f : Fault) (s : Session σ) :
    Except Fault Unit × Picker × Session σ :=
  (.error f, { p with socket := none },
    (release os held s).log .error pickerComponent (failureMessage f))

/-- Picks the addresses and opens the socket, unless that was done before. -/
def pick (p : Picker) (env : Surroundings) (os : SocketSystem σ) (opener : Opener σ)
    (s : Session σ) : Except Fault Unit × Picker × Session σ :=
  if p.bindAddress.isSome ∨ p.publicAddress.isSome then (.ok (), p, s)
  else
    let choice := Choice.bind p.settings env
    let s := s.absorb choice
    match choice.result with
    | .error f => p.fail os p.socket f s
    | .ok c =>
      match opener c.inet c.endpoint.port p.settings.bindAny s with
      | (.error f, s) => p.fail os p.socket f s
      | (.ok socket, s) =>
        let bindAddress := c.toAddress socket.address.port
        let s := s.log .info pickerComponent (pickedMessage bindAddress socket p.settings.bindAny)
        let advertised := advertise p.settings env.names bindAddress
        let s := s.absorb advertised
        match advertised.result with
        | .error f => p.fail os (some socket) f s
        | .ok publicAddress =>
          (.ok (),
            { p with
              bindAddress := some bindAddress
              publicAddress := some publicAddress
              socket := some socket }, s)

/-- The socket that the picker holds; a picker that was closed does not show it. -/
def serverSocket (p : Picker) : Except Fault (Option Socket) :=
  if p.closed then .error .closed else .ok p.socket

/-- Closes the socket that the picker holds. -/
def close (p : Picker) (os : SocketSystem σ) (s : Session σ) : Picker × Session σ :=
  ({ p with socket := none, closed := true }, release os p.socket s)

end Picker

end MemberAddress
