import MemberAddress.Socket.System

/-!
# A host described by tables

An operating system whose answers follow from tables: which ports are taken, which addresses are
not its own, and which interfaces it has.

* `PortTable` holds the tables, the ports held by open sockets included;
* `PortTable.system` answers the socket calls from them.
-/

namespace MemberAddress

/-- The tables of a host. Every binding of a socket to a port adds a holder of the port, and every
closing of a bound socket takes one away, also when the socket was closed before. -/
structure PortTable where
  withoutV6 : Bool
  unassigned : List Text
  busy : List Int
  refusingListen : List Int
  ephemeral : Int
  zoneIndices : List (Text × Nat)
  bound : List (Nat × Int)
  held : List Int

namespace PortTable

/-- A host with nothing taken and nothing amiss. -/
def empty : PortTable where
  withoutV6 := false
  unassigned := []
  busy := []
  refusingListen := []
  ephemeral := 49152
  zoneIndices := []
  bound := []
  held := []

/-- The answer for a socket address: not the host's own, or a port taken, or the address with the
port that it gets. Port zero asks for the ephemeral port, which is given out unchecked. -/
def bindAnswer (t : PortTable) (address : SocketAddress) : Except SystemError SocketAddress :=
  if t.unassigned.contains address.host then
    .error ⟨"[Errno 99] Cannot assign requested address".toList⟩
  else if t.busy.contains address.port || t.held.contains address.port then
    .error ⟨"[Errno 98] Address already in use".toList⟩
  else .ok (if address.port = 0 then address.withPort t.ephemeral else address)

/-- The answers to the socket calls. -/
def system : SocketSystem PortTable where
  create _ version t :=
    if t.withoutV6 ∧ version = .v6 then
      (.error ⟨"[Errno 97] Address family not supported by protocol".toList⟩, t)
    else (.ok (), t)
  reuse _ t := (.ok (), t)
  zoneIndex name t :=
    match t.zoneIndices.lookup name with
    | some n => (.ok n, t)
    | none => (.error ⟨"no interface with this name".toList⟩, t)
  bind id address t :=
    match t.bindAnswer address with
    | .ok name =>
      (.ok name, { t with bound := (id, name.port) :: t.bound, held := name.port :: t.held })
    | .error e => (.error e, t)
  listen id _ t :=
    match t.bound.lookup id with
    | some port =>
      if t.refusingListen.contains port then
        (.error ⟨"[Errno 95] Operation not supported".toList⟩, t)
      else (.ok (), t)
    | none => (.ok (), t)
  close id t :=
    match t.bound.lookup id with
    | some port => { t with held := t.held.erase port }
    | none => t

end PortTable

end MemberAddress
