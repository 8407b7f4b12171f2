import MemberAddress.Fault

/-!
# Hosts with ports

A configured address is a host with an optional port, or range of ports, and an optional zone:
`host`, `host:port`, `a.b.c.d:first-last`, `[v6%zone]:port` or a bare address of groups.

* `HostPort.split` takes such a text apart;
* `HostPort.readPorts?` reads one port or two;
* `HostPort.read` puts a default in the place of a port that is missing or out of range;
* `HostPort.ofValue` does the same for a value of any kind.
-/

namespace MemberAddress

/-- A host with its zone and port. No port means that the text gave none within range. -/
structure HostPort where
  host : Text
  zone : Option Text
  port : Option Int
  deriving DecidableEq, Repr

namespace HostPort

/-- The highest port. -/
def maxPort : Nat := 65535

/-! ### Ports -/

/-- The texts of one port, or of two with a hyphen between them: runs of decimal digits. -/
def portTexts? (t : Text) : Option (Text × Option Text) :=
  match Text.cut '-' t with
  | (first, none) => if first ≠ [] ∧ first.all Text.isDigit then some (first, none) else none
  | (first, some last) =>
    if first ≠ [] ∧ first.all Text.isDigit ∧ last ≠ [] ∧ last.all Text.isDigit then
      some (first, some last)
    else none

/-- The number of a run of decimal digits, unless there are too many of them. -/
def readNumber (t : Text) : Except Fault Nat :=
  if Text.numeralLimit < t.length then .error (.overlongNumeral t.length)
  else .ok ((Text.numeral? 10 Text.digit? t).getD 0)

/-- The first port of a text of one or two ports; none if the text has another form or if one of
the ports is above the highest. -/
def readPort (t : Text) : Except Fault (Option Nat) :=
  match portTexts? (Text.trim t) with
  | none => .ok none
  | some (firstText, lastText) =>
    match readNumber firstText, (lastText.map readNumber).getD (readNumber firstText) with
    | .error e, _ => .error e
    | .ok _, .error e => .error e
    | .ok first, .ok last => .ok (if maxPort < first ∨ maxPort < last then none else some first)

/-! ### Hosts -/

/-- A host with its zone taken off and a port added. -/
def ofHost (t : Text) (port : Option Nat) : HostPort :=
  let (host, zone) := Text.cut '%' t
  ⟨host, zone, port.map Int.ofNat⟩

/-- The parts of an address without blanks around it. A bracket that is not closed and a port that
is no port belong to the host. -/
def splitTrimmed (t : Text) : Except Fault HostPort :=
  match t with
  | '[' :: inner =>
    match Text.cut ']' inner with
    | (_, none) => .ok (ofHost t none)
    | (host, some (':' :: port)) => (readPort port).map (ofHost host)
    | (host, some _) => .ok (ofHost host none)
  | _ =>
    if t.count ':' = 1 then
      match Text.cut ':' t with
      | (host, some port) =>
        if (portTexts? (Text.trim port)).isSome then (readPort port).map (ofHost host)
        else .ok (ofHost t none)
      | (_, none) => .ok (ofHost t none)
    else .ok (ofHost t none)

/-- The host, zone and port of a configured address; fails only on a port of too many digits. -/
def split (t : Text) : Except Fault HostPort := splitTrimmed (Text.trim t)

/-- The address with a default port for a missing one. -/
def orPort (a : HostPort) (default : Option Int) : HostPort := { a with port := a.port <|> default }

/-- The host, zone and port of a configured address, with a default port. -/
def read (t : Text) (default : Option Int) : Except Fault HostPort :=
  (split t).map fun a => a.orPort default

/-- The address in a value; only texts hold one. -/
def ofValue (v : Value) (default : Option Int) : Except Fault HostPort :=
  match v with
  | .text t => read t default
  | v => .error (.notText v.kind)

/-- An address in the form that a log shows. -/
def shown (a : HostPort) : Text :=
  "AddressHolder(".toList ++ Text.quoted a.host ++ ", ".toList ++
    (a.port.map Text.integer).getD "None".toList ++ ", scope_id=".toList ++
    Text.quotedOption a.zone ++ [')']

end HostPort

end MemberAddress
