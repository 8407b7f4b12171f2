import MemberAddress.Text.Blank
import MemberAddress.Text.Digit
import MemberAddress.Resolver

/-!
# Files about the host

What a host keeps in files: the names it knows, and the sockets on which it listens.

* `HostFiles.names` answers for hostnames from a table of hosts;
* `HostFiles.listeningPorts` are the taken ports in a table of sockets.
-/

namespace MemberAddress.HostFiles

/-- The words of a line. -/
def words (line : Text) : List Text :=
  (Text.pieces Text.isBlank line).filter fun word => !word.isEmpty

/-- The lines of a table of hosts without comments: an address, then its names. -/
def hostLines (table : Text) : List (Text × List Text) :=
  (Text.fields '\n' table).filterMap fun line =>
    match words (Text.before '#' line) with
    | address :: names => some (address, names)
    | [] => none

/-- The name service that a table of hosts gives. -/
def names (table : Text) : NameService := fun host =>
  match (hostLines table).filter fun line => line.2.contains host with
  | [] => .error ⟨.nameLookup, "[Errno -2] Name or service not known".toList⟩
  | lines => .ok (lines.map Prod.fst)

/-- The state of a listening socket in a table of sockets. -/
def listeningState : Text := "0A".toList

/-- The port of a line of a table of sockets, if the socket listens: number, local address with the
port in hexadecimal digits, remote address, state. -/
def listeningPort? (line : Text) : Option Int :=
  match words line with
  | _ :: localAddress :: _ :: state :: _ =>
    if state = listeningState then
      (Text.numeral? 16 Text.hexDigit? (Text.cutLast ':' localAddress).2).map Int.ofNat
    else none
  | _ => none

/-- The ports of the listening sockets in a table of sockets. -/
def listeningPorts (table : Text) : List Int := (Text.fields '\n' table).filterMap listeningPort?

end MemberAddress.HostFiles
