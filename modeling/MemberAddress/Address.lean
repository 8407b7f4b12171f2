import MemberAddress.Inet.Printer
import MemberAddress.Text.Quoted

/-!
# Member addresses

The address at which a member is reached, and the steps on the way to it.

* `Address` is a host with a port; the zone of a local address is kept apart from the host;
* `PoolEntry` is an address or pattern that a member may bind to, with the hostname that it was
  resolved from;
* `Endpoint` is an internet address with a port, `Candidate` an entry with its endpoint.
-/

namespace MemberAddress

/-! ### Addresses of members -/

/-- A member address: a hostname, or an internet address without its zone, and a port. -/
structure Address where
  host : Text
  port : Int
  zone : Option Text
  deriving DecidableEq, Repr

namespace Address

/-- The port of a member when nothing else is said. -/
def defaultPort : Int := 5701

/-- Whether the host is an address of groups. -/
def isV6 (a : Address) : Bool := a.host.contains ':'

/-- The text of an address, with brackets around groups. -/
def text (a : Address) : Text :=
  if a.isV6 then '[' :: a.host ++ ']' :: ':' :: Text.integer a.port
  else a.host ++ ':' :: Text.integer a.port

/-- An address in the form that a log shows. -/
def shown (a : Address) : Text :=
  "Address(".toList ++ Text.quoted a.host ++ ", ".toList ++ Text.integer a.port ++ [')']

/-- Whether two addresses are the same member: host and port decide, the zone does not. -/
def same (a b : Address) : Bool := a.host == b.host && a.port == b.port

end Address

/-! ### Candidates -/

/-- An address or pattern to bind to, with the hostname that it was resolved from. -/
structure PoolEntry where
  address : Text
  host : Option Text
  deriving DecidableEq, Repr

/-- The text of an entry: the hostname, if any, before the address. -/
def PoolEntry.text (e : PoolEntry) : Text :=
  match e.host with
  | some host => host ++ '/' :: e.address
  | none => e.address

/-- The texts of several entries between brackets. -/
def PoolEntry.describe (entries : List PoolEntry) : Text :=
  '[' :: List.intercalate ", ".toList (entries.map PoolEntry.text) ++ [']']

/-- An internet address with a port; the port zero stands for none. -/
structure Endpoint where
  inet : Inet
  port : Int
  deriving DecidableEq, Repr

/-- A candidate for a member address. -/
structure Candidate where
  entry : PoolEntry
  endpoint : Endpoint
  deriving DecidableEq, Repr

namespace Candidate

/-- The candidate for an internet address, with the hostname that led to it and a port. -/
def of (inet : Inet) (host : Option Text) (port : Int) : Candidate :=
  ⟨⟨inet.text, host⟩, ⟨inet, port⟩⟩

/-- The internet address of a candidate. -/
def inet (c : Candidate) : Inet := c.endpoint.inet

/-- The hostname of a candidate. -/
def host (c : Candidate) : Option Text := c.entry.host

/-- The candidate moved to another internet address; hostname and port stay. -/
def withInet (c : Candidate) (inet : Inet) : Candidate :=
  ⟨{ c.entry with address := inet.text }, { c.endpoint with inet := inet }⟩

/-- The candidate for the loopback address. -/
def loopback : Candidate := of Inet.loopback none 0

/-- The member address of a candidate: its hostname, or else its internet address, with a port. -/
def toAddress (c : Candidate) (port : Int) : Address where
  host := c.host.getD c.inet.hostText
  port := port
  zone := c.inet.zone.map Zone.text

@[simp] theorem inet_of (x : Inet) (host : Option Text) (port : Int) : (of x host port).inet = x :=
  rfl

@[simp] theorem host_of (x : Inet) (host : Option Text) (port : Int) : (of x host port).host = host :=
  rfl

@[simp] theorem inet_withInet (c : Candidate) (x : Inet) : (c.withInet x).inet = x := rfl

@[simp] theorem host_withInet (c : Candidate) (x : Inet) : (c.withInet x).host = c.host := rfl

end Candidate

end MemberAddress
