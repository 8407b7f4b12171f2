import MemberAddress.Picker.Pool
import MemberAddress.Picker.Scan

/-!
# The choice of an address

* `Surroundings` are the answers of the host to questions about names and interfaces;
* `Choice.bind` chooses the address to bind to: the one that was forced, one of the pool that is
  an address of the host, any address of the host, or the loopback address;
* `Choice.advertised?` chooses the address to advertise, if one was forced.
-/

namespace MemberAddress

/-- The answers of a host to questions about hostnames and interfaces. -/
structure Surroundings where
  names : NameService
  listing : Listing

namespace Choice

/-- The texts that stand for the loopback address. -/
def loopbackNames : List Text := ["127.0.0.1".toList, "localhost".toList]

/-! ### The address to bind to -/

/-- The message when the address is forced. -/
def forcedMessage : Text :=
  "Picking address configured by property '".toList ++ Property.localAddress.name ++ ['\'']

/-- The candidate for an address that was forced. -/
def forced (names : NameService) (address : Text) : Logged Candidate :=
  if loopbackNames.contains address then pure Candidate.loopback
  else do
    Logged.log .info pickerComponent forcedMessage
    let x ← names.resolveOne address
    return Candidate.of x (some address) 0

/-- Whether the pool asks for the loopback address. -/
def asksForLoopback (pool : List PoolEntry) : Bool :=
  loopbackNames.any fun name => pool.contains ⟨name, none⟩

/-- The message about the preferred versions. -/
def preferenceMessage (s : Settings) : Text :=
  "Prefer IPv4 stack is ".toList ++ Value.flagText s.preferIPv4Stack ++
    ", prefer IPv6 addresses is ".toList ++ Value.flagText s.preferIPv6Addresses

/-- The message when no member's address is one of the host. -/
def noMemberMessage : Text :=
  ("Could not find a matching address to start with! " ++
    "Picking one of non-loopback addresses.").toList

/-- The candidate of the pool, if some entry of the pool selects an address of the host. -/
def fromPool (s : Settings) (pool : List PoolEntry) (listing : Listing) :
    Logged (Option Candidate) :=
  if pool = [] then pure none else Scan.pick s pool listing

/-- The candidate when the pool gives none: configured interfaces must match, but a list of members
need not. -/
def withoutMatch (s : Settings) (listing : Listing) : Logged (Option Candidate) :=
  if s.interfacesEnabled then do
    let f := Fault.noMatchingInterface s.interfaces
    Logged.log .error pickerComponent f.message
    Logged.fail f
  else do
    if s.membersEnabled then Logged.log .warning pickerComponent noMemberMessage
    Scan.pick s [] listing

/-- The candidate among the addresses of the host. -/
def matching (s : Settings) (env : Surroundings) : Logged (Option Candidate) := do
  let pool ← Pool.ofSettings s env.names
  if asksForLoopback pool then return some Candidate.loopback
  else
    Logged.log .info pickerComponent (preferenceMessage s)
    match ← fromPool s pool env.listing with
    | some c => return some c
    | none => withoutMatch s env.listing

/-- The candidate with the zone that its address is listed under. -/
def fixZone (listing : Listing) (c : Candidate) : Logged Candidate := do
  let x ← listing.fixZone c.inet
  return if x = c.inet then c else c.withInet x

/-- The candidate to bind to. Only an address that was forced or found gets a zone. -/
def bind (s : Settings) (env : Surroundings) : Logged Candidate := do
  match s.localAddress with
  | some address => do
    let c ← forced env.names address
    fixZone env.listing c
  | none =>
    match ← matching s env with
    | some c => fixZone env.listing c
    | none => return Candidate.loopback

/-! ### The address to advertise -/

/-- The text of a host with its zone, as far as there is a zone. -/
def hostWithZone (a : HostPort) : Text :=
  match a.zone with
  | none | some [] => a.host
  | some zone => a.host ++ '%' :: zone

/-- The candidate to advertise, if the settings force one; only a text does. The port of the socket
stands in for a port that is not given. -/
def advertised? (s : Settings) (names : NameService) (port : Int) : Logged (Option Candidate) :=
  match s.publicAddress with
  | none => pure none
  | some (.text address) =>
    if loopbackNames.contains address then
      pure (some (Candidate.of Inet.loopback (some address) port))
    else do
      let parts ← Logged.lift (HostPort.read address (some port))
      let x ← names.resolveOne (hostWithZone parts)
      return some (Candidate.of x (some parts.host) (parts.port.getD port))
  | some _ => Logged.fail .addressInBytes

end Choice

end MemberAddress
