import MemberAddress.HostPort
import MemberAddress.MemberList
import MemberAddress.Resolver
import MemberAddress.Settings

/-!
# The pool of configured addresses

Before it looks at the interfaces, the picker makes a list of the addresses and patterns that it
may choose from: the interface patterns, or else the discovery members.

* `Origins` maps the addresses of the members to the hostnames that they were resolved from;
* `Origins.ofMembers` makes the map;
* `pool` is the list.
-/

namespace MemberAddress

/-- The addresses of members in order of first mention, each with the hostname that it was last
resolved from, if any. -/
abbrev Origins := List (Text × Option Text)

namespace Origins

/-- The map with a literal address; an address that is there keeps its hostname. -/
def addLiteral (origins : Origins) (address : Text) : Origins :=
  if (origins.lookup address).isSome then origins else origins ++ [(address, none)]

/-- The map with the hostname of an address set; an address that is there keeps its place. -/
def putHost (host : Text) : Origins → Text → Origins
  | [], address => [(address, some host)]
  | (a, h) :: rest, address =>
    if a = address then (a, some host) :: rest else (a, h) :: putHost host rest address

/-- The record of a member that cannot be resolved. -/
def unresolvedRecord (host : Text) : Record :=
  .of .warning pickerComponent ("Cannot resolve hostname: '".toList ++ host ++ ['\''])

/-- Whether a fault says that a hostname has no address. -/
def isUnresolved (f : Fault) : Bool := f.errorClass? == some .hostnameResolution

/-- The map with the addresses of one host: itself if it is an address or a pattern, otherwise
what the name service answers. A host that cannot be resolved adds nothing. -/
def addHost (names : NameService) (origins : Origins) (host : Text) : Logged Origins :=
  if Pattern.isPattern host then pure (origins.addLiteral host)
  else
    match (names.resolve host).result with
    | .ok addresses => ⟨(names.resolve host).records, .ok (addresses.foldl (putHost host) origins)⟩
    | .error f =>
      if isUnresolved f then
        ⟨(names.resolve host).records ++ [unresolvedRecord host], .ok origins⟩
      else ⟨(names.resolve host).records, .error f⟩

/-- The map with the addresses of several entries of a member list, from left to right. -/
def addEntries (names : NameService) : Origins → List Text → Logged Origins
  | origins, [] => pure origins
  | origins, entry :: rest => do
    let parts ← Logged.lift (HostPort.split entry)
    let origins ← addHost names origins parts.host
    addEntries names origins rest

/-- The map of the configured members. -/
def ofMembers (names : NameService) (members : List Value) : Logged Origins := do
  let entries ← Logged.lift (MemberList.split members)
  addEntries names [] entries

/-- The hostname to show for a pattern: that of the same text, else that of the first address that
the pattern selects. -/
def hostFor (origins : Origins) (pattern : Text) : Option Text :=
  match origins.lookup pattern with
  | some (some host) => some host
  | _ => (origins.find? fun origin => Pattern.selectsText pattern origin.1).bind Prod.snd

end Origins

namespace Pool

/-- The pool with one more entry, unless it is there. -/
def addUnique (pool : List PoolEntry) (entry : PoolEntry) : List PoolEntry :=
  if entry ∈ pool then pool else pool ++ [entry]

/-- The record of a configured interface that is no pattern. -/
def noPatternRecord (t : Text) : Record :=
  .of .warning pickerComponent
    ('\'' :: t ++ "' is not an IP address! Removing from interface list.".toList)

/-- The pool with the configured patterns; a text that is no pattern is left out, and so are bytes,
which never are one. -/
def addPatterns (origins : Origins) : List PoolEntry → List Value → Logged (List PoolEntry)
  | pool, [] => pure pool
  | pool, .text t :: rest =>
    if Pattern.isPattern (Text.trim t) then
      addPatterns origins (addUnique pool ⟨Text.trim t, origins.hostFor (Text.trim t)⟩) rest
    else do
      ⟨[noPatternRecord (Text.trim t)], .ok ()⟩
      addPatterns origins pool rest
  | pool, .bytes bs :: rest => do
    ⟨[noPatternRecord bs.trim.shown], .ok ()⟩
    addPatterns origins pool rest
  | _, v :: _ => Logged.fail (.notText v.kind)

/-- The pool of the members' addresses. -/
def ofOrigins (origins : Origins) : List PoolEntry :=
  origins.foldl (fun pool origin => addUnique pool ⟨origin.1, origin.2⟩) []

/-- The message about the pool of configured patterns. -/
def patternsMessage (pool : List PoolEntry) : Text :=
  "Interfaces is enabled, trying to pick one address matching to one of: ".toList ++
    PoolEntry.describe pool

/-- The message about the pool of members. -/
def membersMessage (pool : List PoolEntry) : Text :=
  "Interfaces is disabled, trying to pick one address from TCP-IP config addresses: ".toList ++
    PoolEntry.describe pool

/-- The pool for the given settings. The members are resolved even when only the patterns count,
for the hostnames. -/
def ofSettings (s : Settings) (names : NameService) : Logged (List PoolEntry) := do
  let origins ← if s.membersEnabled then Origins.ofMembers names s.members else pure []
  if s.interfacesEnabled then
    let pool ← addPatterns origins [] s.interfaces
    Logged.log .info pickerComponent (patternsMessage pool)
    return pool
  else if s.membersEnabled then
    Logged.log .info pickerComponent (membersMessage (ofOrigins origins))
    return ofOrigins origins
  else return []

end Pool

end MemberAddress
