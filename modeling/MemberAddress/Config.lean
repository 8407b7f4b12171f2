import MemberAddress.Fault
import MemberAddress.Socket.PortSearch

/-!
# Member configuration

What a member's configuration says about its network. Values are kept as they were given; a value
is looked into where it is used.

* `Value.toText` and `Value.toFlag` are the text and the flag in a value, unless a number in it is too
  long to write;
* `AddressSection` is a list of addresses that may be switched off: the interface patterns, or the
  discovery members;
* `NetworkConfig` and `Config` hold the rest;
* `Config.ofValue` builds a configuration from a table;
* `NetworkAssignment` are the assignments to the network settings. An assignment takes effect
  before the result is validated.
-/

namespace MemberAddress

/-! ### Texts and flags in values -/

namespace Value

/-- The text of a value, however deeply it is nested. The limit that the stack of a running program
sets to the nesting is left out, so that only a number that is too long leaves a value without a
text. -/
def toText (v : Value) : Except Fault Text :=
  if v.isShowable then .ok v.shown else .error .overlongNumber

/-- The texts of the items of a list. -/
def toTexts : List Value → Except Fault (List Text)
  | [] => .ok []
  | v :: rest =>
    match v.toText with
    | .error e => .error e
    | .ok t => (toTexts rest).map (t :: ·)

/-- The flag that a value gives; the default when it gives none. -/
def toFlag (v : Value) (default : Bool) : Except Fault Bool :=
  if v.isShowable then .ok (v.asFlag default) else .error .overlongNumber

end Value

/-! ### Sections of a table -/

namespace Entries

/-- A nested table; a missing one, or null, is empty. -/
def nested (entries : Entries) (key : String) : Except Fault Entries :=
  match (entries.get key).content with
  | .null => .ok []
  | .table inner => .ok inner
  | v => .error (.notMapping key.toList v.kind)

/-- A list of texts. A missing one, or null, is empty, and a text stands for itself alone. -/
def textList (entries : Entries) (key : String) : Except Fault (List Value) :=
  match (entries.get key).content with
  | .null => .ok []
  | .text t => .ok [.text t]
  | .list items => (Value.toTexts items).map fun ts => ts.map .text
  | v => .error (.notList key.toList v.kind)

end Entries

/-- The entries of a value where a table is needed. -/
def Value.entries (v : Value) : Except Fault Entries :=
  match v.content with
  | .table entries => .ok entries
  | v => .error (.notTable v.kind)

/-- The members of a value where a list is needed; an empty value of any kind has none. -/
def Value.asItems (v : Value) : Except Fault (List Value) :=
  match v.items? with
  | some items => .ok items
  | none => .error (.notIterable v.kind)

/-! ### Sections -/

/-- A list of addresses or patterns with a switch. -/
structure AddressSection where
  enabled : Value
  addresses : List Value

namespace AddressSection

/-- The section that is switched off and empty. -/
def empty : AddressSection := ⟨.flag false, []⟩

/-- A section of two values: a switch, and anything with members. -/
def make (enabled addresses : Value) : Except Fault AddressSection :=
  addresses.asItems.map fun items => ⟨enabled, items⟩

/-- A section from a table, its list under the given key. -/
def ofEntries (entries : Entries) (key : String) : Except Fault AddressSection :=
  match (entries.get "enabled").toFlag false with
  | .error e => .error e
  | .ok enabled => (entries.textList key).map fun items => ⟨.flag enabled, items⟩

/-- The section with another list. -/
def setAddresses (s : AddressSection) (v : Value) : Except Fault AddressSection :=
  v.asItems.map fun items => { s with addresses := items }

/-- The section with one more address. -/
def add (s : AddressSection) (v : Value) : AddressSection :=
  { s with addresses := s.addresses ++ [v] }

end AddressSection

/-! ### The network -/

/-- The network settings of a member. -/
structure NetworkConfig where
  port : Value
  portAutoIncrement : Value
  portCount : Value
  reuseAddress : Value
  publicAddress : Value
  interfaces : AddressSection
  members : AddressSection

namespace NetworkConfig

/-- The settings of a member that says nothing. -/
def default : NetworkConfig where
  port := .whole Address.defaultPort
  portAutoIncrement := .flag true
  portCount := .whole PortSearch.defaultPortCount
  reuseAddress := .flag true
  publicAddress := .null
  interfaces := .empty
  members := .empty

/-- Whether a value is a port. -/
def isPort (v : Value) : Bool :=
  match v.toInt? with
  | some n => 0 ≤ n && n ≤ PortSearch.maxPort
  | none => false

/-- Whether a value is a number of ports. -/
def isPortCount (v : Value) : Bool :=
  match v.toInt? with
  | some n => 1 ≤ n
  | none => false

/-- Whether the port and the number of ports are in range. -/
def validate (c : NetworkConfig) : Except Fault Unit :=
  if !isPort c.port then .error .portOutOfRange
  else if !isPortCount c.portCount then .error .portCountTooSmall
  else .ok ()

/-- The settings, if they are valid. -/
def validated (c : NetworkConfig) : Except Fault NetworkConfig :=
  match c.validate with
  | .ok () => .ok c
  | .error e => .error e

/-- The members section of the join settings. -/
def membersOf (join : Entries) : Except Fault AddressSection :=
  match join.nested "tcp_ip" with
  | .error e => .error e
  | .ok section' => AddressSection.ofEntries section' "members"

/-- The settings in a table. The flags are read first, then the lists; the ports are validated
last. -/
def ofEntries (entries : Entries) : Except Fault NetworkConfig := do
  let portAutoIncrement ← (entries.get "port_auto_increment").toFlag true
  let reuseAddress ← (entries.get "reuse_address").toFlag true
  let interfaces ← AddressSection.ofEntries (← entries.nested "interfaces") "interfaces"
  let members ← membersOf (← entries.nested "join")
  validated
    { port := (Entries.find? (.text "port".toList) entries).getD default.port
      portAutoIncrement := .flag portAutoIncrement
      portCount := (Entries.find? (.text "port_count".toList) entries).getD default.portCount
      reuseAddress := .flag reuseAddress
      publicAddress := entries.get "public_address"
      interfaces := interfaces
      members := members }

end NetworkConfig

/-- An assignment to one of the network settings. -/
inductive NetworkAssignment
  | port (v : Value)
  | portAutoIncrement (v : Value)
  | portCount (v : Value)
  | reuseAddress (v : Value)
  | publicAddress (v : Value)
  | interfaces (s : AddressSection)
  | members (s : AddressSection)

/-- The settings after an assignment, and whether it was refused. A port or number of ports is
stored first and then validated together with the other one. -/
def NetworkConfig.assign (c : NetworkConfig) : NetworkAssignment → NetworkConfig × Except Fault Unit
  | .port v => let c := { c with port := v }; (c, c.validate)
  | .portCount v => let c := { c with portCount := v }; (c, c.validate)
  | .portAutoIncrement v => ({ c with portAutoIncrement := v }, .ok ())
  | .reuseAddress v => ({ c with reuseAddress := v }, .ok ())
  | .publicAddress v => ({ c with publicAddress := v }, .ok ())
  | .interfaces s => ({ c with interfaces := s }, .ok ())
  | .members s => ({ c with members := s }, .ok ())

/-! ### The configuration -/

/-- The configuration of a member. -/
structure Config where
  network : NetworkConfig
  properties : Entries

namespace Config

/-- The configuration of a member that says nothing. -/
def default : Config := ⟨.default, []⟩

/-- The text under which a property's value is stored: a flag in lower case. -/
def propertyText : Value → Except Fault Text
  | .flag b => .ok (if b then "true".toList else "false".toList)
  | v => v.toText

/-- The properties of a table added to others, every value as a text. -/
def addProperties (properties : Entries) : Entries → Except Fault Entries
  | [] => .ok properties
  | (k, v) :: rest =>
    match propertyText v with
    | .error e => .error e
    | .ok t => addProperties (properties.put k (.text t)) rest

/-- The configuration in the entries of a table. -/
def ofEntries (entries : Entries) : Except Fault Config :=
  match entries.nested "network" with
  | .error e => .error e
  | .ok network =>
    match NetworkConfig.ofEntries network with
    | .error e => .error e
    | .ok network =>
      match entries.nested "properties" with
      | .error e => .error e
      | .ok properties => (addProperties [] properties).map fun properties => ⟨network, properties⟩

/-- The configuration in a value. Anything but a table is refused. -/
def ofValue (v : Value) : Except Fault Config :=
  match v.content with
  | .table entries => ofEntries entries
  | .null | .flag _ | .whole _ | .real _ | .date _ | .moment _ | .bytes _ =>
    .error (.notIterable v.kind)
  | v => .error (.notTable v.kind)

/-- The configuration in the value that a document denotes. An empty document says nothing, and
the table under the name of the product, if there is one, takes the place of the whole. -/
def ofDocument (v : Value) : Except Fault Config :=
  match v.content with
  | .null => ofEntries []
  | .table entries =>
    if (Entries.find? (.text "hazelcast".toList) entries).isSome then
      match Entries.nested entries "hazelcast" with
      | .error e => .error e
      | .ok entries => ofEntries entries
    else ofEntries entries
  | _ => .error .rootNotMapping

/-- The value of a property, null if it is not set. -/
def getProperty (c : Config) (name : Value) : Except Fault Value :=
  if name.isKey then .ok ((Entries.find? name c.properties).getD .null)
  else .error (.notHashable name.kind)

/-- The configuration with a property set. -/
def setProperty (c : Config) (name value : Value) : Except Fault Config :=
  if name.isKey then .ok { c with properties := c.properties.put name value }
  else .error (.notHashable name.kind)

/-- The settings of the search for a port. -/
def portSearch (c : Config) : Except Fault PortSearch :=
  PortSearch.make c.network.port c.network.portCount c.network.portAutoIncrement
    c.network.reuseAddress PortSearch.defaultBacklog

end Config

end MemberAddress
