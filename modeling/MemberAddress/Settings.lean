import MemberAddress.Config
import MemberAddress.Property

/-!
# Settings of the picker

Everything that the picker reads from the configuration and the environment, gathered once.

* `Settings` are the gathered values;
* `Settings.ofConfig` gathers them.
-/

namespace MemberAddress

/-- What the picker is told. Patterns, members and the address to advertise are kept as they were
given. -/
structure Settings where
  localAddress : Option Text
  publicAddress : Option Value
  interfacesEnabled : Bool
  interfaces : List Value
  membersEnabled : Bool
  members : List Value
  preferIPv4Stack : Bool
  preferIPv6Addresses : Bool
  bindAny : Bool

namespace Settings

/-- The environment variable that rules out addresses of groups. -/
def preferIPv4StackVariable : Text := "HZ_PREFER_IPV4_STACK".toList

/-- The environment variable that prefers addresses of groups. -/
def preferIPv6AddressesVariable : Text := "HZ_PREFER_IPV6_ADDRESSES".toList

/-- The settings without a contradiction: addresses of groups are not preferred when they are
ruled out. -/
def normalized (s : Settings) : Settings :=
  { s with preferIPv6Addresses := s.preferIPv6Addresses && !s.preferIPv4Stack }

/-- The settings of a picker that is told nothing. -/
def default : Settings where
  localAddress := none
  publicAddress := none
  interfacesEnabled := false
  interfaces := []
  membersEnabled := false
  members := []
  preferIPv4Stack := false
  preferIPv6Addresses := false
  bindAny := true

/-- The members of a value given for a list; unlike in a configuration, null is no empty list. -/
def sequence (v : Value) : Except Fault (List Value) :=
  match v with
  | .text _ | .list _ | .table _ => v.asItems
  | v => .error (.notIterable v.kind)

/-- A text without blanks around it, if anything is left. -/
def trimmed (t : Option Text) : Option Text :=
  match t with
  | none => none
  | some t => if Text.trim t = [] then none else some (Text.trim t)

/-- A configured text or bytes without blanks around them, if anything is left. -/
def trimmedValue (v : Value) : Except Fault (Option Value) :=
  match v with
  | .null => .ok none
  | .text t => .ok ((trimmed (some t)).map .text)
  | .bytes bs => .ok (if bs.trim.isEmpty then none else some (.bytes bs.trim))
  | v => .error (.notText v.kind)

/-- The address to advertise: the property, or else the network setting. -/
def publicAddressOf (layers : PropertyLayers) (network : NetworkConfig) :
    Except Fault (Option Value) :=
  match trimmed (layers.getText .publicAddress) with
  | some t => .ok (some (.text t))
  | none => trimmedValue network.publicAddress

/-- The settings that a configuration and an environment give. -/
def ofConfig (c : Config) (environment : Environment) : Except Fault Settings := do
  let layers : PropertyLayers := ⟨c.properties, environment⟩
  let publicAddress ← publicAddressOf layers c.network
  let preferIPv4Stack :=
    Value.textFlag (environment.lookup preferIPv4StackVariable) false ||
      layers.getFlag .preferIPv4Stack
  let interfacesEnabled ← c.network.interfaces.enabled.toFlag false
  let membersEnabled ← c.network.members.enabled.toFlag false
  return normalized
    { localAddress := trimmed (layers.getText .localAddress)
      publicAddress := publicAddress
      interfacesEnabled := interfacesEnabled
      interfaces := c.network.interfaces.addresses
      membersEnabled := membersEnabled
      members := c.network.members.addresses
      preferIPv4Stack := preferIPv4Stack
      preferIPv6Addresses :=
        !preferIPv4Stack && Value.textFlag (environment.lookup preferIPv6AddressesVariable) false
      bindAny := layers.getFlag .bindAny }

end Settings

end MemberAddress
