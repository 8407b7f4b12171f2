import MemberAddress.Text.UpperCase
import MemberAddress.Value

/-!
# Named properties

A property is looked up in the properties of a configuration, then in the environment under its
name in upper case, and has a default.

* `Property` is a name with a default, `Property.variable` its environment variable;
* `PropertyLayers.getText` and `PropertyLayers.getFlag` look a property up.
-/

namespace MemberAddress

/-- The variables of an environment with their texts. -/
abbrev Environment := List (Text × Text)

/-- A named property with an optional default. -/
structure Property where
  name : Text
  default : Option Text
  deriving DecidableEq, Repr

namespace Property

/-- The environment variable of a property. -/
def variableName (p : Property) : Text :=
  Text.replace '-' '_' (Text.replace '.' '_' (Text.upper p.name))

/-- A property in the form that a log shows. -/
def shown (p : Property) : Text :=
  "PickerProperty(".toList ++ Text.quoted p.name ++ ", ".toList ++
    Text.quotedOption p.default ++ [')']

/-- The address to bind to. -/
def localAddress : Property := ⟨"hazelcast.local.localAddress".toList, none⟩

/-- The address to advertise. -/
def publicAddress : Property := ⟨"hazelcast.local.publicAddress".toList, none⟩

/-- Whether addresses of groups are never picked. -/
def preferIPv4Stack : Property := ⟨"hazelcast.prefer.ipv4.stack".toList, some "false".toList⟩

/-- Whether the socket listens on all addresses. -/
def bindAny : Property := ⟨"hazelcast.socket.server.bind.any".toList, some "true".toList⟩

end Property

/-- Where properties are looked up: the configured ones first, then the environment. -/
structure PropertyLayers where
  properties : Entries
  environment : Environment

namespace PropertyLayers

/-- The configured text of a property; a null value counts as none. -/
def configured? (layers : PropertyLayers) (p : Property) : Option Text :=
  match Entries.find? (.text p.name) layers.properties with
  | none | some .null => none
  | some v => some v.shown

/-- The text of a property: configured, else from the environment, else the default. -/
def getText (layers : PropertyLayers) (p : Property) : Option Text :=
  match layers.configured? p with
  | some t => some t
  | none =>
    match layers.environment.lookup p.variableName with
    | some t => some t
    | none => p.default

/-- The flag of a property. A blank text counts as the default. -/
def getFlag (layers : PropertyLayers) (p : Property) : Bool :=
  Value.textFlag (layers.getText p) (Value.textFlag p.default false)

end PropertyLayers

end MemberAddress
