import MemberAddress.Pattern.Reader
import MemberAddress.Yaml.Error

/-!
# Faults

Everything that can go wrong is a constructor of `Fault`; its wording is `Fault.message`.

* `OutsideError` is an error that the operating system gave;
* `Fault.errorClass?` is the class of the library's own faults, none for those that come from a
  value of the wrong kind or straight from outside;
* `Report` is the form in which a fault of the library reaches its users: a class with a message
  and the outside error behind it.
-/

namespace MemberAddress

/-! ### Errors from outside -/

/-- The kinds of errors that the operating system gives. -/
inductive OutsideKind
  | nameLookup
  | nameEncoding
  | system
  | permission
  | accessDenied
  | directory
  | runtime
  deriving DecidableEq, Repr

/-- An error that the operating system gave. -/
structure OutsideError where
  kind : OutsideKind
  message : Text
  deriving DecidableEq, Repr

/-! ### Whole numbers with their spelling -/

/-- A whole number of a configuration. A flag counts as zero or one but is shown as a flag. -/
inductive Whole
  | number (n : Int)
  | flag (b : Bool)
  deriving DecidableEq, Repr

namespace Whole

/-- The number itself. -/
def value : Whole → Int
  | .number n => n
  | .flag b => if b then 1 else 0

/-- The number as it is shown. -/
def text : Whole → Text
  | .number n => Text.integer n
  | .flag b => Value.flagText b

/-- The whole number in a value. -/
def ofValue? : Value → Option Whole
  | .whole n => some (.number n)
  | .flag b => some (.flag b)
  | _ => none

/-- A whole number as a value. -/
def toValue : Whole → Value
  | .number n => .whole n
  | .flag b => .flag b

end Whole

/-- A number of a configuration, whole or with a fraction. -/
inductive Number
  | whole (n : Whole)
  | real (x : Binary64)
  deriving DecidableEq, Repr

namespace Number

/-- The number as it is shown. -/
def text : Number → Text
  | .whole n => n.text
  | .real x => x.text

/-- The whole number that a number is. -/
def whole? : Number → Option Whole
  | .whole n => some n
  | .real _ => none

/-- The number in a value. -/
def ofValue? : Value → Option Number
  | .real x => some (.real x)
  | v => (Whole.ofValue? v).map .whole

/-- The number without its fraction; zero for what is not finite. -/
def integerPart : Number → Int
  | .whole n => n.value
  | .real x => x.integerPart?.getD 0

/-- Whether a number is zero. -/
def isZero : Number → Bool
  | .whole n => n.value == 0
  | .real x => x.isZero

/-- The number that is so much greater; it has a fraction if the given one was written with one. -/
def plus (x : Number) (n : Int) : Number :=
  match x with
  | .whole m => .whole (.number (m.value + n))
  | .real y => .real (y.plus (.ofRatio (n < 0) n.natAbs 1))

/-- The last of so many numbers that are counted up from a first one. -/
def lastOf (first : Number) (count : Int) : Number := (first.plus count).plus (-1)

theorem lastOf_whole (first : Whole) (count : Int) :
    (Number.whole first).lastOf count = .whole (.number (first.value + (count - 1))) := by
  show Number.whole (.number (first.value + count + -1)) = _
  rw [Int.add_assoc, ← Int.sub_eq_add_neg]

/-- A number as a value. -/
def toValue : Number → Value
  | .whole n => n.toValue
  | .real x => .real x

/-- Whether a number is less than an integer. -/
def isBelow (x : Number) (bound : Int) : Bool :=
  match x with
  | .whole n => decide (n.value < bound)
  | .real x => x.lessThan (.ofRatio (bound < 0) bound.natAbs 1)

/-- Whether a number is greater than an integer. -/
def isAbove (x : Number) (bound : Int) : Bool :=
  match x with
  | .whole n => decide (bound < n.value)
  | .real x => (Binary64.ofRatio (bound < 0) bound.natAbs 1).lessThan x

end Number

/-! ### Faults -/

/-- What can go wrong. -/
inductive Fault
  | portOutOfRange
  | portOutOfRangeGot (port : Number)
  | portCountTooSmall
  | notMapping (key kind : Text)
  | notList (key kind : Text)
  | rootNotMapping
  | fileMissing (path : Text)
  | fileUnreadable (error : OutsideError)
  | malformedYaml
  | unknownLevel (given : Text)
  | noMatchingInterface (interfaces : List Value)
  | badPattern (error : PatternError)
  | ambiguousZone (address : Inet)
  | closed
  | unresolvable (host : Text) (error : OutsideError)
  | noAddress (host : Text)
  | cannotList (error : OutsideError)
  | cannotBind (address : Inet) (firstPort : Number) (trials : Int) (fixedPort : Bool)
      (last : Option OutsideError)
  | notText (kind : Text)
  | notTable (kind : Text)
  | notEntryText (kind : Text)
  | notIterable (kind : Text)
  | notComparable (kind : Text)
  | notHashable (kind : Text)
  | notWhole (kind : Text)
  | addressInBytes
  | notAnAddress (given : Text)
  | notANumeral (given : Text)
  | overlongNumeral (digits : Nat)
  | overlongNumber
  | document (error : Yaml.Error)
  | badFormat (given : Text)
  | badZone (given : Text)
  | undecodable
  | outside (error : OutsideError)

/-- The classes of the library's own faults. -/
inductive ErrorClass
  | general
  | illegalState
  | illegalArgument
  | configuration
  | noMatchingInterface
  | hostnameResolution
  | interfaceEnumeration
  | socketBind
  deriving DecidableEq, Repr

/-- A class and the classes that include it, from the narrowest to the widest. -/
def ErrorClass.lineage : ErrorClass → List ErrorClass
  | .general => [.general]
  | .noMatchingInterface => [.noMatchingInterface, .configuration, .general]
  | c => [c, .general]

namespace Fault

/-- The class of a fault of the library. The others, which stem from a value of the wrong kind or
come straight from outside, have none. -/
def errorClass? : Fault → Option ErrorClass
  | .portOutOfRange | .portOutOfRangeGot _ | .portCountTooSmall | .notMapping _ _ | .notList _ _
  | .rootNotMapping | .fileMissing _ | .fileUnreadable _ | .malformedYaml | .unknownLevel _ =>
    some .configuration
  | .noMatchingInterface _ => some .noMatchingInterface
  | .badPattern _ | .ambiguousZone _ => some .illegalArgument
  | .closed => some .illegalState
  | .unresolvable _ _ | .noAddress _ => some .hostnameResolution
  | .cannotList _ => some .interfaceEnumeration
  | .cannotBind _ _ _ _ _ => some .socketBind
  | _ => none

/-- The ports that a failed search names: one port, or the first and the last of a range. -/
def portsText (firstPort : Number) (trials : Int) : Text :=
  if 1 < trials then firstPort.text ++ '-' :: (firstPort.lastOf trials).text
  else firstPort.text

/-- The most that a message quotes of a text that is no numeral. -/
def quotationLimit : Nat := 200

/-- The message of a fault. -/
def message : Fault → Text
  | .portOutOfRange => "port must be between 0 and 65535".toList
  | .portOutOfRangeGot port => "port must be between 0 and 65535, got ".toList ++ port.text
  | .portCountTooSmall => "port_count must be at least 1".toList
  | .notMapping key kind => '\'' :: key ++ "' must be a mapping, got ".toList ++ kind
  | .notList key kind => '\'' :: key ++ "' must be a list, got ".toList ++ kind
  | .rootNotMapping => "Configuration root must be a mapping".toList
  | .fileMissing path => "Configuration file not found: ".toList ++ path
  | .fileUnreadable e => "Failed to read configuration file: ".toList ++ e.message
  | .malformedYaml => "Failed to parse YAML".toList
  | .unknownLevel given =>
    "Unknown log level '".toList ++ given ++
      "', expected one of: debug, info, warning, error, critical".toList
  | .noMatchingInterface interfaces =>
    ("Hazelcast CANNOT start on this node. No matching network interface found.\n" ++
      "Interface matching must be either disabled or updated in the member configuration. " ++
      "Configured interfaces: ").toList ++ (Value.list interfaces).written
  | .badPattern e => e.message
  | .ambiguousZone address =>
    "This address ".toList ++ address.text ++
      " is bound to more than one network interface!".toList
  | .closed => "Address picker is closed".toList
  | .unresolvable host _ => "Cannot resolve hostname: '".toList ++ host ++ ['\'']
  | .noAddress host => "Hostname '".toList ++ host ++ "' resolved to no address".toList
  | .cannotList e => "Cannot list network interfaces: ".toList ++ e.message
  | .cannotBind address firstPort trials fixedPort _ =>
    "Cannot bind to a given address: ".toList ++ address.hostText ++ ", port(s): ".toList ++
      portsText firstPort trials ++ ". Hazelcast cannot start.".toList ++
      if fixedPort then
        " Config-specified port is already in use and auto-increment is disabled.".toList
      else []
  | .notText kind => '\'' :: kind ++ "' object has no attribute 'strip'".toList
  | .notTable kind => "expected a table, got ".toList ++ kind
  | .notEntryText kind => "expected string or bytes-like object, got '".toList ++ kind ++ ['\'']
  | .notIterable kind => "expected a list, got ".toList ++ kind
  | .notComparable kind => "expected a number, got ".toList ++ kind
  | .notHashable kind => "expected a key, got ".toList ++ kind
  | .notWhole kind => "expected a whole number, got ".toList ++ kind
  | .addressInBytes => "startswith first arg must be bytes or a tuple of bytes, not str".toList
  | .notAnAddress given =>
    Text.quoted given ++ " does not appear to be an IPv4 or IPv6 address".toList
  | .notANumeral given =>
    "invalid literal for int() with base 10: ".toList ++ (Text.quoted given).take quotationLimit
  | .overlongNumeral digits =>
    "Exceeds the limit (4300 digits) for integer string conversion: value has ".toList ++
      Text.decimal digits ++
      " digits; use sys.set_int_max_str_digits() to increase the limit".toList
  | .overlongNumber =>
    ("Exceeds the limit (4300 digits) for integer string conversion; " ++
      "use sys.set_int_max_str_digits() to increase the limit").toList
  | .document e => e.message
  | .badFormat given => "no part of a record in the format ".toList ++ Text.quoted given
  | .badZone given =>
    if '/' ∈ given then "Unexpected '/' in ".toList ++ Text.quoted given
    else "Invalid IPv6 address: \"".toList ++ Text.quoted given ++ ['"']
  | .undecodable => "the file is not valid UTF-8".toList
  | .outside e => e.message

/-- The outside error behind a fault of the library. -/
def cause? : Fault → Option OutsideError
  | .fileUnreadable e | .unresolvable _ e | .cannotList e => some e
  | .cannotBind _ _ _ _ last => last
  | _ => none

end Fault

/-! ### Reports -/

/-- The outside error behind a report, or the fact that a value was not valid. -/
inductive Cause
  | outside (kind : OutsideKind)
  | invalidValue
  deriving DecidableEq, Repr

/-- A fault as users of the library meet it. -/
structure Report where
  errorClass : ErrorClass
  message : Text
  cause : Option Cause
  interfaces : List Value
  hostname : Option Text

namespace Report

/-- A report of a class with a message and a cause. A missing interface match has no cause; only it
lists interfaces, and only a failed resolution names a host. -/
def of (errorClass : ErrorClass) (message : Text) (cause : Option Cause) (interfaces : List Value)
    (hostname : Option Text) : Report where
  errorClass := errorClass
  message := message
  cause := if errorClass = .noMatchingInterface then none else cause
  interfaces := if errorClass = .noMatchingInterface then interfaces else []
  hostname := if errorClass = .hostnameResolution then hostname else none

end Report

namespace Fault

/-- The interfaces that a fault lists. -/
def interfaces : Fault → List Value
  | .noMatchingInterface interfaces => interfaces
  | _ => []

/-- The host that a fault names. -/
def hostname? : Fault → Option Text
  | .unresolvable host _ | .noAddress host => some host
  | _ => none

/-- What is behind a fault: an outside error, or a network that could not be read. -/
def reportCause? : Fault → Option Cause
  | .badPattern (.network _) => some .invalidValue
  | f => f.cause?.map fun e => .outside e.kind

/-- The report of a fault of the library. -/
def report? (f : Fault) : Option Report :=
  f.errorClass?.map fun c => Report.of c f.message f.reportCause? f.interfaces f.hostname?

end Fault

end MemberAddress
