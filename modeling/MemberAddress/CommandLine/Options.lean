import MemberAddress.Text.Digit

/-!
# Command-line options

The options are `--config FILE`, `--verbose` or `--quiet`, `--log-level [COMPONENT=]LEVEL`, which may
be repeated, and `--help`. Each has a letter of its own after a single hyphen; letters may be joined
as in `-vcFILE`, and a long name may be cut short. An equals sign may stand between an option and its
value, but among joined letters it belongs to the value.

* `Options` is what the arguments ask for;
* `Argument.read` tells options from other words;
* `Expansion.of` takes joined letters apart;
* `Options.read` reads the arguments in order, or says with which code the program ends.
-/

namespace MemberAddress.CommandLine

/-- What the arguments ask for. An option may be given and yet be left without a value, which is
not the same as not giving it. -/
structure Options where
  config : Option (Option Text)
  verbose : Bool
  quiet : Bool
  logLevels : List (Option Text)
  deriving DecidableEq, Repr

/-- Ways in which the arguments end the program at once. -/
inductive Exit
  | help
  | usage
  deriving DecidableEq, Repr

/-- The code with which the program ends. -/
def Exit.code : Exit → Nat
  | .help => 0
  | .usage => 2

/-! ### Names of options -/

/-- The options. -/
inductive Switch
  | help
  | config
  | verbose
  | quiet
  | logLevel
  deriving DecidableEq, Repr

namespace Switch

/-- The options with their long names and letters. -/
def names : List (Text × Char × Switch) :=
  [("help".toList, 'h', .help), ("config".toList, 'c', .config), ("verbose".toList, 'v', .verbose),
    ("quiet".toList, 'q', .quiet), ("log-level".toList, 'l', .logLevel)]

/-- Whether an option takes a value. -/
def takesValue : Switch → Bool
  | .config | .logLevel => true
  | .help | .verbose | .quiet => false

/-- The option of a letter. -/
def ofLetter? (c : Char) : Option Switch :=
  (names.find? fun entry => entry.2.1 == c).map fun entry => entry.2.2

/-- The option of a whole long name. -/
def ofName? (t : Text) : Option Switch :=
  (names.find? fun entry => entry.1 == t).map fun entry => entry.2.2

/-- The options whose long names start with a text. -/
def startingWith (t : Text) : List Switch :=
  (names.filter fun entry => t.isPrefixOf entry.1).map fun entry => entry.2.2

end Switch

/-! ### Arguments one by one -/

/-- What stands with an option in one argument: nothing, a text that follows its letter, or a text
after its long name and an equals sign. -/
inductive Attached
  | nothing
  | joined (t : Text)
  | marked (t : Text)
  deriving DecidableEq, Repr

/-- The text after the first letter, without an equals sign in front. -/
def Attached.ofRest : Text → Attached
  | [] => .nothing
  | '=' :: t => .joined t
  | t => .joined t

/-- What an argument is by itself. -/
inductive Argument
  | word
  | option (switch : Switch) (attached : Attached)
  | unknown
  | ambiguous
  deriving DecidableEq, Repr

namespace Argument

/-- Whether a text is a negative number: digits, or a point among or before digits. One line feed
at the end is ignored. -/
def isNegativeNumber (t : Text) : Bool :=
  let t := if t.getLast? = some '\n' then t.dropLast else t
  match t with
  | '-' :: number =>
    match Text.cut '.' number with
    | (whole, none) => !whole.isEmpty && whole.all Text.isDigit
    | (whole, some fraction) =>
      whole.all Text.isDigit && !fraction.isEmpty && fraction.all Text.isDigit
  | _ => false

/-- An argument with a hyphen in front that names no option. Numbers and texts with a space are
words all the same. -/
def readUnnamed (t : Text) : Argument :=
  if isNegativeNumber t || t.contains ' ' then .word else .unknown

/-- An argument after two hyphens: a long name, whole or cut short, with an optional value. -/
def readLong (t : Text) : Argument :=
  let (name, value) := Text.cut '=' t
  let attached := (value.map Attached.marked).getD .nothing
  match Switch.ofName? name with
  | some switch => .option switch attached
  | none =>
    match Switch.startingWith name with
    | [switch] => .option switch attached
    | [] => readUnnamed ('-' :: '-' :: t)
    | _ => .ambiguous

/-- An argument by itself. -/
def read (t : Text) : Argument :=
  match t with
  | '-' :: '-' :: name => readLong name
  | '-' :: letter :: rest =>
    match Switch.ofLetter? letter with
    | some switch => .option switch (.ofRest rest)
    | none => readUnnamed t
  | _ => .word

end Argument

/-- The argument after which all arguments are words. -/
def separator : Text := "--".toList

/-- Whether an argument may be the value of the option before it. -/
def isValue (t : Text) : Bool := t != separator && Argument.read t == .word

/-! ### Requests -/

/-- One thing that an argument asks for. -/
inductive Request
  | help
  | config (path : Option Text)
  | verbose
  | quiet
  | logLevel (level : Option Text)
  deriving DecidableEq, Repr

/-- The value that an option keeps. A separator is dropped even where it is attached to an option. -/
def kept (value : Text) : Option Text := if value = separator then none else some value

/-- What an option with its value asks for. -/
def Switch.request (value : Text) : Switch → Request
  | .help => .help
  | .config => .config (kept value)
  | .verbose => .verbose
  | .quiet => .quiet
  | .logLevel => .logLevel (kept value)

/-- The requests of one argument, and the option that still waits for its value. -/
structure Expansion where
  requests : List Request
  waiting : Option Switch
  deriving DecidableEq, Repr

namespace Expansion

/-- The expansion with a request in front. -/
def cons (r : Request) (e : Expansion) : Expansion := { e with requests := r :: e.requests }

/-- Letters joined to an option without a value: more options, the first of which that takes a value
has the rest for it. -/
def ofLetters : Text → Except Exit Expansion
  | [] => .ok ⟨[], none⟩
  | letter :: rest =>
    match Switch.ofLetter? letter with
    | none => .error .usage
    | some switch =>
      if switch.takesValue then
        if rest.isEmpty then .ok ⟨[], some switch⟩ else .ok ⟨[switch.request rest], none⟩
      else (ofLetters rest).map (cons (switch.request []))

/-- An option with what stands with it. -/
def of (switch : Switch) (attached : Attached) : Except Exit Expansion :=
  match switch.takesValue, attached with
  | true, .nothing => .ok ⟨[], some switch⟩
  | true, .joined value | true, .marked value => .ok ⟨[switch.request value], none⟩
  | false, .nothing => .ok ⟨[switch.request []], none⟩
  | false, .marked _ | false, .joined [] => .error .usage
  | false, .joined letters => (ofLetters letters).map (cons (switch.request []))

end Expansion

/-! ### All arguments -/

namespace Options

/-- What no arguments ask for. -/
def default : Options := ⟨none, false, false, []⟩

/-- The options after a request. Being verbose and being quiet exclude each other. -/
def apply (o : Options) : Request → Except Exit Options
  | .help => .error .help
  | .config path => .ok { o with config := some path }
  | .verbose => if o.quiet then .error .usage else .ok { o with verbose := true }
  | .quiet => if o.verbose then .error .usage else .ok { o with quiet := true }
  | .logLevel level => .ok { o with logLevels := o.logLevels ++ [level] }

/-- The options after several requests. -/
def applyAll (o : Options) : List Request → Except Exit Options
  | [] => .ok o
  | r :: rest =>
    match o.apply r with
    | .ok o => applyAll o rest
    | .error e => .error e

/-- The options after the arguments, and whether arguments were left over. -/
def readFrom (o : Options) (leftOver : Bool) : List Text → Except Exit (Options × Bool)
  | [] => .ok (o, leftOver)
  | t :: rest =>
    if t = separator then .ok (o, true)
    else
      match Argument.read t with
      | .word | .unknown => readFrom o true rest
      | .ambiguous => .error .usage
      | .option switch attached =>
        match Expansion.of switch attached with
        | .error e => .error e
        | .ok e =>
          match e.waiting, rest with
          | none, rest =>
            match o.applyAll e.requests with
            | .ok o => readFrom o leftOver rest
            | .error e => .error e
          | some _, [] => .error .usage
          | some switch, value :: rest =>
            if isValue value then
              match o.applyAll (e.requests ++ [switch.request value]) with
              | .ok o => readFrom o leftOver rest
              | .error e => .error e
            else .error .usage

/-- Whether an argument is cut too short to name an option. -/
def isAmbiguous (t : Text) : Bool := Argument.read t == .ambiguous

/-- What the arguments ask for. A name that is cut too short is found before anything else; left
over arguments are found last. -/
def read (arguments : List Text) : Except Exit Options :=
  if (arguments.takeWhile (· != separator)).any isAmbiguous then .error .usage
  else
    match readFrom default false arguments with
    | .error e => .error e
    | .ok (o, leftOver) => if leftOver then .error .usage else .ok o

end Options

end MemberAddress.CommandLine
