import MemberAddress.Log.Format

/-!
# Log levels and handlers

Components form a tree by their dotted names; a component without a level of its own has that of
the nearest component above it. What is let through is decided once for a component and a level, and
holds until the next time that any level is set.

* `Registry` holds the components met so far, the levels that were set, what was decided since, and
  the handlers of the top component;
* `Registry.ancestors` leads up the tree, `Registry.effectiveLevel` finds the level that counts;
* `Registry.isEnabled` says which records are let through, `Registry.consult` makes it stay so;
* `Registry.configure`, `Registry.setLevel` and `Registry.disable` change the levels.
-/

namespace MemberAddress

/-! ### Levels -/

/-- The names of the levels that can be asked for. -/
def severityNames : List (Text × Severity) :=
  [("debug".toList, .debug), ("info".toList, .info), ("warning".toList, .warning),
    ("error".toList, .error), ("critical".toList, .critical)]

/-- The level in a value: a number, or the name of a level in any case, with blanks around it. -/
def readLevel (v : Value) : Except Fault Whole :=
  match v with
  | .whole n => .ok (.number n)
  | .flag b => .ok (.flag b)
  | .text t =>
    match severityNames.lookup (Text.lower (Text.trim t)) with
    | some severity => .ok (.number severity.level)
    | none => .error (.unknownLevel t)
  | v => .error (.notText v.kind)

/-! ### The registry -/

/-- A destination of records, told apart by number. -/
structure Handler where
  id : Nat
  format : Format
  deriving DecidableEq, Repr

/-- The components that were met below the top, the levels that were set, what was decided for
components and levels since then, the handlers of the top component, and the handler that was
installed last. -/
structure Registry where
  known : List Text
  levels : List (Text × Whole)
  decided : List ((Text × Int) × Bool)
  handlers : List Handler
  installed : Option Handler

namespace Registry

/-- The registry in which nothing was set. -/
def empty : Registry := ⟨[], [], [], [], none⟩

/-- The registry in which a component was met. The top is always there. -/
def meet (r : Registry) (component : Text) : Registry :=
  if component = [] ∨ component ∈ r.known then r else { r with known := component :: r.known }

/-- The level of a component for which none was set. -/
def unsetLevel : Whole := .number 0

/-- The level above the top component. -/
def baseLevel : Whole := .number 30

/-- The level that was set for a component itself. -/
def ownLevel (r : Registry) (component : Text) : Whole :=
  (r.levels.lookup component).getD unsetLevel

/-- The components above a name, the nearest first; the name, with a dot before it, is given in
reverse. What stands before a dot counts if it was met, and the way goes on from its own name;
otherwise the character before the dot is passed over. -/
def above (r : Registry) : Text → List Text
  | [] => []
  | [c] => if c = '.' then [[]] else []
  | c :: d :: rest =>
    if c = '.' then
      let component := (d :: rest).reverse.tail
      if component ∈ r.known then component :: r.above (d :: rest) else r.above rest
    else r.above (d :: rest)

/-- A component and the components above it that were met, the nearest first. The top component is
the last, unless it is cut off by dots in a row. -/
def ancestors (r : Registry) (component : Text) : List Text :=
  if component = [] then [[]] else component :: r.above ('.' :: component).reverse

/-- The level that decides for a component: the nearest that was set, zero counting as unset. -/
def effectiveLevel (r : Registry) (component : Text) : Whole :=
  ((r.ancestors component).map r.ownLevel |>.find? fun level => level.value != 0).getD baseLevel

/-- Whether the levels let records of a component at a level through. -/
def allows (r : Registry) (component : Text) (level : Int) : Bool :=
  0 < level && (r.effectiveLevel component).value ≤ level

/-- Whether records of a component at a level are let through: as it was decided, or else as the
levels say. -/
def isEnabled (r : Registry) (component : Text) (level : Int) : Bool :=
  (r.decided.lookup (component, level)).getD (r.allows component level)

/-- The registry after the question whether records of a component at a level are let through; from
then on the answer stays the same. -/
def consult (r : Registry) (component : Text) (level : Int) : Registry :=
  { r.meet component with
    decided := ((component, level), r.isEnabled component level) :: r.decided }

/-- The registry with a level set; nothing is decided any more. -/
def putLevel (r : Registry) (component : Text) (level : Whole) : Registry :=
  { r.meet component with
    levels := (component, level) :: r.levels.filter fun entry => entry.1 != component
    decided := [] }

/-- Sets the level of a component; an unknown level changes no level. -/
def setLevel (r : Registry) (component : Text) (level : Value) : Registry × Except Fault Unit :=
  match readLevel level with
  | .ok level => (r.putLevel component level, .ok ())
  | .error e => (r.meet component, .error e)

/-- Silences the top component, except for components with a level of their own. -/
def disable (r : Registry) : Registry := r.putLevel [] (.number (Severity.critical.level + 1))

/-- The handlers without the one that was installed before. -/
def withoutInstalled (r : Registry) : List Handler :=
  match r.installed with
  | some h => r.handlers.erase h
  | none => r.handlers

/-- Sets the level of the top component and installs a handler in the place of the one that was
installed before; an unknown level changes nothing. -/
def configure (r : Registry) (level : Value) (handler : Handler) : Registry × Except Fault Unit :=
  match readLevel level with
  | .error e => (r, .error e)
  | .ok level =>
    let others := r.withoutInstalled
    ({ r.putLevel [] level with
        handlers := if handler ∈ others then others else others ++ [handler]
        installed := some handler }, .ok ())

/-- As `configure`, for a handler that is made for a format as it was given. What is no format comes
to light only after the level was set and the earlier handler was taken away. -/
def configureFormat (r : Registry) (level : Value) (id : Nat) (format : Value) :
    Registry × Except Fault Unit :=
  match Format.read format with
  | .ok format => r.configure level ⟨id, format⟩
  | .error e =>
    match readLevel level with
    | .error unknown => (r, .error unknown)
    | .ok level =>
      ({ r.putLevel [] level with
          handlers := r.withoutInstalled
          installed := some ⟨id, ⟨none⟩⟩ }, .error e)

/-- What the handlers write for a record of a component below them at a time; a handler whose format
does not fit the record writes nothing. -/
def emit (r : Registry) (time : Text) (record : Record) : List (Nat × Text) :=
  if r.isEnabled record.component record.level.value && (r.ancestors record.component).contains [] then
    r.handlers.filterMap fun h => (h.format.write? time record).map fun t => (h.id, t)
  else []

/-- What the handlers together write for several records at a time. -/
def writeAll (r : Registry) (time : Text) (records : List Record) : Text :=
  records.flatMap fun record => (r.emit time record).flatMap Prod.snd

end Registry

end MemberAddress
