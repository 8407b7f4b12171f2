import MemberAddress.CommandLine.Options
import MemberAddress.Config.File
import MemberAddress.Log.Registry
import MemberAddress.Picker.Basic

/-!
# A run of the program

* `Host` is what the program finds outside: files, environment, names and interfaces;
* `run` sets the log levels, loads the configuration, picks the addresses, shows them and closes
  the socket again;
* `Outcome` is what is left of a run: output, and the fault that stopped it, if any.
-/

namespace MemberAddress.CommandLine

/-- What the program finds outside. -/
structure Host where
  files : Text → StoredFile
  environment : Environment
  surroundings : Surroundings

/-- What a run leaves behind. -/
structure Outcome (σ : Type) where
  result : Except Fault Unit
  output : Text
  registry : Registry
  session : Session σ

/-! ### Log levels -/

/-- The handler of the program's own log. -/
def logHandler : Handler := ⟨0, .ofText Format.defaultText⟩

/-- The level at which the options start the log. -/
def startLevel (o : Options) : Severity := if o.verbose then .debug else .warning

/-- The registry before the levels that are given one by one. -/
def startRegistry (o : Options) : Registry :=
  let r := (Registry.empty.configure (.whole (startLevel o).level) logHandler).1
  if o.quiet then r.disable else r

/-- Sets levels one by one, each after the last equals sign; a component stands before it. -/
def setLevels (r : Registry) : List (Option Text) → Registry × Except Fault Unit
  | [] => (r, .ok ())
  | none :: _ => (r, .error (.notText (Value.list []).kind))
  | some option :: rest =>
    let (component, level) := Text.cutLast '=' option
    match r.setLevel component (.text level) with
    | (r, .ok ()) => setLevels r rest
    | (r, .error e) => (r, .error e)

/-! ### The configuration -/

/-- The configuration that the options name; an empty path names none. -/
def loadConfig (o : Options) (host : Host) : Except Fault Config :=
  match o.config with
  | none | some none | some (some []) => .ok .default
  | some (some path) => Config.ofFile path (host.files path)

/-- The settings and the search for a port that a configuration gives. -/
def prepare (o : Options) (host : Host) : Except Fault (Settings × PortSearch) :=
  match loadConfig o host with
  | .error e => .error e
  | .ok config =>
    match Settings.ofConfig config host.environment with
    | .error e => .error e
    | .ok settings =>
      match config.portSearch with
      | .error e => .error e
      | .ok search => .ok (settings, search)

/-! ### The run -/

variable {σ : Type}

/-- A line with an address, or without one. -/
def addressLine (title : String) (address : Option Address) : Text :=
  title.toList ++ (address.map Address.text).getD "None".toList ++ ['\n']

/-- The lines with the addresses of a picker. -/
def addressLines (p : Picker) : Text :=
  addressLine "Bind address:   " p.bindAddress ++ addressLine "Public address: " p.publicAddress

/-- A run with options that were understood. -/
def run (o : Options) (host : Host) (os : SocketSystem σ) (s : Session σ) : Outcome σ :=
  match setLevels (startRegistry o) o.logLevels with
  | (registry, .error e) => ⟨.error e, [], registry, s⟩
  | (registry, .ok ()) =>
    match prepare o host with
    | .error e => ⟨.error e, [], registry, s⟩
    | .ok (settings, search) =>
      match (Picker.new settings).pick host.surroundings os (search.opener os) s with
      | (.error e, _, s) => ⟨.error e, [], registry, s⟩
      | (.ok (), picker, s) =>
        ⟨.ok (), addressLines picker, registry, (picker.close os s).2⟩

namespace Outcome

/-- The code with which the program ends: one after a fault of the library, and none after a fault
that is none of the library's own. -/
def code? (o : Outcome σ) : Option Nat :=
  match o.result with
  | .ok () => some 0
  | .error e => if e.errorClass?.isSome then some 1 else none

/-- The line about a fault of the library. -/
def errorLine (o : Outcome σ) : Text :=
  match o.result with
  | .ok () => []
  | .error e =>
    if e.errorClass?.isSome then "Error: ".toList ++ e.message ++ ['\n'] else []

/-- What the program writes beside its output: the log, and the line about a fault. -/
def errorOutput (o : Outcome σ) (time : Text) : Text :=
  o.registry.writeAll time o.session.records.reverse ++ o.errorLine

end Outcome

end MemberAddress.CommandLine
