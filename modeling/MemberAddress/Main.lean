import MemberAddress.CommandLine.HostFiles
import MemberAddress.CommandLine.Run
import MemberAddress.Socket.PortTable
import Std.Net.Addr
import Std.Time

/-!
# The program

Shows the addresses that a member on this host would bind to and advertise. The host is asked for
its interfaces, names, environment and taken ports before the run; the run itself is pure.
-/

namespace MemberAddress.CommandLine

/-- The text of a file, empty if it cannot be read. -/
def readTable (path : String) : IO Text := do
  try return (← IO.FS.readFile path).toList catch _ => return []

/-- What stands under a path. -/
def readStored (path : Text) : IO StoredFile := do
  try return .bytes (← IO.FS.readBinFile (String.ofList path))
  catch
    | .noFileOrDirectory .. => return .missing
    | .inappropriateType .. => return .directory path
    | e => return .unreadable ⟨.system, (toString e).toList⟩

/-- The environment variables that the settings look at. -/
def environmentNames : List Text :=
  [Settings.preferIPv4StackVariable, Settings.preferIPv6AddressesVariable,
    Property.localAddress.variableName, Property.publicAddress.variableName,
    Property.preferIPv4Stack.variableName, Property.bindAny.variableName]

/-- The environment, as far as the settings look at it. -/
def readEnvironment : IO Environment :=
  environmentNames.filterMapM fun name => do
    return (← IO.getEnv (String.ofList name)).map fun t => (name, t.toList)

/-- The interfaces of this host. Only those that are up have addresses to report. -/
def readListing : IO Listing := do
  try
    let addresses := (← Std.Net.interfaceAddresses).toList
    let names := (addresses.map fun a => a.name).eraseDups
    return .ofReport
      { addresses := names.map fun name =>
          (name.toList, (addresses.filter fun a => a.name == name).map fun a =>
            (match a.address with | .v4 _ => .inet | .v6 _ => .inet6, (toString a.address).toList))
        states := addresses.map fun a =>
          (a.name.toList, ⟨true, if a.isLoopback then "loopback".toList else []⟩) }
  catch e => return ⟨[], .error ⟨.system, (toString e).toList⟩⟩

/-- The time that the log shows. -/
def readTime : IO Text := do
  return ((← Std.Time.PlainDateTime.now).format "uuuu-MM-dd HH:mm:ss,SSS").toList

/-- Runs the program with options that were understood, and gives the code with which it ends. -/
def runHere (o : Options) : IO UInt32 := do
  let path := o.config.join.getD []
  let stored ← readStored path
  let host : Host :=
    { files := fun p => if p = path then stored else .missing
      environment := ← readEnvironment
      surroundings :=
        ⟨HostFiles.names (← readTable "/etc/hosts"), ← readListing⟩ }
  let taken := (← ["/proc/net/tcp", "/proc/net/tcp6"].mapM readTable).flatMap
    HostFiles.listeningPorts
  let outcome := run o host PortTable.system (.start { PortTable.empty with busy := taken })
  IO.print (String.ofList outcome.output)
  IO.eprint (String.ofList (outcome.errorOutput (← readTime)))
  match outcome.code?, outcome.result with
  | some code, _ => return code.toUInt32
  | none, .error e =>
    IO.eprintln (String.ofList e.message)
    return 1
  | none, .ok () => return 0

/-- How the program is used. -/
def usage : String :=
  "usage: pick-address [--config FILE] [--verbose | --quiet] [--log-level [COMPONENT=]LEVEL ...]"

end MemberAddress.CommandLine

/-- Runs the program with its arguments. -/
def main (arguments : List String) : IO UInt32 := do
  match MemberAddress.CommandLine.Options.read (arguments.map String.toList) with
  | .ok o => MemberAddress.CommandLine.runHere o
  | .error .help =>
    IO.println MemberAddress.CommandLine.usage
    return 0
  | .error .usage =>
    IO.eprintln MemberAddress.CommandLine.usage
    return 2
