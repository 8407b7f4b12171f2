import MemberAddress.Inet.Reader
import MemberAddress.Log.Record

/-!
# Network interfaces

* `Interface` is an interface of the host with its addresses;
* `Interface.isSkipped` says which ones are left out when no addresses are configured;
* `SystemReport` is what the operating system tells about its interfaces, and
  `SystemReport.interfaces` reads it;
* `Listing` is the outcome of asking for the interfaces, `Listing.enumerate` makes it a step;
* `Listing.fixZone` adds the zone to a local address that was given without one.
-/

namespace MemberAddress

/-- A network interface of the host and the addresses assigned to it. -/
structure Interface where
  name : Text
  addresses : List Inet
  isUp : Bool
  isVirtual : Bool
  isLoopback : Bool
  deriving DecidableEq, Repr

namespace Interface

/-- Whether an interface is down, virtual or the loopback interface. -/
def isSkipped (i : Interface) : Bool := !i.isUp || i.isVirtual || i.isLoopback

/-- The record of an interface that is left out. -/
def skipRecord (i : Interface) : Record :=
  .of .debug interfacesComponent <|
    "Skipping NetworkInterface '".toList ++ i.name ++ "': isUp=".toList ++
      Value.flagText i.isUp ++ ", isVirtual=".toList ++ Value.flagText i.isVirtual ++
      ", isLoopback=".toList ++ Value.flagText i.isLoopback

end Interface

/-! ### What the operating system reports -/

/-- The families of the addresses that an operating system reports. -/
inductive AddressFamily
  | inet
  | inet6
  | link
  deriving DecidableEq, Repr

/-- The state of an interface: whether it is up, and its flags between commas. -/
structure InterfaceState where
  isUp : Bool
  flags : Text
  deriving DecidableEq, Repr

/-- The addresses of the interfaces, in order, and the states of interfaces by name. -/
structure SystemReport where
  addresses : List (Text × List (AddressFamily × Text))
  states : List (Text × InterfaceState)

namespace SystemReport

/-- The record of an address that cannot be read. -/
def unreadableRecord (name address : Text) : Record :=
  .of .debug interfacesComponent <|
    "Ignoring unparsable address '".toList ++ address ++ "' on ".toList ++ name

/-- The internet addresses among reported ones, and the records of those that cannot be read. -/
def readAddresses (name : Text) : List (AddressFamily × Text) → List Record × List Inet
  | [] => ([], [])
  | (.link, _) :: rest => readAddresses name rest
  | (_, t) :: rest =>
    let (records, addresses) := readAddresses name rest
    match Inet.read? t with
    | some x => (records, x :: addresses)
    | none => (unreadableRecord name t :: records, addresses)

/-- One interface. It is the loopback interface if it has the flag or if all of its addresses, at
least one, are loopback addresses; it is virtual if its name has a colon. -/
def readInterface (states : List (Text × InterfaceState)) (name : Text)
    (reported : List (AddressFamily × Text)) : List Record × Interface :=
  let (records, addresses) := readAddresses name reported
  let state := states.lookup name
  let flags := (state.map fun s => Text.fields ',' s.flags).getD []
  (records,
    { name := name
      addresses := addresses
      isUp := (state.map InterfaceState.isUp).getD false
      isVirtual := name.contains ':'
      isLoopback := flags.contains "loopback".toList ||
        (!addresses.isEmpty && addresses.all Inet.isLoopback) })

/-- The interfaces of a report, in its order. -/
def interfaces (report : SystemReport) : List Record × List Interface :=
  let read := report.addresses.map fun (name, reported) =>
    readInterface report.states name reported
  (read.flatMap Prod.fst, read.map Prod.snd)

end SystemReport

/-! ### Listing the interfaces -/

/-- The outcome of asking for the interfaces: they, or an error; and the records made meanwhile. -/
structure Listing where
  records : List Record
  answer : Except OutsideError (List Interface)

namespace Listing

/-- The listing that a report of the operating system gives. -/
def ofReport (report : SystemReport) : Listing :=
  ⟨report.interfaces.1, .ok report.interfaces.2⟩

/-- The fault that an error of the operating system becomes when interfaces are listed. Only a
failure of the running program itself is passed on as it is. -/
def faultOf (e : OutsideError) : Fault :=
  match e.kind with
  | .system | .permission | .accessDenied | .directory => .cannotList e
  | .nameLookup => .cannotList e
  | .nameEncoding | .runtime => .outside e

/-- The interfaces, as a step. -/
def enumerate (l : Listing) : Logged (List Interface) :=
  ⟨l.records, l.answer.mapError faultOf⟩

/-- The interfaces that are not skipped, or all of them, with their addresses: the walk over
addresses that a search makes, together with the records of skipped interfaces. -/
def walk (filtered : Bool) : List Interface → List Record × List (Text × Inet)
  | [] => ([], [])
  | i :: rest =>
    let (records, pairs) := walk filtered rest
    if filtered && i.isSkipped then (i.skipRecord :: records, pairs)
    else (records, i.addresses.map (fun x => (i.name, x)) ++ pairs)

/-- The names and addresses in the order of the listing, without skipped interfaces if asked. -/
def addresses (l : Listing) (filtered : Bool) : Logged (List (Text × Inet)) := do
  let interfaces ← l.enumerate
  let (records, pairs) := walk filtered interfaces
  ⟨records, .ok pairs⟩

/-- Which interfaces are skipped. -/
def skipped (l : Listing) : Logged (List Bool) := do
  let interfaces ← l.enumerate
  ⟨(interfaces.filter Interface.isSkipped).map Interface.skipRecord,
    .ok (interfaces.map Interface.isSkipped)⟩

/-! ### Zones of local addresses -/

/-- Whether an address gets its zone from the interfaces: it is local and has none. -/
def needsZone (x : Inet) : Bool := (x.isLinkLocal || x.isSiteLocal) && x.zone.isNone

/-- A listed address with a zone: its own, or the name of its interface. -/
def zoned (name : Text) (x : Inet) : Except Fault Inet :=
  match x with
  | .v6 bits none =>
    match Zone.ofText? name with
    | some zone => .ok (.v6 bits (some zone))
    | none => .error (.badZone (x.text ++ '%' :: name))
  | x => .ok x

/-- Whether two addresses are the same but for their zones. -/
def sameBits (x y : Inet) : Bool := x.version == y.version && x.number == y.number

/-- The zoned form of `x` found among addresses of interfaces, after `found`. A second find is a
fault, on whichever interface it is. -/
def findZoned (x : Inet) : Option Inet → List (Text × Inet) → Except Fault (Option Inet)
  | found, [] => .ok found
  | found, (name, y) :: rest =>
    if sameBits y x then
      match found with
      | some _ => .error (.ambiguousZone x)
      | none =>
        match zoned name y with
        | .error e => .error e
        | .ok z => findZoned x (some z) rest
    else findZoned x found rest

/-- A local address without a zone, with the zone under which it is listed; any other address, and
an address that is not listed, as it is. -/
def fixZone (l : Listing) (x : Inet) : Logged Inet :=
  if needsZone x then do
    let interfaces ← l.enumerate
    let found ← Logged.lift (findZoned x none (walk false interfaces).2)
    return found.getD x
  else return x

end Listing

end MemberAddress
