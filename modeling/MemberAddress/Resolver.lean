import MemberAddress.Inet.Reader
import MemberAddress.Log.Record

/-!
# Hostnames

* `NameService` answers for hostnames: addresses in text, or an error;
* `NameService.resolve` gives the distinct addresses of a hostname, never none;
* `NameService.resolveOne` gives one internet address for an address or hostname in text.
-/

namespace MemberAddress

/-- The name service of a host. -/
abbrev NameService := Text → Except OutsideError (List Text)

namespace NameService

/-- The fault that an error of the name service becomes: names that are unknown or cannot be
encoded are unresolvable; other errors are passed on. -/
def faultOf (host : Text) (e : OutsideError) : Fault :=
  match e.kind with
  | .nameLookup | .nameEncoding => .unresolvable host e
  | _ => .outside e

/-- The warning that every resolution carries. -/
def spoofWarning : Record :=
  .of .warning resolverComponent <|
    ("You configured your member address as host name. " ++
      "Please be aware of that your dns can be spoofed. " ++
      "Make sure that your dns configurations are correct.").toList

/-- The record of the addresses that were found. -/
def resolvedRecord (host : Text) (addresses : List Text) : Record :=
  .of .info resolverComponent <|
    "Resolving domain name '".toList ++ host ++ "' to address(es): ".toList ++
      Text.quotedList addresses

/-- The distinct addresses of a hostname, in the order of the answer. -/
def resolve (names : NameService) (host : Text) : Logged (List Text) :=
  match names host with
  | .error e => .fail (faultOf host e)
  | .ok answers =>
    match answers.eraseDups with
    | [] => .fail (.noAddress host)
    | addresses => ⟨[spoofWarning, resolvedRecord host addresses], .ok addresses⟩

/-- The internet address in a text, or else the first address of the hostname in it. -/
def resolveOne (names : NameService) (host : Text) : Logged Inet :=
  match Inet.read? host with
  | some x => pure x
  | none => do
    let addresses ← resolve names host
    match Inet.read? (addresses.headD []) with
    | some x => return x
    | none => Logged.fail (.notAnAddress (addresses.headD []))

end NameService

end MemberAddress
