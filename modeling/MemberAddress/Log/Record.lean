import MemberAddress.Fault

/-!
# Log records

A step of the library reports what it does as log records, in order.

* `Severity` are the named levels, `Record` what a component logs at a level;
* `Logged` is an answer or a fault together with the records made on the way.

The lemmas let a proof about the answer of a logged computation forget its records.
-/

namespace MemberAddress

/-- The named levels of log records. -/
inductive Severity
  | debug
  | info
  | warning
  | error
  | critical
  deriving DecidableEq, Repr

namespace Severity

/-- The number of a named level. -/
def level : Severity → Int
  | .debug => 10
  | .info => 20
  | .warning => 30
  | .error => 40
  | .critical => 50

end Severity

/-- The component that picks addresses. -/
def pickerComponent : Text := "address_picker".toList

/-- The component that lists interfaces. -/
def interfacesComponent : Text := "network.interfaces".toList

/-- The component that resolves hostnames. -/
def resolverComponent : Text := "network.resolver".toList

/-- The component that opens sockets. -/
def serverSocketComponent : Text := "network.server_socket".toList

/-- What a component logs at a level: a text, or any value that stands for its text. -/
structure Record where
  level : Whole
  component : Text
  content : Value
  deriving Repr

/-- The message of a record. -/
def Record.message (r : Record) : Text := r.content.shown

/-- A record with a text at a named level. -/
def Record.of (severity : Severity) (component message : Text) : Record :=
  ⟨.number severity.level, component, .text message⟩

@[simp] theorem Record.message_of (s : Severity) (c m : Text) : (Record.of s c m).message = m := rfl

/-- An answer or a fault, with the records made on the way. -/
structure Logged (α : Type) where
  records : List Record
  result : Except Fault α

namespace Logged

variable {α β : Type}

/-- One record and nothing else. -/
def log (severity : Severity) (component message : Text) : Logged Unit :=
  ⟨[.of severity component message], .ok ()⟩

/-- A fault without records. -/
def fail (f : Fault) : Logged α := ⟨[], .error f⟩

/-- An answer or a fault without records. -/
def lift (x : Except Fault α) : Logged α := ⟨[], x⟩

instance : Monad Logged where
  pure a := ⟨[], .ok a⟩
  bind x f :=
    match x.result with
    | .error e => ⟨x.records, .error e⟩
    | .ok a => ⟨x.records ++ (f a).records, (f a).result⟩

@[simp] theorem result_pure (a : α) : (pure a : Logged α).result = .ok a := rfl

@[simp] theorem result_fail (f : Fault) : (fail f : Logged α).result = .error f := rfl

@[simp] theorem result_lift (x : Except Fault α) : (lift x).result = x := rfl

@[simp] theorem result_log (s : Severity) (c m : Text) : (log s c m).result = .ok () := rfl

/-- The answer of a sequence is the sequence of the answers. -/
@[simp] theorem result_bind (x : Logged α) (f : α → Logged β) :
    (x >>= f).result = x.result.bind fun a => (f a).result := by
  show (match x.result with
    | .error e => (⟨x.records, .error e⟩ : Logged β)
    | .ok a => ⟨x.records ++ (f a).records, (f a).result⟩).result = _
  cases x.result <;> rfl

end Logged

end MemberAddress
