import MemberAddress.Text.Quoted

/-!
# What can be wrong with a document

* `Yaml.Error` are the ways in which a document denotes no value, `Yaml.Error.message` says them;
* `Yaml.orMalformed` is the error of a form that did not fit.

Most of them are `malformed`: the text is no document, or its nodes do not fit together. The others
are scalars whose text has the form that its tag asks for, or is taken on trust, and yet denotes
nothing.
-/

namespace MemberAddress.Yaml

/-- The ways in which a document denotes no value. -/
inductive Error
  | malformed
  | notANumber (given : Text)
  | nothingToRead
  | tooLarge
  | noSuchCharacter (code : Nat)
  | unreachableCharacter (code : Nat)
  | notAFlag (given : Text)
  | notATime (given : Text)
  | timeWithoutText
  | noSuchTime
  | tooDeep
  deriving DecidableEq, Repr

/-- What is wrong with a document. -/
def Error.message : Error → Text
  | .malformed => "the document is malformed".toList
  | .notANumber given => "not a number: ".toList ++ Text.quoted given
  | .nothingToRead => "a number without digits".toList
  | .tooLarge => "a number is too large for a fraction".toList
  | .noSuchCharacter code => "no character has the code ".toList ++ Text.hexadecimal code
  | .unreachableCharacter code => "a character code is too large: ".toList ++ Text.hexadecimal code
  | .notAFlag given => "not a flag: ".toList ++ Text.quoted given
  | .notATime given => "not a time: ".toList ++ Text.quoted given
  | .timeWithoutText => "a time has no text".toList
  | .noSuchTime => "there is no such date or time".toList
  | .tooDeep => "the document is nested too deeply".toList

/-- What was read, or the error that the document is malformed. -/
def orMalformed {α : Type} : Option α → Except Error α
  | some a => .ok a
  | none => .error .malformed

end MemberAddress.Yaml
