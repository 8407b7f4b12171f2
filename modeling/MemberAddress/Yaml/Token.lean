import MemberAddress.Yaml.Cursor
import MemberAddress.Yaml.Error

/-!
# Tokens

A document is a list of tokens: scalars, indicators, and the starts and ends of blocks that its
indentation implies.

* `Yaml.Token` are the tokens, `Yaml.Directive` what a directive says.

Tokens are read while a document is taken in. Where the text stops making sense, the last token
says so; it matters only to those who come as far.
-/

namespace MemberAddress.Yaml

/-- What a directive says: the version of the format, the names that a handle stands for, or
something that does not matter. -/
inductive Directive
  | version (major minor : Nat)
  | handle (name start : Text)
  | other
  deriving DecidableEq, Repr

/-- The tokens of a document. -/
inductive Token
  | directive (d : Directive)
  | documentStart
  | documentEnd
  | blockSequenceStart
  | blockMappingStart
  | blockEnd
  | flowSequenceStart
  | flowSequenceEnd
  | flowMappingStart
  | flowMappingEnd
  | blockEntry
  | flowEntry
  | key
  | value
  | alias (name : Text)
  | anchor (name : Text)
  | tag (handle : Option Text) (rest : Text)
  | scalar (text : Text) (plain : Bool)
  | broken (e : Error)
  deriving DecidableEq, Repr

end MemberAddress.Yaml
