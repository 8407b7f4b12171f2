import MemberAddress.Text.Digit
import MemberAddress.Yaml.Token

/-!
# References, tags and directives

The names that may stand before a node, and the lines that may stand before a document.

* `Yaml.Heading.reference` reads the name of an alias or anchor;
* `Yaml.Heading.tag` reads a tag: whole between angle brackets, or a handle with the rest of the name;
* `Yaml.Heading.directive` reads a directive up to the end of what it says.
-/

namespace MemberAddress.Yaml.Heading

/-- The name of an alias or anchor, after its sign. -/
def reference (c : Cursor) : Option (Text × Cursor) :=
  let name := c.run isNameChar
  let c := c.skip isNameChar
  if name.isEmpty then none
  else if isWordEnd c.peek || ['?', ':', ',', ']', '\x7d', '%', '@', '\x60'].contains c.peek then
    some (name, c)
  else none

/-! ### Tags -/

/-- Whether a character may stand in a tag. -/
def isTagChar (c : Char) : Bool :=
  c.isAlphanum || "-;/?:@&=+$,_.!~*\'()[]%".toList.contains c

/-- Bytes that follow one another, each a percent sign and two hexadecimal digits. -/
def escapedBytes : Nat → Cursor → Option (List UInt8 × Cursor)
  | 0, c => some ([], c)
  | fuel + 1, c =>
    if c.peek != '%' then some ([], c)
    else
      match Text.hexDigit? (c.peekAt 1), Text.hexDigit? (c.peekAt 2) with
      | some high, some low =>
        (escapedBytes fuel (c.advance 3)).map fun (more, c) =>
          ((high * 16 + low).toUInt8 :: more, c)
      | _, _ => none

/-- The characters that bytes encode. -/
def decode? (bs : List UInt8) : Option Text :=
  (String.fromUTF8? ⟨bs.toArray⟩).map String.toList

/-- Characters of a tag up to the first that may not stand in one, escapes decoded. -/
def tagChars : Nat → Cursor → Option (Text × Cursor)
  | 0, c => some ([], c)
  | fuel + 1, c =>
    if c.peek == '%' then
      match escapedBytes (c.rest.length + 1) c with
      | none => none
      | some (bs, c) =>
        match decode? bs with
        | none => none
        | some t => (tagChars fuel c).map fun (more, c) => (t ++ more, c)
    else if isTagChar c.peek then
      (tagChars fuel c.step).map fun (more, c') => (c.peek :: more, c')
    else some ([], c)

/-- The rest of a tag, which is not empty. -/
def tagRest (c : Cursor) : Option (Text × Cursor) :=
  match tagChars (c.rest.length + 1) c with
  | some (t, c) => if t.isEmpty then none else some (t, c)
  | none => none

/-- A handle: an exclamation mark by itself, or two with a name between them. -/
def handle (c : Cursor) : Option (Text × Cursor) :=
  if c.peek != '!' then none
  else if c.peekAt 1 == ' ' then some (['!'], c.step)
  else
    let name := c.step.run isNameChar
    let c := c.step.advance name.length
    if c.peek == '!' then some ('!' :: name ++ ['!'], c.step) else none

/-- Whether a space or the end of a line comes next. -/
def endsHere (c : Cursor) : Bool := c.peek == ' ' || isLineEnd c.peek

/-- A tag at the place of its exclamation mark: its handle, if it has one, and the rest of its
name. -/
def tag (c : Cursor) : Option (Option Text × Text × Cursor) :=
  let read : Option (Option Text × Text × Cursor) :=
    if c.peekAt 1 == '<' then
      match tagRest (c.advance 2) with
      | some (name, c) => if c.peek == '>' then some (none, name, c.step) else none
      | none => none
    else if isWordEnd (c.peekAt 1) then some (none, ['!'], c.step)
    else
      let word := c.step.run fun ch => !(ch == ' ' || isLineEnd ch)
      let start := if word.contains '!' then handle c else some (['!'], c.step)
      match start with
      | some (name, c) => (tagRest c).map fun (rest, c) => (some name, rest, c)
      | none => none
  read.filter fun (_, _, c) => endsHere c

/-! ### Directives -/

/-- A number of a version, in decimal digits. -/
def versionNumber (c : Cursor) : Except Error (Nat × Cursor) :=
  let digits := c.run Char.isDigit
  if digits.isEmpty then .error .malformed
  else if Text.numeralLimit < digits.length then .error (.notANumber digits)
  else
    orMalformed <|
      (Text.numeral? 10 Text.asciiDigit? digits).map fun n => (n, c.advance digits.length)

/-- A version: two numbers and a point between them. -/
def version (c : Cursor) : Except Error (Directive × Cursor) :=
  match versionNumber (c.skip (· == ' ')) with
  | .error e => .error e
  | .ok (major, c) =>
    if c.peek != '.' then .error .malformed
    else
      match versionNumber c.step with
      | .error e => .error e
      | .ok (minor, c) =>
        if endsHere c then .ok (.version major minor, c) else .error .malformed

/-- A handle and the start of the names that it stands for. -/
def handleMeaning (c : Cursor) : Option (Directive × Cursor) :=
  match handle (c.skip (· == ' ')) with
  | none => none
  | some (name, c) =>
    if c.peek != ' ' then none
    else
      match tagRest (c.skip (· == ' ')) with
      | some (start, c) => if endsHere c then some (.handle name start, c) else none
      | none => none

/-- A directive after its percent sign. What an unknown one says is passed over. -/
def directive (c : Cursor) : Except Error (Directive × Cursor) :=
  let name := c.run isNameChar
  let c := c.skip isNameChar
  if name.isEmpty || !endsHere c then .error .malformed
  else if name = "YAML".toList then version c
  else if name = "TAG".toList then orMalformed (handleMeaning c)
  else .ok (.other, c.skip fun ch => !isLineEnd ch)

end MemberAddress.Yaml.Heading
