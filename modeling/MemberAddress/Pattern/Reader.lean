import MemberAddress.Pattern.Basic
import MemberAddress.Value

/-!
# Reading patterns

A pattern is written as

* a network, `10.0.0.0/8`;
* a single address, `10.0.0.5` or `fe80::1`;
* two addresses with a hyphen between them, `10.0.0.0-10.0.0.255`;
* a span for every group, `10.0.*.*`, `10.3.10.4-18` or `fe80::*`.

The forms are tried in this order. Blanks around a pattern and zones of its addresses are ignored.

* `Pattern.read` reads a pattern or says what is wrong with it;
* `Pattern.ofValue` also answers for values that are no text;
* `Pattern.isPattern` and `Pattern.selects` answer yes or no.
-/

namespace MemberAddress

/-- What is wrong with a text that is no pattern. -/
inductive PatternError
  | blank (given : Value)
  | network (given : Text)
  | segment (given : Text)
  | segmentRange (given : Text)
  | octets (given : Text)
  | groups (given : Text)
  | range (given : Text)

namespace PatternError

/-- The message about a text that is no pattern. -/
def message : PatternError → Text
  | .blank given => "Invalid address pattern: ".toList ++ given.written
  | .network given => "Invalid CIDR block: '".toList ++ given ++ ['\'']
  | .segment given => "Invalid address segment: '".toList ++ given ++ ['\'']
  | .segmentRange given => "Invalid address segment range: '".toList ++ given ++ ['\'']
  | .octets given => "Invalid IPv4 pattern: '".toList ++ given ++ ['\'']
  | .groups given => "Invalid IPv6 pattern: '".toList ++ given ++ ['\'']
  | .range given => "Invalid address range: '".toList ++ given ++ ['\'']

end PatternError

namespace Pattern

/-! ### Segments -/

/-- How the groups of a version are written in a pattern. -/
structure SegmentStyle where
  base : Nat
  digit? : Char → Option Nat
  digits : Nat
  highest : Nat

/-- Octets: one to three decimal digits of any script. -/
def octetStyle : SegmentStyle := ⟨10, Text.digit?, 3, 0xff⟩

/-- Groups of 16 bits: one to four hexadecimal digits. -/
def groupStyle : SegmentStyle := ⟨16, Text.hexDigit?, 4, 0xffff⟩

/-- A text without one line feed at its end. -/
def dropFinalNewline (t : Text) : Text := if t.getLast? = some '\n' then t.dropLast else t

/-- A bound of a segment. One line feed after the digits is ignored. -/
def readBound? (style : SegmentStyle) (t : Text) : Option Nat :=
  let digits := dropFinalNewline t
  if style.digits < digits.length then none else Text.numeral? style.base style.digit? digits

/-- A segment: a star for every value, one value, or two bounds with a hyphen between them. -/
def readSegment (style : SegmentStyle) (part : Text) : Except PatternError Span :=
  if part = ['*'] then .ok ⟨0, style.highest⟩
  else
    let (lowText, highText) := Text.cut '-' part
    match readBound? style lowText, readBound? style (highText.getD lowText) with
    | some low, some high =>
      if high < low ∨ style.highest < high then .error (.segmentRange part) else .ok ⟨low, high⟩
    | _, _ => .error (.segment part)

/-- The segments of a pattern, read from left to right. -/
def readSegments (style : SegmentStyle) : List Text → Except PatternError (List Span)
  | [] => .ok []
  | part :: parts =>
    match readSegment style part with
    | .error e => .error e
    | .ok span =>
      match readSegments style parts with
      | .error e => .error e
      | .ok spans => .ok (span :: spans)

/-! ### Segment patterns -/

/-- The text before and after the first pair of colons, if there is a pair. -/
def cutGap : Text → Option (Text × Text)
  | ':' :: ':' :: rest => some ([], rest)
  | c :: rest => (cutGap rest).map fun (left, right) => (c :: left, right)
  | [] => none

/-- The parts of a text between colons; an empty text has none. -/
def colonParts (t : Text) : List Text := if t = [] then [] else Text.fields ':' t

/-- The eight parts of a segment pattern, a gap between two colons filled up by at least one zero.
Only one gap is allowed. -/
def groupParts (t : Text) : Except PatternError (List Text) :=
  match cutGap t with
  | none => if (Text.fields ':' t).length = 8 then .ok (Text.fields ':' t) else .error (.groups t)
  | some (left, right) =>
    let written := (colonParts left).length + (colonParts right).length
    if (cutGap right).isSome ∨ 8 ≤ written then .error (.groups t)
    else .ok (colonParts left ++ List.replicate (8 - written) ['0'] ++ colonParts right)

/-- The parts of a segment pattern of octets. -/
def octetParts (t : Text) : Except PatternError (List Text) :=
  if (Text.fields '.' t).length = 4 then .ok (Text.fields '.' t) else .error (.octets t)

/-- A pattern of segments: groups if the text has a colon, octets otherwise. -/
def readSegmentPattern (t : Text) : Except PatternError Pattern :=
  if ':' ∈ t then
    match groupParts t with
    | .error e => .error e
    | .ok parts =>
      match readSegments groupStyle parts with
      | .error e => .error e
      | .ok spans => .ok (.segments .v6 spans)
  else
    match octetParts t with
    | .error e => .error e
    | .ok parts =>
      match readSegments octetStyle parts with
      | .error e => .error e
      | .ok spans => .ok (.segments .v4 spans)

/-! ### Patterns -/

/-- An address in text, its zone ignored. -/
def readLiteral? (t : Text) : Option Inet := Inet.read? (Text.before '%' t)

/-- The addresses on both sides of the only hyphen of a text. -/
def readEnds? (t : Text) : Option (Inet × Inet) :=
  match Text.fields '-' t with
  | [first, last] =>
    match readLiteral? (Text.trim first), readLiteral? (Text.trim last) with
    | some first, some last => some (first, last)
    | _, _ => none
  | _ => none

/-- A pattern without blanks around it. -/
def readTrimmed (t : Text) : Except PatternError Pattern :=
  if '/' ∈ t then
    match Network.read? t with
    | some net => .ok (.network net)
    | none => .error (.network t)
  else
    match readLiteral? t with
    | some x => .ok (single x)
    | none =>
      match readEnds? t with
      | some (first, last) =>
        if first.version ≠ last.version ∨ last.number < first.number then .error (.range t)
        else .ok (.range first.version first.number last.number)
      | none => readSegmentPattern (Text.before '%' t)

/-- A pattern in text. -/
def read (t : Text) : Except PatternError Pattern :=
  if Text.trim t = [] then .error (.blank (.text t)) else readTrimmed (Text.trim t)

/-- A pattern in a value; only texts are patterns. -/
def ofValue : Value → Except PatternError Pattern
  | .text t => read t
  | v => .error (.blank v)

/-! ### Yes or no -/

/-- Whether a text is a pattern; every address is one. -/
def isPattern (t : Text) : Bool := (read t).isOk

/-- Whether a text is a pattern that selects an address. -/
def selects (pattern : Text) (x : Inet) : Bool :=
  match read pattern with
  | .ok p => p.covers x
  | .error _ => false

/-- Whether a text is a pattern that selects the address in another text; a text that is no
address is never selected. -/
def selectsText (pattern address : Text) : Bool :=
  match readLiteral? (Text.trim address) with
  | some x => selects pattern x
  | none => false

end Pattern

end MemberAddress
