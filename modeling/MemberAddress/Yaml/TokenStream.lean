import MemberAddress.Yaml.Heading
import MemberAddress.Yaml.Scalar
import MemberAddress.Yaml.Token

/-!
# The tokens of a text

* `Yaml.Scanner` is the state of reading tokens, with the scalars that may turn out to be keys;
* `Yaml.Token.ofText` reads the tokens of a document.

A scalar, alias or bracket may be the key of a mapping when a colon follows it on its line, within
1024 characters; only then is the token `key` put before it, and the start of a block if it is
indented further than the block around it.
-/

namespace MemberAddress.Yaml

/-- A place that may turn out to be the start of a key: the number of tokens before it, and where it
is. A required key is one without which its line would make no sense. -/
structure PossibleKey where
  token : Nat
  required : Bool
  index : Nat
  line : Nat
  column : Nat

/-- The state of reading tokens: the tokens so far, the depth of brackets, the column of the block
and those of the blocks around it, whether a key may start here, and the possible keys by depth. -/
structure Scanner where
  cursor : Cursor
  tokens : List Token
  flow : Nat
  indent : Int
  indents : List Int
  keyAllowed : Bool
  keys : List (Nat × PossibleKey)

namespace Scanner

/-- The state at the start of a document. -/
def start (t : Text) : Scanner := ⟨.start t, [], 0, -1, [], true, []⟩

/-- The state with one more token. -/
def emit (s : Scanner) (token : Token) : Scanner := { s with tokens := s.tokens ++ [token] }

/-- The state at another place. -/
def moveTo (s : Scanner) (c : Cursor) : Scanner := { s with cursor := c }

/-- The column of a state. -/
def column (s : Scanner) : Int := s.cursor.column

/-! ### Possible keys -/

/-- The state without the possible keys that are too far back; fails if one of them was
required. -/
def dropStaleKeys (s : Scanner) : Option Scanner :=
  let stale (key : PossibleKey) : Bool :=
    key.line != s.cursor.line || 1024 < s.cursor.index - key.index
  if s.keys.any fun entry => stale entry.2 && entry.2.required then none
  else some { s with keys := s.keys.filter fun entry => !stale entry.2 }

/-- The state without the possible key at the present depth; fails if it was required. -/
def dropKey (s : Scanner) : Option Scanner :=
  match s.keys.lookup s.flow with
  | some key =>
    if key.required then none
    else some { s with keys := s.keys.filter fun entry => entry.1 != s.flow }
  | none => some s

/-- The state with a possible key at the present place, if a key may start there. -/
def markKey (s : Scanner) : Option Scanner :=
  if s.keyAllowed then
    s.dropKey.map fun s =>
      let key : PossibleKey :=
        { token := s.tokens.length
          required := s.flow == 0 && s.indent == s.column
          index := s.cursor.index
          line := s.cursor.line
          column := s.cursor.column }
      { s with keys := (s.flow, key) :: s.keys }
  else some s

/-! ### Indentation -/

/-- The state after the blocks that are indented further than `column` were ended. -/
def unwind (s : Scanner) (column : Int) : Scanner :=
  if s.flow = 0 then
    let rec go : List Int → Int → List Token → List Int × Int × List Token
      | [], indent, tokens => ([], indent, tokens)
      | outer :: rest, indent, tokens =>
        if column < indent then go rest outer (tokens ++ [.blockEnd])
        else (outer :: rest, indent, tokens)
    let (indents, indent, tokens) := go s.indents s.indent s.tokens
    { s with indents := indents, indent := indent, tokens := tokens }
  else s

/-- The state in a block at a column, and whether the block is a new one. -/
def enter (s : Scanner) (column : Int) : Scanner × Bool :=
  if s.indent < column then
    ({ s with indents := s.indent :: s.indents, indent := column }, true)
  else (s, false)

/-! ### Tokens one by one -/

/-- The place of the next token: spaces, comments and line breaks are passed over. Outside brackets
a key may start after a line break. -/
def toNextToken : Nat → Scanner → Scanner
  | 0, s => s
  | fuel + 1, s =>
    let c := s.cursor.skip (· == ' ')
    let c := if c.peek == '#' then c.skip (fun ch => !isLineEnd ch) else c
    if isBreak c.peek then
      let s := s.moveTo c.lineBreak.2
      toNextToken fuel (if s.flow = 0 then { s with keyAllowed := true } else s)
    else s.moveTo c

/-- Ends all blocks before something that concerns the document as a whole. -/
def leaveBlocks (s : Scanner) : Option Scanner :=
  (s.unwind (-1)).dropKey.map fun s => { s with keyAllowed := false }

/-- A mark of three characters at the start or end of a document. -/
def documentMark (s : Scanner) (token : Token) : Option Scanner :=
  s.leaveBlocks.map fun s => (s.moveTo (s.cursor.advance 3)).emit token

/-- An opening bracket. -/
def openBracket (s : Scanner) (token : Token) : Option Scanner :=
  s.markKey.map fun s =>
    ({ s with flow := s.flow + 1, keyAllowed := true }.moveTo s.cursor.step).emit token

/-- A closing bracket, which must close something. -/
def closeBracket (s : Scanner) (token : Token) : Option Scanner :=
  s.dropKey.bind fun s =>
    if s.flow = 0 then none
    else
      some <| ({ s with flow := s.flow - 1, keyAllowed := false }.moveTo s.cursor.step).emit token

/-- A comma between brackets. -/
def comma (s : Scanner) : Option Scanner :=
  (dropKey { s with keyAllowed := true }).map fun s => (s.moveTo s.cursor.step).emit .flowEntry

/-- Enters a block that an indicator opens at the present column, outside brackets. -/
def enterBlock (s : Scanner) (token : Token) : Option Scanner :=
  if s.flow ≠ 0 then some s
  else if !s.keyAllowed then none
  else
    let (s, fresh) := s.enter s.column
    some (if fresh then s.emit token else s)

/-- A hyphen before an item. -/
def item (s : Scanner) : Option Scanner :=
  (s.enterBlock .blockSequenceStart).bind fun s =>
    (dropKey { s with keyAllowed := true }).map fun s => (s.moveTo s.cursor.step).emit .blockEntry

/-- A question mark before a key. -/
def explicitKey (s : Scanner) : Option Scanner :=
  (s.enterBlock .blockMappingStart).bind fun s =>
    (dropKey { s with keyAllowed := s.flow == 0 }).map fun s =>
      (s.moveTo s.cursor.step).emit .key

/-- A colon after a key. If the key was only possible so far, it becomes one now. -/
def colon (s : Scanner) : Option Scanner :=
  match s.keys.lookup s.flow with
  | some key =>
    let s := { s with keys := s.keys.filter fun entry => entry.1 != s.flow, keyAllowed := false }
    let (s, fresh) := if s.flow = 0 then s.enter key.column else (s, false)
    let opening := if fresh then [.blockMappingStart, .key] else [.key]
    let tokens := s.tokens.take key.token ++ opening ++ s.tokens.drop key.token
    some (({ s with tokens := tokens }.moveTo s.cursor.step).emit .value)
  | none =>
    (s.enterBlock .blockMappingStart).bind fun s =>
      (dropKey { s with keyAllowed := s.flow == 0 }).map fun s =>
        (s.moveTo s.cursor.step).emit .value

/-- A token that may be a key or the start of one. -/
def keyLike (s : Scanner) (token : Token) (c : Cursor) : Option Scanner :=
  s.markKey.map fun s => ({ s with keyAllowed := false }.moveTo c).emit token

/-- An alias or anchor. -/
def reference (s : Scanner) (make : Text → Token) : Option Scanner :=
  match Heading.reference s.cursor.step with
  | some (name, c) => s.keyLike (make name) c
  | none => none

/-- A tag. -/
def tag (s : Scanner) : Option Scanner :=
  match Heading.tag s.cursor with
  | some (handle, rest, c) => s.keyLike (.tag handle rest) c
  | none => none

/-- A block of lines as a scalar. -/
def block (s : Scanner) : Option Scanner :=
  (dropKey { s with keyAllowed := true }).bind fun s =>
    (Scalar.block s.indent s.cursor).map fun (text, c) => (s.moveTo c).emit (.scalar text false)

/-- A quoted scalar. -/
def quoted (s : Scanner) : Except Error Scanner :=
  match s.markKey with
  | none => .error .malformed
  | some s =>
    (Scalar.quoted s.cursor).map fun (text, c) =>
      ({ s with keyAllowed := false }.moveTo c).emit (.scalar text false)

/-- A plain scalar. -/
def plain (s : Scanner) : Option Scanner :=
  s.markKey.map fun s =>
    let (text, c, ended) := Scalar.plain (s.flow != 0) (s.indent + 1) s.cursor
    ({ s with keyAllowed := ended }.moveTo c).emit (.scalar text true)

/-- A directive. -/
def directive (s : Scanner) : Except Error Scanner :=
  match s.leaveBlocks with
  | none => .error .malformed
  | some s =>
    match Heading.directive s.cursor.step with
    | .error e => .error e
    | .ok (d, c) =>
      orMalformed <| (Scalar.ignoredLine c).map fun c => (s.moveTo c).emit (.directive d)

/-- Whether a plain scalar may start at a place. -/
def startsPlain (s : Scanner) : Bool :=
  let ch := s.cursor.peek
  let indicators : List Char :=
    ['-', '?', ':', ',', '[', ']', '\x7b', '\x7d', '#', '&', '*', '!', '|', '>', '\'', '"', '%',
      '@', '\x60']
  !(isWordEnd ch || indicators.contains ch) ||
    (!isWordEnd (s.cursor.peekAt 1) && (ch == '-' || (s.flow == 0 && (ch == '?' || ch == ':'))))

/-- The next token or tokens, at the place of one. -/
def next (s : Scanner) : Except Error Scanner :=
  let ch := s.cursor.peek
  let alone := isWordEnd (s.cursor.peekAt 1)
  let inFlow := s.flow != 0
  if ch == '%' && s.cursor.column == 0 then s.directive
  else if ch == '\'' || ch == '"' then s.quoted
  else
    orMalformed <|
      if s.cursor.column == 0 && s.cursor.atMarker "---".toList then s.documentMark .documentStart
      else if s.cursor.column == 0 && s.cursor.atMarker "...".toList then
        s.documentMark .documentEnd
      else if ch == '[' then s.openBracket .flowSequenceStart
      else if ch == '\x7b' then s.openBracket .flowMappingStart
      else if ch == ']' then s.closeBracket .flowSequenceEnd
      else if ch == '\x7d' then s.closeBracket .flowMappingEnd
      else if ch == ',' then s.comma
      else if ch == '-' && alone then s.item
      else if ch == '?' && (inFlow || alone) then s.explicitKey
      else if ch == ':' && (inFlow || alone) then s.colon
      else if ch == '*' then s.reference .alias
      else if ch == '&' then s.reference .anchor
      else if ch == '!' then s.tag
      else if (ch == '|' || ch == '>') && !inFlow then s.block
      else if s.startsPlain then s.plain
      else none

/-- The state at the place of the next token, after the blocks that end there. -/
def approach (s : Scanner) : Option Scanner :=
  (toNextToken (s.cursor.rest.length + 1) s).dropStaleKeys.map fun s => s.unwind s.column

/-- The tokens that were read before an error. A token that might yet turn out to be a key waits for
what follows, so neither it nor a later one is given out. -/
def tokensBefore (s : Scanner) (e : Error) : List Token :=
  let waiting := (s.dropStaleKeys.getD s).keys.map fun entry => entry.2.token
  s.tokens.take (waiting.foldl min s.tokens.length) ++ [.broken e]

/-- All tokens from a state on. Every round passes at least one character. -/
def run : Nat → Scanner → List Token
  | 0, s => s.tokens
  | fuel + 1, s =>
    match s.approach with
    | none => s.tokensBefore .malformed
    | some s' =>
      if s'.cursor.rest.isEmpty then
        match (s'.unwind (-1)).dropKey with
        | some last => last.tokens
        | none => s.tokensBefore .malformed
      else
        match s'.next with
        | .ok s' => run fuel s'
        | .error e => s.tokensBefore e

end Scanner

/-- The tokens of a document; one that holds characters that no document may hold makes no sense
from the start. A mark of the byte order at the start is passed over. -/
def Token.ofText (t : Text) : List Token :=
  if !t.all isAllowed then [.broken .malformed]
  else
    let s := Scanner.start t
    let s := if s.cursor.peek == '\ufeff' then s.moveTo s.cursor.step else s
    s.run (t.length + 2)

end MemberAddress.Yaml
