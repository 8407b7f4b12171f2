import MemberAddress.Fault

/-!
# Member lists

A configured member may name several addresses, parted by commas, semicolons or blanks.

* `MemberList.entries` are the addresses that one text names;
* `MemberList.split` are those of a whole list, in order.
-/

namespace MemberAddress.MemberList

/-- Whether a character parts the entries of a member list. -/
def isSeparator (c : Char) : Bool := c == ',' || c == ';' || Text.isBlank c

/-- The entries of one member text: its longest runs without separators. -/
def entries (t : Text) : List Text := (Text.pieces isSeparator t).filter fun piece => !piece.isEmpty

/-- The text of a configured member. An empty value of any kind stands for an empty text. -/
def memberText (v : Value) : Except Fault Text :=
  match v with
  | .text t => .ok t
  | v => if v.isTrue then .error (.notEntryText v.kind) else .ok []

/-- The entries of a list of configured members. -/
def split : List Value → Except Fault (List Text)
  | [] => .ok []
  | v :: rest =>
    match memberText v with
    | .error e => .error e
    | .ok t =>
      match split rest with
      | .error e => .error e
      | .ok more => .ok (entries t ++ more)

end MemberAddress.MemberList
