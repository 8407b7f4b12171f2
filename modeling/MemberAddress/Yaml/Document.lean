import MemberAddress.Yaml.Shape
import MemberAddress.Yaml.TokenStream

/-!
# Documents

* `Yaml.read` gives the value that a document denotes, or what is wrong with it.

What the nodes denote is laid out as one value, level by level from below: a value of depth `n` is
made of values of depth less than `n`. A node that is part of itself, or holds such a node, has no
depth and becomes a knot; the levels go on as far as anyone follows it before meeting the same knot
again.
-/

namespace MemberAddress.Yaml

namespace Shape

/-- The numbers of the parts of a container. -/
def parts : Shape → List Nat
  | .leaf _ | .set _ => []
  | .list items => items
  | .pairs entries => entries.flatMap fun entry => [entry.1, entry.2]
  | .table entries => entries.map Prod.snd

/-- The value of a shape, given those of its parts. -/
def value (part : Nat → Value) : Shape → Value
  | .leaf v => v
  | .list items => .list (items.map part)
  | .pairs entries => .list (entries.map fun entry => .tuple [part entry.1, part entry.2])
  | .set members => .set members
  | .table entries => .table (entries.map fun entry => (entry.1, part entry.2))

/-- Whether a shape holds other nodes. -/
def isContainer : Shape → Bool
  | .leaf _ | .set _ => false
  | _ => true

end Shape

namespace Shapes

/-- What a node denotes. -/
def shape (s : Shapes) (id : Nat) : Shape := (s.known.getD id none).getD default

/-! ### Depth -/

/-- The depths of all nodes, one step better than the given ones. -/
def deeper (s : Shapes) (depths : Array Nat) : Array Nat :=
  (Array.range s.known.size).map fun id =>
    let shape := s.shape id
    if shape.isContainer then (shape.parts.map fun part => depths.getD part 0).foldl max 0 + 1
    else 0

/-- The depths of all nodes after up to `rounds` steps, or as soon as they stay the same. A node that
leads back to itself gets deeper in every step. -/
def settle (s : Shapes) : Nat → Array Nat → Array Nat
  | 0, depths => depths
  | rounds + 1, depths =>
    let better := s.deeper depths
    if better == depths then depths else settle s rounds better

/-- The depths of all nodes; more than their number for a node that leads back to itself. -/
def depths (s : Shapes) : Array Nat :=
  s.settle (s.known.size + 2) (Array.replicate s.known.size 0)

/-! ### Levels -/

/-- The values of all nodes, one level deeper than the given ones. -/
def raise (s : Shapes) (depths : Array Nat) (values : Array Value) : Array Value :=
  (Array.range s.known.size).map fun id =>
    let v := (s.shape id).value fun part => values.getD part .null
    if s.known.size < depths.getD id 0 then .knot id v else v

/-- The values of all nodes up to a level. -/
def level (s : Shapes) (depths : Array Nat) : Nat → Array Value
  | 0 => Array.replicate s.known.size .null
  | n + 1 => s.raise depths (level s depths n)

/-- The most steps that anyone takes from the outermost value to one that is written. -/
def reach : Nat := 8

/-- The value of a node. -/
def value (s : Shapes) (id : Nat) : Value :=
  let depths := s.depths
  let depth := depths.getD id 0
  let levels := if depth ≤ s.known.size then depth + 1 else s.known.size + reach
  (s.level depths levels).getD id .null

end Shapes

/-! ### Reading -/

/-- The value that a document denotes; an empty one denotes nothing. -/
def read (t : Text) : Except Error Value :=
  match Graph.ofTokens (Token.ofText t) with
  | .error e => .error e
  | .ok none => .ok .null
  | .ok (some (root, g)) => (Shapes.ofGraph g root).map fun s => s.value root

end MemberAddress.Yaml
