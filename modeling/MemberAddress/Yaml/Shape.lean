import MemberAddress.Value
import MemberAddress.Yaml.Node

/-!
# What nodes denote

A scalar denotes a value by itself; a sequence or mapping denotes a container whose parts are again
nodes. Containers are opened first and filled later, in the order in which they were opened, so that
a container may hold itself, and the first error in this order is the one that counts. The keys of a
mapping are scalars: a container among them is an error, whatever it holds.

* `Yaml.Graph.flatten` merges into a mapping the entries that stand under its keys `<<`;
* `Yaml.Graph.leaf` is the value of a scalar;
* `Yaml.Shape` is what a node denotes, `Yaml.Shapes.ofGraph` what all nodes denote that matter;
* `Yaml.Shapes.make` reads a scalar or opens a container, `Yaml.Shapes.fill` fills one.
-/

namespace MemberAddress.Yaml

namespace Graph

/-! ### Merged mappings -/

/-- The total number of entries in mappings. -/
def countEntries (g : Graph) : Nat :=
  g.toList.foldl (fun count node =>
    match node.content with
    | .mapping entries => count + entries.length
    | _ => count) 0

mutual
/-- The graph in which a mapping has the entries of other mappings merged in: they stand before its
own, and the keys `<<` are gone. The key `=` of such a mapping is a text. -/
def flattenFrom (fuel : Nat) (g : Graph) (id index : Nat) (merged : List (Nat × Nat)) :
    Except Error Graph :=
  match fuel with
  | 0 => .error .tooDeep
  | fuel + 1 =>
    match (g.entries id)[index]? with
    | none =>
      .ok (if merged.isEmpty then g else g.setContent id (.mapping (merged ++ g.entries id)))
    | some (key, source) =>
      match (g.node key).tag with
      | .merge =>
        let g := g.setContent id (.mapping ((g.entries id).eraseIdx index))
        match (g.node source).content with
        | .scalar _ => .error .malformed
        | .mapping _ =>
          match flattenFrom fuel g source 0 [] with
          | .error e => .error e
          | .ok g => flattenFrom fuel g id index (merged ++ g.entries source)
        | .sequence sources =>
          match flattenAll fuel g sources with
          | .error e => .error e
          | .ok (g, entries) => flattenFrom fuel g id index (merged ++ entries)
      | .value => flattenFrom fuel (g.setTag key .text) id (index + 1) merged
      | _ => flattenFrom fuel g id (index + 1) merged

/-- The graph in which several mappings are flattened, and their entries, those of the last one
first. -/
def flattenAll (fuel : Nat) (g : Graph) (ids : List Nat) :
    Except Error (Graph × List (Nat × Nat)) :=
  match fuel, ids with
  | _, [] => .ok (g, [])
  | 0, _ => .error .tooDeep
  | fuel + 1, id :: rest =>
    match (g.node id).content with
    | .mapping _ =>
      match flattenFrom fuel g id 0 [] with
      | .error e => .error e
      | .ok g =>
        let own := g.entries id
        (flattenAll fuel g rest).map fun (g, entries) => (g, entries ++ own)
    | _ => .error .malformed
end

/-- The graph in which a mapping is flattened. -/
def flatten (g : Graph) (id : Nat) : Except Error Graph :=
  flattenFrom ((g.countEntries + g.size + 2) * (g.countEntries + g.size + 2)) g id 0 []

/-! ### Scalars -/

/-- The text of a scalar, or of the entry under the key `=` in a mapping. -/
def scalarText (g : Graph) : Nat → Nat → Except Error Text
  | 0, _ => .error .tooDeep
  | fuel + 1, id =>
    match (g.node id).content with
    | .scalar t => .ok t
    | .sequence _ => .error .malformed
    | .mapping entries =>
      match entries.find? fun entry => (g.node entry.1).tag == .value with
      | some entry => scalarText g fuel entry.2
      | none => .error .malformed

/-- The words for a flag in lower case, with the flag. -/
def flagWords : List (Text × Bool) :=
  [("yes".toList, true), ("no".toList, false), ("true".toList, true), ("false".toList, false),
    ("on".toList, true), ("off".toList, false)]

/-- The flag that a text denotes. -/
def flagOf (t : Text) : Except Error Value :=
  match flagWords.lookup (Text.lower t) with
  | some b => .ok (.flag b)
  | none => .error (.notAFlag t)

/-- The bytes that a text in base sixty-four denotes. -/
def bytesOf (t : Text) : Except Error Value :=
  if t.all fun c => c.toNat < 0x80 then (orMalformed (Bytes.ofBase64? t)).map .bytes
  else .error .malformed

/-- The date or time that a text denotes. -/
def timeOf (t : Text) : Except Error Value :=
  match Time.read? (Tag.withoutLineFeed t) with
  | none => .error (.notATime t)
  | some stamp =>
    if !stamp.isValid then .error .noSuchTime
    else
      match stamp with
      | .date d => .ok (.date d)
      | .moment m => .ok (.moment m)

/-- Whether a node is a mapping. -/
def isMapping (g : Graph) (id : Nat) : Bool :=
  match (g.node id).content with
  | .mapping _ => true
  | _ => false

/-- The value of a scalar; none for the tags of containers. -/
def leaf (g : Graph) (id : Nat) : Except Error (Option Value) :=
  let text := scalarText g (g.size + 1) id
  let some' (v : Except Error Value) : Except Error (Option Value) := v.map some
  match (g.node id).tag with
  | .null => some' (text.map fun _ => .null)
  | .flag => some' (text.bind flagOf)
  | .whole => some' (text.bind fun t => (Number.whole t).map .whole)
  | .real => some' (text.bind fun t => (Number.real (id + 1) t).map .real)
  | .text => some' (text.map .text)
  | .bytes => some' (text.bind bytesOf)
  | .time =>
    some' (text.bind fun t => if g.isMapping id then .error .timeWithoutText else timeOf t)
  | .list | .pairs | .set | .table => .ok none
  | .merge | .value | .unknown => .error .malformed

end Graph

/-! ### Shapes -/

/-- What a node denotes; the parts of a container are given by number. -/
inductive Shape
  | leaf (v : Value)
  | list (items : List Nat)
  | pairs (entries : List (Nat × Nat))
  | set (members : List Value)
  | table (entries : List (Value × Nat))
  deriving Inhabited

/-- The container of a tag with nothing in it. -/
def Shape.emptyOf : Tag → Shape
  | .pairs => .pairs []
  | .set => .set []
  | .table => .table []
  | _ => .list []

/-- The entries of a table with a key set. A key that was there keeps its place and its spelling. -/
def Shape.put (key : Value) (id : Nat) : List (Value × Nat) → List (Value × Nat)
  | [] => [(key, id)]
  | (k, i) :: rest => if k.sameKey key then (k, id) :: rest else (k, i) :: put key id rest

/-- The modulus by which so many numbers are ordered: eight for up to four of them, else the least
power of two above twice their number. -/
def Shape.modulus (count : Nat) : Nat := if count ≤ 4 then 8 else 1 <<< ((2 * count).log2 + 1)

/-- The remainder of a whole number by which it is ordered among so many. -/
def Shape.remainder? (count : Nat) (v : Value) : Option Int :=
  v.toInt?.map (· % (Shape.modulus count : Int))

/-- Members of a set in order: whole numbers by their remainders, all else as it came. -/
def Shape.ordered (members : List Value) : List Value :=
  let key (v : Value) : Option Int := Shape.remainder? members.length v
  if members.all fun v => (key v).isSome then
    members.mergeSort fun v w => decide ((key v).getD 0 ≤ (key w).getD 0)
  else members

/-- What the nodes of a graph denote, as far as is known, and the containers still to be filled, in
the order in which they were opened. -/
structure Shapes where
  graph : Graph
  known : Array (Option Shape)
  waiting : List Nat

namespace Shapes

/-- The state in which the shape of a node is known. -/
def learn (s : Shapes) (id : Nat) (shape : Shape) : Shapes :=
  { s with known := s.known.setIfInBounds id (some shape) }

/-- Whether it is known what a node denotes; a container counts as known once it is opened. -/
def isKnown (s : Shapes) (id : Nat) : Bool := (s.known.getD id none).isSome

/-- What a node denotes is known after this: the value of a scalar, or a container to be filled. -/
def make (s : Shapes) (id : Nat) : Except Error Shapes :=
  if s.isKnown id then .ok s
  else
    match s.graph.leaf id with
    | .error e => .error e
    | .ok (some v) => .ok (s.learn id (.leaf v))
    | .ok none =>
      let s := s.learn id (Shape.emptyOf (s.graph.node id).tag)
      .ok { s with waiting := s.waiting ++ [id] }

/-! ### Parts of containers -/

/-- The parts of a container in the order in which they are read. A part that has to be a mapping of
one entry may be something else. -/
inductive Part
  | key (id : Nat)
  | value (id : Nat)
  | broken

/-- The parts of a list of mappings with one entry each. -/
def pairParts (g : Graph) (items : List Nat) : List Part :=
  items.flatMap fun id =>
    match (g.node id).content with
    | .mapping [(key, value)] => [.value key, .value value]
    | _ => [.broken]

/-- The parts of a container, after other mappings were merged into it. -/
def parts (s : Shapes) (id : Nat) : Except Error (List Part × Shapes) :=
  let node := s.graph.node id
  match node.tag, node.content with
  | .list, .sequence items => .ok (items.map .value, s)
  | .pairs, .sequence items => .ok (pairParts s.graph items, s)
  | .table, .mapping _ | .set, .mapping _ =>
    (s.graph.flatten id).map fun g =>
      ((g.entries id).flatMap fun entry => [.key entry.1, .value entry.2], { s with graph := g })
  | _, _ => .error .malformed

/-- The value of a node as a key of a table; a container is no key. -/
def key? (s : Shapes) (id : Nat) : Option Value :=
  match s.known.getD id none with
  | some (.leaf v) => some v
  | _ => none

/-- The shape of a container whose parts are known. Of several equal keys the last one wins. -/
def assemble (s : Shapes) (id : Nat) : Shape :=
  let node := s.graph.node id
  let entries := (s.graph.entries id).foldl
    (fun done entry => Shape.put ((s.key? entry.1).getD .null) entry.2 done) []
  match node.tag, node.content with
  | .pairs, .sequence items => .pairs (items.flatMap s.graph.entries)
  | .set, _ => .set (Shape.ordered (entries.map Prod.fst))
  | .table, _ => .table entries
  | _, .sequence items => .list items
  | _, _ => .list []

/-- Reads the parts of a container one after another. A container is refused as a key before it is
filled. -/
def readParts (s : Shapes) : List Part → Except Error Shapes
  | [] => .ok s
  | .broken :: _ => .error .malformed
  | .value id :: rest =>
    match s.make id with
    | .error e => .error e
    | .ok s => readParts s rest
  | .key id :: rest =>
    match s.make id with
    | .error e => .error e
    | .ok s => if (s.key? id).isNone then .error .malformed else readParts s rest

/-- Fills a container that was opened. -/
def fill (s : Shapes) (id : Nat) : Except Error Shapes :=
  match s.parts id with
  | .error e => .error e
  | .ok (parts, s) => (readParts s parts).map fun s => s.learn id (s.assemble id)

/-- Fills all containers that were opened, the first one first. Each is opened once. -/
def fillAll : Nat → Shapes → Except Error Shapes
  | 0, s => .ok s
  | fuel + 1, s =>
    match s.waiting with
    | [] => .ok s
    | id :: rest =>
      match fill { s with waiting := rest } id with
      | .error e => .error e
      | .ok s => fillAll fuel s

/-- What the nodes denote that are part of a node. -/
def ofGraph (g : Graph) (root : Nat) : Except Error Shapes :=
  match make ⟨g, Array.replicate g.size none, []⟩ root with
  | .error e => .error e
  | .ok s => fillAll (g.size + 1) s

end Shapes

end MemberAddress.Yaml
