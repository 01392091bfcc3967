import GoCompletion.Number.Slots
import GoCompletion.Yaml.Meaning
import GoCompletion.Yaml.Merge
import GoCompletion.Yaml.Node

/-!
# The values of a YAML document

Every node has one value, wherever it stands. A scalar has its value at once; a collection is a value
before its parts are known, and **collections are filled in the order in which they were met**
(`Document.ofNodes`). So a collection may hold itself, and of several things that are wrong with a document
the one on the outermost level comes out first.

The keys of a mapping are told apart by their values, and numbers among them by what they count; a
collection is no key.
-/

namespace GoCompletion

/-! ## Keys -/

namespace Datum

/-- The exact value of a datum that is a number, as numerator and denominator. -/
def ratio? : Datum → Option (Int × Nat)
  | .bool b => some (if b then 1 else 0, 1)
  | .int i => some (i, 1)
  | .float x => x.ratio?
  | _ => none

/-- The data are one key, for data that are no collections. -/
def isSameKey : Datum → Datum → Bool
  | .null, .null => true
  | .text s, .text t => s = t
  | .bytes a, .bytes b => a = b
  | .moment a, .moment b => a.isSame b
  | .float (.infinite s), .float (.infinite t) => s = t
  | a, b =>
    match a.ratio?, b.ratio? with
    | some x, some y => x.1 * y.2 = y.1 * x.2
    | _, _ => false

/-- The remainder by which a number finds its slot. -/
def remainder? : Datum → Option Int
  | .float (.infinite negative) => some (Slots.infinity negative)
  | d => d.ratio?.map fun r => Slots.remainder r.1 r.2

end Datum

namespace Yaml

/-- A value in a document. -/
inductive Value where
  /-- a value without parts, with the node that it comes from; there is only one number of the name
  `.nan`, which comes from nowhere -/
  | leaf (d : Datum) (source : Option Nat)
  /-- the collection of a node -/
  | collection (n : Nat)

namespace Value

/-- The values are one key: what is no number is only the same as itself. -/
def isSameKey : Value → Value → Bool
  | .leaf (.float .nan) s, .leaf (.float .nan) t => s = t
  | .leaf a _, .leaf b _ => a.isSameKey b
  | _, _ => false

/-- The value is a key with a text. -/
def isText (key : Text) : Value → Bool
  | .leaf (.text t) _ => t = key
  | _ => false

/-- The remainder by which a value finds its slot in a set. -/
def remainder? : Value → Option Int
  | .leaf d _ => d.remainder?
  | .collection _ => none

/-- The entries with one more: a key that is there already keeps its place and takes the new value. -/
def putEntry (entries : List (Value × Value)) (e : Value × Value) : List (Value × Value) :=
  match entries with
  | [] => [e]
  | (k, v) :: rest => if k.isSameKey e.1 then (k, e.2) :: rest else (k, v) :: putEntry rest e

/-- The members of a set in the order in which they are shown: numbers by their slots, and others as they
were put in. -/
def inSet (members : List Value) : List Value :=
  match members.mapM fun v => v.remainder?.map fun r => (r, v) with
  | some numbers => Slots.order numbers
  | none => members

end Value

/-- The parts of a collection. -/
inductive Content where
  | list (items : List Value)
  | map (entries : List (Value × Value))
  | set (members : List Value)
  | pairs (items : List (Value × Value))

/-! ## Making values -/

/-- The kind has values with parts. -/
def Kind.isCollection : Kind → Bool
  | .seq | .map | .set | .pairs => true
  | _ => false

/-- The kind has values without parts. -/
def Kind.isScalar : Kind → Bool
  | .null | .bool | .int | .float | .bytes | .moment | .str => true
  | _ => false

/-- The text of a node: a mapping with the key `=` has that of its value. The value may be a mapping
again, but not the mapping itself. -/
def Graph.textOf (g : Graph) (bound n : Nat) : Result Text :=
  match bound with
  | 0 => fault (.tooDeep [])
  | bound + 1 =>
    match g.body n with
    | .scalar t => .ok t
    | .seq _ => refuse
    | .map entries =>
      match entries.find? fun e => g.kind e.1 = .default with
      | some e => g.textOf bound e.2
      | none => refuse

/-- The value of a node without parts. -/
def Graph.leafOf (g : Graph) (n : Nat) : Result Value :=
  let kind := g.kind n
  if kind.isScalar then
    (g.textOf (g.size + 1) n).bind fun t =>
      if kind = .moment ∧ g.isMapping n then fault .entriesForMoment
      else
        (kind.value t).map fun d =>
          .leaf d (if kind = .float ∧ isNanName t then none else some n)
  else refuse

/-- The state of making values. -/
structure Making where
  /-- the nodes -/
  graph : Graph
  /-- more than the number of entries in them -/
  bound : Nat
  /-- the values of the nodes that have been met -/
  values : Array (Option Value)
  /-- the parts of the collections that have been filled -/
  contents : Array (Option Content)
  /-- the collections that have been met, in order -/
  met : Array Nat := #[]

/-- Making values, which may end early. -/
abbrev Maker : Type → Type := StateT Making (Except Halt)

/-- The value of a node. -/
def valueOf (n : Nat) : Maker Value := fun m =>
  match (m.values[n]?).join with
  | some v => .ok (v, m)
  | none =>
    if (m.graph.kind n).isCollection then
      let v := Value.collection n
      .ok (v, { m with values := m.values.setIfInBounds n (some v), met := m.met.push n })
    else
      (m.graph.leafOf n).map fun v => (v, { m with values := m.values.setIfInBounds n (some v) })

/-- The values of an entry: first that of its key. -/
def entryOf (e : Nat × Nat) : Maker (Value × Value) := do
  let k ← valueOf e.1
  let v ← valueOf e.2
  return (k, v)

/-- The entries with the values of one more. A collection is no key, and then its value is not looked
at. -/
def putEntryOf (entries : List (Value × Value)) (e : Nat × Nat) : Maker (List (Value × Value)) := do
  match ← valueOf e.1 with
  | .collection _ => fun _ => refuse
  | k =>
    let v ← valueOf e.2
    return Value.putEntry entries (k, v)

/-- The entries of a mapping, with those that it takes over. -/
def entriesOf (n : Nat) : Maker (List (Value × Value)) := do
  let m ← get
  if m.graph.isMapping n then
    let g ← (m.graph.flatten m.bound n : Result Graph)
    set { m with graph := g }
    (g.entriesOf n).foldlM putEntryOf []
  else fun _ => refuse

/-- The items of a sequence. -/
def itemsOf (n : Nat) : Maker (List Nat) := do
  match (← get).graph.body n with
  | .seq items => return items
  | _ => fun _ => refuse

/-- The pair of a node that is a mapping with one entry, as it is written. -/
def pairOf (n : Nat) : Maker (Value × Value) := do
  match (← get).graph.body n with
  | .map [e] => entryOf e
  | _ => fun _ => refuse

/-- The parts of the collection of a node. -/
def contentOf (n : Nat) : Maker Content := do
  match (← get).graph.kind n with
  | .seq => return .list (← (← itemsOf n).mapM valueOf)
  | .map => return .map (← entriesOf n)
  | .set => return .set (Value.inSet ((← entriesOf n).map (·.1)))
  | .pairs => return .pairs (← (← itemsOf n).mapM pairOf)
  | _ => fun _ => refuse

/-- Fills the collections that have been met, from the one with the number `next` on, and those that are
met on the way. -/
def fillFrom (bound next : Nat) : Maker Unit :=
  match bound with
  | 0 => pure ()
  | bound + 1 => do
    match (← get).met[next]? with
    | none => pure ()
    | some n =>
      let content ← contentOf n
      modify fun m => { m with contents := m.contents.setIfInBounds n (some content) }
      fillFrom bound (next + 1)

/-! ## Documents -/

/-- A document: its outermost value, and the parts of its collections by the numbers of their nodes. -/
structure Document where
  /-- the outermost value -/
  root : Value
  /-- the parts of the collections -/
  contents : Array (Option Content)

namespace Document

/-- The document of nodes, from the outermost one. No collection is met twice. -/
def ofNodes (g : Graph) (root : Nat) : Result Document :=
  let none {α : Type} : Array (Option α) := Array.replicate g.size .none
  let make : Maker Value := do
    let v ← valueOf root
    fillFrom (g.size + 1) 0
    return v
  (make { graph := g, bound := g.entryCount + 1, values := none, contents := none }).map fun r =>
    { root := r.1, contents := r.2.contents }

/-- The parts of a value, if it is a collection. -/
def content? (d : Document) : Value → Option Content
  | .leaf .. => none
  | .collection n => (d.contents[n]?).join

/-- The entries of a value, if it is a mapping. -/
def entries? (d : Document) (v : Value) : Option (List (Value × Value)) :=
  match d.content? v with
  | some (.map entries) => some entries
  | _ => none

/-! ## Unfolding -/

/-- A place where something may be inside itself: a collection, or a pair in one by its position. -/
structure Spot where
  /-- the number of the node of the collection -/
  node : Nat
  /-- the position of the pair in it -/
  position : Option Nat := none
  deriving DecidableEq, Repr

/-- The datum that a value is, inside the collections and pairs `around`. What is around a value is not
unfolded in it again; so `bound` is twice the number of nodes, and more than the depth of the datum. -/
def unfold (d : Document) (bound : Nat) (around : List Spot) (v : Value) : Datum :=
  match bound with
  | 0 => .null
  | bound + 1 =>
    match v with
    | .leaf datum _ => datum
    | .collection n =>
      let spot : Spot := { node := n }
      let inside (v : Value) : Datum := d.unfold bound (spot :: around) v
      let pair (i : Nat) (e : Value × Value) : Datum :=
        let place : Spot := { node := n, position := some i }
        let inside (v : Value) : Datum := d.unfold bound (place :: spot :: around) v
        if around.elem place then .again .pair else .pair (inside e.1) (inside e.2)
      let isAgain := around.elem spot
      match d.content? (.collection n) with
      | none => .null
      | some (.list items) => if isAgain then .again .list else .list (items.map inside)
      | some (.map entries) =>
        if isAgain then .again .map else .map (entries.map fun e => (inside e.1, inside e.2))
      | some (.set members) => if isAgain then .again .set else .set (members.map inside)
      | some (.pairs items) => if isAgain then .again .list else .list (items.mapIdx pair)

/-- A number of levels that is more than the depth of every datum in a document. -/
def depth (d : Document) : Nat := 2 * d.contents.size + 2

/-- The datum that a value is. The items of a list are unfolded each by itself. -/
def datum (d : Document) (v : Value) : Datum :=
  match d.content? v, v with
  | some (.list items), _ => .list (items.map (d.unfold d.depth []))
  | some (.pairs items), .collection n =>
    .list (items.mapIdx fun i e =>
      let inside (v : Value) : Datum := d.unfold d.depth [{ node := n, position := some i }] v
      .pair (inside e.1) (inside e.2))
  | _, _ => d.unfold d.depth [] v

/-- The value of a text among entries. -/
def find? (key : Text) (entries : List (Value × Value)) : Option Value :=
  (entries.find? fun e => e.1.isText key).map (·.2)

end Document

/-- The document that a text is; absent if it has none. -/
def documentOf (t : Text) : Result (Option Document) :=
  (read t).bind fun
    | none => .ok none
    | some (g, n) => (Document.ofNodes g n).map some

end Yaml

end GoCompletion
