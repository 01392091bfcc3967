import GoCompletion.Yaml.Kind

/-!
# YAML nodes

The nodes of a document are numbered in the order in which they begin, and a collection names its nodes by
their numbers. So a node may stand in several places, and even inside itself: an alias stands for the very
node that its anchor marks.

* `Graph.add` — one more node, under a number of its own;
* `Graph.put` — another node under a number that is known.
-/

namespace GoCompletion

namespace Yaml

/-- What a node consists of. -/
inductive Body where
  /-- a text -/
  | scalar (text : Text)
  /-- nodes in a row -/
  | seq (items : List Nat)
  /-- pairs of nodes: keys and values -/
  | map (entries : List (Nat × Nat))
  deriving DecidableEq, Repr

/-- A node of a document. -/
structure Node where
  /-- the kind of the node -/
  kind : Kind
  /-- what it consists of -/
  body : Body
  deriving DecidableEq, Repr

/-- The scalar that stands where there is none. -/
def Node.empty : Node := ⟨.null, .scalar []⟩

/-- The nodes of a document, by their numbers. -/
structure Graph where
  /-- the nodes in order -/
  nodes : Array Node := #[]

namespace Graph

/-- The number of nodes. -/
def size (g : Graph) : Nat := g.nodes.size

/-- The node with a number; an empty scalar where there is none. -/
def node (g : Graph) (n : Nat) : Node := g.nodes.getD n .empty

/-- The kind of the node with a number. -/
def kind (g : Graph) (n : Nat) : Kind := (g.node n).kind

/-- What the node with a number consists of. -/
def body (g : Graph) (n : Nat) : Body := (g.node n).body

/-- One more node; its number is that of the nodes before. -/
def add (g : Graph) (node : Node) : Graph := ⟨g.nodes.push node⟩

/-- Another node under a number. -/
def put (g : Graph) (n : Nat) (node : Node) : Graph := ⟨g.nodes.setIfInBounds n node⟩

/-- The number of entries of all mappings together. -/
def entryCount (g : Graph) : Nat :=
  g.nodes.foldl
    (fun count node =>
      match node.body with
      | .map entries => count + entries.length
      | _ => count) 0

end Graph

end Yaml

end GoCompletion
