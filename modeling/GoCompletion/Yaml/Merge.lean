import GoCompletion.Yaml.Graph
import GoCompletion.Yaml.Halt

/-!
# Entries that are taken over

The key `<<` stands for entries that a mapping takes over from another mapping, or from several. Taking
them over puts them in front of the entries of the mapping itself, those of a later mapping in front of
those of an earlier one, and takes the keys `<<` off (`Graph.flatten`). A mapping that entries are taken
from takes over its own first; as it has lost the key by then, a mapping may even take over itself.

The key `=` becomes an ordinary text on the way.
-/

namespace GoCompletion

namespace Yaml

namespace Graph

/-- The entries of a mapping; none for other nodes. -/
def entriesOf (g : Graph) (n : Nat) : List (Nat × Nat) :=
  match g.body n with
  | .map entries => entries
  | _ => []

/-- The node is a mapping, whatever its kind. -/
def isMapping (g : Graph) (n : Nat) : Bool :=
  match g.body n with
  | .map _ => true
  | _ => false

/-- The nodes where a mapping has other entries. -/
def putEntries (g : Graph) (n : Nat) (entries : List (Nat × Nat)) : Graph :=
  g.put n { g.node n with body := .map entries }

/-- The nodes where one has another kind. -/
def putKind (g : Graph) (n : Nat) (kind : Kind) : Graph := g.put n { g.node n with kind }

/-- Taking over the entries of mappings in a row: each is asked for its own, and those of the later ones
go first. -/
def takenAll (flatten : Graph → Nat → Result Graph) (g : Graph) (ns : List Nat) :
    Result (Graph × List (Nat × Nat)) :=
  ns.foldlM
    (fun s n =>
      if s.1.isMapping n then (flatten s.1 n).map fun g => (g, g.entriesOf n ++ s.2) else refuse)
    (g, [])

/-- Taking over the entries that a value of the key `<<` has. -/
def taken (flatten : Graph → Nat → Result Graph) (g : Graph) (value : Nat) :
    Result (Graph × List (Nat × Nat)) :=
  match g.body value with
  | .map _ => takenAll flatten g [value]
  | .seq items => takenAll flatten g items
  | .scalar _ => refuse

/-- The state of going through the entries of a mapping. -/
structure Sweep where
  /-- the nodes -/
  graph : Graph
  /-- the entries that stay, the last one first -/
  kept : List (Nat × Nat) := []
  /-- the entries that have not been gone through -/
  rest : List (Nat × Nat)
  /-- the entries that have been taken over -/
  merged : List (Nat × Nat) := []
  /-- the mapping has been gone through on the way, from inside -/
  isOver : Bool := false

/-- Goes through one entry of the mapping `n`. -/
def sweep (flatten : Graph → Nat → Result Graph) (n : Nat) (s : Sweep) (e : Nat × Nat) :
    Result Sweep :=
  let rest := s.rest.tail
  if s.isOver then .ok s
  else
    match s.graph.kind e.1 with
    | .merge =>
      let left := s.kept.reverse ++ rest
      (taken flatten (s.graph.putEntries n left) e.2).map fun t =>
        { s with
          graph := t.1, rest, merged := s.merged ++ t.2
          isOver := t.1.entriesOf n ≠ left }
    | .default => .ok { s with graph := s.graph.putKind e.1 .str, kept := e :: s.kept, rest }
    | _ => .ok { s with kept := e :: s.kept, rest }

/-- The nodes where the mapping `n` has taken over what its keys `<<` stand for. Every such key is taken
off before its value is looked at, so `bound` is more than their number. -/
def flatten (bound : Nat) (g : Graph) (n : Nat) : Result Graph :=
  match bound with
  | 0 => refuse
  | bound + 1 =>
    ((g.entriesOf n).foldlM (sweep (flatten bound) n) { graph := g, rest := g.entriesOf n }).map fun s =>
      if s.merged.isEmpty then s.graph
      else s.graph.putEntries n (s.merged ++ s.graph.entriesOf n)

end Graph

end Yaml

end GoCompletion
