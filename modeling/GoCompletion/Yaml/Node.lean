import GoCompletion.Yaml.Graph
import GoCompletion.Yaml.Token

/-!
# Reading YAML nodes

The tokens of a YAML text are put together to the nodes of its only document. A node is known to its
anchor as soon as it begins, so that an alias inside it stands for the node itself; no anchor may be set
twice.

What an indicator announces may be missing, and then there is an empty scalar in its place. Nodes may not
lie too deep within each other.
-/

namespace GoCompletion

namespace Yaml

/-! ## Tags -/

/-- What a tag handle stands for where no directive says so. -/
def commonHandles : List (Text × Text) := [(['!'], ['!']), (['!', '!'], kindStem)]

/-- The tag that a name stands for; absent if its handle stands for nothing. -/
def TagName.resolve (handles : List (Text × Text)) (n : TagName) : Option Text :=
  match n.handle with
  | none => some n.suffix
  | some h => (handles.find? fun e => e.1 = h).map (·.2 ++ n.suffix)

/-- The tag that leaves the kind of a node open. -/
def openTag : Text := ['!']

/-- The kind of a scalar with a tag or without: without one, only a plain scalar can be anything but a
text. -/
def scalarKind (tag : Option Text) (plain : Bool) (t : Text) : Kind :=
  match tag with
  | none => if plain then Kind.ofScalar t else .str
  | some tag => if tag = openTag then Kind.ofScalar t else Kind.ofTag tag

/-- The kind of a collection with a tag or without. -/
def collectionKind (tag : Option Text) (k : Kind) : Kind :=
  match tag with
  | none => k
  | some tag => if tag = openTag then k else Kind.ofTag tag

/-! ## The state of reading -/

/-- The state of reading: the tokens, the anchors that are known, and the nodes so far. -/
structure Reading where
  /-- the state between two tokens -/
  scan : Scan
  /-- the anchors with the numbers of their nodes -/
  anchors : List (Text × Nat) := []
  /-- the nodes -/
  graph : Graph := {}

/-- Reading that may end early. -/
abbrev Reader : Type → Type := StateT Reading (Except Halt)

/-- The text is refused. -/
def refuseHere {α : Type} : Reader α := fun _ => refuse

/-- The token ahead, absent at the end. -/
def ahead : Reader (Option Token) := fun r =>
  r.scan.look.map fun s => (s.tokens.head?, { r with scan := s })

/-- One of the tokens is ahead. -/
def isAhead (ts : List Token) : Reader Bool := do
  let t ← ahead
  return t.any ts.elem

/-- Goes on behind the token ahead. -/
def skip : Reader Unit := fun r => .ok ((), { r with scan := r.scan.take })

/-- Goes on behind the token `t`, which has to be ahead. -/
def require (t : Token) : Reader Unit := do
  if ← isAhead [t] then skip else refuseHere

/-- The number of a new node, which its anchor knows from now on. -/
def begin (anchor : Option Text) (node : Node) : Reader Nat := fun r =>
  let n := r.graph.size
  let known := r.anchors.map (·.1)
  match anchor with
  | none => .ok (n, { r with graph := r.graph.add node })
  | some name =>
    if known.elem name then refuse
    else .ok (n, { r with anchors := (name, n) :: r.anchors, graph := r.graph.add node })

/-- The node with a number consists of what has been read by now. -/
def finish (n : Nat) (node : Node) : Reader Unit := fun r =>
  .ok ((), { r with graph := r.graph.put n node })

/-- The number of a new empty scalar. -/
def emptyNode : Reader Nat := begin none .empty

/-- The number of the node of an anchor. -/
def anchored (name : Text) : Reader Nat := fun r =>
  (orRefuse (r.anchors.find? fun a => a.1 = name)).map fun a => (a.2, r)

/-- The anchor and the tag ahead, in either order. -/
def properties : Reader (Option Text × Option TagName) := do
  match ← ahead with
  | some (.anchor name) =>
    skip
    match ← ahead with
    | some (.tag tag) => skip; pure (some name, some tag)
    | _ => pure (some name, none)
  | some (.tag tag) =>
    skip
    match ← ahead with
    | some (.anchor name) => skip; pure (some name, some tag)
    | _ => pure (none, some tag)
  | _ => pure (none, none)

/-- The tag that a name stands for, if there is one. -/
def resolved (handles : List (Text × Text)) (name : Option TagName) : Reader (Option Text) := fun r =>
  match name with
  | none => .ok (none, r)
  | some name => (orRefuse (name.resolve handles)).map fun tag => (some tag, r)

/-! ## Nodes -/

/-- The tokens that end an entry of a block sequence. -/
def itemEnds : List Token := [.blockEntry, .blockEnd]

/-- The tokens that end an entry of a sequence that is not indented, or of a mapping. -/
def entryEnds : List Token := [.key, .value, .blockEnd]

/-- The position of a node. -/
inductive Place where
  /-- within brackets -/
  | flow
  /-- where a block may begin -/
  | block
  /-- where a block may begin, and a sequence need not be indented -/
  | value
  deriving DecidableEq

/-- How deep nodes may lie within each other. -/
def mostLevels : Nat := 488

mutual

/-- The node ahead, in `levels` others at most. -/
def node (handles : List (Text × Text)) (bound levels : Nat) (place : Place) : Reader Nat :=
  match bound, levels with
  | 0, _ => refuseHere
  | _, 0 => fun _ => fault (.tooDeep [])
  | bound + 1, levels + 1 => do
    match ← ahead with
    | some (.alias name) =>
      skip
      anchored name
    | _ =>
      let (anchor, name) ← properties
      let tag ← resolved handles name
      content handles bound levels place anchor tag

/-- The node ahead behind its anchor and its tag. It may be missing only if it has one of them. -/
def content (handles : List (Text × Text)) (bound levels : Nat) (place : Place)
    (anchor tag : Option Text) : Reader Nat :=
  match bound with
  | 0 => refuseHere
  | bound + 1 => do
    let seq (items : Reader (List Nat)) : Reader Nat := do
      let kind := collectionKind tag .seq
      let n ← begin anchor ⟨kind, .seq []⟩
      let ns ← items
      finish n ⟨kind, .seq ns⟩
      return n
    let map (entries : Reader (List (Nat × Nat))) : Reader Nat := do
      let kind := collectionKind tag .map
      let n ← begin anchor ⟨kind, .map []⟩
      let es ← entries
      finish n ⟨kind, .map es⟩
      return n
    match ← ahead, place with
    | some .blockEntry, .value => seq (openItems handles bound levels)
    | some (.scalar plain t), _ =>
      skip
      begin anchor ⟨scalarKind tag plain t, .scalar t⟩
    | some .flowSequence, _ => seq (do skip; flowItems handles bound levels true)
    | some .flowMapping, _ => map (do skip; flowEntries handles bound levels true)
    | some .blockSequence, .block | some .blockSequence, .value =>
      seq (do skip; blockItems handles bound levels)
    | some .blockMapping, .block | some .blockMapping, .value =>
      map (do skip; blockEntries handles bound levels)
    | _, _ =>
      if anchor.isSome || tag.isSome then begin anchor ⟨scalarKind tag true [], .scalar []⟩
      else refuseHere

/-- The node ahead, or the empty one in front of the tokens `ends`. -/
def nodeOrEmpty (handles : List (Text × Text)) (bound levels : Nat) (place : Place)
    (ends : List Token) : Reader Nat :=
  match bound with
  | 0 => refuseHere
  | bound + 1 => do
    if ← isAhead ends then emptyNode else node handles bound levels place

/-- The value ahead, or the empty node where there is no colon in front of one. -/
def valueOrEmpty (handles : List (Text × Text)) (bound levels : Nat) (place : Place)
    (ends : List Token) : Reader Nat :=
  match bound with
  | 0 => refuseHere
  | bound + 1 => do
    if ← isAhead [.value] then
      skip
      nodeOrEmpty handles bound levels place ends
    else emptyNode

/-- The items of a block sequence, with its end. -/
def blockItems (handles : List (Text × Text)) (bound levels : Nat) : Reader (List Nat) :=
  match bound with
  | 0 => refuseHere
  | bound + 1 => do
    if ← isAhead [.blockEntry] then
      skip
      let n ← nodeOrEmpty handles bound levels .block itemEnds
      return n :: (← blockItems handles bound levels)
    else
      require .blockEnd
      return []

/-- The items of a sequence that is not indented. -/
def openItems (handles : List (Text × Text)) (bound levels : Nat) : Reader (List Nat) :=
  match bound with
  | 0 => refuseHere
  | bound + 1 => do
    if ← isAhead [.blockEntry] then
      skip
      let n ← nodeOrEmpty handles bound levels .block (.blockEntry :: entryEnds)
      return n :: (← openItems handles bound levels)
    else return []

/-- The entries of a block mapping, with its end. -/
def blockEntries (handles : List (Text × Text)) (bound levels : Nat) : Reader (List (Nat × Nat)) :=
  match bound with
  | 0 => refuseHere
  | bound + 1 => do
    if ← isAhead [.key] then
      skip
      let k ← nodeOrEmpty handles bound levels .value entryEnds
      let v ← valueOrEmpty handles bound levels .value entryEnds
      return (k, v) :: (← blockEntries handles bound levels)
    else
      require .blockEnd
      return []

/-- The items of a sequence in brackets, with its end. A key makes an item a mapping of one entry. -/
def flowItems (handles : List (Text × Text)) (bound levels : Nat) (first : Bool) :
    Reader (List Nat) :=
  match bound with
  | 0 => refuseHere
  | bound + 1 => do
    if ← isAhead [.flowSequenceEnd] then
      skip
      return []
    unless first do require .flowEntry
    -- a comma may stand behind the last item
    if ← isAhead [.key] then
      let n ← begin none ⟨.map, .map []⟩
      skip
      let k ← nodeOrEmpty handles bound (levels - 1) .flow [.value, .flowEntry, .flowSequenceEnd]
      let v ← valueOrEmpty handles bound (levels - 1) .flow [.flowEntry, .flowSequenceEnd]
      finish n ⟨.map, .map [(k, v)]⟩
      return n :: (← flowItems handles bound levels false)
    else if ← isAhead [.flowSequenceEnd] then
      skip
      return []
    else
      let n ← node handles bound levels .flow
      return n :: (← flowItems handles bound levels false)

/-- The entries of a mapping in braces, with its end. A node without a colon is a key. -/
def flowEntries (handles : List (Text × Text)) (bound levels : Nat) (first : Bool) :
    Reader (List (Nat × Nat)) :=
  match bound with
  | 0 => refuseHere
  | bound + 1 => do
    if ← isAhead [.flowMappingEnd] then
      skip
      return []
    unless first do require .flowEntry
    if ← isAhead [.key] then
      skip
      let k ← nodeOrEmpty handles bound levels .flow [.value, .flowEntry, .flowMappingEnd]
      let v ← valueOrEmpty handles bound levels .flow [.flowEntry, .flowMappingEnd]
      return (k, v) :: (← flowEntries handles bound levels false)
    else if ← isAhead [.flowMappingEnd] then
      skip
      return []
    else
      let k ← node handles bound levels .flow
      let v ← emptyNode
      return (k, v) :: (← flowEntries handles bound levels false)

end

/-! ## Documents -/

/-- What is in front of a document. -/
structure Prologue where
  /-- the version has been told -/
  hasVersion : Bool := false
  /-- the tag handles that have been explained -/
  handles : List (Text × Text) := []

/-- The prologue with one more directive. Nothing may be told twice, and the version begins with
one. -/
def Prologue.tell (p : Prologue) : Directive → Option Prologue
  | .version major =>
    if p.hasVersion || major != 1 then none else some { p with hasVersion := true }
  | .tag handle stem =>
    if p.handles.any fun h => h.1 = handle then none
    else some { p with handles := (handle, stem) :: p.handles }
  | .other => some p

/-- The directives ahead, with the start of the document behind them. -/
def prologue (bound : Nat) (p : Prologue) : Reader Prologue :=
  match bound with
  | 0 => refuseHere
  | bound + 1 => do
    match ← ahead with
    | some (.directive d) =>
      skip
      match p.tell d with
      | some p => prologue bound p
      | none => refuseHere
    | _ =>
      require .documentStart
      return p

/-- The end of the text is ahead, behind any ends of documents. What begins another document is read, so
that its faults are met, and refused. -/
def epilogue (bound : Nat) : Reader Unit :=
  match bound with
  | 0 => refuseHere
  | bound + 1 => do
    match ← ahead with
    | none => return ()
    | some .documentEnd =>
      skip
      epilogue bound
    | some _ =>
      let _ ← prologue bound {}
      refuseHere

/-- The number of the node that the only document of a text is; absent if there is no document. -/
def document (bound : Nat) : Reader (Option Nat) := do
  match ← ahead with
  | none => return none
  | some .documentStart | some (.directive _) =>
    let p ← prologue bound {}
    let ends : Bool :=
      match ← ahead with
      | none | some .documentStart | some .documentEnd | some (.directive _) => true
      | _ => false
    let n ←
      if ends then emptyNode else node (p.handles ++ commonHandles) bound mostLevels .block
    epilogue bound
    return some n
  | some _ =>
    let n ← node commonHandles bound mostLevels .block
    epilogue bound
    return some n

/-- The nodes of the document that a text is, and the number of its outermost one; absent if there is no
document. A token takes at most a few turns of reading, and a character makes at most a few tokens. -/
def read (t : Text) : Result (Option (Graph × Nat)) :=
  (scan t).bind fun s =>
    (document (40 * (t.length + 2)) { scan := s }).map fun r => r.1.map fun n => (r.2.graph, n)

end Yaml

end GoCompletion
