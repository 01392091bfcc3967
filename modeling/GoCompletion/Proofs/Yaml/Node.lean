import GoCompletion.Proofs.Yaml.Scan
import GoCompletion.Yaml.Node

/-!
# What reading nodes comes to

Nodes are put together of tokens with slips only (`Yaml.confined_read`): besides those of cutting the tokens,
there is only that nodes lie too deep within each other. The readers of nodes, items and entries call each other,
so this is shown of all of them at once, by induction on the number of turns that are left
(`Yaml.confinesNodes`).
-/

namespace GoCompletion

namespace Yaml

/-- Whatever the state is, the act on it has slips only. -/
def Confines {σ α : Type} (m : StateT σ (Except Halt) α) : Prop := ∀ s, Confined (m s)

namespace Confines

variable {σ α β : Type}

theorem pure (a : α) : Confines (Pure.pure a : StateT σ (Except Halt) α) := fun _ => .ok _

theorem bind {m : StateT σ (Except Halt) α} {f : α → StateT σ (Except Halt) β} (hm : Confines m)
    (hf : ∀ a, Confines (f a)) : Confines (m >>= f) := fun s => .bind (hm s) fun r => hf r.1 r.2

theorem ite {c : Prop} {_ : Decidable c} {m m' : StateT σ (Except Halt) α} (h : Confines m)
    (h' : Confines m') :
    Confines (if c then m else m') := by
  split
  · exact h
  · exact h'

end Confines

/-! ## Single tokens -/

theorem confines_refuseHere {α : Type} : Confines (refuseHere : Reader α) := fun _ => confined_refuse

theorem confines_ahead : Confines ahead := fun r => .map r.scan.confined_look _

theorem confines_isAhead (ts : List Token) : Confines (isAhead ts) :=
  .bind confines_ahead fun _ => .pure _

theorem confines_skip : Confines skip := fun _ => .ok _

theorem confines_require (t : Token) : Confines (require t) :=
  .bind (confines_isAhead _) fun _ => .ite confines_skip confines_refuseHere

theorem confines_begin (anchor : Option Text) (n : Node) : Confines (begin anchor n) := by
  intro r
  cases anchor with
  | none => exact .ok _
  | some name => exact .ite confined_refuse (.ok _)

theorem confines_finish (n : Nat) (node : Node) : Confines (finish n node) := fun _ => .ok _

theorem confines_emptyNode : Confines emptyNode := confines_begin _ _

theorem confines_anchored (name : Text) : Confines (anchored name) := fun _ => .map (confined_orRefuse _) _

theorem confines_properties : Confines properties := by
  refine .bind confines_ahead fun t => ?_
  split
  · refine .bind confines_skip fun _ => .bind confines_ahead fun t => ?_
    split
    · exact .bind confines_skip fun _ => .pure _
    · exact .pure _
  · refine .bind confines_skip fun _ => .bind confines_ahead fun t => ?_
    split
    · exact .bind confines_skip fun _ => .pure _
    · exact .pure _
  · exact .pure _

theorem confines_resolved (handles : List (Text × Text)) (name : Option TagName) :
    Confines (resolved handles name) := by
  intro r
  cases name with
  | none => exact .ok _
  | some name => exact .map (confined_orRefuse _) _

/-! ## Nodes -/

/-- All readers of nodes and their parts have slips only, if there are `bound` turns left. -/
structure ConfinesNodes (handles : List (Text × Text)) (bound : Nat) : Prop where
  /-- a node -/
  node (levels : Nat) (place : Place) : Confines (node handles bound levels place)
  /-- a node behind its anchor and its tag -/
  content (levels : Nat) (place : Place) (anchor tag : Option Text) :
    Confines (content handles bound levels place anchor tag)
  /-- a node that may be missing -/
  nodeOrEmpty (levels : Nat) (place : Place) (ends : List Token) :
    Confines (nodeOrEmpty handles bound levels place ends)
  /-- a value that may be missing -/
  valueOrEmpty (levels : Nat) (place : Place) (ends : List Token) :
    Confines (valueOrEmpty handles bound levels place ends)
  /-- the items of a block sequence -/
  blockItems (levels : Nat) : Confines (blockItems handles bound levels)
  /-- the items of a sequence that is not indented -/
  openItems (levels : Nat) : Confines (openItems handles bound levels)
  /-- the entries of a block mapping -/
  blockEntries (levels : Nat) : Confines (blockEntries handles bound levels)
  /-- the items of a sequence in brackets -/
  flowItems (levels : Nat) (first : Bool) : Confines (flowItems handles bound levels first)
  /-- the entries of a mapping in braces -/
  flowEntries (levels : Nat) (first : Bool) : Confines (flowEntries handles bound levels first)

namespace ConfinesNodes

variable {handles : List (Text × Text)} {bound : Nat}

theorem zero : ConfinesNodes handles 0 where
  node _ _ := by
    unfold Yaml.node
    exact confines_refuseHere
  content _ _ _ _ := by
    unfold Yaml.content
    exact confines_refuseHere
  nodeOrEmpty _ _ _ := by
    unfold Yaml.nodeOrEmpty
    exact confines_refuseHere
  valueOrEmpty _ _ _ := by
    unfold Yaml.valueOrEmpty
    exact confines_refuseHere
  blockItems _ := by
    unfold Yaml.blockItems
    exact confines_refuseHere
  openItems _ := by
    unfold Yaml.openItems
    exact confines_refuseHere
  blockEntries _ := by
    unfold Yaml.blockEntries
    exact confines_refuseHere
  flowItems _ _ := by
    unfold Yaml.flowItems
    exact confines_refuseHere
  flowEntries _ _ := by
    unfold Yaml.flowEntries
    exact confines_refuseHere

theorem node_succ (h : ConfinesNodes handles bound) (levels : Nat) (place : Place) :
    Confines (Yaml.node handles (bound + 1) levels place) := by
  cases levels with
  | zero =>
    unfold Yaml.node
    exact fun _ => confined_fault .depth
  | succ levels =>
    unfold Yaml.node
    refine .bind confines_ahead fun t => ?_
    split
    · exact .bind confines_skip fun _ => confines_anchored _
    · exact .bind confines_properties fun p => .bind (confines_resolved _ _) fun tag => h.content _ _ _ _

theorem content_succ (h : ConfinesNodes handles bound) (levels : Nat) (place : Place)
    (anchor tag : Option Text) : Confines (Yaml.content handles (bound + 1) levels place anchor tag) := by
  unfold Yaml.content
  extract_lets seqKind sequence mapKind mapping
  have hseq : ∀ items, Confines items → Confines (sequence items) := fun _ hitems =>
    .bind (confines_begin _ _) fun _ => .bind hitems fun _ => .bind (confines_finish _ _) fun _ => .pure _
  have hmap : ∀ entries, Confines entries → Confines (mapping entries) := fun _ hentries =>
    .bind (confines_begin _ _) fun _ => .bind hentries fun _ => .bind (confines_finish _ _) fun _ => .pure _
  have hskip : ∀ {α : Type} {m : Reader α}, Confines m → Confines (skip >>= fun _ => m) := fun hm =>
    .bind confines_skip fun _ => hm
  refine .bind confines_ahead fun t => ?_
  split
  · exact hseq _ (h.openItems _)
  · exact hskip (confines_begin _ _)
  · exact hseq _ (hskip (h.flowItems _ _))
  · exact hmap _ (hskip (h.flowEntries _ _))
  · exact hseq _ (hskip (h.blockItems _))
  · exact hseq _ (hskip (h.blockItems _))
  · exact hmap _ (hskip (h.blockEntries _))
  · exact hmap _ (hskip (h.blockEntries _))
  · exact .ite (confines_begin _ _) confines_refuseHere

theorem nodeOrEmpty_succ (h : ConfinesNodes handles bound) (levels : Nat) (place : Place)
    (ends : List Token) : Confines (Yaml.nodeOrEmpty handles (bound + 1) levels place ends) := by
  unfold Yaml.nodeOrEmpty
  exact .bind (confines_isAhead _) fun _ => .ite confines_emptyNode (h.node _ _)

theorem valueOrEmpty_succ (h : ConfinesNodes handles bound) (levels : Nat) (place : Place)
    (ends : List Token) : Confines (Yaml.valueOrEmpty handles (bound + 1) levels place ends) := by
  unfold Yaml.valueOrEmpty
  exact .bind (confines_isAhead _) fun _ =>
    .ite (.bind confines_skip fun _ => h.nodeOrEmpty _ _ _) confines_emptyNode

theorem blockItems_succ (h : ConfinesNodes handles bound) (levels : Nat) :
    Confines (Yaml.blockItems handles (bound + 1) levels) := by
  unfold Yaml.blockItems
  refine .bind (confines_isAhead _) fun _ => .ite ?_ ?_
  · exact .bind confines_skip fun _ => .bind (h.nodeOrEmpty _ _ _) fun _ =>
      .bind (h.blockItems _) fun _ => .pure _
  · exact .bind (confines_require _) fun _ => .pure _

theorem openItems_succ (h : ConfinesNodes handles bound) (levels : Nat) :
    Confines (Yaml.openItems handles (bound + 1) levels) := by
  unfold Yaml.openItems
  refine .bind (confines_isAhead _) fun _ => .ite ?_ (.pure _)
  exact .bind confines_skip fun _ => .bind (h.nodeOrEmpty _ _ _) fun _ =>
    .bind (h.openItems _) fun _ => .pure _

theorem blockEntries_succ (h : ConfinesNodes handles bound) (levels : Nat) :
    Confines (Yaml.blockEntries handles (bound + 1) levels) := by
  unfold Yaml.blockEntries
  refine .bind (confines_isAhead _) fun _ => .ite ?_ ?_
  · exact .bind confines_skip fun _ => .bind (h.nodeOrEmpty _ _ _) fun _ =>
      .bind (h.valueOrEmpty _ _ _) fun _ => .bind (h.blockEntries _) fun _ => .pure _
  · exact .bind (confines_require _) fun _ => .pure _

theorem flowItems_succ (h : ConfinesNodes handles bound) (levels : Nat) (first : Bool) :
    Confines (Yaml.flowItems handles (bound + 1) levels first) := by
  unfold Yaml.flowItems
  refine .bind (confines_isAhead _) fun _ => .ite (.bind confines_skip fun _ => .pure _) ?_
  extract_lets item
  have hitem : ∀ u, Confines (item u) := by
    intro u
    refine .bind (confines_isAhead _) fun _ => .ite ?_ (.bind (confines_isAhead _) fun _ => .ite ?_ ?_)
    · exact .bind (confines_begin _ _) fun _ => .bind confines_skip fun _ => .bind (h.nodeOrEmpty _ _ _) fun _ =>
        .bind (h.valueOrEmpty _ _ _) fun _ => .bind (confines_finish _ _) fun _ =>
          .bind (h.flowItems _ _) fun _ => .pure _
    · exact .bind confines_skip fun _ => .pure _
    · exact .bind (h.node _ _) fun _ => .bind (h.flowItems _ _) fun _ => .pure _
  exact .ite (hitem ()) (.bind (confines_require _) hitem)

theorem flowEntries_succ (h : ConfinesNodes handles bound) (levels : Nat) (first : Bool) :
    Confines (Yaml.flowEntries handles (bound + 1) levels first) := by
  unfold Yaml.flowEntries
  refine .bind (confines_isAhead _) fun _ => .ite (.bind confines_skip fun _ => .pure _) ?_
  extract_lets entry
  have hentry : ∀ u, Confines (entry u) := by
    intro u
    refine .bind (confines_isAhead _) fun _ => .ite ?_ (.bind (confines_isAhead _) fun _ => .ite ?_ ?_)
    · exact .bind confines_skip fun _ => .bind (h.nodeOrEmpty _ _ _) fun _ =>
        .bind (h.valueOrEmpty _ _ _) fun _ => .bind (h.flowEntries _ _) fun _ => .pure _
    · exact .bind confines_skip fun _ => .pure _
    · exact .bind (h.node _ _) fun _ => .bind confines_emptyNode fun _ =>
        .bind (h.flowEntries _ _) fun _ => .pure _
  exact .ite (hentry ()) (.bind (confines_require _) hentry)

end ConfinesNodes

/-- **All readers of nodes**, however many turns are left. -/
theorem confinesNodes (handles : List (Text × Text)) (bound : Nat) : ConfinesNodes handles bound := by
  induction bound with
  | zero => exact .zero
  | succ bound ih =>
    exact {
      node := ih.node_succ
      content := ih.content_succ
      nodeOrEmpty := ih.nodeOrEmpty_succ
      valueOrEmpty := ih.valueOrEmpty_succ
      blockItems := ih.blockItems_succ
      openItems := ih.openItems_succ
      blockEntries := ih.blockEntries_succ
      flowItems := ih.flowItems_succ
      flowEntries := ih.flowEntries_succ }

/-! ## Documents -/

theorem confines_prologue (bound : Nat) (p : Prologue) : Confines (prologue bound p) := by
  induction bound generalizing p with
  | zero => exact confines_refuseHere
  | succ bound ih =>
    refine .bind confines_ahead fun t => ?_
    split
    · refine .bind confines_skip fun _ => ?_
      split
      · exact ih _
      · exact confines_refuseHere
    · exact .bind (confines_require _) fun _ => .pure _

theorem confines_epilogue (bound : Nat) : Confines (epilogue bound) := by
  induction bound with
  | zero => exact confines_refuseHere
  | succ bound ih =>
    refine .bind confines_ahead fun t => ?_
    split
    · exact .pure _
    · exact .bind confines_skip fun _ => ih
    · exact .bind (confines_prologue _ _) fun _ => confines_refuseHere

theorem confines_document (bound : Nat) : Confines (document bound) := by
  have hnode : ∀ handles levels place, Confines (node handles bound levels place) := fun handles =>
    (confinesNodes handles bound).node
  have hbehind : ∀ n : Nat, Confines (epilogue bound >>= fun _ => Pure.pure (some n)) := fun n =>
    .bind (confines_epilogue _) fun _ => .pure _
  unfold document
  refine .bind confines_ahead fun t => ?_
  split
  · exact .pure _
  -- the document begins with its start, or with directives in front of that
  iterate 2
    · refine .bind (confines_prologue _ _) fun p => .bind confines_ahead fun t => ?_
      exact .ite (.bind confines_emptyNode hbehind) (.bind (hnode _ _ _) hbehind)
  · exact .bind (hnode _ _ _) hbehind

/-- **The nodes of a text.** -/
theorem confined_read (t : Text) : Confined (read t) :=
  .bind (confined_scan t) fun _ => .map (confines_document _ _) _

end Yaml

end GoCompletion
