import GoCompletion.Proofs.Yaml.Node
import GoCompletion.Yaml.Value

/-!
# What making values comes to

Values are made of nodes with slips only, so **a YAML text has a document, is refused, or comes to a slip**
(`Yaml.confined_documentOf`): there is no other fault that reading one could end with.
-/

namespace GoCompletion

namespace Yaml

namespace Confines

variable {σ α β : Type}

theorem lift {r : Result α} (h : Confined r) : Confines (liftM r : StateT σ (Except Halt) α) := fun _ =>
  .bind h fun _ => .ok _

theorem mapM {f : α → StateT σ (Except Halt) β} (hf : ∀ a, Confines (f a)) (as : List α) :
    Confines (as.mapM f) := by
  induction as with
  | nil => exact .pure _
  | cons a as ih =>
    rw [List.mapM_cons]
    exact .bind (hf a) fun _ => .bind ih fun _ => .pure _

theorem foldlM {f : β → α → StateT σ (Except Halt) β} (hf : ∀ b a, Confines (f b a)) (as : List α) (b : β) :
    Confines (as.foldlM f b) := by
  induction as generalizing b with
  | nil => exact .pure _
  | cons a as ih => exact .bind (hf b a) ih

end Confines

/-! ## Nodes -/

namespace Graph

/-- **Entries that are taken over.** -/
theorem confined_flatten (bound : Nat) (g : Graph) (n : Nat) : Confined (flatten bound g n) := by
  induction bound generalizing g n with
  | zero => exact confined_refuse
  | succ bound ih =>
    have htakenAll : ∀ g ns, Confined (takenAll (flatten bound) g ns) := fun g ns =>
      .foldlM (fun s n => .ite (.map (ih _ _) _) confined_refuse) _ _
    have htaken : ∀ g value, Confined (taken (flatten bound) g value) := by
      intro g value
      unfold taken
      split
      · exact htakenAll _ _
      · exact htakenAll _ _
      · exact confined_refuse
    refine .map (.foldlM (fun s e => ?_) _ _) _
    refine .ite (.ok _) ?_
    split
    · exact .map (htaken _ _) _
    · exact .ok _
    · exact .ok _

theorem confined_textOf (g : Graph) (bound n : Nat) : Confined (g.textOf bound n) := by
  induction bound generalizing n with
  | zero => exact confined_fault .depth
  | succ bound ih =>
    unfold textOf
    split
    · exact .ok _
    · exact confined_refuse
    · split
      · exact ih _
      · exact confined_refuse

/-- **A value without parts.** -/
theorem confined_leafOf (g : Graph) (n : Nat) : Confined (g.leafOf n) :=
  .ite
    (.bind (confined_textOf g _ n) fun _ =>
      .ite (confined_fault .entries) (.map (Kind.confined_value _ _) _))
    confined_refuse

end Graph

/-! ## Values -/

theorem confines_valueOf (n : Nat) : Confines (valueOf n) := by
  intro m
  unfold valueOf
  split
  · exact .ok _
  · exact .ite (.ok _) (.map (m.graph.confined_leafOf n) _)

theorem confines_entryOf (e : Nat × Nat) : Confines (entryOf e) :=
  .bind (confines_valueOf _) fun _ => .bind (confines_valueOf _) fun _ => .pure _

theorem confines_putEntryOf (entries : List (Value × Value)) (e : Nat × Nat) :
    Confines (putEntryOf entries e) := by
  refine .bind (confines_valueOf _) fun k => ?_
  split
  · exact fun _ => confined_refuse
  · exact .bind (confines_valueOf _) fun _ => .pure _

theorem confines_entriesOf (n : Nat) : Confines (entriesOf n) := by
  refine .bind (fun _ => .ok _) fun m => .ite ?_ fun _ => confined_refuse
  refine .bind (.lift (m.graph.confined_flatten _ _)) fun g => .bind (fun _ => .ok _) fun _ => ?_
  exact .foldlM confines_putEntryOf _ _

theorem confines_itemsOf (n : Nat) : Confines (itemsOf n) := by
  refine .bind (fun _ => .ok _) fun m => ?_
  split
  · exact .pure _
  · exact fun _ => confined_refuse

theorem confines_pairOf (n : Nat) : Confines (pairOf n) := by
  refine .bind (fun _ => .ok _) fun m => ?_
  split
  · exact confines_entryOf _
  · exact fun _ => confined_refuse

/-- **The parts of a collection.** -/
theorem confines_contentOf (n : Nat) : Confines (contentOf n) := by
  refine .bind (fun _ => .ok _) fun m => ?_
  split
  · exact .bind (confines_itemsOf n) fun _ => .bind (.mapM confines_valueOf _) fun _ => .pure _
  · exact .bind (confines_entriesOf n) fun _ => .pure _
  · exact .bind (confines_entriesOf n) fun _ => .pure _
  · exact .bind (confines_itemsOf n) fun _ => .bind (.mapM confines_pairOf _) fun _ => .pure _
  · exact fun _ => confined_refuse

theorem confines_fillFrom (bound next : Nat) : Confines (fillFrom bound next) := by
  induction bound generalizing next with
  | zero => exact .pure _
  | succ bound ih =>
    refine .bind (fun _ => .ok _) fun m => ?_
    split
    · exact .pure _
    · exact .bind (confines_contentOf _) fun _ => .bind (fun _ => .ok _) fun _ => ih _

/-! ## Documents -/

/-- **The document of a text**, if it comes to a fault, comes to a slip. -/
theorem confined_documentOf (t : Text) : Confined (documentOf t) := by
  have hnodes : ∀ g n, Confined (Document.ofNodes g n) := fun g n =>
    .map ((Confines.bind (confines_valueOf n) fun _ =>
      .bind (confines_fillFrom _ _) fun _ => .pure _) _) _
  refine .bind (confined_read t) fun r => ?_
  split
  · exact .ok _
  · exact .map (hnodes _ _) _

/-- What spells no value in a text has slipped. -/
theorem slip_of_documentOf {t : Text} {e : Fault} (h : documentOf t = .error (.fault e)) : Slip e :=
  confined_documentOf t _ h

end Yaml

end GoCompletion
