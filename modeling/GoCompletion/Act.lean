import GoCompletion.Fault

/-!
# Acts

An act reads and changes a state and ends with an answer or with a fault. **What it did to the state
before a fault stays done**: a fault undoes nothing.

* `pure` and `bind` — an act without effect, and one act behind another; a fault ends both;
* `attempt` — an act whose fault is part of the answer;
* `within` — an act on a part of the state.
-/

namespace GoCompletion

/-- An act on states `σ` with answers `α`. -/
def Act (σ α : Type) : Type := σ → Except Fault α × σ

namespace Act

variable {σ τ α β : Type}

/-- The answer without doing anything. -/
protected def pure (a : α) : Act σ α := fun s => (.ok a, s)

/-- One act, and then the one that its answer asks for, unless there is a fault. -/
protected def bind (m : Act σ α) (f : α → Act σ β) : Act σ β := fun s =>
  match m s with
  | (.ok a, t) => f a t
  | (.error e, t) => (.error e, t)

instance : Monad (Act σ) where
  pure := Act.pure
  bind := Act.bind

/-- The state as it is. -/
def get : Act σ σ := fun s => (.ok s, s)

/-- Changes the state. -/
def modify (f : σ → σ) : Act σ Unit := fun s => (.ok (), f s)

/-- A fault. -/
def raise (e : Fault) : Act σ α := fun s => (.error e, s)

/-- The answer or the fault that is given. -/
def ofExcept (r : Except Fault α) : Act σ α := fun s => (r, s)

/-- An act whose fault is part of the answer. -/
def attempt (m : Act σ α) : Act σ (Except Fault α) := fun s => (.ok (m s).1, (m s).2)

/-- An act on a part of the state, which `part` finds and `put` puts back. -/
def within (part : σ → τ) (put : σ → τ → σ) (m : Act τ α) : Act σ α := fun s =>
  ((m (part s)).1, put s (m (part s)).2)

/-! ## What acts do -/

@[simp] theorem pure_apply (a : α) (s : σ) : (pure a : Act σ α) s = (.ok a, s) := rfl

@[simp] theorem get_apply (s : σ) : (get : Act σ σ) s = (.ok s, s) := rfl

@[simp] theorem modify_apply (f : σ → σ) (s : σ) : modify f s = (.ok (), f s) := rfl

@[simp] theorem raise_apply (e : Fault) (s : σ) : (raise e : Act σ α) s = (.error e, s) := rfl

@[simp] theorem ofExcept_apply (r : Except Fault α) (s : σ) :
    (ofExcept r : Act σ α) s = (r, s) := rfl

@[simp] theorem attempt_apply (m : Act σ α) (s : σ) : attempt m s = (.ok (m s).1, (m s).2) := rfl

@[simp] theorem within_apply (part : σ → τ) (put : σ → τ → σ) (m : Act τ α) (s : σ) :
    within part put m s = ((m (part s)).1, put s (m (part s)).2) := rfl

theorem bind_apply (m : Act σ α) (f : α → Act σ β) (s : σ) :
    (m >>= f) s =
      match m s with
      | (.ok a, t) => f a t
      | (.error e, t) => (.error e, t) := rfl

/-- Behind an answer the next act goes on. -/
theorem bind_apply_ok {m : Act σ α} {s t : σ} {a : α} (h : m s = (.ok a, t)) (f : α → Act σ β) :
    (m >>= f) s = f a t := by
  rw [bind_apply, h]

/-- Behind a fault nothing more is done. -/
theorem bind_apply_error {m : Act σ α} {s t : σ} {e : Fault} (h : m s = (.error e, t))
    (f : α → Act σ β) : (m >>= f) s = (.error e, t) := by
  rw [bind_apply, h]

/-- An act that answers behind another one: the other one answered. -/
theorem bind_apply_eq_ok {m : Act σ α} {f : α → Act σ β} {s u : σ} {b : β} :
    (m >>= f) s = (.ok b, u) ↔ ∃ a t, m s = (.ok a, t) ∧ f a t = (.ok b, u) := by
  rw [bind_apply]
  rcases m s with ⟨_ | a, t⟩
  · simp
  · constructor
    · exact fun h => ⟨a, t, rfl, h⟩
    · rintro ⟨_, _, ha, h⟩
      cases ha
      exact h

theorem id_map_act (m : Act σ α) : (id <$> m) = m := by
  funext s
  change (m >>= fun a => pure a) s = m s
  rw [bind_apply]
  rcases m s with ⟨_ | _, _⟩ <;> rfl

theorem bind_assoc_act {γ : Type} (m : Act σ α) (f : α → Act σ β) (g : β → Act σ γ) :
    m >>= f >>= g = m >>= fun a => f a >>= g := by
  funext s
  simp only [bind_apply]
  rcases m s with ⟨_ | _, _⟩ <;> rfl

instance : LawfulMonad (Act σ) :=
  LawfulMonad.mk' (Act σ) id_map_act (fun _ _ => rfl) bind_assoc_act

end Act

end GoCompletion
