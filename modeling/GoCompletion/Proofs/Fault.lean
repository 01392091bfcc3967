import GoCompletion.Fault

/-!
# What results fail with

A result is followed through what is made of it by the reasons for which it can fail (`FailsOnly`): **what is
made of results fails for their reasons only**, one behind another, in a list, or in a choice between two.
-/

namespace GoCompletion

/-- The result fails, if it does, for a reason of which `p` holds. -/
def FailsOnly {ε α : Type} (p : ε → Prop) (r : Except ε α) : Prop := ∀ e, r = .error e → p e

namespace FailsOnly

variable {ε α β : Type} {p : ε → Prop}

theorem ok (a : α) : FailsOnly p (.ok a) := nofun

theorem error {e : ε} (h : p e) : FailsOnly p (.error e : Except ε α) := by
  rintro _ ⟨⟩
  exact h

theorem ite {c : Prop} {_ : Decidable c} {r r' : Except ε α} (h : FailsOnly p r) (h' : FailsOnly p r') :
    FailsOnly p (if c then r else r') := by
  split
  · exact h
  · exact h'

/-- One result behind another fails as both do. -/
theorem bind {r : Except ε α} {f : α → Except ε β} (hr : FailsOnly p r) (hf : ∀ a, FailsOnly p (f a)) :
    FailsOnly p (r.bind f) := by
  cases r with
  | ok a => exact hf a
  | error e => exact error (hr e rfl)

theorem map {r : Except ε α} (h : FailsOnly p r) (f : α → β) : FailsOnly p (r.map f) := by
  cases r with
  | ok a => exact ok _
  | error e => exact error (h e rfl)

theorem mapM {f : α → Except ε β} (hf : ∀ a, FailsOnly p (f a)) (as : List α) :
    FailsOnly p (as.mapM f) := by
  induction as with
  | nil => exact ok _
  | cons a as ih =>
    rw [List.mapM_cons]
    exact bind (hf a) fun _ => bind ih fun _ => ok _

theorem foldlM {f : β → α → Except ε β} (hf : ∀ b a, FailsOnly p (f b a)) (as : List α) (b : β) :
    FailsOnly p (as.foldlM f b) := by
  induction as generalizing b with
  | nil => exact ok _
  | cons a as ih => exact bind (hf b a) ih

/-- So does a fold over results. -/
theorem foldl {f : Except ε β → α → Except ε β} (hf : ∀ r a, FailsOnly p r → FailsOnly p (f r a))
    (as : List α) {r : Except ε β} (hr : FailsOnly p r) : FailsOnly p (as.foldl f r) := by
  induction as generalizing r with
  | nil => exact hr
  | cons a as ih => exact ih (hf r a hr)

end FailsOnly

end GoCompletion
