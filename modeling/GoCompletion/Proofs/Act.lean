import GoCompletion.Act

/-!
# What acts leave alone, and which of them answer

An act **keeps** a view of the state if the view is the same behind it as in front of it, whether the act
answers or breaks off with a fault. An act **answers** if it never breaks off. It **ignores** a change of the
state if it ends in the same way with the change as without it, and the change is still there behind it. All
of that is read off the text of an act: acts made of acts that keep a view keep it themselves (`Keeps.bind`,
`Keeps.attempt`), acts made of acts that answer do so too (`Answers.bind`), and acts made of acts that ignore
a change ignore it (`Ignores.bind`, `Ignores.get_bind`).
-/

namespace GoCompletion

instance instDecidableEqExcept {ε α : Type} [DecidableEq ε] [DecidableEq α] : DecidableEq (Except ε α)
  | .ok a, .ok b => decidable_of_iff (a = b) ⟨congrArg _, Except.ok.inj⟩
  | .error a, .error b => decidable_of_iff (a = b) ⟨congrArg _, Except.error.inj⟩
  | .ok _, .error _ => isFalse (by simp)
  | .error _, .ok _ => isFalse (by simp)

namespace Act

variable {σ τ α β γ δ : Type}

/-- What is made of an answer, or put in its place, does not matter to the state. -/
theorem snd_bind_ofExcept (m : Act σ α) (r : α → Except Fault β) (s : σ) :
    ((m >>= fun a => ofExcept (r a)) s).2 = (m s).2 := by
  rw [bind_apply]
  rcases m s with ⟨_ | _, _⟩ <;> rfl

/-- The act leaves a view of the state as it is. -/
def Keeps (m : Act σ α) (view : σ → γ) : Prop := ∀ s, view (m s).2 = view s

namespace Keeps

variable {m : Act σ α} {view : σ → γ}

theorem pure (a : α) : (Pure.pure a : Act σ α).Keeps view := fun _ => rfl

theorem get : (Act.get : Act σ σ).Keeps view := fun _ => rfl

theorem raise (e : Fault) : (Act.raise e : Act σ α).Keeps view := fun _ => rfl

theorem ofExcept (r : Except Fault α) : (Act.ofExcept r : Act σ α).Keeps view := fun _ => rfl

theorem modify {f : σ → σ} (h : ∀ s, view (f s) = view s) : (Act.modify f).Keeps view := h

/-- The view behind an act that keeps it. -/
theorem of_eq (h : m.Keeps view) {s t : σ} {r : Except Fault α} (hm : m s = (r, t)) : view t = view s := by
  have hs := h s
  rwa [hm] at hs

/-- One act behind another keeps what both keep. -/
theorem bind {f : α → Act σ β} (hm : m.Keeps view) (hf : ∀ a, (f a).Keeps view) :
    (m >>= f).Keeps view := by
  intro s
  rw [bind_apply]
  rcases hr : m s with ⟨e | a, t⟩
  · exact hm.of_eq hr
  · exact (hf a t).trans (hm.of_eq hr)

/-- Behind an act, others that keep a view do not change it any more. -/
theorem view_bind {f : α → Act σ β} (hf : ∀ a, (f a).Keeps view) (s : σ) :
    view ((m >>= f) s).2 = view (m s).2 := by
  rw [bind_apply]
  rcases m s with ⟨e | a, t⟩
  · rfl
  · exact hf a t

theorem attempt (h : m.Keeps view) : m.attempt.Keeps view := h

/-- An act whose answer is left out keeps what it keeps with it. -/
theorem forget (h : m.Keeps view) : (m >>= fun _ => Pure.pure ()).Keeps view :=
  h.bind fun _ => pure ()

/-- What is made of a view that is kept is kept. -/
theorem of_view (h : m.Keeps view) (f : γ → δ) : m.Keeps fun s => f (view s) :=
  fun s => congrArg f (h s)

/-- An act on a part keeps what does not depend on that part. -/
theorem within {a : Act τ α} {part : σ → τ} {put : σ → τ → σ} (h : ∀ s t, view (put s t) = view s) :
    (Act.within part put a).Keeps view := fun s => h s _

end Keeps

/-- The act answers in every state. -/
def Answers (m : Act σ α) : Prop := ∀ s, ∃ a, (m s).1 = .ok a

namespace Answers

variable {m : Act σ α}

theorem pure (a : α) : (Pure.pure a : Act σ α).Answers := fun _ => ⟨a, rfl⟩

theorem get : (Act.get : Act σ σ).Answers := fun s => ⟨s, rfl⟩

theorem modify (f : σ → σ) : (Act.modify f).Answers := fun _ => ⟨(), rfl⟩

/-- One act behind another answers if both do. -/
theorem bind {f : α → Act σ β} (hm : m.Answers) (hf : ∀ a, (f a).Answers) : (m >>= f).Answers := by
  intro s
  obtain ⟨a, ha⟩ := hm s
  rcases hr : m s with ⟨_ | b, t⟩
  · rw [hr] at ha
    cases ha
  · rw [bind_apply_ok hr]
    exact hf b t

theorem attempt (m : Act σ α) : m.attempt.Answers := fun s => ⟨(m s).1, rfl⟩

theorem within {a : Act τ α} {part : σ → τ} {put : σ → τ → σ} (h : a.Answers) :
    (Act.within part put a).Answers := fun s => h (part s)

/-- Behind an act that answers the next one goes on. -/
theorem then_apply (h : m.Answers) (k : Act σ β) (s : σ) : (m >>= fun _ => k) s = k (m s).2 := by
  obtain ⟨a, ha⟩ := h s
  exact bind_apply_ok (Prod.ext ha rfl) _

end Answers

/-- The act does not see a change of the state: with the change it ends as it does without, and the change is
there behind it. -/
def Ignores (m : Act σ α) (change : σ → σ) : Prop := ∀ s, m (change s) = ((m s).1, change (m s).2)

namespace Ignores

variable {m : Act σ α} {change : σ → σ}

theorem pure (a : α) : (Pure.pure a : Act σ α).Ignores change := fun _ => rfl

theorem ofExcept (r : Except Fault α) : (Act.ofExcept r : Act σ α).Ignores change := fun _ => rfl

/-- Another change is ignored if the order of the two does not matter. -/
theorem modify {f : σ → σ} (h : ∀ s, f (change s) = change (f s)) : (Act.modify f).Ignores change :=
  fun s => congrArg (Except.ok (), ·) (h s)

/-- One act behind another ignores what both ignore. -/
theorem bind {f : α → Act σ β} (hm : m.Ignores change) (hf : ∀ a, (f a).Ignores change) :
    (m >>= f).Ignores change := by
  intro s
  rw [bind_apply, bind_apply, hm s]
  rcases m s with ⟨e | a, t⟩
  · rfl
  · exact hf a t

/-- An act that looks at the state ignores a change of what it does not look at. -/
theorem get_bind {f : σ → Act σ α} (hlook : ∀ s, f (change s) = f s) (hf : ∀ s, (f s).Ignores change) :
    (Act.get >>= f).Ignores change := by
  intro s
  calc f (change s) (change s)
    _ = f s (change s) := congrFun (hlook s) _
    _ = ((f s s).1, change (f s s).2) := hf s s

theorem attempt (h : m.Ignores change) : m.attempt.Ignores change := by
  intro s
  rw [attempt_apply, attempt_apply, h s]

/-- An act on a part ignores a change of the rest. -/
theorem within {a : Act τ α} {part : σ → τ} {put : σ → τ → σ} (hpart : ∀ s, part (change s) = part s)
    (hput : ∀ s t, put (change s) t = change (put s t)) : (Act.within part put a).Ignores change := by
  intro s
  rw [within_apply, within_apply, hpart, hput]

/-- A change that is there already stays behind an act that ignores it. -/
theorem change_eq (h : m.Ignores change) {s : σ} (hs : change s = s) : change (m s).2 = (m s).2 := by
  have hm := congrArg Prod.snd (h s)
  rw [hs] at hm
  exact hm.symm

end Ignores

end Act

end GoCompletion
