import GoCompletion.Proofs.Signature.Shape
import GoCompletion.Proofs.Snippet.Shown

/-!
# The returns that a call tells

The func literals in the text of a call tell a text of every return that is no func literal itself
(`Parameter.toldInArgs`). If one choice of these texts is never longer than another one, the whole text is no
longer either, and **it is the same exactly if all of them are** (`Parameter.within_callTexts`): what is missing
at one place is not made up for at another one (`Text.Within.append`).

The returns that are told of a type that has been read are members of signatures nested in it, so their types
are no longer than their names (`length_typeText_le_of_told`).
-/

namespace GoCompletion

/-! ## Told returns -/

mutual

/-- The returns of which a func literal for the type tells a text: none of them is a single func return, for
which there is a func literal again. -/
def Signature.toldReturns : Signature → List Parameter
  | ⟨_, _, args, returns⟩ => Parameter.toldInArgs args ++ Parameter.toldInReturns returns

/-- The returns that the func literal for a parameter tells. -/
def Parameter.toldReturns : Parameter → List Parameter
  | ⟨_, _, _, .plain _⟩ => []
  | ⟨_, _, _, .signature s⟩ => s.toldReturns

/-- The returns that the func literals among some parameters tell. -/
def Parameter.toldInArgs : List Parameter → List Parameter
  | [] => []
  | p :: ps => (if p.isFunc then p.toldReturns else []) ++ Parameter.toldInArgs ps

/-- The returns that are told of some returns. -/
def Parameter.toldInReturns : List Parameter → List Parameter
  | [] => []
  | [r] => if r.isFunc then r.toldReturns else [r]
  | r₁ :: r₂ :: rs => r₁ :: r₂ :: rs

end

/-! ## Texts within others -/

/-- The first text is no longer than the second one, and is the same exactly under the condition. -/
structure Text.Within (s t : Text) (same : Prop) : Prop where
  /-- it is no longer -/
  length_le : s.length ≤ t.length
  /-- it is the same exactly under the condition -/
  eq_iff : s = t ↔ same

namespace Text.Within

variable {s t s' t' : Text} {P Q : Prop}

theorem refl (t : Text) : Within t t True := ⟨Nat.le_refl _, by simp⟩

/-- What is missing in one part is not made up for in the other one. -/
theorem append (h : Within s t P) (h' : Within s' t' Q) : Within (s ++ s') (t ++ t') (P ∧ Q) := by
  have hlength := h.length_le
  have hlength' := h'.length_le
  refine ⟨by simp only [List.length_append]; omega, ?_⟩
  rw [← h.eq_iff, ← h'.eq_iff]
  constructor
  · intro he
    have htotal := congrArg List.length he
    simp only [List.length_append] at htotal
    exact List.append_inj he (by omega)
  · rintro ⟨rfl, rfl⟩
    rfl

theorem congr (h : Within s t P) (hPQ : P ↔ Q) : Within s t Q := ⟨h.length_le, h.eq_iff.trans hPQ⟩

/-- The same text in front. -/
theorem behind (h : Within s t P) (u : Text) : Within (u ++ s) (u ++ t) P :=
  ((refl u).append h).congr (iff_of_eq (true_and P))

/-- The same text at the end. -/
theorem before (h : Within s t P) (u : Text) : Within (s ++ u) (t ++ u) P :=
  (h.append (refl u)).congr (iff_of_eq (and_true P))

end Text.Within

/-- Texts for the func types among some, and the same text for any other type. -/
theorem Text.Within.ite {s s' : Text} {P : Parameter → Prop} {b : Bool} {rs : List Parameter}
    (h : b = true → Within s s' (∀ r ∈ rs, P r)) (t : Text) :
    Within (if b then s else t) (if b then s' else t) (∀ r ∈ if b then rs else [], P r) := by
  cases b with
  | true => exact h rfl
  | false => exact (Within.refl t).congr (by simp)

section Told

variable {told told' : Parameter → Text} (position : Nat)

/-- Returns that all have their texts told. -/
theorem within_join {rs : List Parameter} (h : ∀ r ∈ rs, (told r).length ≤ (told' r).length) (lead : Text) :
    Text.Within (joinBehind lead (rs.map told)) (joinBehind lead (rs.map told'))
      (∀ r ∈ rs, told r = told' r) := by
  induction rs generalizing lead with
  | nil => exact (Text.Within.refl []).congr (by simp)
  | cons r rs ih =>
    rw [List.forall_mem_cons] at h
    have hr : Text.Within (told r) (told' r) (told r = told' r) := ⟨h.1, Iff.rfl⟩
    exact ((hr.behind lead).append (ih h.2 separator)).congr (by rw [List.forall_mem_cons])

mutual

/-- **Func literals with shorter texts of returns** are no longer, and are the same exactly if all these texts
are the same. -/
theorem Signature.within_literalText : (s : Signature) →
    (∀ r ∈ s.toldReturns, (told r).length ≤ (told' r).length) →
      Text.Within (s.literalText told position) (s.literalText told' position)
        (∀ r ∈ s.toldReturns, told r = told' r)
  | ⟨_, _, args, returns⟩, h => by
    rw [Signature.toldReturns, List.forall_mem_append] at h
    rw [Signature.literalText, Signature.literalText, Signature.toldReturns, ← joinBehind_eq_join,
      ← joinBehind_eq_join]
    have hargs := Parameter.within_literalTexts [] args h.1
    have hreturns := (Parameter.within_literalResult returns h.2).behind [')']
    exact ((hargs.append hreturns).behind funcToken).congr List.forall_mem_append.symm

theorem Parameter.within_literalText : (p : Parameter) →
    (∀ r ∈ p.toldReturns, (told r).length ≤ (told' r).length) →
      Text.Within (p.literalText told position) (p.literalText told' position)
        (∀ r ∈ p.toldReturns, told r = told' r)
  | ⟨_, _, _, .plain _⟩, _ => by
    rw [Parameter.literalText, Parameter.literalText, Parameter.toldReturns]
    exact (Text.Within.refl _).congr (by simp)
  | ⟨_, _, _, .signature s⟩, h => by
    rw [Parameter.toldReturns] at h
    rw [Parameter.literalText, Parameter.literalText, Parameter.toldReturns]
    exact s.within_literalText h

theorem Parameter.within_literalTexts (lead : Text) : (ps : List Parameter) →
    (∀ r ∈ Parameter.toldInArgs ps, (told r).length ≤ (told' r).length) →
      Text.Within (joinBehind lead (Parameter.literalTexts told position ps))
        (joinBehind lead (Parameter.literalTexts told' position ps))
        (∀ r ∈ Parameter.toldInArgs ps, told r = told' r)
  | [], _ => by
    rw [Parameter.literalTexts, Parameter.literalTexts, Parameter.toldInArgs]
    exact (Text.Within.refl _).congr (by simp)
  | p :: ps, h => by
    rw [Parameter.toldInArgs, List.forall_mem_append] at h
    rw [Parameter.literalTexts, Parameter.literalTexts, Parameter.toldInArgs, joinBehind_cons,
      joinBehind_cons]
    have htype := Text.Within.ite
      (fun hf => p.within_literalText (by rw [if_pos hf] at h; exact h.1)) p.typeText
    have hothers := Parameter.within_literalTexts separator ps h.2
    exact ((((htype.behind [' ']).behind _).behind lead).append hothers).congr List.forall_mem_append.symm

theorem Parameter.within_literalResult : (rs : List Parameter) →
    (∀ r ∈ Parameter.toldInReturns rs, (told r).length ≤ (told' r).length) →
      Text.Within (Parameter.literalResult told position rs) (Parameter.literalResult told' position rs)
        (∀ r ∈ Parameter.toldInReturns rs, told r = told' r)
  | [], _ => by
    rw [Parameter.literalResult, Parameter.literalResult, Parameter.toldInReturns]
    exact (Text.Within.refl _).congr (by simp)
  | [r], h => by
    rw [Parameter.toldInReturns] at h
    rw [Parameter.literalResult, Parameter.literalResult, Parameter.toldInReturns]
    cases hf : r.isFunc with
    | true =>
      rw [hf, if_pos rfl] at h
      exact (r.within_literalText h).behind [' ']
    | false =>
      have hr : Text.Within (told r) (told' r) (told r = told' r) := ⟨h r (by simp [hf]), Iff.rfl⟩
      exact (hr.behind [' ']).congr (by simp)
  | r₁ :: r₂ :: rs, h => by
    rw [Parameter.toldInReturns] at h
    rw [Parameter.literalResult, Parameter.literalResult, Parameter.toldInReturns, ← joinBehind_eq_join,
      ← joinBehind_eq_join]
    exact ((within_join h []).before [')']).behind [' ', '(']

end

/-- The same for the texts of a call. -/
theorem Parameter.within_callTexts {ps : List Parameter}
    (h : ∀ r ∈ Parameter.toldInArgs ps, (told r).length ≤ (told' r).length) (lead : Text) :
    Text.Within (joinBehind lead (Parameter.callTexts told position ps))
      (joinBehind lead (Parameter.callTexts told' position ps))
      (∀ r ∈ Parameter.toldInArgs ps, told r = told' r) := by
  induction ps generalizing position lead with
  | nil =>
    rw [callTexts, callTexts, toldInArgs]
    exact (Text.Within.refl _).congr (by simp)
  | cons p ps ih =>
    rw [toldInArgs, List.forall_mem_append] at h
    rw [callTexts, callTexts, toldInArgs, joinBehind_cons, joinBehind_cons]
    have htext := Text.Within.ite
      (fun hf => p.within_literalText position (by rw [if_pos hf] at h; exact h.1)) p.name
    exact ((htext.behind lead).append (ih (position + 1) h.2 separator)).congr List.forall_mem_append.symm

end Told

/-! ## Returns of what is read -/

/-- A return stands in a parameter: it is a member of a signature that is reached from the type. -/
def Parameter.Holds (p r : Parameter) : Prop :=
  ∃ s n u, p.type = .signature s ∧ s.Reaches n u ∧ r ∈ u.members

mutual

/-- The returns that are told are members of signatures that are nested in the type. -/
theorem Signature.exists_reaches_of_told : (s : Signature) → ∀ r ∈ s.toldReturns,
    ∃ n u, s.Reaches n u ∧ r ∈ u.members
  | ⟨isFunc, name, args, returns⟩, r, hr => by
    rw [Signature.toldReturns, List.mem_append] at hr
    have hdown : ∀ p ∈ args ++ returns, p.Holds r →
        ∃ n u, Signature.Reaches ⟨isFunc, name, args, returns⟩ n u ∧ r ∈ u.members := by
      rintro p hp ⟨s, n, u, htype, hreaches, hmember⟩
      exact ⟨n + 1, u, .down hp htype hreaches, hmember⟩
    rcases hr with hr | hr
    · obtain ⟨p, hp, hheld⟩ := Parameter.exists_holds_of_told args r hr
      exact hdown p (List.mem_append_left _ hp) hheld
    · rcases Parameter.mem_or_exists_holds_of_told returns r hr with hr | ⟨p, hp, hheld⟩
      · exact ⟨0, _, .here _, List.mem_append_right args hr⟩
      · exact hdown p (List.mem_append_right _ hp) hheld

theorem Parameter.holds_of_told : (p : Parameter) → ∀ r ∈ p.toldReturns, p.Holds r
  | ⟨_, _, _, .plain _⟩, r, hr => by
    rw [Parameter.toldReturns] at hr
    cases hr
  | ⟨_, _, _, .signature s⟩, r, hr => by
    rw [Parameter.toldReturns] at hr
    obtain ⟨n, u, hreaches, hmember⟩ := s.exists_reaches_of_told r hr
    exact ⟨s, n, u, rfl, hreaches, hmember⟩

theorem Parameter.exists_holds_of_told : (ps : List Parameter) → ∀ r ∈ Parameter.toldInArgs ps,
    ∃ p ∈ ps, p.Holds r
  | [], r, hr => by
    rw [Parameter.toldInArgs] at hr
    cases hr
  | p :: ps, r, hr => by
    rw [Parameter.toldInArgs, List.mem_append] at hr
    rcases hr with hr | hr
    · split at hr
      · exact ⟨p, List.mem_cons_self, p.holds_of_told r hr⟩
      · cases hr
    · obtain ⟨q, hq, hheld⟩ := Parameter.exists_holds_of_told ps r hr
      exact ⟨q, List.mem_cons_of_mem p hq, hheld⟩

theorem Parameter.mem_or_exists_holds_of_told : (rs : List Parameter) →
    ∀ r ∈ Parameter.toldInReturns rs, r ∈ rs ∨ ∃ p ∈ rs, p.Holds r
  | [], r, hr => by
    rw [Parameter.toldInReturns] at hr
    cases hr
  | [p], r, hr => by
    rw [Parameter.toldInReturns] at hr
    split at hr
    · exact .inr ⟨p, List.mem_cons_self, p.holds_of_told r hr⟩
    · exact .inl hr
  | r₁ :: r₂ :: rs, r, hr => by
    rw [Parameter.toldInReturns] at hr
    exact .inl hr

end

/-- The type of a member is no longer than its text. -/
theorem Parameter.WellFormed.length_typeText_le {p : Parameter} {text : Text} (h : p.WellFormed text) :
    p.typeText.length ≤ p.name.length := by
  rcases h.spelled with hname | ⟨-, hname⟩
  · rw [hname, List.length_append, List.length_cons]
    omega
  · rw [hname]

/-- The types of the returns that are told of a type that has been read are no longer than their names. -/
theorem length_typeText_le_of_told {text : Text} {r : Parameter}
    (h : r ∈ Parameter.toldInArgs (Signature.ofText text).args) : r.typeText.length ≤ r.name.length := by
  obtain ⟨p, hp, s, n, u, htype, hreaches, hmember⟩ := Parameter.exists_holds_of_told _ r h
  have hreached := Signature.Reaches.down (List.mem_append_left _ hp) htype hreaches
  obtain ⟨lower, read, rfl, -, -⟩ := hreached.exists_read
  exact ((Signature.wellFormed_ofTextWithin lower read).members r hmember).length_typeText_le

end GoCompletion
