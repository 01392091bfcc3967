import GoCompletion.Proofs.Signature.Shape
import Mathlib.Data.List.Infix

/-!
# Lists without func types

A parameter list without a func type in it is cut at every separator, however the brackets in it stand
(`segmentsOf_of_funcless`), and none of its parameters counts as a func (`Parameter.isFunc_of_funcless`).

The search for the paren behind such a list only counts. So it is enough that the parens in the list are
**balanced**: as many are closed as opened, and nowhere more up to some place (`FuncText.ofText_balanced`).
-/

namespace GoCompletion

/-! ## Balanced parens -/

/-- The parens of a text are balanced. Brackets of other kinds may stand in any way. -/
structure Text.Balanced (t : Text) : Prop where
  /-- as many parens are closed as opened -/
  count_eq : t.count '(' = t.count ')'
  /-- up to no place more parens are closed than opened -/
  count_le : ∀ u, u <+: t → u.count ')' ≤ u.count '('

instance (t : Text) : Decidable t.Balanced :=
  decidable_of_iff (t.count '(' = t.count ')' ∧ ∀ u ∈ t.inits, u.count ')' ≤ u.count '(')
    ⟨fun h => ⟨h.1, fun u hu => h.2 u ((List.mem_inits u t).mpr hu)⟩,
      fun h => ⟨h.count_eq, fun u hu => h.count_le u ((List.mem_inits u t).mp hu)⟩⟩

/-- Where some paren is open up to each place of a text, the search for the closing one passes over it and
counts the parens in it. -/
theorem closingFrom_append_of_open {t : Text} {count : Int}
    (h : ∀ u, u <+: t → (u.count ')' : Int) < count + u.count '(') (rest : Text) :
    closingFrom count (t ++ rest) =
      (closingFrom (count + t.count '(' - t.count ')') rest).map (· + t.length) := by
  induction t generalizing count with
  | nil => simp
  | cons c t ih =>
    have hcons : ∀ u, u <+: t → ((c :: u).count ')' : Int) < count + (c :: u).count '(' :=
      fun u hu => h (c :: u) (List.cons_prefix_cons.mpr ⟨rfl, hu⟩)
    -- with `k` parens open behind `c`, the rest of the text is passed over
    have hnext : ∀ k : Int, (k + t.count '(' - t.count ')' =
          count + (c :: t).count '(' - (c :: t).count ')') →
        (∀ u, u <+: t → (u.count ')' : Int) < k + u.count '(') →
        (closingFrom k (t ++ rest)).map (· + 1) =
          (closingFrom (count + (c :: t).count '(' - (c :: t).count ')') rest).map
            (· + (c :: t).length) := by
      intro k hk hopen
      rw [ih hopen, hk, Option.map_map]
      rfl
    rw [List.cons_append, closingFrom]
    split
    · next ho =>
      subst ho
      refine hnext _ (by simp; omega) fun u hu => ?_
      have := hcons u hu
      simp at this
      omega
    · next ho =>
      split
      · next hc =>
        subst hc
        have hone := h [')'] ⟨t, rfl⟩
        simp at hone
        rw [if_neg (by omega)]
        refine hnext _ (by simp; omega) fun u hu => ?_
        have := hcons u hu
        simp at this
        omega
      · next hc =>
        refine hnext _ (by simp [ho, hc]) fun u hu => ?_
        simpa [ho, hc] using hcons u hu

/-- **A func type is cut at the paren behind its parameter list**, if the parens in that are balanced. -/
theorem FuncText.ofText_balanced {args : Text} (h : args.Balanced) (rest : Text) :
    FuncText.ofText (funcToken ++ (args ++ ')' :: rest)) =
      some { args, returns := FuncText.returnsOf rest } := by
  have hopen : ∀ u, u <+: args → (u.count ')' : Int) < 1 + u.count '(' := by
    intro u hu
    have := h.count_le u hu
    omega
  have hcount : (1 : Int) + args.count '(' - args.count ')' = 1 := by
    have := h.count_eq
    omega
  refine ofText_of_closingFrom ?_
  rw [closingFrom_append_of_open hopen, hcount, closingFrom, if_neg (by decide), if_pos rfl,
    if_pos (by decide), Option.map_some, Nat.zero_add]

/-- **What the search for the closing paren finds**: up to there some paren is open at every place, and one is
left to be closed. -/
theorem exists_of_closingFrom {t : Text} {count : Int} {i : Nat} (hcount : 0 < count)
    (h : closingFrom count t = some i) :
    ∃ inner rest, t = inner ++ ')' :: rest ∧ inner.length = i ∧ count + inner.count '(' = 1 + inner.count ')' ∧
      ∀ u, u <+: inner → (u.count ')' : Int) < count + u.count '(' := by
  induction t generalizing count i with
  | nil => cases h
  | cons c t ih =>
    -- behind `c` there are `k` parens open, and the search goes on
    have hnext : ∀ k : Int, 0 < k → k = count + [c].count '(' - [c].count ')' →
        (closingFrom k t).map (· + 1) = some i →
        ∃ inner rest, c :: t = inner ++ ')' :: rest ∧ inner.length = i ∧
          count + inner.count '(' = 1 + inner.count ')' ∧
          ∀ u, u <+: inner → (u.count ')' : Int) < count + u.count '(' := by
      intro k hk hkc hmap
      obtain ⟨j, hj, rfl⟩ := Option.map_eq_some_iff.mp hmap
      obtain ⟨inner, rest, rfl, rfl, hleft, hopen⟩ := ih hk hj
      have hcons : ∀ (d : Char) (u : Text), (c :: u).count d = [c].count d + u.count d := fun d u => by
        rw [← List.singleton_append, List.count_append]
      refine ⟨c :: inner, rest, rfl, rfl, ?_, fun u hu => ?_⟩
      · rw [hcons '(' inner, hcons ')' inner]
        omega
      · cases u with
        | nil => simpa using hcount
        | cons d u =>
          obtain ⟨rfl, htail⟩ := List.cons_prefix_cons.mp hu
          have := hopen u htail
          rw [hcons '(' u, hcons ')' u]
          omega
    rw [closingFrom] at h
    split at h
    · next ho =>
      subst ho
      exact hnext _ (by omega) (by simp) h
    · next ho =>
      split at h
      · next hc =>
        subst hc
        split at h
        · next hone =>
          cases h
          refine ⟨[], t, rfl, rfl, by simp; omega, fun u hu => ?_⟩
          rw [List.prefix_nil.mp hu]
          simpa using hcount
        · exact hnext _ (by omega) (by simp) h
      · next hc => exact hnext _ hcount (by simp [ho, hc]) h

/-- The text begins like a func type, and the paren there is closed. -/
def Text.ClosesFunc (t : Text) : Prop :=
  ∃ args rest, Text.Balanced args ∧ t = funcToken ++ (args ++ ')' :: rest)

/-- **Func types are the texts that begin like one and close the paren there.** -/
theorem FuncText.isSome_ofText {t : Text} : (FuncText.ofText t).isSome = true ↔ t.ClosesFunc := by
  constructor
  · intro h
    obtain ⟨f, hf⟩ := Option.isSome_iff_exists.mp h
    unfold ofText at hf
    split at hf
    · next hstart =>
      obtain ⟨r, rfl⟩ := Text.startsWith_iff_prefix.mp hstart
      obtain ⟨close, hclose, -⟩ := Option.map_eq_some_iff.mp hf
      have hdrop : (funcToken ++ r).drop 4 = '(' :: r := rfl
      rw [closing, hdrop, closingFrom, if_pos rfl, Option.map_map] at hclose
      obtain ⟨i, hi, -⟩ := Option.map_eq_some_iff.mp hclose
      obtain ⟨args, rest, rfl, -, hleft, hopen⟩ := exists_of_closingFrom (by decide) hi
      refine ⟨args, rest, ⟨by omega, fun u hu => ?_⟩, rfl⟩
      have := hopen u hu
      omega
    · cases hf
  · rintro ⟨args, rest, hargs, rfl⟩
    rw [ofText_balanced hargs]
    rfl

/-- A text that is cut as a func type is read as one, and so are its lists with one level less. -/
theorem Signature.ofText_of_funcText {t : Text} {f : FuncText} (h : FuncText.ofText t = some f) :
    Signature.ofText t =
      { isFunc := true
        name := t
        args := (segmentsOf f.args).map (Parameter.ofSegment (ofTextWithin nestingLimit))
        returns := (segmentsOf (f.returns.getD [])).map
          (Parameter.ofSegment (ofTextWithin nestingLimit)) } := by
  rw [Signature.ofText, ofTextWithin, h]

theorem Signature.isFunc_ofText {t : Text} : (Signature.ofText t).isFunc = true ↔ t.ClosesFunc := by
  rw [← FuncText.isSome_ofText]
  cases hf : FuncText.ofText t with
  | some f => simp [ofText_of_funcText hf]
  | none =>
    have hplain : ofText t = plain t := by rw [ofText, ofTextWithin, hf]
    rw [hplain, plain]
    split <;> simp

/-! ## Segments -/

/-- The pieces of a text without a func type are segments. -/
theorem segments_pieces_of_funcless {t : Text} (h : ¬ funcToken <:+: t) :
    segments (Text.pieces separator t) = Text.pieces separator t := by
  have hrepair : ∀ (p : Text) (ps : List Text), ¬ funcToken <:+: p → repair (p :: ps) = p :: ps :=
    fun p ps hp => if_neg (mt Text.contains_iff_infix.mp hp)
  fun_induction Text.pieces separator t with
  | case1 t hs => exact absurd hs separator_ne_nil
  | case2 t => rw [segments_eq_cons (hrepair t [] h), segments_nil]
  | case3 t hs a b hcut _ ih =>
    have ht := Text.cut_eq_some hcut
    have ha : ¬ funcToken <:+: a := fun hi => h (hi.trans ⟨[], separator ++ b, by simpa using ht⟩)
    have hb : ¬ funcToken <:+: b := fun hi => h (hi.trans ⟨a ++ separator, [], by simpa using ht⟩)
    rw [segments_eq_cons (hrepair a _ ha), ih hb]

/-- **A list without a func type** is cut at every separator. -/
theorem segmentsOf_of_funcless {t : Text} (hb : Text.isBlank t = false) (h : ¬ funcToken <:+: t) :
    segmentsOf t = Text.pieces separator t := by
  rw [segmentsOf, if_neg (by simp [hb]), segments_pieces_of_funcless h]

/-- What a segment without a func type is read as does not count as a func. -/
theorem Parameter.isFunc_of_funcless (read : Text → Signature) {segment : Text}
    (h : ¬ funcToken <:+: segment) : (Parameter.ofSegment read segment).isFunc = false := by
  have htype : (identified segment).2 <:+: segment := by
    rcases (identified_spec segment).1 with hspelled | ⟨-, hspelled⟩
    · exact ⟨(identified segment).1 ++ [' '], [], by simpa using hspelled.symm⟩
    · exact ⟨[], [], by simpa using hspelled.symm⟩
  rw [ofSegment_eq, if_neg]
  rintro ⟨hstart, -⟩
  exact h ((Text.startsWith_iff_prefix.mp hstart).isInfix.trans htype)

/-- **The parameters of a list without a func type** have its segments as their names, and do not count as
funcs. -/
theorem parameters_of_funcless (read : Text → Signature) {t : Text} (h : ¬ funcToken <:+: t) :
    ∀ p ∈ (segmentsOf t).map (Parameter.ofSegment read), p.isFunc = false := by
  intro p hp
  obtain ⟨segment, hsegment, rfl⟩ := List.mem_map.mp hp
  exact Parameter.isFunc_of_funcless read fun hi => h (hi.trans (infix_of_mem_segmentsOf hsegment))

end GoCompletion
