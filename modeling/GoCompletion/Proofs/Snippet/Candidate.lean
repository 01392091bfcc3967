import GoCompletion.Proofs.Signature.Plain
import GoCompletion.Proofs.Snippet.Shown

/-!
# A candidate, shown with its label

What is shown for a call and the label of its returns are made independently of each other, of the same
signature. Where no func types are nested in it, **the two give its text back** (`shown_call_ofText`): the name
with the parameter list behind it as it is spelled, and the returns as they are spelled.

Blanks and brackets in the lists do not matter, but for the parens of the parameter list, which have to be
balanced. `IsLabel` tells what the returns may be.
-/

namespace GoCompletion

/-! ## Labels -/

/-- The spelling of returns: nothing, a single type that does not begin with a paren, or more than one in
parens. None of them has a func type in it. -/
inductive IsLabel : Text → Prop
  /-- no returns -/
  | empty : IsLabel []
  /-- a single return -/
  | single {t : Text} (hblank : Text.isBlank t = false) (hsep : Text.contains t separator = false)
      (hfunc : Text.contains t funcToken = false) (hparen : Text.startsWith t ['('] = false) : IsLabel t
  /-- returns with separators between them -/
  | tuple {t : Text} (hsep : Text.contains t separator = true)
      (hfunc : Text.contains t funcToken = false) : IsLabel ('(' :: (t ++ [')']))

/-- What stands behind the parameter list of a func type with the given returns. -/
def behindList (returns : Text) : Text := if returns = [] then [] else ' ' :: returns

/-- The label of returns with the given names. -/
def labelOf : List Text → Text
  | [] => []
  | [t] => t
  | t :: u :: ts => ['('] ++ Text.join separator (t :: u :: ts) ++ [')']

theorem Signature.returnLabel_eq (s : Signature) : s.returnLabel = labelOf (s.returns.map (·.name)) := by
  unfold returnLabel
  cases s.returns with
  | nil => rfl
  | cons r rs => cases rs <;> rfl

/-- **Returns that are read** have the label that they are spelled by. -/
theorem IsLabel.labelOf_segmentsOf {t : Text} (h : IsLabel t) :
    labelOf (segmentsOf ((FuncText.returnsOf (behindList t)).getD [])) = t := by
  cases h with
  | empty => rfl
  | single hblank hsep hfunc hparen =>
    have hcut := (Text.cut_eq_none_iff separator_ne_nil).mpr (Text.not_infix_of_contains hsep)
    have hsegments := segmentsOf_of_funcless hblank (Text.not_infix_of_contains hfunc)
    rw [Text.pieces_of_cut_eq_none hcut] at hsegments
    have hne : t ≠ [] := by
      rintro rfl
      cases hblank
    rw [behindList, if_neg hne, FuncText.returnsOf_single hparen, hsegments, labelOf]
  | @tuple u hsep hfunc =>
    have hinfix := Text.contains_iff_infix.mp hsep
    have hblank : Text.isBlank u = false := by
      have hcomma : ',' ∈ u := hinfix.subset (by decide)
      exact List.all_eq_false.mpr ⟨',', hcomma, by decide⟩
    have hsegments := segmentsOf_of_funcless hblank (Text.not_infix_of_contains hfunc)
    -- there is a separator, so there is more than one piece
    obtain ⟨parts, hcut⟩ := Option.ne_none_iff_exists'.mp fun hnone =>
      (Text.cut_eq_none_iff separator_ne_nil).mp hnone hinfix
    have hpieces := Text.pieces_of_cut_eq_some separator_ne_nil hcut
    obtain ⟨p, ps, hrest⟩ := List.exists_cons_of_ne_nil (Text.pieces_ne_nil separator parts.2)
    have hlabel : labelOf (Text.pieces separator u) = '(' :: (u ++ [')']) := by
      rw [hpieces, hrest, labelOf, ← hrest, ← hpieces, Text.join_pieces]
      rfl
    rw [behindList, if_neg (List.cons_ne_nil _ _), FuncText.returnsOf_parens, hsegments, hlabel]

/-! ## Calls -/

/-- The texts of parameters that do not count as funcs are their names. -/
theorem Parameter.callTexts_eq_map {told : Parameter → Text} {position : Nat} {ps : List Parameter}
    (h : ∀ p ∈ ps, p.isFunc = false) : Parameter.callTexts told position ps = ps.map (·.name) := by
  induction ps generalizing position with
  | nil => rfl
  | cons p ps ih =>
    obtain ⟨hp, hps⟩ := List.forall_mem_cons.mp h
    rw [Parameter.callTexts, ih hps, if_neg (by simp [hp]), List.map_cons]

/-- **A call and its label** give back the func type that the signature was read from, if there are no func
types in its lists: its parameter list is shown behind the name in every mode, and its returns are the
label. -/
theorem shown_call_ofText (mode : SnippetMode) (name args returns : Text)
    (hblank : Text.isBlank args = true → args = []) (hfunc : Text.contains args funcToken = false)
    (hbalanced : args.Balanced) (hreturns : IsLabel returns) :
    let s := Signature.ofText (funcToken ++ (args ++ ')' :: behindList returns))
    (Snippet.call mode name (some s)).shown = name ++ ['('] ++ args ++ [')'] ∧
      s.returnLabel = returns := by
  intro s
  have hs : s = _ := Signature.ofText_of_funcText (FuncText.ofText_balanced hbalanced _)
  have hnot := Text.not_infix_of_contains hfunc
  constructor
  · have hjoin : Text.join separator (segmentsOf args) = args := by
      cases hb : Text.isBlank args with
      | true =>
        rw [hblank hb]
        rfl
      | false => rw [segmentsOf_of_funcless hb hnot, Text.join_pieces]
    rw [shown_call, hs, Parameter.callTexts_eq_map (parameters_of_funcless _ hnot), map_name_ofSegment, hjoin]
  · rw [Signature.returnLabel_eq, hs, map_name_ofSegment, hreturns.labelOf_segmentsOf]

/-- A list with an empty segment, nested parens and brackets that cross each other. -/
theorem shown_call_ofText_crossed :
    let args : Text := "a, , (b [\x7d(x, y)) , c](d)".toList
    let returns : Text := "(n Map[K, V], err error)".toList
    let s := Signature.ofText (funcToken ++ (args ++ ')' :: behindList returns))
    ((Text.isBlank args = true → args = []) ∧ Text.contains args funcToken = false ∧ args.Balanced ∧
        IsLabel returns) ∧
      (Snippet.call .none "F".toList (some s)).shown = "F".toList ++ ['('] ++ args ++ [')'] ∧
      s.returnLabel = returns := by
  intro args returns s
  have hblank : Text.isBlank args = true → args = [] := by decide
  have hfunc : Text.contains args funcToken = false := by decide
  have hbalanced : args.Balanced := by decide
  have hreturns : IsLabel returns :=
    .tuple (t := "n Map[K, V], err error".toList) (by decide) (by decide)
  exact ⟨⟨hblank, hfunc, hbalanced, hreturns⟩,
    shown_call_ofText .none "F".toList args returns hblank hfunc hbalanced hreturns⟩

end GoCompletion
