import GoCompletion.Proofs.Signature.Characters
import GoCompletion.Proofs.Signature.Plain
import GoCompletion.Proofs.Snippet.Erased
import GoCompletion.Proofs.Snippet.Told

/-!
# What is shown and what is written

Without its markup the snippet for a call is the text that is shown for it, but for the returns that func
literals tell: what is written of these are their types, and what is shown are their names
(`mirrors_callArgs`, `shown_call`).

A return that has an identifier has a name that is longer than its type. So nothing of this can be made up for
elsewhere, and the two texts are the same **exactly if every return that is told has its type for its name**
(`erased_call_ofText`).
-/

namespace GoCompletion

/-! ## What is written -/

theorem Clean.label {p : Parameter} (h : Clean p.texts) (position : Nat) :
    Clean [p.literalLabel position] := by
  have hletters : ∀ c ∈ markup, c ∉ "arg".toList ∧ c.isDigit = false := by simp [markup]
  intro c hc
  have hlabel := not_mem_literalLabel (hletters c hc).1 (hletters c hc).2
    ((h.of_mem p.identifier_mem_texts).not_mem hc) position
  exact Text.FreeOf.cons_iff.mpr ⟨hlabel, .nil⟩

theorem Clean.join {ts : List Text} (h : Clean ts) : Clean [Text.join separator ts] := by
  have hseparator : ∀ c ∈ markup, c ∉ separator := by simp [markup, separator]
  exact fun c hc => Text.FreeOf.cons_iff.mpr ⟨(h c hc).not_mem_join (hseparator c hc), .nil⟩

/-- A func literal mirrors what it is put together from. -/
theorem Mirrors.literal {inner out t u : Text} (hin : Mirrors inner t) (hout : Mirrors out u) (n m : Nat) :
    Mirrors ((literalHead n).written ++ inner ++ [')'] ++ out ++ (literalBody m).written)
      (funcToken ++ (t ++ ')' :: u)) := by
  have hfunc : Mirrors funcToken funcToken := .text (by decide)
  have hparen : Mirrors [')'] [')'] := .text (by decide)
  rw [written_literal]
  simpa using (hfunc.append (((hin.append hparen).append hout).append (.body m))).hole n

/-- The types of the returns of a func literal that are more than one are written as they are. -/
theorem Mirrors.literalTuple {rs : List Parameter} (h : Clean (Parameter.textsOf rs)) :
    Mirrors (literalTuple rs).written
      (' ' :: '(' :: (Text.join separator (rs.map (·.typeText)) ++ [')'])) := by
  have htypes : Clean (rs.map (·.typeText)) := by
    intro c hc t ht
    obtain ⟨r, hr, rfl⟩ := List.mem_map.mp ht
    exact h c hc _ (Parameter.mem_textsOf hr r.typeText_mem_texts)
  have hescape : (rs.map fun r => escapeBraces r.typeText) = rs.map (·.typeText) :=
    List.map_congr_left fun r hr => (htypes.of_mem (List.mem_map_of_mem hr)).escapeBraces_eq
  have hjoin : Mirrors (Text.join separator (rs.map (·.typeText))) _ := .text htypes.join
  have hopen : Mirrors [' ', '('] [' ', '('] := .text (by decide)
  have hclose : Mirrors [')'] [')'] := .text (by decide)
  rw [GoCompletion.literalTuple, hescape]
  simpa using (hopen.append hjoin).append hclose

mutual

/-- **A func literal** mirrors its text, with the types of its returns. -/
theorem mirrors_funcLiteral (position counter : Nat) : (p : Parameter) → Clean p.texts →
    Mirrors (funcLiteral position counter p).1.written (p.literalText (·.typeText) position)
  | ⟨name, identifier, isFunc, .plain t⟩, _ => by
    rw [funcLiteral_plain, Parameter.literalText]
    simpa [Snippet.both] using Mirrors.literal .nil .nil (counter + 1) (counter + 2)
  | ⟨name, identifier, isFunc, .signature ⟨isFunc', name', args, returns⟩⟩, h => by
    simp only [Parameter.texts, ParameterType.texts, Signature.texts] at h
    have hlists := (Clean.cons_iff.mp (Clean.cons_iff.mp (Clean.cons_iff.mp h).2).2).2
    obtain ⟨hargs, hreturns⟩ := Clean.append_iff.mp hlists
    rw [funcLiteral_signature, Parameter.literalText, Signature.literalText, ← joinBehind_eq_join]
    exact .literal (mirrors_literalArgs position (counter + 1) [] .nil args hargs)
      (mirrors_literalReturns position _ returns hreturns) _ _

/-- The parameters of a func literal mirror their texts. -/
theorem mirrors_literalArgs (position counter : Nat) (lead : Text) (hlead : Mirrors lead lead) :
    (ps : List Parameter) → Clean (Parameter.textsOf ps) →
      Mirrors (literalArgs position counter lead ps).1.written
        (joinBehind lead (Parameter.literalTexts (·.typeText) position ps))
  | [], _ => by
    rw [literalArgs_nil, Parameter.literalTexts]
    exact .nil
  | p :: ps, h => by
    obtain ⟨hp, hps⟩ := Clean.append_iff.mp h
    have hlabel := (hlead.append ((Mirrors.text (hp.label position)).hole (counter + 1))).append
      (.text (t := [' ']) (by decide))
    have htype : Mirrors (if p.isFunc then funcLiteral position (counter + 1) p
        else (⟨escapeBraces p.typeText, p.typeText⟩, counter + 1)).1.written
        (if p.isFunc then p.literalText (·.typeText) position else p.typeText) := by
      split
      · exact mirrors_funcLiteral position (counter + 1) p hp
      · have hclean := hp.of_mem p.typeText_mem_texts
        rw [hclean.escapeBraces_eq]
        exact .text hclean
    have hothers := mirrors_literalArgs position (if p.isFunc then funcLiteral position (counter + 1) p
        else (⟨escapeBraces p.typeText, p.typeText⟩, counter + 1)).2 separator
        (.text (by decide)) ps hps
    rw [literalArgs_cons, Parameter.literalTexts, joinBehind_cons]
    simpa using (hlabel.append htype).append hothers

/-- The returns of a func literal mirror their types. -/
theorem mirrors_literalReturns (position counter : Nat) : (rs : List Parameter) →
    Clean (Parameter.textsOf rs) →
      Mirrors (literalReturns position counter rs).1.written
        (Parameter.literalResult (·.typeText) position rs)
  | [], _ => by
    rw [literalReturns_nil, Parameter.literalResult]
    exact .nil
  | [r], h => by
    have hr := (Clean.append_iff.mp h).1
    have hblank : Mirrors [' '] [' '] := .text (by decide)
    rw [Parameter.literalResult]
    cases hf : r.isFunc with
    | true =>
      rw [literalReturns_func _ _ hf]
      exact hblank.append (mirrors_funcLiteral position counter r hr)
    | false =>
      have hclean := hr.of_mem r.typeText_mem_texts
      rw [literalReturns_single _ _ hf, hclean.escapeBraces_eq]
      exact hblank.append (.text hclean)
  | r₁ :: r₂ :: rs, h => by
    rw [literalReturns_tuple, Parameter.literalResult]
    exact .literalTuple h

end

/-- **The parameters of a call** mirror their texts, with the types of the returns, if none is left out. -/
theorem mirrors_callArgs {ps : List Parameter} (h : Clean (Parameter.textsOf ps))
    (hlast : ∀ p ∈ ps.getLast?, p.isVariadic = false) (position counter : Nat) :
    Mirrors (callArgs .nameAndType position counter ps).written
      (joinBehind (callLead position false) (Parameter.callTexts (·.typeText) position ps)) := by
  induction ps generalizing position counter with
  | nil =>
    rw [written_callArgs_nil, Parameter.callTexts]
    exact .nil
  | cons p ps ih =>
    obtain ⟨hp, hps⟩ := Clean.append_iff.mp h
    have hwritten : (ps.isEmpty && p.isVariadic) = false := by
      cases ps with
      | nil => simpa using hlast p
      | cons q qs => rfl
    have hlast' : ∀ q ∈ ps.getLast?, q.isVariadic = false := by
      cases ps with
      | nil => simp
      | cons q qs => rwa [List.getLast?_cons_cons] at hlast
    have hlead : Mirrors (callLead position false) (callLead position false) := by
      unfold callLead
      split
      · exact .nil
      · exact .text (by decide)
    rw [Parameter.callTexts, joinBehind_cons]
    cases hf : p.isFunc with
    | true =>
      rw [written_callArgs_func _ _ _ hf, hwritten, ← callLead_succ position]
      exact (hlead.append (mirrors_funcLiteral position counter p hp)).append (ih hps hlast' _ _)
    | false =>
      have hname : Clean [p.name] := hp.of_mem p.name_mem_texts
      have hlabel : p.placeholderLabel .nameAndType = p.name := if_neg (by simp)
      rw [written_callArgs_plain _ _ _ hf hwritten, hlabel, hname.escapeBraces_eq, ← callLead_succ position]
      exact (hlead.append ((Mirrors.text hname).hole (counter + 1))).append (ih hps hlast' _ _)

/-- **A call without its markup** is the name and, in parens, the texts of its parameters, with the types of
the returns. -/
theorem erased_call {name : Text} {s : Signature} (hname : Clean [name])
    (hargs : Clean (Parameter.textsOf s.args)) (hlast : ∀ p ∈ s.args.getLast?, p.isVariadic = false) :
    erased (Snippet.call .nameAndType name (some s)).written =
      name ++ ['('] ++ Text.join separator (Parameter.callTexts (·.typeText) 0 s.args) ++ [')'] := by
  have hmirrors := mirrors_callArgs hargs hlast 0 0
  rw [callLead_zero, joinBehind_eq_join] at hmirrors
  have hopen : Mirrors ['('] ['('] := .text (by decide)
  rw [written_call (by decide)]
  exact (((Mirrors.text hname).append hopen).append hmirrors).erased_end

/-! ## What is shown -/

/-- **The snippet for a call, without its markup and the bodies of its func literals**, has the types of the
returns that the literals tell. It is what is shown for the call exactly if each of these returns has its type
for its name. -/
theorem erased_call_ofText (name text : Text) (hclean : Clean [name, text])
    (hlast : ∀ p ∈ (Signature.ofText text).args.getLast?, p.isVariadic = false) :
    let s := Signature.ofText text
    let call := Snippet.call .nameAndType name (some s)
    erased call.written =
        name ++ ['('] ++ Text.join separator (Parameter.callTexts (·.typeText) 0 s.args) ++ [')'] ∧
      (erased call.written = call.shown ↔ ∀ r ∈ Parameter.toldInArgs s.args, r.typeText = r.name) := by
  intro s call
  have hname : Clean [name] := hclean.of_mem (by simp)
  have hargs : Clean (Parameter.textsOf s.args) := by
    have htexts : Clean s.texts := fun c hc =>
      have hseparator : ∀ c ∈ markup, c ∉ separator := by simp [markup, separator]
      freeOf_texts_ofText (hseparator c hc) (hclean c hc text (by simp))
    obtain ⟨isFunc, name', args, returns⟩ := s
    exact (Clean.append_iff.mp (Clean.cons_iff.mp htexts).2).1
  have herased : erased call.written = _ := erased_call hname hargs hlast
  refine ⟨herased, ?_⟩
  have hwithin : Text.Within _ _ (∀ r ∈ Parameter.toldInArgs s.args, r.typeText = r.name) :=
    Parameter.within_callTexts 0 (fun r hr => length_typeText_le_of_told hr) []
  rw [joinBehind_eq_join, joinBehind_eq_join] at hwithin
  rw [herased, shown_call]
  exact ((hwithin.behind (name ++ ['('])).before [')']).eq_iff

/-- A func literal whose returns have no identifiers, with another func type in it. -/
theorem erased_call_walk :
    let text : Text := "func(visit func(x int, next func() bool) (int, error), n int)".toList
    let s := Signature.ofText text
    let call := Snippet.call .nameAndType "Walk".toList (some s)
    (Clean ["Walk".toList, text] ∧ ∀ p ∈ s.args.getLast?, p.isVariadic = false) ∧
      (Parameter.toldInArgs s.args).map (·.name) = ["bool".toList, "int".toList, "error".toList] ∧
      erased call.written = "Walk(func(x int, next func() bool) (int, error), n int)".toList ∧
      erased call.written = call.shown := by
  intro text s call
  have hclean : Clean ["Walk".toList, text] := by decide
  have hlast : ∀ p ∈ s.args.getLast?, p.isVariadic = false := by decide +kernel
  have htold : ∀ r ∈ Parameter.toldInArgs s.args, r.typeText = r.name := by decide +kernel
  obtain ⟨herased, hshown⟩ := erased_call_ofText "Walk".toList text hclean hlast
  exact ⟨⟨hclean, hlast⟩, by decide +kernel, herased.trans (by decide +kernel), hshown.mpr htold⟩

/-- **A return with an identifier** is written without it and shown with it. -/
theorem erased_call_namedReturn :
    let text : Text := "func(cb func() (n int))".toList
    let s := Signature.ofText text
    let call := Snippet.call .nameAndType "F".toList (some s)
    text.Balanced ∧ Clean ["F".toList, text] ∧ s.isFunc = true ∧
      (∀ p ∈ s.args.getLast?, p.isVariadic = false) ∧
      erased call.written = "F(func() int)".toList ∧ call.shown = "F(func() n int)".toList ∧
      erased call.written ≠ call.shown := by
  decide +kernel

end GoCompletion
