import GoCompletion.Proofs.Completion.Edit
import GoCompletion.Proofs.Signature.Plain
import Mathlib.Data.List.Forall2

/-!
# From candidates to suggestions

An answer of the daemon is turned into suggestions one by one: **each candidate becomes one, in order**, but for
those that tell that the daemon is in trouble (`suggestionsOf_candidates`). What becomes of a candidate is said by
`Suggestion.MadeOf`: it is found by the name of the candidate, and it writes a text or a snippet, never both. A
snippet is for funcs only, where no call stands yet, and only if the paren of the func type is closed.

All of them replace the same, the end of the line in front of the cursor, so that no answer reaches beyond that
line, whatever number of characters it claims to be about.
-/

namespace GoCompletion

/-! ## Candidates -/

namespace Suggestion

/-- A func type is what a call can be read from. -/
theorem callForm_eq_signature_iff (type : Text) : (∃ s, callForm type = .signature s) ↔ type.ClosesFunc := by
  have hcontains : type.ClosesFunc → type.contains funcToken = true := by
    rintro ⟨args, rest, -, rfl⟩
    exact Text.contains_iff_infix.mpr (List.prefix_append _ _).isInfix
  rw [← Signature.isFunc_ofText] at hcontains ⊢
  unfold callForm
  dsimp only
  split
  · split
    · next hfunc => simp [hfunc]
    · next hplain => simp [hplain]
  · next hno => simpa using fun hfunc => hno (hcontains hfunc)

/-- What stands behind the cursor is the next character, if there is one. -/
theorem textBehind_eq {t : Text} {index : Nat} (hindex : index ≤ t.length) :
    textBehind t index = t[index]?.toList := by
  have hnext : ((index : Int) + 1) = ((index + 1 : Nat) : Int) := rfl
  rw [textBehind, hnext, Text.position_natCast, Text.position_natCast, Text.slice, Nat.min_eq_left hindex, List.drop_take]
  rcases Nat.lt_or_ge index t.length with hlt | hge
  · rw [show min (index + 1) t.length - index = 1 by omega, List.take_one, List.head?_drop]
  · rw [List.drop_eq_nil_of_le hge, List.take_nil, List.getElem?_eq_none hge, Option.toList_none]

/-- A suggestion is made of a candidate, in place of the text `replaced`, with a certain character behind the
cursor. -/
structure MadeOf (replaced : Text) (behind : Option Char) (c : Candidate) (x : Suggestion) : Prop where
  /-- it is found by the name of the candidate -/
  key : x.key = some c.name
  /-- it writes a text or a snippet, and not both -/
  one : x.text.isSome ≠ x.snippet.isSome
  /-- it writes a snippet for a func whose type can be read, unless the call is there already -/
  snippet : x.snippet.isSome = true ↔
    c.cls = "func".toList ∧ behind ≠ some '(' ∧ c.type.ClosesFunc
  /-- it replaces the text -/
  replaces : x.replaced = replaced

theorem madeOf_ofCandidate (mode : SnippetMode) (replaced : Text) {t : Text} {index : Nat}
    (hindex : index ≤ t.length) (c : Candidate) :
    MadeOf replaced t[index]? c (ofCandidate mode replaced (textBehind t index) c) := by
  have hbehind : textBehind t index ≠ callMark ↔ t[index]? ≠ some '(' := by
    rw [textBehind_eq hindex]
    cases t[index]? <;> simp [callMark]
  have hform := callForm_eq_signature_iff c.type
  unfold ofCandidate
  dsimp only
  split
  · next hcall =>
    have hplain : (∀ s, callForm c.type ≠ .signature s) → ¬ c.type.ClosesFunc := fun hno hcloses =>
      (hform.mpr hcloses).elim hno
    split
    · next hnone => exact ⟨rfl, by simp, by simp [hplain (by simp [hnone])], rfl⟩
    · next hbroken => exact ⟨rfl, by simp, by simp [hplain (by simp [hbroken])], rfl⟩
    · next s hs =>
      have hcloses := hform.mp ⟨s, hs⟩
      exact ⟨rfl, by simp, by simpa [Candidate.funcClass, hcall, hcloses] using hbehind.mp hcall.2, rfl⟩
  · next hno =>
    refine ⟨rfl, by simp, ?_, rfl⟩
    simpa [Candidate.funcClass] using fun hcls hcall _ => hno ⟨hcls, hbehind.mpr hcall⟩

end Suggestion

/-! ## Answers -/

/-- The suggestions of an answer are made of its candidates, but for those that tell of trouble. -/
theorem Suggestion.forall₂_ofAnswer (mode : SnippetMode) (answer : List Datum) {t : Text} {index : Nat}
    (hindex : index ≤ t.length) :
    List.Forall₂ (MadeOf (replacedText t index (claimed answer)) t[index]?)
      ((candidatesOf answer).filter fun c => c ≠ Candidate.panic) (ofAnswer mode answer t index) := by
  have hkept : ((candidatesOf answer).filter fun c => c ≠ Candidate.panic) =
      (candidatesOf answer).filter (!·.isPanic) :=
    List.filter_congr fun c _ => by
      rw [Bool.eq_iff_iff, decide_eq_true_eq, Bool.not_eq_true', ← Bool.not_eq_true, Candidate.isPanic_iff]
  rw [hkept, ofAnswer, List.forall₂_map_right_iff, List.forall₂_same, ← replacedCount_headD]
  exact fun c _ => madeOf_ofCandidate mode _ hindex c

/-- **No candidate is lost, and nothing beyond the line is replaced.** Suggestions can always be made of an answer.
If its second item is a list that is not empty, there is one for each candidate but those that tell of trouble, in
the same order; otherwise there are none. They all replace the same: as many characters at the end of the line
in front of the cursor as the first item says, or all of them. -/
theorem suggestionsOf_candidates (answer : List Datum) {t : Text} {index : Nat} (hindex : index ≤ t.length)
    (s : Session) :
    ∃ above line replaced ss,
      (t.take index = above ++ line ∧ (∀ c ∈ above.getLast?, c = '\n') ∧ '\n' ∉ line) ∧
      (replaced <:+ line ∧ '\n' ∉ replaced ∧
        replaced.length = min (Suggestion.claimed answer).toNat line.length) ∧
      (Session.suggestionsOf answer t index s).1 = .ok ss ∧
      (∀ count items others, answer = count :: .list items :: others → items ≠ [] →
        List.Forall₂ (Suggestion.MadeOf replaced t[index]?)
          ((items.map Candidate.ofDatum).filter fun c => c ≠ Candidate.panic) ss) ∧
      ((¬ ∃ count items others, answer = count :: .list items :: others ∧ items ≠ []) → ss = []) := by
  obtain ⟨above, hcut, -, habove, hline⟩ := t.exists_above_lineBefore index
  have hreplaced := Suggestion.replacedText_eq_drop hindex (Suggestion.claimed answer)
  have hsuffix := hreplaced ▸ List.drop_suffix _ (t.lineBefore index)
  have hmade := Suggestion.forall₂_ofAnswer s.provider.snippetMode answer hindex
  refine ⟨above, t.lineBefore index, _, _, ⟨hcut, habove, hline⟩,
    ⟨hsuffix, fun hmem => hline (hsuffix.subset hmem), ?_⟩, Session.fst_suggestionsOf answer t index s, ?_, ?_⟩
  · rw [hreplaced, List.length_drop]
    omega
  · rintro count items others rfl -
    exact hmade
  · intro hno
    have hnone : Suggestion.candidatesOf answer = [] := by
      unfold Suggestion.candidatesOf
      split
      · next count items others =>
        by_contra hne
        exact hno ⟨count, items, others, rfl, fun h => hne (by rw [h]; rfl)⟩
      · rfl
    rw [Suggestion.ofAnswer, hnone]
    rfl

/-- A bare name, trouble and a func: whatever number of characters the answer is about, at most the two on the line
are replaced. -/
theorem suggestionsOf_candidates_long :
    let func : List (Datum × Datum) := [(.text "class".toList, .text "func".toList),
      (.text "name".toList, .text "Print".toList), (.text "type".toList, .text "func(a int)".toList)]
    let trouble : List (Datum × Datum) :=
      ["class", "name", "type"].map fun key => (.text key.toList, .text "PANIC".toList)
    let answer (count : Datum) : List Datum := [count, .list [.text "Pr".toList, .map trouble, .map func]]
    let t : Text := "a\nPr".toList
    let counts : List (Datum × String) :=
      [(.int 10, "Pr"), (.int 1, "r"), (.int (-3), ""), (.bool true, "r"), (.text "1".toList, "")]
    4 ≤ t.length ∧
      ∀ p ∈ counts, ∃ x y, (Session.suggestionsOf (answer p.1) t 4 (.working [])).1 = .ok [x, y] ∧
          (x.replaced = p.2.toList ∧ x.key = some "Pr".toList ∧ x.text.isSome = true) ∧
          y.replaced = p.2.toList ∧ y.key = some "Print".toList ∧ y.snippet.isSome = true := by
  intro func trouble answer t counts
  refine ⟨by decide, fun p hp => ?_⟩
  have htext : ∀ p ∈ counts,
      "Pr".toList.drop (2 - min (Suggestion.claimed (answer p.1)).toNat 2) = p.2.toList := by decide +kernel
  obtain ⟨above, line, replaced, ss, ⟨hcut, habove, hline⟩, ⟨hsuffix, -, hlength⟩, hss, hmade, -⟩ :=
    suggestionsOf_candidates (answer p.1) (show 4 ≤ t.length by decide) (.working [])
  -- the line of the cursor is the second one
  obtain rfl : "Pr".toList = line := Text.lineBefore_eq hcut habove hline
  have hreplaced : replaced = p.2.toList := by
    rw [List.suffix_iff_eq_drop.mp hsuffix, hlength]
    exact htext p hp
  have hkept : ([.text "Pr".toList, .map trouble, .map func].map Candidate.ofDatum).filter (· ≠ Candidate.panic) =
      [{ cls := [], name := "Pr".toList },
        { cls := "func".toList, name := "Print".toList, type := "func(a int)".toList }] := by decide +kernel
  have hmade := hmade _ _ _ rfl (List.cons_ne_nil _ _)
  rw [hkept] at hmade
  obtain ⟨x, _, hx, hbehind, rfl⟩ := List.forall₂_cons_left_iff.mp hmade
  obtain ⟨y, _, hy, hend, rfl⟩ := List.forall₂_cons_left_iff.mp hbehind
  obtain rfl := List.forall₂_nil_left_iff.mp hend
  have hcloses : Text.ClosesFunc "func(a int)".toList := ⟨"a int".toList, [], by decide, rfl⟩
  have hplain := mt hx.snippet.mp fun h => absurd h.1 (by decide)
  have hwrites : x.text.isSome = true := by simpa [hplain, Option.isSome_iff_ne_none] using hx.one
  exact ⟨x, y, hss, ⟨hx.replaces.trans hreplaced, hx.key, hwrites⟩, hy.replaces.trans hreplaced, hy.key,
    hy.snippet.mpr ⟨rfl, by decide, hcloses⟩⟩

end GoCompletion
