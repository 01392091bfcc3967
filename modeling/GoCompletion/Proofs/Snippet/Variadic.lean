import GoCompletion.Proofs.Snippet.Shown
import GoCompletion.Signature.Reading

/-!
# A variadic parameter at the end

A variadic parameter at the end of a call is shown, and nothing of it is written: what is written is what is
written for the call without it, **unless the parameter in front of it has a variadic type too**
(`call_variadic`). That one would be left out at the end, or, if it counts as a func all the same, would lose
the separator in front of it (`written_variadicFunc`).

A parameter that is not the last one is written in the same way whatever stands behind it
(`exists_written_callArgs_cons`), so the induction on the list comes down to its last two parameters.
-/

namespace GoCompletion

variable (mode : SnippetMode) (position counter : Nat)

/-- What is written for a parameter with others behind it does not depend on these. -/
theorem exists_written_callArgs_cons (p : Parameter) :
    ∃ w n, ∀ ps ≠ [], (callArgs mode position counter (p :: ps)).written =
      w ++ (callArgs mode (position + 1) n ps).written := by
  have hkept : ∀ ps : List Parameter, ps ≠ [] → (ps.isEmpty && p.isVariadic) = false := by
    intro ps hps
    rw [List.isEmpty_eq_false_iff.mpr hps, Bool.false_and]
  cases hf : p.isFunc with
  | true => exact ⟨_, _, fun ps hps => by rw [written_callArgs_func _ _ _ hf, hkept ps hps]⟩
  | false => exact ⟨_, _, fun ps hps => written_callArgs_plain _ _ _ hf (hkept ps hps)⟩

theorem callLead_eq_iff (omitted : Bool) :
    callLead position false = callLead position omitted ↔ position = 0 ∨ omitted = false := by
  cases position with
  | zero => simp [callLead_zero]
  | succ position => cases omitted <;> simp [callLead, separator]

section Last

variable {v : Parameter}

/-- The last two parameters, the last one of which is variadic. -/
theorem written_callArgs_pair_iff (hf : v.isFunc = false) (hv : v.isVariadic = true) {p : Parameter}
    (hp : p.isFunc = false → p.isVariadic = false) :
    (callArgs mode position counter [p, v]).written = (callArgs mode position counter [p]).written ↔
      position = 0 ∨ p.isVariadic = false := by
  cases hpf : p.isFunc with
  | true =>
    rw [written_callArgs_func _ _ _ hpf, written_callArgs_func _ _ _ hpf,
      written_callArgs_omitted _ _ _ hf hv, written_callArgs_nil, List.append_nil, List.append_nil,
      List.append_cancel_right_eq]
    exact callLead_eq_iff position p.isVariadic
  | false =>
    have hnot := hp hpf
    rw [written_callArgs_plain _ _ _ hpf (by rfl), written_callArgs_plain _ _ _ hpf (by simp [hnot]),
      written_callArgs_omitted _ _ _ hf hv, written_callArgs_nil]
    simp [hnot]

/-- **Nothing is written of a variadic parameter at the end** exactly if the one in front of it has another
type, or is the first one. -/
theorem written_callArgs_concat_iff (hf : v.isFunc = false) (hv : v.isVariadic = true)
    {ps : List Parameter} (hlast : ∀ p ∈ ps.getLast?, p.isFunc = false → p.isVariadic = false) :
    (callArgs mode position counter (ps ++ [v])).written = (callArgs mode position counter ps).written ↔
      (position = 0 ∧ ps.length ≤ 1) ∨ ∀ p ∈ ps.getLast?, p.isVariadic = false := by
  induction ps generalizing position counter with
  | nil => simp [written_callArgs_omitted _ _ _ hf hv, written_callArgs_nil]
  | cons p ps ih =>
    cases ps with
    | nil =>
      have hpair := written_callArgs_pair_iff mode position counter hf hv (hlast p rfl)
      simpa using hpair
    | cons q qs =>
      obtain ⟨w, n, hw⟩ := exists_written_callArgs_cons mode position counter p
      rw [List.cons_append, hw _ (by simp), hw _ (by simp), List.append_cancel_left_eq,
        ih (position + 1) n (by simpa using hlast)]
      simp

end Last

/-! ## Calls -/

/-- **A variadic parameter at the end** is shown behind the others, and leaves no trace in what is written,
but for one case: the parameter in front of it counts as a func although it has a variadic type, and is not
the first one. -/
theorem call_variadic (name : Text) (s : Signature) (ps : List Parameter) (v : Parameter)
    (hargs : s.args = ps ++ [v]) (hf : v.isFunc = false) (hv : v.isVariadic = true)
    (hlast : ∀ p ∈ ps.getLast?, p.isFunc = false → p.isVariadic = false) :
    let whole := Snippet.call mode name (some s)
    let short := Snippet.call mode name (some { s with args := ps })
    (whole.written = short.written ↔
        mode = .none ∨ ps.length ≤ 1 ∨ ∀ p ∈ ps.getLast?, p.isVariadic = false) ∧
      ∃ front, short.shown = front ++ [')'] ∧
        whole.shown = front ++ (if ps = [] then [] else separator) ++ v.name ++ [')'] := by
  intro whole short
  constructor
  · by_cases hmode : mode = .none
    · subst hmode
      exact iff_of_true rfl (.inl rfl)
    · have hwritten := written_callArgs_concat_iff mode 0 0 hf hv hlast
      simp only [true_and] at hwritten
      simp only [whole, short, written_call hmode, hargs, List.append_cancel_left_eq,
        List.append_cancel_right_eq, hwritten, hmode, false_or]
  · refine ⟨name ++ ['('] ++ Text.join separator (Parameter.callTexts (·.name) 0 ps),
      shown_call mode name _, ?_⟩
    have hjoin := joinBehind_concat [] (Parameter.callTexts (·.name) 0 ps) v.name
    rw [joinBehind_eq_join, joinBehind_eq_join] at hjoin
    simp only [whole, shown_call, hargs, Parameter.callTexts_concat _ _ _ hf, hjoin,
      Parameter.callTexts_eq_nil_iff, List.append_assoc]

/-- A variadic parameter behind a func literal and another parameter. -/
theorem call_variadic_roots :
    let ps := (Signature.ofText "func(visit func(string) error, depth int)".toList).args
    let v : Parameter :=
      { name := "roots ...string".toList, identifier := "roots".toList, type := .plain "...string".toList }
    let whole := Snippet.call .nameAndType "Walk".toList (some { isFunc := true, args := ps ++ [v] })
    let short := Snippet.call .nameAndType "Walk".toList (some { isFunc := true, args := ps })
    (v.isFunc = false ∧ v.isVariadic = true ∧
        ∀ p ∈ ps.getLast?, p.isFunc = false → p.isVariadic = false) ∧
      whole.written = short.written ∧
      ∃ front, short.shown = front ++ [')'] ∧ whole.shown = front ++ separator ++ v.name ++ [')'] := by
  intro ps v whole short
  have hlast : ∀ p ∈ ps.getLast?, p.isFunc = false → p.isVariadic = false := by decide +kernel
  have hdepth : ∀ p ∈ ps.getLast?, p.isVariadic = false := by decide +kernel
  have hne : ps ≠ [] := by
    have hsome : ps.isEmpty = false := by decide +kernel
    exact List.isEmpty_eq_false_iff.mp hsome
  have hcall := call_variadic .nameAndType "Walk".toList { isFunc := true, args := ps ++ [v] } ps v rfl
    (by decide) (by decide) hlast
  rw [if_neg hne] at hcall
  exact ⟨⟨by decide, by decide, hlast⟩, hcall.1.mpr (.inr (.inr hdepth)), hcall.2⟩

/-- **A parameter with a variadic type that counts as a func** is no variadic parameter. At the end of the
list nothing is written in front of it, and in front of a variadic parameter a separator is. -/
theorem written_variadicFunc :
    let ps : List Parameter :=
      [{ name := "a int".toList, identifier := "a".toList, type := .plain "int".toList },
        { name := "f ...T".toList, identifier := "f".toList, isFunc := true, type := .plain "...T".toList }]
    let v : Parameter :=
      { name := "b ...int".toList, identifier := "b".toList, type := .plain "...int".toList }
    let whole := Snippet.call .nameAndType "F".toList (some { isFunc := true, args := ps ++ [v] })
    let short := Snippet.call .nameAndType "F".toList (some { isFunc := true, args := ps })
    (v.isFunc = false ∧ v.isVariadic = true ∧
        ∀ p ∈ ps.getLast?, p.isFunc = false → p.isVariadic = false) ∧
      whole.written = "F($\x7b1:a int\x7d, $\x7b2:func() \x7b\n\t$3\n\\\x7d\x7d)$0".toList ∧
      short.written = "F($\x7b1:a int\x7d$\x7b2:func() \x7b\n\t$3\n\\\x7d\x7d)$0".toList ∧
      whole.written ≠ short.written := by
  decide +kernel

end GoCompletion
