import GoCompletion.Proofs.Snippet.Mark

/-!
# The parts of a snippet

One equation for every way in which braces are escaped, in which a func literal, its parameters and its
returns are put together, and in which a parameter of a call is written. All that is proved about snippets
goes through them.
-/

namespace GoCompletion

/-! ## Escaped braces -/

theorem escapeBraces_pair (r : Text) :
    escapeBraces ('{' :: '}' :: r) = '{' :: '\\' :: '}' :: escapeBraces r := by
  rw [escapeBraces]

theorem escapeBraces_cons {c : Char} {r : Text} (h : ∀ r', c = '{' → r = '}' :: r' → False) :
    escapeBraces (c :: r) = c :: escapeBraces r := escapeBraces.eq_2 c r h

/-- Nothing is escaped in a text without opening braces. -/
theorem escapeBraces_of_not_mem {t : Text} (h : '{' ∉ t) : escapeBraces t = t := by
  fun_induction escapeBraces t with
  | case1 r _ => exact absurd List.mem_cons_self h
  | case2 c r _ ih => rw [ih fun hm => h (List.mem_cons_of_mem c hm)]
  | case3 => rfl

/-- Nothing but backslashes is added. -/
theorem mem_of_mem_escapeBraces {t : Text} {c : Char} (h : c ∈ escapeBraces t) : c = '\\' ∨ c ∈ t := by
  fun_induction escapeBraces t with
  | case1 r ih =>
    simp only [List.mem_cons] at h ⊢
    rcases h with h | h | h | h
    · exact .inr (.inl h)
    · exact .inl h
    · exact .inr (.inr (.inl h))
    · exact (ih h).imp_right fun h => .inr (.inr h)
  | case2 d r _ ih =>
    rcases List.mem_cons.mp h with h | h
    · exact .inr (h ▸ List.mem_cons_self)
    · exact (ih h).imp_right (List.mem_cons_of_mem d)
  | case3 => exact .inr h

/-! ## Func literals -/

/-- The body of a func literal with the tab-stop `n` in it, as it is written. -/
def bodyText (n : Nat) : Text := [' ', '{', '\n', '\t'] ++ ('$' :: (Text.ofNat n ++ ['\n'])) ++ ['\\', '}']

/-- A func literal is written as a placeholder, which ends behind the body. -/
theorem written_literal (n m : Nat) (inner out : Text) :
    (literalHead n).written ++ inner ++ [')'] ++ out ++ (literalBody m).written =
      placeholder n (funcToken ++ (inner ++ [')'] ++ out ++ bodyText m)) := by
  simp [literalHead, literalBody, bodyText, placeholder]

/-- What a func literal calls a parameter has no characters but those of its identifier, or of `arg` and a
number. -/
theorem not_mem_literalLabel {p : Parameter} {c : Char} (harg : c ∉ "arg".toList) (hd : c.isDigit = false)
    (h : c ∉ p.identifier) (position : Nat) : c ∉ p.literalLabel position := by
  unfold Parameter.literalLabel
  split
  · rw [List.mem_append, not_or]
    exact ⟨harg, fun hm => absurd (hd.symm.trans (isDigit_of_mem_ofNat hm)) (by decide)⟩
  · exact h

variable (position counter : Nat)

/-- The func literal of a parameter without a signature has no parameters and no returns. -/
theorem funcLiteral_plain (name identifier : Text) (isFunc : Bool) (t : Text) :
    funcLiteral position counter ⟨name, identifier, isFunc, .plain t⟩ =
      (literalHead (counter + 1) ++ .both [')'] ++ literalBody (counter + 2), counter + 2) := by
  rw [funcLiteral]

theorem funcLiteral_signature (name identifier : Text) (isFunc isFunc' : Bool) (name' : Text)
    (args returns : List Parameter) :
    let inner := literalArgs position (counter + 1) [] args
    let out := literalReturns position inner.2 returns
    funcLiteral position counter ⟨name, identifier, isFunc, .signature ⟨isFunc', name', args, returns⟩⟩ =
      (literalHead (counter + 1) ++ inner.1 ++ .both [')'] ++ out.1 ++ literalBody (out.2 + 1),
        out.2 + 1) := by
  rw [funcLiteral]

theorem literalArgs_nil (lead : Text) : literalArgs position counter lead [] = (.empty, counter) := by
  rw [literalArgs]

/-- A parameter of a func literal: a placeholder for what it is called, and its type. -/
theorem literalArgs_cons (lead : Text) (p : Parameter) (ps : List Parameter) :
    let type := if p.isFunc then funcLiteral position (counter + 1) p
      else (⟨escapeBraces p.typeText, p.typeText⟩, counter + 1)
    let others := literalArgs position type.2 separator ps
    literalArgs position counter lead (p :: ps) =
      (⟨lead ++ placeholder (counter + 1) (p.literalLabel position) ++ [' '],
          lead ++ p.literalLabel position ++ [' ']⟩ ++ type.1 ++ others.1, others.2) := by
  rw [literalArgs]

theorem literalReturns_nil : literalReturns position counter [] = (.empty, counter) := by
  rw [literalReturns]

/-- A single func return is a func literal too. -/
theorem literalReturns_func {r : Parameter} (h : r.isFunc = true) :
    literalReturns position counter [r] =
      (.both [' '] ++ (funcLiteral position counter r).1, (funcLiteral position counter r).2) := by
  rw [literalReturns, if_pos h]

theorem literalReturns_single {r : Parameter} (h : r.isFunc = false) :
    literalReturns position counter [r] = (⟨' ' :: escapeBraces r.typeText, ' ' :: r.name⟩, counter) := by
  rw [literalReturns, if_neg (by simp [h])]

theorem literalReturns_tuple (r₁ r₂ : Parameter) (rs : List Parameter) :
    literalReturns position counter (r₁ :: r₂ :: rs) = (literalTuple (r₁ :: r₂ :: rs), counter) := by
  rw [literalReturns]

/-! ## Calls -/

/-- What is written in front of a parameter of a call: nothing if it is the first one or is left out. -/
def callLead (position : Nat) (omitted : Bool) : Text :=
  if position = 0 ∨ omitted = true then [] else separator

theorem callLead_zero (omitted : Bool) : callLead 0 omitted = [] := if_pos (.inl rfl)

theorem callLead_succ (position : Nat) : callLead (position + 1) false = separator := if_neg (by simp)

section Call

variable {p : Parameter} (mode : SnippetMode)

theorem written_callArgs_nil : (callArgs mode position counter []).written = [] := by
  rw [callArgs]
  rfl

theorem written_callArgs_func (h : p.isFunc = true) (ps : List Parameter) :
    (callArgs mode position counter (p :: ps)).written =
      callLead position (ps.isEmpty && p.isVariadic) ++ (funcLiteral position counter p).1.written ++
        (callArgs mode (position + 1) (funcLiteral position counter p).2 ps).written := by
  rw [callArgs, if_pos h]
  simp only [Snippet.written_append, callLead]
  split
  · next h₀ => rw [if_pos (.inl h₀)]; rfl
  · next h₀ => simp only [h₀, false_or]

/-- A variadic parameter at the end is left out of what is written. -/
theorem written_callArgs_omitted (h : p.isFunc = false) (hv : p.isVariadic = true) :
    (callArgs mode position counter [p]).written = [] := by
  rw [callArgs, if_neg (by simp [h]), callArgs]
  simp only [Snippet.written_append, hv, List.isEmpty_nil, Bool.and_self, if_true]
  split <;> rfl

theorem written_callArgs_plain (h : p.isFunc = false) {ps : List Parameter}
    (hv : (ps.isEmpty && p.isVariadic) = false) :
    (callArgs mode position counter (p :: ps)).written =
      callLead position false ++
        placeholder (counter + 1) (escapeBraces (p.placeholderLabel mode)) ++
        (callArgs mode (position + 1) (counter + 1) ps).written := by
  rw [callArgs, if_neg (by simp [h])]
  simp only [Snippet.written_append, callLead, hv, Bool.false_eq_true, if_false, or_false]
  split <;> rfl

/-- What is written for a call in the modes with parameters. -/
theorem written_call {mode : SnippetMode} (hmode : mode ≠ .none) (name : Text) (s : Signature) :
    (Snippet.call mode name (some s)).written =
      name ++ ['('] ++ (callArgs mode 0 0 s.args).written ++ [')', '$', '0'] := by
  cases mode with
  | none => exact absurd rfl hmode
  | name => rfl
  | nameAndType => rfl

end Call

end GoCompletion
