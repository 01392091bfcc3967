import GoCompletion.Proofs.Snippet.Parts

/-!
# What a call shows

What is shown for a call is put together from texts, one for each parameter, with separators between them
(`Parameter.callTexts`). The numbers of the tab-stops do not come into it (`shown_funcLiteral`, `shown_call`).

The text of a func literal is `Parameter.literalText`. It has the type of every parameter, behind what the
literal calls it, and a text of every return that is no func literal. Which text of a return that is, is left
open: its name is shown, and its type is written.
-/

namespace GoCompletion

/-! ## Texts behind a lead -/

/-- Some texts with separators between them, and `lead` in front of the first one. -/
def joinBehind (lead : Text) : List Text → Text
  | [] => []
  | t :: ts => lead ++ t ++ joinBehind separator ts

theorem joinBehind_nil (lead : Text) : joinBehind lead [] = [] := rfl

theorem joinBehind_cons (lead t : Text) (ts : List Text) :
    joinBehind lead (t :: ts) = lead ++ t ++ joinBehind separator ts := rfl

theorem append_joinBehind (t : Text) (ts : List Text) :
    t ++ joinBehind separator ts = Text.join separator (t :: ts) := by
  induction ts generalizing t with
  | nil => simp [joinBehind_nil]
  | cons u us ih =>
    rw [joinBehind_cons, Text.join_cons_cons, ← ih u, List.append_assoc, List.append_assoc]

/-- Without a lead the texts are joined. -/
theorem joinBehind_eq_join (ts : List Text) : joinBehind [] ts = Text.join separator ts := by
  cases ts with
  | nil => simp [joinBehind_nil]
  | cons t ts => rw [joinBehind_cons, List.nil_append, append_joinBehind]

/-- A text at the end stands behind a separator, or behind the lead if it is the only one. -/
theorem joinBehind_concat (lead : Text) (ts : List Text) (t : Text) :
    joinBehind lead (ts ++ [t]) =
      joinBehind lead ts ++ (if ts = [] then lead else separator) ++ t := by
  induction ts generalizing lead with
  | nil => simp [joinBehind]
  | cons u us ih =>
    simp only [List.cons_append, joinBehind_cons, ih, ite_self, List.append_assoc,
      if_neg (List.cons_ne_nil u us)]

/-! ## Func literals -/

mutual

/-- The text of the func literal for a type, at the given outermost position, with the given text for every
return that is no func literal itself. -/
def Signature.literalText (told : Parameter → Text) (position : Nat) : Signature → Text
  | ⟨_, _, args, returns⟩ =>
    funcToken ++ (Text.join separator (Parameter.literalTexts told position args) ++
      ')' :: Parameter.literalResult told position returns)

/-- The text of the func literal for a parameter. -/
def Parameter.literalText (told : Parameter → Text) (position : Nat) : Parameter → Text
  | ⟨_, _, _, .plain _⟩ => funcToken ++ [')']
  | ⟨_, _, _, .signature s⟩ => s.literalText told position

/-- The texts of the parameters of a func literal. -/
def Parameter.literalTexts (told : Parameter → Text) (position : Nat) : List Parameter → List Text
  | [] => []
  | p :: ps =>
    (p.literalLabel position ++ ' ' :: if p.isFunc then p.literalText told position else p.typeText) ::
      Parameter.literalTexts told position ps

/-- The text of the returns of a func literal. -/
def Parameter.literalResult (told : Parameter → Text) (position : Nat) : List Parameter → Text
  | [] => []
  | [r] => ' ' :: if r.isFunc then r.literalText told position else told r
  | r₁ :: r₂ :: rs => ' ' :: '(' :: (Text.join separator ((r₁ :: r₂ :: rs).map told) ++ [')'])

end

namespace Parameter

variable (told : Parameter → Text) (position : Nat)

/-- The text of a parameter of a func literal. -/
def literalArg (p : Parameter) : Text :=
  p.literalLabel position ++ ' ' :: if p.isFunc then p.literalText told position else p.typeText

/-- The text of a return of a func literal that has no others. -/
def literalReturn (r : Parameter) : Text := if r.isFunc then r.literalText told position else told r

theorem literalTexts_eq_map (ps : List Parameter) :
    literalTexts told position ps = ps.map (literalArg told position) := by
  induction ps with
  | nil => rw [literalTexts, List.map_nil]
  | cons p ps ih => rw [literalTexts, ih, List.map_cons, literalArg]

end Parameter

mutual

/-- **A func literal** shows its text, with the names of its returns, whatever numbers it has. -/
theorem shown_funcLiteral (position counter : Nat) : (p : Parameter) →
    (funcLiteral position counter p).1.shown = p.literalText (·.name) position
  | ⟨name, identifier, isFunc, .plain t⟩ => by
    rw [funcLiteral_plain, Parameter.literalText]
    rfl
  | ⟨name, identifier, isFunc, .signature ⟨isFunc', name', args, returns⟩⟩ => by
    rw [funcLiteral_signature, Parameter.literalText, Signature.literalText, ← joinBehind_eq_join]
    simp only [Snippet.shown_append, shown_literalArgs position (counter + 1) [] args,
      shown_literalReturns position _ returns]
    simp [literalHead, literalBody, Snippet.both]

theorem shown_literalArgs (position counter : Nat) (lead : Text) : (ps : List Parameter) →
    (literalArgs position counter lead ps).1.shown =
      joinBehind lead (Parameter.literalTexts (·.name) position ps)
  | [] => by
    rw [literalArgs_nil, Parameter.literalTexts]
    rfl
  | p :: ps => by
    have htype : (if p.isFunc then funcLiteral position (counter + 1) p
        else (⟨escapeBraces p.typeText, p.typeText⟩, counter + 1)).1.shown =
        if p.isFunc then p.literalText (·.name) position else p.typeText := by
      split
      · exact shown_funcLiteral position (counter + 1) p
      · rfl
    rw [literalArgs_cons, Parameter.literalTexts, joinBehind_cons]
    simp only [Snippet.shown_append, htype, shown_literalArgs position _ separator ps, List.append_assoc,
      List.cons_append, List.nil_append]

theorem shown_literalReturns (position counter : Nat) : (rs : List Parameter) →
    (literalReturns position counter rs).1.shown = Parameter.literalResult (·.name) position rs
  | [] => by
    rw [literalReturns_nil, Parameter.literalResult]
    rfl
  | [r] => by
    rw [Parameter.literalResult]
    cases hr : r.isFunc with
    | true =>
      rw [literalReturns_func _ _ hr]
      simp only [Snippet.shown_append, shown_funcLiteral position counter r]
      rfl
    | false =>
      rw [literalReturns_single _ _ hr]
      rfl
  | r₁ :: r₂ :: rs => by
    rw [literalReturns_tuple, Parameter.literalResult]
    rfl

end

/-! ## Calls -/

/-- The texts of the parameters of a call from the given position on. -/
def Parameter.callTexts (told : Parameter → Text) (position : Nat) : List Parameter → List Text
  | [] => []
  | p :: ps =>
    (if p.isFunc then p.literalText told position else p.name) ::
      Parameter.callTexts told (position + 1) ps

theorem Parameter.callTexts_concat (told : Parameter → Text) (position : Nat) (ps : List Parameter)
    {v : Parameter} (hf : v.isFunc = false) :
    Parameter.callTexts told position (ps ++ [v]) =
      Parameter.callTexts told position ps ++ [v.name] := by
  induction ps generalizing position with
  | nil => simp [Parameter.callTexts, hf]
  | cons p ps ih => simp only [List.cons_append, Parameter.callTexts, ih]

theorem Parameter.callTexts_eq_nil_iff {told : Parameter → Text} {position : Nat} {ps : List Parameter} :
    Parameter.callTexts told position ps = [] ↔ ps = [] := by
  cases ps <;> simp [Parameter.callTexts]

theorem shown_callArgs (mode : SnippetMode) (position counter : Nat) (ps : List Parameter) :
    (callArgs mode position counter ps).shown =
      joinBehind (callLead position false) (Parameter.callTexts (·.name) position ps) := by
  induction ps generalizing position counter with
  | nil =>
    rw [callArgs, Parameter.callTexts]
    rfl
  | cons p ps ih =>
    have hlead : ∀ omitted : Bool, (if position = 0 then Snippet.empty
        else ⟨if omitted then [] else separator, separator⟩).shown = callLead position false := by
      intro omitted
      simp only [callLead, Bool.false_eq_true, or_false]
      split <;> rfl
    rw [callArgs, Parameter.callTexts, joinBehind_cons]
    split
    · simp only [Snippet.shown_append, hlead, ih, callLead_succ, shown_funcLiteral]
    · simp only [Snippet.shown_append, hlead, ih, callLead_succ]

/-- **A call** shows the name and, in parens, the texts of its parameters, in every mode. -/
theorem shown_call (mode : SnippetMode) (name : Text) (s : Signature) :
    (Snippet.call mode name (some s)).shown =
      name ++ ['('] ++ Text.join separator (Parameter.callTexts (·.name) 0 s.args) ++ [')'] := by
  have hargs := shown_callArgs mode 0 0 s.args
  rw [callLead_zero, joinBehind_eq_join] at hargs
  rw [← hargs]
  cases mode <;> rfl

end GoCompletion
