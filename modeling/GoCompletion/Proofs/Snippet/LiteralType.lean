import GoCompletion.Proofs.Signature.Reading
import GoCompletion.Proofs.Snippet.Shown

/-!
# The type of a func literal

A func literal is shown with names that it makes up and without identifiers that the type has. **Read as a
type, what is shown of it is the type of its parameter** all the same, but for names and identifiers
(`anonymous_ofText_funcLiteral`).

Everything in a literal is put together of whole texts (`FuncType.whole_literalText`), so it is cut where the
printed type is cut. The induction is on the levels that are left, as for printed types: the func types that
stand in a literal with their own literals are read by induction (`ShowsAt`), and those that stand in it as they
are printed are read as before (`ReadsAt`).
-/

namespace GoCompletion

/-! ## Signatures without names -/

mutual

/-- A signature without the names and the identifiers in it, on all levels. -/
def Signature.anonymous : Signature → Signature
  | ⟨isFunc, _, args, returns⟩ =>
    { isFunc, args := Parameter.anonymousOf args, returns := Parameter.anonymousOf returns }

/-- A parameter without name and identifier, and without those in its type. -/
def Parameter.anonymous : Parameter → Parameter
  | ⟨_, _, isFunc, type⟩ => { name := [], isFunc, type := type.anonymous }

/-- A type without the names and the identifiers in it. -/
def ParameterType.anonymous : ParameterType → ParameterType
  | .plain t => .plain t
  | .signature s => .signature s.anonymous

/-- Parameters without names and identifiers. -/
def Parameter.anonymousOf : List Parameter → List Parameter
  | [] => []
  | p :: ps => p.anonymous :: Parameter.anonymousOf ps

end

theorem Parameter.anonymousOf_eq_map (ps : List Parameter) :
    Parameter.anonymousOf ps = ps.map Parameter.anonymous := by
  induction ps with
  | nil => rw [anonymousOf, List.map_nil]
  | cons p ps ih => rw [anonymousOf, ih, List.map_cons]

/-! ## Identifiers that are made up -/

/-- A digit may stand in an identifier. -/
theorem isDigit_spelled {c : Char} (h : c.isDigit = true) :
    isBlank c = false ∧ c ≠ ',' ∧ isOpening c = false ∧ isClosing c = false := by
  have hall : ∀ n < 58, 48 ≤ n → isBlank (Char.ofNat n) = false ∧ Char.ofNat n ≠ ',' ∧
      isOpening (Char.ofNat n) = false ∧ isClosing (Char.ofNat n) = false := by decide
  simp only [Char.isDigit, Bool.and_eq_true, decide_eq_true_eq] at h
  have hlow : 48 ≤ c.toNat := h.1
  have hhigh : c.toNat ≤ 57 := h.2
  rw [← Char.ofNat_toNat c]
  exact hall c.toNat (by omega) hlow

/-- What a func literal at the given outermost position calls a parameter without an identifier. -/
def Identifier.numbered (position : Nat) : Identifier where
  text := "arg".toList ++ Text.ofNat position
  ne_nil := by simp
  spelled := by
    intro c hc
    rcases List.mem_append.mp hc with hc | hc
    · have hletters : c = 'a' ∨ c = 'r' ∨ c = 'g' := by simpa using hc
      rcases hletters with rfl | rfl | rfl <;> decide
    · exact isDigit_spelled (isDigit_of_mem_ofNat hc)

/-! ## Slots in a func literal -/

variable (position depth : Nat)

namespace Slot

/-- What a func literal calls the parameter of a slot. -/
def label : Slot → Identifier
  | .namedPlain i _ | .namedFunc i _ => i
  | .plain .. | .func _ => .numbered position

/-- The type of a parameter in a func literal: a func literal again, down to the limit. -/
def shownType : Slot → Text
  | .namedPlain _ t | .plain t _ => t.text
  | .namedFunc _ f | .func f =>
    if depth ≤ nestingLimit then (f.signature depth).literalText (·.name) position else f.text

/-- A single return of a func literal: a func literal without an identifier, down to the limit. -/
def shownReturn : Slot → Text
  | .namedPlain i t => i.before t.text
  | .plain t _ => t.text
  | .namedFunc i f =>
    if depth ≤ nestingLimit then (f.signature depth).literalText (·.name) position else i.before f.text
  | .func f =>
    if depth ≤ nestingLimit then (f.signature depth).literalText (·.name) position else f.text

theorem name_parameter (s : Slot) : (s.parameter depth).name = s.text := by
  cases s <;> simp only [parameter, text, Parameter.ofFunc] <;> split <;> rfl

theorem literalArg_parameter (s : Slot) :
    (s.parameter depth).literalArg (·.name) position =
      (s.label position).before (s.shownType position depth) := by
  have hnamed : ∀ i : Identifier, i.text.isEmpty = false := fun i => List.isEmpty_eq_false_iff.mpr i.ne_nil
  cases s with
  | namedPlain i t =>
    simp [Parameter.literalArg, Parameter.literalLabel, parameter, label, shownType, hnamed,
      Identifier.before, Parameter.typeText]
  | namedFunc i f =>
    simp only [Parameter.literalArg, Parameter.literalLabel, parameter, label, shownType, Parameter.ofFunc]
    split <;> simp [hnamed, Identifier.before, Parameter.typeText, Parameter.literalText]
  | plain t h =>
    simp [Parameter.literalArg, Parameter.literalLabel, parameter, label, shownType,
      Identifier.before, Identifier.numbered, Parameter.typeText]
  | func f =>
    simp only [Parameter.literalArg, Parameter.literalLabel, parameter, label, shownType, Parameter.ofFunc]
    split <;> simp [Identifier.before, Identifier.numbered, Parameter.typeText, Parameter.literalText]

theorem literalReturn_parameter (s : Slot) :
    (s.parameter depth).literalReturn (·.name) position = s.shownReturn position depth := by
  cases s with
  | namedPlain i t => rfl
  | namedFunc i f =>
    simp only [Parameter.literalReturn, parameter, shownReturn, Parameter.ofFunc]
    split <;> simp [Parameter.literalText]
  | plain t h => rfl
  | func f =>
    simp only [Parameter.literalReturn, parameter, shownReturn, Parameter.ofFunc]
    split <;> simp [Parameter.literalText]

end Slot

/-- The texts of the parameters of a func literal. -/
theorem literalTexts_parameters (ss : List Slot) :
    Parameter.literalTexts (·.name) position (Slot.parameters depth ss) =
      ss.map fun s => (s.label position).before (s.shownType position depth) := by
  rw [Parameter.literalTexts_eq_map, Slot.parameters_eq_map, List.map_map]
  exact List.map_congr_left fun s _ => s.literalArg_parameter position depth

/-- The returns of a func literal: nothing, a single one, or all of them as they are printed. -/
theorem literalResult_parameters_cases (ss : List Slot) :
    (ss = [] ∧ Parameter.literalResult (·.name) position (Slot.parameters depth ss) = []) ∨
      (∃ s, ss = [s] ∧ Parameter.literalResult (·.name) position (Slot.parameters depth ss) =
        ' ' :: s.shownReturn position depth) ∨
      Parameter.literalResult (·.name) position (Slot.parameters depth ss) =
        ' ' :: '(' :: (Text.join separator (Slot.texts ss) ++ [')']) := by
  match ss with
  | [] => exact .inl ⟨rfl, by rw [Slot.parameters, Parameter.literalResult]⟩
  | [s] =>
    refine .inr (.inl ⟨s, rfl, ?_⟩)
    rw [← s.literalReturn_parameter, Slot.parameters, Slot.parameters, Parameter.literalResult]
    rfl
  | s₁ :: s₂ :: ss =>
    refine .inr (.inr ?_)
    have hnames : (Slot.parameters depth (s₁ :: s₂ :: ss)).map (·.name) = Slot.texts (s₁ :: s₂ :: ss) := by
      rw [Slot.parameters_eq_map, Slot.texts_eq_map, List.map_map]
      exact List.map_congr_left fun s _ => s.name_parameter depth
    rw [← hnames, Slot.parameters, Slot.parameters, Parameter.literalResult]

/-! ## Func literals are whole -/

mutual

/-- **What is shown of a func literal is whole.** -/
theorem FuncType.whole_literalText (depth : Nat) : (f : FuncType) →
    Whole ((f.signature depth).literalText (·.name) position)
  | .mk args returns => by
    rw [FuncType.signature, Signature.literalText, literalTexts_parameters]
    refine .func (fun t ht => ?_) ?_
    · obtain ⟨s, hs, rfl⟩ := List.mem_map.mp ht
      exact .named _ (Slot.whole_shown_of_mem (depth + 1) args s hs).1
    · rcases literalResult_parameters_cases position (depth + 1) returns with ⟨-, he⟩ | ⟨s, hs, he⟩ | he
      · rw [he]
        exact .nil
      · rw [he]
        exact .single (Slot.whole_shown_of_mem (depth + 1) returns s (hs ▸ List.mem_cons_self)).2
      · rw [he]
        exact .parens (Slot.whole_texts returns)

/-- The type of a slot and a single return are whole in a func literal. -/
theorem Slot.whole_shown (depth : Nat) : (s : Slot) →
    Whole (s.shownType position depth) ∧ Whole (s.shownReturn position depth)
  | .namedPlain i t => ⟨.plain t, .named i (.plain t)⟩
  | .plain t h => ⟨.plain t, .plain t⟩
  | .namedFunc i f => by
    rw [Slot.shownType, Slot.shownReturn]
    split
    · exact ⟨f.whole_literalText depth, f.whole_literalText depth⟩
    · exact ⟨f.whole_text, .named i f.whole_text⟩
  | .func f => by
    rw [Slot.shownType, Slot.shownReturn]
    split
    · exact ⟨f.whole_literalText depth, f.whole_literalText depth⟩
    · exact ⟨f.whole_text, f.whole_text⟩

theorem Slot.whole_shown_of_mem (depth : Nat) : (ss : List Slot) → ∀ s ∈ ss,
    Whole (s.shownType position depth) ∧ Whole (s.shownReturn position depth)
  | [], s, hs => by cases hs
  | t :: ts, s, hs => by
    rcases List.mem_cons.mp hs with he | hs
    · rw [he]
      exact t.whole_shown depth
    · exact Slot.whole_shown_of_mem depth ts s hs

end

/-- The list that the parameters of a func literal are shown as is cut into these. -/
theorem segmentsOf_literalTexts (ss : List Slot) :
    segmentsOf (Text.join separator (Parameter.literalTexts (·.name) position (Slot.parameters depth ss))) =
      ss.map fun s => (s.label position).before (s.shownType position depth) := by
  rw [literalTexts_parameters, segmentsOf_join]
  intro t ht
  obtain ⟨s, -, rfl⟩ := List.mem_map.mp ht
  exact .named _ (s.whole_shown position depth).1

/-- A func literal is cut into its lists. -/
theorem FuncText.ofText_literalText (args returns : List Slot) :
    FuncText.ofText (((FuncType.mk args returns).signature depth).literalText (·.name) position) =
      some { args := Text.join separator
                (Parameter.literalTexts (·.name) position (Slot.parameters (depth + 1) args))
             returns := FuncText.returnsOf
                (Parameter.literalResult (·.name) position (Slot.parameters (depth + 1) returns)) } := by
  rw [FuncType.signature, Signature.literalText]
  refine ofText_func (.join fun t ht => ?_) _
  rw [literalTexts_parameters] at ht
  obtain ⟨s, -, rfl⟩ := List.mem_map.mp ht
  exact (Whole.named _ (s.whole_shown position (depth + 1)).1).nested

/-- A func literal begins like a func type. -/
theorem FuncType.startsWith_literalText (f : FuncType) :
    Text.startsWith ((f.signature depth).literalText (·.name) position) funcToken = true := by
  obtain ⟨args, returns⟩ := f
  rw [signature, Signature.literalText]
  exact Text.startsWith_iff_prefix.mpr (List.prefix_append ..)

/-- A single return of a func literal does not begin with a paren. -/
theorem Slot.startsWith_shownReturn (s : Slot) :
    Text.startsWith (s.shownReturn position depth) ['('] = false := by
  have hfunc : ∀ t, Text.startsWith t funcToken = true → Text.startsWith t ['('] = false := by
    intro t ht
    obtain ⟨u, rfl⟩ := Text.startsWith_iff_prefix.mp ht
    rfl
  have hnamed : ∀ (i : Identifier) (type : Text), Text.startsWith (i.before type) ['('] = false := by
    intro i type
    obtain ⟨c, r, hi⟩ := List.exists_cons_of_ne_nil i.ne_nil
    have hc : '(' ≠ c := by
      rintro rfl
      exact absurd (i.spelled '(' (hi ▸ List.mem_cons_self)).2.2.1 (by decide)
    rw [Identifier.before, hi]
    simp [Text.startsWith, List.isPrefixOf, hc]
  cases s with
  | namedPlain i t => exact hnamed i t.text
  | plain t _ => exact t.no_paren
  | namedFunc i f =>
    rw [shownReturn]
    split
    · exact hfunc _ (f.startsWith_literalText position depth)
    · exact hnamed i f.text
  | func f =>
    rw [shownReturn]
    split
    · exact hfunc _ (f.startsWith_literalText position depth)
    · exact hfunc _ f.startsWith_text

/-! ## Func literals are read -/

/-- `read` takes what is shown of a func literal apart as the type that stands `depth` levels below the
outermost one, as far as the limit allows. -/
def ShowsAt (read : Text → Signature) : Prop :=
  ∀ f : FuncType, depth ≤ nestingLimit →
    (read ((f.signature depth).literalText (·.name) position)).isFunc = true ∧
      (read ((f.signature depth).literalText (·.name) position)).anonymous = (f.signature depth).anonymous

/-- A segment with an identifier is cut behind it. -/
theorem Parameter.ofSegment_before (read : Text → Signature) (i : Identifier) {type : Text}
    (h : Text.startsWith type funcToken = true) :
    Parameter.ofSegment read (i.before type) = ofSegment.typed read (i.before type) i.text type := by
  simp only [ofSegment, i.not_startsWith_before, i.cut_before, h, Bool.false_eq_true, if_false, if_true]

namespace ShowsAt

variable {position depth} {read : Text → Signature}

theorem anonymous_typed (h : ShowsAt position depth read) (hd : depth ≤ nestingLimit) (f : FuncType)
    (segment identifier name identifier' text : Text) :
    (Parameter.ofSegment.typed read segment identifier
        ((f.signature depth).literalText (·.name) position)).anonymous =
      (Parameter.ofFunc depth name identifier' text (f.signature depth)).anonymous := by
  obtain ⟨hfunc, hanonymous⟩ := h f hd
  simp only [Parameter.ofSegment.typed, hfunc, if_true, Parameter.ofFunc, if_pos hd, Parameter.anonymous,
    ParameterType.anonymous, hanonymous]

/-- A parameter of a func literal is read as the parameter that it stands for. -/
theorem anonymous_arg (h : ShowsAt position depth read) (hread : ReadsAt depth read) (s : Slot) :
    (Parameter.ofSegment read ((s.label position).before (s.shownType position depth))).anonymous =
      (s.parameter depth).anonymous := by
  cases s with
  | namedPlain i t => exact congrArg Parameter.anonymous (hread.ofSegment_text (.namedPlain i t))
  | plain t _ =>
    exact (congrArg Parameter.anonymous (hread.ofSegment_text (.namedPlain (.numbered position) t))).trans rfl
  | namedFunc i f =>
    by_cases hd : depth ≤ nestingLimit
    · rw [Slot.shownType, if_pos hd, Parameter.ofSegment_before _ _ (f.startsWith_literalText position depth)]
      exact h.anonymous_typed hd f _ _ _ _ _
    · rw [Slot.shownType, if_neg hd]
      exact congrArg Parameter.anonymous (hread.ofSegment_text (.namedFunc i f))
  | func f =>
    by_cases hd : depth ≤ nestingLimit
    · rw [Slot.shownType, if_pos hd, Parameter.ofSegment_before _ _ (f.startsWith_literalText position depth)]
      exact h.anonymous_typed hd f _ _ _ _ _
    · have htext := hread.ofSegment_text (.namedFunc (.numbered position) f)
      rw [Slot.parameter, Parameter.ofFunc, if_neg hd] at htext
      rw [Slot.shownType, if_neg hd, Slot.parameter, Parameter.ofFunc, if_neg hd]
      exact (congrArg Parameter.anonymous htext).trans rfl

/-- A single return of a func literal is read as the return that it stands for. -/
theorem anonymous_return (h : ShowsAt position depth read) (hread : ReadsAt depth read) (s : Slot) :
    (Parameter.ofSegment read (s.shownReturn position depth)).anonymous = (s.parameter depth).anonymous := by
  have hliteral : ∀ (f : FuncType) (name identifier text : Text), depth ≤ nestingLimit →
      (Parameter.ofSegment read ((f.signature depth).literalText (·.name) position)).anonymous =
        (Parameter.ofFunc depth name identifier text (f.signature depth)).anonymous := by
    intro f name identifier text hd
    rw [Parameter.ofSegment, if_pos (f.startsWith_literalText position depth)]
    exact h.anonymous_typed hd f _ _ _ _ _
  cases s with
  | namedPlain i t => exact congrArg Parameter.anonymous (hread.ofSegment_text (.namedPlain i t))
  | plain t ht => exact congrArg Parameter.anonymous (hread.ofSegment_text (.plain t ht))
  | namedFunc i f =>
    rw [Slot.shownReturn]
    split
    · next hd => exact hliteral f _ _ _ hd
    · exact congrArg Parameter.anonymous (hread.ofSegment_text (.namedFunc i f))
  | func f =>
    rw [Slot.shownReturn]
    split
    · next hd => exact hliteral f _ _ _ hd
    · exact congrArg Parameter.anonymous (hread.ofSegment_text (.func f))

/-- The parameters of a func literal are read as those that they stand for. -/
theorem anonymous_args (h : ShowsAt position depth read) (hread : ReadsAt depth read) (ss : List Slot) :
    Parameter.anonymousOf ((segmentsOf (Text.join separator
        (Parameter.literalTexts (·.name) position (Slot.parameters depth ss)))).map
          (Parameter.ofSegment read)) =
      Parameter.anonymousOf (Slot.parameters depth ss) := by
  rw [segmentsOf_literalTexts, Parameter.anonymousOf_eq_map, Parameter.anonymousOf_eq_map,
    Slot.parameters_eq_map, List.map_map, List.map_map, List.map_map]
  exact List.map_congr_left fun s _ => h.anonymous_arg hread s

/-- The returns of a func literal are read as those that they stand for. -/
theorem anonymous_returns (h : ShowsAt position depth read) (hread : ReadsAt depth read) (ss : List Slot) :
    Parameter.anonymousOf ((segmentsOf ((FuncText.returnsOf
        (Parameter.literalResult (·.name) position (Slot.parameters depth ss))).getD [])).map
          (Parameter.ofSegment read)) =
      Parameter.anonymousOf (Slot.parameters depth ss) := by
  rcases literalResult_parameters_cases position depth ss with ⟨rfl, he⟩ | ⟨s, rfl, he⟩ | he
  · rw [he]
    rfl
  · have hsegments := (s.whole_shown position depth).2.segmentsOf_eq
    rw [he, FuncText.returnsOf_single (s.startsWith_shownReturn position depth), hsegments,
      Parameter.anonymousOf_eq_map, Parameter.anonymousOf_eq_map, Slot.parameters_eq_map]
    simp only [List.map_cons, List.map_nil, h.anonymous_return hread s]
  · rw [he, FuncText.returnsOf_parens, hread.map_ofSegment]

end ShowsAt

/-- **With a level left for every depth up to the limit**, func literals are read as the types that they stand
for. -/
theorem showsAt_ofTextWithin (levels depth : Nat) (h : levels + depth = nestingLimit + 1) :
    ShowsAt position depth (Signature.ofTextWithin levels) := by
  induction levels generalizing depth with
  | zero => exact fun f hd => absurd h (by omega)
  | succ levels ih =>
    rintro ⟨args, returns⟩ -
    have hshows := ih (depth + 1) (by omega)
    have hread := readsAt_ofTextWithin levels (depth + 1) (by omega)
    rw [Signature.ofTextWithin, FuncText.ofText_literalText]
    refine ⟨rfl, ?_⟩
    simp only [FuncType.signature, Signature.anonymous, hshows.anonymous_args hread,
      hshows.anonymous_returns hread]

/-- **What is shown of a func literal has the type of its parameter**: read as a type, it is a func type with
the same types in its lists, on every level, and only names and identifiers can differ. -/
theorem anonymous_ofText_funcLiteral (f : FuncType) (name identifier : Text) (counter : Nat) :
    let shown := (funcLiteral position counter
      { name, identifier, isFunc := true, type := .signature (f.signature 0) }).1.shown
    (Signature.ofText shown).isFunc = true ∧
      (Signature.ofText shown).anonymous = (f.signature 0).anonymous := by
  intro shown
  have hshown : shown = (f.signature 0).literalText (·.name) position := by
    rw [← Parameter.literalText]
    exact shown_funcLiteral position counter _
  rw [hshown]
  exact showsAt_ofTextWithin position (nestingLimit + 1) 0 rfl f (Nat.zero_le _)

end GoCompletion
