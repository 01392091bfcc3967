import GoCompletion.Proofs.Signature.Segments

/-!
# A grammar of func types

The func types that a completion daemon writes, as trees: the lists of a func type hold **slots**, each of
which is a type with or without an identifier. What the spelling of identifiers and plain types rests
on is part of them, so every tree is well formed:

* `FuncType.text` — how a func type is printed;
* `FuncType.signature` — the signature that it should be read as, with the func types in it taken apart
  down to the limit.

Every printed slot is `Whole` (`Slot.whole_text`): it is trimmed, its brackets pair up, and it holds no
separator outside all brackets.
-/

namespace GoCompletion

/-- An identifier. -/
structure Identifier where
  /-- its text -/
  text : Text
  /-- it is not empty -/
  ne_nil : text ≠ []
  /-- it has no blanks, commas or brackets -/
  spelled : ∀ c ∈ text, isBlank c = false ∧ c ≠ ',' ∧ isOpening c = false ∧ isClosing c = false

/-- A type that is not taken apart. -/
structure PlainType where
  /-- its text -/
  text : Text
  /-- it is not empty -/
  ne_nil : text ≠ []
  /-- it has no blanks at its ends -/
  trimmed : Text.strip text = text
  /-- it has no commas -/
  no_comma : ',' ∉ text
  /-- its brackets pair up -/
  nested : Nested text
  /-- it does not begin with a paren -/
  no_paren : Text.startsWith text ['('] = false
  /-- it does not begin like a func type -/
  no_func : Text.startsWith text funcToken = false

mutual

/-- A func type: its parameters and its returns. -/
inductive FuncType where
  /-- the func type with the given lists -/
  | mk (args returns : List Slot)

/-- A place in a list of a func type. -/
inductive Slot where
  /-- an identifier with a plain type -/
  | namedPlain (i : Identifier) (t : PlainType)
  /-- an identifier with a func type -/
  | namedFunc (i : Identifier) (f : FuncType)
  /-- a plain type alone, which then has no blanks -/
  | plain (t : PlainType) (h : ∀ c ∈ t.text, isBlank c = false)
  /-- a func type alone -/
  | func (f : FuncType)

end

/-! ## Printing -/

/-- A type behind an identifier. -/
def Identifier.before (i : Identifier) (type : Text) : Text := i.text ++ ' ' :: type

/-- What is printed behind a parameter list for returns that are printed as `texts`: nothing for none,
the type for a single one without an identifier, and all of them in parens otherwise. -/
def returnsText (returns : List Slot) (texts : List Text) : Text :=
  match returns with
  | [] => []
  | [.plain ..] | [.func _] => ' ' :: Text.join separator texts
  | _ => ' ' :: '(' :: (Text.join separator texts ++ [')'])

mutual

/-- The printed form of a func type. -/
def FuncType.text : FuncType → Text
  | .mk args returns =>
    funcToken ++ (Text.join separator (Slot.texts args) ++
      ')' :: returnsText returns (Slot.texts returns))

/-- The printed form of a slot. -/
def Slot.text : Slot → Text
  | .namedPlain i t => i.before t.text
  | .namedFunc i f => i.before f.text
  | .plain t _ => t.text
  | .func f => f.text

/-- The printed forms of slots. -/
def Slot.texts : List Slot → List Text
  | [] => []
  | s :: ss => s.text :: Slot.texts ss

end

theorem Slot.texts_eq_map (ss : List Slot) : Slot.texts ss = ss.map Slot.text := by
  induction ss with
  | nil => rfl
  | cons s ss ih => rw [Slot.texts, ih, List.map_cons]

example : (FuncType.mk [.func (.mk [] [])] [.func (.mk [] [])]).text = "func(func()) func()".toList := by
  decide

/-! ## The signature that a func type should be read as -/

/-- The parameter with a func type that stands `depth` levels below the outermost one: down to the limit
it has the signature of its type, and below it the text. -/
def Parameter.ofFunc (depth : Nat) (name identifier text : Text) (s : Signature) : Parameter :=
  if depth ≤ nestingLimit then { name, identifier, isFunc := true, type := .signature s }
  else { name, identifier, type := .plain text }

mutual

/-- The signature of a func type that stands `depth` levels below the outermost one. -/
def FuncType.signature (depth : Nat) : FuncType → Signature
  | .mk args returns =>
    { isFunc := true
      name := (FuncType.mk args returns).text
      args := Slot.parameters (depth + 1) args
      returns := Slot.parameters (depth + 1) returns }

/-- The parameter of a slot in a list of a func type, where a func type would stand `depth` levels below
the outermost one. -/
def Slot.parameter (depth : Nat) : Slot → Parameter
  | .namedPlain i t => { name := i.before t.text, identifier := i.text, type := .plain t.text }
  | .namedFunc i f => .ofFunc depth (i.before f.text) i.text f.text (f.signature depth)
  | .plain t _ => { name := t.text, type := .plain t.text }
  | .func f => .ofFunc depth f.text [] f.text (f.signature depth)

/-- The parameters of slots. -/
def Slot.parameters (depth : Nat) : List Slot → List Parameter
  | [] => []
  | s :: ss => s.parameter depth :: Slot.parameters depth ss

end

theorem Slot.parameters_eq_map (depth : Nat) (ss : List Slot) :
    Slot.parameters depth ss = ss.map (Slot.parameter depth) := by
  induction ss with
  | nil => rfl
  | cons s ss ih => rw [Slot.parameters, ih, List.map_cons]

/-! ## Printed slots are whole -/

namespace Whole

variable {t : Text}

/-- A plain type is whole. -/
theorem plain (t : PlainType) : Whole t.text where
  ne_nil := t.ne_nil
  trimmed := t.trimmed
  nested := t.nested
  outside := cutOutside_eq_none t.no_comma 0
  marked := fun a b h => by rw [cut_eq_none_of_not_mem t.no_comma] at h; cases h

/-- A whole type behind an identifier is whole. -/
theorem named (i : Identifier) (h : Whole t) : Whole (i.before t) := by
  have hsplit : i.before t = (i.text ++ [' ']) ++ t := by simp [Identifier.before]
  have hchars : ∀ c ∈ i.text ++ [' '], c ≠ ',' ∧ isOpening c = false ∧ isClosing c = false := by
    intro c hc
    rcases List.mem_append.mp hc with hc | hc
    · exact (i.spelled c hc).2
    · obtain rfl := List.mem_singleton.mp hc
      decide
  have hcomma : ',' ∉ i.text ++ [' '] := fun hc => (hchars _ hc).1 rfl
  refine ⟨by simp [hsplit], ?_, ?_, ?_, ?_⟩
  · rw [hsplit]
    refine Text.strip_append_eq_self (by simp) (fun c hc => ?_) h.ne_nil h.trimmed
    rw [List.head?_append_of_ne_nil _ i.ne_nil] at hc
    exact (i.spelled c (List.mem_of_head? hc)).1
  · rw [hsplit]
    exact (Nested.of_forall fun c hc => (hchars c hc).2).append h.nested
  · rw [hsplit, cutOutside_append_of_forall hchars, h.outside, Option.map_none]
  · intro a b hc
    rw [hsplit, cut_append_of_not_mem hcomma, Option.map_eq_some_iff] at hc
    obtain ⟨⟨a', b'⟩, hc', he⟩ := hc
    cases he
    exact Text.contains_iff_infix.mpr
      ((Text.contains_iff_infix.mp (h.marked a' b' hc')).trans (List.suffix_append ..).isInfix)

end Whole

/-- What may stand behind a parameter list in a whole func type: it is well nested, has no separator outside
all brackets and does not end in a blank. -/
structure Trailer (t : Text) : Prop where
  /-- its brackets pair up -/
  nested : Nested t
  /-- it has no separator outside all brackets -/
  outside : cutOutside 0 t = none
  /-- its last character is not blank -/
  stop : ∀ c ∈ t.getLast?, isBlank c = false

namespace Trailer

theorem nil : Trailer [] := ⟨.nil, rfl, fun c hc => by cases hc⟩

/-- A blank in front does no harm. -/
theorem cutOutside_blank {t : Text} (h : cutOutside 0 t = none) : cutOutside 0 (' ' :: t) = none := by
  rw [cutOutside_cons_other (by decide) (by decide) (by simp [separator, List.isPrefixOf]), h]
  rfl

/-- A single whole return. -/
theorem single {t : Text} (h : Whole t) : Trailer (' ' :: t) where
  nested := .char (by decide) (by decide) h.nested
  outside := cutOutside_blank h.outside
  stop := by
    intro c hc
    rw [← List.singleton_append, List.getLast?_append_of_ne_nil _ h.ne_nil] at hc
    exact (Text.strip_eq_self_iff.mp h.trimmed).2 c hc

/-- Whole returns in parens. -/
theorem parens {ts : List Text} (h : ∀ t ∈ ts, Whole t) :
    Trailer (' ' :: '(' :: (Text.join separator ts ++ [')'])) := by
  have hj : Nested (Text.join separator ts) := .join fun t ht => (h t ht).nested
  refine ⟨.char (by decide) (by decide) (.parens hj .nil), cutOutside_blank ?_, fun c hc => ?_⟩
  · rw [cutOutside_pair (by decide) hj [] (Int.le_refl 0)]
    rfl
  · rw [← List.cons_append, ← List.cons_append, List.getLast?_concat] at hc
    obtain rfl := Option.some.inj hc
    decide

end Trailer

/-- A func type with whole parameters is whole if a trailer stands behind its parameter list. -/
theorem Whole.func {args : List Text} {rest : Text} (hargs : ∀ t ∈ args, Whole t) (hrest : Trailer rest) :
    Whole (funcToken ++ (Text.join separator args ++ ')' :: rest)) := by
  have ha : Nested (Text.join separator args) := .join fun t ht => (hargs t ht).nested
  refine ⟨by simp [funcToken], ?_, ?_, ?_, ?_⟩
  · refine Text.strip_eq_self_iff.mpr ⟨fun c hc => ?_, fun c hc => ?_⟩
    · obtain rfl : 'f' = c := Option.some.inj hc
      decide
    · rw [List.getLast?_append_of_ne_nil _ (by simp), List.getLast?_append_of_ne_nil _ (by simp)] at hc
      cases rest with
      | nil =>
        obtain rfl := Option.some.inj hc
        decide
      | cons d r =>
        rw [List.getLast?_cons_cons] at hc
        exact hrest.stop c hc
  · have hname : Nested ['f', 'u', 'n', 'c'] := .of_forall (by simp [isOpening, isClosing])
    exact hname.append (.parens ha hrest.nested)
  · change cutOutside 0 (['f', 'u', 'n', 'c'] ++ '(' :: (Text.join separator args ++ ')' :: rest)) = none
    rw [cutOutside_append_of_forall (by simp [isOpening, isClosing]),
      cutOutside_pair (by decide) ha rest (Int.le_refl 0), hrest.outside]
    rfl
  · intro a b hc
    rw [cut_append_of_not_mem (by decide), Option.map_eq_some_iff] at hc
    obtain ⟨⟨a', b'⟩, -, he⟩ := hc
    cases he
    exact Text.contains_iff_infix.mpr (List.prefix_append ..).isInfix

/-- What is printed for returns: nothing, a single type that does not begin with a paren, or all of them
in parens. -/
theorem returnsText_cases (returns : List Slot) :
    (returns = [] ∧ returnsText returns (Slot.texts returns) = []) ∨
      (∃ s, returns = [s] ∧ Text.startsWith s.text ['('] = false ∧
        returnsText returns (Slot.texts returns) = ' ' :: s.text) ∨
      returnsText returns (Slot.texts returns) =
        ' ' :: '(' :: (Text.join separator (Slot.texts returns) ++ [')']) := by
  match returns with
  | [] => exact .inl ⟨rfl, rfl⟩
  | [.plain t h] => exact .inr (.inl ⟨_, rfl, t.no_paren, by simp [returnsText, Slot.texts]⟩)
  | [.func (.mk args rs)] => exact .inr (.inl ⟨_, rfl, rfl, by simp [returnsText, Slot.texts]⟩)
  | [.namedPlain ..] | [.namedFunc ..] => exact .inr (.inr rfl)
  | s :: _ :: _ => exact .inr (.inr (by cases s <;> rfl))

/-- What is printed for returns that are whole is a trailer. -/
theorem trailer_returnsText {returns : List Slot} (h : ∀ t ∈ Slot.texts returns, Whole t) :
    Trailer (returnsText returns (Slot.texts returns)) := by
  rcases returnsText_cases returns with ⟨-, he⟩ | ⟨s, rfl, -, he⟩ | he
  · rw [he]
    exact .nil
  · rw [he]
    exact .single (h s.text List.mem_cons_self)
  · rw [he]
    exact .parens h

mutual

/-- **A printed func type is whole.** -/
theorem FuncType.whole_text : (f : FuncType) → Whole f.text
  | .mk args returns => .func (Slot.whole_texts args) (trailer_returnsText (Slot.whole_texts returns))

/-- **A printed slot is whole.** -/
theorem Slot.whole_text : (s : Slot) → Whole s.text
  | .namedPlain i t => .named i (.plain t)
  | .namedFunc i f => .named i f.whole_text
  | .plain t _ => .plain t
  | .func f => f.whole_text

theorem Slot.whole_texts : (ss : List Slot) → ∀ t ∈ Slot.texts ss, Whole t
  | [], t, ht => by cases ht
  | s :: ss, t, ht => by
    rcases List.mem_cons.mp ht with rfl | ht
    · exact s.whole_text
    · exact Slot.whole_texts ss t ht

end

end GoCompletion
