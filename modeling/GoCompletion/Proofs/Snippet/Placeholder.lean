import GoCompletion.Proofs.Signature.Texts
import GoCompletion.Proofs.Snippet.Parts
import GoCompletion.Proofs.Snippet.Template

/-!
# Closing braces in placeholders

A closing brace in a placeholder ends it, unless it is escaped. Only the ones right behind an opening brace
are escaped:

* If there are no others the text is **sealed**, and is read as it is (`reads_escapeBraces`).
* What stands in front of the first **lone** closing brace of any other text is read as it is, and the brace
  stays as it is too (`exists_reads_of_cutLone`).

A func literal is a single placeholder if all that it writes is sealed (`exists_reads_funcLiteral`). The
identifiers in it are not escaped at all, and must not have closing braces.
-/

namespace GoCompletion

open Template

/-! ## Lone braces -/

/-- A text cut at its first closing brace that does not stand right behind an opening one. -/
def cutLone : Text → Option (Text × Text)
  | '{' :: '}' :: r => (cutLone r).map fun p => ('{' :: '}' :: p.1, p.2)
  | c :: r => if c = '}' then some ([], r) else (cutLone r).map fun p => (c :: p.1, p.2)
  | [] => none

/-- Every closing brace of the text stands right behind an opening one. -/
def isSealed (t : Text) : Bool := (cutLone t).isNone

theorem isSealed_iff {t : Text} :
    isSealed t = true ↔ ∀ a b, t = a ++ '}' :: b → a.getLast? = some '{' := by
  rw [isSealed, Option.isNone_iff_eq_none]
  fun_induction cutLone t with
  | case1 r ih =>
    rw [Option.map_eq_none_iff, ih]
    constructor
    · intro h a b he
      rcases a with _ | ⟨d, _ | ⟨e, a⟩⟩
      · cases he
      · cases he
        rfl
      · simp only [List.cons_append, List.cons.injEq] at he
        obtain ⟨rfl, rfl, he⟩ := he
        have hlast := h a b he
        rw [List.getLast?_cons_cons, List.getLast?_cons, hlast]
        rfl
    · intro h a b he
      have hlast := h ('{' :: '}' :: a) b (by rw [he]; rfl)
      -- the brace in front of `a` closes, so it is not what the brace behind `a` stands behind
      rcases a with _ | ⟨d, a⟩
      · exact absurd hlast (by decide)
      · rwa [List.getLast?_cons_cons, List.getLast?_cons_cons] at hlast
  | case2 r _ =>
    simp only [reduceCtorEq, false_iff]
    intro h
    exact absurd (h [] r rfl) (by decide)
  | case3 c r hpair hc ih =>
    rw [Option.map_eq_none_iff, ih]
    constructor
    · intro h a b he
      rcases a with _ | ⟨d, a⟩
      · exact absurd (List.cons.inj he).1 hc
      · obtain ⟨-, he⟩ := List.cons.inj he
        have hlast := h a b he
        rw [List.getLast?_cons, hlast]
        rfl
    · intro h a b he
      have hlast := h (c :: a) b (by rw [he]; rfl)
      rcases a with _ | ⟨d, a⟩
      · exact absurd he (hpair b (Option.some.inj hlast))
      · rwa [List.getLast?_cons_cons] at hlast
  | case4 => simp

/-- The cut takes nothing away but the brace. -/
theorem cutLone_eq_some {t inside outside : Text} (h : cutLone t = some (inside, outside)) :
    t = inside ++ '}' :: outside := by
  fun_induction cutLone t generalizing inside with
  | case1 r ih =>
    obtain ⟨⟨inside', outside'⟩, hr, he⟩ := Option.map_eq_some_iff.mp h
    cases he
    rw [ih hr]
    rfl
  | case2 r _ =>
    cases h
    rfl
  | case3 c r _ _ ih =>
    obtain ⟨⟨inside', outside'⟩, hr, he⟩ := Option.map_eq_some_iff.mp h
    cases he
    rw [ih hr]
    rfl
  | case4 => cases h

/-- None of some texts has a dollar sign or a backslash. -/
def Unmarked (ts : List Text) : Prop := Text.FreeOf '$' ts ∧ Text.FreeOf '\\' ts

namespace Unmarked

variable {t : Text} {ts us : List Text}

theorem cons_iff : Unmarked (t :: ts) ↔ ('$' ∉ t ∧ '\\' ∉ t) ∧ Unmarked ts := by
  simp only [Unmarked, Text.FreeOf.cons_iff]
  exact and_and_and_comm

theorem append_iff : Unmarked (ts ++ us) ↔ Unmarked ts ∧ Unmarked us := by
  simp only [Unmarked, Text.FreeOf.append_iff]
  exact and_and_and_comm

theorem of_mem (h : Unmarked ts) (ht : t ∈ ts) : '$' ∉ t ∧ '\\' ∉ t := ⟨h.1 t ht, h.2 t ht⟩

end Unmarked

section Escape

variable {t : Text}

theorem Unmarked.plain {c : Char} {r : Text} (h : '$' ∉ c :: r ∧ '\\' ∉ c :: r) (hc : c ≠ '}') :
    isEscapable c = false :=
  isEscapable_eq_false.mpr
    ⟨fun he => h.2 (he ▸ List.mem_cons_self), fun he => h.1 (he ▸ List.mem_cons_self), hc⟩

theorem Unmarked.tail {c : Char} {r : Text} (h : '$' ∉ c :: r ∧ '\\' ∉ c :: r) :
    '$' ∉ r ∧ '\\' ∉ r :=
  ⟨fun hm => h.1 (List.mem_cons_of_mem c hm), fun hm => h.2 (List.mem_cons_of_mem c hm)⟩

/-- An opening brace and an escaped closing one. -/
theorem reads_escapedPair : Reads ['{', '\\', '}'] (chars ['{', '}']) :=
  (Reads.chars (w := ['{']) (by decide)).append (.escaped rfl)

/-- **A sealed text** is read as it is, once its braces are escaped. -/
theorem reads_escapeBraces (h : '$' ∉ t ∧ '\\' ∉ t) (hs : isSealed t = true) :
    Reads (escapeBraces t) (chars t) := by
  rw [isSealed, Option.isNone_iff_eq_none] at hs
  fun_induction cutLone t with
  | case1 r ih =>
    rw [escapeBraces_pair]
    exact reads_escapedPair.append
      (ih (Unmarked.tail (Unmarked.tail h)) (Option.map_eq_none_iff.mp hs))
  | case2 => cases hs
  | case3 c r hpair hc ih =>
    rw [escapeBraces_cons hpair]
    exact (Reads.char (Unmarked.plain h hc)).append
      (ih (Unmarked.tail h) (Option.map_eq_none_iff.mp hs))
  | case4 => exact .nil

/-- What is written of a text in front of its first lone brace is read as it is. -/
theorem exists_reads_of_cutLone {inside outside : Text} (h : '$' ∉ t ∧ '\\' ∉ t)
    (hc : cutLone t = some (inside, outside)) :
    ∃ v, Reads v (chars inside) ∧ escapeBraces t = v ++ '}' :: escapeBraces outside := by
  fun_induction cutLone t generalizing inside with
  | case1 r ih =>
    obtain ⟨⟨inside', outside'⟩, hr, he⟩ := Option.map_eq_some_iff.mp hc
    cases he
    obtain ⟨v, hv, he⟩ := ih (Unmarked.tail (Unmarked.tail h)) hr
    exact ⟨['{', '\\', '}'] ++ v, reads_escapedPair.append hv, by rw [escapeBraces_pair, he]; rfl⟩
  | case2 r hpair =>
    cases hc
    exact ⟨[], .nil, by rw [escapeBraces_cons hpair]; rfl⟩
  | case3 c r hpair hc' ih =>
    obtain ⟨⟨inside', outside'⟩, hr, he⟩ := Option.map_eq_some_iff.mp hc
    cases he
    obtain ⟨v, hv, he⟩ := ih (Unmarked.tail h) hr
    exact ⟨[c] ++ v, (Reads.char (Unmarked.plain h hc')).append hv,
      by rw [escapeBraces_cons hpair, he]; rfl⟩
  | case4 => cases hc

/-- Outside all placeholders any text is read as it is. -/
theorem readsOutside_escapeBraces (h : '$' ∉ t ∧ '\\' ∉ t) : ReadsOutside (escapeBraces t) (chars t) := by
  fun_induction escapeBraces t with
  | case1 r ih => exact reads_escapedPair.outside.append (ih (Unmarked.tail (Unmarked.tail h)))
  | case2 c r _ ih =>
    have hfirst : ReadsOutside [c] (chars [c]) := by
      by_cases hc : c = '}'
      · rw [hc]
        exact .brace
      · exact (Reads.char (Unmarked.plain h hc)).outside
    exact hfirst.append (ih (Unmarked.tail h))
  | case3 => exact .nil

end Escape

/-! ## Func literals -/

mutual

/-- No closing brace in the func literal of a parameter ends a placeholder but those written for that. -/
def Parameter.literalSealed : Parameter → Bool
  | ⟨_, _, _, .plain _⟩ => true
  | ⟨_, _, _, .signature ⟨_, _, args, returns⟩⟩ =>
    Parameter.argsSealed args && Parameter.returnsSealed returns

/-- The same for the parameters of a func literal. Their identifiers are not escaped. -/
def Parameter.argsSealed : List Parameter → Bool
  | [] => true
  | p :: ps =>
    !p.identifier.elem '}' && (if p.isFunc then p.literalSealed else isSealed p.typeText) &&
      Parameter.argsSealed ps

/-- The same for the returns of a func literal. -/
def Parameter.returnsSealed : List Parameter → Bool
  | [] => true
  | [r] => if r.isFunc then r.literalSealed else isSealed r.typeText
  | r₁ :: r₂ :: rs => (r₁ :: r₂ :: rs).all fun r => isSealed r.typeText

end

/-- What a func literal calls a parameter is read as it is, if the identifier has no closing brace. -/
theorem reads_literalLabel {p : Parameter} (h : Unmarked p.texts) (hb : '}' ∉ p.identifier)
    (position : Nat) : Reads (p.literalLabel position) (chars (p.literalLabel position)) := by
  obtain ⟨hdollar, hbackslash⟩ := h.of_mem p.identifier_mem_texts
  exact .chars (isBare_of_not_mem (not_mem_literalLabel (by decide) (by decide) hbackslash position)
    (not_mem_literalLabel (by decide) (by decide) hdollar position)
    (not_mem_literalLabel (by decide) (by decide) hb position))

/-- The returns of a func literal that are more than one are read as they are. -/
theorem exists_reads_literalTuple {rs : List Parameter} (h : Unmarked (Parameter.textsOf rs))
    (hs : ∀ r ∈ rs, isSealed r.typeText = true) : ∃ items, Reads (literalTuple rs).written items := by
  have hjoin : ∃ items, Reads (Text.join separator (rs.map fun r => escapeBraces r.typeText)) items := by
    induction rs with
    | nil => exact ⟨[], by simpa using Reads.nil⟩
    | cons r rs ih =>
      rw [Parameter.textsOf, Unmarked.append_iff] at h
      have hr := reads_escapeBraces (h.1.of_mem r.typeText_mem_texts) (hs r List.mem_cons_self)
      cases rs with
      | nil => exact ⟨_, by simpa using hr⟩
      | cons r' rs =>
        obtain ⟨items, hitems⟩ := ih h.2 fun q hq => hs q (List.mem_cons_of_mem r hq)
        rw [List.map_cons, List.map_cons, Text.join_cons_cons]
        exact ⟨_, (hr.append (.chars (by decide))).append hitems⟩
  obtain ⟨items, hitems⟩ := hjoin
  exact ⟨_, ((Reads.chars (w := [' ', '(']) (by decide)).append hitems).append
    (.chars (w := [')']) (by decide))⟩

/-- The body of a func literal: a tab-stop between braces. -/
theorem reads_bodyText (n : Nat) : Reads (bodyText n)
    (chars [' ', '{', '\n', '\t'] ++ [.stop n, .char '\n'] ++ [.char '}']) :=
  ((Reads.chars (by decide)).append (.stop n (by decide) (by decide))).append (.escaped rfl)

/-- **A func literal**, put together from its parameters and its returns, is a single placeholder. -/
theorem exists_reads_literal {inner out : Text} {is js : List Item} (hin : Reads inner is)
    (hout : Reads out js) (n m : Nat) :
    ∃ items, Reads ((literalHead n).written ++ inner ++ [')'] ++ out ++ (literalBody m).written)
      [.hole n (chars funcToken ++ items)] := by
  have hinside := (Reads.chars (w := funcToken) (by decide)).append
    (((hin.append (.chars (w := [')']) (by decide))).append hout).append (reads_bodyText m))
  rw [written_literal]
  exact ⟨_, hinside.hole n⟩

mutual

/-- **A func literal that is sealed** is a single placeholder. -/
theorem exists_reads_funcLiteral (position counter : Nat) : (p : Parameter) → Unmarked p.texts →
    p.literalSealed = true →
      ∃ items, Reads (funcLiteral position counter p).1.written
        [.hole (counter + 1) (chars funcToken ++ items)]
  | ⟨name, identifier, isFunc, .plain t⟩, _, _ => by
    rw [funcLiteral_plain]
    simpa [Snippet.both] using exists_reads_literal Reads.nil Reads.nil (counter + 1) (counter + 2)
  | ⟨name, identifier, isFunc, .signature ⟨isFunc', name', args, returns⟩⟩, h, hs => by
    simp only [Parameter.texts, ParameterType.texts, Signature.texts, Unmarked.cons_iff,
      Unmarked.append_iff] at h
    obtain ⟨-, -, -, hargs, hreturns⟩ := h
    rw [Parameter.literalSealed, Bool.and_eq_true] at hs
    obtain ⟨is, hin⟩ := exists_reads_literalArgs position (counter + 1) [] .nil args hargs hs.1
    obtain ⟨js, hout⟩ := exists_reads_literalReturns position
      (literalArgs position (counter + 1) [] args).2 returns hreturns hs.2
    rw [funcLiteral_signature]
    exact exists_reads_literal hin hout _ _

/-- The parameters of a func literal that are sealed can be read in any placeholder. -/
theorem exists_reads_literalArgs (position counter : Nat) (lead : Text) (hlead : Reads lead (chars lead)) :
    (ps : List Parameter) → Unmarked (Parameter.textsOf ps) → Parameter.argsSealed ps = true →
      ∃ items, Reads (literalArgs position counter lead ps).1.written items
  | [], _, _ => ⟨[], by rw [literalArgs_nil]; exact .nil⟩
  | p :: ps, h, hs => by
    rw [Parameter.textsOf, Unmarked.append_iff] at h
    simp only [Parameter.argsSealed, Bool.and_eq_true, Bool.not_eq_true', List.elem_eq_mem,
      decide_eq_false_iff_not] at hs
    obtain ⟨⟨hid, htype⟩, hps⟩ := hs
    have hlabel := (hlead.append ((reads_literalLabel h.1 hid position).hole (counter + 1))).append
      (.chars (w := [' ']) (by decide))
    have hread : ∃ items, Reads (if p.isFunc then funcLiteral position (counter + 1) p
        else (⟨escapeBraces p.typeText, p.typeText⟩, counter + 1)).1.written items := by
      split at htype
      · next hf =>
        rw [if_pos hf]
        obtain ⟨items, hitems⟩ := exists_reads_funcLiteral position (counter + 1) p h.1 htype
        exact ⟨_, hitems⟩
      · next hf =>
        rw [if_neg hf]
        exact ⟨_, reads_escapeBraces (h.1.of_mem p.typeText_mem_texts) htype⟩
    rw [literalArgs_cons]
    generalize (if p.isFunc then funcLiteral position (counter + 1) p
      else (⟨escapeBraces p.typeText, p.typeText⟩, counter + 1)) = type at hread ⊢
    obtain ⟨is, htype⟩ := hread
    obtain ⟨js, hothers⟩ := exists_reads_literalArgs position type.2 separator (.chars (by decide)) ps
      h.2 hps
    exact ⟨_, (hlabel.append htype).append hothers⟩

/-- The returns of a func literal that are sealed can be read in any placeholder. -/
theorem exists_reads_literalReturns (position counter : Nat) : (rs : List Parameter) →
    Unmarked (Parameter.textsOf rs) → Parameter.returnsSealed rs = true →
      ∃ items, Reads (literalReturns position counter rs).1.written items
  | [], _, _ => ⟨[], by rw [literalReturns_nil]; exact .nil⟩
  | [r], h, hs => by
    rw [Parameter.textsOf, Unmarked.append_iff] at h
    rw [Parameter.returnsSealed] at hs
    cases hr : r.isFunc with
    | true =>
      rw [hr, if_pos rfl] at hs
      obtain ⟨items, hitems⟩ := exists_reads_funcLiteral position counter r h.1 hs
      rw [literalReturns_func _ _ hr]
      exact ⟨_, (Reads.chars (w := [' ']) (by decide)).append hitems⟩
    | false =>
      rw [hr, if_neg Bool.false_ne_true] at hs
      rw [literalReturns_single _ _ hr]
      exact ⟨_, (Reads.chars (w := [' ']) (by decide)).append
        (reads_escapeBraces (h.1.of_mem r.typeText_mem_texts) hs)⟩
  | r₁ :: r₂ :: rs, h, hs => by
    rw [Parameter.returnsSealed, List.all_eq_true] at hs
    rw [literalReturns_tuple]
    exact exists_reads_literalTuple h hs

end

end GoCompletion
