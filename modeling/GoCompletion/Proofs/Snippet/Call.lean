import GoCompletion.Proofs.Signature.Characters
import GoCompletion.Proofs.Signature.Nesting
import GoCompletion.Proofs.Snippet.Placeholder
import Mathlib.Data.List.Forall2

/-!
# What the placeholders of a call hold

Read back, the snippet for a call is the name, an opening paren, one **block** of items for each parameter,
in order and with a separator between them, a closing paren, and the last tab-stop (`read_call_ofText`). A
variadic parameter at the end has no block. What the others have is told by `Block`:

* a func literal is one placeholder;
* any other parameter is one placeholder that holds its whole text, **if every closing brace in it stands
  right behind an opening one**;
* if not, the first closing brace that does not ends the placeholder, and what is behind it is left outside,
  with one closing brace more (`read_call_structKey`).
-/

namespace GoCompletion

open Template

/-- The parameters that are written in a call: a variadic one at the end is not. -/
def Parameter.written : List Parameter → List Parameter
  | [] => []
  | p :: ps => if ps.isEmpty && p.isVariadic then [] else p :: Parameter.written ps

/-- The items that a parameter of a call is read as. -/
inductive Block : Parameter → List Item → Prop
  /-- a func literal is a placeholder -/
  | literal {p : Parameter} (n : Nat) (inside : List Item) (h : p.isFunc = true) :
    Block p [.hole n (chars funcToken ++ inside)]
  /-- a sealed text is the default text of a placeholder -/
  | whole {p : Parameter} (n : Nat) (h : p.isFunc = false) (hs : isSealed p.name = true) :
    Block p [.hole n (chars p.name)]
  /-- any other text is cut where it has its first lone closing brace -/
  | broken {p : Parameter} (n : Nat) {inside outside : Text} (h : p.isFunc = false)
    (hc : cutLone p.name = some (inside, outside)) :
    Block p (.hole n (chars inside) :: (chars outside ++ [.char '}']))

/-- **The whole text** of a parameter is in a placeholder, and nothing of it outside, exactly if it is
sealed. -/
theorem Block.eq_hole_iff {p : Parameter} {items : List Item} (h : Block p items)
    (hf : p.isFunc = false) :
    (∃ n, items = [.hole n (chars p.name)]) ↔
      ∀ a b, p.name = a ++ '}' :: b → a.getLast? = some '{' := by
  rw [← isSealed_iff]
  cases h with
  | literal n inside h => exact absurd (h.symm.trans hf) (by decide)
  | whole n _ hs => exact ⟨fun _ => hs, fun _ => ⟨n, rfl⟩⟩
  | broken n _ hc =>
    rw [isSealed, hc]
    refine ⟨?_, fun h => absurd h Bool.false_ne_true⟩
    rintro ⟨m, hm⟩
    simp at hm

/-! ## Parameters -/

/-- A func parameter that has been read has a signature for its type, so it is not variadic. -/
theorem Parameter.isVariadic_ofSegment (read : Text → Signature) (segment : Text) :
    (ofSegment read segment).isFunc = true → (ofSegment read segment).isVariadic = false := by
  have htyped : ∀ identifier type, (ofSegment.typed read segment identifier type).isFunc = true →
      (ofSegment.typed read segment identifier type).isVariadic = false := by
    intro identifier type
    rw [ofSegment.typed]
    split
    · exact fun _ => rfl
    · exact fun h => absurd h Bool.false_ne_true
  unfold ofSegment
  split
  · exact htyped [] segment
  · split
    · exact fun h => absurd h Bool.false_ne_true
    · split
      · exact htyped _ _
      · exact fun h => absurd h Bool.false_ne_true

theorem Parameter.isVariadic_of_isFunc (text : Text) :
    ∀ p ∈ (Signature.ofText text).args, p.isFunc = true → p.isVariadic = false := by
  intro p hp
  rw [Signature.ofText, Signature.ofTextWithin] at hp
  split at hp
  · unfold Signature.plain at hp
    split at hp <;> exact absurd hp List.not_mem_nil
  · obtain ⟨segment, -, rfl⟩ := List.mem_map.mp hp
    exact isVariadic_ofSegment _ segment

variable {p : Parameter} {ps : List Parameter}

/-- **A parameter of a call** that is not left out is read as its block, and the others behind it. -/
theorem exists_block (hm : Unmarked p.texts) (hs : p.isFunc = true → p.literalSealed = true)
    (hv : (ps.isEmpty && p.isVariadic) = false) (position counter : Nat) :
    ∃ w counter' block, Block p block ∧ ReadsOutside w block ∧
      (callArgs .nameAndType position counter (p :: ps)).written =
        callLead position false ++ w ++ (callArgs .nameAndType (position + 1) counter' ps).written := by
  cases hf : p.isFunc with
  | true =>
    obtain ⟨inside, hread⟩ := exists_reads_funcLiteral position counter p hm (hs hf)
    exact ⟨_, _, _, .literal _ inside hf, hread.outside,
      by rw [written_callArgs_func _ _ _ hf, hv]⟩
  | false =>
    have hname := hm.of_mem p.name_mem_texts
    have hlabel : p.placeholderLabel .nameAndType = p.name := if_neg (by simp)
    have hwritten := written_callArgs_plain position counter .nameAndType hf hv
    rw [hlabel] at hwritten
    cases hc : cutLone p.name with
    | none =>
      have hsealed : isSealed p.name = true := by rw [isSealed, hc]; rfl
      exact ⟨_, _, _, .whole (counter + 1) hf hsealed,
        ((reads_escapeBraces hname hsealed).hole _).outside, hwritten⟩
    | some cut =>
      obtain ⟨inside, outside⟩ := cut
      obtain ⟨v, hv, he⟩ := exists_reads_of_cutLone hname hc
      have houtside : '$' ∉ outside ∧ '\\' ∉ outside := by
        rw [cutLone_eq_some hc] at hname
        exact ⟨fun hm => hname.1 (by simp [hm]), fun hm => hname.2 (by simp [hm])⟩
      rw [he] at hwritten
      exact ⟨_, _, _, .broken (counter + 1) hf hc,
        .hole_append hv (readsOutside_escapeBraces houtside) _, hwritten⟩

theorem intercalate_cons (sep block : List Item) (blocks : List (List Item)) :
    sep.intercalate (block :: blocks) = block ++ blocks.flatMap (sep ++ ·) := by
  induction blocks generalizing block with
  | nil => rw [List.intercalate_singleton, List.flatMap_nil, List.append_nil]
  | cons next blocks ih =>
    rw [List.intercalate_cons_cons, ih, List.flatMap_cons, List.append_assoc, List.append_assoc]

/-- **The parameters of a call** are read as one block each. -/
theorem exists_blocks (hm : Unmarked (Parameter.textsOf ps))
    (hs : ∀ p ∈ ps, p.isFunc = true → p.literalSealed = true)
    (hv : ∀ p ∈ ps, p.isFunc = true → p.isVariadic = false) (position counter : Nat) :
    ∃ blocks, List.Forall₂ Block (Parameter.written ps) blocks ∧
      ReadsOutside (callArgs .nameAndType position counter ps).written
        (if position = 0 then (chars separator).intercalate blocks
          else blocks.flatMap (chars separator ++ ·)) := by
  induction ps generalizing position counter with
  | nil =>
    rw [written_callArgs_nil, Parameter.written]
    refine ⟨[], .nil, ?_⟩
    split <;> exact .nil
  | cons p ps ih =>
    rw [Parameter.textsOf, Unmarked.append_iff] at hm
    rw [List.forall_mem_cons] at hs hv
    rw [Parameter.written]
    cases homitted : ps.isEmpty && p.isVariadic with
    | true =>
      obtain ⟨hnil, hvar⟩ := Bool.and_eq_true_iff.mp homitted
      obtain rfl := List.isEmpty_iff.mp hnil
      have hf : p.isFunc = false := by
        cases hf : p.isFunc with
        | true => exact absurd ((hv.1 hf).symm.trans hvar) (by decide)
        | false => rfl
      rw [written_callArgs_omitted _ _ _ hf hvar, if_pos rfl]
      refine ⟨[], .nil, ?_⟩
      split <;> exact .nil
    | false =>
      obtain ⟨w, counter', block, hblock, hread, hwritten⟩ :=
        exists_block hm.1 hs.1 homitted position counter
      obtain ⟨blocks, hblocks, hothers⟩ := ih hm.2 hs.2 hv.2 (position + 1) counter'
      rw [if_neg (Nat.succ_ne_zero position)] at hothers
      rw [hwritten, if_neg Bool.false_ne_true]
      refine ⟨block :: blocks, .cons hblock hblocks, ?_⟩
      by_cases hp : position = 0
      · rw [if_pos hp, callLead, if_pos (.inl hp), List.nil_append, intercalate_cons]
        exact hread.append hothers
      · rw [if_neg hp, callLead, if_neg (by simp [hp]), List.flatMap_cons]
        exact ((Reads.chars (by decide)).outside.append hread).append hothers

/-! ## Calls -/

/-- **A call, read back**: the name, one block for each parameter that is written, in order, and the last
tab-stop. The whole text of a parameter that is no func is in its placeholder, with nothing left outside,
exactly if every closing brace in it stands right behind an opening one. -/
theorem read_call_ofText (name text : Text) (hname : '$' ∉ name) (hd : '$' ∉ text) (hb : '\\' ∉ text)
    (hs : ∀ p ∈ (Signature.ofText text).args, p.isFunc = true → p.literalSealed = true) :
    ∃ lead blocks, ('\\' ∉ name → lead = name) ∧
      read (Snippet.call .nameAndType name (some (Signature.ofText text))).written =
        chars (lead ++ ['(']) ++ (chars separator).intercalate blocks ++ [.char ')', .stop 0] ∧
      List.Forall₂ (fun p items => Block p items ∧ (p.isFunc = false →
          ((∃ n, items = [.hole n (chars p.name)]) ↔
            ∀ a b, p.name = a ++ '}' :: b → a.getLast? = some '{')))
        (Parameter.written (Signature.ofText text).args) blocks := by
  have hm : Unmarked (Signature.ofText text).texts :=
    ⟨freeOf_texts_ofText (by decide) hd, freeOf_texts_ofText (by decide) hb⟩
  have hv := Parameter.isVariadic_of_isFunc text
  generalize Signature.ofText text = s at hs hm hv
  obtain ⟨isFunc, name', args, returns⟩ := s
  rw [Signature.texts, Unmarked.cons_iff, Unmarked.append_iff] at hm
  obtain ⟨lead, hlead, heq⟩ := ReadsOutside.of_not_mem hname (c := '(') (by decide)
  obtain ⟨blocks, hblocks, hread⟩ := exists_blocks hm.2.1 hs hv 0 0
  refine ⟨lead, blocks, heq, (hlead.append hread).read_end, ?_⟩
  exact hblocks.imp fun p items h => ⟨h, h.eq_hole_iff⟩

/-- A func literal, a parameter whose text is not sealed, and a variadic one at the end. -/
theorem read_call_visit :
    let text :=
      "func(visit func(x interface\x7b\x7d) error, m map[struct\x7bA int\x7d]string, rest ...int)".toList
    let args := (Signature.ofText text).args
    ('$' ∉ "Walk".toList ∧ '$' ∉ text ∧ '\\' ∉ text ∧
        ∀ p ∈ args, p.isFunc = true → p.literalSealed = true) ∧
      (Parameter.written args).map (·.name) =
        ["visit func(x interface\x7b\x7d) error".toList, "m map[struct\x7bA int\x7d]string".toList] ∧
      ∃ blocks, read (Snippet.call .nameAndType "Walk".toList (some (Signature.ofText text))).written =
          chars "Walk(".toList ++ (chars separator).intercalate blocks ++ [.char ')', .stop 0] ∧
        List.Forall₂ Block (Parameter.written args) blocks := by
  intro text args
  have hname : '$' ∉ "Walk".toList := by decide
  have hd : '$' ∉ text := by decide
  have hb : '\\' ∉ text := by decide
  have hs : ∀ p ∈ args, p.isFunc = true → p.literalSealed = true := by decide +kernel
  obtain ⟨lead, blocks, hlead, hread, hblocks⟩ := read_call_ofText "Walk".toList text hname hd hb hs
  rw [hlead (by decide)] at hread
  exact ⟨⟨hname, hd, hb, hs⟩, by decide +kernel, blocks, hread, hblocks.imp fun _ _ h => h.1⟩

/-- **A struct type in the text of a parameter** is not sealed: the placeholder of the parameter ends with
the brace that closes the struct type, and what is behind it is left outside. -/
theorem read_call_structKey :
    let text := "func(m map[struct\x7bA int\x7d]string)".toList
    let s := Signature.ofText text
    Nested text ∧ '$' ∉ text ∧ '\\' ∉ text ∧
      s.args.map (fun p => (p.isFunc, p.isVariadic, p.name)) =
        [(false, false, "m map[struct\x7bA int\x7d]string".toList)] ∧
      read (Snippet.call .nameAndType "F".toList (some s)).written =
        chars "F(".toList ++ .hole 1 (chars "m map[struct\x7bA int".toList) ::
          (chars "]string\x7d)".toList ++ [.stop 0]) := by
  intro text s
  have hnested : Nested text := by
    have hstruct : Nested "struct\x7bA int\x7d".toList :=
      (Nested.of_all (t := "struct".toList) (by decide)).append
        (.pair (o := '{') (c := '}') (s := "A int".toList) (by decide) (.of_all (by decide)) .nil)
    have hkey : Nested "m map[struct\x7bA int\x7d]string".toList :=
      (Nested.of_all (t := "m map".toList) (by decide)).append
        (.pair (o := '[') (c := ']') (by decide) hstruct (.of_all (t := "string".toList) (by decide)))
    exact (Nested.of_all (t := "func".toList) (by decide)).append (.parens hkey .nil)
  have hwritten : (Snippet.call .nameAndType "F".toList (some s)).written =
      "F(".toList ++ placeholder 1 ("m map[struct\x7bA int".toList ++ '}' :: "]string".toList) ++
        [')', '$', '0'] := by decide +kernel
  refine ⟨hnested, by decide, by decide, by decide +kernel, ?_⟩
  have hhole := ReadsOutside.hole_append (Reads.chars (w := "m map[struct\x7bA int".toList) (by decide))
    (Reads.chars (w := "]string".toList) (by decide)).outside 1
  rw [hwritten, ((Reads.chars (w := "F(".toList) (by decide)).outside.append hhole).read_end]
  rfl

end GoCompletion
