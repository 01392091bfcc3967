import GoCompletion.Proofs.Document.Locate
import GoCompletion.Proofs.Text.Lines

/-!
# Cursors

The cursor of an editor stands on one of the lines that are shown, between two characters of it; its position
counts the units of the characters in front on that line (`Document.CursorAt`). **Such a position is found in
the text**: it is taken for itself, and what is in front of it in the text is what is above the line and what
is in front on it (`Document.CursorAt.exists_above`).
-/

namespace GoCompletion

namespace Utf16

/-- The units of a character: a pair of surrogates if it is not in the basic plane. -/
def encodeChar (c : Char) : List Nat :=
  if c.toNat < 0x10000 then [c.toNat]
  else [0xD800 + (c.toNat - 0x10000) / 0x400, 0xDC00 + (c.toNat - 0x10000) % 0x400]

/-- The units of a text. -/
def encode (t : Text) : List Nat := t.flatMap encodeChar

theorem encode_append (s t : Text) : encode (s ++ t) = encode s ++ encode t := List.flatMap_append

theorem length_encode (t : Text) : (encode t).length = units t := by
  induction t with
  | nil => rfl
  | cons c r ih =>
    have hc : (encodeChar c).length = charUnits c := by
      unfold encodeChar charUnits
      split <;> rfl
    change (encodeChar c ++ encode r).length = charUnits c + units r
    rw [List.length_append, hc, ih]

/-- To have the units of a start of a text, it takes that start. -/
theorem charsFor_units (s t : Text) : charsFor (units s) (s ++ t) = s.length := by
  induction s with
  | nil =>
    cases t with
    | nil => rfl
    | cons c r => rfl
  | cons c s ih =>
    have hunits : units (c :: s) = charUnits c + units s := rfl
    have hpos : charUnits c ≠ 0 := by
      unfold charUnits
      split <;> decide
    rw [List.cons_append, charsFor, hunits, if_neg (by omega), Nat.add_sub_cancel_left, ih, List.length_cons]

end Utf16

namespace Document

/-- Without its break, a line is the start of what it is taken for. -/
theorem withoutBreak_prefix_plainLine (l : Text) : l.withoutBreak <+: plainLine l := by
  unfold plainLine
  split
  · next h =>
    obtain ⟨m, rfl⟩ := List.isSuffixOf_iff_suffix.mp h
    have htake : (m ++ ['\r', '\n']).take ((m ++ ['\r', '\n']).length - 2) = m := by simp
    rw [htake, Text.withoutBreak_append Text.Break.pair.forall_isLineBreak]
    exact (Text.withoutBreak_prefix m).trans (List.prefix_append m _)
  · exact Text.withoutBreak_prefix l

/-- A cursor is at a position, with a text in front of it on its line and a text behind. -/
structure CursorAt (t : Text) (p : Position) (before behind : Text) : Prop where
  /-- the line that it is on -/
  line : t.shownLines[p.line]? = some (before ++ behind)
  /-- the units in front of it -/
  character : Utf16.units before = p.character

/-- A cursor can be at the position. -/
def InRange (t : Text) (p : Position) : Prop := ∃ before behind, CursorAt t p before behind

/-- **The position of a cursor is found.** It is taken for itself, and in front of it is a text that ends in a
line break or is empty, and what is in front of the cursor on its line, which holds no line break. Its index
is right behind that, unless there is nothing on the line. -/
theorem CursorAt.exists_above {t before behind : Text} {p : Position} (h : CursorAt t p before behind) :
    ∃ above : Text, above.Closed ∧ before.Unbroken ∧ (locate t p).2 = p ∧
      t.take (locate t p).1 = above ++ before ∧
        (before ≠ [] → (locate t p).1 = (above ++ before).length) := by
  obtain ⟨hi, hline⟩ | ⟨hi, hclosed, hline⟩ := Text.shownLines_cases h.line
  · obtain ⟨rest, hrest⟩ := withoutBreak_prefix_plainLine t.lines[p.line]
    have hplain : plainLine t.lines[p.line] = before ++ (behind ++ rest) := by
      rw [← hrest, ← hline, List.append_assoc]
    obtain ⟨rest', hrest'⟩ := Text.withoutBreak_prefix t.lines[p.line]
    have hunits : ¬ Utf16.units (plainLine t.lines[p.line]) < p.character := by
      rw [hplain, Utf16.units_append, h.character]
      omega
    have hlocate : locate t p = (((t.lines.take p.line).flatten ++ before).length, p) := by
      rw [locate, List.getElem?_eq_getElem hi]
      dsimp only
      rw [if_neg hunits, hplain, ← h.character, Utf16.charsFor_units, lengthOf_eq_length_flatten,
        List.length_append]
    have htext : t = (t.lines.take p.line).flatten ++ before ++
        (behind ++ rest' ++ (t.lines.drop (p.line + 1)).flatten) := by
      calc t
        _ = (t.lines.take p.line).flatten ++ (t.lines[p.line] ++ (t.lines.drop (p.line + 1)).flatten) :=
          eq_above_append hi
        _ = _ := by
          rw [← hrest', ← hline]
          simp only [List.append_assoc]
    refine ⟨(t.lines.take p.line).flatten, Text.closed_above (Text.cut_lines t) hi, fun c hc => ?_,
      by rw [hlocate], ?_, fun _ => by rw [hlocate]⟩
    · refine Text.unbroken_withoutBreak (Text.cut_lines t) _ (List.getElem_mem hi) c ?_
      rw [← hline]
      exact List.mem_append_left _ hc
    · rw [hlocate]
      exact (congrArg (List.take _) htext).trans List.take_left
  · -- the line behind a break at the end of the text
    obtain ⟨rfl, rfl⟩ := List.append_eq_nil_iff.mp hline
    have hnone : t.lines[p.line]? = none := List.getElem?_eq_none (Nat.le_of_eq hi.symm)
    have hlocate : locate t p = (lengthOf t.lines.dropLast + Utf16.units (t.lines.getLastD []), p) := by
      rw [locate, hnone]
    have hlength : t.length ≤ lengthOf t.lines.dropLast + Utf16.units (t.lines.getLastD []) := by
      have hlast := Utf16.length_le_units (t.lines.getLastD [])
      rw [← lengthOf_dropLast_lines t]
      omega
    refine ⟨t, hclosed, List.forall_mem_nil _, by rw [hlocate], ?_, fun hne => absurd rfl hne⟩
    rw [hlocate, List.append_nil]
    exact List.take_of_length_le hlength

end Document

end GoCompletion
