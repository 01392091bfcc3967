import GoCompletion.Proofs.Snippet.Mark

/-!
# Reading snippets

What an editor makes of a snippet: characters, tab-stops and placeholders, which hold items again
(`Template.read`). A placeholder goes from its mark to the closing brace that matches it, where only marks
open: a brace that opens nothing but itself is a character like any other, and **a closing brace in a default
text ends the placeholder, unless a backslash stands in front of it**. A placeholder that is never closed is
none, and a closing brace outside all placeholders is a character.

A part of a snippet is known by the items that it adds to those read before it:

* `Reads` — whatever placeholders are open around it;
* `ReadsOutside` — where none is open.

Both say nothing about what is written behind the part, so parts can be put together
(`Reads.append`, `ReadsOutside.append`).
-/

namespace GoCompletion

namespace Template

/-- A token of a snippet. -/
inductive Token where
  /-- a character that stands for itself -/
  | char (c : Char)
  /-- the mark of a tab-stop or of a placeholder -/
  | mark (m : Mark)
  /-- a closing brace without a backslash in front of it -/
  | closing
  deriving DecidableEq, Repr

/-- The character stands for itself behind a backslash, which is dropped then. -/
def isEscapable (c : Char) : Bool := c == '$' || c == '}' || c == '\\'

/-- No character of the text has a meaning of its own. -/
def isBare (t : Text) : Bool := t.all (!isEscapable ·)

/-- The tokens of a snippet. -/
def tokens : Text → List Token
  | [] => []
  | c :: r =>
    if c = '\\' then
      match r with
      | [] => [.char c]
      | d :: rest => if isEscapable d then .char d :: tokens rest else .char c :: tokens (d :: rest)
    else if c = '$' then
      match h : markBehind r with
      | some (m, rest) =>
        have := length_le_of_markBehind h
        .mark m :: tokens rest
      | none => .char c :: tokens r
    else if c = '}' then .closing :: tokens r
    else .char c :: tokens r
termination_by t => t.length

/-- An item of a snippet. -/
inductive Item where
  /-- a character -/
  | char (c : Char)
  /-- a tab-stop -/
  | stop (n : Nat)
  /-- a placeholder with its default text -/
  | hole (n : Nat) (inside : List Item)

/-- The characters of a text. -/
def chars (t : Text) : List Item := t.map .char

@[simp] theorem chars_nil : chars [] = [] := rfl

@[simp] theorem chars_cons (c : Char) (t : Text) : chars (c :: t) = .char c :: chars t := rfl

/-- The items read so far, at the end of a snippet. The marks of placeholders that are still open are
characters. -/
def unclosed : List (Nat × List Item) → List Item → List Item
  | [], done => done
  | (n, before) :: outer, done =>
    unclosed outer (before ++ chars ('$' :: '{' :: (Text.ofNat n ++ [':'])) ++ done)

/-- The items of a snippet of which some tokens are left: `done` has been read in the innermost placeholder
that is open, and `outer` tells the ones that are open, the innermost first, with what has been read in
front of each. -/
def assemble : List (Nat × List Item) → List Item → List Token → List Item
  | outer, done, [] => unclosed outer done
  | outer, done, .char c :: ts => assemble outer (done ++ [.char c]) ts
  | outer, done, .mark (.stop n) :: ts => assemble outer (done ++ [.stop n]) ts
  | outer, done, .mark (.hole n) :: ts => assemble ((n, done) :: outer) [] ts
  | [], done, .closing :: ts => assemble [] (done ++ [.char '}']) ts
  | (n, before) :: outer, done, .closing :: ts => assemble outer (before ++ [.hole n done]) ts

/-- The items of a snippet. -/
def read (t : Text) : List Item := assemble [] [] (tokens t)

/-! ## The first token -/

theorem isEscapable_eq_false {c : Char} :
    isEscapable c = false ↔ c ≠ '\\' ∧ c ≠ '$' ∧ c ≠ '}' := by
  simp only [isEscapable, Bool.or_eq_false_iff, beq_eq_false_iff_ne]
  rw [and_comm]

theorem isBare_of_not_mem {t : Text} (hb : '\\' ∉ t) (hd : '$' ∉ t) (hc : '}' ∉ t) : isBare t = true := by
  refine List.all_eq_true.mpr fun c hm => ?_
  have hplain : isEscapable c = false := isEscapable_eq_false.mpr
    ⟨fun he => hb (he ▸ hm), fun he => hd (he ▸ hm), fun he => hc (he ▸ hm)⟩
  rw [hplain]
  rfl

theorem tokens_char {c : Char} (h : isEscapable c = false) (r : Text) :
    tokens (c :: r) = .char c :: tokens r := by
  obtain ⟨hb, hd, hc⟩ := isEscapable_eq_false.mp h
  rw [tokens.eq_def]
  exact (if_neg hb).trans ((if_neg hd).trans (if_neg hc))

theorem tokens_closing (r : Text) : tokens ('}' :: r) = .closing :: tokens r := by
  rw [tokens.eq_def]
  rfl

theorem tokens_escaped {d : Char} (h : isEscapable d = true) (r : Text) :
    tokens ('\\' :: d :: r) = .char d :: tokens r := by
  rw [tokens, if_pos rfl]
  simp only [h, if_true]

theorem tokens_backslash {d : Char} (h : isEscapable d = false) (r : Text) :
    tokens ('\\' :: d :: r) = .char '\\' :: tokens (d :: r) := by
  rw [tokens, if_pos rfl]
  simp only [h, Bool.false_eq_true, if_false]

theorem tokens_mark {m : Mark} {r rest : Text} (h : markBehind r = some (m, rest)) :
    tokens ('$' :: r) = .mark m :: tokens rest := by
  rw [tokens.eq_def]
  simp only [Char.reduceEq, if_false, if_true]
  split
  · next h' =>
    rw [h] at h'
    cases h'
    rfl
  · next h' =>
    rw [h] at h'
    cases h'

/-! ## Parts of a snippet -/

/-- The part adds the items to what is read in the innermost placeholder that is open. -/
def Reads (w : Text) (items : List Item) : Prop :=
  ∀ outer done rest, assemble outer done (tokens (w ++ rest)) = assemble outer (done ++ items) (tokens rest)

/-- The part adds the items to what is read where no placeholder is open. -/
def ReadsOutside (w : Text) (items : List Item) : Prop :=
  ∀ done rest, assemble [] done (tokens (w ++ rest)) = assemble [] (done ++ items) (tokens rest)

variable {v w : Text} {is js : List Item}

theorem ReadsOutside.nil : ReadsOutside [] [] := fun done rest => by simp

theorem ReadsOutside.append (hv : ReadsOutside v is) (hw : ReadsOutside w js) :
    ReadsOutside (v ++ w) (is ++ js) := by
  intro done rest
  rw [List.append_assoc, hv, hw, List.append_assoc]

namespace Reads

theorem outside (h : Reads w is) : ReadsOutside w is := h []

theorem nil : Reads [] [] := fun outer done rest => by simp

theorem append (hv : Reads v is) (hw : Reads w js) : Reads (v ++ w) (is ++ js) := by
  intro outer done rest
  rw [List.append_assoc, hv, hw, List.append_assoc]

/-- A character that has no meaning of its own is read as it is. -/
theorem char {c : Char} (h : isEscapable c = false) : Reads [c] [.char c] := by
  intro outer done rest
  rw [List.singleton_append, tokens_char h, assemble]

/-- A bare text is read as it is. -/
theorem chars (h : isBare w = true) : Reads w (chars w) := by
  induction w with
  | nil => exact nil
  | cons c w ih =>
    rw [isBare, List.all_cons, Bool.and_eq_true, Bool.not_eq_true'] at h
    exact (char h.1).append (ih h.2)

/-- A character behind a backslash that it needs to stand for itself. -/
theorem escaped {c : Char} (h : isEscapable c = true) : Reads ['\\', c] [.char c] := by
  intro outer done rest
  rw [List.cons_append, List.cons_append, tokens_escaped h, assemble]
  rfl

/-- A tab-stop, with the character behind it, which is no digit. -/
theorem stop (n : Nat) {c : Char} (hd : c.isDigit = false) (hc : isEscapable c = false) :
    Reads ('$' :: (Text.ofNat n ++ [c])) [.stop n, .char c] := by
  intro outer done rest
  have hmark : markBehind (Text.ofNat n ++ c :: rest) = some (.stop n, c :: rest) :=
    markBehind_stop n (by simpa using hd)
  have hsplit : '$' :: (Text.ofNat n ++ [c]) ++ rest = '$' :: (Text.ofNat n ++ c :: rest) := by simp
  rw [hsplit, tokens_mark hmark, assemble, tokens_char hc, assemble, List.append_assoc]
  rfl

/-- **A placeholder**: what is read between its mark and its closing brace is its default text. -/
theorem hole (h : Reads w is) (n : Nat) : Reads (placeholder n w) [.hole n is] := by
  intro outer done rest
  have hsplit : placeholder n w ++ rest =
      '$' :: '{' :: (Text.ofNat n ++ ':' :: (w ++ '}' :: rest)) := by simp [placeholder]
  rw [hsplit, tokens_mark (markBehind_hole n _), assemble, h, tokens_closing, assemble,
    List.nil_append]

end Reads

namespace ReadsOutside

/-- A closing brace outside all placeholders is a character. -/
theorem brace : ReadsOutside ['}'] [.char '}'] := by
  intro done rest
  rw [List.cons_append, List.nil_append, tokens_closing, assemble]

/-- **A placeholder that is closed too early**: what is written behind the brace that closes it is left
outside. -/
theorem hole_append (hv : Reads v is) (hw : ReadsOutside w js) (n : Nat) :
    ReadsOutside (placeholder n (v ++ '}' :: w)) (.hole n is :: (js ++ [.char '}'])) := by
  have hsplit : placeholder n (v ++ '}' :: w) = placeholder n v ++ (w ++ ['}']) := by
    simp [placeholder]
  rw [hsplit]
  exact (hv.hole n).outside.append (hw.append brace)

/-- A text without dollar signs has no marks: it is read as characters, and if it has no backslashes as what
it is. A character that needs no backslash ends it, so that its own last one escapes nothing. -/
theorem of_not_mem {t : Text} (hd : '$' ∉ t) {c : Char} (hc : isEscapable c = false) :
    ∃ s, ReadsOutside (t ++ [c]) (chars (s ++ [c])) ∧ ('\\' ∉ t → s = t) := by
  fun_induction tokens t with
  | case1 => exact ⟨[], (Reads.char hc).outside, fun _ => rfl⟩
  | case2 =>
    refine ⟨['\\'], ?_, fun _ => rfl⟩
    intro done rest
    have hsplit : ['\\'] ++ [c] ++ rest = '\\' :: c :: rest := rfl
    rw [hsplit, tokens_backslash hc, assemble, tokens_char hc, assemble, List.append_assoc]
    rfl
  | case3 d r he ih =>
    simp only [List.mem_cons, not_or] at hd
    obtain ⟨s, hs, -⟩ := ih hd.2.2
    refine ⟨d :: s, ?_, fun h => absurd List.mem_cons_self h⟩
    exact (Reads.escaped he).outside.append hs
  | case4 d r he ih =>
    obtain ⟨s, hs, -⟩ := ih fun hm => hd (List.mem_cons_of_mem _ hm)
    refine ⟨'\\' :: s, ?_, fun h => absurd List.mem_cons_self h⟩
    intro done rest
    have hsplit : '\\' :: d :: r ++ [c] ++ rest = '\\' :: d :: (r ++ [c] ++ rest) := rfl
    have hread : assemble [] (done ++ [.char '\\']) (tokens (d :: (r ++ [c] ++ rest))) = _ :=
      hs (done ++ [.char '\\']) rest
    rw [hsplit, tokens_backslash (Bool.eq_false_iff.mpr he), assemble, hread, List.append_assoc]
    rfl
  | case5 => exact absurd List.mem_cons_self hd
  | case6 => exact absurd List.mem_cons_self hd
  | case7 r _ _ ih =>
    obtain ⟨s, hs, he⟩ := ih fun hm => hd (List.mem_cons_of_mem _ hm)
    refine ⟨'}' :: s, brace.append hs, fun h => ?_⟩
    rw [he fun hm => h (List.mem_cons_of_mem _ hm)]
  | case8 d r hb hd' hc' ih =>
    obtain ⟨s, hs, he⟩ := ih fun hm => hd (List.mem_cons_of_mem _ hm)
    refine ⟨d :: s, ?_, fun h => ?_⟩
    · exact (Reads.char (isEscapable_eq_false.mpr ⟨hb, hd', hc'⟩)).outside.append hs
    · rw [he fun hm => h (List.mem_cons_of_mem _ hm)]

/-- A snippet that ends with a closing paren and the last tab-stop. -/
theorem read_end (h : ReadsOutside w is) : read (w ++ [')', '$', '0']) = is ++ [.char ')', .stop 0] := by
  have hmark : markBehind ['0'] = some (.stop 0, []) := by decide
  rw [read, h, List.nil_append, tokens_char (by decide), assemble, tokens_mark hmark, assemble, tokens,
    assemble, unclosed, List.append_assoc]
  rfl

end ReadsOutside

end Template

end GoCompletion
