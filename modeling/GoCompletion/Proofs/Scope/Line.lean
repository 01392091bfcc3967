import GoCompletion.Proofs.Scope.Reach

/-!
# Constructs on one line

A line comment is over where its line ends, and so is a literal that is not closed there, unless an escape
takes the newline along. Which newlines are escaped is told by the backslashes in front of them, an odd
number of them (`EndsInEscape`), without reading the literal from its start: its body and its escapes fit
together (`LiteralBody.endsInEscape`).

So **an escaped newline is the only one inside a literal, and no literal ends there**
(`newline_inside_iff`).
-/

namespace GoCompletion

/-! ## Escapes -/

/-- The character behind the text is escaped: the backslashes at the end of the text are odd in number. -/
def EndsInEscape (t : Text) : Prop := (t.reverse.takeWhile (· == '\\')).length % 2 = 1

instance (t : Text) : Decidable (EndsInEscape t) := inferInstanceAs (Decidable (_ = 1))

theorem endsInEscape_concat (t : Text) (c : Char) :
    EndsInEscape (t ++ [c]) ↔ c = '\\' ∧ ¬ EndsInEscape t := by
  unfold EndsInEscape
  rw [List.reverse_append, List.reverse_singleton, List.singleton_append, List.takeWhile_cons]
  by_cases hc : c = '\\'
  · simp only [hc, beq_self_eq_true, if_true, List.length_cons, true_and]
    omega
  · simp [hc]

/-- Behind a character that is no backslash nothing is escaped. -/
theorem not_endsInEscape_plain (t : Text) {c : Char} (hc : c ≠ '\\') : ¬ EndsInEscape (t ++ [c]) :=
  fun h => hc ((endsInEscape_concat t c).mp h).1

/-- Behind an escape nothing is escaped, whatever has been. -/
theorem not_endsInEscape_pair {t : Text} (ht : ¬ EndsInEscape t) (c : Char) :
    ¬ EndsInEscape (t ++ ['\\', c]) := by
  have hpair : t ++ ['\\', c] = t ++ ['\\'] ++ [c] := by simp
  rw [hpair, endsInEscape_concat, endsInEscape_concat]
  exact fun h => h.2 ⟨rfl, ht⟩

namespace LiteralBody

variable {q : Char} {body front : Text}

/-- Behind the body of a literal nothing is escaped. -/
theorem not_endsInEscape (h : LiteralBody q body) (hfront : ¬ EndsInEscape front) :
    ¬ EndsInEscape (front ++ body) := by
  induction h generalizing front with
  | nil => rwa [List.append_nil]
  | @escape c r _ ih =>
    rw [List.append_cons, List.append_cons, List.append_assoc front]
    exact ih (not_endsInEscape_pair hfront c)
  | plain hescape _ _ _ ih =>
    rw [List.append_cons]
    exact ih (not_endsInEscape_plain front hescape)

/-- **A newline in the body of a literal is escaped.** -/
theorem endsInEscape (h : LiteralBody q body) (hfront : ¬ EndsInEscape front) {u v : Text}
    (hbody : body = u ++ '\n' :: v) : EndsInEscape (front ++ u) := by
  induction h generalizing front u with
  | nil => simp at hbody
  | @escape c r _ ih =>
    match u with
    | [] => cases hbody
    | [d] =>
      obtain ⟨rfl, -⟩ := List.cons.inj hbody
      exact (endsInEscape_concat front '\\').mpr ⟨rfl, hfront⟩
    | d :: e :: u =>
      simp only [List.cons_append, List.cons.injEq] at hbody
      obtain ⟨rfl, rfl, hr⟩ := hbody
      rw [List.append_cons, List.append_cons, List.append_assoc front]
      exact ih (not_endsInEscape_pair hfront c) hr
  | @plain c r hescape _ hbreak _ ih =>
    match u with
    | [] => exact absurd (List.cons.inj hbody).1 hbreak
    | d :: u =>
      obtain ⟨rfl, hr⟩ := List.cons.inj hbody
      rw [List.append_cons]
      exact ih (not_endsInEscape_plain front hescape) hr

end LiteralBody

/-! ## Newlines in constructs -/

section Constructs

variable {kind : Construct} {q : Char} {front body rest : Text}

/-- The opening quote and the body of a literal, and what ends it: its closing quote, the end of its line, or
a backslash at the end of the text. -/
theorem Lexeme.exists_literalBody (hquote : kind.quote = some q) (h : Lexeme kind body rest) :
    ∃ inner tail, body = q :: (inner ++ tail) ∧ LiteralBody q inner ∧
      (tail = [q] ∨ tail = [] ∧ EndsLine rest ∨ tail = ['\\'] ∧ rest = []) := by
  have hq : ∀ {q'}, kind.quote = some q' → q' = q := fun hq' => Option.some.inj (hq'.symm.trans hquote)
  cases h with
  | lineComment _ _ | blockComment _ _ | openComment _ | rawString _ _ | openString _ => cases hquote
  | literal _ hq' hbody =>
    obtain rfl := hq hq'
    exact ⟨_, _, rfl, hbody, .inl rfl⟩
  | brokenLiteral hq' hbody hrest =>
    obtain rfl := hq hq'
    exact ⟨_, [], by simp, hbody, .inr (.inl ⟨rfl, hrest⟩)⟩
  | brokenEscape hq' hbody =>
    obtain rfl := hq hq'
    exact ⟨_, _, rfl, hbody, .inr (.inr ⟨rfl, rfl⟩)⟩

/-- In a line comment there is no newline, and in a literal on one line it is escaped. -/
theorem Lexeme.endsInEscape_of_newline (hkind : kind = .lineComment ∨ ∃ q, kind.quote = some q)
    (h : Lexeme kind body rest) {u v : Text} (hbody : body = u ++ '\n' :: v) :
    kind ≠ .lineComment ∧ EndsInEscape (front ++ u) := by
  obtain rfl | ⟨q, hquote⟩ := hkind
  · cases h with
    | lineComment hinner _ =>
      have hmem : '\n' ∈ u ++ '\n' :: v := by simp
      rw [← hbody] at hmem
      simp [hinner] at hmem
    | literal _ hq _ | brokenLiteral hq _ _ | brokenEscape hq _ => cases hq
  · have hliteral : kind ≠ .lineComment := fun hcomment => by
      rw [hcomment] at hquote
      cases hquote
    refine ⟨hliteral, ?_⟩
    obtain ⟨hescape, hbreak, -⟩ := Construct.ne_of_quote hquote
    obtain ⟨inner, tail, rfl, hinner, htail⟩ := h.exists_literalBody hquote
    have htail : '\n' ∉ tail := by
      obtain rfl | ⟨rfl, -⟩ | ⟨rfl, -⟩ := htail <;> simp [hbreak.symm]
    cases u with
    | nil => exact absurd (List.cons.inj hbody).1 hbreak
    | cons c u =>
      obtain ⟨rfl, hsplit⟩ := List.cons.inj hbody
      rw [List.append_cons]
      -- the newline stands in the body, as the end of the literal has none
      obtain ⟨w, rfl, hw⟩ | ⟨w, rfl, hw⟩ := List.append_eq_append_iff.mp hsplit
      · rw [hw] at htail
        simp at htail
      · cases w with
        | nil =>
          rw [List.nil_append] at hw
          simp [← hw] at htail
        | cons d w =>
          obtain ⟨rfl, -⟩ := List.cons.inj hw
          exact hinner.endsInEscape (not_endsInEscape_plain front hescape) rfl

/-- Behind a literal on one line an escaped newline does not stand. -/
theorem Lexeme.not_endsInEscape (hquote : kind.quote = some q) (h : Lexeme kind body rest)
    (hrest : rest ≠ []) : ¬ EndsInEscape (front ++ body) := by
  obtain ⟨hescape, -, -⟩ := Construct.ne_of_quote hquote
  obtain ⟨inner, tail, rfl, hinner, htail⟩ := h.exists_literalBody hquote
  have hbody := hinner.not_endsInEscape (not_endsInEscape_plain front hescape)
  rw [List.append_cons, ← List.append_assoc]
  obtain rfl | ⟨rfl, -⟩ | ⟨-, hnil⟩ := htail
  · exact not_endsInEscape_plain _ hescape
  · rwa [List.append_nil]
  · exact absurd hnil hrest

end Constructs

/-! ## Newlines behind the start of a construct -/

section Owned

variable {t : Text} {kind : Construct} {s i : Nat}

/-- What stands in front of a character of a construct: the text in front of the construct, and the characters
of the construct up to that one. -/
theorem exists_cut_of_getElem? {front body rest : Text} {c : Char} {k : Nat} (hk : k < body.length)
    (h : (front ++ (body ++ rest))[front.length + k]? = some c) :
    ∃ u v, body = u ++ c :: v ∧ (front ++ (body ++ rest)).take (front.length + k) = front ++ u := by
  rw [List.getElem?_append_right (Nat.le_add_right _ _), Nat.add_sub_cancel_left,
    List.getElem?_append_left hk] at h
  obtain ⟨_, rfl⟩ := List.getElem?_eq_some_iff.mp h
  refine ⟨body.take k, body.drop (k + 1), ?_, ?_⟩
  · rw [← List.drop_eq_getElem_cons hk, List.take_append_drop]
  · rw [List.take_length_add_append, List.take_append_of_le_length (Nat.le_of_lt hk)]

/-- Each newline in a line comment or a literal on one line is escaped, so it is one of a literal. -/
theorem escaped_of_constructAt (hkind : kind = .lineComment ∨ ∃ q, kind.quote = some q)
    (h : constructAt t i = some (kind, s)) {j : Nat} (hs : s ≤ j) (hi : j ≤ i)
    (hnewline : t[j]? = some '\n') : kind ≠ .lineComment ∧ EndsInEscape (t.take j) := by
  obtain ⟨front, body, rest, rfl, rfl, hlexeme, -, hlt, -⟩ := exists_lexeme_of_constructAt h
  obtain ⟨k, rfl⟩ := Nat.exists_eq_add_of_le hs
  obtain ⟨u, v, hbody, htake⟩ := exists_cut_of_getElem? (by omega) hnewline
  rw [htake]
  exact hlexeme.endsInEscape_of_newline hkind hbody

/-- A literal on one line goes on with an escaped newline. -/
theorem constructAt_of_escaped {q : Char} (hquote : kind.quote = some q)
    (h : constructAt t i = some (kind, s)) (hnext : i + 1 < t.length)
    (hescaped : EndsInEscape (t.take (i + 1))) : constructAt t (i + 1) = some (kind, s) := by
  obtain ⟨front, body, rest, rfl, rfl, hlexeme, hle, hlt, howned⟩ := exists_lexeme_of_constructAt h
  have hin : i + 1 < front.length + body.length := by
    -- behind the last character of the literal nothing would be escaped
    refine Nat.lt_of_not_le fun hend => ?_
    obtain hend : i + 1 = front.length + body.length := by omega
    have hrest : rest ≠ [] := by
      rintro rfl
      simp at hnext
      omega
    rw [hend, List.take_length_add_append, List.take_left] at hescaped
    exact hlexeme.not_endsInEscape hquote hrest hescaped
  have howner := howned (i + 1 - front.length) (by omega)
  rwa [Nat.add_sub_cancel' (by omega)] at howner

end Owned

/-- **An escaped newline is the only one inside a literal, and no literal ends there.** Up to position `i` a
string, a rune or a line comment has no newline exactly unless it is a literal and one is escaped in it; and it
goes on with a newline exactly if that is escaped, which never is so for a line comment. -/
theorem newline_inside_iff {t : Text} {kind : Construct} {s i : Nat}
    (hkind : kind = .doubleString ∨ kind = .rune ∨ kind = .lineComment)
    (h : constructAt t i = some (kind, s)) :
    ((∀ j, s ≤ j → j ≤ i → t[j]? ≠ some '\n') ↔
        kind = .lineComment ∨ ∀ j, s ≤ j → j ≤ i → t[j]? = some '\n' → ¬ EndsInEscape (t.take j)) ∧
      (t[i + 1]? = some '\n' →
        (constructAt t (i + 1) = some (kind, s) ↔
          kind ≠ .lineComment ∧ EndsInEscape (t.take (i + 1)))) := by
  have hline : kind = .lineComment ∨ ∃ q, kind.quote = some q := by
    obtain rfl | rfl | rfl := hkind
    · exact .inr ⟨_, rfl⟩
    · exact .inr ⟨_, rfl⟩
    · exact .inl rfl
  refine ⟨⟨fun hnone => .inr fun j hs hi hnewline => absurd hnewline (hnone j hs hi), ?_⟩,
    fun hnewline => ⟨fun howner => ?_, fun ⟨hliteral, hescaped⟩ => ?_⟩⟩
  · intro hunescaped j hs hi hnewline
    obtain ⟨hliteral, hescaped⟩ := escaped_of_constructAt hline h hs hi hnewline
    exact hunescaped.elim hliteral fun hnone => hnone j hs hi hnewline hescaped
  · obtain ⟨-, -, -, -, -, -, hle, -, -⟩ := exists_lexeme_of_constructAt h
    exact escaped_of_constructAt hline howner (Nat.le_succ_of_le hle) (Nat.le_refl _) hnewline
  · obtain ⟨q, hquote⟩ := hline.resolve_left hliteral
    exact constructAt_of_escaped hquote h (List.getElem?_eq_some_iff.mp hnewline).1 hescaped

/-- Three backslashes in a rune escape the first of two newlines, and the second one ends it. -/
theorem newline_inside_escaped :
    let t : Text := "'\\\\\\\n\n".toList
    (constructAt t 4 = some (.rune, 0) ∧ t[5]? = some '\n') ∧
      (¬ ∀ j, 0 ≤ j → j ≤ 4 → t[j]? ≠ some '\n') ∧ constructAt t 5 ≠ some (.rune, 0) := by
  intro t
  have howner : constructAt t 4 = some (.rune, 0) := by decide +kernel
  obtain ⟨hnone, hnext⟩ := newline_inside_iff (.inr (.inl rfl)) howner
  refine ⟨⟨howner, rfl⟩, fun h => ?_, fun h => ?_⟩
  · obtain hcomment | hunescaped := hnone.mp h
    · cases hcomment
    · exact hunescaped 4 (by decide) (by decide) rfl (by decide)
  · have hescaped := ((hnext rfl).mp h).2
    exact absurd hescaped (by decide)

/-- A string that is not closed on its line does not end there if the line ends in a backslash: it takes the
newline along, and what stands on the next line. -/
theorem constructAt_behindNewline :
    let t : Text := "s := \"a\\\ny := 1".toList
    t[8]? = some '\n' ∧ constructAt t 8 = some (.doubleString, 5) ∧
      constructAt t 9 = some (.doubleString, 5) := by
  decide +kernel

end GoCompletion
