import GoCompletion.Signature.Paren
import GoCompletion.Signature.Segments

/-!
# Well-nested texts

A text is **well nested** when its brackets pair up: every bracket is closed by its own kind, inside the
one it was opened in. Both scanners that count brackets pass over such a text as over a single character:

* the cut at a separator outside all brackets, which counts brackets of every kind (`cutOutside_append`
  where brackets are open, `cutOutside_append_separator` where none is);
* the search for the closing paren, which counts parens only (`closingFrom_append`).
-/

namespace GoCompletion

/-- The pairs of brackets. -/
def brackets : List (Char × Char) := [('(', ')'), ('[', ']'), ('{', '}')]

/-- The brackets of a text pair up. -/
inductive Nested : Text → Prop
  /-- there are no brackets in the empty text -/
  | nil : Nested []
  /-- a character that is no bracket does no harm -/
  | char {c : Char} {t : Text} (ho : isOpening c = false) (hc : isClosing c = false)
      (h : Nested t) : Nested (c :: t)
  /-- a pair of brackets around a well-nested text -/
  | pair {o c : Char} {s t : Text} (hp : (o, c) ∈ brackets) (hs : Nested s) (ht : Nested t) :
      Nested (o :: (s ++ c :: t))

namespace Nested

theorem append {s t : Text} (hs : Nested s) (ht : Nested t) : Nested (s ++ t) := by
  induction hs with
  | nil => exact ht
  | char ho hc _ ih => exact .char ho hc ih
  | pair hp hs _ _ ih =>
    rw [List.cons_append, List.append_assoc, List.cons_append]
    exact .pair hp hs ih

/-- A text without brackets is well nested. -/
theorem of_forall {t : Text} (h : ∀ c ∈ t, isOpening c = false ∧ isClosing c = false) : Nested t := by
  induction t with
  | nil => exact .nil
  | cons c r ih =>
    obtain ⟨ho, hc⟩ := h c List.mem_cons_self
    exact .char ho hc (ih fun d hd => h d (List.mem_cons_of_mem c hd))

theorem of_all {t : Text} (h : t.all (fun c => !isOpening c && !isClosing c) = true) : Nested t :=
  of_forall fun c hc => by simpa using List.all_eq_true.mp h c hc

/-- Parens around a well-nested text. -/
theorem parens {s t : Text} (hs : Nested s) (ht : Nested t) : Nested ('(' :: (s ++ ')' :: t)) :=
  .pair (by decide) hs ht

theorem join {ts : List Text} (h : ∀ t ∈ ts, Nested t) : Nested (Text.join separator ts) := by
  induction ts with
  | nil => rw [Text.join_nil]; exact .nil
  | cons t ts ih =>
    have ht : Nested t := h t List.mem_cons_self
    have hts : Nested (Text.join separator ts) := ih fun u hu => h u (List.mem_cons_of_mem t hu)
    cases ts with
    | nil => rw [Text.join_singleton]; exact ht
    | cons u us =>
      rw [Text.join_cons_cons]
      exact (ht.append (.of_forall (by simp [separator, isOpening, isClosing]))).append hts

end Nested

/-- The first character of a pair opens and does not close. -/
theorem isOpening_of_mem {o c : Char} (h : (o, c) ∈ brackets) :
    isOpening o = true ∧ isClosing o = false ∧ isOpening c = false ∧ isClosing c = true := by
  simp only [brackets, List.mem_cons, Prod.mk.injEq, List.not_mem_nil, or_false] at h
  rcases h with ⟨rfl, rfl⟩ | ⟨rfl, rfl⟩ | ⟨rfl, rfl⟩ <;> decide

/-! ## The cut outside all brackets -/

section Cut

variable {depth : Int} {c : Char} {t : Text}

theorem cutOutside_cons_opening (h : isOpening c = true) :
    cutOutside depth (c :: t) = (cutOutside (depth + 1) t).map fun p => (c :: p.1, p.2) := by
  rw [cutOutside, if_pos h]

theorem cutOutside_cons_closing (ho : isOpening c = false) (hc : isClosing c = true) :
    cutOutside depth (c :: t) = (cutOutside (depth - 1) t).map fun p => (c :: p.1, p.2) := by
  rw [cutOutside, if_neg (by simp [ho]), if_pos hc]

/-- A character that is no bracket and does not begin a separator outside all brackets is passed
over. -/
theorem cutOutside_cons_other (ho : isOpening c = false) (hc : isClosing c = false)
    (hs : ¬ (depth = 0 ∧ separator.isPrefixOf (c :: t) = true)) :
    cutOutside depth (c :: t) = (cutOutside depth t).map fun p => (c :: p.1, p.2) := by
  rw [cutOutside, if_neg (by simp [ho]), if_neg (by simp [hc]), if_neg hs]

/-- A text without commas has no separator to be cut at. -/
theorem cutOutside_eq_none {t : Text} (h : ',' ∉ t) (depth : Int) : cutOutside depth t = none := by
  induction t generalizing depth with
  | nil => rfl
  | cons c r ih =>
    have hr : ',' ∉ r := fun hm => h (List.mem_cons_of_mem c hm)
    have hs : separator.isPrefixOf (c :: r) ≠ true := by
      intro hp
      obtain ⟨u, hu⟩ := List.isPrefixOf_iff_prefix.mp hp
      exact h (hu ▸ List.mem_cons_self)
    rw [cutOutside]
    split
    · rw [ih hr, Option.map_none]
    · split
      · rw [ih hr, Option.map_none]
      · rw [if_neg fun hp => hs hp.2, ih hr, Option.map_none]

/-- Characters that are neither brackets nor commas are passed over. -/
theorem cutOutside_append_of_forall {s : Text}
    (h : ∀ c ∈ s, c ≠ ',' ∧ isOpening c = false ∧ isClosing c = false) (t : Text) :
    cutOutside depth (s ++ t) = (cutOutside depth t).map fun p => (s ++ p.1, p.2) := by
  induction s with
  | nil => simp
  | cons c s ih =>
    obtain ⟨hcomma, ho, hc⟩ := h c List.mem_cons_self
    have hs : separator.isPrefixOf (c :: (s ++ t)) = false := by
      simp [separator, List.isPrefixOf, Ne.symm hcomma]
    rw [List.cons_append, cutOutside_cons_other ho hc (by simp [hs]),
      ih fun d hd => h d (List.mem_cons_of_mem c hd), Option.map_map]
    rfl

/-- **Inside brackets** a well-nested text is passed over as a whole, whatever separators it holds. -/
theorem cutOutside_append {s : Text} (hs : Nested s) (t : Text) (hd : 0 < depth) :
    cutOutside depth (s ++ t) = (cutOutside depth t).map fun p => (s ++ p.1, p.2) := by
  induction hs generalizing depth t with
  | nil => simp
  | char ho hc _ ih =>
    rw [List.cons_append, cutOutside_cons_other ho hc (by omega), ih t hd, Option.map_map]
    rfl
  | @pair o c s u hp _ _ ihs ihu =>
    obtain ⟨hoo, -, hco, hcc⟩ := isOpening_of_mem hp
    rw [List.cons_append, List.append_assoc, List.cons_append, cutOutside_cons_opening hoo,
      ihs _ (by omega), cutOutside_cons_closing hco hcc, Int.add_sub_cancel, ihu t hd]
    simp only [Option.map_map, Function.comp_def, List.append_assoc, List.cons_append]

/-- A pair of brackets is passed over together with the well-nested text in it. -/
theorem cutOutside_pair {o c : Char} {s : Text} (hp : (o, c) ∈ brackets) (hs : Nested s) (t : Text)
    (hd : 0 ≤ depth) :
    cutOutside depth (o :: (s ++ c :: t)) =
      (cutOutside depth t).map fun p => (o :: (s ++ c :: p.1), p.2) := by
  obtain ⟨hoo, -, hco, hcc⟩ := isOpening_of_mem hp
  rw [cutOutside_cons_opening hoo, cutOutside_append hs _ (by omega), cutOutside_cons_closing hco hcc,
    Int.add_sub_cancel]
  simp only [Option.map_map, Function.comp_def]

/-- **Outside all brackets** a well-nested text without a separator there is passed over up to the
separator behind it. -/
theorem cutOutside_append_separator {s : Text} (hs : Nested s) (hn : cutOutside 0 s = none) (t : Text) :
    cutOutside 0 (s ++ separator ++ t) = some (s, t) := by
  induction hs with
  | nil => simp [cutOutside, separator, isOpening, isClosing]
  | @char c s ho hc _ ih =>
    have hnot : separator.isPrefixOf (c :: s) ≠ true := by
      intro hp
      rw [cutOutside, if_neg (by simp [ho]), if_neg (by simp [hc]), if_pos ⟨rfl, hp⟩] at hn
      cases hn
    rw [cutOutside_cons_other ho hc (by simpa using hnot), Option.map_eq_none_iff] at hn
    -- the comma of the separator behind `s` is not the blank that would end one begun by `c`
    have hnot' : separator.isPrefixOf (c :: (s ++ separator ++ t)) ≠ true := by
      cases s with
      | nil => simp [separator, List.isPrefixOf]
      | cons d s => simpa [separator, List.isPrefixOf] using hnot
    rw [List.cons_append, List.cons_append, cutOutside_cons_other ho hc (by simpa using hnot'), ih hn]
    rfl
  | @pair o c s u hp hs _ _ ihu =>
    rw [cutOutside_pair hp hs u (Int.le_refl 0), Option.map_eq_none_iff] at hn
    have he : o :: (s ++ c :: u) ++ separator ++ t = o :: (s ++ c :: (u ++ separator ++ t)) := by
      simp
    rw [he, cutOutside_pair hp hs _ (Int.le_refl 0), ihu hn]
    rfl

end Cut

/-! ## The closing paren -/

theorem closingFrom_cons_other {c : Char} (ho : c ≠ '(') (hc : c ≠ ')') (count : Int) (t : Text) :
    closingFrom count (c :: t) = (closingFrom count t).map (· + 1) := by
  rw [closingFrom, if_neg ho, if_neg hc]

/-- Where parens are open, a well-nested text is passed over by the search for the closing one. -/
theorem closingFrom_append {s : Text} (hs : Nested s) {count : Int} (hn : 0 < count) (t : Text) :
    closingFrom count (s ++ t) = (closingFrom count t).map (· + s.length) := by
  induction hs generalizing count t with
  | nil => simp
  | @char c s ho hc _ ih =>
    have hne : c ≠ '(' ∧ c ≠ ')' := by
      constructor
      · rintro rfl; exact absurd ho (by decide)
      · rintro rfl; exact absurd hc (by decide)
    rw [List.cons_append, closingFrom_cons_other hne.1 hne.2, ih hn, Option.map_map,
      List.length_cons]
    rfl
  | @pair o c s u hp _ _ ihs ihu =>
    have hlen : (o :: (s ++ c :: u)).length = u.length + 1 + s.length + 1 := by
      simp only [List.length_cons, List.length_append]
      omega
    rw [List.cons_append, List.append_assoc, List.cons_append, hlen]
    simp only [brackets, List.mem_cons, Prod.mk.injEq, List.not_mem_nil, or_false] at hp
    -- only parens count; brackets of the other kinds are characters like any other
    rcases hp with ⟨rfl, rfl⟩ | ⟨rfl, rfl⟩ | ⟨rfl, rfl⟩
    · rw [closingFrom, if_pos rfl, ihs (by omega), closingFrom, if_neg (by decide), if_pos rfl,
        if_neg (by omega), Int.add_sub_cancel, ihu hn]
      simp only [Option.map_map, Function.comp_def, Nat.add_assoc]
    all_goals
      rw [closingFrom_cons_other (by decide) (by decide), ihs hn,
        closingFrom_cons_other (by decide) (by decide), ihu hn]
      simp only [Option.map_map, Function.comp_def, Nat.add_assoc]

/-- What stands for a single return behind a parameter list, if it does not begin with a paren. -/
theorem FuncText.returnsOf_single {t : Text} (h : Text.startsWith t ['('] = false) :
    (returnsOf (' ' :: t)).getD [] = t := by
  rw [returnsOf, List.drop_one, List.tail_cons]
  cases t with
  | nil => rfl
  | cons c r =>
    have hc : c ≠ '(' := by
      rintro rfl
      cases h
    simp only [if_neg hc, Option.getD_some]

/-- Parens around returns are taken off. -/
theorem FuncText.returnsOf_parens (t : Text) :
    (returnsOf (' ' :: '(' :: (t ++ [')']))).getD [] = t := by
  rw [returnsOf, List.drop_one, List.tail_cons]
  simp only [if_true, Option.getD_some, List.dropLast_concat]

/-- A func type is cut at the paren at which the search for the closing one ends. -/
theorem FuncText.ofText_of_closingFrom {args rest : Text}
    (h : closingFrom 1 (args ++ ')' :: rest) = some args.length) :
    FuncText.ofText (funcToken ++ (args ++ ')' :: rest)) =
      some { args, returns := FuncText.returnsOf rest } := by
  have hclose : closing (funcToken ++ (args ++ ')' :: rest)) 4 = some (args.length + 5) := by
    have hdrop : (funcToken ++ (args ++ ')' :: rest)).drop 4 = '(' :: (args ++ ')' :: rest) := rfl
    rw [closing, hdrop, closingFrom, if_pos rfl, Int.zero_add, h]
    rfl
  have hargs : Text.slice (funcToken ++ (args ++ ')' :: rest)) 5 (args.length + 5) = args := by
    rw [Text.slice, Nat.add_comm args.length 5, show (5 : Nat) = funcToken.length from rfl,
      List.take_length_add_append, List.drop_left, List.take_left]
  have hrest : (funcToken ++ (args ++ ')' :: rest)).drop (args.length + 5 + 1) = rest := by
    have he : funcToken ++ (args ++ ')' :: rest) = (funcToken ++ args ++ [')']) ++ rest := by simp
    have hlen : args.length + 5 + 1 = (funcToken ++ args ++ [')']).length := by
      simp only [funcToken, List.length_append, List.length_cons, List.length_nil]
      omega
    rw [he, hlen, List.drop_left]
  have hstart : Text.startsWith (funcToken ++ (args ++ ')' :: rest)) funcToken = true :=
    List.isPrefixOf_iff_prefix.mpr (List.prefix_append ..)
  rw [FuncText.ofText, if_pos hstart, hclose, Option.map_some, hargs, hrest]

/-- **A func type is cut at the paren behind its parameter list**, if that is well nested. -/
theorem FuncText.ofText_func {args : Text} (h : Nested args) (rest : Text) :
    FuncText.ofText (funcToken ++ (args ++ ')' :: rest)) =
      some { args, returns := FuncText.returnsOf rest } := by
  refine ofText_of_closingFrom ?_
  rw [closingFrom_append h (by omega), closingFrom, if_neg (by decide), if_pos rfl, if_pos (by omega),
    Option.map_some, Nat.zero_add]

end GoCompletion
