/-!
# Text

A text is a list of characters, and a position in a text counts characters. Everything in this
library that reads or writes text does so on such lists; only the outermost layer knows strings.

This module holds the searching and cutting that the rest is made of:

* `slice` — the stretch between two positions;
* `cut` / `cutLast` — a text at the first or last place where another stands, **losing nothing**
  (`cut_eq_some`);
* `pieces` — a text at every such place, undone by `join` (`join_pieces`);
* `linePosition` — where the line of a position begins.
-/

namespace GoCompletion

/-- A text: its characters in order. -/
abbrev Text : Type := List Char

namespace Text

/-! ## Stretches -/

/-- The stretch of `t` from position `a` up to position `b`, cut off at the ends of `t`. -/
def slice (t : Text) (a b : Nat) : Text := (t.take b).drop a

/-- A position given as a number that may point before the start or behind the end: a negative one
counts from the end, and both ends stop it. -/
def position (t : Text) (i : Int) : Nat :=
  if i < 0 then (t.length + i).toNat else min i.toNat t.length

theorem position_of_nonneg (t : Text) {i : Int} (h : 0 ≤ i) : t.position i = min i.toNat t.length :=
  if_neg (Int.not_lt.mpr h)

theorem position_natCast (t : Text) (n : Nat) : t.position n = min n t.length := by
  rw [position_of_nonneg t (Int.natCast_nonneg n), Int.toNat_natCast]

/-! ## Looking for a text in a text -/

/-- `t` begins with `s`. -/
def startsWith (t s : Text) : Bool := s.isPrefixOf t

/-- `t` ends with `s`. -/
def endsWith (t s : Text) : Bool := s.isSuffixOf t

/-- `s` stands somewhere in `t`. -/
def contains (t s : Text) : Bool :=
  match t with
  | [] => s.isEmpty
  | _ :: r => s.isPrefixOf t || contains r s

/-- What stands before and behind the first place where `s` stands in `t`. -/
def cut (s : Text) : Text → Option (Text × Text)
  | [] => none
  | c :: r =>
    if s.isPrefixOf (c :: r) then some ([], (c :: r).drop s.length)
    else (cut s r).map fun p => (c :: p.1, p.2)

/-- What stands before and behind the last place where `s` stands in `t`. -/
def cutLast (s : Text) : Text → Option (Text × Text)
  | [] => none
  | c :: r =>
    match cutLast s r with
    | some (a, b) => some (c :: a, b)
    | none => if s.isPrefixOf (c :: r) then some ([], (c :: r).drop s.length) else none

/-- A text that begins with `s` is `s` followed by the rest. -/
theorem append_drop_of_isPrefixOf {s t : Text} (h : s.isPrefixOf t = true) :
    s ++ t.drop s.length = t := by
  obtain ⟨u, rfl⟩ := List.isPrefixOf_iff_prefix.mp h
  simp

/-- **Nothing is lost by a cut**: the two sides with `s` between them are the text. -/
theorem cut_eq_some {s t a b : Text} (h : cut s t = some (a, b)) : a ++ s ++ b = t := by
  induction t generalizing a b with
  | nil => simp [cut] at h
  | cons c r ih =>
    by_cases hp : s.isPrefixOf (c :: r) = true
    · simp only [cut, hp, if_true, Option.some.injEq, Prod.mk.injEq] at h
      obtain ⟨rfl, rfl⟩ := h
      simpa using append_drop_of_isPrefixOf hp
    · rw [cut, if_neg hp, Option.map_eq_some_iff] at h
      obtain ⟨⟨a', b'⟩, hc, he⟩ := h
      simp only [Prod.mk.injEq] at he
      obtain ⟨rfl, rfl⟩ := he
      simpa using ih hc

/-- **Nothing is lost by a cut at the last place** either. -/
theorem cutLast_eq_some {s t a b : Text} (h : cutLast s t = some (a, b)) : a ++ s ++ b = t := by
  induction t generalizing a b with
  | nil => simp [cutLast] at h
  | cons c r ih =>
    simp only [cutLast] at h
    split at h
    · next hc =>
      simp only [Option.some.injEq, Prod.mk.injEq] at h
      obtain ⟨rfl, rfl⟩ := h
      simpa using ih hc
    · split at h
      · next hp =>
        simp only [Option.some.injEq, Prod.mk.injEq] at h
        obtain ⟨rfl, rfl⟩ := h
        simpa using append_drop_of_isPrefixOf hp
      · cases h

/-- The part behind a cut is shorter than the text, by what was cut off and by the cut itself. -/
theorem length_of_cut {s t a b : Text} (h : cut s t = some (a, b)) :
    a.length + s.length + b.length = t.length := by
  rw [← cut_eq_some h, List.length_append, List.length_append]

/-! ## Pieces -/

/-- The pieces of a text between the places where `s` stands, read from the left. A text in which
`s` does not stand is its own only piece; an empty `s` separates nothing. -/
def pieces (s : Text) (t : Text) : List Text :=
  if hs : s = [] then [t]
  else
    match h : cut s t with
    | none => [t]
    | some (a, b) =>
      have : b.length < t.length := by
        have := length_of_cut h
        have := List.length_pos_iff.mpr hs
        omega
      a :: pieces s b
termination_by t.length

/-- The texts of a list with `s` between them. -/
def join (s : Text) (ts : List Text) : Text := s.intercalate ts

@[simp] theorem join_nil (s : Text) : join s [] = [] := by simp [join]

@[simp] theorem join_singleton (s t : Text) : join s [t] = t := by simp [join]

@[simp] theorem join_cons_cons (s t u : Text) (ts : List Text) :
    join s (t :: u :: ts) = t ++ s ++ join s (u :: ts) := by
  simp [join, List.intercalate, List.intersperse]

/-- There is always a piece. -/
theorem pieces_ne_nil (s t : Text) : pieces s t ≠ [] := by
  unfold pieces
  split
  · simp
  · split <;> simp

theorem join_cons {s t : Text} {ts : List Text} (h : ts ≠ []) :
    join s (t :: ts) = t ++ s ++ join s ts := by
  cases ts with
  | nil => exact absurd rfl h
  | cons u us => simp

/-- **Joining undoes splitting.** -/
theorem join_pieces (s t : Text) : join s (pieces s t) = t := by
  fun_induction pieces s t with
  | case1 => simp
  | case2 => simp
  | case3 t hs a b h _ ih =>
    rw [join_cons (pieces_ne_nil s b), ih]
    exact cut_eq_some h

/-! ## Totals -/

/-- What the items of a list measure together. -/
def total {α : Type} (measure : α → Nat) (items : List α) : Nat :=
  items.foldr (fun a n => measure a + n) 0

@[simp] theorem total_nil {α : Type} (measure : α → Nat) : total measure [] = 0 := rfl

@[simp] theorem total_cons {α : Type} (measure : α → Nat) (a : α) (items : List α) :
    total measure (a :: items) = measure a + total measure items := rfl

theorem total_append {α : Type} (measure : α → Nat) (items others : List α) :
    total measure (items ++ others) = total measure items + total measure others := by
  induction items with
  | nil => simp
  | cons a items ih =>
    rw [List.cons_append, total_cons, total_cons, ih, Nat.add_assoc]

/-! ## Lines -/

/-- The position at which the line of position `i` begins: the one behind the last newline before
`i`, or the start of the text. -/
def linePosition (t : Text) (i : Nat) : Nat :=
  (t.take i).length - ((t.take i).reverse.takeWhile (· != '\n')).length

/-- The text of `t` before position `i` that is on the line of `i`. -/
def lineBefore (t : Text) (i : Nat) : Text :=
  ((t.take i).reverse.takeWhile (· != '\n')).reverse

/-! ## Numbers -/

/-- A number in decimal digits. -/
def ofNat (n : Nat) : Text := Nat.toDigits 10 n

/-- A number in decimal digits, with a sign when it is negative. -/
def ofInt : Int → Text
  | .ofNat n => ofNat n
  | .negSucc n => '-' :: ofNat (n + 1)

theorem ofInt_eq_toString (i : Int) : ofInt i = (toString i).toList := by
  cases i with
  | ofNat n =>
    change Nat.toDigits 10 n = (Nat.repr n).toList
    simp [Nat.repr]
  | negSucc n =>
    change '-' :: Nat.toDigits 10 (n + 1) = ("-" ++ Nat.repr (n + 1)).toList
    simp [Nat.repr]

/-- A number in decimal digits, filled up with zeros from the left to `width` digits. -/
def padded (width n : Nat) : Text :=
  List.replicate (width - (ofNat n).length) '0' ++ ofNat n

end Text

end GoCompletion
