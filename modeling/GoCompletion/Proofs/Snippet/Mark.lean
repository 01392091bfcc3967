import GoCompletion.Proofs.Text.Search
import GoCompletion.Snippet.Basic

/-!
# Marks

A dollar sign in a snippet begins a **mark**: the number of a tab-stop, or a brace, a number and a colon,
behind which the default text of a placeholder stands. A dollar sign that neither of the two follows is a
character like any other.
-/

namespace GoCompletion

/-- The number in decimal digits that a text begins with, and what is left behind it. -/
def numberAtStart (t : Text) : Option (Nat × Text) :=
  match t.takeWhile Char.isDigit with
  | [] => none
  | ds => some (Nat.ofDigitChars 10 ds 0, t.dropWhile Char.isDigit)

/-- What a dollar sign begins. -/
inductive Mark where
  /-- a tab-stop -/
  | stop (n : Nat)
  /-- a placeholder, up to its default text -/
  | hole (n : Nat)
  deriving DecidableEq, Repr

/-- The number of a mark. -/
def Mark.number : Mark → Nat
  | stop n => n
  | hole n => n

/-- The mark that a dollar sign in front of a text begins, and what is left behind it. -/
def markBehind : Text → Option (Mark × Text)
  | '{' :: r =>
    match numberAtStart r with
    | some (n, ':' :: rest) => some (.hole n, rest)
    | _ => none
  | r => (numberAtStart r).map fun p => (.stop p.1, p.2)

theorem length_le_of_numberAtStart {t rest : Text} {n : Nat}
    (h : numberAtStart t = some (n, rest)) : rest.length ≤ t.length := by
  unfold numberAtStart at h
  split at h
  · cases h
  · cases h
    exact (List.dropWhile_sublist _).length_le

/-- What is left behind a mark is no longer than what stood behind the dollar sign. -/
theorem length_le_of_markBehind {t rest : Text} {m : Mark} (h : markBehind t = some (m, rest)) :
    rest.length ≤ t.length := by
  unfold markBehind at h
  split at h
  · split at h
    · next hn =>
      cases h
      have := length_le_of_numberAtStart hn
      simp only [List.length_cons] at this ⊢
      omega
    · cases h
  · obtain ⟨⟨n, rest'⟩, hn, he⟩ := Option.map_eq_some_iff.mp h
    cases he
    exact length_le_of_numberAtStart hn

/-! ## Marks that are written -/

theorem isDigit_of_mem_ofNat {n : Nat} {c : Char} (h : c ∈ Text.ofNat n) : c.isDigit = true :=
  Nat.isDigit_of_mem_toDigits (by omega) (by omega) h

/-- A number that is written is read back, if no digit follows it. -/
theorem numberAtStart_ofNat (n : Nat) {t : Text} (ht : ∀ c ∈ t.head?, c.isDigit = false) :
    numberAtStart (Text.ofNat n ++ t) = some (n, t) := by
  have hdigits : ∀ c ∈ Text.ofNat n, c.isDigit = true := fun c => isDigit_of_mem_ofNat
  have hread : Nat.ofDigitChars 10 (Text.ofNat n) 0 = n :=
    Nat.ofDigitChars_toDigits (by omega) (by omega)
  rw [numberAtStart, Text.takeWhile_append_of_head hdigits ht, Text.dropWhile_append_of_head hdigits ht]
  split
  · next h => exact absurd h Nat.toDigits_ne_nil
  · rw [hread]

/-- The mark of a placeholder that is written. -/
theorem markBehind_hole (n : Nat) (t : Text) :
    markBehind ('{' :: (Text.ofNat n ++ ':' :: t)) = some (.hole n, t) := by
  have h := numberAtStart_ofNat n (t := ':' :: t) (by simp)
  simp only [markBehind, h]

/-- The mark of a tab-stop that is written, if no digit follows it. -/
theorem markBehind_stop (n : Nat) {t : Text} (ht : ∀ c ∈ t.head?, c.isDigit = false) :
    markBehind (Text.ofNat n ++ t) = some (.stop n, t) := by
  have h := numberAtStart_ofNat n ht
  obtain ⟨d, ds, hds⟩ := List.exists_cons_of_ne_nil (Nat.toDigits_ne_nil (n := n) (b := 10))
  have hd : d ≠ '{' := by
    rintro rfl
    exact absurd (isDigit_of_mem_ofNat (n := n) (c := '{') (by rw [Text.ofNat, hds]; simp)) (by decide)
  rw [Text.ofNat, hds] at h ⊢
  unfold markBehind
  split
  · next he => exact absurd (List.cons.inj he).1 hd
  · rw [h]
    rfl

end GoCompletion
