import GoCompletion.Number.Binary64

/-!
# Numbers in slots

A set shows its members in the order of the slots of a table in which they are kept. The slot of a number
is found by its remainder modulo a prime (`Slots.remainder`), and where that slot is taken the next ones
are tried, first nearby and then further off (`Slots.place`). Equal numbers have equal remainders, whether
they are integers or not.
-/

namespace GoCompletion

namespace Slots

/-- The prime by which remainders are taken. -/
def modulus : Nat := Nat.pow 2 61 - 1

/-- The remainder of `num / den`, where `den` is a power of two: two has an inverse modulo the prime. -/
def remainder (num : Int) (den : Nat) : Int :=
  let inverse := Nat.pow 2 ((61 - den.log2 % 61) % 61)
  let r : Int := (num.natAbs * inverse % modulus : Nat)
  if num < 0 then (if r = 1 then -2 else -r) else r

/-- The remainder that stands for an infinity. -/
def infinity (negative : Bool) : Int := if negative then -314159 else 314159

/-- A remainder as an unsigned number of 64 bits. -/
def unsigned (r : Int) : Nat := (r % (Nat.pow 2 64 : Int)).toNat

/-- The size of the table for a number of members. -/
def size (count : Nat) : Nat :=
  if 5 * count < 21 then 8 else Nat.pow 2 (Nat.log2 (2 * count) + 1)

/-- How many slots behind the first one are tried before going further off. -/
def nearby : Nat := 9

variable {α : Type}

/-- A slot of the table is free. -/
def isFree (table : List (Option α)) (i : Nat) : Bool :=
  match table[i]? with
  | some none => true
  | _ => false

/-- The slots that are tried from slot `i` on before going further off. -/
def row (size i : Nat) : List Nat :=
  if i + nearby < size then (List.range (nearby + 1)).map (i + ·) else [i]

/-- The table with a member in the first free slot from slot `i` on. Further off means a step that
`rest`, which is left of the remainder, decides. -/
def placeFrom (bound : Nat) (table : List (Option α)) (i rest : Nat) (a : α) : List (Option α) :=
  match bound with
  | 0 => table
  | bound + 1 =>
    match (row table.length i).find? (isFree table) with
    | some j => table.set j (some a)
    | none =>
      let rest := rest / 32
      placeFrom bound table ((5 * i + 1 + rest) % table.length) rest a

/-- The table with one more member, whose remainder is given. -/
def place (table : List (Option α)) (r : Int) (a : α) : List (Option α) :=
  placeFrom (table.length + 16) table (unsigned r % table.length) (unsigned r) a

/-- The members in the order of their slots, given with their remainders. -/
def order (members : List (Int × α)) : List α :=
  (members.foldl (fun table m => place table m.1 m.2)
    (List.replicate (size members.length) none)).filterMap id

end Slots

end GoCompletion
