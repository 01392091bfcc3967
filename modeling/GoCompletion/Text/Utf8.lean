import GoCompletion.Text.Basic

/-!
# UTF-8

Texts are exchanged with tools as bytes. `encode` writes a text in UTF-8 and `byteLength` counts its
bytes (`length_encode`). Decoding reads one **unit** after the other: a whole character, or a run of
bytes that no character begins with, as long as it may still become one. Strict decoding refuses such a
run as a `Flaw`; lenient decoding puts one replacement character for each.
-/

namespace GoCompletion

namespace Utf8

/-- The bytes of a character. -/
def encodeChar (c : Char) : List UInt8 :=
  let n := c.toNat
  if n < 0x80 then [n.toUInt8]
  else if n < 0x800 then [(0xC0 + n / 0x40).toUInt8, (0x80 + n % 0x40).toUInt8]
  else if n < 0x10000 then
    [(0xE0 + n / 0x1000).toUInt8, (0x80 + n / 0x40 % 0x40).toUInt8, (0x80 + n % 0x40).toUInt8]
  else
    [(0xF0 + n / 0x40000).toUInt8, (0x80 + n / 0x1000 % 0x40).toUInt8,
      (0x80 + n / 0x40 % 0x40).toUInt8, (0x80 + n % 0x40).toUInt8]

/-- The number of bytes of a character. -/
def charLength (c : Char) : Nat :=
  let n := c.toNat
  if n < 0x80 then 1 else if n < 0x800 then 2 else if n < 0x10000 then 3 else 4

/-- The bytes of a text. -/
def encode (t : Text) : List UInt8 := t.flatMap encodeChar

/-- The number of bytes of a text. -/
def byteLength (t : Text) : Nat := Text.total charLength t

theorem charLength_eq (c : Char) : charLength c = c.utf8Size := by
  change _ = if c.toNat ≤ 0x7F then 1 else if c.toNat ≤ 0x7FF then 2 else if c.toNat ≤ 0xFFFF then 3 else 4
  simp only [charLength, ← Nat.lt_succ_iff]

theorem byteLength_eq (t : Text) : byteLength t = (String.ofList t).utf8ByteSize := by
  induction t with
  | nil => rfl
  | cons c r ih =>
    rw [byteLength] at ih
    rw [String.ofList_cons, String.utf8ByteSize_append, String.utf8ByteSize_singleton, ← ih, byteLength,
      Text.total_cons, charLength_eq]

theorem length_encodeChar (c : Char) : (encodeChar c).length = charLength c := by
  unfold encodeChar charLength
  simp only
  split
  · rfl
  · split
    · rfl
    · split <;> rfl

theorem length_encode (t : Text) : (encode t).length = byteLength t := by
  induction t with
  | nil => rfl
  | cons c r ih =>
    simp only [encode, byteLength, List.flatMap_cons, List.length_append, Text.total_cons,
      length_encodeChar] at ih ⊢
    rw [ih]

theorem encode_append (s t : Text) : encode (s ++ t) = encode s ++ encode t := by
  simp [encode]

theorem byteLength_append (s t : Text) : byteLength (s ++ t) = byteLength s + byteLength t :=
  Text.total_append charLength s t

/-! ## Decoding -/

/-- What a first byte asks for: how many bytes have to follow, the range of the first of them, and the
bits that the first byte gives. -/
structure Lead where
  /-- the number of bytes that follow -/
  owed : Nat
  /-- the least value of the byte behind the first -/
  low : Nat
  /-- the greatest value of the byte behind the first -/
  high : Nat
  /-- the bits of the first byte -/
  bits : Nat

/-- What a first byte asks for; nothing for a byte that begins no character. -/
def lead? (b : Nat) : Option Lead :=
  if b < 0x80 then some ⟨0, 0, 0, b⟩
  else if b < 0xC2 then none
  else if b < 0xE0 then some ⟨1, 0x80, 0xBF, b - 0xC0⟩
  else if b = 0xE0 then some ⟨2, 0xA0, 0xBF, 0⟩
  else if b = 0xED then some ⟨2, 0x80, 0x9F, 0xD⟩
  else if b < 0xF0 then some ⟨2, 0x80, 0xBF, b - 0xE0⟩
  else if b = 0xF0 then some ⟨3, 0x90, 0xBF, 0⟩
  else if b < 0xF4 then some ⟨3, 0x80, 0xBF, b - 0xF0⟩
  else if b = 0xF4 then some ⟨3, 0x80, 0x8F, 4⟩
  else none

/-- The rest of a unit of which `owed` bytes are missing, the next one between `low` and `high`, with the
bits read so far: the character, unless the bytes break off, and what is left behind the unit. -/
def unitRest (owed low high bits : Nat) (bytes : List UInt8) : Option Char × List UInt8 :=
  match owed with
  | 0 => (some (Char.ofNat bits), bytes)
  | owed + 1 =>
    match bytes with
    | [] => (none, [])
    | b :: r =>
      if low ≤ b.toNat ∧ b.toNat ≤ high then
        unitRest owed 0x80 0xBF (bits * 0x40 + (b.toNat - 0x80)) r
      else (none, b :: r)

theorem length_unitRest_le (owed low high bits : Nat) (bytes : List UInt8) :
    (unitRest owed low high bits bytes).2.length ≤ bytes.length := by
  induction owed generalizing low high bits bytes with
  | zero => simp [unitRest]
  | succ n ih =>
    cases bytes with
    | nil => simp [unitRest]
    | cons b r =>
      simp only [unitRest]
      split
      · exact Nat.le_trans (ih ..) (Nat.le_succ _)
      · simp

/-- The unit that begins with the byte `b`: a character, or nothing for bytes that are none, and what is
left behind it. -/
def unit (b : UInt8) (r : List UInt8) : Option Char × List UInt8 :=
  match lead? b.toNat with
  | none => (none, r)
  | some l => unitRest l.owed l.low l.high l.bits r

theorem length_unit_le (b : UInt8) (r : List UInt8) : (unit b r).2.length ≤ r.length := by
  unfold unit
  split
  · simp
  · exact length_unitRest_le ..

/-- The units of some bytes. -/
def units : List UInt8 → List (Option Char)
  | [] => []
  | b :: r =>
    have := length_unit_le b r
    (unit b r).1 :: units (unit b r).2
termination_by bytes => bytes.length
decreasing_by simp only [List.length_cons]; omega

/-- The text that some bytes are, with a replacement character for every run that is no character. -/
def decodeLenient (bytes : List UInt8) : Text := (units bytes).map (·.getD '\uFFFD')

/-! ## Strict decoding -/

/-- Why a run of bytes is no character. -/
inductive FlawKind where
  /-- no character begins with the first byte -/
  | badStart
  /-- the byte behind the run does not go on with it -/
  | badContinuation
  /-- there is no byte behind the run -/
  | brokenOff
  deriving DecidableEq, Repr

/-- A run of bytes that is no character. -/
structure Flaw where
  /-- why it is none -/
  kind : FlawKind
  /-- its first byte -/
  first : UInt8
  /-- the number of bytes in front of it -/
  position : Nat
  /-- the number of its bytes -/
  length : Nat
  deriving DecidableEq, Repr

/-- The flaw of a run that begins with the byte `b` and ends where `rest` is left, among `total`
bytes. -/
def flaw (total : Nat) (b : UInt8) (r rest : List UInt8) : Flaw :=
  { kind :=
      if (lead? b.toNat).isNone then .badStart
      else if rest.isEmpty then .brokenOff
      else .badContinuation
    first := b
    position := total - (b :: r).length
    length := (b :: r).length - rest.length }

/-- The text that the last ones of `total` bytes are, or the first flaw in them. -/
def decodeEnd (total : Nat) : List UInt8 → Except Flaw Text
  | [] => .ok []
  | b :: r =>
    have := length_unit_le b r
    match (unit b r).1 with
    | some c => (decodeEnd total (unit b r).2).map (c :: ·)
    | none => .error (flaw total b r (unit b r).2)
termination_by bytes => bytes.length
decreasing_by simp only [List.length_cons]; omega

/-- The text that some bytes are, or the first flaw in them. -/
def decode (bytes : List UInt8) : Except Flaw Text := decodeEnd bytes.length bytes

/-- The text that some bytes are, if they are one. -/
def decode? (bytes : List UInt8) : Option Text := (decode bytes).toOption

end Utf8

end GoCompletion
