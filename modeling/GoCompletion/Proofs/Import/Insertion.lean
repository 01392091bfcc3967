import GoCompletion.Proofs.Import.Site

/-!
# An added import keeps the cursor on the same text

An import is put in at one place, and nothing else of the text changes. The cursor is a number of **bytes**
and the place a number of characters, so the two are compared in bytes:

* a cursor at the place or behind it moves by the bytes that are put in, and the text behind it is the same;
* a cursor in front of the place stays, and the text in front of it is the same.

In both cases it stays between two characters (`addImport_insertion`).
-/

namespace GoCompletion

open Utf8

/-! ## Bytes of a part -/

namespace Utf8

theorem take_encode_append (s t : Text) : (encode (s ++ t)).take (byteLength s) = encode s := by
  rw [encode_append, ← length_encode, List.take_left]

theorem drop_encode_append (s t : Text) : (encode (s ++ t)).drop (byteLength s) = encode t := by
  rw [encode_append, ← length_encode, List.drop_left]

/-- A text has a byte for each character at least. -/
theorem length_le_byteLength (t : Text) : t.length ≤ byteLength t := by
  induction t with
  | nil => exact Nat.zero_le _
  | cons c r ih =>
    have hc : 1 ≤ charLength c := by
      unfold charLength
      dsimp only
      repeat' split
      all_goals decide
    rw [byteLength, Text.total_cons, List.length_cons]
    rw [byteLength] at ih
    omega

end Utf8

namespace Text

variable {t : Text} {a b : Nat}

theorem take_append_slice (h : a ≤ b) : t.take a ++ t.slice a b = t.take b := by
  rw [slice, List.drop_take, ← List.take_add, Nat.add_sub_cancel' h]

theorem slice_append_drop (h : a ≤ b) : t.slice a b ++ t.drop b = t.drop a := by
  have hdrop : t.drop b = (t.drop a).drop (b - a) := by rw [List.drop_drop, Nat.add_sub_cancel' h]
  rw [slice, List.drop_take, hdrop, List.take_append_drop]

theorem slice_ne_nil (h : a < b) (ht : b ≤ t.length) : t.slice a b ≠ [] := by
  rw [slice, ← List.length_pos_iff, List.length_drop, List.length_take]
  omega

end Text

/-! ## The cursor -/

/-- What becomes of the text `t` and of a cursor at position `c` when `inserted` is put in at position
`k`. -/
structure Inserted (t : Text) (c k : Nat) (inserted : Text) (added : AddedImport) : Prop where
  /-- the text is changed at one place -/
  text_eq : added.text = t.take k ++ inserted ++ t.drop k
  /-- without what was put in, it is the text that it was -/
  deleted_eq : added.text.take k ++ added.text.drop (k + inserted.length) = t
  /-- a cursor at the place or behind it has what was put in in front of it -/
  offset_of_le : k ≤ c → added.offset = byteLength (t.take k ++ inserted ++ t.slice k c)
  /-- a cursor in front of the place has the same text in front of it -/
  offset_of_lt : c < k → added.offset = byteLength (t.take c)
  /-- the cursor is between two characters -/
  boundary : ∃ j ≤ added.text.length, added.offset = byteLength (added.text.take j)
  /-- behind a cursor at the place or behind it, there are the same bytes -/
  bytes_of_le : k ≤ c → (encode added.text).drop added.offset.toNat = encode (t.drop c)
  /-- in front of a cursor in front of the place, there are the same bytes -/
  bytes_of_lt : c < k → (encode added.text).take added.offset.toNat = encode (t.take c)

section Cursor

variable {t : Text} {c k : Nat}

/-- The bytes in front of two positions compare as the positions do. -/
theorem byteLength_take_le_iff (hk : k ≤ t.length) :
    byteLength (t.take k) ≤ byteLength (t.take c) ↔ k ≤ c := by
  constructor
  · intro h
    refine Nat.le_of_not_lt fun hlt => ?_
    have hslice : 0 < (t.slice c k).length := List.length_pos_iff.mpr (Text.slice_ne_nil hlt hk)
    have hbytes := length_le_byteLength (t.slice c k)
    rw [← Text.take_append_slice (Nat.le_of_lt hlt), byteLength_append] at h
    omega
  · intro h
    rw [← Text.take_append_slice h, byteLength_append]
    exact Nat.le_add_right _ _

/-- What was put in can be taken out again. -/
theorem delete_insert (inserted : Text) (hk : k ≤ t.length) :
    (t.take k ++ inserted ++ t.drop k).take k ++
      (t.take k ++ inserted ++ t.drop k).drop (k + inserted.length) = t := by
  have hlength : (t.take k).length = k := List.length_take_of_le hk
  have hbehind : (t.take k ++ inserted).length = k + inserted.length := by
    rw [List.length_append, hlength]
  rw [List.drop_left' hbehind, List.append_assoc, List.take_left' hlength, List.take_append_drop]

theorem inserted_of_le (inserted : Text) (hk : k ≤ t.length) (hc : k ≤ c) :
    Inserted t c k inserted ⟨t.take k ++ inserted ++ t.drop k,
      (byteLength (t.take c) + byteLength inserted : Nat)⟩ := by
  have hoffset : byteLength (t.take c) + byteLength inserted =
      byteLength (t.take k ++ inserted ++ t.slice k c) := by
    rw [← Text.take_append_slice hc, byteLength_append, byteLength_append, byteLength_append]
    omega
  have htext : t.take k ++ inserted ++ t.drop k = t.take k ++ inserted ++ t.slice k c ++ t.drop c := by
    rw [← Text.slice_append_drop hc, List.append_assoc (t.take k ++ inserted)]
  rw [hoffset]
  refine ⟨rfl, delete_insert inserted hk, fun _ => rfl, fun h => absurd hc (Nat.not_le.mpr h), ?_,
    fun _ => ?_, fun h => absurd hc (Nat.not_le.mpr h)⟩
  · refine ⟨(t.take k ++ inserted ++ t.slice k c).length, ?_, ?_⟩
    · simp only [htext, List.length_append]
      omega
    · simp only [htext, List.take_left]
  · simp only [htext, Int.toNat_natCast, drop_encode_append]

theorem inserted_of_lt (inserted : Text) (hk : k ≤ t.length) (hc : c < k) :
    Inserted t c k inserted ⟨t.take k ++ inserted ++ t.drop k, byteLength (t.take c)⟩ := by
  have htext : t.take k ++ inserted ++ t.drop k = t.take c ++ (t.slice c k ++ inserted ++ t.drop k) := by
    rw [← Text.take_append_slice (Nat.le_of_lt hc)]
    simp only [List.append_assoc]
  refine ⟨rfl, delete_insert inserted hk, fun h => absurd h (Nat.not_le.mpr hc), fun _ => rfl, ?_,
    fun h => absurd h (Nat.not_le.mpr hc), fun _ => ?_⟩
  · refine ⟨(t.take c).length, ?_, ?_⟩
    · simp only [htext, List.length_append]
      omega
    · simp only [htext, List.take_left]
  · simp only [htext, Int.toNat_natCast, take_encode_append]

end Cursor

/-- **An added import keeps the cursor on the same text.** There is no place for an import exactly if no line
starts with an import block or a package clause. Otherwise it is put in behind the first import block's
paren, or behind the line of the first package clause if there is no block. -/
theorem addImport_insertion (t path : Text) (c : Nat) :
    (addImport t path (byteLength (t.take c)) = none ↔
        NowhereOpened OpensBlock t ∧ NowhereOpened OpensPackage t) ∧
      ∀ added, addImport t path (byteLength (t.take c)) = some added →
        ∃ k lead, k ≤ t.length ∧ Inserted t c k (lead ++ ['"'] ++ path ++ ['"']) added ∧
          ((FirstOpened OpensBlock t k ∧ lead = ['\n', '\t']) ∨
            (NowhereOpened OpensBlock t ∧ FirstOpened OpensPackage t k ∧
              lead = "\n\nimport ".toList)) := by
  refine ⟨by rw [addImport, Option.map_eq_none_iff, importSite_eq_none_iff], fun added h => ?_⟩
  obtain ⟨s, hs, rfl⟩ := Option.map_eq_some_iff.mp h
  have hplace := importSite_cases hs
  have hk : s.position ≤ t.length := by
    obtain ⟨h, -⟩ | ⟨-, h, -⟩ := hplace <;> exact h.le_length
  refine ⟨s.position, s.lead, hk, ?_, hplace⟩
  simp only [Int.ofNat_le, byteLength_take_le_iff hk]
  split
  · next hc => exact inserted_of_le _ hk hc
  · next hc => exact inserted_of_lt _ hk (Nat.not_le.mp hc)

end GoCompletion
