import GoCompletion.Proofs.Signature.Reading
import GoCompletion.Proofs.Signature.Shape

/-!
# What identifiers hold

An identifier is what stands in front of the first space of a member, unless the member begins like a func
type. A type without an identifier that has a space in it is therefore cut apart as well, and **a func type
in front of that space gets into the identifier** (`contains_identifier_iff`): the type of a list of funcs
that return something does so (`identifiers_listOfFuncs`). Where all types without an identifier are func types
or have no blanks in them, as in the grammar of func types, that does not happen
(`not_contains_identifier_text`).
-/

namespace GoCompletion

/-- The beginning of a text is an identifier that holds a func type: it goes up to the first space of the
text, and the text itself does not begin like a func type. -/
def SwallowsFunc (text : Text) : Prop :=
  Text.startsWith text funcToken = false ∧
    ∃ a b, text = a ++ ' ' :: b ∧ ' ' ∉ a ∧ Text.contains a funcToken = true

/-- The identifier that a segment is cut into holds a func type exactly if there is one in front of its first
space, and it does not begin like one. -/
theorem contains_identified_iff {segment : Text} :
    Text.contains (identified segment).1 funcToken = true ↔ SwallowsFunc segment := by
  have hempty : Text.contains [] funcToken = false := rfl
  unfold identified SwallowsFunc
  cases hstart : Text.startsWith segment funcToken with
  | true => simp [hempty]
  | false =>
    simp only [Bool.false_eq_true, if_false, true_and]
    constructor
    · intro h
      cases hcut : Text.cut [' '] segment with
      | none => simp [hcut, hempty] at h
      | some parts =>
        obtain ⟨a, b⟩ := parts
        rw [hcut] at h
        have hsegment := Text.cut_eq_some hcut
        exact ⟨a, b, by simpa using hsegment.symm, Text.not_mem_of_cut_singleton hcut, h⟩
    · rintro ⟨a, b, rfl, ha, h⟩
      rw [Text.cut_singleton_append ha]
      exact h

/-- **An identifier holds a func type**, on any level, exactly if the text of its parameter or return has one
in front of its first space without beginning like one. -/
theorem contains_identifier_iff {t : Text} {n : Nat} {s : Signature} {p : Parameter}
    (h : (Signature.ofText t).Reaches n s) (hp : p ∈ s.members) :
    Text.contains p.identifier funcToken = true ↔ SwallowsFunc p.name := by
  obtain ⟨lower, u, rfl, -, -⟩ := h.exists_read
  obtain ⟨levels, segment, -, -, -, rfl⟩ := exists_segment_of_mem_members hp
  have hidentifier : (Parameter.ofSegment (Signature.ofTextWithin levels) segment).identifier =
      (identified segment).1 := by
    rw [Parameter.ofSegment_eq]
    split <;> rfl
  rw [hidentifier, Parameter.name_ofSegment]
  exact contains_identified_iff

/-- A variadic func that returns something, in the list of a func type that is a parameter itself. -/
theorem contains_identifier_variadic :
    ∃ s p, (Signature.ofText "func(cb func(...func(int) string) error)".toList).Reaches 1 s ∧
      p ∈ s.members ∧ p.name = "...func(int) string".toList ∧
      (Text.contains p.identifier funcToken = true ↔ SwallowsFunc p.name) := by
  have hnested : ((Signature.ofText "func(cb func(...func(int) string) error)".toList).members.any fun q =>
      q.isFunc && q.signature.members.any fun p => p.name == "...func(int) string".toList) = true := by
    decide +kernel
  obtain ⟨q, hq, hfound⟩ := List.any_eq_true.mp hnested
  obtain ⟨hfunc, hinner⟩ := Bool.and_eq_true_iff.mp hfound
  obtain ⟨p, hp, hname⟩ := List.any_eq_true.mp hinner
  have hreaches := Signature.Reaches.member hq hfunc
  exact ⟨q.signature, p, hreaches, hp, beq_iff_eq.mp hname, contains_identifier_iff hreaches hp⟩

/-- **A list of funcs** without an identifier: the identifier of the parameter is most of its type. -/
theorem identifiers_listOfFuncs :
    let t := "func([]func(int) string)".toList
    (Signature.ofText t).members.map (·.identifier) = ["[]func(int)".toList] ∧
      ¬ ∀ n s, (Signature.ofText t).Reaches n s → ∀ p ∈ s.members,
        Text.contains p.identifier funcToken = false := by
  intro t
  have hidentifiers : (Signature.ofText t).members.map (·.identifier) = ["[]func(int)".toList] := by
    decide +kernel
  refine ⟨hidentifiers, fun h => ?_⟩
  obtain ⟨p, hp, hidentifier⟩ : ∃ p ∈ (Signature.ofText t).members, p.identifier = "[]func(int)".toList := by
    rw [← List.mem_map, hidentifiers]
    exact List.mem_singleton.mpr rfl
  have hnone := h 0 _ (.here _) p hp
  rw [hidentifier] at hnone
  exact absurd hnone (by decide)

/-! ## Printed func types -/

/-- The members of the signature of a func type are the parameters of its slots. -/
theorem FuncType.exists_slot {f : FuncType} {depth : Nat} {p : Parameter}
    (h : p ∈ (f.signature depth).members) : ∃ slot : Slot, p = slot.parameter (depth + 1) := by
  obtain ⟨args, returns⟩ := f
  simp only [FuncType.signature, Signature.members, Slot.parameters_eq_map, ← List.map_append,
    List.mem_map] at h
  obtain ⟨slot, -, rfl⟩ := h
  exact ⟨slot, rfl⟩

/-- The identifier of a slot has no brackets. -/
theorem Slot.paren_not_mem_identifier (slot : Slot) (depth : Nat) :
    '(' ∉ (slot.parameter depth).identifier := by
  have hnamed : ∀ i : Identifier, '(' ∉ i.text := fun i hi => absurd (i.spelled '(' hi).2.2.1 (by decide)
  cases slot with
  | namedPlain i t => exact hnamed i
  | namedFunc i f =>
    simp only [parameter, Parameter.ofFunc]
    split <;> exact hnamed i
  | plain t _ => exact List.not_mem_nil
  | func f =>
    simp only [parameter, Parameter.ofFunc]
    split <;> exact List.not_mem_nil

/-- Only a slot with a func type has something nested in it, the signature of that type. -/
theorem Slot.exists_func {slot : Slot} {depth : Nat} {s : Signature}
    (h : (slot.parameter depth).type = .signature s) : ∃ f : FuncType, s = f.signature depth := by
  cases slot with
  | namedPlain i t => cases h
  | plain t _ => cases h
  | namedFunc i f =>
    simp only [parameter, Parameter.ofFunc] at h
    split at h
    · exact ⟨f, (ParameterType.signature.inj h).symm⟩
    · cases h
  | func f =>
    simp only [parameter, Parameter.ofFunc] at h
    split at h
    · exact ⟨f, (ParameterType.signature.inj h).symm⟩
    · cases h

/-- What is nested in the signature of a func type is the signature of a func type again. -/
theorem FuncType.exists_of_reaches {f : FuncType} {depth n : Nat} {s : Signature}
    (h : (f.signature depth).Reaches n s) : ∃ (g : FuncType) (lower : Nat), s = g.signature lower := by
  induction n generalizing f depth with
  | zero =>
    cases h
    exact ⟨f, depth, rfl⟩
  | succ n ih =>
    obtain _ | ⟨hp, htype, h⟩ := h
    obtain ⟨slot, rfl⟩ := exists_slot hp
    obtain ⟨g, rfl⟩ := Slot.exists_func htype
    exact ih h

/-- **No identifier holds a func type** in what a printed func type is read as. -/
theorem not_contains_identifier_text {f : FuncType} {n : Nat} {s : Signature} {p : Parameter}
    (h : (Signature.ofText f.text).Reaches n s) (hp : p ∈ s.members) :
    Text.contains p.identifier funcToken = false := by
  have hread := readsAt_ofTextWithin (nestingLimit + 1) 0 rfl f
  rw [if_pos (Nat.zero_le _)] at hread
  rw [Signature.ofText, hread] at h
  obtain ⟨g, lower, rfl⟩ := FuncType.exists_of_reaches h
  obtain ⟨slot, rfl⟩ := FuncType.exists_slot hp
  rw [← Bool.not_eq_true, Text.contains_iff_infix]
  exact fun hfunc => slot.paren_not_mem_identifier _ (hfunc.subset (by decide))

end GoCompletion
