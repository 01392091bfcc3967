import GoCompletion.Proofs.Signature.Segments

/-!
# The shape of what is read

Whatever a text looks like, what is read of it is well formed on every level:

* `Signature.Reaches` — the signatures that are nested in one, by the number of levels between them;
* `Signature.WellFormed` — only a func type has parameters and returns, and each of these is spelled out
  inside the text of the type (`Parameter.WellFormed`);
* `wellFormed_ofText` — **every nested signature is well formed**, and no more than 65 of them stand in each
  other.

What is nested in a signature is nested in the type of one of its members, and that has been read with one
level less (`exists_segment_of_mem_members`); so the levels that are left bound how far down there is anything
(`Signature.Reaches.exists_read`).
-/

namespace GoCompletion

/-! ## Levels -/

/-- The parameters and the returns of a signature. -/
def Signature.members (s : Signature) : List Parameter := s.args ++ s.returns

/-- A signature is reached from another one by going down some levels, on each of them from a signature to
the one that is the type of one of its members. -/
inductive Signature.Reaches : Signature → Nat → Signature → Prop
  /-- every signature is reached from itself -/
  | here (s : Signature) : Reaches s 0 s
  /-- what is reached from the type of a member is reached from the signature -/
  | down {s t u : Signature} {p : Parameter} {n : Nat} (hp : p ∈ s.members) (ht : p.type = .signature t)
      (h : Reaches t n u) : Reaches s (n + 1) u

/-! ## Well-formed signatures -/

/-- The text is a part of another one, and shorter. -/
def Text.PartOf (s t : Text) : Prop := s <:+: t ∧ s.length < t.length

/-- A member is well formed in a func type with the given text. -/
structure Parameter.WellFormed (p : Parameter) (text : Text) : Prop where
  /-- it counts as a func exactly if its type is taken apart -/
  isFunc_iff : p.isFunc = true ↔ ∃ s, p.type = .signature s
  /-- a type that is taken apart is a func type -/
  func : ∀ s, p.type = .signature s → s.isFunc = true ∧ Text.startsWith s.name funcToken = true
  /-- its text is its identifier, a blank and its type, or its type alone if there is no identifier -/
  spelled : p.name = p.identifier ++ ' ' :: p.typeText ∨ p.identifier = [] ∧ p.name = p.typeText
  /-- its identifier has no blanks of that kind -/
  unspaced : ' ' ∉ p.identifier
  /-- its text is a part of the text of the func type -/
  part : p.name.PartOf text

/-- Only a func type has members, and they are well formed in it. -/
structure Signature.WellFormed (s : Signature) : Prop where
  /-- what is no func type has neither parameters nor returns -/
  plain : s.isFunc = false → s.args = [] ∧ s.returns = []
  /-- every parameter and every return is well formed -/
  members : ∀ p ∈ s.members, p.WellFormed s.name

/-! ## Parts of texts -/

namespace Text

theorem strip_infix (t : Text) : strip t <:+: t :=
  (strip_prefix_stripStart t).isInfix.trans (List.dropWhile_suffix _).isInfix

theorem join_suffix_of_tail (s t : Text) (ts : List Text) : join s ts <:+ join s (t :: ts) := by
  cases ts with
  | nil => simp
  | cons u us =>
    rw [join_cons_cons]
    exact List.suffix_append _ _

theorem infix_join_cons (s t : Text) (ts : List Text) : t <:+: join s (t :: ts) := by
  cases ts with
  | nil => simp
  | cons u us =>
    rw [join_cons_cons, List.append_assoc]
    exact (List.prefix_append _ _).isInfix

end Text

/-! ## Segments -/

/-- A repair moves nothing: the first piece, and what is pending behind it, are parts of what there was. -/
theorem infix_of_repair {pending rest : List Text} {first : Text} (h : repair pending = first :: rest) :
    first <:+: Text.join separator pending ∧ Text.join separator rest <:+: Text.join separator pending := by
  cases pending with
  | nil => simp [repair] at h
  | cons p ps =>
    simp only [repair] at h
    split at h
    · split at h
      · obtain ⟨rfl, rfl⟩ := List.cons.inj h
        exact ⟨Text.strip_infix _, by simp⟩
      · next a b hcut =>
        obtain ⟨rfl, rfl⟩ := List.cons.inj h
        rw [Text.join_pieces, ← cutOutside_eq_some hcut]
        refine ⟨(Text.strip_infix a).trans ?_, (List.suffix_append _ _).isInfix⟩
        rw [List.append_assoc]
        exact (List.prefix_append _ _).isInfix
    · obtain ⟨rfl, rfl⟩ := List.cons.inj h
      exact ⟨Text.infix_join_cons _ _ _, (Text.join_suffix_of_tail _ _ _).isInfix⟩

theorem infix_of_mem_segments {pending : List Text} {segment : Text} (h : segment ∈ segments pending) :
    segment <:+: Text.join separator pending := by
  fun_induction segments pending with
  | case1 => cases h
  | case2 pending first rest hrepair _ ih =>
    obtain ⟨hfirst, hrest⟩ := infix_of_repair hrepair
    rcases List.mem_cons.mp h with rfl | h
    · exact hfirst
    · exact (ih h).trans hrest

/-- **Every segment is a part of the list**, however the brackets stand. -/
theorem infix_of_mem_segmentsOf {t segment : Text} (h : segment ∈ segmentsOf t) : segment <:+: t := by
  unfold segmentsOf at h
  split at h
  · cases h
  · have hpart := infix_of_mem_segments h
    rwa [Text.join_pieces] at hpart

/-! ## Func types -/

/-- What stands between the parens of a func type and behind them is a part of it. -/
theorem FuncText.partOf_of_ofText {t : Text} {f : FuncText} (h : ofText t = some f) :
    Text.startsWith t funcToken = true ∧ f.args.PartOf t ∧ (f.returns.getD []).PartOf t := by
  unfold ofText at h
  split at h
  · next hstart =>
    obtain ⟨close, -, rfl⟩ := Option.map_eq_some_iff.mp h
    have hlen : funcToken.length ≤ t.length := (Text.startsWith_iff_prefix.mp hstart).length_le
    have hpos : 0 < t.length := Nat.lt_of_lt_of_le (by decide) hlen
    refine ⟨hstart, ⟨?_, ?_⟩, ?_⟩
    · exact (List.drop_suffix _ _).isInfix.trans (List.take_prefix _ _).isInfix
    · simp only [Text.slice, List.length_drop, List.length_take]
      omega
    · have hrest : (t.drop (close + 1)).drop 1 <:+: t :=
        ((List.drop_suffix _ _).trans (List.drop_suffix _ _)).isInfix
      have hshort : ((t.drop (close + 1)).drop 1).length < t.length := by
        simp only [List.length_drop]
        omega
      simp only [returnsOf]
      split
      · exact ⟨by simp, hpos⟩
      · next c r hc =>
        rw [hc] at hrest hshort
        split
        · -- the paren in front is left out, and so is the last character
          have hinner : r.dropLast <:+: c :: r :=
            (List.dropLast_prefix r).isInfix.trans (List.suffix_cons c r).isInfix
          exact ⟨hinner.trans hrest, Nat.lt_of_le_of_lt hinner.length_le hshort⟩
        · exact ⟨hrest, hshort⟩
  · cases h

/-! ## Members -/

/-- The identifier and the type that a segment is cut into: the first blank stands between them, unless the
segment begins like a func type. -/
def identified (segment : Text) : Text × Text :=
  if Text.startsWith segment funcToken then ([], segment) else (Text.cut [' '] segment).getD ([], segment)

/-- The identifier and the type make up the segment, and there is no blank in the identifier. -/
theorem identified_spec (segment : Text) :
    (segment = (identified segment).1 ++ ' ' :: (identified segment).2 ∨
        (identified segment).1 = [] ∧ segment = (identified segment).2) ∧
      ' ' ∉ (identified segment).1 := by
  unfold identified
  split
  · simp
  · cases hcut : Text.cut [' '] segment with
    | none => simp
    | some parts =>
      obtain ⟨identifier, type⟩ := parts
      have hsegment := Text.cut_eq_some hcut
      exact ⟨.inl (by simpa using hsegment.symm), Text.not_mem_of_cut_singleton hcut⟩

/-- **What a segment is read as**: the identifier and the type that it is cut into, and the type is taken
apart if it is read as a func type and begins like one. -/
theorem Parameter.ofSegment_eq (read : Text → Signature) (segment : Text) :
    ofSegment read segment =
      if Text.startsWith (identified segment).2 funcToken ∧ (read (identified segment).2).isFunc then
        { name := segment, identifier := (identified segment).1, isFunc := true
          type := .signature (read (identified segment).2) }
      else
        { name := segment, identifier := (identified segment).1
          type := .plain (identified segment).2 } := by
  unfold ofSegment identified
  split
  · next hstart =>
    simp only [ofSegment.typed, hstart, true_and]
  · next hstart =>
    cases hcut : Text.cut [' '] segment with
    | none => simp [hstart]
    | some parts =>
      simp only [Option.getD_some, ofSegment.typed]
      by_cases htype : Text.startsWith parts.2 funcToken = true
      · simp only [htype, if_true, true_and]
      · simp only [htype, Bool.false_eq_true, if_false, false_and]

/-- The name of what is read as a func type is its text, which begins like a func type. -/
theorem Signature.name_of_isFunc {levels : Nat} {t : Text} (h : (ofTextWithin levels t).isFunc = true) :
    (ofTextWithin levels t).name = t ∧ Text.startsWith t funcToken = true := by
  have hplain : (Signature.plain t).isFunc = false := by
    unfold Signature.plain
    split <;> rfl
  cases levels with
  | zero => simp [ofTextWithin, hplain] at h
  | succ levels =>
    rw [ofTextWithin] at h ⊢
    cases hf : FuncText.ofText t with
    | none => simp [hf, hplain] at h
    | some f => exact ⟨rfl, (FuncText.partOf_of_ofText hf).1⟩

/-- The type of a member that is taken apart is what is read of the type that its segment is cut into. -/
theorem Parameter.eq_read_of_type {read : Text → Signature} {segment : Text} {s : Signature}
    (h : (ofSegment read segment).type = .signature s) :
    s = read (identified segment).2 ∧ s.isFunc = true := by
  rw [ofSegment_eq] at h
  split at h
  · next hfunc =>
    obtain rfl := ParameterType.signature.inj h
    exact ⟨rfl, hfunc.2⟩
  · cases h

/-- A segment that is a part of the text of a func type is read as a member that is well formed in it. -/
theorem Parameter.wellFormed_ofSegment (levels : Nat) {segment text : Text} (h : segment.PartOf text) :
    (ofSegment (Signature.ofTextWithin levels) segment).WellFormed text := by
  obtain ⟨hspelled, hunspaced⟩ := identified_spec segment
  rw [ofSegment_eq]
  split
  · next hfunc =>
    obtain ⟨hname, hstart⟩ := Signature.name_of_isFunc hfunc.2
    refine ⟨by simp, ?_, ?_, hunspaced, h⟩
    · rintro s hs
      obtain rfl := ParameterType.signature.inj hs
      exact ⟨hfunc.2, by rwa [hname]⟩
    · simpa [typeText, hname] using hspelled
  · exact ⟨by simp, by simp, hspelled, hunspaced, h⟩

/-- **The members of what is read** are read of segments of its text, with one level less. -/
theorem exists_segment_of_mem_members {levels : Nat} {t : Text} {p : Parameter}
    (h : p ∈ (Signature.ofTextWithin levels t).members) :
    ∃ lower segment, levels = lower + 1 ∧ (Signature.ofTextWithin levels t).isFunc = true ∧
      segment.PartOf t ∧ p = Parameter.ofSegment (Signature.ofTextWithin lower) segment := by
  have hplain : (Signature.plain t).members = [] := by
    unfold Signature.plain
    split <;> rfl
  cases levels with
  | zero => simp [Signature.ofTextWithin, hplain] at h
  | succ lower =>
    rw [Signature.ofTextWithin] at h ⊢
    cases hf : FuncText.ofText t with
    | none => simp [hf, hplain] at h
    | some f =>
      obtain ⟨-, ⟨hargs, hargsShorter⟩, hreturns, hreturnsShorter⟩ := FuncText.partOf_of_ofText hf
      simp only [hf, Signature.members, List.mem_append, List.mem_map] at h
      rcases h with ⟨segment, hsegment, rfl⟩ | ⟨segment, hsegment, rfl⟩
      · have hpart := infix_of_mem_segmentsOf hsegment
        exact ⟨lower, segment, rfl, rfl,
          ⟨hpart.trans hargs, Nat.lt_of_le_of_lt hpart.length_le hargsShorter⟩, rfl⟩
      · have hpart := infix_of_mem_segmentsOf hsegment
        exact ⟨lower, segment, rfl, rfl,
          ⟨hpart.trans hreturns, Nat.lt_of_le_of_lt hpart.length_le hreturnsShorter⟩, rfl⟩

/-! ## All levels -/

/-- What is read is well formed at its top. -/
theorem Signature.wellFormed_ofTextWithin (levels : Nat) (t : Text) : (ofTextWithin levels t).WellFormed := by
  refine ⟨fun hplain => ?_, fun p hp => ?_⟩
  · have hnone : (ofTextWithin levels t).members = [] := by
      rw [List.eq_nil_iff_forall_not_mem]
      intro p hp
      obtain ⟨-, -, -, hfunc, -⟩ := exists_segment_of_mem_members hp
      rw [hplain] at hfunc
      cases hfunc
    exact List.append_eq_nil_iff.mp hnone
  · obtain ⟨lower, segment, -, hfunc, hpart, rfl⟩ := exists_segment_of_mem_members hp
    rw [(name_of_isFunc hfunc).1]
    exact Parameter.wellFormed_ofSegment lower hpart

/-- **What is reached has been read itself**, with one level less for each level on the way to it; and it is
a func type if it stands in another one. -/
theorem Signature.Reaches.exists_read {levels n : Nat} {t : Text} {s : Signature}
    (h : (ofTextWithin levels t).Reaches n s) :
    ∃ lower u, s = ofTextWithin lower u ∧ lower + n = levels ∧ (n = 0 ∨ s.isFunc = true) := by
  induction n generalizing levels t with
  | zero =>
    cases h
    exact ⟨levels, t, rfl, rfl, .inl rfl⟩
  | succ n ih =>
    obtain _ | ⟨hp, htype, h⟩ := h
    obtain ⟨lower, segment, rfl, -, -, rfl⟩ := exists_segment_of_mem_members hp
    obtain ⟨rfl, hfunc⟩ := Parameter.eq_read_of_type htype
    obtain ⟨lowest, u, hs, hlowest, htop⟩ := ih h
    refine ⟨lowest, u, hs, by omega, .inr ?_⟩
    rcases htop with rfl | hreached
    · -- nothing stands in between: this is the type that has been taken apart
      cases h
      exact hfunc
    · exact hreached

/-- A func type has been read with a level to go down to. -/
theorem Signature.pos_of_isFunc {levels : Nat} {t : Text} (h : (ofTextWithin levels t).isFunc = true) :
    0 < levels := by
  cases levels with
  | zero =>
    unfold ofTextWithin Signature.plain at h
    split at h <;> cases h
  | succ levels => exact Nat.succ_pos levels

/-- A member that counts as a func is taken apart. -/
theorem Parameter.WellFormed.type_eq {p : Parameter} {text : Text} (h : p.WellFormed text)
    (hfunc : p.isFunc = true) : p.type = .signature p.signature := by
  obtain ⟨s, htype⟩ := h.isFunc_iff.mp hfunc
  rw [signature, htype]

/-- What a member that counts as a func is taken apart into is reached on the first level. -/
theorem Signature.Reaches.member {levels : Nat} {t : Text} {p : Parameter}
    (hp : p ∈ (ofTextWithin levels t).members) (hfunc : p.isFunc = true) :
    (ofTextWithin levels t).Reaches 1 p.signature :=
  .down hp (((wellFormed_ofTextWithin levels t).members p hp).type_eq hfunc) (.here _)

/-- **Whatever is read is well formed on every level**, and a chain of signatures that stand in each other,
from the outermost one to one that is reached `n` levels below it, has no more than 65 of them. -/
theorem wellFormed_ofText {t : Text} {n : Nat} {s : Signature} (h : (Signature.ofText t).Reaches n s) :
    s.WellFormed ∧ n + 1 ≤ 65 := by
  obtain ⟨lower, u, rfl, hlower, htop⟩ := h.exists_read
  refine ⟨Signature.wellFormed_ofTextWithin lower u, ?_⟩
  rcases htop with rfl | hfunc
  · decide
  · have hpos := Signature.pos_of_isFunc hfunc
    have hlevels : lower + n = 65 := hlower
    omega

/-- A func type in a list whose brackets cross each other is reached on the first level. -/
theorem wellFormed_ofText_crossed :
    ∃ s, (Signature.ofText "func(a], cb func(b[, c) \x7b, d) (x, func(y".toList).Reaches 1 s ∧
      s.name = "func(b[, c) \x7b, d".toList ∧ s.WellFormed ∧ 1 + 1 ≤ 65 := by
  have hnested : ((Signature.ofText "func(a], cb func(b[, c) \x7b, d) (x, func(y".toList).members.any fun p =>
      p.isFunc && p.signature.name == "func(b[, c) \x7b, d".toList) = true := by decide +kernel
  obtain ⟨p, hp, hfound⟩ := List.any_eq_true.mp hnested
  obtain ⟨hfunc, hname⟩ := Bool.and_eq_true_iff.mp hfound
  have hreaches := Signature.Reaches.member hp hfunc
  exact ⟨p.signature, hreaches, beq_iff_eq.mp hname, wellFormed_ofText hreaches⟩

end GoCompletion
