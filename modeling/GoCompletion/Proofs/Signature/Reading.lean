import GoCompletion.Proofs.Signature.Grammar

/-!
# Reading undoes printing

A printed func type is read as the signature that its tree stands for (`ofText_text`): the same parameters
and returns in the same order, on every level down to the limit.

The induction is on the levels that are left. On each of them the text is cut at the closing paren
(`FuncText.ofText_mk`), both lists are cut into their slots (`segmentsOf_join`), and every slot is read
by itself (`ofSegment_text`), its func type with one level less.
-/

namespace GoCompletion

/-- What is behind the parameter list of a printed func type is read as the texts of its returns. -/
theorem returnsOf_returnsText (returns : List Slot) :
    (FuncText.returnsOf (returnsText returns (Slot.texts returns))).getD [] =
      Text.join separator (Slot.texts returns) := by
  rcases returnsText_cases returns with ⟨rfl, he⟩ | ⟨s, rfl, hp, he⟩ | he
  · rfl
  · rw [he, Slot.texts, Slot.texts, Text.join_singleton, FuncText.returnsOf_single hp]
  · rw [he, FuncText.returnsOf_parens]

/-- **A printed func type is cut into its two lists.** -/
theorem FuncText.ofText_mk (args returns : List Slot) :
    ∃ r, ofText (FuncType.mk args returns).text =
        some { args := Text.join separator (Slot.texts args), returns := r } ∧
      r.getD [] = Text.join separator (Slot.texts returns) := by
  have ha : Nested (Text.join separator (Slot.texts args)) :=
    .join fun t ht => (Slot.whole_texts args t ht).nested
  exact ⟨_, ofText_func ha _, returnsOf_returnsText returns⟩

/-! ## Slots -/

/-- A printed func type begins like one. -/
theorem FuncType.startsWith_text (f : FuncType) : Text.startsWith f.text funcToken = true := by
  obtain ⟨args, returns⟩ := f
  exact Text.startsWith_iff_prefix.mpr (List.prefix_append ..)

namespace Identifier

variable (i : Identifier)

/-- The blank behind an identifier is the first one. -/
theorem cut_before (type : Text) : Text.cut [' '] (i.before type) = some (i.text, type) := by
  refine Text.cut_singleton_append (fun h => ?_) type
  exact absurd (i.spelled ' ' h).1 (by decide)

/-- What has an identifier does not begin like a func type, since the identifier has no paren in it. -/
theorem not_startsWith_before (type : Text) : Text.startsWith (i.before type) funcToken = false := by
  rw [← Bool.not_eq_true, Text.startsWith_iff_prefix]
  intro h
  have hi : i.text ++ [' '] <+: i.before type := ⟨type, by simp [before]⟩
  rcases List.prefix_or_prefix_of_prefix h hi with hp | hp
  · have hm : '(' ∈ i.text ++ [' '] := hp.subset (by decide)
    rcases List.mem_append.mp hm with hm | hm
    · exact absurd (i.spelled '(' hm).2.2.1 (by decide)
    · cases List.mem_singleton.mp hm
  · have hm : ' ' ∈ funcToken := hp.subset (by simp)
    exact absurd hm (by decide)

end Identifier

/-- `read` takes the func types apart that stand `depth` levels below the outermost one, as far as the
limit allows. -/
def ReadsAt (depth : Nat) (read : Text → Signature) : Prop :=
  ∀ f : FuncType, if depth ≤ nestingLimit then read f.text = f.signature depth
    else (read f.text).isFunc = false

theorem FuncType.isFunc_signature (depth : Nat) (f : FuncType) : (f.signature depth).isFunc = true := by
  obtain ⟨args, returns⟩ := f
  rfl

/-- The parameter with a func type is the one that the signature of the type makes up. -/
theorem ReadsAt.typed_text {depth : Nat} {read : Text → Signature} (h : ReadsAt depth read)
    (f : FuncType) (segment identifier : Text) :
    Parameter.ofSegment.typed read segment identifier f.text =
      .ofFunc depth segment identifier f.text (f.signature depth) := by
  have hf := h f
  rw [Parameter.ofSegment.typed, Parameter.ofFunc]
  split at hf
  · next hd => simp only [hf, f.isFunc_signature, if_true, if_pos hd]
  · next hd => simp only [hf, Bool.false_eq_true, if_false, if_neg hd]

/-- **A printed slot is read as the parameter that it stands for.** -/
theorem ReadsAt.ofSegment_text {depth : Nat} {read : Text → Signature} (h : ReadsAt depth read)
    (s : Slot) : Parameter.ofSegment read s.text = s.parameter depth := by
  cases s with
  | namedPlain i t =>
    simp only [Slot.text, Parameter.ofSegment, i.not_startsWith_before, i.cut_before, t.no_func,
      Bool.false_eq_true, if_false, Slot.parameter]
  | namedFunc i f =>
    simp only [Slot.text, Parameter.ofSegment, i.not_startsWith_before, i.cut_before,
      f.startsWith_text, Bool.false_eq_true, if_false, if_true, h.typed_text, Slot.parameter]
  | plain t ht =>
    have hcut : Text.cut [' '] t.text = none :=
      Text.cut_singleton_eq_none fun hm => absurd (ht ' ' hm) (by decide)
    simp only [Slot.text, Parameter.ofSegment, t.no_func, hcut, Bool.false_eq_true, if_false,
      Slot.parameter]
  | func f =>
    simp only [Slot.text, Parameter.ofSegment, f.startsWith_text, if_true, h.typed_text,
      Slot.parameter]

/-- The list that slots are printed as is read as their parameters. -/
theorem ReadsAt.map_ofSegment {depth : Nat} {read : Text → Signature} (h : ReadsAt depth read)
    (ss : List Slot) :
    (segmentsOf (Text.join separator (Slot.texts ss))).map (Parameter.ofSegment read) =
      Slot.parameters depth ss := by
  rw [segmentsOf_join (Slot.whole_texts ss), Slot.texts_eq_map, Slot.parameters_eq_map, List.map_map]
  exact List.map_congr_left fun s _ => h.ofSegment_text s

/-! ## Levels -/

/-- With a level left for every depth up to the limit, func types are read as their signatures; below
it they are no longer taken apart. -/
theorem readsAt_ofTextWithin (levels depth : Nat) (h : levels + depth = nestingLimit + 1) :
    ReadsAt depth (Signature.ofTextWithin levels) := by
  induction levels generalizing depth with
  | zero =>
    intro f
    rw [if_neg (by omega), Signature.ofTextWithin, Signature.plain]
    split <;> rfl
  | succ levels ih =>
    intro f
    obtain ⟨args, returns⟩ := f
    obtain ⟨r, hf, hr⟩ := FuncText.ofText_mk args returns
    have hread := ih (depth + 1) (by omega)
    rw [if_pos (by omega), Signature.ofTextWithin, hf]
    simp only [hr, hread.map_ofSegment, FuncType.signature]

/-- **Reading undoes printing.** Every func type, of any width and depth, is read back from its printed
form as the signature that its tree stands for. -/
theorem ofText_text (f : FuncType) : Signature.ofText f.text = f.signature 0 := by
  have h := readsAt_ofTextWithin (nestingLimit + 1) 0 rfl f
  rwa [if_pos (Nat.zero_le _)] at h

end GoCompletion
