import GoCompletion.Proofs.Signature.Texts
import GoCompletion.Signature.Reading

/-!
# Reading adds no characters

Whatever a type is taken apart into is made of the characters of its text: a character that the text does
not have is in no text of its signature (`freeOf_texts_ofText`). The characters of the separator are left
aside, since pieces are joined by it before they are cut again.
-/

namespace GoCompletion

variable {c : Char}

namespace Text

theorem not_mem_of_sublist {s t : Text} (h : List.Sublist s t) (hc : c ∉ t) : c ∉ s :=
  fun hm => hc (h.subset hm)

theorem strip_sublist (t : Text) : List.Sublist (strip t) t := by
  have hend : List.Sublist (stripEnd (stripStart t)).reverse (stripStart t).reverse := by
    rw [stripEnd, List.reverse_reverse]
    exact List.dropWhile_sublist _
  exact (List.reverse_sublist.mp hend).trans (List.dropWhile_sublist _)

/-- A character that is neither in the texts nor in what stands between them is not in the text that they
are joined to; and the other way round. -/
theorem freeOf_of_not_mem_join {s : Text} {ts : List Text} (h : c ∉ join s ts) : FreeOf c ts := by
  induction ts with
  | nil => exact .nil
  | cons t ts ih =>
    cases ts with
    | nil => simpa using h
    | cons u us =>
      rw [join_cons_cons, List.mem_append, List.mem_append, not_or, not_or] at h
      exact FreeOf.cons_iff.mpr ⟨h.1.1, ih h.2⟩

theorem FreeOf.not_mem_join {s : Text} {ts : List Text} (h : FreeOf c ts) (hs : c ∉ s) :
    c ∉ join s ts := by
  induction ts with
  | nil => simp
  | cons t ts ih =>
    obtain ⟨ht, hts⟩ := FreeOf.cons_iff.mp h
    cases ts with
    | nil => simpa using ht
    | cons u us =>
      rw [join_cons_cons, List.mem_append, List.mem_append, not_or, not_or]
      exact ⟨⟨ht, hs⟩, ih hts⟩

theorem freeOf_pieces {t : Text} (h : c ∉ t) (s : Text) : FreeOf c (pieces s t) :=
  freeOf_of_not_mem_join (by rwa [join_pieces])

end Text

/-! ## Segments -/

theorem freeOf_repair (hsep : c ∉ separator) {pending : List Text} (h : Text.FreeOf c pending) :
    Text.FreeOf c (repair pending) := by
  cases pending with
  | nil => exact h
  | cons first rest =>
    have hjoin : c ∉ Text.join separator (first :: rest) := h.not_mem_join hsep
    simp only [repair]
    split
    · split
      · rw [Text.FreeOf.cons_iff]
        exact ⟨Text.not_mem_of_sublist (Text.strip_sublist _) hjoin, .nil⟩
      · next a b hcut =>
        rw [← cutOutside_eq_some hcut, List.mem_append, List.mem_append, not_or, not_or] at hjoin
        rw [Text.FreeOf.cons_iff]
        exact ⟨Text.not_mem_of_sublist (Text.strip_sublist _) hjoin.1.1, Text.freeOf_pieces hjoin.2 _⟩
    · exact h

theorem freeOf_segments (hsep : c ∉ separator) {pending : List Text} (h : Text.FreeOf c pending) :
    Text.FreeOf c (segments pending) := by
  fun_induction segments pending with
  | case1 => exact .nil
  | case2 pending first rest hr _ ih =>
    have hrepair := freeOf_repair hsep h
    rw [hr, Text.FreeOf.cons_iff] at hrepair
    exact Text.FreeOf.cons_iff.mpr ⟨hrepair.1, ih hrepair.2⟩

theorem freeOf_segmentsOf (hsep : c ∉ separator) {t : Text} (h : c ∉ t) :
    Text.FreeOf c (segmentsOf t) := by
  unfold segmentsOf
  split
  · exact .nil
  · exact freeOf_segments hsep (Text.freeOf_pieces h _)

/-! ## Func types -/

/-- What a func type is cut into is in its text. -/
theorem FuncText.not_mem_of_ofText {t : Text} {f : FuncText} (h : c ∉ t) (hf : ofText t = some f) :
    c ∉ f.args ∧ c ∉ f.returns.getD [] := by
  unfold ofText at hf
  split at hf
  · obtain ⟨close, -, rfl⟩ := Option.map_eq_some_iff.mp hf
    have hrest : c ∉ (t.drop (close + 1)).drop 1 :=
      Text.not_mem_of_sublist ((List.drop_sublist _ _).trans (List.drop_sublist _ _)) h
    refine ⟨Text.not_mem_of_sublist ((List.drop_sublist _ _).trans (List.take_sublist _ _)) h, ?_⟩
    simp only [returnsOf]
    split
    · simp
    · next d r hd =>
      rw [hd] at hrest
      split
      · exact fun hm => hrest (List.mem_cons_of_mem d ((List.dropLast_sublist r).subset hm))
      · exact hrest
  · cases hf

/-- What a segment is read as is in its text, if that holds of the func types in it. -/
theorem freeOf_texts_ofSegment {read : Text → Signature}
    (hread : ∀ t, c ∉ t → Text.FreeOf c (read t).texts) {segment : Text} (h : c ∉ segment) :
    Text.FreeOf c (Parameter.ofSegment read segment).texts := by
  have htyped : ∀ identifier type, c ∉ identifier → c ∉ type →
      Text.FreeOf c (Parameter.ofSegment.typed read segment identifier type).texts := by
    intro identifier type hi ht
    simp only [Parameter.ofSegment.typed]
    split
    · simp only [Parameter.texts, ParameterType.texts, Text.FreeOf.cons_iff]
      exact ⟨h, hi, hread type ht⟩
    · simp only [Parameter.texts, ParameterType.texts, Text.FreeOf.cons_iff]
      exact ⟨h, hi, ht, .nil⟩
  simp only [Parameter.ofSegment]
  split
  · exact htyped [] segment List.not_mem_nil h
  · split
    · simp only [Parameter.texts, ParameterType.texts, Text.FreeOf.cons_iff]
      exact ⟨h, List.not_mem_nil, h, .nil⟩
    · next identifier type hcut =>
      have hparts := h
      rw [← Text.cut_eq_some hcut, List.mem_append, List.mem_append, not_or, not_or] at hparts
      split
      · exact htyped identifier type hparts.1.1 hparts.2
      · simp only [Parameter.texts, ParameterType.texts, Text.FreeOf.cons_iff]
        exact ⟨h, hparts.1.1, hparts.2, .nil⟩

theorem Parameter.freeOf_textsOf {ps : List Parameter} (h : ∀ p ∈ ps, Text.FreeOf c p.texts) :
    Text.FreeOf c (Parameter.textsOf ps) := by
  induction ps with
  | nil => exact .nil
  | cons p ps ih =>
    rw [Parameter.textsOf, Text.FreeOf.append_iff]
    exact ⟨h p List.mem_cons_self, ih fun q hq => h q (List.mem_cons_of_mem p hq)⟩

theorem freeOf_texts_plain {t : Text} (h : c ∉ t) : Text.FreeOf c (Signature.plain t).texts := by
  unfold Signature.plain
  split <;> simp [Signature.texts, Parameter.textsOf, Text.FreeOf, h]

theorem freeOf_texts_ofTextWithin (hsep : c ∉ separator) (levels : Nat) {t : Text} (h : c ∉ t) :
    Text.FreeOf c (Signature.ofTextWithin levels t).texts := by
  induction levels generalizing t with
  | zero => exact freeOf_texts_plain h
  | succ levels ih =>
    have hlist : ∀ u : Text, c ∉ u → Text.FreeOf c (Parameter.textsOf
        ((segmentsOf u).map (Parameter.ofSegment (Signature.ofTextWithin levels)))) := by
      intro u hu
      refine Parameter.freeOf_textsOf fun p hp => ?_
      obtain ⟨segment, hs, rfl⟩ := List.mem_map.mp hp
      exact freeOf_texts_ofSegment (fun t ht => ih ht) (freeOf_segmentsOf hsep hu segment hs)
    rw [Signature.ofTextWithin]
    split
    · exact freeOf_texts_plain h
    · next f hf =>
      obtain ⟨hargs, hreturns⟩ := FuncText.not_mem_of_ofText h hf
      simp only [Signature.texts, Text.FreeOf.cons_iff, Text.FreeOf.append_iff]
      exact ⟨h, hlist _ hargs, hlist _ hreturns⟩

/-- **Reading adds no characters.** -/
theorem freeOf_texts_ofText (hsep : c ∉ separator) {t : Text} (h : c ∉ t) :
    Text.FreeOf c (Signature.ofText t).texts := freeOf_texts_ofTextWithin hsep _ h

end GoCompletion
