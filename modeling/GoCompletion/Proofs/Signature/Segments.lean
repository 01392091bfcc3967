import GoCompletion.Proofs.Signature.Nesting
import GoCompletion.Proofs.Text.Blank
import GoCompletion.Proofs.Text.Search
import GoCompletion.Signature.Reading

/-!
# What segments are made of

Two statements about taking segments off the text of a parameter list:

* **Nothing is lost** on any text, balanced or not: put together again, the segments are the text, up to
  the blanks that stripping takes, and exactly the text when it is tidy (`join_names_parametersOf`).
* **Whole parameters stay whole**: a list of parameters is cut into just these (`segmentsOf_join`), if
  each of them is `Whole`.

The invariant of the first is the text that the pending pieces make up. Every repair keeps it, however
the brackets stand, since the pieces are joined before they are cut again.
-/

namespace GoCompletion

/-! ## The first separator -/

theorem separator_ne_nil : separator ≠ [] := by decide

/-- The first separator of a text that goes on behind a separator: one in front of it, or that one. -/
theorem cut_append_separator (s t : Text) :
    Text.cut separator (s ++ separator ++ t) =
      some (((Text.cut separator s).map fun p => (p.1, p.2 ++ separator ++ t)).getD (s, t)) := by
  induction s with
  | nil => simp [Text.cut, separator]
  | cons c s ih =>
    -- the comma of the separator behind `s` is not the blank that would end one begun by `c`
    have hp : separator.isPrefixOf (c :: (s ++ separator ++ t)) = separator.isPrefixOf (c :: s) := by
      cases s with
      | nil => simp [separator, List.isPrefixOf]
      | cons d s => simp [separator, List.isPrefixOf]
    rw [List.cons_append, List.cons_append, Text.cut, Text.cut, hp, ih]
    split
    · next h =>
      have h' := Text.append_drop_of_isPrefixOf h
      have hlen : separator.length ≤ (c :: s).length := by
        rw [← h', List.length_append]
        omega
      simp only [Option.map_some, Option.getD_some, List.append_assoc, ← List.cons_append,
        List.drop_append_of_le_length hlen]
    · cases Text.cut separator s with
      | none => rfl
      | some p => rfl

/-- In front of the first separator stands all that has no commas. -/
theorem cut_append_of_not_mem {s : Text} (h : ',' ∉ s) (t : Text) :
    Text.cut separator (s ++ t) = (Text.cut separator t).map fun p => (s ++ p.1, p.2) := by
  induction s with
  | nil => simp
  | cons c s ih =>
    have hne : ',' ≠ c := fun hc => h (hc ▸ List.mem_cons_self)
    have hp : separator.isPrefixOf (c :: (s ++ t)) = false := by
      simp [separator, List.isPrefixOf, hne]
    rw [List.cons_append, Text.cut, if_neg (by simp [hp]),
      ih fun hm => h (List.mem_cons_of_mem c hm), Option.map_map]
    rfl

theorem cut_eq_none_of_not_mem {s : Text} (h : ',' ∉ s) : Text.cut separator s = none := by
  simpa [Text.cut] using cut_append_of_not_mem h []

/-! ## Repairing -/

/-- What a repair makes of the pieces of a text. -/
theorem repair_pieces {t first : Text} {rest : List Text}
    (h : Text.pieces separator t = first :: rest) :
    repair (first :: rest) =
      if Text.contains first funcToken then
        match cutOutside 0 t with
        | none => [Text.strip t]
        | some (a, b) => Text.strip a :: Text.pieces separator b
      else first :: rest := by
  obtain rfl : Text.join separator (first :: rest) = t := by rw [← h, Text.join_pieces]
  rfl

theorem repair_eq_nil_iff {pending : List Text} : repair pending = [] ↔ pending = [] := by
  cases pending with
  | nil => simp [repair]
  | cons p ps =>
    simp only [repair, reduceCtorEq, iff_false]
    split
    · split <;> simp
    · simp

@[simp] theorem segments_nil : segments [] = [] := by
  rw [segments]
  split
  · rfl
  · next h => simp [repair] at h

theorem segments_eq_cons {pending rest : List Text} {first : Text}
    (h : repair pending = first :: rest) : segments pending = first :: segments rest := by
  rw [segments]
  split
  · next hr => rw [h] at hr; cases hr
  · next hr =>
    rw [h] at hr
    cases hr
    rfl

theorem segments_eq_nil_iff {pending : List Text} : segments pending = [] ↔ pending = [] := by
  constructor
  · intro h
    cases hr : repair pending with
    | nil => exact repair_eq_nil_iff.mp hr
    | cons first rest =>
      rw [segments_eq_cons hr] at h
      cases h
  · rintro rfl
    exact segments_nil

/-! ## Nothing is lost -/

/-- A repair keeps the text that the pieces make up, up to blanks. -/
theorem withoutBlanks_join_repair (pending : List Text) :
    Text.withoutBlanks (Text.join separator (repair pending)) =
      Text.withoutBlanks (Text.join separator pending) := by
  cases pending with
  | nil => rfl
  | cons p ps =>
    simp only [repair]
    split
    · split
      · rw [Text.join_singleton, Text.withoutBlanks_strip]
      · next a b hc =>
        rw [Text.join_cons (Text.pieces_ne_nil separator b), Text.join_pieces, ← cutOutside_eq_some hc]
        simp only [Text.withoutBlanks_append, Text.withoutBlanks_strip]
    · rfl

/-- **Taking segments off loses nothing but blanks.** -/
theorem withoutBlanks_join_segments (pending : List Text) :
    Text.withoutBlanks (Text.join separator (segments pending)) =
      Text.withoutBlanks (Text.join separator pending) := by
  fun_induction segments pending with
  | case1 pending h => rw [repair_eq_nil_iff.mp h]
  | case2 pending first rest h _ ih =>
    rw [← withoutBlanks_join_repair pending, h]
    by_cases hr : rest = []
    · rw [hr, segments_nil]
    · rw [Text.join_cons hr, Text.join_cons (mt segments_eq_nil_iff.mp hr)]
      simp only [Text.withoutBlanks_append, ih]

/-- A repair of pieces that make up a tidy text keeps that text, and what is pending behind the first
piece makes up a tidy text again. -/
theorem join_repair_of_tidy {pending : List Text} (ht : (Text.join separator pending).Tidy) :
    Text.join separator (repair pending) = Text.join separator pending ∧
      ∀ first rest, repair pending = first :: rest → rest ≠ [] → (Text.join separator rest).Tidy := by
  cases pending with
  | nil => exact ⟨rfl, fun _ _ h => by cases h⟩
  | cons p ps =>
    simp only [repair]
    split
    · split
      · refine ⟨by rw [Text.join_singleton, ht.strip_eq], ?_⟩
        rintro first rest h hne
        cases h
        exact absurd rfl hne
      · next a b hc =>
        have he := cutOutside_eq_some hc
        have hcut := Text.Tidy.cut (a := a) (b := b) (he ▸ ht)
        refine ⟨?_, ?_⟩
        · rw [Text.join_cons (Text.pieces_ne_nil separator b), Text.join_pieces, hcut.1, he]
        · rintro first rest h -
          cases h
          rw [Text.join_pieces]
          exact hcut.2
    · refine ⟨rfl, ?_⟩
      rintro first rest h hne
      cases h
      rw [Text.join_cons hne] at ht
      exact ht.cut.2

/-- **Taking segments off a tidy text loses nothing at all.** -/
theorem join_segments_of_tidy {pending : List Text} (ht : (Text.join separator pending).Tidy) :
    Text.join separator (segments pending) = Text.join separator pending := by
  fun_induction segments pending with
  | case1 pending h => rw [repair_eq_nil_iff.mp h]
  | case2 pending first rest h _ ih =>
    obtain ⟨hj, hrest⟩ := join_repair_of_tidy ht
    rw [← hj, h]
    by_cases hr : rest = []
    · rw [hr, segments_nil]
    · rw [Text.join_cons hr, Text.join_cons (mt segments_eq_nil_iff.mp hr), ih (hrest _ _ h hr)]

/-- A parameter carries the segment that spells it as its name. -/
@[simp] theorem Parameter.name_ofSegment (read : Text → Signature) (segment : Text) :
    (Parameter.ofSegment read segment).name = segment := by
  have typed : ∀ identifier type, (ofSegment.typed read segment identifier type).name = segment := by
    intro identifier type
    simp only [ofSegment.typed]
    split <;> rfl
  simp only [ofSegment]
  split
  · exact typed [] segment
  · split
    · rfl
    · split
      · exact typed _ _
      · rfl

theorem map_name_ofSegment (read : Text → Signature) (ts : List Text) :
    (ts.map (Parameter.ofSegment read)).map (·.name) = ts := by
  rw [List.map_map]
  exact (List.map_congr_left fun s _ => Parameter.name_ofSegment read s).trans (List.map_id _)

/-- The names of the parameters of a list are its segments. -/
theorem map_name_parametersOf (t : Text) : (parametersOf t).map (·.name) = segmentsOf t :=
  map_name_ofSegment Signature.ofText (segmentsOf t)

/-- **Nothing is lost, doubled or moved by reading a parameter list.** The names of the parameters put
together are the text, but for blanks; and a tidy text is got back as it is. -/
theorem join_names_parametersOf (t : Text) :
    Text.withoutBlanks (Text.join separator ((parametersOf t).map (·.name))) = Text.withoutBlanks t ∧
      (t.Tidy → Text.join separator ((parametersOf t).map (·.name)) = t) := by
  rw [map_name_parametersOf, segmentsOf]
  split
  · -- a blank list has no parameters, and there is nothing in it to lose
    next hb =>
    rw [Text.join_nil]
    exact ⟨(Text.withoutBlanks_eq_nil_iff.mpr hb).symm, fun ht => (ht.eq_nil_of_isBlank hb).symm⟩
  · refine ⟨?_, fun ht => ?_⟩
    · rw [withoutBlanks_join_segments, Text.join_pieces]
    · rw [join_segments_of_tidy (by rwa [Text.join_pieces]), Text.join_pieces]

/-- A list whose brackets are closed before they are opened is tidy, and got back as it is. -/
theorem join_names_unbalanced :
    Text.Tidy "cb func(a, b)) string, xs]..., d func(".toList ∧
      Text.join separator
          ((parametersOf "cb func(a, b)) string, xs]..., d func(".toList).map (·.name)) =
        "cb func(a, b)) string, xs]..., d func(".toList := by
  have ht : Text.Tidy "cb func(a, b)) string, xs]..., d func(".toList := by decide
  exact ⟨ht, (join_names_parametersOf _).2 ht⟩

/-! ## Whole parameters -/

/-- The text of a parameter that is not cut apart. What tells that it holds separators is a func type in
front of the first one. -/
structure Whole (t : Text) : Prop where
  /-- it is not empty -/
  ne_nil : t ≠ []
  /-- it has no blanks at its ends -/
  trimmed : Text.strip t = t
  /-- its brackets pair up -/
  nested : Nested t
  /-- it has no separator outside all brackets -/
  outside : cutOutside 0 t = none
  /-- if it holds a separator, there is a func type in front of it -/
  marked : ∀ a b, Text.cut separator t = some (a, b) → Text.contains a funcToken = true

namespace Whole

variable {p : Text}

/-- A whole parameter that stands alone is the only segment. -/
theorem segments_pieces (h : Whole p) : segments (Text.pieces separator p) = [p] := by
  suffices hr : repair (Text.pieces separator p) = [p] by
    rw [segments_eq_cons hr, segments_nil]
  cases hc : Text.cut separator p with
  | none =>
    have hp := Text.pieces_of_cut_eq_none hc
    rw [hp, repair_pieces hp, h.outside, h.trimmed, ite_self]
  | some c =>
    obtain ⟨a, b⟩ := c
    have hp := Text.pieces_of_cut_eq_some separator_ne_nil hc
    rw [hp, repair_pieces hp, if_pos (h.marked a b hc), h.outside, h.trimmed]

/-- A whole parameter in front of a separator is the first segment, and what stands behind the separator
is pending then. -/
theorem segments_pieces_append (h : Whole p) (t : Text) :
    segments (Text.pieces separator (p ++ separator ++ t)) =
      p :: segments (Text.pieces separator t) := by
  suffices hr : repair (Text.pieces separator (p ++ separator ++ t)) = p :: Text.pieces separator t from
    segments_eq_cons hr
  have hout := cutOutside_append_separator h.nested h.outside t
  have hcut := cut_append_separator p t
  cases hc : Text.cut separator p with
  | none =>
    -- the first piece is the parameter, whether it is repaired or not
    rw [hc] at hcut
    have hp := Text.pieces_of_cut_eq_some separator_ne_nil hcut
    simp only [hp, repair_pieces hp, hout, h.trimmed, ite_self]
  | some c =>
    obtain ⟨a, b⟩ := c
    rw [hc] at hcut
    have hp := Text.pieces_of_cut_eq_some separator_ne_nil hcut
    simp only [hp, repair_pieces hp, if_pos (h.marked a b hc), hout, h.trimmed]

end Whole

/-- **A list of whole parameters is cut into these parameters.** -/
theorem segmentsOf_join {ps : List Text} (h : ∀ p ∈ ps, Whole p) :
    segmentsOf (Text.join separator ps) = ps := by
  have hsegments : ∀ p qs, (∀ q ∈ p :: qs, Whole q) →
      segments (Text.pieces separator (Text.join separator (p :: qs))) = p :: qs := by
    intro p qs
    induction qs generalizing p with
    | nil => exact fun hw => by rw [Text.join_singleton, (hw p List.mem_cons_self).segments_pieces]
    | cons q qs ih =>
      intro hw
      rw [Text.join_cons_cons, (hw p List.mem_cons_self).segments_pieces_append,
        ih q fun r hr => hw r (List.mem_cons_of_mem p hr)]
  cases ps with
  | nil => rfl
  | cons p qs =>
    have hp := h p List.mem_cons_self
    have hblank : Text.isBlank (Text.join separator (p :: qs)) = false := by
      have hb := Text.isBlank_eq_false_of_strip hp.trimmed hp.ne_nil
      cases qs with
      | nil => rwa [Text.join_singleton]
      | cons q qs => simp only [Text.isBlank, Text.join_cons_cons, List.all_append] at hb ⊢; simp [hb]
    rw [segmentsOf, if_neg (by simp [hblank]), hsegments p qs h]

/-- A list of a single whole parameter. -/
theorem Whole.segmentsOf_eq {t : Text} (h : Whole t) : segmentsOf t = [t] := by
  have hsegments := segmentsOf_join (List.forall_mem_singleton.mpr h)
  rwa [Text.join_singleton] at hsegments

end GoCompletion
