import GoCompletion.Proofs.Signature.Segments

/-!
# Where a parameter list is divided

A list is meant to be divided between its parameters, and never inside brackets. The texts of parameters are
`Bracketed`: trimmed, with brackets that pair up, and without a separator outside of them.

Separators inside brackets are told from the others only behind a func type. A list of bracketed texts is
therefore divided into these **exactly if** every separator in one of them stands behind a func type there
(`map_name_parametersOf_join`); the parameters of an interface's method are divided
(`map_name_parametersOf_method`).
-/

namespace GoCompletion

/-- The text of a parameter. -/
structure Bracketed (t : Text) : Prop where
  /-- it is not empty -/
  ne_nil : t ≠ []
  /-- it has no blanks at its ends -/
  trimmed : Text.strip t = t
  /-- its brackets pair up -/
  nested : Nested t
  /-- every separator in it stands inside brackets: in front of it they do not pair up -/
  enclosed : ∀ a b, t = a ++ separator ++ b → ¬ Nested a

/-- Every separator in the text stands behind a func type that begins in it. -/
def Marked (t : Text) : Prop := ∀ a b, t = a ++ separator ++ b → funcToken <:+: a

/-! ## Separators outside all brackets -/

/-- What stands in front of a cut outside all brackets is well nested. -/
theorem Nested.of_cutOutside {t a b : Text} (ht : Nested t) (h : cutOutside 0 t = some (a, b)) :
    Nested a := by
  induction ht generalizing a with
  | nil => cases h
  | @char c t ho hc _ ih =>
    by_cases hs : separator.isPrefixOf (c :: t) = true
    · rw [cutOutside, if_neg (by simp [ho]), if_neg (by simp [hc]), if_pos ⟨rfl, hs⟩] at h
      obtain ⟨rfl, -⟩ := Prod.mk.inj (Option.some.inj h)
      exact .nil
    · rw [cutOutside_cons_other ho hc (by simpa using hs)] at h
      obtain ⟨⟨a', b'⟩, hcut, he⟩ := Option.map_eq_some_iff.mp h
      obtain ⟨rfl, rfl⟩ := Prod.mk.inj he
      exact .char ho hc (ih hcut)
  | @pair o c s t hp hs _ _ ih =>
    rw [cutOutside_pair hp hs t (Int.le_refl 0)] at h
    obtain ⟨⟨a', b'⟩, hcut, he⟩ := Option.map_eq_some_iff.mp h
    obtain ⟨rfl, rfl⟩ := Prod.mk.inj he
    exact .pair hp hs (ih hcut)

/-- Behind a well-nested text a separator is outside all brackets. -/
theorem Nested.cutOutside_ne_none {a : Text} (ha : Nested a) (b : Text) :
    cutOutside 0 (a ++ separator ++ b) ≠ none := by
  induction ha with
  | nil => simp [cutOutside, separator, isOpening, isClosing]
  | @char c s ho hc _ ih =>
    simp only [List.cons_append]
    by_cases hs : separator.isPrefixOf (c :: (s ++ separator ++ b)) = true
    · rw [cutOutside, if_neg (by simp [ho]), if_neg (by simp [hc]), if_pos ⟨rfl, hs⟩]
      simp
    · rw [cutOutside_cons_other ho hc (by simpa using hs)]
      simpa using ih
  | @pair o c s t hp hs _ _ ih =>
    have hsplit : o :: (s ++ c :: t) ++ separator ++ b = o :: (s ++ c :: (t ++ separator ++ b)) := by simp
    rw [hsplit, cutOutside_pair hp hs _ (Int.le_refl 0)]
    simpa using ih

/-- **A well-nested text cannot be cut outside all brackets** exactly if every separator in it stands inside
some. -/
theorem Nested.cutOutside_eq_none_iff {t : Text} (ht : Nested t) :
    cutOutside 0 t = none ↔ ∀ a b, t = a ++ separator ++ b → ¬ Nested a := by
  constructor
  · rintro hnone a b rfl ha
    exact ha.cutOutside_ne_none b hnone
  · intro h
    cases hcut : cutOutside 0 t with
    | none => rfl
    | some parts =>
      obtain ⟨a, b⟩ := parts
      exact absurd (ht.of_cutOutside hcut) (h a b (cutOutside_eq_some hcut).symm)

/-! ## Marked separators -/

/-- Every separator stands behind a func type exactly if the first one does. -/
theorem marked_iff_cut {t : Text} :
    Marked t ↔ ∀ a b, Text.cut separator t = some (a, b) → Text.contains a funcToken = true := by
  constructor
  · intro h a b hcut
    exact Text.contains_iff_infix.mpr (h a b (Text.cut_eq_some hcut).symm)
  · intro h a b ht
    cases hcut : Text.cut separator t with
    | none => exact absurd ⟨a, b, ht.symm⟩ (Text.not_infix_of_cut separator_ne_nil hcut)
    | some parts =>
      obtain ⟨a', b'⟩ := parts
      exact (Text.contains_iff_infix.mp (h a' b' hcut)).trans (Text.prefix_of_cut hcut ht).isInfix

instance (t : Text) : Decidable (Marked t) :=
  decidable_of_iff ((Text.cut separator t).all (fun parts => Text.contains parts.1 funcToken) = true) <| by
    rw [marked_iff_cut]
    cases Text.cut separator t with
    | none => simp
    | some parts => exact ⟨fun h a b he => by rw [Option.some.inj he] at h; exact h, fun h => h _ _ rfl⟩

/-! ## Bracketed texts -/

namespace Bracketed

variable {t : Text}

/-- A trimmed text with brackets that pair up is bracketed if it cannot be cut outside of them. -/
theorem of_nested (hnested : Nested t) (hne : t ≠ []) (htrimmed : Text.strip t = t)
    (hnone : cutOutside 0 t = none) : Bracketed t :=
  ⟨hne, htrimmed, hnested, hnested.cutOutside_eq_none_iff.mp hnone⟩

/-- A bracketed text whose separators are marked is whole. -/
theorem whole (h : Bracketed t) (hmarked : Marked t) : Whole t where
  ne_nil := h.ne_nil
  trimmed := h.trimmed
  nested := h.nested
  outside := h.nested.cutOutside_eq_none_iff.mpr h.enclosed
  marked := marked_iff_cut.mp hmarked

end Bracketed

/-! ## Lists of bracketed texts -/

/-- A text in front of which the list is divided is marked: otherwise the first segment would end at its
first separator. -/
theorem marked_of_segments {t p : Text} {rest : List Text} (ht : t = p ∨ ∃ u, t = p ++ separator ++ u)
    (h : segments (Text.pieces separator t) = p :: rest) : Marked p := by
  refine marked_iff_cut.mpr fun a b hcut => ?_
  have hcut' : ∃ b', Text.cut separator t = some (a, b') := by
    rcases ht with rfl | ⟨u, rfl⟩
    · exact ⟨b, hcut⟩
    · exact ⟨b ++ separator ++ u, by rw [cut_append_separator, hcut]; rfl⟩
  obtain ⟨b', hcut'⟩ := hcut'
  have hpieces := Text.pieces_of_cut_eq_some separator_ne_nil hcut'
  by_contra hunmarked
  have hrepair : repair (Text.pieces separator t) = a :: Text.pieces separator b' := by
    rw [hpieces, repair_pieces hpieces, if_neg hunmarked]
  rw [segments_eq_cons hrepair] at h
  have hlen := Text.length_of_cut hcut
  rw [(List.cons.inj h).1] at hlen
  simp only [separator, List.length_cons, List.length_nil] at hlen
  omega

/-- **A list of bracketed texts is divided between them** exactly if all separators in them are marked. -/
theorem segmentsOf_join_iff {ps : List Text} (h : ∀ p ∈ ps, Bracketed p) :
    segmentsOf (Text.join separator ps) = ps ↔ ∀ p ∈ ps, Marked p := by
  refine ⟨fun hsegments => ?_, fun hmarked => segmentsOf_join fun p hp => (h p hp).whole (hmarked p hp)⟩
  unfold segmentsOf at hsegments
  split at hsegments
  · rw [← hsegments]
    nofun
  · clear * - h hsegments
    induction ps with
    | nil => nofun
    | cons p qs ih =>
      cases qs with
      | nil =>
        rw [Text.join_singleton] at hsegments
        simpa using marked_of_segments (.inl rfl) hsegments
      | cons q qs =>
        rw [Text.join_cons_cons] at hsegments
        have hp := marked_of_segments (.inr ⟨_, rfl⟩) hsegments
        rw [((h p List.mem_cons_self).whole hp).segments_pieces_append] at hsegments
        have hqs := ih (fun r hr => h r (List.mem_cons_of_mem p hr)) (List.cons.inj hsegments).2
        exact List.forall_mem_cons.mpr ⟨hp, hqs⟩

/-- **Parameters are never divided inside brackets** exactly if every separator there stands behind a func
type in the same parameter: then, and only then, the parameters of a list of bracketed texts have just these
texts as their names. -/
theorem map_name_parametersOf_join {ps : List Text} (h : ∀ p ∈ ps, Bracketed p) :
    (parametersOf (Text.join separator ps)).map (·.name) = ps ↔ ∀ p ∈ ps, Marked p := by
  rw [map_name_parametersOf]
  exact segmentsOf_join_iff h

/-- Separators behind func types: in a result that takes two types, and in an interface that a func takes. -/
theorem map_name_parametersOf_behindFunc :
    let ps := ["f func(a, b int) Map[K, V]".toList, "[]func(x interface{F(u, v int)})".toList]
    (∀ p ∈ ps, Bracketed p) ∧ (∀ p ∈ ps, Marked p) ∧
      (parametersOf (Text.join separator ps)).map (·.name) = ps := by
  intro ps
  have hresult : Nested "f func(a, b int) Map[K, V]".toList := by
    have htypes : Nested " Map[K, V]".toList :=
      (Nested.of_all (t := " Map".toList) (by decide)).append
        (.pair (by decide) (.of_all (t := "K, V".toList) (by decide)) .nil)
    exact (Nested.of_all (t := "f func".toList) (by decide)).append
      (.parens (.of_all (t := "a, b int".toList) (by decide)) htypes)
  have hinterface : Nested "[]func(x interface{F(u, v int)})".toList := by
    have hmethod : Nested "F(u, v int)".toList :=
      (Nested.of_all (t := "F".toList) (by decide)).append
        (.parens (.of_all (t := "u, v int".toList) (by decide)) .nil)
    have hfunc : Nested "func(x interface{F(u, v int)})".toList :=
      (Nested.of_all (t := "func".toList) (by decide)).append
        (.parens ((Nested.of_all (t := "x interface".toList) (by decide)).append
          (.pair (by decide) hmethod .nil)) .nil)
    exact .pair (by decide) .nil hfunc
  have hbracketed : ∀ p ∈ ps, Bracketed p :=
    List.forall_mem_cons.mpr ⟨.of_nested hresult (by decide) (by decide) (by decide),
      List.forall_mem_singleton.mpr (.of_nested hinterface (by decide) (by decide) (by decide))⟩
  have hmarked : ∀ p ∈ ps, Marked p := by decide
  exact ⟨hbracketed, hmarked, (map_name_parametersOf_join hbracketed).mpr hmarked⟩

/-- **The parameters of an interface's method** are divided, since no func type stands in front of them. -/
theorem map_name_parametersOf_method :
    let ps := ["x interface{F(a int, b int)}".toList, "y int".toList]
    (∀ p ∈ ps, Bracketed p) ∧
      (parametersOf (Text.join separator ps)).map (·.name) =
        ["x interface\x7bF(a int".toList, "b int)\x7d".toList, "y int".toList] ∧
      (parametersOf (Text.join separator ps)).map (·.name) ≠ ps := by
  intro ps
  have hmethod : Nested "F(a int, b int)".toList :=
    (Nested.of_all (t := "F".toList) (by decide)).append
      (.parens (.of_all (t := "a int, b int".toList) (by decide)) .nil)
  have hinterface : Nested "x interface{F(a int, b int)}".toList :=
    (Nested.of_all (t := "x interface".toList) (by decide)).append (.pair (by decide) hmethod .nil)
  have hnames : (parametersOf (Text.join separator ps)).map (·.name) =
      ["x interface\x7bF(a int".toList, "b int)\x7d".toList, "y int".toList] := by decide +kernel
  have hbracketed : ∀ p ∈ ps, Bracketed p :=
    List.forall_mem_cons.mpr ⟨.of_nested hinterface (by decide) (by decide) (by decide),
      List.forall_mem_singleton.mpr
        (.of_nested (.of_all (t := "y int".toList) (by decide)) (by decide) (by decide) (by decide))⟩
  exact ⟨hbracketed, hnames, by rw [hnames]; decide⟩

end GoCompletion
