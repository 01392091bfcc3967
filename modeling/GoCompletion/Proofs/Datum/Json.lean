import GoCompletion.Datum.Json

/-!
# What cannot be read

A text that is no JSON is a mistake, and that is told. **A fault means that a limit is passed**: an integer
has too many digits, or lists and objects lie too deep within each other (`Json.Limit`,
`Datum.limit_of_ofJson`). The limit of digits is that of showing integers as well, so what is read can be
shown (`Datum.not_isOverlong_of_ofJson`).
-/

namespace GoCompletion

namespace Json

/-- The limits of what is read. -/
inductive Limit : Fault → Prop
  /-- an integer has more digits than are read -/
  | digits {n : Nat} (h : Numeral.mostDigits < n) : Limit (Numeral.tooMany n)
  /-- lists and objects lie too deep within each other -/
  | levels (activity : Text) : Limit (.tooDeep activity)

/-- The reading is stopped by mistakes and by limits only. -/
def Limited {α : Type} (r : Except Stop α) : Prop := ∀ e, r = .error (.fault e) → Limit e

namespace Limited

variable {α β : Type}

theorem ok (a : α) : Limited (.ok a) := nofun

theorem mistake (cause : Cause) (left : Nat) : Limited (.error (.mistake cause left) : Except Stop α) :=
  nofun

theorem fault {e : Fault} (h : Limit e) : Limited (.error (.fault e) : Except Stop α) := by
  rintro _ ⟨⟩
  exact h

/-- One reading behind another is stopped as both are. -/
theorem bind {r : Except Stop α} {f : α → Except Stop β} (hr : Limited r) (hf : ∀ a, Limited (f a)) :
    Limited (r >>= f) := by
  cases r with
  | ok a => exact hf a
  | error s =>
    rintro e ⟨⟩
    exact hr e rfl

theorem map {r : Except Stop α} (h : Limited r) (f : α → β) : Limited (r.map f) := by
  cases r with
  | ok a => exact ok _
  | error s =>
    rintro e ⟨⟩
    exact h e rfl

end Limited

/-! ## Strings and numbers -/

theorem limited_unitEscape (unit : Nat) (r : Text) : Limited (unitEscape unit r) := by
  unfold unitEscape
  repeat' split
  all_goals first | exact .ok _ | exact .mistake _ _

/-- Strings have no limit. -/
theorem limited_stringBody (start : Nat) (t : Text) : Limited (stringBody start t) := by
  fun_induction stringBody start t with
  | case5 _ _ _ _ r _ unit _ s hs =>
    have h := limited_unitEscape unit r
    rintro e ⟨⟩
    exact h e hs
  | case6 => exact Limited.map ‹Limited _› _
  | case9 => exact Limited.map ‹Limited _› _
  | case12 => exact Limited.map ‹Limited _› _
  | _ => first | exact .ok _ | exact .mistake _ _

theorem limit_of_ofDigits {ds : Text} {e : Fault} (h : Numeral.ofDigits ds = .error e) : Limit e := by
  unfold Numeral.ofDigits at h
  split at h
  · next hlength =>
    cases h
    exact .digits hlength
  · cases h

/-- The only limit of a number is the number of its digits. -/
theorem limit_of_number? {t : Text} {e : Fault} {rest : Text} (h : number? t = some (.error e, rest)) :
    Limit e := by
  unfold number? at h
  split at h
  next negative body _ =>
  split at h
  next whole r₁ _ =>
  split at h
  · cases h
  · split at h
    next fractional r₂ _ =>
    split at h
    next power r₃ _ =>
    split at h
    · cases hd : Numeral.ofDigits whole with
      | ok n =>
        rw [hd] at h
        cases h
      | error e' =>
        rw [hd] at h
        cases h
        exact limit_of_ofDigits hd
    · cases h

theorem limited_scalar (t : Text) : Limited (scalar t) := by
  unfold scalar
  split
  · exact .ok _
  · split
    · exact .ok _
    · next h => exact .fault (limit_of_number? h)
    · exact .mistake _ _

/-! ## Values -/

/-- Values, items and members are stopped by limits only, however many characters are left for them. -/
theorem limited_values (bound : Nat) :
    (∀ levels t, Limited (value bound levels t)) ∧ (∀ levels t, Limited (items bound levels t)) ∧
      ∀ levels entries t, Limited (members bound levels entries t) := by
  induction bound with
  | zero =>
    refine ⟨fun levels t => ?_, fun levels t => ?_, fun levels entries t => ?_⟩
    · unfold value
      exact .mistake _ _
    · unfold items
      exact .mistake _ _
    · unfold members
      exact .mistake _ _
  | succ bound ih =>
    obtain ⟨hvalue, hitems, hmembers⟩ := ih
    refine ⟨fun levels t => ?_, fun levels t => ?_, fun levels entries t => ?_⟩
    · unfold value
      split
      · exact .bind (limited_stringBody _ _) fun _ => .ok _
      · split
        · exact .fault (.levels _)
        · split
          · exact .ok _
          · exact .bind (hitems _ _) fun _ => .ok _
      · split
        · exact .fault (.levels _)
        · split
          · exact .ok _
          · exact .bind (hmembers _ _ _) fun _ => .ok _
      · exact limited_scalar _
    · unfold items
      refine .bind (hvalue _ _) fun ⟨d, r⟩ => ?_
      dsimp only
      split
      · exact .ok _
      · exact .bind (hitems _ _) fun _ => .ok _
      · exact .mistake _ _
    · unfold members
      split
      · refine .bind (limited_stringBody _ _) fun ⟨key, r⟩ => ?_
        dsimp only
        split
        · refine .bind (hvalue _ _) fun ⟨d, r⟩ => ?_
          dsimp only
          split
          · exact .ok _
          · exact hmembers _ _ _
          · exact .mistake _ _
        · exact .mistake _ _
      · exact .mistake _ _

theorem limited_document (t : Text) : Limited (document t) := by
  unfold document
  split
  · exact .mistake _ _
  · have hvalue := (limited_values (2 * t.length + 2)).1 mostLevels (skipBlanks t)
    split
    · next s hs =>
      rintro e ⟨⟩
      exact hvalue e hs
    · split
      · exact .ok _
      · exact .mistake _ _

end Json

/-- **What cannot be read** passes a limit. -/
theorem Datum.limit_of_ofJson {t : Text} {e : Fault} (h : ofJson t = .error e) : Json.Limit e := by
  have hdocument := Json.limited_document t
  unfold ofJson at h
  split at h
  · cases h
  · cases h
  · next hd =>
    cases h
    exact hdocument e hd

/-! ## What is read can be shown -/

namespace Numeral

theorem valueOf?_getD_lt {base : Nat} (h : 0 < base) (c : Char) : (valueOf? base c).getD 0 < base := by
  cases hvalue : valueOf? base c with
  | none => exact h
  | some n =>
    unfold valueOf? at hvalue
    have hn := (Option.filter_eq_some_iff.mp hvalue).2
    simpa using hn

/-- Digits of a base spell less than a one with as many zeros behind it. -/
theorem numberOf_lt {base : Nat} (h : 0 < base) (ds : Text) :
    numberOf base ds < Nat.pow base ds.length := by
  have hbehind : ∀ n, ds.foldl (fun n d => base * n + (valueOf? base d).getD 0) n <
      (n + 1) * Nat.pow base ds.length := by
    induction ds with
    | nil => exact fun n => Nat.mul_one _ ▸ Nat.lt_succ_self n
    | cons d ds ih =>
      intro n
      have hdigit := valueOf?_getD_lt h d
      calc ds.foldl (fun n d => base * n + (valueOf? base d).getD 0) (base * n + (valueOf? base d).getD 0)
        _ < (base * n + (valueOf? base d).getD 0 + 1) * Nat.pow base ds.length := ih _
        _ ≤ (n + 1) * base * Nat.pow base ds.length := by
          refine Nat.mul_le_mul_right _ ?_
          rw [Nat.succ_mul, Nat.mul_comm n]
          omega
        _ = (n + 1) * (Nat.pow base ds.length * base) := by rw [Nat.mul_assoc, Nat.mul_comm base]
  have hnumber := hbehind 0
  rwa [Nat.zero_add, Nat.one_mul] at hnumber

theorem numberOf_lt_of_le {base : Nat} (h : 0 < base) {ds : Text} {n : Nat} (hlength : ds.length ≤ n) :
    numberOf base ds < Nat.pow base n :=
  Nat.lt_of_lt_of_le (numberOf_lt h ds) (Nat.pow_le_pow_right h hlength)

/-- Decimal digits that are read spell a number that can be shown. -/
theorem lt_of_ofDigits {ds : Text} {n : Nat} (h : ofDigits ds = .ok n) : n < Nat.pow 10 mostDigits := by
  unfold ofDigits at h
  -- the power is not to be evaluated
  generalize mostDigits = most at h ⊢
  split at h
  · cases h
  · next hlength =>
    cases h
    exact numberOf_lt_of_le (Nat.zero_lt_succ 9) (Nat.le_of_not_lt hlength)

end Numeral

namespace Json

/-- What is read, if anything is, is free of a flaw. -/
def Free {α : Type} (flaw : α → Bool) (r : Except Stop (α × Text)) : Prop :=
  ∀ a rest, r = .ok (a, rest) → flaw a = false

namespace Free

variable {α β : Type} {flaw : α → Bool} {flaw' : β → Bool}

theorem ok {a : α} (h : flaw a = false) (rest : Text) : Free flaw (.ok (a, rest)) := by
  rintro _ _ ⟨⟩
  exact h

theorem error (s : Stop) : Free flaw (.error s) := nofun

/-- One reading behind another is free of a flaw if what it makes of that is. -/
theorem bind {r : Except Stop (α × Text)} {f : α × Text → Except Stop (β × Text)} (hr : Free flaw r)
    (hf : ∀ a rest, flaw a = false → Free flaw' (f (a, rest))) : Free flaw' (r >>= f) := by
  rcases r with s | ⟨a, rest⟩
  · exact error s
  · exact hf a rest (hr a rest rfl)

/-- Strings have no flaw that matters. -/
theorem string_bind {r : Except Stop (Text × Text)} {f : Text × Text → Except Stop (β × Text)}
    (hf : ∀ t rest, Free flaw' (f (t, rest))) : Free flaw' (r >>= f) := by
  have hr : Free (fun _ => false) r := fun _ _ _ => rfl
  exact bind hr fun t rest _ => hf t rest

end Free

/-- A number that is read is not too long. -/
theorem not_isOverlong_of_number? {t rest : Text} {d : Datum} (h : number? t = some (.ok d, rest)) :
    d.isOverlong = false := by
  unfold number? at h
  split at h
  next negative body _ =>
  split at h
  next whole r₁ _ =>
  split at h
  · cases h
  · split at h
    next fractional r₂ _ =>
    split at h
    next power r₃ _ =>
    split at h
    · cases hn : Numeral.ofDigits whole with
      | error e =>
        rw [hn] at h
        cases h
      | ok n =>
        rw [hn] at h
        cases h
        refine decide_eq_false (Nat.not_le.mpr ?_)
        cases negative with
        | true => exact (Int.natAbs_neg _).symm ▸ Numeral.lt_of_ofDigits hn
        | false => exact Numeral.lt_of_ofDigits hn
    · cases h
      rfl

theorem free_scalar (t : Text) : Free Datum.isOverlong (scalar t) := by
  have hwords : ∀ w ∈ words, w.2.isOverlong = false := by
    decide
  unfold scalar
  split
  · next w hw => exact .ok (hwords w (List.mem_of_find?_eq_some hw)) _
  · split
    · next h => exact .ok (not_isOverlong_of_number? h) _
    · exact .error _
    · exact .error _

/-- An entry put among others is too long only if it or one of them is. -/
theorem anyEntryOverlong_insert (key : Text) {d : Datum} {entries : List (Datum × Datum)}
    (hd : d.isOverlong = false) (h : Datum.anyEntryOverlong entries = false) :
    Datum.anyEntryOverlong (insert key d entries) = false := by
  fun_induction insert key d entries with
  | case1 => simp [Datum.anyEntryOverlong, Datum.isOverlong, hd]
  | case2 => simp_all [Datum.anyEntryOverlong, Datum.isOverlong]
  | case3 => simp_all [Datum.anyEntryOverlong, Datum.isOverlong]
  | case4 => simp_all [Datum.anyEntryOverlong]

/-- Values, items and members hold no integer that is too long. -/
theorem free_values (bound : Nat) :
    (∀ levels t, Free Datum.isOverlong (value bound levels t)) ∧
      (∀ levels t, Free Datum.anyOverlong (items bound levels t)) ∧
        ∀ levels entries t, Datum.anyEntryOverlong entries = false →
          Free Datum.anyEntryOverlong (members bound levels entries t) := by
  induction bound with
  | zero => 
    refine ⟨fun levels t => ?_, fun levels t => ?_, fun levels entries t _ => ?_⟩
    · unfold value
      exact .error _
    · unfold items
      exact .error _
    · unfold members
      exact .error _
  | succ bound ih =>
    obtain ⟨hvalue, hitems, hmembers⟩ := ih
    refine ⟨fun levels t => ?_, fun levels t => ?_, fun levels entries t hentries => ?_⟩
    · unfold value
      split
      · exact .string_bind fun s rest => .ok rfl rest
      · split
        · exact .error _
        · split
          · exact .ok rfl _
          · exact .bind (hitems _ _) fun ds rest hds => .ok (a := Datum.list ds) hds rest
      · split
        · exact .error _
        · split
          · exact .ok rfl _
          · exact .bind (hmembers _ _ _ rfl) fun es rest hes => .ok (a := Datum.map es) hes rest
      · exact free_scalar _
    · unfold items
      refine .bind (hvalue _ _) fun d r hd => ?_
      dsimp only
      split
      · exact .ok (by simp [Datum.anyOverlong, hd]) _
      · exact .bind (hitems _ _) fun ds rest hds => .ok (by simp [Datum.anyOverlong, hd, hds]) rest
      · exact .error _
    · unfold members
      split
      · refine .string_bind fun key r => ?_
        dsimp only
        split
        · refine .bind (hvalue _ _) fun d r hd => ?_
          have hinserted := anyEntryOverlong_insert key hd hentries
          dsimp only
          split
          · exact .ok hinserted _
          · exact hmembers _ _ _ hinserted
          · exact .error _
        · exact .error _
      · exact .error _

end Json

/-- **What is read can be shown**: no integer in it is too long. -/
theorem Datum.not_isOverlong_of_ofJson {t : Text} {d : Datum} (h : ofJson t = .ok (.ok d)) :
    d.isOverlong = false := by
  unfold ofJson at h
  split at h
  · next d' hd' =>
    cases h
    unfold Json.document at hd'
    split at hd'
    · cases hd'
    · split at hd'
      · cases hd'
      · next r hr => 
        split at hd'
        · cases hd'
          exact (Json.free_values _).1 _ _ _ _ hr
        · cases hd'
  · cases h
  · cases h

namespace Datum

theorem anyOverlong_eq (ds : List Datum) : anyOverlong ds = ds.any isOverlong := by
  induction ds with
  | nil => rfl
  | cons d ds ih => rw [anyOverlong, ih, List.any_cons]

/-- What a mapping has under a key can be shown if the mapping can. -/
theorem not_isOverlong_of_get? {d v : Datum} {key : Text} (hd : d.isOverlong = false)
    (h : d.get? key = some v) : v.isOverlong = false := by
  have hlookup : ∀ entries : List (Datum × Datum), anyEntryOverlong entries = false →
      lookup key entries = some v → v.isOverlong = false := by
    intro entries hentries hv
    fun_induction lookup key entries with
    | case1 => cases hv
    | case2 => simp_all [anyEntryOverlong]
    | case3 => simp_all [anyEntryOverlong]
    | case4 => simp_all [anyEntryOverlong]
  cases d with
  | map entries => exact hlookup entries hd h
  | _ => cases h

end Datum

end GoCompletion
