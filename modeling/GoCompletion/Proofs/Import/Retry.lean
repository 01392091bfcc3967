import GoCompletion.Proofs.Import.Insertion
import GoCompletion.Proofs.Import.Scope
import GoCompletion.Proofs.Import.Wanted

/-!
# Asking again behind an added import

Once an import is added, the daemon is asked again at the moved cursor, and the answer is of use only if the
same package is wanted there. What is put in goes behind an opening paren or to the end of a line, so it never
goes into a word (`nameAtEnd_insertion`). But a cursor right at the place is moved behind all that is put in,
and there is no dot. **The same package is wanted at the moved cursor exactly unless the cursor is at the end
of the line of a package clause that the import follows** (`wantedPackage_addImport_iff`).
-/

namespace GoCompletion

open Utf8

/-! ## One place -/

/-- There is no more than one position behind the first of its kind. -/
theorem FirstOpened.position_unique {opens : Text → Text → Prop} {t : Text} {k k' : Nat}
    (h : FirstOpened opens t k) (h' : FirstOpened opens t k')
    (hopens : ∀ {u v w}, opens u v → opens u w → v = w) : k = k' := by
  obtain ⟨before, rest, hstart, ⟨hk, hrest⟩, hfirst⟩ := h
  obtain ⟨before', rest', hstart', ⟨hk', hrest'⟩, hfirst'⟩ := h'
  have hlength : before.length = before'.length := by
    refine Nat.le_antisymm (Nat.le_of_not_lt fun hlt => ?_) (Nat.le_of_not_lt fun hlt => ?_)
    · exact hfirst _ _ _ hstart' hlt hrest'
    · exact hfirst' _ _ _ hstart hlt hrest
  obtain ⟨rfl, rfl⟩ := List.append_inj (hstart.1.symm.trans hstart'.1) hlength
  have hdrop := congrArg List.length (hopens hrest hrest')
  rw [List.length_drop, List.length_drop] at hdrop
  omega

theorem OpensPackage.rest_unique {u v w : Text} (hv : OpensPackage u v) (hw : OpensPackage u w) : v = w :=
  Option.some.inj ((afterPackageClause_eq_some.mpr hv).symm.trans (afterPackageClause_eq_some.mpr hw))

theorem FirstOpened.not_nowhereOpened {opens : Text → Text → Prop} {t : Text} {k : Nat}
    (h : FirstOpened opens t k) : ¬ NowhereOpened opens t := by
  obtain ⟨before, rest, hstart, ⟨-, hopens⟩, -⟩ := h
  exact fun hnone => hnone before rest _ hstart hopens

/-- Behind the line of a package clause there is a newline, or the end of the text. -/
theorem FirstOpened.newline_behind {t : Text} {k : Nat} (h : FirstOpened OpensPackage t k) :
    ∀ c ∈ (t.drop k).head?, c = '\n' := by
  obtain ⟨-, -, -, ⟨-, -, -, -, -, -, ⟨-, hbehind⟩, -⟩, -⟩ := h
  exact hbehind

/-! ## Words around what is put in -/

/-- The name at the end of a text is behind every character that is in no word. -/
theorem nameAtEnd_append_cons {c : Char} (hc : isWord c = false) (s u : Text) :
    nameAtEnd (s ++ c :: u) = nameAtEnd u := by
  rw [nameAtEnd, List.reverse_append, List.reverse_cons, List.append_assoc, List.singleton_append,
    Text.takeWhile_append_cons hc, nameAtEnd]

section Retry

variable {t path name before between : Text} {s : ImportSite} {added : AddedImport} {c k : Nat}

theorem ImportSite.exists_insertion (s : ImportSite) (path : Text) :
    ∃ front, s.insertion path = front ++ ['"'] := ⟨_, rfl⟩

/-- What stands between a place and the dot that ends in front of a cursor behind it. -/
theorem exists_between (hdot : t.take c = before ++ ['.']) (hbefore : before.length + 1 = c) (hk : k < c) :
    ∃ between, before = t.take k ++ between ∧ t.slice k c = between ++ ['.'] := by
  have hle : k ≤ before.length := by omega
  have htake : t.take k = before.take k := by
    rw [← List.take_append_of_le_length hle, ← hdot, List.take_take, Nat.min_eq_left (Nat.le_of_lt hk)]
  refine ⟨before.drop k, ?_, ?_⟩
  · rw [htake, List.take_append_drop]
  · rw [Text.slice, hdot, List.drop_append_of_le_length hle]

/-- **What is put in goes into no word**: the name in front of a dot behind the place stays as it is. -/
theorem nameAtEnd_insertion (hs : importSite t = some s)
    (hbetween : t.slice s.position c = between ++ ['.']) (path : Text) :
    nameAtEnd (t.take s.position ++ s.insertion path ++ between) = nameAtEnd (t.take s.position ++ between) := by
  obtain ⟨hblock, -⟩ | ⟨-, hpackage, -⟩ := importSite_cases hs
  · -- the paren in front and the quote that is put in are in no word
    obtain ⟨front, opening, -, htake, -⟩ := hblock.opening
    obtain ⟨quoted, hquoted⟩ := s.exists_insertion path
    have hbehind : t.take s.position ++ s.insertion path ++ between =
        (t.take s.position ++ quoted) ++ '"' :: between := by simp [hquoted]
    have hfront : t.take s.position ++ between = (front ++ opening) ++ '(' :: between := by simp [htake]
    rw [hbehind, hfront, nameAtEnd_append_cons (by decide +kernel), nameAtEnd_append_cons (by decide +kernel)]
  · -- the newline behind the line of the clause is in no word
    obtain ⟨rest, rfl⟩ : ∃ rest, between = '\n' :: rest := by
      have hhead := hpackage.newline_behind
      have hprefix : between ++ ['.'] <+: t.drop s.position := by
        rw [← hbetween, Text.slice, List.drop_take]
        exact List.take_prefix _ _
      obtain ⟨behind, hbehind⟩ := hprefix
      rw [← hbehind] at hhead
      cases between with
      | nil => exact absurd (hhead '.' rfl) (by decide)
      | cons d rest => exact ⟨rest, by rw [hhead d rfl]⟩
    rw [nameAtEnd_append_cons (by decide +kernel), nameAtEnd_append_cons (by decide +kernel)]

/-! ## The moved cursor -/

/-- A text with an import added is the text with an insertion at the place for it. -/
theorem exists_inserted (h : addImport t path (byteLength (t.take c)) = some added) :
    ∃ s, importSite t = some s ∧ s.position ≤ t.length ∧ Inserted t c s.position (s.insertion path) added := by
  obtain ⟨s, hs, rfl⟩ := Option.map_eq_some_iff.mp h
  have hk : s.position ≤ t.length := by
    obtain ⟨h, -⟩ | ⟨-, h, -⟩ := importSite_cases hs <;> exact h.le_length
  refine ⟨s, hs, hk, ?_⟩
  simp only [Int.ofNat_le, byteLength_take_le_iff hk]
  split
  · next hc => exact inserted_of_le _ hk hc
  · next hc => exact inserted_of_lt _ hk (Nat.not_le.mp hc)

/-- A cursor in front of the place has the same text in front of it, and so the same name. -/
theorem wantedPackage_of_lt {inserted : Text} (hw : wantedPackage t c = .ok (some name))
    (h : Inserted t c k inserted added) (hc : c < k) (hk : k ≤ t.length) :
    added.offset = byteLength (added.text.take c) ∧ wantedPackage added.text c = .ok (some name) := by
  have htake : added.text.take c = t.take c := by
    rw [h.text_eq, List.append_assoc, List.take_append_of_le_length (by rw [List.length_take]; omega),
      List.take_take, Nat.min_eq_left (Nat.le_of_lt hc)]
  rw [wantedPackage_eq_some_iff] at hw ⊢
  rw [htake]
  exact ⟨h.offset_of_lt hc, hw⟩

/-- A cursor behind the place has the same name in front of it, behind what is put in. -/
theorem wantedPackage_of_gt (hs : importSite t = some s) (hw : wantedPackage t c = .ok (some name))
    (h : Inserted t c s.position (s.insertion path) added) (hc : s.position < c) :
    ∃ j : Nat, added.offset = byteLength (added.text.take j) ∧
      wantedPackage added.text j = .ok (some name) := by
  obtain ⟨before, ⟨hdot, hbefore⟩, hname, hne⟩ := wantedPackage_eq_some_iff.mp hw
  obtain ⟨between, hsplit, hslice⟩ := exists_between hdot hbefore hc
  let front := t.take s.position ++ s.insertion path ++ between
  have htext : added.text = front ++ ['.'] ++ t.drop c := by
    rw [h.text_eq, ← Text.slice_append_drop (Nat.le_of_lt hc), hslice]
    simp only [front, List.append_assoc]
  have htake : added.text.take (front.length + 1) = front ++ ['.'] := by
    rw [htext]
    exact List.take_left' List.length_append
  refine ⟨front.length + 1, ?_, wantedPackage_eq_some_iff.mpr ⟨front, ⟨htake, rfl⟩, ?_, hne⟩⟩
  · rw [htake, h.offset_of_le (Nat.le_of_lt hc), hslice]
    simp only [front, List.append_assoc]
  · rw [nameAtEnd_insertion hs hslice, ← hsplit, hname]

/-- A cursor right at the place is moved behind the quote that ends what is put in, and nothing is wanted
there. -/
theorem not_wantedPackage_of_eq (h : Inserted t k k (s.insertion path) added) {j : Nat}
    (hoffset : added.offset = byteLength (added.text.take j)) :
    wantedPackage added.text j ≠ .ok (some name) := by
  intro hw
  obtain ⟨before, ⟨hdot, hbefore⟩, -, -⟩ := wantedPackage_eq_some_iff.mp hw
  let front := t.take k ++ s.insertion path
  have htake : added.text.take front.length = front := by
    rw [h.text_eq]
    exact List.take_left
  have hmoved : added.offset = byteLength (added.text.take front.length) := by
    rw [htake, h.offset_of_le (Nat.le_refl k), Text.slice, List.drop_take, Nat.sub_self, List.take_zero,
      List.append_nil]
  have hbytes : byteLength (added.text.take j) = byteLength (added.text.take front.length) :=
    Int.ofNat_inj.mp (hoffset.symm.trans hmoved)
  have hj : j ≤ added.text.length := by
    have hle := List.length_take_le' j added.text
    rwa [hdot, List.length_append, List.length_singleton, hbefore] at hle
  have hfront : front.length ≤ added.text.length := by
    rw [h.text_eq]
    exact (List.prefix_append front _).length_le
  obtain rfl : j = front.length :=
    Nat.le_antisymm ((byteLength_take_le_iff hj).mp (Nat.le_of_eq hbytes))
      ((byteLength_take_le_iff hfront).mp (Nat.le_of_eq hbytes.symm))
  obtain ⟨quoted, hquoted⟩ := s.exists_insertion path
  have hquote : front = (t.take k ++ quoted) ++ ['"'] := by simp [front, hquoted]
  have hlast := congrArg List.getLast? (htake.symm.trans hdot)
  rw [hquote, List.getLast?_concat, List.getLast?_concat] at hlast
  exact absurd hlast (by decide)

/-- A cursor behind a dot is right at the place exactly if it is at the end of the line of a package clause, the
first one, and there is no block. -/
theorem position_eq_iff (hs : importSite t = some s) (hdot : (t.take c).getLast? = some '.') :
    s.position = c ↔ NowhereOpened OpensBlock t ∧ FirstOpened OpensPackage t c := by
  obtain ⟨hblock, -⟩ | ⟨hnone, hpackage, -⟩ := importSite_cases hs
  · constructor
    · rintro rfl
      obtain ⟨front, opening, -, htake, -⟩ := hblock.opening
      rw [htake, ← List.append_assoc, List.getLast?_concat] at hdot
      exact absurd hdot (by decide)
    · rintro ⟨hnone, -⟩
      exact absurd hnone hblock.not_nowhereOpened
  · constructor
    · rintro rfl
      exact ⟨hnone, hpackage⟩
    · rintro ⟨-, hc⟩
      exact hpackage.position_unique hc OpensPackage.rest_unique

/-- **The same package is wanted at the moved cursor** exactly unless the import follows the line of a package
clause and the cursor is at the end of that line. -/
theorem wantedPackage_addImport_iff (hw : wantedPackage t c = .ok (some name))
    (ha : addImport t path (byteLength (t.take c)) = some added) :
    (∃ j : Nat, added.offset = byteLength (added.text.take j) ∧
        wantedPackage added.text j = .ok (some name)) ↔
      ¬ (NowhereOpened OpensBlock t ∧ FirstOpened OpensPackage t c) := by
  obtain ⟨s, hs, hk, hinserted⟩ := exists_inserted ha
  have hdot : (t.take c).getLast? = some '.' := by
    obtain ⟨before, ⟨hdot, -⟩, -⟩ := wantedPackage_eq_some_iff.mp hw
    rw [hdot, List.getLast?_concat]
  rw [← position_eq_iff hs hdot]
  obtain hc | hc | hc := Nat.lt_trichotomy c s.position
  · exact iff_of_true ⟨c, wantedPackage_of_lt hw hinserted hc hk⟩ (Nat.ne_of_gt hc)
  · subst hc
    refine iff_of_false ?_ (not_not.mpr rfl)
    rintro ⟨j, hoffset, hwanted⟩
    exact not_wantedPackage_of_eq hinserted hoffset hwanted
  · exact iff_of_true (wantedPackage_of_gt hs hw hinserted hc) (Nat.ne_of_lt hc)

end Retry

/-- Behind a block of imports the same package is wanted again, whatever bytes stand in front of the block. -/
theorem wantedPackage_addImport_block :
    let t : Text := "package é\nimport (\n)\nvar x = fmt.".toList
    let added : AddedImport := ⟨"package é\nimport (\n\t\"fmt\"\n)\nvar x = fmt.".toList, 41⟩
    (wantedPackage t 33 = .ok (some "fmt".toList) ∧
        addImport t "fmt".toList (byteLength (t.take 33)) = some added) ∧
      ∃ j : Nat, added.offset = byteLength (added.text.take j) ∧
        wantedPackage added.text j = .ok (some "fmt".toList) := by
  intro t added
  have hwanted : wantedPackage t 33 = .ok (some "fmt".toList) := by decide +kernel
  have hadded : addImport t "fmt".toList (byteLength (t.take 33)) = some added := by decide +kernel
  refine ⟨⟨hwanted, hadded⟩, (wantedPackage_addImport_iff hwanted hadded).mpr fun hend => ?_⟩
  have hopens : OpensBlock "import (\n)\nvar x = fmt.".toList "\n)\nvar x = fmt.".toList :=
    afterBlockOpening_eq_some.mp (by decide +kernel)
  have hline : t = "package é\n".toList ++ "import (\n)\nvar x = fmt.".toList := by decide +kernel
  exact hend.1 _ _ _ ⟨hline, fun _ hc => (Option.some.inj hc).symm⟩ hopens

/-- **At the end of the line of the package clause** the cursor is moved behind the import, and no package is
wanted there. -/
theorem wantedPackage_addImport_endOfClause :
    let t : Text := "package main; var x = fmt.".toList
    let added : AddedImport := ⟨"package main; var x = fmt.\n\nimport \"fmt\"".toList, 40⟩
    wantedPackage t 26 = .ok (some "fmt".toList) ∧
      addImport t "fmt".toList (byteLength (t.take 26)) = some added ∧
      ¬ ∃ j : Nat, added.offset = byteLength (added.text.take j) ∧
        wantedPackage added.text j = .ok (some "fmt".toList) := by
  intro t added
  have hadded : addImport t "fmt".toList (byteLength (t.take 26)) = some added := by decide +kernel
  refine ⟨by decide +kernel, hadded, ?_⟩
  rintro ⟨j, hoffset, hwanted⟩
  obtain ⟨s, hs, -, hinserted⟩ := exists_inserted hadded
  have hsite : importSite t = some ⟨26, "\n\nimport ".toList⟩ := by decide +kernel
  obtain rfl := Option.some.inj (hs.symm.trans hsite)
  exact not_wantedPackage_of_eq hinserted hoffset hwanted

end GoCompletion
