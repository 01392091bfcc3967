import GoCompletion.Import.Wanted
import GoCompletion.Proofs.Completion.Word

/-!
# The name in front of a dot

The word in front of a dot may begin with characters that no name begins with, a digit or a letter from
outside ASCII. These are skipped, and **what is wanted is the rest of the word** (`NameAtDot`,
`wantedPackage_spec`). So it is the whole word exactly if nothing is skipped, and nothing is wanted if there
is no dot or if everything is skipped.
-/

namespace GoCompletion

/-- The text ends in a dot with a word in front of it, `skipped` and `name` together; the name begins at the
first character of the word that a name can begin with. -/
structure NameAtDot (t front skipped name : Text) : Prop where
  /-- the word is as long as it can be -/
  word : ∃ before, t = before ++ ['.'] ∧ EndsIn before front (skipped ++ name)
  /-- a name can begin so -/
  starts : ∃ c r, name = c :: r ∧ isNameStart c = true
  /-- no name can begin further in front -/
  first : ∀ c ∈ skipped, isNameStart c = false

/-! ## Names at the end of a text -/

section Name

variable {t front word name : Text}

/-- The word at the end of a text is what is taken from its end. -/
theorem takeWhile_reverse_of_endsIn (h : EndsIn t front word) :
    (t.reverse.takeWhile isWord).reverse = word := by
  have hword : ∀ c ∈ word.reverse, isWord c = true := fun c hc => h.isWord c (List.mem_reverse.mp hc)
  have hfront : ∀ c ∈ front.reverse.head?, isWord c = false := by
    rw [List.head?_reverse]
    exact h.longest
  rw [h.eq_append, List.reverse_append, Text.takeWhile_append_of_head hword hfront, List.reverse_reverse]

/-- A text that has a word taken from its end ends in that word. -/
theorem exists_endsIn (hne : (t.reverse.takeWhile isWord).reverse ≠ []) :
    ∃ front, EndsIn t front (t.reverse.takeWhile isWord).reverse := by
  refine ⟨(t.reverse.dropWhile isWord).reverse, ?_, hne, fun c hc => ?_, fun c hc => ?_⟩
  · rw [← List.reverse_append, List.takeWhile_append_dropWhile, List.reverse_reverse]
  · exact List.mem_takeWhile_imp (List.mem_reverse.mp hc)
  · rw [List.getLast?_reverse] at hc
    have hnot := List.head?_dropWhile_not isWord t.reverse
    rwa [Option.mem_def.mp hc] at hnot

/-- The name at the end of a text is the end of the word there, from the first character on that a name can
begin with. -/
theorem nameAtEnd_eq_iff (hne : name ≠ []) :
    nameAtEnd t = name ↔
      ∃ front skipped, EndsIn t front (skipped ++ name) ∧
        (∃ c r, name = c :: r ∧ isNameStart c = true) ∧ ∀ c ∈ skipped, isNameStart c = false := by
  constructor
  · rintro rfl
    have hword : (t.reverse.takeWhile isWord).reverse ≠ [] := fun h => hne (by rw [nameAtEnd, h]; rfl)
    obtain ⟨front, hends⟩ := exists_endsIn hword
    obtain ⟨c, r, hname⟩ := List.exists_cons_of_ne_nil hne
    have hstart : isNameStart c = true := by
      have hhead := List.head?_dropWhile_not (!isNameStart ·) (t.reverse.takeWhile isWord).reverse
      rw [← nameAtEnd, hname] at hhead
      simpa using hhead
    refine ⟨front, (t.reverse.takeWhile isWord).reverse.takeWhile (!isNameStart ·), ?_,
      ⟨c, r, hname, hstart⟩, fun d hd => ?_⟩
    · rwa [nameAtEnd, List.takeWhile_append_dropWhile]
    · simpa using List.mem_takeWhile_imp hd
  · rintro ⟨front, skipped, hends, ⟨c, r, rfl, hstart⟩, hskipped⟩
    rw [nameAtEnd, takeWhile_reverse_of_endsIn hends]
    exact Text.dropWhile_append_of_head (fun d hd => by simp [hskipped d hd])
      fun d hd => by cases hd; simp [hstart]

/-- There is no name at the end of a text exactly if no character of the word there can begin one. -/
theorem nameAtEnd_eq_nil_iff :
    nameAtEnd t = [] ↔ ∀ front word, EndsIn t front word → ∀ c ∈ word, isNameStart c = false := by
  rw [nameAtEnd, List.dropWhile_eq_nil_iff]
  constructor
  · intro h front word hends c hc
    simpa using h c ((takeWhile_reverse_of_endsIn hends).symm ▸ hc)
  · intro h c hc
    obtain ⟨front, hends⟩ := exists_endsIn (List.ne_nil_of_mem hc)
    simp [h front _ hends c hc]

end Name

/-! ## What is wanted -/

section Wanted

variable {t name : Text} {i : Nat}

/-- What is in front of a position inside the text is one character and what is in front of that. -/
theorem take_eq_concat (hpos : 1 ≤ i) (hi : i ≤ t.length) :
    ∃ c, t[i - 1]? = some c ∧ t.take i = t.take (i - 1) ++ [c] := by
  have hlt : i - 1 < t.length := by omega
  refine ⟨t[i - 1], List.getElem?_eq_getElem hlt, ?_⟩
  rw [List.take_append_getElem, Nat.sub_add_cancel hpos]

theorem wantedPackage_eq {c : Char} (hpos : 1 ≤ i) (hc : t[i - 1]? = some c) :
    wantedPackage t i =
      .ok (if c = '.' ∧ nameAtEnd (t.take (i - 1)) ≠ [] then some (nameAtEnd (t.take (i - 1))) else none) := by
  have hindex : ¬ (i : Int) ≤ 0 := by omega
  rw [wantedPackage, if_neg hindex, Int.toNat_natCast, hc]

/-- A name is wanted at a position of the text behind a dot, and it is at the end of what is in front of
that. -/
theorem wantedPackage_eq_some_iff :
    wantedPackage t i = .ok (some name) ↔
      ∃ before, (t.take i = before ++ ['.'] ∧ before.length + 1 = i) ∧ nameAtEnd before = name ∧ name ≠ [] := by
  constructor
  · intro h
    have hpos : 1 ≤ i := by
      refine Nat.one_le_iff_ne_zero.mpr ?_
      rintro rfl
      cases h
    have hi : i ≤ t.length := by
      refine Nat.le_of_not_lt fun hlt => ?_
      have hindex : ¬ (i : Int) ≤ 0 := by omega
      rw [wantedPackage, if_neg hindex, Int.toNat_natCast, List.getElem?_eq_none (by omega)] at h
      cases h
    obtain ⟨c, hc, htake⟩ := take_eq_concat hpos hi
    rw [wantedPackage_eq hpos hc] at h
    obtain ⟨⟨rfl, hne⟩, hname⟩ := Option.ite_none_right_eq_some.mp (Except.ok.inj h)
    cases hname
    exact ⟨t.take (i - 1), ⟨htake, by rw [List.length_take]; omega⟩, rfl, hne⟩
  · rintro ⟨before, ⟨htake, hlength⟩, rfl, hne⟩
    have hpos : 1 ≤ i := by omega
    have hi : i ≤ t.length := by
      have hle := List.length_take_le' i t
      rwa [htake, List.length_append, List.length_singleton, hlength] at hle
    obtain ⟨c, hc, hconcat⟩ := take_eq_concat hpos hi
    obtain ⟨rfl, hdot⟩ := List.append_inj' (htake.symm.trans hconcat) rfl
    cases hdot
    rw [wantedPackage_eq hpos hc, if_pos ⟨rfl, hne⟩]

/-- **What is wanted in front of a dot** is the word there without what no name begins with, and that is all
that is in the way of its being the whole word. Nothing is wanted exactly if there is no dot, or no character
of the word that a name can begin with. -/
theorem wantedPackage_spec (hpos : 1 ≤ i) (hi : i ≤ t.length) :
    (∀ name, wantedPackage t i = .ok (some name) ↔ ∃ front skipped, NameAtDot (t.take i) front skipped name) ∧
      (∀ front skipped name, NameAtDot (t.take i) front skipped name →
        ((∀ c ∈ (front ++ skipped).getLast?, isWord c = false) ↔ skipped = [])) ∧
      (wantedPackage t i = .ok none ↔
        t[i - 1]? ≠ some '.' ∨
          ∀ front word, EndsIn (t.take (i - 1)) front word → ∀ c ∈ word, isNameStart c = false) := by
  obtain ⟨c, hc, htake⟩ := take_eq_concat hpos hi
  refine ⟨fun name => ?_, fun front skipped name hname => ?_, ?_⟩
  · rw [wantedPackage_eq_some_iff]
    constructor
    · rintro ⟨before, ⟨hbefore, -⟩, hname, hne⟩
      obtain ⟨front, skipped, hends, hstarts, hfirst⟩ := (nameAtEnd_eq_iff hne).mp hname
      exact ⟨front, skipped, ⟨before, hbefore, hends⟩, hstarts, hfirst⟩
    · rintro ⟨front, skipped, ⟨before, hbefore, hends⟩, hstarts, hfirst⟩
      have hne : name ≠ [] := by
        obtain ⟨d, r, rfl, -⟩ := hstarts
        exact List.cons_ne_nil d r
      have hlength := congrArg List.length hbefore
      rw [List.length_take_of_le hi, List.length_append, List.length_singleton] at hlength
      exact ⟨before, ⟨hbefore, hlength.symm⟩, (nameAtEnd_eq_iff hne).mpr ⟨front, skipped, hends, hstarts, hfirst⟩,
        hne⟩
  · obtain ⟨before, -, hends⟩ := hname.word
    constructor
    · intro hlast
      by_contra hne
      have hmem := List.getLast_mem hne
      have hword := hends.isWord _ (List.mem_append_left name hmem)
      rw [hlast _ (by rw [List.getLast?_append_of_ne_nil _ hne, List.getLast?_eq_some_getLast hne]; rfl)] at hword
      cases hword
    · rintro rfl
      rw [List.append_nil]
      exact hends.longest
  · rw [wantedPackage_eq hpos hc, hc, ← nameAtEnd_eq_nil_iff, Except.ok.injEq, ite_eq_right_iff]
    simp only [reduceCtorEq, imp_false, not_and_or, not_not, ne_eq, Option.some.injEq]

end Wanted

/-- In the word in front of a dot a name may begin behind a digit. -/
theorem wantedPackage_behindDigits :
    let t : Text := "x = 12a3.".toList
    (1 ≤ 9 ∧ 9 ≤ t.length) ∧ wantedPackage t 9 = .ok (some "a3".toList) := by
  intro t
  have hlength : 9 ≤ t.length := by decide
  refine ⟨⟨by decide, hlength⟩, ((wantedPackage_spec (by decide) hlength).1 _).mpr ?_⟩
  refine ⟨"x = ".toList, "12".toList, ⟨"x = 12a3".toList, rfl, by decide +kernel⟩,
    ⟨'a', ['3'], rfl, by decide⟩, fun c hc => ?_⟩
  obtain rfl | rfl : c = '1' ∨ c = '2' := by simpa using hc
  · decide
  · decide

/-- **A name that begins with a letter from outside ASCII is cut**: what is wanted is the end of a longer
word. -/
theorem wantedPackage_insideWord :
    ¬ ∀ name, wantedPackage "éfmt.".toList 5 = .ok (some name) →
      ∃ before, "éfmt.".toList = before ++ name ++ ['.'] ∧ ∀ c ∈ before.getLast?, isWord c = false := by
  intro h
  obtain ⟨before, hbefore, hlast⟩ := h "fmt".toList (by decide +kernel)
  obtain rfl : before = ['é'] := by
    have hsplit : ['é'] ++ ("fmt".toList ++ ['.']) = before ++ ("fmt".toList ++ ['.']) := by
      rw [← List.append_assoc before, ← hbefore]
      decide
    exact (List.append_cancel_right hsplit).symm
  exact absurd (hlast 'é' rfl) (by decide +kernel)

end GoCompletion
