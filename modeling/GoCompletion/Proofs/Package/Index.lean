import GoCompletion.Package.Index
import GoCompletion.Proofs.Text.Search

/-!
# What the index of packages holds

The group of a name holds the import paths of that name which some line lists, and no others
(`mem_find_ofLines`). What is said of an import path by its components is said of any end of it that begins
behind a slash:

* it has the same last component, so the same name (`packageName_append`);
* if there is no component `internal` in the path there is none in the end of it (`isInternal_append`).
-/

namespace GoCompletion

/-! ## Components -/

section Components

variable {root path : Text}

theorem isInternal_iff {path : Text} :
    isInternal path = true ↔ internalComponent ∈ Text.pieces ['/'] path := by
  rw [isInternal, List.contains_iff_mem]

/-- **An internal path** stays internal in front of a slash or behind it. -/
theorem isInternal_append : isInternal (root ++ '/' :: path) = (isInternal root || isInternal path) := by
  rw [Bool.eq_iff_iff, Bool.or_eq_true, isInternal_iff, isInternal_iff, isInternal_iff,
    Text.pieces_singleton_append, List.mem_append]

/-- The name is the last component, if the path does not end with a slash. -/
theorem packageName_eq (h : path.getLast? ≠ some '/') :
    packageName path = (path.reverse.takeWhile (· != '/')).reverse := by
  have htrim : path.reverse.dropWhile (· == '/') = path.reverse := by
    rw [← List.head?_reverse] at h
    cases hr : path.reverse with
    | nil => rfl
    | cons c r =>
      rw [hr] at h
      exact List.dropWhile_cons_of_neg (by simpa using h)
  rw [packageName, htrim, List.reverse_reverse]

theorem getLast?_append_slash (hp : path ≠ []) : (root ++ '/' :: path).getLast? = path.getLast? := by
  rw [List.getLast?_append, List.getLast?_cons, List.getLast?_eq_some_getLast hp]
  rfl

/-- **The name of a package** is that of any end of its path behind a slash. -/
theorem packageName_append (hp : path ≠ []) (h : path.getLast? ≠ some '/') :
    packageName (root ++ '/' :: path) = packageName path := by
  rw [packageName_eq h, packageName_eq ((getLast?_append_slash hp).symm ▸ h), List.reverse_append,
    List.reverse_cons, List.append_assoc, List.singleton_append, Text.takeWhile_append_cons (by decide)]

end Components

/-! ## Groups -/

namespace PackageGroups

variable {name path : Text}

/-- A path more, which is not added twice. -/
theorem mem_addOnce {paths : List Text} {p : Text} :
    path ∈ (if paths.contains p then paths else paths ++ [p]) ↔ path ∈ paths ∨ path = p := by
  split
  · next hp =>
    refine ⟨.inl, ?_⟩
    rintro (h | rfl)
    · exact h
    · exact List.contains_iff_mem.mp hp
  · rw [List.mem_append, List.mem_singleton]

theorem mem_find_insert {g : PackageGroups} {n p : Text} :
    path ∈ (insert n p g).find name ↔ path ∈ g.find name ∨ (n = name ∧ path = p) := by
  induction g with
  | nil =>
    rw [insert, find, find]
    split
    · next hn => simp [hn]
    · next hn => simp [hn, find]
  | cons group rest ih =>
    obtain ⟨n', paths⟩ := group
    rw [insert]
    split
    · next hn =>
      subst hn
      rw [find, find]
      split
      · next hn => rw [mem_addOnce, and_iff_right hn]
      · next hn => simp [hn]
    · next hn =>
      rw [find, find]
      split
      · next hn' => simp [← hn', Ne.symm hn]
      · exact ih

/-- Paths that are put in one after another are in the groups of their names. -/
theorem mem_find_foldl {g : PackageGroups} {paths : List Text} :
    path ∈ (paths.foldl (fun g p => insert (packageName p) p g) g).find name ↔
      path ∈ g.find name ∨ (path ∈ paths ∧ packageName path = name) := by
  induction paths generalizing g with
  | nil => simp
  | cons p paths ih =>
    rw [List.foldl_cons, ih, mem_find_insert, List.mem_cons, or_assoc]
    refine or_congr_right ?_
    constructor
    · rintro (⟨hn, rfl⟩ | ⟨hp, hn⟩)
      · exact ⟨.inl rfl, hn⟩
      · exact ⟨.inr hp, hn⟩
    · rintro ⟨rfl | hp, hn⟩
      · exact .inl ⟨hn, rfl⟩
      · exact .inr ⟨hp, hn⟩

/-- Putting every group in order does not change what is in it. -/
theorem mem_find_sorted {g : PackageGroups} :
    path ∈ find (g.map fun group => (group.1, group.2.mergeSort pathBefore)) name ↔ path ∈ g.find name := by
  induction g with
  | nil => rfl
  | cons group rest ih =>
    rw [List.map_cons, find, find]
    split
    · exact List.mem_mergeSort
    · exact ih

theorem listed_eq_some {line : Text} :
    listed line = some path ↔ Text.strip line = path ∧ path ≠ [] ∧ isInternal path = false := by
  rw [listed]
  split
  · next h =>
    refine ⟨nofun, ?_⟩
    rintro ⟨rfl, hne, hi⟩
    simp [hne, hi] at h
  · next h =>
    simp only [Bool.or_eq_true, not_or, Bool.not_eq_true, List.isEmpty_eq_false_iff] at h
    constructor
    · rintro ⟨⟩
      exact ⟨rfl, h⟩
    · rintro ⟨rfl, -⟩
      rfl

/-- **A group holds the import paths of its name** that some line lists, and nothing else. -/
theorem mem_find_ofLines {lines : List Text} :
    path ∈ (ofLines lines).find name ↔
      path ∈ lines.map Text.strip ∧ path ≠ [] ∧ isInternal path = false ∧ packageName path = name := by
  have hnil : path ∉ find [] name := List.not_mem_nil
  rw [ofLines, mem_find_sorted, mem_find_foldl, or_iff_right hnil, List.mem_filterMap]
  constructor
  · rintro ⟨⟨line, hline, hl⟩, hname⟩
    obtain ⟨rfl, hne, hi⟩ := listed_eq_some.mp hl
    exact ⟨List.mem_map_of_mem hline, hne, hi, hname⟩
  · rintro ⟨hm, hne, hi, hname⟩
    obtain ⟨line, hline, rfl⟩ := List.mem_map.mp hm
    exact ⟨⟨line, hline, listed_eq_some.mpr ⟨rfl, hne, hi⟩⟩, hname⟩

end PackageGroups

end GoCompletion
