import GoCompletion.Proofs.Package.Choice
import Mathlib.Data.List.Nodup
import Mathlib.Data.List.Perm.Lattice
import Mathlib.Data.List.Sort

/-!
# The groups of import paths are determined by the paths

The groups of the import paths that are listed are a map: a name has one group, every listed path is in the
group of its name and in no other, and a group is in order (`Groups`). There is only one such map
(`Groups.perm`). So **what comes of some lines depends on nothing but the set of the stripped lines**, neither
on their order nor on repetitions (`groups_ofLines`).
-/

namespace GoCompletion

/-! ## The order within a group -/

/-- A path comes in front of another one: it has fewer slashes, or as many and it is less in the order of code
points. -/
def Precedes (a b : Text) : Prop := a.count '/' < b.count '/' ∨ (a.count '/' = b.count '/' ∧ a < b)

instance : Std.Irrefl Precedes where
  irrefl a h := h.elim (Nat.lt_irrefl _) fun h => List.lt_irrefl a h.2

instance : Std.Asymm Precedes where
  asymm a b := by
    rintro (hlt | ⟨heq, hlt⟩) (hlt' | ⟨heq', hlt'⟩)
    · exact Nat.lt_asymm hlt hlt'
    · exact absurd (heq' ▸ hlt) (Nat.lt_irrefl _)
    · exact absurd (heq ▸ hlt') (Nat.lt_irrefl _)
    · exact List.lt_asymm hlt hlt'

theorem Precedes.trans {a b c : Text} (hab : Precedes a b) (hbc : Precedes b c) : Precedes a c := by
  obtain hab | ⟨hab, hlt⟩ := hab <;> obtain hbc | ⟨hbc, hlt'⟩ := hbc
  · exact .inl (Nat.lt_trans hab hbc)
  · exact .inl (hbc ▸ hab)
  · exact .inl (hab ▸ hbc)
  · exact .inr ⟨hab.trans hbc, List.lt_trans hlt hlt'⟩

/-- Of two different paths one comes in front of the other. -/
theorem precedes_or_eq_or_precedes (a b : Text) : Precedes a b ∨ a = b ∨ Precedes b a := by
  obtain hlt | heq | hlt := Nat.lt_trichotomy (a.count '/') (b.count '/')
  · exact .inl (.inl hlt)
  · by_cases hgt : b < a
    · exact .inr (.inr (.inr ⟨heq.symm, hgt⟩))
    · have hle : List.le a b := hgt
      obtain hlt | rfl := List.le_iff_lt_or_eq.mp hle
      · exact .inl (.inr ⟨heq, hlt⟩)
      · exact .inr (.inl rfl)
  · exact .inr (.inr (.inl hlt))

/-- Sorting leaves equal paths where they are. -/
theorem pathBefore_iff {a b : Text} : pathBefore a b = true ↔ Precedes a b ∨ a = b := by
  have hle : List.le a b ↔ a < b ∨ a = b := List.le_iff_lt_or_eq
  rw [pathBefore, Bool.or_eq_true, Bool.and_eq_true, decide_eq_true_eq, decide_eq_true_eq, beq_iff_eq, hle,
    Precedes]
  constructor
  · rintro (hlt | ⟨heq, hlt | rfl⟩)
    · exact .inl (.inl hlt)
    · exact .inl (.inr ⟨heq, hlt⟩)
    · exact .inr rfl
  · rintro ((hlt | ⟨heq, hlt⟩) | rfl)
    · exact .inl hlt
    · exact .inr ⟨heq, .inl hlt⟩
    · exact .inr ⟨rfl, .inr rfl⟩

/-- Paths that are put in order without a repetition are in strict order. -/
theorem pairwise_precedes_mergeSort {paths : List Text} (h : paths.Nodup) :
    (paths.mergeSort pathBefore).Pairwise Precedes := by
  have hsorted : (paths.mergeSort pathBefore).Pairwise fun a b => pathBefore a b = true := by
    refine List.pairwise_mergeSort (fun a b c hab hbc => ?_) (fun a b => ?_) paths
    · rw [pathBefore_iff] at hab hbc ⊢
      obtain hab | rfl := hab
      · obtain hbc | rfl := hbc
        · exact .inl (hab.trans hbc)
        · exact .inl hab
      · exact hbc
    · rw [Bool.or_eq_true, pathBefore_iff, pathBefore_iff]
      obtain h | h | h := precedes_or_eq_or_precedes a b
      · exact .inl (.inl h)
      · exact .inl (.inr h)
      · exact .inr (.inl h)
  have hnodup : (paths.mergeSort pathBefore).Nodup := (List.mergeSort_perm paths pathBefore).nodup_iff.mpr h
  exact (hsorted.and hnodup).imp fun ⟨hle, hne⟩ => (pathBefore_iff.mp hle).resolve_right hne

namespace PackageGroups

/-! ## Groups of listed paths -/

/-- The groups are the map of the import paths that are listed. -/
structure Groups (listed : Text → Prop) (g : PackageGroups) : Prop where
  /-- a name has one group -/
  names : (g.map (·.1)).Nodup
  /-- no group is empty -/
  ne_nil : ∀ group ∈ g, group.2 ≠ []
  /-- a group is in order, and nothing is in it twice -/
  sorted : ∀ group ∈ g, group.2.Pairwise Precedes
  /-- the paths in the group of a name are those of the name that are listed -/
  mem_iff : ∀ name path, (∃ paths, (name, paths) ∈ g ∧ path ∈ paths) ↔ listed path ∧ packageName path = name

section Groups

variable {listed : Text → Prop} {g g' : PackageGroups} {name : Text} {paths paths' : List Text}

theorem eq_of_mem (h : (g.map (·.1)).Nodup) (hpaths : (name, paths) ∈ g) (hpaths' : (name, paths') ∈ g) :
    paths = paths' :=
  congrArg Prod.snd (List.inj_on_of_nodup_map h hpaths hpaths' rfl)

theorem Groups.mem_group_iff (h : Groups listed g) (hpaths : (name, paths) ∈ g) (path : Text) :
    path ∈ paths ↔ listed path ∧ packageName path = name := by
  rw [← h.mem_iff]
  refine ⟨fun hmem => ⟨paths, hpaths, hmem⟩, ?_⟩
  rintro ⟨paths', hpaths', hmem⟩
  rwa [eq_of_mem h.names hpaths hpaths']

theorem Groups.mem_of_mem (h : Groups listed g) (h' : Groups listed g') (hpaths : (name, paths) ∈ g) :
    (name, paths) ∈ g' := by
  obtain ⟨path, hpath⟩ := List.exists_mem_of_ne_nil _ (h.ne_nil _ hpaths)
  obtain ⟨paths', hpaths', -⟩ := (h'.mem_iff name path).mpr ((h.mem_group_iff hpaths path).mp hpath)
  have heq : paths = paths' := (h.sorted _ hpaths).eq_of_mem_iff (h'.sorted _ hpaths') fun p => by
    rw [h.mem_group_iff hpaths, h'.mem_group_iff hpaths']
  rwa [heq]

/-- **There is only one map of the listed paths**, but for the order of the names. -/
theorem Groups.perm (h : Groups listed g) (h' : Groups listed g') : g.Perm g' :=
  (List.perm_ext_iff_of_nodup (.of_map _ h.names) (.of_map _ h'.names)).mpr fun _ =>
    ⟨h.mem_of_mem h', h'.mem_of_mem h⟩

/-- Every listed path is in the groups once. -/
theorem Groups.count_eq_one (h : Groups listed g) {path : Text} (hpath : listed path) :
    (g.flatMap (·.2)).count path = 1 := by
  have hnodup : (g.flatMap (·.2)).Nodup := by
    refine List.nodup_flatMap.mpr ⟨fun group hgroup => (h.sorted group hgroup).nodup, ?_⟩
    refine (List.pairwise_map.mp h.names).imp_of_mem fun {group group'} hgroup hgroup' hne => ?_
    rintro p hp hp'
    exact hne (((h.mem_group_iff hgroup p).mp hp).2.symm.trans ((h.mem_group_iff hgroup' p).mp hp').2)
  obtain ⟨paths, hpaths, hmem⟩ := (h.mem_iff _ path).mpr ⟨hpath, rfl⟩
  exact List.count_eq_one_of_mem hnodup (List.mem_flatMap.mpr ⟨_, hpaths, hmem⟩)

end Groups

/-! ## Groups to be sorted -/

/-- The groups are a map, to sets of paths that are not empty. -/
structure Distinct (g : PackageGroups) : Prop where
  /-- a name has one group -/
  names : (g.map (·.1)).Nodup
  /-- no group is empty -/
  ne_nil : ∀ group ∈ g, group.2 ≠ []
  /-- nothing is in a group twice -/
  nodup : ∀ group ∈ g, group.2.Nodup

section Distinct

variable {g : PackageGroups} {n name p path : Text}

theorem mem_names_insert : name ∈ (insert n p g).map (·.1) ↔ name = n ∨ name ∈ g.map (·.1) := by
  induction g with
  | nil => simp [insert]
  | cons group rest ih =>
    obtain ⟨n', paths⟩ := group
    rw [insert]
    split
    · next hn => simp [hn]
    · rw [List.map_cons, List.mem_cons, ih, List.map_cons, List.mem_cons, or_left_comm]

theorem nodup_names_insert (h : (g.map (·.1)).Nodup) : ((insert n p g).map (·.1)).Nodup := by
  induction g with
  | nil => exact List.nodup_singleton n
  | cons group rest ih =>
    obtain ⟨n', paths⟩ := group
    obtain ⟨hnew, hrest⟩ := List.nodup_cons.mp h
    rw [insert]
    split
    · exact h
    · next hn =>
      refine List.nodup_cons.mpr ⟨fun hmem => ?_, ih hrest⟩
      exact (mem_names_insert.mp hmem).elim hn hnew

/-- With a path more, a group is one that there was, or one that the path is put into. -/
theorem mem_insert {group : Text × List Text} (h : group ∈ insert n p g) :
    group ∈ g ∨ ∃ paths, (paths = [] ∨ (n, paths) ∈ g) ∧
      group = (n, if paths.contains p then paths else paths ++ [p]) := by
  induction g with
  | nil => exact .inr ⟨[], .inl rfl, List.mem_singleton.mp h⟩
  | cons group' rest ih =>
    obtain ⟨n', paths⟩ := group'
    rw [insert] at h
    split at h
    · next hn =>
      subst hn
      obtain rfl | hmem := List.mem_cons.mp h
      · exact .inr ⟨paths, .inr List.mem_cons_self, rfl⟩
      · exact .inl (List.mem_cons_of_mem _ hmem)
    · obtain rfl | hmem := List.mem_cons.mp h
      · exact .inl List.mem_cons_self
      · obtain hmem | ⟨paths', hpaths', rfl⟩ := ih hmem
        · exact .inl (List.mem_cons_of_mem _ hmem)
        · exact .inr ⟨paths', hpaths'.imp_right (List.mem_cons_of_mem _), rfl⟩

theorem Distinct.insert (h : Distinct g) (n p : Text) : Distinct (insert n p g) := by
  refine ⟨nodup_names_insert h.names, fun group hgroup => ?_, fun group hgroup => ?_⟩
  · obtain hgroup | ⟨paths, -, rfl⟩ := mem_insert hgroup
    · exact h.ne_nil group hgroup
    · exact List.ne_nil_of_mem (mem_addOnce.mpr (.inr rfl))
  · obtain hgroup | ⟨paths, hpaths, rfl⟩ := mem_insert hgroup
    · exact h.nodup group hgroup
    · have hnodup : paths.Nodup := by
        obtain rfl | hpaths := hpaths
        · exact List.nodup_nil
        · exact h.nodup _ hpaths
      dsimp only
      split
      · exact hnodup
      · next hnew =>
        rw [List.contains_iff_mem] at hnew
        rw [← List.concat_eq_append]
        exact hnodup.concat hnew

/-- Paths that are put in one after another keep the groups distinct. -/
theorem Distinct.foldl (h : Distinct g) (paths : List Text) :
    Distinct (paths.foldl (fun g p => PackageGroups.insert (packageName p) p g) g) := by
  induction paths generalizing g with
  | nil => exact h
  | cons p paths ih => exact ih (h.insert _ p)

/-- The group of a name is what is found under it. -/
theorem mem_find_iff (h : (g.map (·.1)).Nodup) :
    path ∈ g.find name ↔ ∃ paths, (name, paths) ∈ g ∧ path ∈ paths := by
  induction g with
  | nil => simp [find]
  | cons group rest ih =>
    obtain ⟨n', paths⟩ := group
    obtain ⟨hnew, hrest⟩ := List.nodup_cons.mp h
    rw [find]
    split
    · next hn =>
      subst hn
      refine ⟨fun hmem => ⟨paths, List.mem_cons_self, hmem⟩, ?_⟩
      rintro ⟨paths', hpaths', hmem⟩
      rwa [eq_of_mem h List.mem_cons_self hpaths']
    · next hn =>
      rw [ih hrest]
      refine exists_congr fun paths' => and_congr_left fun _ => ?_
      rw [List.mem_cons, or_iff_right]
      rintro ⟨⟩
      exact hn rfl

end Distinct

/-! ## The groups of lines -/

/-- The import path is listed by a line: it is the line without blanks at its ends, not empty, and no component
of it is internal. -/
def Lists (lines : List Text) (path : Text) : Prop :=
  path ∈ lines.map Text.strip ∧ path ≠ [] ∧
    ∀ component ∈ Text.pieces ['/'] path, component ≠ "internal".toList

theorem distinct_foldl (paths : List Text) :
    Distinct (paths.foldl (fun g p => PackageGroups.insert (packageName p) p g) []) := by
  have hnil : Distinct [] := ⟨List.nodup_nil, List.forall_mem_nil _, List.forall_mem_nil _⟩
  exact hnil.foldl paths

/-- The groups of lines are the map of the paths that the lines list. -/
theorem groups_of_lists (lines : List Text) : Groups (Lists lines) (ofLines lines) := by
  have hdistinct := distinct_foldl (lines.filterMap listed)
  have hnames : ((ofLines lines).map (·.1)).Nodup := by
    rw [ofLines, List.map_map]
    exact hdistinct.names
  refine ⟨hnames, fun group hgroup => ?_, fun group hgroup => ?_, fun name path => ?_⟩
  · obtain ⟨group, hmem, rfl⟩ := List.mem_map.mp hgroup
    obtain ⟨path, hpath⟩ := List.exists_mem_of_ne_nil _ (hdistinct.ne_nil group hmem)
    exact List.ne_nil_of_mem (List.mem_mergeSort.mpr hpath)
  · obtain ⟨group, hmem, rfl⟩ := List.mem_map.mp hgroup
    exact pairwise_precedes_mergeSort (hdistinct.nodup group hmem)
  · rw [← mem_find_iff hnames, mem_find_ofLines, not_internal_iff, Lists]
    simp only [and_assoc]
    rfl

/-- **The groups of lines** hold every path that is listed once, in the group of its name, in order, and nothing
else. They are the same for lines with the same stripped lines. -/
theorem groups_ofLines (lines : List Text) :
    Groups (Lists lines) (ofLines lines) ∧
      (∀ path, Lists lines path → ((ofLines lines).flatMap (·.2)).count path = 1) ∧
      ∀ lines', (∀ path, path ∈ lines'.map Text.strip ↔ path ∈ lines.map Text.strip) →
        (ofLines lines').Perm (ofLines lines) := by
  refine ⟨groups_of_lists lines, fun path => (groups_of_lists lines).count_eq_one, fun lines' hlines => ?_⟩
  have hlists : Lists lines' = Lists lines := by
    funext path
    rw [Lists, Lists, hlines]
  exact (hlists ▸ groups_of_lists lines').perm (groups_of_lists lines)

/-- Blanks, repetitions and another order of the lines leave the groups as they are: a path with fewer slashes is
in front, and what is internal is in none. -/
theorem groups_ofLines_http :
    let lines := ["net/http", "x/net/http", "io", "net/http/internal"].map String.toList
    let lines' := ["net/http/internal", " x/net/http", "net/http\n", "io", "x/net/http"].map String.toList
    let groups := [("http".toList, ["net/http".toList, "x/net/http".toList]), ("io".toList, ["io".toList])]
    (∀ path, path ∈ lines'.map Text.strip ↔ path ∈ lines.map Text.strip) ∧ ofLines lines = groups ∧
      (ofLines lines').Perm groups := by
  intro lines lines' groups
  have hsubset : lines'.map Text.strip ⊆ lines.map Text.strip := by decide +kernel
  have hsuperset : lines.map Text.strip ⊆ lines'.map Text.strip := by decide +kernel
  have hsame : ∀ path, path ∈ lines'.map Text.strip ↔ path ∈ lines.map Text.strip := fun path =>
    ⟨@hsubset path, @hsuperset path⟩
  -- the first lines list the paths of each group in order
  have hordered : ∀ group ∈ groups, group.2.Pairwise fun a b => pathBefore a b = true := by decide +kernel
  have hgrouped : (lines.filterMap listed).foldl (fun g p => PackageGroups.insert (packageName p) p g) [] =
      groups := by decide +kernel
  have hgroups : ofLines lines = groups := by
    rw [ofLines, hgrouped]
    refine (List.map_congr_left fun group hgroup => ?_).trans (List.map_id groups)
    rw [List.mergeSort_of_pairwise (hordered group hgroup)]
    rfl
  refine ⟨hsame, hgroups, ?_⟩
  rw [← hgroups]
  exact (groups_ofLines lines).2.2 lines' hsame

end PackageGroups

end GoCompletion
