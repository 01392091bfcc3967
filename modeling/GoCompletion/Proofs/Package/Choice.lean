import GoCompletion.Package.Choice
import GoCompletion.Proofs.Package.Index

/-!
# What is chosen can be imported

The import path that is chosen among the packages of a name has that name, and nothing in it that keeps a
package from being imported (`Importable`): neither a component `internal` nor a vendored part. It comes from
the list of packages in one of two ways (`Chosen`):

* it is listed itself;
* it is vendored, at a root that the file is below. The root is looked for in the sources of the search path,
  but **a root that begins with a slash is a directory of its own** (`sourceDirectory`).
-/

namespace GoCompletion

/-- The package at an import path can be imported, and is referred to by `name`. -/
structure Importable (name path : Text) : Prop where
  /-- the name of the package -/
  name_eq : packageName path = name
  /-- no component is internal -/
  not_internal : ∀ component ∈ Text.pieces ['/'] path, component ≠ internalComponent
  /-- nothing in the path is vendored -/
  not_vendored : ¬ vendorSegment <:+: path
  /-- the path does not begin with what is vendored -/
  not_vendorLead : ¬ vendorLead <+: path

/-- The directory that a root has in an entry of the search path. -/
def sourceDirectory (entry root : Text) : Path :=
  if Text.startsWith root ['/'] then Path.ofText root
  else
    { Path.ofText entry with parts := (Path.ofText entry).parts ++ "src".toList :: Path.partsOf root }

/-- The import path is listed, or it is listed as vendored at a root that the file is below. -/
inductive Chosen (file : Path) (gopath : Text) (vendoring : Bool) (listed : List Text) : Text → Prop
  /-- the path itself is listed -/
  | plain {path : Text} (h : path ∈ listed) : Chosen file gopath vendoring listed path
  /-- the path is listed behind a root -/
  | vendored {path : Text} (root entry : Text) (hv : vendoring = true)
    (h : root ++ vendorSegment ++ path ∈ listed) (he : entry ∈ directoriesOf gopath)
    (hf : file.isUnder (sourceDirectory entry root) = true) :
    Chosen file gopath vendoring listed path

theorem Chosen.mono {file : Path} {gopath path : Text} {vendoring : Bool} {ps qs : List Text}
    (hsub : ∀ p ∈ ps, p ∈ qs) (h : Chosen file gopath vendoring ps path) :
    Chosen file gopath vendoring qs path := by
  cases h with
  | plain h => exact .plain (hsub _ h)
  | vendored root entry hv h he hf => exact .vendored root entry hv (hsub _ h) he hf

theorem not_internal_iff {path : Text} :
    isInternal path = false ↔ ∀ component ∈ Text.pieces ['/'] path, component ≠ internalComponent := by
  rw [← Bool.not_eq_true, isInternal_iff]
  exact ⟨fun h component hm he => h (he ▸ hm), fun h hm => h _ hm rfl⟩

/-! ## Roots -/

theorem slashes_ofText_eq_zero {t : Text} :
    (Path.ofText t).slashes = 0 ↔ Text.startsWith t ['/'] = false := by
  have hzero : (Path.ofText t).slashes = 0 ↔ (t.takeWhile (· == '/')).length = 0 := by
    rw [Path.ofText]
    dsimp only
    split <;> omega
  rw [hzero, List.length_eq_zero_iff]
  cases t with
  | nil => simp [Text.startsWith]
  | cons c r =>
    rw [List.takeWhile_cons, Text.startsWith, List.isPrefixOf, List.isPrefixOf, Bool.and_true,
      Bool.beq_comm]
    cases h : c == '/' <;> simp

theorem child_src_child (entry root : Text) :
    ((Path.ofText entry).child "src".toList).child root = sourceDirectory entry root := by
  have hsrc : Path.ofText "src".toList = ⟨0, ["src".toList]⟩ := by decide +kernel
  rw [Path.child, Path.child, hsrc, Path.join, Path.join, if_pos rfl, sourceDirectory]
  by_cases h : (Path.ofText root).slashes = 0
  · rw [if_pos h, if_neg (by rw [slashes_ofText_eq_zero.mp h]; decide), List.append_assoc]
    rfl
  · rw [if_neg h, if_pos]
    rwa [slashes_ofText_eq_zero, Bool.not_eq_false] at h

theorem seesVendor_iff {file : Path} {gopath root : Text} :
    seesVendor file gopath root = true ↔
      ∃ entry ∈ directoriesOf gopath, file.isUnder (sourceDirectory entry root) = true := by
  rw [seesVendor, List.any_eq_true]
  simp only [child_src_child]

/-! ## Vendored packages -/

section Vendored

variable {root path : Text}

/-- A segment with another one's word behind it is that word with a segment behind it. -/
theorem vendorSegment_append_vendorLead :
    vendorSegment ++ vendorLead = "/vendor".toList ++ vendorSegment := by decide

/-- **Behind the last place where something is vendored** nothing is. -/
theorem not_vendored_of_cutLast {candidate : Text}
    (h : Text.cutLast vendorSegment candidate = some (root, path)) :
    ¬ vendorSegment <:+: path ∧ ¬ vendorLead <+: path := by
  have hlast : ∀ u v, candidate = u ++ vendorSegment ++ v → u.length ≤ root.length :=
    fun u v => Text.length_le_of_cutLast (by decide) h
  have hcut := Text.cutLast_eq_some h
  constructor
  · rintro ⟨u, v, rfl⟩
    have hle := hlast (root ++ vendorSegment ++ u) v (by simp only [← hcut, List.append_assoc])
    have hpos : 0 < vendorSegment.length := by decide
    rw [List.length_append, List.length_append] at hle
    omega
  · rintro ⟨v, rfl⟩
    have hsplit : candidate = root ++ "/vendor".toList ++ vendorSegment ++ v := by
      rw [← hcut, List.append_assoc root, ← List.append_assoc vendorSegment,
        vendorSegment_append_vendorLead]
      simp only [List.append_assoc]
    have hle := hlast _ v hsplit
    have hpos : 0 < "/vendor".toList.length := by decide
    rw [List.length_append] at hle
    omega

theorem vendorSegment_eq : vendorSegment = "/vendor".toList ++ ['/'] := by decide

/-- A vendored path is an end of the one that is listed, behind a slash. -/
theorem eq_append_of_cutLast {candidate : Text}
    (h : Text.cutLast vendorSegment candidate = some (root, path)) :
    candidate = (root ++ "/vendor".toList) ++ '/' :: path := by
  rw [← Text.cutLast_eq_some h, vendorSegment_eq]
  simp only [List.append_assoc, List.cons_append, List.nil_append]

theorem isPlain_iff {candidate : Text} :
    isPlain candidate = true ↔ ¬ vendorSegment <:+: candidate ∧ ¬ vendorLead <+: candidate := by
  rw [isPlain, Bool.not_eq_true', Bool.or_eq_false_iff, ← Text.contains_iff_infix,
    ← Text.startsWith_iff_prefix, Bool.not_eq_true, Bool.not_eq_true]

theorem vendoredPath?_eq_some {file : Path} {gopath candidate : Text} :
    vendoredPath? file gopath candidate = some path ↔
      ∃ root, Text.cutLast vendorSegment candidate = some (root, path) ∧
        seesVendor file gopath root = true := by
  rw [vendoredPath?]
  split
  · next root' path' hcut =>
    rw [hcut]
    split
    · next hsees =>
      constructor
      · rintro ⟨⟩
        exact ⟨root', rfl, hsees⟩
      · rintro ⟨_, ⟨⟩, -⟩
        rfl
    · next hsees =>
      refine ⟨nofun, ?_⟩
      rintro ⟨_, ⟨⟩, h⟩
      exact absurd h hsees
  · next hcut =>
    rw [hcut]
    exact ⟨nofun, fun ⟨_, h, _⟩ => nomatch h⟩

end Vendored

/-! ## The choice -/

/-- **What is chosen** among the packages of a name is an import path of that name which can be imported. No
path of the packages ends with a slash. -/
theorem choosePackage_spec {file : Path} {gopath name path : Text} {candidates : List Text}
    {vendoring : Bool} (hcandidates : ∀ c ∈ candidates, isInternal c = false ∧ packageName c = name)
    (hslash : ∀ c ∈ candidates, c.getLast? ≠ some '/')
    (h : choosePackage file gopath candidates vendoring = some path) :
    Importable name path ∧ Chosen file gopath vendoring candidates path := by
  rw [choosePackage] at h
  split at h
  · next path' hvendored =>
    cases h
    split at hvendored
    · next hv =>
      obtain ⟨candidate, hmem, hpath⟩ := List.exists_of_findSome?_eq_some hvendored
      obtain ⟨root, hcut, hsees⟩ := vendoredPath?_eq_some.mp hpath
      obtain ⟨entry, he, hf⟩ := seesVendor_iff.mp hsees
      obtain ⟨hsegment, hlead⟩ := not_vendored_of_cutLast hcut
      obtain ⟨hinternal, hname⟩ := hcandidates candidate hmem
      have hend := hslash candidate hmem
      have hlisted : root ++ vendorSegment ++ path ∈ candidates := by
        rwa [Text.cutLast_eq_some hcut]
      rw [eq_append_of_cutLast hcut] at hinternal hname hend
      have hne : path ≠ [] := by
        rintro rfl
        exact hend List.getLast?_concat
      rw [getLast?_append_slash hne] at hend
      rw [isInternal_append, Bool.or_eq_false_iff] at hinternal
      rw [packageName_append hne hend] at hname
      exact ⟨⟨hname, not_internal_iff.mp hinternal.2, hsegment, hlead⟩,
        .vendored root entry hv hlisted he hf⟩
    · cases hvendored
  · obtain ⟨hsegment, hlead⟩ := isPlain_iff.mp (List.find?_some h)
    have hmem := List.mem_of_find?_eq_some h
    obtain ⟨hinternal, hname⟩ := hcandidates path hmem
    exact ⟨⟨hname, not_internal_iff.mp hinternal, hsegment, hlead⟩, .plain hmem⟩

end GoCompletion
