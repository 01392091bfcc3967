import GoCompletion.Proofs.Package.Choice

/-!
# Which candidate is chosen

Candidates are vendored or plain, or neither: a vendored one can be used if vendoring is on and the file is below
its root (`CanUse`), and what is vendored right at the start of a path can never be. **The first candidate that
can be used is chosen, and the first plain one if there is none** (`choosePackage_preference`). So only these
two kinds of candidates matter, each in its own order; where the others stand does not, nor does the order of
the directories of the search path.

The directory of a root is the one in the sources of the search path, but for a root that begins with a slash
(`sourceDirectory`, `choosePackage_rootWithSlash`).
-/

namespace GoCompletion

/-! ## Candidates -/

/-- The candidate is vendored: it is cut at the last place where a segment stands. -/
structure VendoredAt (candidate root path : Text) : Prop where
  /-- the segment stands between the two -/
  eq_append : candidate = root ++ vendorSegment ++ path
  /-- it stands nowhere further behind -/
  last : ∀ u v, candidate = u ++ vendorSegment ++ v → u.length ≤ root.length

/-- A vendored candidate can be used as `path`: vendoring is on, and the file is below the root, by whole
components. -/
def UsableAs (file : Path) (gopath : Text) (vendoring : Bool) (candidate path : Text) : Prop :=
  vendoring = true ∧ ∃ root, VendoredAt candidate root path ∧
    ∃ entry ∈ directoriesOf gopath, file.slashes = (sourceDirectory entry root).slashes ∧
      (sourceDirectory entry root).parts <+: file.parts

/-- A candidate is vendored and can be used. -/
def CanUse (file : Path) (gopath : Text) (vendoring : Bool) (candidate : Text) : Prop :=
  ∃ path, UsableAs file gopath vendoring candidate path

/-- Nothing in the candidate is vendored. -/
def Unvendored (candidate : Text) : Prop := ¬ vendorSegment <:+: candidate ∧ ¬ vendorLead <+: candidate

/-- The first of some candidates that a property holds of. -/
def FirstOf (P : Text → Prop) (candidates : List Text) (candidate : Text) : Prop :=
  ∃ front back, candidates = front ++ candidate :: back ∧ P candidate ∧ ∀ c ∈ front, ¬ P c

theorem vendoredAt_iff {candidate root path : Text} :
    VendoredAt candidate root path ↔ Text.cutLast vendorSegment candidate = some (root, path) := by
  constructor
  · rintro ⟨heq, hlast⟩
    cases hcut : Text.cutLast vendorSegment candidate with
    | none => exact absurd ⟨root, path, heq.symm⟩ (Text.not_infix_of_cutLast (by decide) hcut)
    | some parts =>
      obtain ⟨root', path'⟩ := parts
      have heq' := Text.cutLast_eq_some hcut
      have hlength : root'.length = root.length :=
        Nat.le_antisymm (hlast root' path' heq'.symm) (Text.length_le_of_cutLast (by decide) hcut heq)
      have hsplit : root' ++ (vendorSegment ++ path') = root ++ (vendorSegment ++ path) := by
        rw [← List.append_assoc, heq', heq, List.append_assoc]
      obtain ⟨rfl, hbehind⟩ := List.append_inj hsplit hlength
      rw [List.append_cancel_left hbehind]
  · intro hcut
    exact ⟨(Text.cutLast_eq_some hcut).symm, fun u v => Text.length_le_of_cutLast (by decide) hcut⟩

theorem isUnder_iff {p root : Path} :
    p.isUnder root = true ↔ p.slashes = root.slashes ∧ root.parts <+: p.parts := by
  rw [Path.isUnder, Bool.and_eq_true, beq_iff_eq, List.isPrefixOf_iff_prefix]

/-- What a candidate can be used as, if it can. -/
def usablePath? (file : Path) (gopath : Text) (vendoring : Bool) (candidate : Text) : Option Text :=
  if vendoring then vendoredPath? file gopath candidate else none

section Candidates

variable {file : Path} {gopath : Text} {vendoring : Bool} {candidate path : Text}

theorem usablePath?_eq_some_iff :
    usablePath? file gopath vendoring candidate = some path ↔ UsableAs file gopath vendoring candidate path := by
  simp only [usablePath?, Option.ite_none_right_eq_some, vendoredPath?_eq_some, seesVendor_iff, isUnder_iff,
    vendoredAt_iff, UsableAs]

theorem canUse_iff :
    CanUse file gopath vendoring candidate ↔ (usablePath? file gopath vendoring candidate).isSome = true := by
  simp only [CanUse, Option.isSome_iff_exists, usablePath?_eq_some_iff]

theorem not_canUse_iff :
    ¬ CanUse file gopath vendoring candidate ↔ usablePath? file gopath vendoring candidate = none := by
  rw [canUse_iff, Bool.not_eq_true, Option.isSome_eq_false_iff, Option.isNone_iff_eq_none]

instance : Decidable (CanUse file gopath vendoring candidate) := decidable_of_iff _ canUse_iff.symm

instance : Decidable (Unvendored candidate) := decidable_of_iff _ isPlain_iff

/-- What candidates can be used as depends on which directories are in the search path alone. -/
theorem usablePath?_congr {gopath' : Text}
    (h : ∀ entry, entry ∈ directoriesOf gopath' ↔ entry ∈ directoriesOf gopath) :
    usablePath? file gopath' vendoring = usablePath? file gopath vendoring := by
  funext candidate
  refine Option.ext fun path => ?_
  rw [usablePath?_eq_some_iff, usablePath?_eq_some_iff, UsableAs, UsableAs]
  simp only [h]

end Candidates

/-! ## The choice -/

section Choice

variable {file : Path} {gopath : Text} {candidates candidates' : List Text} {vendoring : Bool} {path : Text}

/-- The choice goes by what candidates can be used as. -/
theorem choosePackage_eq :
    choosePackage file gopath candidates vendoring =
      (candidates.findSome? (usablePath? file gopath vendoring)).or (candidates.find? isPlain) := by
  have hfound : (if vendoring then candidates.findSome? (vendoredPath? file gopath) else none) =
      candidates.findSome? (usablePath? file gopath vendoring) := by
    cases vendoring with
    | false => exact (List.findSome?_eq_none_iff.mpr fun _ _ => rfl).symm
    | true => rfl
  rw [choosePackage, hfound]
  cases candidates.findSome? (usablePath? file gopath vendoring) <;> rfl

theorem findSome?_usablePath?_eq_some_iff :
    candidates.findSome? (usablePath? file gopath vendoring) = some path ↔
      ∃ c, FirstOf (CanUse file gopath vendoring) candidates c ∧ UsableAs file gopath vendoring c path := by
  rw [List.findSome?_eq_some_iff]
  constructor
  · rintro ⟨front, c, back, hsplit, hc, hfront⟩
    have husable := usablePath?_eq_some_iff.mp hc
    exact ⟨c, ⟨front, back, hsplit, ⟨path, husable⟩, fun d hd => not_canUse_iff.mpr (hfront d hd)⟩, husable⟩
  · rintro ⟨c, ⟨front, back, hsplit, -, hfront⟩, hc⟩
    exact ⟨front, c, back, hsplit, usablePath?_eq_some_iff.mpr hc, fun d hd => not_canUse_iff.mp (hfront d hd)⟩

theorem findSome?_usablePath?_eq_none_iff :
    candidates.findSome? (usablePath? file gopath vendoring) = none ↔
      ∀ c ∈ candidates, ¬ CanUse file gopath vendoring c := by
  simp only [List.findSome?_eq_none_iff, not_canUse_iff]

theorem find?_isPlain_eq_some_iff :
    candidates.find? isPlain = some path ↔ FirstOf Unvendored candidates path := by
  simp only [List.find?_eq_some_iff_append, FirstOf, Unvendored, ← isPlain_iff, Bool.not_eq_true,
    Bool.not_eq_true', exists_and_left, and_left_comm]

theorem find?_isPlain_eq_none_iff :
    candidates.find? isPlain = none ↔ ∀ c ∈ candidates, ¬ Unvendored c := by
  simp only [List.find?_eq_none, Unvendored, ← isPlain_iff]

/-- Candidates that cannot be used do not matter to what is used. -/
theorem findSome?_filter_canUse :
    (candidates.filter fun c => CanUse file gopath vendoring c).findSome? (usablePath? file gopath vendoring) =
      candidates.findSome? (usablePath? file gopath vendoring) := by
  have hkept : (fun c => if CanUse file gopath vendoring c then usablePath? file gopath vendoring c else none) =
      usablePath? file gopath vendoring := by
    funext c
    split
    · rfl
    · next hc => exact (not_canUse_iff.mp hc).symm
  rw [← List.head?_filterMap, ← List.head?_filterMap, List.filterMap_filter]
  simp only [decide_eq_true_eq, hkept]

theorem head?_filter_unvendored :
    (candidates.filter fun c => Unvendored c).head? = candidates.find? isPlain := by
  rw [List.head?_filter]
  refine congrArg (List.find? · candidates) (funext fun c => ?_)
  rw [Bool.eq_iff_iff, decide_eq_true_eq, Unvendored, isPlain_iff]

/-- **Only the order of the candidates that can be used and that of the plain ones matter.** -/
theorem choosePackage_congr
    (husable : candidates'.filter (fun c => CanUse file gopath vendoring c) =
      candidates.filter fun c => CanUse file gopath vendoring c)
    (hplain : candidates'.filter (fun c => Unvendored c) = candidates.filter fun c => Unvendored c) :
    choosePackage file gopath candidates' vendoring = choosePackage file gopath candidates vendoring := by
  rw [choosePackage_eq, ← findSome?_filter_canUse, ← head?_filter_unvendored, husable, hplain,
    findSome?_filter_canUse, head?_filter_unvendored, choosePackage_eq]

end Choice

/-- **The first candidate that can be used is chosen**, and the first plain one if there is none; nothing is
chosen exactly if there is neither. Other candidates can be put in or left out, and only the order among those
that can be used and that among the plain ones matter; the order of the directories of the search path does
not. -/
theorem choosePackage_preference (file : Path) (gopath : Text) (candidates : List Text) (vendoring : Bool) :
    ((∀ path, choosePackage file gopath candidates vendoring = some path ↔
          (∃ c, FirstOf (CanUse file gopath vendoring) candidates c ∧ UsableAs file gopath vendoring c path) ∨
            ((∀ c ∈ candidates, ¬ CanUse file gopath vendoring c) ∧ FirstOf Unvendored candidates path)) ∧
        (choosePackage file gopath candidates vendoring = none ↔
          (∀ c ∈ candidates, ¬ CanUse file gopath vendoring c) ∧ ∀ c ∈ candidates, ¬ Unvendored c)) ∧
      (∀ front c back, candidates = front ++ c :: back → ¬ CanUse file gopath vendoring c → ¬ Unvendored c →
        choosePackage file gopath (front ++ back) vendoring =
          choosePackage file gopath candidates vendoring) ∧
      (∀ candidates',
        candidates'.filter (fun c => CanUse file gopath vendoring c) =
          candidates.filter (fun c => CanUse file gopath vendoring c) →
        candidates'.filter (fun c => Unvendored c) = candidates.filter (fun c => Unvendored c) →
        choosePackage file gopath candidates' vendoring =
          choosePackage file gopath candidates vendoring) ∧
      ∀ gopath', (directoriesOf gopath').Perm (directoriesOf gopath) →
        choosePackage file gopath' candidates vendoring =
          choosePackage file gopath candidates vendoring := by
  refine ⟨⟨fun path => ?_, ?_⟩, ?_, fun candidates' => choosePackage_congr, fun gopath' hperm => ?_⟩
  · rw [choosePackage_eq, Option.or_eq_some_iff, findSome?_usablePath?_eq_some_iff,
      findSome?_usablePath?_eq_none_iff, find?_isPlain_eq_some_iff]
  · rw [choosePackage_eq, Option.or_eq_none_iff, findSome?_usablePath?_eq_none_iff, find?_isPlain_eq_none_iff]
  · rintro front c back rfl huse hplain
    refine choosePackage_congr ?_ ?_
    · rw [List.filter_append, List.filter_append, List.filter_cons_of_neg (by simpa using huse)]
    · rw [List.filter_append, List.filter_append, List.filter_cons_of_neg (by simpa using hplain)]
  · rw [choosePackage_eq, usablePath?_congr fun _ => hperm.mem_iff, choosePackage_eq]

/-- **A root that begins with a slash** is no directory of the search path: a package vendored there is chosen
in a file that is not below the root in the sources of any directory of the search path. -/
theorem choosePackage_rootWithSlash :
    let file := Path.ofText "/foo/main.go".toList
    let gopath : Text := "/home/user/go".toList
    let candidates := ["/foo/vendor/bar".toList]
    choosePackage file gopath candidates true = some "bar".toList ∧
      (∀ c ∈ candidates, ¬ Unvendored c) ∧
      ∀ c ∈ candidates, ∀ root path, VendoredAt c root path → ∀ entry ∈ directoriesOf gopath,
        ¬ (file.slashes = (Path.ofText entry).slashes ∧
          (Path.ofText entry).parts ++ "src".toList :: Path.partsOf root <+: file.parts) := by
  intro file gopath candidates
  have hentries : directoriesOf gopath = ["/home/user/go".toList] := by decide +kernel
  have hentry : (Path.ofText "/home/user/go".toList).parts = ["home".toList, "user".toList, "go".toList] := by
    decide +kernel
  have hfile : file.parts = ["foo".toList, "main.go".toList] := by decide +kernel
  refine ⟨by decide +kernel, by decide +kernel, fun c _ root path _ entry hmem hbelow => ?_⟩
  rw [hentries] at hmem
  obtain rfl := List.mem_singleton.mp hmem
  rw [hentry, hfile] at hbelow
  exact absurd (List.cons_prefix_cons.mp hbelow.2).1 (by decide)

end GoCompletion
