import GoCompletion.Proofs.Session.Lookup

/-!
# Lookups of packages are answered once

The packages are looked up by asking Go, and so is whether vendored ones can be imported; both are lookups that
are kept (`Lookup.packages`, `Lookup.vendoring`).

* `PackageIndex.behind` — what is known behind some calls, each of them in circumstances of its own;
* `PackageIndex.known_foldl` — calls one after another keep what **the first content run** said;
* `lookups_answeredOnce` — in any run of calls that is what is answered again, and before it every call asks
  anew.

A version of too many digits is no answer, although Go was content to tell it
(`vendoring_tooManyDigits`).
-/

namespace GoCompletion

open Session

namespace GoVersion

theorem numberOf_eq_error_iff (ds : Text) :
    (∃ e, numberOf ds = .error e) ↔ Numeral.mostDigits < ds.length := by
  rw [numberOf, Numeral.ofDigits, List.length_map]
  split <;> simp [*]

/-- **A version cannot be told** exactly if one of its numbers has too many digits. -/
theorem vendors_eq_error_iff (experiment : Bool) (output : Text) :
    (∃ e, vendors experiment output = .error e) ↔
      ∃ v, find? output = some v ∧
        (Numeral.mostDigits < v.major.length ∨ Numeral.mostDigits < v.minor.length) := by
  unfold vendors
  cases find? output with
  | none => simp
  | some v =>
    simp only [Option.some.injEq, exists_eq_left', ← numberOf_eq_error_iff]
    rcases numberOf v.major with e | major
    · simp [Except.bind]
    · rcases numberOf v.minor with e | minor <;> simp [Except.bind, Except.map]

end GoVersion

namespace Session

open Act

/-- Deals with a listing: it is told of errors, and a content one is kept. -/
def dealListing (r : RunResult) : Act Session PackageGroups := do
  tellErrors r .listingErrors
  let groups := PackageGroups.ofLines r.output.bareLines
  if r.isOk then keepGroups groups
  return groups

/-- Deals with a version: what a content run tells is kept. -/
def dealVersion (r : RunResult) : Act Session Bool := do
  if r.isOk then
    let vendoring ←
      Act.ofExcept (GoVersion.vendors (hasVendorExperiment (← Act.get).client) r.output)
    keepVendoring vendoring
    return vendoring
  else return false

end Session

namespace Lookup

open Act

/-- The lookup of the packages that can be imported. -/
def packages : Lookup PackageGroups where
  args := listArgs
  known i := i.groups
  keep g i := { i with groups := some g }
  missing := []
  read _ r := .ok (.ofLines r.output.bareLines)
  known_keep _ _ := rfl
  keep_known := by
    rintro g ⟨groups, vendoring⟩ rfl
    rfl
  read_find _ _ _ := rfl

/-- The lookup of whether vendored packages can be imported. -/
def vendoring : Lookup Bool where
  args := ["version".toList]
  known i := i.vendoring
  keep b i := { i with vendoring := some b }
  missing := false
  read c r := if r.isOk then GoVersion.vendors (hasVendorExperiment c) r.output else .ok false
  known_keep _ _ := rfl
  keep_known := by
    rintro b ⟨groups, vendoring⟩ rfl
    rfl
  read_find c files name := by
    have hexperiment : hasVendorExperiment (c.find files name).2 = hasVendorExperiment c :=
      Client.view_find (fun _ _ => rfl) c files name
    rw [hexperiment]

theorem allPackages_eq : allPackages = packages.perform dealListing := by
  refine bind_congr fun s => ?_
  dsimp only [packages]
  cases s.index.groups with
  | some g => rfl
  | none =>
    refine bind_congr fun path => ?_
    cases path <;> rfl

theorem supportsVendoring_eq : supportsVendoring = vendoring.perform dealVersion := by
  refine bind_congr fun s => ?_
  dsimp only [vendoring]
  cases s.index.vendoring with
  | some b => rfl
  | none =>
    refine bind_congr fun path => ?_
    cases path <;> rfl

theorem deals_packages : packages.Deals dealListing where
  answer r s := by
    rw [dealListing, (answers_tellErrors r _).then_apply]
    split <;> rfl
  index r s := by
    have htold : (tellErrors r .listingErrors s).2.index = s.index :=
      (keeps_tellErrors_of r fun _ => (keeps_tell _).of_view Engine.index) s
    rw [dealListing, (answers_tellErrors r _).then_apply, kept]
    cases hok : r.isOk with
    | true => exact congrArg (packages.keep _) htold
    | false => exact htold
  runs r := by
    refine .bind (keeps_tellErrors_of r fun _ => overlooks_run?.keeps_tell _) fun _ => ?_
    split
    · exact .bind (.modify fun _ => rfl) fun _ => .pure _
    · exact .pure _

theorem read_vendoring_of_not_ok {c : Client} {r : RunResult} (h : r.isOk = false) :
    vendoring.read c r = .ok false := by
  simp [vendoring, h]

/-- The answer of a discontent run is not kept. -/
theorem dealVersion_of_not_ok {r : RunResult} (h : r.isOk = false) (s : Session) :
    dealVersion r s = (.ok false, s) := by
  rw [dealVersion, h]
  rfl

/-- A content run is kept if the version can be told. -/
theorem dealVersion_of_ok {r : RunResult} (h : r.isOk = true) (s : Session) :
    dealVersion r s =
      match GoVersion.vendors (hasVendorExperiment s.client) r.output with
      | .ok b => (.ok b, knowing (vendoring.keep b s.index) s)
      | .error e => (.error e, s) := by
  simp only [dealVersion, h, if_true]
  rw [bind_apply_ok (get_apply s), bind_apply, ofExcept_apply]
  cases GoVersion.vendors (hasVendorExperiment s.client) r.output <;> rfl

theorem deals_vendoring : vendoring.Deals dealVersion where
  answer r s := by
    cases hok : r.isOk with
    | false =>
      rw [dealVersion_of_not_ok hok, read_vendoring_of_not_ok hok]
    | true =>
      rw [dealVersion_of_ok hok]
      simp only [vendoring, hok, if_true]
      cases GoVersion.vendors (hasVendorExperiment s.client) r.output <;> rfl
  index r s := by
    rw [kept]
    cases hok : r.isOk with
    | false =>
      rw [dealVersion_of_not_ok hok]
      rfl
    | true =>
      rw [dealVersion_of_ok hok]
      simp only [vendoring, hok, if_true]
      cases GoVersion.vendors (hasVendorExperiment s.client) r.output <;> rfl
  runs r := by
    unfold dealVersion
    split
    · exact .bind .get fun _ => .bind (.ofExcept _) fun _ => .bind (.modify fun _ => rfl) fun _ => .pure _
    · exact .pure _

/-- **The version of a content run cannot be told** exactly if one of its numbers has too many digits. -/
theorem read_vendoring_eq_error_iff {c : Client} {r : RunResult} (h : r.isOk = true) :
    (∃ e, vendoring.read c r = .error e) ↔
      ∃ v, GoVersion.find? r.output = some v ∧
        (Numeral.mostDigits < v.major.length ∨ Numeral.mostDigits < v.minor.length) := by
  rw [← GoVersion.vendors_eq_error_iff (hasVendorExperiment c)]
  simp only [vendoring, h, if_true]

end Lookup

/-! ## Runs of calls -/

/-- A call of one of the lookups, in circumstances of its own: what tools there are, and what their runs come
to. What is known of packages is no part of them. -/
inductive LookupCall where
  /-- the packages are looked up -/
  | packages (circumstances : Session)
  /-- it is looked up whether vendored packages can be imported -/
  | vendoring (circumstances : Session)

namespace LookupCall

/-- What is known of packages behind a call. -/
def after (i : PackageIndex) : LookupCall → PackageIndex
  | .packages s => (allPackages (knowing i s)).2.index
  | .vendoring s => (supportsVendoring (knowing i s)).2.index

/-- The packages that a content listing finds in the circumstances of a call. -/
def groups? : LookupCall → Option PackageGroups
  | .packages s => Lookup.packages.found s
  | .vendoring _ => none

/-- What a content run says of vendored packages in the circumstances of a call. -/
def vendoring? : LookupCall → Option Bool
  | .packages _ => none
  | .vendoring s => Lookup.vendoring.found s

theorem after_packages (i : PackageIndex) (s : Session) :
    after i (.packages s) = Lookup.packages.keepIf (i.groups.or (Lookup.packages.found s)) i := by
  rw [after, Lookup.allPackages_eq, Lookup.deals_packages.index_perform, Lookup.found_knowing]
  rfl

theorem after_vendoring (i : PackageIndex) (s : Session) :
    after i (.vendoring s) = Lookup.vendoring.keepIf (i.vendoring.or (Lookup.vendoring.found s)) i := by
  rw [after, Lookup.supportsVendoring_eq, Lookup.deals_vendoring.index_perform, Lookup.found_knowing]
  rfl

/-- **One call** adds the packages that are found, unless they are known. -/
theorem groups_after (i : PackageIndex) (c : LookupCall) : (after i c).groups = i.groups.or c.groups? := by
  cases c with
  | packages s =>
    rw [after_packages]
    exact Lookup.packages.known_keepIf _ i
  | vendoring s =>
    rw [after_vendoring, groups?, Option.or_none]
    cases i.vendoring.or (Lookup.vendoring.found s) <;> rfl

/-- **One call** adds what is found of vendored packages, unless it is known. -/
theorem vendoring_after (i : PackageIndex) (c : LookupCall) :
    (after i c).vendoring = i.vendoring.or c.vendoring? := by
  cases c with
  | packages s =>
    rw [after_packages, vendoring?, Option.or_none]
    cases i.groups.or (Lookup.packages.found s) <;> rfl
  | vendoring s =>
    rw [after_vendoring]
    exact Lookup.vendoring.known_keepIf _ i

end LookupCall

namespace PackageIndex

/-- What is known behind calls, one after another, if nothing is known in front of them. -/
def behind (calls : List LookupCall) : PackageIndex := calls.foldl LookupCall.after {}

/-- **Calls one after another** add what is found first, unless something is known, if one call adds what it
finds. -/
theorem known_foldl {α : Type} {known : PackageIndex → Option α} {answer : LookupCall → Option α}
    (h : ∀ i c, known (LookupCall.after i c) = (known i).or (answer c)) (calls : List LookupCall)
    (i : PackageIndex) :
    known (calls.foldl LookupCall.after i) = (known i).or (calls.findSome? answer) := by
  induction calls generalizing i with
  | nil => rw [List.foldl_nil, List.findSome?_nil, Option.or_none]
  | cons c calls ih =>
    rw [List.foldl_cons, ih, h, Option.or_assoc, List.findSome?_cons]
    cases answer c <;> rfl

/-- What is known behind calls is what was found first. -/
theorem groups_behind (calls : List LookupCall) :
    (behind calls).groups = calls.findSome? LookupCall.groups? :=
  known_foldl LookupCall.groups_after calls {}

theorem vendoring_behind (calls : List LookupCall) :
    (behind calls).vendoring = calls.findSome? LookupCall.vendoring? :=
  known_foldl LookupCall.vendoring_after calls {}

end PackageIndex

/-- **Lookups are answered once.** Behind any calls, each of them in circumstances of its own, the packages of
the first listing that Go was content with are answered again, and so is what the first content run said of
vendored packages, both without running anything. Before that every call that finds Go runs it once and answers
what this run comes to, and a call that does not find Go answers that there is nothing. A fault leaves what is
known as it was. What a listing says can always be told. What a content run says of vendored packages can be
told unless the version has a number of too many digits, and any other run says that they cannot be
imported. -/
theorem lookups_answeredOnce (calls : List LookupCall) (s : Session) :
    let t := knowing (PackageIndex.behind calls) s
    Lookup.packages.AnsweredOnce allPackages (calls.findSome? LookupCall.groups?) t ∧
      Lookup.vendoring.AnsweredOnce supportsVendoring (calls.findSome? LookupCall.vendoring?) t ∧
        (∀ c r, Lookup.packages.read c r = .ok (.ofLines r.output.bareLines)) ∧
          ∀ c r, (r.isOk = false → Lookup.vendoring.read c r = .ok false) ∧
            (r.isOk = true → ((∃ e, Lookup.vendoring.read c r = .error e) ↔
              ∃ v, GoVersion.find? r.output = some v ∧
                (Numeral.mostDigits < v.major.length ∨ Numeral.mostDigits < v.minor.length))) := by
  intro t
  have hgroups : Lookup.packages.known t.index = calls.findSome? LookupCall.groups? :=
    PackageIndex.groups_behind calls
  have hvendoring : Lookup.vendoring.known t.index = calls.findSome? LookupCall.vendoring? :=
    PackageIndex.vendoring_behind calls
  refine ⟨?_, ?_, fun _ _ => rfl, fun _ _ =>
    ⟨Lookup.read_vendoring_of_not_ok, Lookup.read_vendoring_eq_error_iff⟩⟩
  · rw [← hgroups, Lookup.allPackages_eq]
    exact Lookup.deals_packages.answeredOnce t
  · rw [← hvendoring, Lookup.supportsVendoring_eq]
    exact Lookup.deals_vendoring.answeredOnce t

/-- A listing that Go is not content with is answered, but not kept; one that lists nothing is kept, if Go is
content with it. -/
example :
    let broken := working [("list".toList, [.exited "fmt\n".toUTF8.toList [] (some 1)])]
    (allPackages broken).1.map (·.find "fmt".toList) = .ok ["fmt".toList] ∧
      (PackageIndex.behind [.packages broken, .vendoring broken]).groups = none ∧
        (PackageIndex.behind [.packages broken, .packages (working [("list".toList, [writes ""])]),
          .packages (working [("list".toList, [writes "fmt\n"])])]).groups = some [] := by
  decide +kernel

/-- **A version of too many digits** is no answer, although Go is content to tell it: the lookup breaks off,
nothing is known behind it, and the next one runs Go again. -/
theorem vendoring_tooManyDigits :
    let version : Invocation := ⟨"/usr/bin/go".toList, ["version".toList], none, none⟩
    let s := working [("version".toList,
      [.exited ("go version go1.".toUTF8.toList ++ List.replicate 4301 '1'.toUInt8) [] (some 0),
        writes "go version go1.20 linux/amd64\n"])]
    (exec version s).1.map RunResult.isOk = .ok true ∧
      (supportsVendoring s).1 = .error (Numeral.tooMany 4301) ∧
        (supportsVendoring s).2.index.vendoring = none ∧
          (supportsVendoring (supportsVendoring s).2).1 = .ok true ∧
            runs (supportsVendoring (supportsVendoring s).2).2 = [version, version] := by
  decide +kernel

end GoCompletion
