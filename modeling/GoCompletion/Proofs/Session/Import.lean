import GoCompletion.Proofs.Client.Find
import GoCompletion.Proofs.Host.Run
import GoCompletion.Proofs.Package.Choice
import GoCompletion.Proofs.Session.Frame
import GoCompletion.Proofs.Session.Operation

/-!
# Every import that is added can be imported

An import is added for the package that is wanted in front of a dot (`importable_importWanted`). Its path
comes from the lines in which Go lists the packages, those of an earlier run that are kept or those of the
next one (`Lists`), and whether it may be a vendored one was asked before. **Asking for the version of Go
does not change what the packages are looked up in** (`keeps_listing_supportsVendoring`).
-/

namespace GoCompletion

open Act

namespace Session

/-! ## Looking packages up -/

/-- What the next lookup of packages goes by: the packages that are kept, and what the next run that lists
them comes to. -/
def listing (s : Session) : Option PackageGroups × Outcome :=
  (s.index.groups, (s.host.script.take "list".toList).1)

/-- The packages are looked up in the lines: they are those that have been kept, or what the next run that
lists packages writes if none have been. -/
def Lists (s : Session) (lines : List Text) : Prop :=
  match s.listing with
  | (some groups, _) => groups = .ofLines lines
  | (none, outcome) => lines = outcome.lines

theorem keeps_listing_findTool (name : Text) : (findTool name).Keeps listing := fun _ => rfl

theorem keeps_listing_exec {i : Invocation} (h : i.subcommand ≠ "list".toList) :
    (exec i).Keeps listing := by
  refine .bind .get fun s t => ?_
  simp only [listing, Script.fst_take]
  exact congrArg (fun queue => (t.index.groups, queue.headD .quiet))
    (Host.keeps_run (.real s.client.limit) i h t.host)

/-- **Asking for the version** does not change what the packages are looked up in. -/
theorem keeps_listing_supportsVendoring : supportsVendoring.Keeps listing := by
  refine keeps_supportsVendoring_of (keeps_listing_findTool _) (fun go => keeps_listing_exec ?_) fun _ =>
    .modify fun _ => rfl
  rw [Invocation.subcommand_eq rfl (by decide)]
  decide

/-- A run that lists packages finds no packages but those of the lines that are to come of it. -/
theorem mem_find_listPackages {go : Text} {s u : Session} {groups : PackageGroups} {name path : Text}
    (h : listPackages go s = (.ok groups, u)) (hp : path ∈ groups.find name) :
    path ∈ (PackageGroups.ofLines (s.host.script.take "list".toList).1.lines).find name := by
  obtain ⟨r, t, hr, h⟩ := bind_apply_eq_ok.mp h
  obtain ⟨-, t', -, h⟩ := bind_apply_eq_ok.mp h
  have hgroups : groups = .ofLines r.output.bareLines := by
    dsimp only at h
    split at h
    · obtain ⟨-, -, -, h⟩ := bind_apply_eq_ok.mp h
      cases h
      rfl
    · cases h
      rfl
  have hsub : (⟨go, listArgs, none, none⟩ : Invocation).subcommand = "list".toList :=
    Invocation.subcommand_eq rfl (by decide)
  rw [exec, bind_apply_ok (get_apply s)] at hr
  have hrun : Host.run (.real s.client.limit) ⟨go, listArgs, none, none⟩ s.host = (.ok r, t.host) := by
    obtain ⟨hanswer, hstate⟩ := Prod.mk.inj hr
    exact Prod.ext hanswer (congrArg (·.host) hstate)
  rw [hgroups] at hp
  obtain hnone | hlines := Host.bareLines_run hrun
  · rw [hnone] at hp
    exact absurd hp List.not_mem_nil
  · rwa [hlines, hsub] at hp

/-- A lookup finds no packages but those of the lines. -/
theorem mem_find_allPackages {s u : Session} {groups : PackageGroups} {lines : List Text}
    (hl : Lists s lines) (h : allPackages s = (.ok groups, u)) {name path : Text}
    (hp : path ∈ groups.find name) : path ∈ (PackageGroups.ofLines lines).find name := by
  rw [allPackages, bind_apply_ok (get_apply s)] at h
  unfold Lists listing at hl
  cases hg : s.index.groups with
  | some kept =>
    simp only [hg] at h hl
    cases h
    rwa [← hl]
  | none =>
    simp only [hg] at h hl
    obtain ⟨go, t, hgo, h⟩ := bind_apply_eq_ok.mp h
    have hlisting : t.listing = s.listing := by
      rw [← keeps_listing_findTool goName s, hgo]
    have hnext : (t.host.script.take "list".toList).1 = (s.host.script.take "list".toList).1 :=
      congrArg Prod.snd hlisting
    cases go with
    | none =>
      cases h
      exact absurd hp List.not_mem_nil
    | some go =>
      rw [hl, ← hnext]
      exact mem_find_listPackages h hp

/-! ## The search path -/

/-- The workspaces of Go. -/
abbrev workspaces (s : Session) : Text := s.client.gopath

theorem steady_workspaces : Steady workspaces where
  findTool _ := fun _ => Client.view_find (fun _ _ => rfl) _ _ _
  exec _ := (keeps_exec _).of_view fun e => e.client.gopath
  tell _ := (keeps_tell _).of_view fun e => e.client.gopath
  forget _ := .modify fun _ => rfl
  keepGroups _ := .modify fun _ => rfl
  keepVendoring _ := .modify fun _ => rfl

/-! ## Imports -/

/-- **Every import that is added** can be imported, and is the one that is asked for. No line in which the
packages are looked up ends with a slash, but for blanks. -/
theorem importable_importWanted {s u : Session} {t : Text} {index offset : Int} {file : Path}
    {added : AddedImport} {lines : List Text} (hlists : Lists s lines)
    (hslash : ∀ line ∈ lines, (Text.strip line).getLast? ≠ some '/')
    (h : importWanted t index offset file s = (.ok (some added), u)) :
    ∃ name path, wantedPackage t index = .ok (some name) ∧ addImport t path offset = some added ∧
      Importable name path ∧
      ∃ vendoring, (supportsVendoring s).1 = .ok vendoring ∧
        Chosen file s.client.gopath vendoring (lines.map Text.strip) path := by
  obtain ⟨vendoring, s₁, hvendoring, h⟩ := bind_apply_eq_ok.mp h
  obtain ⟨pkg, s₂, hpkg, h⟩ := bind_apply_eq_ok.mp h
  obtain ⟨hwanted, rfl⟩ := Prod.mk.inj hpkg
  cases pkg with
  | none => cases h
  | some name =>
    obtain ⟨groups, s₃, hgroups, h⟩ := bind_apply_eq_ok.mp h
    rw [bind_apply_ok (get_apply s₃)] at h
    have hgopath : s₃.client.gopath = s.client.gopath := by
      have h₁ := steady_workspaces.supportsVendoring s
      have h₃ := steady_workspaces.allPackages s₁
      rw [hvendoring] at h₁
      rw [hgroups] at h₃
      exact h₃.trans h₁
    have hlists₁ : Lists s₁ lines := by
      have h₁ := keeps_listing_supportsVendoring s
      rw [hvendoring] at h₁
      rwa [Lists, h₁]
    have hcandidates : ∀ c ∈ groups.find name, c ∈ lines.map Text.strip ∧ c ≠ [] ∧
        isInternal c = false ∧ packageName c = name := fun c hc =>
      PackageGroups.mem_find_ofLines.mp (mem_find_allPackages hlists₁ hgroups hc)
    have hends : ∀ c ∈ groups.find name, c.getLast? ≠ some '/' := by
      intro c hc
      obtain ⟨line, hline, rfl⟩ := List.mem_map.mp (hcandidates c hc).1
      exact hslash line hline
    obtain ⟨hadded, rfl⟩ := Prod.mk.inj h
    split at hadded
    · next c path hpath =>
      obtain ⟨himportable, hchosen⟩ :=
        choosePackage_spec (fun c hc => (hcandidates c hc).2.2) hends hpath
      rw [hgopath] at hchosen
      exact ⟨name, c :: path, hwanted, Except.ok.inj hadded, himportable, vendoring,
        by rw [hvendoring], hchosen.mono fun c hc => (hcandidates c hc).1⟩
    · cases hadded

/-- A session with Go installed, which is going to list packages in the lines of a text. -/
def listingPackages (listed : String) : Session :=
  start
    { home := "/home/user".toList, environment := [("GOPATH".toList, "/home/user/go".toList)]
      tools := [(goName, "/usr/bin/go".toList)] }
    {} true
    { script := [
        ("version".toList, [.exited "go version go1.20 linux/amd64\n".toUTF8.toList [] (some 0)]),
        ("list".toList, [.exited listed.toUTF8.toList [] (some 0)])] }

theorem eq_ok_of_toOption {α : Type} {r : Except Fault α} {a : α} (h : r.toOption = some a) :
    r = .ok a := by
  cases r with
  | ok b => exact congrArg _ (Option.some.inj h)
  | error e => cases h

/-- A vendored package is imported in a file that is below its root. -/
theorem importable_pkgErrors :
    let s := listingPackages "fmt\napp/vendor/github.com/pkg/errors\n"
    let lines := ["fmt".toList, "app/vendor/github.com/pkg/errors".toList]
    let t := "package app\nerrors.".toList
    let file := Path.ofText "/home/user/go/src/app/main.go".toList
    let added : AddedImport := ⟨"package app\n\nimport \"github.com/pkg/errors\"\nerrors.".toList, 51⟩
    (Lists s lines ∧ (∀ line ∈ lines, (Text.strip line).getLast? ≠ some '/') ∧
        (importWanted t 19 19 file s).1 = .ok (some added)) ∧
      ∃ path, addImport t path 19 = some added ∧ Importable "errors".toList path ∧
        Chosen file s.client.gopath true (lines.map Text.strip) path := by
  intro s lines t file added
  have hlists : Lists s lines := (by decide +kernel : lines = (s.host.script.take "list".toList).1.lines)
  have hslash : ∀ line ∈ lines, (Text.strip line).getLast? ≠ some '/' := by decide +kernel
  have hadded : (importWanted t 19 19 file s).1 = .ok (some added) :=
    eq_ok_of_toOption (by decide +kernel)
  refine ⟨⟨hlists, hslash, hadded⟩, ?_⟩
  obtain ⟨name, path, hname, hpath, himportable, vendoring, hvendoring, hchosen⟩ :=
    importable_importWanted hlists hslash (Prod.ext hadded rfl)
  have hname' : wantedPackage t 19 = .ok (some "errors".toList) := eq_ok_of_toOption (by decide +kernel)
  have hvendoring' : (supportsVendoring s).1 = .ok true := eq_ok_of_toOption (by decide +kernel)
  cases hname.symm.trans hname'
  cases hvendoring.symm.trans hvendoring'
  exact ⟨path, hpath, himportable, hchosen⟩

/-- **A root that begins with a slash** is a directory of its own: a package vendored there is imported in a
file below it that is in no workspace. -/
theorem imported_outsideWorkspaces :
    let s := listingPackages "/foo/vendor/bar\n"
    let lines := ["/foo/vendor/bar".toList]
    let t := "package main\nbar.".toList
    let file := Path.ofText "/foo/main.go".toList
    let added : AddedImport := ⟨"package main\n\nimport \"bar\"\nbar.".toList, 31⟩
    Lists s lines ∧ (∀ line ∈ lines, (Text.strip line).getLast? ≠ some '/') ∧
      (importWanted t 17 17 file s).1 = .ok (some added) ∧
      ¬ ∃ path, addImport t path 17 = some added ∧
        (path ∈ lines.map Text.strip ∨
          ∃ root, root ++ vendorSegment ++ path ∈ lines.map Text.strip ∧
            ∃ entry ∈ directoriesOf s.client.gopath,
              file.isUnder
                { Path.ofText entry with
                  parts := (Path.ofText entry).parts ++ "src".toList :: Path.partsOf root } = true) := by
  intro s lines t file added
  have hstripped : lines.map Text.strip = lines := by decide +kernel
  have hentries : directoriesOf s.client.gopath = ["/home/user/go".toList] := by decide +kernel
  have hentry : Path.ofText "/home/user/go".toList =
      ⟨1, ["home".toList, "user".toList, "go".toList]⟩ := by decide +kernel
  have hfile : file = ⟨1, ["foo".toList, "main.go".toList]⟩ := by decide +kernel
  have hplain : addImport t "/foo/vendor/bar".toList 17 ≠ some added := by decide +kernel
  refine ⟨(by decide +kernel : lines = (s.host.script.take "list".toList).1.lines), by decide +kernel,
    eq_ok_of_toOption (by decide +kernel), ?_⟩
  rw [hstripped, hentries]
  rintro ⟨path, hadded, hlisted | ⟨root, -, entry, hmem, hunder⟩⟩
  · obtain rfl := List.mem_singleton.mp hlisted
    exact hplain hadded
  · obtain rfl := List.mem_singleton.mp hmem
    rw [hentry, hfile] at hunder
    exact absurd hunder Bool.false_ne_true

end Session

end GoCompletion
