import GoCompletion.Proofs.Act
import GoCompletion.Proofs.Client.Find
import GoCompletion.Proofs.Package.Preference
import GoCompletion.Proofs.Signature.Characters

/-!
# Where tools are

A tool is looked for under paths in a fixed order (`Client.toolPaths`): those where Go may have installed it, and
those in the search path. **The first one with a file that may be run is taken** (`Client.locate_eq`).

Looking at a path that is too long is a fault, but only where Go may have installed the tool; in the search path
such a path just holds no tool. So **the search breaks off at a path of Go that is too long**, unless the tool is
under one in front of it (`Client.locate_eq_error_iff`).
-/

namespace GoCompletion

/-- The first of some texts that pass a check. -/
theorem find?_eq_some_iff_firstOf {p : Text → Bool} {ts : List Text} {t : Text} :
    ts.find? p = some t ↔ FirstOf (fun t => p t = true) ts t := by
  rw [List.find?_eq_some_iff_append]
  constructor
  · rintro ⟨ht, front, back, hsplit, hfront⟩
    exact ⟨front, back, hsplit, ht, fun u hu hp => by simpa [hp] using hfront u hu⟩
  · rintro ⟨front, back, hsplit, ht, hfront⟩
    exact ⟨ht, front, back, hsplit, fun u hu => by simpa using hfront u hu⟩

/-! ## Paths of tools -/

/-- The name of a tool: there is something in it, but no slash. -/
def ToolName (name : Text) : Prop := name ≠ [] ∧ '/' ∉ name

instance (name : Text) : Decidable (ToolName name) := inferInstanceAs (Decidable (_ ∧ _))

/-- The path of what has a name in a directory. A single dot names the directory itself. -/
def Path.entry (d : Path) (name : Text) : Path :=
  if name = ['.'] then d else { d with parts := d.parts ++ [name] }

theorem Path.child_eq_entry (d : Path) {name : Text} (h : ToolName name) : d.child name = d.entry name := by
  obtain ⟨hne, hslash⟩ := h
  have hpieces : Text.pieces ['/'] name = [name] := Text.pieces_of_cut_eq_none (Text.cut_singleton_eq_none hslash)
  have hslashes : (Path.ofText name).slashes = 0 := by
    obtain ⟨c, r, rfl⟩ := List.exists_cons_of_ne_nil hne
    have hc : (c == '/') = false := beq_eq_false_iff_ne.mpr fun he => hslash (he ▸ List.mem_cons_self)
    rw [ofText, List.takeWhile_cons_of_neg (by rw [hc]; decide)]
    rfl
  rw [child, join, if_pos hslashes, entry, ofText, partsOf, hpieces]
  by_cases hdot : name = ['.']
  · simp [hdot]
  · simp [hdot, hne]

namespace Client

variable {c : Client} {files : FileTree} {name : Text}

/-- The path of a file in a directory of the search path. -/
def besideIn (directory name : Text) : Text :=
  if directory.isEmpty || directory.endsWith ['/'] then directory ++ name else directory ++ '/' :: name

/-- What a variable of the environment holds, without the blanks around it; it is empty if there is none. -/
def held (c : Client) (name : String) : Text := ((c.environment.lookup name.toList).getD []).strip

/-- The workspaces: those that GOPATH names, with colons between them, or else the one in the home directory. -/
def workspaces (c : Client) : List Text :=
  let named := c.held "GOPATH"
  let atHome := ((Path.ofText c.home).entry "go".toList).toText
  (Text.pieces [':'] (if named = [] then atHome else named)).filter (· ≠ [])

/-- The paths where Go may have installed a tool: in the directory that GOBIN names, with the tools of each
workspace, and with the tools of the directory that GOROOT names. What is blank names nothing. -/
def goPaths (c : Client) (name : Text) : List Text :=
  let tools (d : Text) : Path := (Path.ofText d).entry "bin".toList
  (([c.held "GOBIN"].filter (· ≠ [])).map fun d => ((Path.ofText d).entry name).toText) ++
    (c.workspaces.map fun d => ((tools d).entry name).toText) ++
    (([c.held "GOROOT"].filter (· ≠ [])).map fun d => ((tools d).entry name).toText)

/-- The paths of a tool in the directories of a search path; there are none in an empty one. -/
def pathPaths (path name : Text) : List Text :=
  if path = [] then [] else (Text.pieces [':'] path).map fun d => besideIn d name

/-- The paths that a tool is looked for under, in order, where `path` is the search path. -/
def toolPaths (c : Client) (path name : Text) : List Text := c.goPaths name ++ pathPaths path name

/-- The environment is searched for the first variable of a name. -/
theorem valueOf?_eq_lookup (c : Client) (name : String) : c.valueOf? name = c.environment.lookup name.toList := by
  unfold valueOf?
  induction c.environment with
  | nil => rfl
  | cons v rest ih =>
    obtain ⟨key, value⟩ := v
    rw [List.find?_cons, List.lookup_cons, ← ih]
    by_cases hkey : key = name.toList
    · simp [hkey]
    · have hother : (name.toList == key) = false := beq_false_of_ne (Ne.symm hkey)
      simp [hkey, hother]

theorem setting_eq_held (c : Client) (name : String) : c.setting name = c.held name := by
  rw [setting, valueOf?_eq_lookup, held]

theorem homeDirectory_eq_entry (c : Client) :
    c.homeDirectory = ((Path.ofText c.home).entry "go".toList).toText := by
  rw [homeDirectory, Path.child_eq_entry _ (by decide)]

theorem workspaces_eq (c : Client) : c.workspaces = directoriesOf c.gopath := by
  have hnotEmpty : (fun d : Text => !d.isEmpty) = fun d => decide (d ≠ []) := by
    funext d
    cases d <;> rfl
  rw [directoriesOf, hnotEmpty, gopath, setting_eq_held, homeDirectory_eq_entry, workspaces]
  simp only [List.isEmpty_iff]

theorem installPaths_eq (h : ToolName name) : c.installPaths name = c.goPaths name := by
  have hchild : (fun d : Path => (d.child name).toText) = fun d => (d.entry name).toText :=
    funext fun d => congrArg Path.toText (d.child_eq_entry h)
  have htools : toolsIn = fun d => (Path.ofText d).entry "bin".toList :=
    funext fun d => (Path.ofText d).child_eq_entry (by decide)
  rw [installPaths, hchild, toolDirectories, htools, ← workspaces_eq, goPaths]
  simp only [setting_eq_held]
  cases c.held "GOBIN" <;> cases c.held "GOROOT" <;> simp

theorem searchPaths_eq {path : Text} (h : ToolName name) (hpath : c.valueOf? "PATH" = some path) :
    c.searchPaths name = pathPaths path name := by
  have hslash : name.any (· == '/') = false := by
    refine List.any_eq_false.mpr fun c hc he => h.2 ?_
    rwa [← beq_iff_eq.mp he]
  rw [searchPaths, hslash, hpath, pathPaths]
  cases path <;> rfl

end Client

/-! ## Looking through paths -/

namespace FileTree

/-- The path is too long for anything to be known of it. -/
def isTooLong (f : FileTree) (path : Text) : Bool := f.lookup path = .error .longName

/-- Looking through paths goes no further: there is a file that may be run, or the path is too long. -/
def stopsAt (f : FileTree) (path : Text) : Bool := f.isExecutable path || f.isTooLong path

/-- A path that is too long, behind others that neither are nor have a file that may be run. -/
def Obstructs (f : FileTree) (paths : List Text) (path : Text) : Prop :=
  f.isTooLong path = true ∧ FirstOf (fun p => f.stopsAt p = true) paths path

variable {f : FileTree} {path : Text}

/-- What looking at one path comes to: it is too long, or it is told whether there is a file. -/
theorem isFile_cases (f : FileTree) (path : Text) :
    (f.isFile path = .error (.unopened .longName path) ∧ f.isExecutable path = false ∧ f.isTooLong path = true) ∨
      ∃ there, f.isFile path = .ok there ∧ (f.isExecutable path = true → there = true) ∧
        f.isTooLong path = false := by
  unfold isFile isExecutable isTooLong
  rcases f.lookup path with (_ | _ | _ | _ | _) | _ | _
  case error.longName => exact .inl ⟨rfl, rfl, by simp⟩
  case ok.file => exact .inr ⟨true, rfl, fun _ => rfl, by simp⟩
  all_goals exact .inr ⟨false, rfl, nofun, by simp⟩

theorem stopsAt_of_isExecutable (h : f.isExecutable path = true) : f.stopsAt path = true := by
  rw [stopsAt, h, Bool.true_or]

/-- Where looking stops there is one of the two. -/
theorem isTooLong_eq_not (h : f.stopsAt path = true) : f.isTooLong path = !f.isExecutable path := by
  obtain ⟨-, hnot, hlong⟩ | ⟨there, -, -, hshort⟩ := f.isFile_cases path
  · rw [hnot, hlong, Bool.not_false]
  · rw [stopsAt, hshort, Bool.or_false] at h
    rw [h, hshort, Bool.not_true]

theorem obstructs_iff {paths : List Text} :
    f.Obstructs paths path ↔ paths.find? f.stopsAt = some path ∧ f.isTooLong path = true := by
  rw [find?_eq_some_iff_firstOf, Obstructs, and_comm]

end FileTree

namespace Client

variable {c : Client} {files : FileTree} {name path : Text}

/-- Looking through paths ends at the first one with a file that may be run, or that is too long. -/
theorem firstTool_eq (files : FileTree) (paths : List Text) :
    firstTool files paths =
      (paths.find? files.stopsAt).elim (.ok none) fun p =>
        if files.isExecutable p then .ok (some p) else .error (.unopened .longName p) := by
  induction paths with
  | nil => rfl
  | cons path rest ih =>
    rw [firstTool, List.find?_cons, FileTree.stopsAt]
    obtain ⟨hfile, hnot, hlong⟩ | ⟨there, hfile, hthere, hshort⟩ := files.isFile_cases path
    · simp [hfile, hnot, hlong, Except.bind]
    · cases hexec : files.isExecutable path with
      | true => simp [hfile, hexec, hthere hexec, Except.bind]
      | false => simp [hfile, hshort, Except.bind, ih]

/-- What is found under the paths of Go, and otherwise in the search path. -/
theorem locate_cases (h : ToolName name) (hpath : c.valueOf? "PATH" = some path) :
    c.locate files name =
      ((c.goPaths name).find? files.stopsAt).elim (.ok ((pathPaths path name).find? files.isExecutable)) fun p =>
        if files.isExecutable p then .ok (some p) else .error (.unopened .longName p) := by
  rw [locate, installPaths_eq h, firstTool_eq, searchPaths_eq h hpath]
  cases (c.goPaths name).find? files.stopsAt with
  | none => rfl
  | some p =>
    simp only [Option.elim_some]
    split <;> rfl

/-- **Where the search breaks off**: at a path of Go that is too long, unless there is a file that may be run under
one in front of it. -/
theorem locate_eq_error_iff (h : ToolName name) (hpath : c.valueOf? "PATH" = some path) {e : Fault} :
    c.locate files name = .error e ↔
      ∃ p, files.Obstructs (c.goPaths name) p ∧ e = .unopened .longName p := by
  rw [locate_cases h hpath]
  simp only [FileTree.obstructs_iff]
  cases hfirst : (c.goPaths name).find? files.stopsAt with
  | none => simp
  | some p =>
    have hlong := FileTree.isTooLong_eq_not (List.find?_some hfirst)
    cases hexec : files.isExecutable p with
    | true => simp [hlong, hexec]
    | false =>
      rw [hexec, Bool.not_false] at hlong
      rw [Option.elim_some, if_neg (by simp [hexec])]
      constructor
      · intro he
        exact ⟨p, ⟨rfl, hlong⟩, (Except.error.inj he).symm⟩
      · rintro ⟨q, ⟨hq, -⟩, rfl⟩
        rw [Option.some.inj hq]

/-- **The first path with a file that may be run** is what is found, if the search does not break off. -/
theorem locate_eq (h : ToolName name) (hpath : c.valueOf? "PATH" = some path)
    (hclear : ∀ p, ¬ files.Obstructs (c.goPaths name) p) :
    c.locate files name = .ok ((c.toolPaths path name).find? files.isExecutable) := by
  simp only [FileTree.obstructs_iff, not_and, Bool.not_eq_true] at hclear
  rw [locate_cases h hpath, toolPaths, List.find?_append]
  cases hfirst : (c.goPaths name).find? files.stopsAt with
  | none =>
    have hnone : (c.goPaths name).find? files.isExecutable = none :=
      List.find?_eq_none.mpr fun p hp he =>
        List.find?_eq_none.mp hfirst p hp (FileTree.stopsAt_of_isExecutable he)
    rw [hnone]
    rfl
  | some p =>
    have hexec : files.isExecutable p = true := by
      simpa [FileTree.isTooLong_eq_not (List.find?_some hfirst)] using hclear p hfirst
    obtain ⟨front, back, hsplit, -, hfront⟩ := find?_eq_some_iff_firstOf.mp hfirst
    have hsome : (c.goPaths name).find? files.isExecutable = some p :=
      find?_eq_some_iff_firstOf.mpr
        ⟨front, back, hsplit, hexec, fun q hq he => hfront q hq (FileTree.stopsAt_of_isExecutable he)⟩
    rw [hsome, Option.elim_some, if_pos hexec]
    rfl

/-! ## The default workspace -/

/-- The text of the directory of Go in the home directory. -/
theorem homeDirectory_eq (c : Client) :
    c.homeDirectory =
      List.replicate (Path.ofText c.home).slashes '/' ++
        Text.join ['/'] ((Path.ofText c.home).parts ++ ["go".toList]) := by
  rw [homeDirectory_eq_entry, Path.entry, if_neg (by decide), Path.toText, if_neg (by simp)]

theorem homeDirectory_ne_nil (c : Client) : c.homeDirectory ≠ [] := by
  intro hnil
  have hg : 'g' ∉ c.homeDirectory := by
    rw [hnil]
    exact List.not_mem_nil
  rw [homeDirectory_eq, List.mem_append, not_or] at hg
  exact Text.freeOf_of_not_mem_join hg.2 "go".toList (by simp) (by decide)

/-- A home directory without a colon in it has no colon in its directory of Go. -/
theorem colon_not_mem_homeDirectory (h : ':' ∉ c.home) : ':' ∉ c.homeDirectory := by
  have hparts : Text.FreeOf ':' ((Path.ofText c.home).parts ++ ["go".toList]) :=
    Text.FreeOf.append_iff.mpr
      ⟨fun p hp => Text.freeOf_pieces h ['/'] p (List.mem_filter.mp hp).1, by decide⟩
  rw [homeDirectory_eq, List.mem_append, not_or]
  exact ⟨fun hm => absurd (List.eq_of_mem_replicate hm) (by decide), hparts.not_mem_join (by decide)⟩

/-- **The default workspace** is the directory of Go in the home directory, if that has no colon in it. -/
theorem workspaces_of_blank (hblank : c.held "GOPATH" = []) (h : ':' ∉ c.home) :
    c.workspaces = [((Path.ofText c.home).entry "go".toList).toText] := by
  have hwhole : Text.pieces [':'] c.homeDirectory = [c.homeDirectory] :=
    Text.pieces_of_cut_eq_none (Text.cut_singleton_eq_none (colon_not_mem_homeDirectory h))
  have hdefault : c.workspaces = (Text.pieces [':'] c.homeDirectory).filter (· ≠ []) := by
    rw [workspaces, hblank, homeDirectory_eq_entry]
    rfl
  rw [hdefault, hwhole, ← homeDirectory_eq_entry]
  simp [homeDirectory_ne_nil]

end Client

end GoCompletion
