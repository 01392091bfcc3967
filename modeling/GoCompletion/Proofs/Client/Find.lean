import GoCompletion.Client.Basic

/-!
# Looking for tools

A tool that is known is where it is known to be. Any other is looked for where it may be installed, and is
known from then on if it is there (`Client.find_cases`). So looking for a tool changes at most which tools are
known (`Client.view_find`), and nothing at all if it is not found (`Client.snd_find_of_unfound`); and it breaks
off only at a file that cannot be opened (`Client.find_eq_error`).
-/

namespace GoCompletion

namespace Client

variable {c : Client} {files : FileTree} {name : Text}

/-- **Looking for a tool**: it is known, or it is found and known from then on, or nothing changes. -/
theorem find_cases (c : Client) (files : FileTree) (name : Text) :
    (∃ path, c.known? name = some path ∧ c.find files name = (.ok (some path), c)) ∨
      c.known? name = none ∧
        ((∃ path, c.locate files name = .ok (some path) ∧
            c.find files name = (.ok (some path), { c with tools := (name, path) :: c.tools })) ∨
          (∀ path, c.locate files name ≠ .ok (some path)) ∧
            c.find files name = (c.locate files name, c)) := by
  cases hknown : c.known? name with
  | some path => exact .inl ⟨path, rfl, find_of_known hknown files⟩
  | none =>
    refine .inr ⟨rfl, ?_⟩
    rcases hlocate : c.locate files name with e | _ | path
    · exact .inr ⟨by simp, by simp only [find, hknown, hlocate]⟩
    · exact .inr ⟨by simp, by simp only [find, hknown, hlocate]⟩
    · exact .inl ⟨path, rfl, by simp only [find, hknown, hlocate]⟩

/-- Where a tool is found: where it is known to be, and otherwise where it is installed. -/
theorem fst_find (c : Client) (files : FileTree) (name : Text) :
    (c.find files name).1 = (c.known? name).elim (c.locate files name) fun path => .ok (some path) := by
  obtain ⟨path, hknown, hfind⟩ | ⟨hknown, ⟨path, hlocate, hfind⟩ | ⟨-, hfind⟩⟩ := c.find_cases files name
  · rw [hfind, hknown]
    rfl
  · rw [hfind, hknown, hlocate]
    rfl
  · rw [hfind, hknown]
    rfl

/-- Looking for a tool keeps all that does not depend on which tools are known. -/
theorem view_find {γ : Type} {view : Client → γ}
    (h : ∀ (c : Client) (tools : List (Text × Text)), view { c with tools } = view c) (c : Client)
    (files : FileTree) (name : Text) : view (c.find files name).2 = view c := by
  obtain ⟨path, -, hfind⟩ | ⟨-, ⟨path, -, hfind⟩ | ⟨-, hfind⟩⟩ := c.find_cases files name
  · rw [hfind]
  · rw [hfind]
    exact h c _
  · rw [hfind]

/-- A tool that is not found, or cannot be looked for, changes nothing. -/
theorem snd_find_of_unfound (h : ∀ path, (c.find files name).1 ≠ .ok (some path)) :
    (c.find files name).2 = c := by
  obtain ⟨path, -, hfind⟩ | ⟨-, ⟨path, -, hfind⟩ | ⟨-, hfind⟩⟩ := c.find_cases files name
  · rw [hfind]
  · exact absurd (congrArg Prod.fst hfind) (h path)
  · rw [hfind]

/-- A tool that is found is known. -/
theorem known?_find {path : Text} (h : (c.find files name).1 = .ok (some path)) :
    (c.find files name).2.known? name = some path := by
  obtain ⟨found, hknown, hfind⟩ | ⟨-, ⟨found, -, hfind⟩ | ⟨hnone, hfind⟩⟩ := c.find_cases files name
  · rw [hfind] at h ⊢
    cases h
    exact hknown
  · rw [hfind] at h ⊢
    cases h
    simp [known?]
  · rw [hfind] at h
    exact absurd h (hnone path)

end Client

/-! ## Breaking off -/

theorem FileTree.isFile_eq_error {f : FileTree} {name : Text} {e : Fault} (h : f.isFile name = .error e) :
    ∃ obstacle path, e = .unopened obstacle path := by
  unfold isFile at h
  split at h
  · cases h
  · cases h
    exact ⟨_, _, rfl⟩
  · cases h

namespace Client

theorem firstTool_eq_error {files : FileTree} {paths : List Text} {e : Fault}
    (h : firstTool files paths = .error e) : ∃ obstacle path, e = .unopened obstacle path := by
  induction paths with
  | nil => cases h
  | cons path rest ih =>
    rw [firstTool] at h
    cases hfile : files.isFile path with
    | error e' =>
      rw [hfile] at h
      cases h
      exact FileTree.isFile_eq_error hfile
    | ok there =>
      rw [hfile] at h
      change (if (there && files.isExecutable path) = true then _ else _) = _ at h
      split at h
      · cases h
      · exact ih h

/-- Looking for a tool breaks off only at a file that cannot be opened. -/
theorem find_eq_error {c : Client} {files : FileTree} {name : Text} {e : Fault}
    (h : (c.find files name).1 = .error e) : ∃ obstacle path, e = .unopened obstacle path := by
  rw [fst_find] at h
  cases hknown : c.known? name with
  | some path =>
    rw [hknown] at h
    cases h
  | none =>
    rw [hknown] at h
    change c.locate files name = .error e at h
    cases hfirst : firstTool files (c.installPaths name) with
    | error e' =>
      rw [locate, hfirst] at h
      cases h
      exact firstTool_eq_error hfirst
    | ok found =>
      rw [locate, hfirst] at h
      cases h

end Client

end GoCompletion
