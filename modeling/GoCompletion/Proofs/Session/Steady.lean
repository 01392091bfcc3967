import GoCompletion.Proofs.Host.Run
import GoCompletion.Session.Query

/-!
# Views that most acts keep

Most of what a session does is looking for tools, running them and writing notices. A view is **steady** if
looking for tools keeps it, running any tool but the query of the daemon, any notice but that of trouble,
and what is learnt of tools and packages. Acts that are made of nothing else keep every steady view:

* lookups of packages (`Steady.allPackages`, `Steady.supportsVendoring`, `Steady.importWanted`);
* work with the daemon other than queries (`Steady.setOption`, `Steady.pushSettings`,
  `Steady.updateDaemon`).

It is **steadfast** if queries keep it as well, and then they do so with an import or without one
(`Steadfast.put`, `Steadfast.putImporting`).
-/

namespace GoCompletion

/-- The subcommand of the daemon that a query runs. -/
def queryCommand : Text := "autocomplete".toList

namespace Session

open Act

/-- Looking for tools, running them, writing notices and keeping what is learnt leave a view as it is, unless
the daemon is queried or trouble is told of. -/
structure Steady {γ : Type} (view : Session → γ) : Prop where
  /-- looking for a tool -/
  findTool (name : Text) : (findTool name).Keeps view
  /-- running a tool -/
  exec {i : Invocation} : i.subcommand ≠ queryCommand → (exec i).Keeps view
  /-- writing a notice -/
  tell {n : Notice} : n ≠ .daemonPanics → (tell n).Keeps view
  /-- looking for a tool anew the next time -/
  forget (name : Text) :
    (Act.modify fun s : Session => { s with client := s.client.forget name }).Keeps view
  /-- keeping an index of packages -/
  keepGroups (g : PackageGroups) : (keepGroups g).Keeps view
  /-- keeping whether vendored packages can be imported -/
  keepVendoring (b : Bool) : (keepVendoring b).Keeps view

variable {γ : Type} {view : Session → γ}

/-- A notice keeps a view that writing it down keeps. -/
theorem keeps_tell_of {n : Notice} (h : (outside (Host.record (.log n))).Keeps view) :
    (tell n).Keeps view := by
  refine .bind .get fun s => ?_
  split
  · exact h
  · exact .pure _

/-- Work with a tool keeps a view that looking for the tool keeps, if it does so whether or not the tool is
there. -/
theorem keeps_bind_findTool {α : Type} {name : Text} {f : Option Text → Act Session α}
    (hfind : (findTool name).Keeps view) (hmissing : (f none).Keeps view)
    (hfound : ∀ path, (f (some path)).Keeps view) : (findTool name >>= f).Keeps view := by
  refine .bind hfind fun path => ?_
  cases path with
  | none => exact hmissing
  | some path => exact hfound path

/-- Asking whether vendored packages can be imported keeps what looking for Go and asking for its version
keep, if it does not matter which answer is kept. -/
theorem keeps_supportsVendoring_of (hfind : (findTool goName).Keeps view)
    (hexec : ∀ go, (exec { command := go, args := ["version".toList] }).Keeps view)
    (hkeep : ∀ b, (keepVendoring b).Keeps view) : supportsVendoring.Keeps view := by
  refine .bind .get fun s => ?_
  split
  · exact .pure _
  · refine keeps_bind_findTool hfind (.pure _) fun go => .bind (hexec go) fun r => ?_
    split
    · exact .bind .get fun _ => .bind (.ofExcept _) fun _ => .bind (hkeep _) fun _ => .pure _
    · exact .pure _

/-- Updating the daemon keeps what looking for the tools and running them keep, if it does not matter that the
daemon is looked for anew the next time. -/
theorem keeps_updateDaemon_of (hfind : ∀ name, (findTool name).Keeps view)
    (hclose : ∀ path, (exec { command := path, args := ["close".toList] }).Keeps view)
    (hget : ∀ path, (exec { command := path, args := ["get".toList, "-u".toList, daemonPackage] }).Keeps view)
    (hforget : (Act.modify fun s : Session => { s with client := s.client.forget daemonName }).Keeps view) :
    updateDaemon.Keeps view := by
  have hclosing : closeDaemon.Keeps view :=
    keeps_bind_findTool (hfind _) (.pure _) fun path => .bind (hclose path) fun _ => .pure _
  have hinstalling : installDaemon.Keeps view :=
    keeps_bind_findTool (hfind _) (.pure _) fun path =>
      .bind (hget path) fun _ => .bind hforget fun _ => .pure _
  exact .bind hclosing fun _ => .bind hinstalling fun _ => .pure _

/-- Telling of errors keeps what the notice about them keeps. -/
theorem keeps_tellErrors_of (r : RunResult) {notice : Text → Notice}
    (htell : ∀ t, (tell (notice t)).Keeps view) : (tellErrors r notice).Keeps view := by
  unfold tellErrors
  split
  · exact .pure _
  · exact htell _

/-- Telling of results keeps what notices keep. -/
theorem keeps_tellFailures_of (htell : ∀ n, n ≠ .daemonPanics → (tell n).Keeps view) (rs : List RunResult) :
    (tellFailures rs).Keeps view := by
  induction rs with
  | nil => exact .pure _
  | cons r rs ih =>
    unfold tellFailures
    split
    · exact ih
    · exact .bind (htell _ nofun) fun _ => ih

namespace Steady

theorem tellErrors (h : Steady view) (r : RunResult) {notice : Text → Notice}
    (hnotice : ∀ t, notice t ≠ .daemonPanics) : (tellErrors r notice).Keeps view :=
  keeps_tellErrors_of r fun _ => h.tell (hnotice _)

/-- A run with another subcommand is no query. -/
theorem exec_of_args (h : Steady view) {i : Invocation} {a : Text} {rest : List Text}
    (hi : i.args = a :: rest) (hflag : a ≠ jsonFlag) (hquery : a ≠ queryCommand) :
    (Session.exec i).Keeps view := by
  refine h.exec ?_
  rw [Invocation.subcommand_eq hi hflag]
  exact hquery

/-! ## Lookups of packages -/

theorem allPackages (h : Steady view) : allPackages.Keeps view := by
  refine .bind .get fun s => ?_
  split
  · exact .pure _
  · refine keeps_bind_findTool (h.findTool _) (.pure _) fun go =>
      .bind (h.exec_of_args rfl (by decide) (by decide)) fun r => .bind (h.tellErrors r nofun) fun _ => ?_
    split
    · exact .bind (h.keepGroups _) fun _ => .pure _
    · exact .pure _

theorem supportsVendoring (h : Steady view) : supportsVendoring.Keeps view :=
  keeps_supportsVendoring_of (h.findTool _) (fun _ => h.exec_of_args rfl (by decide) (by decide))
    h.keepVendoring

/-- Looking for a package to import keeps a steady view. -/
theorem importWanted (h : Steady view) (t : Text) (index offset : Int) (file : Path) :
    (importWanted t index offset file).Keeps view := by
  refine .bind h.supportsVendoring fun _ => .bind (.ofExcept _) fun pkg => ?_
  cases pkg with
  | none => exact .pure _
  | some pkg => exact .bind h.allPackages fun _ => .bind .get fun _ => .pure _

/-! ## Work with the daemon -/

theorem setOption (h : Steady view) (name : Text) (on : Bool) : (setOption name on).Keeps view :=
  keeps_bind_findTool (h.findTool _) (.pure _) fun _ =>
    .bind (h.exec_of_args rfl (by decide) (by decide)) fun _ => .pure _

theorem pushOption (h : Steady view) (name : Text) (on : Bool) : (pushOption name on).Keeps view := by
  refine .bind (h.setOption _ _) fun r => ?_
  cases r with
  | none => exact .pure _
  | some r => exact .bind (h.tellErrors r nofun) fun _ => .pure _

/-- Setting the options of the daemon keeps a steady view. -/
theorem pushSettings (h : Steady view) : pushSettings.Keeps view := by
  refine .bind .get fun s => .bind (h.pushOption _ _) fun found => ?_
  cases found with
  | false => exact .pure _
  | true => exact .bind (h.pushOption _ _) fun _ => .pure _

/-- Updating the daemon keeps a steady view. -/
theorem updateDaemon (h : Steady view) : updateDaemon.Keeps view :=
  keeps_updateDaemon_of h.findTool (fun _ => h.exec_of_args rfl (by decide) (by decide))
    (fun _ => h.exec_of_args rfl (by decide) (by decide)) (h.forget _)

theorem tellFailures (h : Steady view) (rs : List RunResult) : (tellFailures rs).Keeps view :=
  keeps_tellFailures_of (fun _ => h.tell) rs

/-! ## Questions to the daemon -/

/-- Reading an answer of the daemon keeps a steady view that displaying messages keeps. -/
theorem readAnswer (h : Steady view)
    (hdisplay : ∀ severity message, (outside (Host.record (.display severity message))).Keeps view)
    (output : Text) : (readAnswer output).Keeps view := by
  have hunreadable : ∀ mistake, (tellUnreadable output mistake).Keeps view := by
    refine fun mistake => .bind (h.tell nofun) fun _ => .bind .get fun s => ?_
    split
    · exact hdisplay _ _
    · exact .pure _
  unfold Session.readAnswer
  split
  · exact .pure _
  · refine .bind (.ofExcept _) fun r => ?_
    split
    · exact .pure _
    · exact .pure _
    · exact .bind (hunreadable _) fun _ => .pure _

end Steady

/-- Queries of the daemon and messages that are displayed leave a steady view as it is, too. -/
structure Steadfast {γ : Type} (view : Session → γ) : Prop extends Steady view where
  /-- running a query -/
  query (q : Question) : (Session.exec q.invocation).Keeps view
  /-- displaying a message -/
  display (severity : Severity) (message : Text) :
    (outside (Host.record (.display severity message))).Keeps view

namespace Steadfast

/-- A question to the daemon keeps a steadfast view. -/
theorem put (h : Steadfast view) (q : Question) : (put q).Keeps view :=
  .bind (h.query q) fun r =>
    .bind (h.tellErrors r nofun) fun _ => h.readAnswer h.display r.output

theorem putImporting (h : Steadfast view) (q : Question) (index : Nat) :
    (putImporting q index).Keeps view := by
  refine .bind (Keeps.attempt (h.importWanted _ _ _ _)) fun added => ?_
  split
  · exact .bind (h.tell nofun) fun _ => .pure _
  · exact .pure _
  · exact h.put _

end Steadfast

end Session

end GoCompletion
