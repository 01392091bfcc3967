import GoCompletion.Proofs.Client.History
import GoCompletion.Proofs.Session.Lookup

/-!
# Looking for tools, time and again

Tools are looked for by name, and when the daemon is installed anew; in between there may be other files. Whatever
happens, **each search is answered as it should be** (`ToolAnswer`): a tool that has been found is under the same
path again, and any other one is under the first path with a file that may be run at that moment, if there is any
(`Session.toolAnswer_of_toolEvents`).

* `ToolStep` — what happens in a session, as far as tools matter, and the searches in it (`ToolStep.events`);
* `ToolStep.passage` — what is known of tools behind one step, and `Session.passage_toolEvents` behind several.

A search may break off at a path of Go that is too long even though the tool is there behind it
(`Session.obstructed_search`).
-/

namespace GoCompletion

namespace Script

variable {script : Script}

/-- No run to come fails in a way that nobody expects. -/
def Unfailing (script : Script) : Prop := ∀ subcommand reason, .failed reason ∉ script.queue subcommand

/-- A run leaves no more runs to come than there were. -/
theorem Unfailing.take (h : script.Unfailing) (subcommand : Text) : (script.take subcommand).2.Unfailing := by
  intro other reason hm
  by_cases hother : subcommand = other
  · subst hother
    rw [queue_take_self] at hm
    exact h subcommand reason (List.mem_of_mem_tail hm)
  · rw [queue_take_of_ne hother] at hm
    exact h other reason hm

/-- The next run does not fail either. -/
theorem Unfailing.next_ne (h : script.Unfailing) (subcommand reason : Text) :
    (script.queue subcommand)[0]?.getD .quiet ≠ .failed reason := by
  rcases hnext : (script.queue subcommand)[0]? with _ | o
  · nofun
  · rw [Option.getD_some]
    rintro rfl
    exact h subcommand reason (List.mem_of_getElem? hnext)

end Script

namespace Session

open Act

/-- **A run that does not fail** changes nothing that is known of tools, and leaves others that do not fail either. -/
theorem exists_exec_ok {s : Session} (h : s.host.script.Unfailing) (i : Invocation) :
    ∃ r t, exec i s = (.ok r, t) ∧ t.client = s.client ∧ t.host.script.Unfailing := by
  obtain ⟨r, fed, stopped, hexec, houtput, -⟩ := exists_exec i s
  rw [hexec]
  cases r with
  | ok r => exact ⟨r, _, rfl, rfl, h.take _⟩
  | error e =>
    obtain ⟨reason, hfailed, -⟩ := Outcome.eq_failed_of_output houtput.symm
    exact absurd hfailed (h.next_ne _ reason)

/-! ## What happens to tools -/

/-- The event of looking for a tool. -/
def search (name : Text) (s : Session) : ToolEvent := .sought name s.host.files (findTool name s).1

/-- What happens behind a search that finds the tool. -/
def ifFound (events : List ToolEvent) : Except Fault (Option Text) → List ToolEvent
  | .ok (some _) => events
  | _ => []

/-- What happens when the daemon is installed: Go is looked for, and if it is there, the daemon is new. -/
def installEvents (s : Session) : List ToolEvent :=
  search goName s :: ifFound [.renewed] (findTool goName s).1

/-- What happens when the daemon is updated: it is looked for, to be stopped, and unless that breaks off, it is
installed. -/
def updateEvents (s : Session) : List ToolEvent :=
  search daemonName s ::
    match closeDaemon s with
    | (.ok _, t) => installEvents t
    | (.error _, _) => []

/-- Some events are all that the act does to what is known of tools, as long as no run fails. -/
def Undergoes {α : Type} (m : Act Session α) (events : Session → List ToolEvent) : Prop :=
  ∀ s, s.host.script.Unfailing → s.client.Passage (events s) (m s).2.client ∧ (m s).2.host.script.Unfailing

theorem undergoes_findTool (name : Text) : Undergoes (findTool name) fun s => [search name s] :=
  fun s h => ⟨.sought name s.host.files (.done _), h⟩

/-- A run of a tool is no event. -/
theorem undergoes_exec_bind {α : Type} {f : RunResult → Act Session α} {events : List ToolEvent}
    (h : ∀ r, Undergoes (f r) fun _ => events) (i : Invocation) : Undergoes (exec i >>= f) fun _ => events := by
  intro s hs
  obtain ⟨r, t, hexec, hclient, ht⟩ := exists_exec_ok hs i
  rw [bind_apply_ok hexec, ← hclient]
  exact h r t ht

/-- What is done with a tool happens behind a search that finds it. -/
theorem undergoes_findTool_bind {α : Type} {a : α} {f : Text → Act Session α} {events : List ToolEvent}
    (h : ∀ path, Undergoes (f path) fun _ => events) (name : Text) :
    Undergoes
      (findTool name >>= fun found =>
        match found with
        | none => pure a
        | some path => f path)
      fun s => search name s :: ifFound events (findTool name s).1 := by
  intro s hs
  obtain ⟨hsearch, hscript⟩ := undergoes_findTool name s hs
  dsimp only
  rcases hfind : findTool name s with ⟨e | _ | path, t⟩
  · rw [hfind] at hsearch hscript
    rw [bind_apply_error hfind]
    exact ⟨hsearch, hscript⟩
  · rw [hfind] at hsearch hscript
    rw [bind_apply_ok hfind]
    exact ⟨hsearch, hscript⟩
  · rw [hfind] at hsearch hscript
    rw [bind_apply_ok hfind]
    obtain ⟨hbehind, hrest⟩ := h path t hscript
    exact ⟨hsearch.append hbehind, hrest⟩

theorem undergoes_closeDaemon : Undergoes closeDaemon fun s => [search daemonName s] := by
  have hclose : Undergoes closeDaemon fun s =>
      search daemonName s :: ifFound [] (findTool daemonName s).1 :=
    undergoes_findTool_bind (fun _ => undergoes_exec_bind (fun _ _ ht => ⟨.done _, ht⟩) _) daemonName
  intro s hs
  have hnothing : ifFound [] (findTool daemonName s).1 = [] := by
    unfold ifFound
    split <;> rfl
  rw [← hnothing]
  exact hclose s hs

theorem undergoes_installDaemon : Undergoes installDaemon installEvents :=
  undergoes_findTool_bind
    (fun _ => undergoes_exec_bind (fun _ _ ht => ⟨.renewed (.done _), ht⟩) _) goName

theorem undergoes_updateDaemon : Undergoes updateDaemon updateEvents := by
  intro s hs
  obtain ⟨hstopped, hscript⟩ := undergoes_closeDaemon s hs
  unfold updateEvents updateDaemon
  rcases hclose : closeDaemon s with ⟨e | closed, t⟩
  · rw [hclose] at hstopped hscript
    rw [bind_apply_error hclose]
    exact ⟨hstopped, hscript⟩
  · rw [hclose] at hstopped hscript
    have hanswer : ((installDaemon >>= fun installed => pure (closed ++ installed)) t).2 = (installDaemon t).2 :=
      snd_bind_ofExcept installDaemon (fun installed => .ok (closed ++ installed)) t
    obtain ⟨hinstalled, hrest⟩ := undergoes_installDaemon t hscript
    rw [bind_apply_ok hclose, hanswer]
    exact ⟨hstopped.append hinstalled, hrest⟩

end Session

/-- What happens in a session, as far as tools matter. -/
inductive ToolStep where
  /-- there are other files now; some have been deleted, perhaps -/
  | changed (files : FileTree)
  /-- a tool is looked for -/
  | looked (name : Text)
  /-- the daemon is updated -/
  | updated

namespace ToolStep

open Session

/-- The session behind a step. -/
def perform : ToolStep → Session → Session
  | changed files, s => { s with host := { s.host with files } }
  | looked name, s => (findTool name s).2
  | updated, s => (updateDaemon s).2

/-- What happens to tools in a step. -/
def events : ToolStep → Session → List ToolEvent
  | changed _, _ => []
  | looked name, s => [search name s]
  | updated, s => updateEvents s

/-- **One step**: its events are all that it does to what is known of tools. -/
theorem passage {s : Session} (h : s.host.script.Unfailing) (x : ToolStep) :
    s.client.Passage (x.events s) (x.perform s).client ∧ (x.perform s).host.script.Unfailing := by
  cases x with
  | changed files => exact ⟨.done _, h⟩
  | looked name => exact undergoes_findTool name s h
  | updated => exact undergoes_updateDaemon s h

end ToolStep

namespace Session

/-- What happens to tools in some steps, in turn. -/
def toolEvents : List ToolStep → Session → List ToolEvent
  | [], _ => []
  | x :: xs, s => x.events s ++ toolEvents xs (x.perform s)

/-- **Any steps**: their events are all that they do to what is known of tools. -/
theorem passage_toolEvents {s : Session} (h : s.host.script.Unfailing) (xs : List ToolStep) :
    s.client.Passage (toolEvents xs s) (xs.foldl (fun s x => x.perform s) s).client := by
  induction xs generalizing s with
  | nil => exact .done _
  | cons x xs ih =>
    obtain ⟨hpassage, hscript⟩ := x.passage h
    exact hpassage.append (ih hscript)

end Session

/-! ## Answers of searches -/

/-- **What a search answers**, where `path` is the search path, `before` is what has happened to tools before, and
`files` are those that there are at that moment. -/
structure ToolAnswer (c : Client) (path : Text) (before : List ToolEvent) (name : Text) (files : FileTree)
    (answer : Except Fault (Option Text)) : Prop where
  /-- a tool that has been found is under the same path again, whatever the files are -/
  again {found : Text} : FoundIn before name found → answer = .ok (some found)
  /-- any other one is found under the first path with a file that may be run -/
  first {found : Text} : (∀ p, ¬ FoundIn before name p) →
    (answer = .ok (some found) ↔ (∀ p, ¬ files.Obstructs (c.goPaths name) p) ∧
      FirstOf (fun p => files.isExecutable p = true) (c.toolPaths path name) found)
  /-- it is not found exactly if there is no such file -/
  missing : (∀ p, ¬ FoundIn before name p) →
    (answer = .ok none ↔ (∀ p, ¬ files.Obstructs (c.goPaths name) p) ∧
      ∀ p ∈ c.toolPaths path name, files.isExecutable p = false)
  /-- the search breaks off exactly at a path of Go that is too long, with no such file in front of it -/
  fault {e : Fault} : (∀ p, ¬ FoundIn before name p) →
    (answer = .error e ↔ ∃ p, files.Obstructs (c.goPaths name) p ∧ e = .unopened .longName p)

/-- A client that knows what has been found answers as it should. -/
theorem Client.Recalls.toolAnswer {b c : Client} {path name : Text} {before : List ToolEvent}
    (h : b.Recalls before) (hlocate : b.locate = c.locate) (hname : ToolName name)
    (hpath : c.valueOf? "PATH" = some path) (files : FileTree) :
    ToolAnswer c path before name files (b.find files name).1 := by
  have hanswer : (∀ p, ¬ FoundIn before name p) → (b.find files name).1 = c.locate files name := by
    intro hunknown
    have hnone : b.known? name = none :=
      Option.eq_none_iff_forall_not_mem.mpr fun p hp => hunknown p ((h name p).mp hp)
    rw [fst_find, hnone, hlocate]
    rfl
  have hclear : ∀ {r}, c.locate files name = .ok r → ∀ p, ¬ files.Obstructs (c.goPaths name) p := by
    intro r hr p hp
    rw [(locate_eq_error_iff hname hpath).mpr ⟨p, hp, rfl⟩] at hr
    cases hr
  constructor
  case again =>
    intro found hfound
    rw [fst_find, (h name found).mpr hfound]
    rfl
  case first =>
    intro found hunknown
    rw [hanswer hunknown, ← find?_eq_some_iff_firstOf]
    constructor
    · intro hr
      have hall := hclear hr
      rw [locate_eq hname hpath hall] at hr
      exact ⟨hall, Except.ok.inj hr⟩
    · rintro ⟨hall, hfound⟩
      rw [locate_eq hname hpath hall, hfound]
  case missing =>
    intro hunknown
    rw [hanswer hunknown]
    constructor
    · intro hr
      have hall := hclear hr
      rw [locate_eq hname hpath hall] at hr
      exact ⟨hall, by simpa using Except.ok.inj hr⟩
    · rintro ⟨hall, hnothing⟩
      rw [locate_eq hname hpath hall, List.find?_eq_none.mpr fun p hp => by simp [hnothing p hp]]
  case fault =>
    intro e hunknown
    rw [hanswer hunknown]
    exact locate_eq_error_iff hname hpath

namespace Session

/-- **Each search is answered as it should be**, by name or when the daemon is updated, whatever happens in between:
what has been found is found again, anything else is looked for among the files that there are at that moment, and
what is not found is not remembered. Without a workspace of Go it is the one in the home directory. -/
theorem toolAnswer_of_toolEvents {s : Session} {path : Text} (htools : s.client.tools = [])
    (hpath : s.client.valueOf? "PATH" = some path) (hscript : s.host.script.Unfailing) (xs : List ToolStep) :
    (∀ before name files answer after, ToolName name →
      toolEvents xs s = before ++ .sought name files answer :: after →
        ToolAnswer s.client path before name files answer) ∧
      (∀ name t, (∀ found, (findTool name t).1 ≠ .ok (some found)) → (findTool name t).2 = t) ∧
        (s.client.held "GOPATH" = [] → ':' ∉ s.client.home →
          s.client.workspaces = [((Path.ofText s.client.home).entry "go".toList).toText]) := by
  refine ⟨?_, fun name t h => Lookup.snd_findTool h, Client.workspaces_of_blank⟩
  intro before name files answer after hname hsplit
  obtain ⟨b, hrecalls, hlocate, rfl⟩ :=
    (passage_toolEvents hscript xs).exists_answered (Client.recalls_nil htools) hsplit
  exact hrecalls.toolAnswer hlocate hname hpath files

/-- The daemon is found where it was, although it is gone, until it is updated; then it is not found any more. -/
theorem toolAnswer_of_toolEvents_erased :
    let found := "/more/bin/gocode".toList
    let there : FileTree :=
      { entries := [(["bin".toList, goName], .file true []), (["own".toList, daemonName], .file false []),
          (["more".toList, "bin".toList, daemonName], .file true []), (["bin".toList, daemonName], .file true [])] }
    let gone := (there.erase found).erase "/bin/gocode".toList
    let path := "/usr/bin:/bin/".toList
    let s := start
      { home := "/home".toList
        environment := [("GOBIN".toList, " /own ".toList), ("GOPATH".toList, "/ws::/more/".toList),
          ("GOROOT".toList, "/go".toList), ("PATH".toList, path)] } {} true { files := there }
    let steps : List ToolStep := [.looked daemonName, .changed gone, .looked daemonName, .updated, .looked daemonName]
    let first : ToolEvent := .sought daemonName there (.ok (some found))
    let again : ToolEvent := .sought daemonName gone (.ok (some found))
    let update : List ToolEvent := [again, .sought goName gone (.ok (some "/bin/go".toList)), .renewed]
    let last : ToolEvent := .sought daemonName gone (.ok none)
    toolEvents steps s = [first, again] ++ update ++ [last] ∧
      s.client.toolPaths path daemonName = ["/own/gocode", "/ws/bin/gocode", "/more/bin/gocode", "/go/bin/gocode",
        "/usr/bin/gocode", "/bin/gocode"].map String.toList ∧
        ToolAnswer s.client path [] daemonName there (.ok (some found)) ∧
          ToolAnswer s.client path [first] daemonName gone (.ok (some found)) ∧
            ToolAnswer s.client path ([first, again] ++ update) daemonName gone (.ok none) := by
  intro found there gone path s steps first again update last
  have hpath : s.client.valueOf? "PATH" = some path := by decide +kernel
  have hname : ToolName daemonName := by decide
  have hevents : toolEvents steps s = [first, again] ++ update ++ [last] := by decide +kernel
  obtain ⟨hanswers, -⟩ := toolAnswer_of_toolEvents rfl hpath (fun _ _ => List.not_mem_nil) steps
  exact ⟨hevents, by decide +kernel, hanswers [] daemonName there _ (again :: update ++ [last]) hname hevents,
    hanswers [first] daemonName gone _ (update ++ [last]) hname hevents,
    hanswers ([first, again] ++ update) daemonName gone _ [] hname hevents⟩

/-- **A search breaks off although the tool is there**: the path in the directory that GOBIN names is too long, and
behind it, in the search path, is a file that may be run. -/
theorem obstructed_search :
    let long : Text := '/' :: List.replicate 256 'a'
    let files : FileTree := { entries := [(["bin".toList, goName], .file true [])] }
    let c : Client :=
      { home := "/home".toList, environment := [("GOBIN".toList, long), ("PATH".toList, "/bin".toList)] }
    FirstOf (fun p => files.isExecutable p = true) (c.toolPaths "/bin".toList goName) "/bin/go".toList ∧
      (c.find files goName).1 = .error (.unopened .longName (long ++ "/go".toList)) := by
  intro long files c
  refine ⟨find?_eq_some_iff_firstOf.mp ?_, ?_⟩
  · decide +kernel
  · decide +kernel

end Session

end GoCompletion
