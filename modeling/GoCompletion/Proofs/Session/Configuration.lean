import GoCompletion.Proofs.Session.Findings
import GoCompletion.Proofs.Session.Inquiry

/-!
# What a session goes by

A session goes by its settings, by what the provider has copied or made of them, and by how long its runs may
take (`Configuration`). **Only putting settings into effect changes that**: requests, settling and whatever else
a session does keep it.

The daemon is told by runs of its own, which are on record (`Session.switched`): where it is found, setting
its options that comes to an end is two runs, with the values that the provider has
(`Session.switched_pushSettings`).
-/

namespace GoCompletion

/-- What a session goes by. -/
structure Configuration where
  /-- the settings -/
  settings : Settings
  /-- the daemon is to propose builtin functions and types -/
  proposeBuiltins : Bool
  /-- the daemon is to propose packages that are not imported yet -/
  unimportedPackages : Bool
  /-- where nothing is completed -/
  suppression : Suppression
  /-- what call snippets write of a parameter -/
  snippetMode : SnippetMode
  /-- how many seconds a run may take -/
  limit : Binary64
  deriving DecidableEq, Repr

/-- What a session goes by that goes by settings alone. -/
def Configuration.ofSettings (s : Settings) : Configuration :=
  { settings := s
    proposeBuiltins := s.proposeBuiltins
    unimportedPackages := s.unimportedPackages
    suppression := .ofSettings s
    snippetMode := s.snippetMode
    limit := s.timeout }

/-- What the parts that work together go by. -/
def Engine.configuration (e : Engine) : Configuration :=
  { settings := e.provider.settings
    proposeBuiltins := e.provider.proposeBuiltins
    unimportedPackages := e.provider.unimportedPackages
    suppression := e.provider.suppression
    snippetMode := e.provider.snippetMode
    limit := e.client.limit }

/-- The option of the daemon that a run sets, and the word that it is set to. -/
def Invocation.switched? (i : Invocation) : Option (Text × Text) :=
  match i.args with
  | [command, name, word] => if command = "set".toList then some (name, word) else none
  | _ => none

/-- The option of the daemon that an event sets. -/
def Event.switched? : Event → Option (Text × Text)
  | .run i _ => i.switched?
  | _ => none

/-- The options that the daemon is to be told of, in turn, and the words that they are to be set to. -/
def Configuration.switches (c : Configuration) : List (Text × Text) := [
  ("unimported-packages".toList, if c.unimportedPackages then "true".toList else "false".toList),
  ("propose-builtins".toList, if c.proposeBuiltins then "true".toList else "false".toList)]

/-- The word that an option of the daemon was set to last, by what is on record. A run counts whatever it
comes to. -/
def lastWord? (name : Text) (events : List Event) : Option Text :=
  (((events.filterMap Event.switched?).filter fun o => o.1 = name).getLast?).map (·.2)

namespace Session

open Act

/-! ## Settings in effect -/

/-- What the session goes by. -/
abbrev configuration (s : Session) : Configuration := s.toEngine.configuration

theorem keeps_configuration_of_engine {α : Type} {m : Act Session α} (h : m.Keeps Session.toEngine) :
    m.Keeps configuration := h.of_view Engine.configuration

/-- Looking for tools, running them, notices and queries leave alone what the session goes by. -/
theorem steadfast_configuration : Steadfast configuration where
  findTool _ := fun _ =>
    congrArg (Configuration.mk _ _ _ _ _) (Client.view_find (fun _ _ => rfl) _ _ _)
  exec _ := keeps_configuration_of_engine (keeps_exec _)
  tell _ := keeps_configuration_of_engine (keeps_tell _)
  forget _ := .modify fun _ => rfl
  keepGroups _ := .modify fun _ => rfl
  keepVendoring _ := .modify fun _ => rfl
  query _ := keeps_configuration_of_engine (keeps_exec _)
  display _ _ := keeps_configuration_of_engine (keeps_outside _)

theorem keeps_configuration_suggest (r : Request) : (suggest r).Keeps configuration :=
  steadfast_configuration.keeps_suggest
    (keeps_learnPanic_of (.modify fun _ => rfl) (.modify fun _ => rfl)
      (keeps_configuration_of_engine (keeps_tell _)))
    (fun _ => .modify fun _ => rfl) (fun _ _ => keeps_configuration_of_engine (keeps_outside _)) r

theorem keeps_configuration_settle : settle.Keeps configuration :=
  keeps_settle_of steadfast_configuration.updateDaemon (fun _ => steadfast_configuration.tell)
    (fun _ => .modify fun _ => rfl) fun _ _ _ => keeps_configuration_of_engine (keeps_outside _)

/-- Behind settings that are put into effect, even if telling the daemon of them fails, the session goes by
them alone. -/
theorem configuration_configure (settings : Settings) (s : Session) :
    configuration ((configure settings >>= fun _ => pushSettings) s).2 = .ofSettings settings :=
  steadfast_configuration.pushSettings (configure settings s).2

/-! ## What the daemon is told -/

/-- The options of the daemon that have been set, with the words that they were set to, in turn. -/
abbrev switched (s : Session) : List (Text × Text) := noted Event.switched? s

/-- Notices set no options, and neither does a tool being stopped. -/
theorem overlooks_switched? : Overlooks Event.switched? := ⟨fun _ => rfl, rfl, rfl⟩

/-- A run that sets an option is on record with it. -/
theorem switched_exec (i : Invocation) (s : Session) :
    switched (exec i s).2 = switched s ++ i.switched?.toList := by
  obtain ⟨fed, hnoted⟩ := overlooks_switched?.exists_noted_exec i s
  exact hnoted

/-- Whatever is left to be settled, that sets no options. -/
theorem keeps_switched_settle : settle.Keeps switched :=
  keeps_settle_of
    (keeps_updateDaemon_of (fun _ _ => rfl) (fun _ => overlooks_switched?.keeps_exec fun _ => rfl)
      (fun _ => overlooks_switched?.keeps_exec fun _ => rfl) fun _ => rfl)
    (fun _ _ => overlooks_switched?.keeps_tell _) (fun _ => .modify fun _ => rfl)
    fun _ _ _ => keeps_noted_ask rfl

/-! ## Setting the options -/

/-- The daemon is found when it is looked for. -/
def Finds (s : Session) : Prop := ∃ path, (findTool daemonName s).1 = .ok (some path)

/-- A daemon that is known is found. -/
theorem Finds.of_known {s : Session} {path : Text} (h : s.client.known? daemonName = some path) :
    s.Finds :=
  ⟨path, congrArg Prod.fst (Client.find_of_known h s.host.files)⟩

/-- Behind looking for the daemon it is known. -/
theorem Finds.exists_findTool {s : Session} (h : s.Finds) :
    ∃ path t, findTool daemonName s = (.ok (some path), t) ∧ t.client.known? daemonName = some path := by
  obtain ⟨path, hpath⟩ := h
  exact ⟨path, (findTool daemonName s).2, Prod.ext hpath rfl, Client.known?_find hpath⟩

/-- Setting an option of a daemon that is found, if it comes to an end, is on record, and the daemon is found
again. -/
theorem Finds.pushOption {s t : Session} (h : s.Finds) {name : Text} {on b : Bool}
    (hpush : pushOption name on s = (.ok b, t)) :
    b = true ∧ t.Finds ∧ switched t = switched s ++ [(name, switchWord on)] := by
  obtain ⟨path, u, hfind, hknown⟩ := h.exists_findTool
  have hu : switched u = switched s := congrArg (fun r => switched r.2) hfind.symm
  let i : Invocation := { command := path, args := ["set".toList, name, switchWord on] }
  have hset : setOption name on s = (exec i >>= fun r => pure (some r)) u := bind_apply_ok hfind _
  obtain ⟨found, v, hfound, hrest⟩ := bind_apply_eq_ok.mp hpush
  rw [hset] at hfound
  obtain ⟨r, _, hexec, hr⟩ := bind_apply_eq_ok.mp hfound
  cases hr
  obtain ⟨_, _, htell, ht⟩ := bind_apply_eq_ok.mp hrest
  cases ht
  have hengine : t.toEngine = u.toEngine :=
    ((keeps_tellErrors_of r fun _ => keeps_tell _).of_eq htell).trans ((keeps_exec i).of_eq hexec)
  have hswitched : switched t = switched v :=
    (keeps_tellErrors_of r fun _ => overlooks_switched?.keeps_tell _).of_eq htell
  have hrun := switched_exec i u
  rw [hexec] at hrun
  refine ⟨rfl, .of_known ((congrArg (·.client.known? daemonName) hengine).trans hknown), ?_⟩
  calc switched t
    _ = switched v := hswitched
    _ = switched u ++ [(name, switchWord on)] := hrun
    _ = switched s ++ [(name, switchWord on)] := by rw [hu]

/-- **Setting the options of a daemon that is found**, if it comes to an end, is to set both to what the
provider has. -/
theorem switched_pushSettings {s t : Session} (h : s.Finds) (hpush : pushSettings s = (.ok (), t)) :
    switched t = switched s ++ s.configuration.switches := by
  obtain ⟨_, u, hget, hpush⟩ := bind_apply_eq_ok.mp hpush
  cases hget
  obtain ⟨b, u, hfirst, hpush⟩ := bind_apply_eq_ok.mp hpush
  obtain ⟨rfl, hu, hswitched⟩ := h.pushOption hfirst
  obtain ⟨c, v, hsecond, hv⟩ := bind_apply_eq_ok.mp hpush
  cases hv
  obtain ⟨-, -, hswitched'⟩ := hu.pushOption hsecond
  rw [hswitched', hswitched, List.append_assoc]
  rfl

end Session

end GoCompletion
