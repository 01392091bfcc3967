import GoCompletion.Proofs.Provider.BlockLists
import GoCompletion.Proofs.Server.Run
import GoCompletion.Proofs.Session.Configuration

/-!
# The server and its parts agree

The settings are known to the server, to the provider, which copies what it goes by and makes of them where
nothing is completed, to the finder and runner of tools, which takes the time limit of runs from them, and to the
daemon. **Behind any messages all of these agree** (`Server.run_agrees`): a message either brings settings, and
then everybody has them, or changes nothing (`Server.standing_run_of_brings`, `Server.run_of_brings_error`).

A message is handled to its end, or until it breaks off, before the next one is: messages whose handling
overlaps are not spoken of.
-/

namespace GoCompletion

open Act

/-! ## What parts go by -/

/-- The parts that work together go by settings. -/
structure Engine.GoesBy (e : Engine) (s : Settings) : Prop where
  /-- the provider has them -/
  settings : e.provider.settings = s
  /-- it has their word on builtin functions and types -/
  proposeBuiltins : e.provider.proposeBuiltins = s.proposeBuiltins
  /-- it has their word on packages that are not imported yet -/
  unimportedPackages : e.provider.unimportedPackages = s.unimportedPackages
  /-- it suppresses the characters that they mean -/
  characters : e.provider.suppression.characters = s.suppressed.filterMap Suppression.meant?
  /-- it disables the scopes that they list, but for those of quoted texts -/
  selectors : e.provider.suppression.selectors =
    ((Text.pieces [','] s.scopeBlacklist).map Text.strip).filter fun selector =>
      selector ≠ [] ∧ ¬ ".string.quoted".toList <:+: selector
  /-- it suppresses in quoted texts if they list one of those -/
  inQuotes : e.provider.suppression.inQuotes = true ↔
    ∃ piece ∈ Text.pieces [','] s.scopeBlacklist, ".string.quoted".toList <:+: piece.strip
  /-- it has their snippet mode -/
  snippetMode : e.provider.snippetMode = s.snippetMode
  /-- answers of the daemon are made suggestions of in that mode -/
  mode (host : Host) (found : List Datum) (t : Text) (index : Int) :
    (Session.suggestionsOf found t index { e with host }).1 =
      .ok (Suggestion.ofAnswer s.snippetMode found t index)
  /-- a run takes no longer than they say -/
  limit : e.client.limit = s.timeout

/-- Parts that go by nothing else than settings do so in every respect. -/
theorem Engine.GoesBy.of_configuration {e : Engine} {s : Settings}
    (h : e.configuration = .ofSettings s) : e.GoesBy s := by
  have hsettings : e.provider.settings = s := congrArg Configuration.settings h
  have hsuppression : e.provider.suppression = .ofSettings s := congrArg Configuration.suppression h
  have hmode : e.provider.snippetMode = s.snippetMode := congrArg Configuration.snippetMode h
  refine ⟨hsettings, congrArg Configuration.proposeBuiltins h, congrArg Configuration.unimportedPackages h, ?_, ?_, ?_,
    hmode, fun host found t index => ?_, congrArg Configuration.limit h⟩
  · rw [hsuppression, Suppression.characters_ofSettings]
  · rw [hsuppression, Suppression.selectors_ofSettings]
  · rw [hsuppression, Suppression.inQuotes_ofSettings_iff]
  · rw [Session.fst_suggestionsOf, ← hmode]

namespace Server

/-! ## Where the server stands -/

/-- The settings of a server, and what its parts go by. -/
def standing (s : Server) : Settings × Option Configuration :=
  (s.settings, s.engine.map Engine.configuration)

theorem standing_putBack {s : Server} {e : Engine} {t : Session} (he : s.engine = some e)
    (ht : t.configuration = (s.session e).configuration) : (s.putBack t).standing = s.standing := by
  rw [standing, standing, he]
  exact congrArg (fun c => (s.settings, some c)) ht

theorem keeps_standing_onSession {a : Act Session Unit} (h : a.Keeps Session.configuration) :
    (onSession a).Keeps standing := keeps_onSession h fun _ _ _ => standing_putBack

theorem keeps_standing_settle : (onSession Session.settle).Keeps standing :=
  keeps_standing_onSession Session.keeps_configuration_settle

theorem keeps_configuration_greetDaemon : greetDaemon.Keeps Session.configuration :=
  Session.keeps_bind_findTool (Session.steadfast_configuration.findTool _)
    (Session.steadfast_configuration.tell nofun) fun _ =>
    .bind (Session.steadfast_configuration.tell nofun) fun _ => Session.steadfast_configuration.pushSettings

theorem keeps_standing_complete (p : CompletionParams) (position : Position) :
    (complete p position).Keeps standing :=
  keeps_complete Session.keeps_configuration_suggest
    (fun _ => Session.keeps_configuration_of_engine (Session.keeps_outside _))
    (fun _ _ _ => standing_putBack) p position

/-! ## Messages that bring settings -/

section Bringing

variable {s : Server}

/-- Setting up with settings that can be loaded. -/
theorem setUp_of_ok {rootUri : Text} {options : Datum} {settings : Settings}
    (h : ((rootOf rootUri).bind fun root => Settings.load s.host.files root options) = .ok settings) :
    setUp rootUri options s =
      (onSession greetDaemon >>= fun _ => .modify fun s => { s with listening := true })
        (s.startEngine settings) := by
  cases hroot : rootOf rootUri with
  | error e =>
    rw [hroot] at h
    cases h
  | ok root =>
    rw [hroot] at h
    change Settings.load s.host.files root options = .ok settings at h
    have hsettings : ofExcept (Settings.load s.host.files root options) s = (.ok settings, s) :=
      congrArg (·, s) h
    unfold setUp
    rw [hroot, bind_apply_ok (ofExcept_apply _ _), bind_apply_ok (get_apply _), bind_apply_ok hsettings]
    rfl

/-- Setting up with settings that cannot be loaded does nothing. -/
theorem setUp_of_error {rootUri : Text} {options : Datum} {e : Fault}
    (h : ((rootOf rootUri).bind fun root => Settings.load s.host.files root options) = .error e) :
    setUp rootUri options s = (.error e, s) := by
  unfold setUp
  cases hroot : rootOf rootUri with
  | error e' =>
    rw [hroot] at h
    cases h
    exact bind_apply_error (ofExcept_apply _ _) _
  | ok root =>
    rw [hroot] at h
    change Settings.load s.host.files root options = .error e at h
    have hsettings : ofExcept (Settings.load s.host.files root options) s = (.error e, s) :=
      congrArg (·, s) h
    rw [bind_apply_ok (ofExcept_apply _ _), bind_apply_ok (get_apply _), bind_apply_error hsettings]

theorem reconfigure_of_ok {layer : Datum} {settings : Settings}
    (h : s.settings.overlay layer = .ok settings) :
    reconfigure layer s =
      onSession (Session.configure settings >>= fun _ => Session.pushSettings) { s with settings } := by
  have hsettings : ofExcept (s.settings.overlay layer) s = (.ok settings, s) := congrArg (·, s) h
  unfold reconfigure
  rw [bind_apply_ok (get_apply _), bind_apply_ok hsettings]
  rfl

theorem reconfigure_of_error {layer : Datum} {e : Fault} (h : s.settings.overlay layer = .error e) :
    reconfigure layer s = (.error e, s) := by
  have hsettings : ofExcept (s.settings.overlay layer) s = (.error e, s) := congrArg (·, s) h
  unfold reconfigure
  rw [bind_apply_ok (get_apply _), bind_apply_error hsettings]

end Bringing

end Server

/-- The settings that a message brings to a server, or why it cannot bring them; a completion brings none. -/
def Message.brings? (s : Server) : Message → Option (Except Fault Settings)
  | setUp rootUri options =>
    some ((Server.rootOf rootUri).bind fun root => Settings.load s.host.files root options)
  | reconfigure layer => some (s.settings.overlay layer)
  | complete .. => none

/-- Where a server stands behind a message that brings settings. Setting up makes new parts. -/
def Message.standingWith (s : Server) (settings : Settings) : Message → Settings × Option Configuration
  | setUp .. => (settings, some (.ofSettings settings))
  | reconfigure _ => (settings, s.engine.map fun _ => .ofSettings settings)
  | complete .. => s.standing

namespace Server

theorem standing_setUp_of_ok {s : Server} {rootUri : Text} {options : Datum} {settings : Settings}
    (h : ((rootOf rootUri).bind fun root => Settings.load s.host.files root options) = .ok settings) :
    (setUp rootUri options s).2.standing = (settings, some (.ofSettings settings)) := by
  have hlisten : ∀ _ : Unit, (Act.modify fun s : Server => { s with listening := true }).Keeps standing :=
    fun _ => .modify fun _ => rfl
  rw [setUp_of_ok h, Keeps.view_bind hlisten, keeps_standing_onSession keeps_configuration_greetDaemon]
  rfl

theorem standing_configure (s : Server) (settings : Settings) :
    (onSession (Session.configure settings >>= fun _ => Session.pushSettings) s).2.standing =
      (s.settings, s.engine.map fun _ => .ofSettings settings) := by
  cases he : s.engine with
  | none =>
    rw [onSession_of_none he, standing, he]
    rfl
  | some e =>
    rw [onSession_of_some he]
    exact congrArg (fun c => (s.settings, some c)) (Session.configuration_configure settings _)

theorem standing_reconfigure_of_ok {s : Server} {layer : Datum} {settings : Settings}
    (h : s.settings.overlay layer = .ok settings) :
    (reconfigure layer s).2.standing = (settings, s.engine.map fun _ => .ofSettings settings) := by
  rw [reconfigure_of_ok h, standing_configure]

/-- What is settled behind a message does not matter to where the server stands. -/
theorem standing_run (s : Server) (x : Arrival) :
    (x.run s).standing = (x.message.act (x.enter s)).2.standing := by
  rw [Arrival.run, snd_settled, keeps_standing_settle]

/-- **A message that brings settings** gives them to everybody. -/
theorem standing_run_of_brings {s : Server} {x : Arrival} {settings : Settings}
    (h : x.message.brings? (x.enter s) = some (.ok settings)) :
    (x.run s).standing = x.message.standingWith s settings := by
  rw [standing_run]
  cases hm : x.message with
  | setUp rootUri options =>
    rw [hm] at h
    exact standing_setUp_of_ok (Option.some.inj h)
  | reconfigure layer =>
    rw [hm] at h
    exact standing_reconfigure_of_ok (Option.some.inj h)
  | complete p position =>
    rw [hm] at h
    cases h

/-- **Messages that cannot bring settings** break off and change nothing. -/
theorem run_of_brings_error {s : Server} {x : Arrival} {e : Fault}
    (h : x.message.brings? (x.enter s) = some (.error e)) :
    x.outcome s = .error e ∧ (x.run s).standing = s.standing := by
  have hact : x.message.act (x.enter s) = (.error e, x.enter s) := by
    cases hm : x.message with
    | setUp rootUri options =>
      rw [hm] at h
      exact setUp_of_error (Option.some.inj h)
    | reconfigure layer =>
      rw [hm] at h
      exact reconfigure_of_error (Option.some.inj h)
    | complete p position =>
      rw [hm] at h
      cases h
  rw [Arrival.outcome, fst_settled, standing_run, hact]
  exact ⟨rfl, rfl⟩

/-- A completion changes nothing. -/
theorem standing_run_of_brings_none {s : Server} {x : Arrival}
    (h : x.message.brings? (x.enter s) = none) : (x.run s).standing = s.standing := by
  rw [standing_run]
  cases hm : x.message with
  | setUp rootUri options =>
    rw [hm] at h
    cases h
  | reconfigure layer =>
    rw [hm] at h
    cases h
  | complete p position => exact (keeps_standing_complete p position).forget _

/-! ## Agreement -/

/-- All parts go by the settings of the server. -/
def Agrees (s : Server) : Prop := ∀ e, s.engine = some e → e.configuration = .ofSettings s.settings

/-- It is enough where the server stands. -/
theorem agrees_iff {s : Server} :
    s.Agrees ↔ ∀ c, s.standing.2 = some c → c = .ofSettings s.standing.1 := by
  unfold Agrees standing
  cases s.engine <;> simp

/-- **One message** leaves all parts in agreement. -/
theorem Agrees.run {s : Server} (h : s.Agrees) (x : Arrival) : (x.run s).Agrees := by
  rw [agrees_iff] at h ⊢
  rcases hbrings : x.message.brings? (x.enter s) with _ | e | settings
  · rw [standing_run_of_brings_none hbrings]
    exact h
  · rw [(run_of_brings_error hbrings).2]
    exact h
  · intro c hc
    rw [standing_run_of_brings hbrings] at hc ⊢
    cases hm : x.message with
    | setUp rootUri options =>
      rw [hm] at hc
      exact (Option.some.inj hc).symm
    | reconfigure layer =>
      rw [hm] at hc
      obtain ⟨e, -, rfl⟩ := Option.map_eq_some_iff.mp hc
      rfl
    | complete p position =>
      rw [hm] at hbrings
      cases hbrings

/-- **Any messages** leave all parts in agreement. -/
theorem Agrees.run_list {s : Server} (h : s.Agrees) (xs : List Arrival) : (s.run xs).Agrees := by
  induction xs generalizing s with
  | nil => exact h
  | cons x xs ih => exact ih (h.run x)

/-! ## What the daemon is told -/

/-- The options of the daemon that have been set, with the words that they were set to, in turn. -/
def switched (s : Server) : List (Text × Text) := s.host.trace.filterMap Event.switched?

theorem keeps_switched_settle : (onSession Session.settle).Keeps switched :=
  keeps_onSession Session.keeps_switched_settle fun _ _ _ _ ht => ht

/-- An act on the session that comes to an end is on record with the options that it sets. -/
theorem switched_onSession {a : Act Session Unit} {s : Server} {e : Engine} {set : List (Text × Text)}
    (he : s.engine = some e) (hdone : (onSession a s).1 = .ok ())
    (h : ∀ t, a (s.session e) = (.ok (), t) → t.switched = (s.session e).switched ++ set) :
    (onSession a s).2.switched = s.switched ++ set := by
  rw [onSession_of_some he] at hdone ⊢
  exact h _ (Prod.ext hdone rfl)

/-- Greeting a daemon that is found, if it comes to an end, is to set its options. -/
theorem switched_greetDaemon {s t : Session} (h : s.Finds) (hgreet : greetDaemon s = (.ok (), t)) :
    t.switched = s.switched ++ s.configuration.switches := by
  obtain ⟨path, u, hfind, hknown⟩ := h.exists_findTool
  have hengine := Session.keeps_tell (.daemonFound path) u
  have hgreeting : greetDaemon s = (Session.tell (.daemonFound path) >>= fun _ => Session.pushSettings) u :=
    bind_apply_ok hfind _
  have hpush : Session.pushSettings (Session.tell (.daemonFound path) u).2 = (.ok (), t) := by
    rw [← (Session.answers_tell (.daemonFound path)).then_apply Session.pushSettings u, ← hgreeting, hgreet]
  have hfinds : (Session.tell (.daemonFound path) u).2.Finds :=
    .of_known ((congrArg (·.client.known? daemonName) hengine).trans hknown)
  have hconfiguration : (Session.tell (.daemonFound path) u).2.configuration = s.configuration :=
    (congrArg Engine.configuration hengine).trans
      ((Session.steadfast_configuration.findTool daemonName).of_eq hfind)
  have hbefore : (Session.tell (.daemonFound path) u).2.switched = s.switched :=
    (Session.overlooks_switched?.keeps_tell _ u).trans (congrArg (fun r => r.2.switched) hfind.symm)
  rw [Session.switched_pushSettings hfinds hpush, hbefore, hconfiguration]

end Server

/-- The finder of tools that looks for the daemon when a message is handled, if the daemon is told anything:
setting up makes a new one, and changed settings go to the one that there is. -/
def Message.client? (s : Server) : Message → Option Client
  | setUp .. => some { home := s.home, environment := s.environment }
  | reconfigure _ => s.engine.map (·.client)
  | complete .. => none

namespace Server

/-- How long runs may take does not matter to where tools are found. -/
theorem fst_find_limit (c : Client) (limit : Binary64) (files : FileTree) (name : Text) :
    ({ c with limit }.find files name).1 = (c.find files name).1 := by
  rw [Client.fst_find, Client.fst_find]
  rfl

theorem switched_setUp {s : Server} {rootUri : Text} {options : Datum} {settings : Settings} {path : Text}
    (hload : ((rootOf rootUri).bind fun root => Settings.load s.host.files root options) = .ok settings)
    (hfinds : (({ home := s.home, environment := s.environment } : Client).find s.host.files daemonName).1 =
      .ok (some path))
    (hdone : (setUp rootUri options s).1 = .ok ()) :
    (setUp rootUri options s).2.switched = s.switched ++ (Configuration.ofSettings settings).switches := by
  have hlisten : ∀ _ : Unit, (Act.modify fun s : Server => { s with listening := true }).Keeps switched :=
    fun _ => .modify fun _ => rfl
  rw [setUp_of_ok hload] at hdone ⊢
  obtain ⟨_, u, hgreet, -⟩ := bind_apply_eq_ok.mp (Prod.ext hdone rfl)
  rw [Keeps.view_bind hlisten]
  refine switched_onSession (s := s.startEngine settings) rfl (congrArg Prod.fst hgreet) fun t ht => ?_
  exact switched_greetDaemon ⟨path, (fst_find_limit _ _ _ _).trans hfinds⟩ ht

theorem switched_reconfigure {s : Server} {e : Engine} {layer : Datum} {settings : Settings} {path : Text}
    (he : s.engine = some e) (hoverlay : s.settings.overlay layer = .ok settings)
    (hfinds : (e.client.find s.host.files daemonName).1 = .ok (some path))
    (hdone : (reconfigure layer s).1 = .ok ()) :
    (reconfigure layer s).2.switched = s.switched ++ (Configuration.ofSettings settings).switches := by
  rw [reconfigure_of_ok hoverlay] at hdone ⊢
  refine switched_onSession (s := { s with settings }) he hdone fun t ht => ?_
  refine Session.switched_pushSettings (s := (Session.configure settings (s.session e)).2) ?_ ht
  exact ⟨path, (fst_find_limit _ _ _ _).trans hfinds⟩

/-- **A message that is handled to its end** tells the daemon of the settings, if that is found. What has been
found is not looked for again, so the first lookup decides. -/
theorem switched_run {s : Server} {x : Arrival} {c : Client} {path : Text}
    (hclient : x.message.client? s = some c) (hfinds : (c.find x.files daemonName).1 = .ok (some path))
    (hdone : x.outcome s = .ok ()) :
    (x.run s).switched = s.switched ++ (Configuration.ofSettings (x.run s).settings).switches := by
  rcases hbrings : x.message.brings? (x.enter s) with _ | e | settings
  · cases hm : x.message <;> rw [hm] at hbrings hclient
    · cases hbrings
    · cases hbrings
    · cases hclient
  · cases hdone.symm.trans (run_of_brings_error hbrings).1
  · have hsettings : (x.run s).settings = settings := by
      have hstanding := congrArg Prod.fst (standing_run_of_brings hbrings)
      cases hm : x.message <;> rw [hm] at hstanding hbrings
      · exact hstanding
      · exact hstanding
      · cases hbrings
    rw [Arrival.outcome, fst_settled] at hdone
    rw [hsettings, Arrival.run, snd_settled, keeps_switched_settle]
    cases hm : x.message with
    | setUp rootUri options =>
      rw [hm] at hbrings hclient hdone
      cases hclient
      exact switched_setUp (Option.some.inj hbrings) hfinds hdone
    | reconfigure layer =>
      rw [hm] at hbrings hclient hdone
      obtain ⟨e, he, rfl⟩ := Option.map_eq_some_iff.mp hclient
      exact switched_reconfigure he (Option.some.inj hbrings) hfinds hdone
    | complete p position =>
      rw [hm] at hclient
      cases hclient

/-- Behind what settings say, an option was set to what they say last. -/
theorem lastWord?_eq {events : List Event} {set : List (Text × Text)} {settings : Settings}
    (h : events.filterMap Event.switched? = set ++ (Configuration.ofSettings settings).switches) :
    lastWord? "unimported-packages".toList events =
        some (if settings.unimportedPackages then "true".toList else "false".toList) ∧
      lastWord? "propose-builtins".toList events =
        some (if settings.proposeBuiltins then "true".toList else "false".toList) := by
  have hunimported : ((Configuration.ofSettings settings).switches.filter fun o => o.1 = "unimported-packages".toList) =
      [("unimported-packages".toList, if settings.unimportedPackages then "true".toList else "false".toList)] := rfl
  have hbuiltins : ((Configuration.ofSettings settings).switches.filter fun o => o.1 = "propose-builtins".toList) =
      [("propose-builtins".toList, if settings.proposeBuiltins then "true".toList else "false".toList)] := rfl
  unfold lastWord?
  rw [h, List.filter_append, hunimported, List.filter_append, hbuiltins]
  simp

/-- **The server and its parts agree.** Behind any messages, whatever becomes of them,

* all parts go by the settings of the server, if they have been set up;
* another message that cannot bring the settings it is about breaks off and changes nothing;
* another message that sets everything up or changes settings, and is handled to its end, leaves the daemon,
  if it is found, with both options set last to what the settings say. -/
theorem run_agrees (home : Text) (environment : List (Text × Text)) (host : Host) (xs : List Arrival) :
    let s := (fresh home environment host).run xs
    (∀ e, s.engine = some e → e.GoesBy s.settings) ∧
      (∀ (x : Arrival) (e : Fault), x.message.brings? (x.enter s) = some (.error e) →
        x.outcome s = .error e ∧ (x.run s).settings = s.settings ∧
          (x.run s).engine.map Engine.configuration = s.engine.map Engine.configuration) ∧
      ∀ (x : Arrival) (c : Client) (path : Text), x.message.client? s = some c →
        (c.find x.files daemonName).1 = .ok (some path) → x.outcome s = .ok () →
          lastWord? "unimported-packages".toList (x.run s).host.trace =
              some (if (x.run s).settings.unimportedPackages then "true".toList else "false".toList) ∧
            lastWord? "propose-builtins".toList (x.run s).host.trace =
              some (if (x.run s).settings.proposeBuiltins then "true".toList else "false".toList) := by
  intro s
  have hfresh : (fresh home environment host).Agrees := fun e he => nomatch he
  have hagrees : s.Agrees := hfresh.run_list xs
  clear_value s
  refine ⟨fun e he => .of_configuration (hagrees e he), fun x e hbrings => ?_,
    fun x c path hclient hfinds hdone => ?_⟩
  · obtain ⟨houtcome, hstanding⟩ := run_of_brings_error hbrings
    exact ⟨houtcome, congrArg Prod.fst hstanding, congrArg Prod.snd hstanding⟩
  · exact lastWord?_eq (switched_run hclient hfinds hdone)

/-- A session of an editor: a workspace is set up, its settings are changed, and another one cannot be set up.
Behind the change everybody has the new values, and the daemon is told one word of each kind. -/
theorem run_agrees_changed :
    let files := ({} : FileTree).insert "/home/user/go/bin/gocode".toList (.file true [])
    let first : Arrival := { message := .setUp [] .null, files }
    let s := (fresh "/home/user".toList [] {}).run [first]
    let x : Arrival :=
      { message := .reconfigure (.map [
          (.text "proposeBuiltins".toList, .bool false),
          (.text "scopeBlacklist".toList, .text " .comment, .go .string.quoted,".toList),
          (.text "suppressActivationForCharacters".toList,
            .list [.text "Comma".toList, .text " ".toList, .text " x".toList]),
          (.text "snippetMode".toList, .text "none".toList),
          (.text "gocodeTimeout".toList, .int 5)])
        files }
    let y : Arrival :=
      { message := .setUp "file:///work".toList .null
        files := files.insert "/work/.gocodels.yml".toList (.file false [0xff]) }
    (∃ c path, x.message.client? s = some c ∧ (c.find x.files daemonName).1 = .ok (some path)) ∧
      x.outcome s = .ok () ∧
        (∃ e, (x.run s).engine = some e ∧
          (e.provider.proposeBuiltins = false ∧ e.provider.unimportedPackages = true) ∧
          e.provider.suppression.characters = [[','], ['x']] ∧
          (e.provider.suppression.selectors = [".comment".toList] ∧ e.provider.suppression.inQuotes = true) ∧
          e.provider.snippetMode = .none ∧ e.client.limit = .ofInt 5) ∧
        lastWord? "unimported-packages".toList (x.run s).host.trace = some "true".toList ∧
          lastWord? "propose-builtins".toList (x.run s).host.trace = some "false".toList ∧
            ∃ e, y.message.brings? (y.enter s) = some (.error e) ∧ (y.run s).settings = s.settings := by
  intro files first s x y
  obtain ⟨-, hbroken, htold⟩ := run_agrees "/home/user".toList [] {} [first]
  obtain ⟨hby, -⟩ := run_agrees "/home/user".toList [] {} [first, x]
  have hfinds : (x.message.client? s).map (fun c => (c.find x.files daemonName).1) =
      some (.ok (some "/home/user/go/bin/gocode".toList)) := by decide +kernel
  obtain ⟨c, hclient, hpath⟩ := Option.map_eq_some_iff.mp hfinds
  have hdone : x.outcome s = .ok () := by decide +kernel
  have hsettings : (x.run s).settings =
      { proposeBuiltins := false
        scopeBlacklist := " .comment, .go .string.quoted,".toList
        suppressed := ["Comma".toList, " ".toList, " x".toList]
        snippetMode := .none
        timeout := .ofInt 5 } := by decide +kernel
  have hengine : (x.run s).engine.isSome = true := by decide +kernel
  obtain ⟨e, he⟩ := Option.isSome_iff_exists.mp hengine
  have hgoes : e.GoesBy (x.run s).settings := hby e he
  have hwords := htold x c _ hclient hpath hdone
  rw [hsettings] at hgoes hwords
  let flaw : Utf8.Flaw := { kind := .badStart, first := 0xff, position := 0, length := 1 }
  have hbrings : y.message.brings? (y.enter s) = some (.error (.badEncoding flaw)) := by decide +kernel
  refine ⟨⟨c, _, hclient, hpath⟩, hdone, ⟨e, he, ⟨hgoes.proposeBuiltins, hgoes.unimportedPackages⟩, ?_, ⟨?_, ?_⟩,
    hgoes.snippetMode, hgoes.limit⟩, hwords.1, hwords.2, _, hbrings, (hbroken y _ hbrings).2.1⟩
  · exact hgoes.characters.trans (by decide +kernel)
  · exact hgoes.selectors.trans (by decide +kernel)
  · exact hgoes.inQuotes.mpr (by decide +kernel)

end Server

end GoCompletion
