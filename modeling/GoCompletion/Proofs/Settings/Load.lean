import GoCompletion.Proofs.Settings.Layers
import GoCompletion.Proofs.Yaml.Value
import GoCompletion.Settings.Load

/-!
# The settings file of a workspace

What becomes of the settings of a session is decided by what there is under the path of the settings file.
It **says nothing** if it is missing, is no YAML or holds no mapping (`Settings.Silent`), it **says a layer**
(`Settings.Says`), or it **spoils the session** (`Settings.Spoils`): its name is too long, its bytes are no
UTF-8, a scalar in it does not spell a value of its kind, or its layer cannot be put over settings.

So a file does not spoil a session by being no YAML, but it does by being no text. What it can spoil one by is
told apart by the fault (`Settings.Spoils.cases`).
-/

namespace GoCompletion

namespace Settings

variable {files : FileTree} {path : Text}

/-! ## What there is under a path -/

/-- There is a file of these bytes under the path. -/
def Holds (files : FileTree) (path : Text) (bytes : List UInt8) : Prop :=
  ∃ executable, files.lookup path = .ok (.file executable bytes)

/-- The path of a settings file says nothing. -/
inductive Silent (files : FileTree) (path : Text) : Prop
  /-- there is no file under it -/
  | noFile (hname : files.lookup path ≠ .error .longName) (hfile : ∀ bytes, ¬ Holds files path bytes)
  /-- the file is no YAML -/
  | noYaml (bytes : List UInt8) (t : Text) (hfile : Holds files path bytes)
      (htext : FileTree.textOf bytes = .ok t) (hyaml : Yaml.documentOf t = .error .refused)
  /-- the document in the file is no mapping -/
  | noMapping (bytes : List UInt8) (t : Text) (d : Option Yaml.Document) (hfile : Holds files path bytes)
      (htext : FileTree.textOf bytes = .ok t) (hyaml : Yaml.documentOf t = .ok d)
      (hmap : ∀ doc ∈ d, doc.entries? doc.root = none)

/-- The file under a path says a layer. -/
inductive Says (files : FileTree) (path : Text) (layer : Layer) : Prop
  | mapping (bytes : List UInt8) (t : Text) (doc : Yaml.Document) (hfile : Holds files path bytes)
      (htext : FileTree.textOf bytes = .ok t) (hyaml : Yaml.documentOf t = .ok (some doc))
      (hlayer : layerOfDocument doc = some layer)

/-- What there is under the path of a settings file leaves a session without settings. -/
inductive Spoils (files : FileTree) (path : Text) : Fault → Prop
  /-- the path is too long to be looked at -/
  | name (hname : files.lookup path = .error .longName) : Spoils files path (.unopened .longName path)
  /-- the file is not UTF-8 -/
  | encoding (bytes : List UInt8) (flaw : Utf8.Flaw) (hfile : Holds files path bytes)
      (hflaw : Utf8.decode bytes = .error flaw) : Spoils files path (.badEncoding flaw)
  /-- something in the file spells no value -/
  | value (bytes : List UInt8) (t : Text) (e : Fault) (hfile : Holds files path bytes)
      (htext : FileTree.textOf bytes = .ok t) (hyaml : Yaml.documentOf t = .error (.fault e)) :
      Spoils files path e
  /-- an integer in its list of characters has too many digits -/
  | overlong (layer : Layer) (hsaid : Says files path layer) (hlist : ListsOverlongIn layer) :
      Spoils files path Datum.overlong
  /-- its number of seconds is too large -/
  | seconds (layer : Layer) (hsaid : Says files path layer) (hlist : ¬ ListsOverlongIn layer)
      (htime : SaysTooLargeIn layer) : Spoils files path .numberTooLarge

/-! ## Reading the file -/

theorem ofFile_of_longName (h : files.lookup path = .error .longName) :
    ofFile files path = .error (.unopened .longName path) := by
  rw [ofFile, FileTree.isFile, h]
  rfl

theorem ofFile_of_noFile (hname : files.lookup path ≠ .error .longName)
    (hfile : ∀ bytes, ¬ Holds files path bytes) : ofFile files path = .ok none := by
  have hthere : files.isFile path = .ok false := by
    unfold FileTree.isFile
    split
    · next x bytes hlookup => exact absurd ⟨x, hlookup⟩ (hfile bytes)
    · next hlookup => exact absurd hlookup hname
    · rfl
  rw [ofFile, hthere]
  rfl

theorem ofFile_of_holds {bytes : List UInt8} (h : Holds files path bytes) :
    ofFile files path = (FileTree.textOf bytes).bind layerOfText := by
  obtain ⟨x, h⟩ := h
  rw [ofFile, FileTree.isFile, FileTree.text, FileTree.bytes, h]
  rfl

theorem ofFile_of_silent (h : Silent files path) : ofFile files path = .ok none := by
  cases h with
  | noFile hname hfile => exact ofFile_of_noFile hname hfile
  | noYaml bytes t hfile htext hyaml =>
    rw [ofFile_of_holds hfile, htext]
    change layerOfText t = _
    rw [layerOfText, hyaml]
    rfl
  | noMapping bytes t d hfile htext hyaml hmap =>
    rw [ofFile_of_holds hfile, htext]
    change layerOfText t = _
    rw [layerOfText, hyaml]
    cases d with
    | none => rfl
    | some doc =>
      have hnone : layerOfDocument doc = none := by rw [layerOfDocument, hmap doc rfl, Option.map_none]
      exact congrArg Except.ok hnone

theorem ofFile_of_layer {layer : Layer} (h : Says files path layer) : ofFile files path = .ok (some layer) := by
  obtain ⟨bytes, t, doc, hfile, htext, hyaml, hlayer⟩ := h
  rw [ofFile_of_holds hfile, htext]
  change layerOfText t = _
  rw [layerOfText, hyaml]
  exact congrArg Except.ok hlayer

/-- **What there is under a path** says nothing or a layer, or reading it ends with a fault. -/
theorem ofFile_cases (files : FileTree) (path : Text) :
    (Silent files path ∧ ofFile files path = .ok none) ∨
      (∃ layer, Says files path layer ∧ ofFile files path = .ok (some layer)) ∨
        ∃ e, Spoils files path e ∧ ofFile files path = .error e := by
  by_cases hname : files.lookup path = .error .longName
  · exact .inr (.inr ⟨_, .name hname, ofFile_of_longName hname⟩)
  by_cases hfile : ∃ bytes, Holds files path bytes
  · obtain ⟨bytes, hfile⟩ := hfile
    cases hdecode : Utf8.decode bytes with
    | error flaw =>
      have htext : FileTree.textOf bytes = .error (.badEncoding flaw) := by rw [FileTree.textOf, hdecode]
      refine .inr (.inr ⟨_, .encoding bytes flaw hfile hdecode, ?_⟩)
      rw [ofFile_of_holds hfile, htext]
      rfl
    | ok t =>
      have htext : FileTree.textOf bytes = .ok (FileTree.withNewlines t) := by rw [FileTree.textOf, hdecode]
      rcases hyaml : Yaml.documentOf (FileTree.withNewlines t) with (_ | e) | _ | doc
      · have hsilent : Silent files path := .noYaml bytes _ hfile htext hyaml
        exact .inl ⟨hsilent, ofFile_of_silent hsilent⟩
      · refine .inr (.inr ⟨e, .value bytes _ e hfile htext hyaml, ?_⟩)
        rw [ofFile_of_holds hfile, htext]
        change layerOfText _ = _
        rw [layerOfText, hyaml]
        rfl
      · have hsilent : Silent files path := .noMapping bytes _ none hfile htext hyaml nofun
        exact .inl ⟨hsilent, ofFile_of_silent hsilent⟩
      · rcases hlayer : layerOfDocument doc with _ | layer
        · have hmap : doc.entries? doc.root = none := Option.map_eq_none_iff.mp hlayer
          have hsilent : Silent files path :=
            .noMapping bytes _ (some doc) hfile htext hyaml (by rintro _ ⟨⟩; exact hmap)
          exact .inl ⟨hsilent, ofFile_of_silent hsilent⟩
        · have hsaid : Says files path layer := .mapping bytes _ doc hfile htext hyaml hlayer
          exact .inr (.inl ⟨layer, hsaid, ofFile_of_layer hsaid⟩)
  · have hsilent : Silent files path := .noFile hname (not_exists.mp hfile)
    exact .inl ⟨hsilent, ofFile_of_silent hsilent⟩

theorem says_of_ofFile {layer : Layer} (h : ofFile files path = .ok (some layer)) :
    Says files path layer := by
  obtain ⟨-, hread⟩ | ⟨layer', hsaid, hread⟩ | ⟨e, -, hread⟩ := ofFile_cases files path
  · cases h.symm.trans hread
  · cases h.symm.trans hread
    exact hsaid
  · cases h.symm.trans hread

/-- What spoils a session is met when the file is read, or when its layer is put over the common settings. -/
theorem Spoils.found {e : Fault} (h : Spoils files path e) :
    ofFile files path = .error e ∨
      ∃ layer, Says files path layer ∧ ({} : Settings).withKeys layer = .error e := by
  cases h with
  | name hname => exact .inl (ofFile_of_longName hname)
  | encoding bytes flaw hfile hflaw =>
    rw [ofFile_of_holds hfile, FileTree.textOf, hflaw]
    exact .inl rfl
  | value bytes t e hfile htext hyaml =>
    rw [ofFile_of_holds hfile, htext]
    change layerOfText t = _ ∨ _
    rw [layerOfText, hyaml]
    exact .inl rfl
  | overlong layer hsaid hlist => exact .inr ⟨layer, hsaid, withKeys_of_listsOverlong hlist _⟩
  | seconds layer hsaid hlist htime => exact .inr ⟨layer, hsaid, withKeys_of_saysTooLarge hlist htime _⟩

/-- **The faults of settings files**: only a name that is too long, bytes that are no UTF-8, and what spells no
value can spoil a session. -/
theorem Spoils.cases {e : Fault} (h : Spoils files path e) :
    e = .unopened .longName path ∨
      (∃ bytes flaw, Holds files path bytes ∧ Utf8.decode bytes = .error flaw ∧ e = .badEncoding flaw) ∨
        Yaml.Slip e := by
  cases h with
  | name hname => exact .inl rfl
  | encoding bytes flaw hfile hflaw => exact .inr (.inl ⟨bytes, flaw, hfile, hflaw, rfl⟩)
  | value bytes t e hfile htext hyaml => exact .inr (.inr (Yaml.slip_of_documentOf hyaml))
  | overlong layer hsaid hlist => exact .inr (.inr (.form _))
  | seconds layer hsaid hlist htime => exact .inr (.inr .number)

/-! ## Settings of a session -/

/-- The path of the settings file of a workspace. -/
def filePath (root : Path) : Text := (root.child fileName).toText

section Load

variable {root : Path} {options : Datum}

theorem load_none (files : FileTree) (options : Datum) :
    load files none options = ({} : Settings).overlay options := rfl

theorem load_of_silent (h : Silent files (filePath root)) :
    load files (some root) options = ({} : Settings).overlay options := by
  have hfile : ofWorkspace files (some root) = .ok none := ofFile_of_silent h
  rw [load, hfile]
  rfl

theorem load_of_layer {layer : Layer} (h : Says files (filePath root) layer) :
    load files (some root) options =
      (({} : Settings).withKeys layer).bind fun s => s.overlay options := by
  have hfile : ofWorkspace files (some root) = .ok (some layer) := ofFile_of_layer h
  rw [load, hfile]
  rfl

theorem load_of_spoils {e : Fault} (h : Spoils files (filePath root) e) :
    load files (some root) options = .error e := by
  obtain hread | ⟨layer, hsaid, hkeys⟩ := h.found
  · have hfile : ofWorkspace files (some root) = .error e := hread
    rw [load, hfile]
    rfl
  · rw [load_of_layer hsaid, hkeys]
    rfl

/-- Options that can be put over the common settings can be put over any. -/
theorem overlay_ok_of_overlay_ok (h : ∃ t, ({} : Settings).overlay options = .ok t) (s : Settings) :
    s.overlay options = .ok (s.updated options) := by
  obtain ⟨hlist, htime⟩ := (overlay_spec {} options).1.mp h
  exact overlay_eq_updated hlist htime s

/-- Settings that cannot be loaded have been spoilt, unless it is the options that cannot be put over settings. -/
theorem spoils_of_load {e : Fault} (hoptions : ∃ t, ({} : Settings).overlay options = .ok t)
    (h : load files (some root) options = .error e) : Spoils files (filePath root) e := by
  obtain ⟨hsilent, -⟩ | ⟨layer, hsaid, -⟩ | ⟨e', hspoils, -⟩ := ofFile_cases files (filePath root)
  · rw [load_of_silent hsilent, overlay_ok_of_overlay_ok hoptions] at h
    cases h
  · rw [load_of_layer hsaid] at h
    by_cases hlist : ListsOverlongIn layer
    · rw [withKeys_of_listsOverlong hlist] at h
      cases h
      exact .overlong layer hsaid hlist
    · by_cases htime : SaysTooLargeIn layer
      · rw [withKeys_of_saysTooLarge hlist htime] at h
        cases h
        exact .seconds layer hsaid hlist htime
      · rw [withKeys_eq_updatedIn hlist htime] at h
        change overlay _ options = _ at h
        rw [overlay_ok_of_overlay_ok hoptions] at h
        cases h
  · rw [load_of_spoils hspoils] at h
    cases h
    exact hspoils

/-- Over a layer that a file says, each key has the valid value of the options, without one that of the layer,
and the common one without any. -/
theorem field_of_load {layer : Layer} {t : Settings} (hsaid : Says files (filePath root) layer)
    (ht : load files (some root) options = .ok t) {α : Type} {k : Key α} (hk : k.Known) :
    k.field t = (k.value? options).getD ((k.valueIn? layer).getD (k.field {})) := by
  have hlist : ¬ ListsOverlongIn layer := by
    intro hlist
    rw [load_of_spoils (.overlong layer hsaid hlist)] at ht
    cases ht
  have htime : ¬ SaysTooLargeIn layer := by
    intro htime
    rw [load_of_spoils (.seconds layer hsaid hlist htime)] at ht
    cases ht
  rw [load_of_layer hsaid, withKeys_eq_updatedIn hlist htime] at ht
  rw [eq_updated_of_overlay ht, field_updated hk, field_updatedIn hk]

/-- **Loading settings** with options that can be put over settings. Without a workspace only the options
count. In a workspace

* there is a fault exactly if the settings file spoils the session, and which one: its name is too long, it is
  no UTF-8, or something in it spells no value;
* a file that says nothing leaves the common settings with the options over them;
* a file that says a layer gives each key the valid value of the options, without one that of the layer,
  and the common one without any. -/
theorem load_spec (files : FileTree) (options : Datum)
    (hoptions : ∃ t, ({} : Settings).overlay options = .ok t) :
    load files none options = ({} : Settings).overlay options ∧
      ∀ root : Path,
        (∀ e, load files (some root) options = .error e ↔ Spoils files (filePath root) e) ∧
        (∀ e, load files (some root) options = .error e →
          e = .unopened .longName (filePath root) ∨
            (∃ bytes flaw, Holds files (filePath root) bytes ∧ Utf8.decode bytes = .error flaw ∧
              e = .badEncoding flaw) ∨
              Yaml.Slip e) ∧
        (Silent files (filePath root) →
          load files (some root) options = ({} : Settings).overlay options) ∧
        ∀ layer, Says files (filePath root) layer → ∀ t, load files (some root) options = .ok t →
          ∀ {α : Type} {k : Key α}, k.Known →
            k.field t = (k.value? options).getD ((k.valueIn? layer).getD (k.field {})) := by
  have hfaults : ∀ root e, load files (some root) options = .error e ↔ Spoils files (filePath root) e :=
    fun root e => ⟨spoils_of_load hoptions, load_of_spoils⟩
  refine ⟨load_none files options, fun root => ⟨hfaults root, fun e he => ?_, load_of_silent,
    fun layer hsaid t ht _ k hk => field_of_load hsaid ht hk⟩⟩
  exact ((hfaults root e).mp he).cases

end Load

/-- A workspace with a settings file of these bytes. -/
def workspace (bytes : List UInt8) : FileTree :=
  ({} : FileTree).insert "/work/.gocodels.yml".toList (.file false bytes)

/-- The options stand over the settings file: what is not valid there is taken from the file. -/
theorem load_fileAndOptions :
    let files := workspace (Utf8.encode "snippetMode: name\ngocodeTimeout: 5\n".toList)
    let root := Path.ofText "/work".toList
    let options := Datum.map [
      (.text "gocodeTimeout".toList, .int 7), (.text "snippetMode".toList, .text "all".toList)]
    (∃ t, ({} : Settings).overlay options = .ok t) ∧
      ∃ t, load files (some root) options = .ok t ∧ t.snippetMode = .name ∧ t.timeout = .ofInt 7 := by
  intro files root options
  have hoptions : ({} : Settings).overlay options = .ok { timeout := .ofInt 7 } := by decide +kernel
  obtain ⟨-, hload⟩ := load_spec files options ⟨_, hoptions⟩
  obtain ⟨-, -, -, hkeys⟩ := hload root
  obtain ⟨t, ht⟩ : ∃ t, load files (some root) options = .ok t :=
    ⟨{ snippetMode := .name, timeout := .ofInt 7 }, by decide +kernel⟩
  have hmode : ((ofFile files (filePath root)).toOption.join.bind Key.snippetMode.valueIn?) = some .name := by
    decide +kernel
  obtain ⟨layer, hlayer, hmode⟩ := Option.bind_eq_some_iff.mp hmode
  have hsaid : Says files (filePath root) layer := says_of_ofFile (by
    rcases hread : ofFile files (filePath root) with _ | read
    · rw [hread] at hlayer
      cases hlayer
    · rw [hread] at hlayer
      exact congrArg Except.ok hlayer)
  have hvalue : Key.snippetMode.value? options = none := by decide +kernel
  have hseconds : Key.timeout.value? options = some (.ofInt 7) := by decide +kernel
  have htmode := hkeys layer hsaid t ht Key.Known.snippetMode
  have htseconds := hkeys layer hsaid t ht Key.Known.timeout
  rw [hvalue, hmode] at htmode
  rw [hseconds] at htseconds
  exact ⟨⟨_, hoptions⟩, t, ht, htmode, htseconds⟩

/-- **A settings file that is no text** leaves a session without settings, although nothing is wrong with its
options. -/
theorem load_badEncoding :
    ({} : Settings).overlay .null = .ok {} ∧
      load (workspace [0xff]) (some (.ofText "/work".toList)) .null =
        .error (.badEncoding { kind := .badStart, first := 0xff, position := 0, length := 1 }) := by
  decide +kernel

end Settings

end GoCompletion
