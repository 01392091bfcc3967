import GoCompletion.FileTree
import GoCompletion.Settings.Basic
import GoCompletion.Yaml.Value

/-!
# Loading settings

The settings of a session are the common ones with two layers over them: the settings file of the
workspace, and the options of the editor. A file that is missing, is no YAML or holds no mapping says
nothing; one that is not UTF-8 is a fault.
-/

namespace GoCompletion

namespace Settings

/-- The name of the settings file. -/
def fileName : Text := ".gocodels.yml".toList

/-- The layer that a YAML document is, if it is a mapping: its section, if it has one that is a mapping. -/
def layerOfDocument (d : Yaml.Document) : Option Layer :=
  (d.entries? d.root).map fun entries =>
    let own := (Yaml.Document.find? sectionName entries).bind d.entries?
    fun key => (Yaml.Document.find? key (own.getD entries)).map d.datum

/-- The layer that the text of a settings file is; absent where it is no YAML or no mapping. -/
def layerOfText (t : Text) : Except Fault (Option Layer) :=
  (Yaml.documentOf t).toExcept.map fun d => (d.bind id).bind layerOfDocument

/-- The layer in a settings file, absent where the file is missing or says nothing. -/
def ofFile (files : FileTree) (path : Text) : Except Fault (Option Layer) :=
  (files.isFile path).bind fun there =>
    if there then (files.text path).bind layerOfText else .ok none

/-- The layer of the workspace. -/
def ofWorkspace (files : FileTree) (root : Option Path) : Except Fault (Option Layer) :=
  match root with
  | none => .ok none
  | some root => ofFile files (root.child fileName).toText

/-- The settings of a session. -/
def load (files : FileTree) (root : Option Path) (options : Datum) : Except Fault Settings :=
  (ofWorkspace files root).bind fun layer =>
    (layer.elim (.ok {}) ({} : Settings).withKeys).bind fun s => s.overlay options

end Settings

end GoCompletion
