import GoCompletion.Document.Basic
import GoCompletion.FileTree

/-!
# Open documents

The documents that an editor has opened, by their URIs; two URIs that differ in percent signs only name
one document. A document that is not open is read from its file.
-/

namespace GoCompletion

/-- The documents that are open. -/
structure DocumentStore where
  /-- the documents with their keys -/
  documents : List (Text × Document) := []

namespace DocumentStore

/-- The key of a document. -/
def keyOf (uri : Text) : Text := unescaped uri

/-- The store with a document opened. -/
def insert (s : DocumentStore) (d : Document) : DocumentStore :=
  { s with documents := (keyOf d.uri, d) :: s.documents.filter fun e => e.1 != keyOf d.uri }

/-- The document of a URI that is open. -/
def find? (s : DocumentStore) (uri : Text) : Option Document :=
  (s.documents.find? fun e => e.1 = keyOf uri).map (·.2)

/-- The document that was opened last under a URI is the one that is found. -/
theorem find?_insert (s : DocumentStore) (d : Document) : (s.insert d).find? d.uri = some d := by
  simp [find?, insert]

/-- The document in a file. -/
def read (files : FileTree) (uri : Text) : Except Fault Document :=
  (Uri.ofText uri).bind fun u =>
    (files.text u.filePath).map fun text => { uri, path := u.filePath, text }

/-- The document of a URI. -/
def get (s : DocumentStore) (files : FileTree) (uri : Text) : Except Fault Document :=
  match s.find? uri with
  | some d => .ok d
  | none => read files uri

end DocumentStore

end GoCompletion
