import GoCompletion.Host.Basic
import GoCompletion.Text.Blank

/-!
# Finding and running tools

A tool is looked for in the directories that Go installs to, and behind them in the search path. **What
has been found once is not looked for again**, and what has not been found is looked for the next time.
-/

namespace GoCompletion

/-- The finder and runner of tools. -/
structure Client where
  /-- the home directory -/
  home : Text
  /-- the environment of the tools -/
  environment : List (Text × Text) := []
  /-- how many seconds a run may take -/
  limit : Binary64 := .ofInt 10
  /-- the tools that have been found, by name -/
  tools : List (Text × Text) := []

namespace Client

/-- The value of a variable of the environment. -/
def valueOf? (c : Client) (name : String) : Option Text :=
  (c.environment.find? fun v => v.1 = name.toList).map (·.2)

/-- The value of a variable without blanks around it, empty if there is none. -/
def setting (c : Client) (name : String) : Text := ((c.valueOf? name).getD []).strip

/-- The directory of Go in the home directory. -/
def homeDirectory (c : Client) : Text := ((Path.ofText c.home).child "go".toList).toText

/-- The workspaces of Go. -/
def gopath (c : Client) : Text :=
  let t := c.setting "GOPATH"
  if t.isEmpty then c.homeDirectory else t

/-- The directory of the tools in a directory. -/
def toolsIn (directory : Text) : Path := (Path.ofText directory).child "bin".toList

/-- The directories that Go installs tools to. -/
def toolDirectories (c : Client) : List Path :=
  let gobin := c.setting "GOBIN"
  let goroot := c.setting "GOROOT"
  (if gobin.isEmpty then [] else [Path.ofText gobin]) ++
    (directoriesOf c.gopath).map toolsIn ++
    (if goroot.isEmpty then [] else [toolsIn goroot])

/-- The paths of a tool in the directories of the search path. A name with a slash is a path
already. -/
def searchPaths (c : Client) (name : Text) : List Text :=
  if name.any (· == '/') then [name]
  else
    match (c.valueOf? "PATH").getD [] with
    | [] => []
    | path =>
      (Text.pieces [':'] path).map fun d =>
        if d.isEmpty || d.endsWith ['/'] then d ++ name else d ++ '/' :: name

/-- The paths of a tool in the directories that Go installs to. -/
def installPaths (c : Client) (name : Text) : List Text :=
  c.toolDirectories.map fun d => (d.child name).toText

/-- The first of some paths that a file which may be run is under. -/
def firstTool (files : FileTree) : List Text → Except Fault (Option Text)
  | [] => .ok none
  | path :: rest =>
    (files.isFile path).bind fun there =>
      if there && files.isExecutable path then .ok (some path) else firstTool files rest

/-- The path of a tool, where it is installed. A path of Go that is too long is a fault; one in the
search path only holds no tool. -/
def locate (c : Client) (files : FileTree) (name : Text) : Except Fault (Option Text) :=
  (firstTool files (c.installPaths name)).map fun found =>
    found <|> (c.searchPaths name).find? files.isExecutable

/-- The path of a tool that has been found before. -/
def known? (c : Client) (name : Text) : Option Text :=
  (c.tools.find? fun t => t.1 = name).map (·.2)

/-- Looks for a tool: its path, and the client that knows it. -/
def find (c : Client) (files : FileTree) (name : Text) : Except Fault (Option Text) × Client :=
  match c.known? name with
  | some path => (.ok (some path), c)
  | none =>
    match c.locate files name with
    | .ok (some path) => (.ok (some path), { c with tools := (name, path) :: c.tools })
    | r => (r, c)

/-- What has been found once is not looked for again. -/
theorem find_of_known {c : Client} {name path : Text} (h : c.known? name = some path)
    (files : FileTree) : c.find files name = (.ok (some path), c) := by
  simp only [find, h]

/-- The client that has forgotten a tool. -/
def forget (c : Client) (name : Text) : Client :=
  { c with tools := c.tools.filter fun t => t.1 != name }

end Client

/-- The name of the completion daemon. -/
def daemonName : Text := "gocode".toList

/-- The name of the Go command. -/
def goName : Text := "go".toList

end GoCompletion
