import GoCompletion.Text.Blank

/-!
# Signatures

The structured form of a type as a completion daemon writes it. A func type such as

    func(cb func(int) string, a ...interface{}) (n int, err error)

becomes a `Signature` with parameters and returns, in which nested func types are signatures again;
any other type is a signature that is no func and carries its text as its name.
-/

namespace GoCompletion

mutual

/-- A type, taken apart when it is a func type. -/
structure Signature where
  /-- the type is a func type -/
  isFunc : Bool := false
  /-- the text of the type -/
  name : Text := []
  /-- the parameters, in order -/
  args : List Parameter := []
  /-- the returns, in order -/
  returns : List Parameter := []

/-- A parameter or a return of a func type. -/
structure Parameter where
  /-- the text of the parameter, such as `cb func(int) string` -/
  name : Text
  /-- the identifier, empty when the parameter has none -/
  identifier : Text := []
  /-- the type of the parameter is a func type -/
  isFunc : Bool := false
  /-- the type of the parameter -/
  type : ParameterType

/-- The type of a parameter. -/
inductive ParameterType where
  /-- a type that is not taken apart -/
  | plain (text : Text)
  /-- a func type -/
  | signature (s : Signature)

end

instance : Inhabited Signature := ⟨{}⟩

instance : Inhabited Parameter := ⟨{ name := [], type := .plain [] }⟩

namespace Parameter

/-- The text of a parameter's type. -/
def typeText (p : Parameter) : Text :=
  match p.type with
  | .plain t => t
  | .signature s => s.name

/-- The signature of a parameter's type, the empty one when the type is not taken apart. -/
def signature (p : Parameter) : Signature :=
  match p.type with
  | .plain _ => {}
  | .signature s => s

/-- The parameter takes any number of values: its type is plain and begins with three dots. -/
def isVariadic (p : Parameter) : Bool :=
  match p.type with
  | .plain t => Text.startsWith t ['.', '.', '.']
  | .signature _ => false

end Parameter

/-- What stands between the parameters of a list. -/
def separator : Text := [',', ' ']

/-- What a func type begins with. -/
def funcToken : Text := ['f', 'u', 'n', 'c', '(']

/-- The label of a func's returns: nothing, the one return, or all of them in parens. -/
def Signature.returnLabel (s : Signature) : Text :=
  match s.returns with
  | [] => []
  | [r] => r.name
  | rs => '(' :: Text.join separator (rs.map (·.name)) ++ [')']

end GoCompletion
