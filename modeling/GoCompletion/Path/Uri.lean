import GoCompletion.Path.Authority

/-!
# URIs

Editors name documents by URIs. A URI has a scheme, a host and a path, all of them written with percent
signs where a byte is not to be taken as it stands; a query and a fragment behind the path, and
parameters behind the last component of a web address, are no part of the path. A text whose host does
not pass is no URI.

The path of a file on a host is written with the host in front, and the path of a file on a drive without
a slash in front and with a small letter for the drive.
-/

namespace GoCompletion

/-! ## Percent signs -/

/-- The bytes of a text of ASCII: a percent sign and two hexadecimal digits are one byte. -/
def percentDecoded : Text → List UInt8
  | '%' :: a :: b :: r =>
    match Json.hexNumber? [a, b] with
    | some n => n.toUInt8 :: percentDecoded r
    | none => '%'.toNat.toUInt8 :: percentDecoded (a :: b :: r)
  | c :: r => c.toNat.toUInt8 :: percentDecoded r
  | [] => []

/-- The character is one of ASCII. -/
def isAscii (c : Char) : Bool := c.toNat < 0x80

/-- What is left of a tail behind a run of a class is shorter than the whole. -/
theorem length_dropWhile_tail_lt (p : Char → Bool) (c : Char) (r : Text) :
    (r.dropWhile p).length < (c :: r).length :=
  Nat.lt_succ_of_le (List.dropWhile_sublist _).length_le

/-- A text with its percent signs resolved. Bytes make up characters only within a run of ASCII; where
they do not, there is a replacement character. -/
def unescaped : Text → Text
  | [] => []
  | c :: r =>
    if isAscii c then
      Utf8.decodeLenient (percentDecoded (c :: r.takeWhile isAscii)) ++
        unescaped (r.dropWhile isAscii)
    else c :: unescaped r
termination_by t => t.length
decreasing_by
  · exact length_dropWhile_tail_lt isAscii c r
  · exact Nat.lt_succ_self r.length

/-! ## Parts -/

/-- The parts of a URI that tell where a document is. -/
structure Uri where
  /-- the scheme in small letters, empty where there is none -/
  scheme : Text
  /-- the host -/
  host : Text
  /-- the path -/
  path : Text
  deriving DecidableEq, Repr

namespace Uri

/-- The character may stand in a scheme. -/
def isSchemeChar (c : Char) : Bool := c.isAlphanum || c == '+' || c == '-' || c == '.'

/-- The scheme in front of the first colon, and what is behind it. -/
def splitScheme (t : Text) : Text × Text :=
  match Text.cut [':'] t with
  | some (c :: r, rest) =>
    if c.isAlpha && r.all isSchemeChar then ((c :: r).map Char.toLower, rest) else ([], t)
  | _ => ([], t)

/-- The character ends a host. -/
def endsHost (c : Char) : Bool := c == '/' || c == '?' || c == '#'

/-- The host behind two slashes, and what is behind it. -/
def splitHost : Text → Text × Text
  | '/' :: '/' :: r => (r.takeWhile (!endsHost ·), r.dropWhile (!endsHost ·))
  | t => ([], t)

/-- The schemes whose paths have parameters. -/
def withParameters : List Text := [
  [], "ftp".toList, "hdl".toList, "prospero".toList, "http".toList, "imap".toList, "https".toList,
  "shttp".toList, "rtsp".toList, "rtsps".toList, "rtspu".toList, "sip".toList, "sips".toList,
  "mms".toList, "sftp".toList, "tel".toList]

/-- A path without the parameters of its last component. -/
def withoutParameters (path : Text) : Text :=
  match Text.cutLast ['/'] path with
  | some (lead, last) => lead ++ '/' :: last.takeWhile (· != ';')
  | none => path.takeWhile (· != ';')

/-- The parts of the URI that a text is. Blanks in front of it and line breaks and tabs in it say
nothing. -/
def ofText (t : Text) : Except Fault Uri :=
  let t := (t.dropWhile fun c => c.toNat ≤ 0x20).filter fun c => c != '\t' && c != '\r' && c != '\n'
  let (scheme, rest) := splitScheme t
  let (host, rest) := splitHost rest
  let path := (rest.takeWhile (· != '#')).takeWhile (· != '?')
  let path := if withParameters.contains scheme then withoutParameters path else path
  (checkHost host).map fun _ =>
    { scheme := unescaped scheme, host := unescaped host, path := unescaped path }

/-- The path of a document in the file system. The URI of a file may name a host, and its path may begin
with the letter of a drive, which is written small; other URIs keep their path. -/
def filePath (u : Uri) : Text :=
  if u.scheme ≠ "file".toList then u.path
  else if u.host ≠ [] ∧ u.path ≠ [] then "//".toList ++ u.host ++ u.path
  else
    match u.path with
    | '/' :: drive :: ':' :: r => if drive.isAlpha then drive.toLower :: ':' :: r else u.path
    | path => path

end Uri

end GoCompletion
