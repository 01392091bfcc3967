import GoCompletion.Datum.Json

/-!
# Hosts of URIs

The host of a URI may be an address in square brackets: eight groups of hexadecimal digits with colons
between them (`Uri.isAddress`), or an address of a kind that is still to come. Once in an address two
colons may stand for groups of zeros, and the last two groups may be written as four numbers with points
between them. **A host is checked before anything is made of a URI** (`Uri.checkHost`); what is wrong
with one is told in words.
-/

namespace GoCompletion

namespace Uri

/-- The character is a hexadecimal digit. -/
def isHexDigit (c : Char) : Bool := (Json.hexDigit? c).isSome

/-- The text is a number of an address with points. -/
def isOctet (t : Text) : Bool :=
  !t.isEmpty && t.all Char.isDigit && t.length ≤ 3 && (t.length == 1 || t.head? != some '0') &&
    Json.natOf t ≤ 255

/-- The text is four numbers with points between them. -/
def isPointedAddress (t : Text) : Bool :=
  let numbers := Text.pieces ['.'] t
  numbers.length == 4 && numbers.all isOctet

/-- The text is a group of an address. -/
def isGroup (t : Text) : Bool := !t.isEmpty && t.length ≤ 4 && t.all isHexDigit

/-- A group of zeros. -/
def zeroGroup : Text := ['0']

/-- What the pieces between the colons of an address are, its last two groups written like all others.
Nothing if the last piece has points in it and is no address by itself. -/
def groupsOf (pieces : List Text) : Option (List Text) :=
  let last := pieces.getLastD []
  if !last.elem '.' then some pieces
  else if isPointedAddress last then some (pieces.dropLast ++ [zeroGroup, zeroGroup])
  else none

/-- The pieces on one side of two colons: groups, or one that is empty. -/
def isSide (pieces : List Text) : Bool := pieces == [[]] || pieces.all isGroup

/-- The number of groups on one side of two colons. -/
def groupCount (pieces : List Text) : Nat := if pieces = [[]] then 0 else pieces.length

/-- The number of groups in an address. -/
def addressLength : Nat := 8

/-- The pieces are an address: eight groups, or fewer with an empty piece between them. -/
def arePieces (pieces : List Text) : Bool :=
  match (List.range (pieces.length - 1)).filter fun i => 0 < i && pieces[i]? == some [] with
  | [] => pieces.length == addressLength && pieces.all isGroup
  | [i] =>
    let left := pieces.take i
    let right := pieces.drop (i + 1)
    isSide left && isSide right && groupCount left + groupCount right < addressLength
  | _ => false

/-- An address without the name of the zone it is in, which follows a percent sign. Nothing if the sign
stands there alone or once more. -/
def withoutZone (t : Text) : Option Text :=
  match Text.cut ['%'] t with
  | none => some t
  | some (address, zone) => if zone.isEmpty || zone.elem '%' then none else some address

/-- The text is an address of groups. -/
def isAddress (t : Text) : Bool :=
  ((withoutZone t).bind fun address =>
    let pieces := Text.pieces [':'] address
    if pieces.length < 3 then none else groupsOf pieces).any arePieces

/-- The text is an address of a kind to come: the number of the kind and a point go before it. -/
def isFutureAddress (t : Text) : Bool :=
  !(t.takeWhile isHexDigit).isEmpty &&
    match t.dropWhile isHexDigit with
    | '.' :: address => !address.isEmpty
    | _ => false

/-- Checks what stands in square brackets. -/
def checkAddress (t : Text) : Except Fault Unit :=
  match t with
  | 'v' :: r =>
    if isFutureAddress r then .ok () else .error (.badValue "IPvFuture address is invalid".toList)
  | _ =>
    if isAddress t then .ok ()
    else if isPointedAddress t then
      .error (.badValue "An IPv4 address cannot be in brackets".toList)
    else
      .error (.badValue (Text.quoted t ++ " does not appear to be an IPv4 or IPv6 address".toList))

/-- Checks the square brackets of a host. -/
def checkBrackets (host : Text) : Except Fault Unit :=
  match Text.cut ['['] host with
  | none =>
    if host.elem ']' then .error (.badValue "Invalid IPv6 URL".toList) else .ok ()
  | some (_, r) =>
    if host.elem ']' then checkAddress (r.takeWhile (· != ']'))
    else .error (.badValue "Invalid IPv6 URL".toList)

/-- The characters that contain, in a form of their own, one of those that end a part of a URI. -/
def lookalikes : List Nat := [
  0x2047, 0x2048, 0x2049, 0x2100, 0x2101, 0x2105, 0x2106, 0x2A74, 0xFE13, 0xFE16, 0xFE55, 0xFE56,
  0xFE5F, 0xFE6B, 0xFF03, 0xFF0F, 0xFF1A, 0xFF1F, 0xFF20]

/-- Checks a host. -/
def checkHost (host : Text) : Except Fault Unit :=
  (checkBrackets host).bind fun _ =>
    if host.any fun c => lookalikes.contains c.toNat then
      .error (.badValue ("netloc '".toList ++ host ++
        "' contains invalid characters under NFKC normalization".toList))
    else .ok ()

end Uri

end GoCompletion
