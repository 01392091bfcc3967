import GoCompletion.Text.Quoted
import GoCompletion.Text.Utf8

/-!
# Faults

What can leave an operation in place of its answer. A fault is a cause; the words for it are made in one
place.
-/

namespace GoCompletion

/-- What stands in the way of opening a file. -/
inductive Obstacle where
  /-- there is nothing under its name -/
  | missing
  /-- its name leads through a file -/
  | throughFile
  /-- it is a directory -/
  | directory
  /-- its name is too long -/
  | longName
  /-- its name has a zero character in it -/
  | zeroCharacter
  deriving DecidableEq, Repr

/-- A cause for which an operation has no answer. -/
inductive Fault where
  /-- a position lies behind the end of a text -/
  | outOfRange
  /-- an integer is too large for a binary64 number -/
  | numberTooLarge
  /-- the number of a character is too large to be looked at -/
  | codeTooLarge
  /-- a file is not UTF-8 -/
  | badEncoding (flaw : Utf8.Flaw)
  /-- a text does not spell a value of its kind, in the words for it -/
  | badValue (message : Text)
  /-- a text is none of the words for truth values -/
  | unknownWord (word : Text)
  /-- a text does not have the form of a point in time -/
  | notMoment
  /-- entries stand where the text of a point in time has to be -/
  | entriesForMoment
  /-- something goes too deep to be followed, in words for what was going on -/
  | tooDeep (activity : Text)
  /-- a file cannot be opened -/
  | unopened (obstacle : Obstacle) (path : Text)
  /-- something outside this library failed, in its own words -/
  | failed (message : Text)
  deriving DecidableEq, Repr

/-- The words for a run of bytes that is no character. -/
def Utf8.Flaw.message (f : Flaw) : Text :=
  "'utf-8' codec can't decode ".toList ++
    (if f.length = 1 then
      "byte 0x".toList ++ hexadecimal 2 f.first.toNat ++ " in position ".toList ++
        Text.ofNat f.position
    else
      "bytes in position ".toList ++ Text.ofNat f.position ++ '-' ::
        Text.ofNat (f.position + f.length - 1)) ++
    match f.kind with
    | .badStart => ": invalid start byte".toList
    | .badContinuation => ": invalid continuation byte".toList
    | .brokenOff => ": unexpected end of data".toList

/-- The words for what stands in the way of opening the file at a path. -/
def Obstacle.message (path : Text) : Obstacle → Text
  | missing => "[Errno 2] No such file or directory: ".toList ++ Text.quoted path
  | throughFile => "[Errno 20] Not a directory: ".toList ++ Text.quoted path
  | directory => "[Errno 21] Is a directory: ".toList ++ Text.quoted path
  | longName => "[Errno 36] File name too long: ".toList ++ Text.quoted path
  | zeroCharacter => "embedded null byte".toList

namespace Fault

/-- The words for a fault. -/
def message : Fault → Text
  | outOfRange => "string index out of range".toList
  | numberTooLarge => "int too large to convert to float".toList
  | codeTooLarge => "Python int too large to convert to C int".toList
  | badEncoding flaw => flaw.message
  | badValue message => message
  | unknownWord word => Text.quoted word
  | notMoment => "'NoneType' object has no attribute 'groupdict'".toList
  | entriesForMoment => "expected string or bytes-like object, got 'list'".toList
  | tooDeep activity => "maximum recursion depth exceeded".toList ++ activity
  | unopened obstacle path => obstacle.message path
  | failed message => message

end Fault

end GoCompletion
