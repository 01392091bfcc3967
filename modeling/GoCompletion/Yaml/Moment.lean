import GoCompletion.Datum.Json
import GoCompletion.Datum.Moment

/-!
# Points in time in YAML

A scalar may be a day, or a day with a time of day and a distance to universal time (`moment?`). A scalar
that is said to be one may write month and day in one figure; a plain scalar is one of itself only if it
writes a whole day in full (`isMoment`). The parts may still be out of range (`momentOf`).
-/

namespace GoCompletion

namespace Yaml

/-- A text without the newline at its end. -/
def withoutNewline (t : Text) : Text := if t.getLast? = some '\n' then t.dropLast else t

/-- Between `least` and `most` digits at the start of a text, and what is left behind them. -/
def digitRun (least most : Nat) (t : Text) : Option (Nat × Text) :=
  let n := min (t.takeWhile Char.isDigit).length most
  if n < least then none else some (Json.natOf (t.take n), t.drop n)

/-- The character `c` at the start of a text, and what is left behind it. -/
def expect (c : Char) : Text → Option Text
  | d :: r => if c = d then some r else none
  | [] => none

/-- A distance to universal time, up to the end of the text. -/
def zone? (t : Text) : Option Int :=
  match t with
  | ['Z'] => some 0
  | sign :: r =>
    if sign = '+' ∨ sign = '-' then
      (digitRun 1 2 r).bind fun h =>
        let minutes : Option Nat :=
          match h.2 with
          | [] => some 0
          | ':' :: r => (digitRun 2 2 r).bind fun m => if m.2.isEmpty then some m.1 else none
          | _ => none
        minutes.map fun m =>
          let distance : Int := (h.1 * 60 + m : Nat)
          if sign = '-' then -distance else distance
    else none
  | [] => none

/-- The millionths that the digits of a fraction are; further digits do not count. -/
def microOf (fraction : Text) : Nat := Json.natOf ((fraction ++ List.replicate 6 '0').take 6)

/-- A time of day, up to the end of the text. -/
def clock? (t : Text) : Option Clock :=
  (digitRun 1 2 t).bind fun h => (expect ':' h.2).bind fun r =>
  (digitRun 2 2 r).bind fun m => (expect ':' m.2).bind fun r =>
  (digitRun 2 2 r).bind fun s =>
    let (fraction, r) :=
      match s.2 with
      | '.' :: r => (r.takeWhile Char.isDigit, r.dropWhile Char.isDigit)
      | r => ([], r)
    let clock : Clock := ⟨h.1, m.1, s.1, microOf fraction, none⟩
    if r.isEmpty then some clock
    else
      (zone? (r.dropWhile fun c => c == ' ' || c == '\t')).map fun z => { clock with zone := some z }

/-- The parts of a point in time, if the text has the form of one. A newline may follow. -/
def moment? (t : Text) : Option Moment :=
  (digitRun 4 4 (withoutNewline t)).bind fun y => (expect '-' y.2).bind fun r =>
  (digitRun 1 2 r).bind fun m => (expect '-' m.2).bind fun r =>
  (digitRun 1 2 r).bind fun d =>
    match d.2 with
    | [] => some ⟨y.1, m.1, d.1, none⟩
    | c :: r =>
      let clock : Option Clock :=
        if c = 'T' ∨ c = 't' then clock? r
        else if c = ' ' ∨ c = '\t' then clock? (r.dropWhile fun c => c == ' ' || c == '\t')
        else none
      clock.map fun clock => ⟨y.1, m.1, d.1, some clock⟩

/-- A text without a newline behind it is a point in time: a whole day needs all its ten characters. -/
def isMoment (t : Text) : Bool :=
  match moment? t with
  | some m => t.getLast? != some '\n' && (m.clock.isSome || t.length == 10)
  | none => false

/-- What is wrong with the parts of a point in time, if anything is. -/
def trouble (m : Moment) : Option Text :=
  let c := m.clock.getD ⟨0, 0, 0, 0, none⟩
  let zone := c.zone.getD 0
  if zone.natAbs ≥ 1440 then
    some ("offset must be a timedelta strictly between -timedelta(hours=24) and ".toList ++
      "timedelta(hours=24), not ".toList ++ Moment.quotedSpan zone ++ ['.'])
  else if m.year = 0 then some "year 0 is out of range".toList
  else if m.month = 0 ∨ m.month > 12 then some "month must be in 1..12".toList
  else if m.day = 0 ∨ m.day > monthLength m.year m.month then
    some "day is out of range for month".toList
  else if c.hour > 23 then some "hour must be in 0..23".toList
  else if c.minute > 59 then some "minute must be in 0..59".toList
  else if c.second > 59 then some "second must be in 0..59".toList
  else none

/-- The point in time that a text is. -/
def momentOf (t : Text) : Except Fault Moment :=
  match moment? t with
  | none => .error .notMoment
  | some m =>
    match trouble m with
    | some message => .error (.badValue message)
    | none => .ok m

end Yaml

end GoCompletion
