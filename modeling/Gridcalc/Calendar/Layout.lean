import Gridcalc.Calendar.Serial
import Gridcalc.Number.Decimal
import Gridcalc.Text.Blank

/-!
# Written dates and times

The written forms of dates and times, in both directions.

* `Date.isoText` and `Moment.isoText` write a date and a moment;
* `Layout` describes a written form part by part, and `Layout.read?` reads one;
* `serialOfText?` tries the forms of a date with a time, of a date, and of a time of day.
-/

namespace Gridcalc

/-! ## 1. Names -/

def monthNames : List String :=
  ["January", "February", "March", "April", "May", "June", "July", "August", "September",
    "October", "November", "December"]

def weekdayNames : List String :=
  ["Sunday", "Monday", "Tuesday", "Wednesday", "Thursday", "Friday", "Saturday"]

/-- The first three letters of a name. -/
def shortName (name : List Char) : List Char := name.take 3

/-- The name of a month, counted from one. -/
def monthName (m : Nat) : List Char := (monthNames.getD (m - 1) "").toList

/-- The name of a day of the week, Sunday being 0. -/
def weekdayName (n : Nat) : List Char := (weekdayNames.getD n "").toList

/-! ## 2. Writing -/

/-- A natural in at least two digits. -/
def twoDigits (n : Nat) : List Char := padZeros 2 (naturalText n)

/-- A year in at least four digits; one outside the four-digit years carries its sign. -/
def yearText (y : Int) : List Char :=
  if 0 ≤ y ∧ y ≤ 9999 then padZeros 4 (naturalText y.toNat)
  else (if y < 0 then '-' else '+') :: padZeros 4 (naturalText y.natAbs)

/-- A date as year, month and day. -/
def Date.isoText (date : Date) : List Char :=
  yearText date.year ++ '-' :: twoDigits date.month ++ '-' :: twoDigits date.dayOfMonth

namespace Moment

/-- The second within the minute, 60 being a leap second. -/
def shownSecond (t : Moment) : Nat := t.secondOfMinute + t.nano / 1000000000

/-- The time of day in hours, minutes and seconds. -/
def clockText (t : Moment) : List Char :=
  twoDigits t.hour ++ ':' :: twoDigits t.minute ++ ':' :: twoDigits t.shownSecond

/-- The fraction of a second in 3, 6 or 9 digits, and nothing for a whole second. -/
def fractionText (t : Moment) : List Char :=
  let nano := t.nano % 1000000000
  if nano = 0 then []
  else if nano % 1000000 = 0 then '.' :: padZeros 3 (naturalText (nano / 1000000))
  else if nano % 1000 = 0 then '.' :: padZeros 6 (naturalText (nano / 1000))
  else '.' :: padZeros 9 (naturalText nano)

/-- A moment with the separator `gap` between date and time. -/
def isoText (gap : Char) (t : Moment) : List Char :=
  t.date.isoText ++ gap :: t.clockText

end Moment

/-! ## 3. Reading -/

/-- A part of a written date or time. -/
inductive LayoutPart where
  | year | month | day | hour | halfHour | minute | second
  | shortMonth | anyMonth | halfDay | blanks
  | literal (c : Char)
  deriving DecidableEq, Repr

/-- What has been read of a written date or time. -/
structure WrittenParts where
  year : Int := 0
  month : Nat := 1
  day : Nat := 1
  hour : Nat := 0
  minute : Nat := 0
  second : Nat := 0
  afternoon : Bool := false
  deriving DecidableEq, Repr

namespace WrittenParts

/-- At most `width` digits after blanks, and at least one. -/
def takeNumber? (width : Nat) (cs : List Char) : Option (Nat × List Char) :=
  let cs := Text.trimStart cs
  let ds := (cs.take width).takeWhile Char.isDigit
  if ds.isEmpty then none else some (digitsValue ds, cs.drop ds.length)

/-- A number of two digits within bounds. -/
def takeWithin? (lo hi : Nat) (cs : List Char) : Option (Nat × List Char) :=
  match takeNumber? 2 cs with
  | some (n, rest) => if lo ≤ n ∧ n ≤ hi then some (n, rest) else none
  | none => none

/-- A year: four digits at most, or any number of them after a sign. -/
def takeYear? (cs : List Char) : Option (Int × List Char) :=
  let signed (cs : List Char) : Option (Nat × List Char) :=
    if (cs.head?.map Char.isDigit).getD false then takeNumber? cs.length cs else none
  match Text.trimStart cs with
  | '-' :: rest => (signed rest).map fun (n, rest) => (-(n : Int), rest)
  | '+' :: rest => (signed rest).map fun (n, rest) => ((n : Int), rest)
  | cs => (takeNumber? 4 cs).map fun (n, rest) => ((n : Int), rest)

/-- What follows `word` at the start of a text, ASCII case aside. -/
def dropWord? (word cs : List Char) : Option (List Char) :=
  if (cs.take word.length).map Char.toLower = word.map Char.toLower then some (cs.drop word.length)
  else none

/-- A month by the first three letters of its name. -/
def takeShortMonth? (cs : List Char) : Option (Nat × List Char) :=
  (List.range 12).findSome? fun i =>
    (dropWord? (shortName (monthName (i + 1))) cs).map fun rest => (i + 1, rest)

/-- A month by its short name, or by its full name where that is written out. -/
def takeAnyMonth? (cs : List Char) : Option (Nat × List Char) :=
  (takeShortMonth? cs).map fun (m, rest) =>
    (m, (dropWord? ((monthName m).drop 3) rest).getD rest)

/-- Reads one part. -/
def step? (w : WrittenParts) (cs : List Char) : LayoutPart → Option (WrittenParts × List Char)
  | .year => (takeYear? cs).map fun (n, rest) => ({ w with year := n }, rest)
  | .month => (takeWithin? 1 12 cs).map fun (n, rest) => ({ w with month := n }, rest)
  | .day => (takeWithin? 1 31 cs).map fun (n, rest) => ({ w with day := n }, rest)
  | .hour => (takeWithin? 0 23 cs).map fun (n, rest) => ({ w with hour := n }, rest)
  | .halfHour => (takeWithin? 1 12 cs).map fun (n, rest) => ({ w with hour := n % 12 }, rest)
  | .minute => (takeWithin? 0 59 cs).map fun (n, rest) => ({ w with minute := n }, rest)
  | .second => (takeWithin? 0 60 cs).map fun (n, rest) => ({ w with second := n }, rest)
  | .shortMonth => (takeShortMonth? cs).map fun (n, rest) => ({ w with month := n }, rest)
  | .anyMonth => (takeAnyMonth? cs).map fun (n, rest) => ({ w with month := n }, rest)
  | .halfDay =>
    match dropWord? ['a', 'm'] cs, dropWord? ['p', 'm'] cs with
    | some rest, _ => some ({ w with afternoon := false }, rest)
    | none, some rest => some ({ w with afternoon := true }, rest)
    | none, none => none
  | .blanks => some (w, Text.trimStart cs)
  | .literal c => match cs with
    | [] => none
    | d :: rest => if d = c then some (w, rest) else none

/-- Reads part after part; the text has to end with the last one. -/
def readFrom? (w : WrittenParts) (cs : List Char) : List LayoutPart → Option WrittenParts
  | [] => if cs.isEmpty then some w else none
  | part :: rest =>
    match w.step? cs part with
    | some (w, cs) => w.readFrom? cs rest
    | none => none

/-- The date that was read, where the calendar has it. -/
def date? (w : WrittenParts) : Option Date :=
  if yearInCalendar w.year then Date.ofCivil? w.year w.month w.day else none

/-- The time of day that was read, in seconds; a leap second is part of the second before it. -/
def clock (w : WrittenParts) : Nat :=
  (w.hour + if w.afternoon then 12 else 0) * 3600 + w.minute * 60 + min w.second 59

/-- The moment that was read. -/
def moment? (w : WrittenParts) : Option Moment :=
  w.date?.map fun date => ⟨date, w.clock, if w.second = 60 then 1000000000 else 0⟩

end WrittenParts

/-- A written form. -/
abbrev Layout := List LayoutPart

namespace Layout

/-- Reads a text in a written form. -/
def read? (layout : Layout) (cs : List Char) : Option WrittenParts :=
  ({} : WrittenParts).readFrom? cs layout

def isoDate : Layout := [.year, .literal '-', .month, .literal '-', .day]

def slashDate : Layout := [.month, .literal '/', .day, .literal '/', .year]

def clock : Layout := [.hour, .literal ':', .minute]

def fullClock : Layout := [.hour, .literal ':', .minute, .literal ':', .second]

/-- The forms of a date with a time of day. -/
def moments : List Layout :=
  [isoDate ++ .blanks :: fullClock, isoDate ++ .blanks :: clock, slashDate ++ .blanks :: clock]

/-- The forms of a date. -/
def dates : List Layout :=
  [isoDate, slashDate, [.day, .literal '-', .shortMonth, .literal '-', .year],
    [.anyMonth, .blanks, .day, .literal ',', .blanks, .year]]

/-- The forms of a time of day. -/
def clocks : List Layout :=
  [fullClock, clock, [.halfHour, .literal ':', .minute, .blanks, .halfDay],
    [.halfHour, .literal ':', .minute, .literal ':', .second, .blanks, .halfDay]]

end Layout

/-- The serial of a written date, of a written date with a time of day, or of a written time of
    day, whichever form fits first. -/
def serialOfText? (cs : List Char) : Option Float :=
  let moment := Layout.moments.findSome? fun l => (l.read? cs).bind WrittenParts.moment?
  let date := Layout.dates.findSome? fun l => (l.read? cs).bind WrittenParts.date?
  let clock := Layout.clocks.findSome? fun l => l.read? cs
  match moment, date, clock with
  | some t, _, _ => some t.serial
  | none, some d, _ => some (Float.ofInt d.serial)
  | none, none, some w => some (Float.ofNat w.clock / 86400)
  | none, none, none => none

/-- A moment written as a date, a letter `T`, a time and an optional fraction of a second. -/
def Moment.ofIsoText? (cs : List Char) : Option Moment :=
  let layout : Layout := Layout.isoDate ++ .literal 'T' :: Layout.fullClock
  let (whole, fraction) := (cs.takeWhile (· ≠ '.'), (cs.dropWhile (· ≠ '.')).drop 1)
  if fraction.all Char.isDigit then
    match (layout.read? whole).bind WrittenParts.moment? with
    | some t => some { t with
        nano := t.nano + digitsValue (fraction.take 9) * tenTo (9 - fraction.length) }
    | none => none
  else none

end Gridcalc
