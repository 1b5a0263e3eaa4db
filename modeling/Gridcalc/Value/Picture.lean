import Gridcalc.Calendar.Layout
import Gridcalc.Number.Statistics
import Gridcalc.Value.Coercion

/-!
# Pictures of numbers and dates

A picture says how to write a value: digits to fill in, percent signs, parts of a date, and text to
copy. Semicolons separate the pictures for positive, negative and zero values.

* `splitSections` and `readPieces` read a picture;
* `fixedPicture` and `exponentPicture` fill digits in, `datePicture` the parts of a date;
* `showWith` writes a value in a picture.
-/

namespace Gridcalc

/-! ## 1. Reading a picture -/

/-- The parts of a date or time. -/
inductive DatePart where
  | year | month | day | hour | minute | second
  deriving DecidableEq, Repr

/-- A piece of a picture. -/
inductive PicturePiece where
  | literal (cs : List Char)
  /-- Places for digits, with the point, separators and exponent among them. -/
  | digits (cs : List Char)
  | percent
  /-- A part of a date, by how often its letter is written. -/
  | part (code : DatePart) (width : Nat)
  /-- The half of the day. -/
  | halfDay
  deriving DecidableEq, Repr

/-- Puts a character in front of the first section. -/
def consSection (c : Char) : List (List Char) → List (List Char)
  | [] => [[c]]
  | cs :: rest => (c :: cs) :: rest

/-- Splits a picture at its semicolons, but for those in quotes and behind a backslash. -/
def splitSections (quoted : Bool) : List Char → List (List Char)
  | [] => [[]]
  | '\\' :: [] => [['\\']]
  | '\\' :: c :: cs => consSection '\\' (consSection c (splitSections quoted cs))
  | c :: cs =>
    if c = '"' then consSection c (splitSections (!quoted) cs)
    else if c = ';' && !quoted then [] :: splitSections quoted cs
    else consSection c (splitSections quoted cs)

/-- A sign for a place of a digit. -/
def isDigitSign (c : Char) : Bool := c == '0' || c == '#' || c == ',' || c == '.'

/-- The signs for digits at the start of a picture, the letter of the exponent as a capital, and how
    many characters they take. -/
def takeDigits : List Char → List Char × Nat
  | [] => ([], 0)
  | [c] => if isDigitSign c then ([c], 1) else ([], 0)
  | c :: sign :: cs =>
    if isDigitSign c then
      let (ds, n) := takeDigits (sign :: cs)
      (c :: ds, n + 1)
    else if (c = 'E' ∨ c = 'e') ∧ (sign = '+' ∨ sign = '-') then
      let (ds, n) := takeDigits cs
      ('E' :: sign :: ds, n + 2)
    else ([], 0)

/-- The part of a date that a letter stands for. -/
def datePartOf? (c : Char) : Option DatePart :=
  match c.toLower with
  | 'y' => some .year
  | 'm' => some .month
  | 'd' => some .day
  | 'h' => some .hour
  | 's' => some .second
  | _ => none

/-- The piece that starts with a character, and how many of the characters after it belong to it. -/
def readPiece (c : Char) (cs : List Char) : PicturePiece × Nat :=
  if c = '"' then
    let text := cs.takeWhile (· ≠ '"')
    (.literal text, text.length + 1)
  else if c = '\\' then (.literal (cs.take 1), 1)
  else if isDigitSign c then
    let (ds, n) := takeDigits (c :: cs)
    (.digits ds, n - 1)
  else if c = '%' then (.percent, 0)
  else if ((c :: cs).take 5).map Char.toUpper = "AM/PM".toList then (.halfDay, 4)
  else
    match datePartOf? c with
    | some code =>
      let n := (cs.takeWhile fun d => d.toLower == c.toLower).length
      (.part code (n + 1), n)
    | none => (.literal [c], 0)

/-- Reads the pieces of one section. -/
def readPieces : List Char → List PicturePiece
  | [] => []
  | c :: cs => (readPiece c cs).1 :: readPieces (cs.drop (readPiece c cs).2)
termination_by cs => cs.length
decreasing_by simp only [List.length_drop, List.length_cons]; omega

/-- Even the empty picture has a section. -/
theorem splitSections_ne_nil (quoted : Bool) (cs : List Char) : splitSections quoted cs ≠ [] := by
  have cons_ne (c : Char) (ss : List (List Char)) : consSection c ss ≠ [] := by
    cases ss <;> simp [consSection]
  fun_cases splitSections quoted cs <;> simp [cons_ne]

/-! ## 2. Filling in digits -/

/-- The signs before the first `c`, and those after it if there is one. -/
def splitAtSign (c : Char) (cs : List Char) : List Char × Option (List Char) :=
  match cs.dropWhile (· ≠ c) with
  | [] => (cs, none)
  | _ :: rest => (cs.takeWhile (· ≠ c), some rest)

/-- How many places for digits there are. -/
def digitPlaces (cs : List Char) : Nat := cs.countP fun c => c == '0' || c == '#'

/-- Digits in groups of three, from the end. -/
def groupThousands : List Char → List Char
  | [] => []
  | [c] => [c]
  | c :: cs => if cs.length % 3 = 0 then c :: ',' :: groupThousands cs else c :: groupThousands cs

/-- Takes at most `n` zeros off the end. -/
def dropZeros (n : Nat) (cs : List Char) : List Char :=
  let zeros := (cs.reverse.takeWhile (· == '0')).length
  cs.take (cs.length - min n zeros)

/-- A number that is not negative, in the places of a picture without an exponent. -/
def fixedPicture (x : Float) (signs : List Char) : List Char :=
  let (before, after) := splitAtSign '.' signs
  let places := digitPlaces (after.getD [])
  let optional := (after.getD []).count '#'
  let least := before.count '0'
  let rendered := fixedText places (roundToPlaces x places)
  let (whole, fraction) := splitAtSign '.' rendered
  let digits := padZeros least (if whole = ['0'] ∧ least = 0 then [] else whole)
  let digits := if before.contains ',' then groupThousands digits else digits
  match after with
  | some _ => digits ++ '.' :: dropZeros optional (fraction.getD [])
  | none => digits

/-- A number that is not negative, with one digit before the point and an exponent. -/
def exponentPicture (x : Float) (signs : List Char) : List Char :=
  let (before, after) := splitAtSign 'E' signs
  let exponentSigns := after.getD "+0".toList
  let width := max 1 (exponentSigns.count '0')
  let places := digitPlaces ((splitAtSign '.' before).2.getD [])
  let exponent : Int :=
    if x == 0 then 0 else truncateWithin (-twoTo 31) (twoTo 31 - 1) (floorOf x.log10)
  let mantissa := roundToPlaces (x / powerOf 10 exponent) places
  let (mantissa, exponent) :=
    if 10 ≤ mantissa then (mantissa / 10, exponent + 1) else (mantissa, exponent)
  let sign :=
    if exponent < 0 then ['-'] else if exponentSigns.head? = some '+' then ['+'] else []
  fixedText places mantissa ++ 'E' :: sign ++ padZeros width (naturalText exponent.natAbs)

/-- The pieces with the first digits filled in and later ones left out. -/
def placeDigits (body : List Char) : Bool → List PicturePiece → List Char
  | _, [] => []
  | placed, .literal cs :: ps => cs ++ placeDigits body placed ps
  | placed, .percent :: ps => '%' :: placeDigits body placed ps
  | false, .digits _ :: ps => body ++ placeDigits body true ps
  | placed, _ :: ps => placeDigits body placed ps

/-- The signs of the first digits of a picture. -/
def digitSigns? (pieces : List PicturePiece) : Option (List Char) :=
  pieces.findSome? fun
    | .digits cs => some cs
    | _ => none

/-- A number in a picture of digits. Each percent sign multiplies by a hundred, and the minus sign
    goes in front where the picture shows a digit other than zero. -/
def numberPicture (pieces : List PicturePiece) (x : Float) (signed : Bool) : List Char :=
  let scaled := x * powerOf 100 (pieces.count .percent)
  let body := match digitSigns? pieces with
    | some signs =>
      if signs.contains 'E' then exponentPicture scaled.abs signs else fixedPicture scaled.abs signs
    | none => []
  let negative := signed && scaled < 0 && body.any fun c => c.isDigit && c != '0'
  minusText negative (placeDigits body false pieces)

/-! ## 3. Filling in dates -/

/-- The first part of a date among some pieces. -/
def nextPart? (pieces : List PicturePiece) : Option DatePart :=
  pieces.findSome? fun
    | .part code _ => some code
    | _ => none

/-- A month of one or two letters right after hours or right before seconds stands for minutes.
    `before` is the part of a date in front. -/
def resolveMinutes (before : Option DatePart) : List PicturePiece → List PicturePiece
  | [] => []
  | .part code width :: ps =>
    let isMinute := code = .month ∧ width ≤ 2 ∧
      (before = some .hour ∨ nextPart? ps = some .second)
    .part (if isMinute then .minute else code) width :: resolveMinutes (some code) ps
  | p :: ps => p :: resolveMinutes before ps

/-- A number in two digits where the letter is written twice or more. -/
def paddedPart (n width : Nat) : List Char := if 2 ≤ width then twoDigits n else naturalText n

/-- The hour, of the half of the day where the picture shows which half it is. -/
def shownHour (halfDays : Bool) (hour : Nat) : Nat :=
  if halfDays then if hour % 12 = 0 then 12 else hour % 12 else hour

/-- One part of a date. -/
def datePart (t : Moment) (halfDays : Bool) (code : DatePart) (width : Nat) : List Char :=
  match code with
  | .year => if width ≤ 2 then twoDigits (t.date.year % 100).toNat else yearText t.date.year
  | .month =>
    if width ≤ 2 then paddedPart t.date.month width
    else if width = 3 then shortName (monthName t.date.month)
    else if width = 4 then monthName t.date.month
    else (monthName t.date.month).take 1
  | .day =>
    if width ≤ 2 then paddedPart t.date.dayOfMonth width
    else if width = 3 then shortName (weekdayName t.date.weekday)
    else weekdayName t.date.weekday
  | .hour => paddedPart (shownHour halfDays t.hour) width
  | .minute => paddedPart t.minute width
  | .second => paddedPart t.secondOfMinute width

/-- A moment in a picture of a date. -/
def datePicture (t : Moment) (pieces : List PicturePiece) : List Char :=
  let halfDays := pieces.contains .halfDay
  pieces.flatMap fun
    | .literal cs => cs
    | .digits cs => cs
    | .percent => ['%']
    | .halfDay => (if t.hour < 12 then "AM" else "PM").toList
    | .part code width => datePart t halfDays code width

/-! ## 4. Values -/

/-- A number in a picture; one with parts of a date takes the number for a serial. -/
def showNumberWith (picture : List Char) (x : Float) : Except ErrorValue (List Char) :=
  let sections := splitSections false picture
  let (shown, x, signed) := match sections with
    | first :: second :: rest =>
      if x < 0 then (second, -x, false)
      else match rest with
        | third :: _ => if x == 0 then (third, x, false) else (first, x, true)
        | [] => (first, x, true)
    | [first] => (first, x, true)
    | [] => ([], x, true)
  let pieces := readPieces shown
  if (nextPart? pieces).isSome then
    match momentOfSerial? x with
    | some t => .ok (datePicture t (resolveMinutes none pieces))
    | none => .error .value
  else .ok (numberPicture pieces x signed)

/-- A value in a picture. A text that is no number and a truth value are shown as they are. -/
def showWith (picture : List Char) : Value → Except ErrorValue (List Char)
  | .error e => .error e
  | .boolean b => .ok (Value.booleanText b).toList
  | .text s =>
    match (Value.text s).toNumber with
    | .ok x => showNumberWith picture x
    | .error _ => .ok s.toList
  | v =>
    match v.toNumber with
    | .ok x => showNumberWith picture x
    | .error e => .error e

end Gridcalc
