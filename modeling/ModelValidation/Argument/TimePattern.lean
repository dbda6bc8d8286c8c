import ModelValidation.Calendar
import ModelValidation.Culture
import ModelValidation.Numeral

/-!
# Patterns of dates and times

A pattern is text in which a percent sign introduces a specifier: `%Y` the year, `%m` the month, `%H` the hour and so
on.  A hyphen, a zero or an underscore behind the percent sign sets how a single number is padded.  A pattern
with a specifier that has no meaning for a time without offset is none.
-/

namespace ModelValidation

open Numeral

namespace TimePattern

/-- How a number is brought to its width. -/
inductive Pad where
  | none
  | zero
  | space
  deriving DecidableEq, Repr

/-- The numbers that a pattern can show. -/
inductive Field where
  | year
  | century
  | yearOfCentury
  | isoYear
  | isoYearOfCentury
  | quarter
  | month
  | day
  | weekFromSunday
  | weekFromMonday
  | isoWeek
  | daysFromSunday
  | isoWeekday
  | dayOfYear
  | hour
  | hour12
  | minute
  | second
  | nanosecond
  | timestamp
  deriving DecidableEq, Repr

/-- A piece of a pattern. -/
inductive Piece where
  | literal (c : Char)
  | number (field : Field) (pad : Pad)
  | weekdayName (short : Bool)
  | monthName (short : Bool)
  | dayHalf (upper : Bool)
  /-- A fraction of a second with a fixed count of digits. -/
  | fraction (point : Bool) (places : Nat)
  /-- A fraction of a second with no, three, six or nine digits, as it needs. -/
  | shortFraction
  deriving DecidableEq, Repr

/-! ### Reading -/

/-- The number that a letter shows, with its usual padding. -/
def number? : Char → Option (Field × Pad)
  | 'Y' => some (.year, .zero)
  | 'C' => some (.century, .zero)
  | 'y' => some (.yearOfCentury, .zero)
  | 'G' => some (.isoYear, .zero)
  | 'g' => some (.isoYearOfCentury, .zero)
  | 'q' => some (.quarter, .none)
  | 'm' => some (.month, .zero)
  | 'd' => some (.day, .zero)
  | 'e' => some (.day, .space)
  | 'U' => some (.weekFromSunday, .zero)
  | 'W' => some (.weekFromMonday, .zero)
  | 'V' => some (.isoWeek, .zero)
  | 'w' => some (.daysFromSunday, .none)
  | 'u' => some (.isoWeekday, .none)
  | 'j' => some (.dayOfYear, .zero)
  | 'H' => some (.hour, .zero)
  | 'k' => some (.hour, .space)
  | 'I' => some (.hour12, .zero)
  | 'l' => some (.hour12, .space)
  | 'M' => some (.minute, .zero)
  | 'S' => some (.second, .zero)
  | 'f' => some (.nanosecond, .zero)
  | 's' => some (.timestamp, .none)
  | _ => none

private def two (field : Field) : Piece := .number field .zero

/-- Month, day and year between slashes. -/
def slashedDate : List Piece :=
  [two .month, .literal '/', two .day, .literal '/', two .yearOfCentury]

/-- Hour, minute and second between colons. -/
def clock (hours : Field) : List Piece :=
  [two hours, .literal ':', two .minute, .literal ':', two .second]

/-- What a letter shows. -/
def letter? (c : Char) : Option (List Piece) :=
  match number? c with
  | some (field, pad) => some [.number field pad]
  | none =>
    match c with
    | '%' => some [.literal '%']
    | 'n' => some [.literal '\n']
    | 't' => some [.literal '\t']
    | 'a' => some [.weekdayName true]
    | 'A' => some [.weekdayName false]
    | 'b' | 'h' => some [.monthName true]
    | 'B' => some [.monthName false]
    | 'p' => some [.dayHalf true]
    | 'P' => some [.dayHalf false]
    | 'D' | 'x' => some slashedDate
    | 'F' => some [two .year, .literal '-', two .month, .literal '-', two .day]
    | 'R' => some [two .hour, .literal ':', two .minute]
    | 'T' | 'X' => some (clock .hour)
    | 'r' => some (clock .hour12 ++ [.literal ' ', .dayHalf true])
    | 'v' => some [.number .day .space, .literal '-', .monthName true, .literal '-', two .year]
    | 'c' =>
      some ([.weekdayName true, .literal ' ', .monthName true, .literal ' ', .number .day .space, .literal ' '] ++
        clock .hour ++ [.literal ' ', two .year])
    | _ => none

/-- How a flag behind the percent sign pads. -/
def pad? : Char → Option Pad
  | '-' => some .none
  | '0' => some .zero
  | '_' => some .space
  | _ => none

/-- How many places a digit in front of `f` asks for. -/
def places? : Char → Option Nat
  | '3' => some 3
  | '6' => some 6
  | '9' => some 9
  | _ => none

/-- The specifier behind a percent sign, and what follows it. -/
def specifier? : List Char → Option (List Piece × List Char)
  | [] => none
  | c :: cs =>
    match pad? c, cs with
    | some pad, d :: cs => (number? d).map fun (field, _) => ([.number field pad], cs)
    | some _, [] => none
    | none, cs =>
      match places? c, cs with
      | some places, 'f' :: cs => some ([.fraction false places], cs)
      | _, cs =>
        if c = '.' then
          match cs with
          | 'f' :: cs => some ([.shortFraction], cs)
          | d :: 'f' :: cs => (places? d).map fun places => ([.fraction true places], cs)
          | _ => none
        else (letter? c).map (·, cs)

theorem specifier?_shorter {cs rest : List Char} {ps : List Piece} (h : specifier? cs = some (ps, rest)) :
    rest.length < cs.length := by
  unfold specifier? at h
  repeat' split at h
  all_goals simp_all <;> grind

/-- The pieces of a pattern. -/
def parse? (cs : List Char) : Option (List Piece) :=
  match cs with
  | [] => some []
  | c :: cs =>
    if c = '%' then
      match _h : specifier? cs with
      | some (ps, rest) => (parse? rest).map (ps ++ ·)
      | none => none
    else (parse? cs).map (.literal c :: ·)
termination_by cs.length
decreasing_by
  · have := specifier?_shorter _h
    simp; omega
  · simp

/-! ### Writing -/

/-- The characters brought to a width from the left. -/
def Pad.bring (pad : Pad) (width : Nat) (sign ds : List Char) : List Char :=
  match pad with
  | .none => sign ++ ds
  | .zero => sign ++ padded (width - sign.length) ds
  | .space => (sign ++ ds).leftpad width ' '

/-- A number of two digits.  It is taken modulo 256, and what stands for tens beyond nine is the character as many
places after the zero. -/
def twoDigits (pad : Pad) (n : Int) : List Char :=
  let n := (n % 256).toNat
  let tens :=
    match n / 10, pad with
    | 0, .none => []
    | 0, .space => [' ']
    | tens, _ => [Char.ofNat (48 + tens)]
  tens ++ [Char.ofNat (48 + n % 10)]

/-- A number of a given width. -/
def wide (pad : Pad) (width : Nat) (i : Int) : List Char :=
  pad.bring width (if i < 0 then ['-'] else []) (decimal i.natAbs)

/-- A year of four digits; one outside `0 ... 9999` always has a sign. -/
def yearDigits (pad : Pad) (year : Int) : List Char :=
  if 0 ≤ year ∧ year ≤ 9999 then wide pad 4 year
  else pad.bring 5 [if year < 0 then '-' else '+'] (decimal year.natAbs)

/-- A number of a time. -/
def Field.write (t : DateTime) (pad : Pad) : Field → List Char
  | .year => yearDigits pad t.year
  | .century => twoDigits pad (t.year.fdiv 100)
  | .yearOfCentury => twoDigits pad (t.year % 100)
  | .isoYear => yearDigits pad t.isoYear
  | .isoYearOfCentury => twoDigits pad (t.isoYear % 100)
  | .quarter => decimal ((t.month + 2) / 3)
  | .month => twoDigits pad t.month
  | .day => twoDigits pad t.day
  | .weekFromSunday => twoDigits pad (t.weeksFrom 6)
  | .weekFromMonday => twoDigits pad (t.weeksFrom 0)
  | .isoWeek => twoDigits pad t.isoWeek
  | .daysFromSunday => decimal ((t.weekday + 1) % 7)
  | .isoWeekday => decimal (t.weekday + 1)
  | .dayOfYear => wide pad 3 t.ordinal
  | .hour => twoDigits pad t.hour
  | .hour12 => twoDigits pad t.hour12
  | .minute => twoDigits pad t.minute
  | .second => twoDigits pad (t.second + t.nanosecond / 1000000000 : Nat)
  | .nanosecond => wide pad 9 (t.nanosecond % 1000000000 : Nat)
  | .timestamp => wide pad 9 t.timestamp

/-- The first digits of the fraction of a second. -/
def fractionDigits (t : DateTime) (places : Nat) : List Char :=
  (padded 9 (decimal (t.nanosecond % 1000000000))).take places

/-- A piece of a pattern filled in. -/
def Piece.write (t : DateTime) : Piece → List Char
  | .literal c => [c]
  | .number field pad => field.write t pad
  | .weekdayName short => cut short (Calendar.weekdayNames.getD t.weekday "")
  | .monthName short => cut short (Calendar.monthNames.getD (t.month - 1) "")
  | .dayHalf upper => (if t.hour < 12 then if upper then "AM" else "am" else if upper then "PM" else "pm").toList
  | .fraction point places => (if point then ['.'] else []) ++ fractionDigits t places
  | .shortFraction =>
    let nanos := t.nanosecond % 1000000000
    if nanos = 0 then []
    else '.' :: fractionDigits t (if nanos % 1000000 = 0 then 3 else if nanos % 1000 = 0 then 6 else 9)
where
  /-- A name, or its first three letters. -/
  cut (short : Bool) (name : String) : List Char :=
    if short then name.toList.take 3 else name.toList

/-- The time after a pattern, if the text is one. -/
def write? (t : DateTime) (pattern : String) : Option String :=
  (parse? pattern.toList).map fun ps => String.ofList (ps.flatMap (·.write t))

end TimePattern

/-- The time after a pattern; the usual pattern of the culture takes the place of none and of what is no pattern. -/
def DateTime.format (t : DateTime) (pattern : Option String) (culture : Culture) : String :=
  ((TimePattern.write? t (pattern.getD culture.dateTimePattern)).or
    (TimePattern.write? t culture.dateTimePattern)).getD ""

end ModelValidation
