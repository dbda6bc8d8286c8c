import ModelValidation.Culture
import ModelValidation.Numeral

/-!
# Durations in messages

A duration is written by default as `[-][d.]hh:mm:ss[.fffffff]`, its fraction in units of a hundred nanoseconds, or
after a format: runs of the letters `d`, `h`, `m`, `s`, `f` stand for days, hours, minutes, seconds and the fraction,
a backslash and quotes mark literal text, and all else is copied.
-/

namespace ModelValidation

open Numeral

/-- A span of time as a signed count of nanoseconds. -/
structure Duration where
  nanoseconds : Int
  deriving DecidableEq, Repr

namespace Duration

def isNegative (d : Duration) : Bool := d.nanoseconds < 0

/-- Whole seconds of the magnitude. -/
def totalSeconds (d : Duration) : Nat := d.nanoseconds.natAbs / 1000000000

def days (d : Duration) : Nat := d.totalSeconds / 86400

def hours (d : Duration) : Nat := d.totalSeconds / 3600 % 24

def minutes (d : Duration) : Nat := d.totalSeconds / 60 % 60

def seconds (d : Duration) : Nat := d.totalSeconds % 60

/-- Hundreds of nanoseconds beyond the whole seconds. -/
def ticks (d : Duration) : Nat := d.nanoseconds.natAbs % 1000000000 / 100

/-- The default form. -/
def standard (d : Duration) (culture : Culture) : List Char :=
  (if d.isNegative then ['-'] else []) ++
    (if 0 < d.days then decimal d.days ++ ['.'] else []) ++
    padded 2 (decimal d.hours) ++ ':' :: padded 2 (decimal d.minutes) ++ ':' :: padded 2 (decimal d.seconds) ++
    (if 0 < d.ticks then culture.decimalSeparator :: padded 7 (decimal d.ticks) else [])

/-! ### Formats -/

/-- A segment of a format. -/
inductive Segment where
  /-- A run of one of the five letters. -/
  | run (letter : Char) (width : Nat)
  /-- Escaped or quoted text. -/
  | literal (cs : List Char)
  /-- Any other character. -/
  | plain (c : Char)
  deriving DecidableEq, Repr

/-- One of the letters that stand for a part of a duration. -/
def isPart (c : Char) : Bool :=
  c = 'd' || c = 'h' || c = 'm' || c = 's' || c = 'f'

/-- The segments of a format.  A quote without its fellow reaches to the end, and a backslash at the end is nothing. -/
def segments (cs : List Char) : List Segment :=
  match cs with
  | [] => []
  | c :: cs =>
    if isPart c then .run c (1 + (cs.takeWhile (· = c)).length) :: segments (cs.dropWhile (· = c))
    else if c = '\\' then
      match cs with
      | [] => []
      | d :: cs => .literal [d] :: segments cs
    else if c = '\'' ∨ c = '"' then
      .literal (cs.takeWhile (· ≠ c)) :: segments ((cs.dropWhile (· ≠ c)).drop 1)
    else .plain c :: segments cs
termination_by cs.length
decreasing_by
  · have := (List.dropWhile_suffix (· = c) : cs.dropWhile (· = c) <:+ cs).length_le
    grind
  · grind
  · have := (List.dropWhile_suffix (· ≠ c) : cs.dropWhile (· ≠ c) <:+ cs).length_le
    grind
  · grind

/-- A part of the duration in a run of `width` letters; the days of a run that is overlong cannot be written. -/
def part (d : Duration) (letter : Char) (width : Nat) : List Char :=
  match letter with
  | 'd' => padded width (decimal d.days)
  | 'h' => padded (min width 2) (decimal d.hours)
  | 'm' => padded (min width 2) (decimal d.minutes)
  | 's' => padded (min width 2) (decimal d.seconds)
  | _ => (padded 7 (decimal d.ticks)).take (min width 7)

/-- A run of days asks for more digits than a number can be padded to; no other part is padded to more than two. -/
def Segment.isOverlong : Segment → Bool
  | .run 'd' width => formatLimit < width
  | _ => false

/-- What a segment writes, given whether nothing is written yet: a hyphen at the very front is the sign. -/
def Segment.write (d : Duration) (atStart : Bool) : Segment → List Char
  | .run letter width => d.part letter width
  | .literal cs => cs
  | .plain c => if c = '-' ∧ atStart then if d.isNegative then ['-'] else [] else [c]

/-- The segments written one after another; those that write nothing leave the next one at the start. -/
def writeSegments (d : Duration) (atStart : Bool) : List Segment → List Char
  | [] => []
  | s :: ss =>
    let written := s.write d atStart
    written ++ d.writeSegments (atStart && written.isEmpty) ss

/-- The duration after a format; an empty format is none. -/
def format (d : Duration) (fmt : Option String) (culture : Culture) : String :=
  String.ofList <|
    match fmt with
    | none | some "" => d.standard culture
    | some fmt => d.writeSegments true (segments fmt.toList)

/-- The program stops in the format, at a run of days that is overlong. -/
def stops (fmt : Option String) : Bool :=
  (segments (fmt.getD "").toList).any Segment.isOverlong

end Duration

end ModelValidation
