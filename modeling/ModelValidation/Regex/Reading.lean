import ModelValidation.Json.Document
import ModelValidation.Regex

/-!
# Reading patterns

Patterns are alternatives of sequences of repeated atoms; an atom is a character, a set in brackets, a group with or
without a name, an anchor or an escape.  The flags `(?i)`, `(?m)` and `(?s)` hold up to the end of their group: case is
set aside, the anchors of texts become those of lines, and the point stands for the line feed as well.

A set lists characters, ranges, classes and further sets; `&&`, `--` and `~~` between two such lists stand for the
intersection, the difference and the unshared part, the leftmost first.
-/

namespace ModelValidation.Regex

/-! ### Flags -/

/-- What flags have set. -/
structure Flags where
  ignoreCase : Bool
  multiLine : Bool
  dotAll : Bool

/-- Nothing is set. -/
def Flags.none : Flags := ⟨false, false, false⟩

/-- Flags up to the sign that ends them, which opens a group if it is a colon.  Behind a hyphen flags are taken back.
Whether repetitions are greedy, the flag `U`, is of no account. -/
def flags? (on : Bool) (flags : Flags) : List Char → Option (Flags × Bool × List Char)
  | 'i' :: cs => flags? on { flags with ignoreCase := on } cs
  | 'm' :: cs => flags? on { flags with multiLine := on } cs
  | 's' :: cs => flags? on { flags with dotAll := on } cs
  | 'U' :: cs => flags? on flags cs
  | '-' :: cs => if on then flags? false flags cs else Option.none
  | ':' :: cs => some (flags, true, cs)
  | ')' :: cs => some (flags, false, cs)
  | _ => Option.none

/-- The flags behind an opening parenthesis that ends with them. -/
def inlineFlags? (flags : Flags) : List Char → Option (Flags × List Char)
  | '(' :: '?' :: cs =>
    match flags? true flags cs with
    | some (flags, false, rest) => some (flags, rest)
    | _ => Option.none
  | _ => Option.none

/-! ### Characters -/

/-- The set of one character. -/
def oneOf (ignoreCase : Bool) (c : Char) : CharSet := .range c c ignoreCase

/-- Every character, or every one but the line feed. -/
def anyChar (dotAll : Bool) : CharSet :=
  .complement (if dotAll then .none else oneOf false '\n')

/-- The class that a letter stands for; a capital letter stands for its complement. -/
def class? : Char → Option CharSet
  | 'd' => some (.ofClass .digit)
  | 'D' => some (.complement (.ofClass .digit))
  | 'w' => some (.ofClass .word)
  | 'W' => some (.complement (.ofClass .word))
  | 's' => some (.ofClass .space)
  | 'S' => some (.complement (.ofClass .space))
  | _ => none

/-- The character of a code point written in hexadecimal. -/
def charOfHex? (ds : List Char) : Option Char := do
  if ds = [] then none
  let n ← ds.foldlM (fun n d => (JsonDocument.hexValue? d).map (n * 16 + ·)) 0
  if n.isValidChar then some (Char.ofNat n) else none

/-- A code point in braces, or else of the given number of digits, and what follows it. -/
def codePoint? (digits : Nat) : List Char → Option (Char × List Char)
  | '\x7b' :: cs => (charOfHex? (cs.takeWhile (· != '\x7d'))).map (·, (cs.dropWhile (· != '\x7d')).drop 1)
  | cs => if cs.length < digits then none else (charOfHex? (cs.take digits)).map (·, cs.drop digits)

/-- The character behind a backslash, and what follows it. -/
def escaped? : List Char → Option (Char × List Char)
  | 'n' :: cs => some ('\n', cs)
  | 'r' :: cs => some ('\r', cs)
  | 't' :: cs => some ('\t', cs)
  | 'f' :: cs => some ('\x0c', cs)
  | 'v' :: cs => some ('\x0b', cs)
  | 'a' :: cs => some ('\x07', cs)
  | 'x' :: cs => codePoint? 2 cs
  | 'u' :: cs => codePoint? 4 cs
  | 'U' :: cs => codePoint? 8 cs
  | c :: cs => if c.isAlphanum || 0x80 ≤ c.toNat || c = '<' || c = '>' then none else some (c, cs)
  | [] => none

/-! ### Sets in brackets -/

/-- One member of a set, or a class with a letter, and what follows it. -/
def item? : List Char → Option ((Char ⊕ CharSet) × List Char)
  | '\\' :: c :: cs =>
    match class? c with
    | some s => some (.inr s, cs)
    | none => (escaped? (c :: cs)).map fun (d, rest) => (.inl d, rest)
  | c :: cs => some (.inl c, cs)
  | [] => none

/-- A range, a character or a class, and what follows it.  A hyphen before the end of the set or before another hyphen
makes no range. -/
def range? (ignoreCase : Bool) (cs : List Char) : Option (CharSet × List Char) := do
  let (first, rest) ← item? cs
  let single : CharSet × List Char := (first.elim (oneOf ignoreCase) id, rest)
  match rest with
  | '-' :: ']' :: _ | '-' :: '-' :: _ => some single
  | '-' :: rest =>
    match first, ← item? rest with
    | .inl first, (.inl last, rest) => if first ≤ last then some (.range first last ignoreCase, rest) else none
    | _, _ => none
  | _ => some single

/-- The characters of classes with a name, all of them ASCII. -/
def namedRanges? : (name : String) → Option (List (Char × Char))
  | "alnum" => some [('0', '9'), ('A', 'Z'), ('a', 'z')]
  | "alpha" => some [('A', 'Z'), ('a', 'z')]
  | "ascii" => some [('\x00', '\x7f')]
  | "blank" => some [('\t', '\t'), (' ', ' ')]
  | "cntrl" => some [('\x00', '\x1f'), ('\x7f', '\x7f')]
  | "digit" => some [('0', '9')]
  | "graph" => some [('!', '~')]
  | "lower" => some [('a', 'z')]
  | "print" => some [(' ', '~')]
  | "punct" => some [('!', '/'), (':', '@'), ('[', '\x60'), ('\x7b', '~')]
  | "space" => some [('\t', '\r'), (' ', ' ')]
  | "upper" => some [('A', 'Z')]
  | "word" => some [('0', '9'), ('A', 'Z'), ('_', '_'), ('a', 'z')]
  | "xdigit" => some [('0', '9'), ('A', 'F'), ('a', 'f')]
  | _ => none

/-- The union of ranges. -/
def ofRanges (ignoreCase : Bool) (ranges : List (Char × Char)) : CharSet :=
  ranges.foldl (fun s (first, last) => .union s (.range first last ignoreCase)) .none

/-- A class with a name behind its opening bracket: the name between colons, perhaps behind a caret. -/
def namedClass? (ignoreCase : Bool) : List Char → Option (CharSet × List Char)
  | ':' :: cs =>
    let (negated, cs) := match cs with
      | '^' :: cs => (true, cs)
      | cs => (false, cs)
    match cs.dropWhile (· != ':') with
    | ':' :: ']' :: rest =>
      (namedRanges? (String.ofList (cs.takeWhile (· != ':')))).map fun ranges =>
        (if negated then .complement (ofRanges ignoreCase ranges) else ofRanges ignoreCase ranges, rest)
    | _ => none
  | _ => none

/-- A caret behind an opening bracket, and what follows it. -/
def caret : List Char → Bool × List Char
  | '^' :: cs => (true, cs)
  | cs => (false, cs)

/-- Characters that stand for themselves at the front of a set: any number of hyphens, or else a closing bracket. -/
def front (ignoreCase : Bool) (cs : List Char) : CharSet × List Char :=
  match cs with
  | '-' :: _ => (oneOf ignoreCase '-', cs.dropWhile (· = '-'))
  | ']' :: rest => (oneOf ignoreCase ']', rest)
  | _ => (.none, cs)

mutual

/-- A set behind its opening bracket. -/
def set? (ignoreCase : Bool) : (fuel : Nat) → List Char → Option (CharSet × List Char)
  | 0, _ => none
  | fuel + 1, cs => do
    let (negated, cs) := caret cs
    let (read, cs) := front ignoreCase cs
    let (s, rest) ← setRest? ignoreCase fuel id read cs
    some (if negated then .complement s else s, rest)

/-- The rest of a set behind the list read so far, given what the whole is once that list is complete. -/
def setRest? (ignoreCase : Bool) :
    (fuel : Nat) → (whole : CharSet → CharSet) → (read : CharSet) → List Char → Option (CharSet × List Char)
  | 0, _, _, _ => none
  | fuel + 1, whole, read, cs =>
    match cs with
    | ']' :: rest => some (whole read, rest)
    | '&' :: '&' :: rest => setRest? ignoreCase fuel (.intersection (whole read)) .none rest
    | '-' :: '-' :: rest => setRest? ignoreCase fuel (.difference (whole read)) .none rest
    | '~' :: '~' :: rest => setRest? ignoreCase fuel (.unshared (whole read)) .none rest
    | '[' :: rest => do
      let (s, rest) ← namedClass? ignoreCase rest <|> set? ignoreCase fuel rest
      setRest? ignoreCase fuel whole (.union read s) rest
    | cs => do
      let (s, rest) ← range? ignoreCase cs
      setRest? ignoreCase fuel whole (.union read s) rest

end

/-! ### Repetition -/

/-- A natural in front of a text, if there is one; blanks around it do not count. -/
def count? (cs : List Char) : Option Nat × List Char :=
  let cs := cs.dropWhile Text.isBlank
  let ds := cs.takeWhile Char.isDigit
  (if ds = [] then none else some (Nat.ofDigitChars 10 ds 0), (cs.dropWhile Char.isDigit).dropWhile Text.isBlank)

/-- The bounds of a repetition behind an opening brace. -/
def bounds? (cs : List Char) : Option (Nat × Option Nat × List Char) :=
  match count? cs with
  | (some least, '\x7d' :: rest) => some (least, some least, rest)
  | (some least, ',' :: '\x7d' :: rest) => some (least, none, rest)
  | (some least, ',' :: rest) =>
    match count? rest with
    | (some most, '\x7d' :: rest) => if least ≤ most then some (least, some most, rest) else none
    | _ => none
  | _ => none

/-- The atom with the repetitions that follow it; whether a repetition is lazy is of no account. -/
def repetitions? : (fuel : Nat) → Regex → List Char → Option (Regex × List Char)
  | 0, _, _ => none
  | fuel + 1, a, cs =>
    let again (least : Nat) (most : Option Nat) (cs : List Char) : Option (Regex × List Char) :=
      let cs := match cs with
        | '?' :: cs => cs
        | cs => cs
      repetitions? fuel (.repeated a least most) cs
    match cs with
    | '*' :: cs => again 0 none cs
    | '+' :: cs => again 1 none cs
    | '?' :: cs => again 0 (some 1) cs
    | '\x7b' :: cs =>
      match bounds? cs with
      | some (least, most, cs) => again least most cs
      | none => none
    | cs => some (a, cs)

/-! ### Groups -/

/-- An anchor or an escape behind a backslash. -/
def escape? (ignoreCase : Bool) : List Char → Option (Regex × List Char)
  | 'b' :: cs => some (.here (.wordBoundary false), cs)
  | 'B' :: cs => some (.here (.wordBoundary true), cs)
  | 'A' :: cs => some (.here .textStart, cs)
  | 'z' :: cs => some (.here .textEnd, cs)
  | c :: cs =>
    match class? c with
    | some s => some (.one s, cs)
    | none => (escaped? (c :: cs)).map fun (d, rest) => (.one (oneOf ignoreCase d), rest)
  | [] => none

/-- What follows the mark and the name of a group behind its opening parenthesis, with the flags inside it. -/
def groupStart? (flags : Flags) : List Char → Option (Flags × List Char)
  | '?' :: 'P' :: '<' :: cs | '?' :: '<' :: cs => some (flags, (cs.dropWhile (· != '>')).drop 1)
  | '?' :: cs =>
    match flags? true flags cs with
    | some (flags, true, rest) => some (flags, rest)
    | _ => none
  | cs => some (flags, cs)

mutual

/-- Alternatives up to the end of a group or of the text. -/
def alternatives? : (fuel : Nat) → Flags → List Char → Option (Regex × List Char)
  | 0, _, _ => none
  | fuel + 1, flags, cs => do
    let (r, flags, rest) ← sequence? fuel flags cs
    match rest with
    | '|' :: rest =>
      let (t, rest) ← alternatives? fuel flags rest
      some (.either r t, rest)
    | rest => some (r, rest)

/-- Atoms one after another, and the flags behind them. -/
def sequence? : (fuel : Nat) → Flags → List Char → Option (Regex × Flags × List Char)
  | 0, _, _ => none
  | fuel + 1, flags, cs =>
    match cs with
    | [] => some (.nothing, flags, [])
    | '|' :: _ | ')' :: _ => some (.nothing, flags, cs)
    | cs =>
      match inlineFlags? flags cs with
      | some (flags, rest) => sequence? fuel flags rest
      | none => do
        let (r, rest) ← atom? fuel flags cs
        let (r, rest) ← repetitions? (rest.length + 1) r rest
        let (t, flags, rest) ← sequence? fuel flags rest
        some (.sequence r t, flags, rest)

/-- One atom. -/
def atom? : (fuel : Nat) → Flags → List Char → Option (Regex × List Char)
  | 0, _, _ => none
  | fuel + 1, flags, cs =>
    match cs with
    | '(' :: cs => do
      let (flags, cs) ← groupStart? flags cs
      match ← alternatives? fuel flags cs with
      | (r, ')' :: rest) => some (r, rest)
      | _ => none
    | '[' :: cs => (set? flags.ignoreCase (2 * cs.length + 2) cs).map fun (s, rest) => (.one s, rest)
    | '.' :: cs => some (.one (anyChar flags.dotAll), cs)
    | '^' :: cs => some (.here (if flags.multiLine then .lineStart else .textStart), cs)
    | '$' :: cs => some (.here (if flags.multiLine then .lineEnd else .textEnd), cs)
    | '\\' :: cs => escape? flags.ignoreCase cs
    | '*' :: _ | '+' :: _ | '?' :: _ | '\x7b' :: _ => none
    | c :: cs => some (.one (oneOf flags.ignoreCase c), cs)
    | [] => none

end

/-- Reads a pattern; two steps take at least one character, which bounds the nesting. -/
def parse? (pattern : String) : Option Regex :=
  let cs := pattern.toList
  match alternatives? (3 * cs.length + 3) .none cs with
  | some (r, []) => some r
  | _ => none

end ModelValidation.Regex
