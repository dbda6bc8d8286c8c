import ModelValidation.Numeral

/-!
# JSON documents as they are written

The grammar of JSON: a document is read into a tree that keeps numbers as digits, repeated keys, and strings that no
text has because half of a surrogate pair stands alone in them.  What such a tree is worth is decided later.
-/

namespace ModelValidation

/-- A number as it is written. -/
structure JsonNumeral where
  negative : Bool
  whole : List Char
  /-- The digits behind the point, if there is one. -/
  fraction : Option (List Char)
  /-- The sign and the digits of the exponent, if there is one. -/
  exponent : Option (Bool × List Char)

/-- A document.  A string is absent where half of a surrogate pair stands alone. -/
inductive JsonDocument where
  | null
  | bool (b : Bool)
  | number (n : JsonNumeral)
  | string (s : Option String)
  | array (items : List JsonDocument)
  | object (entries : List (Option String × JsonDocument))

namespace JsonDocument

/-- Blanks between tokens. -/
def isSpace (c : Char) : Bool :=
  c = ' ' || c = '\n' || c = '\t' || c = '\r'

def skipSpace (cs : List Char) : List Char := cs.dropWhile isSpace

/-! ### Strings -/

/-- A character of a string, or a code unit of two bytes given by an escape. -/
inductive StringUnit where
  | char (c : Char)
  | code (n : Nat)

/-- The value of a hexadecimal digit. -/
def hexValue? (c : Char) : Option Nat :=
  if c.isDigit then some (c.toNat - '0'.toNat)
  else if 'a' ≤ c ∧ c ≤ 'f' then some (c.toNat - 'a'.toNat + 10)
  else if 'A' ≤ c ∧ c ≤ 'F' then some (c.toNat - 'A'.toNat + 10)
  else none

/-- The character that a letter behind a backslash stands for. -/
def escaped? : Char → Option Char
  | '"' => some '"'
  | '\\' => some '\\'
  | '/' => some '/'
  | 'b' => some '\x08'
  | 'f' => some '\x0c'
  | 'n' => some '\n'
  | 'r' => some '\r'
  | 't' => some '\t'
  | _ => none

/-- The units of a string behind its opening quote, and what follows the closing one. -/
def units? : List Char → Option (List StringUnit × List Char)
  | '"' :: cs => some ([], cs)
  | '\\' :: 'u' :: a :: b :: c :: d :: cs => do
    let n := (((← hexValue? a) * 16 + (← hexValue? b)) * 16 + (← hexValue? c)) * 16 + (← hexValue? d)
    let (us, rest) ← units? cs
    return (.code n :: us, rest)
  | '\\' :: c :: cs => do
    let e ← escaped? c
    let (us, rest) ← units? cs
    return (.char e :: us, rest)
  | c :: cs =>
    if c.toNat < 0x20 ∨ c = '\\' then none
    else do
      let (us, rest) ← units? cs
      return (.char c :: us, rest)
  | [] => none

/-- The text of units: two halves of a surrogate pair give one character, and a half alone gives no text. -/
def join? : List StringUnit → Option (List Char)
  | [] => some []
  | .char c :: us => (join? us).map (c :: ·)
  | .code n :: .code k :: us =>
    if 0xD800 ≤ n ∧ n < 0xDC00 then
      if 0xDC00 ≤ k ∧ k < 0xE000 then
        (join? us).map (Char.ofNat (0x10000 + (n - 0xD800) * 0x400 + (k - 0xDC00)) :: ·)
      else none
    else if 0xDC00 ≤ n ∧ n < 0xE000 then none
    else (join? (.code k :: us)).map (Char.ofNat n :: ·)
  | .code n :: us => if 0xD800 ≤ n ∧ n < 0xE000 then none else (join? us).map (Char.ofNat n :: ·)

/-- A string behind its opening quote. -/
def readString? (cs : List Char) : Option (Option String × List Char) :=
  (units? cs).map fun (us, rest) => ((join? us).map String.ofList, rest)

/-! ### Numbers -/

/-- At least one digit, and what follows the digits. -/
def digits? (cs : List Char) : Option (List Char × List Char) :=
  match cs.takeWhile Char.isDigit with
  | [] => none
  | ds => some (ds, cs.dropWhile Char.isDigit)

/-- A number.  Its whole part has no zero in front of other digits. -/
def readNumeral? (cs : List Char) : Option (JsonNumeral × List Char) := do
  let (negative, cs) := match cs with
    | '-' :: cs => (true, cs)
    | cs => (false, cs)
  let (whole, cs) ← digits? cs
  if whole.head? = some '0' ∧ whole.length ≠ 1 then none
  let (fraction, cs) ← match cs with
    | '.' :: cs => (digits? cs).map fun (ds, cs) => (some ds, cs)
    | cs => some (none, cs)
  let (exponent, cs) ← match cs with
    | 'e' :: cs | 'E' :: cs =>
      let (below, cs) := match cs with
        | '-' :: cs => (true, cs)
        | '+' :: cs => (false, cs)
        | cs => (false, cs)
      (digits? cs).map fun (ds, cs) => (some (below, ds), cs)
    | cs => some (none, cs)
  return (⟨negative, whole, fraction, exponent⟩, cs)

/-! ### Values -/

/-- What follows a word, if the text begins with it. -/
def word? (word : String) (cs : List Char) : Option (List Char) :=
  if word.toList.isPrefixOf cs then some (cs.drop word.length) else none

mutual

/-- A value and what follows it; `fuel` bounds the nesting. -/
def readValue? : (fuel : Nat) → List Char → Option (JsonDocument × List Char)
  | 0, _ => none
  | fuel + 1, cs =>
    match skipSpace cs with
    | '"' :: cs => (readString? cs).map fun (s, rest) => (.string s, rest)
    | '[' :: cs =>
      match skipSpace cs with
      | ']' :: cs => some (.array [], cs)
      | cs => (readItems? fuel cs).map fun (vs, rest) => (.array vs, rest)
    | '\x7b' :: cs =>
      match skipSpace cs with
      | '\x7d' :: cs => some (.object [], cs)
      | cs => (readEntries? fuel cs).map fun (es, rest) => (.object es, rest)
    | cs =>
      match word? "null" cs, word? "true" cs, word? "false" cs with
      | some rest, _, _ => some (.null, rest)
      | _, some rest, _ => some (.bool true, rest)
      | _, _, some rest => some (.bool false, rest)
      | _, _, _ => (readNumeral? cs).map fun (n, rest) => (.number n, rest)

/-- The items of an array up to its end. -/
def readItems? : (fuel : Nat) → List Char → Option (List JsonDocument × List Char)
  | 0, _ => none
  | fuel + 1, cs => do
    let (v, cs) ← readValue? fuel cs
    match skipSpace cs with
    | ']' :: cs => some ([v], cs)
    | ',' :: cs =>
      let (vs, cs) ← readItems? fuel cs
      some (v :: vs, cs)
    | _ => none

/-- The entries of an object up to its end. -/
def readEntries? : (fuel : Nat) → List Char → Option (List (Option String × JsonDocument) × List Char)
  | 0, _ => none
  | fuel + 1, cs =>
    match skipSpace cs with
    | '"' :: cs => do
      let (k, cs) ← readString? cs
      match skipSpace cs with
      | ':' :: cs =>
        let (v, cs) ← readValue? fuel cs
        match skipSpace cs with
        | '\x7d' :: cs => some ([(k, v)], cs)
        | ',' :: cs =>
          let (es, cs) ← readEntries? fuel cs
          some ((k, v) :: es, cs)
        | _ => none
      | _ => none
    | _ => none

end

/-- Reads a whole text; each step but the last takes a character, which bounds the nesting. -/
def parse? (s : String) : Option JsonDocument :=
  let cs := s.toList
  match readValue? (2 * cs.length + 2) cs with
  | some (d, rest) => if skipSpace rest = [] then some d else none
  | none => none

end JsonDocument

end ModelValidation
