import ModelValidation.Binary64.Shortest
import ModelValidation.Keyed
import ModelValidation.Numeral

/-!
# JSON values

Values with objects in insertion order, and their compact text.
-/

namespace ModelValidation

open Numeral

/-- A JSON value. -/
inductive JsonValue where
  | null
  | bool (b : Bool)
  | integer (i : Int)
  | real (x : Binary64)
  | string (s : String)
  | array (items : List JsonValue)
  | object (entries : List (String × JsonValue))

namespace JsonValue

/-- A character inside quotes. -/
def quotedChar (c : Char) : List Char :=
  if c = '"' then ['\\', '"']
  else if c = '\\' then ['\\', '\\']
  else if c = '\n' then ['\\', 'n']
  else if c = '\r' then ['\\', 'r']
  else if c = '\t' then ['\\', 't']
  else if c = '\x08' then ['\\', 'b']
  else if c = '\x0c' then ['\\', 'f']
  else if c.toNat < 0x20 then '\\' :: 'u' :: padded 4 (Nat.toDigits 16 c.toNat)
  else [c]

/-- A string between quotes. -/
def quoted (s : String) : List Char :=
  '"' :: s.toList.flatMap quotedChar ++ ['"']

/-- Digits with `point` of them before the point: positional near the point, else with an exponent. -/
def placed (ds : List Char) (point : Int) : List Char :=
  let length : Int := ds.length
  if length ≤ point ∧ point ≤ 16 then ds ++ List.replicate (point - length).toNat '0' ++ ['.', '0']
  else if 0 < point ∧ point ≤ 16 then ds.take point.toNat ++ '.' :: ds.drop point.toNat
  else if -5 < point ∧ point ≤ 0 then '0' :: '.' :: List.replicate (-point).toNat '0' ++ ds
  else
    let exponent := point - 1
    ds.take 1 ++ (if ds.length = 1 then [] else '.' :: ds.drop 1) ++
      'e' :: (if exponent < 0 then '-' else '+') :: decimal exponent.natAbs

/-- The shortest text of a number that reads back; what has no value is written as nothing. -/
def realText : Binary64 → List Char
  | .finite negative m e =>
    let (d, k) := Binary64.shortest .even m e
    (if negative then ['-'] else []) ++
      if m = 0 then "0.0".toList else placed (decimal d) ((decimal d).length + k)
  | _ => "null".toList

mutual

/-- The text of a value without blanks. -/
def compact : JsonValue → List Char
  | .null => "null".toList
  | .bool b => (if b then "true" else "false").toList
  | .integer i => signed i
  | .real x => realText x
  | .string s => quoted s
  | .array items => '[' :: compactItems items ++ [']']
  | .object entries => '\x7b' :: compactEntries entries ++ ['\x7d']

/-- The items of an array with commas between them. -/
def compactItems : List JsonValue → List Char
  | [] => []
  | [v] => compact v
  | v :: vs => compact v ++ ',' :: compactItems vs

/-- The entries of an object with commas between them. -/
def compactEntries : List (String × JsonValue) → List Char
  | [] => []
  | [(k, v)] => quoted k ++ ':' :: compact v
  | (k, v) :: es => quoted k ++ ':' :: compact v ++ ',' :: compactEntries es

end

end JsonValue

end ModelValidation
