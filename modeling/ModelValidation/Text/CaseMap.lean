import ModelValidation.Text.CaseTable

/-!
# Upper case and lower case

The full case maps: one character may become several, and a capital sigma that ends a word becomes the final
small sigma.
-/

namespace ModelValidation.Text

/-- Where the run takes a code point, if it covers it. -/
def CaseRun.map? (run : CaseRun) (n : Nat) : Option Nat :=
  if run.first ≤ n ∧ n ≤ run.last ∧ (n - run.first) % run.step = 0 then some (n + run.shift).toNat else none

/-- One character through a table of long forms, then through a table of runs. -/
def mapChar (long : List (Nat × List Nat)) (runs : List CaseRun) (c : Char) : List Char :=
  match long.lookup c.toNat with
  | some form => form.map Char.ofNat
  | none => [((runs.findSome? (·.map? c.toNat)).map Char.ofNat).getD c]

/-- The upper-case form of a character. -/
def upperChar (c : Char) : List Char :=
  if c.toNat < 0x80 then [c.toUpper] else mapChar longUpper upperRuns c

/-- The lower-case form of a character outside any word. -/
def lowerChar (c : Char) : List Char :=
  if c.toNat < 0x80 then [c.toLower] else mapChar longLower lowerRuns c

/-- The next character that is not passed over has case. -/
def meetsCased (cs : List Char) : Bool :=
  ((cs.dropWhile (within caseIgnorableRanges)).head?.map (within casedRanges)).getD false

/-- Lower case of the rest of a text, given what stands before it in reverse. -/
def lowerFrom (before : List Char) : List Char → List Char
  | [] => []
  | c :: cs =>
    let form :=
      if c = 'Σ' then if meetsCased before && !meetsCased cs then ['ς'] else ['σ'] else lowerChar c
    form ++ lowerFrom (c :: before) cs

/-- The text in upper case. -/
def upper (s : String) : String :=
  String.ofList (s.toList.flatMap upperChar)

/-- The text in lower case. -/
def lower (s : String) : String :=
  String.ofList (lowerFrom [] s.toList)

end ModelValidation.Text
