import ModelValidation.Regex
import ModelValidation.Text.Split
import ModelValidation.ValidationError

/-!
# Checks

A check is a test of a value with the error of its failure.  The ready-made checks are those on texts, numbers, truth
values and collections; their errors have phrases in the English phrasebook.
-/

namespace ModelValidation

/-- A test of a value. -/
structure Check (α : Type) where
  /-- What the test is called where a record is kept of the tests made. -/
  label : Option String
  holds : α → Bool
  /-- The error of a failure; without one it is the default error of the run. -/
  error : Option ValidationError

namespace Check

variable {α : Type}

/-- The check with another error. -/
def withError (c : Check α) (e : ValidationError) : Check α :=
  { c with error := some e }

/-- A check that leaves no record. -/
def unrecorded (e : ValidationError) (holds : α → Bool) : Check α := ⟨none, holds, some e⟩

/-- An error that shows natural numbers. -/
def countError (template : String) (counts : List (String × Nat)) : ValidationError :=
  ⟨template, counts.map fun (name, n) => ⟨name, .number (.integer n)⟩⟩

/-! ### Texts -/

/-- Some character. -/
def notEmpty : Check String :=
  unrecorded (.ofTemplate "Texts.NotEmpty") (· ≠ "")

/-- Some character that is not blank. -/
def notBlank : Check String :=
  unrecorded (.ofTemplate "Texts.NotWhiteSpace") fun s => !Text.isBlankText s

def minLength (least : Nat) : Check String :=
  unrecorded (countError "Texts.MinLength" [("min", least)]) fun s => least ≤ s.length

def maxLength (most : Nat) : Check String :=
  unrecorded (countError "Texts.MaxLength" [("max", most)]) fun s => s.length ≤ most

def exactLength (length : Nat) : Check String :=
  unrecorded (countError "Texts.ExactLength" [("length", length)]) fun s => s.length = length

def lengthBetween (least most : Nat) : Check String :=
  unrecorded (countError "Texts.LengthBetween" [("min", least), ("max", most)]) fun s =>
    least ≤ s.length && s.length ≤ most

/-- Some stretch of the text matches the pattern that `source` writes. -/
def matching (source : String) (pattern : Regex) : Check String :=
  unrecorded ⟨"Texts.Matches", [⟨"pattern", .text source⟩]⟩ pattern.isMatch

/-- The value stands somewhere in the text. -/
def containing (value : String) : Check String :=
  unrecorded ⟨"Texts.Contains", [⟨"value", .text value⟩]⟩ fun s =>
    Text.contains value.toList s.toList

/-! ### Numbers -/

/-- Numbers that can be compared and shown. -/
class Quantity (α : Type) where
  atMost : α → α → Bool
  toNumber : α → Number

instance : Quantity Int := ⟨fun a b => a ≤ b, .integer⟩

instance : Quantity Binary64 := ⟨Binary64.le, .float⟩

/-- An error that shows bounds. -/
def boundError [Quantity α] (template : String) (bounds : List (String × α)) : ValidationError :=
  ⟨template, bounds.map fun (name, x) => ⟨name, .number (Quantity.toNumber x)⟩⟩

def atLeast [Quantity α] (least : α) : Check α :=
  unrecorded (boundError "Numbers.Min" [("min", least)]) fun x => Quantity.atMost least x

def atMost [Quantity α] (most : α) : Check α :=
  unrecorded (boundError "Numbers.Max" [("max", most)]) fun x => Quantity.atMost x most

def between [Quantity α] (least most : α) : Check α :=
  unrecorded (boundError "Numbers.Between" [("min", least), ("max", most)]) fun x =>
    Quantity.atMost least x && Quantity.atMost x most

/-! ### Truth values -/

def isTrue : Check Bool :=
  unrecorded (.ofTemplate "Booleans.True") id

def isFalse : Check Bool :=
  unrecorded (.ofTemplate "Booleans.False") not

/-! ### Collections -/

def minItems (least : Nat) : Check (List α) :=
  unrecorded (countError "Collections.MinItems" [("min", least)]) fun xs => least ≤ xs.length

def maxItems (most : Nat) : Check (List α) :=
  unrecorded (countError "Collections.MaxItems" [("max", most)]) fun xs => xs.length ≤ most

def someItem : Check (List α) :=
  unrecorded (.ofTemplate "Collections.NotEmpty") fun xs => !xs.isEmpty

end Check

end ModelValidation
