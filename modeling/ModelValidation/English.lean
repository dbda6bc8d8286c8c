import ModelValidation.Phrasebook

/-!
# English phrases

The phrases of the errors that the built-in rules and the default options give.
-/

namespace ModelValidation.English

/-- The name of the phrasebook. -/
def name : String := "English"

/-- The phrases with their keys. -/
def phrases : List (String × String) := [
  ("Global.Required", "Required"),
  ("Global.Error", "Error"),
  ("Texts.NotEmpty", "Text value should not be empty"),
  ("Texts.NotWhiteSpace", "Text value should not consist of white spaces only"),
  ("Texts.MinLength", "Text value should have minimum \x7bmin\x7d characters"),
  ("Texts.MaxLength", "Text value should have maximum \x7bmax\x7d characters"),
  ("Texts.ExactLength", "Text value should have exactly \x7blength\x7d characters"),
  ("Texts.LengthBetween", "Text value should have between \x7bmin\x7d and \x7bmax\x7d characters"),
  ("Texts.Matches", "Text value should match the pattern \x7bpattern\x7d"),
  ("Texts.Contains", "Text value should contain \x7bvalue\x7d"),
  ("Numbers.Min", "Number should be greater than or equal to \x7bmin\x7d"),
  ("Numbers.Max", "Number should be less than or equal to \x7bmax\x7d"),
  ("Numbers.Between", "Number should be between \x7bmin\x7d and \x7bmax\x7d"),
  ("Collections.MinItems", "Collection should have minimum \x7bmin\x7d items"),
  ("Collections.MaxItems", "Collection should have maximum \x7bmax\x7d items"),
  ("Collections.NotEmpty", "Collection should not be empty"),
  ("Booleans.True", "Value should be true"),
  ("Booleans.False", "Value should be false")]

/-- The phrasebook. -/
def phrasebook : Phrasebook :=
  Phrasebook.withPhrases ⟨name, []⟩ phrases

end ModelValidation.English
