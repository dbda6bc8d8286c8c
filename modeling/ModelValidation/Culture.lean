import ModelValidation.Text.Blank

/-!
# Cultures

What a number or a time takes from the culture it is written for: separators, the mark of percentages and the
usual pattern of a date with a time.  A tag that names no culture stands for the invariant one.
-/

namespace ModelValidation

/-- The cultures that messages are written for. -/
inductive Culture where
  | invariant
  | americanEnglish
  | britishEnglish
  | polish
  | german
  | french
  deriving DecidableEq, Repr

namespace Culture

/-- A tag without blanks around it, with hyphens for underscores and ASCII letters in lower case. -/
def normalizeTag (tag : String) : String :=
  String.ofList ((Text.trim tag.toList).map fun c => if c = '_' then '-' else c.toLower)

/-- The culture that a tag names. -/
def ofTag? (tag : String) : Option Culture :=
  match normalizeTag tag with
  | "" | "invariant" => some .invariant
  | "en-us" | "en" => some .americanEnglish
  | "en-gb" => some .britishEnglish
  | "pl-pl" | "pl" => some .polish
  | "de-de" | "de" => some .german
  | "fr-fr" | "fr" => some .french
  | _ => none

/-- The culture of an optional tag. -/
def resolve (tag : Option String) : Culture :=
  (tag.bind ofTag?).getD .invariant

/-- The canonical tag. -/
def tag : Culture → String
  | .invariant => "invariant"
  | .americanEnglish => "en-US"
  | .britishEnglish => "en-GB"
  | .polish => "pl-PL"
  | .german => "de-DE"
  | .french => "fr-FR"

/-- What stands between a whole part and a fraction. -/
def decimalSeparator : Culture → Char
  | .invariant | .americanEnglish | .britishEnglish => '.'
  | .polish | .german | .french => ','

/-- What stands between groups of three digits. -/
def groupSeparator : Culture → Char
  | .invariant | .americanEnglish | .britishEnglish => ','
  | .german => '.'
  | .polish | .french => '\u00a0'

/-- What follows a percentage. -/
def percentSuffix : Culture → String
  | .americanEnglish | .britishEnglish => "%"
  | .invariant | .polish | .german | .french => " %"

/-- The pattern of a date with a time. -/
def dateTimePattern : Culture → String
  | .invariant => "%m/%d/%Y %H:%M:%S"
  | .americanEnglish => "%-m/%-d/%Y %-I:%M:%S %p"
  | .britishEnglish | .french => "%d/%m/%Y %H:%M:%S"
  | .polish | .german => "%d.%m.%Y %H:%M:%S"

/-- Every culture can be asked for. -/
theorem resolve_tag (c : Culture) : resolve (some c.tag) = c := by
  cases c <;> decide +kernel

theorem decimalSeparator_ne_groupSeparator (c : Culture) : c.decimalSeparator ≠ c.groupSeparator := by
  cases c <;> decide

end Culture

end ModelValidation
