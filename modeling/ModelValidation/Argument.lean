import ModelValidation.Argument.Duration
import ModelValidation.Argument.Number
import ModelValidation.Argument.TimePattern
import ModelValidation.Keyed
import ModelValidation.Text.CaseMap

/-!
# Arguments of messages

A named value that takes the place of a placeholder.  Whatever says which parameters a placeholder may give it, and
writes itself by them, is such a value.  These kinds are at hand; parameters they do not know are of no effect.

| value       | parameters          |
|-------------|---------------------|
| text        | `case`              |
| number      | `format`, `culture` |
| time        | `format`, `culture` |
| duration    | `format`, `culture` |
| enumeration | `format`            |
-/

namespace ModelValidation

/-- Parameters in the order of the placeholder; of two with one key the first counts. -/
abbrev Parameters := List (String × String)

/-- A member of an enumeration. -/
structure EnumMember where
  typeName : String
  variant : String
  /-- A number that fits 64 bits. -/
  discriminant : Int
  deriving DecidableEq, Repr

/-- A value that messages show, by what can be asked of it. -/
structure ArgumentValue where
  /-- The parameters that a placeholder may give. -/
  allowed : List String
  /-- The value in the way that the parameters ask for. -/
  render : Parameters → String
  /-- The program stops instead, since the parameters ask for more characters than it can write. -/
  stops : Parameters → Bool := fun _ => false

/-- A value with the name that placeholders use for it. -/
structure Argument where
  name : String
  value : ArgumentValue

/-- The discriminant in two's complement: eight digits where they suffice, else sixteen. -/
def EnumMember.hex (e : EnumMember) : List Char :=
  let bits := if -(pow2 31 : Int) ≤ e.discriminant ∧ e.discriminant < pow2 31 then 32 else 64
  Numeral.padded (bits / 4) (Numeral.hex (Numeral.twosComplement bits e.discriminant))

/-- The variant, or what one of the letters `D`, `X` and `F` asks for. -/
def EnumMember.format (e : EnumMember) (fmt : Option String) : String :=
  match fmt.map Text.trimmed with
  | some "D" | some "d" => String.ofList (Numeral.signed e.discriminant)
  | some "X" | some "x" => String.ofList e.hex
  | some "F" | some "f" => e.typeName ++ "." ++ e.variant
  | _ => e.variant

namespace ArgumentValue

/-- What the program writes, if it does not stop. -/
def render? (v : ArgumentValue) (params : Parameters) : Option String :=
  if v.stops params then none else some (v.render params)

/-- The culture that parameters ask for. -/
def cultureOf (params : Parameters) : Culture :=
  Culture.resolve (Keyed.get? "culture" params)

/-- A text, whose letters may be made upper or lower case. -/
def text (s : String) : ArgumentValue where
  allowed := ["case"]
  render params :=
    match Keyed.get? "case" params with
    | some "upper" => Text.upper s
    | some "lower" => Text.lower s
    | _ => s

/-- A number in a format and a culture. -/
def number (x : Number) : ArgumentValue where
  allowed := ["format", "culture"]
  render params := x.format ((Keyed.get? "format" params).getD "") (cultureOf params)
  stops params := x.stops ((Keyed.get? "format" params).getD "")

/-- A time in a format and a culture. -/
def time (t : DateTime) : ArgumentValue where
  allowed := ["format", "culture"]
  render params := t.format (Keyed.get? "format" params) (cultureOf params)

/-- A duration in a format and a culture. -/
def duration (d : Duration) : ArgumentValue where
  allowed := ["format", "culture"]
  render params := d.format (Keyed.get? "format" params) (cultureOf params)
  stops params := Duration.stops (Keyed.get? "format" params)

/-- A member of an enumeration in a format. -/
def enumeration (e : EnumMember) : ArgumentValue where
  allowed := ["format"]
  render params := e.format (Keyed.get? "format" params)

section Formats

variable {params : Parameters} {fmt : String}

theorem render?_number (x : Number) (h : Keyed.get? "format" params = some fmt) :
    (number x).render? params = if x.stops fmt then none else some (x.format fmt (cultureOf params)) := by
  simp only [render?, number, h, Option.getD_some]

theorem render?_duration (d : Duration) (h : Keyed.get? "format" params = some fmt) :
    (duration d).render? params =
      if Duration.stops (some fmt) then none else some (d.format (some fmt) (cultureOf params)) := by
  simp only [render?, duration, h]

end Formats

end ArgumentValue

namespace Argument

/-- All parameters are ones that the value knows. -/
def accepts (a : Argument) (params : Parameters) : Bool :=
  params.all fun (key, _) => a.value.allowed.contains key

/-- The value in the way that the parameters ask for. -/
def render (a : Argument) (params : Parameters) : String :=
  a.value.render params

/-- The value without parameters. -/
def plain (a : Argument) : String :=
  a.render []

end Argument

end ModelValidation
