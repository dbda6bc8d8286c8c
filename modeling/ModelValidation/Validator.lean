import ModelValidation.Consultation
import ModelValidation.English
import ModelValidation.Report

/-!
# Validators

A validator puts options, a registry and phrasebooks together.  It walks models of the registered types, and it lists
for a type every error that a model of it could have.
-/

namespace ModelValidation

variable {K : Type} [ValueTypes K] [DecidableEq K]

/-- Options, specifications and phrasebooks that go together. -/
structure Validator (K : Type) [ValueTypes K] where
  options : Options
  registry : Registry K
  phrasebooks : Phrasebooks

/-- The result of a validation. -/
structure ValidationResult (K : Type) [ValueTypes K] (k : K) where
  model : Option (Carrier k)
  errors : ErrorTree
  strategy : Strategy
  maxDepth : Nat
  merged : Bool

namespace Validator

/-- A validator with checked options; the English phrasebook comes first unless one of its name is given. -/
def build (options : Options) (registry : Registry K) (phrasebooks : List Phrasebook) :
    Except Fault (Validator K) := do
  options.check
  let first := if phrasebooks.any (·.name = English.name) then [] else [English.phrasebook]
  match Phrasebooks.empty.addAll (first ++ phrasebooks) with
  | .ok phrasebooks => return ⟨options, registry, phrasebooks⟩
  | .error fault => .error (.phrasebook fault)

/-- The wording of a name. -/
def wording (v : Validator K) (name : String) : Except Fault Wording :=
  match v.phrasebooks.find? name with
  | some t => .ok (some t)
  | none => .error (.phrasebook (.unknown name))

/-- Walks a model of a type, or none. -/
def validateWith (v : Validator K) (k : K) (model : Option (Carrier k)) (overrides : Overrides) :
    Except Fault (ValidationResult K k) := do
  let spec ← v.registry.lookup k
  let settings := Settings.ofOptions v.options overrides
  let errors ← walk settings v.registry.lookup spec model 0
  return ⟨model, errors, settings.strategy, settings.maxDepth, false⟩

/-- Walks a model of a type by the options. -/
def validate (v : Validator K) (k : K) (model : Option (Carrier k)) : Except Fault (ValidationResult K k) :=
  v.validateWith k model .none

/-- Makes every rule fail. -/
def Overrides.force : Overrides := ⟨some .force, .none, .none⟩

/-- Every error that a model of a type could have. -/
def errorSurface (v : Validator K) (k : K) : Except Fault (ValidationResult K k) :=
  v.validateWith k none Overrides.force

/-- What the walk of a model from a depth on consults, the specification of its type included. -/
def consulted (v : Validator K) (k : K) (model : Option (Carrier k)) (overrides : Overrides) (depth : Nat) :
    List (Consultation K) :=
  .resolved k ::
    match v.registry.lookup k with
    | .ok spec => consultations (.ofOptions v.options overrides) v.registry.lookup spec model depth
    | .error _ => []

/-- The validator after what a walk has consulted. -/
def after (v : Validator K) (consulted : List (Consultation K)) : Validator K :=
  { v with registry := v.registry.after consulted }

end Validator

namespace ValidationResult

variable {k : K}

/-- No error was found. -/
def isValid (r : ValidationResult K k) : Bool :=
  r.errors.isEmpty

/-- Two results as one, with the model of the first. -/
def merge (r other : ValidationResult K k) : ValidationResult K k :=
  { r with
    errors := .merge [r.errors, other.errors]
    maxDepth := max r.maxDepth other.maxDepth
    merged := true }

/-- The errors as a list. -/
def list (r : ValidationResult K k) (wording : Wording) : Except Fault (List Report.Entry) :=
  Report.list wording r.maxDepth r.errors

/-- The errors as a JSON tree. -/
def tree (r : ValidationResult K k) (wording : Wording) : Except Fault JsonValue :=
  Report.tree wording r.maxDepth r.errors

end ValidationResult

end ModelValidation
