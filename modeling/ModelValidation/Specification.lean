import ModelValidation.Check
import ModelValidation.Fault
import ModelValidation.Text.Quoted

/-!
# Specifications

A specification says for a type of models what its values have to satisfy.  It is a list of scopes; a scope applies a
chain of rules to a member of the model or to the model as a whole; a rule is a check, or it goes into an optional
value, another model, or the items of a collection.

The types that rules talk about are known by codes, so that a model may refer to the specification registered for a
type, its own included.
-/

namespace ModelValidation

/-- Codes for types: what each stands for, and the name that faults use for it. -/
class ValueTypes (K : Type) where
  Carrier : K → Type
  typeName : K → String

export ValueTypes (Carrier)

/-- A function that reads a part of a model, and what it is called where a record is kept of the parts read. -/
structure Accessor (α β : Type) where
  label : String
  read : α → β

/-- A command with what it says. -/
inductive Directive where
  | optional
  | singleError (e : ValidationError)
  | withMessage (template : String)
  | named (name : String)

/-- The command of a directive. -/
def Directive.command : Directive → Command
  | .optional => .optional
  | .singleError _ => .singleError
  | .withMessage _ => .withMessage
  | .named _ => .named

mutual

/-- A rule for values of the type `v` that belong to models of the type `m`. -/
inductive Rule (K : Type) [ValueTypes K] : K → K → Type where
  /-- A check of the value. -/
  | valid {v m : K} (check : Check (Carrier v)) : Rule K v m
  /-- A check of the model. -/
  | relative {v m : K} (check : Check (Carrier m)) : Rule K v m
  /-- A chain for what the value holds, if it holds something. -/
  | nullable {v t m : K} (content : Carrier v → Option (Carrier t)) (chain : Chain K t m) : Rule K v m
  /-- The value is a model with a specification given here. -/
  | model {v m : K} (spec : Specification K v) : Rule K v m
  /-- The value is a model with the specification registered for its type. -/
  | registeredModel {v m : K} : Rule K v m
  /-- A chain for each item of a collection. -/
  | each {v t m : K} (items : Carrier v → List (Carrier t)) (chain : Chain K t m) : Rule K v m
  /-- A chain for each item of a collection whose items may be missing. -/
  | eachNullable {v t m : K} (items : Carrier v → List (Option (Carrier t))) (chain : Chain K t m) : Rule K v m

/-- Rules in order. -/
inductive Rules (K : Type) [ValueTypes K] : K → K → Type where
  | nil {v m : K} : Rules K v m
  | cons {v m : K} (rule : Rule K v m) (rest : Rules K v m) : Rules K v m

/-- Rules in order, and directives in the order in which they were given. -/
inductive Chain (K : Type) [ValueTypes K] : K → K → Type where
  | mk {v m : K} (rules : Rules K v m) (directives : List Directive) : Chain K v m

/-- A chain applied to a part of a model of the type `m`. -/
inductive Scope (K : Type) [ValueTypes K] : K → Type where
  /-- A part that is always there. -/
  | field {v m : K} (name : String) (part : Accessor (Carrier m) (Carrier v)) (chain : Chain K v m) : Scope K m
  /-- A part that may be missing. -/
  | member {v m : K} (name : String) (part : Accessor (Carrier m) (Option (Carrier v))) (chain : Chain K v m) :
    Scope K m
  /-- The model as a whole. -/
  | model {m : K} (chain : Chain K m m) : Scope K m

/-- Scopes in order. -/
inductive Specification (K : Type) [ValueTypes K] : K → Type where
  | nil {m : K} : Specification K m
  | cons {m : K} (scope : Scope K m) (rest : Specification K m) : Specification K m

end

variable {K : Type} [ValueTypes K] {v m : K}

/-! ### Directives -/

/-- The commands of directives, each at its first place. -/
def Directive.commands (ds : List Directive) : List Command :=
  ds.foldl (fun seen d => if d.command ∈ seen then seen else seen ++ [d.command]) []

/-- The first command that is given again. -/
def Directive.repeated? : List Directive → Option Command
  | ds => go [] ds
where
  /-- The first directive whose command is among those seen. -/
  go (seen : List Command) : List Directive → Option Command
    | [] => none
    | d :: ds => if d.command ∈ seen then some d.command else go (d.command :: seen) ds

namespace Chain

/-- The rules in order. -/
def rules : Chain K v m → Rules K v m
  | .mk rs _ => rs

/-- The directives in the order in which they were given. -/
def directives : Chain K v m → List Directive
  | .mk _ ds => ds

/-- The command is among the directives. -/
def has (chain : Chain K v m) (command : Command) : Bool :=
  chain.directives.any (·.command = command)

/-- A missing value is no error. -/
def isOptional (chain : Chain K v m) : Bool :=
  chain.has .optional

/-- The name that takes the place of the member's. -/
def name? (chain : Chain K v m) : Option String :=
  chain.directives.findSome? fun
    | .named name => some name
    | _ => none

/-- The error that takes the place of all others. -/
def singleError? (chain : Chain K v m) : Option ValidationError :=
  chain.directives.findSome? fun
    | .singleError e => some e
    | _ => none

/-- The template that errors get. -/
def message? (chain : Chain K v m) : Option String :=
  chain.directives.findSome? fun
    | .withMessage template => some template
    | _ => none

end Chain

/-! ### Lists -/

/-- The kind of a rule. -/
def Rule.kind : Rule K v m → RuleKind
  | .valid _ => .valid
  | .relative _ => .relative
  | .nullable _ _ => .nullable
  | .model _ | .registeredModel => .model
  | .each _ _ | .eachNullable _ _ => .collection

/-- Rules as a list. -/
def Rules.toList : Rules K v m → List (Rule K v m)
  | .nil => []
  | .cons r rs => r :: rs.toList

/-- A list as rules. -/
def Rules.ofList : List (Rule K v m) → Rules K v m
  | [] => .nil
  | r :: rs => .cons r (ofList rs)

/-- Scopes as a list. -/
def Specification.toList : Specification K m → List (Scope K m)
  | .nil => []
  | .cons s ss => s :: ss.toList

/-- A list as scopes. -/
def Specification.ofList : List (Scope K m) → Specification K m
  | [] => .nil
  | s :: ss => .cons s (ofList ss)

/-- The name of the scope of a whole model. -/
def modelScopeName : String := "<model>"

/-- The name that a scope is declared under. -/
def Scope.name : Scope K m → String
  | .field name _ _ | .member name _ _ => name
  | .model _ => modelScopeName

@[simp] theorem Rules.toList_ofList (rs : List (Rule K v m)) : (ofList rs).toList = rs := by
  induction rs with
  | nil => rfl
  | cons r rs ih => simp [ofList, toList, ih]

@[simp] theorem Specification.toList_ofList (ss : List (Scope K m)) : (ofList ss).toList = ss := by
  induction ss with
  | nil => rfl
  | cons s ss ih => simp [ofList, toList, ih]

/-! ### Listings -/

/-- Rules and commands of a chain as a listing shows them. -/
def Chain.listing (chain : Chain K v m) : String :=
  let rules := chain.rules.toList.map fun r => "Rule(" ++ r.kind.name ++ ")"
  let commands := (Directive.commands chain.directives).map Command.name
  "Chain \x7b rules: [" ++ ", ".intercalate rules ++ "], commands: [" ++ ", ".intercalate commands ++ "] \x7d"

/-- Type and scopes of a specification as a listing shows them. -/
def Specification.listing (spec : Specification K m) : String :=
  let scopes := spec.toList.map fun s => Text.quoted s.name
  "Specification \x7b model: " ++ Text.quoted (ValueTypes.typeName m) ++ ", scopes: [" ++ ", ".intercalate scopes ++
    "] \x7d"

end ModelValidation
