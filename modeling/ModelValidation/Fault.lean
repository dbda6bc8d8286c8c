import ModelValidation.Phrasebook

/-!
# Faults

What keeps a validation from being set up or from giving a result, as opposed to the errors that it finds: rules put
together in a way that has no meaning, missing specifications, values nested too deep, bad options, and faults of
phrasebooks.

* `bind_eq_ok`, `map_eq_ok`: steps come to a result just if each of them does.
-/

namespace ModelValidation

/-- The commands that change how a chain of rules reports. -/
inductive Command where
  | optional
  | singleError
  | withMessage
  | named
  deriving DecidableEq, Repr

/-- The name that faults and listings use. -/
def Command.name : Command → String
  | .optional => "Optional"
  | .singleError => "SingleError"
  | .withMessage => "WithMessage"
  | .named => "Named"

/-- The kinds of rules. -/
inductive RuleKind where
  | valid
  | relative
  | nullable
  | model
  | collection
  deriving DecidableEq, Repr

/-- The name that faults and listings use. -/
def RuleKind.name : RuleKind → String
  | .valid => "Valid"
  | .relative => "ValidRelative"
  | .nullable => "ValidNullable"
  | .model => "ValidModel"
  | .collection => "ValidCollection"

/-- What is wrong with options. -/
inductive OptionsProblem where
  | unreadable
  | zeroMaxDepth
  | emptyForceKey
  | blankDefaultError
  | blankRequiredError
  deriving DecidableEq, Repr

/-- The problem in words. -/
def OptionsProblem.message : OptionsProblem → String
  | .unreadable => "expected a JSON object of options"
  | .zeroMaxDepth => "max_depth must be greater than zero"
  | .emptyForceKey => "collection_force_key must not be empty"
  | .blankDefaultError => "default_error must not be empty"
  | .blankRequiredError => "required_error must not be empty"

/-- What keeps a validation from giving a result. -/
inductive Fault where
  | duplicateCommand (command : Command) (scope : String)
  | unsupportedCommand (command : Command) (scope : String)
  | ruleInNullable (kind : RuleKind) (scope : String)
  | renamedNestedChain (scope : String)
  | emptyMemberName
  | unregistered (typeName : String)
  | depthExceeded (maxDepth : Nat)
  | nullModel (typeName : String)
  | invalidOptions (problem : OptionsProblem)
  | phrasebook (fault : PhrasebookFault)

/-- The fault in words. -/
def Fault.message : Fault → String
  | .duplicateCommand command scope => s!"command '{command.name}' is applied more than once in scope '{scope}'"
  | .unsupportedCommand command scope => s!"command '{command.name}' is not supported in scope '{scope}'"
  | .ruleInNullable kind scope => s!"rule '{kind.name}' is not allowed inside the nullable chain of scope '{scope}'"
  | .renamedNestedChain scope => s!"nested chain in scope '{scope}' must not override the member name"
  | .emptyMemberName => "member name must not be empty"
  | .unregistered typeName => s!"no specification is registered for type '{typeName}'"
  | .depthExceeded maxDepth => s!"maximum validation depth of {maxDepth} exceeded"
  | .nullModel typeName => s!"model of type '{typeName}' is null"
  | .invalidOptions problem => s!"invalid validation options: {problem.message}"
  | .phrasebook fault => fault.message

/-! ### Outcomes without a fault -/

theorem bind_eq_ok {α β : Type} {x : Except Fault α} {f : α → Except Fault β} {b : β} :
    x >>= f = .ok b ↔ ∃ a, x = .ok a ∧ f a = .ok b := by
  cases x <;> simp [bind, Except.bind]

theorem map_eq_ok {α β : Type} {x : Except Fault α} {f : α → β} {b : β} :
    x.map f = .ok b ↔ ∃ a, x = .ok a ∧ f a = b := by
  cases x <;> simp [Except.map]

end ModelValidation
