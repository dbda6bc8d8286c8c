import ModelValidation.Fault

/-!
# Options

How a validation proceeds: its strategy, what a missing root model means, how deep it goes, and the texts of the
errors that no rule names.  The settings of one run are the options with some of them overridden.
-/

namespace ModelValidation

/-- How far a validation goes. -/
inductive Strategy where
  /-- Every rule is tried. -/
  | complete
  /-- A chain stops at its first failing rule. -/
  | failFast
  /-- Every rule fails, without a model. -/
  | force
  deriving DecidableEq, Repr

/-- What a missing root model means. -/
inductive NullRootPolicy where
  | fail
  | required
  | accept
  deriving DecidableEq, Repr

/-- How validations proceed. -/
structure Options where
  strategy : Strategy
  nullRoot : NullRootPolicy
  maxDepth : Nat
  /-- The key that stands for every item of a collection when no items are there. -/
  forceKey : String
  defaultError : String
  requiredError : String
  deriving DecidableEq, Repr

namespace Options

/-- What holds unless something else is asked for. -/
def default : Options := {
  strategy := .complete
  nullRoot := .fail
  maxDepth := 10
  forceKey := "#"
  defaultError := "Global.Error"
  requiredError := "Global.Required" }

/-- The first problem of the options. -/
def problem? (o : Options) : Option OptionsProblem :=
  if o.maxDepth = 0 then some .zeroMaxDepth
  else if o.forceKey = "" then some .emptyForceKey
  else if Text.isBlankText o.defaultError then some .blankDefaultError
  else if Text.isBlankText o.requiredError then some .blankRequiredError
  else none

/-- Refuses options with a problem. -/
def check (o : Options) : Except Fault Unit :=
  match o.problem? with
  | some problem => .error (.invalidOptions problem)
  | none => .ok ()

end Options

/-- What one run does differently. -/
structure Overrides where
  strategy : Option Strategy
  nullRoot : Option NullRootPolicy
  maxDepth : Option Nat

/-- Nothing is different. -/
def Overrides.none : Overrides := ⟨.none, .none, .none⟩

/-- What one run goes by. -/
structure Settings where
  strategy : Strategy
  nullRoot : NullRootPolicy
  maxDepth : Nat
  forceKey : String
  defaultError : ValidationError
  requiredError : ValidationError

namespace Settings

/-- The options with overrides. -/
def ofOptions (o : Options) (overrides : Overrides) : Settings := {
  strategy := overrides.strategy.getD o.strategy
  nullRoot := overrides.nullRoot.getD o.nullRoot
  maxDepth := overrides.maxDepth.getD o.maxDepth
  forceKey := o.forceKey
  defaultError := .ofTemplate o.defaultError
  requiredError := .ofTemplate o.requiredError }

/-- Every rule fails. -/
def isForced (s : Settings) : Bool :=
  s.strategy = .force

/-- Refuses a depth beyond the limit. -/
def checkDepth (s : Settings) (depth : Nat) : Except Fault Unit :=
  if s.maxDepth < depth then .error (.depthExceeded s.maxDepth) else .ok ()

end Settings

end ModelValidation
