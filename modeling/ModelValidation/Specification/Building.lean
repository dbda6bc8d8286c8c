import ModelValidation.Specification

/-!
# Building specifications

A chain is put together from rules and directives in any order; what it does depends on the order of the rules among
themselves and on the first directive of each command.

A specification is accepted if no chain in it gives a command twice, chains inside rules do not rename, chains of
optional values hold checks only, members have names, and chains of whole models are neither optional nor renamed.
Specifications given inside rules are built on their own.  The first fault in the order of the scopes is the one
reported.
-/

namespace ModelValidation

variable {K : Type} [ValueTypes K] {v m : K}

/-! ### Chains -/

/-- The chain without rules and directives. -/
def Chain.empty : Chain K v m := .mk .nil []

/-- The chain with a rule behind its rules. -/
def Chain.withRule : Chain K v m → Rule K v m → Chain K v m
  | .mk rules directives, rule => .mk (.ofList (rules.toList ++ [rule])) directives

/-- The chain with a directive behind its directives. -/
def Chain.withDirective : Chain K v m → Directive → Chain K v m
  | .mk rules directives, directive => .mk rules (directives ++ [directive])

/-- What a chain is put together from. -/
inductive ChainStep (K : Type) [ValueTypes K] (v m : K) where
  | rule (rule : Rule K v m)
  | directive (directive : Directive)

/-- The chain with one more step. -/
def Chain.withStep (chain : Chain K v m) : ChainStep K v m → Chain K v m
  | .rule rule => chain.withRule rule
  | .directive directive => chain.withDirective directive

/-- The chain of steps one after another. -/
def Chain.ofSteps (steps : List (ChainStep K v m)) : Chain K v m :=
  steps.foldl Chain.withStep Chain.empty

/-! ### Checks of chains -/

/-- Refuses a chain that gives a command twice. -/
def Chain.checkRepeated (scope : String) (chain : Chain K v m) : Except Fault Unit :=
  match Directive.repeated? chain.directives with
  | some command => .error (.duplicateCommand command scope)
  | none => .ok ()

/-- Refuses a chain inside a rule that renames. -/
def Chain.checkUnnamed (scope : String) (chain : Chain K v m) : Except Fault Unit :=
  if chain.has .named then .error (.renamedNestedChain scope) else .ok ()

/-- The rule checks the value or the model and goes nowhere. -/
def Rule.isCheck (r : Rule K v m) : Bool :=
  r.kind = .valid || r.kind = .relative

/-- Refuses a chain that holds other rules than checks. -/
def Chain.checkFlat (scope : String) (chain : Chain K v m) : Except Fault Unit :=
  match chain.rules.toList.find? (!·.isCheck) with
  | some r => .error (.ruleInNullable r.kind scope)
  | none => .ok ()

mutual

/-- Refuses a rule with a fault in a chain inside it. -/
def Rule.check (scope : String) {v m : K} : Rule K v m → Except Fault Unit
  | .valid _ | .relative _ | .model _ | .registeredModel => .ok ()
  | .nullable _ chain => do
    chain.check scope
    chain.checkUnnamed scope
    chain.checkFlat scope
  | .each _ chain | .eachNullable _ chain => do
    chain.check scope
    chain.checkUnnamed scope

/-- Refuses rules one of which has a fault. -/
def Rules.check (scope : String) {v m : K} : Rules K v m → Except Fault Unit
  | .nil => .ok ()
  | .cons r rs => do
    r.check scope
    rs.check scope

/-- Refuses a chain that gives a command twice or has a rule with a fault. -/
def Chain.check (scope : String) {v m : K} : Chain K v m → Except Fault Unit
  | .mk rules directives => do
    Chain.checkRepeated scope (.mk rules directives)
    rules.check scope

end

/-! ### Scopes and specifications -/

/-- Refuses a member without a name. -/
def Scope.checkName (name : String) (chain : Chain K v m) : Except Fault Unit :=
  if Text.isBlankText name || (chain.name?.map Text.isBlankText).getD false then .error .emptyMemberName else .ok ()

/-- Refuses a chain that gives a command which a whole model has no use for. -/
def Chain.checkSupported (scope : String) (chain : Chain K v m) : Except Fault Unit :=
  match [Command.optional, Command.named].find? chain.has with
  | some command => .error (.unsupportedCommand command scope)
  | none => .ok ()

/-- Refuses a scope with a fault. -/
def Scope.check : Scope K m → Except Fault Unit
  | .field name _ chain | .member name _ chain => do
    Scope.checkName name chain
    chain.check name
  | .model chain => do
    chain.check modelScopeName
    chain.checkSupported modelScopeName

/-- Refuses scopes one of which has a fault. -/
def Specification.check : Specification K m → Except Fault Unit
  | .nil => .ok ()
  | .cons scope rest => do
    scope.check
    rest.check

/-- The specification with these scopes, unless they have a fault. -/
def Specification.build (scopes : List (Scope K m)) : Except Fault (Specification K m) := do
  (Specification.ofList scopes).check
  return .ofList scopes

/-- A scope for one check of the model. -/
def Scope.modelRule (check : Check (Carrier m)) : Scope K m :=
  .model (.mk (.cons (.relative check) .nil) [])

end ModelValidation
