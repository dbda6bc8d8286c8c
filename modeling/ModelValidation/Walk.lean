import ModelValidation.ErrorTree
import ModelValidation.Options
import ModelValidation.Specification

/-!
# Walks

A walk takes a model, or none, through a specification and gives the tree of the errors found.  Each nested model and
each item of a collection lies one deeper than what holds it.  Beyond the greatest depth a walk stops with a fault.

Under the strategy `force` there is no model: every check fails, a collection is represented by one item under a key
of its own, and what lies beyond the greatest depth is left out.
-/

namespace ModelValidation

variable {K : Type} [ValueTypes K]

/-- What a rule is applied to: a value with the model that it belongs to, or nothing. -/
inductive Subject (v m : K) where
  | present (value : Carrier v) (model : Carrier m)
  | forced

/-- What a chain is applied to: a part of a model, a part that is missing, or nothing. -/
inductive Slot (v m : K) where
  | present (value : Carrier v) (model : Carrier m)
  | absent
  | forced

/-- The walk of a model of some type at some depth through the specification registered for the type. -/
abbrev Entrance (K : Type) [ValueTypes K] :=
  (k : K) → Option (Carrier k) → Nat → Except Fault ErrorTree

/-! ### Single steps -/

/-- What the rules of a chain are applied to: under `force` nothing, whatever is there. -/
def Settings.subject {v m : K} (s : Settings) (subject : Subject v m) : Subject v m :=
  if s.isForced then .forced else subject

@[simp] theorem Settings.subject_forced {v m : K} (s : Settings) : s.subject (.forced : Subject v m) = .forced := by
  unfold Settings.subject
  split <;> rfl

theorem Settings.subject_of_ne_force {v m : K} {s : Settings} (hs : s.strategy ≠ .force) (subject : Subject v m) :
    s.subject subject = subject := by
  have hplain : s.isForced = false := decide_eq_false hs
  rw [Settings.subject, hplain]
  rfl

/-- The tree of a check: nothing, or the error of the check. -/
def Settings.verdict (s : Settings) (error : Option ValidationError) (passed : Bool) : ErrorTree :=
  if passed then .empty else .ofError (error.getD s.defaultError)

/-- A check fails just if its tree has an error. -/
@[simp] theorem Settings.isEmpty_verdict (s : Settings) (error : Option ValidationError) (passed : Bool) :
    (s.verdict error passed).isEmpty = passed := by
  cases passed <;> rfl

/-- What a missing root model gives. -/
def Settings.nullRootTree (s : Settings) (typeName : String) : Except Fault ErrorTree :=
  match s.nullRoot with
  | .fail => .error (.nullModel typeName)
  | .required => .ok (.ofError s.requiredError)
  | .accept => .ok .empty

/-- The errors of a chain as its directives have them: a single error in their place if a rule failed, then another
template. -/
def Chain.finish {v m : K} (chain : Chain K v m) (failed : Bool) (t : ErrorTree) : ErrorTree :=
  let t :=
    match chain.singleError? with
    | some e => if failed then .ofError e else t
    | none => t
  match chain.message? with
  | some template => t.mapErrors (·.withTemplate template)
  | none => t

/-- The walk of a chain as a slot has it: a missing part is an error unless the chain is optional. -/
def Chain.fill {v m : K} (s : Settings) (canBeAbsent : Bool) (chain : Chain K v m)
    (run : Subject v m → Except Fault ErrorTree) : Slot v m → Except Fault ErrorTree
  | .present value model => run (.present value model)
  | .absent => .ok (if chain.isOptional then .empty else .ofError s.requiredError)
  | .forced =>
    (run .forced).map fun t =>
      ErrorTree.absorb (if canBeAbsent && !chain.isOptional then .ofError s.requiredError else .empty) t

/-- The trees of items under their places, from the place `i` on, added to a node. -/
def gather {α : Type} (run : α → Except Fault ErrorTree) (i : Nat) (node : ErrorTree) :
    List α → Except Fault ErrorTree
  | [] => .ok node
  | a :: as => do
    let t ← run a
    gather run (i + 1) (node.addMember (toString i) t) as

/-- The walk of the items of a collection, given the walk of one slot. -/
def collect {v m : K} (s : Settings) (depth : Nat) (run : Slot v m → Except Fault ErrorTree) :
    Option (List (Slot v m)) → Except Fault ErrorTree
  | none =>
    if depth + 1 ≤ s.maxDepth then (run .forced).map fun t => ErrorTree.empty.addMember s.forceKey t
    else .ok .empty
  | some slots => do
    if slots.isEmpty = false then s.checkDepth (depth + 1)
    gather run 0 .empty slots

/-- The walk of a nested model; without one it ends at the greatest depth. -/
def descend {v m : K} (s : Settings) (depth : Nat) (enter : Option (Carrier v) → Nat → Except Fault ErrorTree) :
    Subject v m → Except Fault ErrorTree
  | .present value _ => enter (some value) (depth + 1)
  | .forced => if s.maxDepth < depth + 1 then .ok .empty else enter none (depth + 1)

/-- The walk of a model through scopes: the depth is checked first, then that there is a model to walk. -/
def arrive {k : K} (s : Settings) (run : Option (Carrier k) → Except Fault ErrorTree) (model : Option (Carrier k))
    (depth : Nat) : Except Fault ErrorTree := do
  s.checkDepth depth
  if s.isForced then run none
  else
    match model with
    | some model => run (some model)
    | none => s.nullRootTree (ValueTypes.typeName k)

/-- The slots of items that are always there. -/
def presentSlots {v m : K} (model : Carrier m) (items : List (Carrier v)) : List (Slot v m) :=
  items.map (.present · model)

/-- The slots of items that may be missing. -/
def optionalSlots {v m : K} (model : Carrier m) (items : List (Option (Carrier v))) : List (Slot v m) :=
  items.map fun
    | some value => .present value model
    | none => .absent

/-! ### The walk through a specification -/

mutual

/-- The errors of a rule. -/
def Rule.walk (s : Settings) (enter : Entrance K) {v m : K} : Rule K v m → Subject v m → Nat → Except Fault ErrorTree
  | .valid check, subject, _ =>
    .ok <| s.verdict check.error <|
      match subject with
      | .present value _ => check.holds value
      | .forced => false
  | .relative check, subject, _ =>
    .ok <| s.verdict check.error <|
      match subject with
      | .present _ model => check.holds model
      | .forced => false
  | .nullable content chain, subject, depth =>
    match subject with
    | .present value model =>
      match content value with
      | some value => chain.walk s enter (.present value model) depth
      | none => .ok .empty
    | .forced => chain.walk s enter .forced depth
  | .model spec, subject, depth =>
    descend s depth (fun model depth => arrive s (fun model => spec.walkScopes s enter model depth .empty) model depth)
      subject
  | .registeredModel, subject, depth => descend s depth (enter v) subject
  | .each items chain, subject, depth =>
    collect s depth (chain.fill s false fun subject => chain.walk s enter subject (depth + 1)) <|
      match subject with
      | .present value model => some (presentSlots model (items value))
      | .forced => none
  | .eachNullable items chain, subject, depth =>
    collect s depth (chain.fill s true fun subject => chain.walk s enter subject (depth + 1)) <|
      match subject with
      | .present value model => some (optionalSlots model (items value))
      | .forced => none

/-- Whether a rule has failed, and the errors of rules added to a tree; failing fast, the first rule that fails is the
last one tried. -/
def Rules.walk (s : Settings) (enter : Entrance K) {v m : K} :
    Rules K v m → Subject v m → Nat → Bool → ErrorTree → Except Fault (Bool × ErrorTree)
  | .nil, _, _, failed, node => .ok (failed, node)
  | .cons rule rest, subject, depth, failed, node => do
    let t ← rule.walk s enter subject depth
    let node := node.absorb t
    let failed := failed || !t.isEmpty
    if s.strategy = .failFast ∧ t.isEmpty = false then return (failed, node)
    rest.walk s enter subject depth failed node

/-- The errors of a chain. -/
def Chain.walk (s : Settings) (enter : Entrance K) {v m : K} :
    Chain K v m → Subject v m → Nat → Except Fault ErrorTree
  | .mk rules directives, subject, depth => do
    let (failed, t) ← rules.walk s enter (s.subject subject) depth false .empty
    return Chain.finish (.mk rules directives) failed t

/-- The errors of a scope added to the tree of its model. -/
def Scope.walk (s : Settings) (enter : Entrance K) {m : K} :
    Scope K m → Option (Carrier m) → Nat → ErrorTree → Except Fault ErrorTree
  | .field name part chain, model, depth, root => do
    let slot := match model with
      | some model => .present (part.read model) model
      | none => .forced
    let t ← chain.fill s false (fun subject => chain.walk s enter subject depth) slot
    return root.addMember (chain.name?.getD name) t
  | .member name part chain, model, depth, root => do
    let slot := match model with
      | some model =>
        match part.read model with
        | some value => .present value model
        | none => .absent
      | none => .forced
    let t ← chain.fill s true (fun subject => chain.walk s enter subject depth) slot
    return root.addMember (chain.name?.getD name) t
  | .model chain, model, depth, root => do
    let subject := match model with
      | some model => .present model model
      | none => .forced
    let t ← chain.walk s enter subject depth
    return root.absorb t

/-- The errors of scopes added to the tree of their model. -/
def Specification.walkScopes (s : Settings) (enter : Entrance K) {m : K} :
    Specification K m → Option (Carrier m) → Nat → ErrorTree → Except Fault ErrorTree
  | .nil, _, _, root => .ok root
  | .cons scope rest, model, depth, root => do
    let root ← scope.walk s enter model depth root
    rest.walkScopes s enter model depth root

end

/-- The errors of a model, which has to be there unless the walk is forced. -/
def Specification.walk (s : Settings) (enter : Entrance K) {m : K} (spec : Specification K m)
    (model : Option (Carrier m)) (depth : Nat) : Except Fault ErrorTree :=
  arrive s (fun model => spec.walkScopes s enter model depth .empty) model depth

/-! ### Registered specifications -/

/-- The specification that stands for a type, or why there is none. -/
abbrev Lookup (K : Type) [ValueTypes K] := (k : K) → Except Fault (Specification K k)

/-- The walk of a model through the specification of its type, `levels` below the greatest depth at most. -/
def enterWithin (s : Settings) (lookup : Lookup K) : (levels : Nat) → Entrance K
  | 0 => fun k _ _ => do
    let _ ← lookup k
    .error (.depthExceeded s.maxDepth)
  | levels + 1 => fun k model depth => do
    let spec ← lookup k
    spec.walk s (enterWithin s lookup levels) model depth

/-- The walk through a specification from a depth on.  Each registered specification that it enters lies deeper, so
that it can enter no more than there are depths left. -/
def walk (s : Settings) (lookup : Lookup K) {m : K} (spec : Specification K m) (model : Option (Carrier m))
    (depth : Nat) : Except Fault ErrorTree :=
  spec.walk s (enterWithin s lookup (s.maxDepth - depth)) model depth

end ModelValidation
