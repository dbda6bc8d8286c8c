import ModelValidation.Registry
import ModelValidation.Walk

/-!
# What a walk consults

The accessors a walk reads, the tests it makes and the types it resolves, in their order.  A walk that stops with a
fault has consulted what comes before it.
-/

namespace ModelValidation

variable {K : Type} [ValueTypes K]

/-- One thing that a walk asks for. -/
inductive Consultation (K : Type) where
  /-- A part of a model. -/
  | read (label : String)
  /-- A test of a value. -/
  | tested (label : String)
  /-- A test of a model. -/
  | related (label : String)
  /-- The specification of a type. -/
  | resolved (k : K)

/-- What the walk of a nested model consults. -/
abbrev Trail (K : Type) [ValueTypes K] :=
  (k : K) → Option (Carrier k) → Nat → List (Consultation K)

/-- What is consulted for one thing after another, up to the first fault. -/
def consultEach {α : Type} (run : α → Except Fault ErrorTree) (consults : α → List (Consultation K)) :
    List α → List (Consultation K)
  | [] => []
  | a :: as =>
    consults a ++
      match run a with
      | .ok _ => consultEach run consults as
      | .error _ => []

/-- What a chain consults for a slot; nothing if a part is missing. -/
def consultSlot {v m : K} (consults : Subject v m → List (Consultation K)) : Slot v m → List (Consultation K)
  | .present value model => consults (.present value model)
  | .absent => []
  | .forced => consults .forced

/-- What the items of a collection consult. -/
def consultItems {v m : K} (s : Settings) (depth : Nat) (run : Slot v m → Except Fault ErrorTree)
    (consults : Slot v m → List (Consultation K)) : Option (List (Slot v m)) → List (Consultation K)
  | none => if depth + 1 ≤ s.maxDepth then consults .forced else []
  | some slots => if s.maxDepth < depth + 1 then [] else consultEach run consults slots

/-- What a nested model consults. -/
def consultNested {v m : K} (s : Settings) (depth : Nat)
    (consults : Option (Carrier v) → Nat → List (Consultation K)) : Subject v m → List (Consultation K)
  | .present value _ => consults (some value) (depth + 1)
  | .forced => if s.maxDepth < depth + 1 then [] else consults none (depth + 1)

/-- What the scopes of a model consult. -/
def consultModel {α : Type} (s : Settings) (consults : Option α → List (Consultation K)) (model : Option α)
    (depth : Nat) : List (Consultation K) :=
  if s.maxDepth < depth then []
  else if s.isForced then consults none
  else
    match model with
    | some model => consults (some model)
    | none => []

mutual

/-- What a rule consults. -/
def Rule.consults (s : Settings) (enter : Entrance K) (trail : Trail K) {v m : K} :
    Rule K v m → Subject v m → Nat → List (Consultation K)
  | .valid check, subject, _ =>
    match subject with
    | .present _ _ => check.label.toList.map .tested
    | .forced => []
  | .relative check, subject, _ =>
    match subject with
    | .present _ _ => check.label.toList.map .related
    | .forced => []
  | .nullable content chain, subject, depth =>
    match subject with
    | .present value model =>
      match content value with
      | some value => chain.consults s enter trail (.present value model) depth
      | none => []
    | .forced => chain.consults s enter trail .forced depth
  | .model spec, subject, depth =>
    consultNested s depth
      (fun model depth => consultModel s (fun model => spec.consults s enter trail model depth) model depth) subject
  | .registeredModel, subject, depth => consultNested s depth (trail v) subject
  | .each items chain, subject, depth =>
    consultItems s depth (chain.fill s false fun subject => chain.walk s enter subject (depth + 1))
      (consultSlot fun subject => chain.consults s enter trail subject (depth + 1)) <|
      match subject with
      | .present value model => some (presentSlots model (items value))
      | .forced => none
  | .eachNullable items chain, subject, depth =>
    consultItems s depth (chain.fill s true fun subject => chain.walk s enter subject (depth + 1))
      (consultSlot fun subject => chain.consults s enter trail subject (depth + 1)) <|
      match subject with
      | .present value model => some (optionalSlots model (items value))
      | .forced => none

/-- What rules consult. -/
def Rules.consults (s : Settings) (enter : Entrance K) (trail : Trail K) {v m : K} :
    Rules K v m → Subject v m → Nat → List (Consultation K)
  | .nil, _, _ => []
  | .cons rule rest, subject, depth =>
    rule.consults s enter trail subject depth ++
      match rule.walk s enter subject depth with
      | .ok t =>
        if s.strategy = .failFast ∧ t.isEmpty = false then [] else rest.consults s enter trail subject depth
      | .error _ => []

/-- What a chain consults. -/
def Chain.consults (s : Settings) (enter : Entrance K) (trail : Trail K) {v m : K} :
    Chain K v m → Subject v m → Nat → List (Consultation K)
  | .mk rules _, subject, depth => rules.consults s enter trail (s.subject subject) depth

/-- What a scope consults. -/
def Scope.consults (s : Settings) (enter : Entrance K) (trail : Trail K) {m : K} :
    Scope K m → Option (Carrier m) → Nat → List (Consultation K)
  | .field _ part chain, model, depth =>
    match model with
    | some model => .read part.label :: chain.consults s enter trail (.present (part.read model) model) depth
    | none => chain.consults s enter trail .forced depth
  | .member _ part chain, model, depth =>
    match model with
    | some model =>
      .read part.label ::
        match part.read model with
        | some value => chain.consults s enter trail (.present value model) depth
        | none => []
    | none => chain.consults s enter trail .forced depth
  | .model chain, model, depth =>
    match model with
    | some model => chain.consults s enter trail (.present model model) depth
    | none => chain.consults s enter trail .forced depth

/-- What scopes consult. -/
def Specification.consults (s : Settings) (enter : Entrance K) (trail : Trail K) {m : K} :
    Specification K m → Option (Carrier m) → Nat → List (Consultation K)
  | .nil, _, _ => []
  | .cons scope rest, model, depth =>
    scope.consults s enter trail model depth ++
      match scope.walk s enter model depth .empty with
      | .ok _ => rest.consults s enter trail model depth
      | .error _ => []

end

/-- What the walk through the specification of a type consults. -/
def trailWithin (s : Settings) (lookup : Lookup K) : (levels : Nat) → Trail K
  | 0 => fun k _ _ => [.resolved k]
  | levels + 1 => fun k model depth =>
    .resolved k ::
      match lookup k with
      | .ok spec =>
        consultModel s
          (fun model => spec.consults s (enterWithin s lookup levels) (trailWithin s lookup levels) model depth)
          model depth
      | .error _ => []

/-- What the walk through a specification from a depth on consults. -/
def consultations (s : Settings) (lookup : Lookup K) {m : K} (spec : Specification K m) (model : Option (Carrier m))
    (depth : Nat) : List (Consultation K) :=
  let levels := s.maxDepth - depth
  consultModel s
    (fun model => spec.consults s (enterWithin s lookup levels) (trailWithin s lookup levels) model depth) model depth

/-- The registry after what a walk has consulted. -/
def Registry.after [DecidableEq K] (r : Registry K) (consulted : List (Consultation K)) : Registry K :=
  consulted.foldl (fun r c => match c with
    | .resolved k => (r.resolve k).2
    | _ => r) r

end ModelValidation
