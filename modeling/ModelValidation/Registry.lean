import ModelValidation.Specification

/-!
# Registries of specifications

A registry holds a specification for each of some types, given as it is or through a factory.  A later registration
of a type takes the place of an earlier one.  A factory runs when its type is first asked for, and what it made then,
an object or a fault, stays: all who ask for the type share it.
-/

namespace ModelValidation

variable {K : Type} [ValueTypes K]

/-- A specification as an object, which is shared by those who use it. -/
structure Shared (K : Type) [ValueTypes K] (k : K) where
  /-- The number of the object, which tells it from all others, whatever specifications they are. -/
  object : Nat
  spec : Specification K k

/-- A factory, by what each of its runs gives; the first one is run `0`. -/
abbrev Factory (K : Type) [ValueTypes K] (k : K) :=
  (run : Nat) → Except Fault (Specification K k)

/-- Where the specification of a type comes from. -/
inductive Source (K : Type) [ValueTypes K] (k : K) where
  /-- It is there from the registration on. -/
  | given (shared : Shared K k)
  /-- A factory makes it.  It has run so many times, and what it has made is kept. -/
  | factory (make : Factory K k) (ran : Nat) (kept : Option (Except Fault (Shared K k)))

namespace Source

variable {k : K}

/-- The factory has to run when the specification is asked for. -/
def pending : Source K k → Bool
  | .given _ => false
  | .factory _ _ kept => kept.isNone

/-- What is given to those who ask: what is there, or what the factory makes now, under the number of a new object. -/
def answer (object : Nat) : Source K k → Except Fault (Shared K k)
  | .given shared => .ok shared
  | .factory _ _ (some kept) => kept
  | .factory make ran none => (make ran).map (Shared.mk object)

/-- The source after it has been asked. -/
def asked (object : Nat) : Source K k → Source K k
  | .factory make ran none => .factory make (ran + 1) (some ((make ran).map (Shared.mk object)))
  | source => source

end Source

/-- What is registered for a type. -/
structure Registration (K : Type) [ValueTypes K] (k : K) where
  /-- The number of the registration, which tells its factory from all others. -/
  stamp : Nat
  source : Source K k

/-- Registrations of distinct types. -/
structure Registry (K : Type) [ValueTypes K] where
  entries : List ((k : K) × Registration K k)
  /-- The number of the next registration. -/
  next : Nat
  /-- The number of the next object. -/
  objects : Nat
  /-- The numbers of the registrations whose factories have run, in the order of the runs. -/
  runs : List Nat

namespace Registry

/-- Nothing is registered. -/
def empty : Registry K := ⟨[], 0, 0, []⟩

/-- The number of types. -/
def size (r : Registry K) : Nat := r.entries.length

variable [DecidableEq K]

/-- The first entry of a type. -/
def find (k : K) : List ((k : K) × Registration K k) → Option (Registration K k)
  | [] => none
  | ⟨l, registration⟩ :: rest => if h : l = k then some (h ▸ registration) else find k rest

/-- The entries with another registration of a type. -/
def replace (k : K) (registration : Registration K k) :
    List ((k : K) × Registration K k) → List ((k : K) × Registration K k)
  | [] => [⟨k, registration⟩]
  | entry :: rest => if entry.1 = k then ⟨k, registration⟩ :: rest else entry :: replace k registration rest

/-- What is registered for a type. -/
def registration? (r : Registry K) (k : K) : Option (Registration K k) :=
  find k r.entries

/-- Something is registered for the type. -/
def contains (r : Registry K) (k : K) : Bool :=
  (r.registration? k).isSome

/-- Registers where the specification of a type comes from. -/
def insert (r : Registry K) (k : K) (source : Source K k) : Registry K :=
  { r with entries := replace k ⟨r.next, source⟩ r.entries, next := r.next + 1 }

/-- Registers a specification, which becomes an object. -/
def register (r : Registry K) {k : K} (spec : Specification K k) : Registry K :=
  { r.insert k (.given ⟨r.objects, spec⟩) with objects := r.objects + 1 }

/-- Registers a factory. -/
def registerFactory (r : Registry K) {k : K} (make : Factory K k) : Registry K :=
  r.insert k (.factory make 0 none)

/-- Asks for the specification of a type: what is given, and the registry afterwards.  A pending factory runs, and its
run takes the number of an object even if it fails. -/
def resolve (r : Registry K) (k : K) : Except Fault (Shared K k) × Registry K :=
  match r.registration? k with
  | none => (.error (.unregistered (ValueTypes.typeName k)), r)
  | some ⟨stamp, source⟩ =>
    (source.answer r.objects,
      if source.pending then
        { r with
          entries := replace k ⟨stamp, source.asked r.objects⟩ r.entries
          objects := r.objects + 1
          runs := r.runs ++ [stamp] }
      else r)

/-- The specification that is given for a type. -/
def lookup (r : Registry K) (k : K) : Except Fault (Specification K k) :=
  (r.resolve k).1.map Shared.spec

end Registry

end ModelValidation
