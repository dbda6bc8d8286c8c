import ModelValidation.Proofs.Building
import ModelValidation.Proofs.Naming

/-!
# What building accepts, level by level

Building looks at the scopes it is given, and at every chain inside them.  It does not look into specifications given
inside rules: those have been built before.

* `Specification.specifications`: the specifications given inside one, at every level;
* `Specification.isBuilt_iff`: a specification can come from building if and only if its scopes are well-formed;
* `Specification.build_accepts_wellFormed`: building accepts the well-formed scopes, and refuses others for the first
  one with an offence and under the name that this one is declared with.
-/

set_option linter.unusedSectionVars false

namespace ModelValidation

variable {K : Type} [ValueTypes K]

/-! ### Specifications inside specifications -/

mutual

/-- The specifications given inside a rule, at every level. -/
def Rule.specifications {v m : K} : Rule K v m → List ((k : K) × Specification K k)
  | .valid _ | .relative _ | .registeredModel => []
  | .nullable _ chain | .each _ chain | .eachNullable _ chain => chain.specifications
  | .model spec => ⟨_, spec⟩ :: spec.specifications

/-- The specifications given inside rules, at every level. -/
def Rules.specifications {v m : K} : Rules K v m → List ((k : K) × Specification K k)
  | .nil => []
  | .cons rule rest => rule.specifications ++ rest.specifications

/-- The specifications given inside a chain, at every level. -/
def Chain.specifications {v m : K} : Chain K v m → List ((k : K) × Specification K k)
  | .mk rules _ => rules.specifications

/-- The specifications given inside a scope, at every level. -/
def Scope.specifications {m : K} : Scope K m → List ((k : K) × Specification K k)
  | .field _ _ chain | .member _ _ chain => chain.specifications
  | .model chain => chain.specifications

/-- The specifications given inside another, at every level. -/
def Specification.specifications {m : K} : Specification K m → List ((k : K) × Specification K k)
  | .nil => []
  | .cons scope rest => scope.specifications ++ rest.specifications

end

mutual

theorem Rule.holdsBuilt_iff {v m : K} : ∀ rule : Rule K v m,
    rule.HoldsBuilt ↔ ∀ inside ∈ rule.specifications, inside.2.IsBuilt
  | .valid _ | .relative _ | .registeredModel => ⟨nofun, fun _ => trivial⟩
  | .nullable _ chain | .each _ chain | .eachNullable _ chain => Chain.holdsBuilt_iff chain
  | .model spec => by
    rw [Rule.HoldsBuilt, Rule.specifications, List.forall_mem_cons, Specification.holdsBuilt_iff spec]

theorem Rules.holdsBuilt_iff {v m : K} : ∀ rules : Rules K v m,
    rules.HoldsBuilt ↔ ∀ inside ∈ rules.specifications, inside.2.IsBuilt
  | .nil => ⟨nofun, fun _ => trivial⟩
  | .cons rule rest => by
    rw [Rules.HoldsBuilt, Rules.specifications, List.forall_mem_append, Rule.holdsBuilt_iff rule,
      Rules.holdsBuilt_iff rest]

theorem Chain.holdsBuilt_iff {v m : K} : ∀ chain : Chain K v m,
    chain.HoldsBuilt ↔ ∀ inside ∈ chain.specifications, inside.2.IsBuilt
  | .mk rules _ => Rules.holdsBuilt_iff rules

theorem Scope.holdsBuilt_iff {m : K} : ∀ scope : Scope K m,
    scope.HoldsBuilt ↔ ∀ inside ∈ scope.specifications, inside.2.IsBuilt
  | .field _ _ chain | .member _ _ chain => Chain.holdsBuilt_iff chain
  | .model chain => Chain.holdsBuilt_iff chain

theorem Specification.holdsBuilt_iff {m : K} : ∀ spec : Specification K m,
    spec.HoldsBuilt ↔ ∀ inside ∈ spec.specifications, inside.2.IsBuilt
  | .nil => ⟨nofun, fun _ => trivial⟩
  | .cons scope rest => by
    rw [Specification.HoldsBuilt, Specification.specifications, List.forall_mem_append, Scope.holdsBuilt_iff scope,
      Specification.holdsBuilt_iff rest]

end

/-! ### What building gives -/

section Build

variable {m : K} {scopes : List (Scope K m)}

theorem Specification.firstOffence_of_build {fault : Fault} (h : Specification.build scopes = .error fault) :
    FirstOffence scopes fault := by
  rw [← Specification.toList_ofList scopes]
  refine (Specification.ofList scopes).vets_check.refuses fault ?_
  unfold Specification.build at h
  cases hcheck : (Specification.ofList scopes).check with
  | error other =>
    rw [hcheck] at h
    cases h
    rfl
  | ok u =>
    rw [hcheck] at h
    cases h

theorem FirstOffence.not_wellFormed {fault : Fault} (h : FirstOffence scopes fault) :
    ¬ ∀ scope ∈ scopes, scope.WellFormed := by
  intro hwell
  obtain ⟨before, scope, after, rfl, -, hoffends⟩ := h
  exact (hwell scope List.mem_append_cons_self).not_offends hoffends

theorem Specification.build_eq_ok_iff {spec : Specification K m} :
    Specification.build scopes = .ok spec ↔ (∀ scope ∈ scopes, scope.WellFormed) ∧ spec = .ofList scopes := by
  constructor
  · intro h
    obtain ⟨u, hcheck, h⟩ := bind_eq_ok.1 h
    have hwell := (Specification.ofList scopes).vets_check.sound hcheck
    rw [Specification.toList_ofList] at hwell
    exact ⟨hwell, (Except.ok.inj h).symm⟩
  · rintro ⟨hwell, rfl⟩
    cases h : Specification.build scopes with
    | error fault => exact absurd hwell (firstOffence_of_build h).not_wellFormed
    | ok spec =>
      obtain ⟨u, -, hspec⟩ := bind_eq_ok.1 h
      exact hspec.symm

theorem Specification.ofList_toList : ∀ spec : Specification K m, Specification.ofList spec.toList = spec
  | .nil => rfl
  | .cons scope rest => congrArg (Specification.cons scope) (ofList_toList rest)

theorem Specification.isBuilt_iff (spec : Specification K m) :
    spec.IsBuilt ↔ ∀ scope ∈ spec.toList, scope.WellFormed := by
  constructor
  · rintro ⟨scopes, hbuild⟩
    obtain ⟨hwell, rfl⟩ := build_eq_ok_iff.1 hbuild
    rwa [Specification.toList_ofList]
  · intro hwell
    exact ⟨spec.toList, build_eq_ok_iff.2 ⟨hwell, spec.ofList_toList.symm⟩⟩

/-- **Building accepts exactly the well-formed scopes.**  It refuses others with the fault of an offence in the first
scope that is not well-formed; a fault that names a scope has the name which this scope is declared under.  Since what
is given inside rules has been built as well, every scope of every level is well-formed if and only if building has
been passed at every level. -/
theorem Specification.build_accepts_wellFormed (scopes : List (Scope K m)) :
    ((∃ spec, Specification.build scopes = .ok spec) ↔ ∀ scope ∈ scopes, scope.WellFormed) ∧
    (∀ fault, Specification.build scopes = .error fault → ∃ before scope after, scopes = before ++ scope :: after ∧
      (∀ earlier ∈ before, earlier.WellFormed) ∧ ¬ scope.WellFormed ∧ scope.Offends fault ∧
      ∀ name, fault.scope? = some name → name = scope.name) ∧
    ((Specification.ofList scopes).Accepted ↔ (∀ scope ∈ scopes, scope.WellFormed) ∧
      ∀ inside ∈ (Specification.ofList scopes).specifications, ∀ scope ∈ inside.2.toList, scope.WellFormed) := by
  refine ⟨⟨?_, ?_⟩, fun fault hfault => ?_, ?_⟩
  · rintro ⟨spec, hbuild⟩
    exact (build_eq_ok_iff.1 hbuild).1
  · intro hwell
    exact ⟨_, build_eq_ok_iff.2 ⟨hwell, rfl⟩⟩
  · obtain ⟨before, scope, after, hsplit, hbefore, hoffends⟩ := firstOffence_of_build hfault
    exact ⟨before, scope, after, hsplit, hbefore, fun hwell => hwell.not_offends hoffends, hoffends,
      fun _ => hoffends.scope?_eq⟩
  · rw [Specification.Accepted, isBuilt_iff, Specification.toList_ofList, holdsBuilt_iff]
    simp only [isBuilt_iff]

end Build

namespace Employee

/-- A chain for one of the deputies, with a chain inside that renames. -/
def teammateChain : Chain StaffType .employee .employee :=
  .mk (.ofList [.nullable (t := StaffType.employee) some (.mk .nil [.named "Deputy"])]) []

/-- The deputies under another name. -/
def team : Scope StaffType .employee :=
  .field (v := StaffType.staff) "Deputies" ⟨"deputies", deputies⟩
    (.mk (.ofList [.eachNullable id teammateChain]) [.named "Team"])

end Employee

/-- The fault has the name that the member is declared under. -/
example : Specification.build [Employee.team, .model (.mk .nil [.optional])] =
    .error (.renamedNestedChain "Deputies") := by rfl

end ModelValidation
