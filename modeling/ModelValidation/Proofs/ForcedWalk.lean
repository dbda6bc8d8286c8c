import ModelValidation.Proofs.Findings

/-!
# What a forced walk does not see

Two specifications are alike if they differ in nothing but the tests of their checks and the functions that read parts
of models.  A forced walk cannot tell them apart:

* `Rule.Alike.walk_eq`, `Specification.Alike.walkScopes_eq`: without a subject, rules and scopes that are alike give the
  same;
* `forced_walk_congr`: so do forced walks of any two models, with whatever is registered for types replaced by what is
  alike, and with any policy for a missing root.
-/

set_option linter.unusedSectionVars false

namespace ModelValidation

variable {K : Type} [ValueTypes K]

/-! ### Specifications that are alike -/

mutual

/-- The rules are the same but for tests and for the functions that read parts of values. -/
inductive Rule.Alike : {v m : K} → Rule K v m → Rule K v m → Prop where
  | valid {v m : K} {c c' : Check (Carrier v)} (herror : c.error = c'.error) :
    Rule.Alike (.valid c : Rule K v m) (.valid c')
  | relative {v m : K} {c c' : Check (Carrier m)} (herror : c.error = c'.error) :
    Rule.Alike (.relative c : Rule K v m) (.relative c')
  | nullable {v t m : K} {content content' : Carrier v → Option (Carrier t)} {chain chain' : Chain K t m}
    (h : Chain.Alike chain chain') : Rule.Alike (.nullable content chain) (.nullable content' chain')
  | model {v m : K} {spec spec' : Specification K v} (h : Specification.Alike spec spec') :
    Rule.Alike (.model spec : Rule K v m) (.model spec')
  | registeredModel {v m : K} : Rule.Alike (.registeredModel : Rule K v m) .registeredModel
  | each {v t m : K} {items items' : Carrier v → List (Carrier t)} {chain chain' : Chain K t m}
    (h : Chain.Alike chain chain') : Rule.Alike (.each items chain) (.each items' chain')
  | eachNullable {v t m : K} {items items' : Carrier v → List (Option (Carrier t))} {chain chain' : Chain K t m}
    (h : Chain.Alike chain chain') : Rule.Alike (.eachNullable items chain) (.eachNullable items' chain')

/-- The rules are alike one by one. -/
inductive Rules.Alike : {v m : K} → Rules K v m → Rules K v m → Prop where
  | nil {v m : K} : Rules.Alike (.nil : Rules K v m) .nil
  | cons {v m : K} {rule rule' : Rule K v m} {rest rest' : Rules K v m} (h : Rule.Alike rule rule')
    (hrest : Rules.Alike rest rest') : Rules.Alike (.cons rule rest) (.cons rule' rest')

/-- The rules are alike, and the directives are the same. -/
inductive Chain.Alike : {v m : K} → Chain K v m → Chain K v m → Prop where
  | mk {v m : K} {rules rules' : Rules K v m} (h : Rules.Alike rules rules') (directives : List Directive) :
    Chain.Alike (.mk rules directives) (.mk rules' directives)

/-- The scopes are for parts of one name and kind, and their chains are alike. -/
inductive Scope.Alike : {m : K} → Scope K m → Scope K m → Prop where
  | field {v m : K} (name : String) {part part' : Accessor (Carrier m) (Carrier v)} {chain chain' : Chain K v m}
    (h : Chain.Alike chain chain') : Scope.Alike (.field name part chain) (.field name part' chain')
  | member {v m : K} (name : String) {part part' : Accessor (Carrier m) (Option (Carrier v))} {chain chain' : Chain K v m}
    (h : Chain.Alike chain chain') : Scope.Alike (.member name part chain) (.member name part' chain')
  | model {m : K} {chain chain' : Chain K m m} (h : Chain.Alike chain chain') : Scope.Alike (.model chain) (.model chain')

/-- The scopes are alike one by one. -/
inductive Specification.Alike : {m : K} → Specification K m → Specification K m → Prop where
  | nil {m : K} : Specification.Alike (.nil : Specification K m) .nil
  | cons {m : K} {scope scope' : Scope K m} {rest rest' : Specification K m} (h : Scope.Alike scope scope')
    (hrest : Specification.Alike rest rest') : Specification.Alike (.cons scope rest) (.cons scope' rest')

end

/-- What is registered for each type is alike, or there is the same fault. -/
def Lookup.Alike (lookup lookup' : Lookup K) : Prop :=
  ∀ k, match lookup k, lookup' k with
    | .ok spec, .ok spec' => spec.Alike spec'
    | .error fault, .error fault' => fault = fault'
    | _, _ => False

/-- The settings with another policy for a missing root. -/
def Settings.withNullRoot (s : Settings) (nullRoot : NullRootPolicy) : Settings := { s with nullRoot }

theorem Chain.Alike.directives_eq {v m : K} {chain chain' : Chain K v m} (h : chain.Alike chain') :
    chain.directives = chain'.directives := by
  cases h
  rfl

/-! ### Single steps without a subject -/

section Steps

variable {s : Settings} {policy : NullRootPolicy} {v m : K}

theorem Chain.Alike.fill_eq {chain chain' : Chain K v m} (h : chain.Alike chain') (canBeAbsent : Bool)
    {run run' : Subject v m → Except Fault ErrorTree} (hrun : run .forced = run' .forced) :
    chain.fill s canBeAbsent run .forced = chain'.fill (s.withNullRoot policy) canBeAbsent run' .forced := by
  have hoptional : chain.isOptional = chain'.isOptional := by
    simp only [Chain.isOptional, Chain.has, h.directives_eq]
  simp only [Chain.fill, hrun, hoptional]
  rfl

/-- A node with the tree of a chain added under the name of its part. -/
theorem Chain.Alike.addMember_eq {chain chain' : Chain K v m} (h : chain.Alike chain') (canBeAbsent : Bool)
    {run run' : Subject v m → Except Fault ErrorTree} (hrun : run .forced = run' .forced) (name : String)
    (root : ErrorTree) :
    (do
      let t ← chain.fill s canBeAbsent run .forced
      return root.addMember (chain.name?.getD name) t) =
    (do
      let t ← chain'.fill (s.withNullRoot policy) canBeAbsent run' .forced
      return root.addMember (chain'.name?.getD name) t) := by
  have hname : chain.name? = chain'.name? := by
    simp only [Chain.name?, h.directives_eq]
  have hfill : chain.fill s canBeAbsent run .forced = chain'.fill (s.withNullRoot policy) canBeAbsent run' .forced :=
    h.fill_eq canBeAbsent hrun
  rw [hname, hfill]

theorem collect_forced_congr {depth : Nat} {run run' : Slot v m → Except Fault ErrorTree}
    (hrun : run .forced = run' .forced) :
    collect s depth run none = collect (s.withNullRoot policy) depth run' none := by
  simp only [collect, hrun]
  rfl

theorem descend_forced_congr {depth : Nat} {enter enter' : Option (Carrier v) → Nat → Except Fault ErrorTree}
    (henter : enter none (depth + 1) = enter' none (depth + 1)) :
    descend s depth enter (.forced : Subject v m) = descend (s.withNullRoot policy) depth enter' (.forced : Subject v m) := by
  simp only [descend, henter]
  rfl

end Steps

/-- A forced walk goes on without the model that it is given. -/
theorem arrive_forced_congr {s : Settings} (hs : s.strategy = .force) {policy : NullRootPolicy} {k : K}
    {run run' : Option (Carrier k) → Except Fault ErrorTree} (hrun : run none = run' none)
    (model model' : Option (Carrier k)) (depth : Nat) :
    arrive s run model depth = arrive (s.withNullRoot policy) run' model' depth := by
  have hforced : s.isForced = true := decide_eq_true hs
  have hforced' : (s.withNullRoot policy).isForced = true := decide_eq_true hs
  simp only [arrive, hforced, hforced', ↓reduceIte, hrun]
  rfl

/-! ### The walk through a specification -/

section Run

variable {s : Settings} (hs : s.strategy = .force) {policy : NullRootPolicy} {enter enter' : Entrance K}
  (henter : ∀ k depth, enter k none depth = enter' k none depth)

include hs henter

-- induction on the proof that both are alike; no case has a subject to read from
mutual

theorem Rule.Alike.walk_eq {v m : K} : ∀ {rule rule' : Rule K v m}, rule.Alike rule' → ∀ depth : Nat,
    rule.walk s enter .forced depth = rule'.walk (s.withNullRoot policy) enter' .forced depth
  | _, _, .valid herror, _ => by
    simp only [Rule.walk, herror]
    rfl
  | _, _, .relative herror, _ => by
    simp only [Rule.walk, herror]
    rfl
  | _, _, .nullable h, depth => by
    simp only [Rule.walk]
    exact Chain.Alike.walk_eq h depth
  | _, _, .model h, depth => by
    have hscopes := Specification.Alike.walkScopes_eq h (depth + 1) .empty
    simp only [Rule.walk]
    exact descend_forced_congr (arrive_forced_congr hs hscopes none none (depth + 1))
  | _, _, .registeredModel, depth => by
    simp only [Rule.walk]
    exact descend_forced_congr (henter v (depth + 1))
  | _, _, .each h, depth => by
    have hchain := Chain.Alike.walk_eq h (depth + 1)
    simp only [Rule.walk]
    exact collect_forced_congr (h.fill_eq false hchain)
  | _, _, .eachNullable h, depth => by
    have hchain := Chain.Alike.walk_eq h (depth + 1)
    simp only [Rule.walk]
    exact collect_forced_congr (h.fill_eq true hchain)

theorem Rules.Alike.walk_eq {v m : K} : ∀ {rules rules' : Rules K v m}, rules.Alike rules' →
    ∀ (depth : Nat) (failed : Bool) (node : ErrorTree),
      rules.walk s enter .forced depth failed node =
        rules'.walk (s.withNullRoot policy) enter' .forced depth failed node
  | _, _, .nil, _, _, _ => rfl
  | _, _, .cons h hrest, depth, _, _ => by
    simp only [Rules.walk, Rule.Alike.walk_eq h depth, Rules.Alike.walk_eq hrest depth]
    rfl

theorem Chain.Alike.walk_eq {v m : K} : ∀ {chain chain' : Chain K v m}, chain.Alike chain' → ∀ depth : Nat,
    chain.walk s enter .forced depth = chain'.walk (s.withNullRoot policy) enter' .forced depth
  | _, _, .mk h directives, depth => by
    simp only [Chain.walk, Settings.subject_forced, Rules.Alike.walk_eq h depth]
    rfl

theorem Scope.Alike.walk_eq {m : K} : ∀ {scope scope' : Scope K m}, scope.Alike scope' →
    ∀ (depth : Nat) (root : ErrorTree),
      scope.walk s enter none depth root = scope'.walk (s.withNullRoot policy) enter' none depth root
  | _, _, .field name h, depth, root => by
    have hchain := Chain.Alike.walk_eq h depth
    simp only [Scope.walk]
    exact h.addMember_eq false hchain name root
  | _, _, .member name h, depth, root => by
    have hchain := Chain.Alike.walk_eq h depth
    simp only [Scope.walk]
    exact h.addMember_eq true hchain name root
  | _, _, .model h, depth, root => by
    simp only [Scope.walk, Chain.Alike.walk_eq h depth]

theorem Specification.Alike.walkScopes_eq {m : K} : ∀ {spec spec' : Specification K m}, spec.Alike spec' →
    ∀ (depth : Nat) (root : ErrorTree),
      spec.walkScopes s enter none depth root = spec'.walkScopes (s.withNullRoot policy) enter' none depth root
  | _, _, .nil, _, _ => rfl
  | _, _, .cons h hrest, depth, root => by
    simp only [Specification.walkScopes, Scope.Alike.walk_eq h depth, Specification.Alike.walkScopes_eq hrest depth]

end

end Run

theorem Specification.Alike.walk_eq {s : Settings} (hs : s.strategy = .force) (policy : NullRootPolicy)
    {enter enter' : Entrance K} (henter : ∀ k depth, enter k none depth = enter' k none depth) {m : K}
    {spec spec' : Specification K m} (h : spec.Alike spec') (model model' : Option (Carrier m)) (depth : Nat) :
    spec.walk s enter model depth = spec'.walk (s.withNullRoot policy) enter' model' depth := by
  have hscopes : spec.walkScopes s enter none depth .empty =
      spec'.walkScopes (s.withNullRoot policy) enter' none depth .empty := h.walkScopes_eq hs henter depth .empty
  exact arrive_forced_congr hs hscopes model model' depth

theorem Lookup.Alike.bind_eq {lookup lookup' : Lookup K} (h : lookup.Alike lookup') (k : K) {α : Type}
    {f f' : Specification K k → Except Fault α} (hf : ∀ spec spec', spec.Alike spec' → f spec = f' spec') :
    lookup k >>= f = lookup' k >>= f' := by
  have hk := h k
  revert hk
  cases lookup k with
  | error fault =>
    cases lookup' k with
    | error fault' =>
      intro hk
      exact congrArg Except.error hk
    | ok spec' => exact False.elim
  | ok spec =>
    cases lookup' k with
    | error fault' => exact False.elim
    | ok spec' => exact hf spec spec'

theorem Lookup.Alike.enterWithin_eq {s : Settings} (hs : s.strategy = .force) (policy : NullRootPolicy)
    {lookup lookup' : Lookup K} (h : lookup.Alike lookup') (levels : Nat) (k : K) (depth : Nat) :
    enterWithin s lookup levels k none depth = enterWithin (s.withNullRoot policy) lookup' levels k none depth := by
  induction levels generalizing k depth with
  | zero => exact h.bind_eq k fun _ _ _ => rfl
  | succ levels ih => exact h.bind_eq k fun _ _ hspec => hspec.walk_eq hs policy ih none none depth

/-- **A forced walk sees neither models nor tests nor accessors.**  Whatever models two forced walks are given, and whatever
their policies for a missing root, they give the same tree or the same fault if their specifications and all that is
registered for types are alike. -/
theorem forced_walk_congr {s : Settings} (hs : s.strategy = .force) (policy : NullRootPolicy)
    {lookup lookup' : Lookup K} (hlookup : lookup.Alike lookup') {m : K} {spec spec' : Specification K m}
    (hspec : spec.Alike spec') (model model' : Option (Carrier m)) (depth : Nat) :
    walk s lookup spec model depth = walk (s.withNullRoot policy) lookup' spec' model' depth := by
  have henter := hlookup.enterWithin_eq hs policy (s.maxDepth - depth)
  exact hspec.walk_eq hs policy henter model model' depth

namespace Employee

/-- The check of an error with a test that nothing fails. -/
def passing {α : Type} (c : Check α) : Check α := { c with holds := fun _ => true }

def lenientSkillChain : Chain StaffType .text .employee :=
  .mk (.ofList [.valid (passing (Check.minLength 2)), .valid (passing Check.notBlank)]) [.withMessage "Skill"]

def lenientNameChain : Chain StaffType .text .employee :=
  .mk (.ofList [.valid (passing Check.notEmpty), .valid (passing (Check.minLength 2))]) []

def lenientBriefChain : Chain StaffType .employee .employee :=
  .mk (.ofList [.valid ⟨none, fun _ => true, none⟩]) [.singleError (.ofTemplate "Brief")]

/-- The specification of employees with tests that nothing fails and with accessors that find nothing. -/
def lenientSpecification : Specification StaffType .employee :=
  .ofList [
    .field (v := StaffType.text) "Name" ⟨"none", fun _ => ""⟩ lenientNameChain,
    .field (v := StaffType.texts) "Skills" ⟨"none", fun _ => []⟩
      (.mk (.ofList [.each (fun _ => []) lenientSkillChain]) []),
    .field (v := StaffType.staff) "Deputies" ⟨"none", fun _ => []⟩
      (.mk (.ofList [.eachNullable (fun _ => []) deputyChain]) []),
    .model lenientBriefChain]

def lenientRegistry : Registry StaffType := Registry.empty.register lenientSpecification

theorem alike_lenient : specification.Alike lenientSpecification := by
  have hname : nameChain.Alike lenientNameChain := .mk (.cons (.valid (by rfl)) (.cons (.valid (by rfl)) .nil)) _
  have hskill : skillChain.Alike lenientSkillChain := .mk (.cons (.valid (by rfl)) (.cons (.valid (by rfl)) .nil)) _
  have hdeputy : deputyChain.Alike deputyChain := .mk (.cons .registeredModel .nil) _
  have hbrief : briefChain.Alike lenientBriefChain := .mk (.cons (.valid (by rfl)) .nil) _
  exact .cons (.field _ hname) (.cons (.field _ (.mk (.cons (.each hskill) .nil) _))
    (.cons (.field _ (.mk (.cons (.eachNullable hdeputy) .nil) _)) (.cons (.model hbrief) .nil)))

theorem lookup_alike_lenient : Lookup.Alike registry.lookup lenientRegistry.lookup := by
  intro k
  cases k with
  | employee => exact alike_lenient
  | text => rfl
  | texts => rfl
  | staff => rfl

end Employee

theorem forced_walk_congr_lenient :
    (Employee.settings.withStrategy .force).strategy = .force ∧
      Lookup.Alike Employee.registry.lookup Employee.lenientRegistry.lookup ∧
      Employee.specification.Alike Employee.lenientSpecification ∧
      walk (Employee.settings.withStrategy .force) Employee.registry.lookup Employee.specification
          (some Employee.withDeputies) 0 =
        walk ((Employee.settings.withStrategy .force).withNullRoot .accept) Employee.lenientRegistry.lookup
          Employee.lenientSpecification none 0 :=
  ⟨rfl, Employee.lookup_alike_lenient, Employee.alike_lenient,
    forced_walk_congr (s := Employee.settings.withStrategy .force) rfl .accept Employee.lookup_alike_lenient
      Employee.alike_lenient (some Employee.withDeputies) none 0⟩

end ModelValidation
