import ModelValidation.Proofs.Building
import ModelValidation.Proofs.Findings
import ModelValidation.Proofs.Levels
import ModelValidation.Proofs.Registries
import ModelValidation.Validator

/-!
# Why a validation fails

A rule that fails is an error in the tree and never a fault.  The faults of a validation are a depth that the options
do not allow, a missing root model, and what the registry gives for a type that is needed:

* `Rule.faultsIn`, `Specification.faultsIn`: where a walk can fail, rule by rule;
* `only_configuration_is_fatal`: what a validation can fail with.
-/

set_option linter.unusedSectionVars false

namespace ModelValidation

variable {K : Type} [ValueTypes K]

/-! ### Types that are needed -/

mutual

/-- The types whose registered specifications a rule goes into. -/
def Rule.types {v m : K} : Rule K v m → List K
  | .valid _ | .relative _ => []
  | .nullable _ chain | .each _ chain | .eachNullable _ chain => chain.types
  | .model spec => spec.types
  | .registeredModel => [v]

/-- The types that rules need. -/
def Rules.types {v m : K} : Rules K v m → List K
  | .nil => []
  | .cons rule rest => rule.types ++ rest.types

/-- The types that a chain needs. -/
def Chain.types {v m : K} : Chain K v m → List K
  | .mk rules _ => rules.types

/-- The types that a scope needs. -/
def Scope.types {m : K} : Scope K m → List K
  | .field _ _ chain | .member _ _ chain => chain.types
  | .model chain => chain.types

/-- The types that scopes need. -/
def Specification.types {m : K} : Specification K m → List K
  | .nil => []
  | .cons scope rest => scope.types ++ rest.types

end

/-- The second type is the first one, or it is needed by the specification of a type that the first one needs. -/
inductive Needs (lookup : Lookup K) (k : K) : K → Prop where
  | self : Needs lookup k k
  | next {l j : K} (h : Needs lookup k l) {spec : Specification K l} (hspec : lookup l = .ok spec) (hj : j ∈ spec.types) :
    Needs lookup k j

/-! ### Faults of single steps -/

/-- There is a model exactly if the walk is not forced. -/
def Settings.Suits (s : Settings) {α : Type} : Option α → Prop
  | some _ => s.strategy ≠ .force
  | none => s.strategy = .force

/-- There is a subject exactly if the walk is not forced. -/
def Subject.Suits {v m : K} (s : Settings) : Subject v m → Prop
  | .present _ _ => s.strategy ≠ .force
  | .forced => s.strategy = .force

theorem Subject.Suits.subject_eq {v m : K} {s : Settings} {subject : Subject v m} (h : subject.Suits s) :
    s.subject subject = subject := by
  cases subject with
  | present value model => exact Settings.subject_of_ne_force h _
  | forced => exact s.subject_forced

/-- There is a part, or a missing one, exactly if the walk is not forced. -/
def Slot.Suits {v m : K} (s : Settings) : Slot v m → Prop
  | .present _ _ | .absent => s.strategy ≠ .force
  | .forced => s.strategy = .force

section Steps

variable {s : Settings} {P : Fault → Prop} {v m : K} {depth : Nat}

theorem faultsIn_checkDepth (hdeep : s.strategy ≠ .force → P (.depthExceeded s.maxDepth))
    (hdepth : s.strategy = .force → depth ≤ s.maxDepth) : FaultsIn P (s.checkDepth depth) := by
  unfold Settings.checkDepth
  split
  · next hlt =>
    have hs : s.strategy ≠ .force := by
      intro hs
      have hle := hdepth hs
      omega
    exact .error (hdeep hs)
  · exact .ok ()

theorem faultsIn_arrive {k : K} (hdeep : s.strategy ≠ .force → P (.depthExceeded s.maxDepth))
    {run : Option (Carrier k) → Except Fault (List Finding)} {model : Option (Carrier k)} (hmodel : s.Suits model)
    (hdepth : s.strategy = .force → depth ≤ s.maxDepth) (hrun : FaultsIn P (run model)) :
    FaultsIn P (arriveFindings s run model depth) := by
  refine (faultsIn_checkDepth hdeep hdepth).bind fun _ _ => ?_
  cases model with
  | some model =>
    have hplain : s.isForced = false := decide_eq_false hmodel
    rw [hplain]
    exact hrun
  | none =>
    have hforced : s.isForced = true := decide_eq_true hmodel
    rw [hforced]
    exact hrun

theorem faultsIn_fill {run : Subject v m → Except Fault (List Finding)}
    (hrun : ∀ subject, subject.Suits s → FaultsIn P (run subject)) (canBeAbsent : Bool) (chain : Chain K v m)
    {slot : Slot v m} (hslot : slot.Suits s) : FaultsIn P (chain.fillFindings s canBeAbsent run slot) := by
  cases slot with
  | present value model => exact hrun (.present value model) hslot
  | absent => exact .ok _
  | forced => exact (hrun .forced hslot).pure _

theorem faultsIn_gather {α : Type} {run : α → Except Fault (List Finding)} {as : List α}
    (hrun : ∀ a ∈ as, FaultsIn P (run a)) (i : Nat) : FaultsIn P (gatherFindings run i as) := by
  induction as generalizing i with
  | nil => exact .ok _
  | cons a as ih =>
    have hrest := ih (fun b hb => hrun b (List.mem_cons_of_mem a hb)) (i + 1)
    exact (hrun a List.mem_cons_self).bind fun fs _ => hrest.pure _

theorem faultsIn_collect_forced {run : Slot v m → Except Fault (List Finding)} (hrun : FaultsIn P (run .forced)) :
    FaultsIn P (collectFindings s depth run none) := by
  rw [collectFindings]
  split
  · exact hrun.map _
  · exact .ok _

theorem faultsIn_collect_present (hdeep : s.strategy ≠ .force → P (.depthExceeded s.maxDepth)) (hs : s.strategy ≠ .force)
    {run : Slot v m → Except Fault (List Finding)} {slots : List (Slot v m)} (hrun : ∀ slot ∈ slots, FaultsIn P (run slot)) :
    FaultsIn P (collectFindings s depth run (some slots)) := by
  cases slots with
  | nil => exact .ok _
  | cons slot slots =>
    refine (faultsIn_checkDepth hdeep fun hforce => absurd hforce hs).bind fun _ _ => ?_
    exact faultsIn_gather hrun 0

theorem faultsIn_descend {enter : Option (Carrier v) → Nat → Except Fault (List Finding)}
    (henter : ∀ model, s.Suits model → (s.strategy = .force → depth + 1 ≤ s.maxDepth) →
      FaultsIn P (enter model (depth + 1))) {subject : Subject v m} (hsubject : subject.Suits s) :
    FaultsIn P (descendFindings s depth enter subject) := by
  cases subject with
  | present value model => exact henter (some value) hsubject fun hforce => absurd hforce hsubject
  | forced =>
    rw [descendFindings]
    split
    · exact .ok _
    · exact henter none hsubject fun _ => by omega

theorem suits_presentSlots (hs : s.strategy ≠ .force) (model : Carrier m) (items : List (Carrier v)) :
    ∀ slot ∈ (presentSlots model items : List (Slot v m)), slot.Suits s := by
  intro slot hslot
  obtain ⟨value, -, rfl⟩ := List.mem_map.1 hslot
  exact hs

theorem suits_optionalSlots (hs : s.strategy ≠ .force) (model : Carrier m) (items : List (Option (Carrier v))) :
    ∀ slot ∈ (optionalSlots model items : List (Slot v m)), slot.Suits s := by
  intro slot hslot
  obtain ⟨value?, -, rfl⟩ := List.mem_map.1 hslot
  cases value? with
  | none => exact hs
  | some value => exact hs

theorem suits_fieldSlot (part : Accessor (Carrier m) (Carrier v)) {model : Option (Carrier m)} (h : s.Suits model) :
    (fieldSlot part model).Suits s := by
  cases model with
  | none => exact h
  | some model => exact h

theorem suits_memberSlot (part : Accessor (Carrier m) (Option (Carrier v))) {model : Option (Carrier m)}
    (h : s.Suits model) : (memberSlot part model).Suits s := by
  cases model with
  | none => exact h
  | some model =>
    simp only [memberSlot]
    cases part.read model with
    | none => exact h
    | some value => exact h

theorem suits_modelSubject {model : Option (Carrier m)} (h : s.Suits model) : (modelSubject model).Suits s := by
  cases model with
  | none => exact h
  | some model => exact h

end Steps

/-! ### Faults of the walk through a specification -/

/-- To go into a model of the type at anything deeper has faults of one kind only, if there is a model exactly when the
walk is not forced, and if a forced walk keeps to the greatest depth. -/
def EntersIn (P : Fault → Prop) (s : Settings) (enter : FindingsEntrance K) (depth : Nat) (k : K) : Prop :=
  ∀ model deeper, depth < deeper → s.Suits model → (s.strategy = .force → deeper ≤ s.maxDepth) →
    FaultsIn P (enter k model deeper)

theorem EntersIn.succ {P : Fault → Prop} {s : Settings} {enter : FindingsEntrance K} {depth : Nat} {k : K}
    (h : EntersIn P s enter depth k) : EntersIn P s enter (depth + 1) k :=
  fun model deeper hlt => h model deeper (by omega)

section Run

variable {s : Settings} {P : Fault → Prop} {enter : FindingsEntrance K}
  (hdeep : s.strategy ≠ .force → P (.depthExceeded s.maxDepth))

include hdeep

-- a walk that is not forced always has a subject, and a forced one never does; so no nested model is ever missed
mutual

theorem Rule.faultsIn {v m : K} : ∀ (rule : Rule K v m) {subject : Subject v m} {depth : Nat},
    (∀ k ∈ rule.types, EntersIn P s enter depth k) → subject.Suits s →
      FaultsIn P (rule.findings s enter subject depth)
  | .valid _, .present _ _, _, _, _ => by
    simp only [Rule.findings]
    exact .ok _
  | .valid _, .forced, _, _, _ => by
    simp only [Rule.findings]
    exact .ok _
  | .relative _, .present _ _, _, _, _ => by
    simp only [Rule.findings]
    exact .ok _
  | .relative _, .forced, _, _, _ => by
    simp only [Rule.findings]
    exact .ok _
  | .nullable content chain, .present value model, _, henter, hsubject => by
    simp only [Rule.findings]
    cases content value with
    | none => exact .ok _
    | some value => exact Chain.faultsIn chain henter hsubject
  | .nullable _ chain, .forced, _, henter, hsubject => by
    simp only [Rule.findings]
    exact Chain.faultsIn chain henter hsubject
  | .model spec, subject, depth, henter, hsubject => by
    simp only [Rule.findings]
    refine faultsIn_descend (fun model hmodel hdepth => ?_) hsubject
    exact faultsIn_arrive hdeep hmodel hdepth (Specification.faultsIn spec (fun k hk => (henter k hk).succ) hmodel)
  | .registeredModel, subject, depth, henter, hsubject => by
    have hv : EntersIn P s enter depth v := henter v (List.mem_singleton.2 rfl)
    simp only [Rule.findings]
    exact faultsIn_descend (fun model => hv model (depth + 1) (Nat.lt_succ_self depth)) hsubject
  | .each items chain, subject, depth, henter, hsubject => by
    have hchain := fun (subject : Subject _ m) (h : subject.Suits s) => Chain.faultsIn chain (fun k hk => (henter k hk).succ) h
    simp only [Rule.findings]
    cases subject with
    | present value model =>
      refine faultsIn_collect_present hdeep hsubject fun slot hslot => ?_
      exact faultsIn_fill hchain false chain (suits_presentSlots hsubject model (items value) slot hslot)
    | forced => exact faultsIn_collect_forced (faultsIn_fill hchain false chain hsubject)
  | .eachNullable items chain, subject, depth, henter, hsubject => by
    have hchain := fun (subject : Subject _ m) (h : subject.Suits s) => Chain.faultsIn chain (fun k hk => (henter k hk).succ) h
    simp only [Rule.findings]
    cases subject with
    | present value model =>
      refine faultsIn_collect_present hdeep hsubject fun slot hslot => ?_
      exact faultsIn_fill hchain true chain (suits_optionalSlots hsubject model (items value) slot hslot)
    | forced => exact faultsIn_collect_forced (faultsIn_fill hchain true chain hsubject)

theorem Rules.faultsIn {v m : K} : ∀ (rules : Rules K v m) {subject : Subject v m} {depth : Nat},
    (∀ k ∈ rules.types, EntersIn P s enter depth k) → subject.Suits s →
      FaultsIn P (rules.findings s enter subject depth)
  | .nil, _, _, _, _ => .ok _
  | .cons rule rest, _, _, henter, hsubject => by
    have hrule := Rule.faultsIn rule (fun k hk => henter k (List.mem_append_left _ hk)) hsubject
    have hrest := Rules.faultsIn rest (fun k hk => henter k (List.mem_append_right _ hk)) hsubject
    rw [Rules.findings]
    refine hrule.bind fun fs _ => ?_
    split
    · exact .ok _
    · exact hrest.pure _

theorem Chain.faultsIn {v m : K} : ∀ (chain : Chain K v m) {subject : Subject v m} {depth : Nat},
    (∀ k ∈ chain.types, EntersIn P s enter depth k) → subject.Suits s →
      FaultsIn P (chain.findings s enter subject depth)
  | .mk rules _, _, _, henter, hsubject => by
    rw [Chain.findings, hsubject.subject_eq]
    exact (Rules.faultsIn rules henter hsubject).pure _

theorem Scope.faultsIn {m : K} : ∀ (scope : Scope K m) {model : Option (Carrier m)} {depth : Nat},
    (∀ k ∈ scope.types, EntersIn P s enter depth k) → s.Suits model →
      FaultsIn P (scope.findings s enter model depth)
  | .field _ part chain, _, _, henter, hmodel => by
    have hchain := fun (subject : Subject _ m) (h : subject.Suits s) => Chain.faultsIn chain henter h
    rw [Scope.findings]
    exact (faultsIn_fill hchain false chain (suits_fieldSlot part hmodel)).pure _
  | .member _ part chain, _, _, henter, hmodel => by
    have hchain := fun (subject : Subject _ m) (h : subject.Suits s) => Chain.faultsIn chain henter h
    rw [Scope.findings]
    exact (faultsIn_fill hchain true chain (suits_memberSlot part hmodel)).pure _
  | .model chain, _, _, henter, hmodel => by
    rw [Scope.findings]
    exact Chain.faultsIn chain henter (suits_modelSubject hmodel)

theorem Specification.faultsIn {m : K} : ∀ (spec : Specification K m) {model : Option (Carrier m)} {depth : Nat},
    (∀ k ∈ spec.types, EntersIn P s enter depth k) → s.Suits model →
      FaultsIn P (spec.findings s enter model depth)
  | .nil, _, _, _, _ => .ok _
  | .cons scope rest, _, _, henter, hmodel => by
    have hscope := Scope.faultsIn scope (fun k hk => henter k (List.mem_append_left _ hk)) hmodel
    have hrest := Specification.faultsIn rest (fun k hk => henter k (List.mem_append_right _ hk)) hmodel
    rw [Specification.findings]
    exact hscope.bind fun fs _ => hrest.pure _

end

end Run

/-- A walk fails with a depth that is not allowed, unless it is forced, or with what is given for a needed type. -/
def Expected (s : Settings) (lookup : Lookup K) (k : K) (fault : Fault) : Prop :=
  (s.strategy ≠ .force ∧ fault = .depthExceeded s.maxDepth) ∨ ∃ j, Needs lookup k j ∧ lookup j = .error fault

theorem faultsIn_findingsWithin {s : Settings} {lookup : Lookup K} {root : K} (levels : Nat) {k : K}
    (hk : Needs lookup root k) (model : Option (Carrier k)) {depth : Nat} (hlevels : s.maxDepth < depth + levels)
    (hmodel : s.Suits model) (hdepth : s.strategy = .force → depth ≤ s.maxDepth) :
    FaultsIn (Expected s lookup root) (findingsWithin s lookup levels k model depth) := by
  have hdeep : s.strategy ≠ .force → Expected s lookup root (.depthExceeded s.maxDepth) := fun hs => .inl ⟨hs, rfl⟩
  have hlookup : FaultsIn (Expected s lookup root) (lookup k) := fun fault h => .inr ⟨k, hk, h⟩
  induction levels generalizing k depth with
  | zero =>
    refine hlookup.bind fun _ _ => .error (hdeep fun hs => ?_)
    have hle := hdepth hs
    omega
  | succ levels ih =>
    refine hlookup.bind fun spec hspec => ?_
    refine faultsIn_arrive hdeep hmodel hdepth (Specification.faultsIn hdeep spec (fun j hj => ?_) hmodel)
    have hneeds : Needs lookup root j := hk.next hspec hj
    exact fun model deeper hlt hmodel hdepth =>
      ih hneeds model (by omega) hmodel hdepth fun fault h => .inr ⟨j, hneeds, h⟩

theorem faultsIn_walk {s : Settings} {lookup : Lookup K} {k : K} {spec : Specification K k} (hspec : lookup k = .ok spec)
    {model : Option (Carrier k)} (hmodel : s.Suits model) :
    FaultsIn (Expected s lookup k) (walk s lookup spec model 0) := by
  have hdeep : s.strategy ≠ .force → Expected s lookup k (.depthExceeded s.maxDepth) := fun hs => .inl ⟨hs, rfl⟩
  have hneeded : ∀ j ∈ spec.types, EntersIn (Expected s lookup k) s (findingsWithin s lookup (s.maxDepth - 0)) 0 j := by
    intro j hj model deeper hlt hmodel hdepth
    exact faultsIn_findingsWithin _ (Needs.self.next hspec hj) model (by omega) hmodel hdepth
  rw [walk_eq_findings]
  refine FaultsIn.map (faultsIn_arrive hdeep hmodel (fun _ => Nat.zero_le _) ?_) _
  exact Specification.faultsIn hdeep spec hneeded hmodel

/-! ### Faults of validations -/

/-- What is given for a type is a specification, or the fault of building one. -/
def FromBuilding (k : K) (outcome : Except Fault (Specification K k)) : Prop :=
  ∀ fault, outcome = .error fault → ∃ (l : K) (scopes : List (Scope K l)), Specification.build scopes = .error fault

/-- What is wrong is what the registry has for a type. -/
def Fault.OfRegistry (fault : Fault) : Prop := fault.OfBuilding ∨ ∃ name, fault = .unregistered name

theorem Fault.OfRegistry.ne_depthExceeded {fault : Fault} (h : fault.OfRegistry) (n : Nat) :
    fault ≠ .depthExceeded n := by
  intro hfault
  subst hfault
  rcases h with h | ⟨_, h⟩
  · exact h
  · cases h

theorem Fault.OfRegistry.ne_nullModel {fault : Fault} (h : fault.OfRegistry) (name : String) :
    fault ≠ .nullModel name := by
  intro hfault
  subst hfault
  rcases h with h | ⟨_, h⟩
  · exact h
  · cases h

/-- A forced walk goes on without the model that it is given. -/
theorem walk_forced {s : Settings} (hs : s.strategy = .force) (lookup : Lookup K) {m : K} (spec : Specification K m)
    (model : Option (Carrier m)) (depth : Nat) : walk s lookup spec model depth = walk s lookup spec none depth := by
  have hforced : s.isForced = true := decide_eq_true hs
  simp only [walk, Specification.walk, arrive, hforced, ↓reduceIte]

theorem walk_null_root {s : Settings} (hs : s.strategy ≠ .force) (lookup : Lookup K) {m : K} (spec : Specification K m) :
    walk s lookup spec none 0 = s.nullRootTree (ValueTypes.typeName m) := by
  have hplain : s.isForced = false := decide_eq_false hs
  have hdepth : s.checkDepth 0 = .ok () := Settings.checkDepth_eq_ok.2 (Nat.zero_le _)
  simp only [walk, Specification.walk, arrive, hplain, hdepth]
  rfl

variable [DecidableEq K]

theorem faultsIn_lookup {r : Registry K} (hr : r.Grown FromBuilding) (k : K) : FaultsIn Fault.OfRegistry (r.lookup k) := by
  intro fault hfault
  rcases hr.lookup k with hbuilt | hnone
  · obtain ⟨l, scopes, hscopes⟩ := hbuilt fault hfault
    exact .inl (Specification.faultsIn_build scopes fault hscopes)
  · rw [hnone] at hfault
    cases hfault
    exact .inr ⟨_, rfl⟩

section Validate

variable (v : Validator K) (k : K) (model : Option (Carrier k)) (overrides : Overrides)

/-- A validation ends after as many levels as there are depths, whatever would lie beyond them. -/
theorem validateWith_eq_iterate (beyond : Entrance K) :
    v.validateWith k model overrides = do
      let spec ← v.registry.lookup k
      let s := Settings.ofOptions v.options overrides
      let errors ← spec.walk s ((enterOnce s v.registry.lookup)^[s.maxDepth + 1] beyond) model 0
      return ⟨model, errors, s.strategy, s.maxDepth, false⟩ := by
  have hends : ∀ spec : Specification K k,
      walk (Settings.ofOptions v.options overrides) v.registry.lookup spec model 0 =
        spec.walk (Settings.ofOptions v.options overrides)
          ((enterOnce (Settings.ofOptions v.options overrides) v.registry.lookup)^[
            (Settings.ofOptions v.options overrides).maxDepth + 1] beyond) model 0 :=
    fun spec => walk_eq_iterate _ _ beyond spec model 0
  simp only [← hends]
  rfl

theorem validateWith_of_lookup {fault : Fault} (h : v.registry.lookup k = .error fault) :
    v.validateWith k model overrides = .error fault := by
  rw [Validator.validateWith, h]
  rfl

theorem faultsIn_validateWith
    (h : (Settings.ofOptions v.options overrides).strategy = .force ∨ ∃ m, model = some m) :
    FaultsIn (Expected (.ofOptions v.options overrides) v.registry.lookup k) (v.validateWith k model overrides) := by
  have hlookup : FaultsIn (Expected (.ofOptions v.options overrides) v.registry.lookup k) (v.registry.lookup k) :=
    fun fault hfault => .inr ⟨k, .self, hfault⟩
  refine hlookup.bind fun spec hspec => FaultsIn.bind ?_ fun _ _ => .ok _
  by_cases hs : (Settings.ofOptions v.options overrides).strategy = .force
  · rw [walk_forced hs]
    exact faultsIn_walk hspec hs
  · rcases h with h | ⟨m, rfl⟩
    · exact absurd h hs
    · exact faultsIn_walk hspec hs

theorem validateWith_forced_ne_depthExceeded (hv : v.registry.Grown FromBuilding)
    (hs : (Settings.ofOptions v.options overrides).strategy = .force) (n : Nat) :
    v.validateWith k model overrides ≠ .error (.depthExceeded n) := by
  intro hn
  rcases faultsIn_validateWith v k model overrides (.inl hs) _ hn with ⟨hne, -⟩ | ⟨j, -, hj⟩
  · exact hne hs
  · exact (faultsIn_lookup hv j _ hj).ne_depthExceeded n rfl

theorem validateWith_ne_nullModel (hv : v.registry.Grown FromBuilding)
    (h : (Settings.ofOptions v.options overrides).strategy = .force ∨ ∃ m, model = some m) (name : String) :
    v.validateWith k model overrides ≠ .error (.nullModel name) := by
  intro hname
  rcases faultsIn_validateWith v k model overrides h _ hname with ⟨-, hdeep⟩ | ⟨j, -, hj⟩
  · cases hdeep
  · exact (faultsIn_lookup hv j _ hj).ne_nullModel name rfl

/-! ### Missing root models -/

section NullRoot

variable (hs : (Settings.ofOptions v.options overrides).strategy ≠ .force)

include hs

theorem validateWith_null_root {spec : Specification K k} (hspec : v.registry.lookup k = .ok spec) :
    v.validateWith k none overrides =
      ((Settings.ofOptions v.options overrides).nullRootTree (ValueTypes.typeName k)).map fun errors =>
        ⟨none, errors, (Settings.ofOptions v.options overrides).strategy,
          (Settings.ofOptions v.options overrides).maxDepth, false⟩ := by
  simp only [Validator.validateWith, hspec, bind, Except.bind, walk_null_root hs]
  cases (Settings.ofOptions v.options overrides).nullRootTree (ValueTypes.typeName k) <;> rfl

theorem validateWith_null_root_fail_iff (hv : v.registry.Grown FromBuilding) :
    (∃ name, v.validateWith k none overrides = .error (.nullModel name)) ↔
      (∃ spec, v.registry.lookup k = .ok spec) ∧ (Settings.ofOptions v.options overrides).nullRoot = .fail := by
  cases hlookup : v.registry.lookup k with
  | error fault =>
    have hfault := validateWith_of_lookup v k none overrides hlookup
    constructor
    · rintro ⟨name, hname⟩
      have hnull : fault = .nullModel name := Except.error.inj (hfault.symm.trans hname)
      exact absurd hnull ((faultsIn_lookup hv k fault hlookup).ne_nullModel name)
    · rintro ⟨⟨spec, hspec⟩, -⟩
      cases hspec
  | ok spec =>
    rw [validateWith_null_root v k overrides hs hlookup, Settings.nullRootTree]
    cases (Settings.ofOptions v.options overrides).nullRoot <;> simp [Except.map]

/-- A missing root model leaves no other fault than its own and that of its type. -/
theorem lookup_of_null_root {fault : Fault} (hfault : v.validateWith k none overrides = .error fault)
    (hnull : ∀ name, fault ≠ .nullModel name) : v.registry.lookup k = .error fault := by
  cases hlookup : v.registry.lookup k with
  | error other =>
    have hother := validateWith_of_lookup v k none overrides hlookup
    rw [Except.error.inj (hother.symm.trans hfault)]
  | ok spec =>
    rw [validateWith_null_root v k overrides hs hlookup, Settings.nullRootTree] at hfault
    cases hpolicy : (Settings.ofOptions v.options overrides).nullRoot with
    | fail =>
      rw [hpolicy] at hfault
      cases hfault
      exact absurd rfl (hnull _)
    | required =>
      rw [hpolicy] at hfault
      cases hfault
    | accept =>
      rw [hpolicy] at hfault
      cases hfault

end NullRoot

/-- **Only the setup of a validation makes it fail.**  If factories fail only where building fails, then a validation comes
to an end, whatever would lie beyond the greatest depth.  A forced one fails neither by its depth nor for want of a
model, and no other one for want of a model that it has.  Without a root model the policy says what the outcome is.
Every further fault is the greatest depth of the run, or what the registry gives for a needed type. -/
theorem only_configuration_is_fatal (hv : v.registry.Grown FromBuilding) :
    let s := Settings.ofOptions v.options overrides
    let lookup := v.registry.lookup
    let outcome := v.validateWith k model overrides
    (∀ beyond : Entrance K, outcome = do
      let spec ← lookup k
      let errors ← spec.walk s ((enterOnce s lookup)^[s.maxDepth + 1] beyond) model 0
      return ⟨model, errors, s.strategy, s.maxDepth, false⟩) ∧
    (s.strategy = .force →
      (∀ n, outcome ≠ .error (.depthExceeded n)) ∧ ∀ name, outcome ≠ .error (.nullModel name)) ∧
    (∀ m, model = some m → ∀ name, outcome ≠ .error (.nullModel name)) ∧
    (model = none → s.strategy ≠ .force →
      ((∃ name, outcome = .error (.nullModel name)) ↔ (∃ spec, lookup k = .ok spec) ∧ s.nullRoot = .fail) ∧
      ∀ spec, lookup k = .ok spec →
        (s.nullRoot = .required → ∃ r, outcome = .ok r ∧ r.errors = .ofError s.requiredError) ∧
        (s.nullRoot = .accept → ∃ r, outcome = .ok r ∧ r.errors = .empty)) ∧
    ∀ fault, outcome = .error fault → (∀ name, fault ≠ .nullModel name) →
      fault = .depthExceeded s.maxDepth ∨ ∃ j, Needs lookup k j ∧ lookup j = .error fault := by
  intro s lookup outcome
  refine ⟨validateWith_eq_iterate v k model overrides, fun hs => ⟨?_, ?_⟩, fun m hm => ?_, fun hmodel hs => ?_,
    fun fault hfault hnull => ?_⟩
  · exact validateWith_forced_ne_depthExceeded v k model overrides hv hs
  · exact validateWith_ne_nullModel v k model overrides hv (.inl hs)
  · exact validateWith_ne_nullModel v k model overrides hv (.inr ⟨m, hm⟩)
  · subst hmodel
    refine ⟨validateWith_null_root_fail_iff v k overrides hs hv, fun spec hspec => ?_⟩
    have hroot := validateWith_null_root v k overrides hs hspec
    constructor
    · intro hpolicy
      exact ⟨_, hroot.trans (by rw [Settings.nullRootTree, hpolicy]; rfl), rfl⟩
    · intro hpolicy
      exact ⟨_, hroot.trans (by rw [Settings.nullRootTree, hpolicy]; rfl), rfl⟩
  · by_cases hforced : s.strategy = .force ∨ ∃ m, model = some m
    · rcases faultsIn_validateWith v k model overrides hforced fault hfault with ⟨-, hdeep⟩ | hneeded
      · exact .inl hdeep
      · exact .inr hneeded
    · obtain ⟨hs, hmodel⟩ := not_or.1 hforced
      have hnone : model = none := Option.eq_none_iff_forall_ne_some.2 (not_exists.1 hmodel)
      subst hnone
      exact .inr ⟨k, .self, lookup_of_null_root v k overrides hs hfault hnull⟩

end Validate

namespace Employee

/-- The employees' registry with a factory for texts that fails to build a specification. -/
def brokenRegistry : Registry StaffType :=
  registry.registerFactory (k := StaffType.text) fun _ => .error .emptyMemberName

def brokenValidator : Validator StaffType := ⟨.default, brokenRegistry, .empty⟩

theorem grown_brokenRegistry : brokenRegistry.Grown FromBuilding := by
  have hregistry : registry.Grown FromBuilding := by
    refine .register .empty specification ?_
    intro fault hfault
    cases hfault
  refine .registerFactory hregistry (fun _ => .error .emptyMemberName) ?_
  intro run fault hfault
  cases hfault
  exact ⟨.employee, [.field (v := StaffType.text) "" ⟨"name", name⟩ nameChain], by rfl⟩

end Employee

theorem only_configuration_is_fatal_broken :
    Employee.brokenValidator.registry.Grown FromBuilding ∧
      (∀ n, Employee.brokenValidator.validateWith .employee none ⟨some .force, none, some 1⟩ ≠
        .error (.depthExceeded n)) ∧
      (∀ name, Employee.brokenValidator.validateWith .employee (some Employee.withDeputies) ⟨none, none, some 1⟩ ≠
        .error (.nullModel name)) ∧
      (∃ name, Employee.brokenValidator.validateWith .employee none .none = .error (.nullModel name)) ∧
      ∃ j, Needs Employee.brokenRegistry.lookup .text j ∧
        Employee.brokenRegistry.lookup j = .error .emptyMemberName := by
  have hv := Employee.grown_brokenRegistry
  obtain ⟨-, hforced, -, -, -⟩ :=
    only_configuration_is_fatal Employee.brokenValidator .employee none ⟨some .force, none, some 1⟩ hv
  obtain ⟨-, -, hmodel, -, -⟩ :=
    only_configuration_is_fatal Employee.brokenValidator .employee (some Employee.withDeputies) ⟨none, none, some 1⟩ hv
  obtain ⟨-, -, -, hnull, -⟩ := only_configuration_is_fatal Employee.brokenValidator .employee none .none hv
  obtain ⟨-, -, -, -, hother⟩ := only_configuration_is_fatal Employee.brokenValidator .text none .none hv
  have hplain : (Settings.ofOptions Employee.brokenValidator.options .none).strategy ≠ .force := by decide
  refine ⟨hv, (hforced rfl).1, hmodel _ rfl, (hnull rfl hplain).1.2 ⟨⟨Employee.specification, rfl⟩, rfl⟩, ?_⟩
  have hbroken : Employee.brokenValidator.validateWith .text none .none = .error .emptyMemberName := by rfl
  rcases hother _ hbroken (by simp) with hdeep | hneeded
  · cases hdeep
  · exact hneeded

end ModelValidation
