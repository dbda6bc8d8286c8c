import ModelValidation.Proofs.Grouping
import ModelValidation.Registry
import ModelValidation.Walk

/-!
# What a walk finds

The findings of a walk are its errors one after another, each with the route to its place: the members and items
passed on the way.  They are defined here rule by rule without any tree.  The tree of a walk is their grouping:

* `walk_eq_findings`: a walk fails where its findings fail, and else its tree holds them by path and in order;
* `walk_groups_findings`: what this says node by node.
-/

set_option linter.unusedSectionVars false

namespace ModelValidation

open ErrorTree (Placed grouping)

/-! ### Findings -/

/-- One step on the way to the place of an error. -/
inductive Step where
  /-- Into the member of a model. -/
  | member (key : String)
  /-- Into an item of a collection. -/
  | item (key : String)
  deriving DecidableEq, Repr

/-- The key of a step in the tree. -/
def Step.key : Step → String
  | .member key | .item key => key

/-- An error with the way to its place. -/
structure Finding where
  route : List Step
  error : ValidationError

namespace Finding

/-- An error at the place where it is found. -/
def here (e : ValidationError) : Finding := ⟨[], e⟩

/-- The finding seen from one step before. -/
def under (step : Step) (f : Finding) : Finding := { f with route := step :: f.route }

/-- The keys on the way. -/
def path (f : Finding) : List String := f.route.map Step.key

/-- The error with its path. -/
def placed (f : Finding) : Placed := (f.path, f.error)

/-- The finding with another template if it is right here. -/
def retitled (template : String) (f : Finding) : Finding :=
  if f.route = [] then { f with error := f.error.withTemplate template } else f

end Finding

namespace ErrorTree

/-- The tree with findings added one by one. -/
def addFindings (t : ErrorTree) (fs : List Finding) : ErrorTree := t.addAll (fs.map Finding.placed)

/-- The tree of findings. -/
def ofFindings (fs : List Finding) : ErrorTree := grouping (fs.map Finding.placed)

end ErrorTree

/-! ### Settings -/

/-- The settings with another strategy. -/
def Settings.withStrategy (s : Settings) (strategy : Strategy) : Settings := { s with strategy }

@[simp] theorem Settings.maxDepth_withStrategy (s : Settings) (strategy : Strategy) :
    (s.withStrategy strategy).maxDepth = s.maxDepth := rfl

@[simp] theorem Settings.strategy_withStrategy (s : Settings) (strategy : Strategy) :
    (s.withStrategy strategy).strategy = strategy := rfl

theorem Settings.checkDepth_eq_ok {s : Settings} {depth : Nat} {u : Unit} :
    s.checkDepth depth = .ok u ↔ depth ≤ s.maxDepth := by
  unfold Settings.checkDepth
  split <;> simp <;> omega

variable {K : Type} [ValueTypes K]

/-- What is found by going into the model of some type at some depth. -/
abbrev FindingsEntrance (K : Type) [ValueTypes K] :=
  (k : K) → Option (Carrier k) → Nat → Except Fault (List Finding)

/-! ### Single steps -/

/-- A check that fails finds its error, or the default error. -/
def Settings.failure (s : Settings) (error : Option ValidationError) (passed : Bool) : List Finding :=
  if passed then [] else [.here (error.getD s.defaultError)]

/-- What a missing root model finds. -/
def Settings.nullRootFindings (s : Settings) (typeName : String) : Except Fault (List Finding) :=
  match s.nullRoot with
  | .fail => .error (.nullModel typeName)
  | .required => .ok [.here s.requiredError]
  | .accept => .ok []

/-- A single error takes the place of all findings. -/
def Chain.collapse {v m : K} (chain : Chain K v m) (fs : List Finding) : List Finding :=
  match chain.singleError? with
  | some e => if fs.isEmpty then [] else [.here e]
  | none => fs

/-- What the directives of a chain make of its findings: a single one first, then another template for those that are
right here. -/
def Chain.settle {v m : K} (chain : Chain K v m) (fs : List Finding) : List Finding :=
  match chain.message? with
  | some template => (chain.collapse fs).map (Finding.retitled template)
  | none => chain.collapse fs

/-- A missing part finds the required error unless the chain is optional; so does a part that could be missing if
nothing is there to look at. -/
def Chain.fillFindings {v m : K} (s : Settings) (canBeAbsent : Bool) (chain : Chain K v m)
    (run : Subject v m → Except Fault (List Finding)) : Slot v m → Except Fault (List Finding)
  | .present value model => run (.present value model)
  | .absent => .ok (if chain.isOptional then [] else [.here s.requiredError])
  | .forced => do
    let fs ← run .forced
    return (if canBeAbsent && !chain.isOptional then [.here s.requiredError] else []) ++ fs

/-- The findings of items, each under its place, from the place `i` on. -/
def gatherFindings {α : Type} (run : α → Except Fault (List Finding)) (i : Nat) :
    List α → Except Fault (List Finding)
  | [] => .ok []
  | a :: as => do
    let fs ← run a
    let rest ← gatherFindings run (i + 1) as
    return fs.map (Finding.under (.item (toString i))) ++ rest

/-- The findings of a collection: those of its items, or those of the one item that stands for them all. -/
def collectFindings {v m : K} (s : Settings) (depth : Nat) (run : Slot v m → Except Fault (List Finding)) :
    Option (List (Slot v m)) → Except Fault (List Finding)
  | none =>
    if depth + 1 ≤ s.maxDepth then (run .forced).map fun fs => fs.map (Finding.under (.item s.forceKey))
    else .ok []
  | some [] => .ok []
  | some (slot :: slots) => do
    s.checkDepth (depth + 1)
    gatherFindings run 0 (slot :: slots)

/-- The findings of a nested model; without one there are none beyond the greatest depth. -/
def descendFindings {v m : K} (s : Settings) (depth : Nat)
    (enter : Option (Carrier v) → Nat → Except Fault (List Finding)) : Subject v m → Except Fault (List Finding)
  | .present value _ => enter (some value) (depth + 1)
  | .forced => if s.maxDepth < depth + 1 then .ok [] else enter none (depth + 1)

/-- The findings in a model at some depth. -/
def arriveFindings {k : K} (s : Settings) (run : Option (Carrier k) → Except Fault (List Finding))
    (model : Option (Carrier k)) (depth : Nat) : Except Fault (List Finding) := do
  s.checkDepth depth
  if s.isForced then run none
  else
    match model with
    | some model => run (some model)
    | none => s.nullRootFindings (ValueTypes.typeName k)

/-- What the part of a model gives a chain. -/
def fieldSlot {v m : K} (part : Accessor (Carrier m) (Carrier v)) : Option (Carrier m) → Slot v m
  | some model => .present (part.read model) model
  | none => .forced

/-- What the part of a model gives a chain if it may be missing. -/
def memberSlot {v m : K} (part : Accessor (Carrier m) (Option (Carrier v))) : Option (Carrier m) → Slot v m
  | some model =>
    match part.read model with
    | some value => .present value model
    | none => .absent
  | none => .forced

/-- The model as a subject of its own. -/
def modelSubject {m : K} : Option (Carrier m) → Subject m m
  | some model => .present model model
  | none => .forced

/-! ### The findings of a specification -/

mutual

/-- The findings of a rule. -/
def Rule.findings (s : Settings) (enter : FindingsEntrance K) {v m : K} :
    Rule K v m → Subject v m → Nat → Except Fault (List Finding)
  | .valid check, .present value _, _ => .ok (s.failure check.error (check.holds value))
  | .valid check, .forced, _ => .ok (s.failure check.error false)
  | .relative check, .present _ model, _ => .ok (s.failure check.error (check.holds model))
  | .relative check, .forced, _ => .ok (s.failure check.error false)
  | .nullable content chain, .present value model, depth =>
    match content value with
    | some value => chain.findings s enter (.present value model) depth
    | none => .ok []
  | .nullable _ chain, .forced, depth => chain.findings s enter .forced depth
  | .model spec, subject, depth =>
    descendFindings s depth
      (fun model depth => arriveFindings s (fun model => spec.findings s enter model depth) model depth) subject
  | .registeredModel, subject, depth => descendFindings s depth (enter v) subject
  | .each items chain, subject, depth =>
    collectFindings s depth (chain.fillFindings s false fun subject => chain.findings s enter subject (depth + 1)) <|
      match subject with
      | .present value model => some (presentSlots model (items value))
      | .forced => none
  | .eachNullable items chain, subject, depth =>
    collectFindings s depth (chain.fillFindings s true fun subject => chain.findings s enter subject (depth + 1)) <|
      match subject with
      | .present value model => some (optionalSlots model (items value))
      | .forced => none

/-- The findings of rules; failing fast, the first rule that finds something is the last one tried. -/
def Rules.findings (s : Settings) (enter : FindingsEntrance K) {v m : K} :
    Rules K v m → Subject v m → Nat → Except Fault (List Finding)
  | .nil, _, _ => .ok []
  | .cons rule rest, subject, depth => do
    let fs ← rule.findings s enter subject depth
    if s.strategy = .failFast ∧ fs.isEmpty = false then return fs
    return fs ++ (← rest.findings s enter subject depth)

/-- The findings of a chain. -/
def Chain.findings (s : Settings) (enter : FindingsEntrance K) {v m : K} :
    Chain K v m → Subject v m → Nat → Except Fault (List Finding)
  | .mk rules directives, subject, depth => do
    return Chain.settle (.mk rules directives) (← rules.findings s enter (s.subject subject) depth)

/-- The findings of a scope. -/
def Scope.findings (s : Settings) (enter : FindingsEntrance K) {m : K} :
    Scope K m → Option (Carrier m) → Nat → Except Fault (List Finding)
  | .field name part chain, model, depth => do
    let fs ← chain.fillFindings s false (fun subject => chain.findings s enter subject depth) (fieldSlot part model)
    return fs.map (Finding.under (.member (chain.name?.getD name)))
  | .member name part chain, model, depth => do
    let fs ← chain.fillFindings s true (fun subject => chain.findings s enter subject depth) (memberSlot part model)
    return fs.map (Finding.under (.member (chain.name?.getD name)))
  | .model chain, model, depth => chain.findings s enter (modelSubject model) depth

/-- The findings of scopes. -/
def Specification.findings (s : Settings) (enter : FindingsEntrance K) {m : K} :
    Specification K m → Option (Carrier m) → Nat → Except Fault (List Finding)
  | .nil, _, _ => .ok []
  | .cons scope rest, model, depth => do
    let fs ← scope.findings s enter model depth
    return fs ++ (← rest.findings s enter model depth)

end

/-- The findings in a model of a registered type, `levels` below the greatest depth at most. -/
def findingsWithin (s : Settings) (lookup : Lookup K) : (levels : Nat) → FindingsEntrance K
  | 0 => fun k _ _ => do
    let _ ← lookup k
    .error (.depthExceeded s.maxDepth)
  | levels + 1 => fun k model depth => do
    let spec ← lookup k
    arriveFindings s (fun model => spec.findings s (findingsWithin s lookup levels) model depth) model depth

/-- The findings of the walk through a specification from a depth on. -/
def findings (s : Settings) (lookup : Lookup K) {m : K} (spec : Specification K m) (model : Option (Carrier m))
    (depth : Nat) : Except Fault (List Finding) :=
  arriveFindings s (fun model => spec.findings s (findingsWithin s lookup (s.maxDepth - depth)) model depth) model depth

/-! ### Findings as a tree -/

namespace ErrorTree

theorem addFindings_append (t : ErrorTree) (fs gs : List Finding) :
    t.addFindings (fs ++ gs) = (t.addFindings fs).addFindings gs := by
  simp [addFindings, addAll_append]

theorem absorb_ofFindings (t : ErrorTree) (fs : List Finding) : absorb t (ofFindings fs) = t.addFindings fs :=
  absorb_grouping t _

theorem addMember_ofFindings (t : ErrorTree) (step : Step) (fs : List Finding) :
    t.addMember step.key (ofFindings fs) = t.addFindings (fs.map (Finding.under step)) := by
  have hplaced : (fs.map (Finding.under step)).map Finding.placed =
      (fs.map Finding.placed).map (Placed.under step.key) := by
    simp [Finding.placed, Finding.under, Finding.path, Placed.under]
  rw [ofFindings, addMember_grouping, addFindings, hplaced]

theorem isEmpty_ofFindings (fs : List Finding) : (ofFindings fs).isEmpty = fs.isEmpty := by
  simp [ofFindings, isEmpty_grouping]

theorem mapErrors_ofFindings (template : String) (fs : List Finding) :
    (ofFindings fs).mapErrors (·.withTemplate template) = ofFindings (fs.map (Finding.retitled template)) := by
  rw [ofFindings, mapErrors_grouping, ofFindings, List.map_map, List.map_map]
  congr 2
  funext f
  obtain ⟨route, e⟩ := f
  cases route <;> simp [Placed.mapRoot, Finding.placed, Finding.path, Finding.retitled]

end ErrorTree

open ErrorTree (ofFindings)

theorem Chain.finish_ofFindings {v m : K} (chain : Chain K v m) (fs : List Finding) :
    chain.finish (!fs.isEmpty) (ofFindings fs) = ofFindings (chain.settle fs) := by
  have hsingle : (match chain.singleError? with
      | some e => if (!fs.isEmpty) = true then .ofError e else ofFindings fs
      | none => ofFindings fs) = ofFindings (chain.collapse fs) := by
    unfold Chain.collapse
    cases chain.singleError? with
    | none => rfl
    | some e => cases fs <;> rfl
  unfold Chain.finish Chain.settle
  cases chain.message? with
  | none => exact hsingle
  | some template => exact (congrArg _ hsingle).trans (ErrorTree.mapErrors_ofFindings template _)

theorem Settings.verdict_eq (s : Settings) (error : Option ValidationError) (passed : Bool) :
    s.verdict error passed = ofFindings (s.failure error passed) := by
  cases passed <;> rfl

/-! ### The tree of a walk -/

section Simulation

variable {s : Settings} {v m : K}

theorem Chain.fill_eq (s : Settings) (canBeAbsent : Bool) (chain : Chain K v m)
    {run : Subject v m → Except Fault ErrorTree} {runF : Subject v m → Except Fault (List Finding)}
    (hrun : ∀ subject, run subject = (runF subject).map ofFindings) (slot : Slot v m) :
    chain.fill s canBeAbsent run slot = (chain.fillFindings s canBeAbsent runF slot).map ofFindings := by
  cases slot with
  | present value model => exact hrun _
  | absent =>
    cases h : chain.isOptional <;> simp [Chain.fill, Chain.fillFindings, h] <;> rfl
  | forced =>
    simp only [Chain.fill, Chain.fillFindings, hrun]
    cases runF .forced with
    | error fault => rfl
    | ok fs =>
      have h : (if canBeAbsent && !chain.isOptional then ErrorTree.ofError s.requiredError else .empty) =
          ofFindings (if canBeAbsent && !chain.isOptional then [.here s.requiredError] else []) := by
        split <;> rfl
      simp only [Except.map, bind, Except.bind, pure, Except.pure, h, ErrorTree.absorb_ofFindings]
      exact congrArg Except.ok (ErrorTree.addFindings_append _ _ _).symm

theorem gather_eq {α : Type} {run : α → Except Fault ErrorTree} {runF : α → Except Fault (List Finding)}
    (hrun : ∀ a, run a = (runF a).map ofFindings) (i : Nat) (node : ErrorTree) (as : List α) :
    gather run i node as = (gatherFindings runF i as).map node.addFindings := by
  induction as generalizing i node with
  | nil => rfl
  | cons a as ih =>
    simp only [gather, gatherFindings, hrun, bind, Except.bind]
    cases runF a with
    | error fault => rfl
    | ok fs =>
      have hadd := ErrorTree.addMember_ofFindings node (.item (toString i)) fs
      simp only [Except.map, Step.key] at hadd ⊢
      rw [hadd, ih]
      cases gatherFindings runF (i + 1) as with
      | error fault => rfl
      | ok rest => exact congrArg Except.ok (ErrorTree.addFindings_append _ _ _).symm

theorem collect_eq {depth : Nat} {run : Slot v m → Except Fault ErrorTree}
    {runF : Slot v m → Except Fault (List Finding)} (hrun : ∀ slot, run slot = (runF slot).map ofFindings)
    (slots? : Option (List (Slot v m))) :
    collect s depth run slots? = (collectFindings s depth runF slots?).map ofFindings := by
  match slots? with
  | none =>
    simp only [collect, collectFindings, hrun]
    split
    · cases runF .forced with
      | error fault => rfl
      | ok fs => exact congrArg Except.ok (ErrorTree.addMember_ofFindings .empty (.item s.forceKey) fs)
    · rfl
  | some [] => rfl
  | some (slot :: slots) =>
    simp only [collect, collectFindings, List.isEmpty_cons, ↓reduceIte, bind, Except.bind]
    cases s.checkDepth (depth + 1) with
    | error fault => rfl
    | ok _ => exact gather_eq hrun 0 .empty (slot :: slots)

theorem descend_eq {depth : Nat} {enter : Option (Carrier v) → Nat → Except Fault ErrorTree}
    {enterF : Option (Carrier v) → Nat → Except Fault (List Finding)}
    (henter : ∀ model depth, enter model depth = (enterF model depth).map ofFindings) (subject : Subject v m) :
    descend s depth enter subject = (descendFindings s depth enterF subject).map ofFindings := by
  cases subject with
  | present value model => exact henter _ _
  | forced =>
    simp only [descend, descendFindings]
    split
    · rfl
    · exact henter _ _

theorem arrive_eq {k : K} {run : Option (Carrier k) → Except Fault ErrorTree}
    {runF : Option (Carrier k) → Except Fault (List Finding)}
    (hrun : ∀ model, run model = (runF model).map ofFindings) (model : Option (Carrier k)) (depth : Nat) :
    arrive s run model depth = (arriveFindings s runF model depth).map ofFindings := by
  unfold arrive arriveFindings
  cases s.checkDepth depth with
  | error fault => rfl
  | ok _ =>
    simp only [bind, Except.bind]
    split
    · exact hrun none
    · cases model with
      | some model => exact hrun (some model)
      | none =>
        unfold Settings.nullRootTree Settings.nullRootFindings
        cases s.nullRoot <;> rfl

/-- A node with the tree of a chain added under a step. -/
theorem addUnder_eq {x : Except Fault ErrorTree} {y : Except Fault (List Finding)} (h : x = y.map ofFindings)
    (step : Step) (root : ErrorTree) :
    (do return root.addMember step.key (← x)) =
      (do return (← y).map (Finding.under step) : Except Fault (List Finding)).map root.addFindings := by
  subst h
  cases y with
  | error fault => rfl
  | ok fs => exact congrArg Except.ok (ErrorTree.addMember_ofFindings root step fs)

/-- A node with the tree of a chain added to it. -/
theorem absorb_eq {x : Except Fault ErrorTree} {y : Except Fault (List Finding)} (h : x = y.map ofFindings)
    (root : ErrorTree) : (do return root.absorb (← x)) = y.map root.addFindings := by
  subst h
  cases y with
  | error fault => rfl
  | ok fs => exact congrArg Except.ok (ErrorTree.absorb_ofFindings root fs)

end Simulation

section Simulation

variable {s : Settings} {enter : Entrance K} {enterF : FindingsEntrance K}
  (henter : ∀ k model depth, enter k model depth = (enterF k model depth).map ofFindings)

include henter

-- one case for each constructor; rules and scopes add their findings to whatever the node holds already, and rules have
-- failed once they have found something
mutual

theorem Rule.walk_eq {v m : K} : ∀ (rule : Rule K v m) (subject : Subject v m) (depth : Nat),
    rule.walk s enter subject depth = (rule.findings s enterF subject depth).map ofFindings
  | .valid check, .present value _, _ => by
    simp [Rule.walk, Rule.findings, Except.map, Settings.verdict_eq]
  | .valid check, .forced, _ => by
    simp [Rule.walk, Rule.findings, Except.map, Settings.verdict_eq]
  | .relative check, .present _ model, _ => by
    simp [Rule.walk, Rule.findings, Except.map, Settings.verdict_eq]
  | .relative check, .forced, _ => by
    simp [Rule.walk, Rule.findings, Except.map, Settings.verdict_eq]
  | .nullable content chain, .present value model, depth => by
    simp only [Rule.walk, Rule.findings]
    cases content value with
    | none => rfl
    | some value => exact Chain.walk_eq chain _ _
  | .nullable _ chain, .forced, depth => by
    simp only [Rule.walk, Rule.findings]
    exact Chain.walk_eq chain _ _
  | .model spec, subject, depth => by
    simp only [Rule.walk, Rule.findings]
    refine descend_eq (fun model depth => arrive_eq (fun model => ?_) model depth) subject
    exact Specification.walkScopes_eq spec model depth .empty
  | .registeredModel, subject, depth => by
    simp only [Rule.walk, Rule.findings]
    exact descend_eq (henter _) subject
  | .each items chain, subject, depth => by
    simp only [Rule.walk, Rule.findings]
    exact collect_eq (fun slot => chain.fill_eq s false (fun subject => Chain.walk_eq chain subject _) slot) _
  | .eachNullable items chain, subject, depth => by
    simp only [Rule.walk, Rule.findings]
    exact collect_eq (fun slot => chain.fill_eq s true (fun subject => Chain.walk_eq chain subject _) slot) _

theorem Rules.walk_eq {v m : K} : ∀ (rules : Rules K v m) (subject : Subject v m) (depth : Nat) (failed : Bool)
    (node : ErrorTree),
    rules.walk s enter subject depth failed node =
      (rules.findings s enterF subject depth).map fun fs => (failed || !fs.isEmpty, node.addFindings fs)
  | .nil, _, _, failed, node => by
    cases failed <;> rfl
  | .cons rule rest, subject, depth, failed, node => by
    simp only [Rules.walk, Rules.findings, bind, Except.bind, pure, Except.pure]
    rw [Rule.walk_eq rule subject depth]
    cases rule.findings s enterF subject depth with
    | error fault => rfl
    | ok fs =>
      simp only [Except.map, ErrorTree.isEmpty_ofFindings, ErrorTree.absorb_ofFindings]
      split
      · rfl
      · rw [Rules.walk_eq rest subject depth]
        cases rest.findings s enterF subject depth with
        | error fault => rfl
        | ok gs =>
          have hfailed : (failed || !fs.isEmpty || !gs.isEmpty) = (failed || !(fs ++ gs).isEmpty) := by
            cases fs <;> simp
          exact congrArg Except.ok (Prod.ext hfailed (ErrorTree.addFindings_append _ _ _).symm)

theorem Chain.walk_eq {v m : K} : ∀ (chain : Chain K v m) (subject : Subject v m) (depth : Nat),
    chain.walk s enter subject depth = (chain.findings s enterF subject depth).map ofFindings
  | .mk rules directives, subject, depth => by
    simp only [Chain.walk, Chain.findings, bind, Except.bind, pure, Except.pure]
    rw [Rules.walk_eq rules (s.subject subject) depth]
    cases rules.findings s enterF (s.subject subject) depth with
    | error fault => rfl
    | ok fs => exact congrArg Except.ok (Chain.finish_ofFindings _ fs)

theorem Scope.walk_eq {m : K} : ∀ (scope : Scope K m) (model : Option (Carrier m)) (depth : Nat) (root : ErrorTree),
    scope.walk s enter model depth root = (scope.findings s enterF model depth).map root.addFindings
  | .field name part chain, model, depth, root => by
    have hfill := chain.fill_eq s false (fun subject => Chain.walk_eq chain subject depth)
      (fieldSlot part model)
    simp only [Scope.walk, Scope.findings]
    exact addUnder_eq hfill (.member _) root
  | .member name part chain, model, depth, root => by
    have hfill := chain.fill_eq s true (fun subject => Chain.walk_eq chain subject depth)
      (memberSlot part model)
    simp only [Scope.walk, Scope.findings]
    exact addUnder_eq hfill (.member _) root
  | .model chain, model, depth, root => by
    have hchain := Chain.walk_eq chain (modelSubject model) depth
    simp only [Scope.walk, Scope.findings]
    exact absorb_eq hchain root

theorem Specification.walkScopes_eq {m : K} : ∀ (spec : Specification K m) (model : Option (Carrier m)) (depth : Nat)
    (root : ErrorTree),
    spec.walkScopes s enter model depth root = (spec.findings s enterF model depth).map root.addFindings
  | .nil, _, _, _ => rfl
  | .cons scope rest, model, depth, root => by
    simp only [Specification.walkScopes, Specification.findings, bind, Except.bind, pure, Except.pure]
    rw [Scope.walk_eq scope model depth root]
    cases scope.findings s enterF model depth with
    | error fault => rfl
    | ok fs =>
      simp only [Except.map]
      rw [Specification.walkScopes_eq rest model depth]
      cases rest.findings s enterF model depth with
      | error fault => rfl
      | ok gs => exact congrArg Except.ok (ErrorTree.addFindings_append _ _ _).symm

end

end Simulation

theorem Specification.walk_eq {s : Settings} {enter : Entrance K} {enterF : FindingsEntrance K}
    (henter : ∀ k model depth, enter k model depth = (enterF k model depth).map ofFindings) {m : K}
    (spec : Specification K m) (model : Option (Carrier m)) (depth : Nat) :
    spec.walk s enter model depth =
      (arriveFindings s (fun model => spec.findings s enterF model depth) model depth).map ofFindings :=
  arrive_eq (fun model => Specification.walkScopes_eq henter spec model depth .empty) model depth

theorem enterWithin_eq (s : Settings) (lookup : Lookup K) (levels : Nat) (k : K) (model : Option (Carrier k))
    (depth : Nat) :
    enterWithin s lookup levels k model depth = (findingsWithin s lookup levels k model depth).map ofFindings := by
  induction levels generalizing k model depth with
  | zero =>
    unfold enterWithin findingsWithin
    cases lookup k <;> rfl
  | succ levels ih =>
    unfold enterWithin findingsWithin
    cases lookup k with
    | error fault => rfl
    | ok spec => exact Specification.walk_eq ih spec model depth

/-- **The tree of a walk is the tree of its findings**, and it fails where they fail. -/
theorem walk_eq_findings (s : Settings) (lookup : Lookup K) {m : K} (spec : Specification K m)
    (model : Option (Carrier m)) (depth : Nat) :
    walk s lookup spec model depth = (findings s lookup spec model depth).map ofFindings :=
  Specification.walk_eq (enterWithin_eq s lookup _) spec model depth

theorem errorsAt_ofFindings (fs : List Finding) (path : List String) :
    (ofFindings fs).errorsAt path = (fs.filter (·.path = path)).map (·.error) := by
  rw [ofFindings, ErrorTree.errorsAt_grouping, List.filter_map, List.map_map]
  rfl

theorem errorsAt_sublist {fs cs : List Finding} (h : fs.Sublist cs) (path : List String) :
    ((ofFindings fs).errorsAt path).Sublist ((ofFindings cs).errorsAt path) := by
  rw [errorsAt_ofFindings, errorsAt_ofFindings]
  exact (h.filter _).map _

/-- **Node by node**, the tree of a walk holds the findings with the path of the node, in order; the members of the
node stand in the order in which a finding first goes into them; and there is nothing else. -/
theorem walk_groups_findings (s : Settings) (lookup : Lookup K) {m : K} (spec : Specification K m)
    (model : Option (Carrier m)) (depth : Nat) :
    match findings s lookup spec model depth with
    | .error fault => walk s lookup spec model depth = .error fault
    | .ok fs => ∃ t, walk s lookup spec model depth = .ok t ∧ t = ofFindings fs ∧ t.Tidy ∧ t.count = fs.length ∧
        ∀ path, t.errorsAt path = (fs.filter (·.path = path)).map (·.error) ∧
          t.keysAt path = (fs.filterMap fun f => ErrorTree.next? path f.path).eraseDups := by
  have hwalk := walk_eq_findings s lookup spec model depth
  cases h : findings s lookup spec model depth with
  | error fault =>
    rw [h] at hwalk
    exact hwalk
  | ok fs =>
    rw [h] at hwalk
    refine ⟨ofFindings fs, hwalk, rfl, ErrorTree.tidy_grouping _, ?_, fun path => ⟨?_, ?_⟩⟩
    · simp [ofFindings, ErrorTree.count_grouping]
    · exact errorsAt_ofFindings fs path
    · rw [ofFindings, ErrorTree.keysAt_grouping, List.filterMap_map]
      rfl

/-! ### Employees -/

/-- Texts, lists of texts, employees, and lists of employees some of which are not known. -/
inductive StaffType where
  | text
  | texts
  | employee
  | staff
  deriving DecidableEq, Repr

/-- An employee with deputies, who are employees with deputies. -/
structure Employee where
  name : String
  skills : List String
  deputies : List (Option Employee)

instance : ValueTypes StaffType where
  Carrier
    | .text => String
    | .texts => List String
    | .employee => Employee
    | .staff => List (Option Employee)
  typeName
    | .text => "Text"
    | .texts => "Texts"
    | .employee => "Employee"
    | .staff => "Staff"

namespace Employee

def nameChain : Chain StaffType .text .employee :=
  .mk (.ofList [.valid Check.notEmpty, .valid (Check.minLength 2)]) []

def skillChain : Chain StaffType .text .employee :=
  .mk (.ofList [.valid (Check.minLength 2), .valid Check.notBlank]) [.withMessage "Skill"]

def deputyChain : Chain StaffType .employee .employee :=
  .mk (.ofList [.registeredModel]) []

def briefChain : Chain StaffType .employee .employee :=
  .mk (.ofList [.valid ⟨none, fun e => e.name.length ≤ 5, none⟩]) [.singleError (.ofTemplate "Brief")]

/-- Names, skills, and the deputies by the specification of their own type. -/
def specification : Specification StaffType .employee :=
  .ofList [
    .field (v := StaffType.text) "Name" ⟨"name", name⟩ nameChain,
    .field (v := StaffType.texts) "Skills" ⟨"skills", skills⟩ (.mk (.ofList [.each id skillChain]) []),
    .field (v := StaffType.staff) "Deputies" ⟨"deputies", deputies⟩ (.mk (.ofList [.eachNullable id deputyChain]) []),
    .model briefChain]

def registry : Registry StaffType := Registry.empty.register specification

def settings : Settings := .ofOptions .default .none

/-- The nameless one has a skill of one letter. -/
def nameless : Employee := ⟨"", ["logic", "x"], []⟩

/-- An employee with a long name, and with the nameless one and an unknown one as deputies. -/
def withDeputies : Employee := ⟨"Manager", [], [some nameless, none]⟩

/-- The error of a text with less than two characters. -/
def tooShort (template : String) : ValidationError := ⟨template, [⟨"min", .number (.integer 2)⟩]⟩

/-- What a complete walk finds in the employee with deputies. -/
def withDeputiesTree : ErrorTree :=
  .node [.ofTemplate "Brief"] [
    ("Deputies", .node [] [
      ("0", .node [] [
        ("Name", .node [.ofTemplate "Texts.NotEmpty", tooShort "Texts.MinLength"] []),
        ("Skills", .node [] [("1", .node [tooShort "Skill"] [])])]),
      ("1", .node [.ofTemplate "Global.Required"] [])])]

/-- What a complete walk finds in the nameless one; it is one deeper than the depth that the walk needs. -/
def namelessTree : ErrorTree :=
  .node [] [
    ("Name", .node [.ofTemplate "Texts.NotEmpty", tooShort "Texts.MinLength"] []),
    ("Skills", .node [] [("1", .node [tooShort "Skill"] [])])]

example : findings settings registry.lookup specification (some withDeputies) 0 = .ok [
    ⟨[.member "Deputies", .item "0", .member "Name"], .ofTemplate "Texts.NotEmpty"⟩,
    ⟨[.member "Deputies", .item "0", .member "Name"], tooShort "Texts.MinLength"⟩,
    ⟨[.member "Deputies", .item "0", .member "Skills", .item "1"], tooShort "Skill"⟩,
    ⟨[.member "Deputies", .item "1"], .ofTemplate "Global.Required"⟩,
    ⟨[], .ofTemplate "Brief"⟩] := by rfl

end Employee

end ModelValidation
