import Mathlib.Logic.Function.Iterate
import ModelValidation.Walk

/-!
# The levels of a walk

A walk goes into registered specifications, and from there into others, its own included.  Each level lies deeper than
the one before, and beyond the greatest depth a walk looks no further:

* `Rule.walk_congr`, `Specification.walk_congr`: a walk asks for nothing but what lies deeper;
* `walk_eq_iterate`: so it comes to an end after as many levels as there are depths, whatever would lie beyond them.
-/

set_option linter.unusedSectionVars false

namespace ModelValidation

variable {K : Type} [ValueTypes K]

/-- One more level of walks into registered specifications. -/
def enterOnce (s : Settings) (lookup : Lookup K) (enter : Entrance K) : Entrance K := fun k model depth => do
  let spec ← lookup k
  spec.walk s enter model depth

/-- The entrances give the same for everything deeper. -/
def SameBelow (depth : Nat) (enter enter' : Entrance K) : Prop :=
  ∀ k model deeper, depth < deeper → enter k model deeper = enter' k model deeper

theorem SameBelow.succ {depth : Nat} {enter enter' : Entrance K} (h : SameBelow depth enter enter') :
    SameBelow (depth + 1) enter enter' :=
  fun k model deeper hlt => h k model deeper (by omega)

section Congr

variable {s : Settings} {enter enter' : Entrance K}

theorem descend_congr {v m : K} {depth : Nat} {run run' : Option (Carrier v) → Nat → Except Fault ErrorTree}
    (hrun : ∀ model, run model (depth + 1) = run' model (depth + 1)) (subject : Subject v m) :
    descend s depth run subject = descend s depth run' subject := by
  cases subject with
  | present value model => exact hrun (some value)
  | forced => simp only [descend, hrun]

theorem arrive_congr {k : K} {run run' : Option (Carrier k) → Except Fault ErrorTree} (hrun : ∀ model, run model = run' model)
    (model : Option (Carrier k)) (depth : Nat) : arrive s run model depth = arrive s run' model depth := by
  rw [funext hrun]

-- a rule goes into registered specifications only below its own depth
mutual

theorem Rule.walk_congr {v m : K} : ∀ (rule : Rule K v m) (subject : Subject v m) {depth : Nat},
    SameBelow depth enter enter' → rule.walk s enter subject depth = rule.walk s enter' subject depth
  | .valid _, _, _, _ => rfl
  | .relative _, _, _, _ => rfl
  | .nullable content chain, .present value model, _, h => by
    simp only [Rule.walk]
    cases content value with
    | none => rfl
    | some value => exact Chain.walk_congr chain _ h
  | .nullable _ chain, .forced, _, h => by
    simp only [Rule.walk]
    exact Chain.walk_congr chain _ h
  | .model spec, subject, depth, h => by
    have hscopes := fun model => Specification.walkScopes_congr spec model h.succ .empty
    simp only [Rule.walk]
    exact descend_congr (fun model => arrive_congr hscopes model (depth + 1)) subject
  | .registeredModel, subject, depth, h => by
    simp only [Rule.walk]
    exact descend_congr (fun model => h v model (depth + 1) (Nat.lt_succ_self depth)) subject
  | .each items chain, _, _, h => by
    have hchain := fun subject => Chain.walk_congr chain subject h.succ
    simp only [Rule.walk, hchain]
  | .eachNullable items chain, _, _, h => by
    have hchain := fun subject => Chain.walk_congr chain subject h.succ
    simp only [Rule.walk, hchain]

theorem Rules.walk_congr {v m : K} : ∀ (rules : Rules K v m) (subject : Subject v m) {depth : Nat},
    SameBelow depth enter enter' → ∀ (failed : Bool) (node : ErrorTree),
      rules.walk s enter subject depth failed node = rules.walk s enter' subject depth failed node
  | .nil, _, _, _, _, _ => rfl
  | .cons rule rest, subject, _, h, _, _ => by
    simp only [Rules.walk, Rule.walk_congr rule subject h, Rules.walk_congr rest subject h]

theorem Chain.walk_congr {v m : K} : ∀ (chain : Chain K v m) (subject : Subject v m) {depth : Nat},
    SameBelow depth enter enter' → chain.walk s enter subject depth = chain.walk s enter' subject depth
  | .mk rules _, subject, _, h => by
    simp only [Chain.walk, Rules.walk_congr rules (s.subject subject) h]

theorem Scope.walk_congr {m : K} : ∀ (scope : Scope K m) (model : Option (Carrier m)) {depth : Nat},
    SameBelow depth enter enter' → ∀ root : ErrorTree,
      scope.walk s enter model depth root = scope.walk s enter' model depth root
  | .field _ _ chain, _, _, h, _ => by
    have hchain := fun subject => Chain.walk_congr chain subject h
    simp only [Scope.walk, hchain]
  | .member _ _ chain, _, _, h, _ => by
    have hchain := fun subject => Chain.walk_congr chain subject h
    simp only [Scope.walk, hchain]
  | .model chain, _, _, h, _ => by
    have hchain := fun subject => Chain.walk_congr chain subject h
    simp only [Scope.walk, hchain]

theorem Specification.walkScopes_congr {m : K} : ∀ (spec : Specification K m) (model : Option (Carrier m)) {depth : Nat},
    SameBelow depth enter enter' → ∀ root : ErrorTree,
      spec.walkScopes s enter model depth root = spec.walkScopes s enter' model depth root
  | .nil, _, _, _, _ => rfl
  | .cons scope rest, model, _, h, _ => by
    simp only [Specification.walkScopes, Scope.walk_congr scope model h, Specification.walkScopes_congr rest model h]

end

theorem Specification.walk_congr {m : K} (spec : Specification K m) (model : Option (Carrier m)) {depth : Nat}
    (h : SameBelow depth enter enter') : spec.walk s enter model depth = spec.walk s enter' model depth :=
  arrive_congr (fun model => spec.walkScopes_congr model h .empty) model depth

end Congr

theorem Specification.walk_of_lt {s : Settings} {m : K} (spec : Specification K m) (enter : Entrance K)
    (model : Option (Carrier m)) {depth : Nat} (h : s.maxDepth < depth) :
    spec.walk s enter model depth = .error (.depthExceeded s.maxDepth) := by
  simp only [Specification.walk, arrive, Settings.checkDepth, h, ↓reduceIte]
  rfl

theorem enterWithin_eq_iterate (s : Settings) (lookup : Lookup K) (beyond : Entrance K) (levels : Nat) (k : K)
    (model : Option (Carrier k)) {depth : Nat} (h : s.maxDepth < depth + levels) :
    enterWithin s lookup levels k model depth = (enterOnce s lookup)^[levels + 1] beyond k model depth := by
  induction levels generalizing k depth with
  | zero =>
    have hbeyond : enterOnce s lookup beyond k model depth = enterWithin s lookup 0 k model depth := by
      simp only [enterOnce, enterWithin, Specification.walk_of_lt _ _ _ (show s.maxDepth < depth from h)]
    exact hbeyond.symm
  | succ levels ih =>
    have hsame : SameBelow depth (enterWithin s lookup levels) ((enterOnce s lookup)^[levels + 1] beyond) :=
      fun k model deeper hlt => ih k model (by omega)
    rw [Function.iterate_succ_apply']
    simp only [enterOnce, enterWithin, Specification.walk_congr _ model hsame]

/-- **A walk ends.**  From a depth on it takes as many levels of registered specifications as there are depths left and
one more, whatever an entrance beyond them would give. -/
theorem walk_eq_iterate (s : Settings) (lookup : Lookup K) (beyond : Entrance K) {m : K} (spec : Specification K m)
    (model : Option (Carrier m)) (depth : Nat) :
    walk s lookup spec model depth =
      spec.walk s ((enterOnce s lookup)^[s.maxDepth + 1 - depth] beyond) model depth := by
  by_cases hdepth : depth ≤ s.maxDepth
  · have hlevels : s.maxDepth + 1 - depth = s.maxDepth - depth + 1 := by omega
    have hsame : SameBelow depth (enterWithin s lookup (s.maxDepth - depth))
        ((enterOnce s lookup)^[s.maxDepth - depth + 1] beyond) :=
      fun k model deeper hlt => enterWithin_eq_iterate s lookup beyond _ k model (by omega)
    rw [hlevels]
    exact spec.walk_congr model hsame
  · have hlt : s.maxDepth < depth := by omega
    rw [walk, spec.walk_of_lt _ _ hlt, spec.walk_of_lt _ _ hlt]

end ModelValidation
