import ModelValidation.Proofs.Faults
import ModelValidation.Proofs.Surface

/-!
# Raising the greatest depth

The greatest depth decides where a walk stops, and nothing else.  A walk that is not forced fails there, so that one that
has come to another end never met it; a forced walk leaves out what lies beyond it:

* `Rule.raises`, `Specification.raises`: what a greater limit changes, rule by rule;
* `walk_withMaxDepth`: a finished walk stays as it is, and a forced one finds what it has found and maybe more.
-/

set_option linter.unusedSectionVars false

namespace ModelValidation

open ErrorTree (ofFindings)

variable {K : Type} [ValueTypes K]

/-- The settings with another greatest depth. -/
def Settings.withMaxDepth (s : Settings) (maxDepth : Nat) : Settings := { s with maxDepth }

@[simp] theorem Settings.strategy_withMaxDepth (s : Settings) (n : Nat) : (s.withMaxDepth n).strategy = s.strategy := rfl

@[simp] theorem Settings.isForced_withMaxDepth (s : Settings) (n : Nat) : (s.withMaxDepth n).isForced = s.isForced := rfl

@[simp] theorem Settings.maxDepth_withMaxDepth (s : Settings) (n : Nat) : (s.withMaxDepth n).maxDepth = n := rfl

/-! ### Findings left out -/

/-- Part of the findings in their order, and all of them unless the walk is forced. -/
def Trimmed (s : Settings) (fs gs : List Finding) : Prop := fs.Sublist gs ∧ (s.strategy ≠ .force → fs = gs)

section Trimmed

variable {s : Settings} {fs fs' gs gs' : List Finding}

theorem Trimmed.refl (fs : List Finding) : Trimmed s fs fs := ⟨List.Sublist.refl fs, fun _ => rfl⟩

theorem Trimmed.nil (hs : s.strategy = .force) : Trimmed s [] gs := ⟨List.nil_sublist gs, fun h => absurd hs h⟩

theorem Trimmed.append (h : Trimmed s fs gs) (h' : Trimmed s fs' gs') : Trimmed s (fs ++ fs') (gs ++ gs') := by
  refine ⟨h.1.append h'.1, fun hs => ?_⟩
  rw [h.2 hs, h'.2 hs]

theorem Trimmed.map (g : Finding → Finding) (h : Trimmed s fs gs) : Trimmed s (fs.map g) (gs.map g) :=
  ⟨h.1.map g, fun hs => congrArg (List.map g) (h.2 hs)⟩

theorem Chain.collapse_sublist {v m : K} (chain : Chain K v m) (h : fs.Sublist gs) :
    (chain.collapse fs).Sublist (chain.collapse gs) := by
  unfold Chain.collapse
  cases chain.singleError? with
  | none => exact h
  | some e =>
    cases fs with
    | nil => exact List.nil_sublist _
    | cons f fs =>
      -- where part of the findings is left, there have been some
      cases gs with
      | nil => exact absurd h (by simp)
      | cons g gs => exact List.Sublist.refl _

theorem Trimmed.settle {v m : K} (chain : Chain K v m) (h : Trimmed s fs gs) :
    Trimmed s (chain.settle fs) (chain.settle gs) := by
  refine ⟨?_, fun hs => congrArg chain.settle (h.2 hs)⟩
  unfold Chain.settle
  cases chain.message? with
  | none => exact chain.collapse_sublist h.1
  | some template => exact (chain.collapse_sublist h.1).map _

end Trimmed

/-! ### Outcomes under a greater limit -/

/-- What an outcome within the limit of the settings may become under a greater limit. -/
inductive Raises (s : Settings) : Except Fault (List Finding) → Except Fault (List Finding) → Prop where
  | found {fs gs : List Finding} (h : Trimmed s fs gs) : Raises s (.ok fs) (.ok gs)
  | failed (fault : Fault) : Raises s (.error fault) (.error fault)
  /-- The walk was refused, and may end in any way now. -/
  | refused (hs : s.strategy ≠ .force) (y : Except Fault (List Finding)) : Raises s (.error (.depthExceeded s.maxDepth)) y
  /-- The walk goes further, and fails there. -/
  | beyond (hs : s.strategy = .force) (x : Except Fault (List Finding)) (fault : Fault) : Raises s x (.error fault)

namespace Raises

variable {s : Settings} {x x' y y' : Except Fault (List Finding)}

theorem refl (x : Except Fault (List Finding)) : Raises s x x := by
  cases x with
  | error fault => exact failed fault
  | ok fs => exact found (Trimmed.refl fs)

/-- A forced walk may find anything where it has not looked. -/
theorem nil (hs : s.strategy = .force) (y : Except Fault (List Finding)) : Raises s (.ok []) y := by
  cases y with
  | error fault => exact beyond hs _ fault
  | ok gs => exact found (Trimmed.nil hs)

theorem bind {f g : List Finding → Except Fault (List Finding)} (h : Raises s x y)
    (hfg : ∀ fs gs, Trimmed s fs gs → Raises s (f fs) (g gs)) : Raises s (x >>= f) (y >>= g) := by
  cases h with
  | found h => exact hfg _ _ h
  | failed fault => exact failed fault
  | refused hs => exact refused hs _
  | beyond hs _ fault => exact beyond hs _ fault

/-- Findings passed on in another form. -/
theorem pure {f g : List Finding → List Finding} (h : Raises s x y)
    (hfg : ∀ fs gs, Trimmed s fs gs → Trimmed s (f fs) (g gs)) :
    Raises s (do return f (← x)) (do return g (← y)) :=
  h.bind fun fs gs hfs => found (hfg fs gs hfs)

/-- Further findings behind the first ones. -/
theorem append (h : Raises s x y) (h' : Raises s x' y') :
    Raises s (do return (← x) ++ (← x')) (do return (← y) ++ (← y')) :=
  h.bind fun _ _ hfg => h'.pure fun _ _ hfg' => hfg.append hfg'

/-- The same step before both, which may fail. -/
theorem after {α : Type} (u : Except Fault α) {f g : α → Except Fault (List Finding)}
    (h : ∀ a, Raises s (f a) (g a)) : Raises s (u >>= f) (u >>= g) := by
  cases u with
  | error fault => exact failed fault
  | ok a => exact h a

theorem eq_of_ne_depthExceeded (h : Raises s x y) (hs : s.strategy ≠ .force)
    (hx : ∀ limit, x ≠ .error (.depthExceeded limit)) : y = x := by
  cases h with
  | found h => rw [h.2 hs]
  | failed fault => rfl
  | refused _ y => exact absurd rfl (hx s.maxDepth)
  | beyond hforce => exact absurd hforce hs

theorem exists_sublist {gs : List Finding} (h : Raises s x (.ok gs)) (hs : s.strategy = .force) :
    ∃ fs, x = .ok fs ∧ fs.Sublist gs := by
  cases h with
  | found h => exact ⟨_, rfl, h.1⟩
  | refused hne => exact absurd hs hne

end Raises

/-! ### Single steps -/

section Steps

variable {s : Settings} {n : Nat} {v m : K} {depth : Nat}

theorem fillFindings_raises {run run' : Subject v m → Except Fault (List Finding)}
    (hrun : ∀ subject, subject.Suits s → Raises s (run subject) (run' subject)) (canBeAbsent : Bool) (chain : Chain K v m)
    {slot : Slot v m} (hslot : slot.Suits s) :
    Raises s (chain.fillFindings s canBeAbsent run slot) (chain.fillFindings (s.withMaxDepth n) canBeAbsent run' slot) := by
  cases slot with
  | present value model => exact hrun (.present value model) hslot
  | absent => exact Raises.refl _
  | forced => exact (hrun .forced hslot).pure fun _ _ hfg => (Trimmed.refl _).append hfg

theorem gatherFindings_raises {α : Type} {run run' : α → Except Fault (List Finding)} {as : List α}
    (hrun : ∀ a ∈ as, Raises s (run a) (run' a)) (i : Nat) :
    Raises s (gatherFindings run i as) (gatherFindings run' i as) := by
  induction as generalizing i with
  | nil => exact Raises.refl _
  | cons a as ih =>
    have hrest := ih (fun b hb => hrun b (List.mem_cons_of_mem a hb)) (i + 1)
    exact (hrun a List.mem_cons_self).bind fun _ _ hfg => hrest.pure fun _ _ hfg' => (hfg.map _).append hfg'

/-- A depth that is within the limit is within a greater one. -/
theorem checkDepth_raises (hn : s.maxDepth ≤ n) (hdepth : s.strategy = .force → depth ≤ s.maxDepth)
    {f g : Unit → Except Fault (List Finding)} (h : Raises s (f ()) (g ())) :
    Raises s (s.checkDepth depth >>= f) ((s.withMaxDepth n).checkDepth depth >>= g) := by
  by_cases hle : depth ≤ s.maxDepth
  · have hlow : s.checkDepth depth = .ok () := Settings.checkDepth_eq_ok.2 hle
    have hhigh : (s.withMaxDepth n).checkDepth depth = .ok () := Settings.checkDepth_eq_ok.2 (Nat.le_trans hle hn)
    rw [hlow, hhigh]
    exact h
  · have hs : s.strategy ≠ .force := fun hs => hle (hdepth hs)
    have hlow : s.checkDepth depth = .error (.depthExceeded s.maxDepth) := if_pos (by omega)
    rw [hlow]
    exact Raises.refused hs _

theorem collectFindings_raises_forced (hs : s.strategy = .force) (hn : s.maxDepth ≤ n)
    {run run' : Slot v m → Except Fault (List Finding)} (hrun : Raises s (run .forced) (run' .forced)) :
    Raises s (collectFindings s depth run none) (collectFindings (s.withMaxDepth n) depth run' none) := by
  by_cases hle : depth + 1 ≤ s.maxDepth
  · have hle' : depth + 1 ≤ (s.withMaxDepth n).maxDepth := Nat.le_trans hle hn
    rw [collectFindings, collectFindings, if_pos hle, if_pos hle']
    exact hrun.pure fun _ _ hfg => hfg.map _
  · rw [collectFindings, if_neg hle]
    exact Raises.nil hs _

theorem collectFindings_raises_present (hs : s.strategy ≠ .force) (hn : s.maxDepth ≤ n)
    {run run' : Slot v m → Except Fault (List Finding)} {slots : List (Slot v m)}
    (hrun : ∀ slot ∈ slots, Raises s (run slot) (run' slot)) :
    Raises s (collectFindings s depth run (some slots)) (collectFindings (s.withMaxDepth n) depth run' (some slots)) := by
  cases slots with
  | nil => exact Raises.refl _
  | cons slot slots => exact checkDepth_raises hn (fun hforce => absurd hforce hs) (gatherFindings_raises hrun 0)

theorem descendFindings_raises (hn : s.maxDepth ≤ n) {enter enter' : Option (Carrier v) → Nat → Except Fault (List Finding)}
    (henter : ∀ model, s.Suits model → (s.strategy = .force → depth + 1 ≤ s.maxDepth) →
      Raises s (enter model (depth + 1)) (enter' model (depth + 1))) {subject : Subject v m} (hsubject : subject.Suits s) :
    Raises s (descendFindings s depth enter subject) (descendFindings (s.withMaxDepth n) depth enter' subject) := by
  cases subject with
  | present value model => exact henter (some value) hsubject fun hforce => absurd hforce hsubject
  | forced =>
    by_cases hlt : s.maxDepth < depth + 1
    · rw [descendFindings, if_pos hlt]
      exact Raises.nil hsubject _
    · have hlt' : ¬ (s.withMaxDepth n).maxDepth < depth + 1 := fun h => hlt (Nat.lt_of_le_of_lt hn h)
      rw [descendFindings, descendFindings, if_neg hlt, if_neg hlt']
      exact henter none hsubject fun _ => by omega

theorem arriveFindings_raises (hn : s.maxDepth ≤ n) {k : K} {run run' : Option (Carrier k) → Except Fault (List Finding)}
    (hrun : ∀ model, s.Suits model → Raises s (run model) (run' model)) (model : Option (Carrier k))
    (hdepth : s.strategy = .force → depth ≤ s.maxDepth) :
    Raises s (arriveFindings s run model depth) (arriveFindings (s.withMaxDepth n) run' model depth) := by
  refine checkDepth_raises hn hdepth ?_
  rw [Settings.isForced_withMaxDepth]
  by_cases hs : s.strategy = .force
  · have hforced : s.isForced = true := decide_eq_true hs
    rw [hforced]
    exact hrun none hs
  · have hplain : s.isForced = false := decide_eq_false hs
    rw [hplain]
    cases model with
    | none => exact Raises.refl _
    | some model => exact hrun (some model) hs

end Steps

/-! ### The walk through a specification -/

/-- Whatever lies deeper and can be entered has an outcome that a greater limit raises. -/
def RaisesBelow (s : Settings) (depth : Nat) (enter enter' : FindingsEntrance K) : Prop :=
  ∀ k model deeper, depth < deeper → s.Suits model → (s.strategy = .force → deeper ≤ s.maxDepth) →
    Raises s (enter k model deeper) (enter' k model deeper)

theorem RaisesBelow.succ {s : Settings} {depth : Nat} {enter enter' : FindingsEntrance K}
    (h : RaisesBelow s depth enter enter') : RaisesBelow s (depth + 1) enter enter' :=
  fun k model deeper hlt => h k model deeper (by omega)

section Run

variable {s : Settings} {n : Nat} {enter enter' : FindingsEntrance K} (hn : s.maxDepth ≤ n)

include hn

-- as for the faults of a walk, there is a subject exactly if the walk is not forced
mutual

theorem Rule.raises {v m : K} : ∀ (rule : Rule K v m) {subject : Subject v m} {depth : Nat},
    RaisesBelow s depth enter enter' → subject.Suits s →
      Raises s (rule.findings s enter subject depth) (rule.findings (s.withMaxDepth n) enter' subject depth)
  | .valid _, .present _ _, _, _, _ => by
    simp only [Rule.findings]
    exact Raises.refl _
  | .valid _, .forced, _, _, _ => by
    simp only [Rule.findings]
    exact Raises.refl _
  | .relative _, .present _ _, _, _, _ => by
    simp only [Rule.findings]
    exact Raises.refl _
  | .relative _, .forced, _, _, _ => by
    simp only [Rule.findings]
    exact Raises.refl _
  | .nullable content chain, .present value model, _, henter, hsubject => by
    simp only [Rule.findings]
    cases content value with
    | none => exact Raises.refl _
    | some value => exact Chain.raises chain henter hsubject
  | .nullable _ chain, .forced, _, henter, hsubject => by
    simp only [Rule.findings]
    exact Chain.raises chain henter hsubject
  | .model spec, subject, depth, henter, hsubject => by
    simp only [Rule.findings]
    refine descendFindings_raises hn (fun model _ hdepth => ?_) hsubject
    exact arriveFindings_raises hn (fun model hmodel => Specification.raises spec henter.succ hmodel) model hdepth
  | .registeredModel, subject, depth, henter, hsubject => by
    simp only [Rule.findings]
    exact descendFindings_raises hn (fun model => henter v model (depth + 1) (Nat.lt_succ_self depth)) hsubject
  | .each items chain, subject, depth, henter, hsubject => by
    have hchain := fun (subject : Subject _ m) (h : subject.Suits s) => Chain.raises chain henter.succ h
    simp only [Rule.findings]
    cases subject with
    | present value model =>
      refine collectFindings_raises_present hsubject hn fun slot hslot => ?_
      exact fillFindings_raises hchain false chain (suits_presentSlots hsubject model (items value) slot hslot)
    | forced => exact collectFindings_raises_forced hsubject hn (fillFindings_raises hchain false chain hsubject)
  | .eachNullable items chain, subject, depth, henter, hsubject => by
    have hchain := fun (subject : Subject _ m) (h : subject.Suits s) => Chain.raises chain henter.succ h
    simp only [Rule.findings]
    cases subject with
    | present value model =>
      refine collectFindings_raises_present hsubject hn fun slot hslot => ?_
      exact fillFindings_raises hchain true chain (suits_optionalSlots hsubject model (items value) slot hslot)
    | forced => exact collectFindings_raises_forced hsubject hn (fillFindings_raises hchain true chain hsubject)

theorem Rules.raises {v m : K} : ∀ (rules : Rules K v m) {subject : Subject v m} {depth : Nat},
    RaisesBelow s depth enter enter' → subject.Suits s →
      Raises s (rules.findings s enter subject depth) (rules.findings (s.withMaxDepth n) enter' subject depth)
  | .nil, _, _, _, _ => Raises.refl _
  | .cons rule rest, _, _, henter, hsubject => by
    have hrest := Rules.raises rest henter hsubject
    rw [Rules.findings, Rules.findings]
    refine (Rule.raises rule henter hsubject).bind fun fs gs hfg => ?_
    rw [Settings.strategy_withMaxDepth]
    by_cases hfast : s.strategy = .failFast
    · -- such a walk is not forced, so that both runs stop at the same rule
      have heq : fs = gs := hfg.2 (by simp [hfast])
      subst heq
      split
      · exact Raises.refl _
      · exact hrest.pure fun _ _ hfg' => hfg.append hfg'
    · simp only [hfast, false_and, ↓reduceIte]
      exact hrest.pure fun _ _ hfg' => hfg.append hfg'

theorem Chain.raises {v m : K} : ∀ (chain : Chain K v m) {subject : Subject v m} {depth : Nat},
    RaisesBelow s depth enter enter' → subject.Suits s →
      Raises s (chain.findings s enter subject depth) (chain.findings (s.withMaxDepth n) enter' subject depth)
  | .mk rules _, subject, _, henter, hsubject => by
    have hsame : (s.withMaxDepth n).subject subject = s.subject subject := rfl
    rw [Chain.findings, Chain.findings, hsame, hsubject.subject_eq]
    exact (Rules.raises rules henter hsubject).pure fun _ _ hfg => hfg.settle _

theorem Scope.raises {m : K} : ∀ (scope : Scope K m) {model : Option (Carrier m)} {depth : Nat},
    RaisesBelow s depth enter enter' → s.Suits model →
      Raises s (scope.findings s enter model depth) (scope.findings (s.withMaxDepth n) enter' model depth)
  | .field _ part chain, _, _, henter, hmodel => by
    have hchain := fun (subject : Subject _ m) (h : subject.Suits s) => Chain.raises chain henter h
    rw [Scope.findings, Scope.findings]
    exact (fillFindings_raises hchain false chain (suits_fieldSlot part hmodel)).pure fun _ _ hfg => hfg.map _
  | .member _ part chain, _, _, henter, hmodel => by
    have hchain := fun (subject : Subject _ m) (h : subject.Suits s) => Chain.raises chain henter h
    rw [Scope.findings, Scope.findings]
    exact (fillFindings_raises hchain true chain (suits_memberSlot part hmodel)).pure fun _ _ hfg => hfg.map _
  | .model chain, _, _, henter, hmodel => by
    rw [Scope.findings, Scope.findings]
    exact Chain.raises chain henter (suits_modelSubject hmodel)

theorem Specification.raises {m : K} : ∀ (spec : Specification K m) {model : Option (Carrier m)} {depth : Nat},
    RaisesBelow s depth enter enter' → s.Suits model →
      Raises s (spec.findings s enter model depth) (spec.findings (s.withMaxDepth n) enter' model depth)
  | .nil, _, _, _, _ => Raises.refl _
  | .cons scope rest, _, _, henter, hmodel => by
    rw [Specification.findings, Specification.findings]
    exact (Scope.raises scope henter hmodel).append (Specification.raises rest henter hmodel)

end

end Run

/-- Beyond the greatest depth a registered specification is looked up, and that is all. -/
theorem findingsWithin_of_lt {s : Settings} (lookup : Lookup K) (levels : Nat) (k : K) (model : Option (Carrier k))
    {depth : Nat} (h : s.maxDepth < depth) :
    findingsWithin s lookup levels k model depth = lookup k >>= fun _ => .error (.depthExceeded s.maxDepth) := by
  cases levels with
  | zero => rfl
  | succ levels =>
    have hcheck : s.checkDepth depth = .error (.depthExceeded s.maxDepth) := if_pos h
    simp only [findingsWithin, arriveFindings, hcheck]
    rfl

theorem findingsWithin_raises_beyond {s : Settings} (hs : s.strategy ≠ .force) (n : Nat) (lookup : Lookup K)
    (levels levels' : Nat) (k : K) (model : Option (Carrier k)) {depth : Nat} (h : s.maxDepth < depth) :
    Raises s (findingsWithin s lookup levels k model depth)
      (findingsWithin (s.withMaxDepth n) lookup levels' k model depth) := by
  rw [findingsWithin_of_lt lookup levels k model h]
  cases levels' with
  | zero => exact Raises.after (lookup k) fun _ => Raises.refused hs _
  | succ levels' => exact Raises.after (lookup k) fun _ => Raises.refused hs _

theorem findingsWithin_raises {s : Settings} {n : Nat} (hn : s.maxDepth ≤ n) (lookup : Lookup K) {levels levels' : Nat}
    (k : K) {model : Option (Carrier k)} {depth : Nat} (hlevels : s.maxDepth < depth + levels)
    (hlevels' : n < depth + levels') (hmodel : s.Suits model) (hdepth : s.strategy = .force → depth ≤ s.maxDepth) :
    Raises s (findingsWithin s lookup levels k model depth)
      (findingsWithin (s.withMaxDepth n) lookup levels' k model depth) := by
  induction levels generalizing levels' k depth with
  | zero =>
    have hs : s.strategy ≠ .force := fun hs => absurd (hdepth hs) (by omega)
    exact findingsWithin_raises_beyond hs n lookup 0 levels' k model hlevels
  | succ levels ih =>
    by_cases hle : depth ≤ s.maxDepth
    · cases levels' with
      | zero => exact absurd hlevels' (by omega)
      | succ levels' =>
        have hbelow : RaisesBelow s depth (findingsWithin s lookup levels)
            (findingsWithin (s.withMaxDepth n) lookup levels') :=
          fun l model deeper hlt hmodel hdeeper => ih l (by omega) (by omega) hmodel hdeeper
        refine Raises.after (lookup k) fun spec => arriveFindings_raises hn (fun model hmodel => ?_) model hdepth
        exact Specification.raises hn spec hbelow hmodel
    · have hs : s.strategy ≠ .force := fun hs => hle (hdepth hs)
      exact findingsWithin_raises_beyond hs n lookup (levels + 1) levels' k model (by omega)

theorem findings_raises {s : Settings} {n : Nat} (hn : s.maxDepth ≤ n) (lookup : Lookup K) {m : K}
    (spec : Specification K m) (model : Option (Carrier m)) (depth : Nat)
    (hdepth : s.strategy = .force → depth ≤ s.maxDepth) :
    Raises s (findings s lookup spec model depth) (findings (s.withMaxDepth n) lookup spec model depth) := by
  have hbelow : RaisesBelow s depth (findingsWithin s lookup (s.maxDepth - depth))
      (findingsWithin (s.withMaxDepth n) lookup (n - depth)) :=
    fun k model deeper hlt hmodel hdeeper => findingsWithin_raises hn lookup k (by omega) (by omega) hmodel hdeeper
  exact arriveFindings_raises hn (fun model hmodel => Specification.raises hn spec hbelow hmodel) model hdepth

/-! ### Trees -/

/-- **A greater limit changes no finished walk.**  A walk that is not forced and that the limit has not ended comes to the
same end under any greater one.  A forced walk that gives a tree under the greater limit gives one under the smaller
limit too, and every node of that has part of the errors, in order. -/
theorem walk_withMaxDepth {s : Settings} {n : Nat} (hn : s.maxDepth ≤ n) (lookup : Lookup K) {m : K}
    (spec : Specification K m) (model : Option (Carrier m)) (depth : Nat) :
    (s.strategy ≠ .force → (∀ limit, walk s lookup spec model depth ≠ .error (.depthExceeded limit)) →
      walk (s.withMaxDepth n) lookup spec model depth = walk s lookup spec model depth) ∧
    (s.strategy = .force → depth ≤ s.maxDepth →
      ∀ surface, walk (s.withMaxDepth n) lookup spec model depth = .ok surface →
        ∃ tree, walk s lookup spec model depth = .ok tree ∧
          ∀ path, (tree.errorsAt path).Sublist (surface.errorsAt path)) := by
  simp only [walk_eq_findings]
  refine ⟨fun hs hfinished => ?_, fun hs hdepth surface hsurface => ?_⟩
  · have hraises := findings_raises hn lookup spec model depth fun hforce => absurd hforce hs
    have hunlimited : ∀ limit, findings s lookup spec model depth ≠ .error (.depthExceeded limit) := by
      intro limit h
      rw [h] at hfinished
      exact hfinished limit rfl
    rw [hraises.eq_of_ne_depthExceeded hs hunlimited]
  · obtain ⟨gs, hgs, rfl⟩ := map_eq_ok.1 hsurface
    have hraises := findings_raises hn lookup spec model depth fun _ => hdepth
    rw [hgs] at hraises
    obtain ⟨fs, hfs, hsub⟩ := hraises.exists_sublist hs
    rw [hfs]
    exact ⟨ofFindings fs, rfl, errorsAt_sublist hsub⟩

theorem walk_withMaxDepth_shallow :
    Employee.shallow.maxDepth ≤ 10 ∧
      walk (Employee.shallow.withMaxDepth 10) Employee.registry.lookup Employee.specification (some Employee.withDeputies) 0 =
        .ok Employee.withDeputiesTree ∧
      walk (Employee.shallow.withStrategy .force) Employee.registry.lookup Employee.specification none 0 =
        .ok Employee.surface ∧
      ∃ tree, walk ((Employee.shallow.withStrategy .force).withMaxDepth 1) Employee.registry.lookup
          Employee.specification none 0 = .ok tree ∧
        ∀ path, (tree.errorsAt path).Sublist (Employee.surface.errorsAt path) := by
  have hshallow : walk Employee.shallow Employee.registry.lookup Employee.specification (some Employee.withDeputies) 0 =
      .ok Employee.withDeputiesTree := by rfl
  have hsurface : walk (Employee.shallow.withStrategy .force) Employee.registry.lookup Employee.specification none 0 =
      .ok Employee.surface := by rfl
  obtain ⟨hfinished, -⟩ := walk_withMaxDepth (s := Employee.shallow) (n := 10) (by decide) Employee.registry.lookup
    Employee.specification (some Employee.withDeputies) 0
  obtain ⟨-, hforced⟩ := walk_withMaxDepth (s := (Employee.shallow.withStrategy .force).withMaxDepth 1) (n := 3)
    (by decide) Employee.registry.lookup Employee.specification none 0
  refine ⟨by decide, ?_, hsurface, hforced rfl (by decide) Employee.surface hsurface⟩
  rw [hfinished (by decide) (by simp [hshallow]), hshallow]

end ModelValidation
