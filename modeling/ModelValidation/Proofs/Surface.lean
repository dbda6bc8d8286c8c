import ModelValidation.Proofs.Findings

/-!
# Error surfaces

A forced walk has no model, and every check in it fails.  Whatever another walk finds in a model is among its findings
as well, with the key for items that are not there in the place of each index:

* `Specification.covers`: this holds rule by rule, of the findings;
* `surface_covers_walk`: and so of the trees, error by error.

A depth that the other walk refuses the forced one leaves out.  Where the other walk gives findings, it has entered
nothing that deep.
-/

set_option linter.unusedSectionVars false

namespace ModelValidation

open ErrorTree (ofFindings)

variable {K : Type} [ValueTypes K]

/-! ### Covered findings -/

/-- The step with one key for all items. -/
def Step.general (itemKey : String) : Step → Step
  | .member key => .member key
  | .item _ => .item itemKey

/-- The finding with one key for all items on the way. -/
def Finding.general (itemKey : String) (f : Finding) : Finding := { f with route := f.route.map (Step.general itemKey) }

/-- Each of the first findings is one of the second, up to the keys of items. -/
def Covered (itemKey : String) (fs gs : List Finding) : Prop := ∀ f ∈ fs, f.general itemKey ∈ gs

/-- Where both outcomes are there, the second covers the first. -/
def Covers (itemKey : String) (x y : Except Fault (List Finding)) : Prop :=
  ∀ fs gs, x = .ok fs → y = .ok gs → Covered itemKey fs gs

section Covered

variable {key : String} {fs fs' gs gs' : List Finding}

theorem Covered.nil : Covered key [] gs := fun _ hf => absurd hf (by simp)

theorem Covered.here {e : ValidationError} (h : Finding.here e ∈ gs) : Covered key [Finding.here e] gs := by
  intro f hf
  rw [List.mem_singleton] at hf
  subst hf
  exact h

theorem Covered.mono (h : Covered key fs gs) (hsub : gs ⊆ gs') : Covered key fs gs' := fun f hf => hsub (h f hf)

theorem Covered.append (h : Covered key fs gs) (h' : Covered key fs' gs) : Covered key (fs ++ fs') gs := by
  intro f hf
  rcases List.mem_append.1 hf with hf | hf
  · exact h f hf
  · exact h' f hf

/-- Both under a step, the first one under a step that may have another key of an item. -/
theorem Covered.under {step : Step} (h : Covered key fs gs) :
    Covered key (fs.map (Finding.under step)) (gs.map (Finding.under (step.general key))) := by
  intro f hf
  obtain ⟨g, hg, rfl⟩ := List.mem_map.1 hf
  exact List.mem_map.2 ⟨g.general key, h g hg, rfl⟩

theorem Covered.ne_nil (h : Covered key fs gs) (hne : fs ≠ []) : gs ≠ [] := by
  obtain ⟨f, hf⟩ := List.exists_mem_of_ne_nil fs hne
  exact List.ne_nil_of_mem (h f hf)

theorem Finding.general_retitled (template : String) (f : Finding) :
    (f.retitled template).general key = (f.general key).retitled template := by
  obtain ⟨route, e⟩ := f
  cases route <;> simp [Finding.retitled, Finding.general]

theorem Covered.retitled (template : String) (h : Covered key fs gs) :
    Covered key (fs.map (Finding.retitled template)) (gs.map (Finding.retitled template)) := by
  intro f hf
  obtain ⟨g, hg, rfl⟩ := List.mem_map.1 hf
  rw [Finding.general_retitled]
  exact List.mem_map_of_mem (h g hg)

theorem Covered.collapse {v m : K} (chain : Chain K v m) (h : Covered key fs gs) :
    Covered key (chain.collapse fs) (chain.collapse gs) := by
  unfold Chain.collapse
  cases chain.singleError? with
  | none => exact h
  | some e =>
    by_cases hfs : fs = []
    · subst hfs
      exact Covered.nil
    · -- the forced chain has failed as well, and the single error stands for all
      have hgs := h.ne_nil hfs
      simp only [List.isEmpty_eq_false_iff.2 hfs, List.isEmpty_eq_false_iff.2 hgs, Bool.false_eq_true, ↓reduceIte]
      exact Covered.here (List.mem_singleton.2 rfl)

theorem Covered.settle {v m : K} (chain : Chain K v m) (h : Covered key fs gs) :
    Covered key (chain.settle fs) (chain.settle gs) := by
  unfold Chain.settle
  cases chain.message? with
  | none => exact h.collapse chain
  | some template => exact (h.collapse chain).retitled template

end Covered

namespace Covers

variable {key : String} {x x' y y' : Except Fault (List Finding)}

theorem ok {fs gs : List Finding} (h : Covered key fs gs) : Covers key (.ok fs) (.ok gs) := by
  intro fs' gs' hfs hgs
  cases hfs
  cases hgs
  exact h

/-- Nothing is covered by whatever comes out. -/
theorem nil : Covers key (.ok []) y := by
  intro fs gs hfs hgs
  cases hfs
  exact Covered.nil

theorem bind {g g' : List Finding → Except Fault (List Finding)} (h : Covers key x y)
    (hg : ∀ fs gs, Covered key fs gs → Covers key (g fs) (g' gs)) : Covers key (x >>= g) (y >>= g') := by
  intro fs gs hfs hgs
  obtain ⟨as, hx, hfs⟩ := bind_eq_ok.1 hfs
  obtain ⟨bs, hy, hgs⟩ := bind_eq_ok.1 hgs
  exact hg as bs (h as bs hx hy) fs gs hfs hgs

/-- Findings passed on in another form. -/
theorem pure {g g' : List Finding → List Finding} (h : Covers key x y)
    (hg : ∀ fs gs, Covered key fs gs → Covered key (g fs) (g' gs)) :
    Covers key (do return g (← x)) (do return g' (← y)) :=
  h.bind fun fs gs hfg => Covers.ok (hg fs gs hfg)

/-- Further findings behind the first ones. -/
theorem append (h : Covers key x y) (h' : Covers key x' y') :
    Covers key (do return (← x) ++ (← x')) (do return (← y) ++ (← y')) := by
  refine h.bind fun fs gs hfg => h'.pure fun fs' gs' hfg' => ?_
  exact (hfg.mono (List.subset_append_left gs gs')).append (hfg'.mono (List.subset_append_right gs gs'))

/-- A step that may fail before the first or the second or both. -/
theorem after {α β : Type} {u : Except Fault α} {w : Except Fault β} {f : α → Except Fault (List Finding)}
    {g : β → Except Fault (List Finding)} (h : ∀ a b, u = .ok a → w = .ok b → Covers key (f a) (g b)) :
    Covers key (u >>= f) (w >>= g) := by
  intro fs gs hfs hgs
  obtain ⟨a, ha, hfs⟩ := bind_eq_ok.1 hfs
  obtain ⟨b, hb, hgs⟩ := bind_eq_ok.1 hgs
  exact h a b ha hb fs gs hfs hgs

end Covers

/-! ### Single steps -/

/-- A model can give the slot: a part is missing only where it can be. -/
def Slot.Fits {v m : K} (canBeAbsent : Bool) : Slot v m → Prop
  | .present _ _ => True
  | .absent => canBeAbsent = true
  | .forced => False

theorem fits_fieldSlot {v m : K} (part : Accessor (Carrier m) (Carrier v)) (model : Carrier m) :
    (fieldSlot part (some model)).Fits false := trivial

theorem fits_memberSlot {v m : K} (part : Accessor (Carrier m) (Option (Carrier v))) (model : Carrier m) :
    (memberSlot part (some model)).Fits true := by
  simp only [memberSlot]
  cases part.read model with
  | none => rfl
  | some value => trivial

theorem fits_presentSlots {v m : K} (model : Carrier m) (items : List (Carrier v)) :
    ∀ slot ∈ (presentSlots model items : List (Slot v m)), slot.Fits false := by
  intro slot hslot
  obtain ⟨value, -, rfl⟩ := List.mem_map.1 hslot
  trivial

theorem fits_optionalSlots {v m : K} (model : Carrier m) (items : List (Option (Carrier v))) :
    ∀ slot ∈ (optionalSlots model items : List (Slot v m)), slot.Fits true := by
  intro slot hslot
  obtain ⟨value?, -, rfl⟩ := List.mem_map.1 hslot
  cases value? with
  | none => rfl
  | some value => trivial

section Steps

variable {s : Settings} {key : String} {v m : K} {depth : Nat}

theorem failure_covered (error : Option ValidationError) (passed : Bool) :
    Covered key (s.failure error passed) ((s.withStrategy .force).failure error false) := by
  cases passed with
  | true => exact Covered.nil
  | false => exact Covered.here (List.mem_singleton.2 rfl)

theorem fillFindings_covers {run run' : Subject v m → Except Fault (List Finding)}
    (hrun : ∀ value model, Covers key (run (.present value model)) (run' .forced)) {canBeAbsent : Bool}
    (chain : Chain K v m) {slot : Slot v m} (hslot : slot.Fits canBeAbsent) :
    Covers key (chain.fillFindings s canBeAbsent run slot)
      (chain.fillFindings (s.withStrategy .force) canBeAbsent run' .forced) := by
  intro fs gs hfs hgs
  obtain ⟨gs', hrun', hgs⟩ := bind_eq_ok.1 hgs
  cases hgs
  cases slot with
  | present value model => exact (hrun value model fs gs' hfs hrun').mono (List.subset_append_right _ _)
  | absent =>
    cases hfs
    have hcan : canBeAbsent = true := hslot
    cases hopt : chain.isOptional with
    | true => simpa using Covered.nil
    | false =>
      simp only [hcan, Bool.not_false, Bool.and_true, Bool.false_eq_true, ↓reduceIte]
      exact Covered.here (List.mem_append_left _ (List.mem_singleton.2 rfl))
  | forced => exact hslot.elim

theorem gatherFindings_covered {α : Type} {run : α → Except Fault (List Finding)} {gs : List Finding} {as : List α}
    (hrun : ∀ a ∈ as, ∀ fs, run a = .ok fs → Covered key fs gs) (i : Nat) {fs : List Finding}
    (hfs : gatherFindings run i as = .ok fs) : Covered key fs (gs.map (Finding.under (.item key))) := by
  induction as generalizing i fs with
  | nil =>
    cases hfs
    exact Covered.nil
  | cons a as ih =>
    rw [gatherFindings] at hfs
    obtain ⟨as', ha, hfs⟩ := bind_eq_ok.1 hfs
    obtain ⟨rest, hrest, hfs⟩ := bind_eq_ok.1 hfs
    cases hfs
    have hhead : Covered key (as'.map (Finding.under (.item (toString i)))) (gs.map (Finding.under (.item key))) :=
      Covered.under (hrun a List.mem_cons_self as' ha)
    have htail := ih (fun b hb => hrun b (List.mem_cons_of_mem a hb)) (i + 1) hrest
    exact hhead.append htail

/-- The one item of a forced walk stands for every item that is there; an item within the depth makes it go there. -/
theorem collectFindings_covers {run run' : Slot v m → Except Fault (List Finding)} {slots : List (Slot v m)}
    (hrun : ∀ slot ∈ slots, Covers s.forceKey (run slot) (run' .forced)) :
    Covers s.forceKey (collectFindings s depth run (some slots))
      (collectFindings (s.withStrategy .force) depth run' none) := by
  cases slots with
  | nil => exact Covers.nil
  | cons slot slots =>
    intro fs gs hfs hgs
    obtain ⟨_, hdepth, hfs⟩ := bind_eq_ok.1 hfs
    have hle : depth + 1 ≤ (s.withStrategy .force).maxDepth := Settings.checkDepth_eq_ok.1 hdepth
    rw [collectFindings, if_pos hle] at hgs
    obtain ⟨gs', hgs', rfl⟩ := map_eq_ok.1 hgs
    exact gatherFindings_covered (fun slot hslot fs hfs => hrun slot hslot fs gs' hfs hgs') 0 hfs

/-- A nested model that is entered at all does not lie beyond the greatest depth, where the forced walk goes on. -/
theorem covers_within {x y : Except Fault (List Finding)} (hx : ∀ fs, x = .ok fs → depth ≤ s.maxDepth)
    (h : Covers key x y) : Covers key x (if (s.withStrategy .force).maxDepth < depth then .ok [] else y) := by
  intro fs gs hfs hgs
  have hle := hx fs hfs
  rw [Settings.maxDepth_withStrategy, if_neg (by omega)] at hgs
  exact h fs gs hfs hgs

end Steps

theorem arriveFindings_depth_le {s : Settings} {k : K} {run : Option (Carrier k) → Except Fault (List Finding)}
    {model : Option (Carrier k)} {depth : Nat} {fs : List Finding} (h : arriveFindings s run model depth = .ok fs) :
    depth ≤ s.maxDepth := by
  obtain ⟨_, hdepth, -⟩ := bind_eq_ok.1 h
  exact Settings.checkDepth_eq_ok.1 hdepth

theorem arriveFindings_covers {s : Settings} (hs : s.strategy ≠ .force) {key : String} {k : K}
    {run run' : Option (Carrier k) → Except Fault (List Finding)}
    (hrun : ∀ model, Covers key (run (some model)) (run' none)) (model : Carrier k) (any : Option (Carrier k))
    (depth : Nat) :
    Covers key (arriveFindings s run (some model) depth) (arriveFindings (s.withStrategy .force) run' any depth) := by
  refine Covers.after fun _ _ _ _ => ?_
  have hplain : s.isForced = false := decide_eq_false hs
  rw [hplain]
  exact hrun model

/-! ### The walk through a specification -/

section Run

variable {s : Settings} (hs : s.strategy ≠ .force) {enter forced : FindingsEntrance K}
  (hdepth : ∀ k model depth fs, enter k (some model) depth = .ok fs → depth ≤ s.maxDepth)
  (henter : ∀ k model depth, Covers s.forceKey (enter k (some model) depth) (forced k none depth))

include hs hdepth henter

mutual

theorem Rule.covers {v m : K} : ∀ (rule : Rule K v m) (value : Carrier v) (model : Carrier m) (depth : Nat),
    Covers s.forceKey (rule.findings s enter (.present value model) depth)
      (rule.findings (s.withStrategy .force) forced .forced depth)
  | .valid check, value, _, _ => by
    simp only [Rule.findings]
    exact Covers.ok (failure_covered check.error (check.holds value))
  | .relative check, _, model, _ => by
    simp only [Rule.findings]
    exact Covers.ok (failure_covered check.error (check.holds model))
  | .nullable content chain, value, model, depth => by
    simp only [Rule.findings]
    cases content value with
    | none => exact Covers.nil
    | some value => exact Chain.covers chain value model depth
  | .model spec, value, model, depth => by
    simp only [Rule.findings, descendFindings]
    refine covers_within (fun _ h => arriveFindings_depth_le h) ?_
    exact arriveFindings_covers hs (fun model => Specification.covers spec model _) value none _
  | .registeredModel, value, _, depth => by
    simp only [Rule.findings, descendFindings]
    exact covers_within (hdepth v value (depth + 1)) (henter v value (depth + 1))
  | .each items chain, value, model, depth => by
    have hchain := fun value model => Chain.covers chain value model (depth + 1)
    simp only [Rule.findings]
    refine collectFindings_covers fun slot hslot => ?_
    exact fillFindings_covers hchain chain (fits_presentSlots model (items value) slot hslot)
  | .eachNullable items chain, value, model, depth => by
    have hchain := fun value model => Chain.covers chain value model (depth + 1)
    simp only [Rule.findings]
    refine collectFindings_covers fun slot hslot => ?_
    exact fillFindings_covers hchain chain (fits_optionalSlots model (items value) slot hslot)

theorem Rules.covers {v m : K} : ∀ (rules : Rules K v m) (value : Carrier v) (model : Carrier m) (depth : Nat),
    Covers s.forceKey (rules.findings s enter (.present value model) depth)
      (rules.findings (s.withStrategy .force) forced .forced depth)
  | .nil, _, _, _ => Covers.nil
  | .cons rule rest, value, model, depth => by
    have hrest := Rules.covers rest value model depth
    rw [Rules.findings, Rules.findings]
    refine (Rule.covers rule value model depth).bind fun fs gs hfg => ?_
    simp only [Settings.strategy_withStrategy, reduceCtorEq, false_and, ↓reduceIte]
    split
    · -- the chain stops here, the forced one does not
      intro fs' all hfs' hall
      cases hfs'
      obtain ⟨rest', -, hall⟩ := bind_eq_ok.1 hall
      cases hall
      exact hfg.mono (List.subset_append_left gs rest')
    · refine hrest.pure fun fs' gs' hfg' => ?_
      exact (hfg.mono (List.subset_append_left gs gs')).append (hfg'.mono (List.subset_append_right gs gs'))

theorem Chain.covers {v m : K} : ∀ (chain : Chain K v m) (value : Carrier v) (model : Carrier m) (depth : Nat),
    Covers s.forceKey (chain.findings s enter (.present value model) depth)
      (chain.findings (s.withStrategy .force) forced .forced depth)
  | .mk rules _, value, model, depth => by
    rw [Chain.findings, Chain.findings, Settings.subject_of_ne_force hs, Settings.subject_forced]
    exact (Rules.covers rules value model depth).pure fun _ _ hfg => hfg.settle _

theorem Scope.covers {m : K} : ∀ (scope : Scope K m) (model : Carrier m) (depth : Nat),
    Covers s.forceKey (scope.findings s enter (some model) depth)
      (scope.findings (s.withStrategy .force) forced none depth)
  | .field name part chain, model, depth => by
    have hchain := fun value model => Chain.covers chain value model depth
    rw [Scope.findings, Scope.findings]
    exact (fillFindings_covers hchain chain (fits_fieldSlot part model)).pure fun _ _ hfg => hfg.under
  | .member name part chain, model, depth => by
    have hchain := fun value model => Chain.covers chain value model depth
    rw [Scope.findings, Scope.findings]
    exact (fillFindings_covers hchain chain (fits_memberSlot part model)).pure fun _ _ hfg => hfg.under
  | .model chain, model, depth => by
    rw [Scope.findings, Scope.findings]
    exact Chain.covers chain model model depth

theorem Specification.covers {m : K} : ∀ (spec : Specification K m) (model : Carrier m) (depth : Nat),
    Covers s.forceKey (spec.findings s enter (some model) depth)
      (spec.findings (s.withStrategy .force) forced none depth)
  | .nil, _, _ => Covers.nil
  | .cons scope rest, model, depth => by
    rw [Specification.findings, Specification.findings]
    exact (Scope.covers scope model depth).append (Specification.covers rest model depth)

end

end Run

theorem findingsWithin_depth_le {s : Settings} {lookup : Lookup K} {levels : Nat} {k : K} {model : Option (Carrier k)}
    {depth : Nat} {fs : List Finding} (h : findingsWithin s lookup levels k model depth = .ok fs) :
    depth ≤ s.maxDepth := by
  cases levels with
  | zero =>
    obtain ⟨spec, -, h⟩ := bind_eq_ok.1 h
    cases h
  | succ levels =>
    obtain ⟨spec, -, h⟩ := bind_eq_ok.1 h
    exact arriveFindings_depth_le h

theorem findingsWithin_covers {s : Settings} (hs : s.strategy ≠ .force) (lookup : Lookup K) (levels : Nat) (k : K)
    (model : Carrier k) (depth : Nat) :
    Covers s.forceKey (findingsWithin s lookup levels k (some model) depth)
      (findingsWithin (s.withStrategy .force) lookup levels k none depth) := by
  induction levels generalizing k model depth with
  | zero =>
    refine Covers.after fun _ _ _ _ fs _ hfs _ => ?_
    cases hfs
  | succ levels ih =>
    refine Covers.after fun spec spec' hspec hspec' => ?_
    obtain rfl : spec = spec' := Except.ok.inj (hspec.symm.trans hspec')
    refine arriveFindings_covers hs (fun model => ?_) model none depth
    exact Specification.covers hs (fun _ _ _ _ h => findingsWithin_depth_le h) ih spec model depth

theorem findings_covers {s : Settings} (hs : s.strategy ≠ .force) (lookup : Lookup K) {m : K} (spec : Specification K m)
    (model : Carrier m) (any : Option (Carrier m)) (depth : Nat) :
    Covers s.forceKey (findings s lookup spec (some model) depth)
      (findings (s.withStrategy .force) lookup spec any depth) := by
  have hwithin := findingsWithin_covers hs lookup (s.maxDepth - depth)
  refine arriveFindings_covers hs (fun model => ?_) model any depth
  exact Specification.covers hs (fun _ _ _ _ h => findingsWithin_depth_le h) hwithin spec model depth

theorem mem_errorsAt_ofFindings {fs : List Finding} {f : Finding} (h : f ∈ fs) :
    f.error ∈ (ofFindings fs).errorsAt f.path := by
  rw [errorsAt_ofFindings]
  exact List.mem_map.2 ⟨f, List.mem_filter.2 ⟨h, by simp⟩, rfl⟩

/-- **Every error of a walk is in the surface.**  The tree of a walk that is not forced holds what the walk finds in its
model, and each of these errors is in the tree of the forced walk, at the same path but for the keys of items. -/
theorem surface_covers_walk {s : Settings} (hs : s.strategy ≠ .force) (lookup : Lookup K) {m : K}
    (spec : Specification K m) (model : Carrier m) (any : Option (Carrier m)) (depth : Nat) {tree surface : ErrorTree}
    (htree : walk s lookup spec (some model) depth = .ok tree)
    (hsurface : walk (s.withStrategy .force) lookup spec any depth = .ok surface) :
    ∃ fs, findings s lookup spec (some model) depth = .ok fs ∧
      (∀ path, tree.errorsAt path = (fs.filter (·.path = path)).map (·.error)) ∧
      ∀ f ∈ fs, f.error ∈ surface.errorsAt (f.general s.forceKey).path := by
  rw [walk_eq_findings] at htree hsurface
  obtain ⟨fs, hfs, rfl⟩ := map_eq_ok.1 htree
  obtain ⟨gs, hgs, rfl⟩ := map_eq_ok.1 hsurface
  have hcovered : Covered s.forceKey fs gs := findings_covers hs lookup spec model any depth fs gs hfs hgs
  exact ⟨fs, hfs, errorsAt_ofFindings fs, fun f hf => mem_errorsAt_ofFindings (hcovered f hf)⟩

/-- As deep as deputies and their skills. -/
def Employee.shallow : Settings := { Employee.settings with maxDepth := 3 }

/-- What a forced walk lists for an employee, down to the skills of deputies. -/
def Employee.surface : ErrorTree :=
  .node [.ofTemplate "Brief"] [
    ("Name", .node [.ofTemplate "Texts.NotEmpty", tooShort "Texts.MinLength"] []),
    ("Skills", .node [] [("#", .node [tooShort "Skill", .ofTemplate "Skill"] [])]),
    ("Deputies", .node [] [
      ("#", .node [.ofTemplate "Global.Required", .ofTemplate "Brief"] [
        ("Name", .node [.ofTemplate "Texts.NotEmpty", tooShort "Texts.MinLength"] []),
        ("Skills", .node [] [("#", .node [tooShort "Skill", .ofTemplate "Skill"] [])]),
        ("Deputies", .node [] [("#", .node [.ofTemplate "Global.Required"] [])])])])]

theorem surface_covers_walk_nested :
    walk Employee.shallow Employee.registry.lookup Employee.specification (some Employee.withDeputies) 0 =
        .ok Employee.withDeputiesTree ∧
      walk (Employee.shallow.withStrategy .force) Employee.registry.lookup Employee.specification none 0 =
        .ok Employee.surface ∧
      ∃ fs, findings Employee.shallow Employee.registry.lookup Employee.specification (some Employee.withDeputies) 0 =
          .ok fs ∧
        (∀ path, Employee.withDeputiesTree.errorsAt path = (fs.filter (·.path = path)).map (·.error)) ∧
        ∀ f ∈ fs, f.error ∈ Employee.surface.errorsAt (f.general "#").path :=
  ⟨by rfl, by rfl, surface_covers_walk (s := Employee.shallow) (by decide) Employee.registry.lookup
    Employee.specification Employee.withDeputies none 0 (by rfl) (by rfl)⟩

end ModelValidation
