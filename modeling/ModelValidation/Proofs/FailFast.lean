import ModelValidation.Proofs.Findings

/-!
# Failing fast

A run that fails fast stops each chain at its first failing rule, at every level on its own.  What it finds is part of
what the complete run finds, in the same order, and it finds something if the complete run does:

* `Specification.abridges`: this holds rule by rule, of the findings;
* `failFast_abridges_complete`: and so of the trees, node by node.
-/

set_option linter.unusedSectionVars false

namespace ModelValidation

open ErrorTree (ofFindings)

variable {K : Type} [ValueTypes K]

/-! ### Abridged findings -/

/-- Part of the findings in their order, and some if there are some. -/
def Abridged (fs cs : List Finding) : Prop := fs.Sublist cs ∧ (fs = [] → cs = [])

/-- Where the second outcome is there, so is the first, with part of its findings. -/
def Abridges (x y : Except Fault (List Finding)) : Prop :=
  ∀ cs, y = .ok cs → ∃ fs, x = .ok fs ∧ Abridged fs cs

theorem Abridged.refl (fs : List Finding) : Abridged fs fs := ⟨List.Sublist.refl fs, id⟩

theorem Abridged.append {fs fs' cs cs' : List Finding} (h : Abridged fs cs) (h' : Abridged fs' cs') :
    Abridged (fs ++ fs') (cs ++ cs') := by
  refine ⟨h.1.append h'.1, fun hnil => ?_⟩
  rw [List.append_eq_nil_iff] at hnil ⊢
  exact ⟨h.2 hnil.1, h'.2 hnil.2⟩

theorem Abridged.map {fs cs : List Finding} (g : Finding → Finding) (h : Abridged fs cs) :
    Abridged (fs.map g) (cs.map g) := by
  refine ⟨h.1.map g, fun hnil => ?_⟩
  rw [List.map_eq_nil_iff] at hnil ⊢
  exact h.2 hnil

/-- A run that abridges another one fails exactly if the other one does. -/
theorem Abridged.isEmpty_eq {fs cs : List Finding} (h : Abridged fs cs) : fs.isEmpty = cs.isEmpty := by
  cases fs with
  | nil => rw [h.2 rfl]
  | cons f fs =>
    cases cs with
    | nil => exact absurd h.1 (by simp)
    | cons c cs => rfl

theorem Abridged.collapse {v m : K} (chain : Chain K v m) {fs cs : List Finding} (h : Abridged fs cs) :
    Abridged (chain.collapse fs) (chain.collapse cs) := by
  unfold Chain.collapse
  cases chain.singleError? with
  | none => exact h
  | some e =>
    -- the single error stands for the findings of both runs
    simp only [h.isEmpty_eq]
    exact Abridged.refl _

theorem Abridged.settle {v m : K} (chain : Chain K v m) {fs cs : List Finding} (h : Abridged fs cs) :
    Abridged (chain.settle fs) (chain.settle cs) := by
  unfold Chain.settle
  cases chain.message? with
  | none => exact h.collapse chain
  | some template => exact (h.collapse chain).map _

theorem Abridges.refl (x : Except Fault (List Finding)) : Abridges x x :=
  fun cs hcs => ⟨cs, hcs, Abridged.refl cs⟩

theorem Abridges.ok {fs cs : List Finding} (h : Abridged fs cs) : Abridges (.ok fs) (.ok cs) := by
  intro cs' hcs'
  cases hcs'
  exact ⟨fs, rfl, h⟩

theorem Abridges.bind {x y : Except Fault (List Finding)} {g g' : List Finding → Except Fault (List Finding)}
    (h : Abridges x y) (hg : ∀ fs cs, Abridged fs cs → Abridges (g fs) (g' cs)) : Abridges (x >>= g) (y >>= g') := by
  intro cs hcs
  obtain ⟨as, hy, hcs⟩ := bind_eq_ok.1 hcs
  obtain ⟨bs, hx, hab⟩ := h as hy
  obtain ⟨fs, hfs, hab'⟩ := hg bs as hab cs hcs
  exact ⟨fs, bind_eq_ok.2 ⟨bs, hx, hfs⟩, hab'⟩

/-- Findings passed on in another form. -/
theorem Abridges.pure {x y : Except Fault (List Finding)} {g g' : List Finding → List Finding} (h : Abridges x y)
    (hg : ∀ fs cs, Abridged fs cs → Abridged (g fs) (g' cs)) :
    Abridges (do return g (← x)) (do return g' (← y)) :=
  h.bind fun fs cs hfc => Abridges.ok (hg fs cs hfc)

/-- Further findings behind the first ones. -/
theorem Abridges.append {x x' y y' : Except Fault (List Finding)} (h : Abridges x y) (h' : Abridges x' y') :
    Abridges (do return (← x) ++ (← x')) (do return (← y) ++ (← y')) :=
  h.bind fun _ _ hfc => h'.pure fun _ _ hfc' => hfc.append hfc'

theorem Abridges.ite {p : Prop} [Decidable p] {x x' y y' : Except Fault (List Finding)} (h : Abridges x y)
    (h' : Abridges x' y') : Abridges (if p then x else x') (if p then y else y') := by
  split
  · exact h
  · exact h'

/-- The same step before both, which may fail. -/
theorem Abridges.after {α : Type} (u : Except Fault α) {f g : α → Except Fault (List Finding)}
    (h : ∀ a, Abridges (f a) (g a)) : Abridges (u >>= f) (u >>= g) := by
  intro cs hcs
  obtain ⟨a, rfl, hg⟩ := bind_eq_ok.1 hcs
  exact h a cs hg

/-! ### Single steps -/

section Steps

variable {s : Settings} {a b : Strategy} {v m : K} {depth : Nat}

theorem fillFindings_abridges {run run' : Subject v m → Except Fault (List Finding)}
    (hrun : ∀ subject, Abridges (run subject) (run' subject)) (canBeAbsent : Bool) (chain : Chain K v m)
    (slot : Slot v m) :
    Abridges (chain.fillFindings (s.withStrategy a) canBeAbsent run slot)
      (chain.fillFindings (s.withStrategy b) canBeAbsent run' slot) := by
  cases slot with
  | present value model => exact hrun _
  | absent => exact Abridges.refl _
  | forced => exact (hrun .forced).pure fun _ _ hfc => (Abridged.refl _).append hfc

theorem gatherFindings_abridges {α : Type} {run run' : α → Except Fault (List Finding)}
    (hrun : ∀ a, Abridges (run a) (run' a)) (i : Nat) (as : List α) :
    Abridges (gatherFindings run i as) (gatherFindings run' i as) := by
  induction as generalizing i with
  | nil => exact Abridges.refl _
  | cons a as ih =>
    exact (hrun a).bind fun _ _ hfc => (ih (i + 1)).pure fun _ _ hfc' => (hfc.map _).append hfc'

theorem collectFindings_abridges {run run' : Slot v m → Except Fault (List Finding)}
    (hrun : ∀ slot, Abridges (run slot) (run' slot)) (slots? : Option (List (Slot v m))) :
    Abridges (collectFindings (s.withStrategy a) depth run slots?)
      (collectFindings (s.withStrategy b) depth run' slots?) := by
  match slots? with
  | none =>
    have hone := (hrun .forced).pure fun _ _ hfc => hfc.map (Finding.under (.item s.forceKey))
    exact Abridges.ite hone (Abridges.refl _)
  | some [] => exact Abridges.refl _
  | some (slot :: slots) =>
    have hitems := gatherFindings_abridges hrun 0 (slot :: slots)
    exact Abridges.after (s.checkDepth (depth + 1)) fun _ => hitems

theorem descendFindings_abridges {enter enter' : Option (Carrier v) → Nat → Except Fault (List Finding)}
    (henter : ∀ model depth, Abridges (enter model depth) (enter' model depth)) (subject : Subject v m) :
    Abridges (descendFindings (s.withStrategy a) depth enter subject)
      (descendFindings (s.withStrategy b) depth enter' subject) := by
  cases subject with
  | present value model => exact henter _ _
  | forced => exact Abridges.ite (Abridges.refl _) (henter _ _)

end Steps

theorem arriveFindings_abridges {s : Settings} {k : K} {run run' : Option (Carrier k) → Except Fault (List Finding)}
    (hrun : ∀ model, Abridges (run model) (run' model)) (model : Option (Carrier k)) (depth : Nat) :
    Abridges (arriveFindings (s.withStrategy .failFast) run model depth)
      (arriveFindings (s.withStrategy .complete) run' model depth) := by
  cases model with
  | none => exact Abridges.refl _
  | some model => exact Abridges.after (s.checkDepth depth) fun _ => hrun (some model)

/-! ### The run through a specification -/

section Run

variable {s : Settings} {fast complete : FindingsEntrance K}
  (henter : ∀ k model depth, Abridges (fast k model depth) (complete k model depth))

include henter

mutual

theorem Rule.abridges {v m : K} : ∀ (rule : Rule K v m) (subject : Subject v m) (depth : Nat),
    Abridges (rule.findings (s.withStrategy .failFast) fast subject depth)
      (rule.findings (s.withStrategy .complete) complete subject depth)
  | .valid check, .present value _, _ => by
    simp only [Rule.findings]
    exact Abridges.refl _
  | .valid check, .forced, _ => by
    simp only [Rule.findings]
    exact Abridges.refl _
  | .relative check, .present _ model, _ => by
    simp only [Rule.findings]
    exact Abridges.refl _
  | .relative check, .forced, _ => by
    simp only [Rule.findings]
    exact Abridges.refl _
  | .nullable content chain, .present value model, depth => by
    simp only [Rule.findings]
    cases content value with
    | none => exact Abridges.refl _
    | some value => exact Chain.abridges chain _ _
  | .nullable _ chain, .forced, depth => by
    simp only [Rule.findings]
    exact Chain.abridges chain _ _
  | .model spec, subject, depth => by
    simp only [Rule.findings]
    refine descendFindings_abridges (arriveFindings_abridges fun model => ?_) subject
    exact Specification.abridges spec model _
  | .registeredModel, subject, depth => by
    simp only [Rule.findings]
    exact descendFindings_abridges (henter _) subject
  | .each items chain, subject, depth => by
    simp only [Rule.findings]
    exact collectFindings_abridges (fillFindings_abridges (fun subject => Chain.abridges chain subject _) false chain) _
  | .eachNullable items chain, subject, depth => by
    simp only [Rule.findings]
    exact collectFindings_abridges (fillFindings_abridges (fun subject => Chain.abridges chain subject _) true chain) _

theorem Rules.abridges {v m : K} : ∀ (rules : Rules K v m) (subject : Subject v m) (depth : Nat),
    Abridges (rules.findings (s.withStrategy .failFast) fast subject depth)
      (rules.findings (s.withStrategy .complete) complete subject depth)
  | .nil, _, _ => Abridges.refl _
  | .cons rule rest, subject, depth => by
    have hrest := Rules.abridges rest subject depth
    rw [Rules.findings, Rules.findings]
    refine (Rule.abridges rule subject depth).bind fun fs cs hfc => ?_
    cases fs with
    | nil =>
      rw [hfc.2 rfl]
      exact hrest.pure fun _ _ hfc' => hfc'
    | cons f fs =>
      -- the fast run ends here; what the complete one still finds comes behind
      intro cs' hcs'
      obtain ⟨gs, -, hgs⟩ := bind_eq_ok.1 hcs'
      cases hgs
      exact ⟨f :: fs, rfl, hfc.1.trans (List.sublist_append_left cs gs), fun h => absurd h (by simp)⟩

theorem Chain.abridges {v m : K} : ∀ (chain : Chain K v m) (subject : Subject v m) (depth : Nat),
    Abridges (chain.findings (s.withStrategy .failFast) fast subject depth)
      (chain.findings (s.withStrategy .complete) complete subject depth)
  | .mk rules _, subject, depth => by
    have hfast : (s.withStrategy .failFast).subject subject = subject := Settings.subject_of_ne_force (by simp) subject
    have hcomplete : (s.withStrategy .complete).subject subject = subject := Settings.subject_of_ne_force (by simp) subject
    rw [Chain.findings, Chain.findings, hfast, hcomplete]
    exact (Rules.abridges rules subject depth).pure fun _ _ hfc => hfc.settle _

theorem Scope.abridges {m : K} : ∀ (scope : Scope K m) (model : Option (Carrier m)) (depth : Nat),
    Abridges (scope.findings (s.withStrategy .failFast) fast model depth)
      (scope.findings (s.withStrategy .complete) complete model depth)
  | .field _ _ chain, model, depth => by
    have hchain := fun subject => Chain.abridges chain subject depth
    rw [Scope.findings, Scope.findings]
    exact (fillFindings_abridges hchain false chain _).pure fun _ _ hfc => hfc.map _
  | .member _ _ chain, model, depth => by
    have hchain := fun subject => Chain.abridges chain subject depth
    rw [Scope.findings, Scope.findings]
    exact (fillFindings_abridges hchain true chain _).pure fun _ _ hfc => hfc.map _
  | .model chain, model, depth => by
    rw [Scope.findings, Scope.findings]
    exact Chain.abridges chain _ _

theorem Specification.abridges {m : K} : ∀ (spec : Specification K m) (model : Option (Carrier m)) (depth : Nat),
    Abridges (spec.findings (s.withStrategy .failFast) fast model depth)
      (spec.findings (s.withStrategy .complete) complete model depth)
  | .nil, _, _ => Abridges.refl _
  | .cons scope rest, model, depth => by
    rw [Specification.findings, Specification.findings]
    exact (Scope.abridges scope model depth).append (Specification.abridges rest model depth)

end

end Run

theorem findingsWithin_abridges (s : Settings) (lookup : Lookup K) (levels : Nat) (k : K) (model : Option (Carrier k))
    (depth : Nat) :
    Abridges (findingsWithin (s.withStrategy .failFast) lookup levels k model depth)
      (findingsWithin (s.withStrategy .complete) lookup levels k model depth) := by
  induction levels generalizing k model depth with
  | zero =>
    simp only [findingsWithin, Settings.maxDepth_withStrategy]
    exact Abridges.refl _
  | succ levels ih =>
    simp only [findingsWithin]
    refine Abridges.after (lookup k) fun spec => arriveFindings_abridges (fun model => ?_) model depth
    exact Specification.abridges ih spec model depth

theorem findings_abridges (s : Settings) (lookup : Lookup K) {m : K} (spec : Specification K m)
    (model : Option (Carrier m)) (depth : Nat) :
    Abridges (findings (s.withStrategy .failFast) lookup spec model depth)
      (findings (s.withStrategy .complete) lookup spec model depth) := by
  simp only [findings, Settings.maxDepth_withStrategy]
  refine arriveFindings_abridges (fun model => ?_) model depth
  exact Specification.abridges (findingsWithin_abridges s lookup _) spec model depth

/-- **Failing fast abbreviates a complete walk.**  If the complete walk gives a tree, so does the fast one; both are
empty or neither is; and every node of the fast tree has part of the errors of the complete one, in order. -/
theorem failFast_abridges_complete (s : Settings) (lookup : Lookup K) {m : K} (spec : Specification K m)
    (model : Option (Carrier m)) (depth : Nat) {c : ErrorTree}
    (hc : walk (s.withStrategy .complete) lookup spec model depth = .ok c) :
    ∃ f, walk (s.withStrategy .failFast) lookup spec model depth = .ok f ∧ f.isEmpty = c.isEmpty ∧
      ∀ path, (f.errorsAt path).Sublist (c.errorsAt path) := by
  rw [walk_eq_findings] at hc
  obtain ⟨cs, hcs, rfl⟩ := map_eq_ok.1 hc
  obtain ⟨fs, hfs, habridged⟩ := findings_abridges s lookup spec model depth cs hcs
  refine ⟨ofFindings fs, ?_, ?_, errorsAt_sublist habridged.1⟩
  · rw [walk_eq_findings, hfs]
    rfl
  · rw [ErrorTree.isEmpty_ofFindings, ErrorTree.isEmpty_ofFindings, habridged.isEmpty_eq]

theorem failFast_abridges_complete_nested :
    walk (Employee.settings.withStrategy .complete) Employee.registry.lookup Employee.specification
        (some Employee.withDeputies) 0 = .ok Employee.withDeputiesTree ∧
      ∃ f, walk (Employee.settings.withStrategy .failFast) Employee.registry.lookup Employee.specification
          (some Employee.withDeputies) 0 = .ok f ∧ f.isEmpty = Employee.withDeputiesTree.isEmpty ∧
        ∀ path, (f.errorsAt path).Sublist (Employee.withDeputiesTree.errorsAt path) :=
  ⟨by rfl, failFast_abridges_complete Employee.settings Employee.registry.lookup Employee.specification
    (some Employee.withDeputies) 0 (by rfl)⟩

end ModelValidation
