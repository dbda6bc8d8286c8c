import ModelValidation.Proofs.Findings
import ModelValidation.Proofs.Reports
import ModelValidation.Validator

/-!
# How deep results are

A member is a step on the way to an error but lies no deeper; a nested model lies one deeper but is no step; an item
is both.  At every depth the way that is left to an error fits into the depths that are left, but for one last member:

* `Rule.stays`, `Specification.stays`: this bound, rule by rule;
* `reports_of_obtained`: so every result, merged or not, can be reported within its own limit.
-/

set_option linter.unusedSectionVars false

namespace ModelValidation

open ErrorTree (ofFindings)

variable {K : Type} [ValueTypes K]

/-! ### Findings within a limit -/

/-- From the depth on, no way to an error leads beyond the limit. -/
def Within (depth limit : Nat) (fs : List Finding) : Prop := ∀ f ∈ fs, depth + f.route.length ≤ limit

/-- The findings of an outcome, if there are any, are within the limit. -/
def Stays (depth limit : Nat) (x : Except Fault (List Finding)) : Prop := ∀ fs, x = .ok fs → Within depth limit fs

section Within

variable {depth limit : Nat} {fs gs : List Finding}

theorem Within.nil : Within depth limit [] := fun _ hf => absurd hf (by simp)

theorem Within.here {e : ValidationError} (h : depth ≤ limit) : Within depth limit [Finding.here e] := by
  intro f hf
  rw [List.mem_singleton.1 hf]
  exact h

theorem Within.mono {limit' : Nat} (h : Within depth limit fs) (hle : limit ≤ limit') : Within depth limit' fs :=
  fun f hf => Nat.le_trans (h f hf) hle

theorem Within.append (h : Within depth limit fs) (h' : Within depth limit gs) : Within depth limit (fs ++ gs) := by
  intro f hf
  rcases List.mem_append.1 hf with hf | hf
  · exact h f hf
  · exact h' f hf

theorem within_succ_iff : Within (depth + 1) (limit + 1) fs ↔ Within depth limit fs := by
  refine forall₂_congr fun f _ => ?_
  omega

/-- A step makes every way one longer. -/
theorem Within.under (h : Within (depth + 1) limit fs) (step : Step) :
    Within depth limit (fs.map (Finding.under step)) := by
  intro f hf
  obtain ⟨g, hg, rfl⟩ := List.mem_map.1 hf
  have hlength : (g.under step).route.length = g.route.length + 1 := rfl
  have hle := h g hg
  omega

theorem Within.retitled (template : String) (h : Within depth limit fs) :
    Within depth limit (fs.map (Finding.retitled template)) := by
  intro f hf
  obtain ⟨g, hg, rfl⟩ := List.mem_map.1 hf
  have hroute : (g.retitled template).route = g.route := by
    unfold Finding.retitled
    split <;> rfl
  rw [hroute]
  exact h g hg

theorem Within.collapse {v m : K} (chain : Chain K v m) (h : Within depth limit fs) :
    Within depth limit (chain.collapse fs) := by
  unfold Chain.collapse
  cases chain.singleError? with
  | none => exact h
  | some e =>
    cases fs with
    | nil => exact Within.nil
    | cons f fs =>
      have hle := h f List.mem_cons_self
      exact Within.here (by omega)

theorem Within.settle {v m : K} (chain : Chain K v m) (h : Within depth limit fs) :
    Within depth limit (chain.settle fs) := by
  unfold Chain.settle
  cases chain.message? with
  | none => exact h.collapse chain
  | some template => exact (h.collapse chain).retitled template

end Within

namespace Stays

variable {depth limit : Nat} {x y : Except Fault (List Finding)}

theorem ok {fs : List Finding} (h : Within depth limit fs) : Stays depth limit (.ok fs) := by
  intro fs' hfs
  cases hfs
  exact h

theorem bind {α : Type} {u : Except Fault α} {g : α → Except Fault (List Finding)}
    (h : ∀ a, u = .ok a → Stays depth limit (g a)) : Stays depth limit (u >>= g) := by
  intro fs hfs
  obtain ⟨a, ha, hfs⟩ := bind_eq_ok.1 hfs
  exact h a ha fs hfs

/-- Findings passed on in another form. -/
theorem pure {depth' limit' : Nat} {g : List Finding → List Finding} (h : Stays depth limit x)
    (hg : ∀ fs, Within depth limit fs → Within depth' limit' (g fs)) :
    Stays depth' limit' (do return g (← x)) :=
  Stays.bind fun fs hfs => Stays.ok (hg fs (h fs hfs))

/-- Further findings behind the first ones. -/
theorem append (h : Stays depth limit x) (h' : Stays depth limit y) :
    Stays depth limit (do return (← x) ++ (← y)) :=
  Stays.bind fun fs hfs => h'.pure fun _ hgs => (h fs hfs).append hgs

end Stays

/-! ### Single steps -/

section Steps

variable {s : Settings} {v m : K} {depth limit : Nat}

theorem stays_failure (hdepth : depth ≤ limit) (error : Option ValidationError) (passed : Bool) :
    Stays depth limit (.ok (s.failure error passed)) := by
  cases passed with
  | true => exact Stays.ok Within.nil
  | false => exact Stays.ok (Within.here hdepth)

theorem stays_fillFindings (hdepth : depth ≤ limit) {run : Subject v m → Except Fault (List Finding)}
    (hrun : ∀ subject, Stays depth limit (run subject)) (canBeAbsent : Bool) (chain : Chain K v m) (slot : Slot v m) :
    Stays depth limit (chain.fillFindings s canBeAbsent run slot) := by
  have hrequired : Within depth limit [Finding.here s.requiredError] := Within.here hdepth
  cases slot with
  | present value model => exact hrun _
  | absent =>
    refine Stays.ok ?_
    split
    · exact Within.nil
    · exact hrequired
  | forced =>
    refine (hrun .forced).pure fun fs hfs => Within.append ?_ hfs
    split
    · exact hrequired
    · exact Within.nil

theorem stays_gatherFindings {α : Type} {run : α → Except Fault (List Finding)}
    (hrun : ∀ a, Stays (depth + 1) limit (run a)) (i : Nat) (as : List α) :
    Stays depth limit (gatherFindings run i as) := by
  induction as generalizing i with
  | nil => exact Stays.ok Within.nil
  | cons a as ih =>
    refine Stays.bind fun fs hfs => (ih (i + 1)).pure fun _ hrest => Within.append ?_ hrest
    exact (hrun a fs hfs).under _

/-- An item lies one deeper, and its index is one step. -/
theorem stays_collectFindings {run : Slot v m → Except Fault (List Finding)}
    (hrun : depth + 1 ≤ s.maxDepth → ∀ slot, Stays (depth + 1) s.maxDepth (run slot))
    (slots? : Option (List (Slot v m))) : Stays depth s.maxDepth (collectFindings s depth run slots?) := by
  match slots? with
  | none =>
    rw [collectFindings]
    split
    · rename_i hdepth
      intro fs hfs
      obtain ⟨gs, hgs, rfl⟩ := map_eq_ok.1 hfs
      exact (hrun hdepth .forced gs hgs).under _
    · exact Stays.ok Within.nil
  | some [] => exact Stays.ok Within.nil
  | some (slot :: slots) =>
    refine Stays.bind fun _ hdepth => ?_
    exact stays_gatherFindings (hrun (Settings.checkDepth_eq_ok.1 hdepth)) 0 (slot :: slots)

/-- A nested model lies one deeper, and nothing is a step on the way to it. -/
theorem stays_descendFindings {enter : Option (Carrier v) → Nat → Except Fault (List Finding)}
    (henter : ∀ model depth, Stays depth (s.maxDepth + 1) (enter model depth)) (subject : Subject v m) :
    Stays depth s.maxDepth (descendFindings s depth enter subject) := by
  have hnested : ∀ model, Stays depth s.maxDepth (enter model (depth + 1)) :=
    fun model fs hfs => within_succ_iff.1 (henter model (depth + 1) fs hfs)
  cases subject with
  | present value model => exact hnested _
  | forced =>
    rw [descendFindings]
    split
    · exact Stays.ok Within.nil
    · exact hnested _

end Steps

theorem stays_arriveFindings {s : Settings} {k : K} {run : Option (Carrier k) → Except Fault (List Finding)} {depth : Nat}
    (hrun : depth ≤ s.maxDepth → ∀ model, Stays depth (s.maxDepth + 1) (run model)) (model : Option (Carrier k)) :
    Stays depth (s.maxDepth + 1) (arriveFindings s run model depth) := by
  refine Stays.bind fun _ hdepth => ?_
  have hle := Settings.checkDepth_eq_ok.1 hdepth
  split
  · exact hrun hle none
  · cases model with
    | some model => exact hrun hle (some model)
    | none =>
      simp only [Settings.nullRootFindings]
      cases s.nullRoot with
      | fail => exact fun fs hfs => by cases hfs
      | required => exact Stays.ok (Within.here (by omega))
      | accept => exact Stays.ok Within.nil

/-! ### The walk through a specification -/

section Run

variable {s : Settings} {enter : FindingsEntrance K}
  (henter : ∀ k model depth, Stays depth (s.maxDepth + 1) (enter k model depth))

include henter

-- chains keep to the greatest depth; what a scope adds is one member in front
mutual

theorem Rule.stays {v m : K} : ∀ (rule : Rule K v m) (subject : Subject v m) {depth : Nat}, depth ≤ s.maxDepth →
    Stays depth s.maxDepth (rule.findings s enter subject depth)
  | .valid check, .present value _, _, hdepth => by
    simp only [Rule.findings]
    exact stays_failure hdepth check.error (check.holds value)
  | .valid check, .forced, _, hdepth => by
    simp only [Rule.findings]
    exact stays_failure hdepth check.error false
  | .relative check, .present _ model, _, hdepth => by
    simp only [Rule.findings]
    exact stays_failure hdepth check.error (check.holds model)
  | .relative check, .forced, _, hdepth => by
    simp only [Rule.findings]
    exact stays_failure hdepth check.error false
  | .nullable content chain, .present value model, _, hdepth => by
    simp only [Rule.findings]
    cases content value with
    | none => exact Stays.ok Within.nil
    | some value => exact Chain.stays chain _ hdepth
  | .nullable _ chain, .forced, _, hdepth => by
    simp only [Rule.findings]
    exact Chain.stays chain _ hdepth
  | .model spec, subject, _, _ => by
    simp only [Rule.findings]
    refine stays_descendFindings (fun model depth => ?_) subject
    exact stays_arriveFindings (fun hdepth model => Specification.stays spec model hdepth) model
  | .registeredModel, subject, _, _ => by
    simp only [Rule.findings]
    exact stays_descendFindings (henter v) subject
  | .each items chain, subject, _, _ => by
    simp only [Rule.findings]
    refine stays_collectFindings (fun hitem slot => ?_) _
    exact stays_fillFindings hitem (fun subject => Chain.stays chain subject hitem) false chain slot
  | .eachNullable items chain, subject, _, _ => by
    simp only [Rule.findings]
    refine stays_collectFindings (fun hitem slot => ?_) _
    exact stays_fillFindings hitem (fun subject => Chain.stays chain subject hitem) true chain slot

theorem Rules.stays {v m : K} : ∀ (rules : Rules K v m) (subject : Subject v m) {depth : Nat}, depth ≤ s.maxDepth →
    Stays depth s.maxDepth (rules.findings s enter subject depth)
  | .nil, _, _, _ => Stays.ok Within.nil
  | .cons rule rest, subject, _, hdepth => by
    rw [Rules.findings]
    refine Stays.bind fun fs hfs => ?_
    have hrule : Within _ s.maxDepth fs := Rule.stays rule subject hdepth fs hfs
    split
    · exact Stays.ok hrule
    · exact (Rules.stays rest subject hdepth).pure fun _ hrest => hrule.append hrest

theorem Chain.stays {v m : K} : ∀ (chain : Chain K v m) (subject : Subject v m) {depth : Nat}, depth ≤ s.maxDepth →
    Stays depth s.maxDepth (chain.findings s enter subject depth)
  | .mk rules _, subject, _, hdepth => by
    rw [Chain.findings]
    exact (Rules.stays rules (s.subject subject) hdepth).pure fun _ hfs => hfs.settle _

theorem Scope.stays {m : K} : ∀ (scope : Scope K m) (model : Option (Carrier m)) {depth : Nat}, depth ≤ s.maxDepth →
    Stays depth (s.maxDepth + 1) (scope.findings s enter model depth)
  | .field _ part chain, model, depth, hdepth => by
    have hchain := fun subject => Chain.stays chain subject hdepth
    rw [Scope.findings]
    exact (stays_fillFindings hdepth hchain false chain _).pure fun _ hfs => (within_succ_iff.2 hfs).under _
  | .member _ part chain, model, depth, hdepth => by
    have hchain := fun subject => Chain.stays chain subject hdepth
    rw [Scope.findings]
    exact (stays_fillFindings hdepth hchain true chain _).pure fun _ hfs => (within_succ_iff.2 hfs).under _
  | .model chain, model, depth, hdepth => by
    rw [Scope.findings]
    exact fun fs hfs => (Chain.stays chain (modelSubject model) hdepth fs hfs).mono (Nat.le_succ _)

theorem Specification.stays {m : K} : ∀ (spec : Specification K m) (model : Option (Carrier m)) {depth : Nat},
    depth ≤ s.maxDepth → Stays depth (s.maxDepth + 1) (spec.findings s enter model depth)
  | .nil, _, _, _ => Stays.ok Within.nil
  | .cons scope rest, model, _, hdepth => by
    rw [Specification.findings]
    exact (Scope.stays scope model hdepth).append (Specification.stays rest model hdepth)

end

end Run

theorem stays_findingsWithin (s : Settings) (lookup : Lookup K) (levels : Nat) (k : K) (model : Option (Carrier k))
    (depth : Nat) : Stays depth (s.maxDepth + 1) (findingsWithin s lookup levels k model depth) := by
  induction levels generalizing k model depth with
  | zero =>
    refine Stays.bind fun spec _ fs hfs => ?_
    cases hfs
  | succ levels ih =>
    refine Stays.bind fun spec _ => ?_
    exact stays_arriveFindings (fun hdepth model => Specification.stays ih spec model hdepth) model

theorem stays_findings (s : Settings) (lookup : Lookup K) {m : K} (spec : Specification K m)
    (model : Option (Carrier m)) (depth : Nat) : Stays depth (s.maxDepth + 1) (findings s lookup spec model depth) := by
  have hwithin := stays_findingsWithin s lookup (s.maxDepth - depth)
  exact stays_arriveFindings (fun hdepth model => Specification.stays hwithin spec model hdepth) model

/-! ### Results -/

variable [DecidableEq K]

/-- Results of validations, and results merged from such. -/
inductive Obtained {k : K} : ValidationResult K k → Prop where
  | validated (v : Validator K) (model : Option (Carrier k)) (overrides : Overrides) {r : ValidationResult K k}
      (h : v.validateWith k model overrides = .ok r) : Obtained r
  | merged {r other : ValidationResult K k} (h : Obtained r) (h' : Obtained other) : Obtained (r.merge other)

theorem depth_ofFindings_le_iff {fs : List Finding} {n : Nat} : (ofFindings fs).depth ≤ n ↔ Within 0 n fs := by
  rw [ofFindings, ErrorTree.depth_grouping_le_iff, List.forall_mem_map]
  simp [Within, Finding.placed, Finding.path]

theorem merge_ofFindings (fs gs : List Finding) :
    ErrorTree.merge [ofFindings fs, ofFindings gs] = ofFindings (fs ++ gs) := by
  simp only [ErrorTree.merge, List.foldl_cons, List.foldl_nil, ErrorTree.absorb_ofFindings]
  rw [← ErrorTree.addFindings_append]
  rfl

/-- The errors of a result are findings within its limit. -/
theorem Obtained.ofFindings {k : K} {r : ValidationResult K k} (h : Obtained r) :
    ∃ fs, r.errors = ofFindings fs ∧ Within 0 (r.maxDepth + 1) fs := by
  induction h with
  | validated v model overrides h =>
    obtain ⟨spec, -, h⟩ := bind_eq_ok.1 h
    obtain ⟨errors, hwalk, h⟩ := bind_eq_ok.1 h
    cases h
    rw [walk_eq_findings] at hwalk
    obtain ⟨fs, hfs, rfl⟩ := map_eq_ok.1 hwalk
    exact ⟨fs, rfl, stays_findings _ _ spec model 0 fs hfs⟩
  | @merged r other _ _ ih ih' =>
    obtain ⟨fs, hfs, hfw⟩ := ih
    obtain ⟨gs, hgs, hgw⟩ := ih'
    refine ⟨fs ++ gs, ?_, Within.append (hfw.mono ?_) (hgw.mono ?_)⟩
    · rw [ValidationResult.merge, hfs, hgs, merge_ofFindings]
    · exact Nat.succ_le_succ (Nat.le_max_left _ _)
    · exact Nat.succ_le_succ (Nat.le_max_right _ _)

/-- **Whatever is found can be reported.**  A result, merged or not, has a tree at most one deeper than its limit, and
neither its list nor its JSON tree fails. -/
theorem reports_of_obtained {k : K} {r : ValidationResult K k} (h : Obtained r) :
    r.errors.depth ≤ r.maxDepth + 1 ∧
      ∀ wording, (∃ entries, r.list wording = .ok entries) ∧ ∃ json, r.tree wording = .ok json := by
  obtain ⟨fs, hfs, hwithin⟩ := h.ofFindings
  have hdepth : r.errors.depth ≤ r.maxDepth + 1 := by
    rw [hfs]
    exact depth_ofFindings_le_iff.2 hwithin
  refine ⟨hdepth, fun wording => ⟨?_, ?_⟩⟩
  · exact Report.list_of_depth_le wording hdepth
  · exact Report.tree_of_depth_le wording hdepth

namespace Employee

def validator : Validator StaffType := ⟨.default, registry, .empty⟩

/-- The result of the employee with deputies, merged with that of the nameless one to depth 1 only. -/
def both : ValidationResult StaffType .employee :=
  ValidationResult.merge (k := StaffType.employee) ⟨some withDeputies, withDeputiesTree, .complete, 10, false⟩
    ⟨some nameless, namelessTree, .complete, 1, false⟩

theorem obtained_both : Obtained both :=
  .merged (.validated (k := StaffType.employee) validator (some withDeputies) .none (by rfl))
    (.validated (k := StaffType.employee) validator (some nameless) ⟨none, none, some 1⟩ (by rfl))

end Employee

theorem reports_of_obtained_both :
    Obtained Employee.both ∧ Employee.both.errors.depth ≤ Employee.both.maxDepth + 1 ∧
      ∀ wording, (∃ entries, Employee.both.list wording = .ok entries) ∧
        ∃ json, Employee.both.tree wording = .ok json :=
  ⟨Employee.obtained_both, reports_of_obtained Employee.obtained_both⟩

end ModelValidation
