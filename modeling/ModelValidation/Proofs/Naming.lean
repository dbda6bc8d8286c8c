import ModelValidation.Proofs.DepthBound
import ModelValidation.Proofs.Registries
import ModelValidation.Specification.Building

/-!
# Keys of members

The empty key is kept for a node's own errors in a JSON tree.  Building refuses members without names, the options
refuse an empty key for the items of a collection, and an index is never empty; so no way to an error has an empty key
on it:

* `Specification.HoldsBuilt`, `Specification.Accepted`: specifications that have been built at every level;
* `Rule.names`, `Specification.names`: the keys on the ways, rule by rule;
* `Issued.ofFindings`: the errors of a result are findings without empty keys.
-/

set_option linter.unusedSectionVars false

namespace ModelValidation

open ErrorTree (ofFindings)

variable {K : Type} [ValueTypes K]

/-! ### Specifications built at every level -/

/-- Building has given the specification. -/
def Specification.IsBuilt {m : K} (spec : Specification K m) : Prop :=
  ∃ scopes, Specification.build scopes = .ok spec

mutual

/-- Specifications given inside the rule have been built. -/
def Rule.HoldsBuilt {v m : K} : Rule K v m → Prop
  | .valid _ | .relative _ | .registeredModel => True
  | .nullable _ chain | .each _ chain | .eachNullable _ chain => chain.HoldsBuilt
  | .model spec => spec.IsBuilt ∧ spec.HoldsBuilt

/-- Specifications given inside the rules have been built. -/
def Rules.HoldsBuilt {v m : K} : Rules K v m → Prop
  | .nil => True
  | .cons rule rest => rule.HoldsBuilt ∧ rest.HoldsBuilt

/-- Specifications given inside the chain have been built. -/
def Chain.HoldsBuilt {v m : K} : Chain K v m → Prop
  | .mk rules _ => rules.HoldsBuilt

/-- Specifications given inside the scope have been built. -/
def Scope.HoldsBuilt {m : K} : Scope K m → Prop
  | .field _ _ chain | .member _ _ chain => chain.HoldsBuilt
  | .model chain => chain.HoldsBuilt

/-- Specifications given inside the scopes have been built. -/
def Specification.HoldsBuilt {m : K} : Specification K m → Prop
  | .nil => True
  | .cons scope rest => scope.HoldsBuilt ∧ rest.HoldsBuilt

end

/-- The specification has been built, and so has every one given inside it. -/
def Specification.Accepted {m : K} (spec : Specification K m) : Prop :=
  spec.IsBuilt ∧ spec.HoldsBuilt

/-- What is given for a type is an accepted specification, or a fault. -/
def AcceptedOrFault (k : K) (outcome : Except Fault (Specification K k)) : Prop :=
  ∀ spec, outcome = .ok spec → spec.Accepted

theorem Specification.IsBuilt.check_eq_ok {m : K} {spec : Specification K m} (h : spec.IsBuilt) :
    spec.check = .ok () := by
  obtain ⟨scopes, h⟩ := h
  obtain ⟨_, hcheck, h⟩ := bind_eq_ok.1 h
  cases h
  exact hcheck

/-- The key of a member that has passed its check is not empty, be it renamed or not. -/
theorem Scope.key_ne_empty {v m : K} {name : String} {chain : Chain K v m} (h : Scope.checkName name chain = .ok ()) :
    chain.name?.getD name ≠ "" := by
  intro hkey
  have hblank : (Text.isBlankText name || (chain.name?.map Text.isBlankText).getD false) = true := by
    cases hname : chain.name? with
    | none =>
      rw [hname, Option.getD_none] at hkey
      subst hkey
      rfl
    | some other =>
      rw [hname, Option.getD_some] at hkey
      subst hkey
      exact Bool.or_true _
  rw [Scope.checkName, if_pos hblank] at h
  cases h

theorem Options.forceKey_ne_empty {o : Options} (h : o.check = .ok ()) : o.forceKey ≠ "" := by
  intro hkey
  unfold Options.check Options.problem? at h
  rw [if_pos hkey] at h
  by_cases hdepth : o.maxDepth = 0
  · rw [if_pos hdepth] at h
    cases h
  · rw [if_neg hdepth] at h
    cases h

/-! ### Findings without empty keys -/

/-- No key on the way to an error is empty. -/
def Named (fs : List Finding) : Prop := ∀ f ∈ fs, "" ∉ f.path

/-- The findings of an outcome, if there are any, are named. -/
def Names (x : Except Fault (List Finding)) : Prop := ∀ fs, x = .ok fs → Named fs

section Named

variable {fs gs : List Finding}

theorem Named.nil : Named [] := fun _ hf => absurd hf List.not_mem_nil

theorem Named.here (e : ValidationError) : Named [Finding.here e] := by
  intro f hf
  rw [List.mem_singleton.1 hf]
  exact List.not_mem_nil

theorem Named.append (h : Named fs) (h' : Named gs) : Named (fs ++ gs) := by
  intro f hf
  rcases List.mem_append.1 hf with hf | hf
  · exact h f hf
  · exact h' f hf

theorem Named.under (h : Named fs) {step : Step} (hstep : step.key ≠ "") : Named (fs.map (Finding.under step)) := by
  intro f hf
  obtain ⟨g, hg, rfl⟩ := List.mem_map.1 hf
  have hpath : (g.under step).path = step.key :: g.path := rfl
  rw [hpath, List.mem_cons, not_or]
  exact ⟨Ne.symm hstep, h g hg⟩

theorem Named.retitled (template : String) (h : Named fs) : Named (fs.map (Finding.retitled template)) := by
  intro f hf
  obtain ⟨g, hg, rfl⟩ := List.mem_map.1 hf
  have hpath : (g.retitled template).path = g.path := by
    unfold Finding.retitled
    split <;> rfl
  rw [hpath]
  exact h g hg

theorem Named.settle {v m : K} (chain : Chain K v m) (h : Named fs) : Named (chain.settle fs) := by
  have hcollapse : Named (chain.collapse fs) := by
    unfold Chain.collapse
    cases chain.singleError? with
    | none => exact h
    | some e =>
      cases fs with
      | nil => exact .nil
      | cons f fs => exact .here e
  unfold Chain.settle
  cases chain.message? with
  | none => exact hcollapse
  | some template => exact hcollapse.retitled template

end Named

namespace Names

variable {x y : Except Fault (List Finding)}

theorem ok {fs : List Finding} (h : Named fs) : Names (.ok fs) := by
  intro fs' hfs
  cases hfs
  exact h

theorem bind {α : Type} {u : Except Fault α} {g : α → Except Fault (List Finding)}
    (h : ∀ a, u = .ok a → Names (g a)) : Names (u >>= g) := by
  intro fs hfs
  obtain ⟨a, ha, hfs⟩ := bind_eq_ok.1 hfs
  exact h a ha fs hfs

/-- Findings passed on in another form. -/
theorem pure {g : List Finding → List Finding} (h : Names x) (hg : ∀ fs, Named fs → Named (g fs)) :
    Names (do return g (← x)) :=
  Names.bind fun fs hfs => Names.ok (hg fs (h fs hfs))

/-- Further findings behind the first ones. -/
theorem append (h : Names x) (h' : Names y) : Names (do return (← x) ++ (← y)) :=
  Names.bind fun fs hfs => h'.pure fun _ hgs => (h fs hfs).append hgs

end Names

/-! ### Single steps -/

section Steps

variable {s : Settings} {v m : K}

theorem names_failure (error : Option ValidationError) (passed : Bool) : Names (.ok (s.failure error passed)) := by
  cases passed with
  | true => exact .ok .nil
  | false => exact .ok (.here _)

theorem names_fillFindings {run : Subject v m → Except Fault (List Finding)} (hrun : ∀ subject, Names (run subject))
    (canBeAbsent : Bool) (chain : Chain K v m) (slot : Slot v m) : Names (chain.fillFindings s canBeAbsent run slot) := by
  have hrequired : Named [Finding.here s.requiredError] := .here _
  cases slot with
  | present value model => exact hrun _
  | absent =>
    refine .ok ?_
    split
    · exact .nil
    · exact hrequired
  | forced =>
    refine (hrun .forced).pure fun fs hfs => Named.append ?_ hfs
    split
    · exact hrequired
    · exact .nil

theorem names_gatherFindings {α : Type} {run : α → Except Fault (List Finding)} (hrun : ∀ a, Names (run a)) (i : Nat)
    (as : List α) : Names (gatherFindings run i as) := by
  induction as generalizing i with
  | nil => exact .ok .nil
  | cons a as ih =>
    have hindex : (Step.item (toString i)).key ≠ "" := Nat.repr_ne_empty
    exact .bind fun fs hfs => (ih (i + 1)).pure fun _ hrest => (hrun a fs hfs).under hindex |>.append hrest

theorem names_collectFindings (hforce : s.forceKey ≠ "") {depth : Nat} {run : Slot v m → Except Fault (List Finding)}
    (hrun : ∀ slot, Names (run slot)) (slots? : Option (List (Slot v m))) :
    Names (collectFindings s depth run slots?) := by
  match slots? with
  | none =>
    rw [collectFindings]
    split
    · intro fs hfs
      obtain ⟨gs, hgs, rfl⟩ := map_eq_ok.1 hfs
      exact (hrun .forced gs hgs).under hforce
    · exact .ok .nil
  | some [] => exact .ok .nil
  | some (slot :: slots) => exact .bind fun _ _ => names_gatherFindings hrun 0 (slot :: slots)

theorem names_descendFindings {enter : Option (Carrier v) → Nat → Except Fault (List Finding)} {depth : Nat}
    (henter : ∀ model depth, Names (enter model depth)) (subject : Subject v m) :
    Names (descendFindings s depth enter subject) := by
  cases subject with
  | present value model => exact henter _ _
  | forced =>
    rw [descendFindings]
    split
    · exact .ok .nil
    · exact henter _ _

theorem names_arriveFindings {k : K} {run : Option (Carrier k) → Except Fault (List Finding)}
    (hrun : ∀ model, Names (run model)) (model : Option (Carrier k)) (depth : Nat) :
    Names (arriveFindings s run model depth) := by
  refine .bind fun _ _ => ?_
  split
  · exact hrun none
  · cases model with
    | some model => exact hrun (some model)
    | none =>
      simp only [Settings.nullRootFindings]
      cases s.nullRoot with
      | fail => exact fun fs hfs => by cases hfs
      | required => exact .ok (.here _)
      | accept => exact .ok .nil

end Steps

/-! ### The walk through a specification -/

section Run

variable {s : Settings} {enter : FindingsEntrance K} (hforce : s.forceKey ≠ "")
  (henter : ∀ k model depth, Names (enter k model depth))

include hforce henter

-- the keys are those of members, whose scopes have been checked, of indices, and of the item that stands for all items
mutual

theorem Rule.names {v m : K} : ∀ (rule : Rule K v m) (subject : Subject v m) (depth : Nat), rule.HoldsBuilt →
    Names (rule.findings s enter subject depth)
  | .valid check, .present value _, _, _ => by
    simp only [Rule.findings]
    exact names_failure check.error (check.holds value)
  | .valid check, .forced, _, _ => by
    simp only [Rule.findings]
    exact names_failure check.error false
  | .relative check, .present _ model, _, _ => by
    simp only [Rule.findings]
    exact names_failure check.error (check.holds model)
  | .relative check, .forced, _, _ => by
    simp only [Rule.findings]
    exact names_failure check.error false
  | .nullable content chain, .present value model, depth, h => by
    simp only [Rule.findings]
    cases content value with
    | none => exact .ok .nil
    | some value => exact Chain.names chain _ depth h
  | .nullable _ chain, .forced, depth, h => by
    simp only [Rule.findings]
    exact Chain.names chain _ depth h
  | .model spec, subject, _, h => by
    simp only [Rule.findings]
    refine names_descendFindings (fun model depth => names_arriveFindings (fun model => ?_) model depth) subject
    exact Specification.names spec model depth h.1.check_eq_ok h.2
  | .registeredModel, subject, _, _ => by
    simp only [Rule.findings]
    exact names_descendFindings (henter v) subject
  | .each items chain, subject, depth, h => by
    simp only [Rule.findings]
    refine names_collectFindings hforce (fun slot => ?_) _
    exact names_fillFindings (fun subject => Chain.names chain subject (depth + 1) h) false chain slot
  | .eachNullable items chain, subject, depth, h => by
    simp only [Rule.findings]
    refine names_collectFindings hforce (fun slot => ?_) _
    exact names_fillFindings (fun subject => Chain.names chain subject (depth + 1) h) true chain slot

theorem Rules.names {v m : K} : ∀ (rules : Rules K v m) (subject : Subject v m) (depth : Nat), rules.HoldsBuilt →
    Names (rules.findings s enter subject depth)
  | .nil, _, _, _ => .ok .nil
  | .cons rule rest, subject, depth, h => by
    rw [Rules.findings]
    refine .bind fun fs hfs => ?_
    have hrule : Named fs := Rule.names rule subject depth h.1 fs hfs
    split
    · exact .ok hrule
    · exact (Rules.names rest subject depth h.2).pure fun _ hrest => hrule.append hrest

theorem Chain.names {v m : K} : ∀ (chain : Chain K v m) (subject : Subject v m) (depth : Nat), chain.HoldsBuilt →
    Names (chain.findings s enter subject depth)
  | .mk rules _, subject, depth, h => by
    rw [Chain.findings]
    exact (Rules.names rules (s.subject subject) depth h).pure fun _ hfs => hfs.settle _

theorem Scope.names {m : K} : ∀ (scope : Scope K m) (model : Option (Carrier m)) (depth : Nat),
    scope.check = .ok () → scope.HoldsBuilt → Names (scope.findings s enter model depth)
  | .field name part chain, model, depth, hcheck, h => by
    obtain ⟨_, hname, -⟩ := bind_eq_ok.1 hcheck
    have hchain := fun subject => Chain.names chain subject depth h
    rw [Scope.findings]
    exact (names_fillFindings hchain false chain _).pure fun _ hfs => hfs.under (Scope.key_ne_empty hname)
  | .member name part chain, model, depth, hcheck, h => by
    obtain ⟨_, hname, -⟩ := bind_eq_ok.1 hcheck
    have hchain := fun subject => Chain.names chain subject depth h
    rw [Scope.findings]
    exact (names_fillFindings hchain true chain _).pure fun _ hfs => hfs.under (Scope.key_ne_empty hname)
  | .model chain, model, depth, _, h => by
    rw [Scope.findings]
    exact Chain.names chain (modelSubject model) depth h

theorem Specification.names {m : K} : ∀ (spec : Specification K m) (model : Option (Carrier m)) (depth : Nat),
    spec.check = .ok () → spec.HoldsBuilt → Names (spec.findings s enter model depth)
  | .nil, _, _, _, _ => .ok .nil
  | .cons scope rest, model, depth, hcheck, h => by
    obtain ⟨_, hscope, hrest⟩ := bind_eq_ok.1 hcheck
    rw [Specification.findings]
    exact (Scope.names scope model depth hscope h.1).append (Specification.names rest model depth hrest h.2)

end

end Run

section Lookup

variable {s : Settings} {lookup : Lookup K} (hforce : s.forceKey ≠ "")
  (hlookup : ∀ k spec, lookup k = .ok spec → spec.Accepted)

include hforce hlookup

theorem names_findingsWithin (levels : Nat) (k : K) (model : Option (Carrier k)) (depth : Nat) :
    Names (findingsWithin s lookup levels k model depth) := by
  induction levels generalizing k model depth with
  | zero =>
    refine .bind fun spec _ fs hfs => ?_
    cases hfs
  | succ levels ih =>
    refine .bind fun spec hspec => names_arriveFindings (fun model => ?_) model depth
    obtain ⟨hbuilt, hheld⟩ := hlookup k spec hspec
    exact Specification.names hforce ih spec model depth hbuilt.check_eq_ok hheld

theorem names_findings {m : K} {spec : Specification K m} (hspec : spec.Accepted) (model : Option (Carrier m))
    (depth : Nat) : Names (findings s lookup spec model depth) := by
  have hwithin := names_findingsWithin hforce hlookup (s.maxDepth - depth)
  refine names_arriveFindings (fun model => ?_) model depth
  exact Specification.names hforce hwithin spec model depth hspec.1.check_eq_ok hspec.2

end Lookup

/-! ### Results -/

variable [DecidableEq K]

theorem Validator.build_eq_ok {options : Options} {registry : Registry K} {phrasebooks : List Phrasebook}
    {v : Validator K} (h : Validator.build options registry phrasebooks = .ok v) :
    options.check = .ok () ∧ v.options = options ∧ v.registry = registry := by
  obtain ⟨_, hcheck, h⟩ := bind_eq_ok.1 h
  dsimp only at h
  split at h
  · cases h
    exact ⟨hcheck, rfl, rfl⟩
  · cases h

/-- Results of validations by validators that have been built with accepted specifications, some of which their
factories may have given by then; and results merged from such. -/
inductive Issued {k : K} : ValidationResult K k → Prop where
  | validated {options : Options} {registry : Registry K} {phrasebooks : List Phrasebook} {v : Validator K}
      (hregistry : registry.Grown AcceptedOrFault) (hv : Validator.build options registry phrasebooks = .ok v)
      (consulted : List (Consultation K)) (model : Option (Carrier k)) (overrides : Overrides) {r : ValidationResult K k}
      (h : (v.after consulted).validateWith k model overrides = .ok r) : Issued r
  | merged {r other : ValidationResult K k} (h : Issued r) (h' : Issued other) : Issued (r.merge other)

variable {k : K} {r : ValidationResult K k}

theorem Issued.obtained (h : Issued r) : Obtained r := by
  induction h with
  | validated _ _ _ _ _ h => exact .validated _ _ _ h
  | merged _ _ ih ih' => exact .merged ih ih'

theorem accepted_of_lookup {registry : Registry K} (h : registry.Grown AcceptedOrFault) (k : K)
    (spec : Specification K k) (hspec : registry.lookup k = .ok spec) : spec.Accepted := by
  rcases h.lookup k with haccepted | hnone
  · exact haccepted spec hspec
  · rw [hnone] at hspec
    cases hspec

/-- **The errors of a result are findings without empty keys.** -/
theorem Issued.ofFindings (h : Issued r) : ∃ fs, r.errors = ofFindings fs ∧ Named fs := by
  induction h with
  | validated hregistry hv consulted model overrides h =>
    obtain ⟨hcheck, hoptions, rfl⟩ := Validator.build_eq_ok hv
    obtain ⟨spec, hspec, h⟩ := bind_eq_ok.1 h
    obtain ⟨errors, hwalk, h⟩ := bind_eq_ok.1 h
    cases h
    rw [walk_eq_findings] at hwalk
    obtain ⟨fs, hfs, rfl⟩ := map_eq_ok.1 hwalk
    have hlookup := accepted_of_lookup (hregistry.after consulted)
    refine ⟨fs, rfl, names_findings ?_ hlookup (hlookup _ spec hspec) model 0 fs hfs⟩
    exact Options.forceKey_ne_empty (hoptions ▸ hcheck)
  | @merged r other _ _ ih ih' =>
    obtain ⟨fs, hfs, hnamed⟩ := ih
    obtain ⟨gs, hgs, hnamed'⟩ := ih'
    refine ⟨fs ++ gs, ?_, hnamed.append hnamed'⟩
    rw [ValidationResult.merge, hfs, hgs, merge_ofFindings]

theorem mem_of_next? {key : String} : ∀ {place path : List String}, ErrorTree.next? place path = some key → key ∈ path
  | [], [], h => by cases h
  | [], k :: path, h => by
    cases h
    exact List.mem_cons_self
  | _ :: _, [], h => by cases h
  | j :: place, k :: path, h => by
    rw [ErrorTree.next?] at h
    split at h
    · exact List.mem_cons_of_mem k (mem_of_next? h)
    · cases h

theorem keysAt_ofFindings_ne_empty {fs : List Finding} (h : Named fs) (path : List String) :
    "" ∉ (ofFindings fs).keysAt path := by
  intro hmem
  rw [ErrorTree.ofFindings, ErrorTree.keysAt_grouping, List.mem_eraseDups, List.filterMap_map, List.mem_filterMap] at hmem
  obtain ⟨f, hf, hnext⟩ := hmem
  exact h f hf (mem_of_next? hnext)

/-- No member at any place in a result has the empty key. -/
theorem Issued.keysAt_ne_empty (h : Issued r) (path : List String) : "" ∉ r.errors.keysAt path := by
  obtain ⟨fs, hfs, hnamed⟩ := h.ofFindings
  rw [hfs]
  exact keysAt_ofFindings_ne_empty hnamed path

end ModelValidation
