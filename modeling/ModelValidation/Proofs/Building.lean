import Mathlib.Data.List.Duplicate
import ModelValidation.Specification.Building

/-!
# What building accepts and what it refuses

Each check of a chain is made at a place: under a member, for the model as a whole, for the items of a collection, or
for what a value holds.  What a chain may be depends on its place alone.

* `FaultsIn`: the faults of an outcome are of one kind, whatever they are;
* `Scope.WellFormed`: what a scope has to be, said of the list of all chains in it;
* `Scope.Offends`: the faults that a scope gives reason for;
* `Scope.vets_check`, `Specification.vets_check`: the checks accept what is well-formed, and refuse the rest with the
  fault of an offence that is there, in the first scope that has one;
* `Specification.faultsIn_build`: the kind of the faults of building.
-/

set_option linter.unusedSectionVars false

namespace ModelValidation

variable {K : Type} [ValueTypes K]

/-! ### Faults of one kind -/

/-- The faults of the outcome are of a kind. -/
def FaultsIn (P : Fault → Prop) {α : Type} (x : Except Fault α) : Prop := ∀ fault, x = .error fault → P fault

namespace FaultsIn

variable {P : Fault → Prop} {α β : Type}

theorem ok (a : α) : FaultsIn P (.ok a) := by
  intro fault h
  cases h

theorem error {fault : Fault} (h : P fault) : FaultsIn P (.error fault : Except Fault α) := by
  intro fault' h'
  cases h'
  exact h

theorem bind {x : Except Fault α} {f : α → Except Fault β} (h : FaultsIn P x)
    (hf : ∀ a, x = .ok a → FaultsIn P (f a)) : FaultsIn P (x >>= f) := by
  cases x with
  | error fault => exact error (h fault rfl)
  | ok a => exact hf a rfl

/-- An outcome passed on in another form. -/
theorem pure {x : Except Fault α} (h : FaultsIn P x) (g : α → β) : FaultsIn P (do return g (← x)) :=
  h.bind fun a _ => ok (g a)

theorem map {x : Except Fault α} (h : FaultsIn P x) (g : α → β) : FaultsIn P (x.map g) := by
  cases x with
  | error fault => exact error (h fault rfl)
  | ok a => exact ok (g a)

end FaultsIn

/-! ### Places of chains -/

/-- Where a chain stands. -/
inductive Place where
  /-- Under a member. -/
  | member
  /-- For the model as a whole. -/
  | model
  /-- For the items of a collection. -/
  | item
  /-- For what a value holds. -/
  | nullable

/-- A chain with the place where it stands. -/
structure PlacedChain (K : Type) [ValueTypes K] where
  place : Place
  {v m : K}
  chain : Chain K v m

mutual

/-- The chains inside a rule, at every depth. -/
def Rule.chains {v m : K} : Rule K v m → List (PlacedChain K)
  | .valid _ | .relative _ | .model _ | .registeredModel => []
  | .nullable _ chain => ⟨.nullable, chain⟩ :: chain.inner
  | .each _ chain | .eachNullable _ chain => ⟨.item, chain⟩ :: chain.inner

/-- The chains inside rules, at every depth. -/
def Rules.chains {v m : K} : Rules K v m → List (PlacedChain K)
  | .nil => []
  | .cons rule rest => rule.chains ++ rest.chains

/-- The chains inside the rules of a chain, at every depth. -/
def Chain.inner {v m : K} : Chain K v m → List (PlacedChain K)
  | .mk rules _ => rules.chains

end

/-- The commands of the chain, each as often as it is given. -/
def Chain.given {v m : K} (chain : Chain K v m) : List Command := chain.directives.map Directive.command

/-- The names that the chain puts in the place of the member's. -/
def Chain.renames {v m : K} (chain : Chain K v m) : List String :=
  chain.directives.filterMap fun
    | .named name => some name
    | _ => none

/-- The chains of a scope, at every depth. -/
def Scope.chains {m : K} : Scope K m → List (PlacedChain K)
  | .field _ _ chain | .member _ _ chain => ⟨.member, chain⟩ :: chain.inner
  | .model chain => ⟨.model, chain⟩ :: chain.inner

/-- The names that a scope has for its member, as declared and as renamed. -/
def Scope.memberNames {m : K} : Scope K m → List String
  | .field name _ chain | .member name _ chain => name :: chain.renames
  | .model _ => []

/-- What a chain has to be at its place. -/
structure PlacedChain.WellFormed (c : PlacedChain K) : Prop where
  once : c.chain.given.Nodup
  supported : c.place = .model → .optional ∉ c.chain.given ∧ .named ∉ c.chain.given
  unnamed : c.place = .item ∨ c.place = .nullable → .named ∉ c.chain.given
  flat : c.place = .nullable → ∀ rule ∈ c.chain.rules.toList, rule.kind = .valid ∨ rule.kind = .relative

/-- What a scope has to be. -/
structure Scope.WellFormed {m : K} (scope : Scope K m) : Prop where
  named : ∀ name ∈ scope.memberNames, ¬ Text.isBlankText name
  chains : ∀ c ∈ scope.chains, c.WellFormed

/-! ### Offences -/

/-- The faults that a chain gives reason for, in a scope that faults name. -/
inductive PlacedChain.Offends (c : PlacedChain K) (scope : String) : Fault → Prop where
  | repeated {command : Command} (h : List.Duplicate command c.chain.given) :
    Offends c scope (.duplicateCommand command scope)
  | unsupported {command : Command} (hplace : c.place = .model) (hcommand : command = .optional ∨ command = .named)
    (h : command ∈ c.chain.given) : Offends c scope (.unsupportedCommand command scope)
  | renamed (hplace : c.place = .item ∨ c.place = .nullable) (h : .named ∈ c.chain.given) :
    Offends c scope (.renamedNestedChain scope)
  | nested {rule : Rule K c.v c.m} (hplace : c.place = .nullable) (h : rule ∈ c.chain.rules.toList)
    (hkind : ¬ (rule.kind = .valid ∨ rule.kind = .relative)) : Offends c scope (.ruleInNullable rule.kind scope)

/-- Some chain of the list gives reason for the fault. -/
def OffenceIn (cs : List (PlacedChain K)) (scope : String) (fault : Fault) : Prop :=
  ∃ c ∈ cs, c.Offends scope fault

/-- The faults that a scope gives reason for. -/
inductive Scope.Offends {m : K} (scope : Scope K m) : Fault → Prop where
  | blank {name : String} (h : name ∈ scope.memberNames) (hblank : Text.isBlankText name) :
    Offends scope .emptyMemberName
  | chain {fault : Fault} (h : OffenceIn scope.chains scope.name fault) : Offends scope fault

/-- The first scope that gives reason for a fault gives reason for this one. -/
def FirstOffence {m : K} (scopes : List (Scope K m)) (fault : Fault) : Prop :=
  ∃ before scope after, scopes = before ++ scope :: after ∧ (∀ earlier ∈ before, earlier.WellFormed) ∧
    scope.Offends fault

theorem PlacedChain.WellFormed.not_offends {c : PlacedChain K} (h : c.WellFormed) {scope : String} {fault : Fault} :
    ¬ c.Offends scope fault := by
  intro hoffends
  cases hoffends with
  | repeated hduplicate => exact hduplicate.not_nodup h.once
  | unsupported hplace hcommand hgiven =>
    obtain ⟨hoptional, hnamed⟩ := h.supported hplace
    rcases hcommand with rfl | rfl
    · exact hoptional hgiven
    · exact hnamed hgiven
  | renamed hplace hgiven => exact h.unnamed hplace hgiven
  | nested hplace hrule hkind => exact hkind (h.flat hplace _ hrule)

section Offends

variable {m : K} {scope : Scope K m} {fault : Fault}

theorem Scope.WellFormed.not_offends (h : scope.WellFormed) : ¬ scope.Offends fault := by
  intro hoffends
  cases hoffends with
  | blank hname hblank => exact h.named _ hname hblank
  | chain hchain =>
    obtain ⟨c, hc, hoffends⟩ := hchain
    exact (h.chains c hc).not_offends hoffends

/-- What is wrong is how a specification has been put together. -/
def Fault.OfBuilding : Fault → Prop
  | .duplicateCommand _ _ | .unsupportedCommand _ _ | .ruleInNullable _ _ | .renamedNestedChain _ | .emptyMemberName =>
    True
  | _ => False

theorem Scope.Offends.ofBuilding (h : scope.Offends fault) : fault.OfBuilding := by
  cases h with
  | blank => trivial
  | chain hchain =>
    obtain ⟨c, -, hoffends⟩ := hchain
    cases hoffends <;> trivial

/-- The scope that the fault names. -/
def Fault.scope? : Fault → Option String
  | .duplicateCommand _ scope | .unsupportedCommand _ scope | .ruleInNullable _ scope | .renamedNestedChain scope =>
    some scope
  | _ => none

/-- However deep the chain and whatever it renames, the fault has the name that the scope is declared under. -/
theorem Scope.Offends.scope?_eq (h : scope.Offends fault) {name : String} (hname : fault.scope? = some name) :
    name = scope.name := by
  cases h with
  | blank => cases hname
  | chain hchain =>
    obtain ⟨c, -, hoffends⟩ := hchain
    cases hoffends <;> exact (Option.some.inj hname).symm

end Offends

/-! ### Checks that vet -/

/-- The check accepts only what has the property, and refuses with a fault that is called for. -/
structure Vets (P : Prop) (O : Fault → Prop) (x : Except Fault Unit) : Prop where
  sound : x = .ok () → P
  refuses : FaultsIn O x

namespace Vets

variable {P P' : Prop} {O O' : Fault → Prop} {x y : Except Fault Unit}

theorem ok (h : P) : Vets P O (.ok ()) := ⟨fun _ => h, .ok ()⟩

theorem error {fault : Fault} (h : O fault) : Vets P O (.error fault) := ⟨nofun, .error h⟩

/-- A check after one that has passed. -/
theorem andThen (h : Vets P O x) (h' : P → Vets P' O y) : Vets (P ∧ P') O (x >>= fun _ => y) := by
  cases x with
  | error fault => exact .error (h.refuses fault rfl)
  | ok u =>
    have hP : P := h.sound rfl
    exact ⟨fun hy => ⟨hP, (h' hP).sound hy⟩, (h' hP).refuses⟩

theorem imp (h : Vets P O x) (hP : P → P') (hO : ∀ fault, O fault → O' fault) : Vets P' O' x :=
  ⟨fun hx => hP (h.sound hx), fun fault hfault => hO fault (h.refuses fault hfault)⟩

end Vets

/-! ### Single checks -/

theorem Directive.repeated?_go_eq_none {seen : List Command} : ∀ {ds : List Directive}, repeated?.go seen ds = none →
    (ds.map command).Nodup ∧ ∀ c ∈ ds.map command, c ∉ seen
  | [], _ => ⟨List.nodup_nil, nofun⟩
  | d :: ds, h => by
    rw [repeated?.go] at h
    split at h
    · cases h
    · rename_i hseen
      obtain ⟨hnodup, hnew⟩ := repeated?_go_eq_none h
      have hfresh : d.command ∉ ds.map command := fun hd => hnew _ hd List.mem_cons_self
      refine ⟨List.nodup_cons.2 ⟨hfresh, hnodup⟩, List.forall_mem_cons.2 ⟨hseen, fun c hc => ?_⟩⟩
      exact fun hcseen => hnew c hc (List.mem_cons_of_mem _ hcseen)

theorem Directive.repeated?_go_eq_some {seen : List Command} {c : Command} : ∀ {ds : List Directive},
    repeated?.go seen ds = some c → (c ∈ seen ∧ c ∈ ds.map command) ∨ List.Duplicate c (ds.map command)
  | d :: ds, h => by
    rw [repeated?.go] at h
    split at h
    · rename_i hseen
      cases h
      exact .inl ⟨hseen, List.mem_cons_self⟩
    · rcases repeated?_go_eq_some h with ⟨hc, hmem⟩ | hduplicate
      · rcases List.mem_cons.1 hc with rfl | hc
        · exact .inr (.cons_mem hmem)
        · exact .inl ⟨hc, List.mem_cons_of_mem _ hmem⟩
      · exact .inr (.cons_duplicate hduplicate)

section Single

variable {v m : K} (scope : String) (chain : Chain K v m)

theorem Chain.has_iff (command : Command) : chain.has command ↔ command ∈ chain.given := by
  simp only [Chain.has, Chain.given, List.any_eq_true, List.mem_map, decide_eq_true_eq]

theorem Chain.vets_checkRepeated (place : Place) :
    Vets chain.given.Nodup (PlacedChain.Offends ⟨place, chain⟩ scope) (chain.checkRepeated scope) := by
  unfold Chain.checkRepeated
  split
  · rename_i command hrepeated
    rcases Directive.repeated?_go_eq_some hrepeated with ⟨hseen, -⟩ | hduplicate
    · exact absurd hseen List.not_mem_nil
    · exact .error (.repeated hduplicate)
  · rename_i hrepeated
    exact .ok (Directive.repeated?_go_eq_none hrepeated).1

theorem Chain.vets_checkUnnamed {place : Place} (hplace : place = .item ∨ place = .nullable) :
    Vets (.named ∉ chain.given) (PlacedChain.Offends ⟨place, chain⟩ scope) (chain.checkUnnamed scope) := by
  unfold Chain.checkUnnamed
  split
  · rename_i hnamed
    exact .error (.renamed hplace ((chain.has_iff .named).1 hnamed))
  · rename_i hnamed
    exact .ok fun hgiven => hnamed ((chain.has_iff .named).2 hgiven)

theorem Rule.isCheck_iff (rule : Rule K v m) : rule.isCheck ↔ rule.kind = .valid ∨ rule.kind = .relative := by
  simp [Rule.isCheck]

theorem Chain.vets_checkFlat :
    Vets (∀ rule ∈ chain.rules.toList, rule.kind = .valid ∨ rule.kind = .relative)
      (PlacedChain.Offends ⟨.nullable, chain⟩ scope) (chain.checkFlat scope) := by
  unfold Chain.checkFlat
  split
  · rename_i rule hfind
    have hcheck : ¬ rule.isCheck := by simpa using List.find?_some hfind
    exact .error (.nested rfl (List.mem_of_find?_eq_some hfind) (mt rule.isCheck_iff.2 hcheck))
  · rename_i hfind
    have hall : ∀ rule ∈ chain.rules.toList, rule.isCheck := by simpa using hfind
    exact .ok fun rule hrule => rule.isCheck_iff.1 (hall rule hrule)

theorem Chain.vets_checkSupported :
    Vets (.optional ∉ chain.given ∧ .named ∉ chain.given) (PlacedChain.Offends ⟨.model, chain⟩ scope)
      (chain.checkSupported scope) := by
  unfold Chain.checkSupported
  split
  · rename_i command hfind
    have hcommand : command = .optional ∨ command = .named := by simpa using List.mem_of_find?_eq_some hfind
    exact .error (.unsupported rfl hcommand ((chain.has_iff command).1 (List.find?_some hfind)))
  · rename_i hfind
    have hlacks : ∀ command ∈ [Command.optional, .named], command ∉ chain.given := fun command hcommand hgiven =>
      List.find?_eq_none.1 hfind command hcommand ((chain.has_iff command).2 hgiven)
    exact .ok ⟨hlacks .optional (by simp), hlacks .named (by simp)⟩

theorem Chain.mem_renames_iff {name : String} : name ∈ chain.renames ↔ .named name ∈ chain.directives := by
  constructor
  · intro h
    obtain ⟨d, hd, hname⟩ := List.mem_filterMap.1 h
    cases d with
    | named other =>
      cases hname
      exact hd
    | optional | singleError | withMessage => cases hname
  · intro h
    exact List.mem_filterMap.2 ⟨_, h, rfl⟩

theorem Chain.head?_renames : chain.renames.head? = chain.name? := by
  rw [Chain.renames, List.head?_filterMap]
  rfl

theorem Chain.mem_renames_of_name? {name : String} (h : chain.name? = some name) : name ∈ chain.renames :=
  List.mem_of_mem_head? (chain.head?_renames.trans h)

/-- A chain that gives no command twice renames at most once. -/
theorem Chain.name?_eq_of_mem_renames {name : String} (honce : chain.given.Nodup) (h : name ∈ chain.renames) :
    chain.name? = some name := by
  cases hother : chain.name? with
  | none =>
    have hnil : chain.renames = [] := List.head?_eq_none_iff.1 (chain.head?_renames.trans hother)
    exact absurd h (hnil ▸ List.not_mem_nil)
  | some other =>
    have hsame : Directive.named other = .named name :=
      List.inj_on_of_nodup_map honce (chain.mem_renames_iff.1 (chain.mem_renames_of_name? hother))
        (chain.mem_renames_iff.1 h) rfl
    rw [Directive.named.inj hsame]

theorem Scope.vets_checkName (name : String) :
    Vets (¬ Text.isBlankText name ∧ ∀ other, chain.name? = some other → ¬ Text.isBlankText other)
      (fun fault => fault = .emptyMemberName ∧ ∃ other ∈ name :: chain.renames, Text.isBlankText other)
      (Scope.checkName name chain) := by
  unfold Scope.checkName
  split
  · rename_i hblank
    refine .error ⟨rfl, ?_⟩
    rcases Bool.or_eq_true_iff.1 hblank with hname | hother
    · exact ⟨name, List.mem_cons_self, hname⟩
    · cases hname : chain.name? with
      | none =>
        rw [hname] at hother
        cases hother
      | some other =>
        rw [hname] at hother
        exact ⟨other, List.mem_cons_of_mem _ (chain.mem_renames_of_name? hname), hother⟩
  · rename_i hblank
    rw [Bool.or_eq_true_iff, not_or] at hblank
    refine .ok ⟨hblank.1, fun other hother => ?_⟩
    rw [hother] at hblank
    exact hblank.2

end Single

/-! ### Rules, chains and scopes -/

/-- A check of all chains of a list. -/
def VetsAll (scope : String) (cs : List (PlacedChain K)) (x : Except Fault Unit) : Prop :=
  Vets (∀ c ∈ cs, c.WellFormed) (OffenceIn cs scope) x

section Vets

variable {P : Prop} {x : Except Fault Unit} {scope : String} {c : PlacedChain K} {cs ds : List (PlacedChain K)}

/-- A check of the chain in front. -/
theorem Vets.atHead (h : Vets P (c.Offends scope) x) (cs : List (PlacedChain K)) :
    Vets P (OffenceIn (c :: cs) scope) x :=
  h.imp id fun _ hoffends => ⟨c, List.mem_cons_self, hoffends⟩

/-- A check of some of the chains. -/
theorem Vets.within (h : Vets P (OffenceIn cs scope) x) (hsub : cs ⊆ ds) : Vets P (OffenceIn ds scope) x :=
  h.imp id fun _ ⟨c, hc, hoffends⟩ => ⟨c, hsub hc, hoffends⟩

end Vets

section Placed

variable {v m : K} {scope : String} {chain : Chain K v m}

/-- What the checks that all places have in common say of a chain and the chains inside it. -/
def Chain.VetsAt (scope : String) (place : Place) (chain : Chain K v m) : Prop :=
  Vets (chain.given.Nodup ∧ ∀ c ∈ chain.inner, c.WellFormed) (OffenceIn (⟨place, chain⟩ :: chain.inner) scope)
    (chain.check scope)

theorem Chain.VetsAt.member (h : chain.VetsAt scope .member) :
    VetsAll scope (⟨.member, chain⟩ :: chain.inner) (chain.check scope) :=
  h.imp (fun ⟨honce, hinner⟩ => List.forall_mem_cons.2 ⟨⟨honce, nofun, nofun, nofun⟩, hinner⟩) fun _ => id

theorem Chain.VetsAt.model (h : chain.VetsAt scope .model) :
    VetsAll scope (⟨.model, chain⟩ :: chain.inner) (do chain.check scope; chain.checkSupported scope) := by
  refine (h.andThen fun _ => (chain.vets_checkSupported scope).atHead _).imp ?_ fun _ => id
  rintro ⟨⟨honce, hinner⟩, hsupported⟩
  exact List.forall_mem_cons.2 ⟨⟨honce, fun _ => hsupported, nofun, nofun⟩, hinner⟩

theorem Chain.VetsAt.item (h : chain.VetsAt scope .item) :
    VetsAll scope (⟨.item, chain⟩ :: chain.inner) (do chain.check scope; chain.checkUnnamed scope) := by
  refine (h.andThen fun _ => (chain.vets_checkUnnamed scope (.inl rfl)).atHead _).imp ?_ fun _ => id
  rintro ⟨⟨honce, hinner⟩, hunnamed⟩
  exact List.forall_mem_cons.2 ⟨⟨honce, nofun, fun _ => hunnamed, nofun⟩, hinner⟩

theorem Chain.VetsAt.nullable (h : chain.VetsAt scope .nullable) :
    VetsAll scope (⟨.nullable, chain⟩ :: chain.inner)
      (do chain.check scope; chain.checkUnnamed scope; chain.checkFlat scope) := by
  have hunnamed := (chain.vets_checkUnnamed scope (.inr rfl)).atHead chain.inner
  have hflat := (chain.vets_checkFlat scope).atHead chain.inner
  refine (h.andThen fun _ => hunnamed.andThen fun _ => hflat).imp ?_ fun _ => id
  rintro ⟨⟨honce, hinner⟩, hunnamed, hflat⟩
  exact List.forall_mem_cons.2 ⟨⟨honce, nofun, fun _ => hunnamed, fun _ => hflat⟩, hinner⟩

end Placed

mutual

theorem Rule.vets_check (scope : String) {v m : K} : ∀ rule : Rule K v m, VetsAll scope rule.chains (rule.check scope)
  | .valid _ | .relative _ | .model _ | .registeredModel => .ok nofun
  | .nullable _ chain => by
    rw [Rule.check, Rule.chains]
    exact (Chain.vets_check scope .nullable chain).nullable
  | .each _ chain => by
    rw [Rule.check, Rule.chains]
    exact (Chain.vets_check scope .item chain).item
  | .eachNullable _ chain => by
    rw [Rule.check, Rule.chains]
    exact (Chain.vets_check scope .item chain).item

theorem Rules.vets_check (scope : String) {v m : K} :
    ∀ rules : Rules K v m, VetsAll scope rules.chains (rules.check scope)
  | .nil => .ok nofun
  | .cons rule rest => by
    rw [Rules.check, Rules.chains]
    have hrule := (Rule.vets_check scope rule).within (List.subset_append_left _ rest.chains)
    have hrest := (Rules.vets_check scope rest).within (List.subset_append_right rule.chains _)
    exact (hrule.andThen fun _ => hrest).imp (fun h => List.forall_mem_append.2 h) fun _ => id

theorem Chain.vets_check (scope : String) (place : Place) {v m : K} : ∀ chain : Chain K v m, chain.VetsAt scope place
  | .mk rules directives => by
    rw [Chain.VetsAt, Chain.check, Chain.inner]
    have honce := (Chain.vets_checkRepeated scope (.mk rules directives) place).atHead rules.chains
    have hrules := (Rules.vets_check scope rules).within (List.subset_cons_self ⟨place, .mk rules directives⟩ _)
    exact honce.andThen fun _ => hrules

end

/-- A member's check vets the scope: its names first, then its chains. -/
theorem Chain.vets_member {v m : K} (chain : Chain K v m) {scope : Scope K m} {name : String}
    (hname : scope.name = name) (hnames : scope.memberNames = name :: chain.renames)
    (hchains : scope.chains = ⟨.member, chain⟩ :: chain.inner) :
    Vets scope.WellFormed scope.Offends (do Scope.checkName name chain; chain.check name) := by
  have hmember : Vets _ scope.Offends _ := (Chain.vets_check name .member chain).member.imp id fun _ hoffence =>
    .chain (hname ▸ hchains ▸ hoffence)
  have hblank : Vets _ scope.Offends _ :=
    (Scope.vets_checkName chain name).imp id fun _ ⟨hfault, other, hother, hblank⟩ =>
      hfault ▸ .blank (hnames ▸ hother) hblank
  refine (hblank.andThen fun _ => hmember).imp ?_ fun _ => id
  rintro ⟨⟨hdeclared, hrenamed⟩, hwell⟩
  refine ⟨?_, hchains ▸ hwell⟩
  rw [hnames]
  refine List.forall_mem_cons.2 ⟨hdeclared, fun other hother => hrenamed other ?_⟩
  -- only the first name is looked at, and there is no second one in a chain that has passed
  exact chain.name?_eq_of_mem_renames (hwell _ List.mem_cons_self).once hother

/-- **The check of a scope accepts well-formed scopes only, and refuses with the fault of an offence in the scope.** -/
theorem Scope.vets_check {m : K} : ∀ scope : Scope K m, Vets scope.WellFormed scope.Offends scope.check
  | .field _ _ chain => chain.vets_member rfl rfl rfl
  | .member _ _ chain => chain.vets_member rfl rfl rfl
  | .model chain => by
    have hmodel := (Chain.vets_check modelScopeName .model chain).model
    exact hmodel.imp (fun hwell => ⟨nofun, hwell⟩) fun _ hoffence => Scope.Offends.chain hoffence

/-- **The check of scopes refuses them for the first one with an offence.** -/
theorem Specification.vets_check {m : K} : ∀ spec : Specification K m,
    Vets (∀ scope ∈ spec.toList, scope.WellFormed) (FirstOffence spec.toList) spec.check
  | .nil => .ok nofun
  | .cons scope rest => by
    have hscope : Vets _ (FirstOffence (scope :: rest.toList)) _ := scope.vets_check.imp id fun _ hoffends =>
      ⟨[], scope, rest.toList, rfl, nofun, hoffends⟩
    have hrest (hwell : scope.WellFormed) : Vets _ (FirstOffence (scope :: rest.toList)) _ :=
      rest.vets_check.imp id fun _ ⟨before, offender, after, hsplit, hbefore, hoffends⟩ =>
        ⟨scope :: before, offender, after, congrArg (scope :: ·) hsplit, List.forall_mem_cons.2 ⟨hwell, hbefore⟩,
          hoffends⟩
    exact (hscope.andThen hrest).imp List.forall_mem_cons.2 fun _ => id

theorem Specification.faultsIn_build {m : K} (scopes : List (Scope K m)) :
    FaultsIn Fault.OfBuilding (Specification.build scopes) := by
  refine FaultsIn.pure (fun fault hfault => ?_) fun _ => Specification.ofList scopes
  obtain ⟨-, scope, -, -, -, hoffends⟩ := (Specification.ofList scopes).vets_check.refuses fault hfault
  exact hoffends.ofBuilding

end ModelValidation
