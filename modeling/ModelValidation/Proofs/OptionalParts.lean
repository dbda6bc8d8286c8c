import ModelValidation.Proofs.Composition
import ModelValidation.Proofs.Directives

/-!
# Parts that may hold nothing

A part of a model that is always there may hold something or nothing.  A chain for what it holds can be given in two
places: inside the one rule of a field for the part, or as the chain of an optional member that is missing where the
part holds nothing.  The two take different ways through a walk, one through a rule and a second chain, the other
through a slot that may be vacant.

* `Chain.walk_of_checks`: a chain of checks never fails, and its errors are all right at its place;
* `Scope.Interchangeable.walk_eq`: of scopes that cannot be told apart, one may stand where the other one stood;
* `nullable_field_eq_optional_member`: a field and a member with the chain in these places cannot be told apart.
-/

set_option linter.unusedSectionVars false

namespace ModelValidation

variable {K : Type} [ValueTypes K] {v t m : K}

/-! ### Chains of checks -/

@[simp] theorem Settings.members_verdict (s : Settings) (error : Option ValidationError) (passed : Bool) :
    (s.verdict error passed).members = [] := by
  cases passed <;> rfl

/-- A tree without members stays as it is where a node without errors takes it up. -/
theorem ErrorTree.empty_absorb {tree : ErrorTree} (h : tree.members = []) : empty.absorb tree = tree := by
  obtain ⟨es, ms⟩ := tree
  obtain rfl : ms = [] := h
  rfl

section Checks

variable {s : Settings} {enter : Entrance K}

/-- A check gives a verdict, whatever it is applied to. -/
theorem Rule.walk_of_check {rule : Rule K v m} (hcheck : rule.kind = .valid ∨ rule.kind = .relative)
    (subject : Subject v m) (depth : Nat) :
    ∃ error passed, rule.walk s enter subject depth = .ok (s.verdict error passed) := by
  cases rule with
  | valid check =>
    cases subject with
    | present value model => exact ⟨check.error, check.holds value, by rw [Rule.walk]⟩
    | forced => exact ⟨check.error, false, by rw [Rule.walk]⟩
  | relative check =>
    cases subject with
    | present value model => exact ⟨check.error, check.holds model, by rw [Rule.walk]⟩
    | forced => exact ⟨check.error, false, by rw [Rule.walk]⟩
  | nullable | model | registeredModel | each | eachNullable => simp [Rule.kind] at hcheck

theorem Rules.walk_of_checks {subject : Subject v m} {depth : Nat} : ∀ {rules : Rules K v m},
    (∀ rule ∈ rules.toList, rule.kind = .valid ∨ rule.kind = .relative) →
    ∀ (failed : Bool) {node : ErrorTree}, node.members = [] → ∃ failed' tree,
      rules.walk s enter subject depth failed node = .ok (failed', tree) ∧ tree.members = []
  | .nil, _, failed, node, hnode => by
    rw [Rules.walk]
    exact ⟨failed, node, rfl, hnode⟩
  | .cons rule rest, hchecks, failed, node, hnode => by
    obtain ⟨hrule, hrest⟩ := List.forall_mem_cons.1 hchecks
    obtain ⟨error, passed, hverdict⟩ := Rule.walk_of_check hrule subject depth
    have habsorb : (node.absorb (s.verdict error passed)).members = [] := by
      rw [ErrorTree.absorb_eq, hnode, s.members_verdict]
      rfl
    rw [Rules.walk, hverdict]
    by_cases hstop : s.strategy = .failFast ∧ (s.verdict error passed).isEmpty = false
    · exact ⟨_, _, if_pos hstop, habsorb⟩
    · obtain ⟨failed', tree, hwalk, htree⟩ :=
        walk_of_checks hrest (failed || !(s.verdict error passed).isEmpty) habsorb
      exact ⟨failed', tree, (if_neg hstop).trans hwalk, htree⟩

/-- What directives do to errors adds no members. -/
theorem Chain.members_finish (chain : Chain K v m) (failed : Bool) {tree : ErrorTree} (h : tree.members = []) :
    (chain.finish failed tree).members = [] := by
  rw [Chain.finish]
  cases chain.singleError? with
  | none => cases chain.message? <;> exact h
  | some e =>
    cases failed with
    | false => cases chain.message? <;> exact h
    | true => cases chain.message? <;> rfl

/-- **A chain of checks never fails, and its errors are all right at its place.** -/
theorem Chain.walk_of_checks {chain : Chain K v m}
    (hchecks : ∀ rule ∈ chain.rules.toList, rule.kind = .valid ∨ rule.kind = .relative) (subject : Subject v m)
    (depth : Nat) : ∃ tree, chain.walk s enter subject depth = .ok tree ∧ tree.members = [] := by
  obtain ⟨failed, found, hwalk, hfound⟩ : ∃ failed found,
      chain.rules.walk s enter (s.subject subject) depth false .empty = .ok (failed, found) ∧ found.members = [] :=
    Rules.walk_of_checks hchecks false rfl
  refine ⟨chain.finish failed found, ?_, chain.members_finish failed hfound⟩
  rw [Chain.walk_eq_map, hwalk]
  rfl

end Checks

/-! ### One rule around a chain -/

/-- A chain of one rule without directives has the errors of the rule. -/
theorem Chain.walk_single (s : Settings) (enter : Entrance K) (rule : Rule K v m) (subject : Subject v m)
    (depth : Nat) :
    (Chain.mk (.cons rule .nil) []).walk s enter subject depth =
      (rule.walk s enter (s.subject subject) depth).map ErrorTree.empty.absorb := by
  rw [Chain.walk, Rules.walk]
  cases rule.walk s enter (s.subject subject) depth with
  | error fault => rfl
  | ok tree =>
    by_cases hstop : s.strategy = .failFast ∧ tree.isEmpty = false
    · simp only [bind, Except.bind, hstop, and_self, ↓reduceIte]
      rfl
    · simp only [bind, Except.bind, hstop, ↓reduceIte, Rules.walk]
      rfl

/-! ### Optional chains -/

/-- The chain with a missing value being no error. -/
def Chain.madeOptional (chain : Chain K v m) : Chain K v m :=
  if chain.isOptional then chain else chain.withDirective .optional

section MadeOptional

variable {chain : Chain K v m}

/-- Either the chain is optional already, or the directive is new to it. -/
theorem Chain.madeOptional_cases :
    chain.isOptional = true ∧ chain.madeOptional = chain ∨
      Command.optional ∉ chain.given ∧ chain.madeOptional = chain.withDirective .optional := by
  by_cases h : chain.isOptional
  · exact .inl ⟨h, if_pos h⟩
  · exact .inr ⟨mt (chain.has_iff .optional).2 h, if_neg h⟩

theorem Chain.isOptional_madeOptional : chain.madeOptional.isOptional = true := by
  rcases chain.madeOptional_cases with ⟨hoptional, heq⟩ | ⟨hnew, heq⟩
  · rw [heq, hoptional]
  · rw [heq]
    exact Chain.isOptional_iff.2 (Chain.directive?_withDirective_self hnew)

theorem Chain.rules_madeOptional : chain.madeOptional.rules = chain.rules := by
  rcases chain.madeOptional_cases with ⟨-, heq⟩ | ⟨-, heq⟩
  · rw [heq]
  · rw [heq, Chain.rules_withDirective]

theorem Chain.directive?_madeOptional {command : Command} (hne : Directive.optional.command ≠ command) :
    chain.madeOptional.directive? command = chain.directive? command := by
  rcases chain.madeOptional_cases with ⟨-, heq⟩ | ⟨-, heq⟩
  · rw [heq]
  · rw [heq, Chain.directive?_withDirective_of_ne hne]

/-- What is there is walked through as before. -/
theorem Chain.walk_madeOptional (s : Settings) (enter : Entrance K) (subject : Subject v m) (depth : Nat) :
    chain.madeOptional.walk s enter subject depth = chain.walk s enter subject depth :=
  Chain.walk_eq_of_finish Chain.rules_madeOptional
    (Chain.finish_congr (Chain.singleError?_congr (Chain.directive?_madeOptional nofun))
      (Chain.message?_congr (Chain.directive?_madeOptional nofun))) s enter subject depth

theorem Chain.name?_madeOptional (hunnamed : Command.named ∉ chain.given) : chain.madeOptional.name? = none := by
  rw [Chain.name?_congr (Chain.directive?_madeOptional nofun), Chain.name?_eq_none hunnamed]

theorem Chain.nodup_given_madeOptional (honce : chain.given.Nodup) : chain.madeOptional.given.Nodup := by
  rcases chain.madeOptional_cases with ⟨-, heq⟩ | ⟨hnew, heq⟩
  · rwa [heq]
  · rw [heq, Chain.given, Chain.directives_withDirective, List.map_append]
    exact honce.append (List.nodup_singleton _) (List.disjoint_singleton.2 hnew)

end MadeOptional

/-! ### The two places of a chain -/

/-- The chain of one rule, which is another chain for what a value holds. -/
def Chain.nullable (content : Carrier v → Option (Carrier t)) (chain : Chain K t m) : Chain K v m :=
  .mk (.cons (.nullable content chain) .nil) []

/-- A member for what a part holds, missing where the part holds nothing. -/
def Scope.held (name : String) (part : Accessor (Carrier m) (Carrier v))
    (content : Carrier v → Option (Carrier t)) (chain : Chain K t m) : Scope K m :=
  .member name ⟨part.label, fun model => content (part.read model)⟩ chain

/-- The scopes pass the same checks, and from every tree on a walk leaves the same tree behind or fails alike. -/
structure Scope.Interchangeable (a b : Scope K m) : Prop where
  check : a.check = b.check
  walk : ∀ (s : Settings) (enter : Entrance K) (model : Option (Carrier m)) (depth : Nat) (root : ErrorTree),
    a.walk s enter (s.seen model) depth root = b.walk s enter (s.seen model) depth root

/-! ### Scopes that stand for one another -/

/-- An arrival makes use of the model that the walk goes by, and of no other. -/
theorem arrive_eq_of_seen {s : Settings} {run run' : Option (Carrier m) → Except Fault ErrorTree}
    {model : Option (Carrier m)} (h : run (s.seen model) = run' (s.seen model)) (depth : Nat) :
    arrive s run model depth = arrive s run' model depth := by
  unfold arrive
  unfold Settings.seen at h
  by_cases hforced : s.isForced
  · simp only [hforced, ↓reduceIte] at h ⊢
    rw [h]
  · simp only [hforced, Bool.false_eq_true, ↓reduceIte] at h ⊢
    cases model with
    | none => rfl
    | some model => exact congrArg _ (funext fun _ => h)

namespace Scope.Interchangeable

variable {a b : Scope K m}

theorem walkScopes_eq (h : a.Interchangeable b) (s : Settings) (enter : Entrance K) (before after : List (Scope K m))
    (model : Option (Carrier m)) (depth : Nat) : ∀ root,
    (Specification.ofList (before ++ a :: after)).walkScopes s enter (s.seen model) depth root =
      (Specification.ofList (before ++ b :: after)).walkScopes s enter (s.seen model) depth root := by
  induction before with
  | nil =>
    intro root
    rw [List.nil_append, List.nil_append, Specification.ofList, Specification.ofList, Specification.walkScopes,
      Specification.walkScopes, h.walk]
  | cons first before ih =>
    intro root
    rw [List.cons_append, List.cons_append, Specification.ofList, Specification.ofList, Specification.walkScopes,
      Specification.walkScopes]
    exact congrArg _ (funext ih)

/-- **Of scopes that cannot be told apart, one may stand where the other one stood.** -/
theorem walk_eq (h : a.Interchangeable b) (s : Settings) (lookup : Lookup K) (before after : List (Scope K m))
    (model : Option (Carrier m)) (depth : Nat) :
    ModelValidation.walk s lookup (.ofList (before ++ a :: after)) model depth =
      ModelValidation.walk s lookup (.ofList (before ++ b :: after)) model depth := by
  unfold ModelValidation.walk Specification.walk
  exact arrive_eq_of_seen (h.walkScopes_eq s _ before after model depth .empty) depth

end Scope.Interchangeable

/-! ### Both places are alike -/

section Nullable

variable {chain : Chain K t m}

section Slots

variable (hchecks : ∀ rule ∈ chain.rules.toList, rule.kind = .valid ∨ rule.kind = .relative)
include hchecks

/-- What a node without errors takes up from a chain of checks is what the chain finds. -/
theorem Chain.map_empty_absorb (s : Settings) (enter : Entrance K) (subject : Subject t m) (depth : Nat) :
    (chain.walk s enter subject depth).map ErrorTree.empty.absorb = chain.walk s enter subject depth := by
  obtain ⟨tree, hwalk, hmembers⟩ := Chain.walk_of_checks (s := s) hchecks subject depth
  rw [hwalk]
  exact congrArg Except.ok (ErrorTree.empty_absorb hmembers)

/-- Neither place has a required error where every check fails. -/
theorem Chain.walkSlot_nullable_forced (content : Carrier v → Option (Carrier t)) (s : Settings) (enter : Entrance K)
    (depth : Nat) :
    (chain.nullable content).walkSlot s enter false .forced depth =
      chain.madeOptional.walkSlot s enter true .forced depth := by
  have hwalk : (chain.nullable content).walk s enter .forced depth = chain.walk s enter .forced depth := by
    rw [Chain.nullable, Chain.walk_single, s.subject_forced, Rule.walk, Chain.map_empty_absorb hchecks]
  rw [Chain.walkSlot, Chain.walkSlot, Chain.fill, Chain.fill, hwalk, Chain.walk_madeOptional,
    Chain.isOptional_madeOptional]
  rfl

/-- Both places have the errors of what is held, and none if nothing is. -/
theorem Chain.walkSlot_nullable_present (content : Carrier v → Option (Carrier t)) {s : Settings}
    (hs : s.strategy ≠ .force) (enter : Entrance K) (value : Carrier v) (model : Carrier m) (depth : Nat) :
    (chain.nullable content).walkSlot s enter false (.present value model) depth =
      chain.madeOptional.walkSlot s enter true
        (match content value with
          | some inner => .present inner model
          | none => .absent) depth := by
  rw [Chain.walkSlot, Chain.fill, Chain.nullable, Chain.walk_single, Settings.subject_of_ne_force hs, Rule.walk]
  cases content value with
  | none =>
    rw [Chain.walkSlot, Chain.fill, Chain.isOptional_madeOptional]
    rfl
  | some inner =>
    rw [Chain.walkSlot, Chain.fill, Chain.walk_madeOptional]
    exact Chain.map_empty_absorb hchecks s enter _ depth

end Slots

theorem Scope.walk_nullable (hwell : (⟨.nullable, chain⟩ : PlacedChain K).WellFormed) (name : String)
    (part : Accessor (Carrier m) (Carrier v)) (content : Carrier v → Option (Carrier t)) (s : Settings)
    (enter : Entrance K) (model : Option (Carrier m)) (depth : Nat) (root : ErrorTree) :
    (Scope.field name part (chain.nullable content)).walk s enter (s.seen model) depth root =
      (Scope.held name part content chain.madeOptional).walk s enter (s.seen model) depth root := by
  have hname : chain.madeOptional.name? = none := Chain.name?_madeOptional (hwell.unnamed (.inr rfl))
  rw [Scope.held]
  cases hseen : s.seen model with
  | none =>
    have hslot := Chain.walkSlot_nullable_forced (hwell.flat rfl) content s enter depth
    rw [Chain.walkSlot, Chain.walkSlot] at hslot
    simp only [Scope.walk, hslot, hname]
    rfl
  | some present =>
    -- a walk that goes by a model is not forced
    have hs : s.strategy ≠ .force := by
      intro hforce
      simp [Settings.seen, Settings.isForced, hforce] at hseen
    have hslot := Chain.walkSlot_nullable_present (hwell.flat rfl) content hs enter (part.read present) present depth
    rw [Chain.walkSlot, Chain.walkSlot] at hslot
    simp only [Scope.walk, hslot, hname]
    rfl

/-! ### Building -/

theorem Chain.check_eq_ok_iff {scope : String} :
    chain.check scope = .ok () ↔ chain.given.Nodup ∧ chain.rules.check scope = .ok () := by
  obtain ⟨rules, directives⟩ := chain
  rw [Chain.check]
  constructor
  · intro h
    obtain ⟨u, hrepeated, hrules⟩ := bind_eq_ok.1 h
    exact ⟨(Chain.vets_checkRepeated scope _ .nullable).sound hrepeated, hrules⟩
  · rintro ⟨honce, hrules⟩
    have hrepeated : Directive.repeated? (Chain.mk rules directives).directives = none :=
      Directive.repeated?_eq_none_iff.2 honce
    rw [Chain.checkRepeated, hrepeated]
    exact hrules

/-- Building looks at the name and at nothing else that could be wrong. -/
theorem Scope.check_nullable {name : String} {content : Carrier v → Option (Carrier t)}
    (haccepted : (Rule.nullable content chain : Rule K v m).check name = .ok ())
    (hunnamed : Command.named ∉ chain.given) (part : Accessor (Carrier m) (Carrier v)) :
    (Scope.field name part (chain.nullable content)).check =
      (Scope.held name part content chain.madeOptional).check := by
  have hinner : chain.madeOptional.check name = .ok () := by
    rw [Rule.check] at haccepted
    obtain ⟨u, hcheck, -⟩ := bind_eq_ok.1 haccepted
    obtain ⟨honce, hrules⟩ := Chain.check_eq_ok_iff.1 hcheck
    refine Chain.check_eq_ok_iff.2 ⟨Chain.nodup_given_madeOptional honce, ?_⟩
    rwa [Chain.rules_madeOptional]
  have houter : (chain.nullable content).check name = .ok () := by
    refine Chain.check_eq_ok_iff.2 ⟨List.nodup_nil, ?_⟩
    rw [Chain.nullable, Chain.rules, Rules.check, haccepted]
    rfl
  have hname : chain.madeOptional.name? = none := Chain.name?_madeOptional hunnamed
  rw [Scope.held, Scope.check, Scope.check, houter, hinner, Scope.checkName, Scope.checkName, hname]
  rfl

end Nullable

/-- **A field that may hold nothing is an optional member.**  Say that building accepts a chain for what a part holds
inside a rule.  Then a field for the part with that one rule cannot be told from a member for what the part holds with
the chain made optional: building accepts the one where it accepts the other; from every model, depth and tree on a walk
leaves the same tree behind or fails alike, under every strategy; and so it does with any scopes before and behind. -/
theorem nullable_field_eq_optional_member {name : String} {content : Carrier v → Option (Carrier t)}
    {chain : Chain K t m} (haccepted : (Rule.nullable content chain : Rule K v m).check name = .ok ())
    (part : Accessor (Carrier m) (Carrier v)) :
    (Scope.field name part (chain.nullable content)).Interchangeable (.held name part content chain.madeOptional) ∧
    ∀ (s : Settings) (lookup : Lookup K) (before after : List (Scope K m)) (model : Option (Carrier m)) (depth : Nat),
      walk s lookup (.ofList (before ++ .field name part (chain.nullable content) :: after)) model depth =
        walk s lookup (.ofList (before ++ .held name part content chain.madeOptional :: after)) model depth := by
  have hwell : (⟨.nullable, chain⟩ : PlacedChain K).WellFormed :=
    (Rule.vets_check name _).sound haccepted _ List.mem_cons_self
  have hsame : (Scope.field name part (chain.nullable content)).Interchangeable
      (.held name part content chain.madeOptional) :=
    ⟨Scope.check_nullable haccepted (hwell.unnamed (.inr rfl)) part, Scope.walk_nullable hwell name part content⟩
  exact ⟨hsame, hsame.walk_eq⟩

namespace Employee

/-- The deputy who stands first, if one is known. -/
def firstDeputy (staff : List (Option Employee)) : Option Employee := staff.head?.join

/-- An employee whose deputy has a long name. -/
def chief : Employee := ⟨"Chief", [], [some withDeputies]⟩

/-- The first deputy has a short name, said inside a rule. -/
def deputyRule : Rule StaffType .staff .employee := .nullable (t := StaffType.employee) firstDeputy briefChain

/-- The first deputy has a short name, said of a member. -/
def deputyMember : Scope StaffType .employee :=
  .held (v := StaffType.staff) (t := StaffType.employee) "Deputy" ⟨"deputies", deputies⟩ firstDeputy
    briefChain.madeOptional

theorem nullable_field_eq_optional_member_deputy :
    deputyRule.check "Deputy" = .ok () ∧
    walk settings registry.lookup (.ofList [deputyMember, .model briefChain]) (some chief) 0 =
      .ok (.node [] [("Deputy", .ofError (.ofTemplate "Brief"))]) := by
  have haccepted : deputyRule.check "Deputy" = .ok () := by rfl
  obtain ⟨-, hwalk⟩ := nullable_field_eq_optional_member haccepted ⟨"deputies", deputies⟩
  refine ⟨haccepted, (hwalk settings registry.lookup [] [.model briefChain] (some chief) 0).symm.trans ?_⟩
  rfl

end Employee

end ModelValidation
