import Mathlib.Data.List.Induction
import ModelValidation.Proofs.Building
import ModelValidation.Proofs.Findings

/-!
# Chains by their declarations

A chain is declared in steps, each of which gives a rule or a directive.  The rules stay in order; of the directives
only the first one of each command counts, wherever it stands.

* `Chain.ofSteps_eq`: a chain has the rules and the directives of its steps, each in their order;
* `firstGiven_iff`, `firstRepeated_iff`: the directives that count, and the command that is refused, step by step;
* `Chain.interchangeable`: chains with the same rules and the same first directives cannot be told apart;
* `declaration_order_irrelevant`: so it makes no difference where the directives stand among the rules.
-/

set_option linter.unusedSectionVars false

namespace ModelValidation

variable {K : Type} [ValueTypes K] {v m : K}

/-! ### Steps -/

namespace ChainStep

/-- The rule that the step gives. -/
def rule? : ChainStep K v m → Option (Rule K v m)
  | .rule r => some r
  | .directive _ => none

/-- The directive that the step gives. -/
def directive? : ChainStep K v m → Option Directive
  | .rule _ => none
  | .directive d => some d

/-- The command that the step gives. -/
def command? (step : ChainStep K v m) : Option Command := step.directive?.map Directive.command

theorem directive?_eq_some_iff {step : ChainStep K v m} {d : Directive} :
    step.directive? = some d ↔ step = .directive d := by
  cases step <;> simp [directive?]

theorem any_directive?_iff {step : ChainStep K v m} {command : Command} :
    step.directive?.any (fun d => decide (d.command = command)) = true ↔ step.command? = some command := by
  cases step <;> simp [directive?, command?]

end ChainStep

/-- The commands that steps give, each as often as it is given. -/
def commandsGiven (steps : List (ChainStep K v m)) : List Command := steps.filterMap ChainStep.command?

/-- The directive is the first one of its command. -/
def FirstGiven (steps : List (ChainStep K v m)) (directive : Directive) : Prop :=
  ∃ before after, steps = before ++ .directive directive :: after ∧ directive.command ∉ commandsGiven before

/-- The command is the first one that is given again. -/
def FirstRepeated (steps : List (ChainStep K v m)) (command : Command) : Prop :=
  ∃ before directive after, steps = before ++ .directive directive :: after ∧ directive.command = command ∧
    command ∈ commandsGiven before ∧ (commandsGiven before).Nodup

/-- **A chain has the rules and the directives of its steps**, each in their order. -/
theorem Chain.ofSteps_eq (steps : List (ChainStep K v m)) :
    Chain.ofSteps steps = .mk (.ofList (steps.filterMap ChainStep.rule?)) (steps.filterMap ChainStep.directive?) := by
  induction steps using List.reverseRecOn with
  | nil => rfl
  | append_singleton steps step ih =>
    have hstep : Chain.ofSteps (steps ++ [step]) = (Chain.ofSteps steps).withStep step := List.foldl_append
    rw [hstep, ih, List.filterMap_append, List.filterMap_append]
    cases step with
    | rule rule =>
      have hnone : [ChainStep.rule rule].filterMap ChainStep.directive? = [] := rfl
      rw [hnone, List.append_nil, Chain.withStep, Chain.withRule, Rules.toList_ofList]
      rfl
    | directive directive =>
      have hnone : [(ChainStep.directive directive : ChainStep K v m)].filterMap ChainStep.rule? = [] := rfl
      rw [hnone, List.append_nil]
      rfl

theorem Chain.rules_ofSteps (steps : List (ChainStep K v m)) :
    (Chain.ofSteps steps).rules = .ofList (steps.filterMap ChainStep.rule?) := by
  rw [Chain.ofSteps_eq]
  rfl

theorem Chain.directives_ofSteps (steps : List (ChainStep K v m)) :
    (Chain.ofSteps steps).directives = steps.filterMap ChainStep.directive? := by
  rw [Chain.ofSteps_eq]
  rfl

theorem given_ofSteps (steps : List (ChainStep K v m)) : (Chain.ofSteps steps).given = commandsGiven steps := by
  rw [Chain.given, Chain.directives_ofSteps, List.map_filterMap]
  rfl

/-! ### Directives that count -/

/-- The directive that counts for a command. -/
def Chain.directive? (chain : Chain K v m) (command : Command) : Option Directive :=
  chain.directives.find? (·.command = command)

section Directives

variable {chain : Chain K v m}

theorem Chain.has_eq (command : Command) : chain.has command = (chain.directive? command).isSome := by
  rw [Chain.has, Chain.directive?, ← List.isSome_find?]

/-- What is read off the first directive of a command. -/
theorem Directive.findSome?_eq_some_iff {α : Type} {read : Directive → Option α} {make : α → Directive}
    {command : Command} (hread : ∀ d a, read d = some a ↔ d = make a)
    (hmake : ∀ d, d.command = command ↔ ∃ a, d = make a) {ds : List Directive} {a : α} :
    ds.findSome? read = some a ↔ ds.find? (·.command = command) = some (make a) := by
  induction ds with
  | nil => simp
  | cons d ds ih =>
    by_cases hd : d.command = command
    · obtain ⟨b, rfl⟩ := (hmake d).1 hd
      have hb : read (make b) = some b := (hread _ _).2 rfl
      simp only [List.findSome?_cons, hb, List.find?_cons_of_pos, hd, decide_true, Option.some.injEq]
      rw [← hread, hb, Option.some.injEq]
    · have hnone : read d = none := by
        rw [Option.eq_none_iff_forall_ne_some]
        intro b hb
        exact hd ((hmake d).2 ⟨b, (hread d b).1 hb⟩)
      simp [hd, hnone, ih]

theorem Chain.isOptional_iff : chain.isOptional = true ↔ chain.directive? .optional = some .optional := by
  rw [Chain.isOptional, Chain.has_eq, Option.isSome_iff_exists]
  constructor
  · rintro ⟨d, hd⟩
    have hcommand : d.command = .optional := by simpa using List.find?_some hd
    cases d with
    | optional => exact hd
    | singleError | withMessage | named => cases hcommand
  · exact fun h => ⟨_, h⟩

theorem Chain.singleError?_eq_some_iff {e : ValidationError} :
    chain.singleError? = some e ↔ chain.directive? .singleError = some (.singleError e) := by
  refine Directive.findSome?_eq_some_iff (fun d a => ?_) fun d => ?_
  · cases d <;> simp
  · cases d <;> simp [Directive.command]

theorem Chain.message?_eq_some_iff {template : String} :
    chain.message? = some template ↔ chain.directive? .withMessage = some (.withMessage template) := by
  refine Directive.findSome?_eq_some_iff (fun d a => ?_) fun d => ?_
  · cases d <;> simp
  · cases d <;> simp [Directive.command]

theorem Chain.name?_eq_some_iff {name : String} :
    chain.name? = some name ↔ chain.directive? .named = some (.named name) := by
  refine Directive.findSome?_eq_some_iff (fun d a => ?_) fun d => ?_
  · cases d <;> simp
  · cases d <;> simp [Directive.command]

end Directives

/-- **The directive that counts is the first one of its command.** -/
theorem firstGiven_iff {steps : List (ChainStep K v m)} {directive : Directive} :
    FirstGiven steps directive ↔ (Chain.ofSteps steps).directive? directive.command = some directive := by
  have hstep (step : ChainStep K v m) :
      (steps.find? fun step => step.directive?.any fun d => decide (d.command = directive.command)) = some step ∧
          step.directive? = some directive ↔
        step = .directive directive ∧ FirstGiven steps directive := by
    rw [ChainStep.directive?_eq_some_iff, List.find?_eq_some_iff_append]
    constructor
    · rintro ⟨⟨-, before, after, rfl, hbefore⟩, rfl⟩
      refine ⟨rfl, before, after, rfl, fun hmem => ?_⟩
      obtain ⟨earlier, hearlier, hcommand⟩ := List.mem_filterMap.1 hmem
      have hnot := hbefore earlier hearlier
      rw [ChainStep.any_directive?_iff.2 hcommand] at hnot
      cases hnot
    · rintro ⟨rfl, before, after, rfl, hbefore⟩
      refine ⟨⟨ChainStep.any_directive?_iff.2 rfl, before, after, rfl, fun earlier hearlier => ?_⟩, rfl⟩
      rw [Bool.not_eq_true', Bool.eq_false_iff, Ne, ChainStep.any_directive?_iff]
      exact fun hcommand => hbefore (List.mem_filterMap.2 ⟨earlier, hearlier, hcommand⟩)
  rw [Chain.directive?, Chain.directives_ofSteps, List.find?_filterMap, Option.bind_eq_some_iff]
  simp only [hstep, exists_eq_left]

/-! ### Commands that are repeated -/

/-- Directives with commands of their own are passed over. -/
theorem Directive.repeated?_go_append (seen : List Command) {before : List Directive} (ds : List Directive)
    (honce : (before.map command).Nodup) (hnew : ∀ c ∈ before.map command, c ∉ seen) :
    repeated?.go seen (before ++ ds) = repeated?.go ((before.map command).reverse ++ seen) ds := by
  induction before generalizing seen with
  | nil => rfl
  | cons d before ih =>
    rw [List.map_cons, List.nodup_cons] at honce
    rw [List.map_cons, List.forall_mem_cons] at hnew
    have hrest : ∀ c ∈ before.map command, c ∉ d.command :: seen := by
      intro c hc hmem
      rcases List.mem_cons.1 hmem with rfl | hmem
      · exact honce.1 hc
      · exact hnew.2 c hc hmem
    rw [List.cons_append, repeated?.go, if_neg hnew.1, ih (d.command :: seen) honce.2 hrest, List.map_cons,
      List.reverse_cons, List.append_assoc]
    rfl

/-- What is found behind directives with commands of their own is the first of all that is given again. -/
theorem Directive.exists_split_of_repeated?_go {before : List Directive} (honce : (before.map command).Nodup)
    {ds : List Directive} {c : Command} (h : repeated?.go (before.map command).reverse ds = some c) :
    ∃ earlier d after, before ++ ds = earlier ++ d :: after ∧ d.command = c ∧ c ∈ earlier.map command ∧
      (earlier.map command).Nodup := by
  induction ds generalizing before with
  | nil => cases h
  | cons d ds ih =>
    rw [repeated?.go] at h
    split at h
    · next hseen =>
      cases h
      exact ⟨before, d, ds, rfl, rfl, List.mem_reverse.1 hseen, honce⟩
    · next hseen =>
      have hmore : ((before ++ [d]).map command).Nodup := by
        rw [List.map_append, List.map_cons, List.map_nil, ← List.concat_eq_append]
        exact honce.concat fun hmem => hseen (List.mem_reverse.2 hmem)
      have hrest : repeated?.go ((before ++ [d]).map command).reverse ds = some c := by
        rw [List.map_append, List.reverse_append]
        exact h
      have hfound := ih hmore hrest
      rwa [List.append_assoc] at hfound

theorem Directive.repeated?_eq_some_iff {ds : List Directive} {c : Command} : repeated? ds = some c ↔
    ∃ before d after, ds = before ++ d :: after ∧ d.command = c ∧ c ∈ before.map command ∧
      (before.map command).Nodup := by
  constructor
  · intro h
    have honce : (([] : List Directive).map command).Nodup := List.nodup_nil
    exact exists_split_of_repeated?_go honce h
  · rintro ⟨before, d, after, rfl, rfl, hmem, honce⟩
    have hgo := Directive.repeated?_go_append [] (d :: after) honce fun c _ => List.not_mem_nil
    rw [repeated?, hgo, repeated?.go, List.append_nil, if_pos (List.mem_reverse.2 hmem)]

theorem Directive.repeated?_eq_none_iff {ds : List Directive} :
    repeated? ds = none ↔ (ds.map command).Nodup := by
  constructor
  · intro h
    exact (repeated?_go_eq_none h).1
  · intro honce
    have hgo := Directive.repeated?_go_append [] [] honce fun c _ => List.not_mem_nil
    rw [List.append_nil] at hgo
    exact hgo

/-- **The command that is refused is the first one that is given again.** -/
theorem firstRepeated_iff {steps : List (ChainStep K v m)} {command : Command} :
    FirstRepeated steps command ↔ Directive.repeated? (Chain.ofSteps steps).directives = some command := by
  have hgiven (before : List (ChainStep K v m)) :
      (before.filterMap ChainStep.directive?).map Directive.command = commandsGiven before := List.map_filterMap
  rw [Directive.repeated?_eq_some_iff, Chain.directives_ofSteps]
  constructor
  · rintro ⟨before, d, after, rfl, hd, hmem, honce⟩
    refine ⟨before.filterMap ChainStep.directive?, d, after.filterMap ChainStep.directive?, ?_, hd, ?_, ?_⟩
    · rw [List.filterMap_append]
      rfl
    · rwa [hgiven]
    · rwa [hgiven]
  · rintro ⟨earlier, d, later, hsplit, hd, hmem, honce⟩
    obtain ⟨before, rest, rfl, rfl, hrest⟩ := List.filterMap_eq_append_iff.1 hsplit
    obtain ⟨between, step, after, rfl, hbetween, hstep, -⟩ := List.filterMap_eq_cons_iff.1 hrest
    cases ChainStep.directive?_eq_some_iff.1 hstep
    have hnone : commandsGiven between = [] := by
      refine List.filterMap_eq_nil_iff.2 fun step hmem => ?_
      rw [ChainStep.command?, hbetween step hmem]
      rfl
    have hsame : commandsGiven (before ++ between) = commandsGiven before := by
      rw [commandsGiven, List.filterMap_append]
      exact (congrArg _ hnone).trans (List.append_nil _)
    rw [hgiven] at hmem honce
    refine ⟨before ++ between, d, after, (List.append_assoc _ _ _).symm, hd, ?_, ?_⟩
    · rwa [hsame]
    · rwa [hsame]

/-! ### Checks of rules in order -/

section Checks

variable {scope : String} {rules : List (Rule K v m)} {fault : Fault}

theorem Rules.check_ofList_eq_ok_iff :
    (Rules.ofList rules).check scope = .ok () ↔ ∀ rule ∈ rules, rule.check scope = .ok () := by
  induction rules with
  | nil =>
    constructor
    · exact fun _ => List.forall_mem_nil _
    · exact fun _ => rfl
  | cons rule rules ih =>
    rw [Rules.ofList, Rules.check, List.forall_mem_cons, ← ih, bind_eq_ok]
    constructor
    · rintro ⟨_, hrule, hrules⟩
      exact ⟨hrule, hrules⟩
    · rintro ⟨hrule, hrules⟩
      exact ⟨(), hrule, hrules⟩

/-- Rules are refused for the first one that is refused. -/
theorem Rules.check_ofList_eq_error_iff : (Rules.ofList rules).check scope = .error fault ↔
    ∃ before rule after, rules = before ++ rule :: after ∧ (∀ earlier ∈ before, earlier.check scope = .ok ()) ∧
      rule.check scope = .error fault := by
  constructor
  · intro h
    induction rules with
    | nil => cases h
    | cons rule rules ih =>
      rw [Rules.ofList, Rules.check] at h
      cases hrule : rule.check scope with
      | error first =>
        rw [hrule] at h
        cases h
        exact ⟨[], rule, rules, rfl, List.forall_mem_nil _, hrule⟩
      | ok _ =>
        rw [hrule] at h
        obtain ⟨before, refused, after, rfl, hbefore, hrefused⟩ := ih h
        exact ⟨rule :: before, refused, after, rfl, List.forall_mem_cons.2 ⟨hrule, hbefore⟩, hrefused⟩
  · rintro ⟨before, rule, after, rfl, hbefore, hrule⟩
    induction before with
    | nil =>
      rw [List.nil_append, Rules.ofList, Rules.check, hrule]
      rfl
    | cons earlier before ih =>
      rw [List.forall_mem_cons] at hbefore
      rw [List.cons_append, Rules.ofList, Rules.check, hbefore.1]
      exact ih hbefore.2

end Checks

section Steps

variable {steps : List (ChainStep K v m)} {scope : String}

theorem check_of_firstRepeated {command : Command} (h : FirstRepeated steps command) :
    (Chain.ofSteps steps).check scope = .error (.duplicateCommand command scope) := by
  have hrepeated := firstRepeated_iff.1 h
  cases hchain : Chain.ofSteps steps with
  | mk rules directives =>
    rw [hchain] at hrepeated
    rw [Chain.check, Chain.checkRepeated, hrepeated]
    rfl

theorem check_of_nodup (h : (commandsGiven steps).Nodup) :
    (Chain.ofSteps steps).check scope = (Rules.ofList (steps.filterMap ChainStep.rule?)).check scope := by
  have hnone : Directive.repeated? (steps.filterMap ChainStep.directive?) = none := by
    rw [Directive.repeated?_eq_none_iff, List.map_filterMap]
    exact h
  rw [Chain.ofSteps_eq, Chain.check, Chain.checkRepeated, Chain.directives, hnone]
  rfl

theorem exists_firstRepeated_iff : (∃ command, FirstRepeated steps command) ↔ ¬ (commandsGiven steps).Nodup := by
  have hgiven : (Chain.ofSteps steps).directives.map Directive.command = commandsGiven steps := given_ofSteps steps
  rw [← hgiven, ← Directive.repeated?_eq_none_iff, ← Ne, ← Option.isSome_iff_ne_none, Option.isSome_iff_exists]
  exact exists_congr fun command => firstRepeated_iff

end Steps

/-! ### Chains that cannot be told apart -/

/-- The walk of a chain in a slot. -/
def Chain.walkSlot (s : Settings) (enter : Entrance K) (canBeAbsent : Bool) (chain : Chain K v m) (slot : Slot v m)
    (depth : Nat) : Except Fault ErrorTree :=
  chain.fill s canBeAbsent (fun subject => chain.walk s enter subject depth) slot

/-- The chains pass the same checks at every place, give a member the same key, and find the same errors in every
slot. -/
structure Chain.Interchangeable (c c' : Chain K v m) : Prop where
  check : ∀ scope, c.check scope = c'.check scope
  checkUnnamed : ∀ scope, c.checkUnnamed scope = c'.checkUnnamed scope
  checkFlat : ∀ scope, c.checkFlat scope = c'.checkFlat scope
  checkSupported : ∀ scope, c.checkSupported scope = c'.checkSupported scope
  checkName : ∀ name, Scope.checkName name c = Scope.checkName name c'
  key : c.name? = c'.name?
  walk : ∀ (s : Settings) (enter : Entrance K) (subject : Subject v m) (depth : Nat),
    c.walk s enter subject depth = c'.walk s enter subject depth
  walkSlot : ∀ (s : Settings) (enter : Entrance K) (canBeAbsent : Bool) (slot : Slot v m) (depth : Nat),
    c.walkSlot s enter canBeAbsent slot depth = c'.walkSlot s enter canBeAbsent slot depth

section Interchangeable

variable {c c' : Chain K v m}

theorem Chain.isOptional_congr (h : c.directive? .optional = c'.directive? .optional) :
    c.isOptional = c'.isOptional := by
  rw [Chain.isOptional, Chain.isOptional, Chain.has_eq, Chain.has_eq, h]

theorem Chain.singleError?_congr (h : c.directive? .singleError = c'.directive? .singleError) :
    c.singleError? = c'.singleError? := by
  ext e
  rw [Chain.singleError?_eq_some_iff, Chain.singleError?_eq_some_iff, h]

theorem Chain.message?_congr (h : c.directive? .withMessage = c'.directive? .withMessage) :
    c.message? = c'.message? := by
  ext template
  rw [Chain.message?_eq_some_iff, Chain.message?_eq_some_iff, h]

theorem Chain.name?_congr (h : c.directive? .named = c'.directive? .named) : c.name? = c'.name? := by
  ext name
  rw [Chain.name?_eq_some_iff, Chain.name?_eq_some_iff, h]

theorem Chain.finish_congr (hsingle : c.singleError? = c'.singleError?) (hmessage : c.message? = c'.message?)
    (failed : Bool) (t : ErrorTree) : c.finish failed t = c'.finish failed t := by
  simp only [Chain.finish, hsingle, hmessage]

theorem Chain.walk_eq_of_finish (hrules : c.rules = c'.rules)
    (hfinish : ∀ failed t, c.finish failed t = c'.finish failed t) (s : Settings) (enter : Entrance K)
    (subject : Subject v m) (depth : Nat) :
    c.walk s enter subject depth = c'.walk s enter subject depth := by
  obtain ⟨rules, directives⟩ := c
  obtain ⟨rules', directives'⟩ := c'
  obtain rfl : rules = rules' := hrules
  simp only [Chain.walk, hfinish]

theorem Chain.fill_congr (hoptional : c.isOptional = c'.isOptional) {run run' : Subject v m → Except Fault ErrorTree}
    (hrun : ∀ subject, run subject = run' subject) (s : Settings) (canBeAbsent : Bool) (slot : Slot v m) :
    c.fill s canBeAbsent run slot = c'.fill s canBeAbsent run' slot := by
  cases slot with
  | present value model => exact hrun _
  | absent => rw [Chain.fill, Chain.fill, hoptional]
  | forced => rw [Chain.fill, Chain.fill, hoptional, hrun]

/-- **Chains with the same rules and the same first directives cannot be told apart**, unless a command is repeated. -/
theorem Chain.interchangeable (hrules : c.rules = c'.rules)
    (hdirective : ∀ command, c.directive? command = c'.directive? command) (honce : c.given.Nodup)
    (honce' : c'.given.Nodup) : c.Interchangeable c' := by
  have hhas : c.has = c'.has := by
    funext command
    rw [Chain.has_eq, Chain.has_eq, hdirective]
  have hname : c.name? = c'.name? := Chain.name?_congr (hdirective .named)
  have hfinish := Chain.finish_congr (Chain.singleError?_congr (hdirective .singleError))
    (Chain.message?_congr (hdirective .withMessage))
  have hwalk := Chain.walk_eq_of_finish hrules hfinish
  refine {
    check := fun scope => ?_
    checkUnnamed := fun scope => by rw [Chain.checkUnnamed, Chain.checkUnnamed, hhas]
    checkFlat := fun scope => by rw [Chain.checkFlat, Chain.checkFlat, hrules]
    checkSupported := fun scope => by rw [Chain.checkSupported, Chain.checkSupported, hhas]
    checkName := fun name => by rw [Scope.checkName, Scope.checkName, hname]
    key := hname
    walk := hwalk
    walkSlot := fun s enter canBeAbsent slot depth => ?_ }
  · have hnone : Directive.repeated? c.directives = none := Directive.repeated?_eq_none_iff.2 honce
    have hnone' : Directive.repeated? c'.directives = none := Directive.repeated?_eq_none_iff.2 honce'
    obtain ⟨rules, directives⟩ := c
    obtain ⟨rules', directives'⟩ := c'
    obtain rfl : rules = rules' := hrules
    rw [Chain.check, Chain.check, Chain.checkRepeated, Chain.checkRepeated, hnone, hnone']
  · have hoptional : c.isOptional = c'.isOptional := Chain.isOptional_congr (hdirective .optional)
    exact Chain.fill_congr hoptional (fun subject => hwalk s enter subject depth) s canBeAbsent slot

end Interchangeable

/-- Without repetitions the directive that counts is the one that is given. -/
theorem Chain.directive?_eq_some_iff {chain : Chain K v m} (honce : chain.given.Nodup) {command : Command}
    {directive : Directive} :
    chain.directive? command = some directive ↔ directive ∈ chain.directives ∧ directive.command = command := by
  constructor
  · intro h
    exact ⟨List.mem_of_find?_eq_some h, by simpa using List.find?_some h⟩
  · rintro ⟨hmem, rfl⟩
    obtain ⟨found, hfound⟩ : ∃ found, chain.directive? directive.command = some found := by
      rw [← Option.isSome_iff_exists, ← Chain.has_eq, Chain.has_iff]
      exact List.mem_map_of_mem hmem
    have hsame : found.command = directive.command := by simpa using List.find?_some hfound
    rw [hfound, List.inj_on_of_nodup_map honce (List.mem_of_find?_eq_some hfound) hmem hsame]

/-- **Where directives stand makes no difference.**  A chain has the rules of its steps in order, and of each command
the first directive that is given.  It is refused for the first command that is given again, whatever its rules are; if
there is none, for the first of its rules that is refused.  Steps that give no command twice, the same rules in the
same order and the same directives give chains that cannot be told apart. -/
theorem declaration_order_irrelevant (steps : List (ChainStep K v m)) :
    (Chain.ofSteps steps).rules.toList = steps.filterMap ChainStep.rule? ∧
    ((Chain.ofSteps steps).isOptional = true ↔ FirstGiven steps .optional) ∧
    (∀ e, (Chain.ofSteps steps).singleError? = some e ↔ FirstGiven steps (.singleError e)) ∧
    (∀ template, (Chain.ofSteps steps).message? = some template ↔ FirstGiven steps (.withMessage template)) ∧
    (∀ name, (Chain.ofSteps steps).name? = some name ↔ FirstGiven steps (.named name)) ∧
    ((∃ command, FirstRepeated steps command) ↔ ¬ (commandsGiven steps).Nodup) ∧
    (∀ scope command, FirstRepeated steps command →
      (Chain.ofSteps steps).check scope = .error (.duplicateCommand command scope)) ∧
    ((commandsGiven steps).Nodup → ∀ scope,
      ((Chain.ofSteps steps).check scope = .ok () ↔
        ∀ rule ∈ steps.filterMap ChainStep.rule?, rule.check scope = .ok ()) ∧
      ∀ fault, (Chain.ofSteps steps).check scope = .error fault ↔
        ∃ before rule after, steps.filterMap ChainStep.rule? = before ++ rule :: after ∧
          (∀ earlier ∈ before, earlier.check scope = .ok ()) ∧ rule.check scope = .error fault) ∧
    ∀ steps' : List (ChainStep K v m), (commandsGiven steps).Nodup → (commandsGiven steps').Nodup →
      steps.filterMap ChainStep.rule? = steps'.filterMap ChainStep.rule? →
      (∀ directive, .directive directive ∈ steps ↔ .directive directive ∈ steps') →
      (Chain.ofSteps steps).Interchangeable (Chain.ofSteps steps') := by
  have hoptional : (Chain.ofSteps steps).isOptional = true ↔ FirstGiven steps .optional := by
    rw [firstGiven_iff]
    exact Chain.isOptional_iff
  have hsingle (e : ValidationError) :
      (Chain.ofSteps steps).singleError? = some e ↔ FirstGiven steps (.singleError e) := by
    rw [firstGiven_iff]
    exact Chain.singleError?_eq_some_iff
  have hmessage (template : String) :
      (Chain.ofSteps steps).message? = some template ↔ FirstGiven steps (.withMessage template) := by
    rw [firstGiven_iff]
    exact Chain.message?_eq_some_iff
  have hname (name : String) : (Chain.ofSteps steps).name? = some name ↔ FirstGiven steps (.named name) := by
    rw [firstGiven_iff]
    exact Chain.name?_eq_some_iff
  refine ⟨?_, hoptional, hsingle, hmessage, hname, exists_firstRepeated_iff,
    fun scope command => check_of_firstRepeated, fun honce scope => ?_,
    fun steps' honce honce' hrules hdirectives => ?_⟩
  · rw [Chain.rules_ofSteps, Rules.toList_ofList]
  · rw [check_of_nodup honce]
    exact ⟨Rules.check_ofList_eq_ok_iff, fun fault => Rules.check_ofList_eq_error_iff⟩
  · rw [← given_ofSteps] at honce honce'
    refine Chain.interchangeable ?_ (fun command => ?_) honce honce'
    · rw [Chain.rules_ofSteps, Chain.rules_ofSteps, hrules]
    · have hmem (all : List (ChainStep K v m)) (directive : Directive) :
          directive ∈ (Chain.ofSteps all).directives ↔ .directive directive ∈ all := by
        rw [Chain.directives_ofSteps, List.mem_filterMap]
        simp only [ChainStep.directive?_eq_some_iff, exists_eq_right]
      ext directive
      rw [Chain.directive?_eq_some_iff honce, Chain.directive?_eq_some_iff honce', hmem, hmem, hdirectives]

namespace Employee

/-- A skill, with the directives in front. -/
def directivesFirst : List (ChainStep StaffType .text .employee) :=
  [.directive .optional, .directive (.withMessage "Skill"), .rule (.valid (Check.minLength 2)),
    .rule (.valid Check.notBlank)]

/-- A skill, with the directives among the rules. -/
def directivesAmong : List (ChainStep StaffType .text .employee) :=
  [.rule (.valid (Check.minLength 2)), .directive (.withMessage "Skill"), .rule (.valid Check.notBlank),
    .directive .optional]

/-- A skill that is called something else later, and is optional twice before that. -/
def directivesRepeated : List (ChainStep StaffType .text .employee) :=
  [.directive (.withMessage "Skill"), .directive .optional, .rule (.valid (Check.minLength 2)), .directive .optional,
    .directive (.withMessage "Craft")]

theorem declaration_order_irrelevant_skill :
    ((commandsGiven directivesFirst).Nodup ∧ (commandsGiven directivesAmong).Nodup ∧
      (Chain.ofSteps directivesFirst).Interchangeable (Chain.ofSteps directivesAmong)) ∧
    FirstRepeated directivesRepeated .optional ∧ (Chain.ofSteps directivesRepeated).message? = some "Skill" ∧
    (Chain.ofSteps directivesRepeated).check "Skills" = .error (.duplicateCommand .optional "Skills") := by
  have honce : (commandsGiven directivesFirst).Nodup := by decide
  have honce' : (commandsGiven directivesAmong).Nodup := by decide
  have hsame (directive : Directive) :
      .directive directive ∈ directivesFirst ↔ .directive directive ∈ directivesAmong := by
    simp [directivesFirst, directivesAmong, or_comm]
  have hrepeated : FirstRepeated directivesRepeated .optional :=
    ⟨directivesRepeated.take 3, .optional, [.directive (.withMessage "Craft")], rfl, rfl, by decide, by decide⟩
  have hfirst : FirstGiven directivesRepeated (.withMessage "Skill") := ⟨[], directivesRepeated.tail, rfl, by decide⟩
  obtain ⟨-, -, -, -, -, -, -, -, hinterchangeable⟩ := declaration_order_irrelevant directivesFirst
  obtain ⟨-, -, -, hmessage, -, -, hrefused, -, -⟩ := declaration_order_irrelevant directivesRepeated
  exact ⟨⟨honce, honce', hinterchangeable directivesAmong honce honce' rfl hsame⟩, hrepeated,
    (hmessage "Skill").2 hfirst, hrefused "Skills" .optional hrepeated⟩

end Employee

end ModelValidation
