import ModelValidation.Proofs.Declarations

/-!
# What directives do to errors

A directive that a chain does not have yet is added to it.  Its walk fails as before; otherwise the errors of the chain
are those from before, changed in the way that the directive asks for and in no other:

* `Rules.failed_eq`: rules have failed just if there are errors in the tree that they leave;
* `singleError_stands_for_failures`: a single error stands where there have been errors, with the template of the chain;
* `withMessage_retitles_own`: a template is that of the errors which the chain itself reports right at its place, and of
  no others.
-/

set_option linter.unusedSectionVars false

namespace ModelValidation

variable {K : Type} [ValueTypes K] {v m : K}

/-! ### One more directive -/

section WithDirective

variable {chain : Chain K v m} {directive : Directive}

theorem Chain.directive?_eq_none_iff {command : Command} : chain.directive? command = none ↔ command ∉ chain.given := by
  rw [← Option.not_isSome_iff_eq_none, ← Chain.has_eq, Chain.has_iff]

theorem Chain.directives_withDirective :
    (chain.withDirective directive).directives = chain.directives ++ [directive] := by
  cases chain
  rfl

theorem Chain.rules_withDirective : (chain.withDirective directive).rules = chain.rules := by
  cases chain
  rfl

/-- The directive counts for its command. -/
theorem Chain.directive?_withDirective_self (hnew : directive.command ∉ chain.given) :
    (chain.withDirective directive).directive? directive.command = some directive := by
  have hnone : chain.directives.find? (·.command = directive.command) = none := Chain.directive?_eq_none_iff.2 hnew
  rw [Chain.directive?, Chain.directives_withDirective, List.find?_append, hnone]
  simp

/-- The directives of other commands are not touched. -/
theorem Chain.directive?_withDirective_of_ne {command : Command} (hne : directive.command ≠ command) :
    (chain.withDirective directive).directive? command = chain.directive? command := by
  rw [Chain.directive?, Chain.directives_withDirective, List.find?_append]
  simp [hne, Chain.directive?]

/-- What is read off a directive is not there if its command is not given. -/
theorem Chain.read_eq_none {α : Type} {read : Option α} {make : α → Directive} {command : Command}
    (hread : ∀ a, read = some a ↔ chain.directive? command = some (make a)) (hnew : command ∉ chain.given) :
    read = none := by
  refine Option.eq_none_iff_forall_ne_some.2 fun a ha => ?_
  rw [hread, Chain.directive?_eq_none_iff.2 hnew] at ha
  cases ha

theorem Chain.singleError?_eq_none (hnew : Command.singleError ∉ chain.given) : chain.singleError? = none :=
  Chain.read_eq_none (fun _ => Chain.singleError?_eq_some_iff) hnew

theorem Chain.message?_eq_none (hnew : Command.withMessage ∉ chain.given) : chain.message? = none :=
  Chain.read_eq_none (fun _ => Chain.message?_eq_some_iff) hnew

theorem Chain.name?_eq_none (hnew : Command.named ∉ chain.given) : chain.name? = none :=
  Chain.read_eq_none (fun _ => Chain.name?_eq_some_iff) hnew

end WithDirective

/-! ### The run of a chain -/

section Run

variable {s : Settings} {lookup : Lookup K} {levels : Nat}

/-- A chain makes something of the flag and the tree that its rules leave. -/
theorem Chain.walk_eq_map (chain : Chain K v m) (enter : Entrance K) (subject : Subject v m) (depth : Nat) :
    chain.walk s enter subject depth =
      (chain.rules.walk s enter (s.subject subject) depth false .empty).map fun run => chain.finish run.1 run.2 := by
  cases chain
  rfl

/-- **Rules have failed just if there are errors in the tree that they leave.** -/
theorem Rules.failed_eq {rules : Rules K v m} {subject : Subject v m} {depth : Nat} {failed : Bool} {t : ErrorTree}
    (h : rules.walk s (enterWithin s lookup levels) subject depth false .empty = .ok (failed, t)) :
    failed = !t.isEmpty := by
  rw [Rules.walk_eq (enterWithin_eq s lookup levels), map_eq_ok] at h
  obtain ⟨fs, -, hfs⟩ := h
  cases hfs
  exact congrArg (!·) (ErrorTree.isEmpty_ofFindings fs).symm

end Run

/-! ### A single error -/

/-- The error with the template of the chain, if it has one. -/
def Chain.titled (chain : Chain K v m) (e : ValidationError) : ValidationError :=
  match chain.message? with
  | some template => e.withTemplate template
  | none => e

section SingleError

variable {chain : Chain K v m} {e : ValidationError}

theorem Chain.isEmpty_finish (hnone : chain.singleError? = none) (failed : Bool) (t : ErrorTree) :
    (chain.finish failed t).isEmpty = t.isEmpty := by
  rw [Chain.finish, hnone]
  cases chain.message? with
  | none => rfl
  | some template => exact congrArg (· && t.members.isEmpty) List.isEmpty_map

/-- A single error stands where rules have failed; whatever there is below goes. -/
theorem Chain.finish_of_singleError (hsingle : chain.singleError? = some e) {failed : Bool} {t : ErrorTree}
    (hfailed : failed = !t.isEmpty) :
    chain.finish failed t = if t.isEmpty then .empty else .ofError (chain.titled e) := by
  subst hfailed
  rw [Chain.finish, hsingle, Chain.titled]
  cases ht : t.isEmpty with
  | false => cases chain.message? <;> rfl
  | true =>
    rw [ErrorTree.eq_empty_of_isEmpty ht]
    cases chain.message? <;> rfl

end SingleError

/-- **A single error stands for the failures of a chain.**  With it the walk of the chain fails as it does without it.
Otherwise there are no errors if there were none; and if there were some, wherever they were, there is one error and
nothing below it: the single error, with the template of the chain if the chain has one. -/
theorem singleError_stands_for_failures (s : Settings) (lookup : Lookup K) (levels : Nat) {chain : Chain K v m}
    (hnew : Command.singleError ∉ chain.given) (e : ValidationError) (subject : Subject v m) (depth : Nat) :
    (∀ fault, (chain.withDirective (.singleError e)).walk s (enterWithin s lookup levels) subject depth =
        .error fault ↔
      chain.walk s (enterWithin s lookup levels) subject depth = .error fault) ∧
    ∀ t, chain.walk s (enterWithin s lookup levels) subject depth = .ok t →
      (chain.withDirective (.singleError e)).walk s (enterWithin s lookup levels) subject depth =
        .ok (if t.isEmpty then .empty else .ofError (chain.titled e)) := by
  have hnone : chain.singleError? = none := Chain.singleError?_eq_none hnew
  have hsingle : (chain.withDirective (.singleError e)).singleError? = some e :=
    Chain.singleError?_eq_some_iff.2 (Chain.directive?_withDirective_self hnew)
  have hmessage : (chain.withDirective (.singleError e)).message? = chain.message? :=
    Chain.message?_congr (Chain.directive?_withDirective_of_ne nofun)
  have htitled : (chain.withDirective (.singleError e)).titled e = chain.titled e := by
    rw [Chain.titled, Chain.titled, hmessage]
  rw [Chain.walk_eq_map, Chain.walk_eq_map, Chain.rules_withDirective]
  cases hrun : chain.rules.walk s (enterWithin s lookup levels) (s.subject subject) depth false .empty with
  | error fault =>
    refine ⟨fun _ => Iff.rfl, fun t ht => ?_⟩
    cases ht
  | ok run =>
    obtain ⟨failed, found⟩ := run
    refine ⟨fun fault => ⟨nofun, nofun⟩, fun t ht => ?_⟩
    cases ht
    -- the flag decides, and it says whether there is something in the tree
    have hfailed : failed = !found.isEmpty := Rules.failed_eq hrun
    rw [Chain.isEmpty_finish hnone, ← htitled]
    exact congrArg Except.ok (Chain.finish_of_singleError hsingle hfailed)

namespace Employee

/-- A deputy whose errors have another template. -/
def titledDeputyChain : Chain StaffType .employee .employee := deputyChain.withDirective (.withMessage "Deputy")

theorem singleError_stands_for_failures_nameless :
    Command.singleError ∉ titledDeputyChain.given ∧
    titledDeputyChain.walk settings (enterWithin settings registry.lookup 9) (.present nameless withDeputies) 0 =
      .ok namelessTree ∧
    (titledDeputyChain.withDirective (.singleError (tooShort "Record"))).walk settings
        (enterWithin settings registry.lookup 9) (.present nameless withDeputies) 0 =
      .ok (.ofError (tooShort "Deputy")) := by
  have hnew : Command.singleError ∉ titledDeputyChain.given := by decide
  have hplain : titledDeputyChain.walk settings (enterWithin settings registry.lookup 9)
      (.present nameless withDeputies) 0 = .ok namelessTree := by rfl
  exact ⟨hnew, hplain, (singleError_stands_for_failures settings registry.lookup 9 hnew (tooShort "Record")
    (.present nameless withDeputies) 0).2 namelessTree hplain⟩

end Employee

/-! ### Another template -/

/-- The second tree is the first one with a template for the errors of its node behind the leading ones. -/
structure ErrorTree.Retitled (template : String) (lead own : List ValidationError) (t t' : ErrorTree) : Prop where
  errors_before : t.errors = lead ++ own
  errors_after : t'.errors = lead ++ own.map (·.withTemplate template)
  members_eq : t'.members = t.members

namespace ErrorTree.Retitled

variable {template : String} {lead own : List ValidationError} {t t' : ErrorTree}

theorem mapErrors (template : String) (t : ErrorTree) :
    Retitled template [] t.errors t (t.mapErrors (·.withTemplate template)) :=
  ⟨rfl, rfl, rfl⟩

/-- Errors that a node has before it takes up the trees are leading ones. -/
theorem absorb (lead : List ValidationError) (h : Retitled template [] own t t') :
    Retitled template lead own (ErrorTree.absorb (.node lead []) t) (ErrorTree.absorb (.node lead []) t') := by
  rw [ErrorTree.absorb_eq, ErrorTree.absorb_eq, h.errors_before, h.errors_after, h.members_eq]
  exact ⟨rfl, rfl, rfl⟩

theorem args_eq (h : Retitled template lead own t t') : t'.errors.map (·.args) = t.errors.map (·.args) := by
  rw [h.errors_before, h.errors_after, List.map_append, List.map_append, List.map_map]
  rfl

theorem length_eq (h : Retitled template lead own t t') : t'.errors.length = t.errors.length := by
  rw [h.errors_before, h.errors_after, List.length_append, List.length_append, List.length_map]

theorem isEmpty_eq (h : Retitled template lead own t t') : t'.isEmpty = t.isEmpty := by
  have herrors : t'.errors.isEmpty = t.errors.isEmpty := by
    rw [Bool.eq_iff_iff, List.isEmpty_iff_length_eq_zero, List.isEmpty_iff_length_eq_zero, h.length_eq]
  rw [ErrorTree.isEmpty, ErrorTree.isEmpty, h.members_eq, herrors]

theorem count_eq (h : Retitled template lead own t t') : t'.count = t.count := by
  have hlength := h.length_eq
  have hmembers := h.members_eq
  obtain ⟨es, ms⟩ := t
  obtain ⟨es', ms'⟩ := t'
  obtain rfl : ms' = ms := hmembers
  exact congrArg (· + countMembers ms') hlength

theorem depth_eq (h : Retitled template lead own t t') : t'.depth = t.depth := by
  have hmembers := h.members_eq
  obtain ⟨es, ms⟩ := t
  obtain ⟨es', ms'⟩ := t'
  exact congrArg depthMembers hmembers

end ErrorTree.Retitled

/-- The required error that a slot itself gives. -/
def Chain.required (s : Settings) (canBeAbsent : Bool) (chain : Chain K v m) : Slot v m → List ValidationError
  | .present _ _ => []
  | .absent => if chain.isOptional then [] else [s.requiredError]
  | .forced => if canBeAbsent && !chain.isOptional then [s.requiredError] else []

/-- What a chain itself reports in a slot: nothing if the part is missing. -/
def Chain.report (s : Settings) (enter : Entrance K) (chain : Chain K v m) (depth : Nat) :
    Slot v m → Except Fault ErrorTree
  | .present value model => chain.walk s enter (.present value model) depth
  | .absent => .ok .empty
  | .forced => chain.walk s enter .forced depth

/-- A report behind the errors that the slot itself gives. -/
def Slot.place (lead : List ValidationError) : Slot v m → ErrorTree → ErrorTree
  | .present _ _, t => t
  | .absent, t | .forced, t => ErrorTree.absorb (.node lead []) t

section Message

variable {chain : Chain K v m} {template : String} {s : Settings} {enter : Entrance K} {canBeAbsent : Bool}

theorem Chain.walkSlot_eq_map (slot : Slot v m) (depth : Nat) :
    chain.walkSlot s enter canBeAbsent slot depth =
      (chain.report s enter depth slot).map (slot.place (chain.required s canBeAbsent slot)) := by
  rw [Chain.walkSlot]
  cases slot with
  | present value model =>
    rw [Chain.fill, Chain.report]
    cases chain.walk s enter (.present value model) depth <;> rfl
  | absent =>
    rw [Chain.fill, Chain.report, Chain.required]
    cases chain.isOptional <;> rfl
  | forced =>
    rw [Chain.fill, Chain.report, Chain.required]
    cases canBeAbsent && !chain.isOptional <;> rfl

theorem Chain.required_withDirective {directive : Directive} (hne : directive.command ≠ .optional) (slot : Slot v m) :
    (chain.withDirective directive).required s canBeAbsent slot = chain.required s canBeAbsent slot := by
  have hoptional : (chain.withDirective directive).isOptional = chain.isOptional :=
    Chain.isOptional_congr (Chain.directive?_withDirective_of_ne hne)
  cases slot with
  | present value model => rfl
  | absent => rw [Chain.required, Chain.required, hoptional]
  | forced => rw [Chain.required, Chain.required, hoptional]

/-- The template is put in when everything else is done. -/
theorem Chain.walk_withMessage (hnew : Command.withMessage ∉ chain.given) (subject : Subject v m) (depth : Nat) :
    (chain.withDirective (.withMessage template)).walk s enter subject depth =
      (chain.walk s enter subject depth).map (·.mapErrors (·.withTemplate template)) := by
  have hnone : chain.message? = none := Chain.message?_eq_none hnew
  have hmessage : (chain.withDirective (.withMessage template)).message? = some template :=
    Chain.message?_eq_some_iff.2 (Chain.directive?_withDirective_self hnew)
  have hsingle : (chain.withDirective (.withMessage template)).singleError? = chain.singleError? :=
    Chain.singleError?_congr (Chain.directive?_withDirective_of_ne nofun)
  rw [Chain.walk_eq_map, Chain.walk_eq_map, Chain.rules_withDirective]
  cases chain.rules.walk s enter (s.subject subject) depth false .empty with
  | error fault => rfl
  | ok run => simp only [Except.map, Chain.finish, hnone, hmessage, hsingle]

theorem Chain.report_withMessage (hnew : Command.withMessage ∉ chain.given) (slot : Slot v m) (depth : Nat) :
    (chain.withDirective (.withMessage template)).report s enter depth slot =
      (chain.report s enter depth slot).map (·.mapErrors (·.withTemplate template)) := by
  cases slot with
  | present value model => exact Chain.walk_withMessage hnew _ _
  | absent => rfl
  | forced => exact Chain.walk_withMessage hnew _ _

/-- Wherever a report is placed, its errors at the root are those of the chain. -/
theorem Chain.retitled_place (slot : Slot v m) (own : ErrorTree) :
    ErrorTree.Retitled template (chain.required s canBeAbsent slot) own.errors
      (slot.place (chain.required s canBeAbsent slot) own)
      (slot.place (chain.required s canBeAbsent slot) (own.mapErrors (·.withTemplate template))) := by
  have hown := ErrorTree.Retitled.mapErrors template own
  cases slot with
  | present value model => exact hown
  | absent => exact hown.absorb _
  | forced => exact hown.absorb _

end Message

/-- **A template is that of the errors which a chain itself reports right at its place.**  With it the walk of the chain
in a slot fails as it does without it.  Otherwise the errors that the chain reports at its place have the template, each
with the arguments that it had; the required error of the slot in front of them and all that lies below stay.  So do
the number of errors, the depth, and whether there are errors at all. -/
theorem withMessage_retitles_own (s : Settings) (enter : Entrance K) {chain : Chain K v m}
    (hnew : Command.withMessage ∉ chain.given) (template : String) (canBeAbsent : Bool) (slot : Slot v m)
    (depth : Nat) :
    (∀ fault, (chain.withDirective (.withMessage template)).walkSlot s enter canBeAbsent slot depth = .error fault ↔
      chain.walkSlot s enter canBeAbsent slot depth = .error fault) ∧
    ∀ t, chain.walkSlot s enter canBeAbsent slot depth = .ok t → ∃ own t',
      chain.report s enter depth slot = .ok own ∧
      (chain.withDirective (.withMessage template)).walkSlot s enter canBeAbsent slot depth = .ok t' ∧
      t.errors = chain.required s canBeAbsent slot ++ own.errors ∧
      t'.errors = chain.required s canBeAbsent slot ++ own.errors.map (·.withTemplate template) ∧
      t'.errors.map (·.args) = t.errors.map (·.args) ∧ t'.members = t.members ∧
      t'.isEmpty = t.isEmpty ∧ t'.count = t.count ∧ t'.depth = t.depth := by
  have hoptional : (Directive.withMessage template).command ≠ .optional := nofun
  rw [Chain.walkSlot_eq_map, Chain.walkSlot_eq_map, Chain.report_withMessage hnew,
    Chain.required_withDirective hoptional]
  cases chain.report s enter depth slot with
  | error fault =>
    refine ⟨fun _ => Iff.rfl, fun t ht => ?_⟩
    cases ht
  | ok own =>
    refine ⟨fun fault => ⟨nofun, nofun⟩, fun t ht => ?_⟩
    cases ht
    have h : ErrorTree.Retitled template (chain.required s canBeAbsent slot) own.errors _ _ :=
      Chain.retitled_place slot own
    exact ⟨own, _, rfl, rfl, h.errors_before, h.errors_after, h.args_eq, h.members_eq, h.isEmpty_eq, h.count_eq,
      h.depth_eq⟩

namespace Employee

/-- Every rule fails, one level deep. -/
def forcedSettings : Settings := .ofOptions .default ⟨some .force, none, some 1⟩

/-- What a deputy gives that may be missing if every rule fails. -/
def forcedTree : ErrorTree :=
  .node [.ofTemplate "Global.Required", .ofTemplate "Brief"] [
    ("Name", .node [.ofTemplate "Texts.NotEmpty", tooShort "Texts.MinLength"] [])]

theorem withMessage_retitles_own_forced :
    Command.withMessage ∉ deputyChain.given ∧
    deputyChain.walkSlot forcedSettings (enterWithin forcedSettings registry.lookup 1) true .forced 0 =
      .ok forcedTree ∧
    ∃ t, (deputyChain.withDirective (.withMessage "Deputy")).walkSlot forcedSettings
        (enterWithin forcedSettings registry.lookup 1) true .forced 0 = .ok t ∧
      t.errors = [.ofTemplate "Global.Required", .ofTemplate "Deputy"] ∧ t.members = forcedTree.members := by
  have hnew : Command.withMessage ∉ deputyChain.given := by decide
  have hplain : deputyChain.walkSlot forcedSettings (enterWithin forcedSettings registry.lookup 1) true .forced 0 =
      .ok forcedTree := by rfl
  obtain ⟨own, t, -, ht, hbefore, hafter, -, hmembers, -⟩ := (withMessage_retitles_own forcedSettings
    (enterWithin forcedSettings registry.lookup 1) hnew "Deputy" true .forced 0).2 forcedTree hplain
  have hown : own.errors = [.ofTemplate "Brief"] := (List.cons.inj hbefore).2.symm
  rw [hown] at hafter
  exact ⟨hnew, hplain, t, ht, hafter, hmembers⟩

end Employee

end ModelValidation
