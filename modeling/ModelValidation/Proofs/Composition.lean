import ModelValidation.Proofs.DepthBound
import ModelValidation.Proofs.Merging

/-!
# Scopes side by side

All scopes of a specification write into one tree, some of them under keys that others have as well.  No scope sees what
another one has found: to walk through two lists of scopes is to walk through each on its own and to merge the trees.

* `Specification.findings_append`: the findings of scopes stand behind those of the scopes before them;
* `walk_append`: so of the trees, and nothing is lost, moved or changed where the lists meet.
-/

set_option linter.unusedSectionVars false

namespace ModelValidation

open ErrorTree (ofFindings)

variable {K : Type} [ValueTypes K]

/-! ### Findings of scopes one behind the other -/

theorem Specification.findings_append (s : Settings) (enter : FindingsEntrance K) {m : K} (as bs : List (Scope K m))
    (model : Option (Carrier m)) (depth : Nat) :
    (ofList (as ++ bs)).findings s enter model depth = do
      return (← (ofList as).findings s enter model depth) ++ (← (ofList bs).findings s enter model depth) := by
  induction as with
  | nil =>
    have hnil : (ofList [] : Specification K m).findings s enter model depth = .ok [] := rfl
    rw [hnil, List.nil_append]
    cases (ofList bs).findings s enter model depth <;> rfl
  | cons scope as ih =>
    rw [List.cons_append, ofList, ofList, Specification.findings, Specification.findings, ih]
    cases scope.findings s enter model depth with
    | error fault => rfl
    | ok fs =>
      cases (ofList as).findings s enter model depth with
      | error fault => rfl
      | ok gs =>
        cases (ofList bs).findings s enter model depth with
        | error fault => rfl
        | ok hs => exact congrArg Except.ok (List.append_assoc fs gs hs).symm

/-- The model that a walk goes by. -/
def Settings.seen (s : Settings) {α : Type} (model : Option α) : Option α :=
  if s.isForced then none else model

/-- A walk that has a model, or needs none, has only the depth to check. -/
theorem arriveFindings_eq {s : Settings} {k : K} {model : Option (Carrier k)}
    (hmodel : s.strategy = .force ∨ model ≠ none) (run : Option (Carrier k) → Except Fault (List Finding)) (depth : Nat) :
    arriveFindings s run model depth = s.checkDepth depth >>= fun _ => run (s.seen model) := by
  unfold arriveFindings Settings.seen
  by_cases hs : s.strategy = .force
  · have hforced : s.isForced = true := decide_eq_true hs
    simp only [hforced, ↓reduceIte]
  · have hplain : s.isForced = false := decide_eq_false hs
    obtain ⟨model, rfl⟩ := Option.ne_none_iff_exists'.1 (hmodel.resolve_left hs)
    simp only [hplain, Bool.false_eq_true, ↓reduceIte]

theorem findings_append {s : Settings} (lookup : Lookup K) {m : K} (as bs : List (Scope K m)) {model : Option (Carrier m)}
    (hmodel : s.strategy = .force ∨ model ≠ none) (depth : Nat) :
    findings s lookup (.ofList (as ++ bs)) model depth = do
      return (← findings s lookup (.ofList as) model depth) ++ (← findings s lookup (.ofList bs) model depth) := by
  simp only [findings, arriveFindings_eq hmodel, Specification.findings_append]
  cases s.checkDepth depth <;> rfl

/-! ### Trees of scopes -/

/-- The outcome of two lists of findings one behind the other, as a tree. -/
theorem map_append_ofFindings (x y : Except Fault (List Finding)) :
    (do return (← x) ++ (← y) : Except Fault (List Finding)).map ofFindings = do
      return .merge [← x.map ofFindings, ← y.map ofFindings] := by
  cases x with
  | error fault => rfl
  | ok fs =>
    cases y with
    | error fault => rfl
    | ok gs => exact congrArg Except.ok (merge_ofFindings fs gs).symm

theorem tidy_of_walk {s : Settings} {lookup : Lookup K} {m : K} {spec : Specification K m} {model : Option (Carrier m)}
    {depth : Nat} {t : ErrorTree} (h : walk s lookup spec model depth = .ok t) : t.Tidy := by
  rw [walk_eq_findings] at h
  obtain ⟨fs, -, rfl⟩ := map_eq_ok.1 h
  exact ErrorTree.tidy_grouping _

/-- **Scopes do not disturb one another.**  A walk through two lists of scopes fails where the walk through the first one
fails, and else where the walk through the second one does.  Where neither fails, its tree is the merge of theirs: every
node has the errors of the first tree and then those of the second, and its members in the order in which they first
come. -/
theorem walk_append {s : Settings} (lookup : Lookup K) {m : K} (as bs : List (Scope K m)) {model : Option (Carrier m)}
    (hmodel : s.strategy = .force ∨ model ≠ none) (depth : Nat) :
    (∀ fault, walk s lookup (.ofList (as ++ bs)) model depth = .error fault ↔
      walk s lookup (.ofList as) model depth = .error fault ∨
        (∃ a, walk s lookup (.ofList as) model depth = .ok a) ∧ walk s lookup (.ofList bs) model depth = .error fault) ∧
    ∀ a b, walk s lookup (.ofList as) model depth = .ok a → walk s lookup (.ofList bs) model depth = .ok b →
      walk s lookup (.ofList (as ++ bs)) model depth = .ok (.merge [a, b]) ∧
      ∀ path, (ErrorTree.merge [a, b]).errorsAt path = a.errorsAt path ++ b.errorsAt path ∧
        (ErrorTree.merge [a, b]).keysAt path = (a.keysAt path ++ b.keysAt path).eraseDups := by
  have hwalk : walk s lookup (.ofList (as ++ bs)) model depth = do
      return .merge [← walk s lookup (.ofList as) model depth, ← walk s lookup (.ofList bs) model depth] := by
    simp only [walk_eq_findings, findings_append lookup as bs hmodel, map_append_ofFindings]
  refine ⟨fun fault => ?_, fun a b ha hb => ⟨?_, fun path => ?_⟩⟩
  · rw [hwalk]
    cases walk s lookup (.ofList as) model depth with
    | error first => simp [bind, Except.bind]
    | ok a => cases walk s lookup (.ofList bs) model depth <;> simp [bind, Except.bind, pure, Except.pure]
  · rw [hwalk, ha, hb]
    rfl
  · have htidy : ∀ t ∈ [a, b], t.Tidy := by
      intro t ht
      simp only [List.mem_cons, List.not_mem_nil, or_false] at ht
      rcases ht with rfl | rfl
      · exact tidy_of_walk ha
      · exact tidy_of_walk hb
    simp [ErrorTree.errorsAt_merge htidy, ErrorTree.keysAt_merge htidy]

namespace Employee

def deputyScopes : List (Scope StaffType .employee) :=
  [.field (v := StaffType.staff) "Deputies" ⟨"deputies", deputies⟩ (.mk (.ofList [.eachNullable id deputyChain]) [])]

/-- One deputy is enough, and names are short. -/
def briefScopes : List (Scope StaffType .employee) :=
  [.field (v := StaffType.staff) "Staff" ⟨"deputies", deputies⟩
      (.mk (.ofList [.valid (Check.maxItems 1)]) [.named "Deputies"]),
    .model briefChain]

/-- What is found in the deputies of the employee that has two. -/
def deputyTree : ErrorTree :=
  .node [] [("Deputies", .node [] [("0", namelessTree), ("1", .node [.ofTemplate "Global.Required"] [])])]

/-- What is found in this employee's name and in the number of deputies. -/
def briefTree : ErrorTree :=
  .node [.ofTemplate "Brief"] [("Deputies", .node [⟨"Collections.MaxItems", [⟨"max", .number (.integer 1)⟩]⟩] [])]

end Employee

theorem walk_append_deputies :
    (Employee.settings.strategy = .force ∨ some Employee.withDeputies ≠ none) ∧
      walk Employee.settings Employee.registry.lookup (.ofList (Employee.deputyScopes ++ Employee.briefScopes))
          (some Employee.withDeputies) 0 = .ok (.merge [Employee.deputyTree, Employee.briefTree]) ∧
      (ErrorTree.merge [Employee.deputyTree, Employee.briefTree]).keysAt ["Deputies"] = ["0", "1"] := by
  have hmodel : Employee.settings.strategy = .force ∨ some Employee.withDeputies ≠ none := .inr (by simp)
  obtain ⟨-, hboth⟩ := walk_append (s := Employee.settings) Employee.registry.lookup Employee.deputyScopes
    Employee.briefScopes hmodel 0
  obtain ⟨hwalk, hmerge⟩ := hboth Employee.deputyTree Employee.briefTree (by rfl) (by rfl)
  exact ⟨hmodel, hwalk, (hmerge ["Deputies"]).2⟩

end ModelValidation
