import Mathlib.Data.List.Basic
import ModelValidation.Proofs.Naming

/-!
# JSON trees of results

A JSON tree is read back into a tree of messages: an array is a node without members, an object is a node whose own
messages are under the empty key and whose other entries are its members in order.  A member with the empty key would
be taken for the node's own messages; without such members nothing is lost:

* `valueFrom_eq_written`: a value that is written entry by entry is the value of the tree as a whole;
* `messageTree?_written`, `strings_written`: what is read back, and how many messages there are;
* `tree_loses_nothing`: both for results.
-/

namespace ModelValidation

/-! ### Trees of messages -/

/-- Messages at a place and at the places below it. -/
inductive MessageTree where
  | node (messages : List String) (members : List (String × MessageTree))

mutual

/-- The tree with the text of each error in its place. -/
def ErrorTree.rendered (wording : Wording) : ErrorTree → MessageTree
  | .node es ms => .node (es.map wording.render) (renderedMembers wording ms)

/-- Members with the text of each error in its place. -/
def ErrorTree.renderedMembers (wording : Wording) : List (String × ErrorTree) → List (String × MessageTree)
  | [] => []
  | (key, t) :: ms => (key, rendered wording t) :: renderedMembers wording ms

end

/-! ### Reading JSON trees -/

namespace JsonValue

/-- The text of a string. -/
def text? : JsonValue → Option String
  | .string s => some s
  | _ => none

/-- The texts of an array of strings. -/
def texts? : JsonValue → Option (List String)
  | .array items => items.mapM text?
  | _ => none

/-- The messages that an object has for its own node. -/
def ownTexts? (entries : List (String × JsonValue)) : Option (List String) :=
  match Keyed.get? Report.ownKey entries with
  | some v => v.texts?
  | none => some []

mutual

/-- The tree that a value stands for. -/
def messageTree? : JsonValue → Option MessageTree
  | .array items => do
    let own ← texts? (.array items)
    return .node own []
  | .object entries => do
    let own ← ownTexts? entries
    let members ← memberTrees? entries
    return .node own members
  | _ => none

/-- The members that entries stand for. -/
def memberTrees? : List (String × JsonValue) → Option (List (String × MessageTree))
  | [] => some []
  | (key, v) :: rest =>
    if key = Report.ownKey then memberTrees? rest
    else do
      let t ← messageTree? v
      let members ← memberTrees? rest
      return (key, t) :: members

end

mutual

/-- The number of strings in a value, keys aside. -/
def strings : JsonValue → Nat
  | .string _ => 1
  | .array items => stringsOfItems items
  | .object entries => stringsOfEntries entries
  | _ => 0

/-- The number of strings in items. -/
def stringsOfItems : List JsonValue → Nat
  | [] => 0
  | v :: vs => strings v + stringsOfItems vs

/-- The number of strings in the values of entries. -/
def stringsOfEntries : List (String × JsonValue) → Nat
  | [] => 0
  | (_, v) :: es => strings v + stringsOfEntries es

end

theorem texts?_messageArray (wording : Wording) (t : ErrorTree) :
    (Report.messageArray wording t).texts? = some (t.errors.map wording.render) := by
  rw [Report.messageArray, texts?, Report.messages]
  generalize t.errors.map wording.render = texts
  induction texts with
  | nil => rfl
  | cons s texts ih =>
    rw [List.map_cons, List.mapM_cons, ih]
    rfl

theorem strings_messageArray (wording : Wording) (t : ErrorTree) :
    (Report.messageArray wording t).strings = t.errors.length := by
  rw [Report.messageArray, strings, Report.messages]
  induction t.errors with
  | nil => rfl
  | cons e es ih =>
    rw [List.map_cons, List.map_cons, stringsOfItems, ih, strings, List.length_cons]
    omega

theorem stringsOfEntries_append (es fs : List (String × JsonValue)) :
    stringsOfEntries (es ++ fs) = stringsOfEntries es + stringsOfEntries fs := by
  induction es with
  | nil => simp [stringsOfEntries]
  | cons e es ih =>
    obtain ⟨key, v⟩ := e
    rw [List.cons_append, stringsOfEntries, stringsOfEntries, ih]
    omega

end JsonValue

/-! ### The value of a tree as a whole -/

namespace Report

open JsonValue

/-- The entry of a node's own messages, if it has some. -/
def ownEntry (wording : Wording) (es : List ValidationError) (ms : List (String × ErrorTree)) :
    List (String × JsonValue) :=
  if es.isEmpty then [] else [(ownKey, messageArray wording (.node es ms))]

mutual

/-- The value that stands for a tree. -/
def written (wording : Wording) : ErrorTree → JsonValue
  | .node es ms =>
    if ms.isEmpty then messageArray wording (.node es ms)
    else .object (ownEntry wording es ms ++ writtenMembers wording ms)

/-- The entries that stand for members. -/
def writtenMembers (wording : Wording) : List (String × ErrorTree) → List (String × JsonValue)
  | [] => []
  | (key, t) :: ms => (key, written wording t) :: writtenMembers wording ms

end

theorem keys_writtenMembers (wording : Wording) (ms : List (String × ErrorTree)) :
    (writtenMembers wording ms).map Prod.fst = ms.map Prod.fst := by
  induction ms with
  | nil => rfl
  | cons m ms ih =>
    obtain ⟨key, t⟩ := m
    rw [writtenMembers, List.map_cons, List.map_cons, ih]

/-- No member in the tree has the key of a node's own errors. -/
def Apart (t : ErrorTree) : Prop := ∀ path, ownKey ∉ t.keysAt path

theorem Apart.of_mem {es : List ValidationError} {ms : List (String × ErrorTree)} (ht : (ErrorTree.node es ms).Tidy)
    (h : Apart (.node es ms)) {m : String × ErrorTree} (hm : m ∈ ms) : m.1 ≠ ownKey ∧ Apart m.2 := by
  constructor
  · intro hkey
    exact h [] (hkey ▸ List.mem_map_of_mem hm)
  · intro path hmem
    have hmember : (ErrorTree.node es ms).member? m.1 = some m.2 := Keyed.get?_of_mem ((ErrorTree.tidy_iff _).1 ht).1 hm
    refine h (m.1 :: path) ?_
    rw [ErrorTree.keysAt_cons, hmember]
    exact hmem

-- what has been written already stands before the entries of the members, whose keys are all new
mutual

/-- **A value written entry by entry is the value of the tree as a whole.** -/
theorem valueFrom_eq_written {wording : Wording} {maxDepth : Nat} : ∀ {t : ErrorTree} {level : Nat} {v : JsonValue},
    t.Tidy → Apart t → valueFrom wording maxDepth level t = .ok v → v = written wording t
  | .node es [], level, v, _, _, hv => by
    obtain ⟨_, -, hv⟩ := bind_eq_ok.1 hv
    cases hv
    rfl
  | .node es (m :: ms), level, v, ht, h, hv => by
    obtain ⟨_, -, hv⟩ := bind_eq_ok.1 hv
    obtain ⟨entries, hentries, hv⟩ := bind_eq_ok.1 hv
    cases hv
    have hnew : ((ownEntry wording es (m :: ms)).map Prod.fst).Disjoint ((m :: ms).map Prod.fst) := by
      unfold ownEntry
      split
      · exact List.disjoint_nil_left _
      · exact List.singleton_disjoint.2 (h [])
    have hms : ∀ n ∈ m :: ms, Apart n.2 := fun n hn => (h.of_mem ht hn).2
    have hwritten := entriesFrom_eq_written ht.2 ht.1 hms hnew hentries
    rw [hwritten]
    rfl

theorem entriesFrom_eq_written {wording : Wording} {maxDepth : Nat} : ∀ {ms : List (String × ErrorTree)} {level : Nat}
    {before entries : List (String × JsonValue)}, ErrorTree.TidyMembers ms → (ms.map Prod.fst).Nodup →
    (∀ m ∈ ms, Apart m.2) → (before.map Prod.fst).Disjoint (ms.map Prod.fst) →
    entriesFrom wording maxDepth level before ms = .ok entries → entries = before ++ writtenMembers wording ms
  | [], _, before, entries, _, _, _, _, hentries => by
    cases hentries
    exact (List.append_nil _).symm
  | (key, t) :: ms, level, before, entries, ht, hkeys, h, hnew, hentries => by
    obtain ⟨-, ht, hms⟩ := ht
    rw [List.map_cons, List.nodup_cons] at hkeys
    rw [List.map_cons, List.disjoint_cons_right] at hnew
    obtain ⟨v, hv, hentries⟩ := bind_eq_ok.1 hentries
    have hvalue : v = written wording t := valueFrom_eq_written ht (h (key, t) List.mem_cons_self) hv
    have hput : Keyed.put key v before = before ++ [(key, v)] := Keyed.upsert_of_notMem _ hnew.1
    have hrest : ((before ++ [(key, v)]).map Prod.fst).Disjoint (ms.map Prod.fst) := by
      rw [List.map_append, List.disjoint_append_left]
      exact ⟨hnew.2, List.singleton_disjoint.2 hkeys.1⟩
    rw [hput] at hentries
    have hms' : ∀ m ∈ ms, Apart m.2 := fun m hm => h m (List.mem_cons_of_mem _ hm)
    rw [entriesFrom_eq_written hms hkeys.2 hms' hrest hentries, hvalue, List.append_assoc]
    rfl

end

/-! ### What is read back -/

theorem ownTexts?_written (wording : Wording) (es : List ValidationError) {ms : List (String × ErrorTree)}
    (h : ownKey ∉ ms.map Prod.fst) :
    ownTexts? (ownEntry wording es ms ++ writtenMembers wording ms) = some (es.map wording.render) := by
  cases es with
  | nil =>
    have hnone : Keyed.get? ownKey (writtenMembers wording ms) = none :=
      Keyed.get?_of_notMem ((keys_writtenMembers wording ms).symm ▸ h)
    simp only [ownEntry, List.isEmpty_nil, ↓reduceIte, List.nil_append, ownTexts?, hnone, List.map_nil]
  | cons e es =>
    have hown : Keyed.get? ownKey (ownEntry wording (e :: es) ms ++ writtenMembers wording ms) =
        some (messageArray wording (.node (e :: es) ms)) := rfl
    rw [ownTexts?, hown]
    exact texts?_messageArray wording (.node (e :: es) ms)

theorem memberTrees?_ownEntry (wording : Wording) (es : List ValidationError) (ms : List (String × ErrorTree))
    (entries : List (String × JsonValue)) : memberTrees? (ownEntry wording es ms ++ entries) = memberTrees? entries := by
  unfold ownEntry
  split
  · rfl
  · rw [List.singleton_append, memberTrees?, if_pos rfl]

mutual

/-- **What has been written is read back.** -/
theorem messageTree?_written (wording : Wording) : ∀ {t : ErrorTree}, t.Tidy → Apart t →
    (written wording t).messageTree? = some (t.rendered wording)
  | .node es [], _, _ => by
    have htexts := texts?_messageArray wording (.node es [])
    simp only [written, List.isEmpty_nil, ↓reduceIte]
    rw [messageArray, messageTree?, ← messageArray, htexts]
    rfl
  | .node es (m :: ms), ht, h => by
    have hown : ownTexts? (ownEntry wording es (m :: ms) ++ writtenMembers wording (m :: ms)) =
        some (es.map wording.render) := ownTexts?_written wording es (h [])
    have hms : ∀ n ∈ m :: ms, n.1 ≠ ownKey ∧ Apart n.2 := fun n hn => h.of_mem ht hn
    simp only [written, List.isEmpty_cons, Bool.false_eq_true, ↓reduceIte]
    rw [messageTree?, hown, memberTrees?_ownEntry, memberTrees?_written wording ht.2 hms]
    rfl

theorem memberTrees?_written (wording : Wording) : ∀ {ms : List (String × ErrorTree)}, ErrorTree.TidyMembers ms →
    (∀ m ∈ ms, m.1 ≠ ownKey ∧ Apart m.2) →
    memberTrees? (writtenMembers wording ms) = some (ErrorTree.renderedMembers wording ms)
  | [], _, _ => by rw [writtenMembers, memberTrees?, ErrorTree.renderedMembers]
  | (key, t) :: ms, ht, h => by
    obtain ⟨-, ht, hms⟩ := ht
    obtain ⟨hkey, hapart⟩ := h (key, t) List.mem_cons_self
    have hrest := memberTrees?_written wording hms fun m hm => h m (List.mem_cons_of_mem _ hm)
    rw [writtenMembers, memberTrees?, if_neg hkey, messageTree?_written wording ht hapart, hrest]
    rfl

end

mutual

/-- Every error is written once. -/
theorem strings_written (wording : Wording) : ∀ t : ErrorTree, (written wording t).strings = t.count
  | .node es [] => by
    have hown := strings_messageArray wording (.node es [])
    simp only [written, List.isEmpty_nil, ↓reduceIte, hown, ErrorTree.count, ErrorTree.countMembers]
    rfl
  | .node es (m :: ms) => by
    have hown : stringsOfEntries (ownEntry wording es (m :: ms)) = es.length := by
      cases es with
      | nil => rfl
      | cons e es =>
        have harray := strings_messageArray wording (.node (e :: es) (m :: ms))
        simp only [ownEntry, List.isEmpty_cons, Bool.false_eq_true, ↓reduceIte, stringsOfEntries, harray]
        rfl
    simp only [written, List.isEmpty_cons, Bool.false_eq_true, ↓reduceIte]
    rw [strings, stringsOfEntries_append, hown, strings_writtenMembers wording (m :: ms), ErrorTree.count]

theorem strings_writtenMembers (wording : Wording) : ∀ ms : List (String × ErrorTree),
    stringsOfEntries (writtenMembers wording ms) = ErrorTree.countMembers ms
  | [] => rfl
  | (key, t) :: ms => by
    rw [writtenMembers, stringsOfEntries, strings_written wording t, strings_writtenMembers wording ms,
      ErrorTree.countMembers]

end

/-- A tree that is written is read back, and every error in it is written once. -/
theorem messageTree?_tree {wording : Wording} {maxDepth : Nat} {t : ErrorTree} {json : JsonValue} (ht : t.Tidy)
    (h : Apart t) (hjson : tree wording maxDepth t = .ok json) :
    json.messageTree? = some (t.rendered wording) ∧ json.strings = t.count := by
  rw [tree] at hjson
  split at hjson
  · next hempty =>
    obtain rfl := ErrorTree.eq_empty_of_isEmpty hempty
    cases hjson
    exact ⟨rfl, rfl⟩
  · rw [valueFrom_eq_written ht h hjson]
    exact ⟨messageTree?_written wording ht h, strings_written wording t⟩

-- a member with the empty key takes the place of the node's own errors
example : (tree none 10 (.node [.ofTemplate "A"] [(ownKey, .ofError (.ofTemplate "B"))])).map JsonValue.strings = .ok 1 := by
  rfl

end Report

/-! ### Trees of results -/

section Results

variable {K : Type} [ValueTypes K] [DecidableEq K] {k : K} {r : ValidationResult K k}

/-- **The JSON tree of a result loses nothing.**  No member has the key of a node's own errors; so whatever the wording
is, the tree can be written and is read back with every text and member in its place, and each error is written once. -/
theorem tree_loses_nothing (h : Issued r) (wording : Wording) :
    (∀ path, "" ∉ r.errors.keysAt path) ∧
      ∃ json, r.tree wording = .ok json ∧ json.messageTree? = some (r.errors.rendered wording) ∧
        json.strings = r.errors.count := by
  obtain ⟨fs, hfs, -⟩ := h.ofFindings
  obtain ⟨gs, hgs, hwithin⟩ := h.obtained.ofFindings
  have htidy : r.errors.Tidy := hfs ▸ ErrorTree.tidy_grouping _
  have hdepth : r.errors.depth ≤ r.maxDepth + 1 := hgs ▸ depth_ofFindings_le_iff.2 hwithin
  obtain ⟨json, hjson⟩ := Report.tree_of_depth_le wording hdepth
  obtain ⟨hread, hstrings⟩ := Report.messageTree?_tree htidy h.keysAt_ne_empty hjson
  exact ⟨h.keysAt_ne_empty, json, hjson, hread, hstrings⟩

end Results

namespace Employee

/-- The employees' registry with the options that hold by default, and with English phrases only. -/
def englishValidator : Validator StaffType := ⟨.default, registry, ⟨[English.phrasebook]⟩⟩

theorem build_englishValidator : Validator.build .default registry [] = .ok englishValidator := by rfl

theorem grown_registry : registry.Grown AcceptedOrFault := by
  refine .register .empty specification fun spec hspec => ?_
  cases hspec
  refine ⟨⟨specification.toList, by rfl⟩, ?_⟩
  simp [specification, Specification.ofList, Specification.HoldsBuilt, Scope.HoldsBuilt, Chain.HoldsBuilt, Rules.ofList,
    Rules.HoldsBuilt, Rule.HoldsBuilt, nameChain, skillChain, deputyChain, briefChain]

theorem issued_both : Issued both :=
  .merged (.validated (k := StaffType.employee) grown_registry build_englishValidator [] (some withDeputies) .none (by rfl))
    (.validated (k := StaffType.employee) grown_registry build_englishValidator [] (some nameless) ⟨none, none, some 1⟩
      (by rfl))

end Employee

theorem tree_loses_nothing_both :
    Issued Employee.both ∧ "" ∉ Employee.both.errors.keysAt ["Deputies"] ∧
      ∃ json, Employee.both.tree none = .ok json ∧
        json.messageTree? = some (Employee.both.errors.rendered none) ∧ json.strings = 8 := by
  obtain ⟨hkeys, json, hjson, hread, hstrings⟩ := tree_loses_nothing Employee.issued_both none
  exact ⟨Employee.issued_both, hkeys ["Deputies"], json, hjson, hread, hstrings⟩

end ModelValidation
