import ModelValidation.Proofs.Merging

/-!
# Trees by their construction

A tree comes about by the operations on trees, in any order and nesting.  Every construction has a history, the errors
in the order in which they came in, each with the path of its node, and its tree is the grouping of this history:

* `tree_eq_grouping`: a tree is the grouping of the history of its construction;
* `isEmpty_iff_count`, `hasMembers_iff`, `isSome_member?_iff`: what is empty, what has members and what is a member, by the
  errors that a tree holds;
* `no_node_is_empty`: all of this at every node of a tree, however it was put together.
-/

namespace ModelValidation.ErrorTree

/-! ### Constructions -/

/-- A way to put a tree together. -/
inductive Construction where
  | empty
  | ofError (e : ValidationError)
  | addError (c : Construction) (e : ValidationError)
  | addMemberError (c : Construction) (key : String) (e : ValidationError)
  | addMember (c : Construction) (key : String) (d : Construction)
  | merge (cs : List Construction)
  | absorb (c d : Construction)
  | mapErrors (f : ValidationError → ValidationError) (c : Construction)

namespace Construction

mutual

/-- The tree that is put together. -/
def tree : Construction → ErrorTree
  | .empty => .empty
  | .ofError e => .ofError e
  | .addError c e => c.tree.addError e
  | .addMemberError c key e => c.tree.addMemberError key e
  | .addMember c key d => c.tree.addMember key d.tree
  | .merge cs => ErrorTree.merge (trees cs)
  | .absorb c d => ErrorTree.absorb c.tree d.tree
  | .mapErrors f c => c.tree.mapErrors f

/-- The trees that are put together. -/
def trees : List Construction → List ErrorTree
  | [] => []
  | c :: cs => c.tree :: trees cs

end

mutual

/-- The errors in the order in which they come in, with the paths and in the forms that they have in the end. -/
def history : Construction → List Placed
  | .empty => []
  | .ofError e => [([], e)]
  | .addError c e => c.history ++ [([], e)]
  | .addMemberError c key e => c.history ++ [([key], e)]
  | .addMember c key d => c.history ++ d.history.map (Placed.under key)
  | .merge cs => histories cs
  | .absorb c d => c.history ++ d.history
  | .mapErrors f c => c.history.map (Placed.mapRoot f)

/-- One history behind the other. -/
def histories : List Construction → List Placed
  | [] => []
  | c :: cs => c.history ++ histories cs

end

-- one case for each operation: what it does to a grouping, it does to the list that is grouped
mutual

/-- **A tree is the grouping of its history.** -/
theorem tree_eq_grouping : ∀ c : Construction, c.tree = grouping c.history
  | .empty => rfl
  | .ofError _ => rfl
  | .addError c e => by
    rw [tree, history, tree_eq_grouping c, grouping, grouping, addAll_append]
    rfl
  | .addMemberError c key e => by
    rw [tree, history, tree_eq_grouping c, grouping, grouping, addAll_append]
    rfl
  | .addMember c key d => by
    rw [tree, history, tree_eq_grouping c, tree_eq_grouping d, addMember_grouping, grouping, grouping, addAll_append]
  | .merge cs => by rw [tree, history, ErrorTree.merge, foldl_trees cs, grouping]
  | .absorb c d => by
    rw [tree, history, tree_eq_grouping c, tree_eq_grouping d, absorb_grouping, grouping, grouping, addAll_append]
  | .mapErrors f c => by rw [tree, history, tree_eq_grouping c, mapErrors_grouping]

theorem foldl_trees : ∀ (cs : List Construction) (t : ErrorTree),
    (trees cs).foldl ErrorTree.absorb t = t.addAll (histories cs)
  | [], _ => rfl
  | c :: cs, t => by
    rw [trees, histories, List.foldl_cons, tree_eq_grouping c, absorb_grouping, foldl_trees cs, addAll_append]

end

theorem tidy_tree (c : Construction) : c.tree.Tidy := by
  rw [tree_eq_grouping]
  exact tidy_grouping _

end Construction

/-! ### Nodes of tidy trees -/

section Tidy

variable {t u : ErrorTree}

theorem tidy_of_at? (ht : t.Tidy) {path : List String} (hu : t.at? path = some u) : u.Tidy := by
  induction path generalizing t with
  | nil =>
    cases hu
    exact ht
  | cons key path ih =>
    obtain ⟨v, hv, hu⟩ := Option.bind_eq_some_iff.1 hu
    exact ih (tidy_of_get? ((tidy_iff t).1 ht).2 hv) hu

theorem keysAt_of_at? {path : List String} (hu : t.at? path = some u) : t.keysAt path = u.members.map Prod.fst := by
  rw [keysAt, hu]
  rfl

theorem not_isEmpty_of_mem (ht : t.Tidy) {m : String × ErrorTree} (hm : m ∈ t.members) : m.2.isEmpty = false := by
  have hms := ((tidy_iff t).1 ht).2
  generalize t.members = ms at hms hm
  induction ms with
  | nil => cases hm
  | cons n ms ih =>
    obtain ⟨hne, -, hrest⟩ := hms
    rcases List.mem_cons.1 hm with rfl | hm
    · exact hne
    · exact ih hrest hm

/-- A tree is empty when it holds no error. -/
theorem isEmpty_iff_count (ht : t.Tidy) : t.isEmpty = true ↔ t.count = 0 := by
  rw [← grouping_listed ht, isEmpty_grouping, count_grouping, List.isEmpty_iff, List.length_eq_zero_iff]

theorem errorsAt_ne_nil_iff (ps : List Placed) (place : List String) :
    (grouping ps).errorsAt place ≠ [] ↔ ∃ e, (place, e) ∈ ps := by
  rw [errorsAt_grouping, Ne, List.map_eq_nil_iff, List.filter_eq_nil_iff]
  simp

/-- There are members under the keys that errors below the node begin with. -/
theorem mem_keys_iff_errorsAt (ht : t.Tidy) (key : String) :
    key ∈ t.members.map Prod.fst ↔ ∃ place, t.errorsAt (key :: place) ≠ [] := by
  rw [← keysAt_nil, ← grouping_listed ht, keysAt_grouping, List.mem_eraseDups, List.mem_filterMap]
  constructor
  · rintro ⟨⟨path, e⟩, hp, hnext⟩
    cases path with
    | nil => cases hnext
    | cons k place =>
      cases hnext
      exact ⟨place, (errorsAt_ne_nil_iff _ _).2 ⟨e, hp⟩⟩
  · rintro ⟨place, h⟩
    obtain ⟨e, hp⟩ := (errorsAt_ne_nil_iff _ _).1 h
    exact ⟨(key :: place, e), hp, rfl⟩

/-- A tree has members when it holds an error below its root. -/
theorem hasMembers_iff (ht : t.Tidy) : t.hasMembers = true ↔ ∃ key place, t.errorsAt (key :: place) ≠ [] := by
  have hkeys : t.hasMembers = true ↔ ∃ key, key ∈ t.members.map Prod.fst := by
    rw [hasMembers]
    cases t.members with
    | nil => simp
    | cons m ms => simp
  rw [hkeys]
  exact exists_congr (mem_keys_iff_errorsAt ht)

/-- There is a member under a key when the tree holds an error there. -/
theorem isSome_member?_iff (ht : t.Tidy) (key : String) :
    (t.member? key).isSome ↔ ∃ place, t.errorsAt (key :: place) ≠ [] := by
  rw [← mem_keys_iff_errorsAt ht, member?]
  constructor
  · intro h
    by_contra hnot
    rw [Keyed.get?_of_notMem hnot] at h
    cases h
  · intro h
    obtain ⟨⟨k, v⟩, hm, rfl⟩ := List.mem_map.1 h
    rw [Keyed.get?_of_mem ((tidy_iff t).1 ht).1 hm]
    rfl

end Tidy

/-- **No node of a tree is empty.**  At every node of a tree that is put together in any way, the keys of the members are
distinct and stand in the order in which the history of the tree first has them, and no member is empty.  So the node
is empty just if it holds no error, it has members just if it holds an error below itself, and a member under a key just if
it holds an error there. -/
theorem no_node_is_empty (c : Construction) {path : List String} {u : ErrorTree} (hu : c.tree.at? path = some u) :
    (u.members.map Prod.fst).Nodup ∧
      u.members.map Prod.fst = (c.history.filterMap (next? path ·.1)).eraseDups ∧
      (∀ m ∈ u.members, m.2.isEmpty = false) ∧ (u.isEmpty = true ↔ u.count = 0) ∧
      (u.hasMembers = true ↔ ∃ key place, u.errorsAt (key :: place) ≠ []) ∧
      ∀ key, (u.member? key).isSome ↔ ∃ place, u.errorsAt (key :: place) ≠ [] := by
  have ht : u.Tidy := tidy_of_at? c.tidy_tree hu
  refine ⟨((tidy_iff u).1 ht).1, ?_, fun _ => not_isEmpty_of_mem ht, isEmpty_iff_count ht, hasMembers_iff ht,
    isSome_member?_iff ht⟩
  rw [← keysAt_of_at? hu, c.tree_eq_grouping, keysAt_grouping]

/-- A form with an address that comes in two halves, and with notes that have no errors. -/
def formConstruction : Construction :=
  .mapErrors (·.withTemplate "Form.Invalid")
    (.absorb
      (.addMember (.addMember (.ofError (.ofTemplate "Global.Error")) "Notes" (.merge [])) "Address"
        (.addMemberError .empty "Street" (.ofTemplate "Texts.MinLength")))
      (.addMember .empty "Address"
        (.merge [.addMemberError .empty "City" (.ofTemplate "Global.Required"), .empty,
          .addMemberError (.addError .empty (.ofTemplate "Global.Error")) "Street" (.ofTemplate "Texts.Matches")])))

/-- The node of the address. -/
def formAddress : ErrorTree :=
  .node [.ofTemplate "Global.Error"]
    [("Street", .node [.ofTemplate "Texts.MinLength", .ofTemplate "Texts.Matches"] []),
      ("City", .node [.ofTemplate "Global.Required"] [])]

theorem no_node_is_empty_address :
    formConstruction.tree.at? ["Address"] = some formAddress ∧
      ["Street", "City"] = (formConstruction.history.filterMap (next? ["Address"] ·.1)).eraseDups ∧
      (∀ m ∈ formAddress.members, m.2.isEmpty = false) ∧ formAddress.hasMembers = true ∧
      (formAddress.member? "City").isSome ∧ ¬(formAddress.member? "Notes").isSome := by
  have hat : formConstruction.tree.at? ["Address"] = some formAddress := rfl
  obtain ⟨-, hkeys, hmembers, -, hsome, hmember⟩ := no_node_is_empty formConstruction hat
  have hcity : formAddress.errorsAt ["City"] ≠ [] := List.cons_ne_nil _ _
  have hnotes : ∀ place, formAddress.errorsAt ("Notes" :: place) = [] := by
    intro place
    rw [errorsAt_cons]
    exact errorsAt_empty place
  refine ⟨hat, hkeys, hmembers, hsome.2 ⟨"City", [], hcity⟩, (hmember "City").2 ⟨[], hcity⟩, fun h => ?_⟩
  obtain ⟨place, hplace⟩ := (hmember "Notes").1 h
  exact hplace (hnotes place)

end ModelValidation.ErrorTree
