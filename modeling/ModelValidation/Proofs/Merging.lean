import Mathlib.Algebra.Ring.Nat
import Mathlib.Data.List.Basic
import ModelValidation.Proofs.Grouping

/-!
# Merging trees

Whatever the operations on trees give is tidy, and a tidy tree is the grouping of its own errors, those of a node
listed before those of its members.  To merge trees is to group their lists one behind the other:

* `built_iff_tidy`: the trees that can be built are the tidy ones;
* `merge_eq_grouping`: a merge is a grouping of lists;
* `merge_ordered_monoid`: merging is associative, leaves out empty trees, and keeps every error in its place.
-/

namespace ModelValidation.ErrorTree

/-! ### The errors of a tree in a list -/

mutual

/-- The errors of the tree with their paths, those of a node before those of its members. -/
def listed : ErrorTree → List Placed
  | .node es ms => es.map (fun e => ([], e)) ++ listedMembers ms

/-- The errors of members, each with the key of its member in front. -/
def listedMembers : List (String × ErrorTree) → List Placed
  | [] => []
  | (key, t) :: ms => (listed t).map (Placed.under key) ++ listedMembers ms

end

theorem addAll_here (es fs : List ValidationError) (ms : List (String × ErrorTree)) :
    (node es ms).addAll (fs.map fun e => ([], e)) = node (es ++ fs) ms := by
  induction fs generalizing es with
  | nil => simp
  | cons f fs ih =>
    have hone : addAt f [] (node es ms) = node (es ++ [f]) ms := rfl
    rw [List.map_cons, addAll_cons, hone, ih]
    simp

theorem addMember_of_notMem {key : String} {u : ErrorTree} (es : List ValidationError)
    {ms : List (String × ErrorTree)} (hkey : key ∉ ms.map Prod.fst) (hu : u.isEmpty = false) :
    (node es ms).addMember key u = node es (ms ++ [(key, u)]) := by
  have hms : absorbMembers ms [(key, u)] = Keyed.upsert key (joined u) ms := by
    rw [absorbMembers_cons hu, absorbMembers]
  rw [addMember, errors_node, members_node, hms, Keyed.upsert_of_notMem _ hkey]
  rfl

-- the members come in one by one, each behind those that are there
mutual

/-- **A tidy tree is the grouping of its errors.** -/
theorem grouping_listed : ∀ {t : ErrorTree}, t.Tidy → grouping t.listed = t
  | .node es ms, h => by
    obtain ⟨hkeys, hms⟩ := h
    have hown : grouping (es.map fun e => ([], e)) = node es [] := addAll_here [] es []
    have hmembers : (node es []).addAll (listedMembers ms) = node es ([] ++ ms) :=
      addAll_listedMembers hms hkeys es (List.disjoint_nil_left _)
    rw [listed, grouping, addAll_append, ← grouping, hown, hmembers, List.nil_append]

theorem addAll_listedMembers : ∀ {ms : List (String × ErrorTree)}, TidyMembers ms → (ms.map Prod.fst).Nodup →
    ∀ (es : List ValidationError) {into : List (String × ErrorTree)},
      (into.map Prod.fst).Disjoint (ms.map Prod.fst) →
      (node es into).addAll (listedMembers ms) = node es (into ++ ms)
  | [], _, _, es, into, _ => by simp [listedMembers]
  | (key, t) :: ms, h, hkeys, es, into, hnew => by
    obtain ⟨hne, ht, hms⟩ := h
    rw [List.map_cons, List.nodup_cons] at hkeys
    rw [List.map_cons, List.disjoint_cons_right] at hnew
    have hone : (node es into).addAll (t.listed.map (Placed.under key)) = node es (into ++ [(key, t)]) := by
      rw [← addMember_grouping, grouping_listed ht, addMember_of_notMem es hnew.1 hne]
    have hrest : ((into ++ [(key, t)]).map Prod.fst).Disjoint (ms.map Prod.fst) := by
      rw [List.map_append, List.disjoint_append_left]
      exact ⟨hnew.2, List.singleton_disjoint.2 hkeys.1⟩
    rw [listedMembers, addAll_append, hone, addAll_listedMembers hms hkeys.2 es hrest, List.append_assoc]
    rfl

end

theorem absorb_eq_addAll (t : ErrorTree) {u : ErrorTree} (hu : u.Tidy) : absorb t u = t.addAll u.listed := by
  rw [← absorb_grouping, grouping_listed hu]

theorem tidy_addMember {t u : ErrorTree} (ht : t.Tidy) (key : String) (hu : u.Tidy) : (t.addMember key u).Tidy := by
  rw [← grouping_listed hu, addMember_grouping]
  exact tidy_addAll ht _

theorem tidy_of_get? {ms : List (String × ErrorTree)} (h : TidyMembers ms) {key : String} {u : ErrorTree}
    (hu : Keyed.get? key ms = some u) : u.Tidy := by
  induction ms with
  | nil => cases hu
  | cons m ms ih =>
    obtain ⟨k, t⟩ := m
    obtain ⟨-, ht, hms⟩ := h
    by_cases hk : k = key
    · rw [Keyed.get?, if_pos hk] at hu
      cases hu
      exact ht
    · rw [Keyed.get?, if_neg hk] at hu
      exact ih hms hu

/-! ### Merging lists of trees -/

section Merge

variable {cs : List ErrorTree}

theorem foldl_absorb (hcs : ∀ c ∈ cs, c.Tidy) (t : ErrorTree) : cs.foldl absorb t = t.addAll (cs.flatMap listed) := by
  induction cs generalizing t with
  | nil => rfl
  | cons c cs ih =>
    have hrest : ∀ d ∈ cs, d.Tidy := fun d hd => hcs d (List.mem_cons_of_mem c hd)
    rw [List.foldl_cons, ih hrest, absorb_eq_addAll t (hcs c List.mem_cons_self), List.flatMap_cons, addAll_append]

/-- **A merge is the grouping of all errors**, tree by tree. -/
theorem merge_eq_grouping (hcs : ∀ c ∈ cs, c.Tidy) : merge cs = grouping (cs.flatMap listed) :=
  foldl_absorb hcs empty

theorem tidy_merge (hcs : ∀ c ∈ cs, c.Tidy) : (merge cs).Tidy := by
  rw [merge_eq_grouping hcs]
  exact tidy_grouping _

/-- To add a merge is to add the trees one by one. -/
theorem absorb_merge (hcs : ∀ c ∈ cs, c.Tidy) (t : ErrorTree) : absorb t (merge cs) = cs.foldl absorb t := by
  rw [merge_eq_grouping hcs, absorb_grouping, foldl_absorb hcs]

theorem foldl_absorb_merges {css : List (List ErrorTree)} (h : ∀ c ∈ css.flatten, c.Tidy) (t : ErrorTree) :
    (css.map merge).foldl absorb t = css.flatten.foldl absorb t := by
  induction css generalizing t with
  | nil => rfl
  | cons cs css ih =>
    have hcs : ∀ c ∈ cs, c.Tidy := fun c hc => h c (List.mem_append_left _ hc)
    have hcss : ∀ c ∈ css.flatten, c.Tidy := fun c hc => h c (List.mem_append_right cs hc)
    rw [List.map_cons, List.foldl_cons, absorb_merge hcs, ih hcss, List.flatten_cons, List.foldl_append]

/-- Merges may be merged in any groups. -/
theorem merge_merges {css : List (List ErrorTree)} (h : ∀ c ∈ css.flatten, c.Tidy) :
    merge (css.map merge) = merge css.flatten :=
  foldl_absorb_merges h empty

theorem merge_single {c : ErrorTree} (hc : c.Tidy) : merge [c] = c := by
  have hone : ∀ d ∈ [c], d.Tidy := by
    intro d hd
    rw [List.mem_singleton] at hd
    exact hd ▸ hc
  rw [merge_eq_grouping hone, List.flatMap_cons, List.flatMap_nil, List.append_nil, grouping_listed hc]

theorem merge_empty_left {c : ErrorTree} (hc : c.Tidy) : merge [empty, c] = c := by
  have hstart : merge [empty, c] = merge [c] := by
    rw [merge, List.foldl_cons, absorb_empty, merge]
  rw [hstart, merge_single hc]

theorem merge_empty_right {c : ErrorTree} (hc : c.Tidy) : merge [c, empty] = c := by
  have hend : merge [c, empty] = merge [c] := absorb_empty _
  rw [hend, merge_single hc]

/-! ### Reading a merge -/

theorem errorsAt_eq_listed {t : ErrorTree} (ht : t.Tidy) (path : List String) :
    t.errorsAt path = (t.listed.filter (·.1 = path)).map Prod.snd := by
  rw [← errorsAt_grouping, grouping_listed ht]

theorem keysAt_eq_listed {t : ErrorTree} (ht : t.Tidy) (path : List String) :
    t.keysAt path = (t.listed.filterMap (next? path ·.1)).eraseDups := by
  rw [← keysAt_grouping, grouping_listed ht]

theorem count_eq_length {t : ErrorTree} (ht : t.Tidy) : t.count = t.listed.length := by
  rw [← count_grouping, grouping_listed ht]

theorem depth_le_iff {t : ErrorTree} (ht : t.Tidy) {n : Nat} : t.depth ≤ n ↔ ∀ p ∈ t.listed, p.1.length ≤ n := by
  rw [← depth_grouping_le_iff, grouping_listed ht]

theorem errorsAt_merge (hcs : ∀ c ∈ cs, c.Tidy) (path : List String) :
    (merge cs).errorsAt path = cs.flatMap (·.errorsAt path) := by
  rw [merge_eq_grouping hcs, errorsAt_grouping, List.filter_flatMap, List.map_flatMap]
  refine List.flatMap_congr fun c hc => ?_
  rw [errorsAt_eq_listed (hcs c hc)]

theorem eraseDups_append_eraseDups (js ks : List String) : (js ++ ks.eraseDups).eraseDups = (js ++ ks).eraseDups := by
  induction ks using List.reverseRecOn with
  | nil => simp
  | append_singleton ks k ih =>
    have hmem : k ∈ ks.eraseDups → k ∈ (js ++ ks).eraseDups := by
      intro hk
      rw [List.mem_eraseDups] at hk ⊢
      exact List.mem_append_right js hk
    rw [eraseDups_append_singleton, ← List.append_assoc, eraseDups_append_singleton]
    by_cases hk : k ∈ ks.eraseDups
    · rw [if_pos hk, if_pos (hmem hk), ih]
    · rw [if_neg hk, ← List.append_assoc, eraseDups_append_singleton, ih]

theorem eraseDups_eraseDups_append (js ks : List String) : (js.eraseDups ++ ks).eraseDups = (js ++ ks).eraseDups := by
  induction ks using List.reverseRecOn with
  | nil => simpa using eraseDups_append_eraseDups [] js
  | append_singleton ks k ih =>
    rw [← List.append_assoc, eraseDups_append_singleton, ih, ← List.append_assoc, eraseDups_append_singleton]

theorem eraseDups_flatMap {α : Type} (f : α → List String) (as : List α) :
    (as.flatMap fun a => (f a).eraseDups).eraseDups = (as.flatMap f).eraseDups := by
  induction as with
  | nil => rfl
  | cons a as ih =>
    rw [List.flatMap_cons, List.flatMap_cons, eraseDups_eraseDups_append, ← eraseDups_append_eraseDups, ih,
      eraseDups_append_eraseDups]

theorem keysAt_merge (hcs : ∀ c ∈ cs, c.Tidy) (path : List String) :
    (merge cs).keysAt path = (cs.flatMap (·.keysAt path)).eraseDups := by
  have hkeys : cs.flatMap (·.keysAt path) =
      cs.flatMap fun c => (c.listed.filterMap (next? path ·.1)).eraseDups :=
    List.flatMap_congr fun c hc => keysAt_eq_listed (hcs c hc) path
  rw [merge_eq_grouping hcs, keysAt_grouping, List.filterMap_flatMap, hkeys, eraseDups_flatMap]

theorem count_merge (hcs : ∀ c ∈ cs, c.Tidy) : (merge cs).count = (cs.map count).sum := by
  have hcount : cs.map count = cs.map fun c => c.listed.length :=
    List.map_congr_left fun c hc => count_eq_length (hcs c hc)
  rw [merge_eq_grouping hcs, count_grouping, List.length_flatMap, hcount]

theorem foldr_max_le_iff {ns : List Nat} {n : Nat} : ns.foldr max 0 ≤ n ↔ ∀ k ∈ ns, k ≤ n := by
  induction ns with
  | nil => simp
  | cons k ns ih => rw [List.foldr_cons, Nat.max_le, ih, List.forall_mem_cons]

theorem depth_merge (hcs : ∀ c ∈ cs, c.Tidy) : (merge cs).depth = (cs.map depth).foldr max 0 := by
  have hle : ∀ n, (merge cs).depth ≤ n ↔ (cs.map depth).foldr max 0 ≤ n := by
    intro n
    rw [merge_eq_grouping hcs, depth_grouping_le_iff, foldr_max_le_iff, List.forall_mem_map, List.forall_mem_flatMap]
    exact forall₂_congr fun c hc => (depth_le_iff (hcs c hc)).symm
  have hleft := (hle _).2 (Nat.le_refl _)
  have hright := (hle _).1 (Nat.le_refl _)
  omega

end Merge

/-! ### Trees that can be built -/

/-- What the operations on trees can give. -/
inductive Built : ErrorTree → Prop where
  | empty : Built empty
  | ofError (e : ValidationError) : Built (ofError e)
  | addError {t : ErrorTree} (h : Built t) (e : ValidationError) : Built (t.addError e)
  | addMemberError {t : ErrorTree} (h : Built t) (key : String) (e : ValidationError) : Built (t.addMemberError key e)
  | addMember {t u : ErrorTree} (h : Built t) (key : String) (hu : Built u) : Built (t.addMember key u)
  | merge {ts : List ErrorTree} (h : ∀ t ∈ ts, Built t) : Built (merge ts)
  | member {t u : ErrorTree} (h : Built t) {key : String} (hu : t.member? key = some u) : Built u

theorem Built.tidy {t : ErrorTree} (h : t.Built) : t.Tidy := by
  induction h with
  | empty => exact tidy_empty
  | ofError e => exact tidy_addAt e [] tidy_empty
  | addError _ e ih => exact tidy_addAt e [] ih
  | addMemberError _ key e ih => exact tidy_addAt e [key] ih
  | addMember _ key _ ih ihu => exact tidy_addMember ih key ihu
  | merge _ ih => exact tidy_merge ih
  | member _ hu ih => exact tidy_of_get? ((tidy_iff _).1 ih).2 hu

theorem built_addAt (e : ValidationError) (path : List String) {t : ErrorTree} (h : t.Built) : (addAt e path t).Built := by
  induction path generalizing t with
  | nil => exact h.addError e
  | cons key path ih =>
    have hone : t.addMember key (addAt e path empty) = addAt e (key :: path) t :=
      addMember_grouping t key [(path, e)]
    rw [← hone]
    exact h.addMember key (ih .empty)

/-- The trees that can be built are the tidy ones. -/
theorem built_iff_tidy {t : ErrorTree} : t.Built ↔ t.Tidy := by
  refine ⟨Built.tidy, fun h => ?_⟩
  rw [← grouping_listed h]
  generalize t.listed = ps
  induction ps using List.reverseRecOn with
  | nil => exact .empty
  | append_singleton ps p ih =>
    rw [grouping, addAll_append, ← grouping]
    exact built_addAt p.2 p.1 ih

/-- **Merging keeps every error in its place and order.**  Trees may be merged in any groups, and an empty one makes no
difference; at every path a merge has the errors of all trees, one tree after another, and the members in the order in
which the trees first have them. -/
theorem merge_ordered_monoid {cs : List ErrorTree} (hcs : ∀ c ∈ cs, c.Built) :
    (∀ css : List (List ErrorTree), css.flatten = cs → merge (css.map merge) = merge cs) ∧
      (∀ c ∈ cs, merge [c] = c ∧ merge [empty, c] = c ∧ merge [c, empty] = c) ∧
      (∀ path, (merge cs).errorsAt path = cs.flatMap (·.errorsAt path) ∧
        (merge cs).keysAt path = (cs.flatMap (·.keysAt path)).eraseDups) ∧
      (merge cs).count = (cs.map count).sum ∧ (merge cs).depth = (cs.map depth).foldr max 0 := by
  have htidy : ∀ c ∈ cs, c.Tidy := fun c hc => (hcs c hc).tidy
  refine ⟨?_, ?_, fun path => ⟨errorsAt_merge htidy path, keysAt_merge htidy path⟩, count_merge htidy,
    depth_merge htidy⟩
  · intro css hcss
    subst hcss
    exact merge_merges htidy
  · intro c hc
    have h := htidy c hc
    exact ⟨merge_single h, merge_empty_left h, merge_empty_right h⟩

/-- A form without a name and with a street too short. -/
def formBefore : ErrorTree :=
  (empty.addMemberError "Name" (.ofTemplate "Texts.NotEmpty")).addMember "Address"
    (empty.addMemberError "Street" (.ofTemplate "Texts.MinLength"))

/-- The form without a city, and with a street that is still too short. -/
def formAfter : ErrorTree :=
  (empty.addMember "Address"
    ((empty.addMemberError "City" (.ofTemplate "Global.Required")).addMemberError "Street"
      (.ofTemplate "Texts.MinLength"))).addError (.ofTemplate "Global.Error")

theorem built_forms : ∀ c ∈ [formBefore, empty, formAfter], c.Built := by
  have hstreet : (empty.addMemberError "Street" (.ofTemplate "Texts.MinLength")).Built := Built.empty.addMemberError _ _
  have hcity := (Built.empty.addMemberError "City" (.ofTemplate "Global.Required")).addMemberError "Street"
    (.ofTemplate "Texts.MinLength")
  have hbefore : formBefore.Built := (Built.empty.addMemberError _ _).addMember _ hstreet
  have hafter : formAfter.Built := (Built.empty.addMember _ hcity).addError _
  intro c hc
  simp only [List.mem_cons, List.not_mem_nil, or_false] at hc
  rcases hc with rfl | rfl | rfl
  · exact hbefore
  · exact .empty
  · exact hafter

theorem merge_ordered_monoid_forms :
    (∀ c ∈ [formBefore, empty, formAfter], c.Built) ∧
      merge [merge [formBefore], merge [empty, formAfter]] = merge [formBefore, empty, formAfter] ∧
      (merge [formBefore, empty, formAfter]).errorsAt ["Address", "Street"] =
        [.ofTemplate "Texts.MinLength", .ofTemplate "Texts.MinLength"] ∧
      (merge [formBefore, empty, formAfter]).keysAt ["Address"] = ["Street", "City"] ∧
      (merge [formBefore, empty, formAfter]).count = 5 ∧ (merge [formBefore, empty, formAfter]).depth = 2 := by
  obtain ⟨hgroups, -, hat, hcount, hdepth⟩ := merge_ordered_monoid built_forms
  exact ⟨built_forms, hgroups [[formBefore], [empty, formAfter]] rfl, (hat ["Address", "Street"]).1,
    (hat ["Address"]).2, hcount, hdepth⟩

end ModelValidation.ErrorTree
