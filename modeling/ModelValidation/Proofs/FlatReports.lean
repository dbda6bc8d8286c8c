import Mathlib.Algebra.BigOperators.Group.List.Basic
import ModelValidation.Proofs.DottedPaths
import ModelValidation.Proofs.Merging
import ModelValidation.Proofs.Reports

/-!
# Flat reports

A flat report walks the tree, a node before its members, and brings the texts of every node to its dotted path.  Nodes
may have one path together; then the texts of each stand behind those of the nodes before it:

* `messagesFrom_eq`: the report by paths is what the nodes bring, one after another;
* `keys_collected`, `textsAt_collected`, `size_collected`: the paths, the texts of each, and how many there are;
* `sites_of_path`: with plain keys no two nodes have one path;
* `distinct_eq`: the list keeps every entry where it first stands;
* `flat_reports_keep_messages`: all of this for the two reports.
-/

namespace ModelValidation

/-! ### The nodes of a tree -/

namespace ErrorTree

/-- A node with the keys on the way to it, and its own errors. -/
structure Site where
  route : List String
  errors : List ValidationError

/-- The keys on the way joined by points. -/
def Site.path (s : Site) : String := dotted s.route

/-- The node a level deeper, under a key. -/
def Site.under (key : String) (s : Site) : Site := { s with route := key :: s.route }

mutual

/-- The nodes of a tree in the order of a walk: a node, then the nodes of its members. -/
def sites : ErrorTree → List Site
  | .node es ms => ⟨[], es⟩ :: sitesOfMembers ms

/-- The nodes of members, one member after another. -/
def sitesOfMembers : List (String × ErrorTree) → List Site
  | [] => []
  | (key, t) :: ms => (sites t).map (Site.under key) ++ sitesOfMembers ms

end

mutual

/-- Every error is an error of one node. -/
theorem sum_sites : ∀ t : ErrorTree, (t.sites.map fun s => s.errors.length).sum = t.count
  | .node es ms => by
    rw [sites, List.map_cons, List.sum_cons, sum_sitesOfMembers ms, count]

theorem sum_sitesOfMembers : ∀ ms : List (String × ErrorTree),
    ((sitesOfMembers ms).map fun s => s.errors.length).sum = countMembers ms
  | [] => rfl
  | (key, t) :: ms => by
    have hunder : (fun s : Site => s.errors.length) ∘ Site.under key = fun s => s.errors.length := rfl
    rw [sitesOfMembers, List.map_append, List.sum_append, List.map_map, hunder, sum_sites t, sum_sitesOfMembers ms,
      countMembers]

end

theorem mem_keys_of_mem_sitesOfMembers {ms : List (String × ErrorTree)} {s : Site} (hs : s ∈ sitesOfMembers ms) :
    ∃ key route, s.route = key :: route ∧ key ∈ ms.map Prod.fst := by
  induction ms with
  | nil => cases hs
  | cons m ms ih =>
    obtain ⟨key, t⟩ := m
    rw [sitesOfMembers, List.mem_append, List.mem_map] at hs
    rcases hs with ⟨u, -, rfl⟩ | hs
    · exact ⟨key, u.route, rfl, List.mem_cons_self⟩
    · obtain ⟨k, route, hroute, hk⟩ := ih hs
      exact ⟨k, route, hroute, List.mem_cons_of_mem key hk⟩

-- the nodes of a member have its key in front, which no other member has
mutual

/-- No two nodes of a tidy tree are reached by the same keys. -/
theorem nodup_routes : ∀ {t : ErrorTree}, t.Tidy → (t.sites.map Site.route).Nodup
  | .node es ms, ht => by
    rw [sites, List.map_cons, List.nodup_cons]
    refine ⟨?_, nodup_routesOfMembers ht.2 ht.1⟩
    intro hroot
    obtain ⟨s, hs, hroute⟩ := List.mem_map.1 hroot
    obtain ⟨key, route, hcons, -⟩ := mem_keys_of_mem_sitesOfMembers hs
    rw [hcons] at hroute
    cases hroute

theorem nodup_routesOfMembers : ∀ {ms : List (String × ErrorTree)}, TidyMembers ms → (ms.map Prod.fst).Nodup →
    ((sitesOfMembers ms).map Site.route).Nodup
  | [], _, _ => List.nodup_nil
  | (key, t) :: ms, ht, hkeys => by
    obtain ⟨-, ht, hms⟩ := ht
    rw [List.map_cons, List.nodup_cons] at hkeys
    have hunder : Site.route ∘ Site.under key = List.cons key ∘ Site.route := rfl
    have hmember : ((t.sites.map (Site.under key)).map Site.route).Nodup := by
      rw [List.map_map, hunder, ← List.map_map]
      exact (nodup_routes ht).map List.cons_injective
    rw [sitesOfMembers, List.map_append, List.nodup_append]
    refine ⟨hmember, nodup_routesOfMembers hms hkeys.2, ?_⟩
    rintro route hleft _ hright rfl
    rw [List.map_map, List.mem_map] at hleft
    obtain ⟨u, -, rfl⟩ := hleft
    obtain ⟨s, hs, hroute⟩ := List.mem_map.1 hright
    obtain ⟨k, rest, hcons, hk⟩ := mem_keys_of_mem_sitesOfMembers hs
    rw [hcons] at hroute
    obtain rfl : k = key := (List.cons.inj hroute).1
    exact hkeys.1 hk

end

/-- Every member has a plain key. -/
def HasPlainKeys (t : ErrorTree) : Prop := ∀ s ∈ t.sites, ∀ key ∈ s.route, IsPlainKey key

instance (t : ErrorTree) : Decidable t.HasPlainKeys :=
  inferInstanceAs (Decidable (∀ s ∈ t.sites, ∀ key ∈ s.route, IsPlainKey key))

theorem nodup_paths {t : ErrorTree} (ht : t.Tidy) (hplain : t.HasPlainKeys) : (t.sites.map Site.path).Nodup := by
  have hroutes : t.sites.map Site.path = (t.sites.map Site.route).map dotted := by
    rw [List.map_map]
    rfl
  rw [hroutes]
  refine (nodup_routes ht).map_on ?_
  intro ks hks js hjs h
  obtain ⟨s, hs, rfl⟩ := List.mem_map.1 hks
  obtain ⟨u, hu, rfl⟩ := List.mem_map.1 hjs
  exact dotted_injective (hplain s hs) (hplain u hu) h

theorem filter_eq_singleton {α β : Type} [DecidableEq β] {f : α → β} {as : List α} (h : (as.map f).Nodup) {a : α}
    (ha : a ∈ as) : as.filter (fun b => f b = f a) = [a] := by
  induction as with
  | nil => cases ha
  | cons b as ih =>
    rw [List.map_cons, List.nodup_cons] at h
    rcases List.mem_cons.1 ha with rfl | ha
    · have hnone : as.filter (fun b => f b = f a) = [] := by
        rw [List.filter_eq_nil_iff]
        intro b hb
        simp only [decide_eq_true_eq]
        exact fun hf => h.1 (hf ▸ List.mem_map_of_mem hb)
      simp [hnone]
    · have hne : f b ≠ f a := fun hf => h.1 (hf ▸ List.mem_map_of_mem ha)
      simp [hne, ih h.2 ha]

/-- **With plain keys a path belongs to one node.** -/
theorem sites_of_path {t : ErrorTree} (ht : t.Tidy) (hplain : t.HasPlainKeys) {s : Site} (hs : s ∈ t.sites) :
    t.sites.filter (·.path = s.path) = [s] :=
  filter_eq_singleton (nodup_paths ht hplain) hs

end ErrorTree

namespace Report

open ErrorTree (Site sites sitesOfMembers)

/-! ### Texts brought to paths -/

section Collected

variable {path k : String} {texts : List String} {out : List (String × List String)}

theorem keys_addMessages : (addMessages path texts out).map Prod.fst =
    if texts.isEmpty then out.map Prod.fst
    else if path ∈ out.map Prod.fst then out.map Prod.fst
    else out.map Prod.fst ++ [path] := by
  unfold addMessages
  split
  · rfl
  · exact Keyed.keys_upsert path _ out

theorem getD_addMessages : (Keyed.get? k (addMessages path texts out)).getD [] =
    if k = path then (Keyed.get? k out).getD [] ++ texts else (Keyed.get? k out).getD [] := by
  by_cases h : texts = []
  · simp [addMessages, h]
  · by_cases hk : k = path
    · simp [addMessages, h, Keyed.get?_upsert, hk]
    · simp [addMessages, h, Keyed.get?_upsert, hk]

/-- The number of texts at all paths. -/
def size (out : List (String × List String)) : Nat := (out.map fun p => p.2.length).sum

theorem size_addMessages : size (addMessages path texts out) = size out + texts.length := by
  unfold addMessages
  split
  · next h => simp [List.isEmpty_iff.1 h]
  · induction out with
    | nil => simp [size, Keyed.upsert]
    | cons p out ih =>
      by_cases h : p.1 = path
      · simp [size, Keyed.upsert, h]
        omega
      · simp only [size, Keyed.upsert, h, ↓reduceIte, List.map_cons, List.sum_cons] at ih ⊢
        omega

/-- Texts brought to paths, one after another. -/
def collected (ds : List (String × List String)) : List (String × List String) :=
  ds.foldl (fun out d => addMessages d.1 d.2 out) []

variable (ds : List (String × List String))

theorem collected_concat (d : String × List String) : collected (ds ++ [d]) = addMessages d.1 d.2 (collected ds) := by
  rw [collected, List.foldl_append]
  rfl

/-- **The paths stand in the order in which they first get texts.** -/
theorem keys_collected :
    (collected ds).map Prod.fst = ((ds.filter fun d => !d.2.isEmpty).map Prod.fst).eraseDups := by
  induction ds using List.reverseRecOn with
  | nil => rfl
  | append_singleton ds d ih =>
    rw [collected_concat, keys_addMessages, ih, List.filter_append, List.map_append]
    cases h : d.2.isEmpty
    · simp [h, ErrorTree.eraseDups_append_singleton]
    · simp [h]

/-- **A path has all texts that are brought to it, in order.** -/
theorem textsAt_collected (k : String) :
    (Keyed.get? k (collected ds)).getD [] = (ds.filter (·.1 = k)).flatMap Prod.snd := by
  induction ds using List.reverseRecOn with
  | nil => rfl
  | append_singleton ds d ih =>
    rw [collected_concat, getD_addMessages, ih, List.filter_append, List.flatMap_append]
    by_cases h : k = d.1
    · simp [h]
    · simp [h, Ne.symm h]

theorem size_collected : size (collected ds) = (ds.map fun d => d.2.length).sum := by
  induction ds using List.reverseRecOn with
  | nil => rfl
  | append_singleton ds d ih =>
    rw [collected_concat, size_addMessages, ih, List.map_append, List.sum_append]
    simp

end Collected

/-! ### The walk of a report -/

/-- What a node brings to its path, which lies behind another one. -/
def brought (wording : Wording) (above : String) (s : Site) : String × List String :=
  (s.route.foldl pathOf above, s.errors.map wording.render)

theorem brought_under (wording : Wording) (above key : String) (s : Site) :
    brought wording above (s.under key) = brought wording (pathOf above key) s := rfl

mutual

/-- **A report by paths is what the nodes bring to their paths.** -/
theorem messagesFrom_eq {wording : Wording} {maxDepth : Nat} : ∀ {t : ErrorTree} {path : String} {level : Nat}
    {out paths : List (String × List String)}, messagesFrom wording maxDepth path level out t = .ok paths →
    paths = (t.sites.map (brought wording path)).foldl (fun out d => addMessages d.1 d.2 out) out
  | .node es ms, path, level, out, paths, h => by
    obtain ⟨_, -, h⟩ := bind_eq_ok.1 h
    rw [sites, List.map_cons, List.foldl_cons]
    exact messagesFromMembers_eq h

theorem messagesFromMembers_eq {wording : Wording} {maxDepth : Nat} : ∀ {ms : List (String × ErrorTree)} {path : String}
    {level : Nat} {out paths : List (String × List String)},
    messagesFromMembers wording maxDepth path level out ms = .ok paths →
    paths = ((sitesOfMembers ms).map (brought wording path)).foldl (fun out d => addMessages d.1 d.2 out) out
  | [], _, _, _, _, h => by
    cases h
    rfl
  | (key, t) :: ms, path, level, out, paths, h => by
    obtain ⟨between, ht, h⟩ := bind_eq_ok.1 h
    have hunder : brought wording path ∘ Site.under key = brought wording (pathOf path key) :=
      funext fun s => brought_under wording path key s
    rw [sitesOfMembers, List.map_append, List.foldl_append, List.map_map, hunder, ← messagesFrom_eq ht]
    exact messagesFromMembers_eq h

end

section Listed

variable {wording : Wording} {maxDepth : Nat} {t : ErrorTree} {paths : List (String × List String)}

theorem byPath_eq_collected (h : byPath wording maxDepth t = .ok paths) :
    paths = collected (t.sites.map fun s => (s.path, s.errors.map wording.render)) := by
  have hbrought : brought wording "" = fun s => (s.path, s.errors.map wording.render) := by
    funext s
    rw [brought, foldl_pathOf]
    rfl
  rw [messagesFrom_eq h, hbrought]
  rfl

theorem paths_eq (h : byPath wording maxDepth t = .ok paths) :
    paths.map Prod.fst = ((t.sites.filter fun s => !s.errors.isEmpty).map Site.path).eraseDups := by
  have hkeep : (fun d : String × List String => !d.2.isEmpty) ∘ (fun s : Site => (s.path, s.errors.map wording.render)) =
      fun s => !s.errors.isEmpty := by
    funext s
    simp
  rw [byPath_eq_collected h, keys_collected, List.filter_map, hkeep, List.map_map]
  rfl

theorem texts_eq (h : byPath wording maxDepth t = .ok paths) {p : String × List String} (hp : p ∈ paths) :
    p.2 = (t.sites.filter (·.path = p.1)).flatMap fun s => s.errors.map wording.render := by
  have hkeys : (paths.map Prod.fst).Nodup := by
    rw [paths_eq h]
    exact ErrorTree.nodup_eraseDups _
  have hget : Keyed.get? p.1 paths = some p.2 := Keyed.get?_of_mem hkeys hp
  have htexts := textsAt_collected (t.sites.map fun s => (s.path, s.errors.map wording.render)) p.1
  rw [← byPath_eq_collected h, hget, Option.getD_some, List.filter_map, List.flatMap_map] at htexts
  exact htexts

/-- **There are as many texts as errors.** -/
theorem size_eq_count (h : byPath wording maxDepth t = .ok paths) : size paths = t.count := by
  rw [byPath_eq_collected h, size_collected, List.map_map, ← ErrorTree.sum_sites t]
  simp [Function.comp_def]

/-! ### Entries -/

/-- **A list keeps every entry where it first stands.** -/
theorem distinct_eq (entries : List Entry) : distinct entries = entries.eraseDups := by
  induction entries using List.reverseRecOn with
  | nil => rfl
  | append_singleton entries e ih =>
    rw [ErrorTree.eraseDups_append_singleton, ← ih, distinct, List.foldl_append]
    rfl

theorem list_eq (h : byPath wording maxDepth t = .ok paths) :
    list wording maxDepth t = .ok (paths.flatMap fun p => p.2.map (Entry.mk p.1)).eraseDups := by
  rw [list, h, ← distinct_eq]
  rfl

theorem mem_entries_iff {e : Entry} :
    e ∈ (paths.flatMap fun p => p.2.map (Entry.mk p.1)).eraseDups ↔ ∃ p ∈ paths, e.path = p.1 ∧ e.message ∈ p.2 := by
  rw [List.mem_eraseDups, List.mem_flatMap]
  refine exists_congr fun p => and_congr_right fun _ => ?_
  rw [List.mem_map]
  constructor
  · rintro ⟨message, hmessage, rfl⟩
    exact ⟨rfl, hmessage⟩
  · rintro ⟨hpath, hmessage⟩
    exact ⟨e.message, hmessage, by rw [← hpath]⟩

end Listed

/-- **The flat reports keep every message.**  The report by paths has an entry for every dotted path of a node with errors
of its own, in the order in which the walk first comes to them; the texts of an entry are those of all nodes with its
path, one node after another, and there are as many texts as errors.  If the keys are plain, an entry belongs to one
node.  The list report has every pair of a path and a text once, where it first stands. -/
theorem flat_reports_keep_messages {wording : Wording} {maxDepth : Nat} {t : ErrorTree}
    {paths : List (String × List String)} (h : byPath wording maxDepth t = .ok paths) :
    paths.map Prod.fst = ((t.sites.filter fun s => !s.errors.isEmpty).map Site.path).eraseDups ∧
      (∀ p ∈ paths, p.2 = (t.sites.filter (·.path = p.1)).flatMap fun s => s.errors.map wording.render) ∧
      (paths.map fun p => p.2.length).sum = t.count ∧
      (t.Built → t.HasPlainKeys → ∀ p ∈ paths, ∃ s, t.sites.filter (·.path = p.1) = [s]) ∧
      ∃ entries, list wording maxDepth t = .ok entries ∧
        entries = (paths.flatMap fun p => p.2.map (Entry.mk p.1)).eraseDups ∧ entries.Nodup ∧
        ∀ e, e ∈ entries ↔ ∃ p ∈ paths, e.path = p.1 ∧ e.message ∈ p.2 := by
  refine ⟨paths_eq h, fun p hp => texts_eq h hp, size_eq_count h, ?_, _, list_eq h, rfl, ErrorTree.nodup_eraseDups _,
    fun e => mem_entries_iff⟩
  intro ht hplain p hp
  have hkey : p.1 ∈ paths.map Prod.fst := List.mem_map_of_mem hp
  rw [paths_eq h, List.mem_eraseDups, List.mem_map] at hkey
  obtain ⟨s, hs, hpath⟩ := hkey
  rw [← hpath]
  exact ⟨s, ErrorTree.sites_of_path ht.tidy hplain (List.mem_of_mem_filter hs)⟩

/-- Two nodes with one path, and one whose key leaves no trace. -/
example : byPath none 2 (.node [] [("a.b", .ofError (.ofTemplate "First")), ("", .ofError (.ofTemplate "Second")),
    ("a", .node [] [("b", .ofError (.ofTemplate "Third"))])]) = .ok [("a.b", ["First", "Third"]), ("", ["Second"])] := by
  cbv

/-- The messages of the forms, before and after. -/
def formPaths : List (String × List String) :=
  [("", ["Global.Error"]), ("Name", ["Texts.NotEmpty"]), ("Address.Street", ["Texts.MinLength", "Texts.MinLength"]),
    ("Address.City", ["Global.Required"])]

theorem flat_reports_keep_messages_forms :
    byPath none 1 (.merge [.formBefore, .empty, .formAfter]) = .ok formPaths ∧
      (formPaths.map fun p => p.2.length).sum = (ErrorTree.merge [.formBefore, .empty, .formAfter]).count ∧
      (∃ s, (ErrorTree.merge [.formBefore, .empty, .formAfter]).sites.filter (·.path = "Address.Street") = [s]) ∧
      ∃ entries, list none 1 (.merge [.formBefore, .empty, .formAfter]) = .ok entries ∧ entries.Nodup ∧
        ⟨"Address.Street", "Texts.MinLength"⟩ ∈ entries := by
  have h : byPath none 1 (.merge [.formBefore, .empty, .formAfter]) = .ok formPaths := by cbv
  obtain ⟨-, -, hcount, hone, entries, hlist, -, hnodup, hmem⟩ := flat_reports_keep_messages h
  have hbuilt : (ErrorTree.merge [.formBefore, .empty, .formAfter]).Built := .merge ErrorTree.built_forms
  have hplain : (ErrorTree.merge [.formBefore, .empty, .formAfter]).HasPlainKeys := by decide +kernel
  have hstreet : ("Address.Street", ["Texts.MinLength", "Texts.MinLength"]) ∈ formPaths := by decide
  exact ⟨h, hcount, hone hbuilt hplain _ hstreet, entries, hlist, hnodup,
    (hmem _).2 ⟨_, hstreet, rfl, List.mem_cons_self⟩⟩

end Report

end ModelValidation
