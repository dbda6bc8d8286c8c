import Mathlib.Data.List.Perm.Subperm
import ModelValidation.Proofs.Constructions
import ModelValidation.Proofs.NamedArguments

/-!
# Errors and trees that count as one

Two errors count as one if they have one face: the template, and the names and plain texts of the arguments in order.
Two trees do if their errors do in order and their members do under each key, in whatever order the keys stand.  For
trees without empty nodes this means that at every path the errors of both have the same faces, so all that can be read
off a tree, and all that is made of it by adding, is the same for trees that count as one:

* `same_iff_facesAt`: trees count as one just if their errors have the same faces at every path;
* `at?_of_same`: their nodes then count as one at every path;
* `faces_perm`: the faces of all errors with their paths are then the same but for their order;
* `Wording.render_of_same`: errors that count as one have one text where no placeholder has parameters;
* `tree_equality_congruence`: all of this for the trees that can be built.
-/

namespace ModelValidation

/-! ### Errors -/

theorem ValidationError.same_iff {e f : ValidationError} : e.same f = true ↔ e.face = f.face :=
  decide_eq_true_iff

theorem ValidationError.equivalence_same : Equivalence fun e f : ValidationError => e.same f = true := by
  simp only [same_iff]
  exact ⟨fun _ => rfl, Eq.symm, Eq.trans⟩

section Rendering

variable {args others : List Argument}

/-- A placeholder without parameters becomes the plain text of the argument of its name. -/
theorem Placeholder.render?_bare {p : Placeholder} (hp : p.parameters = []) (args : List Argument) :
    p.render? args = Keyed.get? p.name (args.map fun arg => (arg.name, arg.plain)) := by
  have hplain : args.map (fun arg => (arg.name, arg.plain)) =
      (ValidationError.entries args).map fun entry => (entry.1, entry.2.plain) := by
    rw [ValidationError.entries, List.map_map]
    rfl
  rw [hplain, Keyed.get?_map p.name Argument.plain, ← ValidationError.find?_eq_get?, render?, hp]
  cases args.find? (·.name = p.name) <;> rfl

/-- A template whose placeholders have no parameters is filled in by names and plain texts. -/
theorem Template.render_bare {t : Template} (ht : ∀ p ∈ t.placeholders, p.parameters = [])
    (h : args.map (fun arg => (arg.name, arg.plain)) = others.map fun arg => (arg.name, arg.plain)) :
    t.render args = t.render others := by
  refine render_eq_of_placeholders fun p hp => ?_
  rw [Placeholder.render?_bare (ht p hp), h, ← Placeholder.render?_bare (ht p hp)]

/-- **Errors that count as one have one text** in every wording whose template for them has no parameters. -/
theorem Wording.render_of_same (t : Wording) {e f : ValidationError} (h : e.same f = true)
    (ht : ∀ p ∈ (t.template e.template).placeholders, p.parameters = []) : t.render e = t.render f := by
  obtain ⟨htemplate, hargs⟩ := Prod.mk.inj (ValidationError.same_iff.1 h)
  rw [Wording.render_eq, Wording.render_eq, ← htemplate]
  exact Template.render_bare ht hargs

end Rendering

namespace ErrorTree

open ValidationError

/-! ### Trees by the faces of their errors -/

/-- The faces of the errors at the end of a path. -/
def facesAt (t : ErrorTree) (path : List String) : List (String × List (String × String)) :=
  (t.errorsAt path).map face

theorem facesAt_cons (t : ErrorTree) (key : String) (path : List String) :
    t.facesAt (key :: path) = ((t.member? key).getD empty).facesAt path := by
  rw [facesAt, errorsAt_cons, facesAt]

theorem sameMembers_iff {ms ns : List (String × ErrorTree)} :
    sameMembers ms ns = true ↔ ∀ m ∈ ms, ∃ u, Keyed.get? m.1 ns = some u ∧ m.2.same u = true := by
  induction ms with
  | nil => exact iff_of_true rfl (List.forall_mem_nil _)
  | cons m ms ih =>
    rw [sameMembers, Bool.and_eq_true, ih, List.forall_mem_cons]
    refine and_congr_left fun _ => ?_
    cases Keyed.get? m.1 ns <;> simp

theorem same_iff {t u : ErrorTree} :
    t.same u = true ↔ t.facesAt [] = u.facesAt [] ∧ t.members.length = u.members.length ∧
      ∀ m ∈ t.members, ∃ v, u.member? m.1 = some v ∧ m.2.same v = true := by
  obtain ⟨es, ms⟩ := t
  rw [same, Bool.and_eq_true, Bool.and_eq_true, sameMembers_iff, decide_eq_true_iff, decide_eq_true_iff, and_assoc]
  rfl

section Tidy

variable {t u : ErrorTree}

theorem tidy_member? (ht : t.Tidy) {key : String} {v : ErrorTree} (hv : t.member? key = some v) : v.Tidy :=
  tidy_of_get? ((tidy_iff t).1 ht).2 hv

theorem member?_of_mem (ht : t.Tidy) {m : String × ErrorTree} (hm : m ∈ t.members) : t.member? m.1 = some m.2 :=
  Keyed.get?_of_mem ((tidy_iff t).1 ht).1 hm

/-- Trees that count as one have members under the same keys, and these count as one. -/
theorem member?_of_same (ht : t.Tidy) (h : t.same u = true) (key : String) :
    Option.Rel (fun v w => v.same w = true) (t.member? key) (u.member? key) := by
  obtain ⟨-, hlength, hmembers⟩ := same_iff.1 h
  by_cases hkey : key ∈ t.members.map Prod.fst
  · obtain ⟨m, hm, rfl⟩ := List.mem_map.1 hkey
    obtain ⟨w, hw, hsame⟩ := hmembers m hm
    rw [member?_of_mem ht hm, hw]
    exact .some hsame
  · -- as many keys are in the other tree, so it has no further one
    have hsubset : t.members.map Prod.fst ⊆ u.members.map Prod.fst := by
      intro k hk
      obtain ⟨m, hm, rfl⟩ := List.mem_map.1 hk
      obtain ⟨w, hw, -⟩ := hmembers m hm
      by_contra hnot
      rw [member?, Keyed.get?_of_notMem hnot] at hw
      cases hw
    have hperm : (t.members.map Prod.fst).Perm (u.members.map Prod.fst) :=
      (List.subperm_of_subset ((tidy_iff t).1 ht).1 hsubset).perm_of_length_le (by simp [hlength])
    rw [member?, member?, Keyed.get?_of_notMem hkey, Keyed.get?_of_notMem fun hmem => hkey (hperm.mem_iff.2 hmem)]
    exact .none

/-- **Nodes of trees that count as one count as one**, at every path. -/
theorem at?_of_same (ht : t.Tidy) (hu : u.Tidy) (h : t.same u = true) (path : List String) :
    Option.Rel (fun v w => v.same w = true) (t.at? path) (u.at? path) := by
  induction path generalizing t u with
  | nil => exact .some h
  | cons key path ih =>
    have hat (s : ErrorTree) : s.at? (key :: path) = (s.member? key).bind (·.at? path) := rfl
    rw [hat, hat]
    have hmember := member?_of_same ht h key
    generalize hv : t.member? key = v at hmember
    generalize hw : u.member? key = w at hmember
    cases hmember with
    | none => exact .none
    | some hsame => exact ih (tidy_member? ht hv) (tidy_member? hu hw) hsame

theorem facesAt_of_same (ht : t.Tidy) (hu : u.Tidy) (h : t.same u = true) (path : List String) :
    t.facesAt path = u.facesAt path := by
  have hnode := at?_of_same ht hu h path
  unfold facesAt errorsAt
  generalize t.at? path = v at hnode
  generalize u.at? path = w at hnode
  cases hnode with
  | none => rfl
  | some hsame => exact (same_iff.1 hsame).1

theorem facesAt_ne_nil_iff (t : ErrorTree) (path : List String) : t.facesAt path ≠ [] ↔ t.errorsAt path ≠ [] := by
  rw [facesAt, Ne, List.map_eq_nil_iff]

/-- Trees whose errors have the same faces have members under the same keys. -/
theorem keys_perm_of_facesAt (ht : t.Tidy) (hu : u.Tidy) (h : ∀ path, t.facesAt path = u.facesAt path) :
    (t.members.map Prod.fst).Perm (u.members.map Prod.fst) := by
  rw [List.perm_ext_iff_of_nodup ((tidy_iff t).1 ht).1 ((tidy_iff u).1 hu).1]
  intro key
  rw [mem_keys_iff_errorsAt ht, mem_keys_iff_errorsAt hu]
  refine exists_congr fun path => ?_
  rw [← facesAt_ne_nil_iff, h, facesAt_ne_nil_iff]

end Tidy

-- on the first tree: its members have those of the second under their keys, with the same faces at every path
mutual

theorem same_of_facesAt : ∀ {t u : ErrorTree}, t.Tidy → u.Tidy → (∀ path, t.facesAt path = u.facesAt path) →
    t.same u = true
  | .node es ms, u, ht, hu, h => by
    have hkeys := keys_perm_of_facesAt ht hu h
    have hlength : ms.length = u.members.length := by simpa using hkeys.length_eq
    have hmembers : ∀ m ∈ ms, ∃ v, Keyed.get? m.1 u.members = some v ∧ v.Tidy ∧
        ∀ path, m.2.facesAt path = v.facesAt path := by
      intro m hm
      have hkey : m.1 ∈ u.members.map Prod.fst := hkeys.mem_iff.1 (List.mem_map_of_mem hm)
      obtain ⟨n, hn, hname⟩ := List.mem_map.1 hkey
      have hv : u.member? m.1 = some n.2 := hname ▸ member?_of_mem hu hn
      refine ⟨n.2, hv, tidy_member? hu hv, fun path => ?_⟩
      have hpath := h (m.1 :: path)
      rwa [facesAt_cons, facesAt_cons, member?_of_mem ht hm, hv] at hpath
    rw [same, sameMembers_of_facesAt ht.2 hmembers, Bool.and_true, Bool.and_eq_true, decide_eq_true_iff,
      decide_eq_true_iff]
    exact ⟨h [], hlength⟩

theorem sameMembers_of_facesAt : ∀ {ms ns : List (String × ErrorTree)}, TidyMembers ms →
    (∀ m ∈ ms, ∃ v, Keyed.get? m.1 ns = some v ∧ v.Tidy ∧ ∀ path, m.2.facesAt path = v.facesAt path) →
    sameMembers ms ns = true
  | [], _, _, _ => rfl
  | (key, t) :: ms, ns, hms, h => by
    obtain ⟨-, ht, hrest⟩ := hms
    obtain ⟨⟨v, hv, hvt, hfaces⟩, hmembers⟩ := List.forall_mem_cons.1 h
    have hsame : t.same v = true := same_of_facesAt ht hvt hfaces
    rw [sameMembers, hv, sameMembers_of_facesAt hrest hmembers, Bool.and_true]
    exact hsame

end

section Tidy

variable {t u t' u' : ErrorTree}

/-- **Trees count as one just if their errors have the same faces at every path.** -/
theorem same_iff_facesAt (ht : t.Tidy) (hu : u.Tidy) :
    t.same u = true ↔ ∀ path, t.facesAt path = u.facesAt path :=
  ⟨facesAt_of_same ht hu, same_of_facesAt ht hu⟩

/-! ### What is read off a tree -/

/-- The faces of all errors with their paths. -/
def faces (t : ErrorTree) : List (List String × String × List (String × String)) :=
  t.listed.map fun p => (p.1, p.2.face)

theorem count_faces (ht : t.Tidy) (path : List String) (f : String × List (String × String)) :
    t.faces.count (path, f) = (t.facesAt path).count f := by
  rw [facesAt, errorsAt_eq_listed ht, faces]
  induction t.listed with
  | nil => rfl
  | cons p ps ih =>
    by_cases hpath : p.1 = path
    · rw [List.filter_cons_of_pos (by simpa using hpath), List.map_cons, List.map_cons, List.map_cons, List.count_cons,
        List.count_cons, ih, hpath]
      simp
    · rw [List.filter_cons_of_neg (by simpa using hpath), List.map_cons, List.count_cons_of_ne (by simp [hpath]), ih]

/-- The faces of trees that count as one are the same but for their order. -/
theorem faces_perm (ht : t.Tidy) (hu : u.Tidy) (h : t.same u = true) : t.faces.Perm u.faces := by
  rw [List.perm_iff_count]
  rintro ⟨path, f⟩
  rw [count_faces ht, count_faces hu, facesAt_of_same ht hu h]

theorem count_eq_of_same (ht : t.Tidy) (hu : u.Tidy) (h : t.same u = true) : t.count = u.count := by
  have hlength := (faces_perm ht hu h).length_eq
  rwa [faces, faces, List.length_map, List.length_map, ← count_eq_length ht, ← count_eq_length hu] at hlength

theorem isEmpty_eq_of_same (ht : t.Tidy) (hu : u.Tidy) (h : t.same u = true) : t.isEmpty = u.isEmpty := by
  rw [Bool.eq_iff_iff, isEmpty_iff_count ht, isEmpty_iff_count hu, count_eq_of_same ht hu h]

theorem depth_eq_of_same (ht : t.Tidy) (hu : u.Tidy) (h : t.same u = true) : t.depth = u.depth := by
  have hdepth {s : ErrorTree} (hs : s.Tidy) (n : Nat) : s.depth ≤ n ↔ ∀ p ∈ s.faces, p.1.length ≤ n := by
    rw [depth_le_iff hs, faces, List.forall_mem_map]
  have hle (n : Nat) : t.depth ≤ n ↔ u.depth ≤ n := by
    rw [hdepth ht, hdepth hu]
    exact forall_congr' fun p => by rw [(faces_perm ht hu h).mem_iff]
  exact Nat.le_antisymm ((hle _).2 (Nat.le_refl _)) ((hle _).1 (Nat.le_refl _))

/-! ### What is made of trees -/

theorem facesAt_merge {cs : List ErrorTree} (hcs : ∀ c ∈ cs, c.Tidy) (path : List String) :
    (merge cs).facesAt path = cs.flatMap (·.facesAt path) := by
  rw [facesAt, errorsAt_merge hcs, List.map_flatMap]
  rfl

/-- Merges of trees that count as one count as one. -/
theorem same_merge {cs ds : List ErrorTree} (hcs : ∀ c ∈ cs, c.Tidy) (hds : ∀ d ∈ ds, d.Tidy)
    (h : List.Forall₂ (fun c d => c.same d = true) cs ds) : (merge cs).same (merge ds) = true := by
  rw [same_iff_facesAt (tidy_merge hcs) (tidy_merge hds)]
  intro path
  rw [facesAt_merge hcs, facesAt_merge hds]
  induction h with
  | nil => rfl
  | cons hsame hrest ih =>
    rw [List.forall_mem_cons] at hcs hds
    rw [List.flatMap_cons, List.flatMap_cons, facesAt_of_same hcs.1 hds.1 hsame, ih hcs.2 hds.2]

theorem errorsAt_addMember_empty (key : String) (u : ErrorTree) (k : String) (path : List String) :
    (empty.addMember key u).errorsAt (k :: path) = if k = key then u.errorsAt path else [] := by
  cases hu : u.isEmpty with
  | true =>
    obtain rfl := eq_empty_of_isEmpty hu
    have hnone : empty.addMember key empty = empty := rfl
    rw [hnone, errorsAt_empty, errorsAt_empty, ite_self]
  | false =>
    have hone : empty.addMember key u = node [] [(key, u)] := addMember_of_notMem [] List.not_mem_nil hu
    rw [hone, errorsAt_cons, member?, members_node, Keyed.get?]
    by_cases hk : k = key
    · simp [hk]
    · simp [hk, Ne.symm hk, Keyed.get?]

/-- To add a tree under a key is to merge with the tree that has it as its only member. -/
theorem addMember_eq_merge (ht : t.Tidy) (key : String) (hu : u.Tidy) :
    t.addMember key u = merge [t, empty.addMember key u] := by
  have hmerge : merge [t, empty.addMember key u] = absorb (merge [t]) (empty.addMember key u) := rfl
  rw [hmerge, merge_single ht, ← grouping_listed hu, addMember_grouping, addMember_grouping, ← grouping, absorb_grouping]

/-- Trees that count as one may be added under one key. -/
theorem same_addMember (ht : t.Tidy) (ht' : t'.Tidy) (hu : u.Tidy) (hu' : u'.Tidy) (h : t.same t' = true)
    (hmember : u.same u' = true) (key : String) : (t.addMember key u).same (t'.addMember key u') = true := by
  have hone {s : ErrorTree} (hs : s.Tidy) : (empty.addMember key s).Tidy := tidy_addMember tidy_empty key hs
  have hsame : (empty.addMember key u).same (empty.addMember key u') = true := by
    rw [same_iff_facesAt (hone hu) (hone hu')]
    intro path
    cases path with
    | nil => rfl
    | cons k path =>
      have hpath := facesAt_of_same hu hu' hmember path
      rw [facesAt, facesAt, errorsAt_addMember_empty, errorsAt_addMember_empty]
      split
      · exact hpath
      · rfl
  rw [addMember_eq_merge ht key hu, addMember_eq_merge ht' key hu']
  refine same_merge ?_ ?_ (.cons h (.cons hsame .nil))
  · exact List.forall_mem_cons.2 ⟨ht, List.forall_mem_singleton.2 (hone hu)⟩
  · exact List.forall_mem_cons.2 ⟨ht', List.forall_mem_singleton.2 (hone hu')⟩

theorem equivalence_same : Equivalence fun t u : { t : ErrorTree // t.Built } => t.1.same u.1 = true := by
  have hsame (t u : { t : ErrorTree // t.Built }) : t.1.same u.1 = true ↔ ∀ path, t.1.facesAt path = u.1.facesAt path :=
    same_iff_facesAt t.2.tidy u.2.tidy
  simp only [hsame]
  exact ⟨fun _ _ => rfl, fun h path => (h path).symm, fun h h' path => (h path).trans (h' path)⟩

end Tidy

/-- **To count as one is a congruence.**  It is an equivalence of errors, and of the trees that can be built, where it
asks for the same faces in order at every path.  Trees that count as one are empty alike, have as many errors, are as deep,
and have nodes that count as one at every path; merged with trees that count as one, or with such trees added under one
key, they count as one again.  Errors that count as one have one text in every wording whose template for them has only
placeholders without parameters. -/
theorem tree_equality_congruence :
    (Equivalence fun e f : ValidationError => e.same f = true) ∧
    (Equivalence fun t u : { t : ErrorTree // t.Built } => t.1.same u.1 = true) ∧
    (∀ t u : ErrorTree, t.Built → u.Built → (t.same u = true ↔ ∀ path, t.facesAt path = u.facesAt path)) ∧
    (∀ t u : ErrorTree, t.Built → u.Built → t.same u = true →
      t.isEmpty = u.isEmpty ∧ t.count = u.count ∧ t.depth = u.depth ∧
      ∀ path, Option.Rel (fun v w => v.same w = true) (t.at? path) (u.at? path)) ∧
    (∀ t t' u u' : ErrorTree, t.Built → t'.Built → u.Built → u'.Built → t.same t' = true → u.same u' = true →
      (merge [t, u]).same (merge [t', u']) = true ∧
      ∀ key, (t.addMember key u).same (t'.addMember key u') = true) ∧
    ∀ (w : Wording) (e f : ValidationError), e.same f = true →
      (∀ p ∈ (w.template e.template).placeholders, p.parameters = []) → w.render e = w.render f := by
  refine ⟨ValidationError.equivalence_same, equivalence_same, fun t u ht hu => same_iff_facesAt ht.tidy hu.tidy, ?_, ?_,
    fun w e f h ht => w.render_of_same h ht⟩
  · intro t u ht hu h
    exact ⟨isEmpty_eq_of_same ht.tidy hu.tidy h, count_eq_of_same ht.tidy hu.tidy h, depth_eq_of_same ht.tidy hu.tidy h,
      at?_of_same ht.tidy hu.tidy h⟩
  · intro t t' u u' ht ht' hu hu' h hmember
    refine ⟨same_merge ?_ ?_ (.cons h (.cons hmember .nil)),
      same_addMember ht.tidy ht'.tidy hu.tidy hu'.tidy h hmember⟩
    · exact List.forall_mem_cons.2 ⟨ht.tidy, List.forall_mem_singleton.2 hu.tidy⟩
    · exact List.forall_mem_cons.2 ⟨ht'.tidy, List.forall_mem_singleton.2 hu'.tidy⟩

/-- An error with a number as its bound. -/
def boundAsNumber : ValidationError :=
  (ValidationError.ofTemplate "At least {min}").withArg ⟨"min", .number (.integer 3)⟩

/-- The error with the digits of the number as its bound. -/
def boundAsText : ValidationError :=
  (ValidationError.ofTemplate "At least {min}").withArg ⟨"min", .text "3"⟩

/-- A form without a city and with a name that is too short. -/
def formByCity : ErrorTree :=
  (empty.addMemberError "City" (.ofTemplate "Global.Required")).addMemberError "Name" boundAsNumber

/-- The form with its members the other way round. -/
def formByName : ErrorTree :=
  (empty.addMemberError "Name" boundAsText).addMemberError "City" (.ofTemplate "Global.Required")

theorem tree_equality_congruence_form :
    boundAsNumber.same boundAsText = true ∧ formByCity.same formByName = true ∧
      (merge [formByCity, formByName]).same (merge [formByName, formByCity]) = true ∧
      (formByCity.addMember "Form" formByCity).same (formByName.addMember "Form" formByName) = true ∧
      Wording.render none boundAsNumber = Wording.render none boundAsText := by
  obtain ⟨herrors, htrees, -, -, hmade, hrender⟩ := tree_equality_congruence
  have hbound : boundAsNumber.same boundAsText = true := by decide +kernel
  have hform : formByCity.same formByName = true := by decide +kernel
  have hcity : formByCity.Built := (Built.empty.addMemberError _ _).addMemberError _ _
  have hname : formByName.Built := (Built.empty.addMemberError _ _).addMemberError _ _
  have hback : formByName.same formByCity = true := htrees.symm (x := ⟨_, hcity⟩) (y := ⟨_, hname⟩) hform
  have hbare : ∀ p ∈ (Wording.template none boundAsNumber.template).placeholders, p.parameters = [] := by
    decide +kernel
  refine ⟨hbound, hform, ?_, ?_, hrender none _ _ hbound hbare⟩
  · exact (hmade _ _ _ _ hcity hname hname hcity hform hback).1
  · exact (hmade _ _ _ _ hcity hname hcity hname hform hform).2 "Form"

end ErrorTree

end ModelValidation
