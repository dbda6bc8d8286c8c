import Mathlib.Data.List.Induction
import Mathlib.Data.List.Nodup
import ModelValidation.ErrorTree

/-!
# Trees as groupings of single errors

A tree is put together from errors that come one after another, each with the path of its node.  What the operations
on trees do is then said by lists:

* `absorb_grouping`: adding a tree to a node is adding its errors one by one;
* `addMember_grouping`: so is adding a tree under a key, with the key in front of every path;
* `errorsAt_grouping`, `keysAt_grouping`: the errors of a node are those of its path in order, and its members stand in
  the order in which they are first met.
-/

namespace ModelValidation.ErrorTree

/-- An error with the path of the node that it belongs to. -/
abbrev Placed := List String × ValidationError

/-- The tree with one more error at the end of a path. -/
def addAt (e : ValidationError) : List String → ErrorTree → ErrorTree
  | [], t => t.addError e
  | key :: path, t => .node t.errors (Keyed.upsert key (fun old => addAt e path (old.getD empty)) t.members)

/-- The tree with further errors added one by one. -/
def addAll (t : ErrorTree) (ps : List Placed) : ErrorTree :=
  ps.foldl (fun t p => addAt p.2 p.1 t) t

/-- The tree of errors that come one after another. -/
def grouping (ps : List Placed) : ErrorTree :=
  empty.addAll ps

/-- The errors of the node at the end of a path. -/
def errorsAt (t : ErrorTree) (path : List String) : List ValidationError :=
  ((t.at? path).map errors).getD []

/-- The keys of the members of the node at the end of a path. -/
def keysAt (t : ErrorTree) (path : List String) : List String :=
  ((t.at? path).map fun u => u.members.map Prod.fst).getD []

/-- The key that comes next in a path after another path. -/
def next? : List String → List String → Option String
  | [], [] => none
  | [], key :: _ => some key
  | _ :: _, [] => none
  | k :: stem, key :: path => if k = key then next? stem path else none

@[simp] theorem errors_node (es : List ValidationError) (ms : List (String × ErrorTree)) : (node es ms).errors = es := rfl

@[simp] theorem members_node (es : List ValidationError) (ms : List (String × ErrorTree)) :
    (node es ms).members = ms := rfl

@[simp] theorem addAll_nil (t : ErrorTree) : t.addAll [] = t := rfl

@[simp] theorem addAll_cons (t : ErrorTree) (p : Placed) (ps : List Placed) :
    t.addAll (p :: ps) = (addAt p.2 p.1 t).addAll ps := rfl

theorem addAll_append (t : ErrorTree) (ps qs : List Placed) : t.addAll (ps ++ qs) = (t.addAll ps).addAll qs :=
  List.foldl_append

@[simp] theorem grouping_nil : grouping [] = empty := rfl

theorem isEmpty_addAt (e : ValidationError) (path : List String) (t : ErrorTree) : (addAt e path t).isEmpty = false := by
  cases path with
  | nil => simp [addAt, addError, isEmpty]
  | cons key path =>
    cases t with
    | node es ms => cases ms <;> grind [addAt, isEmpty, Keyed.upsert, errors, members]

theorem isEmpty_addAll (t : ErrorTree) (ps : List Placed) : (t.addAll ps).isEmpty = (t.isEmpty && ps.isEmpty) := by
  induction ps generalizing t with
  | nil => simp
  | cons p ps ih => simp [ih, isEmpty_addAt]

theorem isEmpty_grouping (ps : List Placed) : (grouping ps).isEmpty = ps.isEmpty :=
  isEmpty_addAll empty ps

/-! ### Trees without empty nodes -/

mutual

/-- Keys are distinct and members are not empty, in the node and below it. -/
def Tidy : ErrorTree → Prop
  | .node _ ms => (ms.map Prod.fst).Nodup ∧ TidyMembers ms

/-- Members are tidy and not empty. -/
def TidyMembers : List (String × ErrorTree) → Prop
  | [] => True
  | (_, t) :: ms => t.isEmpty = false ∧ Tidy t ∧ TidyMembers ms

end

theorem tidy_iff (t : ErrorTree) : t.Tidy ↔ (t.members.map Prod.fst).Nodup ∧ TidyMembers t.members := by
  cases t; simp [Tidy]

theorem tidy_empty : empty.Tidy := by simp [empty, Tidy, TidyMembers]

theorem tidyMembers_upsert {key : String} {f : Option ErrorTree → ErrorTree} {ms : List (String × ErrorTree)}
    (hms : TidyMembers ms) (hnew : (f none).isEmpty = false ∧ (f none).Tidy)
    (hold : ∀ t, t.Tidy → (f (some t)).isEmpty = false ∧ (f (some t)).Tidy) : TidyMembers (Keyed.upsert key f ms) := by
  induction ms with
  | nil => exact ⟨hnew.1, hnew.2, trivial⟩
  | cons m ms ih =>
    obtain ⟨k, t⟩ := m
    obtain ⟨h1, h2, h3⟩ := hms
    by_cases h : k = key
    · simpa [Keyed.upsert, h] using ⟨(hold t h2).1, (hold t h2).2, h3⟩
    · simpa [Keyed.upsert, h] using ⟨h1, h2, ih h3⟩

theorem tidy_addAt (e : ValidationError) (path : List String) {t : ErrorTree} (h : t.Tidy) : (addAt e path t).Tidy := by
  induction path generalizing t with
  | nil => simpa [addAt, addError, tidy_iff] using (tidy_iff t).1 h
  | cons key path ih =>
    rw [tidy_iff] at h
    refine (tidy_iff _).2 ⟨Keyed.nodup_keys_upsert _ _ h.1, tidyMembers_upsert h.2 ?_ ?_⟩
    · exact ⟨isEmpty_addAt _ _ _, ih tidy_empty⟩
    · exact fun u hu => ⟨isEmpty_addAt _ _ _, ih hu⟩

theorem tidy_addAll {t : ErrorTree} (h : t.Tidy) (ps : List Placed) : (t.addAll ps).Tidy := by
  induction ps generalizing t with
  | nil => exact h
  | cons p ps ih => exact ih (tidy_addAt _ _ h)

theorem tidy_grouping (ps : List Placed) : (grouping ps).Tidy :=
  tidy_addAll tidy_empty ps

/-! ### Adding trees -/

/-- What a key holds once a tree has been added under it. -/
def joined (u : ErrorTree) : Option ErrorTree → ErrorTree
  | some old => absorb old u
  | none => u

theorem absorb_eq (t u : ErrorTree) : absorb t u = node (t.errors ++ u.errors) (absorbMembers t.members u.members) := by
  cases u; simp [absorb]

theorem absorb_empty (t : ErrorTree) : absorb t empty = t := by
  cases t; simp [absorb_eq, empty, absorbMembers]

theorem absorbMembers_cons {into : List (String × ErrorTree)} {key : String} {u : ErrorTree}
    {ms : List (String × ErrorTree)} (hu : u.isEmpty = false) :
    absorbMembers into ((key, u) :: ms) = absorbMembers (Keyed.upsert key (joined u) into) ms := by
  simp only [absorbMembers, hu, Bool.false_eq_true, ↓reduceIte]
  rfl

/-- A write at a key that is there already and that no further member has may come last. -/
theorem absorbMembers_upsert_comm {key : String} (f : Option ErrorTree → ErrorTree) {into ms : List (String × ErrorTree)}
    (hinto : key ∈ into.map Prod.fst) (hkey : key ∉ ms.map Prod.fst) (hms : TidyMembers ms) :
    absorbMembers (Keyed.upsert key f into) ms = Keyed.upsert key f (absorbMembers into ms) := by
  induction ms generalizing into with
  | nil => simp [absorbMembers]
  | cons m ms ih =>
    obtain ⟨k, u⟩ := m
    simp only [List.map_cons, List.mem_cons, not_or] at hkey
    obtain ⟨hu, -, hrest⟩ := hms
    rw [absorbMembers_cons hu, absorbMembers_cons hu, Keyed.upsert_comm (Ne.symm hkey.1) _ _ hinto]
    exact ih (Keyed.mem_keys_upsert.2 (Or.inr hinto)) hkey.2 hrest

/-- An error added to a tree before or after the tree is added to another one. -/
theorem absorb_addAt (e : ValidationError) (path : List String) (t : ErrorTree) {u : ErrorTree} (hu : u.Tidy) :
    absorb t (addAt e path u) = addAt e path (absorb t u) := by
  induction path generalizing t u with
  | nil => simp [addAt, addError, absorb_eq]
  | cons key path ih =>
    rw [tidy_iff] at hu
    obtain ⟨hkeys, hms⟩ := hu
    simp only [addAt, absorb_eq, errors_node, members_node]
    congr 1
    generalize t.members = into
    generalize u.members = ms at hkeys hms ⊢
    -- the write meets its key in the members of `u`, or it goes behind them
    induction ms generalizing into with
    | nil =>
      simp only [Keyed.upsert, absorbMembers_cons (isEmpty_addAt _ _ _), absorbMembers]
      congr 1
      funext old
      cases old with
      | none => rfl
      | some old => simp [joined, ih old tidy_empty, absorb_empty]
    | cons m ms ihms =>
      obtain ⟨k, v⟩ := m
      obtain ⟨hv, hvt, hrest⟩ := hms
      simp only [List.map_cons, List.nodup_cons] at hkeys
      by_cases h : k = key
      · subst h
        have hjoin : joined (addAt e path v) = fun old => addAt e path ((some (joined v old)).getD empty) := by
          funext old
          cases old with
          | none => rfl
          | some old => simp [joined, ih old hvt]
        simp only [Keyed.upsert, ↓reduceIte, Option.getD_some]
        rw [absorbMembers_cons (isEmpty_addAt _ _ _), absorbMembers_cons hv, hjoin,
          ← Keyed.upsert_upsert k (joined v) fun old => addAt e path (old.getD empty)]
        exact absorbMembers_upsert_comm _ (Keyed.mem_keys_upsert.2 (Or.inl rfl)) hkeys.1 hrest
      · simp only [Keyed.upsert, h, ↓reduceIte, absorbMembers_cons hv]
        exact ihms _ hkeys.2 hrest

theorem absorb_addAll (t : ErrorTree) {u : ErrorTree} (hu : u.Tidy) (ps : List Placed) :
    absorb t (u.addAll ps) = (absorb t u).addAll ps := by
  induction ps generalizing u with
  | nil => rfl
  | cons p ps ih => simp [ih (tidy_addAt _ _ hu), absorb_addAt _ _ _ hu]

/-- **Adding a grouping is adding its errors.** -/
theorem absorb_grouping (t : ErrorTree) (ps : List Placed) : absorb t (grouping ps) = t.addAll ps := by
  rw [grouping, absorb_addAll t tidy_empty, absorb_empty]

/-- The error a level deeper, under a key. -/
def Placed.under (key : String) (p : Placed) : Placed := (key :: p.1, p.2)

theorem addAll_under (key : String) (u : ErrorTree) (ps : List Placed) :
    (node [] [(key, u)]).addAll (ps.map (Placed.under key)) = node [] [(key, u.addAll ps)] := by
  induction ps generalizing u with
  | nil => rfl
  | cons p ps ih => simp [Placed.under, addAt, Keyed.upsert, ← ih]

/-- **Adding a grouping under a key is adding its errors, each with the key in front.** -/
theorem addMember_grouping (t : ErrorTree) (key : String) (ps : List Placed) :
    t.addMember key (grouping ps) = t.addAll (ps.map (Placed.under key)) := by
  cases ps with
  | nil =>
    cases t
    simp [addMember, absorbMembers, empty, isEmpty]
  | cons p ps =>
    have hone : node [] [(key, grouping (p :: ps))] = grouping ((p :: ps).map (Placed.under key)) := by
      have h := addAll_under key (addAt p.2 p.1 empty) ps
      simp only [grouping, addAll_cons, List.map_cons]
      rw [← h]
      rfl
    rw [← absorb_grouping, ← hone, absorb_eq]
    simp [addMember]

/-- Another form for the error if it is at the root. -/
def Placed.mapRoot (f : ValidationError → ValidationError) (p : Placed) : Placed :=
  if p.1 = [] then (p.1, f p.2) else p

theorem mapErrors_addAll (f : ValidationError → ValidationError) (t : ErrorTree) (ps : List Placed) :
    (t.addAll ps).mapErrors f = (t.mapErrors f).addAll (ps.map (Placed.mapRoot f)) := by
  induction ps generalizing t with
  | nil => rfl
  | cons p ps ih =>
    obtain ⟨path, e⟩ := p
    simp only [addAll_cons, ih, List.map_cons]
    cases path <;> simp [Placed.mapRoot, addAt, addError, mapErrors]

theorem mapErrors_grouping (f : ValidationError → ValidationError) (ps : List Placed) :
    (grouping ps).mapErrors f = grouping (ps.map (Placed.mapRoot f)) := by
  rw [grouping, mapErrors_addAll]
  rfl

/-! ### Reading a grouping -/

@[simp] theorem errorsAt_nil (t : ErrorTree) : t.errorsAt [] = t.errors := rfl

@[simp] theorem errorsAt_empty (path : List String) : empty.errorsAt path = [] := by
  cases path <;> rfl

theorem errorsAt_cons (t : ErrorTree) (key : String) (path : List String) :
    t.errorsAt (key :: path) = ((t.member? key).getD empty).errorsAt path := by
  cases h : t.member? key with
  | none => rw [Option.getD_none, errorsAt_empty]; simp [errorsAt, at?, h]
  | some u => simp [errorsAt, at?, h]

@[simp] theorem keysAt_nil (t : ErrorTree) : t.keysAt [] = t.members.map Prod.fst := rfl

@[simp] theorem keysAt_empty (path : List String) : empty.keysAt path = [] := by
  cases path <;> rfl

theorem keysAt_cons (t : ErrorTree) (key : String) (path : List String) :
    t.keysAt (key :: path) = ((t.member? key).getD empty).keysAt path := by
  cases h : t.member? key with
  | none => rw [Option.getD_none, keysAt_empty]; simp [keysAt, at?, h]
  | some u => simp [keysAt, at?, h]

theorem member?_addAt (e : ValidationError) (key k : String) (path : List String) (t : ErrorTree) :
    (addAt e (key :: path) t).member? k =
      if k = key then some (addAt e path ((t.member? key).getD empty)) else t.member? k := by
  simp only [addAt, member?, members_node, Keyed.get?_upsert]

theorem errorsAt_addAt (e : ValidationError) (path : List String) (t : ErrorTree) (place : List String) :
    (addAt e path t).errorsAt place = if path = place then t.errorsAt place ++ [e] else t.errorsAt place := by
  induction path generalizing t place with
  | nil =>
    cases place with
    | nil => simp [addAt, addError]
    | cons k place => simp [addAt, addError, errorsAt_cons, member?]
  | cons key path ih =>
    cases place with
    | nil => simp [addAt]
    | cons k place =>
      rw [errorsAt_cons, errorsAt_cons, member?_addAt]
      by_cases h : k = key
      · subst h
        simp [ih]
      · simp [h, Ne.symm h]

theorem keysAt_addAt (e : ValidationError) (path : List String) (t : ErrorTree) (place : List String) :
    (addAt e path t).keysAt place =
      match next? place path with
      | some key => if key ∈ t.keysAt place then t.keysAt place else t.keysAt place ++ [key]
      | none => t.keysAt place := by
  induction path generalizing t place with
  | nil =>
    cases place with
    | nil => simp [addAt, addError, next?]
    | cons k place => simp [addAt, addError, next?, keysAt_cons, member?]
  | cons key path ih =>
    cases place with
    | nil =>
      simp only [addAt, next?, keysAt_nil, members_node]
      exact Keyed.keys_upsert _ _ _
    | cons k place =>
      rw [keysAt_cons, keysAt_cons, member?_addAt]
      by_cases h : k = key
      · subst h
        simp [next?, ih]
      · simp [next?, h]

/-- **The errors of a node are those that were added with its path, in order.** -/
theorem errorsAt_grouping (ps : List Placed) (place : List String) :
    (grouping ps).errorsAt place = (ps.filter (·.1 = place)).map Prod.snd := by
  induction ps using List.reverseRecOn with
  | nil => simp
  | append_singleton ps p ih =>
    rw [grouping, addAll_append, addAll_cons, addAll_nil, ← grouping, errorsAt_addAt, ih]
    by_cases h : p.1 = place <;> simp [h]

theorem eraseDups_append_singleton {α : Type} [BEq α] [LawfulBEq α] (ks : List α) (k : α) :
    (ks ++ [k]).eraseDups = if k ∈ ks.eraseDups then ks.eraseDups else ks.eraseDups ++ [k] := by
  rw [List.eraseDups_append]
  by_cases h : k ∈ ks <;> simp [List.removeAll, h, List.eraseDups_cons]

/-- What comes last is a first occurrence if it has not been there before. -/
theorem eraseDups_filterMap_concat {α : Type} (f : α → Option String) (as : List α) (a : α) :
    ((as ++ [a]).filterMap f).eraseDups =
      match f a with
      | some k =>
        if k ∈ (as.filterMap f).eraseDups then (as.filterMap f).eraseDups
        else (as.filterMap f).eraseDups ++ [k]
      | none => (as.filterMap f).eraseDups := by
  rw [List.filterMap_append]
  cases h : f a with
  | none => rw [List.filterMap_cons_none h, List.filterMap_nil, List.append_nil]
  | some k => rw [List.filterMap_cons_some h, List.filterMap_nil, eraseDups_append_singleton]

theorem nodup_eraseDups {α : Type} [BEq α] [LawfulBEq α] (ks : List α) : ks.eraseDups.Nodup := by
  induction ks using List.reverseRecOn with
  | nil => exact List.nodup_nil
  | append_singleton ks k ih =>
    rw [eraseDups_append_singleton]
    split
    · exact ih
    · next hnew =>
      rw [← List.concat_eq_append]
      exact ih.concat hnew

/-- **The members of a node stand in the order in which the errors first met them.** -/
theorem keysAt_grouping (ps : List Placed) (place : List String) :
    (grouping ps).keysAt place = (ps.filterMap (next? place ·.1)).eraseDups := by
  induction ps using List.reverseRecOn with
  | nil => simp
  | append_singleton ps p ih =>
    rw [grouping, addAll_append, addAll_cons, addAll_nil, ← grouping, keysAt_addAt, ih,
      eraseDups_filterMap_concat]

theorem countMembers_upsert {key : String} {f : Option ErrorTree → ErrorTree} (ms : List (String × ErrorTree))
    (hf : ∀ old, (f old).count = (old.getD empty).count + 1) :
    countMembers (Keyed.upsert key f ms) = countMembers ms + 1 := by
  induction ms with
  | nil => simp [Keyed.upsert, countMembers, hf, empty, count]
  | cons m ms ih =>
    by_cases h : m.1 = key
    · simp [Keyed.upsert, h, countMembers, hf]
      omega
    · simp [Keyed.upsert, h, countMembers, ih]
      omega

theorem count_addAt (e : ValidationError) (path : List String) (t : ErrorTree) :
    (addAt e path t).count = t.count + 1 := by
  induction path generalizing t with
  | nil =>
    cases t
    simp [addAt, addError, count]
    omega
  | cons key path ih =>
    cases t
    simp [addAt, count, countMembers_upsert _ fun old => ih (old.getD empty)]
    omega

/-- Nothing is lost and nothing comes twice. -/
theorem count_grouping (ps : List Placed) : (grouping ps).count = ps.length := by
  induction ps using List.reverseRecOn with
  | nil => simp [empty, count, countMembers]
  | append_singleton ps p ih =>
    rw [grouping, addAll_append, addAll_cons, addAll_nil, ← grouping, count_addAt, ih]
    simp

theorem depthMembers_upsert {key : String} {f : Option ErrorTree → ErrorTree} {n : Nat}
    (ms : List (String × ErrorTree)) (hf : ∀ old, (f old).depth = max (old.getD empty).depth n) :
    depthMembers (Keyed.upsert key f ms) = max (depthMembers ms) (n + 1) := by
  induction ms with
  | nil => simp [Keyed.upsert, depthMembers, hf, empty, depth]
  | cons m ms ih =>
    by_cases h : m.1 = key
    · simp [Keyed.upsert, h, depthMembers, hf]
      omega
    · simp [Keyed.upsert, h, depthMembers, ih, Nat.max_assoc]

theorem depth_addAt (e : ValidationError) (path : List String) (t : ErrorTree) :
    (addAt e path t).depth = max t.depth path.length := by
  induction path generalizing t with
  | nil =>
    cases t
    simp [addAt, addError, depth]
  | cons key path ih =>
    cases t
    simp [addAt, depth, depthMembers_upsert _ fun old => ih (old.getD empty)]

/-- A tree is as deep as the longest of its paths. -/
theorem depth_grouping_le_iff {ps : List Placed} {n : Nat} :
    (grouping ps).depth ≤ n ↔ ∀ p ∈ ps, p.1.length ≤ n := by
  induction ps using List.reverseRecOn with
  | nil => simp [empty, depth, depthMembers]
  | append_singleton ps p ih =>
    rw [grouping, addAll_append, addAll_cons, addAll_nil, ← grouping, depth_addAt, Nat.max_le, ih]
    simp [or_imp, forall_and]

end ModelValidation.ErrorTree
