import Mathlib.Data.List.Enum
import ModelValidation.Proofs.Declarations
import ModelValidation.Proofs.Merging

/-!
# Items of a collection

The items of a collection lie one deeper than the collection and are walked one after another.  What is found in an item
stands under its place, counted from zero; an item without errors leaves nothing behind.

* `gather_error`: the walk fails for the first item that fails;
* `gather_ok`: if no item fails, the trees that are not empty stand under their places, in order;
* `items_reported_by_place`: so for items that are always there and for items that may be missing, and a list of items
  gives the same either way.
-/

set_option linter.unusedSectionVars false

namespace ModelValidation

open ErrorTree (addMember_of_notMem)

/-! ### Trees under their places -/

/-- The trees that are not empty under their places, from the place `i` on. -/
def placedTrees (i : Nat) (ts : List ErrorTree) : List (String × ErrorTree) :=
  ((ts.zipIdx i).filter fun p => !p.1.isEmpty).map fun p => (toString p.2, p.1)

/-- The places of trees that are not empty, from the place `i` on. -/
def takenPlaces (i : Nat) (ts : List ErrorTree) : List Nat :=
  ((ts.zipIdx i).filter fun p => !p.1.isEmpty).map Prod.snd

theorem keys_placedTrees (i : Nat) (ts : List ErrorTree) :
    (placedTrees i ts).map Prod.fst = (takenPlaces i ts).map toString := by
  rw [placedTrees, takenPlaces, List.map_map, List.map_map]
  rfl

theorem pairwise_takenPlaces (i : Nat) (ts : List ErrorTree) : (takenPlaces i ts).Pairwise (· < ·) := by
  have hall : ((ts.zipIdx i).map Prod.snd).Pairwise (· < ·) := by
    rw [List.zipIdx_map_snd]
    exact List.pairwise_lt_range'
  exact hall.sublist (List.filter_sublist.map Prod.snd)

/-- Different places have different keys. -/
theorem toString_injective : Function.Injective (toString : Nat → String) := by
  intro i j h
  have hdigits : Numeral.decimal i = Numeral.decimal j := String.ofList_inj.1 h
  exact Numeral.decimal_injective hdigits

theorem mem_takenPlaces {i : Nat} {ts : List ErrorTree} :
    i ∈ takenPlaces 0 ts ↔ ∃ t, ts[i]? = some t ∧ t.isEmpty = false := by
  rw [takenPlaces, List.mem_map]
  constructor
  · rintro ⟨⟨t, j⟩, hmem, rfl⟩
    obtain ⟨hzip, ht⟩ := List.mem_filter.1 hmem
    exact ⟨t, List.mk_mem_zipIdx_iff_getElem?.1 hzip, by simpa using ht⟩
  · rintro ⟨t, hget, ht⟩
    refine ⟨(t, i), List.mem_filter.2 ⟨List.mk_mem_zipIdx_iff_getElem?.2 hget, ?_⟩, rfl⟩
    rw [ht]
    rfl

theorem nodup_keys_placedTrees (i : Nat) (ts : List ErrorTree) : ((placedTrees i ts).map Prod.fst).Nodup := by
  rw [keys_placedTrees]
  exact (pairwise_takenPlaces i ts).nodup.map toString_injective

/-- A place holds the tree of its item if this has errors. -/
theorem get?_placedTrees (ts : List ErrorTree) (i : Nat) :
    Keyed.get? (toString i) (placedTrees 0 ts) = ts[i]?.filter fun t => !t.isEmpty := by
  cases hfound : ts[i]?.filter fun t => !t.isEmpty with
  | some t =>
    obtain ⟨hget, ht⟩ := Option.filter_eq_some_iff.1 hfound
    refine Keyed.get?_of_mem (nodup_keys_placedTrees 0 ts) (List.mem_map.2 ⟨(t, i), ?_, rfl⟩)
    exact List.mem_filter.2 ⟨List.mk_mem_zipIdx_iff_getElem?.2 hget, ht⟩
  | none =>
    refine Keyed.get?_of_notMem fun hmem => ?_
    rw [keys_placedTrees, List.mem_map_of_injective toString_injective, mem_takenPlaces] at hmem
    obtain ⟨t, hget, ht⟩ := hmem
    rw [hget, Option.filter_some, ht] at hfound
    cases hfound

/-! ### Gathering outcomes -/

theorem ErrorTree.addMember_of_isEmpty (t : ErrorTree) (key : String) {u : ErrorTree} (hu : u.isEmpty = true) :
    t.addMember key u = t := by
  obtain ⟨es, ms⟩ := t
  simp [addMember, absorbMembers, hu]

/-- Only the outcomes of the items count. -/
theorem gather_eq_gather_map {α : Type} (run : α → Except Fault ErrorTree) (i : Nat) (node : ErrorTree) (as : List α) :
    gather run i node as = gather id i node (as.map run) := by
  induction as generalizing i node with
  | nil => rfl
  | cons a as ih =>
    rw [List.map_cons, gather, gather, id_eq]
    cases run a with
    | error fault => rfl
    | ok t => exact ih (i + 1) _

/-- The first item that fails is the last one that is walked. -/
theorem gather_error {before : List (Except Fault ErrorTree)} (hbefore : ∀ run ∈ before, ∃ t, run = .ok t)
    (fault : Fault) (after : List (Except Fault ErrorTree)) (i : Nat) (node : ErrorTree) :
    gather id i node (before ++ .error fault :: after) = .error fault := by
  induction before generalizing i node with
  | nil => rfl
  | cons run before ih =>
    rw [List.forall_mem_cons] at hbefore
    obtain ⟨t, rfl⟩ := hbefore.1
    exact ih hbefore.2 (i + 1) _

/-- Trees go to their places, behind the members that are there already. -/
theorem gather_ok (ts : List ErrorTree) (es : List ValidationError) {i : Nat} {ms : List (String × ErrorTree)}
    (hnew : ∀ j, i ≤ j → toString j ∉ ms.map Prod.fst) :
    gather id i (.node es ms) (ts.map .ok) = .ok (.node es (ms ++ placedTrees i ts)) := by
  induction ts generalizing i ms with
  | nil => simp [gather, placedTrees]
  | cons t ts ih =>
    have hstep : gather id i (.node es ms) ((t :: ts).map .ok) =
        gather id (i + 1) ((ErrorTree.node es ms).addMember (toString i) t) (ts.map .ok) := rfl
    rw [hstep]
    cases ht : t.isEmpty with
    | true =>
      have hplaced : placedTrees i (t :: ts) = placedTrees (i + 1) ts := by simp [placedTrees, ht]
      rw [ErrorTree.addMember_of_isEmpty _ _ ht, ih fun j hj => hnew j (Nat.le_of_succ_le hj), hplaced]
    | false =>
      have hplaced : placedTrees i (t :: ts) = (toString i, t) :: placedTrees (i + 1) ts := by simp [placedTrees, ht]
      have hnext : ∀ j, i + 1 ≤ j → toString j ∉ (ms ++ [(toString i, t)]).map Prod.fst := by
        intro j hj hmem
        rw [List.map_append, List.mem_append] at hmem
        rcases hmem with hmem | hmem
        · exact hnew j (Nat.le_of_succ_le hj) hmem
        · have hji : j = i := toString_injective (List.mem_singleton.1 hmem)
          omega
      rw [addMember_of_notMem es (hnew i le_rfl) ht, ih hnext, hplaced, List.append_assoc]
      rfl

/-- Either all outcomes are trees, or there is a first one that is a fault. -/
theorem outcomes_cases (runs : List (Except Fault ErrorTree)) :
    (∃ ts : List ErrorTree, runs = ts.map .ok) ∨
      ∃ before fault after, runs = before ++ .error fault :: after ∧ ∀ run ∈ before, ∃ t, run = .ok t := by
  induction runs with
  | nil => exact Or.inl ⟨[], rfl⟩
  | cons run runs ih =>
    cases run with
    | error fault => exact Or.inr ⟨[], fault, runs, rfl, List.forall_mem_nil _⟩
    | ok t =>
      rcases ih with ⟨ts, rfl⟩ | ⟨before, fault, after, rfl, hbefore⟩
      · exact Or.inl ⟨t :: ts, rfl⟩
      · exact Or.inr ⟨.ok t :: before, fault, after, rfl, List.forall_mem_cons.2 ⟨⟨t, rfl⟩, hbefore⟩⟩

/-! ### Collections -/

/-- The node has no errors of its own.  Its members are the trees that are not empty, each under its place, and they
stand in the order of their places. -/
structure ErrorTree.HasByPlace (node : ErrorTree) (ts : List ErrorTree) : Prop where
  errors : node.errors = []
  member? : ∀ i : Nat, node.member? (toString i) = ts[i]?.filter fun t => !t.isEmpty
  keys : ∃ places : List Nat, node.members.map Prod.fst = places.map toString ∧ places.Pairwise (· < ·) ∧
    ∀ i ∈ places, i < ts.length

/-- The outcome of a collection at some depth, by the outcomes of its items in order. -/
structure CollectsItems (s : Settings) (depth : Nat) (runs : List (Except Fault ErrorTree))
    (outcome : Except Fault ErrorTree) : Prop where
  vacant : runs = [] → outcome = .ok .empty
  beyond : runs ≠ [] → s.maxDepth < depth + 1 → outcome = .error (.depthExceeded s.maxDepth)
  fails : depth + 1 ≤ s.maxDepth → ∀ fault, outcome = .error fault ↔
    ∃ before after, runs = before ++ .error fault :: after ∧ ∀ run ∈ before, ∃ t, run = .ok t
  finds : depth + 1 ≤ s.maxDepth → ∀ ts : List ErrorTree, runs = ts.map .ok →
    ∃ node, outcome = .ok node ∧ node.HasByPlace ts

theorem hasByPlace_placedTrees (ts : List ErrorTree) : (ErrorTree.node [] (placedTrees 0 ts)).HasByPlace ts where
  errors := rfl
  member? := get?_placedTrees ts
  keys := by
    refine ⟨takenPlaces 0 ts, keys_placedTrees 0 ts, pairwise_takenPlaces 0 ts, fun i hi => ?_⟩
    obtain ⟨t, hget, -⟩ := mem_takenPlaces.1 hi
    exact (List.getElem?_eq_some_iff.1 hget).1

variable {K : Type} [ValueTypes K] {v t m : K} {s : Settings} {depth : Nat}

theorem collect_some (run : Slot t m → Except Fault ErrorTree) (slots : List (Slot t m)) :
    collect s depth run (some slots) =
      if slots.map run = [] then .ok .empty
      else s.checkDepth (depth + 1) >>= fun _ => gather id 0 .empty (slots.map run) := by
  rw [← gather_eq_gather_map]
  cases slots with
  | nil => rfl
  | cons slot slots => rfl

theorem collectsItems_collect (run : Slot t m → Except Fault ErrorTree) (slots : List (Slot t m)) :
    CollectsItems s depth (slots.map run) (collect s depth run (some slots)) := by
  rw [collect_some]
  generalize slots.map run = runs
  have hgather (hdepth : depth + 1 ≤ s.maxDepth) :
      (if runs = [] then .ok .empty else s.checkDepth (depth + 1) >>= fun _ => gather id 0 .empty runs) =
        gather id 0 .empty runs := by
    have hcheck : s.checkDepth (depth + 1) = .ok () := Settings.checkDepth_eq_ok.2 hdepth
    rw [hcheck]
    cases runs <;> rfl
  have htrees (ts : List ErrorTree) : gather id 0 .empty (ts.map .ok) = .ok (.node [] (placedTrees 0 ts)) :=
    gather_ok ts [] fun _ _ => List.not_mem_nil
  refine ⟨fun hnil => if_pos hnil, fun hne hdepth => ?_, fun hdepth fault => ?_, fun hdepth ts hts => ?_⟩
  · rw [if_neg hne, Settings.checkDepth, if_pos hdepth]
    rfl
  · rw [hgather hdepth]
    constructor
    · intro hfault
      rcases outcomes_cases runs with ⟨ts, rfl⟩ | ⟨before, first, after, rfl, hbefore⟩
      · rw [htrees] at hfault
        cases hfault
      · rw [gather_error hbefore] at hfault
        cases hfault
        exact ⟨before, after, rfl, hbefore⟩
    · rintro ⟨before, after, rfl, hbefore⟩
      exact gather_error hbefore fault after 0 .empty
  · rw [hgather hdepth, hts, htrees]
    exact ⟨_, rfl, hasByPlace_placedTrees ts⟩

theorem Rule.walk_each (hs : s.strategy ≠ .force) (enter : Entrance K) (items : Carrier v → List (Carrier t))
    (chain : Chain K t m) (value : Carrier v) (model : Carrier m) :
    (Rule.each items chain).walk s enter (s.subject (.present value model)) depth =
      collect s depth (fun slot => chain.walkSlot s enter false slot (depth + 1))
        (some (presentSlots model (items value))) := by
  rw [Settings.subject_of_ne_force hs, Rule.walk]
  rfl

theorem Rule.walk_eachNullable (hs : s.strategy ≠ .force) (enter : Entrance K)
    (items : Carrier v → List (Option (Carrier t))) (chain : Chain K t m) (value : Carrier v) (model : Carrier m) :
    (Rule.eachNullable items chain).walk s enter (s.subject (.present value model)) depth =
      collect s depth (fun slot => chain.walkSlot s enter true slot (depth + 1))
        (some (optionalSlots model (items value))) := by
  rw [Settings.subject_of_ne_force hs, Rule.walk]
  rfl

/-- **Items are reported by their places.**  Unless the walk is forced, a collection without items has no errors, and
one with items fails beyond the greatest depth.  Otherwise it fails for the first item that fails; if none does, the
errors of each item, walked one deeper, stand under its place and nowhere else, and the places are in order.  A
collection of items that may be missing but are all there gives what the collection of the items gives. -/
theorem items_reported_by_place (hs : s.strategy ≠ .force) (enter : Entrance K) (chain : Chain K t m)
    (value : Carrier v) (model : Carrier m) (depth : Nat) :
    (∀ items : Carrier v → List (Carrier t),
      CollectsItems s depth
        ((presentSlots model (items value)).map fun slot => chain.walkSlot s enter false slot (depth + 1))
        ((Rule.each items chain).walk s enter (s.subject (.present value model)) depth)) ∧
    (∀ items : Carrier v → List (Option (Carrier t)),
      CollectsItems s depth
        ((optionalSlots model (items value)).map fun slot => chain.walkSlot s enter true slot (depth + 1))
        ((Rule.eachNullable items chain).walk s enter (s.subject (.present value model)) depth)) ∧
    ∀ (w : K) (value' : Carrier w) (items : Carrier v → List (Carrier t))
      (items' : Carrier w → List (Option (Carrier t))), items' value' = (items value).map some →
        (Rule.each items chain).walk s enter (s.subject (.present value model)) depth =
          (Rule.eachNullable items' chain).walk s enter (s.subject (.present value' model)) depth := by
  refine ⟨fun items => ?_, fun items => ?_, fun w value' items items' hitems => ?_⟩
  · rw [Rule.walk_each hs]
    exact collectsItems_collect _ _
  · rw [Rule.walk_eachNullable hs]
    exact collectsItems_collect _ _
  · have hslots : optionalSlots model (items' value') = presentSlots model (items value) := by
      rw [hitems, optionalSlots, presentSlots, List.map_map]
      rfl
    have hruns : (presentSlots model (items value)).map (fun slot => chain.walkSlot s enter false slot (depth + 1)) =
        (presentSlots model (items value)).map fun slot => chain.walkSlot s enter true slot (depth + 1) := by
      rw [presentSlots, List.map_map, List.map_map]
      rfl
    rw [Rule.walk_each hs, Rule.walk_eachNullable hs, hslots, collect_some, collect_some, hruns]

namespace Employee

/-- An employee without faults. -/
def faultless : Employee := ⟨"Clerk", ["logic"], []⟩

/-- Deputies the first of whom has no faults and the second of whom is not known. -/
def staff : List (Option Employee) := [some faultless, none, some nameless]

theorem items_reported_by_place_staff :
    settings.strategy ≠ .force ∧
    ∃ node : ErrorTree,
      (Rule.eachNullable (v := StaffType.staff) id deputyChain).walk settings (enterWithin settings registry.lookup 10)
        (settings.subject (.present staff withDeputies)) 0 = .ok node ∧
      node.HasByPlace [.empty, .ofError (.ofTemplate "Global.Required"), namelessTree] ∧
      node.member? "0" = none ∧ node.member? "2" = some namelessTree := by
  have hs : settings.strategy ≠ .force := by decide
  have hruns : (optionalSlots (v := StaffType.employee) (m := StaffType.employee) withDeputies staff).map
      (fun slot => deputyChain.walkSlot settings (enterWithin settings registry.lookup 10) true slot 1) =
      [ErrorTree.empty, .ofError (.ofTemplate "Global.Required"), namelessTree].map .ok := by rfl
  obtain ⟨-, hnullable, -⟩ := items_reported_by_place hs (enterWithin settings registry.lookup 10) deputyChain
    (v := StaffType.staff) staff withDeputies 0
  obtain ⟨node, hnode, hplaces⟩ := (hnullable id).finds (by decide) _ hruns
  exact ⟨hs, node, hnode, hplaces, hplaces.member? 0, hplaces.member? 2⟩

end Employee

end ModelValidation
