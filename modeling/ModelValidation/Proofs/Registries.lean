import ModelValidation.Consultation

/-!
# What a registry holds

A registry grows from the empty one by registrations and changes further only by the runs of its factories.  Whatever
is looked up in it has been registered at some time, as it is or through a factory:

* `Source.answer_asked`: what a source has given to the first who asks it gives to all who ask later;
* `Registry.find_replace_self`, `Registry.find_replace_of_ne`, `Registry.keys_replace`: the entries after one of them
  has been replaced;
* `Registry.registration?_resolve_self`, `Registry.registration?_resolve_of_ne`: what is registered after a type has
  been asked for;
* `Registry.lookup_after`: a walk finds the same specifications from its beginning to its end;
* `Registry.Grown.lookup`: what holds of all that has been registered holds of what is looked up.
-/

namespace ModelValidation

variable {K : Type} [ValueTypes K]

/-! ### Sources -/

namespace Source

variable {k : K} (source : Source K k) (object next : Nat)

/-- **A source that has been asked gives what it gave**, also to one who brings another number. -/
theorem answer_asked : (source.asked object).answer next = source.answer object := by
  cases source with
  | given shared => rfl
  | factory make ran kept => cases kept <;> rfl

theorem asked_asked : (source.asked object).asked next = source.asked object := by
  cases source with
  | given shared => rfl
  | factory make ran kept => cases kept <;> rfl

theorem pending_asked : (source.asked object).pending = false := by
  cases source with
  | given shared => rfl
  | factory make ran kept => cases kept <;> rfl

/-- One that has nothing to run is not changed by being asked. -/
theorem asked_of_not_pending (h : source.pending = false) : source.asked object = source := by
  cases source with
  | given shared => rfl
  | factory make ran kept =>
    cases kept with
    | none => cases h
    | some kept => rfl

/-- The number of a new object is all that an answer has from it. -/
theorem map_spec_answer : (source.answer object).map Shared.spec = (source.answer next).map Shared.spec := by
  cases source with
  | given shared => rfl
  | factory make ran kept =>
    cases kept with
    | none => cases hrun : make ran <;> simp [answer, hrun, Except.map]
    | some kept => rfl

end Source

namespace Registry

variable [DecidableEq K]

/-! ### Entries -/

section Entries

variable {k l : K} {registration : Registration K k} {entries : List ((k : K) × Registration K k)}

theorem mem_of_find (h : find k entries = some registration) : ⟨k, registration⟩ ∈ entries := by
  induction entries with
  | nil => cases h
  | cons entry rest ih =>
    obtain ⟨l, first⟩ := entry
    by_cases hl : l = k
    · subst hl
      rw [find, dif_pos rfl] at h
      cases h
      exact List.mem_cons_self
    · rw [find, dif_neg hl] at h
      exact List.mem_cons_of_mem _ (ih h)

theorem eq_or_mem_of_mem_replace {entry : (k : K) × Registration K k} (h : entry ∈ replace k registration entries) :
    entry = ⟨k, registration⟩ ∨ entry ∈ entries := by
  induction entries with
  | nil => exact .inl (List.mem_singleton.1 h)
  | cons first rest ih =>
    by_cases hk : first.1 = k
    · rw [replace, if_pos hk] at h
      rcases List.mem_cons.1 h with rfl | h
      · exact .inl rfl
      · exact .inr (List.mem_cons_of_mem first h)
    · rw [replace, if_neg hk] at h
      rcases List.mem_cons.1 h with rfl | h
      · exact .inr List.mem_cons_self
      · rcases ih h with h | h
        · exact .inl h
        · exact .inr (List.mem_cons_of_mem first h)

theorem find_replace_self : find k (replace k registration entries) = some registration := by
  induction entries with
  | nil => rw [replace, find, dif_pos rfl]
  | cons entry rest ih =>
    by_cases hk : entry.1 = k
    · rw [replace, if_pos hk, find, dif_pos rfl]
    · rw [replace, if_neg hk, find, dif_neg hk, ih]

theorem find_replace_of_ne (hl : k ≠ l) : find l (replace k registration entries) = find l entries := by
  induction entries with
  | nil => exact dif_neg hl
  | cons entry rest ih =>
    by_cases hk : entry.1 = k
    · obtain ⟨j, first⟩ := entry
      subst hk
      rw [replace, if_pos rfl, find, dif_neg hl, find, dif_neg hl]
    · rw [replace, if_neg hk, find, find, ih]

theorem find_eq_none_iff : find k entries = none ↔ k ∉ entries.map Sigma.fst := by
  induction entries with
  | nil => exact ⟨fun _ => List.not_mem_nil, fun _ => rfl⟩
  | cons entry rest ih =>
    rw [List.map_cons, List.mem_cons, not_or]
    by_cases hk : entry.1 = k
    · obtain ⟨j, first⟩ := entry
      subst hk
      rw [find, dif_pos rfl]
      exact ⟨fun h => absurd h (Option.some_ne_none first), fun h => absurd rfl h.1⟩
    · rw [find, dif_neg hk, ih]
      exact ⟨fun h => ⟨Ne.symm hk, h⟩, And.right⟩

theorem keys_replace : (replace k registration entries).map Sigma.fst =
    if k ∈ entries.map Sigma.fst then entries.map Sigma.fst else entries.map Sigma.fst ++ [k] := by
  induction entries with
  | nil => rfl
  | cons entry rest ih =>
    by_cases hk : entry.1 = k
    · rw [replace, if_pos hk, List.map_cons, List.map_cons, hk, if_pos List.mem_cons_self]
    · rw [replace, if_neg hk, List.map_cons, List.map_cons, ih]
      by_cases hrest : k ∈ rest.map Sigma.fst
      · rw [if_pos hrest, if_pos (List.mem_cons_of_mem _ hrest)]
      · rw [if_neg hrest, if_neg (fun h => (List.mem_cons.1 h).elim (fun h => hk h.symm) hrest), List.cons_append]

theorem nodup_keys_replace (h : (entries.map Sigma.fst).Nodup) :
    ((replace k registration entries).map Sigma.fst).Nodup := by
  rw [keys_replace]
  split
  · exact h
  · rename_i hk
    refine List.nodup_append.2 ⟨h, List.pairwise_singleton _ k, ?_⟩
    rintro l hl _ hk' rfl
    exact hk (List.mem_singleton.1 hk' ▸ hl)

end Entries

/-! ### Asking for types -/

section Resolve

variable (r : Registry K) (k : K)

theorem resolve_of_unregistered (h : r.registration? k = none) :
    r.resolve k = (.error (.unregistered (ValueTypes.typeName k)), r) := by
  rw [resolve, h]

variable {registration : Registration K k}

theorem answer_resolve (h : r.registration? k = some registration) :
    (r.resolve k).1 = registration.source.answer r.objects := by
  rw [resolve, h]

theorem resolve_of_pending (h : r.registration? k = some registration) (hpending : registration.source.pending = true) :
    (r.resolve k).2 = { r with
      entries := replace k ⟨registration.stamp, registration.source.asked r.objects⟩ r.entries
      objects := r.objects + 1
      runs := r.runs ++ [registration.stamp] } := by
  rw [resolve, h]
  exact if_pos hpending

theorem resolve_of_not_pending (h : r.registration? k = some registration)
    (hpending : registration.source.pending = false) : (r.resolve k).2 = r := by
  rw [resolve, h]
  exact if_neg (Bool.eq_false_iff.1 hpending)

/-- What asking for a type can do: nothing, or a pending factory runs. -/
theorem resolve_cases : (r.resolve k).2 = r ∨ ∃ registration, r.registration? k = some registration ∧
    registration.source.pending = true ∧ (r.resolve k).2 = { r with
      entries := replace k ⟨registration.stamp, registration.source.asked r.objects⟩ r.entries
      objects := r.objects + 1
      runs := r.runs ++ [registration.stamp] } := by
  cases h : r.registration? k with
  | none =>
    rw [r.resolve_of_unregistered k h]
    exact .inl rfl
  | some registration =>
    cases hpending : registration.source.pending with
    | true => exact .inr ⟨registration, rfl, hpending, r.resolve_of_pending k h hpending⟩
    | false => exact .inl (r.resolve_of_not_pending k h hpending)

/-- What is registered for a type that has been asked for: its source has been asked. -/
theorem registration?_resolve_self : (r.resolve k).2.registration? k =
    (r.registration? k).map fun registration => ⟨registration.stamp, registration.source.asked r.objects⟩ := by
  cases h : r.registration? k with
  | none =>
    rw [r.resolve_of_unregistered k h]
    exact h
  | some registration =>
    cases hpending : registration.source.pending with
    | true =>
      rw [r.resolve_of_pending k h hpending]
      exact find_replace_self
    | false =>
      rw [r.resolve_of_not_pending k h hpending, Option.map_some, Source.asked_of_not_pending _ _ hpending]
      exact h

theorem registration?_resolve_of_ne {l : K} (hl : k ≠ l) : (r.resolve k).2.registration? l = r.registration? l := by
  rcases r.resolve_cases k with h | ⟨registration, -, -, h⟩
  · rw [h]
  · rw [h]
    exact find_replace_of_ne hl

/-- Asking for a type changes the specification of none. -/
theorem lookup_resolve : (r.resolve k).2.lookup = r.lookup := by
  funext l
  by_cases hl : k = l
  · subst hl
    have hself := r.registration?_resolve_self k
    cases h : r.registration? k with
    | none => rw [r.resolve_of_unregistered k h]
    | some registration =>
      rw [h, Option.map_some] at hself
      rw [lookup, lookup, answer_resolve _ k hself, answer_resolve r k h, Source.answer_asked]
  · have hother := r.registration?_resolve_of_ne k hl
    cases h : r.registration? l with
    | none => rw [lookup, lookup, resolve_of_unregistered _ l (hother.trans h), resolve_of_unregistered r l h]
    | some registration =>
      rw [lookup, lookup, answer_resolve _ l (hother.trans h), answer_resolve r l h]
      exact registration.source.map_spec_answer _ _

/-- **A walk finds the same specifications from its beginning to its end**, whatever it has asked for. -/
theorem lookup_after (consulted : List (Consultation K)) : (r.after consulted).lookup = r.lookup := by
  induction consulted generalizing r with
  | nil => rfl
  | cons c consulted ih =>
    cases c with
    | read label => exact ih r
    | tested label => exact ih r
    | related label => exact ih r
    | resolved k => exact (ih _).trans (r.lookup_resolve k)

end Resolve

/-! ### What registries grow from -/

/-- Registries that have grown from registrations of what is admitted, where a factory gives nothing else in any run;
types have been asked for between them. -/
inductive Grown (Admits : (k : K) → Except Fault (Specification K k) → Prop) : Registry K → Prop where
  | empty : Grown Admits .empty
  | register {r : Registry K} (h : Grown Admits r) {k : K} (spec : Specification K k) (hspec : Admits k (.ok spec)) :
    Grown Admits (r.register spec)
  | registerFactory {r : Registry K} (h : Grown Admits r) {k : K} (make : Factory K k)
    (hmake : ∀ run, Admits k (make run)) : Grown Admits (r.registerFactory make)
  | resolve {r : Registry K} (h : Grown Admits r) (k : K) : Grown Admits (r.resolve k).2

/-- What a source keeps is admitted, and what it would make. -/
def AdmittedSource (Admits : (k : K) → Except Fault (Specification K k) → Prop) {k : K} : Source K k → Prop
  | .given shared => Admits k (.ok shared.spec)
  | .factory make _ kept => (∀ run, Admits k (make run)) ∧ ∀ made ∈ kept, Admits k (made.map Shared.spec)

section Grown

variable {Admits : (k : K) → Except Fault (Specification K k) → Prop} {r : Registry K} {k : K} {source : Source K k}

omit [DecidableEq K] in
theorem admits_answer (h : AdmittedSource Admits source) (object : Nat) :
    Admits k ((source.answer object).map Shared.spec) := by
  cases source with
  | given shared => exact h
  | factory make ran kept =>
    cases kept with
    | some made => exact h.2 made rfl
    | none =>
      have hspec : (((make ran).map (Shared.mk object)).map Shared.spec) = make ran := by
        cases make ran <;> rfl
      rw [Source.answer, hspec]
      exact h.1 ran

omit [DecidableEq K] in
theorem admitted_asked (h : AdmittedSource Admits source) (object : Nat) :
    AdmittedSource Admits (source.asked object) := by
  cases source with
  | given shared => exact h
  | factory make ran kept =>
    cases kept with
    | some made => exact h
    | none =>
      have hanswer := admits_answer h object
      refine ⟨h.1, ?_⟩
      rintro made ⟨⟩
      exact hanswer

theorem admitted_of_mem_replace {entries : List ((k : K) × Registration K k)} {stamp : Nat}
    (hentries : ∀ entry ∈ entries, AdmittedSource Admits entry.2.source) (hsource : AdmittedSource Admits source) :
    ∀ entry ∈ replace k ⟨stamp, source⟩ entries, AdmittedSource Admits entry.2.source := by
  intro entry hentry
  rcases eq_or_mem_of_mem_replace hentry with rfl | hentry
  · exact hsource
  · exact hentries entry hentry

theorem admitted_of_mem_resolve (hr : ∀ entry ∈ r.entries, AdmittedSource Admits entry.2.source) (k : K) :
    ∀ entry ∈ (r.resolve k).2.entries, AdmittedSource Admits entry.2.source := by
  rcases r.resolve_cases k with h | ⟨registration, hfound, -, h⟩
  · rw [h]
    exact hr
  · rw [h]
    exact admitted_of_mem_replace hr (admitted_asked (hr _ (mem_of_find hfound)) _)

theorem Grown.admitted_of_mem (h : r.Grown Admits) : ∀ entry ∈ r.entries, AdmittedSource Admits entry.2.source := by
  induction h with
  | empty =>
    intro entry hentry
    cases hentry
  | register _ spec hspec ih => exact admitted_of_mem_replace ih hspec
  | registerFactory _ make hmake ih => exact admitted_of_mem_replace ih ⟨hmake, nofun⟩
  | resolve _ k ih => exact admitted_of_mem_resolve ih k

/-- **A type that is looked up has an admitted outcome**, or nothing is registered for it. -/
theorem Grown.lookup (h : r.Grown Admits) (k : K) :
    Admits k (r.lookup k) ∨ r.lookup k = .error (.unregistered (ValueTypes.typeName k)) := by
  unfold Registry.lookup
  cases hfound : r.registration? k with
  | none =>
    rw [r.resolve_of_unregistered k hfound]
    exact .inr rfl
  | some registration =>
    rw [answer_resolve r k hfound]
    exact .inl (admits_answer (h.admitted_of_mem _ (mem_of_find hfound)) _)

theorem Grown.after (h : r.Grown Admits) (consulted : List (Consultation K)) : (r.after consulted).Grown Admits := by
  induction consulted generalizing r with
  | nil => exact h
  | cons c consulted ih =>
    cases c with
    | read label => exact ih h
    | tested label => exact ih h
    | related label => exact ih h
    | resolved k => exact ih (h.resolve k)

end Grown

end Registry

end ModelValidation
