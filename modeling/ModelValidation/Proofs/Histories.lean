import Mathlib.Data.Finset.Card
import ModelValidation.Proofs.Registries

/-!
# Registries by their histories

What a registry holds depends on its history alone: on what has been registered for a type last, and on whether the
type has been asked for since.

* `Registry.Latest`: the last registration of a type in a history;
* `Registry.registration?_foldl`: what later actions do to a registration, unless they take its place;
* `Registry.Latest.registration?_eq`: so the last registration of a type is what is registered for it;
* `Registry.mem_runs_iff`, `Registry.nodup_runs`: the factories that have run are those that were asked while they were
  current, and none has run again;
* `Registry.size_ofHistory`: the size is the number of types that have ever been registered.
-/

set_option linter.unusedSectionVars false

namespace ModelValidation

variable {K : Type} [ValueTypes K]

/-- The registration after its type has been asked for, when the next object had a number, or while nobody has asked. -/
def Registration.settled {k : K} (asked : Option Nat) (registration : Registration K k) : Registration K k :=
  match asked with
  | none => registration
  | some object => ⟨registration.stamp, registration.source.asked object⟩

theorem Registration.settled_settled {k : K} (first second : Option Nat) (registration : Registration K k) :
    (registration.settled first).settled second = registration.settled (first.or second) := by
  cases first with
  | none => rfl
  | some object =>
    cases second with
    | none => rfl
    | some next => exact congrArg (Registration.mk registration.stamp) (registration.source.asked_asked object next)

theorem Registration.stamp_settled {k : K} (asked : Option Nat) (registration : Registration K k) :
    (registration.settled asked).stamp = registration.stamp := by
  cases asked <;> rfl

theorem Registration.pending_settled {k : K} (asked : Option Nat) (registration : Registration K k) :
    (registration.settled asked).source.pending = (registration.source.pending && asked.isNone) := by
  cases asked with
  | none => exact (Bool.and_true _).symm
  | some object => exact (registration.source.pending_asked object).trans (Bool.and_false _).symm

theorem Registration.map_spec_answer_settled {k : K} (asked : Option Nat) (registration : Registration K k)
    (object next : Nat) : ((registration.settled asked).source.answer next).map Shared.spec =
      (registration.source.answer object).map Shared.spec := by
  cases asked with
  | none => exact registration.source.map_spec_answer next object
  | some first =>
    rw [settled, Source.answer_asked]
    exact registration.source.map_spec_answer first object

namespace Registry

/-! ### Actions -/

/-- What is given to a registry for a type. -/
inductive Given (K : Type) [ValueTypes K] (k : K) where
  | specification (spec : Specification K k)
  | factory (make : Factory K k)

namespace Given

variable {k : K}

/-- What those get who ask: the specification, or what the first run of the factory gives. -/
def outcome : Given K k → Except Fault (Specification K k)
  | .specification spec => .ok spec
  | .factory make => make 0

/-- The outcome has to be made. -/
def isFactory : Given K k → Bool
  | .specification _ => false
  | .factory _ => true

/-- Where the specification comes from while nobody has asked, if the next object had a number at the registration. -/
def source (object : Nat) : Given K k → Source K k
  | .specification spec => .given ⟨object, spec⟩
  | .factory make => .factory make 0 none

theorem map_spec_answer (given : Given K k) (object next : Nat) :
    ((given.source object).answer next).map Shared.spec = given.outcome := by
  cases given with
  | specification spec => rfl
  | factory make =>
    rw [source, Source.answer, outcome]
    cases make 0 <;> rfl

theorem pending_source (given : Given K k) (object : Nat) : (given.source object).pending = given.isFactory := by
  cases given <;> rfl

end Given

/-- What can be done with a registry. -/
inductive Action (K : Type) [ValueTypes K] where
  | register {k : K} (spec : Specification K k)
  | registerFactory {k : K} (make : Factory K k)
  | contains (k : K)
  | size
  | resolve (k : K)

/-- The type that is registered, and what is given for it. -/
def Action.given? : Action K → Option ((k : K) × Given K k)
  | .register spec => some ⟨_, .specification spec⟩
  | .registerFactory make => some ⟨_, .factory make⟩
  | .contains _ | .size | .resolve _ => none

/-- The type that is registered. -/
def Action.target? (a : Action K) : Option K := a.given?.map Sigma.fst

/-- The types registered in a history, each as often as it has been. -/
def targets (h : List (Action K)) : List K := h.filterMap Action.target?

variable [DecidableEq K]

/-- The type is asked for. -/
def Action.resolves (k : K) : Action K → Bool
  | .resolve l => l = k
  | _ => false

theorem Action.resolves_iff {a : Action K} {k : K} : a.resolves k ↔ a = .resolve k := by
  cases a with
  | register | registerFactory | contains | size => exact ⟨nofun, nofun⟩
  | resolve l => rw [resolves, decide_eq_true_iff, resolve.injEq]

/-- The registry after an action. -/
def perform (r : Registry K) : Action K → Registry K
  | .register spec => r.register spec
  | .registerFactory make => r.registerFactory make
  | .contains _ | .size => r
  | .resolve k => (r.resolve k).2

/-- The registry after a history. -/
def ofHistory (h : List (Action K)) : Registry K := h.foldl perform .empty

/-- The last registration of a type in a history. -/
structure Latest (h : List (Action K)) (k : K) where
  before : List (Action K)
  action : Action K
  since : List (Action K)
  split : h = before ++ action :: since
  given : Given K k
  action_given : action.given? = some ⟨k, given⟩
  kept : ∀ a ∈ since, a.target? ≠ some k

namespace Latest

variable {h : List (Action K)} {k : K} (latest : Latest h k)

/-- The number of the registration. -/
def stamp : Nat := (targets latest.before).length

/-- A factory has been given, and nobody has asked for the type. -/
def pending : Bool := latest.given.isFactory && !latest.since.any (Action.resolves k)

end Latest

/-! ### One action -/

section Action

variable (r : Registry K) {a : Action K} {k : K}

theorem registration?_perform_self {given : Given K k} (h : a.given? = some ⟨k, given⟩) :
    (r.perform a).registration? k = some ⟨r.next, given.source r.objects⟩ := by
  cases a with
  | register | registerFactory =>
    cases h
    exact find_replace_self
  | contains | size | resolve => cases h

/-- An action that does not register the type can only ask for it. -/
theorem registration?_perform (h : a.target? ≠ some k) : (r.perform a).registration? k =
    (r.registration? k).map (.settled (if a.resolves k then some r.objects else none)) := by
  have hsame : (r.registration? k).map (.settled none) = r.registration? k := Option.map_id' ..
  cases a with
  | @register l _ | @registerFactory l _ =>
    have hl : l ≠ k := fun hl => h (congrArg some hl)
    exact (find_replace_of_ne hl).trans hsame.symm
  | contains | size => exact hsame.symm
  | resolve l =>
    by_cases hl : l = k
    · subst hl
      rw [Action.resolves, decide_eq_true rfl]
      exact r.registration?_resolve_self l
    · rw [Action.resolves, decide_eq_false hl]
      exact (r.registration?_resolve_of_ne l hl).trans hsame.symm

theorem next_perform : (r.perform a).next = r.next + (targets [a]).length := by
  cases a with
  | register | registerFactory | contains | size => rfl
  | resolve k =>
    rcases r.resolve_cases k with h | ⟨registration, -, -, h⟩
    · rw [perform, h]
      rfl
    · rw [perform, h]
      rfl

/-- The factories that an action makes run. -/
def started : Action K → List Nat
  | .resolve k =>
    match r.registration? k with
    | some registration => if registration.source.pending then [registration.stamp] else []
    | none => []
  | _ => []

theorem runs_perform : (r.perform a).runs = r.runs ++ r.started a := by
  cases a with
  | register | registerFactory | contains | size => exact (List.append_nil _).symm
  | resolve k =>
    rw [perform, started]
    cases h : r.registration? k with
    | none =>
      rw [r.resolve_of_unregistered k h]
      exact (List.append_nil _).symm
    | some registration =>
      dsimp only
      cases hpending : registration.source.pending with
      | true =>
        rw [r.resolve_of_pending k h hpending]
        rfl
      | false =>
        rw [r.resolve_of_not_pending k h hpending]
        exact (List.append_nil _).symm

end Action

/-! ### Histories -/

section Histories

variable (r : Registry K) {h later : List (Action K)} {k : K}

/-- Later actions that do not register the type can only ask for it. -/
theorem registration?_foldl (hkept : ∀ a ∈ later, a.target? ≠ some k) :
    ∃ asked : Option Nat, asked.isSome = later.any (Action.resolves k) ∧
      (later.foldl perform r).registration? k = (r.registration? k).map (.settled asked) := by
  induction later generalizing r with
  | nil => exact ⟨none, rfl, (Option.map_id' ..).symm⟩
  | cons a later ih =>
    obtain ⟨ha, hlater⟩ := List.forall_mem_cons.1 hkept
    obtain ⟨asked, hasked, hfound⟩ := ih (r.perform a) hlater
    refine ⟨(if a.resolves k then some r.objects else none).or asked, ?_, ?_⟩
    · rw [Option.isSome_or, hasked, List.any_cons]
      cases a.resolves k <;> rfl
    · rw [List.foldl_cons, hfound, r.registration?_perform ha, Option.map_map]
      exact congrArg (Option.map · _) (funext (Registration.settled_settled _ asked))

theorem ofHistory_append : ofHistory (h ++ later) = later.foldl perform (ofHistory h) := List.foldl_append

theorem runs_ofHistory_concat (a : Action K) :
    (ofHistory (h ++ [a])).runs = (ofHistory h).runs ++ (ofHistory h).started a := by
  rw [ofHistory_append]
  exact runs_perform _

theorem next_ofHistory : (ofHistory h).next = (targets h).length := by
  induction h using List.reverseRecOn with
  | nil => rfl
  | append_singleton h a ih =>
    rw [ofHistory_append, List.foldl_cons, List.foldl_nil, next_perform, ih, targets, targets, targets,
      List.filterMap_append, List.length_append]

theorem registration?_eq_none (hnever : ∀ a ∈ h, a.target? ≠ some k) : (ofHistory h).registration? k = none := by
  obtain ⟨asked, -, hfound⟩ := registration?_foldl .empty hnever
  exact hfound

/-- **The last registration of a type is what is registered for it**, with a source that has been asked if the type has
been asked for since. -/
theorem Latest.registration?_eq (latest : Latest h k) : ∃ (asked : Option Nat) (object : Nat),
    asked.isSome = latest.since.any (Action.resolves k) ∧
      (ofHistory h).registration? k = some (.settled asked ⟨latest.stamp, latest.given.source object⟩) := by
  obtain ⟨before, action, since, rfl, given, hgiven, hkept⟩ := latest
  obtain ⟨asked, hasked, hfound⟩ := registration?_foldl ((ofHistory before).perform action) hkept
  refine ⟨asked, (ofHistory before).objects, hasked, ?_⟩
  rw [ofHistory_append, List.foldl_cons, hfound, registration?_perform_self _ hgiven, next_ofHistory]
  rfl

/-- A type that has been registered has been registered last at some time. -/
theorem exists_latest (hmem : ∃ a ∈ h, a.target? = some k) : Nonempty (Latest h k) := by
  induction h using List.reverseRecOn with
  | nil =>
    obtain ⟨a, ha, -⟩ := hmem
    exact absurd ha List.not_mem_nil
  | append_singleton h a ih =>
    by_cases ha : a.target? = some k
    · obtain ⟨⟨l, given⟩, hgiven, hl⟩ := Option.map_eq_some_iff.1 ha
      subst hl
      exact ⟨⟨h, a, [], rfl, given, hgiven, nofun⟩⟩
    · obtain ⟨b, hb, htarget⟩ := hmem
      have hbh : b ∈ h := by
        rcases List.mem_append.1 hb with hb | hb
        · exact hb
        · exact absurd (List.mem_singleton.1 hb ▸ htarget) ha
      obtain ⟨before, action, since, rfl, given, hgiven, hkept⟩ := ih ⟨b, hbh, htarget⟩
      refine ⟨⟨before, action, since ++ [a], ?_, given, hgiven, ?_⟩⟩
      · rw [List.append_assoc, List.cons_append]
      · exact List.forall_mem_append.2 ⟨hkept, List.forall_mem_singleton.2 ha⟩

/-! ### Runs of factories -/

theorem runs_subset_foldl : r.runs ⊆ (later.foldl perform r).runs := by
  induction later generalizing r with
  | nil => exact List.Subset.refl _
  | cons a later ih =>
    refine List.Subset.trans ?_ (ih (r.perform a))
    rw [runs_perform]
    exact List.subset_append_left _ _

theorem started_eq_of_latest (latest : Latest h k) :
    (ofHistory h).started (.resolve k) = if latest.pending then [latest.stamp] else [] := by
  obtain ⟨asked, object, hasked, hfound⟩ := latest.registration?_eq
  have hnone : asked.isNone = !latest.since.any (Action.resolves k) := by
    rw [← hasked, Option.not_isSome]
  rw [started, hfound]
  dsimp only
  rw [Registration.pending_settled, Registration.stamp_settled, Given.pending_source, hnone]
  rfl

/-- A factory that is registered runs when its type is asked for. -/
theorem mem_runs_of_resolved {registration : Registration K k} (hfound : r.registration? k = some registration)
    (hpending : registration.source.pending) (hkept : ∀ a ∈ later, a.target? ≠ some k)
    (hresolved : later.any (Action.resolves k)) : registration.stamp ∈ (later.foldl perform r).runs := by
  induction later generalizing r with
  | nil => cases hresolved
  | cons a later ih =>
    obtain ⟨ha, hlater⟩ := List.forall_mem_cons.1 hkept
    rw [List.any_cons, Bool.or_eq_true_iff] at hresolved
    cases hthis : a.resolves k with
    | true =>
      cases Action.resolves_iff.1 hthis
      refine runs_subset_foldl (r.perform (.resolve k)) ?_
      rw [runs_perform, started, hfound]
      dsimp only
      rw [if_pos hpending]
      exact List.mem_append_right _ List.mem_cons_self
    | false =>
      rw [hthis] at hresolved
      have hsame : (r.perform a).registration? k = some registration := by
        rw [registration?_perform _ ha, hthis, hfound]
        rfl
      exact ih _ hsame hlater (hresolved.resolve_left nofun)

/-- An action makes a factory run that is the last registration of the type asked for. -/
theorem mem_started_iff {a : Action K} {n : Nat} : n ∈ (ofHistory h).started a ↔
    ∃ k, a = .resolve k ∧ ∃ latest : Latest h k, latest.pending = true ∧ latest.stamp = n := by
  constructor
  · intro hn
    cases a with
    | register | registerFactory | contains | size => cases hn
    | resolve k =>
      refine ⟨k, rfl, ?_⟩
      by_cases hmem : ∃ b ∈ h, b.target? = some k
      · obtain ⟨latest⟩ := exists_latest hmem
        rw [started_eq_of_latest latest] at hn
        split at hn
        · rename_i hpending
          exact ⟨latest, hpending, (List.mem_singleton.1 hn).symm⟩
        · cases hn
      · rw [started, registration?_eq_none fun b hb hk => hmem ⟨b, hb, hk⟩] at hn
        cases hn
  · rintro ⟨k, rfl, latest, hpending, rfl⟩
    rw [started_eq_of_latest latest, if_pos hpending]
    exact List.mem_singleton_self _

/-- **The factories that have run** are those whose type has been asked for while nothing had taken their place. -/
theorem mem_runs_iff {n : Nat} : n ∈ (ofHistory h).runs ↔ ∃ k past rest, h = past ++ .resolve k :: rest ∧
    ∃ latest : Latest past k, latest.given.isFactory = true ∧ latest.stamp = n := by
  constructor
  · -- on the history: what an action adds is the number of a registration that is still the last one
    induction h using List.reverseRecOn with
    | nil => nofun
    | append_singleton h a ih =>
      intro hn
      rw [runs_ofHistory_concat] at hn
      rcases List.mem_append.1 hn with hn | hn
      · obtain ⟨k, past, rest, rfl, hlatest⟩ := ih hn
        exact ⟨k, past, rest ++ [a], List.append_assoc _ _ _, hlatest⟩
      · obtain ⟨k, rfl, latest, hpending, rfl⟩ := mem_started_iff.1 hn
        exact ⟨k, h, [], rfl, latest, (Bool.and_eq_true_iff.1 hpending).1, rfl⟩
  · rintro ⟨k, past, rest, rfl, ⟨before, action, since, rfl, given, hgiven, hkept⟩, hfactory, rfl⟩
    have hfound := registration?_perform_self (ofHistory before) hgiven
    have hpending := (given.pending_source (ofHistory before).objects).trans hfactory
    -- from the registration on, the type is asked for at the end of the past at the latest
    have hlater : ∀ a ∈ since ++ [Action.resolve k], a.target? ≠ some k :=
      List.forall_mem_append.2 ⟨hkept, List.forall_mem_singleton.2 nofun⟩
    have hresolved : (since ++ [Action.resolve k]).any (Action.resolves k) :=
      List.any_eq_true.2 ⟨.resolve k, List.mem_append_right _ List.mem_cons_self, Action.resolves_iff.2 rfl⟩
    have hruns := mem_runs_of_resolved _ hfound hpending hlater hresolved
    rw [next_ofHistory] at hruns
    rw [List.append_cons, ofHistory_append, List.append_assoc, ofHistory_append]
    exact runs_subset_foldl _ hruns

/-- Two registrations with as many before them are one. -/
theorem eq_of_length_targets_eq {before before' since since' : List (Action K)} {a a' : Action K}
    (h : before ++ a :: since = before' ++ a' :: since') (ha : a.target?.isSome) (ha' : a'.target?.isSome)
    (hcount : (targets before).length = (targets before').length) : a = a' ∧ since = since' := by
  have hmore (b : List (Action K)) {x : Action K} (c : List (Action K)) (hx : x.target?.isSome) :
      (targets b).length < (targets (b ++ x :: c)).length := by
    obtain ⟨l, hl⟩ := Option.isSome_iff_exists.1 hx
    rw [targets, targets, List.filterMap_append, List.length_append, List.filterMap_cons_some hl, List.length_cons]
    omega
  rcases List.append_eq_append_iff.1 h with ⟨c, rfl, hc⟩ | ⟨c, rfl, hc⟩
  · cases c with
    | nil => exact List.cons.inj hc
    | cons x c =>
      obtain ⟨rfl, -⟩ := List.cons.inj hc
      exact absurd hcount (Nat.ne_of_lt (hmore before c ha))
  · cases c with
    | nil =>
      obtain ⟨rfl, rfl⟩ := List.cons.inj hc
      exact ⟨rfl, rfl⟩
    | cons x c =>
      obtain ⟨rfl, -⟩ := List.cons.inj hc
      exact absurd hcount (Nat.ne_of_gt (hmore before' c ha'))

/-- A factory that nobody has asked for has not run. -/
theorem Latest.stamp_not_mem_runs (latest : Latest h k) (hpending : latest.pending) :
    latest.stamp ∉ (ofHistory h).runs := by
  intro hn
  obtain ⟨before, action, since, hsplit, given, hgiven, hkept⟩ := latest
  obtain ⟨l, past, rest, rfl, ⟨before', action', since', rfl, given', hgiven', hkept'⟩, -, hstamp⟩ :=
    mem_runs_iff.1 hn
  rw [List.append_assoc, List.cons_append] at hsplit
  -- the factory that has run is this very one, and so its type has been asked for
  obtain ⟨rfl, rfl⟩ := eq_of_length_targets_eq hsplit (by rw [Action.target?, hgiven']; rfl)
    (by rw [Action.target?, hgiven]; rfl) hstamp
  obtain rfl : k = l := congrArg Sigma.fst (Option.some.inj (hgiven.symm.trans hgiven'))
  have hresolved : (since' ++ .resolve k :: rest).any (Action.resolves k) :=
    List.any_eq_true.2 ⟨.resolve k, List.mem_append_right _ List.mem_cons_self, Action.resolves_iff.2 rfl⟩
  rw [Latest.pending, hresolved, Bool.not_true, Bool.and_false] at hpending
  cases hpending

theorem nodup_started (a : Action K) : (r.started a).Nodup := by
  cases a with
  | register | registerFactory | contains | size => exact List.nodup_nil
  | resolve k =>
    unfold started
    dsimp only
    cases r.registration? k with
    | none => exact List.nodup_nil
    | some registration =>
      dsimp only
      split
      · exact List.nodup_singleton _
      · exact List.nodup_nil

/-- **No factory runs again.** -/
theorem nodup_runs (h : List (Action K)) : (ofHistory h).runs.Nodup := by
  induction h using List.reverseRecOn with
  | nil => exact List.nodup_nil
  | append_singleton h a ih =>
    rw [runs_ofHistory_concat]
    refine List.nodup_append.2 ⟨ih, nodup_started _ a, ?_⟩
    rintro n hn _ hstarted rfl
    obtain ⟨k, -, latest, hpending, rfl⟩ := mem_started_iff.1 hstarted
    exact latest.stamp_not_mem_runs hpending hn

/-! ### Types -/

theorem nodup_keys_perform (h : (r.entries.map Sigma.fst).Nodup) (a : Action K) :
    ((r.perform a).entries.map Sigma.fst).Nodup := by
  cases a with
  | register | registerFactory => exact nodup_keys_replace h
  | contains | size => exact h
  | resolve k =>
    rcases r.resolve_cases k with hsame | ⟨registration, -, -, hrun⟩
    · rw [perform, hsame]
      exact h
    · rw [perform, hrun]
      exact nodup_keys_replace h

theorem nodup_keys (h : List (Action K)) : ((ofHistory h).entries.map Sigma.fst).Nodup := by
  induction h using List.reverseRecOn with
  | nil => exact List.nodup_nil
  | append_singleton h a ih =>
    rw [ofHistory_append]
    exact nodup_keys_perform _ ih a

theorem mem_keys_iff : k ∈ (ofHistory h).entries.map Sigma.fst ↔ k ∈ targets h := by
  rw [← not_iff_not, ← find_eq_none_iff]
  constructor
  · intro hnone hmem
    obtain ⟨latest⟩ := exists_latest (List.mem_filterMap.1 hmem)
    obtain ⟨_, _, -, hfound⟩ := latest.registration?_eq
    rw [registration?, hnone] at hfound
    cases hfound
  · intro hmem
    exact registration?_eq_none fun a ha hk => hmem (List.mem_filterMap.2 ⟨a, ha, hk⟩)

/-- **The size is the number of types that have ever been registered.** -/
theorem size_ofHistory (h : List (Action K)) : (ofHistory h).size = (targets h).toFinset.card := by
  have hkeys : ((ofHistory h).entries.map Sigma.fst).toFinset = (targets h).toFinset := by
    ext k
    rw [List.mem_toFinset, List.mem_toFinset, mem_keys_iff]
  rw [← hkeys, List.toFinset_card_of_nodup (nodup_keys h), List.length_map]
  rfl

end Histories

end Registry

end ModelValidation
