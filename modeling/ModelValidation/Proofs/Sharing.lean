import ModelValidation.Proofs.Findings
import ModelValidation.Proofs.Histories

/-!
# What those who ask share

A factory may give something else at each of its runs, and each run makes a new object.  Those who ask a registry for a
type nevertheless get one object, or one fault, for as long as the type is not registered again:

* `Registry.answer_shared`: all who ask between two registrations get what the first of them got;
* `Registry.keeps_perform`, `Registry.keeps_foldl`: an object is there since before some actions, or it is newer;
* `Registry.object_eq_iff`: so no two others get one object;
* `Registry.lastWrite_map`: a registry is a map in which the last write wins, and runs each factory once at most.
-/

set_option linter.unusedSectionVars false

namespace ModelValidation

variable {K : Type} [ValueTypes K]

namespace Source

variable {k : K} {source : Source K k} {object : Nat}

/-- What is there for all who will ask. -/
def kept? : Source K k → Option (Except Fault (Shared K k))
  | .given shared => some (.ok shared)
  | .factory _ _ kept => kept

/-- What a source gives is there from then on. -/
theorem kept?_asked (source : Source K k) (object : Nat) : (source.asked object).kept? = some (source.answer object) := by
  cases source with
  | given shared => rfl
  | factory make ran kept => cases kept <;> rfl

/-- What a factory makes now is the new object. -/
theorem object_of_pending (hpending : source.pending = true) {y : Shared K k}
    (h : some (source.answer object) = some (.ok y)) : y.object = object := by
  cases source with
  | given shared => cases hpending
  | factory make ran kept =>
    cases kept with
    | some kept => cases hpending
    | none =>
      obtain ⟨spec, -, rfl⟩ := map_eq_ok.1 (Option.some.inj h)
      rfl

end Source

namespace Registry

variable [DecidableEq K]

/-! ### Objects -/

section Objects

variable (r : Registry K) {h later : List (Action K)} {a : Action K} {k l : K} {x : Shared K k} {y : Shared K l}

/-- All who ask between two registrations of a type get what the first of them got. -/
theorem answer_shared (hkept : ∀ a ∈ later, a.target? ≠ some k) :
    ((ofHistory (h ++ .resolve k :: later)).resolve k).1 = ((ofHistory h).resolve k).1 := by
  obtain ⟨asked, -, hfound⟩ := registration?_foldl ((ofHistory h).resolve k).2 hkept
  have hlater : (ofHistory (h ++ .resolve k :: later)) = later.foldl perform ((ofHistory h).resolve k).2 :=
    ofHistory_append
  rw [← hlater, registration?_resolve_self, Option.map_map] at hfound
  cases hnow : (ofHistory h).registration? k with
  | none =>
    rw [hnow] at hfound
    rw [resolve_of_unregistered _ k hfound, resolve_of_unregistered _ k hnow]
  | some registration =>
    rw [hnow, Option.map_some, Function.comp] at hfound
    rw [answer_resolve _ k hfound, answer_resolve _ k hnow]
    cases asked with
    | none => exact registration.source.answer_asked _ _
    | some object => exact (Source.answer_asked _ _ _).trans (registration.source.answer_asked _ _)

/-- The object is there for a type: it has been registered, or a factory has made it. -/
def Keeps (r : Registry K) (k : K) (x : Shared K k) : Prop :=
  ∃ registration, r.registration? k = some registration ∧ registration.source.kept? = some (.ok x)

theorem keeps_iff {registration : Registration K k} (h : r.registration? k = some registration) :
    r.Keeps k x ↔ registration.source.kept? = some (.ok x) := by
  simp [Keeps, h]

/-- Who asks gets an object that is there from then on. -/
theorem keeps_resolve (h : (r.resolve k).1 = .ok x) : (r.resolve k).2.Keeps k x := by
  cases hfound : r.registration? k with
  | none =>
    rw [r.resolve_of_unregistered k hfound] at h
    cases h
  | some registration =>
    have hself := r.registration?_resolve_self k
    rw [hfound, Option.map_some] at hself
    rw [answer_resolve r k hfound] at h
    rw [keeps_iff _ hself, Source.kept?_asked, h]

/-- **An object is there since before an action, or it is the new one that the action has made.** -/
theorem keeps_perform (h : (r.perform a).Keeps l y) : (r.Keeps l y ∧ a.target? ≠ some l) ∨
    (a.target? = some l ∨ a = .resolve l) ∧ y.object = r.objects ∧ (r.perform a).objects = r.objects + 1 := by
  by_cases htarget : a.target? = some l
  · obtain ⟨⟨m, given⟩, hgiven, rfl⟩ := Option.map_eq_some_iff.1 htarget
    rw [keeps_iff _ (registration?_perform_self r hgiven)] at h
    cases a with
    | register spec =>
      cases hgiven
      cases h
      exact .inr ⟨.inl rfl, rfl, rfl⟩
    | registerFactory make =>
      cases hgiven
      cases h
    | contains | size | resolve => cases hgiven
  · cases hfound : r.registration? l with
    | none =>
      obtain ⟨registration, hnow, -⟩ := h
      rw [r.registration?_perform htarget, hfound] at hnow
      cases hnow
    | some registration =>
      have hnow := r.registration?_perform htarget
      rw [hfound, Option.map_some] at hnow
      rw [keeps_iff _ hnow] at h
      cases hasks : a.resolves l with
      | false =>
        rw [hasks] at h
        exact .inl ⟨(keeps_iff r hfound).2 h, htarget⟩
      | true =>
        cases Action.resolves_iff.1 hasks
        rw [hasks] at h
        cases hpending : registration.source.pending with
        | false =>
          rw [if_pos rfl, Registration.settled, Source.asked_of_not_pending _ _ hpending] at h
          exact .inl ⟨(keeps_iff r hfound).2 h, htarget⟩
        | true =>
          refine .inr ⟨.inr rfl, ?_, ?_⟩
          · exact Source.object_of_pending hpending ((Source.kept?_asked _ _).symm.trans h)
          · rw [perform, r.resolve_of_pending l hfound hpending]

theorem objects_perform (a : Action K) : r.objects ≤ (r.perform a).objects := by
  cases a with
  | register spec => exact Nat.le_succ _
  | registerFactory | contains | size => exact Nat.le_refl _
  | resolve k =>
    rcases r.resolve_cases k with h | ⟨registration, -, -, h⟩
    · rw [perform, h]
    · rw [perform, h]
      exact Nat.le_succ _

/-- Objects that are there have been numbered, and those of different types differently. -/
structure Numbered (r : Registry K) : Prop where
  lt : ∀ {k x}, r.Keeps k x → x.object < r.objects
  eq : ∀ {k l x y}, r.Keeps k x → r.Keeps l y → x.object = y.object → k = l

theorem numbered_perform (hr : r.Numbered) (a : Action K) : (r.perform a).Numbered where
  lt := by
    intro k x hx
    rcases r.keeps_perform hx with ⟨hold, -⟩ | ⟨-, hobject, hobjects⟩
    · exact (hr.lt hold).trans_le (r.objects_perform a)
    · omega
  eq := by
    intro k l x y hx hy hobject
    rcases r.keeps_perform hx with ⟨hx, -⟩ | ⟨hk, hnew, -⟩
    · rcases r.keeps_perform hy with ⟨hy, -⟩ | ⟨-, hnew, -⟩
      · exact hr.eq hx hy hobject
      · exact absurd (hr.lt hx) (by omega)
    · rcases r.keeps_perform hy with ⟨hy, -⟩ | ⟨hl, -, -⟩
      · exact absurd (hr.lt hy) (by omega)
      · -- the action has made both
        rcases hk with hk | rfl
        · rcases hl with hl | rfl
          · exact Option.some.inj (hk.symm.trans hl)
          · cases hk
        · rcases hl with hl | hl
          · cases hl
          · exact Action.resolve.inj hl

theorem numbered_ofHistory (h : List (Action K)) : (ofHistory h).Numbered := by
  induction h using List.reverseRecOn with
  | nil =>
    constructor
    · rintro k x ⟨_, ⟨⟩, -⟩
    · rintro k l x y ⟨_, ⟨⟩, -⟩
  | append_singleton h a ih =>
    rw [ofHistory_append]
    exact numbered_perform _ ih a

/-- **An object is there since before some actions, or it is newer than they.** -/
theorem keeps_foldl (h : (later.foldl perform r).Keeps l y) :
    (r.Keeps l y ∧ ∀ a ∈ later, a.target? ≠ some l) ∨ r.objects ≤ y.object := by
  induction later generalizing r with
  | nil => exact .inl ⟨h, nofun⟩
  | cons a later ih =>
    rcases ih (r.perform a) h with ⟨hthen, hlater⟩ | hnew
    · rcases r.keeps_perform hthen with ⟨hnow, ha⟩ | ⟨-, hobject, -⟩
      · exact .inl ⟨hnow, List.forall_mem_cons.2 ⟨ha, hlater⟩⟩
      · exact .inr hobject.ge
    · exact .inr ((r.objects_perform a).trans hnew)

/-- **Two who ask get one object just if they ask for one type** that has not been registered again between them. -/
theorem object_eq_iff (hx : ((ofHistory h).resolve k).1 = .ok x)
    (hy : ((ofHistory (h ++ .resolve k :: later)).resolve l).1 = .ok y) :
    x.object = y.object ↔ k = l ∧ ∀ a ∈ later, a.target? ≠ some k := by
  constructor
  · intro hobject
    have hfirst : (ofHistory (h ++ [.resolve k])).Keeps k x := by
      rw [ofHistory_append]
      exact keeps_resolve _ hx
    have hlast : ((later ++ [Action.resolve l]).foldl perform (ofHistory (h ++ [.resolve k]))).Keeps l y := by
      have hsplit : h ++ [Action.resolve k] ++ (later ++ [.resolve l]) =
          h ++ .resolve k :: later ++ [.resolve l] := by simp
      rw [← ofHistory_append, hsplit, ofHistory_append]
      exact keeps_resolve _ hy
    have hnumbered := numbered_ofHistory (h ++ [.resolve k])
    rcases keeps_foldl _ hlast with ⟨hkept, hlater⟩ | hnew
    · obtain rfl := hnumbered.eq hfirst hkept hobject
      exact ⟨rfl, fun a ha => hlater a (List.mem_append_left _ ha)⟩
    · exact absurd (hnumbered.lt hfirst) (by omega)
  · rintro ⟨rfl, hkept⟩
    rw [answer_shared hkept, hx] at hy
    cases hy
    rfl

end Objects

/-! ### What a registry answers -/

section Answers

variable {h later : List (Action K)} {k : K}

theorem answers_of_never (hnever : ∀ a ∈ h, a.target? ≠ some k) : (ofHistory h).contains k = false ∧
    ((ofHistory h).resolve k).1 = .error (.unregistered (ValueTypes.typeName k)) ∧
    (ofHistory (h ++ [.resolve k])).runs = (ofHistory h).runs := by
  have hnone := registration?_eq_none hnever
  refine ⟨?_, ?_, ?_⟩
  · rw [contains, hnone]
    rfl
  · rw [resolve_of_unregistered _ k hnone]
  · rw [runs_ofHistory_concat, started, hnone]
    exact List.append_nil _

theorem answers_of_latest (latest : Latest h k) : (ofHistory h).contains k = true ∧
    ((ofHistory h).resolve k).1.map Shared.spec = latest.given.outcome ∧
    (ofHistory (h ++ [.resolve k])).runs = (ofHistory h).runs ++ if latest.pending then [latest.stamp] else [] := by
  obtain ⟨asked, object, -, hfound⟩ := latest.registration?_eq
  refine ⟨?_, ?_, ?_⟩
  · rw [contains, hfound]
    rfl
  · rw [answer_resolve _ k hfound, Registration.map_spec_answer_settled asked _ object]
    exact latest.given.map_spec_answer object object
  · rw [runs_ofHistory_concat, started_eq_of_latest latest]

/-- What is done with other types leaves the registration of a type as it is. -/
theorem registration?_append (hothers : ∀ a ∈ later, a.target? ≠ some k ∧ a ≠ .resolve k) :
    (ofHistory (h ++ later)).registration? k = (ofHistory h).registration? k := by
  obtain ⟨asked, hasked, hlater⟩ := registration?_foldl (ofHistory h) fun a ha => (hothers a ha).1
  have hnone : asked = none := by
    rw [← Option.not_isSome_iff_eq_none, hasked, Bool.not_eq_true]
    exact List.any_eq_false.2 fun a ha hk => (hothers a ha).2 (Action.resolves_iff.1 hk)
  rw [ofHistory_append, hlater, hnone]
  exact Option.map_id' ..

/-- The answers for a type last until it is registered again, whatever is done with other types. -/
theorem answers_append (hkept : ∀ a ∈ later, a.target? ≠ some k) :
    (ofHistory (h ++ later)).contains k = (ofHistory h).contains k ∧
    ((ofHistory (h ++ later)).resolve k).1.map Shared.spec = ((ofHistory h).resolve k).1.map Shared.spec := by
  obtain ⟨asked, -, hlater⟩ := registration?_foldl (ofHistory h) hkept
  rw [← ofHistory_append] at hlater
  constructor
  · rw [contains, contains, hlater, Option.isSome_map]
  · cases hnow : (ofHistory h).registration? k with
    | none =>
      rw [hnow] at hlater
      rw [resolve_of_unregistered _ k hlater, resolve_of_unregistered _ k hnow]
    | some registration =>
      rw [hnow] at hlater
      rw [answer_resolve _ k hlater, answer_resolve _ k hnow]
      exact registration.map_spec_answer_settled asked _ _

theorem runs_concat_of_ne_resolve {a : Action K} (ha : ∀ l, a ≠ .resolve l) :
    (ofHistory (h ++ [a])).runs = (ofHistory h).runs := by
  rw [runs_ofHistory_concat]
  cases a with
  | register | registerFactory | contains | size => exact List.append_nil _
  | resolve l => exact absurd rfl (ha l)

end Answers

/-- **A registry is a map in which the last write wins, and each factory runs once at most.**  A type that has never
been registered has no specification.  One that has been has the specification of its last registration, or what the
first run of its factory gives, and asking for the type makes the factory run if nobody has asked since.  All who ask
until the type is registered again get the very object, or the very fault, that the first of them got, and no two others
get one object.  What is done with other types changes neither what there is for a type nor the specification that is
given.  Nothing but asking makes a factory run, none runs again, and those that have run are those which were asked while
they were current.  The size is the number of types that have ever been registered. -/
theorem lastWrite_map (h : List (Action K)) (k : K) :
    ((∀ a ∈ h, a.target? ≠ some k) → (ofHistory h).contains k = false ∧
      ((ofHistory h).resolve k).1 = .error (.unregistered (ValueTypes.typeName k)) ∧
      (ofHistory (h ++ [.resolve k])).runs = (ofHistory h).runs) ∧
    ((∃ a ∈ h, a.target? = some k) → ∃ latest : Latest h k, (ofHistory h).contains k = true ∧
      ((ofHistory h).resolve k).1.map Shared.spec = latest.given.outcome ∧
      (ofHistory (h ++ [.resolve k])).runs = (ofHistory h).runs ++
        if latest.given.isFactory && !latest.since.any (Action.resolves k) then [latest.stamp] else []) ∧
    (∀ later, (∀ a ∈ later, a.target? ≠ some k) →
      ((ofHistory (h ++ .resolve k :: later)).resolve k).1 = ((ofHistory h).resolve k).1) ∧
    (∀ later l (x : Shared K k) (y : Shared K l), ((ofHistory h).resolve k).1 = .ok x →
      ((ofHistory (h ++ .resolve k :: later)).resolve l).1 = .ok y →
      (x.object = y.object ↔ k = l ∧ ∀ a ∈ later, a.target? ≠ some k)) ∧
    (∀ later, (∀ a ∈ later, a.target? ≠ some k) →
      (ofHistory (h ++ later)).contains k = (ofHistory h).contains k ∧
      ((ofHistory (h ++ later)).resolve k).1.map Shared.spec = ((ofHistory h).resolve k).1.map Shared.spec) ∧
    (∀ later, (∀ a ∈ later, a.target? ≠ some k ∧ a ≠ .resolve k) →
      (ofHistory (h ++ later)).registration? k = (ofHistory h).registration? k) ∧
    (∀ a, (∀ l, a ≠ .resolve l) → (ofHistory (h ++ [a])).runs = (ofHistory h).runs) ∧
    (ofHistory h).runs.Nodup ∧
    (∀ n, n ∈ (ofHistory h).runs ↔ ∃ l past rest, h = past ++ .resolve l :: rest ∧
      ∃ latest : Latest past l, latest.given.isFactory = true ∧ latest.stamp = n) ∧
    (ofHistory h).size = (targets h).toFinset.card := by
  refine ⟨answers_of_never, fun hmem => ?_, fun later => answer_shared, fun later l x y => object_eq_iff,
    fun later => answers_append, fun later => registration?_append, fun a => runs_concat_of_ne_resolve, nodup_runs h,
    fun n => mem_runs_iff, size_ofHistory h⟩
  obtain ⟨latest⟩ := exists_latest hmem
  exact ⟨latest, answers_of_latest latest⟩

/-- The second factory takes the place of the first before anybody has asked.  Its first run fails, and it does not run
again, though its next run would not fail. -/
def replacedFactory : List (Action StaffType) :=
  [.registerFactory (k := StaffType.text) fun _ => .ok .nil, .size,
    .registerFactory (k := StaffType.text) fun run => if run = 0 then .error .emptyMemberName else .ok .nil,
    .resolve .text, .register Employee.specification, .resolve .text, .resolve .employee]

example : (ofHistory replacedFactory).runs = [1] ∧
    (ofHistory replacedFactory).lookup .text = .error .emptyMemberName := by
  constructor <;> rfl

end Registry

end ModelValidation
