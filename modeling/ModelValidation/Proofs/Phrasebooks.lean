import ModelValidation.Phrasebook
import ModelValidation.Proofs.Grouping

/-!
# Phrasebooks by their histories

The phrasebooks that are registered, and the phrases in them, depend on the calls so far alone: the first offer of a
name registers it, later offers of the name are refused, and the phrases of a name are those of the first offer with
all that has been added to it since.

* `Phrasebook.phrase?_written_eq_some_iff`: of all phrases written for a key the last one stays;
* `Phrasebooks.find?_after`: what one call does to the phrasebook of a name;
* `Phrasebooks.Entry.find?_eq`: the phrasebook of a name after a history;
* `Phrasebooks.distinct_names_last_phrases`: names are distinct, and the last phrase of a key is its phrase.
-/

namespace ModelValidation

/-! ### Phrases -/

namespace Phrasebook

/-- The phrasebook of a name with phrases written one after another. -/
def written (name : String) (phrases : List (String × String)) : Phrasebook :=
  withPhrases ⟨name, []⟩ phrases

@[simp] theorem name_withPhrases (t : Phrasebook) (phrases : List (String × String)) :
    (t.withPhrases phrases).name = t.name := rfl

theorem withPhrases_nil (t : Phrasebook) : t.withPhrases [] = t := rfl

theorem withPhrases_withPhrases (t : Phrasebook) (phrases more : List (String × String)) :
    (t.withPhrases phrases).withPhrases more = t.withPhrases (phrases ++ more) := by
  simp only [withPhrases, List.map_append, Keyed.putAll_append]

theorem phrase?_written (name key : String) (phrases : List (String × String)) :
    (written name phrases).phrase? key = (Keyed.get? key phrases.reverse).map Template.mk := by
  rw [phrase?, written, withPhrases, Keyed.get?_putAll, ← List.map_reverse, Keyed.get?_map]
  exact Option.or_none

/-- **The phrase of a key is the last one written for it.** -/
theorem phrase?_written_eq_some_iff {name key phrase : String} {phrases : List (String × String)} :
    (written name phrases).phrase? key = some ⟨phrase⟩ ↔
      ∃ earlier later, phrases = earlier ++ (key, phrase) :: later ∧ key ∉ later.map Prod.fst := by
  rw [phrase?_written, Option.map_eq_some_iff]
  constructor
  · rintro ⟨p, hp, hphrase⟩
    cases hphrase
    obtain ⟨before, after, hreverse, hbefore⟩ := Keyed.get?_eq_some_iff.1 hp
    refine ⟨after.reverse, before.reverse, ?_, ?_⟩
    · have hforward := congrArg List.reverse hreverse
      simpa using hforward
    · rwa [List.map_reverse, List.mem_reverse]
  · rintro ⟨earlier, later, rfl, hlater⟩
    refine ⟨phrase, Keyed.get?_eq_some_iff.2 ⟨later.reverse, earlier.reverse, ?_, ?_⟩, rfl⟩
    · simp
    · rwa [List.map_reverse, List.mem_reverse]

theorem phrase?_written_eq_none_iff {name key : String} {phrases : List (String × String)} :
    (written name phrases).phrase? key = none ↔ key ∉ phrases.map Prod.fst := by
  rw [phrase?_written, Option.map_eq_none_iff, Keyed.get?_eq_none_iff, List.map_reverse, List.mem_reverse]

/-- What a phrasebook is made from. -/
inductive Source where
  /-- Keys with their phrases. -/
  | pairs (phrases : List (String × String))
  /-- A JSON text. -/
  | json (text : String)

namespace Source

/-- The phrases in their order, or what is wrong with them. -/
def phrases : Source → Except DictionaryProblem (List (String × String))
  | pairs phrases => .ok phrases
  | json text => phrasesOfJson text

/-- The phrasebook of a name, or why there is none. -/
def book (name : String) : Source → Except PhrasebookFault Phrasebook
  | pairs phrases => Phrasebook.ofPhrases name phrases
  | json text => Phrasebook.ofJson name text

/-- The phrases of the phrasebook that is made under a name, if one is made. -/
def made? (name : String) (source : Source) : Option (List (String × String)) :=
  match source.phrases with
  | .ok phrases => if Text.isBlankText name then none else some phrases
  | .error _ => none

variable {name : String} {source : Source} {phrases : List (String × String)}

theorem book_eq : source.book name =
    match source.phrases with
    | .error problem => .error (.invalidDictionary name problem)
    | .ok phrases => if Text.isBlankText name then .error .emptyName else .ok (written name phrases) := by
  cases source with
  | pairs phrases => rfl
  | json text => rfl

/-- A phrasebook is made if there are phrases, and under a name that is not blank. -/
theorem made?_eq_some_iff :
    source.made? name = some phrases ↔ source.phrases = .ok phrases ∧ ¬ Text.isBlankText name := by
  unfold made?
  cases source.phrases with
  | error problem => simp
  | ok found => by_cases hblank : Text.isBlankText name <;> simp [hblank]

theorem book_of_made (h : source.made? name = some phrases) : source.book name = .ok (written name phrases) := by
  obtain ⟨hphrases, hblank⟩ := made?_eq_some_iff.1 h
  rw [book_eq, hphrases]
  exact if_neg hblank

theorem book_of_not_made (h : source.made? name = none) : ∃ fault, source.book name = .error fault := by
  rw [book_eq]
  unfold made? at h
  cases hphrases : source.phrases with
  | error problem => exact ⟨_, rfl⟩
  | ok found =>
    rw [hphrases] at h
    by_cases hblank : Text.isBlankText name
    · exact ⟨.emptyName, if_pos hblank⟩
    · simp [hblank] at h

end Source

end Phrasebook

/-! ### Single calls -/

namespace Phrasebooks

/-- What can be done with phrasebooks.  A phrasebook is made from its source before it is registered. -/
inductive Call where
  | add (name : String) (source : Phrasebook.Source)
  | extend (name : String) (phrases : List (String × String))
  | find (name : String)

namespace Call

/-- The name that the call is about. -/
def name : Call → String
  | .add name _ | .extend name _ | .find name => name

/-- The name and the phrases of the phrasebook that is offered, if one is made. -/
def offer? : Call → Option (String × List (String × String))
  | .add name source => (source.made? name).map (name, ·)
  | .extend _ _ | .find _ => none

/-- The name of the phrasebook that is offered. -/
def offered? (call : Call) : Option String := call.offer?.map Prod.fst

/-- The phrases that are offered under a name. -/
def offeredAs? (name : String) (call : Call) : Option (List (String × String)) :=
  call.offer?.bind fun (other, phrases) => if other = name then some phrases else none

/-- The phrases that are to be added to the phrasebook of a name. -/
def additions (name : String) : Call → List (String × String)
  | .extend other phrases => if other = name then phrases else []
  | .add _ _ | .find _ => []

variable {call : Call} {name : String} {phrases : List (String × String)}

theorem offer?_eq_some_iff :
    call.offer? = some (name, phrases) ↔ ∃ source, call = .add name source ∧ source.made? name = some phrases := by
  cases call with
  | extend | find => exact ⟨nofun, nofun⟩
  | add other source =>
    constructor
    · intro h
      obtain ⟨found, hmade, hoffer⟩ := Option.map_eq_some_iff.1 h
      cases hoffer
      exact ⟨source, rfl, hmade⟩
    · rintro ⟨_, hcall, hmade⟩
      cases hcall
      rw [offer?, hmade]
      rfl

theorem offered?_of_offer (h : call.offer? = some (name, phrases)) : call.offered? = some name :=
  congrArg (Option.map Prod.fst) h

theorem not_blank_of_offered (h : call.offered? = some name) : ¬ Text.isBlankText name := by
  obtain ⟨⟨other, phrases⟩, hoffer, rfl⟩ := Option.map_eq_some_iff.1 h
  obtain ⟨_, -, hmade⟩ := offer?_eq_some_iff.1 hoffer
  exact (Phrasebook.Source.made?_eq_some_iff.1 hmade).2

theorem name_of_offered (h : call.offered? = some name) : call.name = name := by
  obtain ⟨⟨other, phrases⟩, hoffer, rfl⟩ := Option.map_eq_some_iff.1 h
  obtain ⟨source, rfl, -⟩ := offer?_eq_some_iff.1 hoffer
  rfl

theorem additions_of_ne (h : call.name ≠ name) : call.additions name = [] := by
  cases call with
  | extend other phrases => exact if_neg h
  | add | find => rfl

theorem offeredAs?_of_offer (h : call.offer? = some (name, phrases)) (other : String) :
    call.offeredAs? other = if name = other then some phrases else none := by
  rw [offeredAs?, h]
  rfl

theorem offeredAs?_of_ne (h : call.offered? ≠ some name) : call.offeredAs? name = none := by
  rw [offeredAs?, Option.bind_eq_none_iff]
  intro (other, phrases) hoffer
  refine if_neg fun hother => h ?_
  rw [← hother]
  exact offered?_of_offer hoffer

theorem additions_of_offer (h : call.offer? = some (name, phrases)) (other : String) : call.additions other = [] := by
  obtain ⟨source, rfl, -⟩ := offer?_eq_some_iff.1 h
  rfl

end Call

section Single

variable (ts : Phrasebooks) {t : Phrasebook} {name : String} {phrases : List (String × String)}
  {fault : PhrasebookFault}

theorem name_of_find? (h : ts.find? name = some t) : t.name = name := by
  simpa using List.find?_some h

theorem find?_eq_none_iff : ts.find? name = none ↔ name ∉ ts.names := by
  simp [find?, names, List.find?_eq_none]

theorem mem_names_iff : name ∈ ts.names ↔ (ts.find? name).isSome := by
  rw [Option.isSome_iff_ne_none, Ne, find?_eq_none_iff, not_not]

theorem add_eq : ts.add t = if t.name ∈ ts.names then .error (.duplicate t.name) else .ok ⟨ts.entries ++ [t]⟩ := by
  simp only [add, mem_names_iff]

theorem extend_eq : ts.extend name phrases = if name ∈ ts.names then
    .ok ⟨ts.entries.map fun t => if t.name = name then t.withPhrases phrases else t⟩ else .error (.unknown name) := by
  simp only [extend, mem_names_iff]

/-- A registration is refused for its name alone. -/
theorem add_eq_error_iff : ts.add t = .error fault ↔ t.name ∈ ts.names ∧ fault = .duplicate t.name := by
  rw [add_eq]
  split <;> simp_all [eq_comm]

/-- Phrases are refused for the name alone. -/
theorem extend_eq_error_iff : ts.extend name phrases = .error fault ↔ name ∉ ts.names ∧ fault = .unknown name := by
  rw [extend_eq]
  split <;> simp_all [eq_comm]

theorem find?_concat : (⟨ts.entries ++ [t]⟩ : Phrasebooks).find? name =
    (ts.find? name).or (if t.name = name then some t else none) := by
  rw [find?, List.find?_append, List.find?_singleton]
  simp [find?]

theorem find?_extended (other : String) :
    (⟨ts.entries.map fun t => if t.name = other then t.withPhrases phrases else t⟩ : Phrasebooks).find? name =
      (ts.find? name).map fun t => if t.name = other then t.withPhrases phrases else t := by
  have hname : ((fun t : Phrasebook => decide (t.name = name)) ∘
      fun t => if t.name = other then t.withPhrases phrases else t) = fun t => decide (t.name = name) := by
    funext t
    dsimp only [Function.comp]
    split <;> rfl
  rw [find?, List.find?_map, hname]
  rfl

theorem names_extended (other : String) :
    (⟨ts.entries.map fun t => if t.name = other then t.withPhrases phrases else t⟩ : Phrasebooks).names = ts.names := by
  rw [names, names, List.map_map]
  refine List.map_congr_left fun t _ => ?_
  dsimp only [Function.comp]
  split <;> rfl

end Single

/-- The phrasebooks after a call that is not refused. -/
def perform (ts : Phrasebooks) : Call → Except PhrasebookFault Phrasebooks
  | .add name source => do
    let t ← source.book name
    ts.add t
  | .extend name phrases => ts.extend name phrases
  | .find _ => .ok ts

/-- The phrasebooks after a call. -/
def after (ts : Phrasebooks) (call : Call) : Phrasebooks :=
  match ts.perform call with
  | .ok ts => ts
  | .error _ => ts

section Single

variable (ts : Phrasebooks) {call : Call} {name : String} {phrases : List (String × String)} {fault : PhrasebookFault}

theorem after_of_error (h : ts.perform call = .error fault) : ts.after call = ts := by
  rw [after, h]

theorem perform_of_offer (h : call.offer? = some (name, phrases)) :
    ts.perform call = ts.add (.written name phrases) := by
  obtain ⟨source, rfl, hmade⟩ := Call.offer?_eq_some_iff.1 h
  rw [perform, Phrasebook.Source.book_of_made hmade]
  rfl

/-- A registration that offers nothing changes nothing. -/
theorem after_add_of_no_offer {source : Phrasebook.Source} (h : (Call.add name source).offer? = none) :
    ts.after (.add name source) = ts := by
  obtain ⟨fault, hfault⟩ := Phrasebook.Source.book_of_not_made (Option.map_eq_none_iff.1 h)
  have hrefused : ts.perform (.add name source) = .error fault := by
    rw [perform, hfault]
    rfl
  exact ts.after_of_error hrefused

theorem after_extend_of_unknown {other : String} (h : other ∉ ts.names) : ts.after (.extend other phrases) = ts := by
  rw [after, perform, extend_eq, if_neg h]

theorem after_of_taken_offer (h : call.offer? = some (name, phrases)) (hknown : name ∈ ts.names) :
    ts.after call = ts :=
  ts.after_of_error ((ts.perform_of_offer h).trans (ts.add_eq_error_iff.2 ⟨hknown, rfl⟩))

theorem after_of_new_offer (h : call.offer? = some (name, phrases)) (hnew : name ∉ ts.names) :
    ts.after call = ⟨ts.entries ++ [.written name phrases]⟩ := by
  have hadd : ts.add (.written name phrases) = .ok ⟨ts.entries ++ [.written name phrases]⟩ :=
    ts.add_eq.trans (if_neg hnew)
  rw [after, ts.perform_of_offer h, hadd]

theorem find?_after_extend (other : String) : (ts.after (.extend other phrases)).find? name =
    (ts.find? name).map fun t => t.withPhrases ((Call.extend other phrases).additions name) := by
  have hadditions {t : Phrasebook} (ht : t.name = name) : (if t.name = other then t.withPhrases phrases else t) =
      t.withPhrases ((Call.extend other phrases).additions name) := by
    rw [ht, Call.additions]
    by_cases hname : name = other
    · rw [if_pos hname, if_pos hname.symm]
    · rw [if_neg hname, if_neg (Ne.symm hname), Phrasebook.withPhrases_nil]
  have hafter : (ts.after (.extend other phrases)).find? name =
      (ts.find? name).map fun t => if t.name = other then t.withPhrases phrases else t := by
    by_cases hknown : other ∈ ts.names
    · rw [after, perform, extend_eq, if_pos hknown, find?_extended]
    · rw [ts.after_extend_of_unknown hknown]
      cases ht : ts.find? name with
      | none => rfl
      | some t =>
        -- a phrasebook that is registered has another name
        have hne : t.name ≠ other := by
          rintro rfl
          rw [ts.name_of_find? ht] at hknown
          exact hknown (ts.mem_names_iff.2 (ht ▸ rfl))
        rw [Option.map_some, if_neg hne]
  rw [hafter]
  cases ht : ts.find? name with
  | none => rfl
  | some t => exact congrArg some (hadditions (ts.name_of_find? ht))

theorem find?_after_of_offer {offered : String} (h : call.offer? = some (offered, phrases)) :
    (ts.after call).find? name =
      (ts.find? name).or (if offered = name then some (.written offered phrases) else none) := by
  by_cases hknown : offered ∈ ts.names
  · rw [ts.after_of_taken_offer h hknown]
    cases ht : ts.find? name with
    | some t => rfl
    | none =>
      have hne : offered ≠ name := by
        rintro rfl
        exact ts.find?_eq_none_iff.1 ht hknown
      rw [if_neg hne]
      rfl
  · rw [ts.after_of_new_offer h hknown]
    exact ts.find?_concat

/-- **What a call does to the phrasebook of a name.**  If there is one, it gets what the call adds to it; if there is
none, it is the one that the call offers. -/
theorem find?_after (call : Call) (name : String) : (ts.after call).find? name =
    match ts.find? name with
    | some t => some (t.withPhrases (call.additions name))
    | none => (call.offeredAs? name).map (Phrasebook.written name) := by
  cases call with
  | find other =>
    have hsame : ts.after (.find other) = ts := rfl
    rw [hsame]
    cases ts.find? name <;> rfl
  | extend other phrases =>
    rw [find?_after_extend]
    cases ts.find? name <;> rfl
  | add other source =>
    cases hoffer : (Call.add other source).offer? with
    | none =>
      have hnone : (Call.add other source).offeredAs? name = none := by rw [Call.offeredAs?, hoffer, Option.bind_none]
      rw [ts.after_add_of_no_offer hoffer, hnone]
      cases ts.find? name <;> rfl
    | some offer =>
      rw [ts.find?_after_of_offer hoffer, Call.offeredAs?_of_offer hoffer, Call.additions_of_offer hoffer]
      cases ts.find? name with
      | some t => rfl
      | none =>
        by_cases hname : offer.1 = name
        · simp [hname]
        · simp [hname]

theorem find?_after_of_ne (h : call.name ≠ name) : (ts.after call).find? name = ts.find? name := by
  rw [find?_after, Call.additions_of_ne h, Call.offeredAs?_of_ne fun hoffered => h (Call.name_of_offered hoffered)]
  cases ts.find? name <;> rfl

/-- What a call does to the names. -/
theorem names_after (call : Call) : (ts.after call).names =
    match call.offered? with
    | some name => if name ∈ ts.names then ts.names else ts.names ++ [name]
    | none => ts.names := by
  cases call with
  | find other => rfl
  | extend other phrases =>
    by_cases hknown : other ∈ ts.names
    · rw [after, perform, extend_eq, if_pos hknown]
      exact ts.names_extended other
    · rw [ts.after_extend_of_unknown hknown]
      rfl
  | add other source =>
    cases hoffer : (Call.add other source).offer? with
    | none =>
      rw [ts.after_add_of_no_offer hoffer, Call.offered?, hoffer]
      rfl
    | some offer =>
      rw [Call.offered?_of_offer hoffer]
      dsimp only
      split
      · next hknown => rw [ts.after_of_taken_offer hoffer hknown]
      · next hnew =>
        rw [ts.after_of_new_offer hoffer hnew, names, List.map_append]
        rfl

end Single

/-! ### Histories -/

/-- The phrasebooks after a history. -/
def ofHistory (h : List Call) : Phrasebooks := h.foldl after .empty

/-- The first offer of a name in a history. -/
structure Entry (h : List Call) (name : String) where
  before : List Call
  call : Call
  since : List Call
  split : h = before ++ call :: since
  phrases : List (String × String)
  offer : call.offer? = some (name, phrases)
  fresh : ∀ earlier ∈ before, earlier.offered? ≠ some name

/-- The phrases written for a name: those of its first offer, and all that has been added since. -/
def Entry.written {h : List Call} {name : String} (entry : Entry h name) : List (String × String) :=
  entry.phrases ++ entry.since.flatMap (Call.additions name)

section Histories

variable {h later : List Call} {name : String}

theorem ofHistory_append : ofHistory (h ++ later) = later.foldl after (ofHistory h) := List.foldl_append

theorem ofHistory_concat (call : Call) : ofHistory (h ++ [call]) = (ofHistory h).after call := ofHistory_append

/-- **Names stand in the order of their first offers.** -/
theorem names_ofHistory (h : List Call) : (ofHistory h).names = (h.filterMap Call.offered?).eraseDups := by
  induction h using List.reverseRecOn with
  | nil => rfl
  | append_singleton h call ih =>
    rw [ofHistory_concat, names_after, ih]
    exact (ErrorTree.eraseDups_filterMap_concat _ _ _).symm

theorem nodup_names (h : List Call) : (ofHistory h).names.Nodup := by
  rw [names_ofHistory]
  exact ErrorTree.nodup_eraseDups _

theorem mem_names_ofHistory : name ∈ (ofHistory h).names ↔ ∃ call ∈ h, call.offered? = some name := by
  rw [names_ofHistory, List.mem_eraseDups, List.mem_filterMap]

/-- What later calls add to a phrasebook, they add one after another. -/
theorem find?_foldl {ts : Phrasebooks} {t : Phrasebook} (ht : ts.find? name = some t) (later : List Call) :
    (later.foldl after ts).find? name = some (t.withPhrases (later.flatMap (Call.additions name))) := by
  induction later generalizing ts t with
  | nil => exact ht
  | cons call later ih =>
    have hafter : (ts.after call).find? name = some (t.withPhrases (call.additions name)) := by rw [find?_after, ht]
    rw [List.foldl_cons, ih hafter, Phrasebook.withPhrases_withPhrases, List.flatMap_cons]

/-- **The phrasebook of a name** has the phrases of its first offer and those added since, in their order. -/
theorem Entry.find?_eq (entry : Entry h name) : (ofHistory h).find? name = some (.written name entry.written) := by
  obtain ⟨before, call, since, rfl, phrases, hoffer, hfresh⟩ := entry
  have hnone : (ofHistory before).find? name = none := by
    rw [find?_eq_none_iff, mem_names_ofHistory]
    rintro ⟨earlier, hearlier, hoffered⟩
    exact hfresh earlier hearlier hoffered
  have hfirst : ((ofHistory before).after call).find? name = some (.written name phrases) := by
    rw [find?_after_of_offer _ hoffer, hnone, if_pos rfl, Option.none_or]
  rw [ofHistory_append, List.foldl_cons, find?_foldl hfirst, Phrasebook.written, Phrasebook.withPhrases_withPhrases]
  rfl

/-- A name that has been offered has been offered first at some time. -/
theorem exists_entry (hmem : ∃ call ∈ h, call.offered? = some name) : Nonempty (Entry h name) := by
  induction h with
  | nil =>
    obtain ⟨call, hcall, -⟩ := hmem
    exact absurd hcall List.not_mem_nil
  | cons first h ih =>
    by_cases hfirst : first.offered? = some name
    · obtain ⟨⟨other, phrases⟩, hoffer, rfl⟩ := Option.map_eq_some_iff.1 hfirst
      exact ⟨⟨[], first, h, rfl, phrases, hoffer, nofun⟩⟩
    · obtain ⟨call, hcall, hoffered⟩ := hmem
      have hrest : call ∈ h := by
        rcases List.mem_cons.1 hcall with rfl | hcall
        · exact absurd hoffered hfirst
        · exact hcall
      obtain ⟨before, call, since, rfl, phrases, hoffer, hfresh⟩ := ih ⟨call, hrest, hoffered⟩
      exact ⟨⟨first :: before, call, since, rfl, phrases, hoffer, List.forall_mem_cons.2 ⟨hfirst, hfresh⟩⟩⟩

/-- **The phrasebook of a name does not depend on the calls about other names.** -/
theorem find?_ofHistory_filter (h : List Call) (name : String) :
    (ofHistory (h.filter (·.name = name))).find? name = (ofHistory h).find? name := by
  induction h using List.reverseRecOn with
  | nil => rfl
  | append_singleton h call ih =>
    rw [List.filter_append, ofHistory_concat]
    by_cases hname : call.name = name
    · have hone : [call].filter (·.name = name) = [call] := by simp [hname]
      rw [hone, ofHistory_concat, find?_after, find?_after, ih]
    · have hnone : [call].filter (·.name = name) = [] := by simp [hname]
      rw [hnone, List.append_nil, ih, find?_after_of_ne _ hname]

end Histories

/-- **Names are distinct, and the last phrase of a key is its phrase.**  After any history the registered names are not
blank, pairwise distinct, and in the order in which they were first offered.  A phrasebook is refused just if its name
is registered, further phrases are refused just if it is not, and a call that is refused changes nothing.  The phrase
of a key in a registered phrasebook is the last one written for it: by the first offer of the name, or by what has
been added since.  Calls about other names make no difference. -/
theorem distinct_names_last_phrases (h : List Call) :
    (∀ name ∈ (ofHistory h).names, ¬ Text.isBlankText name) ∧
    (ofHistory h).names.Nodup ∧
    (ofHistory h).names = (h.filterMap Call.offered?).eraseDups ∧
    (∀ t fault, (ofHistory h).add t = .error fault ↔ t.name ∈ (ofHistory h).names ∧ fault = .duplicate t.name) ∧
    (∀ name phrases fault, (ofHistory h).extend name phrases = .error fault ↔
      name ∉ (ofHistory h).names ∧ fault = .unknown name) ∧
    (∀ call fault, (ofHistory h).perform call = .error fault → ofHistory (h ++ [call]) = ofHistory h) ∧
    (∀ name, (ofHistory h).find? name = none ↔ name ∉ (ofHistory h).names) ∧
    (∀ name ∈ (ofHistory h).names, ∃ (entry : Entry h name) (t : Phrasebook),
      (ofHistory h).find? name = some t ∧ t.name = name ∧
      (∀ key phrase, t.phrase? key = some ⟨phrase⟩ ↔
        ∃ earlier later, entry.written = earlier ++ (key, phrase) :: later ∧ key ∉ later.map Prod.fst) ∧
      ∀ key, t.phrase? key = none ↔ key ∉ entry.written.map Prod.fst) ∧
    (∀ name, (ofHistory (h.filter (·.name = name))).find? name = (ofHistory h).find? name) := by
  refine ⟨fun name hname => ?_, nodup_names h, names_ofHistory h, fun t fault => add_eq_error_iff _,
    fun name phrases fault => extend_eq_error_iff _, fun call fault hfault => ?_, fun name => find?_eq_none_iff _,
    fun name hname => ?_, find?_ofHistory_filter h⟩
  · obtain ⟨call, -, hoffered⟩ := mem_names_ofHistory.1 hname
    exact Call.not_blank_of_offered hoffered
  · rw [ofHistory_concat]
    exact after_of_error _ hfault
  · obtain ⟨entry⟩ := exists_entry (mem_names_ofHistory.1 hname)
    exact ⟨entry, .written name entry.written, entry.find?_eq, rfl,
      fun key phrase => Phrasebook.phrase?_written_eq_some_iff, fun key => Phrasebook.phrase?_written_eq_none_iff⟩

/-- Of two phrases for one key in one offer the second one stays; a second offer of the name is refused. -/
example : ((ofHistory [.extend "German" [("Yes", "Nein")], .add "German" (.pairs [("Yes", "Jo"), ("Yes", "Ja")]),
    .add "German" (.pairs [("Yes", "Jawohl")]), .add "Polish" (.pairs []), .extend "German" [("No", "Nein")]]).find?
    "German").map (fun t => t.phrases.map fun entry => (entry.1, entry.2.source)) =
      some [("Yes", "Ja"), ("No", "Nein")] := by rfl

end Phrasebooks

end ModelValidation
