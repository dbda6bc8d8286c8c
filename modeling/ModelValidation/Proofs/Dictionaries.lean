import ModelValidation.Proofs.DottedPaths
import ModelValidation.Proofs.Phrasebooks

/-!
# Phrase dictionaries

A dictionary is read value by value in the order of its document.  A string is the phrase of its path, an object is gone
into, and any other value is foreign: the first one of them is what the dictionary is refused for.

* `phrasesBelow_eq`: the phrases of an object are those of the values inside it, as long as none is foreign;
* `ofJson_of_foreign`, `ofJson_of_strings`: what a dictionary comes to;
* `invalidDictionary_iff`, `emptyName_iff`: when it is refused;
* `dictionary_read_leaf_by_leaf`: when and with which words it is refused, and which phrase a key has otherwise.
-/

namespace ModelValidation

/-! ### The values of a document -/

/-- A value inside another one, with the keys on the way to it. -/
structure JsonPlace where
  route : List String
  value : JsonValue

namespace JsonPlace

/-- The place a level deeper, under a key. -/
def under (key : String) (p : JsonPlace) : JsonPlace := { p with route := key :: p.route }

/-- The keys on the way joined by points. -/
def path (p : JsonPlace) : String := ".".intercalate p.route

/-- Neither a phrase nor an object of phrases. -/
def isForeign (p : JsonPlace) : Bool :=
  match p.value with
  | .string _ | .object _ => false
  | _ => true

/-- A string with its path. -/
def phrase? (p : JsonPlace) : Option (String × String) :=
  match p.value with
  | .string phrase => some (p.path, phrase)
  | _ => none

end JsonPlace

namespace JsonValue

mutual

/-- The values of a document in their order: a value, and then the values inside it if it is an object. -/
def places : JsonValue → List JsonPlace
  | .object entries => ⟨[], .object entries⟩ :: placesBelow entries
  | v => [⟨[], v⟩]

/-- The values of entries, one entry after another. -/
def placesBelow : List (String × JsonValue) → List JsonPlace
  | [] => []
  | (key, v) :: entries => (places v).map (JsonPlace.under key) ++ placesBelow entries

end

end JsonValue

namespace Phrasebook

open JsonValue (places placesBelow)

/-! ### Phrases of values -/

/-- The phrase of a place that lies behind a path. -/
def phraseAt? (above : String) (p : JsonPlace) : Option (String × String) :=
  match p.value with
  | .string phrase => some (p.route.foldl pathOf above, phrase)
  | _ => none

/-- The phrases of places behind a path, or the first of the places that is foreign. -/
def flattened (above : String) (ps : List JsonPlace) : Except DictionaryProblem (List (String × String)) :=
  match ps.find? JsonPlace.isForeign with
  | some p => .error (.notText (p.route.foldl pathOf above) p.value)
  | none => .ok (ps.filterMap (phraseAt? above))

theorem flattened_append (above : String) (ps qs : List JsonPlace) : flattened above (ps ++ qs) = do
    let here ← flattened above ps
    let rest ← flattened above qs
    return here ++ rest := by
  unfold flattened
  rw [List.find?_append, List.filterMap_append]
  cases ps.find? JsonPlace.isForeign with
  | some p => rfl
  | none => cases qs.find? JsonPlace.isForeign <;> rfl

theorem flattened_under (above key : String) (ps : List JsonPlace) :
    flattened above (ps.map (JsonPlace.under key)) = flattened (pathOf above key) ps := by
  have hforeign : JsonPlace.isForeign ∘ JsonPlace.under key = JsonPlace.isForeign := rfl
  have hphrase : phraseAt? above ∘ JsonPlace.under key = phraseAt? (pathOf above key) := rfl
  unfold flattened
  rw [List.find?_map, List.filterMap_map, hforeign, hphrase]
  cases ps.find? JsonPlace.isForeign <;> rfl

-- an object is passed over, and the values inside it follow
mutual

theorem phrasesAt_eq (above : String) : ∀ v : JsonValue, phrasesAt above v = flattened above (places v)
  | .object entries => phrasesBelow_eq above entries
  | .string _ | .null | .bool _ | .integer _ | .real _ | .array _ => rfl

/-- **The phrases of an object are those of the values inside it.** -/
theorem phrasesBelow_eq (above : String) : ∀ entries : List (String × JsonValue),
    phrasesBelow above entries = flattened above (placesBelow entries)
  | [] => rfl
  | (key, v) :: entries => by
    rw [phrasesBelow, placesBelow, flattened_append, flattened_under, phrasesAt_eq (pathOf above key) v,
      phrasesBelow_eq above entries]

end

/-! ### Dictionaries -/

section Dictionary

variable {name json : String} {entries : List (String × JsonValue)}

theorem ofJson_eq (hparse : JsonValue.parse? json = some (.object entries)) : ofJson name json =
    match flattened "" (placesBelow entries) with
    | .error problem => .error (.invalidDictionary name problem)
    | .ok phrases => ofPhrases name phrases := by
  have hphrases : phrasesOfJson json = flattened "" (placesBelow entries) := by
    rw [phrasesOfJson, hparse]
    exact phrasesBelow_eq "" entries
  rw [← hphrases]
  rfl

theorem foldl_pathOf_route (hkeys : ∀ p ∈ placesBelow entries, "" ∉ p.route) {p : JsonPlace}
    (hp : p ∈ placesBelow entries) : p.route.foldl pathOf "" = p.path := by
  rw [pathOf_eq, foldl_pathOf, dotted_of_notMem (hkeys p hp), JsonPlace.path]

/-- A dictionary is refused for the first value that is foreign. -/
theorem ofJson_of_foreign (hparse : JsonValue.parse? json = some (.object entries))
    (hkeys : ∀ p ∈ placesBelow entries, "" ∉ p.route) {p : JsonPlace}
    (hfirst : (placesBelow entries).find? JsonPlace.isForeign = some p) :
    ofJson name json = .error (.invalidDictionary name (.notText p.path p.value)) := by
  rw [ofJson_eq hparse, flattened, hfirst]
  dsimp only
  rw [foldl_pathOf_route hkeys (List.mem_of_find?_eq_some hfirst)]

theorem find?_isForeign_eq_none_iff (ps : List JsonPlace) :
    ps.find? JsonPlace.isForeign = none ↔ ∀ p ∈ ps, p.isForeign = false := by
  simp [List.find?_eq_none]

/-- A dictionary without foreign values is refused for a blank name, or it has the phrases of its strings. -/
theorem ofJson_of_strings (hparse : JsonValue.parse? json = some (.object entries))
    (hkeys : ∀ p ∈ placesBelow entries, "" ∉ p.route) (hstrings : ∀ p ∈ placesBelow entries, p.isForeign = false) :
    ofJson name json = if Text.isBlankText name then .error .emptyName
      else .ok (written name ((placesBelow entries).filterMap JsonPlace.phrase?)) := by
  have hphrases : (placesBelow entries).filterMap (phraseAt? "") = (placesBelow entries).filterMap JsonPlace.phrase? := by
    refine List.filterMap_congr fun p hp => ?_
    rw [phraseAt?, JsonPlace.phrase?, foldl_pathOf_route hkeys hp]
  rw [ofJson_eq hparse, flattened, (find?_isForeign_eq_none_iff _).2 hstrings, hphrases]
  rfl

/-- Either the first foreign value decides, or there is none and the name does. -/
theorem ofJson_cases (hparse : JsonValue.parse? json = some (.object entries))
    (hkeys : ∀ p ∈ placesBelow entries, "" ∉ p.route) (name : String) :
    (∃ p ∈ placesBelow entries, p.isForeign = true ∧
        ofJson name json = .error (.invalidDictionary name (.notText p.path p.value))) ∨
      (∀ p ∈ placesBelow entries, p.isForeign = false) ∧
        ofJson name json = if Text.isBlankText name then .error .emptyName
          else .ok (written name ((placesBelow entries).filterMap JsonPlace.phrase?)) := by
  cases hfirst : (placesBelow entries).find? JsonPlace.isForeign with
  | some p =>
    exact Or.inl ⟨p, List.mem_of_find?_eq_some hfirst, List.find?_some hfirst, ofJson_of_foreign hparse hkeys hfirst⟩
  | none =>
    have hstrings := (find?_isForeign_eq_none_iff _).1 hfirst
    exact Or.inr ⟨hstrings, ofJson_of_strings hparse hkeys hstrings⟩

/-- A dictionary is refused for what it holds just if some value is foreign. -/
theorem invalidDictionary_iff (hparse : JsonValue.parse? json = some (.object entries))
    (hkeys : ∀ p ∈ placesBelow entries, "" ∉ p.route) (name : String) :
    (∃ n problem, ofJson name json = .error (.invalidDictionary n problem)) ↔
      ∃ p ∈ placesBelow entries, p.isForeign = true := by
  rcases ofJson_cases hparse hkeys name with ⟨p, hp, hforeign, hrefused⟩ | ⟨hstrings, hmade⟩
  · exact iff_of_true ⟨name, _, hrefused⟩ ⟨p, hp, hforeign⟩
  · refine iff_of_false ?_ (by simpa using hstrings)
    rintro ⟨n, problem, hfault⟩
    rw [hmade] at hfault
    split at hfault <;> cases hfault

/-- It is refused for its name just if no value is foreign and the name is blank. -/
theorem emptyName_iff (hparse : JsonValue.parse? json = some (.object entries))
    (hkeys : ∀ p ∈ placesBelow entries, "" ∉ p.route) (name : String) :
    ofJson name json = .error .emptyName ↔
      (∀ p ∈ placesBelow entries, p.isForeign = false) ∧ Text.isBlankText name = true := by
  rcases ofJson_cases hparse hkeys name with ⟨p, hp, hforeign, hrefused⟩ | ⟨hstrings, hmade⟩
  · refine iff_of_false (by simp [hrefused]) fun h => ?_
    rw [h.1 p hp] at hforeign
    cases hforeign
  · rw [hmade, and_iff_right hstrings]
    split
    · next hname => exact iff_of_true rfl hname
    · next hname => exact iff_of_false (by simp) hname

/-- **A dictionary is read leaf by leaf.**  It is refused just if some value in it, however deep, is neither a string nor an
object, and then the fault names the path of the first such value and shows the value.  Otherwise it is refused just if
the name is blank.  Otherwise the phrase of a key is the last string whose path is the key. -/
theorem dictionary_read_leaf_by_leaf (hparse : JsonValue.parse? json = some (.object entries))
    (hkeys : ∀ p ∈ placesBelow entries, "" ∉ p.route) (name : String) :
    ((∃ n problem, ofJson name json = .error (.invalidDictionary n problem)) ↔
        ∃ p ∈ placesBelow entries, p.isForeign = true) ∧
      (∀ before p after, placesBelow entries = before ++ p :: after → (∀ q ∈ before, q.isForeign = false) →
        p.isForeign = true → ∃ fault, ofJson name json = .error fault ∧
          fault = .invalidDictionary name (.notText p.path p.value) ∧
          fault.message = s!"invalid phrase dictionary for translation '{name}': " ++
            s!"phrase '{p.path}' must be a string, found {String.ofList p.value.compact}") ∧
      (ofJson name json = .error .emptyName ↔
        (∀ p ∈ placesBelow entries, p.isForeign = false) ∧ Text.isBlankText name = true) ∧
      ((∀ p ∈ placesBelow entries, p.isForeign = false) → Text.isBlankText name = false →
        ∃ t, ofJson name json = .ok t ∧ t.name = name ∧
          ∀ key, t.phrase? key =
            (((placesBelow entries).filterMap JsonPlace.phrase?).filter (·.1 = key)).getLast?.map fun leaf => ⟨leaf.2⟩) := by
  refine ⟨invalidDictionary_iff hparse hkeys name, ?_, emptyName_iff hparse hkeys name, ?_⟩
  · intro before p after hsplit hbefore hp
    have hfirst : (placesBelow entries).find? JsonPlace.isForeign = some p := by
      refine List.find?_eq_some_iff_append.2 ⟨hp, before, after, hsplit, fun q hq => ?_⟩
      simp [hbefore q hq]
    exact ⟨_, ofJson_of_foreign hparse hkeys hfirst, rfl, rfl⟩
  · intro hstrings hname
    refine ⟨_, (ofJson_of_strings hparse hkeys hstrings).trans (if_neg (by simp [hname])), rfl, fun key => ?_⟩
    rw [phrase?_written, Keyed.get?_reverse, Option.map_map]
    rfl

end Dictionary

/-- The first of two values that are neither strings nor objects. -/
example : ofJson "Broken" "\x7b\"a\": \x7b\"b\": []\x7d, \"c\": [[]]\x7d" =
    .error (.invalidDictionary "Broken" (.notText "a.b" (.array []))) := by cbv

/-- A dictionary in which two strings have one path. -/
def polishJson : String :=
  "\x7b\"Global\": \x7b\"Required\": \"Wymagane\"\x7d, \"Global.Required\": \"Pole wymagane\"\x7d"

/-- The entries of the dictionary. -/
def polishEntries : List (String × JsonValue) :=
  [("Global", .object [("Required", .string "Wymagane")]), ("Global.Required", .string "Pole wymagane")]

theorem dictionary_read_leaf_by_leaf_polish :
    JsonValue.parse? polishJson = some (.object polishEntries) ∧ (∀ p ∈ placesBelow polishEntries, "" ∉ p.route) ∧
      ∃ t, ofJson "Polish" polishJson = .ok t ∧ t.phrase? "Global.Required" = some ⟨"Pole wymagane"⟩ := by
  have hparse : JsonValue.parse? polishJson = some (.object polishEntries) := by cbv
  have hkeys : ∀ p ∈ placesBelow polishEntries, "" ∉ p.route := by decide
  obtain ⟨-, -, -, hmade⟩ := dictionary_read_leaf_by_leaf hparse hkeys "Polish"
  obtain ⟨t, ht, -, hphrase⟩ := hmade (by decide) (by decide)
  have hlast : t.phrase? "Global.Required" = some ⟨"Pole wymagane"⟩ := (hphrase _).trans (by decide +kernel)
  exact ⟨hparse, hkeys, t, ht, hlast⟩

end Phrasebook

end ModelValidation
