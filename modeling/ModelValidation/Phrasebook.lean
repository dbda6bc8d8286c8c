import ModelValidation.Json.Reading
import ModelValidation.ValidationError

/-!
# Phrasebooks

A phrasebook is a named dictionary of phrases.  An error is rendered through the phrase whose key is its template,
and through the template itself where there is no such phrase.  A dictionary may be given as a JSON object, whose
nested objects are flattened with points between the keys.
-/

namespace ModelValidation

/-- What is wrong with a phrase dictionary. -/
inductive DictionaryProblem where
  | unreadable
  | notAnObject
  /-- The value at a path is no phrase. -/
  | notText (path : String) (found : JsonValue)

/-- The problem in words. -/
def DictionaryProblem.message : DictionaryProblem → String
  | .unreadable => "expected a JSON document"
  | .notAnObject => "expected a JSON object at the top level"
  | .notText path found => s!"phrase '{path}' must be a string, found {String.ofList found.compact}"

/-- Why a phrasebook is not taken or not found. -/
inductive PhrasebookFault where
  | emptyName
  | duplicate (name : String)
  | unknown (name : String)
  | invalidDictionary (name : String) (problem : DictionaryProblem)

/-- The fault in words. -/
def PhrasebookFault.message : PhrasebookFault → String
  | .emptyName => "translation name must not be empty"
  | .duplicate name => s!"translation '{name}' is already registered"
  | .unknown name => s!"translation '{name}' is not registered"
  | .invalidDictionary name problem => s!"invalid phrase dictionary for translation '{name}': {problem.message}"

/-- A named dictionary of phrases. -/
structure Phrasebook where
  name : String
  phrases : List (String × Template)
  deriving Repr

namespace Phrasebook

/-- The dictionary with more phrases; the last phrase of a key stays. -/
def withPhrases (t : Phrasebook) (phrases : List (String × String)) : Phrasebook :=
  { t with phrases := Keyed.putAll (phrases.map fun (key, phrase) => (key, ⟨phrase⟩)) t.phrases }

/-- A phrasebook under a name that is not blank. -/
def ofPhrases (name : String) (phrases : List (String × String)) : Except PhrasebookFault Phrasebook :=
  if Text.isBlankText name then .error .emptyName else .ok (withPhrases ⟨name, []⟩ phrases)

/-- The path of a key below another path. -/
def pathOf (above key : String) : String :=
  if above = "" then key else above ++ "." ++ key

mutual

/-- The phrases of a value at a path. -/
def phrasesAt (path : String) : JsonValue → Except DictionaryProblem (List (String × String))
  | .string phrase => .ok [(path, phrase)]
  | .object entries => phrasesBelow path entries
  | found => .error (.notText path found)

/-- The phrases of the entries of an object at a path. -/
def phrasesBelow (path : String) : List (String × JsonValue) → Except DictionaryProblem (List (String × String))
  | [] => .ok []
  | (key, v) :: entries => do
    let here ← phrasesAt (pathOf path key) v
    let rest ← phrasesBelow path entries
    return here ++ rest

end

/-- The phrases of a JSON text. -/
def phrasesOfJson (json : String) : Except DictionaryProblem (List (String × String)) :=
  match JsonValue.parse? json with
  | none => .error .unreadable
  | some (.object entries) => phrasesBelow "" entries
  | some _ => .error .notAnObject

/-- The phrasebook of a JSON text. -/
def ofJson (name json : String) : Except PhrasebookFault Phrasebook :=
  match phrasesOfJson json with
  | .error problem => .error (.invalidDictionary name problem)
  | .ok phrases => ofPhrases name phrases

/-- The phrase of a key. -/
def phrase? (t : Phrasebook) (key : String) : Option Template :=
  Keyed.get? key t.phrases

/-- Every phrase of one is the phrase of the same key in the other. -/
def covers (t u : Phrasebook) : Bool :=
  u.phrases.all fun (key, _) => t.phrase? key = u.phrase? key

/-- The same name and the same phrases, in whatever order. -/
def same (t u : Phrasebook) : Bool :=
  t.name = u.name && t.covers u && u.covers t

end Phrasebook

/-- What texts are made with: a phrasebook, or none. -/
abbrev Wording := Option Phrasebook

/-- The text of an error. -/
def Wording.render (t : Wording) (e : ValidationError) : String :=
  match t.bind (·.phrase? e.template) with
  | some phrase => phrase.render e.args
  | none => e.renderTemplate

/-- Phrasebooks of distinct names, in the order of their registration. -/
structure Phrasebooks where
  entries : List Phrasebook

namespace Phrasebooks

/-- No phrasebooks. -/
def empty : Phrasebooks := ⟨[]⟩

/-- The names in order. -/
def names (ts : Phrasebooks) : List String := ts.entries.map (·.name)

/-- The phrasebook of a name. -/
def find? (ts : Phrasebooks) (name : String) : Option Phrasebook :=
  ts.entries.find? (·.name = name)

/-- Registers a phrasebook whose name is not taken. -/
def add (ts : Phrasebooks) (t : Phrasebook) : Except PhrasebookFault Phrasebooks :=
  if (ts.find? t.name).isSome then .error (.duplicate t.name) else .ok ⟨ts.entries ++ [t]⟩

/-- Registers phrasebooks in order. -/
def addAll (ts : Phrasebooks) (new : List Phrasebook) : Except PhrasebookFault Phrasebooks :=
  new.foldlM add ts

/-- Adds phrases to a registered phrasebook. -/
def extend (ts : Phrasebooks) (name : String) (phrases : List (String × String)) :
    Except PhrasebookFault Phrasebooks :=
  if (ts.find? name).isSome then
    .ok ⟨ts.entries.map fun t => if t.name = name then t.withPhrases phrases else t⟩
  else .error (.unknown name)

end Phrasebooks

end ModelValidation
