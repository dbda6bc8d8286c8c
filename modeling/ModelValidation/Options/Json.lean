import ModelValidation.Options

/-!
# Options as JSON

Options are read from an object, in which fields that are missing keep their defaults and unknown ones are passed over,
or from an array of the fields in order.  A known field may stand once.
-/

namespace ModelValidation

/-- The word for a strategy. -/
def Strategy.word : Strategy → String
  | .complete => "complete"
  | .failFast => "fail_fast"
  | .force => "force"

/-- The strategy of a word. -/
def Strategy.ofWord? (word : String) : Option Strategy :=
  [Strategy.complete, .failFast, .force].find? (·.word = word)

/-- The word for a policy. -/
def NullRootPolicy.word : NullRootPolicy → String
  | .fail => "fail"
  | .required => "required"
  | .accept => "accept"

/-- The policy of a word. -/
def NullRootPolicy.ofWord? (word : String) : Option NullRootPolicy :=
  [NullRootPolicy.fail, .required, .accept].find? (·.word = word)

namespace Options

/-- The fields in order. -/
def fieldNames : List String :=
  ["strategy", "null_root_policy", "max_depth", "collection_force_key", "default_error", "required_error"]

/-- A word: a string, or an object whose single key is the word and holds nothing. -/
def word? : JsonDocument → Option String
  | .string s => s
  | .object [(key, .null)] => key
  | _ => none

/-- A string. -/
def string? : JsonDocument → Option String
  | .string s => s
  | _ => none

/-- A whole number of 64 bits without a sign. -/
def size? : JsonDocument → Option Nat
  | .number n =>
    match n.value? with
    | some (.integer i) => if 0 ≤ i then some i.toNat else none
    | _ => none
  | _ => none

/-- The options with one field set. -/
def setField? (o : Options) (field : String) (d : JsonDocument) : Option Options :=
  match field with
  | "strategy" => (word? d >>= Strategy.ofWord?).map fun strategy => { o with strategy }
  | "null_root_policy" => (word? d >>= NullRootPolicy.ofWord?).map fun nullRoot => { o with nullRoot }
  | "max_depth" => (size? d).map fun maxDepth => { o with maxDepth }
  | "collection_force_key" => (string? d).map fun forceKey => { o with forceKey }
  | "default_error" => (string? d).map fun defaultError => { o with defaultError }
  | "required_error" => (string? d).map fun requiredError => { o with requiredError }
  | _ => none

/-- The options with the fields of an object; `seen` are the known fields before. -/
def setEntries? (o : Options) (seen : List String) : List (Option String × JsonDocument) → Option Options
  | [] => some o
  | (none, _) :: _ => none
  | (some field, d) :: entries =>
    if field ∈ fieldNames then
      if field ∈ seen then none
      else do
        let o ← o.setField? field d
        setEntries? o (field :: seen) entries
    else setEntries? o seen entries

/-- The options of a document. -/
def ofDocument? : JsonDocument → Option Options
  | .object entries => default.setEntries? [] entries
  | .array items =>
    if fieldNames.length < items.length then none
    else (fieldNames.zip items).foldlM (fun o (field, d) => o.setField? field d) default
  | _ => none

/-- The options of a JSON text, checked. -/
def ofJson (json : String) : Except Fault Options :=
  match JsonDocument.parse? json >>= ofDocument? with
  | none => .error (.invalidOptions .unreadable)
  | some o => o.check.map fun _ => o

/-- The options as a JSON value. -/
def toJson (o : Options) : JsonValue :=
  .object [("strategy", .string o.strategy.word), ("null_root_policy", .string o.nullRoot.word),
    ("max_depth", .integer o.maxDepth), ("collection_force_key", .string o.forceKey),
    ("default_error", .string o.defaultError), ("required_error", .string o.requiredError)]

end Options

end ModelValidation
