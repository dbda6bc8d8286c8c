import ModelValidation.ErrorTree
import ModelValidation.Fault

/-!
# Reports

The errors of a tree as texts: as messages by path, as a list of lines, and as a JSON tree.  A report refuses a tree
in which a node deeper than a limit has members.
-/

namespace ModelValidation.Report

/-- Refuses a node with members below the limit. -/
def guard (maxDepth level : Nat) (t : ErrorTree) : Except Fault Unit :=
  if t.hasMembers ∧ maxDepth < level then .error (.depthExceeded maxDepth) else .ok ()

/-- The path of a member. -/
def pathOf (path key : String) : String :=
  if path = "" then key else path ++ "." ++ key

/-- The texts of the errors of a node. -/
def messages (wording : Wording) (t : ErrorTree) : List String :=
  t.errors.map wording.render

/-! ### Messages by path -/

/-- Texts added to those of a path, if there are any. -/
def addMessages (path : String) (texts : List String) (out : List (String × List String)) : List (String × List String) :=
  if texts.isEmpty then out else Keyed.upsert path (fun old => old.getD [] ++ texts) out

mutual

/-- The texts of a tree at a path and a level, added to others. -/
def messagesFrom (wording : Wording) (maxDepth : Nat) (path : String) (level : Nat)
    (out : List (String × List String)) : ErrorTree → Except Fault (List (String × List String))
  | .node es ms => do
    guard maxDepth level (.node es ms)
    messagesFromMembers wording maxDepth path (level + 1)
      (addMessages path (messages wording (.node es ms)) out) ms

/-- The texts of the members of the node at a path, added to others. -/
def messagesFromMembers (wording : Wording) (maxDepth : Nat) (path : String) (level : Nat)
    (out : List (String × List String)) :
    List (String × ErrorTree) → Except Fault (List (String × List String))
  | [] => .ok out
  | (key, t) :: ms => do
    let out ← messagesFrom wording maxDepth (pathOf path key) level out t
    messagesFromMembers wording maxDepth path level out ms

end

/-- The texts of each path that has errors, paths in order of their first error. -/
def byPath (wording : Wording) (maxDepth : Nat) (t : ErrorTree) : Except Fault (List (String × List String)) :=
  messagesFrom wording maxDepth "" 0 [] t

/-! ### Lines -/

/-- A text at a path. -/
structure Entry where
  path : String
  message : String
  deriving DecidableEq, Repr

/-- The path in front of the text; the root has none. -/
def Entry.line (e : Entry) : String :=
  if e.path = "" then e.message else e.path ++ ": " ++ e.message

/-- Entries without those that stand earlier already. -/
def distinct (entries : List Entry) : List Entry :=
  entries.foldl (fun seen e => if e ∈ seen then seen else seen ++ [e]) []

/-- Every text with its path, each pair once. -/
def list (wording : Wording) (maxDepth : Nat) (t : ErrorTree) : Except Fault (List Entry) :=
  (byPath wording maxDepth t).map fun paths =>
    distinct (paths.flatMap fun (path, texts) => texts.map (Entry.mk path))

/-- The lines of a list. -/
def lines (entries : List Entry) : List String :=
  entries.map Entry.line

/-- The lines of a list as one text. -/
def display (entries : List Entry) : String :=
  "\n".intercalate (lines entries)

/-! ### Trees -/

/-- The key of a node's own errors. -/
def ownKey : String := ""

/-- The texts of a node as a JSON array. -/
def messageArray (wording : Wording) (t : ErrorTree) : JsonValue :=
  .array ((messages wording t).map .string)

mutual

/-- The JSON value of a node: an array of its texts, or an object of these and its members. -/
def valueFrom (wording : Wording) (maxDepth level : Nat) : ErrorTree → Except Fault JsonValue
  | .node es ms => do
    guard maxDepth level (.node es ms)
    if ms.isEmpty then .ok (messageArray wording (.node es ms))
    else
      let own := if es.isEmpty then [] else [(ownKey, messageArray wording (.node es ms))]
      return .object (← entriesFrom wording maxDepth (level + 1) own ms)

/-- The values of members written after entries. -/
def entriesFrom (wording : Wording) (maxDepth level : Nat) (before : List (String × JsonValue)) :
    List (String × ErrorTree) → Except Fault (List (String × JsonValue))
  | [] => .ok before
  | (key, t) :: ms => do
    let v ← valueFrom wording maxDepth level t
    entriesFrom wording maxDepth level (Keyed.put key v before) ms

end

/-- The tree as a JSON value; without errors it is the empty object. -/
def tree (wording : Wording) (maxDepth : Nat) (t : ErrorTree) : Except Fault JsonValue :=
  if t.isEmpty then .ok (.object []) else valueFrom wording maxDepth 0 t

end ModelValidation.Report
