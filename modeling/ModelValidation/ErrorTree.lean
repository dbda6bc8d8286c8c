import ModelValidation.Keyed
import ModelValidation.ValidationError

/-!
# Trees of errors

A node holds errors of its own and members under distinct keys, both in the order in which they were added.  A tree
is added to another node by node: errors behind errors, members under one key into one another, and an empty tree
leaves no member behind.
-/

namespace ModelValidation

/-- Errors at a place and at the places below it. -/
inductive ErrorTree where
  | node (errors : List ValidationError) (members : List (String × ErrorTree))

namespace ErrorTree

/-- The errors of the node itself. -/
def errors : ErrorTree → List ValidationError
  | .node es _ => es

/-- The members of the node. -/
def members : ErrorTree → List (String × ErrorTree)
  | .node _ ms => ms

/-- The tree without errors. -/
def empty : ErrorTree := .node [] []

/-- One error at the root. -/
def ofError (e : ValidationError) : ErrorTree := .node [e] []

/-- Neither errors nor members. -/
def isEmpty (t : ErrorTree) : Bool :=
  t.errors.isEmpty && t.members.isEmpty

theorem eq_empty_of_isEmpty {t : ErrorTree} (h : t.isEmpty = true) : t = empty := by
  obtain ⟨es, ms⟩ := t
  obtain ⟨hes, hms⟩ := Bool.and_eq_true_iff.1 h
  obtain rfl : es = [] := List.isEmpty_iff.1 hes
  obtain rfl : ms = [] := List.isEmpty_iff.1 hms
  rfl

/-- Some member. -/
def hasMembers (t : ErrorTree) : Bool :=
  !t.members.isEmpty

/-! ### Adding -/

/-- One more error at the root. -/
def addError (t : ErrorTree) (e : ValidationError) : ErrorTree :=
  .node (t.errors ++ [e]) t.members

mutual

/-- The first tree with the second added to it. -/
def absorb (t : ErrorTree) : ErrorTree → ErrorTree
  | .node es ms => .node (t.errors ++ es) (absorbMembers t.members ms)

/-- Members with further ones added under their keys. -/
def absorbMembers (into : List (String × ErrorTree)) : List (String × ErrorTree) → List (String × ErrorTree)
  | [] => into
  | (key, t) :: rest =>
    let into :=
      if t.isEmpty then into
      else Keyed.upsert key (fun | some old => absorb old t | none => t) into
    absorbMembers into rest

end

/-- The tree with another one added under a key. -/
def addMember (t : ErrorTree) (key : String) (u : ErrorTree) : ErrorTree :=
  .node t.errors (absorbMembers t.members [(key, u)])

/-- The tree with an error added under a key. -/
def addMemberError (t : ErrorTree) (key : String) (e : ValidationError) : ErrorTree :=
  .node t.errors (Keyed.upsert key (fun old => (old.getD empty).addError e) t.members)

/-- Trees added to one another in order. -/
def merge (ts : List ErrorTree) : ErrorTree :=
  ts.foldl absorb empty

/-- Another form for each error at the root. -/
def mapErrors (f : ValidationError → ValidationError) (t : ErrorTree) : ErrorTree :=
  .node (t.errors.map f) t.members

/-! ### Reading -/

/-- The member of a key. -/
def member? (t : ErrorTree) (key : String) : Option ErrorTree :=
  Keyed.get? key t.members

/-- The node at the end of a path. -/
def at? (t : ErrorTree) (path : List String) : Option ErrorTree :=
  path.foldlM member? t

mutual

/-- The number of errors in the tree. -/
def count : ErrorTree → Nat
  | .node es ms => es.length + countMembers ms

/-- The number of errors in members. -/
def countMembers : List (String × ErrorTree) → Nat
  | [] => 0
  | (_, t) :: ms => count t + countMembers ms

end

mutual

/-- The length of the longest path to a node. -/
def depth : ErrorTree → Nat
  | .node _ ms => depthMembers ms

/-- The greatest depth of members, seen from the node that has them. -/
def depthMembers : List (String × ErrorTree) → Nat
  | [] => 0
  | (_, t) :: ms => max (depth t + 1) (depthMembers ms)

end

mutual

/-- The trees count as one: their errors do in order, and their members do under each key. -/
def same : ErrorTree → ErrorTree → Bool
  | .node es ms, u =>
    es.map (·.face) = u.errors.map (·.face) && ms.length = u.members.length && sameMembers ms u.members

/-- Each of the members counts as one with that of its key. -/
def sameMembers : List (String × ErrorTree) → List (String × ErrorTree) → Bool
  | [], _ => true
  | (key, t) :: ms, ns =>
    (match Keyed.get? key ns with
      | some u => same t u
      | none => false) && sameMembers ms ns

end

end ErrorTree

end ModelValidation
