import ModelValidation.Argument
import ModelValidation.Text.Alphanumeric
import ModelValidation.Text.Split

/-!
# Message templates

A template is text with placeholders `{name}` and `{name|key=value,key=value}`.  Every text is a template: braces
that do not enclose a well-formed placeholder stand for themselves.  A segment of parameters without `=` continues
the value before it, so that the value of `{amount|format=#,##0.00}` keeps its comma.
-/

namespace ModelValidation

open Text

/-- A reference to an argument. -/
structure Placeholder where
  /-- The text between the braces. -/
  inner : String
  name : String
  parameters : Parameters
  deriving DecidableEq, Repr

namespace Placeholder

/-- The placeholder as it is written. -/
def raw (p : Placeholder) : String := "\x7b" ++ p.inner ++ "\x7d"

/-- A character that a name may hold. -/
def isNameChar (c : Char) : Bool :=
  isAlphanumeric c || c = '_' || c = '.'

/-- A segment of parameters in front of those read so far, the last one first. -/
def addSegment (read : List (List Char × List Char)) (segment : List Char) : Option (List (List Char × List Char)) :=
  match splitOnce '=' segment with
  | some (key, value) => if trim key = [] then none else some ((trim key, value) :: read)
  | none =>
    match read with
    | (key, value) :: read => some ((key, value ++ ',' :: segment) :: read)
    | [] => none

/-- The parameters of a comma-separated list. -/
def parameters? (cs : List Char) : Option Parameters :=
  ((split ',' cs).foldlM addSegment []).map fun read =>
    read.reverse.map fun (key, value) => (String.ofList key, String.ofList value)

/-- The name in front of the parameters, and the list of these if there is one. -/
def halves (inner : List Char) : List Char × Option (List Char) :=
  match splitOnce '|' inner with
  | some (name, rest) => (trim name, some rest)
  | none => (trim inner, none)

/-- Reads the text between two braces. -/
def parse? (inner : List Char) : Option Placeholder :=
  let (name, rest) := halves inner
  if name = [] ∨ name.all isNameChar = false then none
  else
    let parameters := match rest with
      | some rest => parameters? rest
      | none => some []
    parameters.map fun parameters => ⟨String.ofList inner, String.ofList name, parameters⟩

/-- Reads a placeholder behind its opening brace, and what follows it. -/
def read? (cs : List Char) : Option (Placeholder × List Char) :=
  let inner := cs.takeWhile fun c => c != '{' && c != '}'
  match cs.drop inner.length with
  | '}' :: rest => (parse? inner).map (·, rest)
  | _ => none

theorem read?_shorter {cs rest : List Char} {p : Placeholder} (h : read? cs = some (p, rest)) :
    rest.length < cs.length := by
  simp only [read?] at h
  split at h
  · next hd =>
    have := congrArg List.length hd
    simp only [Option.map_eq_some_iff, Prod.mk.injEq] at h
    obtain ⟨_, _, _, rfl⟩ := h
    simp only [List.length_drop, List.length_cons] at this
    omega
  · simp at h

/-- What the placeholder becomes: the first argument of its name, unless it has parameters that this does not know. -/
def render? (p : Placeholder) (args : List Argument) : Option String :=
  match args.find? (·.name = p.name) with
  | some arg => if arg.accepts p.parameters then some (arg.render p.parameters) else none
  | none => none

/-- The program stops where the placeholder is filled. -/
def stops (p : Placeholder) (args : List Argument) : Bool :=
  (args.find? (·.name = p.name)).any fun arg => arg.accepts p.parameters && arg.value.stops p.parameters

end Placeholder

/-- A text with placeholders. -/
structure Template where
  source : String
  deriving DecidableEq, Repr

namespace Template

/-- A stretch of literal text, or a placeholder. -/
inductive Part where
  | literal (cs : List Char)
  | placeholder (p : Placeholder)
  deriving DecidableEq, Repr

/-- A character in front of parts: it joins a literal that stands first. -/
def push (c : Char) : List Part → List Part
  | .literal cs :: parts => .literal (c :: cs) :: parts
  | parts => .literal [c] :: parts

/-- The parts of a text. -/
def partsOf (cs : List Char) : List Part :=
  match cs with
  | [] => []
  | c :: cs =>
    if c = '{' then
      match _h : Placeholder.read? cs with
      | some (p, rest) => .placeholder p :: partsOf rest
      | none => push c (partsOf cs)
    else push c (partsOf cs)
termination_by cs.length
decreasing_by
  · have := Placeholder.read?_shorter _h
    grind
  · grind
  · grind

/-- The parts of the template. -/
def parts (t : Template) : List Part :=
  partsOf t.source.toList

/-- The placeholders in their order. -/
def placeholders (t : Template) : List Placeholder :=
  t.parts.filterMap fun
    | .placeholder p => some p
    | .literal _ => none

/-- What a part becomes; a placeholder that no argument fills stays as it is written. -/
def Part.render (args : List Argument) : Part → List Char
  | .literal cs => cs
  | .placeholder p => ((p.render? args).getD p.raw).toList

/-- The text with its placeholders filled in. -/
def render (t : Template) (args : List Argument) : String :=
  String.ofList (t.parts.flatMap (·.render args))

/-- The program stops where a placeholder is filled. -/
def stops (t : Template) (args : List Argument) : Bool :=
  t.placeholders.any (·.stops args)

end Template

end ModelValidation
