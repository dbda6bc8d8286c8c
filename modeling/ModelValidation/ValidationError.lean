import ModelValidation.Template

/-!
# Validation errors

An error is a template, or the key of a phrase, together with named arguments.  Names are unique: an argument takes
the place of one of its name.
-/

namespace ModelValidation

/-- A message to be: a template or the key of a phrase, and its arguments. -/
structure ValidationError where
  template : String
  args : List Argument

namespace ValidationError

/-- An error without arguments. -/
def ofTemplate (template : String) : ValidationError := ⟨template, []⟩

/-- The arguments with one more, in the place of the first of its name if there is one. -/
def putArg (arg : Argument) : List Argument → List Argument
  | [] => [arg]
  | a :: args => if a.name = arg.name then arg :: args else a :: putArg arg args

/-- Adds an argument. -/
def withArg (e : ValidationError) (arg : Argument) : ValidationError :=
  { e with args := putArg arg e.args }

/-- Adds arguments one by one. -/
def withArgs (e : ValidationError) (args : List Argument) : ValidationError :=
  args.foldl withArg e

/-- The same arguments for another template. -/
def withTemplate (e : ValidationError) (template : String) : ValidationError :=
  { e with template }

/-- The argument of a name. -/
def arg? (e : ValidationError) (name : String) : Option Argument :=
  e.args.find? (·.name = name)

/-- The template filled in, without a search for a phrase. -/
def renderTemplate (e : ValidationError) : String :=
  Template.render ⟨e.template⟩ e.args

/-- What two errors have to share to count as one: the template, and each argument's name and plain text. -/
def face (e : ValidationError) : String × List (String × String) :=
  (e.template, e.args.map fun a => (a.name, a.plain))

/-- The errors count as one. -/
def same (e f : ValidationError) : Bool :=
  e.face = f.face

end ValidationError

end ModelValidation
