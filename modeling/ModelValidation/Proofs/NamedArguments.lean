import ModelValidation.Phrasebook
import ModelValidation.Proofs.Grouping

/-!
# Arguments under their names

The arguments of an error are a map from names: one that is added takes the place of the one of its name, and another
template leaves them as they are.  What a text becomes depends on what stands under each name, and not on the order in
which the arguments came.

* `names_withArg`, `arg?_withArg`: what one addition does to the names and to what stands under them;
* `mem_args_iff`: an error has the arguments that were added last under their names;
* `Template.render_congr`, `Template.stops_congr`: a template is filled in by what stands under each name;
* `arguments_last_write_wins`: both for every history of an error.
-/

namespace ModelValidation

/-! ### Filling in -/

section Filling

variable {args others : List Argument}

/-- A placeholder becomes what the argument of its name makes of it. -/
theorem Placeholder.render?_congr {p : Placeholder}
    (h : args.find? (·.name = p.name) = others.find? (·.name = p.name)) : p.render? args = p.render? others := by
  rw [render?, h, render?]

/-- The program stops at a placeholder if it stops at the argument of its name. -/
theorem Placeholder.stops_congr {p : Placeholder}
    (h : args.find? (·.name = p.name) = others.find? (·.name = p.name)) : p.stops args = p.stops others := by
  rw [stops, h, stops]

/-- A template becomes what its placeholders become. -/
theorem Template.render_eq_of_placeholders {t : Template}
    (h : ∀ p ∈ t.placeholders, p.render? args = p.render? others) : t.render args = t.render others := by
  have hparts : t.parts.flatMap (·.render args) = t.parts.flatMap (·.render others) := by
    refine List.flatMap_congr fun part hpart => ?_
    cases part with
    | literal cs => rfl
    | placeholder p => rw [Part.render, h p (List.mem_filterMap.2 ⟨.placeholder p, hpart, rfl⟩), Part.render]
  rw [render, hparts, render]

/-- **A template is filled in by what stands under each name.** -/
theorem Template.render_congr (h : ∀ name, args.find? (·.name = name) = others.find? (·.name = name)) (t : Template) :
    t.render args = t.render others :=
  render_eq_of_placeholders fun p _ => Placeholder.render?_congr (h p.name)

theorem Template.stops_congr (h : ∀ name, args.find? (·.name = name) = others.find? (·.name = name)) (t : Template) :
    t.stops args = t.stops others := by
  have hplaceholders : (fun p : Placeholder => p.stops args) = fun p => p.stops others :=
    funext fun p => Placeholder.stops_congr (h p.name)
  rw [stops, hplaceholders, stops]

end Filling

/-- The template for a key: its phrase, or the key itself if there is none. -/
def Wording.template (t : Wording) (key : String) : Template :=
  (t.bind (·.phrase? key)).getD ⟨key⟩

theorem Wording.render_eq (t : Wording) (e : ValidationError) : t.render e = (t.template e.template).render e.args := by
  rw [render, template]
  cases t.bind (·.phrase? e.template) <;> rfl

namespace ValidationError

/-! ### One addition -/

/-- The arguments under their names. -/
def entries (args : List Argument) : List (String × Argument) :=
  args.map fun arg => (arg.name, arg)

/-- The names of the arguments in order. -/
def names (e : ValidationError) : List String :=
  e.args.map (·.name)

theorem keys_entries (args : List Argument) : (entries args).map Prod.fst = args.map (·.name) := by
  rw [entries, List.map_map]
  rfl

theorem find?_eq_get? (name : String) (args : List Argument) :
    args.find? (·.name = name) = Keyed.get? name (entries args) := by
  rw [Keyed.get?_eq_find?, entries, List.find?_map, Option.map_map]
  exact Option.map_id'.symm

/-- An addition writes the argument under its name. -/
theorem entries_putArg (arg : Argument) (args : List Argument) :
    entries (putArg arg args) = Keyed.put arg.name arg (entries args) := by
  induction args with
  | nil => rfl
  | cons a args ih =>
    by_cases h : a.name = arg.name
    · simp [entries, putArg, Keyed.put, Keyed.upsert, h]
    · have hcons : entries (a :: putArg arg args) = (a.name, a) :: entries (putArg arg args) := rfl
      rw [putArg, if_neg h, hcons, ih]
      exact (if_neg h).symm

section Addition

variable (e : ValidationError) (arg : Argument) (name : String)

theorem names_withArg : (e.withArg arg).names = if arg.name ∈ e.names then e.names else e.names ++ [arg.name] := by
  have hnames (f : ValidationError) : f.names = (entries f.args).map Prod.fst := (keys_entries f.args).symm
  rw [hnames, hnames, withArg, entries_putArg]
  exact Keyed.keys_upsert _ _ _

theorem arg?_withArg : (e.withArg arg).arg? name = if name = arg.name then some arg else e.arg? name := by
  rw [arg?, arg?, find?_eq_get?, find?_eq_get?, withArg, entries_putArg]
  exact Keyed.get?_upsert _ _ _ _

end Addition

/-- An argument is found under its name, if names are distinct. -/
theorem mem_args_iff_arg? {e : ValidationError} (h : e.names.Nodup) {arg : Argument} :
    arg ∈ e.args ↔ e.arg? arg.name = some arg := by
  constructor
  · intro hmem
    rw [arg?, find?_eq_get?]
    rw [names, ← keys_entries] at h
    exact Keyed.get?_of_mem h (List.mem_map_of_mem hmem)
  · exact List.mem_of_find?_eq_some

/-! ### Histories -/

/-- What can be done with an error.  An argument may be one that other errors have as well. -/
inductive Call where
  | withArg (arg : Argument)
  | withTemplate (template : String)

/-- The name that an argument is added under. -/
def Call.name? : Call → Option String
  | .withArg arg => some arg.name
  | .withTemplate _ => none

/-- The error after a call. -/
def after (e : ValidationError) : Call → ValidationError
  | .withArg arg => e.withArg arg
  | .withTemplate template => e.withTemplate template

theorem names_after (e : ValidationError) (call : Call) : (e.after call).names =
    match call.name? with
    | some name => if name ∈ e.names then e.names else e.names ++ [name]
    | none => e.names := by
  cases call with
  | withArg arg => exact e.names_withArg arg
  | withTemplate template => rfl

/-- The error after a history that begins with a template. -/
def ofHistory (template : String) (h : List Call) : ValidationError :=
  h.foldl after (.ofTemplate template)

/-- The argument is the last one that was added under its name. -/
def AddedLast (h : List Call) (arg : Argument) : Prop :=
  ∃ before since, h = before ++ .withArg arg :: since ∧ ∀ call ∈ since, call.name? ≠ some arg.name

section Histories

variable {template : String} {h : List Call} {arg : Argument} {name : String}

theorem ofHistory_concat (template : String) (h : List Call) (call : Call) :
    ofHistory template (h ++ [call]) = (ofHistory template h).after call :=
  List.foldl_append

theorem not_addedLast_nil : ¬ AddedLast [] arg := by
  rintro ⟨before, since, hsplit, -⟩
  simp at hsplit

/-- What was added last after one more call: what is added now, or else what was before under another name. -/
theorem addedLast_concat {call : Call} :
    AddedLast (h ++ [call]) arg ↔ call = .withArg arg ∨ call.name? ≠ some arg.name ∧ AddedLast h arg := by
  constructor
  · rintro ⟨before, since, hsplit, hsince⟩
    rcases List.eq_nil_or_concat since with rfl | ⟨since, last, rfl⟩
    · obtain ⟨-, hlast⟩ := List.append_inj' hsplit rfl
      exact Or.inl (List.cons.inj hlast).1
    · rw [List.concat_eq_append] at hsplit hsince
      rw [← List.cons_append, ← List.append_assoc] at hsplit
      obtain ⟨rfl, hlast⟩ := List.append_inj' hsplit rfl
      obtain rfl : call = last := (List.cons.inj hlast).1
      rw [List.forall_mem_append, List.forall_mem_singleton] at hsince
      exact Or.inr ⟨hsince.2, before, since, rfl, hsince.1⟩
  · rintro (rfl | ⟨hcall, before, since, rfl, hsince⟩)
    · exact ⟨h, [], rfl, List.forall_mem_nil _⟩
    · refine ⟨before, since ++ [call], ?_, ?_⟩
      · rw [List.append_assoc, List.cons_append]
      · exact List.forall_mem_append.2 ⟨hsince, List.forall_mem_singleton.2 hcall⟩

/-- **Names stand in the order of their first additions.** -/
theorem names_ofHistory (template : String) (h : List Call) :
    (ofHistory template h).names = (h.filterMap Call.name?).eraseDups := by
  induction h using List.reverseRecOn with
  | nil => rfl
  | append_singleton h call ih =>
    rw [ofHistory_concat, names_after, ih]
    exact (ErrorTree.eraseDups_filterMap_concat _ _ _).symm

theorem nodup_names (template : String) (h : List Call) : (ofHistory template h).names.Nodup := by
  rw [names_ofHistory]
  exact ErrorTree.nodup_eraseDups _

/-- **Under a name stands the argument that was added last.** -/
theorem arg?_eq_some_iff : (ofHistory template h).arg? name = some arg ↔ arg.name = name ∧ AddedLast h arg := by
  induction h using List.reverseRecOn with
  | nil => exact ⟨nofun, fun hlast => absurd hlast.2 not_addedLast_nil⟩
  | append_singleton h call ih =>
    rw [ofHistory_concat, addedLast_concat]
    cases call with
    | withTemplate other =>
      have hsame : ((ofHistory template h).withTemplate other).arg? name = (ofHistory template h).arg? name := rfl
      rw [after, hsame, ih]
      simp [Call.name?]
    | withArg new =>
      rw [after, arg?_withArg]
      by_cases hname : name = new.name
      · rw [if_pos hname, Option.some.injEq]
        constructor
        · rintro rfl
          exact ⟨hname.symm, Or.inl rfl⟩
        · rintro ⟨harg, hnew | ⟨hne, -⟩⟩
          · exact Call.withArg.inj hnew
          · exact absurd (congrArg some (hname.symm.trans harg.symm)) hne
      · rw [if_neg hname, ih]
        refine and_congr_right fun harg => ?_
        rw [or_iff_right, and_iff_right]
        · rintro hnew
          exact hname (harg.symm.trans (Option.some.inj hnew).symm)
        · rintro hnew
          cases hnew
          exact hname harg.symm

/-- **An error has the arguments that were added last under their names.** -/
theorem mem_args_iff : arg ∈ (ofHistory template h).args ↔ AddedLast h arg := by
  rw [mem_args_iff_arg? (nodup_names template h), arg?_eq_some_iff, and_iff_right rfl]

theorem arg?_eq_none_iff : (ofHistory template h).arg? name = none ↔ ∀ call ∈ h, call.name? ≠ some name := by
  have hnames : (ofHistory template h).arg? name = none ↔ name ∉ (ofHistory template h).names := by
    rw [arg?, find?_eq_get?, Keyed.get?_eq_none_iff, keys_entries, names]
  rw [hnames, names_ofHistory, List.mem_eraseDups, List.mem_filterMap]
  push Not
  rfl

/-- Another template at any time leaves the arguments as they are. -/
theorem args_ofHistory_without (before since : List Call) (other : String) :
    (ofHistory template (before ++ .withTemplate other :: since)).args =
      (ofHistory template (before ++ since)).args := by
  induction since using List.reverseRecOn with
  | nil =>
    rw [ofHistory_concat, List.append_nil]
    rfl
  | append_singleton since call ih =>
    rw [← List.cons_append, ← List.append_assoc, ← List.append_assoc, ofHistory_concat, ofHistory_concat]
    cases call with
    | withTemplate another => exact ih
    | withArg arg => exact congrArg (putArg arg) ih

end Histories

/-- **Arguments are a map in which the last write wins, in whatever order they come.**  After every history the names of
an error's arguments are distinct and stand in the order of their first additions, the arguments are those added last
under their names, and a name gives the one added last under it, or none if none was.  Another template at any time
leaves the arguments as they are.  Two histories that add the same arguments last, of whatever kinds these are, make the
same text of every template or stop at it, and in every wording make the same text for every key. -/
theorem arguments_last_write_wins (template : String) (h : List Call) :
    ((ofHistory template h).args.map (·.name)).Nodup ∧
    (ofHistory template h).args.map (·.name) = (h.filterMap Call.name?).eraseDups ∧
    (∀ arg, arg ∈ (ofHistory template h).args ↔ AddedLast h arg) ∧
    (∀ name arg, (ofHistory template h).arg? name = some arg ↔ arg.name = name ∧ AddedLast h arg) ∧
    (∀ name, (ofHistory template h).arg? name = none ↔ ∀ call ∈ h, call.name? ≠ some name) ∧
    (∀ before other since, h = before ++ .withTemplate other :: since →
      (ofHistory template h).args = (ofHistory template (before ++ since)).args) ∧
    ∀ (template' : String) (h' : List Call), (∀ arg, AddedLast h arg ↔ AddedLast h' arg) →
      (∀ t : Template, t.render (ofHistory template h).args = t.render (ofHistory template' h').args ∧
        t.stops (ofHistory template h).args = t.stops (ofHistory template' h').args) ∧
      ∀ (t : Wording) (key : String), t.render ((ofHistory template h).withTemplate key) =
        t.render ((ofHistory template' h').withTemplate key) := by
  refine ⟨nodup_names template h, names_ofHistory template h, fun arg => mem_args_iff, fun name arg => arg?_eq_some_iff,
    fun name => arg?_eq_none_iff, ?_, ?_⟩
  · rintro before other since rfl
    exact args_ofHistory_without before since other
  · intro template' h' hlast
    have hsame (name : String) : (ofHistory template h).arg? name = (ofHistory template' h').arg? name := by
      refine Option.ext fun arg => ?_
      rw [arg?_eq_some_iff, arg?_eq_some_iff, hlast]
    have hrender := Template.render_congr hsame
    refine ⟨fun t => ⟨hrender t, Template.stops_congr hsame t⟩, fun t key => ?_⟩
    rw [Wording.render_eq, Wording.render_eq]
    exact hrender _

/-- A range whose lower end is corrected after the upper end has been added. -/
def rangeCorrected : List Call :=
  [.withArg ⟨"min", .number (.integer 0)⟩, .withArg ⟨"max", .number (.integer 10)⟩, .withTemplate "Numbers.Range",
    .withArg ⟨"min", .number (.integer 1)⟩]

/-- The range with its ends the other way round. -/
def rangeReversed : List Call :=
  [.withArg ⟨"max", .number (.integer 10)⟩, .withArg ⟨"min", .number (.integer 1)⟩]

theorem arguments_last_write_wins_range :
    (∀ arg, AddedLast rangeCorrected arg ↔ AddedLast rangeReversed arg) ∧
      Wording.render none ((ofHistory "Numbers.Between" rangeCorrected).withTemplate "From {min} to {max}") =
        Wording.render none ((ofHistory "" rangeReversed).withTemplate "From {min} to {max}") := by
  have hlast (arg : Argument) : AddedLast rangeCorrected arg ↔ AddedLast rangeReversed arg := by
    have hcorrected : arg ∈ (ofHistory "" rangeCorrected).args ↔ AddedLast rangeCorrected arg := mem_args_iff
    have hreversed : arg ∈ (ofHistory "" rangeReversed).args ↔ AddedLast rangeReversed arg := mem_args_iff
    have hperm : (ofHistory "" rangeCorrected).args.Perm (ofHistory "" rangeReversed).args := List.Perm.swap _ _ []
    rw [← hcorrected, ← hreversed, hperm.mem_iff]
  obtain ⟨-, -, -, -, -, -, hrender⟩ := arguments_last_write_wins "Numbers.Between" rangeCorrected
  exact ⟨hlast, (hrender "" rangeReversed hlast).2 none _⟩

end ValidationError

end ModelValidation
