import ModelValidation.Proofs.Placeholders

/-!
# What placeholders become

A placeholder becomes the value of the first argument of its name, unless it has parameters that this does not know; it
stays as it is written if no argument fills it.  What stands around it makes no difference, whatever braces there are.

* `render?_eq_some_iff`, `render?_eq_none_iff`: what fills a placeholder, and when nothing does;
* `render_append_placeholder`: a text is filled in piece by piece around a placeholder;
* `placeholder_resolves_anywhere`: so a placeholder has the same parts and becomes the same in every text, and the text
  that takes its place is not read again.
-/

namespace ModelValidation

open Text

namespace Placeholder

/-! ### The arguments of a placeholder -/

/-- The placeholder that the text between two braces stands for: its name is what stands before the bar, less the blanks
around it, and its parameters are those listed behind the bar, if there is one. -/
structure WrittenAs (p : Placeholder) (inner : List Char) : Prop where
  inner_eq : p.inner.toList = inner
  bare : '|' ∉ inner → p.name.toList = trim inner ∧ p.parameters = []
  listed : ∀ name list, inner = name ++ '|' :: list → '|' ∉ name →
    p.name.toList = trim name ∧ parameters? list = some p.parameters

theorem writtenAs_of_parse? {inner : List Char} {p : Placeholder} (h : parse? inner = some p) : p.WrittenAs inner := by
  have hinner := inner_of_parse? h
  simp only [parse?] at h
  split at h
  · cases h
  · obtain ⟨parameters, hparameters, rfl⟩ := Option.map_eq_some_iff.1 h
    refine ⟨hinner, fun hbar => ?_, fun name list hlist hbar => ?_⟩
    · have hhalves : halves inner = (trim inner, none) := by
        rw [halves, splitOnce_eq_none_iff.2 hbar]
      rw [hhalves] at hparameters ⊢
      exact ⟨String.toList_ofList, (Option.some.inj hparameters).symm⟩
    · have hhalves : halves inner = (trim name, some list) := by
        rw [halves, splitOnce_eq_some_iff.2 ⟨hbar, hlist⟩]
      rw [hhalves] at hparameters ⊢
      exact ⟨String.toList_ofList, hparameters⟩

/-- The argument fills the placeholder: it is the first one of the name, and it knows all parameters. -/
def FilledBy (p : Placeholder) (args : List Argument) (arg : Argument) : Prop :=
  ∃ earlier later, args = earlier ++ arg :: later ∧ arg.name = p.name ∧ (∀ a ∈ earlier, a.name ≠ p.name) ∧
    ∀ parameter ∈ p.parameters, parameter.1 ∈ arg.value.allowed

section Arguments

variable {p : Placeholder} {args : List Argument}

theorem accepts_iff {arg : Argument} {parameters : Parameters} :
    arg.accepts parameters = true ↔ ∀ parameter ∈ parameters, parameter.1 ∈ arg.value.allowed := by
  simp [Argument.accepts]

theorem filledBy_iff {arg : Argument} :
    p.FilledBy args arg ↔ args.find? (·.name = p.name) = some arg ∧ arg.accepts p.parameters = true := by
  rw [accepts_iff, List.find?_eq_some_iff_append]
  constructor
  · rintro ⟨earlier, later, hargs, hname, hearlier, haccepts⟩
    refine ⟨⟨decide_eq_true hname, earlier, later, hargs, fun a ha => ?_⟩, haccepts⟩
    simpa using hearlier a ha
  · rintro ⟨⟨hname, earlier, later, hargs, hearlier⟩, haccepts⟩
    refine ⟨earlier, later, hargs, of_decide_eq_true hname, fun a ha => ?_, haccepts⟩
    simpa using hearlier a ha

/-- A placeholder becomes the value of the argument that fills it. -/
theorem render?_eq_some_iff {text : String} :
    p.render? args = some text ↔ ∃ arg, p.FilledBy args arg ∧ arg.render p.parameters = text := by
  simp only [filledBy_iff, render?]
  cases args.find? (·.name = p.name) with
  | none => simp
  | some arg => by_cases haccepts : arg.accepts p.parameters = true <;> simp [haccepts]

/-- The program stops at a placeholder if it stops at the value of the argument that fills it. -/
theorem stops_of_filledBy {arg : Argument} (h : p.FilledBy args arg) : p.stops args = arg.value.stops p.parameters := by
  obtain ⟨hfind, haccepts⟩ := filledBy_iff.1 h
  rw [stops, hfind, Option.any_some, haccepts, Bool.true_and]

/-- It stays as it is written if no argument fills it. -/
theorem render?_eq_none_iff : p.render? args = none ↔ ¬ ∃ arg, p.FilledBy args arg := by
  rw [← Option.not_isSome_iff_eq_none, Option.isSome_iff_exists]
  simp only [render?_eq_some_iff]
  refine not_congr ⟨?_, ?_⟩
  · rintro ⟨-, arg, hfilled, -⟩
    exact ⟨arg, hfilled⟩
  · rintro ⟨arg, hfilled⟩
    exact ⟨_, arg, hfilled, rfl⟩

theorem stops_of_not_filledBy (h : ¬ ∃ arg, p.FilledBy args arg) : p.stops args = false := by
  rw [stops]
  cases hfind : args.find? (·.name = p.name) with
  | none => rfl
  | some arg =>
    have hrefused : arg.accepts p.parameters = false :=
      Bool.eq_false_iff.2 fun haccepts => h ⟨arg, filledBy_iff.2 ⟨hfind, haccepts⟩⟩
    rw [Option.any_some, hrefused, Bool.false_and]

end Arguments

end Placeholder

namespace Template

open Placeholder

/-! ### Templates around a placeholder -/

section Around

variable {p : Placeholder}

theorem parts_append_placeholder (hopen : '{' ∉ p.inner.toList) (hclose : '}' ∉ p.inner.toList)
    (hparse : parse? p.inner.toList = some p) (before after : String) :
    (Template.mk (before ++ p.raw ++ after)).parts =
      (Template.mk before).parts ++ .placeholder p :: (Template.mk after).parts := by
  have htext : (before ++ p.raw ++ after).toList =
      before.toList ++ '{' :: (p.inner.toList ++ '}' :: after.toList) := by
    simp [toList_raw]
  rw [parts, htext, partsOf_append_placeholder hopen hclose hparse]
  rfl

/-- A text is filled in piece by piece around a placeholder. -/
theorem render_append_placeholder (hopen : '{' ∉ p.inner.toList) (hclose : '}' ∉ p.inner.toList)
    (hparse : parse? p.inner.toList = some p) (before after : String) (args : List Argument) :
    (Template.mk (before ++ p.raw ++ after)).render args =
      (Template.mk before).render args ++ (p.render? args).getD p.raw ++ (Template.mk after).render args := by
  rw [render, parts_append_placeholder hopen hclose hparse, List.flatMap_append, List.flatMap_cons, Part.render,
    String.ofList_append, String.ofList_append, String.ofList_toList, String.append_assoc]
  rfl

/-- The program stops in such a text just if it stops in what stands around the placeholder, or at this. -/
theorem stops_append_placeholder (hopen : '{' ∉ p.inner.toList) (hclose : '}' ∉ p.inner.toList)
    (hparse : parse? p.inner.toList = some p) (before after : String) (args : List Argument) :
    (Template.mk (before ++ p.raw ++ after)).stops args =
      ((Template.mk before).stops args || p.stops args || (Template.mk after).stops args) := by
  have hplaceholders : (Template.mk (before ++ p.raw ++ after)).placeholders =
      (Template.mk before).placeholders ++ p :: (Template.mk after).placeholders := by
    rw [placeholders, parts_append_placeholder hopen hclose hparse, List.filterMap_append]
    rfl
  rw [stops, hplaceholders, List.any_append, List.any_cons, Bool.or_assoc]
  rfl

end Around

/-- **A placeholder becomes the same wherever it stands.**  For every text of the grammar between two braces there is
one placeholder, with the name and the parameters that are written there.  Between any two texts it is a part of its own
between the parts of the texts, and the whole is filled in as the texts are by themselves, with the value of the first
argument of the name between them if this knows all parameters, and else with the placeholder as it is written; it stops
the program just if one of the texts does so by itself, or the value.  The text of a value is put in as it is, whatever
braces it has. -/
theorem placeholder_resolves_anywhere {inner : String} (h : WellFormed inner.toList) :
    ∃ p : Placeholder, p.WrittenAs inner.toList ∧ (Template.mk p.raw).parts = [.placeholder p] ∧
      ∀ before after : String,
        (Template.mk (before ++ p.raw ++ after)).parts =
          (Template.mk before).parts ++ .placeholder p :: (Template.mk after).parts ∧
        ∀ args,
          (∀ arg, p.FilledBy args arg →
            (Template.mk (before ++ p.raw ++ after)).render args =
                (Template.mk before).render args ++ arg.render p.parameters ++ (Template.mk after).render args ∧
              (Template.mk (before ++ p.raw ++ after)).stops args =
                ((Template.mk before).stops args || arg.value.stops p.parameters || (Template.mk after).stops args)) ∧
          ((¬ ∃ arg, p.FilledBy args arg) →
            (Template.mk (before ++ p.raw ++ after)).render args =
                (Template.mk before).render args ++ p.raw ++ (Template.mk after).render args ∧
              (Template.mk (before ++ p.raw ++ after)).stops args =
                ((Template.mk before).stops args || (Template.mk after).stops args)) ∧
          ∀ value, p.parameters = [] → p.FilledBy args ⟨p.name, .text value⟩ →
            (Template.mk (before ++ p.raw ++ after)).render args =
              (Template.mk before).render args ++ value ++ (Template.mk after).render args := by
  obtain ⟨hopen, hclose, hreads⟩ := h
  obtain ⟨p, hparse⟩ := Option.isSome_iff_exists.1 (parse?_isSome_iff.2 hreads)
  have hwritten := writtenAs_of_parse? hparse
  rw [← hwritten.inner_eq] at hopen hclose hparse
  have hparts := parts_append_placeholder hopen hclose hparse
  have hrender := render_append_placeholder hopen hclose hparse
  have hstops := stops_append_placeholder hopen hclose hparse
  have hfilled (before after : String) (args : List Argument) (arg : Argument) (hfill : p.FilledBy args arg) :
      (Template.mk (before ++ p.raw ++ after)).render args =
        (Template.mk before).render args ++ arg.render p.parameters ++ (Template.mk after).render args := by
    rw [hrender, render?_eq_some_iff.2 ⟨arg, hfill, rfl⟩, Option.getD_some]
  refine ⟨p, hwritten, ?_, fun before after => ⟨hparts before after, fun args => ⟨?_, ?_, ?_⟩⟩⟩
  · have halone := hparts "" ""
    have hempty : (Template.mk "").parts = [] := partsOf_nil
    rwa [String.empty_append, String.append_empty, hempty] at halone
  · intro arg hfill
    exact ⟨hfilled before after args arg hfill, by rw [hstops, stops_of_filledBy hfill]⟩
  · intro hnone
    rw [hrender, render?_eq_none_iff.2 hnone, Option.getD_none, hstops, stops_of_not_filledBy hnone, Bool.or_false]
    exact ⟨rfl, rfl⟩
  · intro value hnil hfill
    rw [hfilled before after args _ hfill, hnil]
    rfl

theorem placeholder_resolves_anywhere_braces :
    WellFormed " name ".toList ∧
    (Template.mk ("\x7bx\x7b" ++ "{ name }" ++ "\x7d")).render [⟨"name", .text "{name}"⟩] =
      "\x7bx\x7b" ++ "{name}" ++ "\x7d" := by
  have h : WellFormed " name ".toList := ⟨by decide, by decide, parse?_isSome_iff.1 (by decide)⟩
  obtain ⟨p, hwritten, -, haround⟩ := placeholder_resolves_anywhere h
  have hinner : p.inner = " name " := String.toList_inj.1 hwritten.inner_eq
  have hraw : p.raw = "{ name }" := by
    rw [raw, hinner]
    rfl
  have hbar : '|' ∉ " name ".toList := by decide
  have htrim : trim " name ".toList = "name".toList := by cbv
  obtain ⟨hname, hparameters⟩ := hwritten.bare hbar
  have hname : p.name = "name" := String.toList_inj.1 (hname.trans htrim)
  have hfilled : p.FilledBy [⟨"name", .text "{name}"⟩] ⟨p.name, .text "{name}"⟩ := by
    rw [FilledBy, hname, hparameters]
    exact ⟨[], [], rfl, rfl, List.forall_mem_nil _, List.forall_mem_nil _⟩
  have hbefore : (Template.mk "\x7bx\x7b").render [⟨"name", .text "{name}"⟩] = "\x7bx\x7b" := by cbv
  have hafter : (Template.mk "\x7d").render [⟨"name", .text "{name}"⟩] = "\x7d" := by cbv
  obtain ⟨-, -, hvalue⟩ := (haround "\x7bx\x7b" "\x7d").2 [⟨"name", .text "{name}"⟩]
  rw [← hraw, hvalue "{name}" hparameters hfilled, hbefore, hafter]
  exact ⟨h, rfl⟩

end Template

/-- A value of a kind that a program adds by itself: it may be asked to say yes or no. -/
def ArgumentValue.flag (b : Bool) : ArgumentValue where
  allowed := ["style"]
  render params :=
    match Keyed.get? "style" params, b with
    | some "yesno", true => "yes"
    | some "yesno", false => "no"
    | _, b => toString b

example :
    (Template.mk "{sent|style=yesno}, {sent}, {sent|case=upper}").render [⟨"sent", .flag true⟩] =
      "yes, true, {sent|case=upper}" := by cbv

end ModelValidation
