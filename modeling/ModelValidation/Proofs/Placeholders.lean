import Mathlib.Data.List.Chain
import Mathlib.Data.List.TakeWhile
import ModelValidation.Template

/-!
# Placeholders in templates

The grammar of placeholders, said without the reader, and what the parts of a template are by it:

* `parse?_isSome_iff`: the texts between braces that the reader accepts are those of the grammar;
* `partsOf_append_placeholder`: a placeholder of the grammar parts a template into what the texts before and behind it
  are by themselves;
* `parts_exact`: the parts join to the source, literals are not empty and not side by side, and the placeholders are
  all stretches of the source that are placeholders of the grammar.
-/

namespace ModelValidation

open Text

namespace Placeholder

/-! ### The grammar -/

/-- A name is not empty and has letters, digits, underscores and points. -/
def IsName (cs : List Char) : Prop :=
  cs ≠ [] ∧ ∀ c ∈ cs, isAlphanumeric c = true ∨ c = '_' ∨ c = '.'

/-- A list of parameters begins with a key, and none of its keys is blank.  A key is what stands before the first
equals sign of a comma-separated segment; a segment without one belongs to the value before it. -/
structure ListsParameters (cs : List Char) : Prop where
  begins : ∃ segment segments, split ',' cs = segment :: segments ∧ '=' ∈ segment
  keys : ∀ key value, key ++ '=' :: value ∈ split ',' cs → '=' ∉ key → trim key ≠ []

/-- A name, perhaps with a bar and a list of parameters behind it; blanks around the name do not count. -/
def Reads (inner : List Char) : Prop :=
  ('|' ∉ inner ∧ IsName (trim inner)) ∨
    ∃ name list, inner = name ++ '|' :: list ∧ '|' ∉ name ∧ IsName (trim name) ∧ ListsParameters list

/-- What may stand between the braces of a placeholder. -/
def WellFormed (inner : List Char) : Prop :=
  '{' ∉ inner ∧ '}' ∉ inner ∧ Reads inner

/-! ### The reader and the grammar -/

theorem isName_iff {cs : List Char} : IsName cs ↔ ¬(cs = [] ∨ cs.all isNameChar = false) := by
  have hall : cs.all isNameChar = true ↔ ∀ c ∈ cs, isAlphanumeric c = true ∨ c = '_' ∨ c = '.' := by
    simp [List.all_eq_true, isNameChar, or_assoc]
  rw [IsName, not_or, Bool.not_eq_false, hall]

theorem splitOnce_cases (sep : Char) (cs : List Char) :
    (splitOnce sep cs = none ∧ sep ∉ cs) ∨ ∃ l r, splitOnce sep cs = some (l, r) ∧ sep ∉ l ∧ cs = l ++ sep :: r := by
  cases h : splitOnce sep cs with
  | none => exact Or.inl ⟨rfl, splitOnce_eq_none_iff.1 h⟩
  | some lr =>
    obtain ⟨l, r⟩ := lr
    exact Or.inr ⟨l, r, rfl, splitOnce_eq_some_iff.1 h⟩

/-- Each segment either begins a parameter with a key that is not blank, or it continues one. -/
def Continues (segment : List Char) : Prop :=
  ∀ key value, segment = key ++ '=' :: value → '=' ∉ key → trim key ≠ []

theorem addSegment_isSome_iff (read : List (List Char × List Char)) (segment : List Char) :
    (addSegment read segment).isSome ↔ Continues segment ∧ (read = [] → '=' ∈ segment) := by
  rcases splitOnce_cases '=' segment with ⟨hnone, hmem⟩ | ⟨key, value, hsome, hkey, rfl⟩
  · have hcontinues : Continues segment := by
      intro key value h
      exact absurd (h ▸ List.mem_append_right key List.mem_cons_self) hmem
    cases read with
    | nil => simp [addSegment, hnone, hmem]
    | cons p read => simp [addSegment, hnone, hcontinues]
  · have hcontinues : Continues (key ++ '=' :: value) ↔ trim key ≠ [] := by
      refine ⟨fun h => h key value rfl hkey, fun h key' value' heq hkey' => ?_⟩
      have hsome' := splitOnce_eq_some_iff.2 ⟨hkey', heq⟩
      rw [hsome] at hsome'
      cases hsome'
      exact h
    rw [hcontinues]
    by_cases hblank : trim key = [] <;> simp [addSegment, hsome, hblank]

theorem addSegment_ne_nil {read next : List (List Char × List Char)} {segment : List Char}
    (h : addSegment read segment = some next) : next ≠ [] := by
  unfold addSegment at h
  split at h
  · split at h
    · cases h
    · cases h
      exact List.cons_ne_nil _ _
  · split at h
    · cases h
      exact List.cons_ne_nil _ _
    · cases h

theorem foldlM_addSegment_isSome_iff (segments : List (List Char)) {read : List (List Char × List Char)}
    (hread : read ≠ []) : (segments.foldlM addSegment read).isSome ↔ ∀ segment ∈ segments, Continues segment := by
  induction segments generalizing read with
  | nil => simp
  | cons segment segments ih =>
    have hone := addSegment_isSome_iff read segment
    rw [List.foldlM_cons, List.forall_mem_cons]
    cases h : addSegment read segment with
    | none =>
      rw [h] at hone
      simp_all
    | some next =>
      rw [h] at hone
      have hsegment : Continues segment := (hone.1 rfl).1
      simpa [hsegment] using ih (addSegment_ne_nil h)

theorem parameters?_isSome_iff {cs : List Char} : (parameters? cs).isSome ↔ ListsParameters cs := by
  have hkeys : (∀ segment ∈ split ',' cs, Continues segment) ↔
      ∀ key value, key ++ '=' :: value ∈ split ',' cs → '=' ∉ key → trim key ≠ [] := by
    refine ⟨fun h key value hmem => h _ hmem key value rfl, ?_⟩
    rintro h _ hmem key value rfl
    exact h key value hmem
  obtain ⟨segment, segments, hsplit⟩ := List.exists_cons_of_ne_nil (split_ne_nil ',' cs)
  have hlists : ListsParameters cs ↔ '=' ∈ segment ∧ ∀ s ∈ segment :: segments, Continues s := by
    rw [← hsplit, hkeys]
    constructor
    · rintro ⟨⟨s, ss, hs, hmem⟩, hk⟩
      rw [hsplit] at hs
      cases hs
      exact ⟨hmem, hk⟩
    · rintro ⟨hmem, hk⟩
      exact ⟨⟨segment, segments, hsplit, hmem⟩, hk⟩
  have hone := addSegment_isSome_iff [] segment
  rw [hlists, parameters?, Option.isSome_map, hsplit, List.foldlM_cons, List.forall_mem_cons]
  cases h : addSegment [] segment with
  | none =>
    rw [h] at hone
    simp only [Option.isSome_none, Bool.false_eq_true, false_iff] at hone
    simp only [bind, Option.bind_none, Option.isSome_none, Bool.false_eq_true, false_iff]
    exact fun hc => hone ⟨hc.2.1, fun _ => hc.1⟩
  | some next =>
    rw [h] at hone
    obtain ⟨hsegment, hequals⟩ := hone.1 rfl
    simpa [hsegment, hequals rfl] using foldlM_addSegment_isSome_iff segments (addSegment_ne_nil h)

/-- **The reader accepts the texts of the grammar.** -/
theorem parse?_isSome_iff {inner : List Char} : (parse? inner).isSome ↔ Reads inner := by
  rcases splitOnce_cases '|' inner with ⟨hnone, hmem⟩ | ⟨name, list, hsome, hname, rfl⟩
  · have hreads : Reads inner ↔ IsName (trim inner) := by
      refine ⟨?_, fun h => Or.inl ⟨hmem, h⟩⟩
      rintro (⟨-, h⟩ | ⟨name, list, rfl, -⟩)
      · exact h
      · exact absurd (List.mem_append_right name List.mem_cons_self) hmem
    rw [hreads, isName_iff]
    simp only [parse?, halves, hnone]
    split
    · next h => simp only [Option.isSome_none, Bool.false_eq_true, h, not_true]
    · next h => simp only [Option.map_some, Option.isSome_some, h, not_false_iff]
  · have hreads : Reads (name ++ '|' :: list) ↔ IsName (trim name) ∧ ListsParameters list := by
      constructor
      · rintro (⟨h, -⟩ | ⟨name', list', heq, hname', h⟩)
        · exact absurd (List.mem_append_right name List.mem_cons_self) h
        · have hsome' := splitOnce_eq_some_iff.2 ⟨hname', heq⟩
          rw [hsome] at hsome'
          cases hsome'
          exact h
      · exact fun h => Or.inr ⟨name, list, rfl, hname, h⟩
    rw [hreads, isName_iff, ← parameters?_isSome_iff]
    simp only [parse?, halves, hsome]
    split
    · next h => simp only [Option.isSome_none, Bool.false_eq_true, h, not_true, false_and]
    · next h => simp only [Option.isSome_map, h, not_false_iff, true_and]

theorem inner_of_parse? {inner : List Char} {p : Placeholder} (h : parse? inner = some p) : p.inner.toList = inner := by
  simp only [parse?] at h
  split at h
  · cases h
  · obtain ⟨params, -, rfl⟩ := Option.map_eq_some_iff.1 h
    exact String.toList_ofList

theorem toList_raw (p : Placeholder) : p.raw.toList = '{' :: p.inner.toList ++ ['}'] := by
  rw [raw, String.toList_append, String.toList_append]
  rfl

theorem takeWhile_inner {inner rest : List Char} (hopen : '{' ∉ inner) (hclose : '}' ∉ inner) {c : Char}
    (hc : c = '{' ∨ c = '}') : (inner ++ c :: rest).takeWhile (fun c => c != '{' && c != '}') = inner := by
  have hall : ∀ d ∈ inner, (d != '{' && d != '}') = true := by
    intro d hd
    have hne : d ≠ '{' ∧ d ≠ '}' := ⟨fun h => hopen (h ▸ hd), fun h => hclose (h ▸ hd)⟩
    simpa using hne
  have hstop : (c != '{' && c != '}') = false := by
    rcases hc with rfl | rfl <;> rfl
  rw [List.takeWhile_append_of_pos hall, List.takeWhile_cons_of_neg (by simp [hstop]), List.append_nil]

/-- What the reader takes behind an opening brace goes up to the first brace, a closing one. -/
theorem read?_eq_some_iff {cs rest : List Char} {p : Placeholder} :
    read? cs = some (p, rest) ↔
      ∃ inner, cs = inner ++ '}' :: rest ∧ '{' ∉ inner ∧ '}' ∉ inner ∧ parse? inner = some p := by
  constructor
  · intro h
    simp only [read?] at h
    generalize hinner : cs.takeWhile (fun c => c != '{' && c != '}') = inner at h
    have hfree : ∀ c ∈ inner, c ≠ '{' ∧ c ≠ '}' := by
      intro c hc
      have := List.mem_takeWhile_imp (hinner ▸ hc)
      simpa using this
    have hcs : cs = inner ++ cs.drop inner.length := by
      have hprefix := List.takeWhile_prefix (l := cs) fun c => c != '{' && c != '}'
      rw [hinner] at hprefix
      exact (List.prefix_iff_eq_append.1 hprefix).symm
    split at h
    · next hd =>
      obtain ⟨q, hq, heq⟩ := Option.map_eq_some_iff.1 h
      cases heq
      exact ⟨inner, hd ▸ hcs, fun hc => (hfree _ hc).1 rfl, fun hc => (hfree _ hc).2 rfl, hq⟩
    · cases h
  · rintro ⟨inner, rfl, hopen, hclose, hparse⟩
    simp only [read?, takeWhile_inner hopen hclose (Or.inr rfl), List.drop_left', hparse]
    rfl

/-- A placeholder that is read stays when further text follows. -/
theorem read?_append {cs rest : List Char} {p : Placeholder} (h : read? cs = some (p, rest)) (more : List Char) :
    read? (cs ++ more) = some (p, rest ++ more) := by
  obtain ⟨inner, rfl, hopen, hclose, hparse⟩ := read?_eq_some_iff.1 h
  refine read?_eq_some_iff.2 ⟨inner, ?_, hopen, hclose, hparse⟩
  rw [List.append_assoc, List.cons_append]

/-- Where none is read, a further opening brace does not give one. -/
theorem read?_append_brace {cs : List Char} (h : read? cs = none) (more : List Char) :
    read? (cs ++ '{' :: more) = none := by
  rw [Option.eq_none_iff_forall_ne_some]
  rintro ⟨p, rest⟩ hread
  obtain ⟨inner, heq, hopen, hclose, hparse⟩ := read?_eq_some_iff.1 hread
  -- the closing brace stands in `cs`, or the text in front of it has the further opening brace
  rcases List.append_eq_append_iff.1 heq with ⟨as, hinner, hrest⟩ | ⟨bs, hcs, hrest⟩
  · cases as with
    | nil => cases hrest
    | cons a as =>
      rw [List.cons_append, List.cons.injEq] at hrest
      refine hopen ?_
      rw [hinner, ← hrest.1]
      exact List.mem_append_right cs List.mem_cons_self
  · cases bs with
    | nil => cases hrest
    | cons b bs =>
      rw [List.cons_append, List.cons.injEq] at hrest
      have hcs' : read? cs = some (p, bs) :=
        read?_eq_some_iff.2 ⟨inner, by rw [hcs, ← hrest.1], hopen, hclose, hparse⟩
      rw [h] at hcs'
      cases hcs'

end Placeholder

namespace Template

open Placeholder

/-! ### The parts of a text -/

/-- The part is literal text. -/
def Part.isLiteral : Part → Bool
  | .literal _ => true
  | .placeholder _ => false

/-- The part as it is written. -/
def Part.written : Part → List Char
  | .literal cs => cs
  | .placeholder p => p.raw.toList

theorem partsOf_nil : partsOf [] = [] := by
  rw [partsOf]

theorem partsOf_brace_of_some {cs rest : List Char} {p : Placeholder} (h : read? cs = some (p, rest)) :
    partsOf ('{' :: cs) = .placeholder p :: partsOf rest := by
  rw [partsOf, if_pos rfl]
  split
  · next h' =>
    rw [h] at h'
    cases h'
    rfl
  · next h' =>
    rw [h] at h'
    cases h'

theorem partsOf_brace_of_none {cs : List Char} (h : read? cs = none) : partsOf ('{' :: cs) = push '{' (partsOf cs) := by
  rw [partsOf, if_pos rfl]
  split
  · next h' =>
    rw [h] at h'
    cases h'
  · rfl

theorem partsOf_of_ne {c : Char} (hc : c ≠ '{') (cs : List Char) : partsOf (c :: cs) = push c (partsOf cs) := by
  rw [partsOf, if_neg hc]

/-- The parts of a text, one step at a time. -/
theorem partsOf_induction {motive : List Char → List Part → Prop} (nil : motive [] [])
    (placeholder : ∀ {cs rest p}, read? cs = some (p, rest) → motive rest (partsOf rest) →
      motive ('{' :: cs) (.placeholder p :: partsOf rest))
    (char : ∀ {c cs}, (c = '{' → read? cs = none) → motive cs (partsOf cs) → motive (c :: cs) (push c (partsOf cs)))
    (cs : List Char) : motive cs (partsOf cs) := by
  induction hn : cs.length using Nat.strong_induction_on generalizing cs with
  | _ n ih =>
    cases cs with
    | nil => rw [partsOf_nil]; exact nil
    | cons c cs =>
      subst hn
      have hrest := ih cs.length (Nat.lt_succ_self _) cs rfl
      by_cases hc : c = '{'
      · subst hc
        cases hread : read? cs with
        | some found =>
          obtain ⟨p, rest⟩ := found
          rw [partsOf_brace_of_some hread]
          have hlt := read?_shorter hread
          exact placeholder hread (ih rest.length (Nat.lt_succ_of_lt hlt) rest rfl)
        | none =>
          rw [partsOf_brace_of_none hread]
          exact char (fun _ => hread) hrest
      · rw [partsOf_of_ne hc]
        exact char (fun h => absurd h hc) hrest

theorem written_push (c : Char) (parts : List Part) :
    (push c parts).flatMap Part.written = c :: parts.flatMap Part.written := by
  rcases parts with _ | ⟨_ | _, parts⟩ <;> rfl

theorem placeholder_mem_push {c : Char} {p : Placeholder} {parts : List Part} :
    .placeholder p ∈ push c parts ↔ .placeholder p ∈ parts := by
  rcases parts with _ | ⟨_ | _, parts⟩ <;> simp [push]

theorem push_append_placeholder (c : Char) (ps : List Part) (p : Placeholder) (qs : List Part) :
    push c (ps ++ .placeholder p :: qs) = push c ps ++ .placeholder p :: qs := by
  rcases ps with _ | ⟨_ | _, ps⟩ <;> rfl

/-- **The parts written one after the other are the text.** -/
theorem written_partsOf (cs : List Char) : (partsOf cs).flatMap Part.written = cs := by
  induction cs using partsOf_induction with
  | nil => rfl
  | @placeholder cs rest p hread ih =>
    obtain ⟨inner, rfl, -, -, hparse⟩ := read?_eq_some_iff.1 hread
    rw [List.flatMap_cons, ih, Part.written, toList_raw, inner_of_parse? hparse]
    simp
  | char _ ih => rw [written_push, ih]

/-- **A placeholder parts a text into what stands before and behind it**, each with its own parts. -/
theorem partsOf_append_placeholder {inner : List Char} {p : Placeholder} (hopen : '{' ∉ inner) (hclose : '}' ∉ inner)
    (hparse : parse? inner = some p) (before after : List Char) :
    partsOf (before ++ '{' :: (inner ++ '}' :: after)) = partsOf before ++ .placeholder p :: partsOf after := by
  induction before using partsOf_induction with
  | nil => exact partsOf_brace_of_some (read?_eq_some_iff.2 ⟨inner, rfl, hopen, hclose, hparse⟩)
  | placeholder hread ih => rw [List.cons_append, partsOf_brace_of_some (read?_append hread _), ih, List.cons_append]
  | @char c cs hread ih =>
    have hstep : partsOf (c :: (cs ++ '{' :: (inner ++ '}' :: after))) =
        push c (partsOf (cs ++ '{' :: (inner ++ '}' :: after))) := by
      by_cases hc : c = '{'
      · subst hc
        exact partsOf_brace_of_none (read?_append_brace (hread rfl) _)
      · exact partsOf_of_ne hc _
    rw [List.cons_append, hstep, ih, push_append_placeholder]

theorem wellFormed_of_mem_partsOf {cs : List Char} {p : Placeholder} (h : .placeholder p ∈ partsOf cs) :
    WellFormed p.inner.toList := by
  induction cs using partsOf_induction with
  | nil => cases h
  | placeholder hread ih =>
    rcases List.mem_cons.1 h with heq | h
    · cases heq
      obtain ⟨inner, -, hopen, hclose, hparse⟩ := read?_eq_some_iff.1 hread
      have hreads : Reads inner := parse?_isSome_iff.1 (Option.isSome_of_eq_some hparse)
      rw [inner_of_parse? hparse]
      exact ⟨hopen, hclose, hreads⟩
    · exact ih h
  | char _ ih => exact ih (placeholder_mem_push.1 h)

/-! ### Literals -/

theorem literal_ne_nil {cs stretch : List Char} (h : .literal stretch ∈ partsOf cs) : stretch ≠ [] := by
  induction cs using partsOf_induction with
  | nil => cases h
  | placeholder _ ih =>
    rcases List.mem_cons.1 h with heq | h
    · cases heq
    · exact ih h
  | @char c cs _ ih =>
    generalize partsOf cs = parts at h ih
    rcases parts with _ | ⟨ds | _, parts⟩
    · rcases List.mem_singleton.1 h with heq
      cases heq
      exact List.cons_ne_nil _ _
    · rcases List.mem_cons.1 h with heq | h
      · cases heq
        exact List.cons_ne_nil _ _
      · exact ih (List.mem_cons_of_mem _ h)
    · rcases List.mem_cons.1 h with heq | h
      · cases heq
        exact List.cons_ne_nil _ _
      · exact ih h

/-- One of two parts is a placeholder. -/
def Apart (a b : Part) : Prop :=
  a.isLiteral = false ∨ b.isLiteral = false

theorem isChain_push (c : Char) {parts : List Part} (h : parts.IsChain Apart) : (push c parts).IsChain Apart := by
  rcases parts with _ | ⟨ds | p, parts⟩
  · exact List.isChain_singleton _
  · cases parts with
    | nil => exact List.isChain_singleton _
    | cons b parts =>
      rw [List.isChain_cons_cons] at h
      exact List.isChain_cons_cons.2 h
  · exact List.isChain_cons_cons.2 ⟨Or.inr rfl, h⟩

theorem isChain_partsOf (cs : List Char) : (partsOf cs).IsChain Apart := by
  induction cs using partsOf_induction with
  | nil => exact List.isChain_nil
  | @placeholder _ rest p _ ih =>
    generalize partsOf rest = parts at ih
    cases parts with
    | nil => exact List.isChain_singleton _
    | cons b parts => exact List.isChain_cons_cons.2 ⟨Or.inl rfl, ih⟩
  | char _ ih => exact isChain_push _ ih

/-! ### Templates -/

theorem render_part_nil (part : Part) : part.render [] = part.written := by
  cases part <;> rfl

theorem render_nil (t : Template) : t.render [] = t.source := by
  have hparts : t.parts.flatMap (·.render []) = t.parts.flatMap Part.written :=
    List.flatMap_congr fun part _ => render_part_nil part
  rw [render, hparts, parts, written_partsOf, String.ofList_toList]

/-- **The parts of a template are exact.**  They join to the source, literals are not empty and not side by side, and the
source can be cut around a placeholder of the grammar just where the parts can be cut around a placeholder with the
same text; so a template without arguments renders as its source. -/
theorem parts_exact (t : Template) :
    t.parts.flatMap Part.written = t.source.toList ∧
      (∀ stretch, .literal stretch ∈ t.parts → stretch ≠ []) ∧ t.parts.IsChain Apart ∧
      (∀ before inner after,
        (∃ ps p qs, t.parts = ps ++ .placeholder p :: qs ∧ ps.flatMap Part.written = before ∧
            p.inner.toList = inner ∧ qs.flatMap Part.written = after) ↔
          t.source.toList = before ++ '{' :: (inner ++ '}' :: after) ∧ WellFormed inner) ∧
      t.render [] = t.source := by
  refine ⟨written_partsOf _, fun _ => literal_ne_nil, isChain_partsOf _, fun before inner after => ?_, render_nil t⟩
  constructor
  · rintro ⟨ps, p, qs, hparts, rfl, rfl, rfl⟩
    have hmem : .placeholder p ∈ t.parts := by
      rw [hparts]
      exact List.mem_append_right ps List.mem_cons_self
    refine ⟨?_, wellFormed_of_mem_partsOf hmem⟩
    rw [← written_partsOf t.source.toList, ← parts, hparts, List.flatMap_append, List.flatMap_cons, Part.written,
      toList_raw]
    simp
  · rintro ⟨hsource, hopen, hclose, hreads⟩
    obtain ⟨p, hparse⟩ := Option.isSome_iff_exists.1 (parse?_isSome_iff.2 hreads)
    refine ⟨partsOf before, p, partsOf after, ?_, written_partsOf before, inner_of_parse? hparse, written_partsOf after⟩
    rw [parts, hsource, partsOf_append_placeholder hopen hclose hparse]

example : (Template.mk "{x{a}}").parts = [.literal ['{', 'x'], .placeholder ⟨"a", "a", []⟩, .literal ['}']] := by
  cbv

end Template

end ModelValidation
