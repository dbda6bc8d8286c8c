import Mathlib.Data.List.Induction
import ModelValidation.Proofs.Placeholders

/-!
# Lists of parameters

Parameters are written as `key=value` with commas between them, and a value may have commas of its own.  Such a text is
read segment by segment: a segment with an equals sign begins a parameter, one without it belongs to the value before.

* `parameters?_written`: parameters that are written out are read as what they are;
* `consumed_foldlM`: what has been read of some segments, written out with the blanks around the keys, is the segments;
* `parameter_lists_round_trip`: so reading and writing are inverse but for these blanks, and what cannot be read either
  begins without a parameter or has one with a blank key.
-/

namespace ModelValidation.Placeholder

open Text

/-! ### Writing -/

/-- A parameter as it is written. -/
def entry (p : List Char × List Char) : List Char := p.1 ++ '=' :: p.2

/-- Parameters as they are written. -/
def written (ps : List (List Char × List Char)) : List Char := [','].intercalate (ps.map entry)

/-- A parameter as its characters. -/
def spelled (p : String × String) : List Char × List Char := (p.1.toList, p.2.toList)

/-- A key is not empty and does not begin or end with a blank; it has no comma and no equals sign. -/
structure IsKey (cs : List Char) : Prop where
  ne_nil : cs ≠ []
  unpadded : Unpadded cs
  comma : ',' ∉ cs
  equals : '=' ∉ cs

/-- A value may have commas, but no equals sign behind the first of them. -/
def IsValue (cs : List Char) : Prop := ∀ segment ∈ (split ',' cs).tail, '=' ∉ segment

theorem isKey_trim {cs : List Char} (hne : trim cs ≠ []) (hcomma : ',' ∉ cs) (hequals : '=' ∉ cs) : IsKey (trim cs) :=
  ⟨hne, unpadded_trim cs, fun h => hcomma (mem_of_mem_trim h), fun h => hequals (mem_of_mem_trim h)⟩

/-- The parameters, each behind a comma, are the text behind one. -/
theorem flatMap_entry {ps : List (List Char × List Char)} (hps : ps ≠ []) :
    ps.flatMap (fun p => ',' :: entry p) = ',' :: written ps := by
  induction ps with
  | nil => exact absurd rfl hps
  | cons p ps ih =>
    cases ps with
    | nil => simp [written]
    | cons q ps =>
      rw [List.flatMap_cons, ih (List.cons_ne_nil _ _)]
      simp [written, List.intercalate_cons_cons]

/-! ### Reading what is written -/

/-- Segments without an equals sign belong to the value before them. -/
theorem foldlM_continue {segments : List (List Char)} (h : ∀ segment ∈ segments, '=' ∉ segment) (key value : List Char)
    (read : List (List Char × List Char)) :
    segments.foldlM addSegment ((key, value) :: read) =
      some ((key, value ++ segments.flatMap (',' :: ·)) :: read) := by
  induction segments generalizing value with
  | nil => simp
  | cons segment segments ih =>
    rw [List.forall_mem_cons] at h
    have hstep : addSegment ((key, value) :: read) segment = some ((key, value ++ ',' :: segment) :: read) := by
      rw [addSegment, splitOnce_eq_none_iff.2 h.1]
    rw [List.foldlM_cons, hstep]
    refine (ih h.2 _).trans ?_
    simp

theorem foldlM_entry {key value : List Char} (hkey : IsKey key) (hvalue : IsValue value)
    (read : List (List Char × List Char)) :
    (split ',' (entry (key, value))).foldlM addSegment read = some ((key, value) :: read) := by
  obtain ⟨first, rest, hsplit⟩ := List.exists_cons_of_ne_nil (split_ne_nil ',' value)
  have hentry : split ',' (entry (key, value)) = (key ++ '=' :: first) :: rest := by
    have hcomma : ',' ∉ key ++ ['='] := by simp [hkey.comma]
    have happend := split_append_of_notMem hcomma value
    rw [hsplit, List.modifyHead_cons, List.append_assoc, List.append_assoc] at happend
    exact happend
  have hfirst : addSegment read (key ++ '=' :: first) = some ((key, first) :: read) := by
    have honce : splitOnce '=' (key ++ '=' :: first) = some (key, first) :=
      splitOnce_eq_some_iff.2 ⟨hkey.equals, rfl⟩
    simp only [addSegment, honce, trim_of_unpadded hkey.unpadded, if_neg hkey.ne_nil]
  have hrest : ∀ segment ∈ rest, '=' ∉ segment := by
    rw [IsValue, hsplit] at hvalue
    exact hvalue
  have htext : first ++ rest.flatMap (',' :: ·) = value := by
    have hflat := flatMap_split ',' value
    rw [hsplit, List.flatMap_cons, List.cons_append] at hflat
    exact (List.cons.inj hflat).2
  rw [hentry, List.foldlM_cons, hfirst]
  refine (foldlM_continue hrest key first read).trans ?_
  rw [htext]

theorem foldlM_written {ps : List (List Char × List Char)} (hps : ps ≠ []) (h : ∀ p ∈ ps, IsKey p.1 ∧ IsValue p.2)
    (read : List (List Char × List Char)) :
    (split ',' (written ps)).foldlM addSegment read = some (ps.reverse ++ read) := by
  induction ps generalizing read with
  | nil => exact absurd rfl hps
  | cons p ps ih =>
    rw [List.forall_mem_cons] at h
    have hfirst := foldlM_entry h.1.1 h.1.2 read
    cases ps with
    | nil =>
      rw [written, List.map_singleton, List.intercalate_singleton]
      exact hfirst
    | cons q ps =>
      have hwritten : written (p :: q :: ps) = entry p ++ ',' :: written (q :: ps) := by
        simp [written, List.intercalate_cons_cons]
      rw [hwritten, split_append_sep, List.foldlM_append, hfirst]
      refine (ih (List.cons_ne_nil _ _) h.2 _).trans ?_
      simp

/-- **Parameters that are written out are read as what they are.** -/
theorem parameters?_written {ps : Parameters} (hps : ps ≠ []) (h : ∀ p ∈ ps, IsKey p.1.toList ∧ IsValue p.2.toList) :
    parameters? (written (ps.map spelled)) = some ps := by
  have hne : ps.map spelled ≠ [] := fun hnil => hps (List.map_eq_nil_iff.1 hnil)
  have hspelled : ∀ p ∈ ps.map spelled, IsKey p.1 ∧ IsValue p.2 := List.forall_mem_map.2 h
  have hback : (fun p : List Char × List Char => (String.ofList p.1, String.ofList p.2)) ∘ spelled = id := by
    funext p
    simp [spelled]
  rw [parameters?, foldlM_written hne hspelled, Option.map_some, List.append_nil, List.reverse_reverse, List.map_map]
  exact congrArg some ((congrArg (List.map · ps) hback).trans (List.map_id ps))

/-! ### Writing what is read -/

/-- The text stands there with blanks around it. -/
def Padded (cs padded : List Char) : Prop :=
  ∃ before after, padded = before ++ cs ++ after ∧ (∀ c ∈ before, isBlank c = true) ∧ ∀ c ∈ after, isBlank c = true

/-- The parameters read of segments, the last one first: written out with the blanks that stood around the keys, they
are the segments. -/
def Consumed (segments : List (List Char)) (read : List (List Char × List Char)) : Prop :=
  ∃ padded : List (List Char × List Char), read = padded.map (fun p => (trim p.1, p.2)) ∧
    padded.reverse.flatMap (fun p => ',' :: entry p) = segments.flatMap (',' :: ·) ∧
    ∀ p ∈ padded, IsKey (trim p.1) ∧ IsValue p.2

theorem Consumed.step {segments : List (List Char)} {read next : List (List Char × List Char)}
    (h : Consumed segments read) {segment : List Char} (hcomma : ',' ∉ segment)
    (hnext : addSegment read segment = some next) : Consumed (segments ++ [segment]) next := by
  obtain ⟨padded, rfl, htext, hpadded⟩ := h
  rcases splitOnce_cases '=' segment with ⟨hnone, hequals⟩ | ⟨key, value, hsome, hequals, rfl⟩
  · -- the segment goes on with the value before it
    cases padded with
    | nil => simp [addSegment, hnone] at hnext
    | cons p padded =>
      simp only [addSegment, hnone, List.map_cons, Option.some.injEq] at hnext
      rw [List.forall_mem_cons] at hpadded
      have hvalue : IsValue (p.2 ++ ',' :: segment) := by
        obtain ⟨first, rest, hsplit⟩ := List.exists_cons_of_ne_nil (split_ne_nil ',' p.2)
        have hrest := hpadded.1.2
        rw [IsValue, hsplit] at hrest
        rw [IsValue, split_append_sep, split_of_notMem hcomma, hsplit]
        exact List.forall_mem_append.2 ⟨hrest, List.forall_mem_singleton.2 hequals⟩
      refine ⟨(p.1, p.2 ++ ',' :: segment) :: padded, hnext.symm, ?_,
        List.forall_mem_cons.2 ⟨⟨hpadded.1.1, hvalue⟩, hpadded.2⟩⟩
      rw [List.flatMap_append, ← htext]
      simp [entry]
  · -- the segment begins a parameter
    by_cases hblank : trim key = []
    · simp [addSegment, hsome, hblank] at hnext
    · simp only [addSegment, hsome, hblank, ↓reduceIte, Option.some.injEq] at hnext
      rw [List.mem_append, List.mem_cons, not_or, not_or] at hcomma
      have hkey : IsKey (trim key) := isKey_trim hblank hcomma.1 hequals
      have hvalue : IsValue value := by
        rw [IsValue, split_of_notMem hcomma.2.2]
        exact List.forall_mem_nil _
      refine ⟨(key, value) :: padded, hnext.symm, ?_, List.forall_mem_cons.2 ⟨⟨hkey, hvalue⟩, hpadded⟩⟩
      rw [List.flatMap_append, ← htext]
      simp [entry]

/-- **Nothing is lost of the segments that have been read.** -/
theorem consumed_foldlM {segments : List (List Char)} (hcomma : ∀ segment ∈ segments, ',' ∉ segment)
    {read : List (List Char × List Char)} (h : segments.foldlM addSegment [] = some read) : Consumed segments read := by
  induction segments using List.reverseRecOn generalizing read with
  | nil =>
    cases h
    exact ⟨[], rfl, rfl, List.forall_mem_nil _⟩
  | append_singleton segments segment ih =>
    rw [List.forall_mem_append, List.forall_mem_singleton] at hcomma
    rw [List.foldlM_append, Option.bind_eq_bind, Option.bind_eq_some_iff] at h
    obtain ⟨before, hbefore, hlast⟩ := h
    have hstep : addSegment before segment = some read := by
      simpa only [List.foldlM_cons, List.foldlM_nil, bind_pure] using hlast
    exact (ih hcomma.1 hbefore).step hcomma.2 hstep

/-- What is read of a text is written as the text, but for the blanks around the keys. -/
theorem parameters?_eq_some {cs : List Char} {ps : Parameters} (h : parameters? cs = some ps) :
    ps ≠ [] ∧ (∀ p ∈ ps, IsKey p.1.toList ∧ IsValue p.2.toList) ∧
      ∃ padded, cs = written padded ∧
        List.Forall₂ (fun p q => Padded p.1.toList q.1 ∧ q.2 = p.2.toList) ps padded := by
  obtain ⟨read, hread, hps⟩ := Option.map_eq_some_iff.1 h
  obtain ⟨padded, rfl, htext, hpadded⟩ := consumed_foldlM (fun _ => notMem_of_mem_split) hread
  rw [flatMap_split] at htext
  have hne : padded.reverse ≠ [] := by
    intro hnil
    rw [hnil] at htext
    cases htext
  rw [← List.map_reverse, List.map_map] at hps
  subst hps
  refine ⟨fun hnil => hne (List.map_eq_nil_iff.1 hnil), ?_, padded.reverse, ?_, ?_⟩
  · refine List.forall_mem_map.2 fun p hp => ?_
    simpa using hpadded p (List.mem_reverse.1 hp)
  · rw [flatMap_entry hne] at htext
    exact (List.cons.inj htext).2.symm
  · rw [List.forall₂_map_left_iff, List.forall₂_same]
    intro p _
    obtain ⟨before, after, hkey, hbefore, hafter⟩ := exists_padding p.1
    refine ⟨⟨before, after, ?_, hbefore, hafter⟩, ?_⟩
    · simpa using hkey
    · simp

/-- A text is refused if it does not begin with a parameter, or if the key of some parameter is blank. -/
theorem parameters?_eq_none_iff {cs : List Char} : parameters? cs = none ↔
    (∃ first rest, split ',' cs = first :: rest ∧ '=' ∉ first) ∨
      ∃ key value, key ++ '=' :: value ∈ split ',' cs ∧ '=' ∉ key ∧ ∀ c ∈ key, isBlank c = true := by
  obtain ⟨first, rest, hsplit⟩ := List.exists_cons_of_ne_nil (split_ne_nil ',' cs)
  rw [← Option.not_isSome_iff_eq_none, parameters?_isSome_iff]
  constructor
  · intro h
    by_cases hfirst : '=' ∈ first
    · refine Or.inr (by_contra fun hblank => h ⟨⟨first, rest, hsplit, hfirst⟩, ?_⟩)
      intro key value hmem hequals hnil
      exact hblank ⟨key, value, hmem, hequals, trim_eq_nil_iff.1 hnil⟩
    · exact Or.inl ⟨first, rest, hsplit, hfirst⟩
  · rintro (⟨first', rest', hsplit', hfirst⟩ | ⟨key, value, hmem, hequals, hblank⟩) ⟨⟨_, _, hsplit'', hbegins⟩, hkeys⟩
    · rw [hsplit'] at hsplit''
      cases hsplit''
      exact hfirst hbegins
    · exact hkeys key value hmem hequals (trim_eq_nil_iff.2 hblank)

/-- **Writing and reading lists of parameters are inverse.**  Parameters with keys and values that can be told apart are
read back from what is written.  A text is refused just if its first segment has no equals sign or some segment with
one has a blank key.  What is read of any other text is some parameters with such keys and values, which are written as
that text, but for blanks around the keys. -/
theorem parameter_lists_round_trip :
    (∀ ps : Parameters, ps ≠ [] → (∀ p ∈ ps, IsKey p.1.toList ∧ IsValue p.2.toList) →
      parameters? (written (ps.map spelled)) = some ps) ∧
    ∀ cs : List Char,
      (parameters? cs = none ↔
        (∃ first rest, split ',' cs = first :: rest ∧ '=' ∉ first) ∨
          ∃ key value, key ++ '=' :: value ∈ split ',' cs ∧ '=' ∉ key ∧ ∀ c ∈ key, isBlank c = true) ∧
      ∀ ps, parameters? cs = some ps →
        ps ≠ [] ∧ (∀ p ∈ ps, IsKey p.1.toList ∧ IsValue p.2.toList) ∧
          ∃ padded, cs = written padded ∧
            List.Forall₂ (fun p q => Padded p.1.toList q.1 ∧ q.2 = p.2.toList) ps padded :=
  ⟨fun _ => parameters?_written, fun _ => ⟨parameters?_eq_none_iff, fun _ => parameters?_eq_some⟩⟩

/-- A format with commas, and a culture. -/
def formatAndCulture : Parameters := [("format", "#,##0.00,"), ("culture", "de-DE")]

theorem parameter_lists_round_trip_format :
    parameters? (written (formatAndCulture.map spelled)) = some formatAndCulture ∧
    parameters? " format=#,##0.00,, culture =de-DE".toList = some formatAndCulture ∧
    (∃ padded, " format=#,##0.00,, culture =de-DE".toList = written padded ∧
      List.Forall₂ (fun p q => Padded p.1.toList q.1 ∧ q.2 = p.2.toList) formatAndCulture padded) ∧
    parameters? "format=N2, =x".toList = none := by
  have hkeys : ∀ p ∈ formatAndCulture, IsKey p.1.toList ∧ IsValue p.2.toList := by
    refine List.forall_mem_cons.2 ⟨?_, List.forall_mem_singleton.2 ?_⟩
    · exact ⟨isKey_trim (by decide : trim "format".toList ≠ []) (by decide) (by decide), by unfold IsValue; decide⟩
    · exact ⟨isKey_trim (by decide : trim "culture".toList ≠ []) (by decide) (by decide), by unfold IsValue; decide⟩
  have hread : parameters? " format=#,##0.00,, culture =de-DE".toList = some formatAndCulture := by cbv
  obtain ⟨hwrite, hback⟩ := parameter_lists_round_trip
  obtain ⟨-, -, hpadded⟩ := (hback _).2 _ hread
  refine ⟨hwrite _ (List.cons_ne_nil _ _) hkeys, hread, hpadded, (hback _).1.2 (Or.inr ⟨[' '], ['x'], ?_⟩)⟩
  exact ⟨by decide, by decide, List.forall_mem_singleton.2 rfl⟩

end ModelValidation.Placeholder
