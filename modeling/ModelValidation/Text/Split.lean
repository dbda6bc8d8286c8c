/-!
# Searching and splitting a text

* `splitOnce_eq_some_iff`: a text splits where the separator first stands.
* `intercalate_split`: the pieces of a text, joined again, are the text.
* `split_append_sep`, `split_append_of_notMem`: a separator parts a text, and what has none goes with what follows.
-/

namespace ModelValidation.Text

/-- The stretch of text stands somewhere in the text. -/
def contains (stretch : List Char) : List Char → Bool
  | [] => stretch.isEmpty
  | c :: cs => stretch.isPrefixOf (c :: cs) || contains stretch cs

/-- What stands before and after the first separator, if there is one. -/
def splitOnce (sep : Char) : List Char → Option (List Char × List Char)
  | [] => none
  | c :: cs => if c = sep then some ([], cs) else (splitOnce sep cs).map fun (l, r) => (c :: l, r)

/-- The pieces between separators; a text without one is a single piece. -/
def split (sep : Char) : List Char → List (List Char)
  | [] => [[]]
  | c :: cs =>
    if c = sep then [] :: split sep cs
    else
      match split sep cs with
      | piece :: pieces => (c :: piece) :: pieces
      | [] => [[c]]

theorem splitOnce_eq_some_iff {sep : Char} {cs l r : List Char} :
    splitOnce sep cs = some (l, r) ↔ sep ∉ l ∧ cs = l ++ sep :: r := by
  induction cs generalizing l with
  | nil => simp [splitOnce]
  | cons c cs ih =>
    by_cases h : c = sep
    · subst h
      cases l with
      | nil => simp [splitOnce, eq_comm]
      | cons d l => simp only [splitOnce, ↓reduceIte]; grind
    · cases l with
      | nil => simp [splitOnce, h]
      | cons d l => simp only [splitOnce, h, ↓reduceIte, Option.map_eq_some_iff]; grind

theorem splitOnce_eq_none_iff {sep : Char} {cs : List Char} : splitOnce sep cs = none ↔ sep ∉ cs := by
  induction cs with
  | nil => simp [splitOnce]
  | cons c cs ih =>
    by_cases h : c = sep
    · simp [splitOnce, h]
    · simp [splitOnce, h, ih, Ne.symm h]

theorem split_ne_nil (sep : Char) (cs : List Char) : split sep cs ≠ [] := by
  cases cs with
  | nil => simp [split]
  | cons c cs =>
    simp only [split]
    split
    · simp
    · split <;> simp

theorem intercalate_split (sep : Char) (cs : List Char) : [sep].intercalate (split sep cs) = cs := by
  induction cs with
  | nil => rfl
  | cons c cs ih =>
    simp only [split]
    split
    · next h =>
      obtain ⟨p, ps, hp⟩ := List.exists_cons_of_ne_nil (split_ne_nil sep cs)
      rw [hp] at ih ⊢
      simp_all [List.intercalate]
    · next h =>
      obtain ⟨p, ps, hp⟩ := List.exists_cons_of_ne_nil (split_ne_nil sep cs)
      rw [hp] at ih ⊢
      cases ps <;> simp_all [List.intercalate]

/-- A separator parts a text into the pieces before it and the pieces behind it. -/
theorem split_append_sep (sep : Char) (l r : List Char) : split sep (l ++ sep :: r) = split sep l ++ split sep r := by
  induction l with
  | nil => simp [split]
  | cons c l ih =>
    obtain ⟨p, ps, hp⟩ := List.exists_cons_of_ne_nil (split_ne_nil sep l)
    by_cases h : c = sep <;> simp [split, h, ih, hp]

/-- What has no separator belongs to the first piece of what follows. -/
theorem split_append_of_notMem {sep : Char} {l : List Char} (h : sep ∉ l) (r : List Char) :
    split sep (l ++ r) = (split sep r).modifyHead (l ++ ·) := by
  induction l with
  | nil =>
    obtain ⟨p, ps, hp⟩ := List.exists_cons_of_ne_nil (split_ne_nil sep r)
    simp [hp]
  | cons c l ih =>
    rw [List.mem_cons, not_or] at h
    obtain ⟨p, ps, hp⟩ := List.exists_cons_of_ne_nil (split_ne_nil sep r)
    simp [split, Ne.symm h.1, ih h.2, hp]

theorem split_of_notMem {sep : Char} {cs : List Char} (h : sep ∉ cs) : split sep cs = [cs] := by
  have hcs := split_append_of_notMem h []
  rw [List.append_nil] at hcs
  rw [hcs, split, List.modifyHead_cons, List.append_nil]

theorem notMem_of_mem_split {sep : Char} {cs piece : List Char} (h : piece ∈ split sep cs) : sep ∉ piece := by
  induction cs generalizing piece with
  | nil =>
    rw [split, List.mem_singleton] at h
    rw [h]
    exact List.not_mem_nil
  | cons c cs ih =>
    obtain ⟨p, ps, hp⟩ := List.exists_cons_of_ne_nil (split_ne_nil sep cs)
    rw [hp] at ih
    rw [split, hp] at h
    split at h
    · next hc =>
      rcases List.mem_cons.1 h with rfl | h
      · exact List.not_mem_nil
      · exact ih h
    · next hc =>
      rcases List.mem_cons.1 h with rfl | h
      · rw [List.mem_cons, not_or]
        exact ⟨Ne.symm hc, ih List.mem_cons_self⟩
      · exact ih (List.mem_cons_of_mem p h)

/-- The pieces, each behind a separator, are the text behind one. -/
theorem flatMap_split (sep : Char) (cs : List Char) : (split sep cs).flatMap (sep :: ·) = sep :: cs := by
  induction cs with
  | nil => rfl
  | cons c cs ih =>
    obtain ⟨p, ps, hp⟩ := List.exists_cons_of_ne_nil (split_ne_nil sep cs)
    by_cases h : c = sep <;> simp_all [split]

end ModelValidation.Text
