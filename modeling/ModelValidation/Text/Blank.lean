/-!
# Blank characters

The characters with the Unicode property `White_Space`, and the removal of those at the two ends of a text.

* `exists_padding`, `unpadded_trim`: trimming takes blanks away at the two ends, and all of them.
* `trim_of_unpadded`, `trim_eq_nil_iff`: the texts that it leaves as they are, and those of which it leaves nothing.
-/

namespace ModelValidation.Text

/-- White space of every script. -/
def isBlank (c : Char) : Bool :=
  let n := c.toNat
  (0x09 ≤ n && n ≤ 0x0D) || n == 0x20 || n == 0x85 || n == 0xA0 || n == 0x1680 || (0x2000 ≤ n && n ≤ 0x200A) ||
    n == 0x2028 || n == 0x2029 || n == 0x202F || n == 0x205F || n == 0x3000

/-- The text without the blanks at its ends. -/
def trim (cs : List Char) : List Char :=
  ((cs.dropWhile isBlank).reverse.dropWhile isBlank).reverse

/-- The string without the blanks at its ends. -/
def trimmed (s : String) : String :=
  String.ofList (trim s.toList)

/-- The string holds nothing but blanks. -/
def isBlankText (s : String) : Bool :=
  s.toList.all isBlank

/-! ### Trimming -/

/-- Neither the first nor the last character is blank. -/
def Unpadded (cs : List Char) : Prop :=
  (∀ c ∈ cs.head?, isBlank c = false) ∧ ∀ c ∈ cs.getLast?, isBlank c = false

theorem isBlank_of_mem_head?_dropWhile {cs : List Char} {c : Char} (h : c ∈ (cs.dropWhile isBlank).head?) :
    isBlank c = false := by
  have hnot := List.head?_dropWhile_not isBlank cs
  rw [Option.mem_def.1 h] at hnot
  exact hnot

theorem exists_dropWhile_eq_trim_append (cs : List Char) :
    ∃ after, cs.dropWhile isBlank = trim cs ++ after ∧ ∀ c ∈ after, isBlank c = true := by
  generalize hrest : (cs.dropWhile isBlank).reverse = rest
  have hsplit : rest.takeWhile isBlank ++ rest.dropWhile isBlank = rest := List.takeWhile_append_dropWhile
  refine ⟨(rest.takeWhile isBlank).reverse, ?_, fun c hc => ?_⟩
  · rw [trim, hrest, ← List.reverse_append, hsplit, ← hrest, List.reverse_reverse]
  · exact List.all_eq_true.1 List.all_takeWhile c (List.mem_reverse.1 hc)

/-- What trimming takes away are blanks at the two ends. -/
theorem exists_padding (cs : List Char) : ∃ before after, cs = before ++ trim cs ++ after ∧
    (∀ c ∈ before, isBlank c = true) ∧ ∀ c ∈ after, isBlank c = true := by
  obtain ⟨after, hdrop, hafter⟩ := exists_dropWhile_eq_trim_append cs
  refine ⟨cs.takeWhile isBlank, after, ?_, List.all_eq_true.1 List.all_takeWhile, hafter⟩
  rw [List.append_assoc, ← hdrop, List.takeWhile_append_dropWhile]

theorem mem_of_mem_trim {c : Char} {cs : List Char} (h : c ∈ trim cs) : c ∈ cs := by
  obtain ⟨before, after, hcs, -⟩ := exists_padding cs
  rw [hcs]
  exact List.mem_append_left after (List.mem_append_right before h)

theorem unpadded_trim (cs : List Char) : Unpadded (trim cs) := by
  constructor
  · intro c hc
    obtain ⟨after, hdrop, -⟩ := exists_dropWhile_eq_trim_append cs
    have hfirst : c ∈ (cs.dropWhile isBlank).head? := by
      rw [hdrop, List.head?_append, Option.mem_def.1 hc]
      rfl
    exact isBlank_of_mem_head?_dropWhile hfirst
  · intro c hc
    rw [trim, List.getLast?_reverse] at hc
    exact isBlank_of_mem_head?_dropWhile hc

theorem trim_of_unpadded {cs : List Char} (h : Unpadded cs) : trim cs = cs := by
  have hfirst : cs.dropWhile isBlank = cs := by
    cases cs with
    | nil => rfl
    | cons c cs => exact List.dropWhile_cons_of_neg (by simp [h.1 c rfl])
  have hlast : cs.reverse.dropWhile isBlank = cs.reverse := by
    cases hcs : cs.reverse with
    | nil => rfl
    | cons c rest =>
      have hc : isBlank c = false := h.2 c (by rw [← List.head?_reverse, hcs]; rfl)
      exact List.dropWhile_cons_of_neg (by simp [hc])
  rw [trim, hfirst, hlast, List.reverse_reverse]

theorem trim_eq_nil_iff {cs : List Char} : trim cs = [] ↔ ∀ c ∈ cs, isBlank c = true := by
  constructor
  · intro h
    obtain ⟨before, after, hcs, hbefore, hafter⟩ := exists_padding cs
    rw [h, List.append_nil] at hcs
    rw [hcs]
    exact List.forall_mem_append.2 ⟨hbefore, hafter⟩
  · intro h
    have hnil : (cs ++ []).dropWhile isBlank = [].dropWhile isBlank := List.dropWhile_append_of_pos h
    rw [List.append_nil] at hnil
    rw [trim, hnil]
    rfl

end ModelValidation.Text
