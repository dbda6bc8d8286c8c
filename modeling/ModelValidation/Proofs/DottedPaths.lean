import ModelValidation.Phrasebook
import ModelValidation.Report

/-!
# Dotted paths

Reports and dictionaries name a place by the keys on the way to it, which are taken one after another with points
between them.  Empty keys at the front leave no trace, and a key may have points of its own:

* `foldl_pathOf`: what the keys come to, one after another;
* `dotted_of_notMem`: keys that are not empty are joined by points;
* `dotted_injective`: from such a path keys without points can be told.
-/

namespace ModelValidation

/-- Keys joined by points, without the empty ones at the front. -/
def dotted (keys : List String) : String :=
  ".".intercalate (keys.dropWhile (· = ""))

theorem dotted_cons_empty (keys : List String) : dotted ("" :: keys) = dotted keys := by
  simp [dotted]

theorem dotted_cons {key : String} (h : key ≠ "") (keys : List String) :
    dotted (key :: keys) = ".".intercalate (key :: keys) := by
  simp [dotted, h]

/-- Keys behind a path that is not empty. -/
theorem foldl_pathOf_of_ne {path : String} (h : path ≠ "") (keys : List String) :
    keys.foldl Report.pathOf path = ".".intercalate (path :: keys) := by
  induction keys generalizing path with
  | nil => simp
  | cons key keys ih =>
    have hjoined : Report.pathOf path key = path ++ "." ++ key := if_neg h
    have hne : path ++ "." ++ key ≠ "" := by simp [h]
    rw [List.foldl_cons, hjoined, ih hne, String.intercalate_cons_append, String.intercalate_cons_cons,
      String.append_assoc]

/-- **Keys taken one after another come to their dotted path.** -/
theorem foldl_pathOf (keys : List String) : keys.foldl Report.pathOf "" = dotted keys := by
  induction keys with
  | nil => rfl
  | cons key keys ih =>
    have hfirst : Report.pathOf "" key = key := if_pos rfl
    rw [List.foldl_cons, hfirst]
    by_cases h : key = ""
    · rw [h, ih, dotted_cons_empty]
    · rw [foldl_pathOf_of_ne h, dotted_cons h]

/-- The paths of phrases are made as those of messages are. -/
theorem pathOf_eq : Phrasebook.pathOf = Report.pathOf := rfl

/-! ### Keys that are not empty -/

theorem dotted_of_notMem {keys : List String} (h : "" ∉ keys) : dotted keys = ".".intercalate keys := by
  cases keys with
  | nil => rfl
  | cons key keys => exact dotted_cons (fun hkey => h (hkey ▸ List.mem_cons_self)) keys

/-- A key that is not empty and has no point. -/
def IsPlainKey (key : String) : Prop := key ≠ "" ∧ '.' ∉ key.toList

instance (key : String) : Decidable (IsPlainKey key) :=
  inferInstanceAs (Decidable (key ≠ "" ∧ '.' ∉ key.toList))

/-- **Plain keys can be told from their dotted path.** -/
theorem dotted_injective {ks js : List String} (hks : ∀ k ∈ ks, IsPlainKey k) (hjs : ∀ j ∈ js, IsPlainKey j)
    (h : dotted ks = dotted js) : ks = js := by
  have hempty {keys : List String} (hkeys : ∀ k ∈ keys, IsPlainKey k) : "" ∉ keys := fun hmem => (hkeys _ hmem).1 rfl
  have hpieces {keys : List String} (hkeys : ∀ k ∈ keys, IsPlainKey k) :=
    String.toList_split_intercalate fun k hk => (hkeys k hk).2
  have hpoint : String.singleton '.' = "." := rfl
  rw [dotted_of_notMem (hempty hks), dotted_of_notMem (hempty hjs), ← hpoint] at h
  have hsplit : (if ks = [] then [""] else ks) = if js = [] then [""] else js := by
    rw [← hpieces hks, h, hpieces hjs]
  -- the path without keys splits into one piece, which is no key
  split at hsplit
  · next hnil =>
    split at hsplit
    · next hnil' => rw [hnil, hnil']
    · exact absurd (hsplit ▸ List.mem_singleton_self "") (hempty hjs)
  · split at hsplit
    · exact absurd (hsplit ▸ List.mem_singleton_self "") (hempty hks)
    · exact hsplit

end ModelValidation
