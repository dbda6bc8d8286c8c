/-!
# Maps in insertion order

A map is a list of pairs with distinct keys.  A key that is written again keeps its place.

* `get?_upsert`: what a key holds after a write.
* `get?_of_mem`, `get?_of_notMem`: what a key holds, or that it holds nothing.
* `upsert_of_notMem`: a write at a new key goes behind all others.
* `keys_upsert`: the keys after a write, in their order.
* `upsert_upsert`, `upsert_comm`: two writes at one key are one, and a write at a key that is there commutes with
  a write at another key.
* `get?_reverse`: the last pair with a key, as the first one from behind.
* `get?_putAll`: after many writes a key holds what the last one of them wrote.
-/

namespace ModelValidation.Keyed

variable {α : Type}

/-- What the first pair with the key holds. -/
def get? (key : String) : List (String × α) → Option α
  | [] => none
  | (k, a) :: rest => if k = key then some a else get? key rest

/-- Writes what `f` makes of the value that the key holds so far. -/
def upsert (key : String) (f : Option α → α) : List (String × α) → List (String × α)
  | [] => [(key, f none)]
  | (k, a) :: rest => if k = key then (k, f (some a)) :: rest else (k, a) :: upsert key f rest

/-- Writes a value. -/
def put (key : String) (a : α) (entries : List (String × α)) : List (String × α) :=
  upsert key (fun _ => a) entries

/-- Writes pairs one after another. -/
def putAll (pairs entries : List (String × α)) : List (String × α) :=
  pairs.foldl (fun entries (key, a) => put key a entries) entries

theorem get?_cons_self (key : String) (a : α) (rest : List (String × α)) : get? key ((key, a) :: rest) = some a :=
  if_pos rfl

theorem get?_upsert (key k : String) (f : Option α → α) (entries : List (String × α)) :
    get? k (upsert key f entries) = if k = key then some (f (get? key entries)) else get? k entries := by
  induction entries with
  | nil => grind [upsert, get?]
  | cons e rest ih => grind [upsert, get?]

theorem get?_of_mem {key : String} {a : α} {entries : List (String × α)} (h : (entries.map Prod.fst).Nodup)
    (hmem : (key, a) ∈ entries) : get? key entries = some a := by
  induction entries with
  | nil => cases hmem
  | cons e rest ih =>
    rw [List.map_cons, List.nodup_cons] at h
    rcases List.mem_cons.1 hmem with rfl | hmem
    · exact if_pos rfl
    · have he : e.1 ≠ key := by
        intro he
        exact h.1 (he ▸ List.mem_map_of_mem hmem)
      rw [get?, if_neg he, ih h.2 hmem]

theorem get?_of_notMem {key : String} {entries : List (String × α)} (h : key ∉ entries.map Prod.fst) :
    get? key entries = none := by
  induction entries with
  | nil => rfl
  | cons e rest ih =>
    rw [List.map_cons, List.mem_cons, not_or] at h
    rw [get?, if_neg (Ne.symm h.1), ih h.2]

theorem upsert_of_notMem {key : String} (f : Option α → α) {entries : List (String × α)}
    (h : key ∉ entries.map Prod.fst) : upsert key f entries = entries ++ [(key, f none)] := by
  induction entries with
  | nil => rfl
  | cons e rest ih =>
    rw [List.map_cons, List.mem_cons, not_or] at h
    have he : e.1 ≠ key := Ne.symm h.1
    simp [upsert, he, ih h.2]

theorem keys_upsert (key : String) (f : Option α → α) (entries : List (String × α)) :
    (upsert key f entries).map Prod.fst =
      if key ∈ entries.map Prod.fst then entries.map Prod.fst else entries.map Prod.fst ++ [key] := by
  induction entries with
  | nil => simp [upsert]
  | cons e rest ih =>
    by_cases h : e.1 = key
    · simp [upsert, h]
    · simp only [upsert, h, ↓reduceIte, List.map_cons, ih, List.mem_cons, Ne.symm h, false_or]
      split <;> simp

theorem mem_keys_upsert {j key : String} {f : Option α → α} {entries : List (String × α)} :
    j ∈ (upsert key f entries).map Prod.fst ↔ j = key ∨ j ∈ entries.map Prod.fst := by
  rw [keys_upsert]
  split
  · next h => exact ⟨Or.inr, fun hj => hj.elim (fun e => e ▸ h) id⟩
  · simp [or_comm]

theorem nodup_keys_upsert (key : String) (f : Option α → α) {entries : List (String × α)}
    (h : (entries.map Prod.fst).Nodup) : ((upsert key f entries).map Prod.fst).Nodup := by
  rw [keys_upsert]
  split
  · exact h
  · next hk =>
    refine List.nodup_append.2 ⟨h, by simp, ?_⟩
    intro a ha b hb hab
    rw [List.mem_singleton] at hb
    exact hk (hb ▸ hab ▸ ha)

theorem upsert_upsert (key : String) (f g : Option α → α) (entries : List (String × α)) :
    upsert key g (upsert key f entries) = upsert key (fun old => g (some (f old))) entries := by
  induction entries with
  | nil => simp [upsert]
  | cons e rest ih => by_cases h : e.1 = key <;> simp [upsert, h, ih]

theorem upsert_comm {j key : String} (hj : j ≠ key) (f g : Option α → α) {entries : List (String × α)}
    (hk : key ∈ entries.map Prod.fst) :
    upsert j g (upsert key f entries) = upsert key f (upsert j g entries) := by
  induction entries with
  | nil => simp at hk
  | cons e rest ih =>
    by_cases h : e.1 = key
    · simp [upsert, h, Ne.symm hj]
    · have hr : key ∈ rest.map Prod.fst := by
        rcases List.mem_cons.1 hk with he | hr
        · exact absurd he.symm h
        · exact hr
      by_cases h' : e.1 = j <;> simp [upsert, h, h', hj, ih hr]

theorem get?_eq_none_iff {key : String} {entries : List (String × α)} :
    get? key entries = none ↔ key ∉ entries.map Prod.fst := by
  refine ⟨fun h hmem => ?_, get?_of_notMem⟩
  induction entries with
  | nil => exact List.not_mem_nil hmem
  | cons e rest ih =>
    by_cases he : e.1 = key
    · rw [get?, if_pos he] at h
      cases h
    · rw [get?, if_neg he] at h
      rcases List.mem_cons.1 hmem with hkey | hmem
      · exact he hkey.symm
      · exact ih h hmem

/-! ### Many writes -/

theorem get?_append (key : String) (before after : List (String × α)) :
    get? key (before ++ after) = (get? key before).or (get? key after) := by
  induction before with
  | nil => rfl
  | cons e rest ih => by_cases h : e.1 = key <;> simp [get?, h, ih]

theorem get?_map {β : Type} (key : String) (f : α → β) (entries : List (String × α)) :
    get? key (entries.map fun e => (e.1, f e.2)) = (get? key entries).map f := by
  induction entries with
  | nil => rfl
  | cons e rest ih => by_cases h : e.1 = key <;> simp [get?, h, ih]

theorem get?_eq_some_iff {key : String} {a : α} {entries : List (String × α)} :
    get? key entries = some a ↔
      ∃ before after, entries = before ++ (key, a) :: after ∧ key ∉ before.map Prod.fst := by
  constructor
  · intro h
    induction entries with
    | nil => cases h
    | cons e rest ih =>
      by_cases he : e.1 = key
      · rw [get?, if_pos he] at h
        obtain rfl : e = (key, a) := Prod.ext he (Option.some.inj h)
        exact ⟨[], rest, rfl, List.not_mem_nil⟩
      · rw [get?, if_neg he] at h
        obtain ⟨before, after, rfl, hbefore⟩ := ih h
        refine ⟨e :: before, after, rfl, fun hmem => ?_⟩
        rcases List.mem_cons.1 hmem with hkey | hmem
        · exact he hkey.symm
        · exact hbefore hmem
  · rintro ⟨before, after, rfl, hbefore⟩
    rw [get?_append, get?_of_notMem hbefore, Option.none_or, get?, if_pos rfl]

theorem get?_eq_find? (key : String) (entries : List (String × α)) :
    get? key entries = (entries.find? (·.1 = key)).map Prod.snd := by
  induction entries with
  | nil => rfl
  | cons e rest ih => by_cases h : e.1 = key <;> simp [get?, h, ih]

/-- Backwards the last pair with the key comes first. -/
theorem get?_reverse (key : String) (entries : List (String × α)) :
    get? key entries.reverse = (entries.filter (·.1 = key)).getLast?.map Prod.snd := by
  rw [get?_eq_find?, ← List.head?_filter, List.filter_reverse, List.head?_reverse]

theorem putAll_append (pairs more entries : List (String × α)) :
    putAll (pairs ++ more) entries = putAll more (putAll pairs entries) :=
  List.foldl_append

theorem get?_putAll (key : String) (pairs entries : List (String × α)) :
    get? key (putAll pairs entries) = (get? key pairs.reverse).or (get? key entries) := by
  induction pairs generalizing entries with
  | nil => rfl
  | cons e rest ih =>
    have hput : get? key (put e.1 e.2 entries) = (get? key [e]).or (get? key entries) := by
      rw [put, get?_upsert]
      by_cases h : key = e.1
      · simp [get?, h]
      · simp [get?, h, Ne.symm h]
    have hrest : putAll (e :: rest) entries = putAll rest (put e.1 e.2 entries) := rfl
    rw [hrest, ih, hput, List.reverse_cons, get?_append, Option.or_assoc]

end ModelValidation.Keyed
