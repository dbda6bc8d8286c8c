import ModelValidation.Power
import ModelValidation.Text.Blank
import ModelValidation.Text.Folding
import ModelValidation.Text.Word

/-!
# Patterns of texts

Regular expressions over characters, and the texts that they match.  The places of a text are the gaps in front of its
characters and the one behind the last.  A pattern takes a set of places to the places where a match that begins at
one of them may end; it matches a text if some match begins anywhere.
-/

namespace ModelValidation

/-! ### Sets of characters -/

/-- The classes with a letter of their own. -/
inductive CharClass where
  | digit
  | word
  | space
  deriving DecidableEq, Repr

/-- The character is of the class. -/
def CharClass.holds : CharClass → Char → Bool
  | .digit, c => Text.isDecimalDigit c
  | .word, c => Text.isWordChar c
  | .space, c => Text.isBlank c

/-- A set of characters. -/
inductive CharSet where
  | none
  /-- The characters between two, perhaps without regard to case. -/
  | range (first last : Char) (ignoreCase : Bool)
  | ofClass (kind : CharClass)
  | complement (a : CharSet)
  | union (a b : CharSet)
  | intersection (a b : CharSet)
  | difference (a b : CharSet)
  /-- What belongs to one of two sets and not to the other. -/
  | unshared (a b : CharSet)
  deriving DecidableEq, Repr

/-- The character belongs to the set. -/
def CharSet.holds (c : Char) : CharSet → Bool
  | .none => false
  | .range first last ignoreCase =>
    let inRange (d : Char) : Bool := first ≤ d && d ≤ last
    inRange c || (ignoreCase && (Text.caseFellows c).any inRange)
  | .ofClass kind => kind.holds c
  | .complement a => !a.holds c
  | .union a b => a.holds c || b.holds c
  | .intersection a b => a.holds c && b.holds c
  | .difference a b => a.holds c && !b.holds c
  | .unshared a b => a.holds c != b.holds c

/-! ### Anchors -/

/-- Conditions on a place. -/
inductive Anchor where
  | textStart
  | textEnd
  | lineStart
  | lineEnd
  /-- A word begins or ends there, or does not. -/
  | wordBoundary (negated : Bool)
  deriving DecidableEq, Repr

/-- A character with the property stands behind the place. -/
def follows (text : Array Char) (p : Nat) (property : Char → Bool) : Bool :=
  (text[p]?.map property).getD false

/-- A character with the property stands in front of the place. -/
def precedes (text : Array Char) (p : Nat) (property : Char → Bool) : Bool :=
  0 < p && follows text (p - 1) property

/-- The condition holds at the place. -/
def Anchor.holds (text : Array Char) (p : Nat) : Anchor → Bool
  | .textStart => p == 0
  | .textEnd => p == text.size
  | .lineStart => p == 0 || precedes text p (· = '\n')
  | .lineEnd => p == text.size || follows text p (· = '\n')
  | .wordBoundary negated => (precedes text p Text.isWordChar != follows text p Text.isWordChar) != negated

/-! ### Patterns -/

/-- A pattern over sets of characters and conditions on places. -/
inductive RegexOver (S A : Type) where
  | nothing
  /-- One character of a set. -/
  | one (s : S)
  /-- No character, where a condition holds. -/
  | here (a : A)
  | sequence (r t : RegexOver S A)
  | either (r t : RegexOver S A)
  /-- At least `least` times, and at most `most` times if there is a bound. -/
  | repeated (r : RegexOver S A) (least : Nat) (most : Option Nat)
  deriving DecidableEq, Repr

/-- A pattern as it is written. -/
abbrev Regex := RegexOver CharSet Anchor

/-- The same pattern over other sets and conditions. -/
def RegexOver.map {S A S' A' : Type} (f : S → S') (g : A → A') : RegexOver S A → RegexOver S' A'
  | .nothing => .nothing
  | .one s => .one (f s)
  | .here a => .here (g a)
  | .sequence r t => .sequence (r.map f g) (t.map f g)
  | .either r t => .either (r.map f g) (t.map f g)
  | .repeated r least most => .repeated (r.map f g) least most

/-! ### Matching -/

/-- A set of places: the places are the bits of the natural. -/
abbrev Places := Nat

/-- The places at which a list holds `true`. -/
def Places.ofList (bs : List Bool) : Places :=
  bs.foldr (fun b ps => 2 * ps + b.toNat) 0

namespace RegexOver

/-- A step taken `n` times; it stays where a further step leads nowhere else. -/
def times (step : Places → Places) : (n : Nat) → Places → Places
  | 0, ps => ps
  | n + 1, ps =>
    let next := step ps
    if next = ps then ps else times step n next

/-- The places reached by at most `n` steps. -/
def reach (step : Places → Places) : (n : Nat) → Places → Places
  | 0, ps => ps
  | n + 1, ps =>
    let more := ps ||| step ps
    if more = ps then ps else reach step n more

/-- Where matches that begin at the given places may end, for a pattern whose sets are the places in front of their
characters and whose conditions are the places where they hold.  Among `count` places no more than `count` steps lead
to new ones. -/
def ends (count : Nat) : RegexOver Places Places → Places → Places
  | .nothing, ps => ps
  | .one characters, ps => (ps &&& characters) <<< 1
  | .here places, ps => ps &&& places
  | .sequence r t, ps => t.ends count (r.ends count ps)
  | .either r t, ps => r.ends count ps ||| t.ends count ps
  | .repeated r least most, ps =>
    reach (r.ends count) ((most.map (· - least)).getD count) (times (r.ends count) least ps)

end RegexOver

namespace Regex

/-- The pattern as it lies on a text. -/
def on (r : Regex) (text : Array Char) : RegexOver Places Places :=
  r.map (fun s => .ofList (text.toList.map fun c => s.holds c))
    (fun a => .ofList ((List.range (text.size + 1)).map fun p => a.holds text p))

/-- Some stretch of the text matches. -/
def isMatch (r : Regex) (s : String) : Bool :=
  let text := s.toList.toArray
  let count := text.size + 1
  (r.on text).ends count (pow2 count - 1) != 0

end Regex

end ModelValidation
