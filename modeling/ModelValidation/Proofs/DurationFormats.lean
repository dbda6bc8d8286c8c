import Mathlib.Data.List.Chain
import Mathlib.Data.List.TakeWhile
import ModelValidation.Argument

/-!
# Formats of durations

The grammar of formats, said without the scanner, and what a format writes by it:

* `WrittenAs.cons`, `exists_writtenAs`: every text is written as segments with an ending, one after another;
* `head?_eq_letter_iff`: a text begins with a letter just if its first segment is a run of it, so a run ends where it is
  written to end;
* `segments_of_writtenAs`: the scanner finds the segments that are written;
* `writeSegments_append`: segments are shown one after another, each knowing whether anything is shown before it;
* `stops_iff_of_writtenAs`: the program stops just at a run of days that is longer than a number can be padded to;
* `formats_shown_by_segments`: so a duration in a format is what its segments show, unless the program stops.
-/

namespace ModelValidation.Duration

open Numeral

/-! ### The grammar -/

/-- The parts of a duration that a format can show. -/
inductive Part where
  | days
  | hours
  | minutes
  | seconds
  | fraction
  deriving DecidableEq, Repr

/-- The letter that stands for the part. -/
def Part.letter : Part → Char
  | .days => 'd'
  | .hours => 'h'
  | .minutes => 'm'
  | .seconds => 's'
  | .fraction => 'f'

/-- A segment of a format as it is written. -/
inductive Piece where
  | run (part : Part) (width : Nat)
  | escaped (c : Char)
  | quoted (quote : Char) (cs : List Char)
  | other (c : Char)
  deriving DecidableEq, Repr

/-- How a format ends: after a segment, with a lone backslash, or with a quote that is not closed. -/
inductive Ending where
  | complete
  | backslash
  | unclosed (quote : Char) (cs : List Char)
  deriving DecidableEq, Repr

def IsQuote (c : Char) : Prop := c = '\'' ∨ c = '"'

namespace Piece

def text : Piece → List Char
  | .run part width => List.replicate width part.letter
  | .escaped c => ['\\', c]
  | .quoted quote cs => quote :: (cs ++ [quote])
  | .other c => [c]

/-- A run is not empty, quoted text is without its quote, and any other character has no meaning of its own. -/
def WellFormed : Piece → Prop
  | .run _ width => 1 ≤ width
  | .escaped _ => True
  | .quoted quote cs => IsQuote quote ∧ quote ∉ cs
  | .other c => (∀ part : Part, c ≠ part.letter) ∧ c ≠ '\\' ∧ ¬IsQuote c

/-- Two runs of one letter are not side by side. -/
def Apart : Piece → Piece → Prop
  | .run part _, .run next _ => part ≠ next
  | _, _ => True

end Piece

namespace Ending

def text : Ending → List Char
  | .complete => []
  | .backslash => ['\\']
  | .unclosed quote cs => quote :: cs

def WellFormed : Ending → Prop
  | .complete => True
  | .backslash => True
  | .unclosed quote cs => IsQuote quote ∧ quote ∉ cs

end Ending

/-- The text is that of the segments one after another and of the ending. -/
structure WrittenAs (cs : List Char) (pieces : List Piece) (ending : Ending) : Prop where
  text_eq : pieces.flatMap Piece.text ++ ending.text = cs
  segments : ∀ p ∈ pieces, p.WellFormed
  apart : pieces.IsChain Piece.Apart
  ending : ending.WellFormed

/-! ### What segments show -/

/-- What a run of letters shows of the magnitude: days with at least as many digits as letters, hours, minutes and seconds
too if there are no more than two letters, and the first digits of the seven that count hundreds of nanoseconds. -/
def Part.shown (d : Duration) (width : Nat) : Part → List Char
  | .days => padded width (decimal (d.nanoseconds.natAbs / 86400000000000))
  | .hours => padded (min width 2) (decimal (d.nanoseconds.natAbs / 3600000000000 % 24))
  | .minutes => padded (min width 2) (decimal (d.nanoseconds.natAbs / 60000000000 % 60))
  | .seconds => padded (min width 2) (decimal (d.nanoseconds.natAbs / 1000000000 % 60))
  | .fraction => (padded 7 (decimal (d.nanoseconds.natAbs % 1000000000 / 100))).take (min width 7)

/-- What a segment shows behind what is shown so far: a hyphen before which nothing is shown is the sign. -/
def Piece.shown (d : Duration) (before : List Char) : Piece → List Char
  | .run part width => part.shown d width
  | .escaped c => [c]
  | .quoted _ cs => cs
  | .other c => if c = '-' ∧ before = [] then if d.nanoseconds < 0 then ['-'] else [] else [c]

/-- The segments shown one after another, behind what is shown so far. -/
def shownAfter (d : Duration) (before : List Char) : List Piece → List Char
  | [] => before
  | p :: ps => d.shownAfter (before ++ p.shown d before) ps

/-- A lone backslash shows nothing, and a quote that is not closed all that follows it. -/
def Ending.shown : Ending → List Char
  | .complete => []
  | .backslash => []
  | .unclosed _ cs => cs

/-! ### Where segments end -/

theorem isPart_iff {c : Char} : isPart c = true ↔ ∃ part : Part, c = part.letter := by
  constructor
  · intro h
    simp only [isPart, Bool.or_eq_true, decide_eq_true_eq] at h
    rcases h with (((rfl | rfl) | rfl) | rfl) | rfl
    · exact ⟨.days, rfl⟩
    · exact ⟨.hours, rfl⟩
    · exact ⟨.minutes, rfl⟩
    · exact ⟨.seconds, rfl⟩
    · exact ⟨.fraction, rfl⟩
  · rintro ⟨part, rfl⟩
    cases part <;> rfl

theorem Part.letter_injective {part next : Part} (h : part.letter = next.letter) : part = next := by
  cases part <;> cases next <;> first | rfl | exact absurd h (by decide)

theorem Part.letter_ne_backslash (part : Part) : part.letter ≠ '\\' := by
  cases part <;> decide

theorem Part.not_isQuote_letter (part : Part) : ¬IsQuote part.letter := by
  cases part <;> unfold IsQuote <;> decide

theorem not_isPart_of_isQuote {c : Char} (h : IsQuote c) : isPart c = false ∧ c ≠ '\\' := by
  rcases h with rfl | rfl <;> decide

/-- A segment begins with a letter just if it is a run of it. -/
theorem Piece.head?_eq_letter_iff {p : Piece} (h : p.WellFormed) (rest : List Char) (part : Part) :
    (p.text ++ rest).head? = some part.letter ↔ ∃ width, p = .run part width := by
  cases p with
  | run next width =>
    obtain ⟨n, rfl⟩ := Nat.exists_eq_add_of_le' h
    simp only [text, List.replicate_succ, List.cons_append, List.head?_cons, Option.some.injEq, run.injEq,
      exists_and_left, exists_eq', and_true]
    exact ⟨Part.letter_injective, congrArg _⟩
  | escaped c => simpa [text] using part.letter_ne_backslash.symm
  | quoted quote cs =>
    have hquote : quote ≠ part.letter := by
      rintro rfl
      exact part.not_isQuote_letter h.1
    simpa [text] using hquote
  | other c => simpa [text] using h.1 part

theorem Ending.head?_ne_letter {ending : Ending} (h : ending.WellFormed) (part : Part) :
    ending.text.head? ≠ some part.letter := by
  cases ending with
  | complete => simp [text]
  | backslash => simpa [text] using part.letter_ne_backslash.symm
  | unclosed quote cs =>
    have hquote : quote ≠ part.letter := by
      rintro rfl
      exact part.not_isQuote_letter h.1
    simpa [text] using hquote

section Written

variable {cs : List Char} {p : Piece} {ps : List Piece} {ending : Ending}

/-- **A text begins with a letter just if its first segment is a run of it.** -/
theorem WrittenAs.head?_eq_letter_iff (h : WrittenAs cs ps ending) (part : Part) :
    cs.head? = some part.letter ↔ ∃ width, .run part width ∈ ps.head? := by
  rw [← h.text_eq]
  cases ps with
  | nil => simpa using Ending.head?_ne_letter h.ending part
  | cons p ps =>
    rw [List.flatMap_cons, List.append_assoc, Piece.head?_eq_letter_iff (h.segments p List.mem_cons_self)]
    simp

theorem WrittenAs.cons (hp : p.WellFormed) (hapart : ∀ next ∈ ps.head?, p.Apart next) (h : WrittenAs cs ps ending) :
    WrittenAs (p.text ++ cs) (p :: ps) ending where
  text_eq := by rw [List.flatMap_cons, List.append_assoc, h.text_eq]
  segments := List.forall_mem_cons.2 ⟨hp, h.segments⟩
  apart := List.isChain_cons.2 ⟨hapart, h.apart⟩
  ending := h.ending

/-- The text behind the first segment is that of the others. -/
theorem WrittenAs.exists_rest (h : WrittenAs cs (p :: ps) ending) :
    ∃ rest, cs = p.text ++ rest ∧ p.WellFormed ∧ (∀ next ∈ ps.head?, p.Apart next) ∧ WrittenAs rest ps ending := by
  obtain ⟨hp, hpieces⟩ := List.forall_mem_cons.1 h.segments
  obtain ⟨hapart, hchain⟩ := List.isChain_cons.1 h.apart
  refine ⟨ps.flatMap Piece.text ++ ending.text, ?_, hp, hapart, ⟨rfl, hpieces, hchain, h.ending⟩⟩
  rw [← h.text_eq, List.flatMap_cons, List.append_assoc]

end Written

/-! ### What the scanner finds -/

/-- What the scanner makes of a segment. -/
def Piece.segment : Piece → Segment
  | .run part width => .run part.letter width
  | .escaped c => .literal [c]
  | .quoted _ cs => .literal cs
  | .other c => .plain c

/-- What the scanner makes of an ending. -/
def Ending.segments : Ending → List Segment
  | .complete => []
  | .backslash => []
  | .unclosed _ cs => [.literal cs]

theorem segments_cons (c : Char) (cs : List Char) :
    segments (c :: cs) =
      if isPart c then .run c (1 + (cs.takeWhile (· = c)).length) :: segments (cs.dropWhile (· = c))
      else if c = '\\' then
        match cs with
        | [] => []
        | d :: cs => .literal [d] :: segments cs
      else if c = '\'' ∨ c = '"' then
        .literal (cs.takeWhile (· ≠ c)) :: segments ((cs.dropWhile (· ≠ c)).drop 1)
      else .plain c :: segments cs :=
  segments.eq_def (c :: cs)

theorem segments_backslash : segments ['\\'] = [] := by
  rw [segments]
  rfl

theorem segments_escaped (c : Char) (rest : List Char) : segments ('\\' :: c :: rest) = .literal [c] :: segments rest := by
  rw [segments]
  rfl

theorem segments_quote {quote : Char} (h : IsQuote quote) (cs : List Char) :
    segments (quote :: cs) =
      .literal (cs.takeWhile (· ≠ quote)) :: segments ((cs.dropWhile (· ≠ quote)).drop 1) := by
  obtain ⟨hpart, hbackslash⟩ := not_isPart_of_isQuote h
  rw [segments_cons, hpart, if_neg Bool.false_ne_true, if_neg hbackslash]
  exact if_pos h

theorem segments_run {part : Part} {rest : List Char} (n : Nat) (h : rest.head? ≠ some part.letter) :
    segments (List.replicate (n + 1) part.letter ++ rest) = .run part.letter (n + 1) :: segments rest := by
  have hletters : ∀ c ∈ List.replicate n part.letter, decide (c = part.letter) = true := by
    intro c hc
    exact decide_eq_true (List.eq_of_mem_replicate hc)
  have hrest : rest.takeWhile (· = part.letter) = [] ∧ rest.dropWhile (· = part.letter) = rest := by
    cases rest with
    | nil => exact ⟨rfl, rfl⟩
    | cons c rest =>
      have hc : ¬decide (c = part.letter) = true := by
        simpa using h
      exact ⟨List.takeWhile_cons_of_neg hc, List.dropWhile_cons_of_neg hc⟩
  rw [List.replicate_succ, List.cons_append, segments_cons, if_pos (isPart_iff.2 ⟨part, rfl⟩),
    List.takeWhile_append_of_pos hletters, List.dropWhile_append_of_pos hletters, hrest.1, hrest.2, List.append_nil,
    List.length_replicate, Nat.add_comm]

theorem segments_other {c : Char} (h : (Piece.other c).WellFormed) (rest : List Char) :
    segments (c :: rest) = .plain c :: segments rest := by
  obtain ⟨hpart, hbackslash, hquote⟩ := h
  have hpart : ¬isPart c = true := fun hc => (isPart_iff.1 hc).elim hpart
  rw [segments_cons, if_neg hpart, if_neg hbackslash]
  exact if_neg hquote

theorem forall_ne_quote {quote : Char} {cs : List Char} (h : quote ∉ cs) : ∀ c ∈ cs, decide (c ≠ quote) = true := by
  intro c hc
  refine decide_eq_true ?_
  rintro rfl
  exact h hc

/-- Quoted text ends where its quote stands again. -/
theorem span_quoted {quote : Char} {cs : List Char} (h : quote ∉ cs) (rest : List Char) :
    (cs ++ quote :: rest).takeWhile (· ≠ quote) = cs ∧ ((cs ++ quote :: rest).dropWhile (· ≠ quote)).drop 1 = rest := by
  rw [List.takeWhile_append_of_pos (forall_ne_quote h), List.dropWhile_append_of_pos (forall_ne_quote h)]
  simp

theorem segments_quoted {quote : Char} {cs : List Char} (h : (Piece.quoted quote cs).WellFormed) (rest : List Char) :
    segments (quote :: (cs ++ quote :: rest)) = .literal cs :: segments rest := by
  obtain ⟨hquote, hcs⟩ := h
  obtain ⟨htake, hdrop⟩ := span_quoted hcs rest
  rw [segments_quote hquote, htake, hdrop]

theorem segments_ending {ending : Ending} (h : ending.WellFormed) : segments ending.text = ending.segments := by
  cases ending with
  | complete => rw [Ending.text, segments, Ending.segments]
  | backslash => exact segments_backslash
  | unclosed quote cs =>
    obtain ⟨hquote, hcs⟩ := h
    rw [Ending.text, segments_quote hquote, List.takeWhile_eq_self_iff.2 (forall_ne_quote hcs),
      List.dropWhile_eq_nil_iff.2 (forall_ne_quote hcs), List.drop_nil, segments, Ending.segments]

/-- The scanner finds a segment, and goes on behind it. -/
theorem segments_append {p : Piece} (hp : p.WellFormed) {rest : List Char}
    (hrest : ∀ part width, p = .run part width → rest.head? ≠ some part.letter) :
    segments (p.text ++ rest) = p.segment :: segments rest := by
  cases p with
  | run part width =>
    obtain ⟨n, rfl⟩ := Nat.exists_eq_add_of_le' hp
    exact segments_run n (hrest part _ rfl)
  | escaped c => exact segments_escaped c rest
  | quoted quote cs =>
    have hquoted := segments_quoted hp rest
    simpa [Piece.text, Piece.segment] using hquoted
  | other c => exact segments_other hp rest

/-- **The scanner finds the segments that are written.** -/
theorem segments_of_writtenAs {cs : List Char} {ps : List Piece} {ending : Ending} (h : WrittenAs cs ps ending) :
    segments cs = ps.map Piece.segment ++ ending.segments := by
  induction ps generalizing cs with
  | nil =>
    rw [← h.text_eq]
    exact segments_ending h.ending
  | cons p ps ih =>
    obtain ⟨rest, rfl, hp, hapart, hrest⟩ := h.exists_rest
    rw [segments_append hp, ih hrest, List.map_cons, List.cons_append]
    -- behind a run stands no run of its letter
    rintro part width rfl hletter
    obtain ⟨next, hnext⟩ := (hrest.head?_eq_letter_iff part).1 hletter
    exact hapart _ hnext rfl

/-- **Every text is written as segments with an ending.** -/
theorem exists_writtenAs (cs : List Char) : ∃ pieces ending, WrittenAs cs pieces ending := by
  induction cs using segments.induct with
  | case1 => exact ⟨[], .complete, rfl, by simp, List.isChain_nil, trivial⟩
  | case2 c cs hpart ih =>
    obtain ⟨part, rfl⟩ := isPart_iff.1 hpart
    obtain ⟨ps, ending, hrest⟩ := ih
    have hletters : cs.takeWhile (· = part.letter) =
        List.replicate (cs.takeWhile (· = part.letter)).length part.letter := by
      refine List.eq_replicate_iff.2 ⟨rfl, fun c hc => ?_⟩
      simpa using List.mem_takeWhile_imp hc
    have htext : part.letter :: cs =
        (Piece.run part ((cs.takeWhile (· = part.letter)).length + 1)).text ++ cs.dropWhile (· = part.letter) := by
      rw [Piece.text, List.replicate_succ, ← hletters, List.cons_append, List.takeWhile_append_dropWhile]
    rw [htext]
    refine ⟨_, ending, hrest.cons (Nat.le_add_left 1 _) fun next hnext => ?_⟩
    -- what is left behind the run does not begin with its letter
    cases next with
    | run other width =>
      rintro rfl
      have hfirst := (hrest.head?_eq_letter_iff part).2 ⟨width, hnext⟩
      have hnot := List.head?_dropWhile_not (· = part.letter) cs
      rw [hfirst] at hnot
      simp at hnot
    | escaped _ => trivial
    | quoted _ _ => trivial
    | other _ => trivial
  | case3 => exact ⟨[], .backslash, rfl, by simp, List.isChain_nil, trivial⟩
  | case4 c cs _ ih =>
    obtain ⟨ps, ending, hrest⟩ := ih
    have hc : (Piece.escaped c).WellFormed := trivial
    exact ⟨.escaped c :: ps, ending, hrest.cons hc fun _ _ => trivial⟩
  | case5 quote cs _ _ hquote ih =>
    obtain ⟨ps, ending, hrest⟩ := ih
    by_cases hclosed : quote ∈ cs
    · obtain ⟨inside, rest, rfl, hinside⟩ := List.eq_append_cons_of_mem hclosed
      rw [(span_quoted hinside rest).2] at hrest
      have hquoted : (Piece.quoted quote inside).WellFormed := ⟨hquote, hinside⟩
      have htext : quote :: (inside ++ quote :: rest) = (Piece.quoted quote inside).text ++ rest := by
        simp [Piece.text]
      rw [htext]
      exact ⟨.quoted quote inside :: ps, ending, hrest.cons hquoted fun _ _ => trivial⟩
    · exact ⟨[], .unclosed quote cs, rfl, by simp, List.isChain_nil, hquote, hclosed⟩
  | case6 c cs hpart hbackslash hquote ih =>
    obtain ⟨ps, ending, hrest⟩ := ih
    have hc : (Piece.other c).WellFormed :=
      ⟨fun part hletter => hpart (isPart_iff.2 ⟨part, hletter⟩), hbackslash, hquote⟩
    exact ⟨.other c :: ps, ending, hrest.cons hc fun _ _ => trivial⟩

/-! ### What the scanner shows -/

theorem write_segment (d : Duration) (before : List Char) (p : Piece) :
    p.segment.write d before.isEmpty = p.shown d before := by
  cases p with
  | run part width =>
    cases part <;>
      simp [Piece.segment, Segment.write, Piece.shown, Part.shown, Part.letter, Duration.part, days, hours, minutes, seconds,
        ticks, totalSeconds, Nat.div_div_eq_div_mul]
  | escaped c => rfl
  | quoted quote cs => rfl
  | other c => simp [Piece.segment, Segment.write, Piece.shown, isNegative]

/-- **Segments are shown one after another.** -/
theorem writeSegments_append (d : Duration) (ps : List Piece) (before : List Char) (ss : List Segment) :
    before ++ d.writeSegments before.isEmpty (ps.map Piece.segment ++ ss) =
      d.shownAfter before ps ++ d.writeSegments (d.shownAfter before ps).isEmpty ss := by
  induction ps generalizing before with
  | nil => rfl
  | cons p ps ih =>
    have hempty : (before ++ p.shown d before).isEmpty = (before.isEmpty && (p.shown d before).isEmpty) := by
      cases before <;> rfl
    rw [List.map_cons, List.cons_append, writeSegments, shownAfter, ← ih, write_segment, hempty, List.append_assoc]

theorem writeSegments_ending (d : Duration) (atStart : Bool) (ending : Ending) :
    d.writeSegments atStart ending.segments = ending.shown := by
  cases ending with
  | complete => rfl
  | backslash => rfl
  | unclosed quote cs => exact List.append_nil cs

/-! ### Where the program stops -/

theorem Piece.isOverlong_segment_iff {p : Piece} :
    p.segment.isOverlong = true ↔ ∃ width, p = .run .days width ∧ formatLimit < width := by
  cases p with
  | run part width => cases part <;> simp [segment, Segment.isOverlong, Part.letter]
  | escaped c => simp [segment, Segment.isOverlong]
  | quoted quote cs => simp [segment, Segment.isOverlong]
  | other c => simp [segment, Segment.isOverlong]

theorem Ending.any_isOverlong_segments (ending : Ending) : ending.segments.any Segment.isOverlong = false := by
  cases ending <;> rfl

/-- **The program stops just where a run of days is overlong.** -/
theorem stops_iff_of_writtenAs {fmt : String} {ps : List Piece} {ending : Ending} (h : WrittenAs fmt.toList ps ending) :
    stops (some fmt) = true ↔ ∃ width, .run .days width ∈ ps ∧ formatLimit < width := by
  rw [stops, Option.getD_some, segments_of_writtenAs h, List.any_append, ending.any_isOverlong_segments, Bool.or_false,
    List.any_map, List.any_eq_true]
  constructor
  · rintro ⟨p, hp, hover⟩
    obtain ⟨width, rfl, hwidth⟩ := Piece.isOverlong_segment_iff.1 hover
    exact ⟨width, hp, hwidth⟩
  · rintro ⟨width, hp, hwidth⟩
    exact ⟨_, hp, Piece.isOverlong_segment_iff.2 ⟨width, rfl, hwidth⟩⟩

/-- What a format that is not empty shows, apart from where the program stops. -/
theorem toList_format_of_writtenAs (d : Duration) (culture : Culture) {fmt : String} (hfmt : fmt ≠ "") {ps : List Piece}
    {ending : Ending} (h : WrittenAs fmt.toList ps ending) :
    (d.format (some fmt) culture).toList = d.shownAfter [] ps ++ ending.shown := by
  have hformat : (d.format (some fmt) culture).toList = d.writeSegments true (segments fmt.toList) := by
    rw [format, String.toList_ofList]
    exact hfmt
  have hshown := d.writeSegments_append ps [] ending.segments
  rw [writeSegments_ending] at hshown
  rw [hformat, segments_of_writtenAs h]
  exact hshown

/-- **Formats are shown segment by segment.**  Every format that is not empty is written as segments with an ending, and
however it is written so, a duration in this format is what the segments show one after another, and the ending, just if
no run of days has more than 65535 letters; where one has, nothing is written, since the program stops. -/
theorem formats_shown_by_segments (d : Duration) {params : Parameters} {fmt : String}
    (hparams : Keyed.get? "format" params = some fmt) (hfmt : fmt ≠ "") :
    (∃ pieces ending, WrittenAs fmt.toList pieces ending) ∧
      ∀ pieces ending, WrittenAs fmt.toList pieces ending →
        ((ArgumentValue.duration d).render? params = some (String.ofList (d.shownAfter [] pieces ++ ending.shown)) ↔
            ∀ width, .run .days width ∈ pieces → width ≤ 65535) ∧
          ((ArgumentValue.duration d).render? params = none ↔ ∃ width, .run .days width ∈ pieces ∧ 65535 < width) := by
  refine ⟨exists_writtenAs _, fun pieces ending h => ?_⟩
  have hstops := stops_iff_of_writtenAs h
  have hshown : d.format (some fmt) (ArgumentValue.cultureOf params) =
      String.ofList (d.shownAfter [] pieces ++ ending.shown) := by
    rw [← d.toList_format_of_writtenAs _ hfmt h, String.ofList_toList]
  rw [ArgumentValue.render?_duration d hparams, hshown]
  by_cases hoverlong : stops (some fmt) = true
  · obtain ⟨width, hwidth, hlimit⟩ := hstops.1 hoverlong
    rw [if_pos hoverlong]
    exact ⟨iff_of_false nofun fun hshort => Nat.not_lt.2 (hshort width hwidth) hlimit,
      iff_of_true rfl ⟨width, hwidth, hlimit⟩⟩
  · rw [if_neg hoverlong]
    refine ⟨iff_of_true rfl fun width hwidth => Nat.not_lt.1 fun hlimit => hoverlong (hstops.2 ⟨width, hwidth, hlimit⟩),
      iff_of_false nofun fun hlong => hoverlong (hstops.2 hlong)⟩

/-- The theorem for a hyphen behind empty quotes, letters in quotes and behind a backslash, and a quote that is not closed. -/
theorem formats_shown_by_segments_clock :
    Keyed.get? "format" [("format", "''-dd\\h'd'-mmff\"s"), ("culture", "pl-PL")] = some "''-dd\\h'd'-mmff\"s" ∧
      "''-dd\\h'd'-mmff\"s" ≠ "" ∧
      WrittenAs "''-dd\\h'd'-mmff\"s".toList
        [.quoted '\'' [], .other '-', .run .days 2, .escaped 'h', .quoted '\'' ['d'], .other '-', .run .minutes 2,
          .run .fraction 2]
        (.unclosed '"' ['s']) ∧
      (ArgumentValue.duration ⟨273906789000000⟩).render?
        [("format", "''-dd\\h'd'-mmff\"s"), ("culture", "pl-PL")] = some "03hd-0578s" := by
  have hparams : Keyed.get? "format" [("format", "''-dd\\h'd'-mmff\"s"), ("culture", "pl-PL")] =
      some "''-dd\\h'd'-mmff\"s" := by decide
  have hfmt : "''-dd\\h'd'-mmff\"s" ≠ "" := by decide
  have hwritten : WrittenAs "''-dd\\h'd'-mmff\"s".toList
      [.quoted '\'' [], .other '-', .run .days 2, .escaped 'h', .quoted '\'' ['d'], .other '-', .run .minutes 2,
        .run .fraction 2] (.unclosed '"' ['s']) := by
    have hhyphen : ∀ part : Part, '-' ≠ part.letter := by
      intro part
      cases part <;> decide
    constructor
    · rfl
    · simp [Piece.WellFormed, IsQuote, hhyphen]
    · simp [Piece.Apart]
    · simp [Ending.WellFormed, IsQuote]
  have hshown := ((formats_shown_by_segments ⟨273906789000000⟩ hparams hfmt).2 _ _ hwritten).1.2 (by simp)
  refine ⟨hparams, hfmt, hwritten, hshown.trans ?_⟩
  decide +kernel

/-- A format that is nothing but one run. -/
theorem writtenAs_replicate (part : Part) {width : Nat} (h : 1 ≤ width) :
    WrittenAs (List.replicate width part.letter) [.run part width] .complete where
  text_eq := by simp [Piece.text, Ending.text]
  segments := by simpa [Piece.WellFormed] using h
  apart := List.isChain_singleton _
  ending := trivial

/-- With one letter more than a number can be padded to, the program stops for every duration, even one of a second. -/
theorem overlong_days_stop :
    WrittenAs (String.ofList (List.replicate 65536 'd')).toList [.run .days 65536] .complete ∧
      (ArgumentValue.duration ⟨1000000000⟩).render? [("format", String.ofList (List.replicate 65536 'd'))] = none := by
  have hwritten : WrittenAs (String.ofList (List.replicate 65536 'd')).toList [.run .days 65536] .complete := by
    rw [String.toList_ofList]
    exact writtenAs_replicate .days (by decide)
  refine ⟨hwritten, ?_⟩
  rw [ArgumentValue.render?_duration _ (Keyed.get?_cons_self _ _ _)]
  exact if_pos ((stops_iff_of_writtenAs hwritten).2 ⟨65536, List.mem_singleton_self _, by decide⟩)

end ModelValidation.Duration
