import ArtifactPipeline.Policy.Evaluate
import ArtifactPipeline.Proofs.Searching

/-!
# Where a pattern is found

What is found in a text is reported with its line and column. They lead back to the text before it:
the pieces of the text between newlines, as many as there are lines before, each with its newline,
and then the characters of the next piece that stand before the column. So no two places of a text
have the same line and column.
-/

namespace ArtifactPipeline

namespace Text

/-! ## Lines and columns -/

/-- The pieces of a text between its newlines. -/
def pieces (text : List Char) : List (List Char) := text.splitOn '\n'

/-- The text before a line and column: the pieces for the lines before that line, each with its
newline, and the characters of the next piece before that column. -/
def upTo (text : List Char) (line column : Nat) : List Char :=
  ((pieces text).take (line - 1)).flatMap (· ++ ['\n']) ++
    ((pieces text).getD (line - 1) []).take (column - 1)

/-- A line and column point to a place of a text. -/
structure PointsTo (line column : Nat) (text : List Char) (place : Nat) : Prop where
  line_pos : 1 ≤ line
  column_pos : 1 ≤ column
  line_le : line ≤ (pieces text).length
  column_le : column ≤ ((pieces text).getD (line - 1) []).length + 1
  upTo_eq : upTo text line column = text.take place

/-- A newline in front ends an empty piece. -/
theorem pieces_newline (text : List Char) : pieces ('\n' :: text) = [] :: pieces text :=
  List.splitOn_cons_eq_if_modifyHead '\n' text

/-- A character in front belongs to the first piece. -/
theorem pieces_cons {c : Char} (hc : c ≠ '\n') (text : List Char) :
    pieces (c :: text) = (pieces text).modifyHead (c :: ·) := by
  rw [pieces, List.splitOn_cons_eq_if_modifyHead, if_neg (by simpa using hc), pieces]

/-- There is one piece more than there are newlines. -/
theorem length_pieces (text : List Char) : (pieces text).length = text.count '\n' + 1 := by
  induction text with
  | nil => rfl
  | cons c text ih =>
    by_cases hc : c = '\n'
    · rw [hc, pieces_newline, List.length_cons, ih, List.count_cons_self]
    · rw [pieces_cons hc, List.length_modifyHead, ih, List.count_cons_of_ne hc]

/-- The pieces of a text, each with a newline, are the text with a newline. -/
theorem flatMap_pieces (text : List Char) :
    (pieces text).flatMap (· ++ ['\n']) = text ++ ['\n'] := by
  induction text with
  | nil => rfl
  | cons c text ih =>
    by_cases hc : c = '\n'
    · rw [hc, pieces_newline, List.flatMap_cons, ih]
      rfl
    · obtain ⟨piece, more, hpieces⟩ := List.exists_cons_of_ne_nil (List.splitOn_ne_nil '\n' text)
      have hparts : pieces text = piece :: more := hpieces
      rw [hparts, List.flatMap_cons] at ih
      rw [pieces_cons hc, hparts, List.modifyHead_cons, List.flatMap_cons, List.cons_append,
        List.cons_append, ih, List.cons_append]

/-- A text that goes on behind characters of one line has these at the start of its first piece. -/
theorem pieces_append {last : List Char} (h : '\n' ∉ last) (rest : List Char) :
    ∃ piece more, pieces (last ++ rest) = (last ++ piece) :: more := by
  induction last with
  | nil => exact List.exists_cons_of_ne_nil (List.splitOn_ne_nil '\n' rest)
  | cons c last ih =>
    obtain ⟨piece, more, hpieces⟩ := ih (List.not_mem_of_not_mem_cons h)
    have hc : c ≠ '\n' := (List.ne_of_not_mem_cons h).symm
    refine ⟨piece, more, ?_⟩
    rw [List.cons_append, pieces_cons hc, hpieces, List.modifyHead_cons, List.cons_append]

/-- A line and column point to the place behind whole pieces and the first characters of the next
piece. -/
theorem pointsTo_of_pieces {text last piece : List Char} {done more : List (List Char)}
    {place : Nat} (hpieces : pieces text = done ++ (last ++ piece) :: more)
    (hbefore : text.take place = done.flatMap (· ++ ['\n']) ++ last) :
    PointsTo (done.length + 1) (last.length + 1) text place := by
  have hnext : (pieces text).getD done.length [] = last ++ piece := by
    simp [hpieces, List.getD]
  constructor
  case line_pos => exact Nat.succ_pos _
  case column_pos => exact Nat.succ_pos _
  case line_le => simp [hpieces]
  case column_le =>
    rw [Nat.add_sub_cancel, hnext, List.length_append]
    omega
  case upTo_eq =>
    rw [upTo, Nat.add_sub_cancel, Nat.add_sub_cancel, hnext, hpieces, hbefore]
    simp

/-- A text has its characters in one line, or its last line is behind a newline. -/
theorem last_line_cases (before : List Char) :
    '\n' ∉ before ∨ ∃ front last, before = front ++ '\n' :: last ∧ '\n' ∉ last := by
  by_cases h : '\n' ∈ before
  · obtain ⟨last, front, hsplit, hlast⟩ := List.eq_append_cons_of_mem (List.mem_reverse.mpr h)
    refine .inr ⟨front.reverse, last.reverse, ?_, mt List.mem_reverse.mp hlast⟩
    have hreverse := congrArg List.reverse hsplit
    simpa using hreverse
  · exact .inl h

/-- What a text has behind its last newline is read from its end. -/
theorem takeWhile_last {last : List Char} (h : '\n' ∉ last) (front : List Char) :
    (last.reverse ++ front).takeWhile (· != '\n') =
      last.reverse ++ front.takeWhile (· != '\n') := by
  refine List.takeWhile_append_of_pos fun c hc => ?_
  rw [bne_iff_ne]
  rintro rfl
  exact h (List.mem_reverse.mp hc)

/-- Behind a text without newlines it is still the first line. -/
theorem location_of_not_mem {last : List Char} (h : '\n' ∉ last) :
    location last = (1, last.length + 1) := by
  have htail : last.reverse.takeWhile (· != '\n') = last.reverse := by
    simpa using takeWhile_last h []
  rw [location, htail, List.count_eq_zero_of_not_mem h, List.length_reverse]

/-- The pieces before the last newline count the lines, and what follows that newline the
columns. -/
theorem location_append_newline (front : List Char) {last : List Char} (h : '\n' ∉ last) :
    location (front ++ '\n' :: last) = ((pieces front).length + 1, last.length + 1) := by
  have htail : (front ++ '\n' :: last).reverse.takeWhile (· != '\n') = last.reverse := by
    simpa using takeWhile_last h ('\n' :: front.reverse)
  rw [location, htail, List.count_append, List.count_cons_self, List.count_eq_zero_of_not_mem h,
    List.length_reverse, length_pieces]

/-- The location of a place points to it. -/
theorem location_pointsTo (before rest : List Char) :
    PointsTo (location before).1 (location before).2 (before ++ rest) before.length := by
  rcases last_line_cases before with hlast | ⟨front, last, rfl, hlast⟩
  · obtain ⟨piece, more, hpieces⟩ := pieces_append hlast rest
    have hfirst : pieces (before ++ rest) = [] ++ (before ++ piece) :: more := hpieces
    rw [location_of_not_mem hlast]
    exact pointsTo_of_pieces hfirst (by simp)
  · obtain ⟨piece, more, hpieces⟩ := pieces_append hlast rest
    have hall : pieces (front ++ '\n' :: last ++ rest) =
        pieces front ++ (last ++ piece) :: more := by
      rw [List.append_assoc, List.cons_append, ← hpieces]
      exact List.splitOn_append_cons_self front (last ++ rest)
    rw [location_append_newline front hlast]
    refine pointsTo_of_pieces hall ?_
    rw [flatMap_pieces, List.take_left]
    simp

end Text

/-! ## Leftmost matches -/

namespace Regex

variable {r : Regex} {text : List Char} {m : Match}

/-- A match that starts no later than any other one. -/
def Leftmost (r : Regex) (text : List Char) (m : Match) : Prop :=
  r.MatchesAt text m ∧ ∀ other, r.MatchesAt text other → m.start ≤ other.start

/-- A search that finds something finds a leftmost match. -/
theorem leftmost_of_find? (h : (Program.ofRegex r).find? text = some m) : r.Leftmost text m := by
  refine ⟨Program.finds_ofRegex.mp (Program.find?_finds h), fun other hother => ?_⟩
  obtain ⟨found, hfound, hle⟩ := Program.find?_leftmost (Program.finds_ofRegex.mpr hother)
  obtain rfl : m = found := Option.some.inj (h.symm.trans hfound)
  exact hle

/-- A leftmost match begins in the text or at its end. -/
theorem Leftmost.start_le (h : r.Leftmost text m) : m.start ≤ text.length := by
  obtain ⟨before, piece, after, rfl, hstart, -⟩ := h.1
  rw [hstart, List.length_append]
  exact Nat.le_add_right _ _

/-- All leftmost matches start at one place. -/
theorem Leftmost.start_eq {other : Match} (h : r.Leftmost text m) (hother : r.Leftmost text other) :
    m.start = other.start :=
  Nat.le_antisymm (h.2 other hother.1) (hother.2 m h.1)

end Regex

/-! ## Reports -/

/-- A violation is reported with a line and column that point to a place of the text. -/
def Violation.LocatedAt (v : Violation) (code : List Char) (place : Nat) : Prop :=
  ∃ line column, v.line = some line ∧ v.column = some column ∧
    Text.PointsTo line column code place

/-- No two places of a text are reported with the same line and column. -/
theorem Violation.LocatedAt.place_eq {v v' : Violation} {code : List Char} {place place' : Nat}
    (h : v.LocatedAt code place) (h' : v'.LocatedAt code place') (hplace : place ≤ code.length)
    (hplace' : place' ≤ code.length) (hline : v.line = v'.line) (hcolumn : v.column = v'.column) :
    place = place' := by
  obtain ⟨line, column, hl, hc, hpoints⟩ := h
  obtain ⟨line', column', hl', hc', hpoints'⟩ := h'
  obtain rfl : line = line' := Option.some.inj (hl.symm.trans (hline.trans hl'))
  obtain rfl : column = column' := Option.some.inj (hc.symm.trans (hcolumn.trans hc'))
  have hbefore := congrArg List.length (hpoints.upTo_eq.symm.trans hpoints'.upTo_eq)
  rwa [List.length_take_of_le hplace, List.length_take_of_le hplace'] at hbefore

namespace Policy

open Regex

variable {code : List Char} {r : Regex} {m : Match} {v : Violation}

/-- What is found is reported where it starts. -/
theorem checkPattern_of_find? {program : Program} (h : program.find? code = some m)
    (hstart : m.start ≤ code.length) :
    ∃ v, checkPattern code program = some v ∧ v.LocatedAt code m.start := by
  have hpoints := Text.location_pointsTo (code.take m.start) (code.drop m.start)
  rw [List.take_append_drop, List.length_take_of_le hstart] at hpoints
  rw [checkPattern, h]
  exact ⟨_, rfl, _, _, rfl, rfl, hpoints⟩

/-- A pattern that matches nowhere has nothing to report. -/
theorem checkPattern_of_not_matches (h : ¬ ∃ m, r.MatchesAt code m) :
    checkPattern code (.ofRegex r) = none := by
  have hnone : (Program.ofRegex r).find? code = none :=
    Option.eq_none_iff_forall_ne_some.mpr fun m hfind => h (Program.exists_find?_iff.mp ⟨m, hfind⟩)
  rw [checkPattern, hnone, Option.map_none]

/-- A pattern that matches somewhere is reported where its leftmost match begins. -/
theorem checkPattern_of_matches (h : r.MatchesAt code m) :
    ∃ found v, r.Leftmost code found ∧ checkPattern code (.ofRegex r) = some v ∧
      v.LocatedAt code found.start := by
  obtain ⟨found, hfind⟩ := Program.exists_find?_iff.mpr ⟨m, h⟩
  have hleftmost := leftmost_of_find? hfind
  obtain ⟨v, hcheck, hlocated⟩ := checkPattern_of_find? hfind hleftmost.start_le
  exact ⟨found, v, hleftmost, hcheck, hlocated⟩

/-- The place that is reported is where every leftmost match starts. -/
theorem locatedAt_of_leftmost (h : r.Leftmost code m)
    (hcheck : checkPattern code (.ofRegex r) = some v) : v.LocatedAt code m.start := by
  obtain ⟨found, v', hleftmost, hcheck', hlocated⟩ := checkPattern_of_matches h.1
  obtain rfl : v = v' := Option.some.inj (hcheck.symm.trans hcheck')
  rwa [h.start_eq hleftmost]

/-- An expression that does not match a text is not found there. One that does is reported with the
line and column of its leftmost match, which lead back to the text before the match. So matches that
start at different places are reported with different lines or columns. -/
theorem checkPattern_locates (code : List Char) :
    (∀ r : Regex, (¬ ∃ m, r.MatchesAt code m) → checkPattern code (.ofRegex r) = none) ∧
    (∀ r : Regex, (∃ m, r.MatchesAt code m) → ∃ m v, r.Leftmost code m ∧
      checkPattern code (.ofRegex r) = some v ∧ v.LocatedAt code m.start) ∧
    ∀ (r r' : Regex) (m m' : Match) (v v' : Violation), r.Leftmost code m → r'.Leftmost code m' →
      checkPattern code (.ofRegex r) = some v → checkPattern code (.ofRegex r') = some v' →
      m.start ≠ m'.start → (v.line, v.column) ≠ (v'.line, v'.column) := by
  refine ⟨fun r => checkPattern_of_not_matches, fun r => ?_, ?_⟩
  · rintro ⟨m, hmatches⟩
    exact checkPattern_of_matches hmatches
  · intro r r' m m' v v' hm hm' hcheck hcheck' hne hsame
    obtain ⟨hline, hcolumn⟩ := Prod.mk.inj hsame
    exact hne ((locatedAt_of_leftmost hm hcheck).place_eq (locatedAt_of_leftmost hm' hcheck')
      hm.start_le hm'.start_le hline hcolumn)

/-- A newline and the letter on the line behind it start at different places, and so have different
lines or columns. A letter that is not there is not found. -/
theorem checkPattern_locates_lines :
    let code := ['é', '\n', 'b', '\n']
    let newline := Regex.chars ['\n']
    let letter := Regex.chars ['b']
    checkPattern code (.ofRegex (.chars ['z'])) = none ∧ ∃ v v',
      checkPattern code (.ofRegex newline) = some v ∧
      checkPattern code (.ofRegex letter) = some v' ∧ v.LocatedAt code 1 ∧ v'.LocatedAt code 2 ∧
      (v.line, v.column) ≠ (v'.line, v'.column) := by
  intro code newline letter
  obtain ⟨hnone, hreport, hdiffer⟩ := checkPattern_locates code
  have hz : ¬ ∃ m, (Regex.chars ['z']).MatchesAt code m := by
    rw [← Program.exists_find?_iff]
    rintro ⟨found, hfind⟩
    have hmissing : (Program.ofRegex (.chars ['z'])).find? code = none := by decide +kernel
    exact absurd (hmissing.symm.trans hfind) (Option.some_ne_none found).symm
  have hnewline : newline.Leftmost code ⟨1, 2, []⟩ := leftmost_of_find? (by decide +kernel)
  have hletter : letter.Leftmost code ⟨2, 3, []⟩ := leftmost_of_find? (by decide +kernel)
  obtain ⟨m, v, hm, hcheck, hlocated⟩ := hreport newline ⟨_, hnewline.1⟩
  obtain ⟨m', v', hm', hcheck', hlocated'⟩ := hreport letter ⟨_, hletter.1⟩
  rw [hm.start_eq hnewline] at hlocated
  rw [hm'.start_eq hletter] at hlocated'
  exact ⟨hnone _ hz, v, v', hcheck, hcheck', hlocated, hlocated',
    hdiffer _ _ _ _ _ _ hnewline hletter hcheck hcheck' (by decide)⟩

end Policy

end ArtifactPipeline
