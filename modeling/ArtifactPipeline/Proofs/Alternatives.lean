import ArtifactPipeline.Proofs.Searching
import Mathlib.Data.List.Infix

/-!
# The alternatives of an expression

Choice can be drawn out of sequences, groups and optional parts. What remains is a list of
alternatives, each of them a sequence of parts, and the expression reads what one of them reads. A
search of a text succeeds iff one of them can be read somewhere in the text.
-/

namespace ArtifactPipeline.Regex

/-- The expression matches the piece, whatever is recorded of its groups. -/
def Reads (r : Regex) (before piece after : List Char) : Prop :=
  ∃ marks, r.Matches before piece after marks

/-- The expression matches some piece of the text. -/
def OccursIn (r : Regex) (text : List Char) : Prop :=
  ∃ before piece after, text = before ++ (piece ++ after) ∧ r.Reads before piece after

/-- The sequences that are left when choice is drawn out as far as it goes. Repetitions other than
optional parts stay as they are. -/
def alternatives : Regex → List (List Regex)
  | empty => [[]]
  | chars cs => [[chars cs]]
  | set s => [[set s]]
  | look l => [[look l]]
  | seq a b => a.alternatives.flatMap fun front => b.alternatives.map (front ++ ·)
  | alt a b => a.alternatives ++ b.alternatives
  | rep _ 0 (some 1) body => body.alternatives ++ [[]]
  | rep greedy min max body => [[rep greedy min max body]]
  | group _ body => body.alternatives

section Reading

variable {before piece after text : List Char} {r a b : Regex} {rs ss : List Regex}

/-! ## Reading the parts -/

/-- The empty expression reads the empty piece. -/
theorem reads_empty : empty.Reads before piece after ↔ piece = [] := by
  constructor
  · rintro ⟨_, hpiece, -⟩
    exact hpiece
  · intro hpiece
    exact ⟨[], hpiece, rfl⟩

/-- Given characters read themselves. -/
theorem reads_chars {cs : List Char} : (chars cs).Reads before piece after ↔ piece = cs := by
  constructor
  · rintro ⟨_, hpiece, -⟩
    exact hpiece
  · intro hpiece
    exact ⟨[], hpiece, rfl⟩

/-- An assertion reads the empty piece where it holds. -/
theorem reads_look {l : Look} : (look l).Reads before piece after ↔
    l.holds before.getLast? after.head? = true ∧ piece = [] := by
  constructor
  · rintro ⟨_, hholds, hpiece, -⟩
    exact ⟨hholds, hpiece⟩
  · rintro ⟨hholds, hpiece⟩
    exact ⟨[], hholds, hpiece, rfl⟩

/-- A sequence reads a piece that its first part and then its second part read. -/
theorem reads_seq : (seq a b).Reads before piece after ↔ ∃ first rest, piece = first ++ rest ∧
    a.Reads before first (rest ++ after) ∧ b.Reads (before ++ first) rest after := by
  constructor
  · rintro ⟨_, first, rest, firstMarks, restMarks, hpiece, -, hfirst, hrest⟩
    exact ⟨first, rest, hpiece, ⟨firstMarks, hfirst⟩, ⟨restMarks, hrest⟩⟩
  · rintro ⟨first, rest, hpiece, ⟨firstMarks, hfirst⟩, ⟨restMarks, hrest⟩⟩
    exact ⟨restMarks ++ firstMarks, first, rest, firstMarks, restMarks, hpiece, rfl, hfirst, hrest⟩

/-- A choice reads what one of its two sides reads. -/
theorem reads_alt : (alt a b).Reads before piece after ↔
    a.Reads before piece after ∨ b.Reads before piece after := exists_or

/-- A group reads what is in it. -/
theorem reads_group {index : Nat} :
    (group index r).Reads before piece after ↔ r.Reads before piece after := by
  constructor
  · rintro ⟨_, inner, hbody, -⟩
    exact ⟨inner, hbody⟩
  · rintro ⟨inner, hbody⟩
    exact ⟨_, inner, hbody, rfl⟩

/-- An optional part reads what it holds, or the empty piece, whichever it prefers. -/
theorem reads_optional {greedy : Bool} : (rep greedy 0 (some 1) r).Reads before piece after ↔
    r.Reads before piece after ∨ piece = [] := by
  constructor
  · rintro ⟨marks, count, ⟨-, hmax⟩, hrounds⟩
    have hcount : count ≤ 1 := by simpa using hmax 1 rfl
    obtain rfl | rfl : count = 0 ∨ count = 1 := by omega
    · exact .inr hrounds.1
    · exact .inl ⟨marks, Passage.followedBy_nothing.mp hrounds⟩
  · rintro (⟨marks, hbody⟩ | rfl)
    · exact ⟨marks, 1, ⟨by omega, by simp⟩, Passage.followedBy_nothing.mpr hbody⟩
    · exact ⟨[], 0, ⟨by omega, by simp⟩, rfl, rfl⟩

/-- A choice of many reads what one of them reads. -/
theorem reads_choice : (choice rs).Reads before piece after ↔
    ∃ r ∈ rs, r.Reads before piece after := by
  induction rs with
  | nil =>
    refine ⟨?_, by simp⟩
    rintro ⟨_, c, hc, -⟩
    cases hc
  | cons r rs ih =>
    cases rs with
    | nil => simp [choice]
    | cons s rs => simp only [choice, reads_alt, ih, List.mem_cons, exists_eq_or_imp]

/-! ## Reading sequences -/

/-- A list of parts reads a piece that the first part and then the others read. -/
theorem reads_concat_cons : (concat (r :: rs)).Reads before piece after ↔
    ∃ first rest, piece = first ++ rest ∧
      r.Reads before first (rest ++ after) ∧ (concat rs).Reads (before ++ first) rest after := by
  have hseq : (concat (r :: rs)).Reads before piece after ↔
      (seq r (concat rs)).Reads before piece after := exists_congr fun _ => matches_concat_cons
  rw [hseq, reads_seq]

/-- Two lists of parts one after another read a piece that the first list and then the second
one read. -/
theorem reads_concat_append : (concat (rs ++ ss)).Reads before piece after ↔
    ∃ first rest, piece = first ++ rest ∧
      (concat rs).Reads before first (rest ++ after) ∧
      (concat ss).Reads (before ++ first) rest after := by
  have hseq : (concat (rs ++ ss)).Reads before piece after ↔
      (seq (concat rs) (concat ss)).Reads before piece after :=
    exists_congr fun _ => matches_concat_append
  rw [hseq, reads_seq]

/-- A fixed text that is a part of a sequence is in every piece that the sequence reads. -/
theorem Reads.infix_of_chars {cs : List Char} (h : (concat rs).Reads before piece after)
    (hcs : chars cs ∈ rs) : cs <:+: piece := by
  induction rs generalizing before piece with
  | nil => cases hcs
  | cons r rs ih =>
    obtain ⟨first, rest, rfl, hfirst, hrest⟩ := reads_concat_cons.mp h
    rcases List.mem_cons.mp hcs with rfl | hlater
    · rw [reads_chars.mp hfirst]
      exact (List.prefix_append cs rest).isInfix
    · exact (ih hrest hlater).trans (List.suffix_append first rest).isInfix

/-! ## Drawing choice out -/

/-- An expression reads exactly what one of its alternatives reads. -/
theorem reads_iff_alternative : r.Reads before piece after ↔
    ∃ parts ∈ r.alternatives, (concat parts).Reads before piece after := by
  induction r generalizing before piece after with
  | empty => simp [alternatives, concat]
  | chars cs => simp [alternatives, concat]
  | set s => simp [alternatives, concat]
  | look l => simp [alternatives, concat]
  | seq a b iha ihb =>
    simp only [alternatives, List.mem_flatMap, List.mem_map]
    rw [reads_seq]
    constructor
    · rintro ⟨first, rest, hpiece, hfirst, hrest⟩
      obtain ⟨front, hfront, hreadsFront⟩ := iha.mp hfirst
      obtain ⟨back, hback, hreadsBack⟩ := ihb.mp hrest
      refine ⟨front ++ back, ⟨front, hfront, back, hback, rfl⟩, ?_⟩
      exact reads_concat_append.mpr ⟨first, rest, hpiece, hreadsFront, hreadsBack⟩
    · rintro ⟨_, ⟨front, hfront, back, hback, rfl⟩, hreads⟩
      obtain ⟨first, rest, hpiece, hfirst, hrest⟩ := reads_concat_append.mp hreads
      exact ⟨first, rest, hpiece, iha.mpr ⟨front, hfront, hfirst⟩, ihb.mpr ⟨back, hback, hrest⟩⟩
  | alt a b iha ihb =>
    rw [reads_alt, iha, ihb]
    simp only [alternatives, List.mem_append, or_and_right, exists_or]
  | rep greedy min max body ih =>
    by_cases hoptional : min = 0 ∧ max = some 1
    · obtain ⟨rfl, rfl⟩ := hoptional
      rw [reads_optional, ih]
      simp only [alternatives, List.mem_append, List.mem_singleton, or_and_right, exists_or,
        exists_eq_left]
      rw [concat, reads_empty]
    · rw [alternatives]
      · simp [concat]
      · intro hmin hmax
        exact hoptional ⟨hmin, hmax⟩
  | group index body ih => rw [reads_group, ih, alternatives]

/-- An expression occurs in a text iff one of its alternatives does. -/
theorem occursIn_iff_alternative :
    r.OccursIn text ↔ ∃ parts ∈ r.alternatives, (concat parts).OccursIn text := by
  constructor
  · rintro ⟨before, piece, after, htext, hreads⟩
    obtain ⟨parts, hparts, hpiece⟩ := reads_iff_alternative.mp hreads
    exact ⟨parts, hparts, before, piece, after, htext, hpiece⟩
  · rintro ⟨parts, hparts, before, piece, after, htext, hpiece⟩
    exact ⟨before, piece, after, htext, reads_iff_alternative.mpr ⟨parts, hparts, hpiece⟩⟩

/-- The part is a fixed text that is not in the given one. -/
def MissingFrom (text : List Char) : Regex → Prop
  | chars cs => ¬ cs <:+: text
  | _ => False

/-- Whether a part is missing from a text can be looked up. -/
instance (text : List Char) : DecidablePred (MissingFrom text) := fun r => by
  cases r <;> simp only [MissingFrom] <;> infer_instance

/-- An expression does not occur where each alternative misses a part. -/
theorem not_occursIn_of_missing
    (h : ∀ parts ∈ r.alternatives, ∃ part ∈ parts, MissingFrom text part) : ¬ r.OccursIn text := by
  rw [occursIn_iff_alternative]
  rintro ⟨parts, hparts, before, piece, after, htext, hreads⟩
  obtain ⟨part, hpart, hmissing⟩ := h parts hparts
  cases part with
  | chars cs =>
    have hpiece : piece <:+: text := ⟨before, after, by rw [htext, List.append_assoc]⟩
    exact hmissing ((hreads.infix_of_chars hpart).trans hpiece)
  | _ => exact hmissing

/-- A search of a text succeeds iff the expression occurs in the text. -/
theorem find?_isSome_iff : ((Program.ofRegex r).find? text).isSome = true ↔ r.OccursIn text := by
  rw [Option.isSome_iff_exists, Program.exists_find?_iff]
  constructor
  · rintro ⟨m, before, piece, after, htext, -, -, hmatches⟩
    exact ⟨before, piece, after, htext, m.marks, hmatches⟩
  · rintro ⟨before, piece, after, htext, marks, hmatches⟩
    exact ⟨⟨before.length, before.length + piece.length, marks⟩, before, piece, after, htext, rfl,
      rfl, hmatches⟩

end Reading

end ArtifactPipeline.Regex
