import ArtifactPipeline.Regex.Basic

/-!
# What a regular expression matches

An expression matches a piece of a text between what stands before the piece and what comes after
it. Nothing is said about which of several matches is preferred. Marks are the places recorded for
groups, latest first, as a program records them.
-/

namespace ArtifactPipeline

/-- A character of a kind that a text does not have stands behind the text. -/
theorem Text.split_behind {P : Char → Prop} {first rest front back : List Char} {q : Char}
    (h : first ++ rest = front ++ q :: back) (hfirst : ∀ c ∈ first, ¬ P c) (hq : P q) :
    ∃ more, front = first ++ more ∧ rest = more ++ q :: back := by
  obtain ⟨more, rfl, hrest⟩ | ⟨_ | ⟨y, more⟩, rfl, hback⟩ := List.append_eq_append_iff.mp h
  · exact ⟨more, rfl, hrest⟩
  · exact ⟨[], by simp, by simpa using hback.symm⟩
  · cases hback
    exact absurd hq (hfirst q (by simp))

namespace Regex

open Text

/-- A relation between a piece of a text with its surroundings and the marks that are recorded in
it: what stands before, the piece, what comes after, the marks. -/
abbrev Passage := List Char → List Char → List Char → List (Nat × Nat) → Prop

namespace Passage

/-- The empty piece, without marks. -/
def nothing : Passage := fun _ piece _ marks => piece = [] ∧ marks = []

/-- A piece that is read in one way, and right behind it a piece that is read in another way. -/
def followedBy (R S : Passage) : Passage := fun before piece after marks =>
  ∃ first rest firstMarks restMarks, piece = first ++ rest ∧ marks = restMarks ++ firstMarks ∧
    R before first (rest ++ after) firstMarks ∧ S (before ++ first) rest after restMarks

/-- A number of pieces one after another that are each read in the same way. -/
def rounds (R : Passage) : (count : Nat) → Passage
  | 0 => nothing
  | count + 1 => R.followedBy (rounds R count)

end Passage

/-- Whether a repetition may take a number of rounds. -/
def allows (min : Nat) (max : Option Nat) (count : Nat) : Prop :=
  min ≤ count ∧ ∀ bound, max = some bound → count ≤ min + (bound - min)

/-- What an expression matches. -/
def Matches : Regex → Passage
  | .empty => .nothing
  | .chars cs => fun _ piece _ marks => piece = cs ∧ marks = []
  | .set s => fun _ piece _ marks => ∃ c, s.mem c = true ∧ piece = [c] ∧ marks = []
  | .look l => fun before piece after marks =>
    l.holds before.getLast? after.head? = true ∧ piece = [] ∧ marks = []
  | .seq a b => a.Matches.followedBy b.Matches
  | .alt a b => fun before piece after marks =>
    a.Matches before piece after marks ∨ b.Matches before piece after marks
  | .rep _ min max body => fun before piece after marks =>
    ∃ count, allows min max count ∧ body.Matches.rounds count before piece after marks
  | .group i body => fun before piece after marks =>
    ∃ inner, body.Matches before piece after inner ∧
      marks = (2 * i + 1, before.length + piece.length) :: (inner ++ [(2 * i, before.length)])

namespace Passage

variable {R S T : Passage} {before piece after : List Char} {marks : List (Nat × Nat)}

/-- Two pieces without marks make up one without marks. -/
theorem followedBy_intro {first rest : List Char} (hfirst : R before first (rest ++ after) [])
    (hrest : S (before ++ first) rest after []) :
    R.followedBy S before (first ++ rest) after [] :=
  ⟨first, rest, [], [], rfl, rfl, hfirst, hrest⟩

/-- Each of two passages may be widened. -/
theorem followedBy_mono {R' S' : Passage}
    (hR : ∀ {b p a m}, R b p a m → R' b p a m) (hS : ∀ {b p a m}, S b p a m → S' b p a m)
    (h : R.followedBy S before piece after marks) : R'.followedBy S' before piece after marks := by
  obtain ⟨first, rest, firstMarks, restMarks, hpiece, hmarks, hfirst, hrest⟩ := h
  exact ⟨first, rest, firstMarks, restMarks, hpiece, hmarks, hR hfirst, hS hrest⟩

/-- The passage of each round may be widened. -/
theorem rounds_mono (h : ∀ {b p a m}, R b p a m → S b p a m) {count : Nat}
    (hrounds : R.rounds count before piece after marks) :
    S.rounds count before piece after marks := by
  induction count generalizing before piece after marks with
  | zero => exact hrounds
  | succ count ih => exact followedBy_mono h ih hrounds

/-- The empty piece in front changes nothing. -/
theorem nothing_followedBy :
    nothing.followedBy S before piece after marks ↔ S before piece after marks := by
  constructor
  · rintro ⟨_, rest, _, restMarks, rfl, rfl, ⟨rfl, rfl⟩, hrest⟩
    simpa using hrest
  · intro h
    exact ⟨[], piece, [], marks, rfl, by simp, ⟨rfl, rfl⟩, by simpa using h⟩

/-- The empty piece behind changes nothing. -/
theorem followedBy_nothing :
    R.followedBy nothing before piece after marks ↔ R before piece after marks := by
  constructor
  · rintro ⟨first, _, firstMarks, _, rfl, rfl, hfirst, rfl, rfl⟩
    simpa using hfirst
  · intro h
    exact ⟨piece, [], marks, [], by simp, rfl, by simpa using h, rfl, rfl⟩

/-- It does not matter which two of three passages are put together first. -/
theorem followedBy_assoc :
    (R.followedBy S).followedBy T before piece after marks ↔
      R.followedBy (S.followedBy T) before piece after marks := by
  constructor
  · rintro ⟨_, third, _, thirdMarks, rfl, rfl, ⟨first, second, firstMarks, secondMarks, rfl, rfl,
      hfirst, hsecond⟩, hthird⟩
    refine ⟨first, second ++ third, firstMarks, thirdMarks ++ secondMarks, ?_, ?_, ?_, second,
      third, secondMarks, thirdMarks, rfl, rfl, hsecond, ?_⟩
    · exact List.append_assoc ..
    · exact (List.append_assoc ..).symm
    · rwa [List.append_assoc]
    · rwa [List.append_assoc]
  · rintro ⟨first, _, firstMarks, _, rfl, rfl, hfirst, second, third, secondMarks, thirdMarks, rfl,
      rfl, hsecond, hthird⟩
    refine ⟨first ++ second, third, secondMarks ++ firstMarks, thirdMarks, ?_, ?_, ⟨first, second,
      firstMarks, secondMarks, rfl, rfl, ?_, hsecond⟩, ?_⟩
    · exact (List.append_assoc ..).symm
    · exact List.append_assoc ..
    · rwa [List.append_assoc] at hfirst
    · rwa [List.append_assoc] at hthird

/-- Rounds may be taken in two goes. -/
theorem rounds_add (m n : Nat) :
    R.rounds (m + n) before piece after marks ↔
      (R.rounds m).followedBy (R.rounds n) before piece after marks := by
  induction m generalizing before piece after marks with
  | zero => rw [Nat.zero_add, rounds, nothing_followedBy]
  | succ m ih =>
    rw [Nat.add_right_comm, rounds, rounds, followedBy_assoc]
    exact ⟨followedBy_mono id ih.mp, followedBy_mono id ih.mpr⟩

/-- The last of a number of rounds may be taken together with what follows them. -/
theorem rounds_succ_followedBy {count : Nat} :
    (R.rounds (count + 1)).followedBy S before piece after marks ↔
      (R.rounds count).followedBy (R.followedBy S) before piece after marks := by
  rw [← followedBy_assoc]
  constructor
  · refine followedBy_mono (fun h => ?_) id
    exact followedBy_mono id followedBy_nothing.mp ((rounds_add count 1).mp h)
  · refine followedBy_mono (fun h => ?_) id
    exact (rounds_add count 1).mpr (followedBy_mono id followedBy_nothing.mpr h)

end Passage

section Rules

variable {before piece after : List Char} {marks : List (Nat × Nat)}

/-- Only groups record places. -/
theorem Matches.marks_eq_nil {r : Regex} (hgroup : r.hasGroup = false)
    (h : r.Matches before piece after marks) : marks = [] := by
  induction r generalizing before piece after marks with
  | empty => exact h.2
  | chars cs => exact h.2
  | set s =>
    obtain ⟨c, -, -, hmarks⟩ := h
    exact hmarks
  | look l => exact h.2.2
  | seq a b iha ihb =>
    obtain ⟨first, rest, firstMarks, restMarks, -, rfl, ha, hb⟩ := h
    simp only [hasGroup, Bool.or_eq_false_iff] at hgroup
    rw [iha hgroup.1 ha, ihb hgroup.2 hb]
    rfl
  | alt a b iha ihb =>
    simp only [hasGroup, Bool.or_eq_false_iff] at hgroup
    rcases h with ha | hb
    · exact iha hgroup.1 ha
    · exact ihb hgroup.2 hb
  | rep greedy min max body ih =>
    obtain ⟨count, -, hrounds⟩ := h
    have hmono := Passage.rounds_mono (S := fun _ _ _ m => m = []) (fun hbody => ih hgroup hbody)
      hrounds
    clear hrounds
    induction count generalizing before piece after marks with
    | zero => exact hmono.2
    | succ count ihcount =>
      obtain ⟨first, rest, firstMarks, restMarks, -, rfl, hfirst, hrest⟩ := hmono
      rw [hfirst, ihcount hrest]
      rfl
  | group i body ih => cases hgroup

/-- A repetition of single characters from a set matches the texts of the allowed lengths whose
characters are in the set. -/
theorem rounds_set {s : CharSet} {count : Nat} :
    (Regex.set s).Matches.rounds count before piece after marks ↔
      piece.length = count ∧ (∀ c ∈ piece, s.mem c = true) ∧ marks = [] := by
  induction count generalizing before piece after marks with
  | zero =>
    constructor
    · rintro ⟨rfl, rfl⟩
      simp
    · rintro ⟨hlength, -, rfl⟩
      exact ⟨List.length_eq_zero_iff.mp hlength, rfl⟩
  | succ count ih =>
    constructor
    · rintro ⟨_, rest, _, restMarks, rfl, rfl, ⟨c, hc, rfl, rfl⟩, hrest⟩
      obtain ⟨hlength, hall, rfl⟩ := ih.mp hrest
      refine ⟨by simp [hlength], ?_, rfl⟩
      simpa [hc] using hall
    · rintro ⟨hlength, hall, rfl⟩
      obtain _ | ⟨c, rest⟩ := piece
      · cases hlength
      · refine ⟨[c], rest, [], [], rfl, rfl, ⟨c, hall c (by simp), rfl, rfl⟩, ih.mpr ⟨?_, ?_, rfl⟩⟩
        · simpa using hlength
        · exact fun d hd => hall d (by simp [hd])

/-- A repeated set matches characters of the set, at least as many as it has to. -/
theorem matches_rep_set {greedy : Bool} {min : Nat} {s : CharSet} :
    (Regex.rep greedy min none (.set s)).Matches before piece after marks ↔
      min ≤ piece.length ∧ (∀ c ∈ piece, s.mem c = true) ∧ marks = [] := by
  constructor
  · rintro ⟨count, ⟨hmin, -⟩, hrounds⟩
    obtain ⟨rfl, hall, hmarks⟩ := rounds_set.mp hrounds
    exact ⟨hmin, hall, hmarks⟩
  · rintro ⟨hmin, hall, hmarks⟩
    exact ⟨piece.length, ⟨hmin, by simp⟩, rounds_set.mpr ⟨rfl, hall, hmarks⟩⟩

/-- A list of parts matches what the first part and then the others match. -/
theorem matches_concat_cons {r : Regex} {rs : List Regex} :
    (concat (r :: rs)).Matches before piece after marks ↔
      r.Matches.followedBy (concat rs).Matches before piece after marks := by
  cases rs with
  | nil => exact Passage.followedBy_nothing.symm
  | cons s rs => rfl

/-- Two lists of parts match what the first list and then the second one match. -/
theorem matches_concat_append {rs ss : List Regex} :
    (concat (rs ++ ss)).Matches before piece after marks ↔
      (concat rs).Matches.followedBy (concat ss).Matches before piece after marks := by
  induction rs generalizing before piece after marks with
  | nil => exact Passage.nothing_followedBy.symm
  | cons r rs ih =>
    have hleft : ((concat (r :: rs)).Matches.followedBy (concat ss).Matches) before piece after
        marks ↔ (r.Matches.followedBy (concat rs).Matches).followedBy (concat ss).Matches before
          piece after marks :=
      ⟨Passage.followedBy_mono matches_concat_cons.mp id,
        Passage.followedBy_mono matches_concat_cons.mpr id⟩
    rw [List.cons_append, matches_concat_cons, hleft, Passage.followedBy_assoc]
    exact ⟨Passage.followedBy_mono id ih.mp, Passage.followedBy_mono id ih.mpr⟩

end Rules

end Regex

end ArtifactPipeline
