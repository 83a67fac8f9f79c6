import ArtifactPipeline.Regex.CharSet

/-!
# Membership in sets of characters

A character is in the union of two sets if it is in one of them, and in the complement of a set if
it is not in the set. Ranges may run across the surrogates, which are no characters, so these laws
hold for code points of characters only.
-/

namespace ArtifactPipeline

namespace Text.Ranges

variable {a b : Ranges} {n low high start : Nat}

/-- Some range has the code point. -/
def Covers (a : Ranges) (n : Nat) : Prop := ∃ x ∈ a, x.1 ≤ n ∧ n ≤ x.2

/-- The ranges are in the order of their lower ends. -/
def Sorted (a : Ranges) : Prop := a.Pairwise (·.1 ≤ ·.1)

/-- The ranges increase and do not overlap. -/
structure Increasing (a : Ranges) : Prop where
  apart : a.Pairwise (·.2 < ·.1)
  ordered : ∀ x ∈ a, x.1 ≤ x.2

/-- The code point belongs to a character. -/
def IsScalar (n : Nat) : Prop := n < 0xD800 ∨ 0xDFFF < n

/-- The empty set has no code point. -/
@[simp] theorem covers_nil : ¬ Covers [] n := by simp [Covers]

/-- A code point is in the first range or in a later one. -/
@[simp] theorem covers_cons {x : Nat × Nat} :
    Covers (x :: a) n ↔ (x.1 ≤ n ∧ n ≤ x.2) ∨ Covers a n := by simp [Covers]

/-- Ranges that increase and do not overlap begin one after another. -/
theorem Increasing.sorted (h : Increasing a) : Sorted a := by
  refine h.apart.imp_of_mem fun {x y} hx _ hlt => ?_
  have hle := h.ordered x hx
  omega

/-- The later ranges of an increasing list increase by themselves. -/
theorem Increasing.tail {x : Nat × Nat} (h : Increasing (x :: a)) : Increasing a :=
  ⟨h.apart.tail, fun y hy => h.ordered y (by simp [hy])⟩

/-- The search through sorted ranges finds every range that has the code point. -/
theorem contains_iff (h : Sorted a) : a.contains n = true ↔ Covers a n := by
  induction a with
  | nil => simp [contains]
  | cons x a ih =>
    obtain ⟨low, high⟩ := x
    have hlater := List.pairwise_cons.mp h
    rw [contains, covers_cons, ← ih hlater.2]
    by_cases hlow : n < low
    · have hnone : ¬ Covers a n := by
        rintro ⟨y, hy, hle, -⟩
        have hfirst : low ≤ y.1 := hlater.1 y hy
        omega
      rw [ih hlater.2]
      simp [hlow, hnone, Nat.not_le.mpr hlow]
    · simp [hlow, Nat.not_lt.mp hlow]

/-- A character behind a code point is at its successor or later: the surrogates that the
successor jumps over are no characters. -/
theorem lt_iff_after_le (hn : IsScalar n) : high < n ↔ after high ≤ n := by
  unfold after IsScalar at *
  split <;> omega

/-- A character up to the predecessor of a code point is before the code point, for the same
reason. -/
theorem le_before_iff (hn : IsScalar n) (hlow : start < low) : n ≤ before low ↔ n < low := by
  unfold before IsScalar at *
  split <;> omega

/-- The successor of a code point is greater, across the surrogates as well. -/
theorem lt_after (high : Nat) : high < after high := by
  unfold after
  split <;> omega

/-! ## Joining -/

/-- A range that is joined with the ones it touches loses no character and gains none. -/
theorem covers_joinFrom (hn : IsScalar n) (h : Sorted ((low, high) :: a)) :
    Covers (joinFrom low high a) n ↔ Covers ((low, high) :: a) n := by
  induction a generalizing low high with
  | nil => rfl
  | cons x a ih =>
    obtain ⟨low', high'⟩ := x
    have hlater := List.pairwise_cons.mp h
    have hfirst : low ≤ low' := hlater.1 (low', high') (by simp)
    rw [joinFrom]
    split
    · next htouch =>
      have hsorted : Sorted ((low, max high high') :: a) :=
        List.pairwise_cons.mpr ⟨fun y hy => hlater.1 y (by simp [hy]), hlater.2.tail⟩
      have hgap : high < n ↔ after high ≤ n := lt_iff_after_le hn
      rw [ih hsorted, covers_cons, covers_cons, covers_cons, ← or_assoc]
      refine or_congr_left ?_
      dsimp only
      omega
    · rw [covers_cons, ih hlater.2, ← covers_cons]

/-- Joining sorted ranges makes them increase, and none of them begins before the first one. -/
theorem joinFrom_increasing (h : Sorted ((low, high) :: a))
    (hordered : ∀ x ∈ (low, high) :: a, x.1 ≤ x.2) :
    Increasing (joinFrom low high a) ∧ ∀ x ∈ joinFrom low high a, low ≤ x.1 := by
  induction a generalizing low high with
  | nil => exact ⟨⟨List.pairwise_singleton .., hordered⟩, by simp [joinFrom]⟩
  | cons x a ih =>
    obtain ⟨low', high'⟩ := x
    have hlater := List.pairwise_cons.mp h
    have hfirst : low ≤ low' := hlater.1 (low', high') (by simp)
    have hrange : low ≤ high := hordered (low, high) (by simp)
    rw [joinFrom]
    split
    · refine ih (List.pairwise_cons.mpr ⟨fun y hy => hlater.1 y (by simp [hy]), hlater.2.tail⟩) ?_
      intro y hy
      rcases List.mem_cons.mp hy with rfl | hy
      · exact Nat.le_trans hrange (Nat.le_max_left ..)
      · exact hordered y (by simp [hy])
    · next hgap =>
      obtain ⟨hincreasing, hbound⟩ := ih hlater.2 fun y hy => hordered y (by simp [hy])
      have hafter := lt_after high
      refine ⟨⟨List.pairwise_cons.mpr ⟨fun y hy => ?_, hincreasing.apart⟩, ?_⟩, ?_⟩
      · have hle := hbound y hy
        dsimp only
        omega
      · simpa [hrange] using hincreasing.ordered
      · intro y hy
        rcases List.mem_cons.mp hy with rfl | hy
        · exact Nat.le_refl _
        · exact Nat.le_trans hfirst (hbound y hy)

/-- Sorted ranges that are joined hold the same characters as before. -/
theorem covers_join (hn : IsScalar n) (h : Sorted a) : Covers (join a) n ↔ Covers a n := by
  match a with
  | [] => rfl
  | (low, high) :: a => exact covers_joinFrom hn h

/-- Sorted ranges that are joined do not touch each other any more. -/
theorem join_increasing (h : Sorted a) (hordered : ∀ x ∈ a, x.1 ≤ x.2) :
    Increasing (join a) := by
  match a with
  | [] => exact ⟨.nil, by simp [join]⟩
  | (low, high) :: a => exact (joinFrom_increasing h hordered).1

/-! ## Union and complement -/

/-- Sorting puts ranges in the order of their lower ends. -/
theorem mergeSort_sorted (a : Ranges) : Sorted (a.mergeSort fun x y => x.1 ≤ y.1) := by
  have hpairwise : (a.mergeSort fun x y => x.1 ≤ y.1).Pairwise
      fun x y => decide (x.1 ≤ y.1) = true :=
    List.pairwise_mergeSort (by simpa using fun _ _ _ => Nat.le_trans)
      (by simpa using Nat.le_total) a
  simpa [Sorted] using hpairwise

/-- Two sorted lists of ranges are merged into a sorted one. -/
theorem merge_sorted (ha : Sorted a) (hb : Sorted b) :
    Sorted (List.merge a b fun x y => x.1 ≤ y.1) := by
  have hmerge : (List.merge a b fun x y => x.1 ≤ y.1).Pairwise
      fun x y => decide (x.1 ≤ y.1) = true :=
    List.pairwise_merge (by simpa using fun _ _ _ => Nat.le_trans)
      (by simpa using Nat.le_total) a b (by simpa [Sorted] using ha) (by simpa [Sorted] using hb)
  simpa [Sorted] using hmerge

/-- The union of two sets is in normal form if both sets are. -/
theorem union_increasing (ha : Increasing a) (hb : Increasing b) : Increasing (union a b) := by
  refine join_increasing (merge_sorted ha.sorted hb.sorted) fun x hx => ?_
  exact (List.mem_merge.mp hx).elim (ha.ordered x) (hb.ordered x)

/-- A character is in the union if it is in one of the two sets. -/
theorem covers_union (hn : IsScalar n) (ha : Increasing a) (hb : Increasing b) :
    Covers (union a b) n ↔ Covers a n ∨ Covers b n := by
  rw [union, covers_join hn (merge_sorted ha.sorted hb.sorted)]
  simp only [Covers, List.mem_merge, or_and_right, exists_or]

/-- The gaps between increasing ranges hold the characters from the start on that the ranges
leave out. -/
theorem covers_gapsFrom (hn : IsScalar n) (hmax : n ≤ maxCodePoint) (ha : Increasing a)
    (hstart : ∀ x ∈ a, x.1 ≤ n → start ≤ n) :
    Covers (gapsFrom start a) n ↔ start ≤ n ∧ ¬ Covers a n := by
  induction a generalizing start with
  | nil =>
    rw [gapsFrom]
    split
    · simp [hmax]
    · simp
      omega
  | cons x a ih =>
    obtain ⟨low, high⟩ := x
    have hlater := List.pairwise_cons.mp ha.apart
    have hrange : low ≤ high := ha.ordered (low, high) (by simp)
    have hgap : high < n ↔ after high ≤ n := lt_iff_after_le hn
    have habove : ∀ y ∈ a, y.1 ≤ n → after high ≤ n := fun y hy hle => by
      have hapart : high < y.1 := hlater.1 y hy
      omega
    have hcovers : Covers a n → high < n := by
      rintro ⟨y, hy, hle, -⟩
      exact hgap.mpr (habove y hy hle)
    have hhere : low ≤ n → start ≤ n := hstart (low, high) (by simp)
    rw [gapsFrom, covers_cons]
    split
    · next hlow =>
      have hbefore := le_before_iff hn hlow
      rw [covers_cons, ih ha.tail habove]
      grind
    · rw [ih ha.tail habove]
      grind

/-- The gaps between increasing ranges begin one after another, and none of them before a bound
which the start and the upper ends keep. -/
theorem gapsFrom_sorted (ha : Increasing a) :
    Sorted (gapsFrom start a) ∧
      ∀ bound ≤ start, (∀ x ∈ a, bound ≤ x.2) → ∀ x ∈ gapsFrom start a, bound ≤ x.1 := by
  induction a generalizing start with
  | nil =>
    rw [gapsFrom]
    split
    · exact ⟨List.pairwise_singleton .., by simp⟩
    · exact ⟨.nil, by simp⟩
  | cons x a ih =>
    obtain ⟨low, high⟩ := x
    have hlater := List.pairwise_cons.mp ha.apart
    have hrange : low ≤ high := ha.ordered (low, high) (by simp)
    have hafter := lt_after high
    obtain ⟨hsorted, hbounds⟩ : Sorted (gapsFrom (after high) a) ∧ _ := ih ha.tail
    have hlarge : ∀ x ∈ a, high ≤ x.2 := fun y hy => by
      have hapart : high < y.1 := hlater.1 y hy
      have hordered := ha.ordered y (by simp [hy])
      omega
    rw [gapsFrom]
    split
    · next hlow =>
      refine ⟨List.pairwise_cons.mpr ⟨hbounds start (by omega) fun y hy => ?_, hsorted⟩, ?_⟩
      · have hle := hlarge y hy
        omega
      · intro bound hbound hends y hy
        rcases List.mem_cons.mp hy with rfl | hy
        · exact hbound
        · exact hbounds bound (by omega) (fun z hz => hends z (by simp [hz])) y hy
    · refine ⟨hsorted, fun bound hbound hends y hy => ?_⟩
      have hhigh : bound ≤ high := hends (low, high) (by simp)
      exact hbounds bound (by omega) (fun z hz => hends z (by simp [hz])) y hy

/-- A code point that the ranges leave out is in the complement. -/
theorem contains_compl (hn : IsScalar n) (hmax : n ≤ maxCodePoint) (ha : Increasing a) :
    (compl a).contains n = !a.contains n := by
  rw [Bool.eq_iff_iff, compl, contains_iff (gapsFrom_sorted ha).1,
    covers_gapsFrom hn hmax ha (by simp), ← contains_iff ha.sorted]
  simp

/-- The search through the union finds what the search through one of the two sets finds. -/
theorem contains_union (hn : IsScalar n) (ha : Increasing a) (hb : Increasing b) :
    (union a b).contains n = (a.contains n || b.contains n) := by
  rw [Bool.eq_iff_iff, Bool.or_eq_true, contains_iff (union_increasing ha hb).sorted,
    contains_iff ha.sorted, contains_iff hb.sorted, covers_union hn ha hb]

/-- A set that is given by one range is that range. -/
theorem ofList_range (h : low ≤ high) : ofList [(low, high)] = [(low, high)] := by
  simp [ofList, h, join, joinFrom]

/-- A single range is in normal form if its ends are in order. -/
theorem increasing_singleton (h : low ≤ high) : Increasing [(low, high)] :=
  ⟨List.pairwise_singleton .., by simpa using h⟩

end Text.Ranges

namespace Regex.CharSet

open Text Ranges

variable {s t : CharSet} {c d : Char}

/-- The code point of a character is no surrogate and not above the greatest code point. -/
theorem isScalar_toNat (c : Char) : IsScalar c.toNat ∧ c.toNat ≤ maxCodePoint := by
  have hvalid : c.toNat < 0xD800 ∨ 0xDFFF < c.toNat ∧ c.toNat < 0x110000 := c.valid
  unfold IsScalar maxCodePoint
  omega

/-- The ranges of the set increase, as they do in every set that the operations build. -/
def Wellformed (s : CharSet) : Prop := Increasing s.ranges

/-- A range of characters is in normal form. -/
theorem range_wellformed {low high : Nat} (h : low ≤ high) : (range low high).Wellformed := by
  rw [Wellformed, range, ofList_range h]
  exact increasing_singleton h

/-- The set of a single character is in normal form. -/
theorem single_wellformed (c : Char) : (single c).Wellformed := range_wellformed (Nat.le_refl _)

/-- The union of sets in normal form is in normal form. -/
theorem Wellformed.union (hs : s.Wellformed) (ht : t.Wellformed) : (s.union t).Wellformed :=
  union_increasing hs ht

/-- A character is in a range if it lies between the ends, which belong to it. -/
theorem mem_range {low high : Nat} (h : low ≤ high) :
    (range low high).mem c = (decide (low ≤ c.toNat) && decide (c.toNat ≤ high)) := by
  rw [mem, range, ofList_range h, Bool.eq_iff_iff,
    contains_iff (increasing_singleton h).sorted]
  simp

/-- The set of a single character has that character only. -/
theorem mem_single : (single c).mem d = (d == c) := by
  rw [single, mem_range (Nat.le_refl _), Bool.eq_iff_iff, beq_iff_eq, ← Char.toNat_inj,
    Bool.and_eq_true, decide_eq_true_eq, decide_eq_true_eq]
  omega

/-- Every character is in the set of all characters. -/
theorem mem_all (c : Char) : all.mem c = true := by
  rw [all, mem_range (Nat.zero_le _)]
  simpa using (isScalar_toNat c).2

/-- A character is in the union of two sets if it is in one of them. -/
theorem mem_union (hs : s.Wellformed) (ht : t.Wellformed) :
    (s.union t).mem c = (s.mem c || t.mem c) := contains_union (isScalar_toNat c).1 hs ht

/-- A character is in the complement of a set if it is not in the set. -/
theorem mem_compl (hs : s.Wellformed) : s.compl.mem c = !s.mem c :=
  contains_compl (isScalar_toNat c).1 (isScalar_toNat c).2 hs

/-- The set of white space has the characters that are white space for the trimming of texts
too. -/
@[simp] theorem mem_whitespace (c : Char) : whitespace.mem c = isWhitespace c := rfl

end Regex.CharSet

end ArtifactPipeline
