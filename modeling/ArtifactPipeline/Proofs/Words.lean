import ArtifactPipeline.Proofs.CharSets

/-!
# White space is not part of words

The tables that word characters are put together from leave out all white space. Each table is read
once, and every range in it lies in one of the stretches between white space.
-/

namespace ArtifactPipeline.Text

open Ranges

/-- The stretches between white space, the widest ones first. -/
def stretches : Ranges :=
  [(0x3001, maxCodePoint), (0xA1, 0x167F), (0x1681, 0x1FFF), (0x2060, 0x2FFF), (0x21, 0x84),
   (0x86, 0x9F), (0x200B, 0x2027), (0x202A, 0x202E), (0x2030, 0x205E)]

/-- Whether a range lies between white space. -/
def keepsClear (x : Nat × Nat) : Bool := stretches.any fun y => y.1 ≤ x.1 && x.2 ≤ y.2

/-- No code point of the ranges is white space. -/
def IsClear (a : Ranges) : Prop := ∀ x ∈ a, keepsClear x = true

/-- A code point of a range between white space is no white space. -/
theorem not_whitespace_of_keepsClear {x : Nat × Nat} {n : Nat} (h : keepsClear x = true)
    (hlow : x.1 ≤ n) (hhigh : n ≤ x.2) : ¬ Covers whitespaceRanges n := by
  simp [keepsClear, stretches, maxCodePoint] at h
  simp [whitespaceRanges]
  omega

/-! ## Reading the tables -/

/-- Whether all ranges in a written form lie between white space. -/
def readsClear (text : List Char) : Bool :=
  ((((splitOn '\n' text).flatMap (splitOn ' ')).filter (!·.isEmpty)).flatMap rangesOfText).all
    keepsClear

/-- A table can be checked in its written form, without putting it together first. -/
theorem isClear_ofText {text : String} {chars : List Char} (htext : text = String.ofList chars)
    (h : readsClear chars = true) : IsClear (Ranges.ofText text) := by
  subst htext
  rw [readsClear, List.all_eq_true] at h
  intro x hx
  rw [Ranges.ofText, words, String.toList_ofList] at hx
  exact h x hx

set_option maxRecDepth 100000 in
/-- The general categories that word characters have. -/
theorem isClear_categories : ∀ category ∈ Table.generalCategories,
    ["Lu", "Ll", "Lt", "Lm", "Lo", "Nl", "Mn", "Mc", "Me", "Nd", "Pc"].contains category.1 = true →
      IsClear (Ranges.ofText category.2) := by
  simp only [Table.generalCategories, List.forall_mem_cons]
  refine ⟨?Lu, ?Ll, ?Lt, ?Lm, ?Lo, ?Mn, ?Mc, ?Me, ?Nd, ?Nl, ?No, ?Pc, ?others⟩
  case No => exact fun h => absurd h (by decide)
  case others => simp
  all_goals exact fun _ => isClear_ofText rfl (by decide +kernel)

set_option maxRecDepth 100000 in
/-- The listed properties that word characters have. -/
theorem isClear_listed : ∀ property ∈ Table.listedProperties,
    (property.1.contains "otheralphabetic" || property.1.contains "joincontrol") = true →
      IsClear (Ranges.ofText property.2) := by
  simp only [Table.listedProperties, List.forall_mem_cons]
  and_intros
  all_goals
    first
    | exact fun h => absurd h (by decide)
    | exact fun _ => isClear_ofText rfl (by decide +kernel)
    | simp

/-! ## Putting the tables together -/

/-- An increasing set of code points without white space. -/
structure BesideBlanks (a : Ranges) : Prop where
  increasing : Increasing a
  apart : ∀ n, IsScalar n → Covers a n → ¬ Covers whitespaceRanges n

variable {a b : Ranges}

/-- The union of sets without white space has none. -/
theorem BesideBlanks.union (ha : BesideBlanks a) (hb : BesideBlanks b) :
    BesideBlanks (a.union b) where
  increasing := union_increasing ha.increasing hb.increasing
  apart n hn h := ((covers_union hn ha.increasing hb.increasing).mp h).elim (ha.apart n hn)
    (hb.apart n hn)

/-- A set that is put together from ranges without white space has none. -/
theorem besideBlanks_ofList (h : IsClear a) : BesideBlanks (Ranges.ofList a) := by
  refine ⟨join_increasing (mergeSort_sorted _) (by simp), fun n hn hcovers => ?_⟩
  obtain ⟨x, hx, hlow, hhigh⟩ := (covers_join hn (mergeSort_sorted _)).mp hcovers
  have hmem : x ∈ a := (List.mem_filter.mp (List.mem_mergeSort.mp hx)).1
  exact not_whitespace_of_keepsClear (h x hmem) hlow hhigh

/-- The union of the tables that are chosen by their names has no white space if those tables
have none. -/
theorem besideBlanks_unionWhere {Name : Type} {tables : List (Name × String)} {test : Name → Bool}
    (h : ∀ table ∈ tables, test table.1 = true → IsClear (Ranges.ofText table.2)) :
    BesideBlanks (Formula.unionWhere tables test) := by
  refine besideBlanks_ofList fun x hx => ?_
  obtain ⟨table, htable, hx⟩ := List.mem_flatMap.mp hx
  obtain ⟨hmem, htest⟩ := List.mem_filter.mp htable
  exact h table hmem htest x hx

/-- The characters of words are put together from tables without white space. -/
theorem besideBlanks_word : BesideBlanks wordRanges := by
  have hcategories (names : List String) (hnames : names ⊆
      ["Lu", "Ll", "Lt", "Lm", "Lo", "Nl", "Mn", "Mc", "Me", "Nd", "Pc"]) :
      BesideBlanks (Formula.categories names).toRanges :=
    besideBlanks_unionWhere fun category hcategory htest =>
      isClear_categories category hcategory (by simpa using hnames (by simpa using htest))
  have hlisted (name : String) (hname : name = "otheralphabetic" ∨ name = "joincontrol") :
      BesideBlanks (Formula.listed name).toRanges :=
    besideBlanks_unionWhere fun property hproperty htest =>
      isClear_listed property hproperty (by rcases hname with rfl | rfl <;> simp_all)
  have halphabetic := (hcategories ["Lu", "Ll", "Lt", "Lm", "Lo"] (by decide)).union
    ((hcategories ["Nl"] (by decide)).union (hlisted _ (Or.inl rfl)))
  exact halphabetic.union ((hcategories ["Mn", "Mc", "Me", "Nd", "Pc"] (by decide)).union
    (hlisted _ (Or.inr rfl)))

/-- The table of white space is in normal form. -/
theorem whitespace_increasing : Increasing whitespaceRanges :=
  ⟨by decide, by decide⟩

/-- White space is not part of words. -/
theorem isWord_of_isWhitespace {c : Char} (h : isWhitespace c = true) : isWord c = false := by
  have hcovers := (contains_iff whitespace_increasing.sorted).mp h
  have hscalar := (Regex.CharSet.isScalar_toNat c).1
  unfold isWord
  split
  · simp only [whitespaceRanges, covers_cons, covers_nil, or_false] at hcovers
    have hne : c ≠ '_' := by
      rintro rfl
      simp at hcovers
    have hbetween (low high : Char) (hlow : 32 < low.toNat) :
        (decide (low ≤ c) && decide (c ≤ high)) = false := by
      have hnot : ¬ low ≤ c := by
        rw [Char.le_def, UInt32.le_iff_toNat_le]
        change ¬ low.toNat ≤ c.toNat
        omega
      simp [hnot]
    rw [isAsciiWord, isAsciiLetter, isAsciiDigit, hbetween 'a' 'z' (by decide),
      hbetween 'A' 'Z' (by decide), hbetween '0' '9' (by decide)]
    simpa using hne
  · rw [Bool.eq_false_iff]
    exact fun hword => besideBlanks_word.apart _ hscalar
      ((contains_iff besideBlanks_word.increasing.sorted).mp hword) hcovers

end ArtifactPipeline.Text
