import ArtifactPipeline.Json.Record
import ArtifactPipeline.Proofs.JsonGrammar
import Mathlib.Data.List.Forall2
import Mathlib.Tactic.SplitIfs

/-!
# Written JSON text

The written form of a value is spelled as the grammar has it: strings with the escapes that they
need, natural numbers with their decimal digits, lists and members with commas between neighbours.
So what has been written is read back.
-/

namespace ArtifactPipeline.Json

open Text

/-! ## Strings -/

/-- An escape for a code unit that is no surrogate stands for one character. -/
theorem textOfPieces?_unit {n : Nat} (h : n < 0xD800) (pieces : List Piece) :
    textOfPieces? (.unit n :: pieces) = (textOfPieces? pieces).map (Char.ofNat n :: ·) := by
  have hhigh : ¬ 0xD800 ≤ n := by omega
  have hlow : ¬ 0xDC00 ≤ n := by omega
  cases pieces with
  | nil => simp [textOfPieces?, hhigh]
  | cons piece pieces =>
    cases piece with
    | char c => simp [textOfPieces?, hhigh]
    | unit low => simp [textOfPieces?, hhigh, hlow]

/-- The hexadecimal digits of a control character are read back. -/
theorem hexNumber?_control : ∀ n < 0x20, hexNumber? (hexDigits 4 n) = some n := by decide

/-- A text inside quotes stands for one character. -/
def StandsFor (text : List Char) (c : Char) : Prop :=
  ∃ piece, (∀ rest pieces, SpellsPieces rest pieces →
      SpellsPieces (text ++ rest) (piece :: pieces)) ∧
    ∀ pieces, textOfPieces? (piece :: pieces) = (textOfPieces? pieces).map (c :: ·)

/-- An escape of one letter stands for its character. -/
theorem standsFor_escape {letter c : Char} (h : simpleEscape? letter = some c) :
    StandsFor ['\\', letter] c :=
  ⟨.char c, fun _ _ hrest => .escape h hrest, fun _ => by rw [textOfPieces?]⟩

/-- A control character has an escape of four digits that stands for it. -/
theorem standsFor_control {c : Char} (h : c.toNat < 0x20) :
    StandsFor ('\\' :: 'u' :: hexDigits 4 c.toNat) c := by
  refine ⟨.unit c.toNat, fun rest pieces hrest => ?_, fun pieces => ?_⟩
  · exact .unit (hexNumber?_control c.toNat h) hrest
  · rw [textOfPieces?_unit (by omega), Char.ofNat_toNat]

/-- The written form of a character stands for it. -/
theorem standsFor_escapeChar (c : Char) : StandsFor (escapeChar c) c := by
  unfold escapeChar
  split_ifs with hquote hbackslash hb hf hn hr ht hcontrol
  · obtain rfl := beq_iff_eq.mp hquote
    exact standsFor_escape rfl
  · obtain rfl := beq_iff_eq.mp hbackslash
    exact standsFor_escape rfl
  · obtain rfl := beq_iff_eq.mp hb
    exact standsFor_escape rfl
  · obtain rfl := beq_iff_eq.mp hf
    exact standsFor_escape rfl
  · obtain rfl := beq_iff_eq.mp hn
    exact standsFor_escape rfl
  · obtain rfl := beq_iff_eq.mp hr
    exact standsFor_escape rfl
  · obtain rfl := beq_iff_eq.mp ht
    exact standsFor_escape rfl
  · exact standsFor_control hcontrol
  · refine ⟨.char c, fun rest pieces hrest => ?_, fun _ => by rw [textOfPieces?]⟩
    exact .char (by omega) (by simpa using hquote) (by simpa using hbackslash) hrest

/-- The written form of a string says that string. -/
theorem spells_escaped (cs : List Char) :
    ∃ pieces, SpellsPieces (cs.flatMap escapeChar) pieces ∧ textOfPieces? pieces = some cs := by
  induction cs with
  | nil => exact ⟨[], .nil, rfl⟩
  | cons c cs ih =>
    obtain ⟨pieces, hspells, htext⟩ := ih
    obtain ⟨piece, hpiece, hmeans⟩ := standsFor_escapeChar c
    refine ⟨piece :: pieces, ?_, ?_⟩
    · rw [List.flatMap_cons]
      exact hpiece _ _ hspells
    · rw [hmeans, htext, Option.map_some]

/-- The escaped characters of a text spell pieces that say the text. -/
theorem spells_name (s : String) :
    ∃ pieces, SpellsPieces (s.toList.flatMap escapeChar) pieces ∧ saidBy pieces = some s := by
  obtain ⟨pieces, hspells, htext⟩ := spells_escaped s.toList
  refine ⟨pieces, hspells, ?_⟩
  rw [saidBy, htext, Option.map_some, String.ofList_toList]

/-- A text between quotes spells the text. -/
theorem spells_str (s : String) : Spells (Value.str s).write (.value (.str (some s))) := by
  obtain ⟨pieces, hspells, hmeans⟩ := spells_name s
  rw [Value.write, writeString, ← hmeans]
  exact .str hspells

/-! ## Natural numbers -/

/-- The numeral of a natural number. -/
def Numeral.ofNat (n : Nat) : Numeral := { negative := false, whole := Decimal.digitsOf n }

/-- The digits of a number that is not zero begin with another digit than zero. -/
theorem head?_digitsOf {n : Nat} (hn : 0 < n) :
    ∃ c, (Decimal.digitsOf n).head? = some c ∧ c ≠ '0' := by
  have hdigit : ∀ d < 10, 0 < d → Nat.digitChar d ≠ '0' := by decide
  rw [Decimal.digitsOf]
  induction n using Nat.strongRecOn with
  | ind n ih =>
    by_cases hsmall : n < 10
    · rw [Nat.toDigits_of_lt_base hsmall]
      exact ⟨_, rfl, hdigit n hsmall hn⟩
    · obtain ⟨c, hc, hne⟩ := ih (n / 10) (by omega) (by omega)
      refine ⟨c, ?_, hne⟩
      rw [Nat.toDigits_of_base_le (by decide) (by omega), List.head?_append, hc, Option.some_or]

/-- The decimal digits of a number are digits, and there is at least one. -/
theorem digits_digitsOf (n : Nat) : Digits (Decimal.digitsOf n) where
  nonempty h := by
    cases n with
    | zero => cases h
    | succ n =>
      obtain ⟨c, hc, -⟩ := head?_digitsOf (Nat.succ_pos n)
      rw [h] at hc
      cases hc
  digits c hc := by
    have hdigit := Nat.isDigit_of_mem_toDigits (by decide) (by decide) hc
    simpa [Char.isDigit, isAsciiDigit, Char.le_def] using hdigit

/-- The decimal digits of a natural number are spelled as a number. -/
theorem spells_digitsOf (n : Nat) :
    Spells (Decimal.digitsOf n) (.value (.num (Numeral.ofNat n))) := by
  refine .num (.positive rfl ⟨digits_digitsOf n, fun hzero => ?_, [], [], ?_, .none, .none⟩)
  · cases n with
    | zero => rfl
    | succ n =>
      obtain ⟨c, hc, hne⟩ := head?_digitsOf (Nat.succ_pos n)
      exact absurd (Option.some.inj (hc.symm.trans hzero)) hne
  · simp [Numeral.ofNat]

/-- The decimal digits of a number spell its numeral, which has no needless zero in front. -/
theorem spells_nat (n : Nat) : Spells (Value.nat n).write (.value (.num (.ofNat n))) := by
  have hwrite : (Value.nat n).write = Decimal.digitsOf n := by
    rw [Value.nat, Value.write, writeInt, if_neg (by omega), Int.natAbs_natCast]
  rw [hwrite]
  exact spells_digitsOf n

/-- Digits never make less of the number that they are put behind. -/
theorem le_ofDigitChars (n : Nat) (digits : List Char) : n ≤ Nat.ofDigitChars 10 digits n := by
  induction digits generalizing n with
  | nil => exact Nat.le_refl n
  | cons c digits ih =>
    rw [Nat.ofDigitChars_cons]
    exact Nat.le_trans (by omega) (ih _)

/-- Digits are taken up whole as long as their number fits. -/
theorem accumulate_eq {n taken : Nat} {digits : List Char}
    (h : Nat.ofDigitChars 10 digits n ≤ Numeral.maxUnsigned) :
    Numeral.accumulate n taken digits =
      (Nat.ofDigitChars 10 digits n, taken + digits.length, []) := by
  induction digits generalizing n taken with
  | nil => rfl
  | cons c digits ih =>
    have hstep : n * 10 + Numeral.digitValue c = 10 * n + (c.toNat - '0'.toNat) := by
      rw [Nat.mul_comm]
      rfl
    rw [Nat.ofDigitChars_cons] at h ⊢
    rw [Numeral.accumulate, hstep, if_pos (Nat.le_trans (le_ofDigitChars _ _) h), ih h,
      List.length_cons]
    simp only [Prod.mk.injEq, true_and, and_true]
    omega

/-- The numeral of a natural number that fits has that number as its value. -/
theorem Numeral.value?_ofNat {n : Nat} (h : n ≤ maxUnsigned) :
    (Numeral.ofNat n).value? = some (.int n) := by
  have hdigits : Nat.ofDigitChars 10 (Decimal.digitsOf n) 0 = n :=
    Nat.ofDigitChars_toDigits (by decide) (by decide)
  rw [value?, Numeral.ofNat, accumulate_eq (by rwa [hdigits]), hdigits]
  rfl

/-- A natural number that fits is read back. -/
theorem natBelow?_ofNat {n bound : Nat} (h : n < bound) (hfits : n ≤ Numeral.maxUnsigned) :
    Node.natBelow? bound (.num (Numeral.ofNat n)) = some n := by
  rw [Node.natBelow?, Numeral.value?_ofNat hfits]
  simp [h]

/-! ## Lists and members -/

/-- The missing value is spelled as it is written. -/
theorem spells_null : Spells Value.null.write (.value .null) := by
  rw [Value.write]
  exact .null

/-- Truth values are spelled as they are written. -/
theorem spells_bool (b : Bool) : Spells (Value.bool b).write (.value (.bool b)) := by
  cases b with
  | false =>
    rw [Value.write]
    exact .no
  | true =>
    rw [Value.write]
    exact .yes

/-- No blanks at all are blanks. -/
theorem blanks_nil : Blanks [] := by simp [Blanks]

/-- The written items of an array spell what each of them spells. -/
theorem spells_writeItems {values : List Value} {nodes : List Node} (hvalues : values ≠ [])
    (h : List.Forall₂ (fun v node => Spells v.write (.value node)) values nodes) :
    Spells (Value.writeItems values) (.items nodes) := by
  induction h with
  | nil => exact absurd rfl hvalues
  | @cons v node values nodes hv hrest ih =>
    cases hrest with
    | nil =>
      have hlast := Spells.lastItem blanks_nil hv blanks_nil
      rwa [List.nil_append, List.append_nil] at hlast
    | cons =>
      rw [Value.writeItems]
      · exact .item blanks_nil hv blanks_nil (ih (by simp))
      · simp

/-- A list is spelled as it is written if its values are. -/
theorem spells_arr {values : List Value} {nodes : List Node}
    (h : List.Forall₂ (fun v node => Spells v.write (.value node)) values nodes) :
    Spells (Value.arr values).write (.value (.arr nodes)) := by
  rw [Value.write]
  cases h with
  | nil => exact .noItems blanks_nil
  | cons hv hrest => exact .arr (spells_writeItems (by simp) (.cons hv hrest))

/-- A list of texts is spelled as it is written. -/
theorem spells_texts (texts : List String) :
    Spells (Value.list .str texts).write
      (.value (.arr (texts.map fun s => .str (some s)))) := by
  refine spells_arr ?_
  rw [List.forall₂_map_left_iff, List.forall₂_map_right_iff, List.forall₂_same]
  exact fun s _ => spells_str s

/-- The written members of an object spell what each of them spells. -/
theorem spells_writeMembers {members : List (String × Value)}
    {nodes : List (Option String × Node)} (hmembers : members ≠ [])
    (h : List.Forall₂ (fun (m : String × Value) (node : Option String × Node) =>
      node.1 = some m.1 ∧ Spells m.2.write (.value node.2)) members nodes) :
    Spells (Value.writeMembers members) (.members nodes) := by
  induction h with
  | nil => exact absurd rfl hmembers
  | @cons m node members nodes hm hrest ih =>
    obtain ⟨name, v⟩ := m
    obtain ⟨said, node⟩ := node
    obtain ⟨hsaid, hv⟩ := hm
    obtain ⟨pieces, hname, hmeans⟩ := spells_name name
    obtain rfl : said = saidBy pieces := hsaid.trans hmeans.symm
    cases hrest with
    | nil =>
      have hlast := Spells.lastMember blanks_nil hname blanks_nil blanks_nil hv blanks_nil
      rw [Value.writeMembers, writeString]
      simpa using hlast
    | cons =>
      have hmore :=
        Spells.member blanks_nil hname blanks_nil blanks_nil hv blanks_nil (ih (by simp))
      rw [Value.writeMembers, writeString]
      · simpa using hmore
      · simp

/-- An object is spelled as it is written if its values are, under the names of its members. -/
theorem spells_obj {members : List (String × Value)} {nodes : List (Option String × Node)}
    (h : List.Forall₂ (fun (m : String × Value) (node : Option String × Node) =>
      node.1 = some m.1 ∧ Spells m.2.write (.value node.2)) members nodes) :
    Spells (Value.obj members).write (.value (.obj nodes)) := by
  rw [Value.write]
  cases h with
  | nil => exact .noMembers blanks_nil
  | cons hm hrest => exact .obj (spells_writeMembers (by simp) (.cons hm hrest))

end ArtifactPipeline.Json
