import ArtifactPipeline.Json.Node
import Mathlib.Data.List.DropRight

/-!
# The grammar of JSON text

The grammar is given as a relation between a text and what it says, apart from the reader: a text is
spelled with any blanks between its parts, any of the escapes for a character, and numerals in any
of their forms. Whatever is spelled, the reader reads, and it stops where the text stops.
-/

namespace ArtifactPipeline.Json

open Text

/-- A run of blanks. -/
def Blanks (text : List Char) : Prop := ∀ c ∈ text, isBlank c = true

/-- A run of digits, of which there is at least one. -/
structure Digits (text : List Char) : Prop where
  nonempty : text ≠ []
  digits : ∀ c ∈ text, isAsciiDigit c = true

/-- A text between quotes spells the pieces of a string. -/
inductive SpellsPieces : List Char → List Piece → Prop
  | nil : SpellsPieces [] []
  | char {c : Char} {text : List Char} {pieces : List Piece} (hcontrol : 0x20 ≤ c.toNat)
    (hquote : c ≠ '"') (hbackslash : c ≠ '\\') (hrest : SpellsPieces text pieces) :
    SpellsPieces (c :: text) (.char c :: pieces)
  | escape {letter c : Char} {text : List Char} {pieces : List Piece}
    (hletter : simpleEscape? letter = some c) (hrest : SpellsPieces text pieces) :
    SpellsPieces ('\\' :: letter :: text) (.char c :: pieces)
  | unit {a b c d : Char} {n : Nat} {text : List Char} {pieces : List Piece}
    (hdigits : hexNumber? [a, b, c, d] = some n) (hrest : SpellsPieces text pieces) :
    SpellsPieces ('\\' :: 'u' :: a :: b :: c :: d :: text) (.unit n :: pieces)

/-- What the pieces of a string say. -/
def saidBy (pieces : List Piece) : Option String := (textOfPieces? pieces).map String.ofList

/-- A text spells the digits behind the point of a number, or there is no point. -/
inductive SpellsFraction : List Char → List Char → Prop
  | none : SpellsFraction [] []
  | point {digits : List Char} (hdigits : Digits digits) : SpellsFraction ('.' :: digits) digits

/-- A text spells the exponent of a number, or there is none. -/
inductive SpellsExponent : List Char → Option (Bool × List Char) → Prop
  | none : SpellsExponent [] none
  | plain {letter : Char} {digits : List Char} (hletter : letter = 'e' ∨ letter = 'E')
    (hdigits : Digits digits) : SpellsExponent (letter :: digits) (some (false, digits))
  | plus {letter : Char} {digits : List Char} (hletter : letter = 'e' ∨ letter = 'E')
    (hdigits : Digits digits) : SpellsExponent (letter :: '+' :: digits) (some (false, digits))
  | minus {letter : Char} {digits : List Char} (hletter : letter = 'e' ∨ letter = 'E')
    (hdigits : Digits digits) : SpellsExponent (letter :: '-' :: digits) (some (true, digits))

/-- A text without a sign spells a number. A leading zero is the only digit before the point. -/
structure SpellsUnsigned (text : List Char) (numeral : Numeral) : Prop where
  whole : Digits numeral.whole
  zero : numeral.whole.head? = some '0' → numeral.whole = ['0']
  parts : ∃ fraction exponent, text = numeral.whole ++ (fraction ++ exponent) ∧
    SpellsFraction fraction numeral.fraction ∧ SpellsExponent exponent numeral.exponent

/-- A text spells a number. -/
inductive SpellsNumeral : List Char → Numeral → Prop
  | positive {text : List Char} {numeral : Numeral} (hsign : numeral.negative = false)
    (htext : SpellsUnsigned text numeral) : SpellsNumeral text numeral
  | negative {text : List Char} {numeral : Numeral} (hsign : numeral.negative = true)
    (htext : SpellsUnsigned text numeral) : SpellsNumeral ('-' :: text) numeral

/-- What a part of a text says: a value, or what stands between the brackets of an array or the
braces of an object that are not empty. -/
inductive Fragment where
  | value (node : Node)
  | items (nodes : List Node)
  | members (members : List (Option String × Node))

/-- A text spells what a part of a text says. -/
inductive Spells : List Char → Fragment → Prop
  | null : Spells ['n', 'u', 'l', 'l'] (.value .null)
  | yes : Spells ['t', 'r', 'u', 'e'] (.value (.bool true))
  | no : Spells ['f', 'a', 'l', 's', 'e'] (.value (.bool false))
  | num {text : List Char} {numeral : Numeral} (h : SpellsNumeral text numeral) :
    Spells text (.value (.num numeral))
  | str {text : List Char} {pieces : List Piece} (h : SpellsPieces text pieces) :
    Spells ('"' :: (text ++ ['"'])) (.value (.str (saidBy pieces)))
  | noItems {blanks : List Char} (hblanks : Blanks blanks) :
    Spells ('[' :: (blanks ++ [']'])) (.value (.arr []))
  | arr {text : List Char} {nodes : List Node} (h : Spells text (.items nodes)) :
    Spells ('[' :: (text ++ [']'])) (.value (.arr nodes))
  | noMembers {blanks : List Char} (hblanks : Blanks blanks) :
    Spells ('\x7b' :: (blanks ++ ['\x7d'])) (.value (.obj []))
  | obj {text : List Char} {members : List (Option String × Node)}
    (h : Spells text (.members members)) :
    Spells ('\x7b' :: (text ++ ['\x7d'])) (.value (.obj members))
  | lastItem {before text after : List Char} {node : Node} (hbefore : Blanks before)
    (h : Spells text (.value node)) (hafter : Blanks after) :
    Spells (before ++ (text ++ after)) (.items [node])
  | item {before text after rest : List Char} {node : Node} {nodes : List Node}
    (hbefore : Blanks before) (h : Spells text (.value node)) (hafter : Blanks after)
    (hrest : Spells rest (.items nodes)) :
    Spells (before ++ (text ++ (after ++ ',' :: rest))) (.items (node :: nodes))
  | lastMember {before name colon inner text after : List Char} {pieces : List Piece} {node : Node}
    (hbefore : Blanks before) (hname : SpellsPieces name pieces) (hcolon : Blanks colon)
    (hinner : Blanks inner) (h : Spells text (.value node)) (hafter : Blanks after) :
    Spells (before ++ '"' :: (name ++ '"' :: (colon ++ ':' :: (inner ++ (text ++ after)))))
      (.members [(saidBy pieces, node)])
  | member {before name colon inner text after rest : List Char} {pieces : List Piece} {node : Node}
    {members : List (Option String × Node)} (hbefore : Blanks before)
    (hname : SpellsPieces name pieces) (hcolon : Blanks colon) (hinner : Blanks inner)
    (h : Spells text (.value node)) (hafter : Blanks after)
    (hrest : Spells rest (.members members)) :
    Spells (before ++
        '"' :: (name ++ '"' :: (colon ++ ':' :: (inner ++ (text ++ (after ++ ',' :: rest))))))
      (.members ((saidBy pieces, node) :: members))

/-! ## Blanks -/

section Blank

variable {blanks cs : List Char} {c : Char}

/-- Blanks in front are dropped. -/
theorem dropBlanks_append (h : Blanks blanks) (cs : List Char) :
    dropBlanks (blanks ++ cs) = dropBlanks cs :=
  List.dropWhile_append_of_pos h

/-- Nothing is dropped in front of a character that is no blank. -/
theorem dropBlanks_cons (h : isBlank c = false) : dropBlanks (c :: cs) = c :: cs :=
  List.dropWhile_cons_of_neg (by simp [h])

/-- Once the blanks are dropped there are none left to drop. -/
theorem dropBlanks_dropBlanks (cs : List Char) : dropBlanks (dropBlanks cs) = dropBlanks cs :=
  List.dropWhile_idempotent isBlank cs

end Blank

/-! ## Strings -/

/-- A character that needs no escape is read as itself. -/
theorem readPieces_char {c : Char} (hcontrol : 0x20 ≤ c.toNat) (hquote : c ≠ '"')
    (hbackslash : c ≠ '\\') (read : List Piece) (rest : List Char) :
    readPieces read (c :: rest) = readPieces (.char c :: read) rest := by
  have hplain : ¬ (decide (c.toNat < 0x20) || c == '\\') = true := by
    simp [hbackslash, Nat.not_lt.mpr hcontrol]
  rw [readPieces, if_neg hplain]
  · exact hquote
  · rintro a b c d tail rfl
    exact absurd rfl hbackslash
  · rintro a tail rfl
    exact absurd rfl hbackslash

/-- An escape of one letter is read as the character that it stands for. -/
theorem readPieces_escape {letter c : Char} (hletter : simpleEscape? letter = some c)
    (read : List Piece) (rest : List Char) :
    readPieces read ('\\' :: letter :: rest) = readPieces (.char c :: read) rest := by
  have hu : letter ≠ 'u' := by
    rintro rfl
    cases hletter
  rw [readPieces, hletter]
  rintro a b c d tail rfl
  exact absurd rfl hu

/-- A text that spells the pieces of a string is read as these pieces, up to the closing quote.
-/
theorem readPieces_spelled {text : List Char} {pieces : List Piece} (h : SpellsPieces text pieces)
    (read : List Piece) (rest : List Char) :
    readPieces read (text ++ '"' :: rest) = some (read.reverse ++ pieces, rest) := by
  induction h generalizing read with
  | nil => simp [readPieces]
  | @char c text pieces hcontrol hquote hbackslash _ ih =>
    rw [List.cons_append, readPieces_char hcontrol hquote hbackslash, ih]
    simp
  | @escape letter c text pieces hletter _ ih =>
    rw [List.cons_append, List.cons_append, readPieces_escape hletter, ih]
    simp
  | @unit a b c d n text pieces hdigits _ ih =>
    simp only [List.cons_append]
    rw [readPieces, hdigits]
    simp [ih]

/-- A string is read as what its pieces say, which may be nothing if a surrogate has no partner.
-/
theorem readString_spelled {text : List Char} {pieces : List Piece} (h : SpellsPieces text pieces)
    (rest : List Char) : readString (text ++ '"' :: rest) = some (saidBy pieces, rest) := by
  rw [readString, readPieces_spelled h]
  rfl

/-! ## Numbers -/

/-- A text that does not go on with a number. -/
def Stops (rest : List Char) : Prop :=
  ∀ c, rest.head? = some c → isAsciiDigit c = false ∧ c ≠ '.' ∧ c ≠ 'e' ∧ c ≠ 'E'

/-- Digits are read up to where they end. -/
theorem readDigits_spelled {digits rest : List Char} (h : Digits digits)
    (hrest : ∀ c, rest.head? = some c → isAsciiDigit c = false) :
    readDigits (digits ++ rest) = some (digits, rest) := by
  have htake : rest.takeWhile isAsciiDigit = [] := by
    cases rest with
    | nil => rfl
    | cons c rest => exact List.takeWhile_cons_of_neg (by simp [hrest c rfl])
  have hdrop : rest.dropWhile isAsciiDigit = rest := by
    cases rest with
    | nil => rfl
    | cons c rest => exact List.dropWhile_cons_of_neg (by simp [hrest c rfl])
  rw [readDigits, List.takeWhile_append_of_pos h.digits, List.dropWhile_append_of_pos h.digits,
    htake, hdrop, List.append_nil]
  simp [h.nonempty]

/-- An exponent is read if there is one, where the number stops behind it. -/
theorem readExponent_spelled {text rest : List Char} {exponent : Option (Bool × List Char)}
    (h : SpellsExponent text exponent) (hrest : Stops rest) :
    readExponent (text ++ rest) = some (exponent, rest) := by
  have hdigits {digits : List Char} (hdigits : Digits digits) :
      readDigits (digits ++ rest) = some (digits, rest) :=
    readDigits_spelled hdigits fun c hc => (hrest c hc).1
  cases h with
  | none =>
    cases rest with
    | nil => rfl
    | cons c rest =>
      obtain ⟨-, -, he, hE⟩ := hrest c rfl
      simp [readExponent, he, hE]
  | @plain letter digits hletter hspelled =>
    have hread := hdigits hspelled
    obtain ⟨d, digits, rfl⟩ := List.exists_cons_of_ne_nil hspelled.nonempty
    have hd : isAsciiDigit d = true := hspelled.digits d List.mem_cons_self
    have hminus : d ≠ '-' := by rintro rfl; cases hd
    have hplus : d ≠ '+' := by rintro rfl; cases hd
    rw [List.cons_append] at hread
    rcases hletter with rfl | rfl
    · simp [readExponent, hminus, hplus, hread]
    · simp [readExponent, hminus, hplus, hread]
  | plus hletter hspelled | minus hletter hspelled =>
    rcases hletter with rfl | rfl
    · simp [readExponent, hdigits hspelled]
    · simp [readExponent, hdigits hspelled]

/-- Neither an exponent nor what follows a number begins with a digit or a point. -/
theorem head_of_exponent {text rest : List Char} {exponent : Option (Bool × List Char)}
    (h : SpellsExponent text exponent) (hrest : Stops rest) (c : Char)
    (hc : (text ++ rest).head? = some c) : isAsciiDigit c = false ∧ c ≠ '.' := by
  cases h with
  | none => exact ⟨(hrest c hc).1, (hrest c hc).2.1⟩
  | plain hletter | plus hletter | minus hletter =>
    cases hc
    rcases hletter with rfl | rfl <;> decide

/-- Reads a number after its sign. -/
def readUnsigned (negative : Bool) (cs : List Char) : Option (Numeral × List Char) := do
  let (whole, rest) ← readDigits cs
  if whole.head? == some '0' && whole.length > 1 then none
  let (fraction, rest) ← match rest with
    | '.' :: rest => readDigits rest
    | _ => some ([], rest)
  let (exponent, rest) ← readExponent rest
  return (⟨negative, whole, fraction, exponent⟩, rest)

/-- A number after a minus is negative. -/
theorem readNumeral_minus (cs : List Char) :
    readNumeral ('-' :: cs) = readUnsigned true cs := rfl

/-- A number without a minus is not negative. -/
theorem readNumeral_of_ne {c : Char} (hc : c ≠ '-') (cs : List Char) :
    readNumeral (c :: cs) = readUnsigned false (c :: cs) := by
  rw [readNumeral]
  · rfl
  · rintro tail hcons
    cases hcons
    exact hc rfl

/-- A number that is spelled without its sign is read, where the text does not go on with a
number. -/
theorem readUnsigned_spelled {text rest : List Char} {numeral : Numeral}
    (h : SpellsUnsigned text numeral) (hrest : Stops rest) :
    readUnsigned numeral.negative (text ++ rest) = some (numeral, rest) := by
  obtain ⟨fraction, exponent, rfl, hfraction, hexponent⟩ := h.parts
  have hhead := head_of_exponent hexponent hrest
  have hpower := readExponent_spelled hexponent hrest
  have hzero : (numeral.whole.head? == some '0' && decide (numeral.whole.length > 1)) = false := by
    by_cases hzero : numeral.whole.head? = some '0'
    · rw [h.zero hzero]
      rfl
    · simp [hzero]
  have hwhole (tail : List Char) (htail : ∀ c, tail.head? = some c → isAsciiDigit c = false) :=
    readDigits_spelled h.whole htail
  obtain ⟨negative, whole, digits, power⟩ := numeral
  simp only [readUnsigned, List.append_assoc]
  cases hfraction with
  | none =>
    rw [List.nil_append, hwhole _ fun c hc => (hhead c hc).1]
    simp only [Option.bind_eq_bind, Option.bind_some, hzero, Bool.false_eq_true, if_false]
    split
    · rename_i tail heq
      exact absurd rfl (hhead '.' (by rw [heq]; rfl)).2
    · rw [hpower]
      rfl
  | point hdigits =>
    rw [List.cons_append, hwhole _ fun c hc => by cases hc; rfl]
    simp only [Option.bind_eq_bind, Option.bind_some, hzero, Bool.false_eq_true, if_false]
    rw [readDigits_spelled hdigits fun c hc => (hhead c hc).1, Option.bind_some, hpower]
    rfl

/-- A number is read up to where it stops. -/
theorem readNumeral_spelled {text rest : List Char} {numeral : Numeral}
    (h : SpellsNumeral text numeral) (hrest : Stops rest) :
    readNumeral (text ++ rest) = some (numeral, rest) := by
  cases h with
  | negative hsign htext =>
    rw [List.cons_append, readNumeral_minus, ← hsign]
    exact readUnsigned_spelled htext hrest
  | positive hsign htext =>
    have hread := readUnsigned_spelled htext hrest
    obtain ⟨fraction, exponent, rfl, -, -⟩ := htext.parts
    obtain ⟨d, digits, hwhole⟩ := List.exists_cons_of_ne_nil htext.whole.nonempty
    have hd : isAsciiDigit d = true := htext.whole.digits d (by simp [hwhole])
    rw [hsign, hwhole, List.cons_append, List.cons_append] at hread
    rw [hwhole, List.cons_append, List.cons_append, readNumeral_of_ne (by rintro rfl; cases hd)]
    exact hread

/-! ## Values -/

section Values

variable {text blanks cs rest : List Char} {node : Node} {nodes : List Node}
  {members : List (Option String × Node)} {fuel : Nat}

/-- Blanks before a value do not matter. -/
theorem readNode_dropBlanks (fuel : Nat) (cs : List Char) :
    readNode fuel (dropBlanks cs) = readNode fuel cs := by
  cases fuel with
  | zero => rw [readNode, readNode]
  | succ fuel => rw [readNode, readNode, dropBlanks_dropBlanks]

/-- A value is read behind blanks as it is read without them. -/
theorem readNode_append (h : Blanks blanks) (fuel : Nat) (cs : List Char) :
    readNode fuel (blanks ++ cs) = readNode fuel cs := by
  rw [← readNode_dropBlanks, dropBlanks_append h, readNode_dropBlanks]

/-- Blanks before the next item of an array do not matter. -/
theorem readItems_dropBlanks (fuel : Nat) (read : List Node) (cs : List Char) :
    readItems fuel read (dropBlanks cs) = readItems fuel read cs := by
  cases fuel with
  | zero => rw [readItems, readItems]
  | succ fuel => rw [readItems, readItems, readNode_dropBlanks]

/-- Blanks before the next member of an object do not matter. -/
theorem readMembers_dropBlanks (fuel : Nat) (read : List (Option String × Node))
    (cs : List Char) : readMembers fuel read (dropBlanks cs) = readMembers fuel read cs := by
  cases fuel with
  | zero => rw [readMembers, readMembers]
  | succ fuel => rw [readMembers, readMembers, dropBlanks_dropBlanks]

/-- A number begins with a minus or with a digit. -/
theorem SpellsNumeral.head {numeral : Numeral} (h : SpellsNumeral text numeral) :
    ∃ c cs, text = c :: cs ∧ (c = '-' ∨ isAsciiDigit c = true) := by
  cases h with
  | negative => exact ⟨'-', _, rfl, .inl rfl⟩
  | positive _ htext =>
    obtain ⟨fraction, exponent, rfl, -, -⟩ := htext.parts
    obtain ⟨d, digits, hwhole⟩ := List.exists_cons_of_ne_nil htext.whole.nonempty
    rw [hwhole]
    exact ⟨d, _, rfl, .inr (htext.whole.digits d (by simp [hwhole]))⟩

/-- A value begins with neither a blank nor a closing bracket. -/
theorem Spells.head (h : Spells text (.value node)) :
    ∃ c cs, text = c :: cs ∧ isBlank c = false ∧ c ≠ ']' := by
  cases h with
  | num h =>
    obtain ⟨c, cs, rfl, hc⟩ := h.head
    refine ⟨c, cs, rfl, ?_, ?_⟩
    · simp only [isBlank, Bool.or_eq_false_iff, beq_eq_false_iff_ne, ne_eq]
      refine ⟨⟨⟨?_, ?_⟩, ?_⟩, ?_⟩ <;> · rintro rfl; rcases hc with hc | hc <;> cases hc
    · rintro rfl
      rcases hc with hc | hc <;> cases hc
  | _ => exact ⟨_, _, rfl, rfl, by decide⟩

/-- What stands in an array that is not empty begins with a value. -/
theorem Spells.items_head (h : Spells text (.items nodes)) (rest : List Char) :
    ∃ c cs, dropBlanks (text ++ rest) = c :: cs ∧ c ≠ ']' := by
  cases h with
  | lastItem hbefore h hafter | item hbefore h hafter hrest =>
    obtain ⟨c, cs, rfl, hblank, hc⟩ := h.head
    rw [List.append_assoc, dropBlanks_append hbefore, List.append_assoc, List.cons_append,
      dropBlanks_cons hblank]
    exact ⟨c, _, rfl, hc⟩

/-- What stands in an object that is not empty begins with a name. -/
theorem Spells.members_head (h : Spells text (.members members)) (rest : List Char) :
    ∃ cs, dropBlanks (text ++ rest) = '"' :: cs := by
  cases h with
  | lastMember hbefore | member hbefore =>
    rw [List.append_assoc, dropBlanks_append hbefore]
    exact ⟨_, dropBlanks_cons rfl⟩

/-- The text of an object stands between braces. -/
theorem Spells.obj_braces (h : Spells text (.value (.obj members))) :
    ∃ inner, text = '\x7b' :: (inner ++ ['\x7d']) := by
  cases h with
  | noMembers | obj => exact ⟨_, rfl⟩

/-- A number stops at blanks, and at what a number stops at if there are none. -/
theorem stops_blanks (h : Blanks blanks) (hrest : Stops rest) : Stops (blanks ++ rest) := by
  cases blanks with
  | nil => exact hrest
  | cons b blanks =>
    intro c hc
    cases hc
    have hb := h b List.mem_cons_self
    simp only [isBlank, Bool.or_eq_true, beq_iff_eq] at hb
    rcases hb with ((rfl | rfl) | rfl) | rfl <;> decide

/-- A number stops at a comma and at a closing bracket. -/
theorem stops_cons {c : Char} (hc : c = ',' ∨ c = ']' ∨ c = '\x7d') (rest : List Char) :
    Stops (c :: rest) := by
  intro d hd
  cases hd
  rcases hc with rfl | rfl | rfl <;> decide

/-- Reads the end of an array or an object behind a value. -/
theorem dropBlanks_append_cons {c : Char} (h : Blanks blanks) (hc : isBlank c = false)
    (rest : List Char) : dropBlanks (blanks ++ c :: rest) = c :: rest := by
  rw [dropBlanks_append h, dropBlanks_cons hc]

/-- A number that is spelled is read as a value. -/
theorem readNode_num {numeral : Numeral} (h : SpellsNumeral text numeral) (hrest : Stops rest)
    (fuel : Nat) : readNode (fuel + 1) (text ++ rest) = some (.num numeral, rest) := by
  have hread := readNumeral_spelled h hrest
  obtain ⟨c, cs, rfl, hstart⟩ := h.head
  obtain ⟨_, _, hcons, hblank, -⟩ := (Spells.num h).head
  rw [← (List.cons.inj hcons).1] at hblank
  rw [List.cons_append] at hread ⊢
  rw [readNode, dropBlanks_cons hblank]
  split
  -- No other value begins as a number does.
  all_goals first
    | rw [hread]; rfl
    | rename_i heq
      obtain ⟨rfl, -⟩ := List.cons.inj heq
      rcases hstart with hc | hc <;> cases hc

/-- Reads an item and what separates it from the next one or ends the array. -/
theorem readItems_step {before after : List Char} {read : List Node} {c : Char}
    (hbefore : Blanks before) (hafter : Blanks after) (hc : isBlank c = false)
    (hnode : readNode fuel (text ++ (after ++ c :: rest)) = some (node, after ++ c :: rest)) :
    readItems (fuel + 1) read (before ++ (text ++ (after ++ c :: rest))) =
      match c :: rest with
      | ',' :: rest => readItems fuel (node :: read) rest
      | ']' :: rest => some ((node :: read).reverse, rest)
      | _ => none := by
  rw [readItems, readNode_append hbefore, hnode]
  exact congrArg (fun rest => match rest with
    | ',' :: rest => readItems fuel (node :: read) rest
    | ']' :: rest => some ((node :: read).reverse, rest)
    | _ => none) (dropBlanks_append_cons hafter hc rest)

/-- Reads a member and what separates it from the next one or ends the object. -/
theorem readMembers_step {before name colon inner after : List Char} {pieces : List Piece}
    {read : List (Option String × Node)} {c : Char} (hbefore : Blanks before)
    (hname : SpellsPieces name pieces) (hcolon : Blanks colon) (hinner : Blanks inner)
    (hafter : Blanks after) (hc : isBlank c = false)
    (hnode : readNode fuel (text ++ (after ++ c :: rest)) = some (node, after ++ c :: rest)) :
    readMembers (fuel + 1) read (before ++ '"' :: (name ++ '"' :: (colon ++
        ':' :: (inner ++ (text ++ (after ++ c :: rest)))))) =
      match c :: rest with
      | ',' :: rest => readMembers fuel ((saidBy pieces, node) :: read) rest
      | '\x7d' :: rest => some (((saidBy pieces, node) :: read).reverse, rest)
      | _ => none := by
  rw [readMembers, dropBlanks_append_cons hbefore rfl]
  simp only []
  rw [readString_spelled hname]
  simp only []
  rw [dropBlanks_append_cons hcolon rfl]
  simp only []
  rw [readNode_append hinner, hnode]
  exact congrArg (fun rest => match rest with
    | ',' :: rest => readMembers fuel ((saidBy pieces, node) :: read) rest
    | '\x7d' :: rest => some (((saidBy pieces, node) :: read).reverse, rest)
    | _ => none) (dropBlanks_append_cons hafter hc rest)

/-- What the reader makes of a text that spells a part of a text. -/
def Fragment.ReadFrom (text : List Char) : Fragment → Prop
  | .value node => ∀ fuel rest, 2 * text.length ≤ fuel → Stops rest →
    readNode fuel (text ++ rest) = some (node, rest)
  | .items nodes => ∀ fuel read rest, 2 * text.length < fuel →
    readItems fuel read (text ++ ']' :: rest) = some (read.reverse ++ nodes, rest)
  | .members members => ∀ fuel read rest, 2 * text.length < fuel →
    readMembers fuel read (text ++ '\x7d' :: rest) = some (read.reverse ++ members, rest)

/-- There is fuel for a text that is not empty. -/
theorem exists_fuel {c : Char} (hfuel : 2 * (c :: text).length ≤ fuel) :
    ∃ less, fuel = less + 1 ∧ 2 * text.length < less := by
  rw [List.length_cons] at hfuel
  exact ⟨fuel - 1, by omega, by omega⟩

/-- The reader reads whatever is spelled. Each bracket and each comma pays for one step into a value
and one step along the list. -/
theorem Spells.read {fragment : Fragment} (h : Spells text fragment) : fragment.ReadFrom text := by
  induction h with
  | null | yes | no =>
    intro fuel rest hfuel _
    obtain ⟨fuel, rfl, -⟩ := exists_fuel hfuel
    rw [readNode]
    rfl
  | num h =>
    intro fuel rest hfuel hrest
    obtain ⟨c, cs, rfl, -⟩ := h.head
    obtain ⟨fuel, rfl, -⟩ := exists_fuel hfuel
    exact readNode_num h hrest fuel
  | str h =>
    intro fuel rest hfuel _
    obtain ⟨fuel, rfl, -⟩ := exists_fuel hfuel
    rw [readNode, List.cons_append, dropBlanks_cons rfl]
    simp only [List.append_assoc, List.cons_append, List.nil_append]
    rw [readString_spelled h]
    rfl
  | noItems hblanks | noMembers hblanks =>
    intro fuel rest hfuel _
    obtain ⟨fuel, rfl, -⟩ := exists_fuel hfuel
    rw [readNode, List.cons_append, dropBlanks_cons rfl]
    simp only [List.append_assoc, List.cons_append, List.nil_append]
    rw [dropBlanks_append_cons hblanks rfl]
    rfl
  | @arr text nodes h ih =>
    intro fuel rest hfuel _
    obtain ⟨fuel, rfl, hless⟩ := exists_fuel hfuel
    obtain ⟨c, cs, hhead, hc⟩ := h.items_head (']' :: rest)
    have hitems := ih fuel [] rest (by rw [List.length_append] at hless; omega)
    rw [← readItems_dropBlanks, hhead] at hitems
    rw [readNode, List.cons_append, dropBlanks_cons rfl]
    simp only [List.append_assoc, List.cons_append, List.nil_append, hhead]
    split
    · rename_i heq
      exact absurd (List.cons.inj heq).1 hc
    · rw [hitems]
      rfl
  | @obj text members h ih =>
    intro fuel rest hfuel _
    obtain ⟨fuel, rfl, hless⟩ := exists_fuel hfuel
    obtain ⟨cs, hhead⟩ := h.members_head ('\x7d' :: rest)
    have hmembers := ih fuel [] rest (by rw [List.length_append] at hless; omega)
    rw [← readMembers_dropBlanks, hhead] at hmembers
    rw [readNode, List.cons_append, dropBlanks_cons rfl]
    simp only [List.append_assoc, List.cons_append, List.nil_append, hhead]
    split
    · rename_i heq
      exact absurd (List.cons.inj heq).1 (by decide)
    · rw [hmembers]
      rfl
  | @lastItem before text after node hbefore h hafter ih =>
    intro fuel read rest hfuel
    cases fuel with
    | zero => omega
    | succ fuel =>
      simp only [List.length_append] at hfuel
      have hstops := stops_blanks hafter (stops_cons (.inr (.inl rfl)) rest)
      have hnode := ih fuel _ (by omega) hstops
      simp only [List.append_assoc]
      rw [readItems_step hbefore hafter rfl hnode]
      simp
  | @item before text after more node nodes hbefore h hafter hrest ih ihrest =>
    intro fuel read rest hfuel
    cases fuel with
    | zero => omega
    | succ fuel =>
      simp only [List.length_append, List.length_cons] at hfuel
      have hstops := stops_blanks hafter (stops_cons (.inl rfl) (more ++ ']' :: rest))
      have hnode := ih fuel _ (by omega) hstops
      simp only [List.append_assoc, List.cons_append]
      rw [readItems_step hbefore hafter rfl hnode]
      simp only []
      rw [ihrest fuel _ rest (by omega)]
      simp
  | @lastMember before name colon inner text after pieces node hbefore hname hcolon hinner h hafter
      ih =>
    intro fuel read rest hfuel
    cases fuel with
    | zero => omega
    | succ fuel =>
      simp only [List.length_append, List.length_cons] at hfuel
      have hstops := stops_blanks hafter (stops_cons (.inr (.inr rfl)) rest)
      have hnode := ih fuel _ (by omega) hstops
      simp only [List.append_assoc, List.cons_append]
      rw [readMembers_step hbefore hname hcolon hinner hafter rfl hnode]
      simp
  | @member before name colon inner text after more pieces node members hbefore hname hcolon hinner
      h hafter hrest ih ihrest =>
    intro fuel read rest hfuel
    cases fuel with
    | zero => omega
    | succ fuel =>
      simp only [List.length_append, List.length_cons] at hfuel
      have hstops := stops_blanks hafter (stops_cons (.inl rfl) (more ++ '\x7d' :: rest))
      have hnode := ih fuel _ (by omega) hstops
      simp only [List.append_assoc, List.cons_append]
      rw [readMembers_step hbefore hname hcolon hinner hafter rfl hnode]
      simp only []
      rw [ihrest fuel _ rest (by omega)]
      simp

end Values

/-- A text that spells a value is read as that value. -/
theorem parse_spelled {text : List Char} {node : Node} (h : Spells text (.value node)) :
    Node.parse text = some node := by
  have hread := h.read (2 * text.length + 2) [] (by omega) (by intro c hc; cases hc)
  rw [List.append_nil] at hread
  rw [Node.parse, hread]
  rfl

end ArtifactPipeline.Json
