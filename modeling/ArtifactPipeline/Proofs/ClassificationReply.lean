import ArtifactPipeline.Plan.Classification
import ArtifactPipeline.Proofs.RecordParts
import ArtifactPipeline.Proofs.Trimming

/-!
# Replies that hold a classification

A model writes a classification into prose, between other members and with names in a style of its
own. The object is found from the outermost braces, other members are passed over, and the names are
normalized, so a reply that describes a classification is read as that classification. What has been
written for a classification is one such description.
-/

namespace ArtifactPipeline

open Text Json

/-! ## The object in prose -/

/-- An object is found between texts that bring no brace on its outer side. -/
theorem Classification.objectSpan_append {before inner after : List Char}
    (hbefore : '\x7b' ∉ before) (hafter : '\x7d' ∉ after) :
    objectSpan (before ++ ('\x7b' :: (inner ++ ['\x7d']) ++ after)) =
      '\x7b' :: (inner ++ ['\x7d']) := by
  have hskip : ∀ c ∈ before, (c != '\x7b') = true := fun c hc =>
    bne_iff_ne.mpr fun heq => hbefore (heq ▸ hc)
  have hcut : ∀ c ∈ after.reverse, (c != '\x7d') = true := fun c hc =>
    bne_iff_ne.mpr fun heq => hafter (heq ▸ List.mem_reverse.mp hc)
  rw [objectSpan, List.dropWhile_append_of_pos hskip, List.cons_append,
    List.dropWhile_cons_of_neg (by decide)]
  simp only [List.reverse_cons, List.reverse_append, List.append_assoc]
  rw [List.dropWhile_append_of_pos hcut]
  simp

/-! ## Names in any style -/

/-- A name in any mix of upper-case and lower-case ASCII letters with white space around it. -/
def Restyles (label text : String) : Prop :=
  ∃ before word after, text.toList = before ++ (word ++ after) ∧
    (∀ c ∈ before, isWhitespace c = true) ∧ (∀ c ∈ after, isWhitespace c = true) ∧
    word.map asciiLower = label.toList

/-- No letter of ASCII is white space. -/
theorem whitespaceRanges_ascii : ∀ n < 0x80, 0x40 < n → whitespaceRanges.contains n = false := by
  decide

/-- A character whose lower-case form is an ASCII letter is one itself. -/
theorem plain_of_asciiLower {c : Char} (h : (asciiLower c).isLower = true) :
    c.toNat < 0x80 ∧ isWhitespace c = false := by
  have hletter : 0x40 < c.toNat ∧ c.toNat < 0x80 := by
    unfold asciiLower at h
    split at h
    · rename_i hupper
      simp only [Bool.and_eq_true, decide_eq_true_eq, Char.le_def, UInt32.le_iff_toNat_le] at hupper
      exact ⟨hupper.1, Nat.lt_of_le_of_lt hupper.2 (by decide)⟩
    · change (decide (c.val ≥ 97) && decide (c.val ≤ 122)) = true at h
      simp only [ge_iff_le, Bool.and_eq_true, decide_eq_true_eq, UInt32.le_iff_toNat_le] at h
      exact ⟨Nat.lt_of_lt_of_le (by decide) h.1, Nat.lt_of_le_of_lt h.2 (by decide)⟩
  exact ⟨hletter.2, whitespaceRanges_ascii c.toNat hletter.2 hletter.1⟩

/-- A word of ASCII characters becomes lower-case letter by letter, whatever stands before it.
-/
theorem lowercaseAfter_ascii {before word : List Char} (h : ∀ c ∈ word, c.toNat < 0x80) :
    lowercaseAfter before word = word.map asciiLower := by
  induction word generalizing before with
  | nil => rfl
  | cons c word ih =>
    obtain ⟨hc, hword⟩ := List.forall_mem_cons.mp h
    -- Only the sigma looks at its neighbours.
    have hsigma : c ≠ 'Σ' := by
      rintro rfl
      exact absurd hc (by decide)
    rw [lowercaseAfter, ih hword, if_neg hsigma, lowercaseChar, if_pos hc]
    rfl

/-- A name in another style is normalized to the name. -/
theorem Restyles.normalizeLabel {label text : String} (h : Restyles label text)
    (hlabel : label.toList.all Char.isLower = true) : normalizeLabel text = label := by
  obtain ⟨before, word, after, htext, hbefore, hafter, hword⟩ := h
  have hplain : ∀ c ∈ word, c.toNat < 0x80 ∧ isWhitespace c = false := fun c hc =>
    plain_of_asciiLower (List.all_eq_true.mp hlabel _ (hword ▸ List.mem_map_of_mem hc))
  have htrim := trim_append hbefore hafter fun c hc => (hplain c hc).2
  rw [ArtifactPipeline.normalizeLabel, htext, htrim, lowercase,
    lowercaseAfter_ascii fun c hc => (hplain c hc).1, hword, String.ofList_toList]

/-- The name of a category is recognised in any style. -/
theorem Restyles.intent {i : Intent} {text : String} (h : Restyles i.label text) :
    Intent.ofLabel text = i := by
  rw [Intent.ofLabel, h.normalizeLabel (by cases i <;> decide)]
  cases i <;> rfl

/-- The name of a degree of complexity is recognised in any style. -/
theorem Restyles.complexity {d : Complexity} {text : String} (h : Restyles d.label text) :
    Complexity.ofLabel text = d := by
  rw [Complexity.ofLabel, h.normalizeLabel (by cases d <;> decide)]
  cases d <;> rfl

/-- A name is a style of itself. -/
theorem restyles_self {label : String} (h : label.toList.map asciiLower = label.toList) :
    Restyles label label :=
  ⟨[], label.toList, [], by simp, by simp, by simp, h⟩

/-! ## The parts of a classification -/

namespace Classification

variable (c : Classification)

/-- What is said about how many lines are expected. -/
def linesNode : Node :=
  match c.estimatedLines with
  | some n => .num (.ofNat n)
  | none => .null

/-- The parts of a classification as they are said, with the given names for its category and its
degree of complexity. -/
def parts (intent complexity : String) : List (String × Node) :=
  [("intent", .str (some intent)),
   ("complexity", .str (some complexity)),
   ("key_features", .arr (c.keyFeatures.map fun s => .str (some s))),
   ("suggested_dependencies", .arr (c.suggestedDependencies.map fun s => .str (some s))),
   ("estimated_lines", c.linesNode)]

/-- Members that describe a classification: those with known names are its parts in some order, with
its names in any style. -/
def Describes (members : List (String × Node)) : Prop :=
  ∃ intent complexity, Restyles c.intent.label intent ∧ Restyles c.complexity.label complexity ∧
    (members.filter fun m => partNames.contains m.1).Perm (c.parts intent complexity)

variable {c} {members : List (String × Node)}

/-- What is said about the expected lines is read back. -/
theorem linesNode_read (hlines : ∀ n ∈ c.estimatedLines, n < Nat.pow 2 32) :
    Record.nullable Node.nat32? c.linesNode = some c.estimatedLines := by
  rw [linesNode]
  cases hn : c.estimatedLines with
  | none => rfl
  | some n =>
    have hbound := hlines n hn
    have hfits : n ≤ Numeral.maxUnsigned := Nat.le_trans (Nat.le_of_lt hbound) (by decide)
    have hread : Node.nat32? (.num (.ofNat n)) = some n := natBelow?_ofNat hbound hfits
    simp [Record.nullable, hread]

/-- Members that describe a classification are read as that classification. -/
theorem Describes.read (h : c.Describes members)
    (hlines : ∀ n ∈ c.estimatedLines, n < Nat.pow 2 32) :
    ofReply? (.obj (members.map fun m => (some m.1, m.2))) = some c := by
  obtain ⟨intent, complexity, hintent, hcomplexity, hperm⟩ := h
  have hnames : ((c.parts intent complexity).map (·.1)).Nodup :=
    show partNames.Nodup by decide
  obtain ⟨r, hr, hlookup⟩ := Record.ofNode?_obj hnames hperm
  have hget : ∀ m ∈ c.parts intent complexity, r.get? m.1 = some m.2 := fun m hm =>
    (hlookup m.1).trans (lookup_of_mem hnames hm)
  simp only [parts, List.forall_mem_cons] at hget
  obtain ⟨hgetIntent, hgetComplexity, hgetFeatures, hgetDependencies, hgetLines, -⟩ := hget
  rw [ofReply?, hr]
  simp only [Record.withDefault, Record.omissible, hgetIntent, hgetComplexity, hgetFeatures,
    hgetDependencies, hgetLines, list?_texts, linesNode_read hlines, Node.text?, hintent.intent,
    hcomplexity.complexity, Option.bind_eq_bind, Option.bind_some]
  rfl

end Classification

/-! ## What has been written -/

namespace Classification

/-- The written form of a classification says its parts under its own names. -/
theorem spells_toJson (c : Classification) :
    Spells c.toJson.write (.value (.obj
      ((c.parts c.intent.label c.complexity.label).map fun m => (some m.1, m.2)))) := by
  have hlines : Spells (Value.option .nat c.estimatedLines).write (.value c.linesNode) := by
    rw [linesNode]
    cases c.estimatedLines with
    | none => exact spells_null
    | some n => exact spells_nat n
  refine spells_obj ?_
  exact .cons ⟨rfl, spells_str _⟩ <| .cons ⟨rfl, spells_str _⟩ <| .cons ⟨rfl, spells_texts _⟩ <|
    .cons ⟨rfl, spells_texts _⟩ <| .cons ⟨rfl, hlines⟩ .nil

/-- The parts of a classification with its own names describe it. -/
theorem describes_parts (c : Classification) :
    c.Describes (c.parts c.intent.label c.complexity.label) := by
  have hintent : c.intent.label.toList.map asciiLower = c.intent.label.toList := by
    cases c.intent <;> decide
  have hcomplexity : c.complexity.label.toList.map asciiLower = c.complexity.label.toList := by
    cases c.complexity <;> decide
  refine ⟨_, _, restyles_self hintent, restyles_self hcomplexity, ?_⟩
  have hknown : ∀ m ∈ c.parts c.intent.label c.complexity.label,
      partNames.contains m.1 = true := by simp [parts, partNames]
  rw [List.filter_eq_self.mpr hknown]

/-- The object of a reply is read whatever prose stands around it. -/
theorem Describes.parse_in_prose {c : Classification} {members : List (String × Node)}
    {before text after : String} (h : c.Describes members)
    (hlines : ∀ n ∈ c.estimatedLines, n < Nat.pow 2 32)
    (hbefore : '\x7b' ∉ before.toList) (hafter : '\x7d' ∉ after.toList)
    (htext : Spells text.toList (.value (.obj (members.map fun m => (some m.1, m.2))))) :
    parse (before ++ text ++ after) = some c := by
  obtain ⟨inner, hinner⟩ := htext.obj_braces
  have hspan : objectSpan (before ++ text ++ after).toList = text.toList := by
    rw [String.toList_append, String.toList_append, List.append_assoc, hinner,
      objectSpan_append hbefore hafter]
  rw [parse, hspan, parse_spelled htext, Option.bind_some, h.read hlines]

/-- A reply that holds the written form of a classification, or any other text of a JSON object that
describes it, is read as that classification. -/
theorem parse_inside_prose (c : Classification) (before after : String)
    (hlines : ∀ n ∈ c.estimatedLines, n < Nat.pow 2 32)
    (hbefore : '\x7b' ∉ before.toList) (hafter : '\x7d' ∉ after.toList) :
    parse (before ++ c.toJson.toText ++ after) = some c ∧
      ∀ members text, c.Describes members →
        Spells text.toList (.value (.obj (members.map fun m => (some m.1, m.2)))) →
        parse (before ++ text ++ after) = some c := by
  refine ⟨?_, fun members text h htext => h.parse_in_prose hlines hbefore hafter htext⟩
  refine c.describes_parts.parse_in_prose hlines hbefore hafter ?_
  rw [Value.toText, String.toList_ofList]
  exact c.spells_toJson

/-- A chart whose feature holds quotes and a brace, in prose with the other braces. The second
object has a member more, another order and other styles of the names. -/
theorem parse_inside_prose_chart :
    parse ("As \x7d: " ++
      (toJson ⟨.chart, .simple, ["a \"bar\" \x7d\n"], [], some 80⟩).toText ++ " \x7b done") =
        some ⟨.chart, .simple, ["a \"bar\" \x7d\n"], [], some 80⟩ ∧
      parse ("As \x7d: " ++ (Value.obj [("note", .arr [.null]), ("complexity", .str "\tSIMPLE"),
        ("intent", .str "Chart "), ("key_features", .list .str ["a \"bar\" \x7d\n"]),
        ("suggested_dependencies", .arr []), ("estimated_lines", .nat 80)]).toText ++
          " \x7b done") =
        some ⟨.chart, .simple, ["a \"bar\" \x7d\n"], [], some 80⟩ := by
  have hread := parse_inside_prose ⟨.chart, .simple, ["a \"bar\" \x7d\n"], [], some 80⟩
    "As \x7d: " " \x7b done" (by decide) (by decide) (by decide)
  refine ⟨hread.1, hread.2 [("note", .arr [.null]), ("complexity", .str (some "\tSIMPLE")),
    ("intent", .str (some "Chart ")), ("key_features", .arr [.str (some "a \"bar\" \x7d\n")]),
    ("suggested_dependencies", .arr []), ("estimated_lines", .num (.ofNat 80))] _ ?_ ?_⟩
  · exact ⟨"Chart ", "\tSIMPLE",
      ⟨[], ['C', 'h', 'a', 'r', 't'], [' '], rfl, by simp, List.all_eq_true.mp rfl, by decide⟩,
      ⟨['\t'], ['S', 'I', 'M', 'P', 'L', 'E'], [], rfl, List.all_eq_true.mp rfl, by simp,
        by decide⟩,
      .swap _ _ _⟩
  · rw [Value.toText, String.toList_ofList]
    exact spells_obj <| .cons ⟨rfl, spells_arr (.cons spells_null .nil)⟩ <|
      .cons ⟨rfl, spells_str _⟩ <| .cons ⟨rfl, spells_str _⟩ <| .cons ⟨rfl, spells_texts _⟩ <|
      .cons ⟨rfl, spells_arr .nil⟩ <| .cons ⟨rfl, spells_nat 80⟩ .nil

end Classification

end ArtifactPipeline
