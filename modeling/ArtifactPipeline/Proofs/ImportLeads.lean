import ArtifactPipeline.Proofs.ImportShapes
import ArtifactPipeline.Proofs.Words

/-!
# What stands before the name of a module

In a text without slashes there are no comments, and what a shape demands before a name is a keyword
with what goes between it and the quote. The same pieces, laid one after another where no word runs
into the keyword, lead to a name.
-/

namespace ArtifactPipeline.Imports

open Text Regex

/-- The text ends within a word. -/
def EndsInWord (text : List Char) : Prop := text.getLast?.any isWord = true

/-- White space and nothing else. -/
def IsBlank (text : List Char) : Prop := ∀ c ∈ text, isWhitespace c = true

/-- A text is white space if each of its characters is, which can be looked up. -/
instance (text : List Char) : Decidable (IsBlank text) :=
  List.decidableBAll (fun c => isWhitespace c = true) text

/-- A character that may stand between the keyword and the `from` clause outside of comments. -/
def IsClauseChar (c : Char) : Prop := ¬ IsQuote c ∧ c ≠ ';' ∧ c ≠ '/'

/-- Whether a character may stand in a clause can be looked up. -/
instance : DecidablePred IsClauseChar := fun c =>
  inferInstanceAs (Decidable (¬ IsQuote c ∧ c ≠ ';' ∧ c ≠ '/'))

/-- White space may stand in a clause. -/
theorem isClauseChar_of_isWhitespace {c : Char} (h : isWhitespace c = true) : IsClauseChar c := by
  refine ⟨?_, ?_, ?_⟩
  · rintro (rfl | rfl) <;> exact absurd h (by decide)
  · rintro rfl
    exact absurd h (by decide)
  · rintro rfl
    exact absurd h (by decide)

/-- A character of a word is no quote. -/
theorem not_isQuote_of_isWord {c : Char} (h : isWord c = true) : ¬ IsQuote c := by
  rintro (rfl | rfl) <;> exact absurd h (by decide)

/-- There are no quotes in white space. -/
theorem IsBlank.plain {text : List Char} (h : IsBlank text) : ∀ c ∈ text, ¬ IsQuote c :=
  fun c hc => (isClauseChar_of_isWhitespace (h c hc)).1

/-- What stands before a text matters for its end only if the text is empty. -/
theorem endsInWord_append (before : List Char) {text : List Char} (h : text ≠ []) :
    EndsInWord (before ++ text) ↔ EndsInWord text := by
  obtain ⟨c, hc⟩ := Option.ne_none_iff_exists'.mp (mt List.getLast?_eq_none_iff.mp h)
  rw [EndsInWord, EndsInWord, List.getLast?_append, hc, Option.some_or]

/-- White space does not take a text into a word. -/
theorem endsInWord_blank {text blank : List Char} (hblank : IsBlank blank)
    (htext : ¬ EndsInWord text) : ¬ EndsInWord (text ++ blank) := by
  rcases List.eq_nil_or_concat blank with rfl | ⟨front, c, rfl⟩
  · simpa using htext
  · have hspace := isWord_of_isWhitespace (hblank c (by simp))
    simp [EndsInWord, hspace]

/-- A quote is no part of a word, so what stands before it does not matter. -/
theorem endsInWord_after_quote {front text : List Char} :
    EndsInWord (front ++ '\'' :: text) ↔ EndsInWord text := by
  rw [endsInWord_append front (by simp)]
  cases text with
  | nil =>
    have hquote : isWord '\'' = false := by decide
    simp [EndsInWord, hquote]
  | cons c text => rfl

/-- A text without comments that is followed by the name of a module in some shape. -/
inductive Introduces : List Char → Prop
  | taking {word gap middle blank : List Char} :
    word = ['i', 'm', 'p', 'o', 'r', 't'] ∨ word = ['e', 'x', 'p', 'o', 'r', 't'] →
    gap ≠ [] → IsBlank gap → (∀ c ∈ middle, IsClauseChar c) → ¬ EndsInWord (gap ++ middle) →
    IsBlank blank → Introduces (word ++ (gap ++ (middle ++ (['f', 'r', 'o', 'm'] ++ blank))))
  | bare {blank : List Char} : IsBlank blank →
    Introduces (['i', 'm', 'p', 'o', 'r', 't'] ++ blank)
  | call {word gap blank : List Char} : (∀ c ∈ word, isWord c = true) → IsBlank gap →
    IsBlank blank → Introduces (word ++ (gap ++ '(' :: blank))

/-- What introduces a name ends in the last letter of `from` or `import`, or in a bracket, up to
white space. -/
theorem Introduces.last {lead : List Char} (h : Introduces lead) :
    ∃ start c blank, lead = start ++ c :: blank ∧ IsBlank blank ∧
      (c = 'm' ∨ c = 't' ∨ c = '(') := by
  cases h with
  | @taking word gap middle blank _ _ _ _ _ hblank =>
    exact ⟨word ++ (gap ++ (middle ++ ['f', 'r', 'o'])), 'm', blank, by simp, hblank, by simp⟩
  | @bare blank hblank => exact ⟨['i', 'm', 'p', 'o', 'r'], 't', blank, by simp, hblank, by simp⟩
  | @call word gap blank _ _ hblank => exact ⟨word ++ gap, '(', blank, by simp, hblank, by simp⟩

/-- What introduces a name has no quotes in it. -/
theorem Introduces.plain {lead : List Char} (h : Introduces lead) : ∀ c ∈ lead, ¬ IsQuote c := by
  cases h with
  | @taking word gap middle blank hword _ hgap hmiddle _ hblank =>
    have hletters : ∀ c ∈ word, ¬ IsQuote c := by
      rcases hword with rfl | rfl <;> exact forall_mem_of_all (by decide)
    have hfrom : ∀ c ∈ ['f', 'r', 'o', 'm'], ¬ IsQuote c := forall_mem_of_all (by decide)
    simp only [List.forall_mem_append]
    exact ⟨hletters, hgap.plain, fun c hc => (hmiddle c hc).1, hfrom, hblank.plain⟩
  | @bare blank hblank =>
    have hletters : ∀ c ∈ ['i', 'm', 'p', 'o', 'r', 't'], ¬ IsQuote c :=
      forall_mem_of_all (by decide)
    exact List.forall_mem_append.mpr ⟨hletters, hblank.plain⟩
  | @call word gap blank hword hgap hblank =>
    have hletters : ∀ c ∈ word, ¬ IsQuote c := fun c hc => not_isQuote_of_isWord (hword c hc)
    have hparen : ¬ IsQuote '(' := by decide
    simp only [List.forall_mem_append, List.forall_mem_cons]
    exact ⟨hletters, hgap.plain, hparen, hblank.plain⟩

/-! ## What the parts of a shape match -/

section Leads

variable {before piece lead after : List Char} {marks : List (Nat × Nat)} {word : String}

/-- The set of characters that the clause runs over, as a condition on characters. -/
theorem mem_clauseSet {c : Char} :
    (CharSet.compl (.union (.union (.single ';') (.single '\''))
      (.union (.single '"') (.single '/')))).mem c = true ↔ IsClauseChar c := by
  have hquotes {a b : Char} : ((CharSet.single a).union (.single b)).Wellformed :=
    (CharSet.single_wellformed a).union (CharSet.single_wellformed b)
  rw [CharSet.mem_compl (hquotes.union hquotes), CharSet.mem_union hquotes hquotes]
  simp only [CharSet.mem_union (CharSet.single_wellformed _) (CharSet.single_wellformed _),
    CharSet.mem_single, IsClauseChar, IsQuote]
  grind

/-- Any white space, also none, and nothing else. -/
theorem matches_blanks : blanks.Matches before piece after marks ↔ IsBlank piece ∧ marks = [] := by
  have hrep : blanks.Matches before piece after marks ↔ 0 ≤ piece.length ∧ _ ∧ marks = [] :=
    matches_rep_set
  simpa [IsBlank] using hrep

/-- White space of one character at least. -/
theorem matches_gap : (plus (set .whitespace)).Matches before piece after marks ↔
    piece ≠ [] ∧ IsBlank piece ∧ marks = [] := by
  rw [plus, matches_rep_set]
  simp [IsBlank, Nat.one_le_iff_ne_zero]

/-- A keyword that begins a word, with nothing of a word before it. -/
theorem matches_keyword (hword : word.toList.head?.any isWord = true) :
    (keyword word).Matches before piece after marks ↔
      piece = word.toList ∧ ¬ EndsInWord before ∧ marks = [] := by
  have hhead : (word.toList ++ after).head? = word.toList.head? := by
    cases hlist : word.toList with
    | nil => simp [hlist] at hword
    | cons c cs => rfl
  constructor
  · rintro ⟨_, _, _, _, rfl, rfl, ⟨hholds, rfl, rfl⟩, rfl, rfl⟩
    refine ⟨rfl, ?_, rfl⟩
    simpa [Look.holds, hhead, hword, EndsInWord] using hholds
  · rintro ⟨rfl, hbefore, rfl⟩
    refine ⟨[], word.toList, [], [], rfl, rfl, ⟨?_, rfl, rfl⟩, rfl, rfl⟩
    simpa [Look.holds, hhead, hword, EndsInWord] using hbefore

/-- What may stand between the keyword and the `from` clause, without comments. -/
theorem matches_clause (h : ∀ c ∈ piece, IsClauseChar c) :
    clause.Matches before piece after [] := by
  have hset : (lazyStar (set _)).Matches before piece after [] :=
    matches_rep_set.mpr ⟨Nat.zero_le _, fun c hc => mem_clauseSet.mpr (h c hc), rfl⟩
  obtain ⟨count, hcount, hrounds⟩ := hset
  exact ⟨count, hcount, Passage.rounds_mono (fun hone => Or.inr (Or.inr hone)) hrounds⟩

/-- Outside of comments a clause has no characters but those that may stand in one. -/
theorem isClauseChar_of_clause (h : clause.Matches before piece after marks)
    (hslash : '/' ∉ piece) : ∀ c ∈ piece, IsClauseChar c := by
  obtain ⟨count, -, hrounds⟩ := h
  induction count generalizing before piece after marks with
  | zero =>
    obtain ⟨rfl, -⟩ := hrounds
    simp
  | succ count ih =>
    obtain ⟨first, rest, _, _, rfl, -, hfirst, hrest⟩ := hrounds
    rw [List.mem_append, not_or] at hslash
    have hlater := ih hslash.2 hrest
    rcases hfirst with ⟨_, _, _, _, rfl, -, ⟨rfl, -⟩, -⟩ | ⟨_, _, _, _, rfl, -, ⟨rfl, -⟩, -⟩ |
      ⟨c, hc, rfl, -⟩
    · simp at hslash
    · simp at hslash
    · simpa [mem_clauseSet.mp hc] using hlater

/-- What comes before the first slash stands outside of comments. -/
theorem plain_before_slash (h : clause.Matches before piece after marks) (hslash : '/' ∈ piece) :
    ∃ front back, piece = front ++ '/' :: back ∧ ∀ c ∈ front, IsClauseChar c := by
  obtain ⟨count, -, hrounds⟩ := h
  induction count generalizing before piece after marks with
  | zero =>
    obtain ⟨rfl, -⟩ := hrounds
    cases hslash
  | succ count ih =>
    obtain ⟨first, rest, _, _, rfl, -, hfirst, hrest⟩ := hrounds
    rcases hfirst with ⟨_, more, _, _, rfl, -, ⟨rfl, -⟩, -⟩ | ⟨_, more, _, _, rfl, -, ⟨rfl, -⟩, -⟩ |
      ⟨c, hc, rfl, -⟩
    · exact ⟨[], '*' :: (more ++ rest), rfl, by simp⟩
    · exact ⟨[], '/' :: (more ++ rest), rfl, by simp⟩
    · have hclause := mem_clauseSet.mp hc
      obtain ⟨front, back, rfl, hfront⟩ := ih (by simpa [hclause.2.2.symm] using hslash) hrest
      exact ⟨c :: front, back, rfl, List.forall_mem_cons.mpr ⟨hclause, hfront⟩⟩

/-- The word `type` with white space, if it is there, may stand outside of comments. -/
theorem isClauseChar_of_type
    (h : (opt (seq (literal "type") (plus (set .whitespace)))).Matches before piece after marks) :
    ∀ c ∈ piece, IsClauseChar c := by
  obtain ⟨count, ⟨-, hcount⟩, hrounds⟩ := h
  obtain _ | _ | count := count
  · obtain ⟨rfl, -⟩ := hrounds
    simp
  · obtain ⟨_, gap, _, _, rfl, -, ⟨rfl, -⟩, hgap⟩ := Passage.followedBy_nothing.mp hrounds
    have hword : ∀ c ∈ "type".toList, IsClauseChar c := forall_mem_of_all (by decide)
    have hblank := (matches_gap.mp hgap).2.1
    intro c hc
    exact (List.mem_append.mp hc).elim (hword c) fun hmem =>
      isClauseChar_of_isWhitespace (hblank c hmem)
  · have hle := hcount 1 rfl
    omega

/-- What an `import` or `export` with `from` demands before a name introduces it, where there is
no slash. -/
theorem introduces_of_fromLead (hword : word = "import" ∨ word = "export")
    (h : (concat (fromLead word)).Matches before lead after marks) (hslash : '/' ∉ lead) :
    Introduces lead ∧ ¬ EndsInWord before := by
  have hhead : word.toList.head?.any isWord = true := by rcases hword with rfl | rfl <;> decide
  obtain ⟨_, _, _, _, rfl, -, hkeyword, gap, _, _, _, rfl, -, hplus, type, _, _, _, rfl, -, htype,
    middle, _, _, _, rfl, -, hclause, _, blank, _, _, rfl, -, hfrom, hblanks⟩ := h
  obtain ⟨rfl, hbefore, -⟩ := (matches_keyword hhead).mp hkeyword
  obtain ⟨hne, hgap, -⟩ := matches_gap.mp hplus
  obtain ⟨rfl, hboundary, -⟩ := (matches_keyword (by decide)).mp hfrom
  obtain ⟨hblank, -⟩ := matches_blanks.mp hblanks
  have hmiddle := isClauseChar_of_clause hclause (by simp_all)
  have hplain : ∀ c ∈ type ++ middle, IsClauseChar c := fun c hc =>
    (List.mem_append.mp hc).elim (isClauseChar_of_type htype c) (hmiddle c)
  have hends : ¬ EndsInWord (gap ++ (type ++ middle)) := by
    rw [← endsInWord_append (before ++ word.toList) (by simp [hne])]
    simpa using hboundary
  have hintroduces : Introduces
      (word.toList ++ (gap ++ ((type ++ middle) ++ (['f', 'r', 'o', 'm'] ++ blank)))) :=
    .taking (by rcases hword with rfl | rfl <;> decide) hne hgap hplain hends hblank
  exact ⟨by simpa using hintroduces, hbefore⟩

/-- What stands before a name in a text without slashes is known. -/
theorem introduces_of_surroundings {s : List Regex × List Regex} (hs : s ∈ surroundings)
    (h : (concat s.1).Matches before lead after marks) (hslash : '/' ∉ lead) :
    Introduces lead ∧ ¬ EndsInWord before := by
  have hcall (word : String) (hhead : word.toList.head?.any isWord = true)
      (hword : ∀ c ∈ word.toList, isWord c = true)
      (hcall : (concat (callLead word)).Matches before lead after marks) :
      Introduces lead ∧ ¬ EndsInWord before := by
    obtain ⟨_, _, _, _, rfl, -, hkeyword, gap, _, _, _, rfl, -, hgap, _, blank, _, _, rfl, -,
      ⟨rfl, -⟩, hblank⟩ := hcall
    obtain ⟨rfl, hbefore, -⟩ := (matches_keyword hhead).mp hkeyword
    exact ⟨.call hword (matches_blanks.mp hgap).1 (matches_blanks.mp hblank).1, hbefore⟩
  simp only [surroundings, List.mem_cons, List.not_mem_nil, or_false] at hs
  rcases hs with rfl | rfl | rfl | rfl | rfl
  · exact introduces_of_fromLead (Or.inl rfl) h hslash
  · obtain ⟨_, blank, _, _, rfl, -, hkeyword, hblank⟩ := h
    obtain ⟨rfl, hbefore, -⟩ := (matches_keyword (by decide)).mp hkeyword
    exact ⟨.bare (matches_blanks.mp hblank).1, hbefore⟩
  · exact hcall "import" (by decide) (forall_mem_of_all (by decide)) h
  · exact hcall "require" (by decide) (forall_mem_of_all (by decide)) h
  · exact introduces_of_fromLead (Or.inr rfl) h hslash

/-- What a shape without anything after the name demands before it. -/
def Leads (before lead after : List Char) : Prop :=
  ∃ s ∈ surroundings, s.2 = [] ∧ (concat s.1).Matches before lead after []

/-- The keyword and white space are what an import without a clause demands. -/
theorem matches_bareLead {blank : List Char} (hbefore : ¬ EndsInWord before)
    (hblank : IsBlank blank) :
    (concat bareLead).Matches before (['i', 'm', 'p', 'o', 'r', 't'] ++ blank) after [] := by
  have hkeyword : (keyword "import").Matches before ['i', 'm', 'p', 'o', 'r', 't'] (blank ++ after)
      [] := (matches_keyword (by decide)).mpr ⟨rfl, hbefore, rfl⟩
  exact Passage.followedBy_intro hkeyword (matches_blanks.mpr ⟨hblank, rfl⟩)

/-- The keyword and white space lead to a name. -/
theorem leads_of_bare {blank : List Char} (hbefore : ¬ EndsInWord before) (hblank : IsBlank blank) :
    Leads before (['i', 'm', 'p', 'o', 'r', 't'] ++ blank) after :=
  ⟨(bareLead, []), by simp [surroundings], rfl, matches_bareLead hbefore hblank⟩

/-- A word, a bracket and the white space around it are what a call demands. -/
theorem matches_callLead {gap blank : List Char} (hhead : word.toList.head?.any isWord = true)
    (hbefore : ¬ EndsInWord before) (hgap : IsBlank gap) (hblank : IsBlank blank) :
    (concat (callLead word)).Matches before (word.toList ++ (gap ++ ('(' :: blank))) after [] := by
  have hparen : (concat [literal "(", blanks]).Matches (before ++ word.toList ++ gap) ('(' :: blank)
      after [] := Passage.followedBy_intro (R := (literal "(").Matches) ⟨rfl, rfl⟩
    (matches_blanks.mpr ⟨hblank, rfl⟩)
  exact Passage.followedBy_intro ((matches_keyword hhead).mpr ⟨rfl, hbefore, rfl⟩)
    (Passage.followedBy_intro (matches_blanks.mpr ⟨hgap, rfl⟩) hparen)

/-- The `from` clause with the white space behind it. -/
theorem matches_fromClause {blank : List Char} (hbefore : ¬ EndsInWord before)
    (hblank : IsBlank blank) :
    (concat [keyword "from", blanks]).Matches before (['f', 'r', 'o', 'm'] ++ blank) after [] := by
  have hfrom : (keyword "from").Matches before ['f', 'r', 'o', 'm'] (blank ++ after) [] :=
    (matches_keyword (by decide)).mpr ⟨rfl, hbefore, rfl⟩
  exact Passage.followedBy_intro hfrom (matches_blanks.mpr ⟨hblank, rfl⟩)

/-- A keyword, white space, a clause that does not run into `from`, and `from` itself are what
an import with a clause demands. -/
theorem matches_fromLead {gap middle blank : List Char}
    (hhead : word.toList.head?.any isWord = true) (hbefore : ¬ EndsInWord before)
    (hne : gap ≠ []) (hgap : IsBlank gap) (hmiddle : ∀ c ∈ middle, IsClauseChar c)
    (hends : ¬ EndsInWord (gap ++ middle)) (hblank : IsBlank blank) :
    (concat (fromLead word)).Matches before
      (word.toList ++ (gap ++ (middle ++ (['f', 'r', 'o', 'm'] ++ blank)))) after [] := by
  have hboundary : ¬ EndsInWord (before ++ word.toList ++ gap ++ [] ++ middle) := by
    rw [← endsInWord_append (before ++ word.toList) (by simp [hne])] at hends
    simpa using hends
  -- The part with `type` matches the empty text, so all of the middle is left to the clause.
  have htype : (opt (seq (literal "type") (plus (set .whitespace)))).Matches
      (before ++ word.toList ++ gap) [] (middle ++ (['f', 'r', 'o', 'm'] ++ blank) ++ after) [] :=
    ⟨0, ⟨Nat.le_refl _, by simp⟩, rfl, rfl⟩
  have hfrom :
      (concat [keyword "from", blanks]).Matches _ (['f', 'r', 'o', 'm'] ++ blank) after [] :=
    matches_fromClause hboundary hblank
  have hclause := Passage.followedBy_intro (matches_clause hmiddle) hfrom
  have hrest := Passage.followedBy_intro (matches_gap.mpr ⟨hne, hgap, rfl⟩)
    (Passage.followedBy_intro htype hclause)
  exact Passage.followedBy_intro ((matches_keyword hhead).mpr ⟨rfl, hbefore, rfl⟩) hrest

/-- An `import` or `export` with a clause and `from` leads to a name. -/
theorem leads_of_taking {keyword gap middle blank : List Char} (hbefore : ¬ EndsInWord before)
    (hkeyword : keyword = ['i', 'm', 'p', 'o', 'r', 't'] ∨ keyword = ['e', 'x', 'p', 'o', 'r', 't'])
    (hne : gap ≠ []) (hgap : IsBlank gap) (hmiddle : ∀ c ∈ middle, IsClauseChar c)
    (hends : ¬ EndsInWord (gap ++ middle)) (hblank : IsBlank blank) :
    Leads before (keyword ++ (gap ++ (middle ++ (['f', 'r', 'o', 'm'] ++ blank)))) after := by
  obtain ⟨word, hs, rfl, hhead⟩ : ∃ word, (fromLead word, []) ∈ surroundings ∧
      keyword = word.toList ∧ word.toList.head?.any isWord = true := by
    rcases hkeyword with rfl | rfl
    · exact ⟨"import", by simp [surroundings], rfl, by decide⟩
    · exact ⟨"export", by simp [surroundings], rfl, by decide⟩
  exact ⟨_, hs, rfl, matches_fromLead hhead hbefore hne hgap hmiddle hends hblank⟩

/-- A quoted name that a shape leads to is found. -/
theorem Leads.namedIn {q q' : Char} {name : List Char} (hq : IsQuote q) (hq' : IsQuote q')
    (hne : name ≠ []) (hplain : ∀ c ∈ name, ¬ IsQuote c)
    (h : Leads before lead (q :: (name ++ q' :: after))) :
    NamedIn (before ++ lead ++ q :: (name ++ q' :: after)) (before ++ lead) name := by
  obtain ⟨⟨rs, _⟩, hs, rfl, hlead⟩ := h
  exact ⟨_, hs, before, lead, [], after, q, q', rfl, rfl, hq, hq', hne, hplain, hlead, rfl, rfl⟩

end Leads

/-! ## Places in a text -/

/-- The first quote of a text, or a later one. -/
theorem split_at_quote {first rest front back : List Char} {x q : Char}
    (h : first ++ x :: rest = front ++ q :: back) (hfirst : ∀ c ∈ first, ¬ IsQuote c)
    (hq : IsQuote q) : (front = first ∧ back = rest) ∨
      ∃ more, front = first ++ x :: more ∧ rest = more ++ q :: back := by
  obtain ⟨_ | ⟨y, more⟩, rfl, hrest⟩ := split_behind h hfirst hq
  · cases hrest
    exact Or.inl ⟨List.append_nil _, rfl⟩
  · cases hrest
    exact Or.inr ⟨more, rfl, rfl⟩

/-- What comes right before the quote that closes a text, and has no quote, is an end of it. -/
theorem suffix_of_text {front text before lead : List Char}
    (h : before ++ lead = front ++ '\'' :: text) (hlead : ∀ c ∈ lead, ¬ IsQuote c) :
    ∃ start, before = front ++ '\'' :: start ∧ text = start ++ lead := by
  obtain ⟨more, rfl, hlast⟩ | ⟨_ | ⟨c, start⟩, rfl, hlast⟩ := List.append_eq_append_iff.mp h
  · exact absurd (Or.inl rfl) (hlead '\'' (by simp [hlast]))
  · have hquote : '\'' :: text = lead := hlast
    exact absurd (Or.inl rfl) (hlead '\'' (by simp [← hquote]))
  · cases hlast
    exact ⟨start, rfl, rfl⟩

/-- In lines that have one quoted text each, a quote opens the text of a line or closes it. -/
theorem quote_in_lines {α : Type} {source opening text closing : α → List Char}
    (hsource : ∀ line, source line = opening line ++ '\'' :: (text line ++ '\'' :: closing line))
    (hopening : ∀ line, ∀ c ∈ opening line, ¬ IsQuote c)
    (htext : ∀ line, ∀ c ∈ text line, ¬ IsQuote c)
    (hclosing : ∀ line, ∀ c ∈ closing line, ¬ IsQuote c) {lines : List α} {front back : List Char}
    {q : Char} (h : lines.flatMap source = front ++ q :: back) (hq : IsQuote q) :
    ∃ earlier line later, lines = earlier ++ line :: later ∧
      ((front = earlier.flatMap source ++ opening line ∧
          back = text line ++ '\'' :: (closing line ++ later.flatMap source)) ∨
        (front = earlier.flatMap source ++ (opening line ++ '\'' :: text line) ∧
          back = closing line ++ later.flatMap source)) := by
  induction lines generalizing front with
  | nil => simp at h
  | cons first lines ih =>
    have hfirst (rest : List Char) : source first ++ rest =
        opening first ++ '\'' :: (text first ++ '\'' :: (closing first ++ rest)) := by
      simp [hsource]
    rw [List.flatMap_cons, hfirst] at h
    rcases split_at_quote h (hopening first) hq with ⟨hfront, hback⟩ | ⟨inText, rfl, hinText⟩
    · exact ⟨[], first, lines, rfl, Or.inl ⟨hfront, hback⟩⟩
    · rcases split_at_quote hinText (htext first) hq with
        ⟨rfl, hback⟩ | ⟨inClosing, rfl, hinClosing⟩
      · exact ⟨[], first, lines, rfl, Or.inr ⟨rfl, hback⟩⟩
      · obtain ⟨inLater, rfl, hinLater⟩ := split_behind hinClosing (hclosing first) hq
        obtain ⟨earlier, line, later, rfl, hplaces⟩ := ih hinLater
        refine ⟨first :: earlier, line, later, rfl, ?_⟩
        rw [List.flatMap_cons, List.append_assoc, List.append_assoc, hfirst, hfirst]
        exact hplaces.imp (fun h => ⟨by simp [h.1], h.2⟩) (fun h => ⟨by simp [h.1], h.2⟩)

/-- The last character of a text before white space at its end. -/
theorem last_before_blank {front front' blank blank' : List Char} {c d : Char}
    (h : front ++ c :: blank = front' ++ d :: blank') (hblank : IsBlank blank)
    (hblank' : IsBlank blank') (hc : isWhitespace c = false) (hd : isWhitespace d = false) :
    c = d := by
  obtain ⟨_ | ⟨y, more⟩, rfl, hrest⟩ | ⟨_ | ⟨y, more⟩, rfl, hrest⟩ :=
    List.append_eq_append_iff.mp h
  · exact (List.cons.inj hrest).1
  · cases hrest
    have hwhite := hblank d (by simp)
    rw [hd] at hwhite
    cases hwhite
  · exact (List.cons.inj hrest).1.symm
  · cases hrest
    have hwhite := hblank' c (by simp)
    rw [hc] at hwhite
    cases hwhite

end ArtifactPipeline.Imports
