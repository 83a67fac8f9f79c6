import ArtifactPipeline.Proofs.ImportLeads
import ArtifactPipeline.Proofs.Keyed
import Mathlib.Data.List.Pairwise

/-!
# Printed statements

A source that consists of printed imports and exports is read back: every module is found, at its
own place, and nothing else is. The quotes tell why. What a shape demands before a name has no
quotes outside of comments, and no comment can begin there, so a name that is found is opened by the
quote of some statement; and a match of an earlier statement ends with it, so the search for
matches that do not overlap gets to each statement.
-/

namespace ArtifactPipeline.Imports

open Text Regex Program

/-! ## Statements -/

/-- A character of what a statement takes from a module. -/
def IsBindingChar (c : Char) : Prop :=
  isAsciiLetter c = true ∨ isAsciiDigit c = true ∨ c ∈ ['_', '$', ' ', '\n', ',', '{', '}', '*']

/-- Whether a character may be taken can be looked up. -/
instance : DecidablePred IsBindingChar := fun _ =>
  inferInstanceAs (Decidable (_ ∨ _ ∨ _))

/-- A character of the path of a module. -/
def IsPathChar (c : Char) : Prop :=
  isAsciiLetter c = true ∨ isAsciiDigit c = true ∨ c ∈ ['-', '_', '.', '/', '@']

/-- Whether a character may stand in a path can be looked up. -/
instance : DecidablePred IsPathChar := fun _ =>
  inferInstanceAs (Decidable (_ ∨ _ ∨ _))

/-- What a statement takes from a module. It may have words like `from` or `export` in it. -/
structure Bindings where
  text : List Char
  ne_nil : text ≠ []
  plain : ∀ c ∈ text, IsBindingChar c

/-- How a statement names its module. -/
inductive Form where
  | importFrom (bindings : Bindings)
  | importOnly
  | importCall
  | requireCall
  | exportFrom (bindings : Bindings)

namespace Form

/-- What a statement begins with before the keyword of its shape. -/
def preface : Form → List Char
  | importCall =>
    ['c', 'o', 'n', 's', 't', ' ', 'm', ' ', '=', ' ', 'a', 'w', 'a', 'i', 't', ' ']
  | requireCall => ['c', 'o', 'n', 's', 't', ' ', 'm', ' ', '=', ' ']
  | importFrom _ | importOnly | exportFrom _ => []

/-- The statement from its keyword up to the quote. -/
def lead : Form → List Char
  | importFrom bindings =>
    ['i', 'm', 'p', 'o', 'r', 't', ' '] ++ (bindings.text ++ [' ', 'f', 'r', 'o', 'm', ' '])
  | importOnly => ['i', 'm', 'p', 'o', 'r', 't', ' ']
  | importCall => ['i', 'm', 'p', 'o', 'r', 't', '(']
  | requireCall => ['r', 'e', 'q', 'u', 'i', 'r', 'e', '(']
  | exportFrom bindings =>
    ['e', 'x', 'p', 'o', 'r', 't', ' '] ++ (bindings.text ++ [' ', 'f', 'r', 'o', 'm', ' '])

/-- What belongs to the shape after the quoted name. -/
def tail : Form → List Char
  | importCall | requireCall => [')']
  | importFrom _ | importOnly | exportFrom _ => []

/-- What the shape of the statement demands before the quoted name and after it. -/
def shape : Form → List Regex × List Regex
  | importFrom _ => (fromLead "import", [])
  | importOnly => (bareLead, [])
  | importCall => (callLead "import", callTail)
  | requireCall => (callLead "require", callTail)
  | exportFrom _ => (fromLead "export", [])

/-- The line up to the quote that opens the name. -/
def opening (form : Form) : List Char := form.preface ++ form.lead

/-- The line behind the quote that closes the name. -/
def closing (form : Form) : List Char := form.tail ++ [';', '\n']

end Form

/-- A statement that names a module. Its path does not end in the word `import`. -/
structure Statement where
  form : Form
  path : List Char
  path_ne_nil : path ≠ []
  path_plain : ∀ c ∈ path, IsPathChar c
  path_end : ∀ front, path = front ++ ['i', 'm', 'p', 'o', 'r', 't'] → EndsInWord front

/-- A line with the statement. -/
def Statement.source (s : Statement) : List Char :=
  s.form.opening ++ '\'' :: (s.path ++ '\'' :: s.form.closing)

/-- The statements one after another. -/
def printed (statements : List Statement) : List Char := statements.flatMap (·.source)

section Characters

variable {c : Char} {form : Form} {s : Statement}

/-- Letters and digits are characters of words. -/
theorem isWord_of_isAscii (h : isAsciiLetter c = true ∨ isAsciiDigit c = true) :
    isWord c = true := by
  have hbound {low high : Char} (h : (decide (low ≤ c) && decide (c ≤ high)) = true) :
      c.toNat ≤ high.toNat := by
    have hle : c ≤ high := (by simpa using h : low ≤ c ∧ c ≤ high).2
    rwa [Char.le_def, UInt32.le_iff_toNat_le] at hle
  have hascii : c.toNat < 0x80 := by
    rcases h with h | h
    · rcases Bool.or_eq_true_iff.mp h with h | h <;> exact Nat.lt_of_le_of_lt (hbound h) (by decide)
    · exact Nat.lt_of_le_of_lt (hbound h) (by decide)
  rw [isWord, if_pos hascii, isAsciiWord]
  rcases h with h | h <;> simp [h]

/-- What a statement takes may stand in a clause. -/
theorem isClauseChar_of_isBindingChar (h : IsBindingChar c) : IsClauseChar c := by
  have hnot : ∀ d ∈ ['\'', '"', ';', '/'], ¬ IsBindingChar d := forall_mem_of_all (by decide)
  have hne (d : Char) (hd : d ∈ ['\'', '"', ';', '/']) : c ≠ d := fun heq => hnot d hd (heq ▸ h)
  exact ⟨not_or.mpr ⟨hne _ (by simp), hne _ (by simp)⟩, hne _ (by simp), hne _ (by simp)⟩

/-- There are no quotes in a path. -/
theorem not_isQuote_of_isPathChar (h : IsPathChar c) : ¬ IsQuote c := by
  rintro (rfl | rfl) <;> exact absurd h (by decide)

/-- There is no white space in a path. -/
theorem not_isWhitespace_of_isPathChar (h : IsPathChar c) : isWhitespace c = false := by
  rcases or_assoc.mpr h with hword | hother
  · rw [Bool.eq_false_iff]
    intro hspace
    have hnot := isWord_of_isWhitespace hspace
    rw [isWord_of_isAscii hword] at hnot
    cases hnot
  · have hall : ∀ d ∈ ['-', '_', '.', '/', '@'], isWhitespace d = false :=
      forall_mem_of_all (by decide)
    exact hall c hother

/-- What a statement takes may stand in a clause, all of it. -/
theorem Bindings.isClauseChar (bindings : Bindings) : ∀ c ∈ bindings.text, IsClauseChar c :=
  fun c hc => isClauseChar_of_isBindingChar (bindings.plain c hc)

/-- Up to the quote that opens the name there is nothing but what may stand in a clause. -/
theorem Form.opening_plain (form : Form) : ∀ c ∈ form.opening, IsClauseChar c := by
  have hfrom : ∀ c ∈ [' ', 'f', 'r', 'o', 'm', ' '], IsClauseChar c :=
    forall_mem_of_all (by decide)
  cases form with
  | importFrom bindings | exportFrom bindings =>
    simp only [opening, preface, lead, List.nil_append, List.forall_mem_append]
    exact ⟨forall_mem_of_all (by decide), bindings.isClauseChar, hfrom⟩
  | importOnly | importCall | requireCall => exact forall_mem_of_all (by decide)

/-- A line ends after the name, with a bracket before the semicolon if it is a call. -/
theorem Form.closing_eq (form : Form) :
    form.closing = [';', '\n'] ∨ form.closing = [')', ';', '\n'] := by
  cases form <;> simp [closing, tail]

/-- Behind the name there are no quotes and no slashes. -/
theorem Form.closing_plain (form : Form) : ∀ c ∈ form.closing, ¬ IsQuote c ∧ c ≠ '/' := by
  rcases form.closing_eq with h | h <;> rw [h] <;> exact forall_mem_of_all (by decide)

/-- The path of a statement has no quotes in it. -/
theorem Statement.path_unquoted (s : Statement) : ∀ c ∈ s.path, ¬ IsQuote c :=
  fun c hc => not_isQuote_of_isPathChar (s.path_plain c hc)

/-- Statements that are printed in two parts give the text of the parts one after another. -/
theorem printed_append (earlier later : List Statement) :
    printed (earlier ++ later) = printed earlier ++ printed later := List.flatMap_append

/-- The first statement is the first line. -/
theorem printed_cons (s : Statement) (statements : List Statement) :
    printed (s :: statements) = s.source ++ printed statements := List.flatMap_cons ..

end Characters

/-! ## Where quotes and slashes are -/

section Places

variable {statements : List Statement} {front back : List Char} {q : Char}

/-- A quote opens the path of a statement or closes it. -/
theorem quote_in_printed (h : printed statements = front ++ q :: back) (hq : IsQuote q) :
    ∃ earlier s later, statements = earlier ++ s :: later ∧
      ((front = printed earlier ++ s.form.opening ∧
          back = s.path ++ '\'' :: (s.form.closing ++ printed later)) ∨
        (front = printed earlier ++ (s.form.opening ++ '\'' :: s.path) ∧
          back = s.form.closing ++ printed later)) :=
  quote_in_lines (fun _ => rfl) (fun s c hc => (s.form.opening_plain c hc).1)
    (fun s => s.path_unquoted) (fun s c hc => (s.form.closing_plain c hc).1) h hq

/-- A slash stands in the path of a statement. -/
theorem slash_in_printed (h : printed statements = front ++ '/' :: back) :
    ∃ earlier s later start rest, statements = earlier ++ s :: later ∧
      s.path = start ++ '/' :: rest ∧
      front = printed earlier ++ (s.form.opening ++ '\'' :: start) := by
  induction statements generalizing front with
  | nil => simp [printed] at h
  | cons first statements ih =>
    have hopening : ∀ c ∈ first.form.opening ++ ['\''], c ≠ '/' := by
      rw [List.forall_mem_append]
      exact ⟨fun c hc => (first.form.opening_plain c hc).2.2, by simp⟩
    have hclosing : ∀ c ∈ '\'' :: first.form.closing, c ≠ '/' := by
      rw [List.forall_mem_cons]
      exact ⟨by decide, fun c hc => (first.form.closing_plain c hc).2⟩
    have htext : (first.form.opening ++ ['\'']) ++ (first.path ++ ('\'' :: first.form.closing ++
        printed statements)) = front ++ '/' :: back := by
      simpa [printed_cons, Statement.source] using h
    obtain ⟨inPath, rfl, hinPath⟩ := split_behind (P := (· = '/')) htext hopening rfl
    rcases List.append_eq_append_iff.mp hinPath with ⟨gap, rfl, hgap⟩ | ⟨gap, hpath, hgap⟩
    · obtain ⟨inLater, rfl, hinLater⟩ := split_behind (P := (· = '/')) hgap hclosing rfl
      obtain ⟨earlier, s, later, start, rest, rfl, hs, rfl⟩ := ih hinLater
      exact ⟨first :: earlier, s, later, start, rest, rfl, hs, by
        simp [printed_cons, Statement.source]⟩
    · obtain _ | ⟨d, rest⟩ := gap
      · cases hgap
      · obtain ⟨rfl, -⟩ := List.cons.inj hgap
        exact ⟨[], first, statements, inPath, rest, rfl, hpath, by simp [printed]⟩

end Places

/-! ## What is found in printed statements -/

section Finding

variable {before lead after : List Char} {marks : List (Nat × Nat)} {word : String}

/-- What stands before the first slash in what a shape demands before a name: nothing quoted, but
some white space. -/
theorem blank_before_slash {s : List Regex × List Regex} (hs : s ∈ surroundings)
    (h : (concat s.1).Matches before lead after marks) (hslash : '/' ∈ lead) :
    ∃ front back, lead = front ++ '/' :: back ∧ (∀ c ∈ front, ¬ IsQuote c) ∧
      ∃ c ∈ front, isWhitespace c = true := by
  have hblank {text : List Char} (htext : IsBlank text) : '/' ∉ text := fun hmem =>
    (isClauseChar_of_isWhitespace (htext _ hmem)).2.2 rfl
  have hcall (word : String) (hhead : word.toList.head?.any isWord = true)
      (hword : '/' ∉ word.toList) (h : (concat (callLead word)).Matches before lead after marks) :
      '/' ∉ lead := by
    obtain ⟨_, _, _, _, rfl, -, hkeyword, gap, _, _, _, rfl, -, hgap, _, blank, _, _, rfl, -,
      ⟨rfl, -⟩, hspace⟩ := h
    obtain ⟨rfl, -⟩ := (matches_keyword hhead).mp hkeyword
    simp [hword, hblank (matches_blanks.mp hgap).1, hblank (matches_blanks.mp hspace).1]
  have hfrom (word : String) (hhead : word.toList.head?.any isWord = true)
      (hword : ∀ c ∈ word.toList, IsClauseChar c)
      (h : (concat (fromLead word)).Matches before lead after marks) :
      ∃ front back, lead = front ++ '/' :: back ∧ (∀ c ∈ front, ¬ IsQuote c) ∧
        ∃ c ∈ front, isWhitespace c = true := by
    obtain ⟨_, _, _, _, rfl, -, hkeyword, gap, _, _, _, rfl, -, hplus, type, _, _, _, rfl, -, htype,
      middle, _, _, _, rfl, -, hclause, _, blank, _, _, rfl, -, hfrom, hblanks⟩ := h
    obtain ⟨rfl, -⟩ := (matches_keyword hhead).mp hkeyword
    obtain ⟨hne, hgap, -⟩ := matches_gap.mp hplus
    obtain ⟨rfl, -⟩ := (matches_keyword (by decide)).mp hfrom
    obtain ⟨hspace, -⟩ := matches_blanks.mp hblanks
    have hplain := isClauseChar_of_type htype
    have hmiddle : '/' ∈ middle := by
      have hother : '/' ∉ word.toList ∧ '/' ∉ type :=
        ⟨fun hmem => (hword _ hmem).2.2 rfl, fun hmem => (hplain _ hmem).2.2 rfl⟩
      simpa [hother, hblank hgap, hblank hspace] using hslash
    obtain ⟨front, back, rfl, hfront⟩ := plain_before_slash hclause hmiddle
    refine ⟨word.toList ++ (gap ++ (type ++ front)), back ++ ("from".toList ++ blank), by simp, ?_,
      ?_⟩
    · simp only [List.forall_mem_append]
      exact ⟨fun c hc => (hword c hc).1, hgap.plain, fun c hc => (hplain c hc).1,
        fun c hc => (hfront c hc).1⟩
    · obtain ⟨c, gap, rfl⟩ := List.exists_cons_of_ne_nil hne
      exact ⟨c, by simp, hgap c (by simp)⟩
  simp only [surroundings, List.mem_cons, List.not_mem_nil, or_false] at hs
  rcases hs with rfl | rfl | rfl | rfl | rfl
  · exact hfrom "import" (by decide) (forall_mem_of_all (by decide)) h
  · obtain ⟨_, blank, _, _, rfl, -, hkeyword, hspace⟩ := h
    obtain ⟨rfl, -⟩ := (matches_keyword (by decide)).mp hkeyword
    simp [hblank (matches_blanks.mp hspace).1] at hslash
  · exact absurd hslash (hcall "import" (by decide) (by decide) h)
  · exact absurd hslash (hcall "require" (by decide) (by decide) h)
  · exact hfrom "export" (by decide) (forall_mem_of_all (by decide)) h

variable {s : List Regex × List Regex} {statements : List Statement} {start stop : Nat}

/-- What stands before a name that is found has no quotes, and it is known. -/
theorem introduces_of_parts (hs : s ∈ surroundings)
    (parts : ShapeParts s (printed statements) start stop) :
    Introduces parts.lead ∧ ¬ EndsInWord parts.before := by
  refine introduces_of_surroundings hs parts.lead_matches fun hslash => ?_
  -- A comment could only begin in a path, where there is no white space before it.
  obtain ⟨front, back, hlead, hplain, c, hc, hspace⟩ :=
    blank_before_slash hs parts.lead_matches hslash
  have htext : printed statements = (parts.before ++ front) ++ '/' :: (back ++ parts.opening ::
      (parts.name ++ parts.closing :: (parts.tail ++ parts.after))) := by
    refine parts.text.trans ?_
    rw [hlead]
    simp
  obtain ⟨earlier, found, later, path, rest, -, hpath, hfront⟩ := slash_in_printed htext
  rw [← List.append_assoc] at hfront
  obtain ⟨_, -, rfl⟩ := suffix_of_text hfront hplain
  have hchar := not_isWhitespace_of_isPathChar (found.path_plain c (by simp [hpath, hc]))
  rw [hspace] at hchar
  cases hchar

/-- No path ends like the beginning of an import. -/
theorem not_introduces_in_path {found : Statement} {path : List Char}
    (hpath : found.path = path ++ lead) (hwithin : ¬ EndsInWord path) : ¬ Introduces lead := by
  have hspace {c : Char} (hc : c ∈ lead) : isWhitespace c = false :=
    not_isWhitespace_of_isPathChar (found.path_plain c (by simp [hpath, hc]))
  intro h
  cases h with
  | @taking word gap middle blank _ hne hgap _ _ _ =>
    obtain ⟨c, gap, rfl⟩ := List.exists_cons_of_ne_nil hne
    have hblank := hgap c (by simp)
    rw [hspace (by simp)] at hblank
    cases hblank
  | @bare blank hblank =>
    cases blank with
    | nil => exact hwithin (found.path_end path hpath)
    | cons c blank =>
      have hwhite := hblank c (by simp)
      rw [hspace (by simp)] at hwhite
      cases hwhite
  | @call word gap blank _ _ _ =>
    have hparen : IsPathChar '(' := found.path_plain '(' (by simp [hpath])
    exact absurd hparen (by decide)

/-- A name that is found is the path of a statement, at its own place. -/
theorem statement_of_parts (hs : s ∈ surroundings)
    (parts : ShapeParts s (printed statements) start stop) :
    ∃ earlier found later, statements = earlier ++ found :: later ∧
      parts.before ++ parts.lead = printed earlier ++ found.form.opening ∧
      parts.name = found.path ∧
      parts.tail ++ parts.after = found.form.closing ++ printed later := by
  obtain ⟨hintroduces, hbefore⟩ := introduces_of_parts hs parts
  obtain ⟨earlier, found, later, rfl, ⟨hfront, hback⟩ | ⟨hfront, -⟩⟩ :=
    quote_in_printed parts.text parts.opening_quote
  · refine ⟨earlier, found, later, rfl, hfront, ?_⟩
    rcases split_at_quote hback.symm found.path_unquoted parts.closing_quote with h | ⟨more, h, -⟩
    · exact h
    · exact absurd (Or.inl rfl) (parts.name_plain '\'' (by simp [h]))
  · rw [← List.append_assoc] at hfront
    obtain ⟨path, hstart, hpath⟩ := suffix_of_text hfront hintroduces.plain
    rw [hstart, endsInWord_after_quote] at hbefore
    exact absurd hintroduces (not_introduces_in_path hpath hbefore)

/-- What a shape takes behind a name is within the line of the statement. -/
theorem tail_length_le {found : Statement} {rest : List Char} (hs : s ∈ surroundings)
    (parts : ShapeParts s (printed statements) start stop)
    (htail : parts.tail ++ parts.after = found.form.closing ++ rest) :
    parts.tail.length ≤ found.form.closing.length := by
  have hshape : s.2 = [] ∨ s.2 = callTail := by
    simp only [surroundings, List.mem_cons, List.not_mem_nil, or_false] at hs
    rcases hs with rfl | rfl | rfl | rfl | rfl <;> simp
  have hmatches := parts.tail_matches
  rcases hshape with hshape | hshape
  · rw [hshape] at hmatches
    rw [hmatches.1]
    exact Nat.zero_le _
  · rw [hshape] at hmatches
    obtain ⟨blank, _, _, _, hparts, -, hblanks, rfl, -⟩ := hmatches
    obtain ⟨hblank, -⟩ := matches_blanks.mp hblanks
    rw [hparts] at htail ⊢
    cases blank with
    | nil => rcases found.form.closing_eq with h | h <;> simp [h]
    | cons c blank =>
      have hwhite := hblank c (by simp)
      rcases found.form.closing_eq with h | h
      · rw [h] at htail
        obtain ⟨rfl, -⟩ := List.cons.inj htail
        exact absurd hwhite (by decide)
      · rw [h] at htail
        obtain ⟨rfl, -⟩ := List.cons.inj htail
        exact absurd hwhite (by decide)

end Finding

/-! ## Each statement is found -/

section Reading

variable {earlier later statements : List Statement} {found : Statement}

/-- The shape of a statement is one of those that are searched for. -/
theorem Form.shape_mem (form : Form) : form.shape ∈ surroundings := by
  cases form <;> simp [shape, surroundings]

/-- A line does not end within a word. -/
theorem not_endsInWord_printed (statements : List Statement) :
    ¬ EndsInWord (printed statements) := by
  rcases List.eq_nil_or_concat statements with rfl | ⟨earlier, last, rfl⟩
  · simp [printed, EndsInWord]
  · have hline : printed (earlier ++ [last]) = (printed earlier ++ (last.form.opening ++ '\'' ::
        (last.path ++ '\'' :: last.form.tail)) ++ [';']) ++ ['\n'] := by
      simp [printed, Statement.source, Form.closing]
    have hnewline : isWord '\n' = false := by decide
    rw [List.concat_eq_append, hline, EndsInWord, List.getLast?_concat]
    simp [hnewline]

/-- What a statement begins with does not run into its keyword. -/
theorem not_endsInWord_preface {text : List Char} (htext : ¬ EndsInWord text) (form : Form) :
    ¬ EndsInWord (text ++ form.preface) := by
  cases form with
  | importFrom _ | importOnly | exportFrom _ => simpa [Form.preface] using htext
  | importCall | requireCall =>
    have hspace : isWord ' ' = false := by decide
    rw [endsInWord_append _ (by simp [Form.preface])]
    simp [EndsInWord, Form.preface, hspace]

/-- What is printed before the path is what the shape demands there. -/
theorem Form.lead_matches (form : Form) {before after : List Char} (hbefore : ¬ EndsInWord before) :
    (concat form.shape.1).Matches before form.lead after [] := by
  have hspace : IsBlank [' '] := by decide
  have hfrom (word : String) (hhead : word.toList.head?.any isWord = true) (bindings : Bindings) :
      (concat (fromLead word)).Matches before (word.toList ++ ([' '] ++ ((bindings.text ++ [' ']) ++
        (['f', 'r', 'o', 'm'] ++ [' '])))) after [] := by
    refine matches_fromLead hhead hbefore (by simp) hspace ?_ ?_ hspace
    · rw [List.forall_mem_append]
      exact ⟨bindings.isClauseChar, forall_mem_of_all (by decide)⟩
    · have hword : isWord ' ' = false := by decide
      rw [← List.append_assoc, endsInWord_append _ (by simp)]
      simp [EndsInWord, hword]
  have hcall (word : String) (hhead : word.toList.head?.any isWord = true) :
      (concat (callLead word)).Matches before (word.toList ++ ([] ++ ['('])) after [] := by
    have hnone : IsBlank [] := by decide
    exact matches_callLead hhead hbefore hnone hnone
  cases form with
  | importFrom bindings => simpa [lead, shape] using hfrom "import" (by decide) bindings
  | exportFrom bindings => simpa [lead, shape] using hfrom "export" (by decide) bindings
  | importOnly => exact matches_bareLead hbefore hspace
  | importCall => exact hcall "import" (by decide)
  | requireCall => exact hcall "require" (by decide)

/-- What follows the name fits what the shape demands there. -/
theorem Form.tail_matches (form : Form) {before after : List Char} :
    (concat form.shape.2).Matches before form.tail after [] := by
  cases form with
  | importFrom _ | importOnly | exportFrom _ => exact ⟨rfl, rfl⟩
  | importCall | requireCall =>
    have hblanks : blanks.Matches before [] ([')'] ++ after) [] :=
      matches_blanks.mpr ⟨by simp [IsBlank], rfl⟩
    exact Passage.followedBy_intro (S := (literal ")").Matches) hblanks ⟨rfl, rfl⟩

/-- The path of a statement with what its shape demands around it. -/
theorem parts_of_statement (earlier : List Statement) (found : Statement)
    (later : List Statement) : ∃ stop,
    Nonempty (ShapeParts found.form.shape (printed (earlier ++ found :: later))
      (printed earlier ++ found.form.preface).length stop) := by
  refine ⟨_, ⟨printed earlier ++ found.form.preface, found.form.lead, found.path, found.form.tail,
    [';', '\n'] ++ printed later, '\'', '\'', ?_, rfl, rfl, Or.inl rfl, Or.inl rfl,
    found.path_ne_nil, found.path_unquoted, ?_, found.form.tail_matches⟩⟩
  · simp [printed_append, printed_cons, Statement.source, Form.opening, Form.closing]
  · exact found.form.lead_matches
      (not_endsInWord_preface (not_endsInWord_printed earlier) found.form)

/-- Of two statements in a list one comes first, unless they are the same. -/
theorem same_or_apart {α : Type} {earlier later earlier' later' : List α} {a b : α}
    (h : earlier ++ a :: later = earlier' ++ b :: later') :
    (earlier = earlier' ∧ a = b) ∨ (∃ between, earlier = earlier' ++ b :: between) ∨
      ∃ between, earlier' = earlier ++ a :: between := by
  rcases List.append_eq_append_iff.mp h with ⟨_ | ⟨c, gap⟩, rfl, hgap⟩ | ⟨_ | ⟨c, gap⟩, rfl, hgap⟩
  · exact .inl ⟨by simp, (List.cons.inj hgap).1⟩
  · obtain ⟨rfl, -⟩ := List.cons.inj hgap
    exact .inr (.inr ⟨gap, rfl⟩)
  · exact .inl ⟨by simp, (List.cons.inj hgap).1.symm⟩
  · obtain ⟨rfl, -⟩ := List.cons.inj hgap
    exact .inr (.inl ⟨gap, rfl⟩)

/-- A match that starts no later than a statement names it, or it ends before the statement. -/
theorem names_or_ends_before {s : List Regex × List Regex} {start stop : Nat}
    (hs : s ∈ surroundings) (parts : ShapeParts s (printed (earlier ++ found :: later)) start stop)
    (hstart : start ≤ (printed earlier ++ found.form.preface).length) :
    start < stop ∧
      (parts.ends = ((printed earlier ++ found.form.opening).length + 1,
          (printed earlier ++ found.form.opening).length + 1 + found.path.length) ∨
        stop ≤ (printed earlier ++ found.form.preface).length) := by
  have hbegin := parts.start_eq
  have hend := parts.stop_eq
  rw [List.length_append] at hend
  refine ⟨by omega, ?_⟩
  obtain ⟨earlier', found', later', hsame, hfront, hname, htail⟩ := statement_of_parts hs parts
  rcases same_or_apart hsame with ⟨rfl, rfl⟩ | ⟨between, rfl⟩ | ⟨between, rfl⟩
  · left
    rw [ShapeParts.ends, hfront, hname]
  · right
    have hle := tail_length_le hs parts htail
    rw [← List.length_append, hfront, hname] at hend
    simp only [printed_append, printed_cons, Statement.source, List.length_append,
      List.length_cons] at hend ⊢
    omega
  · -- The match would go over the quote that opens the path of the statement.
    exfalso
    have hover : parts.before ++ parts.lead = (printed earlier ++ found.form.opening) ++ '\'' ::
        (found.path ++ '\'' :: (found.form.closing ++ (printed between ++
          found'.form.opening))) := by
      rw [hfront]
      simp [printed_append, printed_cons, Statement.source]
    obtain ⟨start', hbefore, -⟩ := suffix_of_text hover (introduces_of_parts hs parts).1.plain
    rw [hbegin, hbefore] at hstart
    simp only [Form.opening, List.length_append, List.length_cons] at hstart
    omega

/-- The path of each statement is found at its place. -/
theorem mem_specifiers_printed (earlier : List Statement) (found : Statement)
    (later : List Statement) :
    ((printed earlier ++ found.form.opening).length + 1, found.path) ∈
      specifiers (printed (earlier ++ found :: later)) := by
  obtain ⟨stop, ⟨parts⟩⟩ := parts_of_statement earlier found later
  obtain ⟨m, hm, hstart⟩ := parts.matchesAt
  have hshape : concat (found.form.shape.1 ++ specifier :: found.form.shape.2) ∈ shapes :=
    shapes_eq ▸ List.mem_map.mpr ⟨found.form.shape, found.form.shape_mem, rfl⟩
  have hpath : printed (earlier ++ found :: later) = (printed earlier ++ found.form.opening ++
      ['\'']) ++ (found.path ++ '\'' :: (found.form.closing ++ printed later)) := by
    simp [printed_append, printed_cons, Statement.source]
  have hplace : (printed earlier ++ found.form.opening).length + 1 =
      (printed earlier ++ found.form.opening ++ ['\'']).length := by simp [Nat.add_assoc]
  rw [hplace]
  obtain ⟨m', hm', hgroup⟩ := exists_kind_mem_findAll (P := fun m => m.group? 1 =
      some ((printed earlier ++ found.form.opening ++ ['\'']).length,
        (printed earlier ++ found.form.opening ++ ['\'']).length + found.path.length))
    (finds_ofRegex.mpr hm) fun m' hm' hle => by
      obtain ⟨parts', hgroup⟩ := parts_of_matchesAt found.form.shape_mem (finds_ofRegex.mp hm')
      rw [hgroup, Option.some.injEq, ← hplace, hstart]
      exact names_or_ends_before found.form.shape_mem parts' (hstart ▸ hle)
  refine List.mem_flatMap.mpr ⟨_, List.mem_map.mpr ⟨_, hshape, rfl⟩, ?_⟩
  refine List.mem_filterMap.mpr ⟨m', hm', ?_⟩
  rw [hgroup, Option.map_some]
  simp only [Nat.add_sub_cancel_left]
  rw [hpath, List.drop_left, List.take_left]

end Reading

/-! ## The packages of printed statements -/

section Packages

variable {statements : List Statement} {code : List Char}

/-- The places and texts of the paths in printed statements, the first of which begins at the given
place. -/
def places : (start : Nat) → List Statement → List (Nat × List Char)
  | _, [] => []
  | start, s :: statements =>
    (start + s.form.opening.length + 1, s.path) ::
      places (start + s.source.length) statements

/-- The paths at their places are the paths of the statements. -/
theorem map_places (start : Nat) (statements : List Statement) :
    (places start statements).map (·.2) = statements.map (·.path) := by
  induction statements generalizing start with
  | nil => rfl
  | cons s statements ih => rw [places, List.map_cons, List.map_cons, ih]

/-- A path is at the place that the lines before its statement and the opening of its own line
lead to. -/
theorem mem_places {start : Nat} {x : Nat × List Char} : x ∈ places start statements ↔
    ∃ earlier found later, statements = earlier ++ found :: later ∧
      x = (start + (printed earlier ++ found.form.opening).length + 1, found.path) := by
  induction statements generalizing start with
  | nil => simp [places]
  | cons s statements ih =>
    rw [places, List.mem_cons, ih]
    constructor
    · rintro (rfl | ⟨earlier, found, later, rfl, rfl⟩)
      · exact ⟨[], s, statements, rfl, by simp [printed]⟩
      · exact ⟨s :: earlier, found, later, rfl, by simp [printed_cons]; omega⟩
    · rintro ⟨_ | ⟨first, earlier⟩, found, later, hsplit, rfl⟩
      · obtain ⟨rfl, -⟩ := List.cons.inj hsplit
        exact .inl (by simp [printed])
      · obtain ⟨rfl, rfl⟩ := List.cons.inj hsplit
        exact .inr ⟨earlier, found, later, rfl, by simp [printed_cons]; omega⟩

/-- The paths come one after another. -/
theorem places_increasing (start : Nat) (statements : List Statement) :
    (places start statements).Pairwise (·.1 < ·.1) := by
  induction statements generalizing start with
  | nil => exact .nil
  | cons s statements ih =>
    refine .cons (fun x hx => ?_) (ih _)
    obtain ⟨earlier, found, later, -, rfl⟩ := mem_places.mp hx
    simp only [Statement.source, List.length_append, List.length_cons]
    omega

/-- Exactly the paths of the statements are found, each at its place. -/
theorem mem_specifiers_iff {x : Nat × List Char} :
    x ∈ specifiers (printed statements) ↔ x ∈ places 0 statements := by
  rw [mem_places]
  constructor
  · intro (h : (x.1, x.2) ∈ specifiers (printed statements))
    obtain ⟨front, hnamed, hstart⟩ := namedIn_of_mem_specifiers h
    obtain ⟨s, hs, _, _, parts, rfl, hname⟩ := hnamed.exists_parts
    obtain ⟨earlier, found, later, rfl, hfront, hpath, -⟩ := statement_of_parts hs parts
    refine ⟨earlier, found, later, rfl, Prod.ext ?_ (hname.trans hpath)⟩
    rw [hstart, hfront, Nat.zero_add]
  · rintro ⟨earlier, found, later, rfl, rfl⟩
    rw [Nat.zero_add]
    exact mem_specifiers_printed earlier found later

/-- Sorted by their keys and without repetitions, the members of a list that has increasing keys are
that list. -/
theorem eraseDups_mergeSort_eq {α : Type} [BEq α] [LawfulBEq α] {key : α → Nat}
    {items known : List α} (hknown : known.Pairwise (key · < key ·))
    (hmem : ∀ x, x ∈ items ↔ x ∈ known) :
    (items.mergeSort fun a b => key a ≤ key b).eraseDups = known := by
  have hsorted : (items.mergeSort fun a b => key a ≤ key b).Pairwise (key · ≤ key ·) := by
    have hmerged : (items.mergeSort fun a b => key a ≤ key b).Pairwise fun a b =>
        decide (key a ≤ key b) = true :=
      List.pairwise_mergeSort (fun a b c hab hbc => by simp only [decide_eq_true_eq] at *; omega)
        (fun a b => by simp only [Bool.or_eq_true, decide_eq_true_eq]; omega) items
    exact hmerged.imp of_decide_eq_true
  have hmembers : ∀ x, x ∈ (items.mergeSort fun a b => key a ≤ key b).eraseDups ↔ x ∈ known := by
    simp only [List.mem_eraseDups, List.mem_mergeSort, hmem, implies_true]
  have hsymm : Std.Symm fun x y : α => key x = key y → x = y :=
    ⟨fun _ _ h heq => (h heq.symm).symm⟩
  have hsame := List.Pairwise.forall_of_forall (fun x _ _ => rfl)
    (hknown.imp fun {x y} hlt (heq : key x = key y) => (absurd heq (Nat.ne_of_lt hlt) : x = y))
  have hnodup : known.Nodup :=
    hknown.imp fun hlt heq => absurd (congrArg key heq) (Nat.ne_of_lt hlt)
  have hantisymm : ∀ a b, a ∈ (items.mergeSort fun a b => key a ≤ key b).eraseDups → b ∈ known →
      key a ≤ key b → key b ≤ key a → a = b := fun a b ha hb hab hba =>
    hsame ((hmembers a).mp ha) hb (Nat.le_antisymm hab hba)
  exact List.Perm.eq_of_pairwise hantisymm (hsorted.sublist (eraseDups_sublist _))
    (hknown.imp Nat.le_of_lt)
    ((List.perm_ext_iff_of_nodup (nodup_eraseDups _) hnodup).mpr hmembers)

/-- Where the places of the names are known, so are the packages. -/
theorem packages_of_places {known : List (Nat × List Char)} (hknown : known.Pairwise (·.1 < ·.1))
    (hmem : ∀ x, x ∈ specifiers code ↔ x ∈ known) :
    packages code = ((known.filterMap fun x => packageName x.2).map String.ofList).eraseDups := by
  let name? : Nat × List Char → Option (Nat × String) := fun x =>
    (packageName x.2).map (x.1, String.ofList ·)
  have hkept : (known.filterMap name?).Pairwise (·.1 < ·.1) := by
    refine hknown.filterMap name? fun x y hxy a ha b hb => ?_
    obtain ⟨_, -, rfl⟩ := Option.map_eq_some_iff.mp ha
    obtain ⟨_, -, rfl⟩ := Option.map_eq_some_iff.mp hb
    exact hxy
  have hmembers : ∀ x, x ∈ (specifiers code).filterMap name? ↔ x ∈ known.filterMap name? := by
    simp only [List.mem_filterMap, hmem, implies_true]
  have hnames : packages code =
      ((((specifiers code).filterMap name?).mergeSort fun a b => a.1 ≤ b.1).map (·.2)).eraseDups :=
    rfl
  rw [hnames, ← eraseDups_map_eraseDups, eraseDups_mergeSort_eq hkept hmembers,
    List.map_filterMap, List.map_filterMap]
  simp [name?, Function.comp_def]

/-- The packages of printed statements are those of their modules, in order, each where it appears
first. -/
theorem packages_printed (statements : List Statement) :
    packages (printed statements) =
      ((statements.filterMap fun s => packageName s.path).map String.ofList).eraseDups := by
  rw [packages_of_places (places_increasing 0 statements) fun _ => mem_specifiers_iff]
  have hpaths : (places 0 statements).filterMap (fun x => packageName x.2) =
      statements.filterMap fun s => packageName s.path := by
    calc (places 0 statements).filterMap (fun x => packageName x.2)
      _ = ((places 0 statements).map (·.2)).filterMap packageName := by
          rw [List.filterMap_map]
          rfl
      _ = statements.filterMap fun s => packageName s.path := by
          rw [map_places, List.filterMap_map]
          rfl
  rw [hpaths]

/-- The condition on the end of a path can be checked by looking at one end of it only. -/
theorem path_end_of_suffix {path : List Char} (h : ['i', 'm', 'p', 'o', 'r', 't'] <:+ path →
      (path.take (path.length - 6)).getLast?.any isWord = true) (front : List Char)
    (hpath : path = front ++ ['i', 'm', 'p', 'o', 'r', 't']) : EndsInWord front := by
  subst hpath
  simpa [EndsInWord] using h (List.suffix_append ..)

/-- What is taken may read like another statement, and a path may be a word of the language. -/
def confusing : List Statement :=
  [{ form := .importFrom ⟨['e', 'x', 'p', 'o', 'r', 't', ' ', '*', ' ', 'f', 'r', 'o', 'm'],
      by decide, forall_mem_of_all (by decide)⟩
     path := ['r', 'e', 'q', 'u', 'i', 'r', 'e']
     path_ne_nil := by decide
     path_plain := forall_mem_of_all (by decide)
     path_end := path_end_of_suffix (by decide) },
   { form := .importOnly
     path := ['@', 'a', '/', 'r', 'e', 'i', 'm', 'p', 'o', 'r', 't']
     path_ne_nil := by decide
     path_plain := forall_mem_of_all (by decide)
     path_end := path_end_of_suffix (by decide) },
   { form := .importCall
     path := ['.', '/', '/', 'f', 'r', 'o', 'm']
     path_ne_nil := by decide
     path_plain := forall_mem_of_all (by decide)
     path_end := path_end_of_suffix (by decide) },
   { form := .requireCall
     path := ['r', 'e', 'q', 'u', 'i', 'r', 'e', '/', 'x']
     path_ne_nil := by decide
     path_plain := forall_mem_of_all (by decide)
     path_end := path_end_of_suffix (by decide) }]

/-- The packages are found however the statements read. -/
theorem packages_confusing :
    String.ofList (printed confusing) =
        "import export * from from 'require';\nimport '@a/reimport';\n" ++
          "const m = await import('.//from');\nconst m = require('require/x');\n" ∧
      packages (printed confusing) = ["require", "@a/reimport"] :=
  ⟨by decide +kernel, (packages_printed confusing).trans (by decide)⟩

end Packages

end ArtifactPipeline.Imports
