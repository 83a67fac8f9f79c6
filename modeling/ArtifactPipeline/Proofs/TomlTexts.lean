import ArtifactPipeline.Toml.Parser
import ArtifactPipeline.Toml.Printer
import Mathlib.Tactic.SplitIfs

/-!
# Texts in TOML

A text is written in one of four kinds of quotes, chosen by its content. Whichever is chosen, the
text is read back as it was: escapes stand for the characters that they were written for, quotes
that are not escaped cannot be taken for the closing ones, and the line break after the opening
quotes is dropped again.
-/

namespace ArtifactPipeline.Toml

open Text

/-! ## Characters between double quotes -/

/-- A reader takes up a text as one character. -/
def Takes (read : List Char → Rest → Option (List Char × Rest)) (text : List Char) (c : Char) :
    Prop :=
  ∀ taken rest, read taken (text ++ rest) = read (c :: taken) rest

/-- An escape of one letter is read as the character that it stands for. -/
theorem readBasic_simple {letter c : Char} (h : simpleEscape? letter = some c) :
    Takes readBasic ['\\', letter] c := by
  intro taken rest
  unfold simpleEscape? at h
  split at h <;> cases h <;> rfl

/-- An escape of four hexadecimal digits is read as the character with that number. -/
theorem readBasic_unit {a b c d e : Char} (h : hexEscape? [a, b, c, d] = some e) :
    Takes readBasic ['\\', 'u', a, b, c, d] e := by
  intro taken rest
  simp only [List.cons_append, List.nil_append, readBasic, h]

/-- A character that needs no escape stands for itself. -/
theorem readBasic_plain {c : Char} (hcontrol : isControl c = false) (hquote : c ≠ '"')
    (hbackslash : c ≠ '\\') : Takes readBasic [c] c := by
  intro taken rest
  rw [List.singleton_append, readBasic]
  · simp [hcontrol, hbackslash]
  all_goals simp_all

/-- An escape of one letter stands for the same character in a text of several lines. -/
theorem readLongBasic_simple {letter c : Char} (h : simpleEscape? letter = some c) :
    Takes (readLongBasic false) ['\\', letter] c := by
  intro taken rest
  unfold simpleEscape? at h
  split at h <;> cases h <;> rfl

/-- An escape of four digits stands for the same character in a text of several lines. -/
theorem readLongBasic_unit {a b c d e : Char} (h : hexEscape? [a, b, c, d] = some e) :
    Takes (readLongBasic false) ['\\', 'u', a, b, c, d] e := by
  intro taken rest
  simp only [List.cons_append, List.nil_append, readLongBasic, h]

/-- In a text of several lines a line break stands for itself as well. -/
theorem readLongBasic_plain {c : Char} (hcontrol : isControl c = false ∨ c = '\n')
    (hquote : c ≠ '"') (hbackslash : c ≠ '\\') : Takes (readLongBasic false) [c] c := by
  intro taken rest
  have hreturn : c ≠ '\r' := by
    rintro rfl
    revert hcontrol
    decide
  rw [List.singleton_append, readLongBasic]
  · rcases hcontrol with hcontrol | rfl
    · simp [hcontrol, hbackslash]
    · simp
  all_goals simp_all

/-- A quote in a long text is taken up unless it may be one of the closing quotes. -/
theorem readLongBasic_quote {rest : Rest} (h : ∀ more, rest ≠ '"' :: '"' :: more)
    (taken : List Char) :
    readLongBasic false taken ('"' :: rest) = readLongBasic false ('"' :: taken) rest := by
  have hcontrol : isControl '"' = false := by decide
  rw [readLongBasic]
  · simp [hcontrol]
  all_goals simp_all

/-! ## Escapes -/

/-- The hexadecimal digits of a control character are read back. -/
theorem hexEscape?_control : ∀ n < 0x80, (n < 0x20 ∨ n = 0x7F) →
    hexEscape? (upperHexDigits 4 n) = some (Char.ofNat n) := by decide

/-- A number is written with four digits where four are asked for. -/
theorem upperHexDigits_eq (n : Nat) : ∃ a b c d, upperHexDigits 4 n = [a, b, c, d] :=
  ⟨_, _, _, _, rfl⟩

/-- Whoever reads the escapes takes up what has been escaped. -/
theorem takes_escape {read : List Char → Rest → Option (List Char × Rest)} {c : Char}
    {escaped : List Char}
    (hsimple : ∀ {letter c}, simpleEscape? letter = some c → Takes read ['\\', letter] c)
    (hunit : ∀ {a b c d e}, hexEscape? [a, b, c, d] = some e →
      Takes read ['\\', 'u', a, b, c, d] e)
    (h : escape? c = some escaped) : Takes read escaped c := by
  unfold escape? at h
  split_ifs at h with hb ht hn hf hr hbackslash hcontrol <;> cases h
  · obtain rfl := beq_iff_eq.mp hb
    exact hsimple rfl
  · obtain rfl := beq_iff_eq.mp ht
    exact hsimple rfl
  · obtain rfl := beq_iff_eq.mp hn
    exact hsimple rfl
  · obtain rfl := beq_iff_eq.mp hf
    exact hsimple rfl
  · obtain rfl := beq_iff_eq.mp hr
    exact hsimple rfl
  · obtain rfl := beq_iff_eq.mp hbackslash
    exact hsimple rfl
  · have hrange : c.toNat < 0x20 ∨ c.toNat = 0x7F := by simpa using hcontrol
    have hread := hexEscape?_control c.toNat (by omega) hrange
    obtain ⟨w, x, y, z, hdigits⟩ := upperHexDigits_eq c.toNat
    rw [hdigits, Char.ofNat_toNat] at hread
    rw [hdigits]
    exact hunit hread

/-- A character that is not escaped may stand as it is. -/
theorem plain_of_escape {c : Char} (h : escape? c = none) : isControl c = false ∧ c ≠ '\\' := by
  unfold escape? at h
  split_ifs at h with hb ht hn hf hr hbackslash hcontrol
  refine ⟨?_, by simpa using hbackslash⟩
  simp only [Bool.or_eq_true, decide_eq_true_eq, beq_iff_eq, not_or, Nat.not_lt] at hcontrol
  have hlow : ¬ c.toNat < 0x20 := Nat.not_lt.mpr hcontrol.1
  simp [isControl, hlow, hcontrol.2]

/-- The written form of a character other than a quote between double quotes. -/
def form (long : Bool) (c : Char) : List Char :=
  if long && c == '\n' then [c] else (escape? c).getD [c]

/-- A character other than a quote is written in its form, wherever it stands, and ends a run of
quotes. -/
theorem writeEscaped_form {c : Char} (hquote : c ≠ '"') (long : Bool) (most quotes : Nat)
    (s : List Char) :
    writeEscaped long most quotes (c :: s) = form long c ++ writeEscaped long most 0 s := by
  rw [writeEscaped, if_neg (by simpa using hquote), form]
  by_cases hbreak : (long && c == '\n') = true
  · rw [if_pos hbreak, if_pos hbreak, List.singleton_append]
  · rw [if_neg hbreak, if_neg hbreak]
    cases escape? c <;> rfl

/-- The form of a character in a text of one line is read as the character. -/
theorem takes_form {c : Char} (hquote : c ≠ '"') : Takes readBasic (form false c) c := by
  rw [form, Bool.false_and, if_neg (by decide)]
  cases hescape : escape? c with
  | none =>
    obtain ⟨hcontrol, hbackslash⟩ := plain_of_escape hescape
    exact readBasic_plain hcontrol hquote hbackslash
  | some escaped => exact takes_escape readBasic_simple readBasic_unit hescape

/-- The form of a character in a text of several lines is read as the character. -/
theorem takes_form_long {c : Char} (hquote : c ≠ '"') :
    Takes (readLongBasic false) (form true c) c := by
  rw [form, Bool.true_and]
  by_cases hbreak : (c == '\n') = true
  · obtain rfl := beq_iff_eq.mp hbreak
    exact readLongBasic_plain (Or.inr rfl) (by decide) (by decide)
  · rw [if_neg hbreak]
    cases hescape : escape? c with
    | none =>
      obtain ⟨hcontrol, hbackslash⟩ := plain_of_escape hescape
      exact readLongBasic_plain (Or.inl hcontrol) hquote hbackslash
    | some escaped => exact takes_escape readLongBasic_simple readLongBasic_unit hescape

/-- A character stands as it is, unless it is escaped. A carriage return is always escaped. -/
theorem form_cases (long : Bool) (c : Char) :
    (∃ more, form long c = '\\' :: more) ∨ form long c = [c] ∧ c ≠ '\r' := by
  rw [form]
  by_cases hbreak : (long && c == '\n') = true
  · obtain rfl := beq_iff_eq.mp (Bool.and_eq_true_iff.mp hbreak).2
    rw [if_pos hbreak]
    exact Or.inr ⟨rfl, by decide⟩
  · rw [if_neg hbreak]
    cases hescape : escape? c with
    | none =>
      refine Or.inr ⟨rfl, ?_⟩
      rintro rfl
      cases hescape
    | some escaped =>
      unfold escape? at hescape
      split_ifs at hescape <;> cases hescape <;> exact Or.inl ⟨_, rfl⟩

/-! ## Between double quotes -/

/-- A text that is written with every quote escaped is read back up to the closing quote. -/
theorem readBasic_writeEscaped (s taken : List Char) (rest : Rest) :
    readBasic taken (writeEscaped false 0 0 s ++ '"' :: rest) =
      some (taken.reverse ++ s, rest) := by
  induction s generalizing taken with
  | nil => simp [writeEscaped, readBasic]
  | cons c s ih =>
    have hnext := ih (c :: taken)
    rw [List.reverse_cons, List.append_assoc, List.singleton_append] at hnext
    by_cases hquote : c = '"'
    · subst hquote
      have hwritten : writeEscaped false 0 0 ('"' :: s) = ['\\', '"'] ++ writeEscaped false 0 0 s :=
        rfl
      rw [hwritten, List.append_assoc, readBasic_simple (c := '"') rfl, hnext]
    · rw [writeEscaped_form hquote, List.append_assoc, takes_form hquote, hnext]

/-- No other character than a quote is written with a quote in front. -/
theorem form_not_quotes {c : Char} (hquote : c ≠ '"') (long : Bool) (rest more : Rest) :
    form long c ++ rest ≠ '"' :: more := by
  rcases form_cases long c with ⟨tail, hform⟩ | ⟨hform, -⟩
  · rw [hform]
    simp
  · rw [hform]
    simp [hquote]

/-- Up to two quotes are taken up if another character follows them. -/
theorem readLongBasic_quotes {quotes : Nat} (hquotes : quotes ≤ 2) {rest : Rest}
    (h : ∀ more, rest ≠ '"' :: more) (taken : List Char) :
    readLongBasic false taken (List.replicate quotes '"' ++ rest) =
      readLongBasic false (List.replicate quotes '"' ++ taken) rest := by
  obtain rfl | rfl | rfl : quotes = 0 ∨ quotes = 1 ∨ quotes = 2 := by omega
  · rfl
  · exact readLongBasic_quote (fun more => h _) taken
  · have hfirst : ∀ more, '"' :: rest ≠ '"' :: '"' :: more := by simp [h]
    exact (readLongBasic_quote hfirst taken).trans (readLongBasic_quote (fun more => h _) _)

/-- A long text is read up to the closing quotes. Quotes are left as they are until it is known
whether they are among the closing ones; up to two of them belong to the text. -/
theorem readLongBasic_writeEscaped {rest : Rest} (hrest : ∀ more, rest ≠ '"' :: more)
    (s : List Char) {quotes : Nat} (hquotes : quotes ≤ 2) (taken : List Char) :
    readLongBasic false taken (List.replicate quotes '"' ++
        (writeEscaped true 2 quotes s ++ '"' :: '"' :: '"' :: rest)) =
      some (taken.reverse ++ (List.replicate quotes '"' ++ s), rest) := by
  induction s generalizing taken quotes with
  | nil =>
    rw [writeEscaped, List.nil_append, List.append_nil]
    obtain rfl | rfl | rfl : quotes = 0 ∨ quotes = 1 ∨ quotes = 2 := by omega
    · rw [List.replicate_zero, List.nil_append, readLongBasic, List.append_nil]
      all_goals simp_all
    · simp [List.replicate, readLongBasic]
    · simp [List.replicate, readLongBasic]
  | cons c s ih =>
    by_cases hc : c = '"'
    · subst hc
      rw [writeEscaped, if_pos (beq_self_eq_true '"')]
      by_cases hmore : quotes < 2
      · have hnext := ih (Nat.succ_le_of_lt hmore) taken
        rw [List.replicate_succ', List.append_assoc, List.append_assoc] at hnext
        rw [if_pos hmore]
        exact hnext
      · -- A third quote is escaped, so that the two before it can be taken up.
        have hescape : Takes (readLongBasic false) ['\\', '"'] '"' := readLongBasic_simple rfl
        have hnext := ih (Nat.zero_le 2) ('"' :: (List.replicate quotes '"' ++ taken))
        rw [List.replicate_zero, List.nil_append] at hnext
        rw [if_neg hmore, readLongBasic_quotes hquotes (by simp)]
        refine (hescape _ _).trans (hnext.trans ?_)
        simp
    · have hnext := ih (Nat.zero_le 2) (c :: (List.replicate quotes '"' ++ taken))
      rw [List.replicate_zero, List.nil_append] at hnext
      rw [writeEscaped_form hc, List.append_assoc,
        readLongBasic_quotes hquotes (form_not_quotes hc _ _), takes_form_long hc, hnext]
      simp

/-! ## Between single quotes -/

/-- A text without single quotes and control characters is read up to the first single quote as
it is. -/
theorem readLiteral_append {s : List Char}
    (hs : ∀ c ∈ s, isControl c = false ∧ c ≠ '\'') (taken : List Char) (rest : Rest) :
    readLiteral taken (s ++ '\'' :: rest) = some (taken.reverse ++ s, rest) := by
  induction s generalizing taken with
  | nil => simp [readLiteral]
  | cons c s ih =>
    obtain ⟨⟨hcontrol, hquote⟩, hrest⟩ := List.forall_mem_cons.mp hs
    rw [List.cons_append, readLiteral, if_neg (by simp [hcontrol]), ih hrest]
    · simp
    · exact hquote

/-- A character that may stand in a long text between single quotes. -/
def isLiteral (c : Char) : Bool := !isControl c || c == '\n'

/-- A character other than a single quote is read as it is in a literal text of several lines.
-/
theorem readLongLiteral_plain {c : Char} (hc : isLiteral c = true) (hquote : c ≠ '\'')
    (taken : List Char) (rest : Rest) :
    readLongLiteral taken (c :: rest) = readLongLiteral (c :: taken) rest := by
  have hreturn : c ≠ '\r' := by
    rintro rfl
    revert hc
    decide
  have hallowed : (isControl c && c != '\n') = false := by
    rw [isLiteral] at hc
    cases hcontrol : isControl c <;> simp_all
  rw [readLongLiteral, hallowed]
  · simp
  all_goals simp_all

/-- A quote in a long text is taken up unless it may be one of the closing quotes. -/
theorem readLongLiteral_quote {rest : Rest} (h : ∀ more, rest ≠ '\'' :: '\'' :: more)
    (taken : List Char) :
    readLongLiteral taken ('\'' :: rest) = readLongLiteral ('\'' :: taken) rest := by
  have hcontrol : isControl '\'' = false := by decide
  rw [readLongLiteral]
  · simp [hcontrol]
  all_goals simp_all

/-- A run that has begun counts for the longest one. -/
theorem longestRun_le {mark : Char} {s : List Char} {current limit : Nat}
    (h : longestRun mark current s ≤ limit) : current ≤ limit := by
  induction s generalizing current with
  | nil => exact h
  | cons c s ih =>
    rw [longestRun] at h
    split at h
    · have hnext := ih h
      omega
    · omega

/-- What follows a character other than the mark starts a new run. -/
theorem longestRun_other {mark c : Char} {s : List Char} {current limit : Nat} (hc : c ≠ mark)
    (h : longestRun mark current (c :: s) ≤ limit) : longestRun mark 0 s ≤ limit := by
  rw [longestRun, if_neg (by simpa using hc)] at h
  omega

/-- One more mark makes the run one longer. -/
theorem longestRun_mark {mark : Char} {s : List Char} {current limit : Nat}
    (h : longestRun mark current (mark :: s) ≤ limit) :
    longestRun mark (current + 1) s ≤ limit := by
  rwa [longestRun, if_pos (beq_self_eq_true mark)] at h

/-- One or two single quotes with something else behind them do not close a literal text of
several lines. -/
theorem readLongLiteral_quotes {quotes : Nat} (hquotes : quotes ≤ 2) {rest : Rest}
    (h : ∀ more, rest ≠ '\'' :: more) (taken : List Char) :
    readLongLiteral taken (List.replicate quotes '\'' ++ rest) =
      readLongLiteral (List.replicate quotes '\'' ++ taken) rest := by
  obtain rfl | rfl | rfl : quotes = 0 ∨ quotes = 1 ∨ quotes = 2 := by omega
  · rfl
  · exact readLongLiteral_quote (fun more => h _) taken
  · have hfirst : ∀ more, '\'' :: rest ≠ '\'' :: '\'' :: more := by simp [h]
    exact (readLongLiteral_quote hfirst taken).trans (readLongLiteral_quote (fun more => h _) _)

/-- A long text whose quotes never come in threes is read up to the closing quotes. Up to two quotes
before them belong to it. -/
theorem readLongLiteral_append {rest : Rest} (hrest : ∀ more, rest ≠ '\'' :: more)
    {s : List Char} (hs : ∀ c ∈ s, isLiteral c = true) {quotes : Nat}
    (hrun : longestRun '\'' quotes s ≤ 2) (taken : List Char) :
    readLongLiteral taken (List.replicate quotes '\'' ++ (s ++ '\'' :: '\'' :: '\'' :: rest)) =
      some (taken.reverse ++ (List.replicate quotes '\'' ++ s), rest) := by
  have hquotes := longestRun_le hrun
  induction s generalizing taken quotes with
  | nil =>
    rw [List.nil_append, List.append_nil]
    obtain rfl | rfl | rfl : quotes = 0 ∨ quotes = 1 ∨ quotes = 2 := by omega
    · rw [List.replicate_zero, List.nil_append, readLongLiteral, List.append_nil]
      all_goals simp_all
    · simp [List.replicate, readLongLiteral]
    · simp [List.replicate, readLongLiteral]
  | cons c s ih =>
    obtain ⟨hc, htail⟩ := List.forall_mem_cons.mp hs
    by_cases hquote : c = '\''
    · subst hquote
      have hmore := longestRun_mark hrun
      have hnext := ih htail hmore taken (longestRun_le hmore)
      rw [List.replicate_succ', List.append_assoc, List.append_assoc] at hnext
      exact hnext
    · have hnext := ih htail (longestRun_other hquote hrun)
        (c :: (List.replicate quotes '\'' ++ taken)) (Nat.zero_le 2)
      rw [List.replicate_zero, List.nil_append] at hnext
      rw [List.cons_append, readLongLiteral_quotes hquotes (by simp [hquote]),
        readLongLiteral_plain hc hquote, hnext]
      simp

/-- A text whose longest run of a mark is empty does not have the mark. -/
theorem not_mem_of_longestRun {mark : Char} {s : List Char} (h : longestRun mark 0 s = 0) :
    mark ∉ s := by
  induction s with
  | nil => simp
  | cons c s ih =>
    by_cases hc : c = mark
    · subst hc
      have hone := longestRun_le (longestRun_mark (Nat.le_of_eq h))
      omega
    · have hrest := longestRun_other hc (Nat.le_of_eq h)
      rw [List.mem_cons, not_or]
      exact ⟨Ne.symm hc, ih (Nat.le_zero.mp hrest)⟩

/-! ## Quotes -/

/-- A text that begins with another character has no line break to drop. -/
theorem readNewline?_cons {c : Char} (hbreak : c ≠ '\n') (hreturn : c ≠ '\r') (rest : Rest) :
    readNewline? (c :: rest) = none := by
  rw [readNewline?]
  all_goals simp_all

/-- The line break after the opening quotes is dropped again. -/
theorem skip_firstBreak {s : List Char} {text : Rest}
    (h : s.contains '\n' = false → readNewline? text = none) :
    (readNewline? (firstBreak s ++ text)).getD (firstBreak s ++ text) = text := by
  rw [firstBreak]
  cases hbreak : s.contains '\n' with
  | true => rfl
  | false =>
    show (readNewline? text).getD text = text
    rw [h hbreak]
    rfl

/-- A text between double quotes is read back, and the line break behind it is left. -/
theorem readString?_writeBasic (s : List Char) (rest : Rest) :
    readString? (writeBasic s ++ '\n' :: rest) = some (some (s, '\n' :: rest)) := by
  have hwritten : writeBasic s ++ '\n' :: rest =
      '"' :: (writeEscaped false 0 0 s ++ '"' :: '\n' :: rest) := by simp [writeBasic]
  have hopen : ∀ more, writeEscaped false 0 0 s ++ '"' :: '\n' :: rest ≠ '"' :: '"' :: more := by
    intro more
    cases s with
    | nil => simp [writeEscaped]
    | cons c s =>
      by_cases hc : c = '"'
      · subst hc
        simp [writeEscaped]
      · rw [writeEscaped_form hc, List.append_assoc]
        exact form_not_quotes hc _ _ _
  rw [hwritten, readString?, readBasic_writeEscaped]
  · rfl
  · intro more hmore
    exact hopen more hmore

/-- A text that may stand between single quotes is read back from there. -/
theorem readString?_writeLiteral {s : List Char}
    (hs : ∀ c ∈ s, isControl c = false ∧ c ≠ '\'') (rest : Rest) :
    readString? (writeLiteral s ++ '\n' :: rest) = some (some (s, '\n' :: rest)) := by
  have hwritten : writeLiteral s ++ '\n' :: rest = '\'' :: (s ++ '\'' :: '\n' :: rest) := by
    simp [writeLiteral]
  have hopen : ∀ more, s ++ '\'' :: '\n' :: rest ≠ '\'' :: '\'' :: more := by
    intro more
    cases s with
    | nil => simp
    | cons c s =>
      have hc := (List.forall_mem_cons.mp hs).1.2
      simp [hc]
  rw [hwritten, readString?, readLiteral_append hs]
  · rfl
  · intro more hmore
    exact hopen more hmore

/-- A text between three double quotes is read back, whatever it is. -/
theorem readString?_writeLongBasic (s : List Char) (rest : Rest) :
    readString? (writeLongBasic s ++ '\n' :: rest) = some (some (s, '\n' :: rest)) := by
  have hwritten : writeLongBasic s ++ '\n' :: rest = '"' :: '"' :: '"' ::
      (firstBreak s ++ (writeEscaped true 2 0 s ++ '"' :: '"' :: '"' :: '\n' :: rest)) := by
    simp [writeLongBasic]
  have hbreak : s.contains '\n' = false →
      readNewline? (writeEscaped true 2 0 s ++ '"' :: '"' :: '"' :: '\n' :: rest) = none := by
    intro hnone
    cases s with
    | nil => exact readNewline?_cons (by decide) (by decide) _
    | cons c s =>
      by_cases hc : c = '"'
      · subst hc
        exact readNewline?_cons (by decide) (by decide) _
      · rw [writeEscaped_form hc, List.append_assoc]
        rcases form_cases true c with ⟨more, hform⟩ | ⟨hform, hreturn⟩
        · rw [hform]
          exact readNewline?_cons (by decide) (by decide) _
        · rw [hform]
          refine readNewline?_cons ?_ hreturn _
          rintro rfl
          simp at hnone
  have hread : readLongBasic false []
      (writeEscaped true 2 0 s ++ '"' :: '"' :: '"' :: '\n' :: rest) = some (s, '\n' :: rest) :=
    readLongBasic_writeEscaped (by simp) s (Nat.zero_le 2) []
  rw [hwritten, readString?, skip_firstBreak hbreak]
  exact congrArg some hread

/-- A text without three single quotes in a row is read back from between three of them. -/
theorem readString?_writeLongLiteral {s : List Char} (hs : ∀ c ∈ s, isLiteral c = true)
    (hrun : longestRun '\'' 0 s ≤ 2) (rest : Rest) :
    readString? (writeLongLiteral s ++ '\n' :: rest) = some (some (s, '\n' :: rest)) := by
  have hwritten : writeLongLiteral s ++ '\n' :: rest = '\'' :: '\'' :: '\'' ::
      (firstBreak s ++ (s ++ '\'' :: '\'' :: '\'' :: '\n' :: rest)) := by
    simp [writeLongLiteral]
  have hbreak : s.contains '\n' = false →
      readNewline? (s ++ '\'' :: '\'' :: '\'' :: '\n' :: rest) = none := by
    intro hnone
    cases s with
    | nil => exact readNewline?_cons (by decide) (by decide) _
    | cons c s =>
      have hc := (List.forall_mem_cons.mp hs).1
      refine readNewline?_cons ?_ ?_ _
      · rintro rfl
        simp at hnone
      · rintro rfl
        revert hc
        decide
  have hread : readLongLiteral [] (s ++ '\'' :: '\'' :: '\'' :: '\n' :: rest) =
      some (s, '\n' :: rest) := readLongLiteral_append (by simp) hs hrun []
  rw [hwritten, readString?, skip_firstBreak hbreak]
  exact congrArg some hread

/-- What needs no escape may stand in a long text between single quotes. -/
theorem isLiteral_of_needsEscape {c : Char} (h : needsEscape c = false) : isLiteral c = true := by
  simp only [needsEscape, Bool.or_eq_false_iff, Bool.and_eq_false_iff] at h
  simp only [isLiteral, isControl, Bool.or_eq_true, Bool.not_eq_true', Bool.or_eq_false_iff,
    Bool.and_eq_false_iff]
  obtain ⟨(hlow | htab) | hbreak, hdelete⟩ := h
  · exact Or.inl ⟨Or.inl hlow, hdelete⟩
  · exact Or.inl ⟨Or.inr htab, hdelete⟩
  · exact Or.inr (by simpa using hbreak)

/-- A text is read back, whichever quotes it was written in. -/
theorem readString?_writeText (s : List Char) (rest : Rest) :
    readString? (writeText s ++ '\n' :: rest) = some (some (s, '\n' :: rest)) := by
  have hliteral : s.any needsEscape = false → ∀ c ∈ s, isLiteral c = true := by
    intro hescapes c hc
    exact isLiteral_of_needsEscape (Bool.eq_false_iff.mpr (List.any_eq_false.mp hescapes c hc))
  simp only [writeText]
  split_ifs with hbasic hsingle hlong hlongLiteral hlines
  · exact readString?_writeBasic s rest
  · simp only [Bool.and_eq_true, Bool.not_eq_true', beq_iff_eq] at hsingle
    obtain ⟨⟨hescapes, hrun⟩, hlines⟩ := hsingle
    refine readString?_writeLiteral (fun c hc => ⟨?_, ?_⟩) rest
    · have hc' := hliteral hescapes c hc
      have hbreak : (c == '\n') = false := by
        rw [beq_eq_false_iff_ne]
        rintro rfl
        simp [hc] at hlines
      rwa [isLiteral, hbreak, Bool.or_false, Bool.not_eq_true'] at hc'
    · rintro rfl
      exact not_mem_of_longestRun hrun hc
  · exact readString?_writeLongBasic s rest
  · simp only [Bool.and_eq_true, Bool.not_eq_true', decide_eq_true_eq] at hlongLiteral
    exact readString?_writeLongLiteral (hliteral hlongLiteral.1) hlongLiteral.2 rest
  · exact readString?_writeLongBasic s rest
  · exact readString?_writeBasic s rest

end ArtifactPipeline.Toml
