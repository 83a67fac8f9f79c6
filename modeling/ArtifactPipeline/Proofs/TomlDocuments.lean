import ArtifactPipeline.Config.File
import ArtifactPipeline.Proofs.RecordParts
import ArtifactPipeline.Proofs.TomlNumbers
import ArtifactPipeline.Proofs.TomlTexts

/-!
# Written documents

Sections with their settings are read back line by line. A header begins a table at the end of the
document, and each line below it adds an entry to that table.
-/

namespace ArtifactPipeline.Toml

open Text

/-! ## Values -/

/-- What is written for a value is read as that value up to the end of the line. -/
structure ReadsAs (text : List Char) (v : Value) : Prop where
  start : ∀ rest, dropBlanks (text ++ rest) = text ++ rest
  read : ∀ fuel rest, readValue (fuel + 1) depthLimit (text ++ '\n' :: rest) =
    some (v, '\n' :: rest)

/-- Nothing is dropped in front of a character that is no blank. -/
theorem dropBlanks_cons {c : Char} (h : isBlank c = false) (rest : Rest) :
    dropBlanks (c :: rest) = c :: rest := by
  rw [dropBlanks, List.dropWhile_cons_of_neg (by simp [h])]

/-- A written text begins with its opening quote. -/
theorem writeText_start (s : List Char) : ∃ quote rest,
    writeText s = quote :: rest ∧ isBlank quote = false := by
  simp only [writeText]
  split_ifs <;> exact ⟨_, _, rfl, rfl⟩

/-- A written text is read as the text. -/
theorem readsAs_writeText (s : String) : ReadsAs (writeText s.toList) (.str s) where
  start rest := by
    obtain ⟨quote, more, heq, hquote⟩ := writeText_start s.toList
    rw [heq, List.cons_append, dropBlanks_cons hquote]
  read fuel rest := by
    simp only [readValue, readString?_writeText, Option.map_some, String.ofList_toList]

/-- A character of a class without space and tab is no blank. -/
theorem isBlank_of_class {isIn : Char → Bool} {c : Char} (hc : isIn c = true)
    (hspace : isIn ' ' = false) (htab : isIn '\t' = false) : isBlank c = false := by
  rw [isBlank, Bool.or_eq_false_iff, beq_eq_false_iff_ne, beq_eq_false_iff_ne]
  exact ⟨ne_of_class hc hspace, ne_of_class hc htab⟩

/-- A word ends at the end of the line. -/
theorem takeWord_append {word : List Char} (h : ∀ c ∈ word, isWordChar c = true) (rest : Rest) :
    takeWord (word ++ '\n' :: rest) = (word, '\n' :: rest) := by
  have hbreak : isWordChar '\n' = false := by decide
  simp [takeWord, List.takeWhile_append_of_pos h, List.dropWhile_append_of_pos h, hbreak]

/-- A written word is read as what the word stands for. -/
theorem readsAs_word {word : List Char} {v : Value} (h : IsWord word)
    (hread : readWord word = some v) : ReadsAs word v := by
  obtain ⟨hnonempty, hchars⟩ := h
  rcases word with _ | ⟨c, word⟩
  · exact absurd rfl hnonempty
  have hc := hchars c List.mem_cons_self
  have hdouble : c ≠ '"' := ne_of_class hc (by decide)
  have hsingle : c ≠ '\'' := ne_of_class hc (by decide)
  have hbracket : c ≠ '[' := ne_of_class hc (by decide)
  have hbrace : c ≠ '\x7b' := ne_of_class hc (by decide)
  have hblank := isBlank_of_class hc (by decide) (by decide)
  refine ⟨fun rest => dropBlanks_cons hblank _, fun fuel rest => ?_⟩
  have hstring : readString? (c :: word ++ '\n' :: rest) = none := by
    rw [List.cons_append, readString?] <;> simp_all
  rw [readValue, hstring]
  · simp only [takeWord_append hchars, hread, Option.map_some]
  all_goals simp_all

/-! ## Lines -/

/-- Whether a name may stand without quotes. -/
def isBareName (name : String) : Bool := !name.toList.isEmpty && name.toList.all isBare

section Line

variable {name : String} (hname : isBareName name = true)
include hname

/-- A name without quotes has nothing but bare characters. -/
theorem bareName_all : ∀ c ∈ name.toList, isBare c = true := by
  rw [isBareName, Bool.and_eq_true, List.all_eq_true] at hname
  exact hname.2

/-- A name without quotes is not empty. -/
theorem bareName_cons : ∃ c rest, name.toList = c :: rest ∧ isBare c = true := by
  have hall := bareName_all hname
  cases htext : name.toList with
  | nil => simp [isBareName, htext] at hname
  | cons c rest =>
    rw [htext] at hall
    exact ⟨c, rest, rfl, hall c List.mem_cons_self⟩

/-- A name without quotes is read up to the first character that cannot belong to it. -/
theorem readName_bare {after : Rest} (hafter : ∀ c, after.head? = some c → isBare c = false) :
    readName (name.toList ++ after) = some (name, after) := by
  obtain ⟨c, rest, htext, hc⟩ := bareName_cons hname
  have hdouble : c ≠ '"' := ne_of_class hc (by decide)
  have hsingle : c ≠ '\'' := ne_of_class hc (by decide)
  have hspan := span_append (bareName_all hname) hafter
  rw [List.span_eq_takeWhile_dropWhile] at hspan
  obtain ⟨htake, hdrop⟩ := Prod.mk.inj hspan
  have hnonempty : name.toList.isEmpty = false := by rw [htext]; rfl
  rw [readName, htake, hdrop, hnonempty, String.ofList_toList]
  · rfl
  all_goals simp_all

/-- A name with no point behind it is a key of one part. -/
theorem readKey_bare {after : Rest} (hafter : ∀ c, after.head? = some c → isBare c = false)
    (hpoint : ∀ more, dropBlanks after ≠ '.' :: more) :
    readKey (name.toList ++ after) = some ([name], dropBlanks after) := by
  have hstart : dropBlanks (name.toList ++ after) = name.toList ++ after := by
    obtain ⟨c, rest, htext, hc⟩ := bareName_cons hname
    have hblank := isBlank_of_class hc (by decide) (by decide)
    rw [htext, List.cons_append, dropBlanks_cons hblank]
  rw [readKey, depthLimit, readPath, hstart, readName_bare hname hafter]
  dsimp only
  split
  · next more heq => exact absurd heq (hpoint more)
  · rfl

/-- A line that gives a setting adds an entry to the table of the section. -/
theorem readLine_setting {text : List Char} {v : Value} (hread : ReadsAs text v)
    (header : List String) (document : Entries) (rest : Rest) :
    readLine header document (Config.writeSetting name text ++ rest) =
      (document.put header [name] v).map (header, ·, '\n' :: rest) := by
  obtain ⟨c, more, htext, hc⟩ := bareName_cons hname
  have hbracket : c ≠ '[' := ne_of_class hc (by decide)
  have hline : Config.writeSetting name text ++ rest =
      name.toList ++ ([' ', '=', ' '] ++ (text ++ '\n' :: rest)) := by
    simp [Config.writeSetting]
  have hkey : readKey (name.toList ++ ([' ', '=', ' '] ++ (text ++ '\n' :: rest))) =
      some ([name], '=' :: ' ' :: (text ++ '\n' :: rest)) :=
    readKey_bare hname (by simpa using (by decide)) (by simp [dropBlanks, isBlank])
  have hvalue : readValue (' ' :: (text ++ '\n' :: rest)).length depthLimit
      (dropBlanks (' ' :: (text ++ '\n' :: rest))) = some (v, '\n' :: rest) := by
    have hblank : dropBlanks (' ' :: (text ++ '\n' :: rest)) = dropBlanks (text ++ '\n' :: rest) :=
      List.dropWhile_cons_of_pos rfl
    rw [hblank, hread.start, List.length_cons]
    exact hread.read _ rest
  rw [hline, readLine]
  · simp only [hkey, hvalue]
  all_goals simp_all

/-- A line with the name of a section begins a table. -/
theorem readLine_header (header : List String) (document : Entries) (rest : Rest) :
    readLine header document ('[' :: (name.toList ++ (']' :: '\n' :: rest))) =
      (document.openTable [name]).map ([name], ·, '\n' :: rest) := by
  obtain ⟨c, more, htext, hc⟩ := bareName_cons hname
  have hbracket : c ≠ '[' := ne_of_class hc (by decide)
  have hkey : readKey (name.toList ++ (']' :: '\n' :: rest)) =
      some ([name], ']' :: '\n' :: rest) :=
    readKey_bare hname (by simpa using (by decide)) (by simp [dropBlanks, isBlank])
  rw [readLine]
  · simp [readHeader, hkey]
  · simp_all

end Line

/-! ## Lines one after another -/

/-- A line that is neither blank nor a comment is not dropped. -/
theorem dropLines_cons {c : Char} (hblank : isBlank c = false) (hcomment : c ≠ '#')
    (hbreak : c ≠ '\n') (hreturn : c ≠ '\r') (fuel : Nat) (rest : Rest) :
    dropLines fuel (c :: rest) = c :: rest := by
  cases fuel with
  | zero => rfl
  | succ fuel =>
    have hdrop : dropComment (c :: rest) = c :: rest := by
      rw [dropComment]
      simp_all
    rw [dropLines, dropBlanks_cons hblank, hdrop, readNewline?_cons hbreak hreturn]

/-- A line break ends a line. -/
theorem readLineEnd?_newline (rest : Rest) : readLineEnd? ('\n' :: rest) = some rest := by
  have hdrop : dropComment (dropBlanks ('\n' :: rest)) = '\n' :: rest := rfl
  rw [readLineEnd?, hdrop]
  rfl

/-- The lines after one that is not blank are read with what that line has left. -/
theorem readLines_line {c : Char} {text rest : Rest} {header header' : List String}
    {document document' : Entries} (hc : isBare c = true ∨ c = '[')
    (hline : readLine header document (c :: text) = some (header', document', '\n' :: rest))
    (fuel : Nat) :
    readLines (fuel + 1) header document (c :: text) = readLines fuel header' document' rest := by
  have hdrop (n : Nat) : dropLines n (c :: text) = c :: text := by
    rcases hc with hc | rfl
    · have hblank := isBlank_of_class hc (by decide) (by decide)
      exact dropLines_cons hblank (ne_of_class hc (by decide)) (ne_of_class hc (by decide))
        (ne_of_class hc (by decide)) n text
    · exact dropLines_cons (by decide) (by decide) (by decide) (by decide) n text
  rw [readLines, hdrop]
  simp only [hline, readLineEnd?_newline]

/-- Lines make no difference that are dropped before the next entry or header. -/
theorem readLines_dropped {cs rest : Rest}
    (h : dropLines cs.length cs = dropLines rest.length rest) (fuel : Nat) (header : List String)
    (document : Entries) :
    readLines (fuel + 1) header document cs = readLines (fuel + 1) header document rest := by
  rw [readLines, readLines, h]

/-- An empty line is skipped. -/
theorem dropLines_blank (fuel : Nat) (rest : Rest) :
    dropLines (fuel + 1) ('\n' :: rest) = dropLines fuel rest := rfl

/-- A line with a comment is skipped. -/
theorem dropLines_comment {comment : List Char} (h : (comment.all fun c => !isControl c) = true)
    (fuel : Nat) (rest : Rest) :
    dropLines (fuel + 1) ('#' :: comment ++ '\n' :: rest) = dropLines fuel rest := by
  have hbreak : isControl '\n' = true := by decide
  have hdrop : dropComment ('#' :: comment ++ '\n' :: rest) = '\n' :: rest := by
    rw [List.cons_append, dropComment, List.dropWhile_append_of_pos (List.all_eq_true.mp h)]
    simp [hbreak]
  rw [List.cons_append, dropLines, dropBlanks_cons (by decide), ← List.cons_append, hdrop]
  rfl

/-! ## Sections -/

/-- A setting as it is written and as it is read. -/
structure Setting where
  name : String
  text : List Char
  value : Value

/-- A section with its settings. -/
structure Section where
  name : String
  settings : List Setting

namespace Setting

/-- The line that gives a setting. -/
def line (s : Setting) : List Char := Config.writeSetting s.name s.text

/-- The entry that a setting becomes. -/
def entry (s : Setting) : String × Value := (s.name, s.value)

/-- A setting whose line is read as its entry. -/
structure Sound (s : Setting) : Prop where
  bare : isBareName s.name = true
  reads : ReadsAs s.text s.value

end Setting

namespace Section

/-- The lines of a section. -/
def text (s : Section) : List Char := Config.writeSection s.name (s.settings.map Setting.line)

/-- The table that a section becomes. -/
def entry (s : Section) : String × Value := (s.name, .table .header (s.settings.map Setting.entry))

/-- A section whose lines are read as its table. -/
structure Sound (s : Section) : Prop where
  bare : isBareName s.name = true
  settings : ∀ setting ∈ s.settings, setting.Sound
  names : (s.settings.map (·.name)).Nodup

end Section

section LastEntry

variable {document : Entries} {name : String} (hnew : name ∉ document.map (·.1))
include hnew

/-- A new entry at the end of a document is found under its name. -/
theorem lookup_last (v : Value) : (document ++ [(name, v)]).lookup name = some v := by
  rw [List.lookup_append, lookup_of_notMem hnew]
  simp

/-- A new entry at the end of a document can be replaced in its place. -/
theorem set_last (v w : Value) :
    Entries.set name w (document ++ [(name, v)]) = document ++ [(name, w)] := by
  induction document with
  | nil => simp [Entries.set]
  | cons entry document ih =>
    obtain ⟨hne, hrest⟩ : name ≠ entry.1 ∧ name ∉ document.map (·.1) := by simpa using hnew
    have hother : (entry.1 == name) = false := beq_eq_false_iff_ne.mpr hne.symm
    rw [List.cons_append, Entries.set, hother, ih hrest]
    rfl

/-- A header with a new name begins an empty table at the end of the document. -/
theorem openTable_new :
    document.openTable [name] = some (document ++ [(name, .table .header [])]) := by
  simp only [Entries.openTable, Entries.along, lookup_of_notMem hnew]

/-- An entry with a new name is added to the table at the end. -/
theorem put_last {inner : Entries} {key : String} (hkey : key ∉ inner.map (·.1)) (v : Value) :
    Entries.put [name] [key] v (document ++ [(name, .table .header inner)]) =
      some (document ++ [(name, .table .header (inner ++ [(key, v)]))]) := by
  simp [Entries.put, Entries.along, Entries.putDotted, lookup_last hnew, lookup_of_notMem hkey,
    set_last hnew]

/-- The settings of a section become the entries of its table. -/
theorem readLines_settings {settings : List Setting} (hsound : ∀ s ∈ settings, s.Sound)
    (inner : Entries) (hnames : (inner.map (·.1) ++ settings.map (·.name)).Nodup) (fuel : Nat)
    (rest : Rest) :
    readLines (fuel + settings.length) [name] (document ++ [(name, .table .header inner)])
        ((settings.map Setting.line).flatten ++ rest) =
      readLines fuel [name]
        (document ++ [(name, .table .header (inner ++ settings.map Setting.entry))]) rest := by
  induction settings generalizing inner with
  | nil => simp
  | cons s settings ih =>
    obtain ⟨⟨hbare, hreads⟩, hrest⟩ := List.forall_mem_cons.mp hsound
    have hkey : s.name ∉ inner.map (·.1) := fun hmem =>
      (List.nodup_middle.mp hnames).notMem (List.mem_append_left _ hmem)
    have hline := readLine_setting hbare hreads [name]
      (document ++ [(name, .table .header inner)]) ((settings.map Setting.line).flatten ++ rest)
    rw [put_last hnew hkey, Option.map_some] at hline
    obtain ⟨c, more, htext, hc⟩ := bareName_cons hbare
    obtain ⟨tail, htail⟩ : ∃ tail, Config.writeSetting s.name s.text ++
        ((settings.map Setting.line).flatten ++ rest) = c :: tail := by
      simp [Config.writeSetting, htext]
    -- The table that takes the first entry is still the last one for the lines below.
    have hnext := ih hrest (inner ++ [(s.name, s.value)]) (by simpa using hnames)
    rw [List.append_assoc, List.singleton_append] at hnext
    rw [List.map_cons, List.flatten_cons, List.append_assoc, Setting.line, List.length_cons,
      ← Nat.add_assoc, List.map_cons, Setting.entry]
    rw [htail] at hline ⊢
    rw [readLines_line (Or.inl hc) hline, hnext]

end LastEntry

/-- The lines of a section become a table at the end of the document. -/
theorem readLines_section {s : Section} (hs : s.Sound) {document : Entries}
    (hnew : s.name ∉ document.map (·.1)) (fuel : Nat) (header : List String) (rest : Rest) :
    readLines (fuel + s.settings.length + 1) header document (s.text ++ rest) =
      readLines fuel [s.name] (document ++ [s.entry]) rest := by
  obtain ⟨hbare, hsettings, hnames⟩ := hs
  have htext : s.text ++ rest = '[' :: (s.name.toList ++
      (']' :: '\n' :: ((s.settings.map Setting.line).flatten ++ rest))) := by
    simp [Section.text, Config.writeSection]
  have hline := readLine_header hbare header document
    ((s.settings.map Setting.line).flatten ++ rest)
  rw [openTable_new hnew, Option.map_some] at hline
  rw [htext, readLines_line (Or.inr rfl) hline,
    readLines_settings hnew hsettings [] (by simpa using hnames)]
  rfl

/-- How many lines of sections are not blank. -/
def writtenLines : List Section → Nat
  | [] => 0
  | s :: sections => s.settings.length + 1 + writtenLines sections

/-- Sections with blank lines between them become the tables of the document. -/
theorem readLines_sections {sections : List Section} (hsound : ∀ s ∈ sections, s.Sound)
    (document : Entries) (hnames : (document.map (·.1) ++ sections.map (·.name)).Nodup)
    (fuel : Nat) (header : List String) :
    readLines (fuel + 1 + writtenLines sections) header document
        (['\n'].intercalate (sections.map Section.text)) =
      some (document ++ sections.map Section.entry) := by
  induction sections generalizing document header with
  | nil =>
    rw [List.map_nil, List.intercalate_nil, List.map_nil, List.append_nil]
    rfl
  | cons s sections ih =>
    obtain ⟨hs, hrest⟩ := List.forall_mem_cons.mp hsound
    have hnew : s.name ∉ document.map (·.1) := fun hmem =>
      (List.nodup_middle.mp hnames).notMem (List.mem_append_left _ hmem)
    have hnext := ih hrest (document ++ [s.entry])
      (by simpa [Section.entry] using hnames) [s.name]
    have hcount : fuel + 1 + writtenLines (s :: sections) =
        fuel + 1 + writtenLines sections + s.settings.length + 1 := by
      rw [writtenLines]
      omega
    have hsection := readLines_section hs hnew (fuel + 1 + writtenLines sections) header
    rw [List.append_assoc, List.singleton_append] at hnext
    rw [hcount, List.map_cons, List.map_cons, ← hnext]
    cases sections with
    | nil =>
      have hlast := hsection []
      rw [List.append_nil] at hlast
      rw [List.map_nil, List.intercalate_singleton, hlast, List.intercalate_nil]
    | cons t sections =>
      have hfuel : fuel + 1 + writtenLines (t :: sections) =
          fuel + writtenLines (t :: sections) + 1 := by omega
      rw [List.map_cons, List.intercalate_cons_cons, List.append_assoc, List.singleton_append,
        hsection, hfuel]
      exact readLines_dropped (dropLines_blank _ _) _ _ _

/-! ## Documents -/

/-- There are no more settings than characters in their lines, so reading them does not run out
of fuel. -/
theorem length_settings_le (settings : List Setting) :
    settings.length ≤ (settings.map Setting.line).flatten.length := by
  induction settings with
  | nil => exact Nat.le_refl 0
  | cons s settings ih =>
    have hline : 0 < s.line.length := by
      rw [Setting.line, Config.writeSetting, List.length_append]
      exact Nat.succ_pos _
    rw [List.map_cons, List.flatten_cons, List.length_append, List.length_cons]
    omega

/-- No line of a written section is empty. -/
theorem written_le (sections : List Section) :
    writtenLines sections ≤ (['\n'].intercalate (sections.map Section.text)).length := by
  have hsection (s : Section) : s.settings.length + 1 ≤ s.text.length := by
    have hsettings := length_settings_le s.settings
    simp only [Section.text, Config.writeSection, List.cons_append, List.length_cons,
      List.length_append]
    omega
  induction sections with
  | nil => exact Nat.le_refl 0
  | cons s sections ih =>
    have hs := hsection s
    rw [writtenLines, List.map_cons]
    cases sections with
    | nil => simpa [writtenLines] using hs
    | cons t sections =>
      have htail : List.map Section.text (t :: sections) =
          t.text :: List.map Section.text sections := rfl
      rw [htail, List.intercalate_cons_cons, ← htail, List.length_append, List.length_append]
      omega

/-- Sections below a comment are read as a document. -/
theorem parse_sections {s : Section} {sections : List Section}
    (hsound : ∀ t ∈ s :: sections, t.Sound) (hnames : ((s :: sections).map (·.name)).Nodup)
    {preamble : List Char} (hcomment : preamble.head? = some '#')
    (hdrop : ∀ rest : Rest, dropLines (preamble ++ '[' :: rest).length (preamble ++ '[' :: rest) =
      '[' :: rest) :
    parse (preamble ++ ['\n'].intercalate ((s :: sections).map Section.text)) =
      some ((s :: sections).map Section.entry) := by
  obtain ⟨more, rfl⟩ := List.head?_eq_some_iff.mp hcomment
  obtain ⟨tail, htail⟩ : ∃ tail,
      ['\n'].intercalate ((s :: sections).map Section.text) = '[' :: tail := by
    cases sections with
    | nil => exact ⟨_, List.intercalate_singleton⟩
    | cons t sections => exact ⟨_, List.intercalate_cons_cons⟩
  have hparse (cs : Rest) : parse ('#' :: cs) =
      readLines (('#' :: cs).length + 1) [] [] ('#' :: cs) := rfl
  have hcount := written_le (s :: sections)
  have hread := readLines_sections hsound [] (by simpa using hnames)
    (('#' :: more ++ '[' :: tail).length - writtenLines (s :: sections)) []
  rw [htail] at hcount hread ⊢
  have hfuel : ('#' :: more ++ '[' :: tail).length - writtenLines (s :: sections) + 1 +
      writtenLines (s :: sections) = ('#' :: more ++ '[' :: tail).length + 1 := by
    rw [List.length_append]
    omega
  have hkept : dropLines ('[' :: tail).length ('[' :: tail) = '[' :: tail :=
    dropLines_cons (by decide) (by decide) (by decide) (by decide) _ _
  rw [hfuel] at hread
  rw [List.cons_append, hparse, ← List.cons_append,
    readLines_dropped ((hdrop tail).trans hkept.symm), hread, List.nil_append]

end ArtifactPipeline.Toml
