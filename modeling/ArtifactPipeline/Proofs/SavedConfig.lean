import ArtifactPipeline.Proofs.TomlDocuments

/-!
# Settings survive their file

Settings are written as four sections, each setting as a line of its own, and a missing key as no
line at all. Every line is read back as the value it was written for, so that settings that have
been saved are the ones that are loaded. Only the temperatures go through a decimal form and another
format of numbers.
-/

namespace ArtifactPipeline

open Toml

namespace Toml

/-! ## Settings as lines -/

namespace Setting

/-- A line with a natural number. -/
def ofNat (name : String) (n : Nat) : Setting := ⟨name, writeNat n, .int n⟩

/-- A line with a text. -/
def ofText (name s : String) : Setting := ⟨name, writeText s.toList, .str s⟩

/-- A line with a single-precision number, and the number that it is read as. -/
def ofFloat32 (name : String) (x : Float32) (y : Float) : Setting :=
  ⟨name, writeFloat32 x, .float y⟩

variable {name : String} (hname : isBareName name = true)
include hname

/-- A number below 2^63 is written as a line that is read as the number. -/
theorem sound_ofNat {n : Nat} (h : n < Nat.pow 2 63) : (ofNat name n).Sound :=
  ⟨hname, readsAs_word (isWord_writeNat n) (readWord_writeNat h)⟩

/-- Any text is written as a line that is read as the text. -/
theorem sound_ofText (s : String) : (ofText name s).Sound :=
  ⟨hname, readsAs_writeText s⟩

/-- A line with a single-precision number is read as the number that its decimal form stands
for. -/
theorem sound_ofFloat32 {x : Float32} {y : Float}
    (h : readWord (writeFloat32 x) = some (.float y)) : (ofFloat32 name x y).Sound :=
  ⟨hname, readsAs_word (isWord_writeFloat32 x) h⟩

end Setting

/-! ## Reading sections -/

/-- A number below the bound of a setting is taken as it is. -/
theorem natBelow?_int {n bound : Nat} (h : n < bound) :
    Value.natBelow? bound (.int n) = some n := if_pos h

/-- Numbers up to the greatest one that can be written can be read. -/
theorem natBelow?_of_writable {n : Nat} (h : n < Nat.pow 2 63) :
    Value.natBelow? (Nat.pow 2 64) (.int n) = some n :=
  natBelow?_int (Nat.lt_of_lt_of_le h (by decide))

/-- A table in which no name is unknown is a record with the parts that are there. -/
theorem Entries.record?_of_sublist {names : List String} {es : Entries}
    (hsublist : List.Sublist (es.map (·.1)) names) (hnames : names.Nodup) :
    ∃ r, Entries.record? names es = some r ∧
      ∀ {name v} (i : Nat), es[i]? = some (name, v) → r.get? name = some v := by
  have hknown : ∀ e ∈ es, e.1 ∈ names := fun e he => hsublist.subset (List.mem_map_of_mem he)
  have hkept : es.filter (fun e => names.contains e.1) = es := by
    rw [List.filter_eq_self]
    simpa using hknown
  have hall : es.all (fun e => names.contains e.1 || e.2.isHeld) = true := by
    simp only [List.all_eq_true, Bool.or_eq_true, List.contains_iff_mem]
    exact fun e he => Or.inl (hknown e he)
  have hdistinct := hsublist.nodup hnames
  refine ⟨⟨false, es⟩, ?_, fun i h => lookup_of_mem hdistinct (List.mem_of_getElem? h)⟩
  rw [Entries.record?, if_pos hall, Record.ofMembers?, hkept]
  exact if_pos (Record.distinct_eq_true hdistinct)

end Toml

/-! ## Sections -/

namespace PipelineSettings

/-- The numbers are of the sizes that the settings have, and can be written. -/
structure Fits (p : PipelineSettings) : Prop where
  maxAttempts : p.maxAttempts < Nat.pow 2 32
  chunkSize : p.chunkSize < Nat.pow 2 63
  classificationMaxTokens : p.classificationMaxTokens < Nat.pow 2 32
  snippetChars : p.snippetChars < Nat.pow 2 63

/-- The section of the file, given the numbers that the temperatures are read as. -/
def written (p : PipelineSettings) (y₁ y₂ y₃ : Float) : Section := ⟨"pipeline", [
  .ofNat "max_reflexion_attempts" p.maxAttempts,
  .ofNat "chunk_size" p.chunkSize,
  .ofFloat32 "classification_temperature" p.classificationTemperature y₁,
  .ofFloat32 "generation_temperature" p.generationTemperature y₂,
  .ofFloat32 "repair_temperature" p.repairTemperature y₃,
  .ofNat "classification_max_tokens" p.classificationMaxTokens,
  .ofNat "reference_snippet_chars" p.snippetChars]⟩

/-- The lines of the pipeline section are read as their entries. -/
theorem Fits.sound_written {p : PipelineSettings} (h : p.Fits) {y₁ y₂ y₃ : Float}
    (h₁ : readWord (writeFloat32 p.classificationTemperature) = some (.float y₁))
    (h₂ : readWord (writeFloat32 p.generationTemperature) = some (.float y₂))
    (h₃ : readWord (writeFloat32 p.repairTemperature) = some (.float y₃)) :
    (p.written y₁ y₂ y₃).Sound := by
  have hlimit : Nat.pow 2 32 ≤ Nat.pow 2 63 := by decide
  have hnames : partNames.Nodup := by decide
  have hbare : isBareName "pipeline" = true := by decide
  refine ⟨hbare, ?_, hnames⟩
  simp only [written, List.forall_mem_cons]
  exact ⟨Setting.sound_ofNat (by decide) (Nat.lt_of_lt_of_le h.maxAttempts hlimit),
    Setting.sound_ofNat (by decide) h.chunkSize,
    Setting.sound_ofFloat32 (by decide) h₁,
    Setting.sound_ofFloat32 (by decide) h₂,
    Setting.sound_ofFloat32 (by decide) h₃,
    Setting.sound_ofNat (by decide) (Nat.lt_of_lt_of_le h.classificationMaxTokens hlimit),
    Setting.sound_ofNat (by decide) h.snippetChars, by simp⟩

/-- The pipeline section is taken back from its entries, with the temperatures as they were
read. -/
theorem Fits.ofToml?_written {p : PipelineSettings} (h : p.Fits) (y₁ y₂ y₃ : Float) :
    ofToml? (p.written y₁ y₂ y₃).entry.2 = some { p with
      classificationTemperature := y₁.toFloat32
      generationTemperature := y₂.toFloat32
      repairTemperature := y₃.toFloat32 } := by
  obtain ⟨r, hrecord, hget⟩ : ∃ r, (p.written y₁ y₂ y₃).entry.2.record? partNames = some r ∧ _ :=
    Entries.record?_of_sublist (List.Sublist.refl partNames) (by decide)
  have hattempts : r.get? "max_reflexion_attempts" = some (.int p.maxAttempts) := hget 0 rfl
  have hchunk : r.get? "chunk_size" = some (.int p.chunkSize) := hget 1 rfl
  have hclassification : r.get? "classification_temperature" = some (.float y₁) := hget 2 rfl
  have hgeneration : r.get? "generation_temperature" = some (.float y₂) := hget 3 rfl
  have hrepair : r.get? "repair_temperature" = some (.float y₃) := hget 4 rfl
  have htokens : r.get? "classification_max_tokens" = some (.int p.classificationMaxTokens) :=
    hget 5 rfl
  have hsnippet : r.get? "reference_snippet_chars" = some (.int p.snippetChars) := hget 6 rfl
  rw [ofToml?, hrecord]
  simp only [Option.bind_eq_bind, Option.bind_some, Record.withDefault, hattempts, hchunk,
    hclassification, hgeneration, hrepair, htokens, hsnippet, Value.float32?,
    natBelow?_int h.maxAttempts, natBelow?_of_writable h.chunkSize,
    natBelow?_int h.classificationMaxTokens, natBelow?_of_writable h.snippetChars]
  rfl

end PipelineSettings

namespace ModelSettings

/-- The number can be written. -/
structure Fits (m : ModelSettings) : Prop where
  timeoutSeconds : m.timeoutSeconds < Nat.pow 2 63

/-- The section of the file. -/
def written (m : ModelSettings) : Section := ⟨"models", [
  .ofText "fast_model" m.fastModel,
  .ofText "capable_model" m.capableModel,
  .ofNat "timeout_seconds" m.timeoutSeconds]⟩

/-- The lines of the models section are read as their entries. -/
theorem Fits.sound_written {m : ModelSettings} (h : m.Fits) : m.written.Sound := by
  have hnames : partNames.Nodup := by decide
  have hbare : isBareName "models" = true := by decide
  refine ⟨hbare, ?_, hnames⟩
  simp only [written, List.forall_mem_cons]
  exact ⟨Setting.sound_ofText (by decide) m.fastModel,
    Setting.sound_ofText (by decide) m.capableModel,
    Setting.sound_ofNat (by decide) h.timeoutSeconds, by simp⟩

/-- The models section is taken back from its entries. -/
theorem Fits.ofToml?_written {m : ModelSettings} (h : m.Fits) :
    ofToml? m.written.entry.2 = some m := by
  obtain ⟨r, hrecord, hget⟩ : ∃ r, m.written.entry.2.record? partNames = some r ∧ _ :=
    Entries.record?_of_sublist (List.Sublist.refl partNames) (by decide)
  have hfast : r.get? "fast_model" = some (.str m.fastModel) := hget 0 rfl
  have hcapable : r.get? "capable_model" = some (.str m.capableModel) := hget 1 rfl
  have htimeout : r.get? "timeout_seconds" = some (.int m.timeoutSeconds) := hget 2 rfl
  rw [ofToml?, hrecord]
  simp only [Option.bind_eq_bind, Option.bind_some, Record.withDefault, hfast, hcapable, htimeout,
    Value.text?, natBelow?_of_writable h.timeoutSeconds]
  rfl

end ModelSettings

namespace ValidationSettings

/-- The numbers can be written. -/
structure Fits (v : ValidationSettings) : Prop where
  maxLines : v.maxLines < Nat.pow 2 63
  regexLimit : v.regexLimit < Nat.pow 2 63

/-- The section of the file. -/
def written (v : ValidationSettings) : Section := ⟨"validation", [
  .ofNat "max_lines" v.maxLines,
  .ofNat "regex_size_limit" v.regexLimit]⟩

/-- The lines of the validation section are read as their entries. -/
theorem Fits.sound_written {v : ValidationSettings} (h : v.Fits) : v.written.Sound := by
  have hnames : partNames.Nodup := by decide
  have hbare : isBareName "validation" = true := by decide
  refine ⟨hbare, ?_, hnames⟩
  simp only [written, List.forall_mem_cons]
  exact ⟨Setting.sound_ofNat (by decide) h.maxLines,
    Setting.sound_ofNat (by decide) h.regexLimit, by simp⟩

/-- The validation section is taken back from its entries. -/
theorem Fits.ofToml?_written {v : ValidationSettings} (h : v.Fits) :
    ofToml? v.written.entry.2 = some v := by
  obtain ⟨r, hrecord, hget⟩ : ∃ r, v.written.entry.2.record? partNames = some r ∧ _ :=
    Entries.record?_of_sublist (List.Sublist.refl partNames) (by decide)
  have hlines : r.get? "max_lines" = some (.int v.maxLines) := hget 0 rfl
  have hlimit : r.get? "regex_size_limit" = some (.int v.regexLimit) := hget 1 rfl
  rw [ofToml?, hrecord]
  simp only [Option.bind_eq_bind, Option.bind_some, Record.withDefault, hlines, hlimit,
    natBelow?_of_writable h.maxLines, natBelow?_of_writable h.regexLimit]
  rfl

end ValidationSettings

namespace ApiKeys

/-- The section of the file, which has no line for a missing key. -/
def written (k : ApiKeys) : Section :=
  ⟨"api_keys", k.openRouter.toList.map (.ofText "openrouter_api_key")⟩

/-- The lines of the section with the keys are read as their entries, whichever keys there are.
-/
theorem sound_written (k : ApiKeys) : k.written.Sound := by
  have hbare : isBareName "api_keys" = true := by decide
  refine ⟨hbare, ?_, ?_⟩
  · simp only [written, List.forall_mem_map]
    exact fun key _ => Setting.sound_ofText (by decide) key
  · obtain ⟨_ | key⟩ := k
    · exact List.nodup_nil
    · exact List.nodup_singleton _

/-- The keys are taken back from their entries; a key without a line is missing again. -/
theorem ofToml?_written (k : ApiKeys) : ofToml? k.written.entry.2 = some k := by
  obtain ⟨_ | key⟩ := k
  · rfl
  · obtain ⟨r, hrecord, hget⟩ : ∃ r,
        (ApiKeys.mk (some key)).written.entry.2.record? partNames = some r ∧ _ :=
      Entries.record?_of_sublist (List.Sublist.refl partNames) (by decide)
    have hkey : r.get? "openrouter_api_key" = some (.str key) := hget 0 rfl
    rw [ofToml?, hrecord]
    simp only [Option.bind_eq_bind, Option.bind_some, Record.possible, hkey, Value.text?]
    rfl

end ApiKeys

/-! ## The file -/

namespace Config

/-- The sections of the file, given the numbers that the temperatures are read as. -/
def written (c : Config) (y₁ y₂ y₃ : Float) : List Section :=
  [c.pipeline.written y₁ y₂ y₃, c.models.written, c.validation.written, c.keys.written]

/-- What is saved is the text of these four sections, whatever the temperatures are read as. -/
theorem sections_eq (c : Config) (y₁ y₂ y₃ : Float) :
    c.sections = (c.written y₁ y₂ y₃).map Section.text := by
  obtain ⟨pipeline, models, validation, ⟨_ | key⟩⟩ := c <;> rfl

/-- The numbers of every section are of the sizes that the settings have, and can be written. -/
structure Fits (c : Config) : Prop where
  pipeline : c.pipeline.Fits
  models : c.models.Fits
  validation : c.validation.Fits

variable {c : Config} {y₁ y₂ y₃ : Float}

/-- The lines of all sections are read as their entries. -/
theorem Fits.sound_written (h : c.Fits)
    (h₁ : readWord (writeFloat32 c.pipeline.classificationTemperature) = some (.float y₁))
    (h₂ : readWord (writeFloat32 c.pipeline.generationTemperature) = some (.float y₂))
    (h₃ : readWord (writeFloat32 c.pipeline.repairTemperature) = some (.float y₃)) :
    ∀ s ∈ c.written y₁ y₂ y₃, s.Sound := by
  simp only [written, List.forall_mem_cons]
  exact ⟨h.pipeline.sound_written h₁ h₂ h₃, h.models.sound_written, h.validation.sound_written,
    c.keys.sound_written, by simp⟩

/-- Settings are taken back from the entries of all sections, with the temperatures as they were
read. -/
theorem Fits.ofDocument?_written (h : c.Fits) :
    ofDocument? ((c.written y₁ y₂ y₃).map Section.entry) = some { c with
      pipeline := { c.pipeline with
        classificationTemperature := y₁.toFloat32
        generationTemperature := y₂.toFloat32
        repairTemperature := y₃.toFloat32 } } := by
  obtain ⟨r, hrecord, hget⟩ : ∃ r,
      Entries.record? sectionNames ((c.written y₁ y₂ y₃).map Section.entry) = some r ∧ _ :=
    Entries.record?_of_sublist (List.Sublist.refl sectionNames) (by decide)
  have hfirst : r.get? "pipeline" = some (c.pipeline.written y₁ y₂ y₃).entry.2 := hget 0 rfl
  have hsecond : r.get? "models" = some c.models.written.entry.2 := hget 1 rfl
  have hthird : r.get? "validation" = some c.validation.written.entry.2 := hget 2 rfl
  have hfourth : r.get? "api_keys" = some c.keys.written.entry.2 := hget 3 rfl
  have hpipeline := h.pipeline.ofToml?_written y₁ y₂ y₃
  have hmodels := h.models.ofToml?_written
  have hvalidation := h.validation.ofToml?_written
  have hkeys := c.keys.ofToml?_written
  rw [ofDocument?, hrecord]
  simp only [Option.bind_eq_bind, Option.bind_some, Record.withDefault, hfirst, hsecond, hthird,
    hfourth, hpipeline, hmodels, hvalidation, hkeys]
  rfl

/-- Three lines of comment and a blank one stand above the settings. -/
theorem toList_banner : banner.toList = '#' :: " Forge Configuration File".toList ++ '\n' ::
    ('#' :: " This file is automatically generated on first run".toList ++ '\n' ::
      ('#' :: " Edit this file to customize your settings".toList ++ '\n' :: ['\n'])) := by
  simp [banner, Text.join]

/-- The comment at the head of a saved file is skipped. -/
theorem dropLines_banner (rest : Rest) :
    dropLines (banner.toList ++ '[' :: rest).length (banner.toList ++ '[' :: rest) =
      '[' :: rest := by
  obtain ⟨fuel, hfuel⟩ : ∃ fuel, (banner.toList ++ '[' :: rest).length = fuel + 4 := by
    refine ⟨_, (Nat.sub_add_cancel ?_).symm⟩
    simp only [toList_banner, List.length_append, List.length_cons]
    omega
  have hlines : banner.toList ++ '[' :: rest =
      '#' :: " Forge Configuration File".toList ++ '\n' ::
        ('#' :: " This file is automatically generated on first run".toList ++ '\n' ::
          ('#' :: " Edit this file to customize your settings".toList ++ '\n' :: '\n' ::
            '[' :: rest)) := by
    rw [toList_banner]
    simp only [List.append_assoc, List.cons_append, List.nil_append]
  rw [hfuel, hlines, dropLines_comment (by decide), dropLines_comment (by decide),
    dropLines_comment (by decide), dropLines_blank]
  exact dropLines_cons (by decide) (by decide) (by decide) (by decide) _ _

/-- Settings whose numbers fit can be saved. -/
theorem save_of_fits (h : c.Fits) : c.save = .ok c.toText := by
  have hwords : c.words.all (· < Nat.pow 2 63) = true := by
    simp only [words, List.all_cons, List.all_nil, Bool.and_eq_true, decide_eq_true_eq]
    exact ⟨h.pipeline.chunkSize, h.pipeline.snippetChars, h.models.timeoutSeconds,
      h.validation.maxLines, h.validation.regexLimit, trivial⟩
  exact if_pos hwords

/-- Settings are saved iff none of the machine words among them is too great. -/
theorem save_eq_ok_iff {text : String} :
    c.save = .ok text ↔ text = c.toText ∧ ∀ n ∈ c.words, n < Nat.pow 2 63 := by
  unfold save
  split
  · next hwords =>
    have hfits : ∀ n ∈ c.words, n < Nat.pow 2 63 := by simpa using hwords
    rw [Except.ok.injEq, eq_comm]
    exact (and_iff_left hfits).symm
  · next hwords =>
    refine iff_of_false nofun fun hsaved => hwords ?_
    simpa using hsaved.2

/-- Settings that have been saved are the ones that are loaded, apart from the temperatures. -/
theorem ofBytes_toText (h : c.Fits) : c.save = .ok c.toText ∧ ∃ t₁ t₂ t₃ : Float32,
    ofBytes c.toText.toUTF8 = .ok { c with
      pipeline := { c.pipeline with
        classificationTemperature := t₁
        generationTemperature := t₂
        repairTemperature := t₃ } } := by
  obtain ⟨y₁, h₁⟩ := readWord_writeFloat32 c.pipeline.classificationTemperature
  obtain ⟨y₂, h₂⟩ := readWord_writeFloat32 c.pipeline.generationTemperature
  obtain ⟨y₃, h₃⟩ := readWord_writeFloat32 c.pipeline.repairTemperature
  have hnames : sectionNames.Nodup := by decide
  have hparse : parse c.toText.toList = some ((c.written y₁ y₂ y₃).map Section.entry) := by
    rw [toText, String.toList_append, String.toList_ofList, sections_eq c y₁ y₂ y₃]
    exact parse_sections (h.sound_written h₁ h₂ h₃) hnames (by rw [toList_banner]; rfl)
      dropLines_banner
  have htext : String.fromUTF8? c.toText.toUTF8 = some c.toText := by
    have hvalid : c.toText.toUTF8.IsValidUTF8 := c.toText.isValidUTF8
    rw [String.fromUTF8?, dif_pos hvalid]
    rfl
  refine ⟨save_of_fits h, y₁.toFloat32, y₂.toFloat32, y₃.toFloat32, ?_⟩
  rw [ofBytes, htext]
  simp only [ofText, hparse, Option.bind_some, h.ofDocument?_written]

/-- Quotes of both kinds, a backslash, a line break, a control character, a character outside of
ASCII, an empty text and the greatest number that can be written. -/
theorem ofBytes_toText_quotes :
    Fits ⟨{}, ⟨"it's \"C:\\é\n\x01\"", "", Nat.pow 2 63 - 1⟩, {}, ⟨some "'''\"\"\""⟩⟩ ∧
      (save ⟨{}, ⟨"it's \"C:\\é\n\x01\"", "", Nat.pow 2 63 - 1⟩, {},
        ⟨some "'''\"\"\""⟩⟩).isOk = true ∧
      ∃ t₁ t₂ t₃ : Float32,
        ofBytes (toText ⟨{}, ⟨"it's \"C:\\é\n\x01\"", "", Nat.pow 2 63 - 1⟩, {},
          ⟨some "'''\"\"\""⟩⟩).toUTF8 =
        .ok ⟨{ classificationTemperature := t₁, generationTemperature := t₂,
               repairTemperature := t₃ },
          ⟨"it's \"C:\\é\n\x01\"", "", Nat.pow 2 63 - 1⟩, {}, ⟨some "'''\"\"\""⟩⟩ := by
  have hfits : Fits ⟨{}, ⟨"it's \"C:\\é\n\x01\"", "", Nat.pow 2 63 - 1⟩, {},
      ⟨some "'''\"\"\""⟩⟩ := by
    refine ⟨⟨?_, ?_, ?_, ?_⟩, ⟨?_⟩, ⟨?_, ?_⟩⟩ <;> decide
  obtain ⟨hsaved, hloaded⟩ := ofBytes_toText hfits
  exact ⟨hfits, by rw [hsaved]; rfl, hloaded⟩

end Config

end ArtifactPipeline
