import ArtifactPipeline.Proofs.ScriptedReplies
import ArtifactPipeline.Proofs.Trimming
import ArtifactPipeline.Prompt.Text

/-!
# Where prompts are found

A prompt is what stands below the first heading of a prompt in its document. The lines above the
heading do not matter as long as none of them has the heading in it. So the instructions that the
pipeline works with are those of the documents, and there is no other prompt.
-/

namespace ArtifactPipeline

namespace Text

variable {needle line rest : List Char}

/-- A text of one line that does not occur in a line does not begin there and go on below it. -/
theorem not_prefix_line (hneedle : '\n' ∉ needle) (hline : ¬ needle <+: line) (rest : List Char) :
    ¬ needle <+: line ++ '\n' :: rest := by
  intro hprefix
  by_cases hlength : needle.length ≤ line.length
  · exact hline (List.prefix_of_prefix_length_le hprefix (List.prefix_append _ _) hlength)
  · have hbreak : line ++ ['\n'] <+: line ++ '\n' :: rest := ⟨rest, by simp⟩
    have hlonger : (line ++ ['\n']).length ≤ needle.length := by
      simp only [List.length_append, List.length_singleton]
      omega
    have hwithin := List.prefix_of_prefix_length_le hbreak hprefix hlonger
    exact hneedle (hwithin.subset (by simp))

/-- A text of one line that does not occur in the first line is looked for below it. -/
theorem indexOf?_line (hneedle : '\n' ∉ needle) (hline : ¬ needle <:+: line) :
    indexOf? needle (line ++ '\n' :: rest) =
      (indexOf? needle rest).map (· + (line.length + 1)) := by
  induction line with
  | nil =>
    have hstart := not_prefix_line hneedle (fun h => hline h.isInfix) rest
    rw [← List.isPrefixOf_iff_prefix] at hstart
    exact if_neg hstart
  | cons c line ih =>
    have hstart := not_prefix_line hneedle (fun h => hline h.isInfix) rest
    have hbelow : ¬ needle <:+: line := fun h => hline (h.trans (List.suffix_cons c line).isInfix)
    rw [← List.isPrefixOf_iff_prefix, List.cons_append] at hstart
    rw [List.cons_append, indexOf?, if_neg hstart, ih hbelow, Option.map_map]
    rfl

/-- A text that stands at the beginning is found there. -/
theorem indexOf?_append (needle rest : List Char) : indexOf? needle (needle ++ rest) = some 0 := by
  cases needle with
  | nil => cases rest <;> rfl
  | cons c needle =>
    rw [List.cons_append, indexOf?, ← List.cons_append]
    exact if_pos (List.isPrefixOf_iff_prefix.mpr (List.prefix_append _ _))

/-- The first line break is found at the end of the first line. -/
theorem indexOf?_newline (hline : '\n' ∉ line) :
    indexOf? ['\n'] (line ++ '\n' :: rest) = some line.length := by
  induction line with
  | nil => rfl
  | cons c line ih =>
    rw [List.mem_cons, not_or] at hline
    have hstart : ¬ ['\n'].isPrefixOf (c :: (line ++ '\n' :: rest)) = true := by
      simpa using hline.1
    rw [List.cons_append, indexOf?, if_neg hstart, ih hline.2]
    rfl

variable {separator first last : String} {lines : List String}

/-- Joined lines begin as the first one, if that is not empty. -/
theorem head?_join (hfirst : lines.head? = some first) (hne : first.toList ≠ []) :
    (join separator lines).toList.head? = first.toList.head? := by
  obtain ⟨lines, rfl⟩ := List.head?_eq_some_iff.mp hfirst
  cases lines with
  | nil => rfl
  | cons line lines =>
    have hjoin : join separator (first :: line :: lines) =
        first ++ (separator ++ join separator (line :: lines)) := String.append_assoc ..
    rw [hjoin, String.toList_append, List.head?_append_of_ne_nil _ hne]

/-- Joined lines end as the last one, if that is not empty. -/
theorem getLast?_join (hlast : lines.getLast? = some last) (hne : last.toList ≠ []) :
    (join separator lines).toList.getLast? = last.toList.getLast? := by
  induction lines with
  | nil => cases hlast
  | cons line lines ih =>
    cases lines with
    | nil =>
      obtain rfl : line = last := Option.some.inj hlast
      rfl
    | cons next lines =>
      rw [List.getLast?_cons_cons] at hlast
      have hrest := ih hlast
      have hjoin : join separator (line :: next :: lines) =
          line ++ separator ++ join separator (next :: lines) := rfl
      have hsome : (join separator (next :: lines)).toList ≠ [] := by
        intro hempty
        rw [hempty] at hrest
        exact hne (List.getLast?_eq_none_iff.mp hrest.symm)
      rw [hjoin, String.toList_append, List.getLast?_append_of_ne_nil _ hsome, hrest]

end Text

namespace Prompt

open Text

/-- The heading is a text of one line. -/
theorem newline_not_mem_heading : '\n' ∉ heading.toList := by decide

/-- A document in which the heading does not occur has no prompt. -/
theorem extract_unheaded {document : String} (h : ¬ heading.toList <:+: document.toList) :
    extract document = .error (.config "Prompt section not found") := by
  rw [← occursIn_iff_infix, occursIn, Option.not_isSome_iff_eq_none] at h
  rw [extract, h]

/-- A line above the heading does not matter. -/
theorem extract_line {line : String} (hline : ¬ heading.toList <:+: line.toList) (rest : String) :
    extract (line ++ "\n" ++ rest) = extract rest := by
  have hdocument : (line ++ "\n" ++ rest).toList = line.toList ++ '\n' :: rest.toList := by simp
  have hdrop (n : Nat) : (line.toList ++ '\n' :: rest.toList).drop (n + (line.toList.length + 1)) =
      rest.toList.drop n := by
    rw [Nat.add_comm, ← List.drop_drop]
    congr 1
    simp
  unfold extract
  rw [hdocument, indexOf?_line newline_not_mem_heading hline]
  cases indexOf? heading.toList rest.toList with
  | none => rfl
  | some start => simp only [Option.map_some, hdrop]

/-- The heading may be followed by anything on its line; the prompt stands below that. -/
theorem extract_heading {more : String} (hmore : '\n' ∉ more.toList) (rest : String) :
    extract (heading ++ more ++ "\n" ++ rest) = .ok (String.ofList (trim rest.toList)) := by
  have hdocument : (heading ++ more ++ "\n" ++ rest).toList =
      heading.toList ++ more.toList ++ '\n' :: rest.toList := by simp
  have hfirst : '\n' ∉ heading.toList ++ more.toList := by
    rw [List.mem_append, not_or]
    exact ⟨newline_not_mem_heading, hmore⟩
  have hdrop : (heading.toList ++ more.toList ++ '\n' :: rest.toList).drop
      ((heading.toList ++ more.toList).length + 1) = rest.toList := by
    rw [← List.drop_drop, List.drop_left]
    rfl
  unfold extract
  rw [hdocument, List.append_assoc, indexOf?_append, ← List.append_assoc]
  simp only [List.drop_zero, indexOf?_newline hfirst, hdrop]

/-- A document with some lines above the heading has the text below it as its prompt, if that text
begins and ends with other characters than white space. -/
theorem extract_join {usage : List String} {text : String}
    (husage : ∀ line ∈ usage, occursIn heading.toList line.toList = false)
    (hfirst : ∀ c ∈ text.toList.head?, isWhitespace c = false)
    (hlast : ∀ c ∈ text.toList.getLast?, isWhitespace c = false) :
    extract (join "\n" (usage ++ [heading, "", text, ""])) = .ok text := by
  induction usage with
  | nil =>
    have hblank : ∀ c ∈ ['\n'], isWhitespace c = true := List.all_eq_true.mp rfl
    have htext : trim ("\n" ++ text ++ "\n").toList = text.toList := by
      simpa using trim_around hblank hblank hfirst hlast
    have hjoin : join "\n" ([] ++ [heading, "", text, ""]) =
        heading ++ "" ++ "\n" ++ ("\n" ++ text ++ "\n") := by
      apply String.toList_injective
      simp [join]
    rw [hjoin, extract_heading (by simp), htext, String.ofList_toList]
  | cons line usage ih =>
    rw [List.forall_mem_cons] at husage
    have hline : ¬ heading.toList <:+: line.toList := by
      rw [← occursIn_iff_infix, husage.1]
      exact Bool.false_ne_true
    have hjoin : join "\n" (line :: usage ++ [heading, "", text, ""]) =
        line ++ "\n" ++ join "\n" (usage ++ [heading, "", text, ""]) := by
      cases usage <;> rfl
    rw [hjoin, extract_line hline, ih husage.2]

/-- The prompt may be given by its lines, of which the first and the last one are not blank at the
ends of the prompt. -/
theorem extract_lines {usage lines : List String} {first last : String}
    (husage : ∀ line ∈ usage, occursIn heading.toList line.toList = false)
    (hfirst : lines.head? = some first) (hbegin : first.toList.head?.any (!isWhitespace ·) = true)
    (hlast : lines.getLast? = some last) (hend : last.toList.getLast?.any (!isWhitespace ·) = true) :
    extract (join "\n" (usage ++ [heading, "", join "\n" lines, ""])) = .ok (join "\n" lines) := by
  obtain ⟨c, hc, hbegin⟩ := (Option.any_eq_true _ _).mp hbegin
  obtain ⟨d, hd, hend⟩ := (Option.any_eq_true _ _).mp hend
  apply extract_join husage
  · rw [head?_join hfirst (fun h => by simp [h] at hc), hc]
    simpa using hbegin
  · rw [getLast?_join hlast (fun h => by simp [h] at hd), hd]
    simpa using hend

/-- The instructions for classifying a request are those of their document. -/
theorem extract_classificationDocument :
    extract classificationDocument = .ok classification := by
  rw [classificationDocument, classification]
  exact extract_lines (by decide +kernel) rfl (by decide) rfl (by decide)

/-- The instructions for generating a component are those of their document. -/
theorem extract_generationDocument : extract generationDocument = .ok generation := by
  rw [generationDocument, generation]
  exact extract_lines (by decide +kernel) rfl (by decide) rfl (by decide)

/-- The instructions for repairing a component are those of their document. -/
theorem extract_repairDocument : extract repairDocument = .ok repair := by
  rw [repairDocument, repair]
  exact extract_lines (by decide +kernel) rfl (by decide) rfl (by decide)

/-- The prompts are the instructions that the pipeline works with, each under its name. No other name
has a prompt. -/
theorem named_eq (name : String) :
    named name =
      if name = "classification" then .ok classification
      else if name = "generation" then .ok generation
      else if name = "reflexion" then .ok repair
      else .error (.config ("Unknown prompt: " ++ name)) := by
  unfold named
  split
  · exact extract_classificationDocument
  · exact extract_generationDocument
  · exact extract_repairDocument
  · next hclassification hgeneration hrepair =>
    rw [if_neg hclassification, if_neg hgeneration, if_neg hrepair]

end Prompt

end ArtifactPipeline
