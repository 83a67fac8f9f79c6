import ArtifactPipeline.Text.Search
import Mathlib.Data.List.DropRight

/-!
# Trimmed texts

Trimming takes the white space off both ends of a text and leaves everything from the first to the
last other character as it is.
-/

namespace ArtifactPipeline

open Text

variable {before word after front rest : List Char} {c : Char}

/-- White space behind a text that ends with another character is dropped. -/
theorem trimEnd_append (hafter : ∀ c ∈ after, isWhitespace c = true)
    (hlast : ∀ c ∈ word.getLast?, isWhitespace c = false) : trimEnd (word ++ after) = word := by
  have hkept : word.reverse.dropWhile isWhitespace = word.reverse :=
    List.dropWhile_eq_self_iff.mpr fun hne => by
      rw [Bool.not_eq_true]
      apply hlast
      rw [← List.head?_reverse, Option.mem_def, List.head?_eq_getElem?]
      exact List.getElem?_eq_getElem hne
  rw [trimEnd, List.reverse_append, List.dropWhile_append_of_pos (by simpa using hafter), hkept,
    List.reverse_reverse]

/-- White space around a text that begins and ends with other characters is dropped. -/
theorem trim_around (hbefore : ∀ c ∈ before, isWhitespace c = true)
    (hafter : ∀ c ∈ after, isWhitespace c = true)
    (hfirst : ∀ c ∈ word.head?, isWhitespace c = false)
    (hlast : ∀ c ∈ word.getLast?, isWhitespace c = false) :
    trim (before ++ (word ++ after)) = word := by
  rw [trim, List.dropWhile_append_of_pos hbefore]
  cases word with
  | nil => rw [List.nil_append, List.dropWhile_eq_nil_iff.mpr hafter, trimEnd]; rfl
  | cons c word =>
    have hfirst : ¬ isWhitespace c = true := by simp [hfirst c rfl]
    rw [List.cons_append, List.dropWhile_cons_of_neg hfirst, ← List.cons_append,
      trimEnd_append hafter hlast]

/-- White space around a word is dropped. -/
theorem trim_append (hbefore : ∀ c ∈ before, isWhitespace c = true)
    (hafter : ∀ c ∈ after, isWhitespace c = true) (hword : ∀ c ∈ word, isWhitespace c = false) :
    trim (before ++ (word ++ after)) = word :=
  trim_around hbefore hafter (fun c hc => hword c (List.mem_of_mem_head? hc))
    fun c hc => hword c (List.mem_of_mem_getLast? hc)

/-- A text without white space has nothing to be trimmed. -/
theorem trim_eq_self (hword : ∀ c ∈ word, isWhitespace c = false) : trim word = word := by
  have hblank : ∀ c ∈ ([] : List Char), isWhitespace c = true := by simp
  have htrim := trim_append hblank hblank hword
  rwa [List.nil_append, List.append_nil] at htrim

/-- What stands before a character that is not white space is kept at the end of a text. -/
theorem trimEnd_append_cons (hc : isWhitespace c = false) (front rest : List Char) :
    ∃ more, trimEnd (front ++ c :: rest) = front ++ c :: more := by
  have hcut : ∃ more, (rest.reverse ++ c :: front.reverse).dropWhile isWhitespace =
      more ++ c :: front.reverse := by
    rw [List.dropWhile_append]
    split
    · exact ⟨[], by simp [hc]⟩
    · exact ⟨_, rfl⟩
  obtain ⟨more, hmore⟩ := hcut
  refine ⟨more.reverse, ?_⟩
  rw [trimEnd, List.reverse_append, List.reverse_cons, List.append_assoc, List.singleton_append,
    hmore]
  simp

/-- A text that begins with another character than white space keeps that character. -/
theorem trim_cons (hc : isWhitespace c = false) (rest : List Char) :
    ∃ more, trim (c :: rest) = c :: more := by
  rw [trim, List.dropWhile_cons_of_neg (by simp [hc])]
  exact trimEnd_append_cons hc [] rest

/-- A trimmed text does not begin with white space. -/
theorem head_of_trim_eq_self (h : trim (c :: rest) = c :: rest) : isWhitespace c = false := by
  cases hspace : isWhitespace c with
  | false => rfl
  | true =>
    have hshorter : (trim (c :: rest)).length ≤ rest.length := by
      rw [trim, List.dropWhile_cons_of_pos hspace, trimEnd, List.length_reverse]
      have hend := (List.dropWhile_sublist isWhitespace
        (l := (rest.dropWhile isWhitespace).reverse)).length_le
      have hstart := (List.dropWhile_sublist isWhitespace (l := rest)).length_le
      rw [List.length_reverse] at hend
      omega
    rw [h, List.length_cons] at hshorter
    omega

/-- What is appended to a trimmed text behind a character that is not white space does not take
anything off the text. -/
theorem trim_append_cons (htrim : trim word = word) (hword : word ≠ [])
    (hc : isWhitespace c = false) (rest : List Char) :
    ∃ more, trim (word ++ c :: rest) = word ++ c :: more := by
  obtain ⟨first, word, rfl⟩ := List.exists_cons_of_ne_nil hword
  have hfirst := head_of_trim_eq_self htrim
  rw [trim, List.cons_append, List.dropWhile_cons_of_neg (by simp [hfirst]), ← List.cons_append]
  exact trimEnd_append_cons hc (first :: word) rest

end ArtifactPipeline
