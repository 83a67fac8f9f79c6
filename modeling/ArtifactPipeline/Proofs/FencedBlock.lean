import ArtifactPipeline.Component.Extract
import ArtifactPipeline.Proofs.Alternatives
import ArtifactPipeline.Proofs.Choices

/-!
# The block that is extracted

A scanner that knows no expressions looks for the leftmost opener of a block, for the end of the
line behind it, and for the next fence. The search for a fenced block finds what the scanner finds:
the two ways to read on that the expression leaves open, the length of the rest of the line and that
of the inside, are settled by its preference for more and for fewer rounds.
-/

namespace ArtifactPipeline.Component

open Text Regex

/-! ## The scanner -/

/-- Cuts a text at the leftmost place from which `read` succeeds: what stands before the place, and
what `read` leaves. -/
def splitAt? (read : List Char → Option (List Char)) : List Char → Option (List Char × List Char)
  | [] => (read []).map ([], ·)
  | c :: text => match read (c :: text) with
    | some left => some ([], left)
    | none => (splitAt? read text).map fun (before, left) => (c :: before, left)

/-- What comes behind the beginning of a text, if the text begins so. -/
def behind? (front text : List Char) : Option (List Char) := text.dropPrefix? front

/-- Three backticks. -/
def backticks : List Char := "```".toList

/-- The tags that name a language. -/
def tags : List String := ["tsx", "jsx", "typescript", "javascript", "ts", "js"]

/-- What comes after the opener with which a text begins: a fence and a tag that is a whole word. -/
def afterOpener? (text : List Char) : Option (List Char) := do
  let rest ← behind? backticks text
  tags.findSome? fun tag => do
    let rest ← behind? tag.toList rest
    if rest.head?.any isWord then none else some rest

/-- A fenced block: the prose before it, and what stands between the line of its opener and its
closing fence. -/
structure Block where
  prose : List Char
  inside : List Char
  deriving Repr, DecidableEq

/-- The first fenced block of a reply, closed by the first fence after the line of the opener. -/
def block? (reply : List Char) : Option Block := do
  let (prose, rest) ← splitAt? afterOpener? reply
  let (_, rest) ← splitAt? (behind? ['\n']) rest
  let (inside, _) ← splitAt? (behind? backticks) rest
  return ⟨prose, inside⟩

/-- A text without the newline at its end, if there is one. -/
def dropNewline (text : List Char) : List Char :=
  if text.getLast? = some '\n' then text.dropLast else text

section Scanning

variable {read : List Char → Option (List Char)} {text before rest left : List Char}

/-- The scanner cuts at the leftmost place. -/
theorem splitAt?_eq_some_iff : splitAt? read text = some (before, left) ↔
    ∃ rest, text = before ++ rest ∧ read rest = some left ∧
      ∀ front rest' left', text = front ++ rest' → read rest' = some left' →
        before.length ≤ front.length := by
  induction text generalizing before with
  | nil =>
    constructor
    · intro h
      obtain ⟨_, hread, hpair⟩ := Option.map_eq_some_iff.mp h
      cases hpair
      exact ⟨[], rfl, hread, by simp⟩
    · rintro ⟨rest, htext, hread, -⟩
      obtain ⟨rfl, rfl⟩ := List.nil_eq_append_iff.mp htext
      exact Option.map_eq_some_iff.mpr ⟨left, hread, rfl⟩
  | cons c text ih =>
    unfold splitAt?
    split
    · next left' hread =>
      constructor
      · rintro ⟨⟩
        exact ⟨c :: text, rfl, hread, by simp⟩
      · rintro ⟨rest, htext, hrest, hleast⟩
        obtain rfl : before = [] := by simpa using hleast [] _ _ rfl hread
        obtain rfl : rest = c :: text := htext.symm
        rw [hread] at hrest
        cases hrest
        rfl
    · next hread =>
      rw [Option.map_eq_some_iff]
      constructor
      · rintro ⟨⟨before', left'⟩, hsplit, ⟨⟩⟩
        obtain ⟨rest, rfl, hrest, hleast⟩ := ih.mp hsplit
        refine ⟨rest, rfl, hrest, fun front rest' left' htext hrest' => ?_⟩
        obtain _ | ⟨d, front⟩ := front
        · obtain rfl : c :: (before' ++ rest) = rest' := htext
          rw [hread] at hrest'
          cases hrest'
        · obtain ⟨-, htext⟩ := List.cons.inj htext
          exact Nat.succ_le_succ (hleast front rest' left' htext hrest')
      · rintro ⟨rest, htext, hrest, hleast⟩
        obtain _ | ⟨d, before⟩ := before
        · obtain rfl : c :: text = rest := htext
          rw [hread] at hrest
          cases hrest
        · obtain ⟨rfl, rfl⟩ := List.cons.inj htext
          refine ⟨(before, left), ih.mpr ⟨rest, rfl, hrest, fun front rest' left' h hrest' => ?_⟩,
            rfl⟩
          exact Nat.succ_le_succ_iff.mp
            (hleast (c :: front) rest' left' (by rw [h]; rfl) hrest')

/-- The scanner gets no further than a place from which `read` succeeds. -/
theorem splitAt?_of_read (hread : read rest = some left) (front : List Char) :
    ∃ before gap left', splitAt? read (front ++ rest) = some (before, left') ∧
      front = before ++ gap ∧ read (gap ++ rest) = some left' := by
  induction front with
  | nil =>
    cases rest with
    | nil => exact ⟨[], [], left, by simp [splitAt?, hread], rfl, hread⟩
    | cons c rest => exact ⟨[], [], left, by simp [splitAt?, hread], rfl, hread⟩
  | cons c front ih =>
    obtain ⟨before, gap, left', hsplit, rfl, hgap⟩ := ih
    rw [List.append_assoc] at hsplit
    cases hfirst : read (c :: (before ++ (gap ++ rest))) with
    | some left₀ =>
      exact ⟨[], c :: (before ++ gap), left₀, by simp [splitAt?, hfirst], rfl,
        by simpa using hfirst⟩
    | none => exact ⟨c :: before, gap, left', by simp [splitAt?, hfirst, hsplit], rfl, hgap⟩

/-- A character that a text does not have stands behind the text. -/
theorem behind_of_notMem {c : Char} {front back : List Char} (h : c ∉ before)
    (htext : before ++ rest = front ++ c :: back) :
    ∃ gap, front = before ++ gap ∧ rest = gap ++ c :: back :=
  split_behind (P := (· = c)) htext (fun _ hd heq => h (heq ▸ hd)) rfl

/-- If a text cannot be cut, nothing can be read at any place of it. -/
theorem splitAt?_eq_none {front back : List Char} (h : splitAt? read (front ++ back) = none) :
    read back = none := by
  cases hread : read back with
  | none => rfl
  | some left =>
    obtain ⟨_, _, _, hsplit, -⟩ := splitAt?_of_read hread front
    rw [h] at hsplit
    cases hsplit

/-- What comes behind a beginning makes up the text with it. -/
theorem behind?_eq_some {front : List Char} :
    behind? front text = some rest ↔ text = front ++ rest := by
  rw [behind?, List.dropPrefix?_eq_some_iff]
  constructor
  · rintro ⟨front', rfl, hfront⟩
    rw [beq_iff_eq.mp hfront]
  · rintro rfl
    exact ⟨front, rfl, beq_self_eq_true front⟩

end Scanning

/-! ## What the scanner reads -/

section Block

variable {reply prose line inside after text rest : List Char} {tag : String}

/-- All characters of a tag are those of a word. -/
theorem isWord_of_mem_tag {c : Char} (htag : tag ∈ tags) (hc : c ∈ tag.toList) :
    isWord c = true := by
  have hall : (tags.all fun tag => tag.toList.all isWord) = true := by decide +kernel
  exact List.all_eq_true.mp (List.all_eq_true.mp hall tag htag) c hc

/-- A tag that is a whole word is told by the text. -/
theorem takeWhile_tag (htag : tag ∈ tags) (hrest : rest.head?.any isWord = false) :
    (tag.toList ++ rest).takeWhile isWord = tag.toList := by
  have hstop : rest.takeWhile isWord = [] := by
    cases rest with
    | nil => rfl
    | cons c rest => exact List.takeWhile_cons_of_neg (by simpa using hrest)
  rw [List.takeWhile_append_of_pos fun c hc => isWord_of_mem_tag htag hc, hstop, List.append_nil]

/-- A text begins with an opener if it begins with a fence and a tag that no word goes on from.
-/
theorem afterOpener?_eq_some_iff : afterOpener? text = some rest ↔
    ∃ tag ∈ tags, text = backticks ++ (tag.toList ++ rest) ∧ rest.head?.any isWord = false := by
  have htag (text rest : List Char) (tag : String) : (do
      let rest ← behind? tag.toList text
      if rest.head?.any isWord then none else some rest) = some rest ↔
      text = tag.toList ++ rest ∧ rest.head?.any isWord = false := by
    rw [Option.bind_eq_bind, Option.bind_eq_some_iff]
    simp only [behind?_eq_some, Option.ite_none_left_eq_some, Bool.not_eq_true,
      Option.some.injEq]
    constructor
    · rintro ⟨_, htext, hapart, rfl⟩
      exact ⟨htext, hapart⟩
    · rintro ⟨htext, hapart⟩
      exact ⟨rest, htext, hapart, rfl⟩
  unfold afterOpener?
  rw [Option.bind_eq_bind, Option.bind_eq_some_iff]
  simp only [behind?_eq_some]
  constructor
  · rintro ⟨behind, rfl, hfound⟩
    obtain ⟨tag, hmem, hread⟩ := List.exists_of_findSome?_eq_some hfound
    obtain ⟨rfl, hapart⟩ := (htag _ _ _).mp hread
    exact ⟨tag, hmem, rfl, hapart⟩
  · rintro ⟨tag, hmem, rfl, hapart⟩
    refine ⟨tag.toList ++ rest, rfl, ?_⟩
    cases hfound : tags.findSome? fun tag' => do
        let rest ← behind? tag'.toList (tag.toList ++ rest)
        if rest.head?.any isWord then none else some rest with
    | none =>
      have hnone := List.findSome?_eq_none_iff.mp hfound tag hmem
      rw [(htag _ _ _).mpr ⟨rfl, hapart⟩] at hnone
      cases hnone
    | some rest' =>
      obtain ⟨tag', hmem', hread⟩ := List.exists_of_findSome?_eq_some hfound
      obtain ⟨htext, hapart'⟩ := (htag _ _ _).mp hread
      have hsame : tag.toList = tag'.toList := by
        rw [← takeWhile_tag hmem hapart, htext, takeWhile_tag hmem' hapart']
      rw [hsame] at htext
      rw [List.append_cancel_left htext]

/-- A reply has a fenced block, with its tag, the rest of the line behind the tag, and what comes
after the block. -/
structure IsBlock (reply prose : List Char) (tag : String) (line inside after : List Char) :
    Prop where
  tag_mem : tag ∈ tags
  text : reply =
    prose ++ (backticks ++ (tag.toList ++ (line ++ '\n' :: (inside ++ (backticks ++ after)))))
  apart : (line ++ ['\n']).head?.any isWord = false
  line : '\n' ∉ line
  first : ∀ front rest left, reply = front ++ rest → afterOpener? rest = some left →
    prose.length ≤ front.length
  closed : ∀ front rest, inside ++ (backticks ++ after) = front ++ (backticks ++ rest) →
    inside.length ≤ front.length

/-- The first character of a line with its newline does not depend on what follows. -/
theorem head?_line (line rest : List Char) :
    (line ++ '\n' :: rest).head? = (line ++ ['\n']).head? := by
  cases line <;> rfl

/-- The scanner finds a block iff the reply has it. -/
theorem block?_eq_some_iff : block? reply = some ⟨prose, inside⟩ ↔
    ∃ tag line after, IsBlock reply prose tag line inside after := by
  simp only [block?, Option.bind_eq_bind, Option.bind_eq_some_iff, Prod.exists,
    splitAt?_eq_some_iff, afterOpener?_eq_some_iff, behind?_eq_some, Option.pure_def,
    Option.some.injEq, Block.mk.injEq]
  constructor
  · rintro ⟨_, _, ⟨_, rfl, ⟨tag, htag, rfl, hapart⟩, hfirst⟩, line, _, ⟨_, rfl, rfl, hline⟩, _,
      after, ⟨_, rfl, rfl, hclosed⟩, rfl, rfl⟩
    refine ⟨tag, line, after, htag, rfl, ?_, fun hmem => ?_, ?_, ?_⟩
    · rwa [← head?_line]
    · obtain ⟨front, back, rfl⟩ := List.append_of_mem hmem
      have hle := hline front _ _ (List.append_assoc _ _ _) rfl
      rw [List.length_append, List.length_cons] at hle
      omega
    · rintro front rest left htext hread
      obtain ⟨tag', htag', rfl, hapart'⟩ := afterOpener?_eq_some_iff.mp hread
      exact hfirst front _ left htext ⟨tag', htag', rfl, hapart'⟩
    · intro front rest htext
      exact hclosed front _ rest htext rfl
  · rintro ⟨tag, line, after, h⟩
    refine ⟨prose, _, ⟨_, h.text, ⟨tag, h.tag_mem, rfl, ?_⟩, ?_⟩, line, _, ⟨_, rfl, rfl, ?_⟩,
      inside, after, ⟨_, rfl, rfl, ?_⟩, rfl, rfl⟩
    · rw [head?_line]
      exact h.apart
    · rintro front rest left htext hread
      exact h.first front rest left htext (afterOpener?_eq_some_iff.mpr hread)
    · rintro front _ left htext rfl
      obtain ⟨gap, rfl, -⟩ := behind_of_notMem h.line htext
      simp
    · rintro front _ left htext rfl
      exact h.closed front left htext

/-- An opener lies within one line. -/
theorem newline_notMem_opener (htag : tag ∈ tags) : '\n' ∉ backticks ++ tag.toList := by
  have hall : ∀ tag ∈ tags, '\n' ∉ backticks ++ tag.toList := by decide
  exact hall tag htag

/-! ## What the expression reads -/

/-- A word ends behind a tag unless the next character belongs to a word. -/
theorem holds_behind_tag {next : Option Char} (htag : tag ∈ tags) :
    Look.wordBoundary.holds (text ++ tag.toList).getLast? next = true ↔
      next.any isWord = false := by
  have hall : ∀ tag ∈ tags, tag.toList.getLast?.any isWord = true := by decide +kernel
  have hlast := hall tag htag
  cases hend : tag.toList.getLast? with
  | none => simp [hend] at hlast
  | some c =>
    rw [hend, Option.any_some] at hlast
    simp [Look.holds, List.getLast?_append, hend, hlast]

/-- What the expression reads is opened and closed like a block. -/
theorem fencedBlock_reads {before piece : List Char} (h : fencedBlock.Reads before piece after) :
    ∃ tag ∈ tags, ∃ line inside, piece =
        backticks ++ (tag.toList ++ (line ++ '\n' :: (inside ++ backticks))) ∧
      (line ++ ['\n']).head?.any isWord = false := by
  obtain ⟨_, _, rfl, hfence, h⟩ := reads_concat_cons.mp h
  obtain ⟨_, _, rfl, htag, h⟩ := reads_concat_cons.mp h
  obtain ⟨_, _, rfl, hlook, h⟩ := reads_concat_cons.mp h
  obtain ⟨line, _, rfl, -, h⟩ := reads_concat_cons.mp h
  obtain ⟨_, _, rfl, hnewline, h⟩ := reads_concat_cons.mp h
  obtain ⟨inner, _, rfl, -, h⟩ := reads_concat_cons.mp h
  obtain ⟨sep, _, rfl, -, h⟩ := reads_concat_cons.mp h
  obtain rfl := reads_chars.mp hfence
  obtain ⟨_, hchoice, htag⟩ := reads_choice.mp htag
  obtain ⟨tag, hmem, rfl⟩ := List.mem_map.mp hchoice
  obtain rfl := reads_chars.mp htag
  obtain rfl := reads_chars.mp hnewline
  obtain rfl := reads_chars.mp h
  obtain ⟨hholds, rfl⟩ := reads_look.mp hlook
  refine ⟨tag, hmem, line, inner ++ sep, by simp [backticks], ?_⟩
  rw [holds_behind_tag hmem] at hholds
  cases line <;> simpa using hholds

/-- Where the expression reads something, the scanner finds a block. -/
theorem block?_ne_none {before piece : List Char} (h : fencedBlock.Reads before piece after) :
    block? (before ++ (piece ++ after)) ≠ none := by
  obtain ⟨tag, htag, line, inside, rfl, hapart⟩ := fencedBlock_reads h
  have hopener : afterOpener? (backticks ++ (tag.toList ++ (line ++ '\n' :: (inside ++
      backticks))) ++ after) = some (line ++ '\n' :: (inside ++ (backticks ++ after))) := by
    refine afterOpener?_eq_some_iff.mpr ⟨tag, htag, by simp, ?_⟩
    rwa [head?_line]
  obtain ⟨prose, gap, rest, hprose, -, hrest⟩ := splitAt?_of_read hopener before
  obtain ⟨tag', htag', htext, -⟩ := afterOpener?_eq_some_iff.mp hrest
  -- The line of the opener that the scanner takes ends before or with that of the one that is read.
  have hlines : (backticks ++ tag'.toList) ++ rest =
      (gap ++ (backticks ++ (tag.toList ++ line))) ++ '\n' :: (inside ++ (backticks ++ after)) := by
    simpa using htext.symm
  obtain ⟨line', -, rfl⟩ := behind_of_notMem (newline_notMem_opener htag') hlines
  have hnewline : behind? ['\n'] ('\n' :: (inside ++ (backticks ++ after))) =
      some (inside ++ (backticks ++ after)) := behind?_eq_some.mpr rfl
  obtain ⟨line₀, gap', body, hline, -, hbody⟩ := splitAt?_of_read hnewline line'
  obtain ⟨inside', rfl⟩ : ∃ inside', body = inside' ++ (backticks ++ after) := by
    have hbody' := behind?_eq_some.mp hbody
    obtain _ | ⟨c, gap'⟩ := gap'
    · obtain ⟨-, rfl⟩ := List.cons.inj hbody'
      exact ⟨inside, rfl⟩
    · obtain ⟨-, rfl⟩ := List.cons.inj hbody'
      exact ⟨gap' ++ '\n' :: inside, by simp⟩
  have hfence : behind? backticks (backticks ++ after) = some after := behind?_eq_some.mpr rfl
  obtain ⟨inside₀, _, after', hinside, -, -⟩ := splitAt?_of_read hfence inside'
  simp only [block?, hprose, hline, hinside, Option.bind_eq_bind, Option.bind_some]
  exact Option.some_ne_none _

/-! ## What the expression chooses -/

section Choosing

variable {onward : Onward} {before : List Char} {rs : List Regex}

/-- Where the expression goes on behind a tag, the tag is a whole word. -/
theorem apart_of_canGoOn (htag : tag ∈ tags)
    (h : (concat (look .wordBoundary :: rs)).Matches.CanGoOn onward (before ++ tag.toList) text) :
    text.head?.any isWord = false := by
  obtain ⟨_, rest, marks, rfl, hmatches, -⟩ := h
  obtain ⟨_, piece, rfl, hlook, -⟩ := reads_concat_cons.mp ⟨marks, hmatches⟩
  obtain ⟨hholds, rfl⟩ := reads_look.mp hlook
  exact (holds_behind_tag htag).mp hholds

/-- The tag that is a whole word is the only one that can go on. -/
theorem chooses_languageTag (htag : tag ∈ tags) (hapart : rest.head?.any isWord = false) :
    languageTag.Chooses ((concat (look .wordBoundary :: rs)).Matches.CanGoOn onward) before
      tag.toList rest [] := by
  refine chooses_choice (List.mem_map_of_mem htag) ⟨rfl, rfl⟩ ?_
  rintro _ hchoice ⟨_, rest', _, htext, hread, hgoes⟩
  obtain ⟨tag', htag', rfl⟩ := List.mem_map.mp hchoice
  obtain ⟨rfl, -⟩ := hread
  have hsame : tag.toList = tag'.toList := by
    rw [← takeWhile_tag htag hapart, htext, takeWhile_tag htag' (apart_of_canGoOn htag' hgoes)]
  rw [literal, literal, hsame]

/-- The rest of the line is chosen up to its newline, which no shorter or longer choice leaves
in front. -/
theorem chooses_line (h : '\n' ∉ line) :
    (star (set (.compl (.single '\n')))).Chooses onward before line ('\n' :: rest) [] := by
  refine chooses_star_set (fun c hc => ?_) ?_
  · rw [CharSet.mem_compl (CharSet.single_wellformed _), CharSet.mem_single]
    simpa using ne_of_mem_of_not_mem hc h
  · simp [CharSet.mem_compl (CharSet.single_wellformed _), CharSet.mem_single]

/-- What can close a block begins with a fence, at most behind a newline. -/
theorem closing_of_canGoOn
    (h : (concat [opt (literal "\n"), fence]).Matches.CanGoOn onward before text) :
    ∃ sep rest, text = sep ++ (backticks ++ rest) ∧ (sep = ['\n'] ∨ sep = []) := by
  obtain ⟨_, rest, marks, rfl, hmatches, -⟩ := h
  obtain ⟨sep, _, rfl, hsep, hfence⟩ := reads_concat_cons.mp ⟨marks, hmatches⟩
  obtain rfl := reads_chars.mp hfence
  exact ⟨sep, rest, List.append_assoc .., (reads_optional.mp hsep).imp_left reads_chars.mp⟩

/-- The inside goes on to the first fence, or to the newline before it. -/
theorem chooses_inside {inner sep : List Char}
    (hclosed : ∀ front rest, inner ++ sep ++ (backticks ++ after) = front ++ (backticks ++ rest) →
      (inner ++ sep).length ≤ front.length)
    (hsep : sep = ['\n'] ∨ sep = [] ∧ inner.getLast? ≠ some '\n') :
    (lazyStar (set .all)).Chooses ((concat [opt (literal "\n"), fence]).Matches.CanGoOn onward)
      before inner (sep ++ backticks ++ after) [] := by
  refine chooses_lazyStar_set (fun c _ => CharSet.mem_all c) fun front back hinner hback hgoes => ?_
  obtain ⟨newline, rest, htext, hnewline⟩ := closing_of_canGoOn hgoes
  have hle := hclosed (front ++ newline) rest (by simpa [hinner] using htext)
  have hlength := List.length_pos_iff.mpr hback
  simp only [hinner, List.length_append] at hle
  obtain rfl | rfl := hnewline
  · -- Only the newline itself is left, and then it is not left out.
    rw [List.length_singleton] at hle
    have hsepLength : sep.length = 0 := by omega
    obtain ⟨c, rfl⟩ : ∃ c, back = [c] := List.length_eq_one_iff.mp (by omega)
    obtain rfl : sep = [] := List.length_eq_zero_iff.mp hsepLength
    obtain ⟨rfl, -⟩ := List.cons.inj htext
    simp [hinner] at hsep
  · rw [List.length_nil] at hle
    omega

/-- The newline before the closing fence is chosen with it, if there is one. -/
theorem chooses_closing {inner sep : List Char}
    (hsep : sep = ['\n'] ∨ sep = [] ∧ inner.getLast? ≠ some '\n') :
    (concat [opt (literal "\n"), fence]).Chooses onward before (sep ++ backticks) after [] := by
  have hfence : (concat [fence]).Chooses onward (before ++ sep) backticks after [] := ⟨rfl, rfl⟩
  refine chooses_concat_cons ?_ hfence
  rcases hsep with rfl | ⟨rfl, -⟩
  · exact chooses_opt_one ⟨rfl, rfl⟩
  · refine chooses_opt_none ?_
    rintro ⟨_, rest, _, htext, ⟨rfl, -⟩, -⟩
    cases htext

/-- The expression chooses the tag that is a whole word, the line up to its end, and the inside up
to the first fence, without the newline before the fence. -/
theorem IsBlock.chooses {inner sep : List Char}
    (h : IsBlock reply prose tag line (inner ++ sep) after)
    (hsep : sep = ['\n'] ∨ sep = [] ∧ inner.getLast? ≠ some '\n') :
    let start := (prose ++ backticks ++ tag.toList ++ [] ++ line ++ ['\n']).length
    fencedBlock.Chooses onward prose
      (backticks ++ (tag.toList ++ ([] ++ (line ++ (['\n'] ++ (inner ++ (sep ++ backticks)))))))
      after [(3, start + inner.length), (2, start)] := by
  intro start
  have hgroup : (concat [group 1 (lazyStar (set .all)), opt (literal "\n"), fence]).Chooses onward
      (prose ++ backticks ++ tag.toList ++ [] ++ line ++ ['\n']) (inner ++ (sep ++ backticks)) after
      [(3, start + inner.length), (2, start)] :=
    chooses_concat_cons (r := group 1 (lazyStar (set .all)))
      ⟨[], chooses_inside h.closed hsep, rfl⟩ (chooses_closing hsep)
  have hnewline := chooses_concat_cons (r := literal "\n") ⟨rfl, rfl⟩ hgroup
  have hline := chooses_concat_cons (chooses_line h.line) hnewline
  have hapart : (line ++ (['\n'] ++ (inner ++ (sep ++ backticks))) ++ after).head?.any isWord =
      false := by
    rw [List.append_assoc, List.append_assoc, List.singleton_append, head?_line]
    exact h.apart
  have hboundary := chooses_concat_cons (r := look .wordBoundary)
    ⟨(holds_behind_tag h.tag_mem).mpr hapart, rfl, rfl⟩ hline
  exact chooses_concat_cons (r := fence) ⟨rfl, rfl⟩
    (chooses_concat_cons (chooses_languageTag h.tag_mem hapart) hboundary)

end Choosing

/-! ## What is extracted -/

/-- A text is what is left without a newline at the end, and that newline if there is one. -/
theorem dropNewline_split (inside : List Char) : ∃ sep, inside = dropNewline inside ++ sep ∧
    (sep = ['\n'] ∨ sep = [] ∧ (dropNewline inside).getLast? ≠ some '\n') := by
  by_cases hlast : inside.getLast? = some '\n'
  · obtain ⟨inner, rfl⟩ := List.getLast?_eq_some_iff.mp hlast
    exact ⟨['\n'], by simp [dropNewline], .inl rfl⟩
  · exact ⟨[], by simp [dropNewline, hlast], .inr ⟨rfl, by simp [dropNewline, hlast]⟩⟩

/-- No match starts before the block. -/
theorem IsBlock.leftmost (h : IsBlock reply prose tag line inside after) {m : Match}
    (hfinds : fencedBlockProgram.Finds reply m) : prose.length ≤ m.start := by
  obtain ⟨before, piece, rest, rfl, hstart, -, hmatches⟩ := Program.finds_ofRegex.mp hfinds
  obtain ⟨tag', htag', line', inside', rfl, hapart⟩ := fencedBlock_reads ⟨_, hmatches⟩
  rw [hstart]
  refine h.first before _ (line' ++ '\n' :: (inside' ++ (backticks ++ rest))) rfl ?_
  refine afterOpener?_eq_some_iff.mpr ⟨tag', htag', by simp, ?_⟩
  rwa [head?_line]

/-- The search finds the block, with its inside up to the newline before the closing fence. -/
theorem IsBlock.findBlock? (h : IsBlock reply prose tag line inside after) :
    let start := (prose ++ (backticks ++ (tag.toList ++ (line ++ ['\n'])))).length
    Component.findBlock? reply =
      some (prose.length, start, start + (dropNewline inside).length) := by
  intro start
  obtain ⟨sep, hinside, hsep⟩ := dropNewline_split inside
  have h' : IsBlock reply prose tag line (dropNewline inside ++ sep) after := hinside ▸ h
  have htext : reply = prose ++ ((backticks ++ (tag.toList ++ ([] ++ (line ++ (['\n'] ++
      (dropNewline inside ++ (sep ++ backticks))))))) ++ after) := by
    rw [h'.text]
    simp
  have hfound := Program.find?_eq_of_chooses (h'.chooses hsep) fun m hm => h.leftmost (htext ▸ hm)
  have hprogram : fencedBlockProgram = Program.ofRegex fencedBlock := rfl
  rw [Component.findBlock?, hprogram, htext, hfound]
  simp [Match.group?, start, List.lookup_cons]

/-- Cutting at the ends that the search gives yields the inside without its last newline. -/
theorem IsBlock.extractCode (h : IsBlock reply prose tag line inside after) :
    Component.extractCode reply = dropNewline inside := by
  obtain ⟨sep, hinside, -⟩ := dropNewline_split inside
  have htext : reply = (prose ++ (backticks ++ (tag.toList ++ (line ++ ['\n'])))) ++
      (dropNewline inside ++ (sep ++ (backticks ++ after))) := by
    rw [h.text]
    nth_rewrite 1 [hinside]
    simp
  rw [Component.extractCode, h.findBlock?]
  simp only [Nat.add_sub_cancel_left]
  rw [htext, List.drop_left, List.take_left]

/-- The code of a reply and the prose before it are what the scanner finds. -/
theorem extract_eq_scan (reply : List Char) :
    extractCode reply = (match block? reply with
      | some block => dropNewline block.inside
      | none => trim reply) ∧
    leadingProse reply = (match block? reply with
      | some block => trim block.prose
      | none => []) := by
  cases hblock : block? reply with
  | none =>
    have hnone : findBlock? reply = none := by
      rw [findBlock?, Option.bind_eq_bind, Option.bind_eq_none_iff]
      intro m hm
      obtain ⟨before, piece, after, rfl, -, -, hmatches⟩ :=
        Program.finds_ofRegex.mp (Program.find?_finds hm)
      exact absurd hblock (block?_ne_none ⟨_, hmatches⟩)
    simp [extractCode, leadingProse, hnone]
  | some block =>
    obtain ⟨tag, line, after, h⟩ := block?_eq_some_iff.mp hblock
    refine ⟨h.extractCode, ?_⟩
    rw [leadingProse, h.findBlock?]
    simp only
    rw [h.text, List.take_left]

/-! ## A reply around a block -/

/-- Further backticks do not make an opener of what was none. -/
theorem opener_of_append {left front back : List Char}
    (hprose : ∀ front back, prose = front ++ back → afterOpener? back = none)
    (htext : prose ++ (backticks ++ rest) = front ++ back) (hread : afterOpener? back = some left) :
    prose.length ≤ front.length := by
  obtain ⟨tag, htag, rfl, hapart⟩ := afterOpener?_eq_some_iff.mp hread
  -- No end of an opener can be taken for the beginning of a fence.
  have hends : ∀ tag ∈ tags, ∀ k < (backticks ++ tag.toList).length, 0 < k →
      ¬ ((backticks ++ tag.toList).drop k).take 3 <+: backticks := by decide
  have hnone (later : List Char) (hlater : later.head?.any isWord = false) :
      prose ≠ front ++ (backticks ++ tag.toList ++ later) := by
    intro hsplit
    have hsome : afterOpener? (backticks ++ tag.toList ++ later) = some later :=
      afterOpener?_eq_some_iff.mpr ⟨tag, htag, List.append_assoc .., hlater⟩
    rw [hprose front _ hsplit] at hsome
    cases hsome
  rcases List.append_eq_append_iff.mp htext with ⟨gap, rfl, -⟩ | ⟨gap, hgap, hback⟩
  · simp
  rw [← List.append_assoc] at hback
  rcases List.append_eq_append_iff.mp hback with ⟨later, rfl, hleft⟩ | ⟨later, hopener, hfence⟩
  · refine absurd hgap (hnone later ?_)
    cases later with
    | nil => rfl
    | cons c later => simpa [hleft] using hapart
  · by_contra hlong
    have hpos : 0 < gap.length := by
      rw [hgap, List.length_append] at hlong
      omega
    have hshort : gap.length < (backticks ++ tag.toList).length := by
      rw [hopener, List.length_append, Nat.lt_add_right_iff_pos, List.length_pos_iff]
      rintro rfl
      exact hnone [] rfl (by rw [hgap, hopener, List.append_nil, List.append_nil])
    have hprefix : later <+: backticks ++ rest := ⟨left, hfence.symm⟩
    have hlater : (backticks ++ tag.toList).drop gap.length = later := by simp [hopener]
    refine hends tag htag _ hshort hpos ?_
    rw [hlater]
    exact hprefix.take 3

/-- A fence behind a newline is the first one if there is none before it. -/
theorem closed_of_not_infix {inner : List Char} (hinner : ¬ backticks <:+: inner)
    {front back : List Char}
    (htext : inner ++ '\n' :: (backticks ++ after) = front ++ (backticks ++ back)) :
    inner.length + 1 ≤ front.length := by
  have hfence : '\n' ∉ backticks := by decide
  rcases List.append_eq_append_iff.mp htext with ⟨gap, rfl, hgap⟩ | ⟨gap, rfl, hgap⟩
  · obtain _ | ⟨c, gap⟩ := gap
    · cases hgap
    · simp
  · obtain ⟨gap', rfl, -⟩ := behind_of_notMem hfence hgap
    exact absurd ⟨front, gap', List.append_assoc ..⟩ hinner

/-- The code of a reply that is prose without an opener, a block and anything else is the inside of
the block. -/
theorem extractCode_of_block {inner : List Char}
    (hprose : ∀ front back, prose = front ++ back → afterOpener? back = none) (htag : tag ∈ tags)
    (hinner : ¬ backticks <:+: inner) :
    extractCode (prose ++ (backticks ++ (tag.toList ++ '\n' :: (inner ++ '\n' :: (backticks ++
      rest))))) = inner := by
  have hblock : IsBlock (prose ++ (backticks ++ (tag.toList ++ '\n' :: (inner ++ '\n' ::
      (backticks ++ rest))))) prose tag [] (inner ++ ['\n']) rest := by
    refine ⟨htag, by simp, rfl, by simp, ?_, ?_⟩
    · intro front back left htext hread
      exact opener_of_append hprose htext hread
    · intro front back htext
      have hle := closed_of_not_infix hinner (by simpa using htext)
      simpa using hle
  rw [hblock.extractCode]
  simp [dropNewline]

/-- Extraction is the scan, and it takes out exactly what was put into a block. -/
theorem extraction_scans :
    (∀ reply,
      extractCode reply = (match block? reply with
        | some block => dropNewline block.inside
        | none => trim reply) ∧
      leadingProse reply = (match block? reply with
        | some block => trim block.prose
        | none => [])) ∧
    ∀ (prose inner rest : List Char) (tag : String), splitAt? afterOpener? prose = none →
      tag ∈ tags → ¬ backticks <:+: inner →
      extractCode (prose ++ (backticks ++ (tag.toList ++ '\n' :: (inner ++ '\n' :: (backticks ++
        rest))))) = inner := by
  refine ⟨extract_eq_scan, fun prose inner rest tag hprose htag hinner => ?_⟩
  refine extractCode_of_block (fun front back hsplit => ?_) htag hinner
  exact splitAt?_eq_none (hsplit ▸ hprose)

/-- A block for another language goes before the one that is extracted, and an inline mention of a
tag comes after it. -/
theorem extraction_scans_component :
    let prose := "Run ```sh\nbuild\n``` and save:\n".toList
    let inner := "const a = `b``c`;\nexport default a;\n".toList
    let rest := " or use ```tsx".toList
    splitAt? afterOpener? prose = none ∧ ¬ backticks <:+: inner ∧
      extractCode (prose ++ (backticks ++ ("tsx".toList ++ '\n' :: (inner ++ '\n' :: (backticks ++
        rest))))) = inner := by
  have hprose : splitAt? afterOpener? "Run ```sh\nbuild\n``` and save:\n".toList = none := by
    decide
  have hinner : ¬ backticks <:+: "const a = `b``c`;\nexport default a;\n".toList := by decide
  exact ⟨hprose, hinner, extraction_scans.2 _ _ _ "tsx" hprose (by decide) hinner⟩

end Block

end ArtifactPipeline.Component
