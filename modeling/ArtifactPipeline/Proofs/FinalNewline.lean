import ArtifactPipeline.Proofs.Composition
import ArtifactPipeline.Proofs.ImportShapes
import ArtifactPipeline.Proofs.StandardPolicy
import ArtifactPipeline.Proofs.Words

/-!
# A newline behind a text

A search does not notice a newline behind the text if no match can end with it and no assertion
tells it from the end of the text: it goes through the same threads up to there, and what is left to
read gives no match. The patterns of the standard rules and the shapes of imports are of that kind,
so of the standard rules only the limit on lines can tell whether a text got another newline.
-/

namespace ArtifactPipeline.Regex

open Program

/-- Whether an assertion may tell a newline from the end of the text. -/
def Look.tellsNewline : Look → Bool
  | textEnd | lineStartCrlf | lineEndCrlf => true
  | _ => false

/-- An assertion that does not tell a newline from the end holds before both or before neither.
-/
theorem Look.holds_newline {l : Look} (h : l.tellsNewline = false) (previous : Option Char) :
    l.holds previous (some '\n') = l.holds previous none := by
  have hword : Text.isWord '\n' = false := Text.isWord_of_isWhitespace (by decide)
  have hascii : Text.isAsciiWord '\n' = false := by decide
  cases l <;> simp_all [tellsNewline, holds]

/-- Whether the program has no assertion that may tell a newline from the end of the text. -/
def Program.overlooksNewline (p : Program) : Bool :=
  p.insts.all fun
    | .look l _ => !l.tellsNewline
    | _ => true

/-- Whether the expression is an assertion. -/
def isLook : Regex → Bool
  | look _ => true
  | _ => false

/-- Whether every match has a last character that is not the given one, as far as the form of the
expression shows. -/
def endsApart (c : Char) : Regex → Bool
  | empty | look _ | rep .. => false
  | chars cs => cs.getLast?.any (· != c)
  | set s => !s.mem c
  | seq a b => b.endsApart c || (b.isLook && a.endsApart c)
  | alt a b => a.endsApart c && b.endsApart c
  | group _ body => body.endsApart c

/-- The form of the expression shows that a search does not notice a newline behind the text. -/
structure OverlooksNewline (r : Regex) : Prop where
  ends : r.endsApart '\n' = true
  looks : (ofRegex r).overlooksNewline = true

/-- Whether a search overlooks a newline shows in the expression and its program, so it can be
computed. -/
instance : DecidablePred OverlooksNewline := fun r =>
  decidable_of_iff (r.endsApart '\n' = true ∧ (ofRegex r).overlooksNewline = true)
    ⟨fun h => ⟨h.1, h.2⟩, fun h => ⟨h.ends, h.looks⟩⟩

section Ends

variable {r : Regex} {c : Char} {before piece after : List Char}

/-- An assertion takes nothing. -/
theorem eq_nil_of_isLook (hlook : r.isLook = true) (h : r.Reads before piece after) :
    piece = [] := by
  cases r with
  | look l => exact (reads_look.mp h).2
  | _ => cases hlook

/-- What the form of an expression shows about the last character of its matches is so. -/
theorem Reads.getLast?_of_endsApart (h : r.Reads before piece after)
    (hends : r.endsApart c = true) : ∃ last, piece.getLast? = some last ∧ last ≠ c := by
  induction r generalizing before piece after with
  | empty | look | rep => cases hends
  | chars cs =>
    rw [reads_chars.mp h]
    rw [endsApart, Option.any_eq_true] at hends
    obtain ⟨last, hlast, hne⟩ := hends
    exact ⟨last, hlast, by simpa using hne⟩
  | set s =>
    obtain ⟨_, last, hmem, rfl, -⟩ := h
    refine ⟨last, rfl, ?_⟩
    rintro rfl
    rw [endsApart, hmem] at hends
    cases hends
  | seq a b iha ihb =>
    obtain ⟨first, rest, rfl, hfirst, hrest⟩ := reads_seq.mp h
    rw [endsApart, Bool.or_eq_true, Bool.and_eq_true] at hends
    rcases hends with hends | ⟨hlook, hends⟩
    · obtain ⟨last, hlast, hne⟩ := ihb hrest hends
      exact ⟨last, by simp [List.getLast?_append, hlast], hne⟩
    · rw [eq_nil_of_isLook hlook hrest, List.append_nil]
      exact iha hfirst hends
  | alt a b iha ihb =>
    rw [endsApart, Bool.and_eq_true] at hends
    rcases reads_alt.mp h with h | h
    · exact iha h hends.1
    · exact ihb h hends.2
  | group index body ih => exact ih (reads_group.mp h) hends

end Ends

/-- The match takes some of a text with the given length, and nothing behind it. -/
def Match.Inside (length : Nat) (m : Match) : Prop := m.start < m.stop ∧ m.stop ≤ length

/-- A match in the text with a newline behind it lies within the text. -/
theorem OverlooksNewline.inside {r : Regex} {text : List Char} {m : Match}
    (h : r.OverlooksNewline) (hfinds : (ofRegex r).Finds (text ++ ['\n']) m) :
    m.Inside text.length := by
  obtain ⟨before, piece, after, htext, hstart, hstop, hmatches⟩ := finds_ofRegex.mp hfinds
  obtain ⟨last, hlast, hne⟩ := Reads.getLast?_of_endsApart ⟨_, hmatches⟩ h.ends
  have hpos : 0 < piece.length := List.length_pos_iff.mpr (by rintro rfl; cases hlast)
  have hlength := congrArg List.length htext
  simp only [List.length_append, List.length_singleton] at hlength
  refine ⟨by omega, ?_⟩
  rcases List.eq_nil_or_concat after with rfl | ⟨after, c, rfl⟩
  · -- Otherwise the newline would be the last character of the match.
    have hnewline := congrArg List.getLast? htext
    rw [List.append_nil, List.getLast?_concat, List.getLast?_append, hlast] at hnewline
    exact absurd (Option.some.inj hnewline).symm hne
  · rw [List.length_concat] at hlength
    omega

namespace Program

variable {p : Program} {text before rest : List Char} {previous : Option Char}
  {threads : List Thread} {best : Option Match} {m : Match} {low place : Nat} {seen : List Nat}

/-- The same threads come to read or to accept before a newline and at the end of the text. -/
theorem ready_newline (h : p.overlooksNewline = true) :
    p.ready previous (some '\n') place threads seen = p.ready previous none place threads seen := by
  have hholds {pc next : Nat} {l : Look} (hinst : p.insts[pc]? = some (.look l next)) :
      l.holds previous (some '\n') = l.holds previous none := by
    obtain ⟨hlt, hget⟩ := Array.getElem?_eq_some_iff.mp hinst
    have hlook := Array.all_eq_true.mp h pc hlt
    rw [hget] at hlook
    exact Look.holds_newline (by simpa using hlook) previous
  fun_induction p.ready previous none place threads seen with
  | case1 => rw [ready]
  | case2 seen t threads hseen ih => rw [ready, dif_pos hseen, ih]
  | case3 seen t threads hseen hinst ih | case4 seen t threads hseen s pc hinst ih
  | case5 seen t threads hseen hinst ih | case8 seen t threads hseen slot pc hinst ih
  | case9 seen t threads hseen first second hinst ih =>
    rw [ready, dif_neg hseen]
    split <;> simp_all
  | case6 seen t threads hseen l pc hinst hl ih | case7 seen t threads hseen l pc hinst hl ih =>
    rw [← hholds hinst] at hl
    rw [ready, dif_neg hseen]
    split <;> simp_all

/-- At the end of the text the same threads arrive whether a newline follows or not. -/
theorem arrivals_newline (h : p.overlooksNewline = true) :
    p.arrivals previous place ['\n'] threads best = p.arrivals previous place [] threads best :=
  ready_newline h

/-- A search goes through the same threads up to a newline behind the text, and what it reads after
that ends no match. -/
theorem runFrom_newline (hlooks : p.overlooksNewline = true)
    (h : p.Searching low before (rest ++ ['\n']) threads best)
    (hinside : ∀ m, p.Finds (before ++ (rest ++ ['\n'])) m → m.stop ≤ (before ++ rest).length) :
    p.runFrom before.getLast? before.length (rest ++ ['\n']) threads best =
      p.runFrom before.getLast? before.length rest threads best := by
  induction rest generalizing before threads best with
  | nil =>
    have hfinds := fun m => h.finds (m := m)
    rw [List.nil_append, runFrom_cons, arrivals_newline hlooks] at hfinds ⊢
    rw [runFrom_nil]
    dsimp only at hfinds ⊢
    split
    · rfl
    · next hgo =>
      rw [if_neg hgo] at hfinds
      generalize p.bestOf before.length
        (p.arrivals before.getLast? before.length [] threads best) best = found at hfinds ⊢
      rw [runFrom_nil, bestOf] at hfinds ⊢
      split
      · next a ha =>
        rw [ha] at hfinds
        obtain ⟨hends, -⟩ := hfinds _ rfl
        have hle := hinside _ hends
        simp at hle
      · rfl
  | cons c rest ih =>
    have harrivals : p.arrivals before.getLast? before.length (c :: (rest ++ ['\n'])) threads best =
        p.arrivals before.getLast? before.length (c :: rest) threads best := rfl
    rw [List.cons_append, runFrom_cons, runFrom_cons, harrivals]
    dsimp only
    split
    · rfl
    · have hnext := ih h.arrivals.better.advance (by simpa using hinside)
      simpa [harrivals] using hnext

/-- A search that begins anywhere in the text finds the same match with a newline behind the
text. -/
theorem findFrom_newline (before : List Char) (hlooks : p.overlooksNewline = true)
    (hinside : ∀ m, p.Finds (before ++ (rest ++ ['\n'])) m → m.Inside (before ++ rest).length) :
    p.findFrom before.getLast? before.length (rest ++ ['\n']) =
      p.findFrom before.getLast? before.length rest :=
  runFrom_newline hlooks (searching_start p before _) fun m hm => (hinside m hm).2

/-- The same matches are found one after another. -/
theorem findAllFrom_newline (before : List Char) (hlooks : p.overlooksNewline = true)
    {last : Option Nat} {fuel fuel' : Nat}
    (hinside : ∀ m, p.Finds (before ++ (rest ++ ['\n'])) m → m.Inside (before ++ rest).length)
    (hfuel : rest.length < fuel) (hfuel' : rest.length < fuel') :
    p.findAllFrom before.getLast? before.length (rest ++ ['\n']) last fuel =
      p.findAllFrom before.getLast? before.length rest last fuel' := by
  induction fuel generalizing before rest last fuel' with
  | zero => omega
  | succ fuel ih =>
    obtain ⟨fuel', rfl⟩ := Nat.exists_eq_succ_of_ne_zero (Nat.ne_zero_of_lt hfuel')
    have hsame := findFrom_newline before hlooks hinside
    cases hfind : p.findFrom before.getLast? before.length rest with
    | none => rw [findAllFrom_of_none (hsame.trans hfind), findAllFrom_of_none hfind]
    | some m =>
      obtain ⟨hfinds, hstart⟩ := findFrom_finds (hsame.trans hfind)
      obtain ⟨hlt, hstop⟩ := hinside m hfinds
      rw [findAllFrom_of_some (hsame.trans hfind) hlt, findAllFrom_of_some hfind hlt]
      obtain ⟨passed, hpassed, hfrom⟩ := hfinds.findAllFrom_rest hstart (some m.stop) fuel
      obtain ⟨passed', hpassed', hfrom'⟩ :=
        (findFrom_finds hfind).1.findAllFrom_rest hstart (some m.stop) fuel'
      obtain rfl : passed = passed' := by omega
      rw [List.length_append] at hstop
      have hle : passed ≤ rest.length := by omega
      rw [hfrom, hfrom', List.take_append_of_le_length hle, List.drop_append_of_le_length hle]
      have htext : before ++ rest.take passed ++ rest.drop passed = before ++ rest := by
        rw [List.append_assoc, List.take_append_drop]
      rw [ih]
      · rwa [← List.append_assoc, htext, List.append_assoc]
      · rw [List.length_drop]
        omega
      · rw [List.length_drop]
        omega

end Program

section Searches

variable {r : Regex}

/-- The first match is the same with a newline behind the text. -/
theorem OverlooksNewline.find?_newline (h : r.OverlooksNewline) (text : List Char) :
    (ofRegex r).find? (text ++ ['\n']) = (ofRegex r).find? text :=
  findFrom_newline [] h.looks fun _ hm => h.inside hm

/-- All matches are the same with a newline behind the text. -/
theorem OverlooksNewline.findAll_newline (h : r.OverlooksNewline) (text : List Char) :
    (ofRegex r).findAll (text ++ ['\n']) = (ofRegex r).findAll text :=
  findAllFrom_newline [] h.looks (fun _ hm => h.inside hm) (by simp; omega) (by omega)

/-- A piece within a text is cut out of the text with something behind it as well. -/
theorem take_drop_append {text more : List Char} {start length : Nat}
    (h : start + length ≤ text.length) :
    ((text ++ more).drop start).take length = (text.drop start).take length := by
  rw [List.drop_append_of_le_length (by omega), List.take_append_of_le_length]
  rw [List.length_drop]
  omega

end Searches

end ArtifactPipeline.Regex

namespace ArtifactPipeline

open Regex Program

/-! ## The rules -/

/-- A rule with such a pattern fails for the same reason. -/
theorem Policy.checkPattern_newline {r : Regex} (h : r.OverlooksNewline) (code : List Char) :
    checkPattern (code ++ ['\n']) (ofRegex r) = checkPattern code (ofRegex r) := by
  rw [checkPattern, checkPattern, h.find?_newline]
  cases hfind : (ofRegex r).find? code with
  | none => rfl
  | some m =>
    obtain ⟨hle, hstop⟩ := (find?_finds hfind).stop_le
    rw [Option.map_some, Option.map_some, take_drop_append (by omega),
      List.take_append_of_le_length (by omega)]

namespace Imports

/-- No shape of an import ends with a newline. -/
theorem ends_shapes : ∀ r ∈ shapes, r.endsApart '\n' = true := by
  have hquote : (CharSet.union (.single '\'') (.single '"')).mem '\n' = false := by
    rw [← Bool.not_eq_true, mem_quotes]
    decide
  simp [shapes, fromStatement, bareImport, moduleCall, specifier, quote, concat, literal,
    endsApart, hquote]

/-- The shapes of imports do not notice a newline behind the source. -/
theorem overlooksNewline_shapes : ∀ r ∈ shapes, r.OverlooksNewline := by
  have hlooks : ∀ r ∈ shapes, (ofRegex r).overlooksNewline = true := by decide +kernel
  exact fun r hr => ⟨ends_shapes r hr, hlooks r hr⟩

/-- The same modules are named in a source with a newline behind it. -/
theorem specifiers_newline (code : List Char) : specifiers (code ++ ['\n']) = specifiers code := by
  refine List.flatMap_congr fun p hp => ?_
  obtain ⟨r, hr, rfl⟩ := List.mem_map.mp hp
  rw [(overlooksNewline_shapes r hr).findAll_newline]
  refine List.filterMap_congr fun m hm => ?_
  obtain ⟨front, name, hnamed, hends⟩ :=
    namedIn_of_matchesAt hr (finds_ofRegex.mp (findAll_finds hm))
  obtain ⟨_, -, _, _, _, _, _, _, -, htext, -⟩ := hnamed
  have hlength := congrArg List.length htext
  simp only [List.length_append, List.length_cons] at hlength
  rw [hends, Option.map_some, Option.map_some]
  dsimp only
  rw [take_drop_append (by omega)]

/-- The same packages are imported. -/
theorem packages_newline (code : List Char) : packages (code ++ ['\n']) = packages code := by
  rw [packages, packages, specifiers_newline]

/-- The same packages are missing from the allowed ones in a source with a newline behind it. -/
theorem checkImports_newline (code : List Char) (allowlist : List String) :
    Policy.checkImports (code ++ ['\n']) allowlist = Policy.checkImports code allowlist := by
  have hdisallowed : disallowed (code ++ ['\n']) allowlist = disallowed code allowlist := by
    rw [disallowed, disallowed, packages_newline]
  rw [Policy.checkImports, Policy.checkImports, hdisallowed]

end Imports

namespace StandardPolicy

/-- The patterns of the standard rules do not notice a newline behind the code. -/
theorem overlooksNewline_expressions : ∀ x ∈ expressions, x.2.OverlooksNewline := by
  decide +kernel

/-- A pattern of the standard rules does not compile under every limit, but to nothing else. -/
theorem compile?_cases {x : String × Regex} (hx : x ∈ expressions) (limit : Nat) :
    compile? limit x.1 = none ∨ compile? limit x.1 = some (ofRegex x.2) := by
  have hparse := parse_expressions x hx
  unfold compile?
  cases hresult : parse x.1 with
  | error e => exact Or.inl rfl
  | ok r =>
    obtain rfl : r = x.2 := by simpa [hresult, Except.toOption] using hparse
    dsimp only
    split
    · exact Or.inr rfl
    · exact Or.inl rfl

/-- Apart from the limit on lines, a standard rule fails on a text with a newline behind it as on
the text itself. -/
theorem violation?_newline {rule : Rule} (hrule : rule ∈ (defaultRules 0).tail) (limit : Nat)
    (code : List Char) (allowlist : List String) :
    Policy.violation? limit (code ++ ['\n']) allowlist rule =
      Policy.violation? limit code allowlist rule := by
  rcases kind_cases rule hrule with himports | ⟨x, hx, hpattern⟩
  · simp only [Policy.violation?, himports, Imports.checkImports_newline]
  · simp only [Policy.violation?, hpattern]
    rcases compile?_cases hx limit with hnone | hsome
    · rw [hnone]
      rfl
    · rw [hsome]
      exact Policy.checkPattern_newline (overlooksNewline_expressions x hx) code

end StandardPolicy

end ArtifactPipeline
