import ArtifactPipeline.Proofs.CharSets
import ArtifactPipeline.Proofs.Matches
import ArtifactPipeline.Regex.Program

/-!
# What the program of an expression runs over

A run of a program goes from an instruction to the end, over a piece of a text, and records marks.
The instructions that are laid down for an expression lead from their entry to their continuation:
each run from the entry begins with a match of the expression and goes on with a run from the
continuation, and each match followed by such a run is a run. So the runs of the program of an
expression are its matches.
-/

namespace ArtifactPipeline.Regex.Program

variable {p : Program} {code code' code'' : Code} {before piece after : List Char}
  {marks : List (Nat × Nat)} {steps : Nat}

/-- The runs of a program from an instruction to the end, with the number of their steps. -/
inductive Runs (p : Program) :
    Nat → List Char → List Char → List Char → List (Nat × Nat) → Nat → Prop
  | accept {pc : Nat} {before after : List Char} : p.insts[pc]? = some .accept →
    Runs p pc before [] after [] 0
  | read {pc next : Nat} {s : CharSet} {c : Char} {before piece after : List Char}
    {marks : List (Nat × Nat)} {steps : Nat} : p.insts[pc]? = some (.read s next) →
    s.mem c = true → Runs p next (before ++ [c]) piece after marks steps →
    Runs p pc before (c :: piece) after marks (steps + 1)
  | look {pc next : Nat} {l : Look} {before piece after : List Char}
    {marks : List (Nat × Nat)} {steps : Nat} : p.insts[pc]? = some (.look l next) →
    l.holds before.getLast? (piece ++ after).head? = true →
    Runs p next before piece after marks steps → Runs p pc before piece after marks (steps + 1)
  | mark {pc next slot : Nat} {before piece after : List Char} {marks : List (Nat × Nat)}
    {steps : Nat} : p.insts[pc]? = some (.mark slot next) →
    Runs p next before piece after marks steps →
    Runs p pc before piece after (marks ++ [(slot, before.length)]) (steps + 1)
  | first {pc first second : Nat} {before piece after : List Char} {marks : List (Nat × Nat)}
    {steps : Nat} : p.insts[pc]? = some (.fork first second) →
    Runs p first before piece after marks steps → Runs p pc before piece after marks (steps + 1)
  | second {pc first second : Nat} {before piece after : List Char} {marks : List (Nat × Nat)}
    {steps : Nat} : p.insts[pc]? = some (.fork first second) →
    Runs p second before piece after marks steps → Runs p pc before piece after marks (steps + 1)

/-- A choice goes on with one of its continuations, whichever it prefers. -/
theorem runs_branch {greedy : Bool} {pc more done : Nat}
    (hinst : p.insts[pc]? = some (branch greedy more done)) :
    p.Runs pc before piece after marks steps ↔ ∃ rest, steps = rest + 1 ∧
      (p.Runs more before piece after marks rest ∨ p.Runs done before piece after marks rest) := by
  constructor
  · intro h
    cases greedy with
    | true =>
      cases h with
      | first h hrest =>
        cases hinst.symm.trans h
        exact ⟨_, rfl, Or.inl hrest⟩
      | second h hrest =>
        cases hinst.symm.trans h
        exact ⟨_, rfl, Or.inr hrest⟩
      | accept h | read h | look h | mark h => cases hinst.symm.trans h
    | false =>
      cases h with
      | first h hrest =>
        cases hinst.symm.trans h
        exact ⟨_, rfl, Or.inr hrest⟩
      | second h hrest =>
        cases hinst.symm.trans h
        exact ⟨_, rfl, Or.inl hrest⟩
      | accept h | read h | look h | mark h => cases hinst.symm.trans h
  · rintro ⟨rest, rfl, hmore | hdone⟩
    · cases greedy with
      | true => exact .first hinst hmore
      | false => exact .second hinst hmore
    · cases greedy with
      | true => exact .second hinst hdone
      | false => exact .first hinst hdone

/-- Instructions lead from an entry to a continuation over the pieces of a passage. -/
structure Leads (p : Program) (entry next : Nat) (R : Passage) : Prop where
  /-- A run from the entry begins with a piece of the passage. -/
  split : ∀ {before piece after marks steps}, p.Runs entry before piece after marks steps →
    ∃ first rest firstMarks restMarks fewer, piece = first ++ rest ∧
      marks = restMarks ++ firstMarks ∧ fewer ≤ steps ∧ R before first (rest ++ after) firstMarks ∧
      p.Runs next (before ++ first) rest after restMarks fewer
  /-- A piece of the passage goes before any run from the continuation. -/
  join : ∀ {before first rest after firstMarks restMarks steps},
    R before first (rest ++ after) firstMarks →
    p.Runs next (before ++ first) rest after restMarks steps →
    ∃ more, p.Runs entry before (first ++ rest) after (restMarks ++ firstMarks) more

namespace Leads

variable {entry middle next : Nat} {R S : Passage}

/-- An instruction leads to itself over the empty piece. -/
theorem refl (entry : Nat) : p.Leads entry entry .nothing where
  split {before piece _ marks steps} h :=
    ⟨[], piece, [], marks, steps, rfl, by simp, Nat.le_refl _, ⟨rfl, rfl⟩, by simpa using h⟩
  join {_ _ rest _ _ restMarks steps} h hrun := by
    obtain ⟨rfl, rfl⟩ := h
    exact ⟨steps, by simpa using hrun⟩

/-- Passages with the same pieces may stand for each other. -/
theorem mono (h : p.Leads entry next R) (hRS : ∀ {b p a m}, R b p a m ↔ S b p a m) :
    p.Leads entry next S where
  split hrun := by
    obtain ⟨first, rest, firstMarks, restMarks, fewer, hpiece, hmarks, hfewer, hfirst, hrest⟩ :=
      h.split hrun
    exact ⟨first, rest, firstMarks, restMarks, fewer, hpiece, hmarks, hfewer, hRS.mp hfirst, hrest⟩
  join hfirst hrest := h.join (hRS.mpr hfirst) hrest

/-- What leads to an instruction in the middle and on from there leads over both passages. -/
theorem trans (h₁ : p.Leads entry middle R) (h₂ : p.Leads middle next S) :
    p.Leads entry next (R.followedBy S) where
  split {before piece after marks steps} hrun := by
    obtain ⟨first, _, firstMarks, _, fewer, rfl, rfl, hfewer, hfirst, hrest⟩ := h₁.split hrun
    obtain ⟨second, rest, secondMarks, restMarks, fewer', rfl, rfl, hfewer', hsecond, hrest⟩ :=
      h₂.split hrest
    refine ⟨first ++ second, rest, secondMarks ++ firstMarks, restMarks, fewer', ?_, ?_,
      Nat.le_trans hfewer' hfewer, ⟨first, second, firstMarks, secondMarks, rfl, rfl, ?_, hsecond⟩,
      ?_⟩
    · exact (List.append_assoc ..).symm
    · exact List.append_assoc ..
    · rwa [List.append_assoc] at hfirst
    · rwa [List.append_assoc] at hrest
  join {before piece rest after marks restMarks steps} h hrest := by
    obtain ⟨first, second, firstMarks, secondMarks, rfl, rfl, hfirst, hsecond⟩ := h
    rw [← List.append_assoc] at hrest
    obtain ⟨more, hmiddle⟩ := h₂.join hsecond hrest
    rw [← List.append_assoc] at hfirst
    obtain ⟨more', hrun⟩ := h₁.join hfirst hmiddle
    refine ⟨more', ?_⟩
    rwa [List.append_assoc, ← List.append_assoc restMarks]

/-- An instruction that reads one character. -/
theorem read {pc next : Nat} {s : CharSet} (hinst : p.insts[pc]? = some (.read s next)) :
    p.Leads pc next (Regex.set s).Matches where
  split {before piece after marks steps} hrun := by
    cases hrun with
    | @read _ _ _ c _ rest _ _ fewer h hc hrest =>
      cases hinst.symm.trans h
      exact ⟨[c], rest, [], marks, fewer, rfl, by simp, by omega, ⟨c, hc, rfl, rfl⟩, hrest⟩
    | accept h | look h | mark h | first h | second h => cases hinst.symm.trans h
  join {before first rest after firstMarks restMarks steps} h hrest := by
    obtain ⟨c, hc, rfl, rfl⟩ := h
    exact ⟨steps + 1, by simpa using Runs.read hinst hc hrest⟩

/-- An instruction that records the place. -/
theorem mark {pc next slot : Nat} (hinst : p.insts[pc]? = some (.mark slot next)) :
    p.Leads pc next fun before piece _ marks => piece = [] ∧ marks = [(slot, before.length)] where
  split {before piece after marks steps} hrun := by
    cases hrun with
    | @mark _ _ _ _ _ _ marks fewer h hrest =>
      cases hinst.symm.trans h
      exact ⟨[], piece, _, marks, fewer, rfl, rfl, by omega, ⟨rfl, rfl⟩, by simpa⟩
    | accept h | read h | look h | first h | second h => cases hinst.symm.trans h
  join {before first rest after firstMarks restMarks steps} h hrest := by
    obtain ⟨rfl, rfl⟩ := h
    exact ⟨steps + 1, by simpa using Runs.mark hinst (by simpa using hrest)⟩

/-- A condition leads on over the empty piece where it holds. -/
theorem look {pc next : Nat} {l : Look} (hinst : p.insts[pc]? = some (.look l next)) :
    p.Leads pc next (Regex.look l).Matches where
  split {before piece after marks steps} hrun := by
    cases hrun with
    | @look _ _ _ _ _ _ _ fewer h hl hrest =>
      cases hinst.symm.trans h
      exact ⟨[], piece, [], marks, fewer, rfl, by simp, by omega, ⟨hl, rfl, rfl⟩, by simpa⟩
    | accept h | read h | mark h | first h | second h => cases hinst.symm.trans h
  join {before first rest after firstMarks restMarks steps} h hrest := by
    obtain ⟨hl, rfl, rfl⟩ := h
    exact ⟨steps + 1, by simpa using Runs.look hinst hl (by simpa using hrest)⟩

/-- A choice between two ways to go on. -/
theorem branch {greedy : Bool} {pc more done : Nat}
    (hinst : p.insts[pc]? = some (Program.branch greedy more done)) (hmore : p.Leads more next R)
    (hdone : p.Leads done next S) :
    p.Leads pc next fun before piece after marks =>
      R before piece after marks ∨ S before piece after marks where
  split {before piece after marks steps} hrun := by
    obtain ⟨rest, rfl, hrun | hrun⟩ := (runs_branch hinst).mp hrun
    · obtain ⟨first, rest, firstMarks, restMarks, fewer, hpiece, hmarks, hfewer, hfirst, hrest⟩ :=
        hmore.split hrun
      exact ⟨first, rest, firstMarks, restMarks, fewer, hpiece, hmarks, by omega, Or.inl hfirst,
        hrest⟩
    · obtain ⟨first, rest, firstMarks, restMarks, fewer, hpiece, hmarks, hfewer, hfirst, hrest⟩ :=
        hdone.split hrun
      exact ⟨first, rest, firstMarks, restMarks, fewer, hpiece, hmarks, by omega, Or.inr hfirst,
        hrest⟩
  join h hrest := by
    rcases h with h | h
    · obtain ⟨more, hrun⟩ := hmore.join h hrest
      exact ⟨more + 1, (runs_branch hinst).mpr ⟨more, rfl, Or.inl hrun⟩⟩
    · obtain ⟨more, hrun⟩ := hdone.join h hrest
      exact ⟨more + 1, (runs_branch hinst).mpr ⟨more, rfl, Or.inr hrun⟩⟩

/-- A loop: its choice leads to the continuation over any number of rounds. -/
theorem loop {greedy : Bool} {again : Nat}
    (hinst : p.insts[again]? = some (Program.branch greedy entry next))
    (hbody : p.Leads entry again R) :
    p.Leads again next fun before piece after marks =>
      ∃ count, R.rounds count before piece after marks where
  split {before piece after marks steps} hrun := by
    -- A round takes at least the step of the choice, so the runs become shorter.
    induction steps using Nat.strongRecOn generalizing before piece marks with
    | ind steps ih =>
      obtain ⟨rest, rfl, hrun | hrun⟩ := (runs_branch hinst).mp hrun
      · obtain ⟨first, _, firstMarks, _, fewer, rfl, rfl, hfewer, hfirst, hagain⟩ :=
          hbody.split hrun
        obtain ⟨second, last, secondMarks, lastMarks, fewer', rfl, rfl, hfewer', ⟨count, hcount⟩,
          hlast⟩ := ih fewer (by omega) hagain
        refine ⟨first ++ second, last, secondMarks ++ firstMarks, lastMarks, fewer', ?_, ?_,
          by omega, ⟨count + 1, first, second, firstMarks, secondMarks, rfl, rfl, ?_, hcount⟩, ?_⟩
        · exact (List.append_assoc ..).symm
        · exact List.append_assoc ..
        · rwa [List.append_assoc] at hfirst
        · rwa [List.append_assoc] at hlast
      · exact ⟨[], piece, [], marks, rest, rfl, by simp, by omega, ⟨0, rfl, rfl⟩, by simpa⟩
  join {before piece rest after marks restMarks steps} h hrest := by
    obtain ⟨count, hrounds⟩ := h
    induction count generalizing before piece marks with
    | zero =>
      obtain ⟨rfl, rfl⟩ := hrounds
      have hdone : p.Runs next before rest after restMarks steps := by simpa using hrest
      exact ⟨steps + 1, (runs_branch hinst).mpr ⟨steps, rfl, Or.inr (by simpa using hdone)⟩⟩
    | succ count ih =>
      obtain ⟨first, second, firstMarks, secondMarks, rfl, rfl, hfirst, hsecond⟩ := hrounds
      rw [← List.append_assoc] at hrest
      obtain ⟨more, hagain⟩ := ih hrest hsecond
      obtain ⟨more', hentry⟩ := hbody.join (by rwa [List.append_assoc]) hagain
      refine ⟨more' + 1, (runs_branch hinst).mpr ⟨more', rfl, Or.inl ?_⟩⟩
      rwa [List.append_assoc, ← List.append_assoc restMarks]

end Leads

/-- Some code with further instructions behind it. -/
structure Extends (code code' : Code) : Prop where
  size : code.size ≤ code'.size
  kept : ∀ i, i < code.size → code'[i]? = code[i]?

/-- Any code has nothing but itself and no instructions behind it. -/
theorem Extends.refl (code : Code) : Extends code code := ⟨Nat.le_refl _, fun _ _ => rfl⟩

/-- Code with further instructions behind it may get more behind these. -/
theorem Extends.trans (h₁ : Extends code code') (h₂ : Extends code' code'') :
    Extends code code'' where
  size := Nat.le_trans h₁.size h₂.size
  kept i hi := (h₂.kept i (Nat.lt_of_lt_of_le hi h₁.size)).trans (h₁.kept i hi)

/-- One instruction may be put behind any code. -/
theorem Extends.push (code : Code) (inst : Inst) : Extends code (code.push inst) where
  size := by simp
  kept i hi := by
    rw [Array.getElem?_push, if_neg (by omega)]

/-- The program has the instructions of some code from an index on. -/
def Holds (p : Program) (low : Nat) (code : Code) : Prop :=
  ∀ i, low ≤ i → i < code.size → p.insts[i]? = code[i]?

/-- A program that has the instructions from an index on has them from any later index on. -/
theorem Holds.mono {low low' : Nat} (h : p.Holds low code) (hlow : low ≤ low') :
    p.Holds low' code := fun i hi => h i (Nat.le_trans hlow hi)

/-- What is laid down stays when more is laid down. -/
theorem Holds.of_extends {low : Nat} (h : p.Holds low code') (hext : Extends code code') :
    p.Holds low code := fun i hlow hi => by
  rw [h i hlow (Nat.lt_of_lt_of_le hi hext.size), hext.kept i hi]

/-- A program has the instruction that was laid down last. -/
theorem Holds.pushed {low : Nat} {inst : Inst} (h : p.Holds low (code.push inst))
    (hlow : low ≤ code.size) : p.insts[code.size]? = some inst := by
  rw [h code.size hlow (by simp), Array.getElem?_push_size]

/-- A way to lay down instructions before a continuation, so that they lead to it over the pieces of
a passage. -/
structure Lays (R : Passage) (fragment : Nat → Code → Nat × Code) : Prop where
  kept : ∀ next code, Extends code (fragment next code).2
  leads : ∀ {p : Program} {next : Nat} {code : Code}, p.Holds code.size (fragment next code).2 →
    p.Leads (fragment next code).1 next R

namespace Lays

variable {R S : Passage} {f g : Nat → Code → Nat × Code}

/-- Laying down no instructions leads over the empty piece. -/
theorem nothing : Lays .nothing fun next code => (next, code) :=
  ⟨fun _ code => .refl code, fun _ => .refl _⟩

/-- Two fragments one after another, of which the second is laid down first. -/
theorem followedBy (hf : Lays R f) (hg : Lays S g) :
    Lays (R.followedBy S) fun next code => f (g next code).1 (g next code).2 where
  kept next code := (hg.kept next code).trans (hf.kept _ _)
  leads {p next code} h := by
    have hsecond := hg.leads (h.of_extends (hf.kept _ _))
    have hfirst := hf.leads (h.mono (hg.kept next code).size)
    exact hfirst.trans hsecond

/-- An instruction that reads a set leads over one character of the set. -/
theorem read (s : CharSet) :
    Lays (Regex.set s).Matches fun next code => (code.size, code.push (.read s next)) where
  kept _ code := .push code _
  leads h := .read (h.pushed (Nat.le_refl _))

/-- Instructions that read given characters lead over the text of these characters. -/
theorem layChars (cs : List Char) : Lays (Regex.chars cs).Matches (Program.layChars cs) := by
  induction cs with
  | nil => exact nothing
  | cons c cs ih =>
    have hboth := (read (.single c)).followedBy ih
    refine ⟨hboth.kept, fun h => (hboth.leads h).mono ?_⟩
    intro before piece after marks
    constructor
    · rintro ⟨_, _, _, _, rfl, rfl, ⟨d, hd, rfl, rfl⟩, rfl, rfl⟩
      rw [CharSet.mem_single, beq_iff_eq] at hd
      exact ⟨by rw [hd]; rfl, rfl⟩
    · rintro ⟨rfl, rfl⟩
      exact ⟨[c], cs, [], [], rfl, rfl, ⟨c, by simp [CharSet.mem_single], rfl, rfl⟩, rfl, rfl⟩

/-- Code that is laid down a number of times leads over as many rounds. -/
theorem copies (hf : Lays R f) (count : Nat) : Lays (R.rounds count) (Program.copies f count) := by
  induction count with
  | zero => exact nothing
  | succ count ih => exact hf.followedBy ih

/-- Optional copies are as many rounds as one likes, up to their number. -/
theorem options (greedy : Bool) (hf : Lays R f) (count : Nat) :
    Lays (fun before piece after marks => ∃ taken ≤ count, R.rounds taken before piece after marks)
      fun done code => Program.options greedy f done count code := by
  induction count with
  | zero =>
    refine ⟨nothing.kept, fun h => (nothing.leads h).mono ?_⟩
    intro before piece after marks
    constructor
    · intro h
      exact ⟨0, Nat.le_refl _, h⟩
    · rintro ⟨taken, htaken, h⟩
      obtain rfl : taken = 0 := by omega
      exact h
  | succ count ih =>
    have hboth := hf.followedBy ih
    refine ⟨fun done code => (hboth.kept done code).trans (.push _ _), fun {p done code} h => ?_⟩
    have hentry := hboth.leads (h.of_extends (.push _ _))
    have hinst := h.pushed (hboth.kept done code).size
    refine (Leads.branch hinst hentry (.refl done)).mono ?_
    intro before piece after marks
    constructor
    · rintro (⟨first, rest, firstMarks, restMarks, hpiece, hmarks, hfirst, taken, htaken, hrest⟩ |
        h)
      · exact ⟨taken + 1, by omega, first, rest, firstMarks, restMarks, hpiece, hmarks, hfirst,
          hrest⟩
      · exact ⟨0, by omega, h⟩
    · rintro ⟨_ | taken, htaken, h⟩
      · exact Or.inr h
      · obtain ⟨first, rest, firstMarks, restMarks, hpiece, hmarks, hfirst, hrest⟩ := h
        exact Or.inl ⟨first, rest, firstMarks, restMarks, hpiece, hmarks, hfirst, taken, by omega,
          hrest⟩

end Lays

/-- The instructions of a loop: where it is entered for a first round, and its choice. -/
theorem loop_kept {R : Passage} {f : Nat → Code → Nat × Code} (greedy : Bool) (hf : Lays R f)
    (next : Nat) (code : Code) : Extends code (loop greedy f next code).2.2 := by
  have hbody := (Extends.push code .accept).trans (hf.kept code.size (code.push .accept))
  refine ⟨by simpa [loop] using hbody.size, fun i hi => ?_⟩
  rw [← hbody.kept i hi]
  simp only [loop, Array.set!_eq_setIfInBounds]
  exact Array.getElem?_setIfInBounds_ne (by omega)

/-- The instructions of a loop are its choice and those of its body. -/
theorem loop_holds {R : Passage} {f : Nat → Code → Nat × Code} {greedy : Bool} {next : Nat}
    (hf : Lays R f) (h : p.Holds code.size (loop greedy f next code).2.2) :
    p.insts[code.size]? = some (branch greedy (loop greedy f next code).1 next) ∧
      p.Holds (code.push .accept).size (f code.size (code.push .accept)).2 := by
  have hkept := hf.kept code.size (code.push .accept)
  have hsize : code.size < (f code.size (code.push .accept)).2.size := by
    have hle := hkept.size
    rw [Array.size_push] at hle
    omega
  constructor
  · rw [h code.size (Nat.le_refl _) (by simpa [loop] using hsize)]
    simp [loop, Array.set!_eq_setIfInBounds, hsize]
  · intro i hlow hi
    rw [Array.size_push] at hlow
    rw [h i (by omega) (by simpa [loop] using hi)]
    simp only [loop, Array.set!_eq_setIfInBounds]
    exact Array.getElem?_setIfInBounds_ne (by omega)

/-- A loop leads to its continuation over any number of rounds from its choice, and over at least
one round from its entry. -/
theorem loop_leads {R : Passage} {f : Nat → Code → Nat × Code} {greedy : Bool} {next : Nat}
    (hf : Lays R f) (h : p.Holds code.size (loop greedy f next code).2.2) :
    p.Leads (loop greedy f next code).2.1 next (fun before piece after marks =>
        ∃ count, R.rounds count before piece after marks) ∧
      p.Leads (loop greedy f next code).1 (loop greedy f next code).2.1 R := by
  obtain ⟨hinst, hholds⟩ := loop_holds hf h
  have hbody : p.Leads (loop greedy f next code).1 code.size R := hf.leads hholds
  exact ⟨.loop hinst hbody, hbody⟩

/-- A repetition without an upper end allows any number of rounds from the lower end on. -/
theorem allows_unbounded {min count : Nat} : allows min none count ↔ min ≤ count := by
  simp [allows]

/-- The passage of a repetition is its least number of rounds and then as many as it may take. -/
theorem matches_rep {greedy : Bool} {min : Nat} {max : Option Nat} {body : Regex} :
    (Regex.rep greedy min max body).Matches before piece after marks ↔
      (body.Matches.rounds min).followedBy (fun before piece after marks => ∃ more,
        (∀ bound, max = some bound → more ≤ bound - min) ∧
          body.Matches.rounds more before piece after marks) before piece after marks := by
  constructor
  · rintro ⟨count, ⟨hmin, hmax⟩, hrounds⟩
    obtain ⟨more, rfl⟩ := Nat.exists_eq_add_of_le hmin
    refine Passage.followedBy_mono id (fun hmore => ⟨more, fun bound hbound => ?_, hmore⟩)
      ((Passage.rounds_add min more).mp hrounds)
    have hcount := hmax bound hbound
    omega
  · rintro ⟨first, rest, firstMarks, restMarks, hpiece, hmarks, hfirst, more, hmax, hrest⟩
    refine ⟨min + more, ⟨Nat.le_add_right _ _, fun bound hbound => ?_⟩,
      (Passage.rounds_add min more).mpr
        ⟨first, rest, firstMarks, restMarks, hpiece, hmarks, hfirst, hrest⟩⟩
    have hmore := hmax bound hbound
    omega

/-- A repetition with a bound: the rounds that it must take, then optional ones. -/
theorem Lays.bounded {body : Regex} (hbody : Lays body.Matches (lay body)) (greedy : Bool)
    (min max : Nat) :
    Lays (Regex.rep greedy min (some max) body).Matches
      (lay (.rep greedy min (some max) body)) := by
  have hboth := (hbody.copies min).followedBy (hbody.options greedy (max - min))
  refine ⟨fun next code => ?_, fun {p next code} h => ?_⟩
  · rw [lay]
    exact hboth.kept next code
  · rw [lay] at h ⊢
    refine (hboth.leads h).mono ?_
    intro before piece after marks
    rw [matches_rep]
    constructor
    · refine Passage.followedBy_mono id ?_
      rintro _ _ _ _ ⟨taken, htaken, hrounds⟩
      refine ⟨taken, ?_, hrounds⟩
      rintro _ ⟨⟩
      exact htaken
    · refine Passage.followedBy_mono id ?_
      rintro _ _ _ _ ⟨taken, htaken, hrounds⟩
      exact ⟨taken, htaken max rfl, hrounds⟩

/-- A repetition without ends is laid down as a loop, with a branch of its own in front if the body
may be empty. -/
theorem lay_rep_zero (greedy : Bool) (body : Regex) (next : Nat) (code : Code) :
    lay (.rep greedy 0 none body) next code =
      let looped := (loop greedy (lay body) next code).2.2
      if body.nullable then
        (looped.size, looped.push (branch greedy (loop greedy (lay body) next code).1 next))
      else ((loop greedy (lay body) next code).2.1, looped) := rfl

/-- A repetition without a bound that need not take a round. -/
theorem Lays.unbounded {body : Regex} (hbody : Lays body.Matches (lay body)) (greedy : Bool) :
    Lays (Regex.rep greedy 0 none body).Matches (lay (.rep greedy 0 none body)) := by
  have hany {before piece after : List Char} {marks : List (Nat × Nat)} :
      (∃ count, body.Matches.rounds count before piece after marks) ↔
        (Regex.rep greedy 0 none body).Matches before piece after marks := by
    simp [Matches, allows_unbounded]
  cases hnullable : body.nullable with
  | true =>
    -- The body may match the empty text, so its first round has an entry of its own.
    have hlay (next : Nat) (code : Code) := lay_rep_zero greedy body next code
    simp only [hnullable, if_true] at hlay
    refine ⟨fun next code => ?_, fun {p next code} h => ?_⟩
    · rw [hlay]
      exact (loop_kept greedy hbody next code).trans (.push _ _)
    · rw [hlay] at h ⊢
      obtain ⟨hloop, hentry⟩ := loop_leads hbody (h.of_extends (.push _ _))
      have hinst := h.pushed (loop_kept greedy hbody next code).size
      refine (Leads.branch hinst (hentry.trans hloop) (.refl next)).mono ?_
      intro before piece after marks
      rw [← hany]
      constructor
      · rintro (⟨first, rest, firstMarks, restMarks, hpiece, hmarks, hfirst, count, hrest⟩ | hnone)
        · exact ⟨count + 1, first, rest, firstMarks, restMarks, hpiece, hmarks, hfirst, hrest⟩
        · exact ⟨0, hnone⟩
      · rintro ⟨_ | count, hrounds⟩
        · exact Or.inr hrounds
        · exact Or.inl (Passage.followedBy_mono id (fun hrest => ⟨count, hrest⟩) hrounds)
  | false =>
    have hlay (next : Nat) (code : Code) := lay_rep_zero greedy body next code
    simp only [hnullable, Bool.false_eq_true, if_false] at hlay
    refine ⟨fun next code => ?_, fun {p next code} h => ?_⟩
    · rw [hlay]
      exact loop_kept greedy hbody next code
    · rw [hlay] at h ⊢
      exact (loop_leads hbody h).1.mono hany

/-- A repetition without a bound that must take a round. -/
theorem Lays.unboundedSucc {body : Regex} (hbody : Lays body.Matches (lay body)) (greedy : Bool)
    (min : Nat) :
    Lays (Regex.rep greedy (min + 1) none body).Matches
      (lay (.rep greedy (min + 1) none body)) := by
  have hcopies := hbody.copies min
  refine ⟨fun next code => ?_, fun {p next code} h => ?_⟩
  · rw [lay]
    exact (loop_kept greedy hbody next code).trans (hcopies.kept _ _)
  · rw [lay] at h ⊢
    obtain ⟨hloop, hentry⟩ := loop_leads hbody (h.of_extends (hcopies.kept _ _))
    have hfirst := hcopies.leads (h.mono (loop_kept greedy hbody next code).size)
    refine (hfirst.trans (hentry.trans hloop)).mono ?_
    intro before piece after marks
    rw [matches_rep, Passage.rounds_succ_followedBy]
    refine ⟨Passage.followedBy_mono id (Passage.followedBy_mono id ?_),
      Passage.followedBy_mono id (Passage.followedBy_mono id ?_)⟩
    · rintro _ _ _ _ ⟨count, hrounds⟩
      exact ⟨count, by simp, hrounds⟩
    · rintro _ _ _ _ ⟨count, -, hrounds⟩
      exact ⟨count, hrounds⟩

/-- The instructions of an expression lead to their continuation over its matches. -/
theorem lay_lays (r : Regex) : Lays r.Matches (lay r) := by
  induction r with
  | empty => exact .nothing
  | chars cs => exact .layChars cs
  | set s => exact .read s
  | look l => exact ⟨fun next code => .push code _, fun h => .look (h.pushed (Nat.le_refl _))⟩
  | seq a b iha ihb => exact iha.followedBy ihb
  | alt a b iha ihb =>
    refine ⟨fun next code => ?_, fun {p next code} h => ?_⟩
    · exact ((ihb.kept next code).trans (iha.kept next _)).trans (.push _ _)
    · have hsecond := ihb.kept next code
      have hfirst := iha.kept next (lay b next code).2
      have hboth := h.of_extends (.push _ _)
      have hinst : p.insts[(lay a next (lay b next code).2).2.size]? =
          some (branch true (lay a next (lay b next code).2).1 (lay b next code).1) :=
        h.pushed (hsecond.trans hfirst).size
      exact Leads.branch hinst (iha.leads (hboth.mono hsecond.size))
        (ihb.leads (hboth.of_extends hfirst))
  | rep greedy min max body ih =>
    obtain _ | max := max
    · cases min with
      | zero => exact ih.unbounded greedy
      | succ min => exact ih.unboundedSucc greedy min
    · exact ih.bounded greedy min max
  | group i body ih =>
    refine ⟨fun next code => ?_, fun {p next code} h => ?_⟩
    · exact ((Extends.push code _).trans (ih.kept _ _)).trans (.push _ _)
    · have hstop := Extends.push code (.mark (2 * i + 1) next)
      have hbody := ih.kept code.size (code.push (.mark (2 * i + 1) next))
      have hinner := h.of_extends (.push _ _)
      have hopen := Leads.mark (h.pushed (hstop.trans hbody).size)
      have hclose := Leads.mark ((hinner.of_extends hbody).pushed (Nat.le_refl _))
      have hmiddle := ih.leads (hinner.mono hstop.size)
      refine (hopen.trans (hmiddle.trans hclose)).mono ?_
      intro before piece after marks
      constructor
      · rintro ⟨_, _, _, _, rfl, rfl, ⟨rfl, rfl⟩, inner, _, innerMarks, _, rfl, rfl, hinner, rfl,
          rfl⟩
        exact ⟨innerMarks, by simpa using hinner, by simp⟩
      · rintro ⟨innerMarks, hinner, rfl⟩
        refine ⟨[], piece, [(2 * i, before.length)],
          (2 * i + 1, before.length + piece.length) :: innerMarks, rfl, rfl, ⟨rfl, rfl⟩, piece, [],
          innerMarks, [(2 * i + 1, before.length + piece.length)], by simp, rfl, ?_, rfl, ?_⟩
        · simpa using hinner
        · simp

/-- The runs of the program of an expression are the matches of the expression. -/
theorem runs_ofRegex (r : Regex) :
    (∃ steps, (ofRegex r).Runs (ofRegex r).start before piece after marks steps) ↔
      r.Matches before piece after marks := by
  have hlays := lay_lays r
  have hholds : (ofRegex r).Holds 1 (lay r 0 #[.accept]).2 := fun i _ _ => rfl
  have hleads : (ofRegex r).Leads (ofRegex r).start 0 r.Matches := hlays.leads hholds
  have haccept : (ofRegex r).insts[0]? = some .accept := (hlays.kept 0 #[.accept]).kept 0 (by simp)
  constructor
  · rintro ⟨steps, hrun⟩
    obtain ⟨first, rest, firstMarks, restMarks, fewer, rfl, rfl, -, hfirst, hrest⟩ :=
      hleads.split hrun
    cases hrest with
    | accept => simpa using hfirst
    | read h | look h | mark h | first h | second h => cases haccept.symm.trans h
  · intro hmatches
    have hend : (ofRegex r).Runs 0 (before ++ piece) [] after [] 0 := .accept haccept
    obtain ⟨steps, hrun⟩ := hleads.join hmatches hend
    exact ⟨steps, by simpa using hrun⟩

end ArtifactPipeline.Regex.Program
