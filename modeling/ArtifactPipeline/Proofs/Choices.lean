import ArtifactPipeline.Proofs.Preference

/-!
# How an expression chooses

Which of its matches an expression prefers depends on where what comes behind it can go on. Given
that, a choice takes its first part if that part can match so that the rest goes on, and a
repetition takes another round, or stops, in the order of its greed. The program of an expression
runs first over the match that the expression chooses, so this is the match that a search finds.
-/

namespace ArtifactPipeline.Regex

open Program

/-- Where what comes behind an expression can go on: between what stands before and what comes
after. -/
abbrev Onward := List Char → List Char → Prop

/-- Which pieces are chosen, given where what comes behind them can go on. -/
abbrev Choice := Onward → Passage

namespace Passage

/-- Some piece of the passage begins the text, and what comes behind it can go on there. -/
def CanGoOn (R : Passage) (onward : Onward) : Onward := fun before text =>
  ∃ piece after marks, text = piece ++ after ∧ R before piece after marks ∧
    onward (before ++ piece) after

/-- Any number of rounds. -/
def anyRounds (R : Passage) : Passage := fun before piece after marks =>
  ∃ count, R.rounds count before piece after marks

/-- At most as many rounds as given. -/
def fewRounds (R : Passage) (limit : Nat) : Passage := fun before piece after marks =>
  ∃ count ≤ limit, R.rounds count before piece after marks

end Passage

namespace Choice

/-- The first of two ways, or the second one if nothing comes of the first. -/
def orElse (R : Passage) (C D : Choice) : Choice := fun onward before piece after marks =>
  C onward before piece after marks ∨
    ¬ R.CanGoOn onward before (piece ++ after) ∧ D onward before piece after marks

/-- One way and then another. `S` has all pieces of the second way. -/
def followedBy (C : Choice) (S : Passage) (D : Choice) : Choice := fun onward =>
  (C (S.CanGoOn onward)).followedBy (D onward)

/-- Another round or none, preferably another one iff greedy. -/
def optional (greedy : Bool) (R : Passage) (C : Choice) : Choice :=
  if greedy then orElse R C fun _ => .nothing else orElse .nothing (fun _ => .nothing) C

/-- A number of rounds. -/
def rounds (R : Passage) (C : Choice) : (count : Nat) → Choice
  | 0 => fun _ => .nothing
  | count + 1 => C.followedBy (R.rounds count) (rounds R C count)

/-- At most as many rounds as given, more or fewer first. -/
def fewRounds (greedy : Bool) (R : Passage) (C : Choice) : (limit : Nat) → Choice
  | 0 => fun _ => .nothing
  | limit + 1 => optional greedy (R.followedBy (R.fewRounds limit))
      (C.followedBy (R.fewRounds limit) (fewRounds greedy R C limit))

/-- Any number of rounds, more or fewer first. -/
inductive AnyRounds (greedy : Bool) (R : Passage) (C : Choice) (onward : Onward) : Passage
  | done {before after : List Char} :
    (greedy = true → ¬ (R.followedBy R.anyRounds).CanGoOn onward before after) →
    AnyRounds greedy R C onward before [] after []
  | more {before first rest after : List Char} {firstMarks restMarks : List (Nat × Nat)} :
    (greedy = false → ¬ onward before (first ++ (rest ++ after))) →
    C (R.anyRounds.CanGoOn onward) before first (rest ++ after) firstMarks →
    AnyRounds greedy R C onward (before ++ first) rest after restMarks →
    AnyRounds greedy R C onward before (first ++ rest) after (restMarks ++ firstMarks)

end Choice

/-- What an expression chooses. -/
def Chooses : Regex → Choice
  | .empty => fun _ => .nothing
  | .chars cs => fun _ => (Regex.chars cs).Matches
  | .set s => fun _ => (Regex.set s).Matches
  | .look l => fun _ => (Regex.look l).Matches
  | .seq a b => Choice.followedBy a.Chooses b.Matches b.Chooses
  | .alt a b => Choice.orElse a.Matches a.Chooses b.Chooses
  | .rep greedy min (some max) body =>
    Choice.followedBy (Choice.rounds body.Matches body.Chooses min)
      (body.Matches.fewRounds (max - min))
      (Choice.fewRounds greedy body.Matches body.Chooses (max - min))
  | .rep greedy 0 none body => Choice.AnyRounds greedy body.Matches body.Chooses
  | .rep greedy (min + 1) none body =>
    Choice.followedBy (Choice.rounds body.Matches body.Chooses min)
      (body.Matches.followedBy body.Matches.anyRounds)
      (Choice.followedBy body.Chooses body.Matches.anyRounds
        (Choice.AnyRounds greedy body.Matches body.Chooses))
  | .group i body => fun onward before piece after marks =>
    ∃ inner, body.Chooses onward before piece after inner ∧
      marks = (2 * i + 1, before.length + piece.length) :: (inner ++ [(2 * i, before.length)])

/-! ## First runs over what is chosen -/

namespace Program

variable {p : Program} {entry middle next pc : Nat} {R S : Passage} {C D : Choice}

/-- Some run to the end goes on from the instruction. -/
def GoesOn (p : Program) (pc : Nat) : Onward := fun before rest => ¬ p.Dead before rest pc

/-- The first run from an entry goes over a chosen piece, and then on from the continuation. -/
structure Prefers (p : Program) (entry next : Nat) (C : Choice) : Prop where
  join : ∀ {before first rest after firstMarks restMarks steps},
    C (p.GoesOn next) before first (rest ++ after) firstMarks →
    p.FirstRun next (before ++ first) rest after restMarks steps →
    ∃ more, p.FirstRun entry before (first ++ rest) after (restMarks ++ firstMarks) more

/-- A run goes on from an instruction if some beginning of the text is the piece of a run. -/
theorem goesOn_iff {before text : List Char} : p.GoesOn pc before text ↔
    ∃ piece after marks steps, text = piece ++ after ∧
      p.Runs pc before piece after marks steps := by
  simp [GoesOn, Dead]

/-- From an entry a run goes on iff it does from the continuation behind some piece. -/
theorem Leads.goesOn_eq (h : p.Leads entry next R) :
    p.GoesOn entry = R.CanGoOn (p.GoesOn next) := by
  funext before text
  refine propext ?_
  rw [goesOn_iff]
  constructor
  · rintro ⟨piece, after, marks, steps, rfl, hrun⟩
    obtain ⟨first, rest, firstMarks, restMarks, fewer, rfl, -, -, hfirst, hrest⟩ := h.split hrun
    exact ⟨first, rest ++ after, firstMarks, List.append_assoc .., hfirst,
      goesOn_iff.mpr ⟨rest, after, restMarks, fewer, rfl, hrest⟩⟩
  · rintro ⟨first, _, firstMarks, rfl, hfirst, hgoes⟩
    obtain ⟨rest, after, restMarks, steps, rfl, hrest⟩ := goesOn_iff.mp hgoes
    obtain ⟨more, hrun⟩ := h.join hfirst hrest
    exact ⟨first ++ rest, after, _, more, (List.append_assoc ..).symm, hrun⟩

/-- Nothing goes on from the entry if no piece of the passage leads to where the continuation
goes on. -/
theorem Leads.dead (h : p.Leads entry next R) {before text : List Char}
    (hnot : ¬ R.CanGoOn (p.GoesOn next) before text) : p.Dead before text entry := by
  rw [← h.goesOn_eq] at hnot
  exact Classical.not_not.mp hnot

/-- Another round is taken if it is preferred, or if no run goes on from what comes behind. -/
theorem FirstRun.branch_more {greedy : Bool} {before piece after : List Char}
    {marks : List (Nat × Nat)} {steps : Nat}
    (h : p.FirstRun entry before piece after marks steps)
    (hinst : p.insts[pc]? = some (Program.branch greedy entry next))
    (hnext : greedy = false → p.Dead before (piece ++ after) next) :
    p.FirstRun pc before piece after marks (steps + 1) := by
  cases greedy with
  | true => exact .first hinst h
  | false => exact .second hinst (hnext rfl) h

/-- No other round is taken if none is preferred, or if no run goes on from there. -/
theorem FirstRun.branch_done {greedy : Bool} {before piece after : List Char}
    {marks : List (Nat × Nat)} {steps : Nat}
    (hinst : p.insts[pc]? = some (Program.branch greedy entry next))
    (hentry : greedy = true → p.Dead before (piece ++ after) entry)
    (h : p.FirstRun next before piece after marks steps) :
    p.FirstRun pc before piece after marks (steps + 1) := by
  cases greedy with
  | true => exact .second hinst (hentry rfl) h
  | false => exact .first hinst h

namespace Prefers

/-- An instruction reaches itself over the empty piece, which is the only choice. -/
theorem refl (entry : Nat) : p.Prefers entry entry fun _ => .nothing where
  join {before _ rest after _ restMarks steps} h hrest := by
    obtain ⟨rfl, rfl⟩ := h
    exact ⟨steps, by simpa using hrest⟩

/-- What is preferred in two parts of the code is the choice of the first followed by the choice
of the second. -/
theorem trans (h₁ : p.Prefers entry middle C) (hS : p.Leads middle next S)
    (h₂ : p.Prefers middle next D) : p.Prefers entry next (C.followedBy S D) where
  join {before _ rest after _ restMarks steps} h hrest := by
    obtain ⟨first, second, firstMarks, secondMarks, rfl, rfl, hfirst, hsecond⟩ := h
    rw [← hS.goesOn_eq, ← List.append_assoc] at hfirst
    rw [← List.append_assoc] at hrest
    obtain ⟨more, hmiddle⟩ := h₂.join hsecond hrest
    obtain ⟨more', hrun⟩ := h₁.join hfirst hmiddle
    exact ⟨more', by rwa [List.append_assoc, ← List.append_assoc restMarks]⟩

/-- A choice between two ways to go on, of which the first is tried first. -/
theorem orElse {x y : Nat} (hinst : p.insts[pc]? = some (.fork x y)) (hR : p.Leads x next R)
    (hx : p.Prefers x next C) (hy : p.Prefers y next D) :
    p.Prefers pc next (Choice.orElse R C D) where
  join h hrest := by
    rcases h with hfirst | ⟨hnot, hsecond⟩
    · obtain ⟨more, hrun⟩ := hx.join hfirst hrest
      exact ⟨more + 1, .first hinst hrun⟩
    · obtain ⟨more, hrun⟩ := hy.join hsecond hrest
      rw [← List.append_assoc] at hnot
      exact ⟨more + 1, .second hinst (hR.dead hnot) hrun⟩

/-- A branch prefers another round or none, as greed has it, if the round can be gone on from.
-/
theorem optional {greedy : Bool} (hinst : p.insts[pc]? = some (Program.branch greedy entry next))
    (hR : p.Leads entry next R) (hentry : p.Prefers entry next C) :
    p.Prefers pc next (Choice.optional greedy R C) := by
  cases greedy with
  | true => exact orElse hinst hR hentry (refl next)
  | false => exact orElse hinst (.refl next) (refl next) hentry

/-- An instruction that reads has one piece to choose from, the character. -/
theorem read {s : CharSet} (hinst : p.insts[pc]? = some (.read s next)) :
    p.Prefers pc next fun _ => (Regex.set s).Matches where
  join {_ _ _ _ _ _ steps} h hrest := by
    obtain ⟨c, hc, rfl, rfl⟩ := h
    exact ⟨steps + 1, by simpa using FirstRun.read hinst hc hrest⟩

/-- A mark has only the empty piece to choose from, and keeps its place. -/
theorem mark {slot : Nat} (hinst : p.insts[pc]? = some (.mark slot next)) :
    p.Prefers pc next fun _ before piece _ marks =>
      piece = [] ∧ marks = [(slot, before.length)] where
  join {_ _ _ _ _ _ steps} h hrest := by
    obtain ⟨rfl, rfl⟩ := h
    exact ⟨steps + 1, by simpa using FirstRun.mark hinst (by simpa using hrest)⟩

/-- A condition has only the empty piece to choose from, where it holds. -/
theorem look {l : Look} (hinst : p.insts[pc]? = some (.look l next)) :
    p.Prefers pc next fun _ => (Regex.look l).Matches where
  join {_ _ _ _ _ _ steps} h hrest := by
    obtain ⟨hl, rfl, rfl⟩ := h
    exact ⟨steps + 1, by simpa using FirstRun.look hinst hl (by simpa using hrest)⟩

/-- A loop, entered at its choice. -/
theorem loop {greedy : Bool} (hinst : p.insts[pc]? = some (Program.branch greedy entry next))
    (hR : p.Leads entry pc R) (hC : p.Prefers entry pc C) :
    p.Prefers pc next (Choice.AnyRounds greedy R C) where
  join {before first rest after firstMarks restMarks steps} hrounds hrest := by
    have hloop : p.Leads pc next R.anyRounds := .loop hinst hR
    generalize htext : rest ++ after = text at hrounds
    induction hrounds with
    | done hnot =>
      subst htext
      exact ⟨steps + 1, by
        simpa using FirstRun.branch_done hinst (fun h => (hR.trans hloop).dead (hnot h))
          (by simpa using hrest)⟩
    | more hnot hfirst _ ih =>
      subst htext
      rw [← hloop.goesOn_eq, ← List.append_assoc] at hfirst
      obtain ⟨more, hagain⟩ := ih (by rwa [List.append_assoc]) rfl
      obtain ⟨more', hentry⟩ := hC.join hfirst hagain
      rw [← List.append_assoc, List.append_assoc restMarks] at hentry
      refine ⟨more' + 1, hentry.branch_more hinst fun h => ?_⟩
      simpa [GoesOn] using hnot h

/-- A loop whose first round has an entry of its own. -/
theorem loop_entered {greedy : Bool} {again : Nat}
    (hinst : p.insts[pc]? = some (Program.branch greedy entry next))
    (hR : p.Leads entry again R) (hloop : p.Leads again next R.anyRounds)
    (hC : p.Prefers entry again C)
    (hagain : p.Prefers again next (Choice.AnyRounds greedy R C)) :
    p.Prefers pc next (Choice.AnyRounds greedy R C) where
  join {before first rest after _ restMarks steps} hrounds hrest := by
    generalize htext : rest ++ after = text at hrounds
    cases hrounds with
    | done hnot =>
      subst htext
      exact ⟨steps + 1, by
        simpa using FirstRun.branch_done hinst (fun h => (hR.trans hloop).dead (hnot h))
          (by simpa using hrest)⟩
    | more hnot hfirst hsecond =>
      subst htext
      rw [← hloop.goesOn_eq, ← List.append_assoc] at hfirst
      obtain ⟨more, hrun⟩ := hagain.join hsecond (by rwa [List.append_assoc])
      obtain ⟨more', hentry⟩ := hC.join hfirst hrun
      rw [← List.append_assoc, List.append_assoc restMarks] at hentry
      refine ⟨more' + 1, hentry.branch_more hinst fun h => ?_⟩
      simpa [GoesOn] using hnot h

/-- A group, between the marks of where it starts and where it ends. -/
theorem group {i opened closing : Nat}
    (hopen : p.Prefers pc opened fun _ before piece _ marks =>
      piece = [] ∧ marks = [(2 * i, before.length)])
    (hbody : p.Prefers opened closing C)
    (hclose : p.insts[closing]? = some (.mark (2 * i + 1) next)) :
    p.Prefers pc next fun onward before piece after marks => ∃ inner,
      C onward before piece after inner ∧
        marks =
          (2 * i + 1, before.length + piece.length) :: (inner ++ [(2 * i, before.length)]) where
  join {before first rest after _ restMarks steps} h hrest := by
    obtain ⟨inner, hinner, rfl⟩ := h
    have hgoes : p.GoesOn closing = p.GoesOn next := by
      rw [(Leads.mark hclose).goesOn_eq]
      funext front back
      refine propext ⟨?_, fun h => ⟨[], back, _, rfl, ⟨rfl, rfl⟩, by simpa using h⟩⟩
      rintro ⟨_, after, _, rfl, ⟨rfl, rfl⟩, h⟩
      simpa using h
    have hmarked := FirstRun.mark hclose hrest
    obtain ⟨more, hrun⟩ := hbody.join (by rwa [hgoes]) hmarked
    rw [← List.append_nil before] at hrun
    obtain ⟨more', hentry⟩ := hopen.join ⟨rfl, rfl⟩ hrun
    exact ⟨more', by simpa using hentry⟩

end Prefers

/-- A way to lay down instructions whose first run goes over what is chosen. -/
structure LaysChoice (R : Passage) (C : Choice) (fragment : Nat → Code → Nat × Code) : Prop
    extends Lays R fragment where
  prefers : ∀ {p : Program} {next : Nat} {code : Code}, p.Holds code.size (fragment next code).2 →
    p.Prefers (fragment next code).1 next C

namespace LaysChoice

variable {f g : Nat → Code → Nat × Code}

/-- Laying down no instructions chooses the empty piece. -/
theorem nothing : LaysChoice .nothing (fun _ => .nothing) fun next code => (next, code) :=
  ⟨.nothing, fun _ => .refl _⟩

/-- Code that is laid down before other code chooses first. -/
theorem followedBy (hf : LaysChoice R C f) (hg : LaysChoice S D g) :
    LaysChoice (R.followedBy S) (C.followedBy S D)
      fun next code => f (g next code).1 (g next code).2 where
  toLays := hf.toLays.followedBy hg.toLays
  prefers {p next code} h := by
    have hlater := h.of_extends (hf.kept _ _)
    exact (hf.prefers (h.mono (hg.kept next code).size)).trans (hg.leads hlater)
      (hg.prefers hlater)

/-- An instruction that reads a set chooses the character. -/
theorem read (s : CharSet) : LaysChoice (Regex.set s).Matches (fun _ => (Regex.set s).Matches)
    fun next code => (code.size, code.push (.read s next)) :=
  ⟨.read s, fun h => .read (h.pushed (Nat.le_refl _))⟩

/-- A way without choice, given by what it matches. -/
theorem congr {R' : Passage} {C' : Choice} (h : LaysChoice R C f) (hR : Lays R' f)
    (hC : ∀ {onward before piece after marks}, C' onward before piece after marks →
      C onward before piece after marks) : LaysChoice R' C' f :=
  ⟨hR, fun hholds => ⟨fun hchosen hrest => (h.prefers hholds).join (hC hchosen) hrest⟩⟩

/-- Instructions that read given characters choose the text of these characters. -/
theorem layChars (cs : List Char) : LaysChoice (Regex.chars cs).Matches
    (fun _ => (Regex.chars cs).Matches) (Program.layChars cs) := by
  induction cs with
  | nil => exact nothing
  | cons c cs ih =>
    refine ((read (.single c)).followedBy ih).congr (Lays.layChars (c :: cs)) ?_
    rintro onward before _ after _ ⟨rfl, rfl⟩
    exact ⟨[c], cs, [], [], rfl, rfl, ⟨c, by simp [CharSet.mem_single], rfl, rfl⟩, rfl, rfl⟩

/-- Code that is laid down a number of times chooses as many rounds. -/
theorem copies (hf : LaysChoice R C f) (count : Nat) :
    LaysChoice (R.rounds count) (Choice.rounds R C count) (Program.copies f count) := by
  induction count with
  | zero => exact nothing
  | succ count ih => exact hf.followedBy ih

/-- Code that is laid down behind as many branches chooses at most as many rounds, in the order
of greed. -/
theorem options (greedy : Bool) (hf : LaysChoice R C f) (limit : Nat) :
    LaysChoice (R.fewRounds limit) (Choice.fewRounds greedy R C limit)
      fun done code => Program.options greedy f done limit code := by
  induction limit with
  | zero => exact ⟨hf.toLays.options greedy 0, nothing.prefers⟩
  | succ limit ih =>
    refine ⟨hf.toLays.options greedy (limit + 1), fun {p done code} h => ?_⟩
    have hboth := hf.followedBy ih
    have hinner := h.of_extends (.push _ _)
    exact .optional (h.pushed (hboth.kept done code).size) (hboth.leads hinner)
      (hboth.prefers hinner)

end LaysChoice

/-- The instructions of a loop prefer what its rounds choose. -/
theorem loop_prefers {f : Nat → Code → Nat × Code} {greedy : Bool} {code : Code}
    (hf : LaysChoice R C f) (h : p.Holds code.size (Program.loop greedy f next code).2.2) :
    p.Prefers (Program.loop greedy f next code).2.1 next (Choice.AnyRounds greedy R C) ∧
      p.Prefers (Program.loop greedy f next code).1 (Program.loop greedy f next code).2.1 C := by
  obtain ⟨hinst, hholds⟩ := loop_holds hf.toLays h
  have hbody : p.Prefers (Program.loop greedy f next code).1 code.size C := hf.prefers hholds
  exact ⟨.loop hinst (hf.leads hholds) hbody, hbody⟩

/-- A repetition with a bound: the rounds that it must take, then optional ones. -/
theorem LaysChoice.bounded {body : Regex}
    (hbody : LaysChoice body.Matches body.Chooses (lay body)) (greedy : Bool) (min max : Nat) :
    LaysChoice (Regex.rep greedy min (some max) body).Matches
      (Regex.rep greedy min (some max) body).Chooses
      (lay (.rep greedy min (some max) body)) := by
  refine ⟨hbody.toLays.bounded greedy min max, fun {p next code} h => ?_⟩
  rw [lay] at h ⊢
  exact ((hbody.copies min).followedBy (hbody.options greedy (max - min))).prefers h

/-- A repetition without a bound that need not take a round. -/
theorem LaysChoice.unbounded {body : Regex}
    (hbody : LaysChoice body.Matches body.Chooses (lay body)) (greedy : Bool) :
    LaysChoice (Regex.rep greedy 0 none body).Matches (Regex.rep greedy 0 none body).Chooses
      (lay (.rep greedy 0 none body)) := by
  refine ⟨hbody.toLays.unbounded greedy, fun {p next code} h => ?_⟩
  rw [lay_rep_zero] at h ⊢
  cases hnullable : body.nullable with
  | true =>
    simp only [hnullable, if_true] at h ⊢
    have hinner := h.of_extends (.push _ _)
    have hinst := h.pushed (loop_kept greedy hbody.toLays next code).size
    obtain ⟨hloop, hentry⟩ := loop_leads hbody.toLays hinner
    obtain ⟨hchoose, hfirst⟩ := loop_prefers hbody hinner
    exact .loop_entered hinst hentry hloop hfirst hchoose
  | false =>
    simp only [hnullable, Bool.false_eq_true, if_false] at h ⊢
    exact (loop_prefers hbody h).1

/-- A repetition without a bound that must take a round. -/
theorem LaysChoice.unboundedSucc {body : Regex}
    (hbody : LaysChoice body.Matches body.Chooses (lay body)) (greedy : Bool) (min : Nat) :
    LaysChoice (Regex.rep greedy (min + 1) none body).Matches
      (Regex.rep greedy (min + 1) none body).Chooses (lay (.rep greedy (min + 1) none body)) := by
  refine ⟨hbody.toLays.unboundedSucc greedy min, fun {p next code} h => ?_⟩
  have hcopies := hbody.copies min
  rw [lay] at h ⊢
  have hlooped := h.of_extends (hcopies.kept _ _)
  obtain ⟨hloop, hentry⟩ := loop_leads hbody.toLays hlooped
  obtain ⟨hchoose, hfirst⟩ := loop_prefers hbody hlooped
  have hrest := h.mono (loop_kept greedy hbody.toLays next code).size
  exact (hcopies.prefers hrest).trans (hentry.trans hloop) (hfirst.trans hloop hchoose)

/-- The first run over the instructions of an expression goes over what the expression chooses. -/
theorem lay_laysChoice (r : Regex) : LaysChoice r.Matches r.Chooses (lay r) := by
  induction r with
  | empty => exact .nothing
  | chars cs => exact .layChars cs
  | set s => exact .read s
  | look l => exact ⟨lay_lays (.look l), fun h => .look (h.pushed (Nat.le_refl _))⟩
  | seq a b iha ihb => exact iha.followedBy ihb
  | alt a b iha ihb =>
    refine ⟨lay_lays (.alt a b), fun {p next code} h => ?_⟩
    have hsecond := ihb.kept next code
    have hfirst := iha.kept next (lay b next code).2
    have hboth := h.of_extends (.push _ _)
    have hinst := h.pushed (hsecond.trans hfirst).size
    exact .orElse hinst (iha.leads (hboth.mono hsecond.size))
      (iha.prefers (hboth.mono hsecond.size)) (ihb.prefers (hboth.of_extends hfirst))
  | rep greedy min max body ih =>
    obtain _ | max := max
    · cases min with
      | zero => exact ih.unbounded greedy
      | succ min => exact ih.unboundedSucc greedy min
    · exact ih.bounded greedy min max
  | group i body ih =>
    refine ⟨lay_lays (.group i body), fun {p next code} h => ?_⟩
    have hstop := Extends.push code (.mark (2 * i + 1) next)
    have hbody := ih.kept code.size (code.push (.mark (2 * i + 1) next))
    have hinner := h.of_extends (.push _ _)
    have hopen := Prefers.mark (h.pushed (hstop.trans hbody).size)
    have hclose := (hinner.of_extends hbody).pushed (Nat.le_refl _)
    have hmiddle := ih.prefers (hinner.mono hstop.size)
    exact .group hopen hmiddle hclose

variable {r : Regex} {before piece after : List Char} {marks : List (Nat × Nat)}

/-- What an expression chooses at the leftmost place at which it matches is what a search finds. -/
theorem find?_eq_of_chooses (hchosen : r.Chooses (fun _ _ => True) before piece after marks)
    (hleftmost : ∀ m, (ofRegex r).Finds (before ++ (piece ++ after)) m → before.length ≤ m.start) :
    (ofRegex r).find? (before ++ (piece ++ after)) =
      some ⟨before.length, before.length + piece.length, marks⟩ := by
  have hlays := lay_laysChoice r
  have hholds : (ofRegex r).Holds 1 (lay r 0 #[.accept]).2 := fun i _ _ => rfl
  have haccept : (ofRegex r).insts[0]? = some .accept := (hlays.kept 0 #[.accept]).kept 0 (by simp)
  have hend : (ofRegex r).GoesOn 0 = fun _ _ => True := by
    funext front back
    exact eq_true fun hdead => hdead [] back [] 0 rfl (.accept haccept)
  have hprefers : (ofRegex r).Prefers (ofRegex r).start 0 r.Chooses := hlays.prefers hholds
  have hchosen' : r.Chooses ((ofRegex r).GoesOn 0) before piece ([] ++ after) marks := by
    rwa [hend]
  obtain ⟨steps, hrun⟩ := hprefers.join hchosen' (.accept haccept)
  exact find?_eq_of_firstRun (by simpa using hrun) hleftmost

end Program

/-! ## Choosing along an expression -/

section Rules

variable {onward : Onward} {before first rest piece after text : List Char}
  {marks firstMarks restMarks : List (Nat × Nat)} {r : Regex} {rs : List Regex} {s : CharSet}

/-- Behind the empty piece it goes on where it goes on anyway. -/
theorem canGoOn_nothing : Passage.nothing.CanGoOn onward = onward := by
  funext before text
  refine propext ⟨?_, fun h => ⟨[], text, [], rfl, ⟨rfl, rfl⟩, by simpa using h⟩⟩
  rintro ⟨_, after, _, rfl, ⟨rfl, -⟩, h⟩
  simpa using h

/-- A sequence chooses what its first part chooses, given that the others can go on, and then
what the others choose. -/
theorem chooses_concat_cons
    (hfirst : r.Chooses ((concat rs).Matches.CanGoOn onward) before first (rest ++ after)
      firstMarks)
    (hrest : (concat rs).Chooses onward (before ++ first) rest after restMarks) :
    (concat (r :: rs)).Chooses onward before (first ++ rest) after (restMarks ++ firstMarks) := by
  cases rs with
  | nil =>
    obtain ⟨rfl, rfl⟩ := hrest
    have hnothing : (concat []).Matches.CanGoOn onward = onward := canGoOn_nothing
    rw [hnothing] at hfirst
    simpa [concat] using hfirst
  | cons r' rs => exact ⟨first, rest, firstMarks, restMarks, rfl, rfl, hfirst, hrest⟩

/-- The only one of several ways that can go on is chosen. -/
theorem chooses_choice (hr : r ∈ rs) (hchosen : r.Chooses onward before piece after marks)
    (honly : ∀ r' ∈ rs, r'.Matches.CanGoOn onward before (piece ++ after) → r' = r) :
    (choice rs).Chooses onward before piece after marks := by
  induction rs with
  | nil => cases hr
  | cons r₁ rs ih =>
    cases rs with
    | nil =>
      cases List.mem_singleton.mp hr
      exact hchosen
    | cons r₂ rs =>
      by_cases hsame : r₁ = r
      · exact .inl (hsame ▸ hchosen)
      · have hlater : r ∈ r₂ :: rs := (List.mem_cons.mp hr).resolve_left (Ne.symm hsame)
        exact .inr ⟨fun hgoes => hsame (honly r₁ (by simp) hgoes),
          ih hlater fun r' hr' => honly r' (List.mem_cons_of_mem _ hr')⟩

/-- As many rounds as possible go on to the first character that is not in the set. -/
theorem chooses_star_set (hpiece : ∀ c ∈ piece, s.mem c = true)
    (hstop : after.head?.any s.mem = false) :
    (star (set s)).Chooses onward before piece after [] := by
  induction piece generalizing before with
  | nil =>
    refine .done fun _ => ?_
    rintro ⟨_, _, _, rfl, ⟨_, _, _, _, rfl, -, ⟨c, hc, rfl, -⟩, -⟩, -⟩
    simp [hc] at hstop
  | cons c piece ih =>
    obtain ⟨hc, hpiece⟩ := List.forall_mem_cons.mp hpiece
    have hround : (set s).Matches before [c] (piece ++ after) [] := ⟨c, hc, rfl, rfl⟩
    exact .more (by simp) hround (ih hpiece)

/-- As few rounds as possible go on to the first place from which what comes behind can go on. -/
theorem chooses_lazyStar_set (hpiece : ∀ c ∈ piece, s.mem c = true)
    (hstay : ∀ front back, piece = front ++ back → back ≠ [] →
      ¬ onward (before ++ front) (back ++ after)) :
    (lazyStar (set s)).Chooses onward before piece after [] := by
  induction piece generalizing before with
  | nil => exact .done (by simp)
  | cons c piece ih =>
    obtain ⟨hc, hpiece⟩ := List.forall_mem_cons.mp hpiece
    have hround : (set s).Matches before [c] (piece ++ after) [] := ⟨c, hc, rfl, rfl⟩
    refine .more (fun _ => ?_) hround (ih hpiece ?_)
    · simpa using hstay [] (c :: piece) rfl (by simp)
    · intro front back hsplit hback
      simpa using hstay (c :: front) back (by rw [hsplit]; rfl) hback

/-- Behind no rounds it goes on where it goes on anyway. -/
private theorem canGoOn_fewRounds_zero {R : Passage} : (R.fewRounds 0).CanGoOn onward = onward := by
  have hnothing : R.fewRounds 0 = .nothing := by
    funext before piece after marks
    refine propext ⟨?_, fun h => ⟨0, Nat.le_refl _, h⟩⟩
    rintro ⟨count, hcount, h⟩
    obtain rfl : count = 0 := by omega
    exact h
  rw [hnothing, canGoOn_nothing]

/-- An optional part is taken if it can. -/
theorem chooses_opt_one (h : r.Chooses onward before piece after marks) :
    (opt r).Chooses onward before piece after marks := by
  refine Passage.nothing_followedBy.mpr (.inl (Passage.followedBy_nothing.mpr ?_))
  rwa [canGoOn_fewRounds_zero]

/-- An optional part is left out if what comes behind cannot go on behind it. -/
theorem chooses_opt_none (h : ¬ r.Matches.CanGoOn onward before after) :
    (opt r).Chooses onward before [] after [] := by
  refine Passage.nothing_followedBy.mpr (.inr ⟨?_, rfl, rfl⟩)
  rintro ⟨_, rest, _, hafter, ⟨first, more, firstMarks, _, rfl, -, hfirst, count, hcount, hmore⟩,
    hgoes⟩
  obtain rfl : count = 0 := Nat.le_zero.mp hcount
  obtain ⟨rfl, -⟩ := hmore
  exact h ⟨first, rest, firstMarks, by simpa using hafter, by simpa using hfirst,
    by simpa using hgoes⟩

end Rules

end ArtifactPipeline.Regex
