import ArtifactPipeline.Proofs.ProgramRuns
import ArtifactPipeline.Regex.Search

/-!
# Threads

A thread is a run of the program that has been taken as far as some place. It is live if each run
that goes on from it is the end of a run of the whole program. Following choices, marks and
assertions keeps threads live and in the order of their starts. An instruction is followed for the
first thread that reaches it only; so if some thread can reach an instruction that reads or accepts,
a thread that started no later arrives there.
-/

namespace ArtifactPipeline.Regex

open Program

/-- Each run that goes on from the thread is the end of a run of the program from where the thread
started. -/
structure Thread.Live (p : Program) (before rest : List Char) (t : Thread) : Prop where
  start_le : t.start ≤ before.length
  whole : ∀ {piece after marks steps}, rest = piece ++ after →
    p.Runs t.pc before piece after marks steps → ∃ more, p.Runs p.start (before.take t.start)
      (before.drop t.start ++ piece) after (marks ++ t.marks) more

/-- The threads are in the order of their starts. -/
abbrev InOrder (threads : List Thread) : Prop := threads.Pairwise (·.start ≤ ·.start)

namespace Program

variable {p : Program} {before rest : List Char} {previous next : Option Char}
  {threads : List Thread} {t : Thread} {seen : List Nat} {x y pc place : Nat}

/-- A thread that begins at a place is live there. -/
theorem live_start (p : Program) (before rest : List Char) :
    Thread.Live p before rest { pc := p.start, start := before.length } where
  start_le := Nat.le_refl _
  whole {_ _ _ steps} _ hrun := ⟨steps, by simpa using hrun⟩

/-- A thread stays live when it follows an instruction that reads nothing. -/
theorem live_of_follow {t' : Thread} (h : t.Live p before rest) (hstart : t'.start = t.start)
    (hfollow : ∀ {piece after marks steps}, rest = piece ++ after →
      p.Runs t'.pc before piece after marks steps → ∃ marks' more,
        p.Runs t.pc before piece after marks' more ∧ marks' ++ t.marks = marks ++ t'.marks) :
    t'.Live p before rest where
  start_le := hstart ▸ h.start_le
  whole hrest hrun := by
    obtain ⟨marks', more, hrun', hmarks⟩ := hfollow hrest hrun
    obtain ⟨more', hwhole⟩ := h.whole hrest hrun'
    exact ⟨more', by rwa [hstart, ← hmarks]⟩

/-- A thread stays live when it reads a character. -/
theorem live_advance {c : Char} {t' : Thread} (h : t.Live p before (c :: rest))
    (hadvance : p.advance c t = some t') : t'.Live p (before ++ [c]) rest ∧ t'.start = t.start := by
  unfold advance at hadvance
  split at hadvance
  · next s next hinst =>
    split at hadvance
    · next hmem =>
      cases hadvance
      refine ⟨⟨by simpa using Nat.le_succ_of_le h.start_le, ?_⟩, rfl⟩
      intro piece after marks steps hrest hrun
      obtain ⟨more, hwhole⟩ := h.whole (by rw [hrest]; rfl) (.read hinst hmem hrun)
      refine ⟨more, ?_⟩
      rw [List.take_append_of_le_length h.start_le, List.drop_append_of_le_length h.start_le,
        List.append_assoc]
      exact hwhole
    · cases hadvance
  · cases hadvance

/-- A live thread that accepts has run over the whole of a match. -/
theorem runs_of_accepts (h : t.Live p before rest) (haccepts : p.accepts t = true) :
    ∃ steps, p.Runs p.start (before.take t.start) (before.drop t.start) rest t.marks steps := by
  have hinst : p.insts[t.pc]? = some .accept := by simpa [accepts] using haccepts
  have hend : p.Runs t.pc before [] rest [] 0 := .accept hinst
  obtain ⟨steps, hrun⟩ := h.whole rfl hend
  exact ⟨steps, by simpa using hrun⟩

/-- The threads that have come to read or to accept are live. -/
theorem ready_live (hthreads : ∀ t ∈ threads, t.Live p before rest) :
    ∀ t ∈ p.ready before.getLast? rest.head? before.length threads seen, t.Live p before rest := by
  generalize hprevious : before.getLast? = previous, hnext : rest.head? = next,
    hplace : before.length = place
  fun_induction p.ready previous next place threads seen with
  | case1 => simp
  | case2 seen t threads hseen ih => exact ih fun t' ht' => hthreads t' (by simp [ht'])
  | case3 seen t threads hseen hinst ih => exact ih fun t' ht' => hthreads t' (by simp [ht'])
  | case4 seen t threads hseen s pc hinst ih =>
    have hrest := ih fun t' ht' => hthreads t' (by simp [ht'])
    simpa using ⟨hthreads t (by simp), hrest⟩
  | case5 seen t threads hseen hinst ih =>
    have hrest := ih fun t' ht' => hthreads t' (by simp [ht'])
    simpa using ⟨hthreads t (by simp), hrest⟩
  | case6 seen t threads hseen l pc hinst hholds ih =>
    have hfollow : Thread.Live p before rest { t with pc } := by
      refine live_of_follow (hthreads t (by simp)) rfl fun hrest hrun => ?_
      subst hprevious hnext
      exact ⟨_, _, .look hinst (hrest ▸ hholds) hrun, rfl⟩
    exact ih (by simpa [hfollow] using fun t' ht' => hthreads t' (by simp [ht']))
  | case7 seen t threads hseen l pc hinst hholds ih =>
    exact ih fun t' ht' => hthreads t' (by simp [ht'])
  | case8 seen t threads hseen slot pc hinst ih =>
    have hfollow : Thread.Live p before rest
        { t with pc, marks := (slot, place) :: t.marks } := by
      refine live_of_follow (hthreads t (by simp)) rfl fun hrest hrun => ?_
      exact ⟨_, _, .mark hinst hrun, by simp [hplace]⟩
    exact ih (by simpa [hfollow] using fun t' ht' => hthreads t' (by simp [ht']))
  | case9 seen t threads hseen first second hinst ih =>
    have hfirst : Thread.Live p before rest { t with pc := first } :=
      live_of_follow (hthreads t (by simp)) rfl fun hrest hrun => ⟨_, _, .first hinst hrun, rfl⟩
    have hsecond : Thread.Live p before rest { t with pc := second } :=
      live_of_follow (hthreads t (by simp)) rfl fun hrest hrun => ⟨_, _, .second hinst hrun, rfl⟩
    exact ih (by simpa [hfirst, hsecond] using fun t' ht' => hthreads t' (by simp [ht']))

/-- Each thread that has come to read or to accept has gone on from one of the given threads. -/
theorem ready_starts : ∀ t ∈ p.ready previous next place threads seen,
    ∃ t' ∈ threads, t'.start = t.start := by
  fun_induction p.ready previous next place threads seen with
  | case1 => simp
  | case2 seen t threads hseen ih | case3 seen t threads hseen hinst ih
  | case7 seen t threads hseen l pc hinst hholds ih =>
    intro u hu
    obtain ⟨t', ht', hstart⟩ := ih u hu
    exact ⟨t', by simp [ht'], hstart⟩
  | case4 seen t threads hseen s pc hinst ih | case5 seen t threads hseen hinst ih =>
    intro u hu
    rcases List.mem_cons.mp hu with rfl | hu
    · exact ⟨u, by simp, rfl⟩
    · obtain ⟨t', ht', hstart⟩ := ih u hu
      exact ⟨t', by simp [ht'], hstart⟩
  | case6 seen t threads hseen l pc hinst hholds ih
  | case8 seen t threads hseen slot pc hinst ih | case9 seen t threads hseen _ _ hinst ih =>
    intro u hu
    obtain ⟨t', ht', hstart⟩ := ih u hu
    grind

/-- Threads that are in the order of their starts are made ready in that order. -/
theorem ready_inOrder (horder : InOrder threads) :
    InOrder (p.ready previous next place threads seen) := by
  fun_induction p.ready previous next place threads seen with
  | case1 => exact .nil
  | case2 seen t threads hseen ih | case3 seen t threads hseen hinst ih
  | case7 seen t threads hseen l pc hinst hholds ih => exact ih horder.tail
  | case4 seen t threads hseen s pc hinst ih | case5 seen t threads hseen hinst ih =>
    refine List.pairwise_cons.mpr ⟨fun u hu => ?_, ih horder.tail⟩
    obtain ⟨t', ht', hstart⟩ := ready_starts u hu
    exact hstart ▸ List.rel_of_pairwise_cons horder ht'
  | case6 seen t threads hseen l pc hinst hholds ih
  | case8 seen t threads hseen slot pc hinst ih =>
    exact ih (List.pairwise_cons.mpr (List.pairwise_cons.mp horder))
  | case9 seen t threads hseen first second hinst ih =>
    have hrest := List.pairwise_cons.mp horder
    refine ih (List.pairwise_cons.mpr ⟨?_, List.pairwise_cons.mpr hrest⟩)
    simpa using hrest.1

/-- The first thread of an ordered list started no later than the others. -/
theorem start_le_of_mem {t' : Thread} (horder : InOrder (t :: threads)) (h : t' ∈ t :: threads) :
    t.start ≤ t'.start := by
  rcases List.mem_cons.mp h with rfl | h
  · exact Nat.le_refl _
  · exact List.rel_of_pairwise_cons horder h

/-! ## Which instructions are reached -/

/-- An instruction that reads nothing leads on to another one between two characters. -/
inductive Follows (p : Program) (previous next : Option Char) : Nat → Nat → Prop
  | look {x y : Nat} {l : Look} : p.insts[x]? = some (.look l y) → l.holds previous next = true →
    Follows p previous next x y
  | mark {x y slot : Nat} : p.insts[x]? = some (.mark slot y) → Follows p previous next x y
  | first {x y second : Nat} : p.insts[x]? = some (.fork y second) → Follows p previous next x y
  | second {x y first : Nat} : p.insts[x]? = some (.fork first y) → Follows p previous next x y

/-- The instruction reads a character or accepts. -/
def Stops (p : Program) (pc : Nat) : Prop :=
  p.insts[pc]? = some .accept ∨ ∃ s next, p.insts[pc]? = some (.read s next)

/-- Instructions that read nothing lead from one instruction to another, without those that have
been seen. -/
inductive Reaches (p : Program) (previous next : Option Char) (seen : List Nat) : Nat → Nat → Prop
  | here {x : Nat} : x ∉ seen → Reaches p previous next seen x x
  | follow {x y z : Nat} : x ∉ seen → p.Follows previous next x z →
    Reaches p previous next seen z y → Reaches p previous next seen x y

/-- An instruction that reads or accepts is not followed any further. -/
theorem not_follows_of_stops (h : p.Stops x) : ¬ p.Follows previous next x y := by
  rintro (hinst | hinst | hinst | hinst) <;> simp [Stops, hinst] at h

/-- A way begins at an instruction that has not been seen yet. -/
theorem Reaches.not_seen (h : p.Reaches previous next seen x y) : x ∉ seen := by
  cases h with
  | here hseen | follow hseen => exact hseen

/-- A way that may lead over an instruction does not, or it ends there, or its last part goes on
from there. -/
theorem Reaches.avoid (h : p.Reaches previous next seen x y) (pc : Nat) :
    p.Reaches previous next (pc :: seen) x y ∨ pc = y ∨
      ∃ z, p.Follows previous next pc z ∧ p.Reaches previous next (pc :: seen) z y := by
  induction h with
  | @here x hseen =>
    by_cases hx : pc = x
    · exact Or.inr (Or.inl hx)
    · exact Or.inl (.here (by simp [hseen, Ne.symm hx]))
  | @follow x y z hseen hfollow hrest ih =>
    rcases ih with havoid | hend | hlast
    · by_cases hx : pc = x
      · exact Or.inr (Or.inr ⟨z, hx ▸ hfollow, havoid⟩)
      · exact Or.inl (.follow (by simp [hseen, Ne.symm hx]) hfollow havoid)
    · exact Or.inr (Or.inl hend)
    · exact Or.inr (Or.inr hlast)

/-- What some thread of a list reaches is reached by a later thread without the instruction of the
first one, or it is that instruction, or it is reached from there. -/
theorem reaches_cons {t' : Thread} (ht' : t' ∈ t :: threads)
    (h : p.Reaches previous next seen t'.pc y) :
    (t' ∈ threads ∧ p.Reaches previous next (t.pc :: seen) t'.pc y) ∨ t.pc = y ∨
      ∃ z, p.Follows previous next t.pc z ∧ p.Reaches previous next (t.pc :: seen) z y := by
  rcases h.avoid t.pc with havoid | hend | hlast
  · rcases List.mem_cons.mp ht' with rfl | hmem
    · exact absurd (List.mem_cons_self ..) havoid.not_seen
    · exact Or.inl ⟨hmem, havoid⟩
  · exact Or.inr (Or.inl hend)
  · exact Or.inr (Or.inr hlast)

/-- An instruction is replaced by those that it leads to, `heads`. If the threads that arrive from
there are enough for what can be reached from there, they are enough for what could be reached
before. -/
theorem arrives_of_follow (heads : List Thread) {arrived : List Thread} {t' : Thread}
    (horder : InOrder (t :: threads)) (ht' : t' ∈ t :: threads) (hy : p.Stops y)
    (hreach : p.Reaches previous next seen t'.pc y) (hstops : ¬ p.Stops t.pc)
    (hstarts : ∀ u ∈ heads, u.start = t.start)
    (hheads : ∀ z, p.Follows previous next t.pc z → ∃ u ∈ heads, u.pc = z)
    (harrived : ∀ {u}, InOrder (heads ++ threads) → u ∈ heads ++ threads →
      p.Reaches previous next (t.pc :: seen) u.pc y →
      ∃ a ∈ arrived, a.pc = y ∧ a.start ≤ u.start) :
    ∃ a ∈ arrived, a.pc = y ∧ a.start ≤ t'.start := by
  have horder' : InOrder (heads ++ threads) := by
    refine List.pairwise_append.mpr ⟨?_, horder.tail, fun u hu v hv => ?_⟩
    · refine List.pairwise_of_forall_mem_list fun u hu v hv => ?_
      exact Nat.le_of_eq ((hstarts u hu).trans (hstarts v hv).symm)
    · rw [hstarts u hu]
      exact List.rel_of_pairwise_cons horder hv
  rcases reaches_cons ht' hreach with ⟨hmem, hrest⟩ | rfl | ⟨z, hfollow, hrest⟩
  · exact harrived horder' (by simp [hmem]) hrest
  · exact absurd hy hstops
  · obtain ⟨u, hu, rfl⟩ := hheads z hfollow
    obtain ⟨a, ha, hpc, hle⟩ := harrived horder' (by simp [hu]) hrest
    rw [hstarts u hu] at hle
    exact ⟨a, ha, hpc, Nat.le_trans hle (start_le_of_mem horder ht')⟩

/-- If some thread can reach an instruction that reads or accepts, a thread that started no later
arrives there. -/
theorem ready_complete (horder : InOrder threads) (ht : t ∈ threads) (hy : p.Stops y)
    (hreach : p.Reaches previous next seen t.pc y) :
    ∃ t' ∈ p.ready previous next place threads seen, t'.pc = y ∧ t'.start ≤ t.start := by
  fun_induction p.ready previous next place threads seen generalizing t with
  | case1 => cases ht
  | case2 seen u threads hseen ih =>
    rcases List.mem_cons.mp ht with rfl | ht
    · exact absurd (by simpa using hseen) hreach.not_seen
    · exact ih horder.tail ht hreach
  | case3 seen u threads hseen hinst ih =>
    rcases List.mem_cons.mp ht with rfl | ht
    · cases hreach with
      | here => simp [Stops, hinst] at hy
      | follow _ hfollow => rcases hfollow with h | h | h | h <;> cases hinst.symm.trans h
    · exact ih horder.tail ht hreach
  | case4 seen u threads hseen s pc hinst ih | case5 seen u threads hseen hinst ih =>
    have hstops : p.Stops u.pc := by simp [Stops, hinst]
    rcases reaches_cons ht hreach with ⟨ht, hrest⟩ | rfl | ⟨z, hfollow, -⟩
    · obtain ⟨t', ht', hpc, hle⟩ := ih horder.tail ht hrest
      exact ⟨t', by simp [ht'], hpc, hle⟩
    · exact ⟨u, by simp, rfl, start_le_of_mem horder ht⟩
    · exact absurd hfollow (not_follows_of_stops hstops)
  | case6 seen u threads hseen l pc hinst hholds ih =>
    refine arrives_of_follow [{ u with pc }] horder ht hy hreach (by simp [Stops, hinst])
      (by simp) (fun z hfollow => ?_) ih
    rcases hfollow with h | h | h | h <;> cases hinst.symm.trans h
    simp
  | case7 seen u threads hseen l pc hinst hholds ih =>
    refine arrives_of_follow [] horder ht hy hreach (by simp [Stops, hinst]) (by simp)
      (fun z hfollow => ?_) ih
    rcases hfollow with h | h | h | h <;> cases hinst.symm.trans h
    contradiction
  | case8 seen u threads hseen slot pc hinst ih =>
    refine arrives_of_follow [{ u with pc, marks := (slot, place) :: u.marks }] horder ht
      hy hreach (by simp [Stops, hinst]) (by simp) (fun z hfollow => ?_) ih
    rcases hfollow with h | h | h | h <;> cases hinst.symm.trans h
    simp
  | case9 seen u threads hseen first second hinst ih =>
    refine arrives_of_follow [{ u with pc := first }, { u with pc := second }] horder ht
      hy hreach (by simp [Stops, hinst]) (by simp) (fun z hfollow => ?_) ih
    rcases hfollow with h | h | h | h <;> cases hinst.symm.trans h <;> simp

/-- A run goes on without reading to an instruction that accepts or reads its next character. -/
theorem Runs.reaches {piece after : List Char} {marks : List (Nat × Nat)} {steps : Nat}
    (h : p.Runs pc before piece after marks steps) :
    ∃ y, p.Reaches before.getLast? (piece ++ after).head? [] pc y ∧
      ((p.insts[y]? = some .accept ∧ piece = []) ∨
        ∃ c s pc' piece' marks' steps', piece = c :: piece' ∧ p.insts[y]? = some (.read s pc') ∧
          s.mem c = true ∧ p.Runs pc' (before ++ [c]) piece' after marks' steps') := by
  induction h with
  | accept hinst => exact ⟨_, .here (by simp), Or.inl ⟨hinst, rfl⟩⟩
  | read hinst hmem hrest =>
    exact ⟨_, .here (by simp), Or.inr ⟨_, _, _, _, _, _, rfl, hinst, hmem, hrest⟩⟩
  | look hinst hholds _ ih =>
    obtain ⟨y, hreach, hy⟩ := ih
    exact ⟨y, .follow (by simp) (.look hinst hholds) hreach, hy⟩
  | mark hinst _ ih =>
    obtain ⟨y, hreach, hy⟩ := ih
    exact ⟨y, .follow (by simp) (.mark hinst) hreach, hy⟩
  | first hinst _ ih =>
    obtain ⟨y, hreach, hy⟩ := ih
    exact ⟨y, .follow (by simp) (.first hinst) hreach, hy⟩
  | second hinst _ ih =>
    obtain ⟨y, hreach, hy⟩ := ih
    exact ⟨y, .follow (by simp) (.second hinst) hreach, hy⟩

end Program

end ArtifactPipeline.Regex
