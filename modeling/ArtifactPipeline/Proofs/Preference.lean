import ArtifactPipeline.Proofs.Searching

/-!
# Which match is preferred

A run that tries the first continuation of each choice, and the second one only if no run to the end
goes on from the first, is the run that backtracking would find. A search keeps the threads in the
order of preference, so it finds this run at the leftmost place where there is a match: whatever is
preferred to it leads nowhere, and whatever is not preferred is cut off when it ends.
-/

namespace ArtifactPipeline.Regex.Program

variable {p : Program} {before rest piece after : List Char} {marks : List (Nat × Nat)}
  {steps x y : Nat}

/-- No run to the end goes on from the instruction at the place. -/
def Dead (p : Program) (before rest : List Char) (pc : Nat) : Prop :=
  ∀ piece after marks steps, rest = piece ++ after → ¬ p.Runs pc before piece after marks steps

/-- The run that takes the first continuation of each choice from which some run goes on to the end,
with the number of its steps. -/
inductive FirstRun (p : Program) :
    Nat → List Char → List Char → List Char → List (Nat × Nat) → Nat → Prop
  | accept {pc : Nat} {before after : List Char} : p.insts[pc]? = some .accept →
    FirstRun p pc before [] after [] 0
  | read {pc next : Nat} {s : CharSet} {c : Char} {before piece after : List Char}
    {marks : List (Nat × Nat)} {steps : Nat} : p.insts[pc]? = some (.read s next) →
    s.mem c = true → FirstRun p next (before ++ [c]) piece after marks steps →
    FirstRun p pc before (c :: piece) after marks (steps + 1)
  | look {pc next : Nat} {l : Look} {before piece after : List Char}
    {marks : List (Nat × Nat)} {steps : Nat} : p.insts[pc]? = some (.look l next) →
    l.holds before.getLast? (piece ++ after).head? = true →
    FirstRun p next before piece after marks steps →
    FirstRun p pc before piece after marks (steps + 1)
  | mark {pc next slot : Nat} {before piece after : List Char} {marks : List (Nat × Nat)}
    {steps : Nat} : p.insts[pc]? = some (.mark slot next) →
    FirstRun p next before piece after marks steps →
    FirstRun p pc before piece after (marks ++ [(slot, before.length)]) (steps + 1)
  | first {pc first second : Nat} {before piece after : List Char} {marks : List (Nat × Nat)}
    {steps : Nat} : p.insts[pc]? = some (.fork first second) →
    FirstRun p first before piece after marks steps →
    FirstRun p pc before piece after marks (steps + 1)
  | second {pc first second : Nat} {before piece after : List Char} {marks : List (Nat × Nat)}
    {steps : Nat} : p.insts[pc]? = some (.fork first second) →
    p.Dead before (piece ++ after) first → FirstRun p second before piece after marks steps →
    FirstRun p pc before piece after marks (steps + 1)

/-- The preferred run is a run. -/
theorem FirstRun.runs (h : p.FirstRun x before piece after marks steps) :
    p.Runs x before piece after marks steps := by
  induction h with
  | accept hinst => exact .accept hinst
  | read hinst hmem _ ih => exact .read hinst hmem ih
  | look hinst hholds _ ih => exact .look hinst hholds ih
  | mark hinst _ ih => exact .mark hinst ih
  | first hinst _ ih => exact .first hinst ih
  | second hinst _ _ ih => exact .second hinst ih

/-- The instruction at which a preferred run begins does lead to the end. -/
theorem FirstRun.not_dead (h : p.FirstRun x before piece after marks steps) :
    ¬ p.Dead before (piece ++ after) x := fun hdead => hdead _ _ _ _ rfl h.runs

/-- At each instruction the run has no choice, so there is one such run at most. -/
theorem FirstRun.steps_eq {piece' after' : List Char} {marks' : List (Nat × Nat)} {steps' : Nat}
    (h : p.FirstRun x before piece after marks steps)
    (h' : p.FirstRun x before piece' after' marks' steps')
    (htext : piece ++ after = piece' ++ after') : steps = steps' := by
  induction h generalizing piece' marks' steps' with
  | accept hinst => cases h' with
    | accept => rfl
    | read hinst' | look hinst' | mark hinst' | first hinst' | second hinst' =>
      cases hinst.symm.trans hinst'
  | read hinst hmem _ ih => cases h' with
    | read hinst' _ hrest =>
      cases hinst.symm.trans hinst'
      obtain ⟨hhead, htail⟩ := List.cons.inj htext
      rw [ih (hhead ▸ hrest) htail]
    | accept hinst' | look hinst' | mark hinst' | first hinst' | second hinst' =>
      cases hinst.symm.trans hinst'
  | look hinst _ _ ih => cases h' with
    | look hinst' _ hrest =>
      cases hinst.symm.trans hinst'
      rw [ih hrest htext]
    | accept hinst' | read hinst' | mark hinst' | first hinst' | second hinst' =>
      cases hinst.symm.trans hinst'
  | mark hinst _ ih => cases h' with
    | mark hinst' hrest =>
      cases hinst.symm.trans hinst'
      rw [ih hrest htext]
    | accept hinst' | read hinst' | look hinst' | first hinst' | second hinst' =>
      cases hinst.symm.trans hinst'
  | first hinst hfirst ih => cases h' with
    | first hinst' hrest =>
      cases hinst.symm.trans hinst'
      rw [ih hrest htext]
    | second hinst' hdead _ =>
      cases hinst.symm.trans hinst'
      exact absurd (htext ▸ hdead) hfirst.not_dead
    | accept hinst' | read hinst' | look hinst' | mark hinst' => cases hinst.symm.trans hinst'
  | second hinst hdead _ ih => cases h' with
    | first hinst' hfirst =>
      cases hinst.symm.trans hinst'
      exact absurd (htext ▸ hdead) hfirst.not_dead
    | second hinst' _ hrest =>
      cases hinst.symm.trans hinst'
      rw [ih hrest htext]
    | accept hinst' | read hinst' | look hinst' | mark hinst' => cases hinst.symm.trans hinst'

/-! ## Following one thread -/

section Equations

variable {t : Thread} {threads : List Thread} {seen : List Nat} {previous next : Option Char}
  {place pc first second slot : Nat} {l : Look}

/-- A thread at an instruction that was seen before is dropped. -/
theorem ready_seen (h : t.pc ∈ seen) :
    p.ready previous next place (t :: threads) seen =
      p.ready previous next place threads seen := by
  rw [ready, dif_pos (List.contains_iff_mem.mpr h)]

/-- A thread that has run off the program is dropped. -/
theorem ready_none (h : t.pc ∉ seen) (hinst : p.insts[t.pc]? = none) :
    p.ready previous next place (t :: threads) seen =
      p.ready previous next place threads seen := by
  rw [ready, dif_neg (by simpa using h)]
  split <;> simp_all

/-- A thread that is about to read or to accept stays. -/
theorem ready_stops (h : t.pc ∉ seen) (hstops : p.Stops t.pc) :
    p.ready previous next place (t :: threads) seen =
      t :: p.ready previous next place threads (t.pc :: seen) := by
  rw [ready, dif_neg (by simpa using h)]
  rcases hstops with hinst | ⟨s, next, hinst⟩
  · split <;> simp_all
  · split <;> simp_all

/-- A thread goes on past a condition that holds at this place. -/
theorem ready_look (h : t.pc ∉ seen) (hinst : p.insts[t.pc]? = some (.look l pc))
    (hholds : l.holds previous next = true) :
    p.ready previous next place (t :: threads) seen =
      p.ready previous next place ({ t with pc } :: threads) (t.pc :: seen) := by
  rw [ready, dif_neg (by simpa using h)]
  split <;> simp_all

/-- A thread is dropped at a condition that does not hold at this place. -/
theorem ready_look_of_not (h : t.pc ∉ seen) (hinst : p.insts[t.pc]? = some (.look l pc))
    (hholds : ¬ l.holds previous next = true) :
    p.ready previous next place (t :: threads) seen =
      p.ready previous next place threads (t.pc :: seen) := by
  rw [ready, dif_neg (by simpa using h)]
  split <;> simp_all

/-- A thread goes on past a mark and keeps the place in mind. -/
theorem ready_mark (h : t.pc ∉ seen) (hinst : p.insts[t.pc]? = some (.mark slot pc)) :
    p.ready previous next place (t :: threads) seen =
      p.ready previous next place ({ t with pc, marks := (slot, place) :: t.marks } :: threads)
        (t.pc :: seen) := by
  rw [ready, dif_neg (by simpa using h)]
  split <;> simp_all

/-- A thread at a choice becomes two, the preferred one in front. -/
theorem ready_fork (h : t.pc ∉ seen) (hinst : p.insts[t.pc]? = some (.fork first second)) :
    p.ready previous next place (t :: threads) seen =
      p.ready previous next place ({ t with pc := first } :: { t with pc := second } :: threads)
        (t.pc :: seen) := by
  rw [ready, dif_neg (by simpa using h)]
  split <;> simp_all

end Equations

/-! ## Threads that lead nowhere -/

/-- What leads nowhere leads nowhere further on either. -/
theorem Dead.of_follows (h : p.Dead before rest x)
    (hfollow : p.Follows before.getLast? rest.head? x y) : p.Dead before rest y := by
  rintro piece after marks steps rfl hrun
  cases hfollow with
  | look hinst hholds => exact h _ _ _ _ rfl (.look hinst hholds hrun)
  | mark hinst => exact h _ _ _ _ rfl (.mark hinst hrun)
  | first hinst => exact h _ _ _ _ rfl (.first hinst hrun)
  | second hinst => exact h _ _ _ _ rfl (.second hinst hrun)

/-- A thread that leads nowhere still leads nowhere after it has read a character. -/
theorem Dead.advance {c : Char} {t t' : Thread} (h : p.Dead before (c :: rest) t.pc)
    (hadvance : p.advance c t = some t') : p.Dead (before ++ [c]) rest t'.pc := by
  unfold Program.advance at hadvance
  split at hadvance
  · next s next hinst =>
    split at hadvance
    · next hmem =>
      cases hadvance
      rintro piece after marks steps rfl hrun
      exact h _ _ _ _ rfl (.read hinst hmem hrun)
    · cases hadvance
  · cases hadvance

/-- A thread that leads nowhere does not accept. -/
theorem Dead.not_accepts {t : Thread} (h : p.Dead before rest t.pc) : p.accepts t = false := by
  rw [Bool.eq_false_iff]
  intro haccepts
  have hinst : p.insts[t.pc]? = some .accept := by simpa [accepts] using haccepts
  exact h [] rest [] 0 rfl (.accept hinst)

/-- All threads lead nowhere. -/
abbrev AllDead (p : Program) (before rest : List Char) (threads : List Thread) : Prop :=
  ∀ t ∈ threads, p.Dead before rest t.pc

variable {threads ahead behind : List Thread} {t : Thread} {seen : List Nat} {best : Option Match}

/-- The threads in front of others that come to read or to accept lead nowhere if those that they
come from lead nowhere, and so do the instructions that they have seen. -/
theorem AllDead.ready_append (h : p.AllDead before rest ahead) (threads : List Thread)
    (seen : List Nat) : ∃ passed seen',
      p.ready before.getLast? rest.head? before.length (ahead ++ threads) seen =
        passed ++ p.ready before.getLast? rest.head? before.length threads seen' ∧
      p.AllDead before rest passed ∧ ∀ x ∈ seen', x ∈ seen ∨ p.Dead before rest x := by
  have hkept {seen seen' : List Nat} {x : Nat} (hdead : p.Dead before rest x)
      (h : ∀ y ∈ seen', y ∈ x :: seen ∨ p.Dead before rest y) :
      ∀ y ∈ seen', y ∈ seen ∨ p.Dead before rest y := by
    intro y hy
    rcases h y hy with hmem | hy
    · rcases List.mem_cons.mp hmem with rfl | hmem
      · exact Or.inr hdead
      · exact Or.inl hmem
    · exact Or.inr hy
  induction ahead, seen using ready.induct p before.getLast? rest.head? before.length with
  | case1 seen => exact ⟨[], seen, rfl, h, fun x => Or.inl⟩
  | case2 seen t ahead hseen ih =>
    rw [List.cons_append, ready_seen (List.contains_iff_mem.mp hseen)]
    exact ih (List.forall_mem_cons.mp h).2
  | case3 seen t ahead hseen hinst ih =>
    rw [List.cons_append, ready_none (by simpa using hseen) hinst]
    exact ih (List.forall_mem_cons.mp h).2
  | case4 seen t ahead hseen s next hinst ih | case5 seen t ahead hseen hinst ih =>
    obtain ⟨hhead, htail⟩ := List.forall_mem_cons.mp h
    obtain ⟨passed, seen', hready, hpassed, hseen'⟩ := ih htail
    refine ⟨t :: passed, seen', ?_, List.forall_mem_cons.mpr ⟨hhead, hpassed⟩, hkept hhead hseen'⟩
    rw [List.cons_append, ready_stops (by simpa using hseen) (by simp [Stops, hinst]), hready]
    rfl
  | case6 seen t ahead hseen l pc hinst hholds ih =>
    obtain ⟨hhead, htail⟩ := List.forall_mem_cons.mp h
    obtain ⟨passed, seen', hready, hpassed, hseen'⟩ :=
      ih (List.forall_mem_cons.mpr ⟨hhead.of_follows (.look hinst hholds), htail⟩)
    rw [List.cons_append, ready_look (by simpa using hseen) hinst hholds]
    exact ⟨passed, seen', hready, hpassed, hkept hhead hseen'⟩
  | case7 seen t ahead hseen l pc hinst hholds ih =>
    obtain ⟨hhead, htail⟩ := List.forall_mem_cons.mp h
    obtain ⟨passed, seen', hready, hpassed, hseen'⟩ := ih htail
    rw [List.cons_append, ready_look_of_not (by simpa using hseen) hinst hholds]
    exact ⟨passed, seen', hready, hpassed, hkept hhead hseen'⟩
  | case8 seen t ahead hseen slot pc hinst ih =>
    obtain ⟨hhead, htail⟩ := List.forall_mem_cons.mp h
    obtain ⟨passed, seen', hready, hpassed, hseen'⟩ :=
      ih (List.forall_mem_cons.mpr ⟨hhead.of_follows (.mark hinst), htail⟩)
    rw [List.cons_append, ready_mark (by simpa using hseen) hinst]
    exact ⟨passed, seen', hready, hpassed, hkept hhead hseen'⟩
  | case9 seen t ahead hseen first second hinst ih =>
    obtain ⟨hhead, htail⟩ := List.forall_mem_cons.mp h
    have hfirst := hhead.of_follows (.first hinst)
    have hsecond := hhead.of_follows (.second hinst)
    obtain ⟨passed, seen', hready, hpassed, hseen'⟩ :=
      ih (List.forall_mem_cons.mpr ⟨hfirst, List.forall_mem_cons.mpr ⟨hsecond, htail⟩⟩)
    rw [List.cons_append, ready_fork (by simpa using hseen) hinst]
    exact ⟨passed, seen', hready, hpassed, hkept hhead hseen'⟩

/-- Threads that lead nowhere are made ready as threads that lead nowhere. -/
theorem AllDead.ready (h : p.AllDead before rest threads) :
    p.AllDead before rest
      (p.ready before.getLast? rest.head? before.length threads seen) := by
  obtain ⟨passed, seen', hready, hpassed, -⟩ := h.ready_append [] seen
  have hnothing : p.ready before.getLast? rest.head? before.length [] seen' = [] := by
    rw [Program.ready]
  rw [List.append_nil, hnothing, List.append_nil] at hready
  rwa [hready]

/-- Threads that lead nowhere, each after reading a character if it can, lead nowhere. -/
theorem AllDead.advance {c : Char} (h : p.AllDead before (c :: rest) threads) :
    p.AllDead (before ++ [c]) rest (threads.filterMap (p.advance c)) := by
  intro t' ht'
  obtain ⟨t, ht, hadvance⟩ := List.mem_filterMap.mp ht'
  exact (h t ht).advance hadvance

/-- Those in front of the first accepting thread lead nowhere if all do. -/
theorem AllDead.better (h : p.AllDead before rest threads) :
    p.AllDead before rest (p.better threads) :=
  fun t ht => h t ((better_sublist threads).subset ht)

/-- None of the threads that lead nowhere accepts. -/
theorem AllDead.find?_accepts (h : p.AllDead before rest threads) :
    threads.find? p.accepts = none :=
  List.find?_eq_none.mpr fun t ht => by simp [(h t ht).not_accepts]

/-- Threads that lead nowhere give no match that would replace the best one so far. -/
theorem AllDead.bestOf {place : Nat} (h : p.AllDead before rest threads) :
    p.bestOf place threads best = best := by
  rw [Program.bestOf, h.find?_accepts]

/-- Threads that lead nowhere do not better what has been found. -/
theorem AllDead.runFrom {m : Match} (h : p.AllDead before rest threads) :
    p.runFrom before.getLast? before.length rest threads (some m) = some m := by
  induction rest generalizing before threads with
  | nil =>
    have hhere : p.AllDead before []
        (p.arrivals before.getLast? before.length [] threads (some m)) := h.ready
    rw [runFrom_nil, hhere.bestOf]
  | cons c rest ih =>
    have hhere : p.AllDead before (c :: rest)
        (p.arrivals before.getLast? before.length (c :: rest) threads (some m)) := h.ready
    rw [runFrom_cons]
    simp only [hhere.bestOf]
    split
    · rfl
    · simpa using ih hhere.better.advance

/-! ## The preferred thread -/

/-- A thread follows the first run, and the threads that are preferred to it lead nowhere. -/
structure Leading (p : Program) (before piece after : List Char) (marks : List (Nat × Nat))
    (ahead : List Thread) (t : Thread) : Prop where
  dead : p.AllDead before (piece ++ after) ahead
  first : ∃ more steps, p.FirstRun t.pc before piece after more steps ∧ marks = more ++ t.marks

/-- None of the instructions is on the way of the first run. -/
def OffTheWay (p : Program) (before piece after : List Char) (steps : Nat) (seen : List Nat) :
    Prop :=
  ∀ x ∈ seen, ∀ marks fewer, fewer ≤ steps → ¬ p.FirstRun x before piece after marks fewer

/-- The instruction from which the preferred run goes on has not been seen. -/
theorem OffTheWay.notMem (h : p.OffTheWay before piece after steps seen)
    (hrun : p.FirstRun x before piece after marks steps) : x ∉ seen :=
  fun hmem => h x hmem _ _ (Nat.le_refl _) hrun

/-- Instructions that lead nowhere may be added to those that have been seen. -/
theorem OffTheWay.of_dead {seen' : List Nat} (h : p.OffTheWay before piece after steps seen)
    (hseen : ∀ x ∈ seen', x ∈ seen ∨ p.Dead before (piece ++ after) x) :
    p.OffTheWay before piece after steps seen' := by
  intro x hx marks fewer hfewer hrun
  rcases hseen x hx with hx | hdead
  · exact h x hx marks fewer hfewer hrun
  · exact hrun.not_dead hdead

/-- The first run does not come back to an instruction at the same place. -/
theorem OffTheWay.cons_first (h : p.OffTheWay before piece after (steps + 1) seen)
    (hrun : p.FirstRun x before piece after marks (steps + 1)) :
    p.OffTheWay before piece after steps (x :: seen) := by
  refine List.forall_mem_cons.mpr ⟨fun marks fewer hfewer hagain => ?_,
    fun y hy marks fewer hfewer => h y hy marks fewer (Nat.le_succ_of_le hfewer)⟩
  have hsteps := hagain.steps_eq hrun rfl
  omega

/-- One of the threads follows the first run, from where the given one started, and is about to
read or to accept. -/
def Led (p : Program) (before piece after : List Char) (marks : List (Nat × Nat)) (start : Nat)
    (threads : List Thread) : Prop :=
  ∃ ahead t behind, threads = ahead ++ t :: behind ∧ p.Leading before piece after marks ahead t ∧
    t.start = start ∧ p.Stops t.pc

/-- Threads that lead nowhere may be put in front. -/
theorem Led.append (h : p.Led before piece after marks x threads)
    (hdead : p.AllDead before (piece ++ after) ahead) :
    p.Led before piece after marks x (ahead ++ threads) := by
  obtain ⟨ahead', t, behind, rfl, ⟨hdead', hfirst⟩, hstart, hstops⟩ := h
  exact ⟨ahead ++ ahead', t, behind, by simp, ⟨List.forall_mem_append.mpr ⟨hdead, hdead'⟩, hfirst⟩,
    hstart, hstops⟩

/-- A thread that is about to read or to accept on the preferred run leads, whatever is behind
it. -/
theorem FirstRun.led {more : List (Nat × Nat)}
    (h : p.FirstRun x before piece after more steps) (hpc : t.pc = x)
    (hmarks : marks = more ++ t.marks) (hstops : p.Stops x) (behind : List Thread) :
    p.Led before piece after marks t.start (t :: behind) :=
  ⟨[], t, behind, rfl, ⟨by simp [AllDead], more, steps, hpc ▸ h, hmarks⟩, rfl, hpc ▸ hstops⟩

/-- The thread that follows the first run comes to read or to accept, and what is preferred to it
then leads nowhere. -/
theorem FirstRun.ready_led {more : List (Nat × Nat)}
    (h : p.FirstRun x before piece after more steps) (hpc : t.pc = x)
    (hmarks : marks = more ++ t.marks) (hseen : p.OffTheWay before piece after steps seen)
    (behind : List Thread) : p.Led before piece after marks t.start
      (p.ready before.getLast? (piece ++ after).head? before.length (t :: behind) seen) := by
  induction h generalizing t seen behind with
  | accept hinst =>
    have hstops : p.Stops t.pc := by simp [Stops, hpc, hinst]
    rw [ready_stops (hpc ▸ hseen.notMem (.accept hinst)) hstops]
    exact led (.accept hinst) hpc hmarks (hpc ▸ hstops) _
  | read hinst hmem hrest =>
    have hstops : p.Stops t.pc := by simp [Stops, hpc, hinst]
    rw [ready_stops (hpc ▸ hseen.notMem (.read hinst hmem hrest)) hstops]
    exact led (.read hinst hmem hrest) hpc hmarks (hpc ▸ hstops) _
  | @look pc next l _ _ _ _ _ hinst hholds hrest ih =>
    subst hpc
    have hrun := FirstRun.look hinst hholds hrest
    rw [ready_look (hseen.notMem hrun) hinst hholds]
    exact ih (t := { t with pc := next }) rfl hmarks (hseen.cons_first hrun) behind
  | @mark pc next slot before _ _ _ _ hinst hrest ih =>
    subst hpc
    have hrun := FirstRun.mark hinst hrest
    rw [ready_mark (hseen.notMem hrun) hinst]
    rw [List.append_assoc] at hmarks
    exact ih (t := { t with pc := next, marks := (slot, before.length) :: t.marks }) rfl hmarks
      (hseen.cons_first hrun) behind
  | @first pc next other _ _ _ _ _ hinst hrest ih =>
    subst hpc
    have hrun := FirstRun.first hinst hrest
    rw [ready_fork (hseen.notMem hrun) hinst]
    exact ih (t := { t with pc := next }) rfl hmarks (hseen.cons_first hrun) _
  | @second pc other next before piece after _ _ hinst hdead hrest ih =>
    subst hpc
    have hrun := FirstRun.second hinst hdead hrest
    have hahead : p.AllDead before (piece ++ after) [{ t with pc := other }] := by
      simpa [AllDead] using hdead
    obtain ⟨passed, seen', hready, hpassed, hseen'⟩ :=
      hahead.ready_append ({ t with pc := next } :: behind) (t.pc :: seen)
    rw [ready_fork (hseen.notMem hrun) hinst, ← List.singleton_append, hready]
    exact (ih (t := { t with pc := next }) rfl hmarks
      ((hseen.cons_first hrun).of_dead hseen') behind).append hpassed

/-- So it is if there are threads in front of it that lead nowhere. -/
theorem Leading.ready_led (h : p.Leading before piece after marks ahead t)
    (hthreads : threads = ahead ++ t :: behind) : p.Led before piece after marks t.start
      (p.ready before.getLast? (piece ++ after).head? before.length threads []) := by
  obtain ⟨more, steps, hrun, hmarks⟩ := h.first
  obtain ⟨passed, seen, hready, hpassed, hseen⟩ := h.dead.ready_append (t :: behind) []
  have haway : p.OffTheWay before piece after steps [] := by simp [OffTheWay]
  rw [hthreads, hready]
  exact (hrun.ready_led rfl hmarks (haway.of_dead hseen) behind).append hpassed

/-- Threads that lead nowhere are kept when those behind an accepting thread are cut off. -/
theorem AllDead.takeWhile (h : p.AllDead before rest ahead) (behind : List Thread) :
    p.better (ahead ++ behind) = ahead ++ p.better behind := by
  induction ahead with
  | nil => rfl
  | cons t ahead ih =>
    obtain ⟨hhead, htail⟩ := List.forall_mem_cons.mp h
    have hkept : p.better (t :: (ahead ++ behind)) = t :: p.better (ahead ++ behind) := by
      simp [Program.better, hhead.not_accepts]
    rw [List.cons_append, hkept, ih htail, List.cons_append]

/-- Threads that start come last. -/
theorem starting_append (place : Nat) (ahead behind : List Thread) (t : Thread)
    (best : Option Match) : ∃ behind',
      p.starting place (ahead ++ t :: behind) best = ahead ++ t :: behind' := by
  cases best with
  | none => exact ⟨behind ++ [{ pc := p.start, start := place }], by simp [starting]⟩
  | some m => exact ⟨behind, rfl⟩

/-- A search finds the first run of a thread if the threads that are preferred to it lead
nowhere. -/
theorem Leading.runFrom (h : p.Leading before piece after marks ahead t)
    (hstarting : p.starting before.length threads best = ahead ++ t :: behind) :
    p.runFrom before.getLast? before.length (piece ++ after) threads best =
      some ⟨t.start, before.length + piece.length, marks⟩ := by
  induction piece generalizing before threads best ahead t behind with
  | nil =>
    obtain ⟨ahead', t', behind', hready, ⟨hdead, more', _, hrun', hmarks'⟩, hstart, hstops⟩ :=
      h.ready_led hstarting
    obtain ⟨haccept, rfl⟩ : p.accepts t' = true ∧ more' = [] := by
      cases hrun' with
      | accept hinst => exact ⟨by simp [accepts, hinst], rfl⟩
      | look hinst | mark hinst | first hinst | second hinst => simp [Stops, hinst] at hstops
    have hhere : p.arrivals before.getLast? before.length after threads best =
        ahead' ++ t' :: behind' := hready
    have hbest : p.bestOf before.length (ahead' ++ t' :: behind') best =
        some ⟨t.start, before.length, marks⟩ := by
      rw [bestOf, List.find?_append, hdead.find?_accepts, List.find?_cons_of_pos haccept]
      simp [hstart, hmarks']
    have hbetter : p.better (ahead' ++ t' :: behind') = ahead' := by
      rw [hdead.takeWhile]
      simp [better, haccept]
    rw [List.nil_append]
    cases after with
    | nil => rw [runFrom_nil, hhere, hbest]; rfl
    | cons c after =>
      rw [runFrom_cons]
      simp only [hhere, hbest, hbetter]
      split
      · rfl
      · simpa using (AllDead.advance hdead).runFrom
  | cons c piece ih =>
    obtain ⟨ahead', t', behind', hready, ⟨hdead, more', _, hrun', hmarks'⟩, hstart, hstops⟩ :=
      h.ready_led hstarting
    have hhere : p.arrivals before.getLast? before.length (c :: (piece ++ after)) threads best =
        ahead' ++ t' :: behind' := hready
    cases hrun' with
    | @read _ next s _ _ _ _ _ fewer hinst hmem hrest =>
      have hbetter : p.better (ahead' ++ t' :: behind') = ahead' ++ t' :: p.better behind' := by
        rw [hdead.takeWhile]
        simp [better, accepts, hinst]
      have hadvance : p.advance c t' = some { t' with pc := next } := by
        simp [Program.advance, hinst, hmem]
      have hnext : p.Leading (before ++ [c]) piece after marks
          (ahead'.filterMap (p.advance c)) { t' with pc := next } :=
        ⟨AllDead.advance hdead, more', fewer, hrest, hmarks'⟩
      obtain ⟨_, hlater⟩ := starting_append (p := p) (before ++ [c]).length
        (ahead'.filterMap (p.advance c)) ((p.better behind').filterMap (p.advance c))
        { t' with pc := next } (p.bestOf before.length (ahead' ++ t' :: behind') best)
      have hfound := ih hnext hlater
      rw [List.cons_append, runFrom_cons]
      simp only [hhere, hbetter, List.filterMap_append, List.filterMap_cons, hadvance]
      rw [if_neg (by simp)]
      simpa [hstart, Nat.add_assoc, Nat.add_comm 1] using hfound
    | look hinst | mark hinst | first hinst | second hinst => simp [Stops, hinst] at hstops

/-- A search goes on to the leftmost place from which a run leads to the end. -/
theorem runFrom_skipped {skipped : List Char} (hdead : p.AllDead before
      (skipped ++ (piece ++ after)) threads)
    (hskipped : ∀ front c back, skipped = front ++ c :: back →
      p.Dead (before ++ front) (c :: back ++ (piece ++ after)) p.start)
    (hrun : p.FirstRun p.start (before ++ skipped) piece after marks steps) :
    p.runFrom before.getLast? before.length (skipped ++ (piece ++ after)) threads none =
      some ⟨before.length + skipped.length, before.length + skipped.length + piece.length,
        marks⟩ := by
  induction skipped generalizing before threads with
  | nil =>
    have hrun' : p.FirstRun p.start before piece after marks steps := by simpa using hrun
    have hleading : p.Leading before piece after marks threads
        { pc := p.start, start := before.length } :=
      ⟨hdead, marks, steps, hrun', by simp⟩
    have hstarting : p.starting before.length threads none =
        threads ++ { pc := p.start, start := before.length } :: [] := by simp [starting]
    simpa using hleading.runFrom hstarting
  | cons c skipped ih =>
    have hnew : p.Dead before (c :: skipped ++ (piece ++ after)) p.start := by
      simpa using hskipped [] c skipped rfl
    have hstarting : p.AllDead before (c :: skipped ++ (piece ++ after))
        (p.starting before.length threads none) := by
      intro t ht
      rcases List.mem_append.mp ht with ht | ht
      · exact hdead t ht
      · exact List.mem_singleton.mp ht ▸ hnew
    have hhere : p.AllDead before (c :: skipped ++ (piece ++ after))
        (p.arrivals before.getLast? before.length (c :: skipped ++ (piece ++ after)) threads
          none) := hstarting.ready
    have hfound := ih hhere.better.advance (fun front d back hback => by
      simpa using hskipped (c :: front) d back (by rw [hback]; rfl)) (by simpa using hrun)
    rw [List.cons_append, runFrom_cons]
    simp only [List.cons_append] at hhere
    simp only [hhere.bestOf, Option.isSome_none, Bool.and_false, Bool.false_eq_true, if_false]
    simpa [Nat.add_assoc, Nat.add_comm 1] using hfound

/-- The first run from the leftmost place at which there is a match is what a search finds. -/
theorem find?_eq_of_firstRun (hrun : p.FirstRun p.start before piece after marks steps)
    (hleftmost : ∀ m, p.Finds (before ++ (piece ++ after)) m → before.length ≤ m.start) :
    p.find? (before ++ (piece ++ after)) =
      some ⟨before.length, before.length + piece.length, marks⟩ := by
  have hnone : p.AllDead [] (before ++ (piece ++ after)) [] := by simp [AllDead]
  have hfound := runFrom_skipped hnone (fun front c back hback => ?_) (by simpa using hrun)
  · simpa [find?, findFrom] using hfound
  · rintro piece' after' marks' steps' htext hearlier
    have hfinds : p.Finds (before ++ (piece ++ after))
        ⟨front.length, front.length + piece'.length, marks'⟩ :=
      ⟨front, piece', after', steps', by rw [hback, List.append_assoc, htext], rfl, rfl,
        by simpa using hearlier⟩
    have hle := hleftmost _ hfinds
    simp only [hback, List.length_append, List.length_cons] at hle
    omega

end ArtifactPipeline.Regex.Program
