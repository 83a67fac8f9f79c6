import ArtifactPipeline.Proofs.Threads

/-!
# What a search finds

A search keeps live threads in the order of their starts, and the best match so far, which no thread
starts behind. So whatever it finds is a match. A match that the text holds is never lost: as long
as nothing that starts as early has been found, some thread that started no later still runs towards
an end, or no thread needs to have started yet. So the search finds a leftmost match.
-/

namespace ArtifactPipeline.Regex

open Program

/-- A match is a run of the program over its part of the text. -/
def Program.Finds (p : Program) (text : List Char) (m : Match) : Prop :=
  ∃ before piece after steps, text = before ++ (piece ++ after) ∧ m.start = before.length ∧
    m.stop = before.length + piece.length ∧ p.Runs p.start before piece after m.marks steps

/-- A match is a match of the expression with the part of the text. -/
def MatchesAt (r : Regex) (text : List Char) (m : Match) : Prop :=
  ∃ before piece after, text = before ++ (piece ++ after) ∧ m.start = before.length ∧
    m.stop = before.length + piece.length ∧ r.Matches before piece after m.marks

namespace Program

variable {p : Program} {text before rest : List Char} {previous : Option Char}
  {threads : List Thread} {best : Option Match} {m : Match} {low place : Nat}

/-- What the program of an expression finds is what the expression matches. -/
theorem finds_ofRegex {r : Regex} : (ofRegex r).Finds text m ↔ r.MatchesAt text m := by
  constructor
  · rintro ⟨before, piece, after, steps, htext, hstart, hstop, hrun⟩
    exact ⟨before, piece, after, htext, hstart, hstop, (runs_ofRegex r).mp ⟨steps, hrun⟩⟩
  · rintro ⟨before, piece, after, htext, hstart, hstop, hmatches⟩
    obtain ⟨steps, hrun⟩ := (runs_ofRegex r).mpr hmatches
    exact ⟨before, piece, after, steps, htext, hstart, hstop, hrun⟩

/-! ## One place of the text -/

/-- The threads at a place. While nothing has been found, a new one starts there. -/
def starting (p : Program) (place : Nat) (threads : List Thread) (best : Option Match) :
    List Thread :=
  if best.isNone then threads ++ [{ pc := p.start, start := place }] else threads

/-- The threads that come to read or to accept at a place. -/
def arrivals (p : Program) (previous : Option Char) (place : Nat) (rest : List Char)
    (threads : List Thread) (best : Option Match) : List Thread :=
  p.ready previous rest.head? place (p.starting place threads best) []

/-- The best match after the first of the threads that accept, if any. -/
def bestOf (p : Program) (place : Nat) (here : List Thread) (best : Option Match) : Option Match :=
  match here.find? p.accepts with
  | some t => some ⟨t.start, place, t.marks⟩
  | none => best

/-- The threads that are preferred to those that accept. -/
def better (p : Program) (here : List Thread) : List Thread := here.takeWhile fun t => !p.accepts t

/-- At the end of a text a search has the best match after the threads that accept there. -/
theorem runFrom_nil : p.runFrom previous place [] threads best =
    p.bestOf place (p.arrivals previous place [] threads best) best := by
  rw [runFrom]
  rfl

/-- At a place in a text a search ends with what was found, or goes on with the preferred
threads that can read the character. -/
theorem runFrom_cons {c : Char} : p.runFrom previous place (c :: rest) threads best =
    let here := p.arrivals previous place (c :: rest) threads best
    let threads := (p.better here).filterMap (p.advance c)
    let best := p.bestOf place here best
    if threads.isEmpty && best.isSome then best
    else p.runFrom (some c) (place + 1) rest threads best := by
  rw [runFrom]
  rfl

/-- The preferred threads are some of the threads, in the same order. -/
theorem better_sublist (here : List Thread) : (p.better here).Sublist here :=
  List.takeWhile_sublist _

/-- A thread is preferred to those that accept, or one that accepts started no later. -/
theorem mem_better_or_accepts {here : List Thread} {t : Thread} (horder : InOrder here)
    (ht : t ∈ here) : t ∈ p.better here ∧ p.accepts t = false ∨
      ∃ a, here.find? p.accepts = some a ∧ a.start ≤ t.start := by
  induction here with
  | nil => cases ht
  | cons u here ih =>
    cases haccepts : p.accepts u with
    | true => exact Or.inr ⟨u, by simp [haccepts], start_le_of_mem horder ht⟩
    | false =>
      have hbetter : p.better (u :: here) = u :: p.better here := by simp [better, haccepts]
      have hfind : (u :: here).find? p.accepts = here.find? p.accepts := by simp [haccepts]
      rw [hbetter, hfind]
      rcases List.mem_cons.mp ht with rfl | ht
      · exact Or.inl ⟨by simp, haccepts⟩
      · exact (ih horder.tail ht).imp (fun h => ⟨by simp [h.1], h.2⟩) id

/-- The threads that are preferred to the first one that accepts started no later. -/
theorem start_le_of_better {here : List Thread} {t a : Thread} (horder : InOrder here)
    (ht : t ∈ p.better here) (ha : here.find? p.accepts = some a) : t.start ≤ a.start := by
  induction here with
  | nil => cases ha
  | cons u here ih =>
    cases haccepts : p.accepts u with
    | true => simp [better, haccepts] at ht
    | false =>
      simp only [better, List.takeWhile_cons, haccepts, Bool.not_false, if_true,
        List.mem_cons] at ht
      simp only [List.find?_cons, haccepts] at ha
      rcases ht with rfl | ht
      · exact start_le_of_mem horder (by simp [List.mem_of_find?_eq_some ha])
      · exact ih horder.tail ht ha

/-! ## What is found is a match -/

/-- What holds of a search for matches that start at `low` or later. -/
structure Searching (p : Program) (low : Nat) (before rest : List Char) (threads : List Thread)
    (best : Option Match) : Prop where
  live : ∀ t ∈ threads, t.Live p before rest
  inOrder : InOrder threads
  low_le_place : low ≤ before.length
  low_le_start : ∀ t ∈ threads, low ≤ t.start
  found : ∀ m, best = some m →
    p.Finds (before ++ rest) m ∧ low ≤ m.start ∧ ∀ t ∈ threads, t.start ≤ m.start

namespace Searching

/-- A thread may start at the place while nothing has been found. -/
theorem starting (h : p.Searching low before rest threads best) :
    p.Searching low before rest (p.starting before.length threads best) best := by
  unfold Program.starting
  cases best with
  | some m => exact h
  | none =>
    refine ⟨?_, ?_, h.low_le_place, ?_, by simp⟩
    · simpa [or_imp, forall_and, live_start] using h.live
    · refine List.pairwise_append.mpr ⟨h.inOrder, List.pairwise_singleton .., ?_⟩
      simpa using fun t ht => (h.live t ht).start_le
    · simpa [or_imp, forall_and, h.low_le_place] using h.low_le_start

/-- What holds of the threads at a place holds of those that arrive there. -/
theorem arrivals (h : p.Searching low before rest threads best) :
    p.Searching low before rest
      (p.arrivals before.getLast? before.length rest threads best) best := by
  have hstarting := h.starting
  have hstarts : ∀ t ∈ p.arrivals before.getLast? before.length rest threads best,
      ∃ t' ∈ p.starting before.length threads best, t'.start = t.start := ready_starts
  refine ⟨ready_live hstarting.live, ready_inOrder hstarting.inOrder, h.low_le_place, ?_, ?_⟩
  · intro t ht
    obtain ⟨t', ht', hstart⟩ := hstarts t ht
    exact hstart ▸ hstarting.low_le_start t' ht'
  · intro m hm
    obtain ⟨hfinds, hlow, hle⟩ := hstarting.found m hm
    refine ⟨hfinds, hlow, fun t ht => ?_⟩
    obtain ⟨t', ht', hstart⟩ := hstarts t ht
    exact hstart ▸ hle t' ht'

/-- A thread that accepts has found a match, and the threads preferred to it started no later. -/
theorem better (h : p.Searching low before rest threads best) :
    p.Searching low before rest (p.better threads) (p.bestOf before.length threads best) := by
  have hsub : ∀ t ∈ p.better threads, t ∈ threads := fun t ht => (better_sublist _).subset ht
  refine ⟨fun t ht => h.live t (hsub t ht), h.inOrder.sublist (better_sublist _), h.low_le_place,
    fun t ht => h.low_le_start t (hsub t ht), fun m hm => ?_⟩
  unfold bestOf at hm
  split at hm
  · next a ha =>
    cases hm
    have hmem := List.mem_of_find?_eq_some ha
    obtain ⟨steps, hrun⟩ := runs_of_accepts (h.live a hmem) (List.find?_some ha)
    refine ⟨⟨_, _, _, steps, ?_, ?_, ?_, hrun⟩, h.low_le_start a hmem, fun t ht => ?_⟩
    · rw [← List.append_assoc, List.take_append_drop]
    · exact (List.length_take_of_le (h.live a hmem).start_le).symm
    · have hle := (h.live a hmem).start_le
      simp only [List.length_take, List.length_drop]
      omega
    · exact start_le_of_better h.inOrder ht ha
  · obtain ⟨hfinds, hlow, hle⟩ := h.found m hm
    exact ⟨hfinds, hlow, fun t ht => hle t (hsub t ht)⟩

/-- Passage a character. -/
theorem advance {c : Char} (h : p.Searching low before (c :: rest) threads best) :
    p.Searching low (before ++ [c]) rest (threads.filterMap (p.advance c)) best := by
  have hfrom : ∀ t' ∈ threads.filterMap (p.advance c), ∃ t ∈ threads,
      t'.Live p (before ++ [c]) rest ∧ t'.start = t.start := by
    intro t' ht'
    obtain ⟨t, ht, hadvance⟩ := List.mem_filterMap.mp ht'
    exact ⟨t, ht, live_advance (h.live t ht) hadvance⟩
  refine ⟨fun t' ht' => ?_, ?_, ?_, fun t' ht' => ?_, fun m hm => ?_⟩
  · obtain ⟨t, -, hlive, -⟩ := hfrom t' ht'
    exact hlive
  · refine List.pairwise_filterMap.mpr (h.inOrder.imp_of_mem ?_)
    intro t u ht hu hle t' ht' u' hu'
    rw [(live_advance (h.live t ht) ht').2, (live_advance (h.live u hu) hu').2]
    exact hle
  · exact Nat.le_trans h.low_le_place (by simp)
  · obtain ⟨t, ht, -, hstart⟩ := hfrom t' ht'
    exact hstart ▸ h.low_le_start t ht
  · obtain ⟨hfinds, hlow, hle⟩ := h.found m hm
    refine ⟨by simpa using hfinds, hlow, fun t' ht' => ?_⟩
    obtain ⟨t, ht, -, hstart⟩ := hfrom t' ht'
    exact hstart ▸ hle t ht

/-- Whatever a search finds is a match that starts at `low` or later. -/
theorem finds (h : p.Searching low before rest threads best)
    (hrun : p.runFrom before.getLast? before.length rest threads best = some m) :
    p.Finds (before ++ rest) m ∧ low ≤ m.start := by
  induction rest generalizing before threads best with
  | nil =>
    rw [runFrom_nil] at hrun
    obtain ⟨hfinds, hlow, -⟩ := h.arrivals.better.found m hrun
    exact ⟨hfinds, hlow⟩
  | cons c rest ih =>
    rw [runFrom_cons] at hrun
    dsimp only at hrun
    split at hrun
    · obtain ⟨hfinds, hlow, -⟩ := h.arrivals.better.found m hrun
      exact ⟨hfinds, hlow⟩
    · have hnext := ih h.arrivals.better.advance (by simpa using hrun)
      simpa using hnext

end Searching

/-! ## No match is lost -/

/-- Some match that starts no later than `s` has been found, or a thread that runs towards its end
started no later than `s`, or nothing has been found and it starts at this place or later. -/
inductive Pending (p : Program) (s : Nat) (before rest : List Char) (threads : List Thread)
    (best : Option Match) : Prop
  | found (m : Match) : best = some m → m.start ≤ s → Pending p s before rest threads best
  | running (t : Thread) (piece after : List Char) (marks : List (Nat × Nat)) (steps : Nat) :
    t ∈ threads → t.start ≤ s → rest = piece ++ after →
    p.Runs t.pc before piece after marks steps → Pending p s before rest threads best
  | ahead (skipped piece after : List Char) (marks : List (Nat × Nat)) (steps : Nat) :
    best = none → rest = skipped ++ (piece ++ after) → before.length + skipped.length ≤ s →
    p.Runs p.start (before ++ skipped) piece after marks steps →
    Pending p s before rest threads best

/-- What becomes of a search at a place: it has found a match that starts no later than `s`, or it
reads a character and goes on, and the match is still pending. -/
def Advances (p : Program) (s : Nat) (before rest : List Char) (threads : List Thread)
    (best : Option Match) : Prop :=
  let here := p.arrivals before.getLast? before.length rest threads best
  let best := p.bestOf before.length here best
  (∃ m, best = some m ∧ m.start ≤ s) ∨ ∃ c later, rest = c :: later ∧
    let threads := (p.better here).filterMap (p.advance c)
    (threads.isEmpty && best.isSome) = false ∧ p.Pending s (before ++ [c]) later threads best

namespace Pending

variable {s : Nat}

/-- An accepting thread that started no later is found. -/
theorem advances_of_accepts {a : Thread} (hstart : a.start ≤ s)
    (ha : (p.arrivals before.getLast? before.length rest threads best).find? p.accepts = some a) :
    p.Advances s before rest threads best :=
  Or.inl ⟨⟨a.start, before.length, a.marks⟩, by simp [bestOf, ha], hstart⟩

/-- A thread that runs towards an end accepts here or reads the next character, unless another one
that started no later accepts. -/
theorem advances_of_runs {t : Thread} {piece after : List Char} {marks : List (Nat × Nat)}
    {steps : Nat} (h : p.Searching low before rest threads best)
    (ht : t ∈ p.starting before.length threads best) (hstart : t.start ≤ s)
    (hrest : rest = piece ++ after) (hrun : p.Runs t.pc before piece after marks steps) :
    p.Advances s before rest threads best := by
  obtain ⟨y, hreach, hy⟩ := hrun.reaches
  have hstops : p.Stops y := hy.imp And.left fun ⟨_, s, pc, _, _, _, _, hinst, _⟩ => ⟨s, pc, hinst⟩
  obtain ⟨u, hu, hpc, hle⟩ : ∃ u ∈ p.arrivals before.getLast? before.length rest threads best,
      u.pc = y ∧ u.start ≤ t.start :=
    ready_complete h.starting.inOrder ht hstops (hrest ▸ hreach)
  rcases mem_better_or_accepts (p := p) h.arrivals.inOrder hu with ⟨hbetter, hnot⟩ | ⟨a, ha, hau⟩
  · rcases hy with ⟨haccept, -⟩ | ⟨c, set, pc, piece', marks', steps', rfl, hread, hmem, hrun'⟩
    · simp [accepts, hpc, haccept] at hnot
    · have hadvance : p.advance c u = some { u with pc } := by simp [advance, hpc, hread, hmem]
      have hthread := List.mem_filterMap.mpr ⟨u, hbetter, hadvance⟩
      refine Or.inr ⟨c, piece' ++ after, hrest, ?_, ?_⟩
      · have hne := List.ne_nil_of_mem hthread
        simpa using fun hnil => absurd hnil (by simpa using hne)
      · exact .running _ _ _ _ _ hthread (Nat.le_trans hle hstart) rfl hrun'
  · exact advances_of_accepts (Nat.le_trans hau (Nat.le_trans hle hstart)) ha

/-- A pending match is found or stays pending. -/
theorem advances (h : p.Searching low before rest threads best)
    (hpending : p.Pending s before rest threads best) : p.Advances s before rest threads best := by
  cases hpending with
  | found m hbest hstart =>
    cases hfind :
        (p.arrivals before.getLast? before.length rest threads best).find? p.accepts with
    | some a =>
      obtain ⟨-, -, hle⟩ := h.arrivals.found m hbest
      have hstart' := hle a (List.mem_of_find?_eq_some hfind)
      exact advances_of_accepts (Nat.le_trans hstart' hstart) hfind
    | none => exact Or.inl ⟨m, by rw [bestOf, hfind, hbest], hstart⟩
  | running t piece after marks steps ht hstart hrest hrun =>
    refine advances_of_runs h ?_ hstart hrest hrun
    unfold starting
    split
    · exact List.mem_append_left _ ht
    · exact ht
  | ahead skipped piece after marks steps hbest hrest hplace hrun =>
    obtain _ | ⟨c, skipped⟩ := skipped
    · have hnew : { pc := p.start, start := before.length } ∈
          p.starting before.length threads best := by simp [starting, hbest]
      have hrun' : p.Runs p.start before piece after marks steps := by simpa using hrun
      have hrest' : rest = piece ++ after := by simpa using hrest
      exact advances_of_runs h hnew (by simpa using hplace) hrest' hrun'
    · cases hfind :
          (p.arrivals before.getLast? before.length rest threads best).find? p.accepts with
      | some a =>
        have hle := (h.arrivals.live a (List.mem_of_find?_eq_some hfind)).start_le
        exact advances_of_accepts (by omega) hfind
      | none =>
        have hnone : p.bestOf before.length
            (p.arrivals before.getLast? before.length rest threads best) best = none := by
          rw [bestOf, hfind, hbest]
        refine Or.inr ⟨c, skipped ++ (piece ++ after), hrest, by rw [hnone]; simp, ?_⟩
        refine .ahead skipped piece after marks steps hnone rfl ?_ (by simpa using hrun)
        simp only [List.length_append, List.length_cons, List.length_nil] at hplace ⊢
        omega

/-- A search finds a match that starts no later than one that is pending. -/
theorem runFrom (h : p.Searching low before rest threads best)
    (hpending : p.Pending s before rest threads best) :
    ∃ m, p.runFrom before.getLast? before.length rest threads best = some m ∧ m.start ≤ s := by
  induction rest generalizing before threads best with
  | nil =>
    rw [runFrom_nil]
    rcases hpending.advances h with hfound | ⟨c, later, hrest, -⟩
    · exact hfound
    · cases hrest
  | cons c rest ih =>
    rw [runFrom_cons]
    dsimp only
    split
    · next hstop =>
      rcases hpending.advances h with hfound | ⟨_, _, hrest, hgo, -⟩
      · exact hfound
      · cases hrest
        rw [hstop] at hgo
        cases hgo
    · have hnext : p.Pending s (before ++ [c]) rest
          ((p.better (p.arrivals before.getLast? before.length (c :: rest) threads best)).filterMap
            (p.advance c)) (p.bestOf before.length
              (p.arrivals before.getLast? before.length (c :: rest) threads best) best) := by
        rcases hpending.advances h with ⟨m, hbest, hstart⟩ | ⟨_, _, hrest, -, hnext⟩
        · exact .found m hbest hstart
        · cases hrest
          exact hnext
      simpa using ih h.arrivals.better.advance hnext

end Pending

/-! ## Searches over a text -/

/-- A search begins without threads and without a match. -/
theorem searching_start (p : Program) (before rest : List Char) :
    p.Searching before.length before rest [] none :=
  ⟨by simp, .nil, Nat.le_refl _, by simp, by simp⟩

/-- A search from some place on finds a match that starts no earlier. -/
theorem findFrom_finds (h : p.findFrom before.getLast? before.length rest = some m) :
    p.Finds (before ++ rest) m ∧ before.length ≤ m.start :=
  (searching_start p before rest).finds h

/-- A search from some place on finds a match that starts no later than any other one from there
on. -/
theorem findFrom_leftmost (h : p.Finds (before ++ rest) m) (hstart : before.length ≤ m.start) :
    ∃ m', p.findFrom before.getLast? before.length rest = some m' ∧ m'.start ≤ m.start := by
  obtain ⟨front, piece, after, steps, htext, hlength, -, hrun⟩ := h
  have hfront : before.length ≤ front.length := hlength ▸ hstart
  obtain ⟨skipped, rfl, hrest⟩ : ∃ skipped, front = before ++ skipped ∧
      rest = skipped ++ (piece ++ after) := by
    refine List.append_eq_append_iff.mp htext |>.elim ?_ ?_
    · rintro ⟨skipped, hskipped, hrest⟩
      exact ⟨skipped, hskipped, hrest⟩
    · rintro ⟨extra, hbefore, hrest⟩
      have hnil : extra = [] := by
        rw [hbefore, List.length_append] at hfront
        exact List.length_eq_zero_iff.mp (by omega)
      subst hnil
      exact ⟨[], by simpa using hbefore.symm, by simpa using hrest.symm⟩
  refine Pending.runFrom (searching_start p before rest) ?_
  exact .ahead skipped piece after _ steps rfl hrest (by simp [hlength]) hrun

/-- A match lies in the text. -/
theorem Finds.stop_le (h : p.Finds text m) : m.start ≤ m.stop ∧ m.stop ≤ text.length := by
  obtain ⟨before, piece, after, steps, rfl, hstart, hstop, -⟩ := h
  simp only [hstart, hstop, List.length_append]
  omega

/-- The character before a place that is `passed` characters further on. -/
theorem getLast?_append_take {passed : Nat} (h : passed ≤ rest.length) :
    (before ++ rest.take passed).getLast? =
      if passed == 0 then before.getLast? else rest[passed - 1]? := by
  cases passed with
  | zero => simp
  | succ passed =>
    have hlast : (rest.take (passed + 1)).getLast? = rest[passed]? := by
      rw [List.getLast?_eq_getElem?, List.length_take_of_le h]
      exact List.getElem?_take_of_lt (Nat.lt_succ_self passed)
    rw [List.getLast?_append, hlast, List.getElem?_eq_getElem (by omega)]
    simp

/-- Where a search for all matches goes on behind a match. -/
theorem Finds.findAllFrom_rest (h : p.Finds (before ++ rest) m) (hstart : before.length ≤ m.start)
    (last : Option Nat) (fuel : Nat) : ∃ passed, m.stop = before.length + passed ∧
      p.findAllFrom (if m.stop - before.length == 0 then before.getLast?
          else rest[m.stop - before.length - 1]?) m.stop (rest.drop (m.stop - before.length))
          last fuel =
        p.findAllFrom (before ++ rest.take passed).getLast? (before ++ rest.take passed).length
          (rest.drop passed) last fuel := by
  have hbounds := h.stop_le
  rw [List.length_append] at hbounds
  have hle : m.stop - before.length ≤ rest.length := by omega
  have hplace : m.stop = (before ++ rest.take (m.stop - before.length)).length := by
    rw [List.length_append, List.length_take_of_le hle]
    omega
  refine ⟨m.stop - before.length, by omega, ?_⟩
  rw [getLast?_append_take hle, ← hplace]

/-- All that is found from some place on are matches. -/
theorem findAllFrom_finds {last : Option Nat} {fuel : Nat} :
    ∀ m ∈ p.findAllFrom before.getLast? before.length rest last fuel,
      p.Finds (before ++ rest) m := by
  induction fuel generalizing before rest last with
  | zero => simp [findAllFrom]
  | succ fuel ih =>
    intro m hm
    unfold findAllFrom at hm
    dsimp only at hm
    split at hm
    · cases hm
    · next m' hm' =>
      have hfound : p.Finds (before ++ rest) m' ∧ before.length ≤ m'.start := by
        split at hm'
        · cases hm'
        · next m₀ hm₀ =>
          split at hm'
          · split at hm'
            · cases hm'
            · next c later =>
              have hskip : p.findFrom (before ++ [c]).getLast? (before ++ [c]).length later =
                  some m' := by simpa using hm'
              obtain ⟨hfinds, hstart⟩ := findFrom_finds hskip
              exact ⟨by simpa using hfinds, Nat.le_trans (by simp) hstart⟩
          · cases hm'
            exact findFrom_finds hm₀
      obtain ⟨hfinds, hstart⟩ := hfound
      rcases List.mem_cons.mp hm with rfl | hm
      · exact hfinds
      · obtain ⟨passed, hpassed, hfrom⟩ := hfinds.findAllFrom_rest hstart (some m'.stop) fuel
        rw [hfrom] at hm
        have hlater := ih m hm
        rwa [List.append_assoc, List.take_append_drop] at hlater

/-- Where nothing more is found there are no more matches. -/
theorem findAllFrom_of_none {last : Option Nat} {fuel : Nat}
    (h : p.findFrom previous place rest = none) :
    p.findAllFrom previous place rest last fuel = [] := by
  cases fuel <;> simp [findAllFrom, h]

/-- A match that is not empty is taken, and the search goes on behind it. -/
theorem findAllFrom_of_some {last : Option Nat} {fuel : Nat}
    (h : p.findFrom previous place rest = some m) (hlt : m.start < m.stop) :
    p.findAllFrom previous place rest last (fuel + 1) = m ::
      p.findAllFrom (if m.stop - place == 0 then previous else rest[m.stop - place - 1]?) m.stop
        (rest.drop (m.stop - place)) (some m.stop) fuel := by
  conv =>
    lhs
    unfold findAllFrom
  simp [h, Nat.ne_of_lt hlt]

/-- A search for all matches gets to a match of some kind if each match before that ends, without
being empty, before the place where one of the kind starts. -/
theorem exists_mem_findAllFrom {P : Match → Prop} {last : Option Nat} {fuel : Nat}
    (h : p.Finds (before ++ rest) m) (hstart : before.length ≤ m.start)
    (hpass : ∀ m', p.Finds (before ++ rest) m' → m'.start ≤ m.start →
      m'.start < m'.stop ∧ (P m' ∨ m'.stop ≤ m.start)) (hfuel : rest.length < fuel) :
    ∃ m' ∈ p.findAllFrom before.getLast? before.length rest last fuel, P m' := by
  induction fuel generalizing before rest last with
  | zero => omega
  | succ fuel ih =>
    obtain ⟨m', hfind, hle⟩ := findFrom_leftmost h hstart
    obtain ⟨hfinds, hstart'⟩ := findFrom_finds hfind
    obtain ⟨hlt, hkind⟩ := hpass m' hfinds hle
    obtain ⟨passed, hpassed, hfrom⟩ := hfinds.findAllFrom_rest hstart' (some m'.stop) fuel
    rw [findAllFrom_of_some hfind hlt, hfrom]
    rcases hkind with hkind | hbefore
    · exact ⟨m', List.mem_cons_self .., hkind⟩
    · have htext : before ++ rest.take passed ++ rest.drop passed = before ++ rest := by
        rw [List.append_assoc, List.take_append_drop]
      have hbounds := hfinds.stop_le.2
      rw [List.length_append] at hbounds
      obtain ⟨found, hfound, hfoundKind⟩ := ih (htext ▸ h)
        (by rw [List.length_append, List.length_take_of_le (by omega)]; omega) (htext ▸ hpass)
        (by rw [List.length_drop]; omega)
      exact ⟨found, List.mem_cons_of_mem _ hfound, hfoundKind⟩

/-- A search finds a match of the text. -/
theorem find?_finds (h : p.find? text = some m) : p.Finds text m := by
  have hfound : p.findFrom ([] : List Char).getLast? ([] : List Char).length text = some m := h
  exact (findFrom_finds hfound).1

/-- A search finds a leftmost match. -/
theorem find?_leftmost (h : p.Finds text m) :
    ∃ m', p.find? text = some m' ∧ m'.start ≤ m.start := by
  have htext : p.Finds ([] ++ text) m := h
  exact findFrom_leftmost htext (Nat.zero_le _)

/-- A search of a text finds something iff the expression matches somewhere. -/
theorem exists_find?_iff {r : Regex} :
    (∃ m, (ofRegex r).find? text = some m) ↔ ∃ m, r.MatchesAt text m := by
  constructor
  · rintro ⟨m, hfind⟩
    exact ⟨m, finds_ofRegex.mp (find?_finds hfind)⟩
  · rintro ⟨m, hmatches⟩
    obtain ⟨found, hfound, -⟩ := find?_leftmost (finds_ofRegex.mpr hmatches)
    exact ⟨found, hfound⟩

/-- Whatever is among all matches in a text is a match. -/
theorem findAll_finds (h : m ∈ p.findAll text) : p.Finds text m := by
  have hall : m ∈ p.findAllFrom ([] : List Char).getLast? ([] : List Char).length text none
    (text.length + 2) := h
  exact findAllFrom_finds m hall

/-- Among all matches in a text is one of some kind if each match before that ends, without being
empty, before the place where one of the kind starts. -/
theorem exists_kind_mem_findAll {P : Match → Prop} (h : p.Finds text m)
    (hpass : ∀ m', p.Finds text m' → m'.start ≤ m.start →
      m'.start < m'.stop ∧ (P m' ∨ m'.stop ≤ m.start)) :
    ∃ m' ∈ p.findAll text, P m' := by
  have htext : p.Finds ([] ++ text) m := h
  exact exists_mem_findAllFrom htext (Nat.zero_le _) hpass (by omega)

/-- A leftmost match is among all matches in a text. -/
theorem exists_mem_findAll (h : p.Finds text m) :
    ∃ m' ∈ p.findAll text, m'.start ≤ m.start := by
  obtain ⟨m', hfind, hle⟩ := find?_leftmost h
  refine ⟨m', ?_, hle⟩
  have hfrom : p.findFrom none 0 text = some m' := hfind
  simp [findAll, findAllFrom, hfrom]

end Program

end ArtifactPipeline.Regex
