import ArtifactPipeline.Regex.Program

/-!
# Searching

A program is run over a text by keeping, at each place, the list of its threads in order of
preference. The leftmost match is found first, and of the matches that start there the one whose
choices come first. Each thread is kept at most once per instruction and place, so a search takes
time proportional to the text and the program.
-/

namespace ArtifactPipeline.Regex

/-- A run of the program that has reached an instruction. -/
structure Thread where
  pc : Nat
  /-- How many characters precede the match that the thread is trying. -/
  start : Nat
  /-- The places recorded so far, latest first. -/
  marks : List (Nat × Nat) := []
  deriving Repr, DecidableEq

/-- Where a pattern matched: the numbers of characters before its two ends, and the places recorded
for its groups, latest first. -/
structure Match where
  start : Nat
  stop : Nat
  marks : List (Nat × Nat) := []
  deriving Repr, DecidableEq

/-- The ends of the text that a group matched last. -/
def Match.group? (m : Match) (i : Nat) : Option (Nat × Nat) := do
  let start ← m.marks.lookup (2 * i)
  let stop ← m.marks.lookup (2 * i + 1)
  return (start, stop)

namespace Program

variable (p : Program)

/-- How many instructions of the program have not been visited. -/
def unseen (seen : List Nat) : Nat :=
  (List.range p.insts.size).countP fun pc => !seen.contains pc

/-- A condition that is weaker, and strictly so for some item, holds for more items. -/
theorem countP_lt_of_imp {α : Type _} {l : List α} {f g : α → Bool} {a : α} (ha : a ∈ l)
    (hga : g a = true) (hfa : f a = false) (h : ∀ x, f x = true → g x = true) :
    l.countP f < l.countP g := by
  induction l with
  | nil => cases ha
  | cons b l ih =>
    have hle : l.countP f ≤ l.countP g := List.countP_mono_left fun x _ => h x
    rcases List.mem_cons.mp ha with rfl | hal
    · simp only [List.countP_cons, hga, hfa, if_true, Bool.false_eq_true, if_false]
      omega
    · have := ih hal
      simp only [List.countP_cons]
      by_cases hf : f b = true
      · rw [if_pos hf, if_pos (h b hf)]
        omega
      · rw [if_neg hf]
        split <;> omega

/-- Visiting an instruction for the first time leaves fewer to visit. -/
theorem unseen_cons_lt {pc : Nat} {seen : List Nat} {inst : Inst} (hin : p.insts[pc]? = some inst)
    (hnew : seen.contains pc = false) : p.unseen (pc :: seen) < p.unseen seen := by
  have hlt : pc < p.insts.size := (Array.getElem?_eq_some_iff.mp hin).1
  refine countP_lt_of_imp (List.mem_range.mpr hlt) (by simpa using hnew) (by simp) fun x hx => ?_
  simp only [List.contains_cons, Bool.not_or, Bool.and_eq_true] at hx
  exact hx.2

/-- Follows choices, marks and assertions from the given threads, in order, to the threads that read
a character or accept at this place. An instruction is followed only for the first thread that
reaches it. -/
def ready (previous next : Option Char) (place : Nat) (threads : List Thread) (seen : List Nat) :
    List Thread :=
  match threads with
  | [] => []
  | t :: rest =>
    if _hseen : seen.contains t.pc then ready previous next place rest seen
    else
      match _hinst : p.insts[t.pc]? with
      | none => ready previous next place rest seen
      | some (.read _ _) | some .accept => t :: ready previous next place rest (t.pc :: seen)
      | some (.look l pc) =>
        if l.holds previous next then
          ready previous next place ({ t with pc } :: rest) (t.pc :: seen)
        else ready previous next place rest (t.pc :: seen)
      | some (.mark slot pc) =>
        ready previous next place ({ t with pc, marks := (slot, place) :: t.marks } :: rest)
          (t.pc :: seen)
      | some (.fork first second) =>
        ready previous next place ({ t with pc := first } :: { t with pc := second } :: rest)
          (t.pc :: seen)
termination_by 2 * p.unseen seen + threads.length
decreasing_by
  all_goals
    simp only [List.length_cons]
    try have := p.unseen_cons_lt _hinst (by simpa using _hseen)
    omega

/-- Whether a thread has arrived at the end of the program. -/
def accepts (t : Thread) : Bool :=
  p.insts[t.pc]? == some .accept

/-- The thread after reading a character, if it can read it. -/
def advance (c : Char) (t : Thread) : Option Thread :=
  match p.insts[t.pc]? with
  | some (.read s next) => if s.mem c then some { t with pc := next } else none
  | _ => none

/-- Runs the threads over the rest of a text. `best` is the best match found so far, which only a
thread still running can better; while there is none, each place also starts a new thread. -/
def runFrom (previous : Option Char) (place : Nat) (rest : List Char) (threads : List Thread)
    (best : Option Match) : Option Match :=
  let started := if best.isNone then threads ++ [{ pc := p.start, start := place }] else threads
  let here := p.ready previous rest.head? place started []
  let better := here.takeWhile fun t => !p.accepts t
  let best := match here.find? p.accepts with
    | some t => some ⟨t.start, place, t.marks⟩
    | none => best
  match rest with
  | [] => best
  | c :: rest =>
    let threads := better.filterMap (p.advance c)
    if threads.isEmpty && best.isSome then best
    else runFrom (some c) (place + 1) rest threads best

/-- The leftmost match that starts no earlier than the given place. `previous` is the character
before the place and `rest` the text after it. -/
def findFrom (previous : Option Char) (place : Nat) (rest : List Char) : Option Match :=
  p.runFrom previous place rest [] none

/-- The leftmost match in a text. -/
def find? (text : List Char) : Option Match :=
  p.findFrom none 0 text

/-- All matches from some place on, none overlapping another. `last` is the end of the match before,
where an empty match is not taken again. -/
def findAllFrom (previous : Option Char) (place : Nat) (rest : List Char) (last : Option Nat)
    (fuel : Nat) : List Match :=
  match fuel with
  | 0 => []
  | fuel + 1 =>
    let found := match p.findFrom previous place rest with
      | none => none
      | some m =>
        if m.start == m.stop && last == some m.stop then
          match rest with
          | [] => none
          | c :: rest => p.findFrom (some c) (place + 1) rest
        else some m
    match found with
    | none => []
    | some m =>
      let passed := m.stop - place
      let previous := if passed == 0 then previous else rest[passed - 1]?
      m :: findAllFrom previous m.stop (rest.drop passed) (some m.stop) fuel

/-- All matches in a text, from left to right, none overlapping another. -/
def findAll (text : List Char) : List Match :=
  p.findAllFrom none 0 text none (text.length + 2)

end Program

end ArtifactPipeline.Regex
