import ArtifactPipeline.Store.Record

/-!
# Counters

Tokens and uses of patterns are counted in machine words. A word that has counted up to a number
holds that number as long as there is room for it, and its remainder in any case. So the counters of
a pattern, as numbers, grow by the uses with each outcome, whatever the order in which they are
counted.
-/

namespace ArtifactPipeline

/-- A machine word has counted up to a number. -/
structure Counts (word : UInt64) (number : Nat) : Prop where
  /-- The word starts again at zero behind the greatest one. -/
  remainder : word.toNat = number % UInt64.size
  /-- A number for which there is room is held as it is. -/
  exact : number < UInt64.size → word.toNat = number

namespace Counts

variable {v w : UInt64} {m n : Nat}

/-- The remainder tells the number where there is room for it. -/
theorem of_remainder (h : w.toNat = n % UInt64.size) : Counts w n :=
  ⟨h, fun hroom => h.trans (Nat.mod_eq_of_lt hroom)⟩

/-- A word counts up to itself. -/
theorem toNat (w : UInt64) : Counts w w.toNat :=
  of_remainder (Nat.mod_eq_of_lt w.toNat_lt_size).symm

/-- A number that is put into a word is counted by it. -/
theorem ofNat (n : Nat) : Counts (.ofNat n) n :=
  of_remainder UInt64.toNat_ofNat

/-- Words are added as the numbers that they count. -/
theorem add (hv : Counts v m) (hw : Counts w n) : Counts (v + w) (m + n) := by
  apply of_remainder
  calc (v + w).toNat
      = (v.toNat + w.toNat) % UInt64.size := UInt64.toNat_add v w
    _ = (m % UInt64.size + n % UInt64.size) % UInt64.size := by rw [hv.remainder, hw.remainder]
    _ = (m + n) % UInt64.size := (Nat.add_mod m n UInt64.size).symm

/-- Words that are added one after another count up to the sum of the numbers. -/
theorem foldl_add {α : Type} {word : α → UInt64} {number : α → Nat}
    (h : ∀ a, Counts (word a) (number a)) (items : List α) (hv : Counts v m) :
    Counts ((items.map word).foldl (· + ·) v) ((items.map number).foldl (· + ·) m) := by
  induction items generalizing v m with
  | nil => exact hv
  | cons a items ih => exact ih (hv.add (h a))

end Counts

namespace PatternRecord

/-- A pattern to which some more finished sessions referred. -/
def grown (p : PatternRecord) (successes failures : Nat) : PatternRecord :=
  { p with
    usageCount := p.usageCount + .ofNat (successes + failures)
    successCount := p.successCount + .ofNat successes
    failureCount := p.failureCount + .ofNat failures }

/-- A pattern has become another one by some uses with each outcome, and is the same otherwise. -/
structure Gains (p q : PatternRecord) (successes failures : Nat) : Prop where
  id : q.id = p.id
  name : q.name = p.name
  intent : q.intent = p.intent
  code : q.code = p.code
  usages : Counts q.usageCount (p.usageCount.toNat + (successes + failures))
  successes : Counts q.successCount (p.successCount.toNat + successes)
  failures : Counts q.failureCount (p.failureCount.toNat + failures)

variable (p : PatternRecord)

/-- A pattern gains the uses by which it has grown. -/
theorem gains_grown (successes failures : Nat) :
    p.Gains (p.grown successes failures) successes failures where
  id := rfl
  name := rfl
  intent := rfl
  code := rfl
  usages := (Counts.toNat _).add (.ofNat _)
  successes := (Counts.toNat _).add (.ofNat _)
  failures := (Counts.toNat _).add (.ofNat _)

/-- Without a use nothing changes. -/
@[simp] theorem grown_zero : p.grown 0 0 = p := by
  simp [grown]

/-- Uses that are counted later are added to those that were counted before. -/
theorem grown_grown (successes failures more lost : Nat) :
    (p.grown successes failures).grown more lost =
      p.grown (successes + more) (failures + lost) := by
  have huses : successes + more + (failures + lost) = successes + failures + (more + lost) := by
    omega
  simp only [grown, huses, UInt64.ofNat_add, UInt64.add_assoc]

/-- To count a use is to grow by it. -/
theorem count_eq_grown (success : Bool) :
    p.count success = p.grown (if success then 1 else 0) (if success then 0 else 1) := by
  cases success <;> rfl

/-- Of a pattern with room for its outcomes, the share of successes is that of the numbers. -/
theorem successRate_eq (hroom : p.successCount.toNat + p.failureCount.toNat < UInt64.size) :
    p.successRate =
      if p.successCount.toNat + p.failureCount.toNat = 0 then 0.0
      else p.successCount.toNat.toFloat /
        (p.successCount.toNat + p.failureCount.toNat).toFloat := by
  have hfinished : (p.successCount + p.failureCount).toNat =
      p.successCount.toNat + p.failureCount.toNat :=
    ((Counts.toNat _).add (.toNat _)).exact hroom
  have hzero : p.successCount + p.failureCount = 0 ↔
      p.successCount.toNat + p.failureCount.toNat = 0 := by
    rw [← UInt64.toNat_inj, hfinished]
    rfl
  simp only [successRate, beq_iff_eq, hzero, hfinished]

end PatternRecord

end ArtifactPipeline
