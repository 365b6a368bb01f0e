import LiveTree.Metrics
import Mathlib.Algebra.Order.BigOperators.Group.List
import Mathlib.Algebra.Order.Ring.Nat
import Mathlib.Order.Bounds.Basic

/-!
# Statistics of durations

The statistics of an operation are read off its sorted durations.  What stands at a position of a
sorted list can be said without sorting: `HasRank` counts the durations that are shorter and those that
are not longer.  A list has one element of each rank, and it does not matter in which order the list
is, so statistics follow from what was recorded, however it was recorded.

## Key results

- `HasRank.le_of_le`: longer durations have higher ranks, and `hasRank_getElem?`: ranks are positions
- `summarizeInBounds?_eq`: all positions that are looked up are inside the list
- `describes_summarize`, `Stats.Describes.unique`: what the statistics say of the durations, and
  nothing else says the same
- `timings_described`: the statistics of an operation, whatever else was recorded meanwhile
-/

namespace LiveTree

namespace Metrics

variable {durations others : List Nat} {rank higher duration longer : Nat}

/-! ## Ranks -/

/-- A duration has a rank in a list: no more of them are shorter, and more are not longer.  So it
    stands at that position when the list is sorted. -/
def HasRank (durations : List Nat) (rank duration : Nat) : Prop :=
  durations.countP (· < duration) ≤ rank ∧ rank < durations.countP (· ≤ duration)

/-- Whether a duration has a rank can be tried out. -/
instance (durations : List Nat) (rank duration : Nat) : Decidable (HasRank durations rank duration) :=
  inferInstanceAs (Decidable (_ ∧ _))

/-- What has a rank is one of the durations. -/
theorem HasRank.mem (h : HasRank durations rank duration) : duration ∈ durations := by
  -- Otherwise those that are not longer are the same as those that are shorter.
  by_contra hmem
  have hle : durations.countP (· ≤ duration) ≤ durations.countP (· < duration) := by
    apply List.countP_mono_left
    intro other hother hle
    have hne : other ≠ duration := fun heq => hmem (heq ▸ hother)
    simp only [decide_eq_true_eq] at hle ⊢
    omega
  have := h.1
  have := h.2
  omega

/-- Durations of higher ranks are not shorter. -/
theorem HasRank.le_of_le (h : HasRank durations rank duration)
    (hhigher : HasRank durations higher longer) (le : rank ≤ higher) : duration ≤ longer := by
  -- If it were shorter, all that are not longer than the second would be shorter than the first.
  by_contra hlt
  have hle : durations.countP (· ≤ longer) ≤ durations.countP (· < duration) := by
    apply List.countP_mono_left
    intro other _ hother
    simp only [decide_eq_true_eq] at hother ⊢
    omega
  have := h.1
  have := hhigher.2
  omega

/-- A list has one duration of each rank. -/
theorem HasRank.unique (h : HasRank durations rank duration)
    (hlonger : HasRank durations rank longer) : duration = longer :=
  Nat.le_antisymm (h.le_of_le hlonger (Nat.le_refl rank)) (hlonger.le_of_le h (Nat.le_refl rank))

/-- Ranks do not depend on the order of the durations. -/
theorem hasRank_congr (perm : durations.Perm others) :
    HasRank durations rank duration ↔ HasRank others rank duration := by
  unfold HasRank
  rw [perm.countP_eq, perm.countP_eq]

/-- In a sorted list ranks are positions. -/
theorem hasRank_getElem? (sorted : durations.Pairwise (· ≤ ·))
    (found : durations[rank]? = some duration) : HasRank durations rank duration := by
  obtain ⟨inside, hduration⟩ := List.getElem?_eq_some_iff.1 found
  -- The duration stands between those before it and those after it.
  have hsplit : durations = durations.take rank ++ duration :: durations.drop (rank + 1) := by
    rw [← hduration, ← List.drop_eq_getElem_cons inside, List.take_append_drop]
  have hlength : (durations.take rank).length = rank := List.length_take_of_le inside.le
  -- equal durations may stand on both sides, so those before it are no longer, not all of them shorter
  rw [hsplit] at sorted ⊢
  obtain ⟨-, hrest, hbefore⟩ := List.pairwise_append.1 sorted
  have hafter := (List.pairwise_cons.1 hrest).1
  -- None of those after it is shorter, and all of those before it are no longer.
  have hshorter : (durations.drop (rank + 1)).countP (· < duration) = 0 := by
    apply List.countP_eq_zero.2
    intro other hother
    simpa using hafter other hother
  have hall : (durations.take rank).countP (· ≤ duration) = rank := by
    rw [List.countP_eq_length.2, hlength]
    intro other hother
    simpa using hbefore other hother duration List.mem_cons_self
  have hcount : (durations.take rank).countP (· < duration) ≤ (durations.take rank).length :=
    List.countP_le_length
  constructor
  · rw [List.countP_append, List.countP_cons, hshorter]
    simp only [lt_self_iff_false, decide_false, Bool.false_eq_true, if_false]
    omega
  · rw [List.countP_append, List.countP_cons, hall]
    simp only [le_refl, decide_true, if_true]
    omega

/-- The duration of rank zero is the least. -/
theorem HasRank.isLeast (h : HasRank durations 0 duration) :
    IsLeast {d | d ∈ durations} duration := by
  refine ⟨h.mem, fun other hother => ?_⟩
  have hnone := List.countP_eq_zero.1 (Nat.le_zero.1 h.1) other hother
  simpa using hnone

/-- The duration of the last rank is the greatest. -/
theorem HasRank.isGreatest (h : HasRank durations (durations.length - 1) duration) :
    IsGreatest {d | d ∈ durations} duration := by
  refine ⟨h.mem, fun other hother => ?_⟩
  have hle : durations.countP (· ≤ duration) ≤ durations.length := List.countP_le_length
  have hall : durations.countP (· ≤ duration) = durations.length := by
    have := h.2
    omega
  simpa using List.countP_eq_length.1 hall other hother

/-! ## Positions -/

/-- Sorting puts the durations in order. -/
theorem pairwise_mergeSort (durations : List Nat) : durations.mergeSort.Pairwise (· ≤ ·) := by
  have hsorted : durations.mergeSort.Pairwise fun a b => decide (a ≤ b) = true :=
    List.pairwise_mergeSort
      (fun a b c hab hbc => by simp only [decide_eq_true_eq] at *; omega)
      (fun a b => by simpa using Nat.le_total a b) durations
  simpa using hsorted

/-- Inside the list nothing has to be clamped. -/
theorem getElem?_mergeSort (inside : rank < durations.length) :
    durations.mergeSort[rank]? = some (pick durations.mergeSort rank) := by
  have hinside : rank < durations.mergeSort.length := by rwa [List.length_mergeSort]
  have hmin : min rank (durations.mergeSort.length - 1) = rank := by omega
  rw [pick, hmin, List.getElem?_eq_getElem hinside, Option.getD_some]

/-- What is picked from the sorted durations has the rank of its position. -/
theorem hasRank_pick (inside : rank < durations.length) :
    HasRank durations rank (pick durations.mergeSort rank) :=
  (hasRank_congr (List.mergeSort_perm durations _)).1
    (hasRank_getElem? (pairwise_mergeSort durations) (getElem?_mergeSort inside))

/-- `summarize` with every look-up checked: `none` if a position is outside the list.  Only the
    positions of the two highest percentiles are clamped. -/
def summarizeInBounds? (durations : List Nat) : Option Stats := do
  let sorted := durations.mergeSort
  let n := sorted.length
  let least ← sorted[0]?
  let greatest ← sorted[n - 1]?
  let p50 ← sorted[n / 2]?
  let p95 ← sorted[min (95 * n / 100) (n - 1)]?
  let p99 ← sorted[min (99 * n / 100) (n - 1)]?
  return { count := n, least, greatest, mean := total sorted / n, p50, p95, p99 }

/-- No position that is looked up is outside the list. -/
theorem summarizeInBounds?_eq (recorded : durations ≠ []) :
    summarizeInBounds? durations = some (summarize durations) := by
  have hpos : 0 < durations.length := List.length_pos_iff.2 recorded
  -- Less than the whole of a list is before its end, so the clamping is idle.
  have h95 : min (95 * durations.length / 100) (durations.length - 1) =
      95 * durations.length / 100 := by omega
  have h99 : min (99 * durations.length / 100) (durations.length - 1) =
      99 * durations.length / 100 := by omega
  unfold summarizeInBounds? summarize
  dsimp only
  rw [List.length_mergeSort, h95, h99, getElem?_mergeSort hpos, getElem?_mergeSort (by omega),
    getElem?_mergeSort (by omega), getElem?_mergeSort (by omega), getElem?_mergeSort (by omega)]
  rfl

end Metrics

/-! ## What statistics say -/

/-- Statistics tell how many durations there are, the least and the greatest of them, their sum shared
    equally, and those of three ranks. -/
structure Stats.Describes (s : Stats) (durations : List Nat) : Prop where
  count : s.count = durations.length
  least : IsLeast {d | d ∈ durations} s.least
  greatest : IsGreatest {d | d ∈ durations} s.greatest
  mean : s.mean = durations.sum / durations.length
  p50 : Metrics.HasRank durations (durations.length / 2) s.p50
  p95 : Metrics.HasRank durations (95 * durations.length / 100) s.p95
  p99 : Metrics.HasRank durations (99 * durations.length / 100) s.p99

namespace Stats

variable {s other : Stats} {durations others : List Nat}

/-- The durations leave no choice of their statistics. -/
theorem Describes.unique (h : s.Describes durations) (hother : other.Describes durations) :
    s = other := by
  -- Each field is determined by the durations: the extremes and the ranks are unique.
  cases s
  cases other
  congr 1
  · exact h.count.trans hother.count.symm
  · exact h.least.unique hother.least
  · exact h.greatest.unique hother.greatest
  · exact h.mean.trans hother.mean.symm
  · exact h.p50.unique hother.p50
  · exact h.p95.unique hother.p95
  · exact h.p99.unique hother.p99

/-- The order of the durations does not matter. -/
theorem Describes.congr (h : s.Describes durations) (perm : durations.Perm others) :
    s.Describes others := by
  have hset : {d | d ∈ durations} = {d | d ∈ others} := Set.ext fun d => perm.mem_iff
  constructor
  case count => rw [h.count, perm.length_eq]
  case least => exact hset ▸ h.least
  case greatest => exact hset ▸ h.greatest
  case mean => rw [h.mean, perm.sum_nat, perm.length_eq]
  case p50 => exact perm.length_eq ▸ (Metrics.hasRank_congr perm).1 h.p50
  case p95 => exact perm.length_eq ▸ (Metrics.hasRank_congr perm).1 h.p95
  case p99 => exact perm.length_eq ▸ (Metrics.hasRank_congr perm).1 h.p99

/-- What has a least duration has a duration. -/
theorem Describes.length_pos (h : s.Describes durations) : 0 < durations.length :=
  List.length_pos_of_mem h.least.1

/-- The least duration is not above the mean. -/
theorem Describes.least_le_mean (h : s.Describes durations) : s.least ≤ s.mean := by
  -- As many times the least as there are durations is no more than their sum.
  have hsum : durations.length * s.least ≤ durations.sum :=
    List.card_nsmul_le_sum durations s.least fun d hd => h.least.2 hd
  rw [h.mean]
  exact (Nat.le_div_iff_mul_le h.length_pos).2 (Nat.mul_comm _ _ ▸ hsum)

/-- The mean is not above the greatest duration. -/
theorem Describes.mean_le_greatest (h : s.Describes durations) : s.mean ≤ s.greatest := by
  have hsum : durations.sum ≤ durations.length * s.greatest :=
    List.sum_le_card_nsmul durations s.greatest fun d hd => h.greatest.2 hd
  rw [h.mean]
  exact Nat.div_le_of_le_mul hsum

end Stats

namespace Metrics

variable {durations : List Nat} {m : Metrics} {operation : String}

/-- The statistics that are computed describe the durations. -/
theorem describes_summarize (recorded : durations ≠ []) :
    (summarize durations).Describes durations := by
  have hpos : 0 < durations.length := List.length_pos_iff.2 recorded
  have hlength : durations.mergeSort.length = durations.length := List.length_mergeSort _
  -- Adding up from the left is the sum, in whatever order.
  have htotal : total durations.mergeSort = durations.sum := by
    rw [total, ← List.sum_eq_foldl]
    exact (List.mergeSort_perm durations _).sum_nat
  unfold summarize
  dsimp only
  rw [hlength, htotal]
  constructor
  case count => rfl
  case least => exact (hasRank_pick hpos).isLeast
  case greatest => exact (hasRank_pick (by omega)).isGreatest
  case mean => rfl
  case p50 => exact hasRank_pick (by omega)
  case p95 => exact hasRank_pick (by omega)
  case p99 => exact hasRank_pick (by omega)

/-! ## What was recorded -/

/-- Durations in nanoseconds as they are recorded. -/
def micros (nanos : List Nat) : List Nat := nanos.map (· / 1000)

/-- Records durations, each of its operation, one after another. -/
def recordTimings (m : Metrics) (recordings : List (String × Nat)) : Metrics :=
  recordings.foldl (fun m recording => m.recordTiming recording.1 recording.2) m

/-- The durations of one operation among recordings. -/
def ofOperation (operation : String) (recordings : List (String × Nat)) : List Nat :=
  (recordings.filter (·.1 == operation)).map (·.2)

/-- The durations of an operation are those that were recorded for it. -/
theorem durations_recordTimings (m : Metrics) (operation : String) (recordings : List (String × Nat)) :
    ((m.recordTimings recordings).durations operation).Perm
      (micros (ofOperation operation recordings) ++ m.durations operation) := by
  -- By induction on the recordings, for whatever has been recorded before.
  induction recordings generalizing m with
  | nil => exact List.Perm.refl _
  | cons recording rest ih =>
    have hrest := ih (m.recordTiming recording.1 recording.2)
    by_cases hsame : recording.1 = operation
    · have hnow : (m.recordTiming recording.1 recording.2).durations operation =
          recording.2 / 1000 :: m.durations operation := by
        simp [recordTiming, durations, hsame]
      have hmicros : micros (ofOperation operation (recording :: rest)) =
          recording.2 / 1000 :: micros (ofOperation operation rest) := by
        simp [micros, ofOperation, hsame]
      rw [hnow] at hrest
      rw [hmicros]
      exact hrest.trans List.perm_middle
    -- A recording of another operation leaves the durations as they are.
    · have hnow : (m.recordTiming recording.1 recording.2).durations operation =
          m.durations operation := by
        simp [recordTiming, durations, hsame]
      have hmicros : micros (ofOperation operation (recording :: rest)) =
          micros (ofOperation operation rest) := by
        simp [micros, ofOperation, hsame]
      rw [hnow] at hrest
      rw [hmicros]
      exact hrest

/-- Where something was recorded and the sum fits, the statistics are those of the durations. -/
theorem stats_eq_summarize (recorded : m.durations operation ≠ [])
    (fits : (m.durations operation).sum < UInt64.size) :
    m.stats operation = .ok (some (summarize (m.durations operation))) := by
  unfold stats
  split
  · next hnone => exact absurd hnone recorded
  · rw [total, ← List.sum_eq_foldl, if_pos fits]

/-- Some durations of an operation have one and the same statistics in whatever order they are
    recorded, and whatever is recorded of other operations before, between and after them.  The
    statistics tell the number of the durations, the least and the greatest, which are on both sides of
    their mean, and of the percentiles, which are durations themselves and in order.  No look-up is
    outside the list.

    The durations count in whole microseconds, and their sum has to be a 64-bit word. -/
theorem timings_described (operation : String) {nanos : List Nat} (recorded : nanos ≠ [])
    (fits : (micros nanos).sum < UInt64.size) :
    ∃ s : Stats, s.Describes (micros nanos) ∧
      s.least ≤ s.mean ∧ s.mean ≤ s.greatest ∧
      s.least ≤ s.p50 ∧ s.p50 ≤ s.p95 ∧ s.p95 ≤ s.p99 ∧ s.p99 ≤ s.greatest ∧
      s.p50 ∈ micros nanos ∧ s.p95 ∈ micros nanos ∧ s.p99 ∈ micros nanos ∧
      ∀ (m : Metrics) (recordings : List (String × Nat)), m.durations operation = [] →
        (ofOperation operation recordings).Perm nanos →
        (m.recordTimings recordings).stats operation = .ok (some s) ∧
          summarizeInBounds? ((m.recordTimings recordings).durations operation) = some s := by
  have hrecorded : micros nanos ≠ [] := by simpa [micros] using recorded
  have hdescribes := describes_summarize hrecorded
  refine ⟨summarize (micros nanos), hdescribes, hdescribes.least_le_mean, hdescribes.mean_le_greatest,
    hdescribes.least.2 hdescribes.p50.mem, hdescribes.p50.le_of_le hdescribes.p95 (by omega),
    hdescribes.p95.le_of_le hdescribes.p99 (by omega), hdescribes.greatest.2 hdescribes.p99.mem,
    hdescribes.p50.mem, hdescribes.p95.mem, hdescribes.p99.mem, ?_⟩
  intro m recordings hnone hperm
  -- The durations that are there in the end are the recorded ones, in some order.
  have hdurations : ((m.recordTimings recordings).durations operation).Perm (micros nanos) := by
    have hall := m.durations_recordTimings operation recordings
    rw [hnone, List.append_nil] at hall
    exact hall.trans (hperm.map _)
  have hsome : (m.recordTimings recordings).durations operation ≠ [] := fun hnil =>
    hrecorded (List.Perm.nil_eq (hnil ▸ hdurations)).symm
  have hsame :
      summarize ((m.recordTimings recordings).durations operation) = summarize (micros nanos) :=
    ((describes_summarize hsome).congr hdurations).unique hdescribes
  rw [stats_eq_summarize hsome (by rwa [hdurations.sum_nat]), summarizeInBounds?_eq hsome, hsame]
  exact ⟨rfl, rfl⟩

/-- Four durations of one operation, with two of another in between. -/
def interleaved : List (String × Nat) :=
  [("verify", 7000), ("parse", 200000), ("parse", 100999), ("verify", 1), ("parse", 150000),
    ("parse", 100000)]

/-- Recordings of another operation in between do not matter to the statistics of this one. -/
theorem timings_described_interleaved :
    let nanos := [100000, 100999, 150000, 200000]
    let s : Stats := ⟨4, 100, 200, 137, 150, 200, 200⟩
    (micros nanos).sum < UInt64.size ∧ (ofOperation "parse" interleaved).Perm nanos ∧
      s.Describes (micros nanos) ∧ s.p50 ∈ micros nanos ∧
      (({} : Metrics).recordTimings interleaved).stats "parse" = .ok (some s) ∧
      summarizeInBounds? ((({} : Metrics).recordTimings interleaved).durations "parse") = some s := by
  dsimp only
  have hfits : (micros [100000, 100999, 150000, 200000]).sum < UInt64.size := by decide
  have hperm : (ofOperation "parse" interleaved).Perm [100000, 100999, 150000, 200000] := by decide
  -- The statistics as they are expected describe the durations, and nothing else does.
  have hknown : (⟨4, 100, 200, 137, 150, 200, 200⟩ : Stats).Describes
      (micros [100000, 100999, 150000, 200000]) :=
    ⟨rfl, ⟨by simp [micros], by simp [micros, mem_lowerBounds]⟩,
      ⟨by simp [micros], by simp [micros, mem_upperBounds]⟩, rfl, by decide, by decide, by decide⟩
  obtain ⟨s, hdescribes, -, -, -, -, -, -, hmem, -, -, hstats⟩ :=
    timings_described "parse" (by decide) hfits
  obtain rfl := hdescribes.unique hknown
  obtain ⟨hfound, hinside⟩ := hstats {} interleaved rfl hperm
  exact ⟨hfits, hperm, hdescribes, hmem, hfound, hinside⟩

end Metrics

end LiveTree
