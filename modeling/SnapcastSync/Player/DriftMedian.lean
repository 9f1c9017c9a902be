import Mathlib.Data.List.Perm.Subperm
import SnapcastSync.Lib.OrderStatistic
import SnapcastSync.Lib.Run
import SnapcastSync.Lib.SlotRing
import SnapcastSync.Player.Ledger

/-! The drift median of a sync report: the samples go round a ring whose index is never reset,
while the report sorts as many slots from the first on as the window has samples. -/

namespace Player

def driftWindow : Nat := 33
def driftSampleEveryChunks : Nat := 4
def reportEveryErrSamples : Nat := 128

structure DriftSample where
  driftUs : Int
  taken : Nat
deriving DecidableEq, Repr

/-- The window of the sync report. What the code does not keep is the log of all samples, the
newest first, and how many had been taken when the window began and when the accounting was last
re-baselined. -/
structure DriftReport where
  errCount : Nat
  driftSampleCountdown : Nat
  driftWindowUs : SlotRing DriftSample driftWindow
  driftSamples : Nat
  driftMedLastUs : Int
  log : List DriftSample
  taken : Nat
  begunAt : Nat
  rebaselinedAt : Nat

namespace DriftReport

def initial : DriftReport :=
  { errCount := 0
    driftSampleCountdown := 1
    driftWindowUs := SlotRing.blank { driftUs := 0, taken := 0 } (by decide)
    driftSamples := 0
    driftMedLastUs := driftUnknown
    log := []
    taken := 0
    begunAt := 0
    rebaselinedAt := 0 }

/-- The slots that the report copies out and sorts. -/
def sorted (window : DriftReport) : List DriftSample :=
  window.driftWindowUs.slots.take (min window.driftSamples driftWindow)

def own (window : DriftReport) : List DriftSample :=
  window.log.take (min window.driftSamples driftWindow)

/-- The element that `nth_element` puts in the middle. -/
def middle (drifts : List Int) : Int := OrderStatistic.nth drifts (drifts.length / 2) 0

def driftMedUs (window : DriftReport) : Int :=
  if 0 < window.driftSamples then middle (window.sorted.map DriftSample.driftUs)
  else driftUnknown

def report (window : DriftReport) : DriftReport :=
  { window with
    errCount := 0
    driftMedLastUs := window.driftMedUs
    driftSamples := 0
    begunAt := window.taken }

def reports (window : DriftReport) : Bool :=
  decide (reportEveryErrSamples ≤ window.errCount + 1)

def logSyncReport (window : DriftReport) : DriftReport :=
  if window.reports then window.report
  else { window with errCount := window.errCount + 1 }

def addSample (window : DriftReport) (driftUs : Int) : DriftReport :=
  { window with
    driftWindowUs := window.driftWindowUs.append { driftUs := driftUs, taken := window.taken }
    driftSamples := window.driftSamples + 1
    log := { driftUs := driftUs, taken := window.taken } :: window.log
    taken := window.taken + 1 }

def chunkEnd (window : DriftReport) (drift : Option Int) : DriftReport :=
  if window.driftSampleCountdown - 1 = 0 then
    let again := { window with driftSampleCountdown := driftSampleEveryChunks }
    match drift with
    | none => again
    | some driftUs => again.addSample driftUs
  else { window with driftSampleCountdown := window.driftSampleCountdown - 1 }

inductive Event where
  | logSyncReport
  | chunkEnd (drift : Option Int)
  | rebaseline
deriving DecidableEq, Repr

def step (window : DriftReport) : Event → DriftReport
  | .logSyncReport => window.logSyncReport
  | .chunkEnd drift => window.chunkEnd drift
  | .rebaseline => { window with rebaselinedAt := window.taken }

/-- What a report sorts are samples of its window, taken since the last re-baseline, and as many
different ones as the window has, up to a round of the ring; and the median it acts on and hands
to the unmute gate is the middle one of the window's own samples, and unknown where it has
none. -/
def Describes (window : DriftReport) (event : Event) : Prop :=
  event = .logSyncReport → window.reports = true →
    (∀ sample ∈ window.sorted,
      window.begunAt ≤ sample.taken ∧ window.rebaselinedAt ≤ sample.taken) ∧
    (window.sorted.map DriftSample.taken).Nodup ∧
    window.sorted.length = min window.driftSamples driftWindow ∧
    (window.driftSamples = 0 → window.driftMedUs = driftUnknown) ∧
    (0 < window.driftSamples →
      OrderStatistic.IsNth (window.own.map DriftSample.driftUs) (window.own.length / 2)
        window.driftMedUs) ∧
    (window.step event).driftMedLastUs = window.driftMedUs

instance (window : DriftReport) (event : Event) : Decidable (window.Describes event) := by
  unfold Describes
  infer_instance

/-- The window has no sample; or it began at the first slot, with no re-baseline since; or a
whole round of samples was taken since it began and since the last re-baseline. -/
def Aligned (window : DriftReport) (event : Event) : Prop :=
  event = .logSyncReport → window.reports = true →
    window.driftSamples = 0 ∨
      (window.begunAt % driftWindow = 0 ∧ window.rebaselinedAt ≤ window.begunAt) ∨
      (driftWindow ≤ window.driftSamples ∧ window.rebaselinedAt + driftWindow ≤ window.taken)

def Logged (window : DriftReport) : Prop :=
  window.log.length = window.taken ∧
    (∀ (place : Nat) (sample : DriftSample), window.log[place]? = some sample →
      sample.taken + place + 1 = window.taken) ∧
    ∀ (slot : Nat) (sample : DriftSample), window.driftWindowUs.slots[slot]? = some sample →
      slot < window.taken → sample ∈ window.log

def Counted (window : DriftReport) : Prop :=
  window.driftWindowUs.Latest DriftSample.taken window.taken ∧
    window.begunAt + window.driftSamples = window.taken ∧
    window.rebaselinedAt ≤ window.taken ∧ window.Logged

theorem initial_logged : initial.Logged := by
  refine ⟨rfl, fun place sample present => ?_, fun slot sample _ early => ?_⟩
  · cases present
  · exact absurd early (Nat.not_lt_zero slot)

theorem initial_counted : initial.Counted :=
  ⟨SlotRing.latest_blank _ _ _, rfl, le_refl _, initial_logged⟩

theorem addSample_logged (window : DriftReport) (driftUs : Int)
    (next : window.driftWindowUs.next = window.taken % driftWindow) (logged : window.Logged) :
    (window.addSample driftUs).Logged := by
  obtain ⟨all, placed, copied⟩ := logged
  refine ⟨congrArg (· + 1) all, fun place sample present => ?_, fun slot sample present early => ?_⟩
  · cases place with
    | zero =>
        cases present
        rfl
    | succ earlier =>
        have at' := placed earlier sample present
        change sample.taken + (earlier + 1) + 1 = window.taken + 1
        omega
  · change (window.driftWindowUs.slots.set _ _)[slot]? = some sample at present
    change sample ∈ _ :: window.log
    have bound : slot < driftWindow := by
      have within := (List.getElem?_eq_some_iff.mp present).1
      rw [List.length_set, window.driftWindowUs.full] at within
      exact within
    by_cases here : window.driftWindowUs.next = slot
    · rw [here, List.getElem?_set_self (window.driftWindowUs.full.symm ▸ bound)] at present
      cases present
      exact List.mem_cons_self
    · rw [List.getElem?_set_ne here] at present
      refine List.mem_cons_of_mem _ (copied slot sample present ?_)
      -- the slot of the new sample's own turn is the one just written
      by_contra unwritten
      have same : slot = window.taken := Nat.le_antisymm (Nat.le_of_lt_succ early) (by omega)
      rw [next, ← same, Nat.mod_eq_of_lt bound] at here
      exact here rfl

theorem addSample_counted (window : DriftReport) (driftUs : Int) (counted : window.Counted) :
    (window.addSample driftUs).Counted := by
  obtain ⟨latest, samples, rebaselined, logged⟩ := counted
  refine ⟨SlotRing.latest_append _ _ _ _ rfl latest, ?_, Nat.le_succ_of_le rebaselined,
    window.addSample_logged driftUs latest.1 logged⟩
  change window.begunAt + (window.driftSamples + 1) = window.taken + 1
  omega

theorem step_counted (window : DriftReport) (event : Event) (counted : window.Counted) :
    (window.step event).Counted := by
  cases event with
  | logSyncReport =>
      rw [step, logSyncReport]
      split
      · exact ⟨counted.1, rfl, counted.2.2⟩
      · exact counted
  | chunkEnd drift =>
      rw [step, chunkEnd]
      split
      · split
        · exact counted
        · exact addSample_counted _ _ counted
      · exact counted
  | rebaseline => exact ⟨counted.1, counted.2.1, le_refl _, counted.2.2.2⟩

theorem mem_sorted_iff (window : DriftReport) (sample : DriftSample) :
    sample ∈ window.sorted ↔
      ∃ slot < min window.driftSamples driftWindow,
        window.driftWindowUs.slots[slot]? = some sample := by
  rw [sorted, List.mem_iff_getElem?]
  constructor
  · rintro ⟨slot, present⟩
    rw [List.getElem?_take] at present
    split at present
    · rename_i within
      exact ⟨slot, within, present⟩
    · cases present
  · rintro ⟨slot, within, present⟩
    refine ⟨slot, ?_⟩
    rw [List.getElem?_take, if_pos within]
    exact present

theorem exists_slot (window : DriftReport) (slot : Nat) (within : slot < driftWindow) :
    ∃ sample, window.driftWindowUs.slots[slot]? = some sample :=
  ⟨_, List.getElem?_eq_getElem (window.driftWindowUs.full.symm ▸ within)⟩

theorem sorted_different (window : DriftReport) (counted : window.Counted) :
    (window.sorted.map DriftSample.taken).Nodup ∧
      window.sorted.length = min window.driftSamples driftWindow := by
  obtain ⟨latest, samples, _⟩ := counted
  constructor
  · exact SlotRing.latest_take_nodup _ _ _ latest _ (by omega)
  · rw [sorted, List.length_take, window.driftWindowUs.full]
    omega

theorem sorted_perm_own (window : DriftReport) (counted : window.Counted)
    (current : ∀ sample ∈ window.sorted, window.begunAt ≤ sample.taken) :
    window.sorted.Perm window.own := by
  obtain ⟨different, length⟩ := window.sorted_different counted
  obtain ⟨⟨_, latest⟩, samples, _, all, placed, copied⟩ := counted
  have subset : window.sorted ⊆ window.own := by
    intro sample member
    obtain ⟨slot, within, present⟩ := (window.mem_sorted_iff sample).mp member
    have early : slot < window.taken := by omega
    obtain ⟨_, _, recent⟩ := latest slot sample present early
    obtain ⟨place, at'⟩ := List.mem_iff_getElem?.mp (copied slot sample present early)
    have numbered := placed place sample at'
    have begun := current sample member
    have near : place < min window.driftSamples driftWindow := by
      rw [driftWindow] at *
      omega
    rw [own, List.mem_iff_getElem?]
    exact ⟨place, (List.getElem?_take_of_lt near).trans at'⟩
  refine (List.subperm_of_subset different.of_map subset).perm_of_length_le ?_
  rw [length, own, List.length_take]
  exact Nat.min_le_left _ _

theorem driftMedUs_isNth (window : DriftReport) (counted : window.Counted)
    (current : ∀ sample ∈ window.sorted, window.begunAt ≤ sample.taken)
    (some' : 0 < window.driftSamples) :
    OrderStatistic.IsNth (window.own.map DriftSample.driftUs) (window.own.length / 2)
      window.driftMedUs := by
  have length := (window.sorted_different counted).2
  have same := window.sorted_perm_own counted current
  have positive : 0 < driftWindow := by decide
  have filled : 0 < window.sorted.length := by omega
  rw [driftMedUs, if_pos some', middle, List.length_map, ← same.length_eq]
  refine (OrderStatistic.nth_isNth _ _ 0 ?_).perm (same.map DriftSample.driftUs)
  rw [List.length_map]
  omega

theorem step_driftMedLastUs (window : DriftReport) (reports : window.reports = true) :
    (window.step .logSyncReport).driftMedLastUs = window.driftMedUs := by
  rw [step, logSyncReport, if_pos reports, report]

theorem describes_iff (window : DriftReport) (event : Event) (counted : window.Counted) :
    window.Describes event ↔ window.Aligned event := by
  have different := window.sorted_different counted
  have median := window.driftMedUs_isNth counted
  obtain ⟨⟨_, latest⟩, samples, rebaselined, _⟩ := counted
  refine imp_congr_right fun isReport => imp_congr_right fun reports => ?_
  constructor
  · rintro ⟨describes, _⟩
    have sortedAt (slot : Nat) (within : slot < min window.driftSamples driftWindow) :
        ∃ taken, window.begunAt ≤ taken ∧ window.rebaselinedAt ≤ taken ∧
          taken % driftWindow = slot ∧ taken < window.taken ∧
          window.taken ≤ taken + driftWindow := by
      obtain ⟨sample, present⟩ := window.exists_slot slot (by omega)
      have held := latest slot sample present (by omega)
      have current := describes sample ((window.mem_sorted_iff sample).mpr ⟨slot, within, present⟩)
      exact ⟨sample.taken, current.1, current.2, held⟩
    rw [driftWindow] at sortedAt ⊢
    by_cases none : window.driftSamples = 0
    · exact Or.inl none
    · by_cases round : 33 ≤ window.driftSamples
      · -- the slot that is written next holds the oldest sample
        obtain ⟨taken, _, _, _, _, _⟩ := sortedAt (window.taken % 33) (by omega)
        exact Or.inr (Or.inr ⟨round, by omega⟩)
      · have first : window.begunAt % 33 = 0 := by
          by_contra later
          -- a slot before the window's first one is sorted, and is reached a round later only
          obtain ⟨taken, _, _, _, _, _⟩ :=
            sortedAt (min window.driftSamples (window.begunAt % 33) - 1) (by omega)
          omega
        obtain ⟨taken, _, _, _, _, _⟩ := sortedAt 0 (by omega)
        exact Or.inr (Or.inl ⟨first, by omega⟩)
  · intro aligned
    have current (sample : DriftSample) (member : sample ∈ window.sorted) :
        window.begunAt ≤ sample.taken ∧ window.rebaselinedAt ≤ sample.taken := by
      obtain ⟨slot, within, present⟩ := (window.mem_sorted_iff sample).mp member
      have held := latest slot sample present (by omega)
      rw [driftWindow] at *
      omega
    refine ⟨current, different.1, different.2, fun none => ?_,
      median fun sample member => (current sample member).1, ?_⟩
    · rw [driftMedUs, if_neg (by omega)]
    · rw [isReport, step_driftMedLastUs window reports]

/-- In a run the median of every report describes its own window just when every report is of
one of the three kinds. -/
theorem describes_run_iff (events : List Event) :
    Run.Along step Describes initial events ↔ Run.Along step Aligned initial events :=
  Run.along_iff_of_invariant step Counted (fun _ => True) Describes Aligned
    (fun window event counted _ => window.step_counted event counted)
    (fun window event counted _ => window.describes_iff event counted) initial events
    initial_counted (fun _ _ => trivial)

def steadyChunk (driftUs : Int) : List Event := [.logSyncReport, .chunkEnd (some driftUs)]

theorem second_window_mixed :
    ¬ ∀ events : List Event, Run.Along step Describes initial events := by
  intro always
  have described := always ((List.replicate 256 (steadyChunk 0)).flatten)
  revert described
  decide +kernel

end DriftReport

end Player
