import Mathlib.Data.Rat.Floor
import Mathlib.Tactic.Linarith
import SnapcastSync.Player.Ledger

/-! What a bias of the accounting comes to: requests are spread over chunks at the ramp's rate and
spent in whole frames, with what is left of a frame carried to the next chunk. -/

namespace Player

open Rounding

/-- A ledger, with what the ramp was asked for so far, what its moves were charged with, what they
came to in time, and how many they were. -/
structure Ramp where
  ledger : Ledger
  askedUs : Int
  chargedUs : Int
  movedUs : ℚ
  moves : Nat

namespace Ramp

def initial : Ramp :=
  { ledger := Ledger.initial
    askedUs := 0
    chargedUs := 0
    movedUs := 0
    moves := 0 }

def perform (ramp : Ramp) (operation : Ledger.Operation) : Ramp :=
  let ledger := ramp.ledger.step operation
  match operation with
  | .splitRamp chunk =>
      let shift := ramp.ledger.rampShift chunk
      { ledger := ledger
        askedUs := ramp.askedUs + chunk.splitReq
        chargedUs := ramp.chargedUs + Int.tdiv (shift * 1000000) chunk.sampleRate
        movedUs := ramp.movedUs + (shift : ℚ) * 1000000 / chunk.sampleRate
        moves := ramp.moves + if shift = 0 then 0 else 1 }
  | _ => { ramp with ledger := ledger }

def run (ramp : Ramp) (operations : List Ledger.Operation) : Ramp := operations.foldl perform ramp

def chunks (operations : List Ledger.Operation) : List Ledger.RampChunk :=
  operations.filterMap fun operation =>
    match operation with
    | .splitRamp chunk => some chunk
    | _ => none

theorem armRepair_ramp (ledger : Ledger) (report : Ledger.SplitReport) :
    (ledger.armRepair report).splitRampRemainingUs = ledger.splitRampRemainingUs ∧
      (ledger.armRepair report).splitRampCarryUs = ledger.splitRampCarryUs := by
  rw [Ledger.armRepair]
  split
  · exact ⟨rfl, rfl⟩
  · split
    · exact ⟨rfl, rfl⟩
    · exact ⟨rfl, rfl⟩

theorem step_ramp (ledger : Ledger) (operation : Ledger.Operation)
    (other : ∀ chunk, operation ≠ .splitRamp chunk) :
    (ledger.step operation).splitRampRemainingUs = ledger.splitRampRemainingUs ∧
      (ledger.step operation).splitRampCarryUs = ledger.splitRampCarryUs := by
  cases operation with
  | setOutputActive active =>
      rw [Ledger.step, Ledger.setOutputActive]
      split
      · exact ⟨rfl, rfl⟩
      · exact ⟨rfl, rfl⟩
  | notifyAudioPlayed frames timestampUs =>
      rw [Ledger.step, Ledger.notifyAudioPlayed, Ledger.flushOnGap]
      split
      · exact ⟨rfl, rfl⟩
      · exact ⟨rfl, rfl⟩
  | push written frameBytes => exact ⟨rfl, rfl⟩
  | rebaselineAfterStarvation queries sampleRate nowUs =>
      rw [Ledger.step, Ledger.rebaselineAfterStarvation]
      split
      · exact ⟨rfl, rfl⟩
      · exact ⟨rfl, rfl⟩
  | repayPadding queried nowUs =>
      rw [Ledger.step, Ledger.repayPadding]
      split
      · exact ⟨rfl, rfl⟩
      · exact ⟨rfl, rfl⟩
  | splitRepair report =>
      have armed := armRepair_ramp ledger report
      rw [Ledger.step, Ledger.splitRepair]
      split
      · dsimp only
        split
        · split
          · exact armed
          · split
            · exact armed
            · split
              · exact armed
              · exact armed
        · exact armed
      · exact ⟨rfl, rfl⟩
  | prearmRepair nowUs => exact ⟨rfl, rfl⟩
  | splitRamp chunk => exact absurd rfl (other chunk)

/-- One chunk of the ramp: what a chunk takes off the request goes to the carry, and the carry is
charged with what moves. -/
theorem splitRamp_balance (ledger : Ledger) (chunk : Ledger.RampChunk) :
    (ledger.splitRamp chunk).splitRampRemainingUs + (ledger.splitRamp chunk).splitRampCarryUs +
        Int.tdiv (ledger.rampShift chunk * 1000000) chunk.sampleRate =
      ledger.splitRampRemainingUs + ledger.splitRampCarryUs + chunk.splitReq := by
  rw [Ledger.splitRamp, Ledger.rampShift]
  dsimp only
  by_cases idle : ledger.rampRemaining chunk = 0
  · rw [if_neg (not_not.mpr idle), if_pos idle, Int.zero_mul, Int.zero_tdiv]
    dsimp only
    rw [Ledger.rampRemaining]
    omega
  · rw [if_pos idle, if_neg idle]
    split
    · dsimp only
      rw [Ledger.rampRemaining]
      omega
    · rename_i nothing
      rw [not_not.mp nothing, Int.zero_mul, Int.zero_tdiv]
      dsimp only
      rw [Ledger.rampRemaining]
      omega

theorem charge_near (frames : Int) (sampleRate : Nat) (positive : 0 < sampleRate) :
    |(frames : ℚ) * 1000000 / sampleRate -
      (Int.tdiv (frames * 1000000) sampleRate : Int)| ≤ 1 := by
  have near := tdiv_near (K := ℚ) (frames * 1000000) sampleRate positive
  push_cast at near
  rw [abs_le]
  constructor
  · linarith [near.2]
  · linarith [near.1]

theorem leftover_near (timeUs : Int) (sampleRate : Nat) (positive : 0 < sampleRate) :
    let whole := Int.tdiv (timeUs * sampleRate) 1000000
    |timeUs - Int.tdiv (whole * 1000000) sampleRate| * sampleRate < 1000000 + sampleRate := by
  intro whole
  have rate : (0 : Int) < sampleRate := Int.natCast_pos.mpr positive
  have frames := Int.mul_tdiv_add_tmod (timeUs * sampleRate) 1000000
  have framesBelow := Int.tmod_lt_of_pos (timeUs * sampleRate) (by decide : (0 : Int) < 1000000)
  have framesAbove := Int.lt_tmod_of_pos (timeUs * sampleRate) (by decide : (0 : Int) < 1000000)
  have charge := Int.mul_tdiv_add_tmod (whole * 1000000) sampleRate
  have chargeBelow := Int.tmod_lt_of_pos (whole * 1000000) rate
  have chargeAbove := Int.lt_tmod_of_pos (whole * 1000000) rate
  have left : (timeUs - Int.tdiv (whole * 1000000) sampleRate) * sampleRate =
      Int.tmod (timeUs * sampleRate) 1000000 + Int.tmod (whole * 1000000) sampleRate := by
    rw [sub_mul, Int.mul_comm (Int.tdiv (whole * 1000000) sampleRate)]
    omega
  have scaled : |timeUs - Int.tdiv (whole * 1000000) sampleRate| * sampleRate =
      |(timeUs - Int.tdiv (whole * 1000000) sampleRate) * sampleRate| := by
    rw [abs_mul, abs_of_pos rate]
  rw [scaled, left, abs_lt]
  omega

theorem carry_lower (carryUs : Int) (lowest sampleRate : Nat) (rate : lowest ≤ sampleRate)
    (bound : |carryUs| * sampleRate < 1000000 + sampleRate) :
    |carryUs| * lowest < 1000000 + lowest := by
  have cast : (lowest : Int) ≤ sampleRate := Int.ofNat_le.mpr rate
  rcases Int.lt_or_le 0 |carryUs| with some_ | none_
  · have scaled : (|carryUs| - 1) * lowest ≤ (|carryUs| - 1) * sampleRate :=
      mul_le_mul_of_nonneg_left cast (by omega)
    rw [sub_mul, sub_mul, one_mul, one_mul] at scaled
    omega
  · have zero : |carryUs| = 0 := le_antisymm none_ (abs_nonneg carryUs)
    rw [zero, zero_mul]
    omega

/-- What a chunk leaves in the carry is less than a frame, and a microsecond of rounding. -/
theorem splitRamp_carry (ledger : Ledger) (chunk : Ledger.RampChunk) (lowest : Nat)
    (rate : lowest ≤ chunk.sampleRate) (positive : 0 < lowest)
    (carried : |ledger.splitRampCarryUs| * lowest < 1000000 + lowest) :
    |(ledger.splitRamp chunk).splitRampCarryUs| * lowest < 1000000 + lowest := by
  have spent := leftover_near (ledger.splitRampCarryUs + ledger.rampIncrement chunk)
    chunk.sampleRate (positive.trans_le rate)
  rw [Ledger.splitRamp]
  dsimp only at spent ⊢
  split
  · split
    · exact carry_lower _ lowest chunk.sampleRate rate spent
    · rename_i nothing
      rw [not_not.mp nothing, Int.zero_mul, Int.zero_tdiv, sub_zero] at spent
      exact carry_lower _ lowest chunk.sampleRate rate spent
  · exact carried

structure Kept (lowest : Nat) (ramp : Ramp) : Prop where
  balance : ramp.ledger.splitRampRemainingUs + ramp.ledger.splitRampCarryUs + ramp.chargedUs =
    ramp.askedUs
  carry : |ramp.ledger.splitRampCarryUs| * lowest < 1000000 + lowest
  charge : |ramp.movedUs - ramp.chargedUs| ≤ ramp.moves

theorem kept_initial (lowest : Nat) : Kept lowest initial where
  balance := rfl
  carry := by
    change |(0 : Int)| * lowest < 1000000 + lowest
    rw [abs_zero, zero_mul]
    omega
  charge := by
    change |(0 : ℚ) - (0 : Int)| ≤ (0 : Nat)
    simp

theorem perform_other (ramp : Ramp) (operation : Ledger.Operation)
    (other : ∀ chunk, operation ≠ .splitRamp chunk) :
    ramp.perform operation = { ramp with ledger := ramp.ledger.step operation } := by
  cases operation with
  | splitRamp chunk => exact absurd rfl (other chunk)
  | _ => rfl

theorem kept_splitRamp {lowest : Nat} {ramp : Ramp} (kept : Kept lowest ramp)
    (chunk : Ledger.RampChunk) (rate : lowest ≤ chunk.sampleRate) (positive : 0 < lowest) :
    Kept lowest (ramp.perform (.splitRamp chunk)) := by
  have balance := splitRamp_balance ramp.ledger chunk
  refine ⟨?_, splitRamp_carry ramp.ledger chunk lowest rate positive kept.carry, ?_⟩
  · have before := kept.balance
    change (ramp.ledger.splitRamp chunk).splitRampRemainingUs +
      (ramp.ledger.splitRamp chunk).splitRampCarryUs +
        (ramp.chargedUs + Int.tdiv (ramp.ledger.rampShift chunk * 1000000) chunk.sampleRate) =
      ramp.askedUs + chunk.splitReq
    omega
  · change |ramp.movedUs + (ramp.ledger.rampShift chunk : ℚ) * 1000000 / chunk.sampleRate -
        ((ramp.chargedUs +
          Int.tdiv (ramp.ledger.rampShift chunk * 1000000) chunk.sampleRate : Int) : ℚ)| ≤
      ((ramp.moves + if ramp.ledger.rampShift chunk = 0 then 0 else 1 : Nat) : ℚ)
    by_cases still : ramp.ledger.rampShift chunk = 0
    · rw [still, if_pos rfl, Int.zero_mul, Int.zero_tdiv, Int.add_zero, Nat.add_zero,
        Int.cast_zero, zero_mul, zero_div, add_zero]
      exact kept.charge
    · rw [if_neg still, Int.cast_add, add_sub_add_comm, Nat.cast_add, Nat.cast_one]
      exact (abs_add_le _ _).trans (add_le_add kept.charge
        (charge_near _ chunk.sampleRate (positive.trans_le rate)))

theorem kept_perform {lowest : Nat} {ramp : Ramp} (kept : Kept lowest ramp)
    (operation : Ledger.Operation) (positive : 0 < lowest)
    (rates : ∀ chunk, operation = .splitRamp chunk → lowest ≤ chunk.sampleRate) :
    Kept lowest (ramp.perform operation) := by
  by_cases ramps : ∃ chunk, operation = .splitRamp chunk
  · obtain ⟨chunk, rfl⟩ := ramps
    exact kept_splitRamp kept chunk (rates chunk rfl) positive
  · have other : ∀ chunk, operation ≠ .splitRamp chunk := fun chunk same => ramps ⟨chunk, same⟩
    obtain ⟨remaining, carry⟩ := step_ramp ramp.ledger operation other
    rw [perform_other ramp operation other]
    refine ⟨?_, ?_, kept.charge⟩
    · rw [remaining, carry]
      exact kept.balance
    · rw [carry]
      exact kept.carry

theorem kept_run {lowest : Nat} (ramp : Ramp) (kept : Kept lowest ramp) (positive : 0 < lowest)
    (operations : List Ledger.Operation)
    (rates : ∀ chunk ∈ chunks operations, lowest ≤ chunk.sampleRate) :
    Kept lowest (ramp.run operations) := by
  induction operations generalizing ramp with
  | nil => exact kept
  | cons operation rest ih =>
      have here : Kept lowest (ramp.perform operation) := by
        apply kept_perform kept operation positive
        rintro chunk rfl
        exact rates chunk List.mem_cons_self
      apply ih _ here
      intro chunk member
      obtain ⟨other, within, found⟩ := List.mem_filterMap.mp member
      exact rates chunk (List.mem_filterMap.mpr ⟨other, List.mem_cons_of_mem operation within, found⟩)

theorem splitRamp_remaining (ledger : Ledger) (chunk : Ledger.RampChunk) (least : Nat)
    (quiet : chunk.splitReq = 0) (budget : least ≤ chunk.budget) :
    |(ledger.splitRamp chunk).splitRampRemainingUs| ≤
      max 0 (|ledger.splitRampRemainingUs| - least) := by
  have same : ledger.rampRemaining chunk = ledger.splitRampRemainingUs := by
    rw [Ledger.rampRemaining, quiet, Int.add_zero]
  have taken : |ledger.splitRampRemainingUs - ledger.rampIncrement chunk| ≤
      max 0 (|ledger.splitRampRemainingUs| - least) := by
    rw [Ledger.rampIncrement, same, clamp, Int.abs_eq_natAbs, Int.abs_eq_natAbs]
    split
    · omega
    · split
      · omega
      · omega
  rw [Ledger.splitRamp]
  dsimp only
  rw [same]
  split
  · split
    · exact taken
    · exact taken
  · rename_i nothing
    rw [not_not.mp nothing, abs_zero]
    exact le_max_left _ _

theorem run_remaining (ramp : Ramp) (least : Nat) (operations : List Ledger.Operation)
    (quiet : ∀ chunk ∈ chunks operations, chunk.splitReq = 0 ∧ least ≤ chunk.budget) :
    |(ramp.run operations).ledger.splitRampRemainingUs| ≤
      max 0 (|ramp.ledger.splitRampRemainingUs| - least * (chunks operations).length) := by
  induction operations generalizing ramp with
  | nil =>
      change |ramp.ledger.splitRampRemainingUs| ≤
        max 0 (|ramp.ledger.splitRampRemainingUs| - least * (0 : Nat))
      rw [Nat.cast_zero, mul_zero, sub_zero]
      exact le_max_right _ _
  | cons operation rest ih =>
      by_cases ramps : ∃ chunk, operation = .splitRamp chunk
      · obtain ⟨chunk, rfl⟩ := ramps
        have here := quiet chunk List.mem_cons_self
        have step_ := splitRamp_remaining ramp.ledger chunk least here.1 here.2
        have later := ih (ramp.perform (.splitRamp chunk))
          fun other member => quiet other (List.mem_cons_of_mem chunk member)
        have count : (chunks (.splitRamp chunk :: rest)).length = (chunks rest).length + 1 := rfl
        have worked : (0 : Int) ≤ least * (chunks rest).length :=
          Int.mul_nonneg (Int.natCast_nonneg _) (Int.natCast_nonneg _)
        change |(ramp.run (.splitRamp chunk :: rest)).ledger.splitRampRemainingUs| ≤
          max 0 (|(ramp.ledger.splitRamp chunk).splitRampRemainingUs| -
            least * (chunks rest).length) at later
        rw [count, Nat.cast_add, Nat.cast_one, mul_add, mul_one]
        omega
      · have other : ∀ chunk, operation ≠ .splitRamp chunk := fun chunk same => ramps ⟨chunk, same⟩
        have unramped : chunks (operation :: rest) = chunks rest := by
          cases operation with
          | splitRamp chunk => exact absurd rfl (other chunk)
          | _ => rfl
        rw [unramped] at quiet ⊢
        have later := ih (ramp.perform operation) quiet
        rw [perform_other ramp operation other] at later
        dsimp only at later
        rw [(step_ramp ramp.ledger operation other).1] at later
        change |(ramp.run (operation :: rest)).ledger.splitRampRemainingUs| ≤ _
        rw [run, List.foldl_cons, perform_other ramp operation other]
        exact later

theorem asked_run (ramp : Ramp) (operations : List Ledger.Operation) :
    (ramp.run operations).askedUs =
      ramp.askedUs + ((chunks operations).map Ledger.RampChunk.splitReq).sum := by
  induction operations generalizing ramp with
  | nil => exact (Int.add_zero _).symm
  | cons operation rest ih =>
      have later := ih (ramp.perform operation)
      cases operation with
      | splitRamp chunk =>
          have first : chunks (.splitRamp chunk :: rest) = chunk :: chunks rest := rfl
          rw [first, List.map_cons, List.sum_cons, ← Int.add_assoc]
          exact later
      | _ => exact later

theorem run_append (ramp : Ramp) (early late : List Ledger.Operation) :
    ramp.run (early ++ late) = (ramp.run early).run late := List.foldl_append

/-- Among all else that happens to the accounting, the ramp moves it by what it was asked for: once
as many chunks as the request needs at the ramp's budget have asked for nothing more, nothing
remains, and the frames moved are worth the time asked for, up to one frame that is carried and one
microsecond for that and for each move. -/
theorem split_ramp_delivers (lowest least : Nat) (positive : 0 < lowest)
    (operations quiet : List Ledger.Operation)
    (rates : ∀ chunk ∈ chunks (operations ++ quiet), lowest ≤ chunk.sampleRate)
    (asksNothing : ∀ chunk ∈ chunks quiet, chunk.splitReq = 0 ∧ least ≤ chunk.budget)
    (enough : |(initial.run operations).ledger.splitRampRemainingUs| ≤
      least * (chunks quiet).length) :
    let ramp := initial.run (operations ++ quiet)
    ramp.ledger.splitRampRemainingUs = 0 ∧
      ramp.askedUs = ((chunks (operations ++ quiet)).map Ledger.RampChunk.splitReq).sum ∧
      |ramp.movedUs - ramp.askedUs| < 1000000 / lowest + 1 + ramp.moves := by
  intro ramp
  have kept : Kept lowest ramp :=
    kept_run initial (kept_initial lowest) positive (operations ++ quiet) rates
  have done : ramp.ledger.splitRampRemainingUs = 0 := by
    have left := run_remaining (initial.run operations) least quiet asksNothing
    rw [max_eq_left (by omega), ← run_append] at left
    exact abs_nonpos_iff.mp left
  have rate : (0 : ℚ) < lowest := Nat.cast_pos.mpr positive
  have carried : |(ramp.ledger.splitRampCarryUs : ℚ)| < 1000000 / lowest + 1 := by
    have bound : |(ramp.ledger.splitRampCarryUs : ℚ)| * lowest < 1000000 + lowest := by
      exact_mod_cast kept.carry
    have divided := (lt_div_iff₀ rate).mpr bound
    rw [add_div, div_self rate.ne'] at divided
    exact divided
  have charged : (ramp.chargedUs : ℚ) = ramp.askedUs - ramp.ledger.splitRampCarryUs := by
    have balance := kept.balance
    rw [done, zero_add] at balance
    rw [← balance]
    push_cast
    ring
  refine ⟨done, (asked_run initial (operations ++ quiet)).trans (Int.zero_add _), ?_⟩
  have charge := kept.charge
  rw [charged] at charge
  rw [abs_le] at charge
  rw [abs_lt] at carried ⊢
  constructor
  · linarith [charge.1, carried.2]
  · linarith [charge.2, carried.1]

def rampChunk (splitReq : Int) : Ledger.Operation :=
  .splitRamp
    { splitReq := splitReq
      frames := 1152
      sampleRate := 44100
      splitRampUsPerS := 100 }

def rampWorkload : List Ledger.Operation :=
  [.setOutputActive true, rampChunk 40, .push 4608 4]

theorem split_ramp_delivers_late :
    let operations := rampWorkload
    let quiet := List.replicate 14 (rampChunk 0)
    let ramp := initial.run (operations ++ quiet)
    ramp.ledger.splitRampRemainingUs = 0 ∧
      ramp.askedUs = ((chunks (operations ++ quiet)).map Ledger.RampChunk.splitReq).sum ∧
      |ramp.movedUs - ramp.askedUs| < 1000000 / (44100 : Nat) + 1 + ramp.moves :=
  split_ramp_delivers 44100 3 (by decide) rampWorkload (List.replicate 14 (rampChunk 0))
    (by decide +kernel) (by decide +kernel) (by decide +kernel)

end Ramp

end Player
