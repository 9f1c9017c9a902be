import SnapcastSync.Lib.Conformance
import SnapcastSync.Engine.Bounds
import SnapcastSync.Player.ServoParams

/-! The learned crystal offset across restarts: what the timing step, a tuning call and a shutdown
save of it, and what a boot takes back. -/

namespace Player

open Rounding ClockSync Timing

variable {K : Type} [Field K] [LinearOrder K] [FloorRing K]

def crystalMovedPpm : K := ((2 : Nat) : K)
def crystalOverdueUs : Int := 600000000

/-- The preferences are a store outside the source. It is assumed that a save waits in them, and is
what they answer, until a sync writes it whole to the flash, and that a boot finds the flash. -/
structure CrystalStore (K : Type) where
  servo : Servo K
  interval : ObsInterval
  flash : Option (FloatValue K)

/-- The preferences write as an event of its own: a call that asks for it does not check it. -/
inductive CrystalEvent (K : Type) where
  | boot
  | timingStep (tsfSync : Option (TsfSync K)) (input : TimingInput K) (saves : Bool)
  | confirmPositionLanded (correctionId : Nat) (nowUs : Int)
  | setServoParam (call : ServoCall K)
  | persistNow (saves : Bool)
  | sync

inductive CrystalNotice (K : Type) where
  | booted (ppm : K)
  | saved (ppm : K)
  | savedAtShutdown (ppm : K)
deriving DecidableEq

def CrystalNotice.saves : CrystalNotice K → Option K
  | .booted _ => none
  | .saved ppm => some ppm
  | .savedAtShutdown ppm => some ppm

def restorable : Option (FloatValue K) → Option K
  | some (.finite number) => if |number| ≤ trimClampMaxPpm then some number else none
  | _ => none

namespace CrystalStore

def crystalPpm (store : CrystalStore K) : K := store.servo.state.timingEngine.crystalPpm

/-- What the preferences are assumed to answer: a value on its way to the flash before the one on
it. -/
def stored (store : CrystalStore K) : Option (FloatValue K) :=
  match store.servo.state.dlIntegralPref with
  | some ppm => some (.finite ppm)
  | none => store.flash

def boot (renderAlignMaxUs : Int) (flash : Option (FloatValue K)) : CrystalStore K :=
  let fresh : ServoState K :=
    { timingEngine := Engine.create Profile.initial
      dlIntegralPref := none
      crystalSavedPpm := 0
      crystalSavedAtUs := 0
      renderBiasUs := 0
      tsfRenderBiasUs := none
      alignBiasPref := none
      biasKickRequestUs := 0 }
  { servo :=
      { tune := ServoParams.initial renderAlignMaxUs
        state :=
          match restorable flash with
          | some saved =>
              { fresh with
                timingEngine := fresh.timingEngine.setCrystalPpm (some saved)
                crystalSavedPpm := saved }
          | none => fresh }
    interval := ObsInterval.initial
    flash := flash }

/-- The save at the end of `timing_step_`. -/
def persistCrystal (store : CrystalStore K) (atUs : Int) (saves : Bool) :
    CrystalStore K × List (CrystalNotice K) :=
  let ppm := store.crystalPpm
  let state := store.servo.state
  let moved := crystalMovedPpm ≤ |ppm - state.crystalSavedPpm|
  let overdue := crystalOverdueUs ≤ atUs - state.crystalSavedAtUs
  if store.servo.tune.persist = true ∧ ppm ≠ 0 ∧ (moved ∨ overdue) ∧
      state.crystalSavedAtUs ≠ atUs ∧ saves = true then
    ({ store with
        servo :=
          { store.servo with
            state :=
              { state with
                dlIntegralPref := some ppm
                crystalSavedPpm := ppm
                crystalSavedAtUs := atUs } } },
      [.saved ppm])
  else (store, [])

def withEngine (store : CrystalStore K) (engine : Engine K) : CrystalStore K :=
  { store with
    servo := { store.servo with state := { store.servo.state with timingEngine := engine } } }

def timingStep (store : CrystalStore K) (libm : Libm K) (tsfSync : Option (TsfSync K))
    (input : TimingInput K) (saves : Bool) : CrystalStore K × List (CrystalNotice K) :=
  let timing : TimingState K :=
    { engine := store.servo.state.timingEngine
      tsfSync := tsfSync
      interval := store.interval }
  let stepped := (timing.timingStep libm input).1
  CrystalStore.persistCrystal
    { store.withEngine stepped.engine with interval := stepped.interval } input.nowUs saves

/-- A value that has no conversion stores some number in a tunable that nothing here reads. -/
def setServoParam (store : CrystalStore K) (call : ServoCall K) :
    CrystalStore K × List (CrystalNotice K) :=
  match store.servo.setServoParam call with
  | some (accepted, after) =>
      ({ store with servo := after },
        if call.name = "crystal_ppm" ∧ accepted = true ∧ call.saves = true then
          [.saved after.state.timingEngine.crystalPpm]
        else [])
  | none => (store, [])

/-- `persist_now`, which leaves the record of the last save alone. -/
def persistNow (store : CrystalStore K) (saves : Bool) :
    CrystalStore K × List (CrystalNotice K) :=
  let ppm := store.crystalPpm
  if ppm ≠ 0 ∧ |ppm| ≤ trimClampMaxPpm ∧ saves = true then
    ({ store with
        servo :=
          { store.servo with state := { store.servo.state with dlIntegralPref := some ppm } } },
      [.savedAtShutdown ppm])
  else (store, [])

def sync (store : CrystalStore K) : CrystalStore K :=
  { store with
    servo := { store.servo with state := { store.servo.state with dlIntegralPref := none } }
    flash := store.stored }

def step (renderAlignMaxUs : Int) (libm : Libm K) (store : CrystalStore K) :
    CrystalEvent K → CrystalStore K × List (CrystalNotice K)
  | .boot =>
      let booted := boot renderAlignMaxUs store.flash
      (booted, [.booted booted.crystalPpm])
  | .timingStep tsfSync input saves => store.timingStep libm tsfSync input saves
  | .confirmPositionLanded correctionId nowUs =>
      (store.withEngine
        (store.servo.state.timingEngine.confirmPositionLanded correctionId nowUs), [])
  | .setServoParam call => store.setServoParam call
  | .persistNow saves => store.persistNow saves
  | .sync => (store.sync, [])

def run (renderAlignMaxUs : Int) (libm : Libm K) (flash : Option (FloatValue K))
    (events : List (CrystalEvent K)) : CrystalStore K :=
  Conformance.run (step renderAlignMaxUs libm) (boot renderAlignMaxUs flash) events

def notices (renderAlignMaxUs : Int) (libm : Libm K) (flash : Option (FloatValue K))
    (events : List (CrystalEvent K)) : List (CrystalNotice K) :=
  Conformance.trace (step renderAlignMaxUs libm) (boot renderAlignMaxUs flash) events

end CrystalStore

namespace Servo

structure SameCrystal (servo after : Servo K) : Prop where
  engine : after.state.timingEngine = servo.state.timingEngine
  stored : after.state.dlIntegralPref = servo.state.dlIntegralPref
  savedPpm : after.state.crystalSavedPpm = servo.state.crystalSavedPpm

omit [Field K] [LinearOrder K] [FloorRing K] in
theorem SameCrystal.refl (servo : Servo K) : SameCrystal servo servo := ⟨rfl, rfl, rfl⟩

def LeavesCrystal (branch : Servo K → ServoCall K → ServoAnswer K) : Prop :=
  ∀ servo call accepted after, branch servo call = some (accepted, after) →
    servo.SameCrystal after

omit [Field K] [LinearOrder K] [FloorRing K] in
theorem answer_leaves (servo : Servo K) (refused : Bool) (stored : Servo K)
    (same : servo.SameCrystal stored) (accepted : Bool) (after : Servo K)
    (answered : servo.answer refused stored = some (accepted, after)) :
    servo.SameCrystal after := by
  cases refused with
  | true =>
      cases answered
      exact SameCrystal.refl servo
  | false =>
      cases answered
      exact same

theorem answerInt_leaves (servo : Servo K) (refused : Bool) (value : FloatValue K)
    (stored : Int → Servo K) (same : ∀ number, servo.SameCrystal (stored number))
    (accepted : Bool) (after : Servo K)
    (answered : servo.answerInt refused value stored = some (accepted, after)) :
    servo.SameCrystal after := by
  cases refused with
  | true =>
      cases answered
      exact SameCrystal.refl servo
  | false =>
      obtain ⟨number, _, stores⟩ := Option.map_eq_some_iff.mp answered
      cases stores
      exact same number

omit [Field K] [LinearOrder K] [FloorRing K] in
theorem leaves_of_answer (branch : Servo K → ServoCall K → ServoAnswer K)
    (stores : ∀ servo call, ∃ (refused : Bool) (tune : ServoParams K),
      branch servo call = servo.answer refused { servo with tune := tune }) :
    LeavesCrystal branch := by
  intro servo call accepted after answered
  obtain ⟨refused, tune, written⟩ := stores servo call
  rw [written] at answered
  exact servo.answer_leaves refused { servo with tune := tune } ⟨rfl, rfl, rfl⟩ accepted after
    answered

theorem leaves_of_answerInt (branch : Servo K → ServoCall K → ServoAnswer K)
    (stores : ∀ servo call, ∃ (refused : Bool) (tune : Int → ServoParams K),
      branch servo call =
        servo.answerInt refused call.value fun number => { servo with tune := tune number }) :
    LeavesCrystal branch := by
  intro servo call accepted after answered
  obtain ⟨refused, tune, written⟩ := stores servo call
  rw [written] at answered
  exact servo.answerInt_leaves refused call.value (fun number => { servo with tune := tune number })
    (fun _ => ⟨rfl, rfl, rfl⟩) accepted after answered

theorem setAlignMaxUs_leaves : LeavesCrystal (K := K) setAlignMaxUs := by
  intro servo call accepted after answered
  apply servo.answerInt_leaves _ call.value _ _ accepted after answered
  intro number
  dsimp only
  split
  · exact ⟨rfl, rfl, rfl⟩
  · exact ⟨rfl, rfl, rfl⟩

theorem setAlignBiasUs_leaves (kick : Bool) :
    LeavesCrystal (K := K) fun servo => servo.setAlignBiasUs kick := by
  intro servo call accepted after answered
  exact servo.answerInt_leaves _ call.value
    (fun bias => { servo with
      state := { servo.state with
        renderBiasUs := bias
        biasKickRequestUs :=
          if kick then
            servo.state.biasKickRequestUs + ((bias - servo.state.renderBiasUs : Int) : K)
          else servo.state.biasKickRequestUs } })
    (fun _ => ⟨rfl, rfl, rfl⟩) accepted after answered

section Stored

omit [FloorRing K]

theorem setErrTauHorizons_leaves : LeavesCrystal (K := K) setErrTauHorizons :=
  leaves_of_answer _ fun _ _ => ⟨_, _, rfl⟩

theorem setRatewhyPpm_leaves : LeavesCrystal (K := K) setRatewhyPpm :=
  leaves_of_answer _ fun _ _ => ⟨_, _, rfl⟩

theorem setCommonDrainS_leaves : LeavesCrystal (K := K) setCommonDrainS :=
  leaves_of_answer _ fun _ _ => ⟨_, _, rfl⟩

theorem setCompensateGdFilter_leaves : LeavesCrystal (K := K) setCompensateGdFilter :=
  leaves_of_answer _ fun _ _ => ⟨_, _, rfl⟩

theorem setPositionNeedsDiff_leaves : LeavesCrystal (K := K) setPositionNeedsDiff :=
  leaves_of_answer _ fun _ _ => ⟨_, _, rfl⟩

theorem setKpFromDiffSigma_leaves : LeavesCrystal (K := K) setKpFromDiffSigma :=
  leaves_of_answer _ fun _ _ => ⟨_, _, rfl⟩

theorem setCommonAuthorityPpm_leaves : LeavesCrystal (K := K) setCommonAuthorityPpm :=
  leaves_of_answer _ fun _ _ => ⟨_, _, rfl⟩

theorem setSplitRampUsPerS_leaves : LeavesCrystal (K := K) setSplitRampUsPerS :=
  leaves_of_answer _ fun _ _ => ⟨_, _, rfl⟩

theorem setRateAuthorityPpm_leaves : LeavesCrystal (K := K) setRateAuthorityPpm :=
  leaves_of_answer _ fun _ _ => ⟨_, _, rfl⟩

theorem setAlignApply_leaves : LeavesCrystal (K := K) setAlignApply :=
  leaves_of_answer _ fun _ _ => ⟨_, _, rfl⟩

theorem setAlignGain_leaves : LeavesCrystal (K := K) setAlignGain :=
  leaves_of_answer _ fun _ _ => ⟨_, _, rfl⟩

theorem setResyncWinS_leaves : LeavesCrystal (K := K) setResyncWinS :=
  leaves_of_answer _ fun _ _ => ⟨_, _, rfl⟩

theorem setPersist_leaves : LeavesCrystal (K := K) setPersist :=
  leaves_of_answer _ fun _ _ => ⟨_, _, rfl⟩

end Stored

theorem setRateFilterLagUs_leaves : LeavesCrystal (K := K) setRateFilterLagUs :=
  leaves_of_answerInt _ fun _ _ => ⟨_, _, rfl⟩

theorem setCommonTargetUs_leaves : LeavesCrystal (K := K) setCommonTargetUs :=
  leaves_of_answerInt _ fun _ _ => ⟨_, _, rfl⟩

theorem setTimingTargetUs_leaves : LeavesCrystal (K := K) setTimingTargetUs :=
  leaves_of_answerInt _ fun _ _ => ⟨_, _, rfl⟩

theorem setTagStaleMs_leaves : LeavesCrystal (K := K) setTagStaleMs :=
  leaves_of_answerInt _ fun _ _ => ⟨_, _, rfl⟩

theorem setBlankMs_leaves : LeavesCrystal (K := K) setBlankMs :=
  leaves_of_answerInt _ fun _ _ => ⟨_, _, rfl⟩

theorem setGapBlankMs_leaves : LeavesCrystal (K := K) setGapBlankMs :=
  leaves_of_answerInt _ fun _ _ => ⟨_, _, rfl⟩

theorem setAlignRecentreUs_leaves : LeavesCrystal (K := K) setAlignRecentreUs :=
  leaves_of_answerInt _ fun _ _ => ⟨_, _, rfl⟩

theorem setAlignDeadbandUs_leaves : LeavesCrystal (K := K) setAlignDeadbandUs :=
  leaves_of_answerInt _ fun _ _ => ⟨_, _, rfl⟩

theorem setAlignRejectUs_leaves : LeavesCrystal (K := K) setAlignRejectUs :=
  leaves_of_answerInt _ fun _ _ => ⟨_, _, rfl⟩

theorem setAlignStepUs_leaves : LeavesCrystal (K := K) setAlignStepUs :=
  leaves_of_answerInt _ fun _ _ => ⟨_, _, rfl⟩

theorem setResyncBlankMs_leaves : LeavesCrystal (K := K) setResyncBlankMs :=
  leaves_of_answerInt _ fun _ _ => ⟨_, _, rfl⟩

theorem branches_leave :
    ∀ branch ∈ (servoBranches : List (String × (Servo K → ServoCall K → ServoAnswer K))).tail,
      LeavesCrystal branch.2 := by
  simp only [servoBranches, List.tail_cons, List.forall_mem_cons]
  exact ⟨setErrTauHorizons_leaves,
    setRateFilterLagUs_leaves,
    setRatewhyPpm_leaves,
    setCommonDrainS_leaves,
    setCompensateGdFilter_leaves,
    setPositionNeedsDiff_leaves,
    setKpFromDiffSigma_leaves,
    setCommonTargetUs_leaves,
    setCommonAuthorityPpm_leaves,
    setSplitRampUsPerS_leaves,
    setRateAuthorityPpm_leaves,
    setTimingTargetUs_leaves,
    setTagStaleMs_leaves,
    setBlankMs_leaves,
    setGapBlankMs_leaves,
    setAlignMaxUs_leaves,
    setAlignBiasUs_leaves false,
    setAlignBiasUs_leaves true,
    setAlignApply_leaves,
    setAlignRecentreUs_leaves,
    setAlignGain_leaves,
    setAlignDeadbandUs_leaves,
    setAlignRejectUs_leaves,
    setAlignStepUs_leaves,
    setResyncWinS_leaves,
    setResyncBlankMs_leaves,
    setPersist_leaves,
    fun _ absent => absurd absent List.not_mem_nil⟩

theorem setServoParam_leaves (servo : Servo K) (call : ServoCall K)
    (other : call.name ≠ "crystal_ppm") (accepted : Bool) (after : Servo K)
    (answered : servo.setServoParam call = some (accepted, after)) :
    servo.SameCrystal after := by
  rw [setServoParam] at answered
  split at answered
  case h_1 branch found =>
    have named : branch.1 = call.name := of_decide_eq_true (List.find?_some found :)
    rcases List.mem_cons.mp (List.mem_of_find?_eq_some found) with first | later
    · rw [first] at named
      exact absurd named.symm other
    · exact branches_leave branch later servo call accepted after answered
  case h_2 =>
    cases answered
    exact SameCrystal.refl servo

theorem setServoParam_crystal (servo : Servo K) (call : ServoCall K)
    (named : call.name = "crystal_ppm") : servo.setServoParam call = servo.setCrystalPpm call := by
  rw [setServoParam, named]
  rfl

end Servo

namespace CrystalStore

omit [FloorRing K] in
theorem restorable_finite (ppm : K) (within : |ppm| ≤ trimClampMaxPpm) :
    restorable (some (.finite ppm)) = some ppm := if_pos within

variable [IsStrictOrderedRing K]

omit [FloorRing K] in
theorem crystalLimit_le_trimClamp : (Timing.crystalLimitPpm : K) ≤ trimClampMaxPpm :=
  Nat.cast_le.mpr (by decide)

omit [FloorRing K] [IsStrictOrderedRing K] in
theorem boot_crystalPpm (renderAlignMaxUs : Int) (flash : Option (FloatValue K)) :
    (boot renderAlignMaxUs flash).crystalPpm =
      match restorable flash with
      | some saved => clamp saved (-crystalLimitPpm) crystalLimitPpm
      | none => 0 := by
  rw [crystalPpm, boot]
  cases restorable flash with
  | none => rfl
  | some saved => rfl

omit [FloorRing K] [IsStrictOrderedRing K] in
theorem boot_savedPpm (renderAlignMaxUs : Int) (flash : Option (FloatValue K)) :
    (boot renderAlignMaxUs flash).servo.state.crystalSavedPpm = (restorable flash).getD 0 := by
  rw [boot]
  cases restorable flash with
  | none => rfl
  | some saved => rfl

omit [FloorRing K] in
theorem boot_bounded (renderAlignMaxUs : Int) (flash : Option (FloatValue K)) :
    |(boot renderAlignMaxUs flash).crystalPpm| ≤ crystalLimitPpm := by
  rw [boot_crystalPpm]
  split
  · exact Engine.crystal_clamped _
  · exact le_of_eq_of_le abs_zero Engine.crystalLimit_nonneg

omit [FloorRing K] in
theorem boot_of_bounded (renderAlignMaxUs : Int) (ppm : K) (bounded : |ppm| ≤ crystalLimitPpm) :
    (boot renderAlignMaxUs (some (.finite ppm))).crystalPpm = ppm := by
  rw [boot_crystalPpm, restorable_finite ppm (bounded.trans crystalLimit_le_trimClamp)]
  exact clamp_of_mem ppm _ _ (abs_le.mp bounded).1 (abs_le.mp bounded).2

omit [FloorRing K] in
theorem boot_near (renderAlignMaxUs : Int) (flash : Option (FloatValue K)) (ppm : K)
    (bounded : |ppm| ≤ crystalLimitPpm) :
    |ppm - (boot renderAlignMaxUs flash).crystalPpm| ≤ |ppm - (restorable flash).getD 0| := by
  rw [boot_crystalPpm]
  obtain ⟨above, below⟩ := abs_le.mp bounded
  cases restorable flash with
  | none => exact le_rfl
  | some saved =>
      rw [abs_sub_comm, abs_sub_comm ppm]
      exact clamp_abs_sub_le saved _ _ ppm above below

def Saved (seen : List (CrystalNotice K)) (ppm : K) : Prop :=
  ∃ notice ∈ seen, notice.saves = some ppm

/-- The last save is the one of a shutdown, and no boot has come after it. -/
def ShutDown (seen : List (CrystalNotice K)) : Prop :=
  ∃ ppm, seen.getLast? = some (.savedAtShutdown ppm)

/-- A boot starts from what the first flash held or from a value saved before. -/
def Founds (renderAlignMaxUs : Int) (first : Option (FloatValue K))
    (earlier : List (CrystalNotice K)) (notice : CrystalNotice K) : Prop :=
  ∀ ppm, notice = .booted ppm →
    ppm = (boot renderAlignMaxUs first).crystalPpm ∨ Saved earlier ppm

structure Sound (renderAlignMaxUs : Int) (first : Option (FloatValue K)) (store : CrystalStore K)
    (seen : List (CrystalNotice K)) : Prop where
  bounded : |store.crystalPpm| ≤ crystalLimitPpm
  within : ∀ ppm, Saved seen ppm → |ppm| ≤ crystalLimitPpm
  queued : ∀ ppm, store.servo.state.dlIntegralPref = some ppm → Saved seen ppm
  flashed : store.flash = first ∨ ∃ ppm, store.flash = some (.finite ppm) ∧ Saved seen ppm
  founded : Conformance.EachFounded (Founds renderAlignMaxUs first) seen
  tracks : ¬ ShutDown seen →
    (restorable store.stored).getD 0 = store.servo.state.crystalSavedPpm

omit [Field K] [LinearOrder K] [FloorRing K] [IsStrictOrderedRing K] in
theorem Saved.append {seen : List (CrystalNotice K)} {ppm : K} (saved : Saved seen ppm)
    (notices : List (CrystalNotice K)) : Saved (seen ++ notices) ppm := by
  obtain ⟨notice, member, saves⟩ := saved
  exact ⟨notice, List.mem_append_left _ member, saves⟩

omit [Field K] [LinearOrder K] [FloorRing K] [IsStrictOrderedRing K] in
theorem stored_of_none {store : CrystalStore K}
    (written : store.servo.state.dlIntegralPref = none) : store.stored = store.flash := by
  rw [stored, written]

omit [Field K] [LinearOrder K] [FloorRing K] [IsStrictOrderedRing K] in
theorem stored_of_some {store : CrystalStore K} {ppm : K}
    (queued : store.servo.state.dlIntegralPref = some ppm) :
    store.stored = some (.finite ppm) := by
  rw [stored, queued]

omit [FloorRing K] [IsStrictOrderedRing K] in
theorem boot_queued (renderAlignMaxUs : Int) (flash : Option (FloatValue K)) :
    (boot renderAlignMaxUs flash).servo.state.dlIntegralPref = none := by
  rw [boot]
  cases restorable flash with
  | none => rfl
  | some saved => rfl

variable {renderAlignMaxUs : Int} {first : Option (FloatValue K)} {store : CrystalStore K}
  {seen : List (CrystalNotice K)}

omit [FloorRing K] in
theorem sound_boot (renderAlignMaxUs : Int) (first : Option (FloatValue K)) :
    Sound renderAlignMaxUs first (boot renderAlignMaxUs first) [] where
  bounded := boot_bounded renderAlignMaxUs first
  within ppm saved := by
    obtain ⟨notice, member, _⟩ := saved
    cases member
  queued ppm queued := by
    rw [boot_queued] at queued
    cases queued
  flashed := Or.inl rfl
  founded := Conformance.eachFounded_nil _
  tracks _ := by
    rw [stored_of_none (boot_queued renderAlignMaxUs first), boot_savedPpm]
    rfl

omit [FloorRing K] [IsStrictOrderedRing K] in
theorem Sound.quiet (sound : Sound renderAlignMaxUs first store seen) (after : CrystalStore K)
    (bounded : |after.crystalPpm| ≤ crystalLimitPpm)
    (queued : after.servo.state.dlIntegralPref = store.servo.state.dlIntegralPref)
    (flash : after.flash = store.flash)
    (savedPpm : after.servo.state.crystalSavedPpm = store.servo.state.crystalSavedPpm) :
    Sound renderAlignMaxUs first after seen where
  bounded := bounded
  within := sound.within
  queued := by
    rw [queued]
    exact sound.queued
  flashed := by
    rw [flash]
    exact sound.flashed
  founded := sound.founded
  tracks up := by
    rw [stored, queued, flash, savedPpm]
    exact sound.tracks up

omit [FloorRing K] in
theorem Sound.save (sound : Sound renderAlignMaxUs first store seen) (after : CrystalStore K)
    (notice : CrystalNotice K) (ppm : K) (saves : notice.saves = some ppm)
    (within : |ppm| ≤ crystalLimitPpm) (bounded : |after.crystalPpm| ≤ crystalLimitPpm)
    (queued : after.servo.state.dlIntegralPref = some ppm) (flash : after.flash = store.flash)
    (noted : notice = .saved ppm → after.servo.state.crystalSavedPpm = ppm) :
    Sound renderAlignMaxUs first after (seen ++ [notice]) where
  bounded := bounded
  within other saved := by
    obtain ⟨told, member, tells⟩ := saved
    rcases List.mem_append.mp member with before | last
    · exact sound.within other ⟨told, before, tells⟩
    · rw [List.mem_singleton.mp last, saves, Option.some.injEq] at tells
      rw [← tells]
      exact within
  queued other holds := by
    rw [queued, Option.some.injEq] at holds
    rw [← holds]
    exact ⟨notice, List.mem_append_right _ List.mem_cons_self, saves⟩
  flashed := by
    rw [flash]
    exact sound.flashed.imp id fun ⟨other, held, saved⟩ => ⟨other, held, saved.append [notice]⟩
  founded := by
    apply sound.founded.snoc
    intro other booted
    rw [booted] at saves
    cases saves
  tracks up := by
    cases notice with
    | booted other => cases saves
    | saved other =>
        cases saves
        rw [stored_of_some queued, restorable_finite ppm (within.trans crystalLimit_le_trimClamp),
          noted rfl]
        rfl
    | savedAtShutdown other => exact absurd ⟨other, List.getLast?_concat⟩ up

omit [FloorRing K] [IsStrictOrderedRing K] in
theorem Sound.sync (sound : Sound renderAlignMaxUs first store seen) :
    Sound renderAlignMaxUs first store.sync seen where
  bounded := sound.bounded
  within := sound.within
  queued := fun _ queued => by cases queued
  flashed := by
    change store.stored = first ∨ ∃ ppm, store.stored = some (.finite ppm) ∧ Saved seen ppm
    cases queued : store.servo.state.dlIntegralPref with
    | none =>
        rw [stored_of_none queued]
        exact sound.flashed
    | some ppm => exact Or.inr ⟨ppm, stored_of_some queued, sound.queued ppm queued⟩
  founded := sound.founded
  tracks := sound.tracks

omit [FloorRing K] in
theorem Sound.boot (sound : Sound renderAlignMaxUs first store seen) :
    let booted := CrystalStore.boot renderAlignMaxUs store.flash
    Sound renderAlignMaxUs first booted (seen ++ [.booted booted.crystalPpm]) where
  bounded := boot_bounded renderAlignMaxUs store.flash
  within ppm saved := by
    obtain ⟨told, member, tells⟩ := saved
    rcases List.mem_append.mp member with before | last
    · exact sound.within ppm ⟨told, before, tells⟩
    · rw [List.mem_singleton.mp last] at tells
      cases tells
  queued ppm queued := by
    rw [boot_queued] at queued
    cases queued
  flashed := sound.flashed.imp id fun ⟨ppm, held, saved⟩ => ⟨ppm, held, saved.append _⟩
  founded := by
    apply sound.founded.snoc
    intro ppm booted
    cases booted
    rcases sound.flashed with same | ⟨ppm, held, saved⟩
    · rw [same]
      exact Or.inl rfl
    · rw [held, boot_of_bounded renderAlignMaxUs ppm (sound.within ppm saved)]
      exact Or.inr saved
  tracks _ := by
    rw [stored_of_none (boot_queued renderAlignMaxUs store.flash), boot_savedPpm]
    rfl

omit [FloorRing K] in
theorem sound_persistCrystal (sound : Sound renderAlignMaxUs first store seen) (atUs : Int)
    (saves : Bool) :
    Sound renderAlignMaxUs first (store.persistCrystal atUs saves).1
      (seen ++ (store.persistCrystal atUs saves).2) := by
  rw [persistCrystal]
  dsimp only
  split
  · exact sound.save _ _ store.crystalPpm rfl sound.bounded sound.bounded rfl rfl fun _ => rfl
  · rw [List.append_nil]
    exact sound

theorem sound_timingStep (sound : Sound renderAlignMaxUs first store seen) (libm : Libm K)
    (tsfSync : Option (TsfSync K)) (input : TimingInput K) (saves : Bool) :
    Sound renderAlignMaxUs first (store.timingStep libm tsfSync input saves).1
      (seen ++ (store.timingStep libm tsfSync input saves).2) := by
  apply sound_persistCrystal
  apply sound.quiet
  · exact Engine.step_crystal_bounded _ libm input.nowUs input.observation _ sound.bounded
  · rfl
  · rfl
  · rfl

theorem sound_confirm (sound : Sound renderAlignMaxUs first store seen) (libm : Libm K)
    (correctionId : Nat) (nowUs : Int) :
    Sound renderAlignMaxUs first (store.withEngine
      (store.servo.state.timingEngine.confirmPositionLanded correctionId nowUs)) seen := by
  apply sound.quiet
  · exact Call.perform_crystal_bounded libm store.servo.state.timingEngine
      (.confirmPositionLanded correctionId nowUs) sound.bounded
  · rfl
  · rfl
  · rfl

omit [FloorRing K] in
theorem setCrystalPpm_bounded (engine : Engine K) (ppm : Option K)
    (bounded : |engine.crystalPpm| ≤ crystalLimitPpm) :
    |(engine.setCrystalPpm ppm).crystalPpm| ≤ crystalLimitPpm := by
  cases ppm with
  | none => exact bounded
  | some ppm => exact Engine.crystal_clamped ppm

theorem sound_setCrystalPpm (sound : Sound renderAlignMaxUs first store seen) (call : ServoCall K)
    (named : call.name = "crystal_ppm") :
    Sound renderAlignMaxUs first (store.setServoParam call).1
      (seen ++ (store.setServoParam call).2) := by
  have bounded := setCrystalPpm_bounded store.servo.state.timingEngine call.value.number?
    sound.bounded
  rw [setServoParam, store.servo.setServoParam_crystal call named, Servo.setCrystalPpm,
    Servo.answer]
  cases refused : !call.value.isFinite || call.value.abs.gt trimClampMaxPpm with
  | true =>
      rw [if_pos rfl]
      dsimp only
      rw [if_neg fun told => Bool.noConfusion told.2.1, List.append_nil]
      exact sound
  | false =>
      rw [if_neg Bool.false_ne_true]
      dsimp only
      cases saves : call.saves with
      | true =>
          rw [if_pos rfl, if_pos ⟨named, rfl, rfl⟩]
          exact sound.save _ _ _ rfl bounded bounded rfl rfl fun _ => rfl
      | false =>
          rw [if_neg Bool.false_ne_true, if_neg fun told => Bool.noConfusion told.2.2,
            List.append_nil]
          exact sound.quiet _ bounded rfl rfl rfl

theorem sound_setServoParam (sound : Sound renderAlignMaxUs first store seen)
    (call : ServoCall K) :
    Sound renderAlignMaxUs first (store.setServoParam call).1
      (seen ++ (store.setServoParam call).2) := by
  by_cases named : call.name = "crystal_ppm"
  · exact sound_setCrystalPpm sound call named
  · rw [setServoParam]
    split
    · rename_i accepted after answered
      have same := store.servo.setServoParam_leaves call named accepted after answered
      rw [if_neg fun told => named told.1, List.append_nil]
      apply sound.quiet
      · rw [crystalPpm, same.engine]
        exact sound.bounded
      · exact same.stored
      · rfl
      · exact same.savedPpm
    · rw [List.append_nil]
      exact sound

omit [FloorRing K] in
theorem sound_persistNow (sound : Sound renderAlignMaxUs first store seen) (saves : Bool) :
    Sound renderAlignMaxUs first (store.persistNow saves).1
      (seen ++ (store.persistNow saves).2) := by
  rw [persistNow]
  dsimp only
  split
  · exact sound.save _ _ store.crystalPpm rfl sound.bounded sound.bounded rfl rfl
      fun same => by cases same
  · rw [List.append_nil]
    exact sound

theorem sound_step (sound : Sound renderAlignMaxUs first store seen) (libm : Libm K)
    (event : CrystalEvent K) :
    Sound renderAlignMaxUs first (step renderAlignMaxUs libm store event).1
      (seen ++ (step renderAlignMaxUs libm store event).2) := by
  cases event with
  | boot => exact sound.boot
  | timingStep tsfSync input saves => exact sound_timingStep sound libm tsfSync input saves
  | confirmPositionLanded correctionId nowUs =>
      rw [step, List.append_nil]
      exact sound_confirm sound libm correctionId nowUs
  | setServoParam call => exact sound_setServoParam sound call
  | persistNow saves => exact sound_persistNow sound saves
  | sync =>
      rw [step, List.append_nil]
      exact sound.sync

theorem run_sound (renderAlignMaxUs : Int) (libm : Libm K) (flash : Option (FloatValue K))
    (events : List (CrystalEvent K)) :
    Sound renderAlignMaxUs flash (run renderAlignMaxUs libm flash events)
      (notices renderAlignMaxUs libm flash events) := by
  apply Conformance.run_history (step renderAlignMaxUs libm) (Sound renderAlignMaxUs flash)
    fun _ => True
  · exact fun store seen event sound _ => sound_step sound libm event
  · exact fun _ _ => trivial
  · exact sound_boot renderAlignMaxUs flash

omit [FloorRing K] in
/-- Where the preferences take the save that comes due, what a boot would start from is near the
crystal in use, and has been looked at of late; a crystal of exactly zero is not saved. -/
theorem persistCrystal_fresh (sound : Sound renderAlignMaxUs first store seen)
    (up : ¬ ShutDown seen) (atUs : Int) (persists : store.servo.tune.persist = true)
    (apart : store.servo.state.crystalSavedAtUs ≠ atUs) :
    let after := (store.persistCrystal atUs true).1
    after.crystalPpm = 0 ∨
      |after.crystalPpm - (boot renderAlignMaxUs after.sync.flash).crystalPpm| <
          crystalMovedPpm ∧
        atUs - after.servo.state.crystalSavedAtUs < crystalOverdueUs := by
  rw [persistCrystal]
  dsimp only
  by_cases zero : store.crystalPpm = 0
  · rw [if_neg fun due => due.2.1 zero]
    exact Or.inl zero
  · refine Or.inr ?_
    split
    · change |store.crystalPpm -
          (boot renderAlignMaxUs (some (.finite store.crystalPpm))).crystalPpm| < _ ∧
        atUs - atUs < crystalOverdueUs
      rw [boot_of_bounded renderAlignMaxUs store.crystalPpm sound.bounded, sub_self, abs_zero,
        sub_self]
      exact ⟨Nat.cast_pos.mpr Nat.two_pos, by decide⟩
    · rename_i rests
      have kept : ¬ (crystalMovedPpm ≤ |store.crystalPpm - store.servo.state.crystalSavedPpm| ∨
          crystalOverdueUs ≤ atUs - store.servo.state.crystalSavedAtUs) :=
        fun due => rests ⟨persists, zero, due, apart, rfl⟩
      rw [not_or, not_le, not_le] at kept
      refine ⟨lt_of_le_of_lt ?_ kept.1, kept.2⟩
      rw [← sound.tracks up]
      exact boot_near renderAlignMaxUs store.stored store.crystalPpm sound.bounded

/-- In every run, over any number of boots and power cuts, the crystal keeps its bounds, and each
boot starts from the first flash or from a value that was saved before it. As long as no shutdown
has saved since the last boot, a timing step whose save is taken leaves the crystal at zero, or
within two parts per million of what a boot would start from once the preferences are written. -/
theorem crystal_restored (renderAlignMaxUs : Int) (libm : Libm K) (flash : Option (FloatValue K))
    (events : List (CrystalEvent K)) :
    let store := run renderAlignMaxUs libm flash events
    let seen := notices renderAlignMaxUs libm flash events
    |store.crystalPpm| ≤ ((200 : Nat) : K) ∧
      (∀ earlier ppm later, seen = earlier ++ .booted ppm :: later →
        ppm = (boot renderAlignMaxUs flash).crystalPpm ∨ Saved earlier ppm) ∧
      (¬ ShutDown seen → ∀ (tsfSync : Option (TsfSync K)) (input : TimingInput K),
        store.servo.tune.persist = true → store.servo.state.crystalSavedAtUs ≠ input.nowUs →
          let after := (store.timingStep libm tsfSync input true).1
          after.crystalPpm = 0 ∨
            |after.crystalPpm - (boot renderAlignMaxUs after.sync.flash).crystalPpm| <
                ((2 : Nat) : K) ∧
              input.nowUs - after.servo.state.crystalSavedAtUs < 600000000) := by
  intro store seen
  have sound := run_sound renderAlignMaxUs libm flash events
  refine ⟨sound.bounded, ?_, ?_⟩
  · intro earlier ppm later split
    exact sound.founded earlier (.booted ppm) later split ppm rfl
  · intro up tsfSync input persists apart
    have stepped := sound.quiet
      { store.withEngine
          (({ engine := store.servo.state.timingEngine, tsfSync := tsfSync,
              interval := store.interval } : TimingState K).timingStep libm input).1.engine with
        interval := store.interval.observe input.nowUs }
      (Engine.step_crystal_bounded _ libm input.nowUs input.observation _ sound.bounded) rfl rfl rfl
    exact persistCrystal_fresh stepped up input.nowUs persists apart

private def tunedTo (ppm : Rat) : CrystalEvent Rat :=
  .setServoParam
    { name := "crystal_ppm"
      value := .finite ppm
      nowUs := 1000000
      saves := true }

private def unmeasured (nowUs : Int) : TimingInput Rat :=
  { nowUs := nowUs
    sampleRate := 44100
    errValid := false
    errUs := 0
    tuning := Tuning.initial
    depths :=
      { pipeDepthFrames := 0
        pipeDepthUs := 0
        ringDepthUs := 0
        ringDepthSlowUs := 0
        ringCapacityUs := 0 } }

theorem crystal_restored_tuned :
    let store := run 500 Libm.rational none [tunedTo 50]
    let after := (store.timingStep Libm.rational none (unmeasured 2000000) true).1
    after.crystalPpm = 0 ∨
      |after.crystalPpm - (boot 500 after.sync.flash).crystalPpm| < ((2 : Nat) : Rat) ∧
        2000000 - after.servo.state.crystalSavedAtUs < 600000000 := by
  have told : notices 500 Libm.rational none [tunedTo 50] = [.saved 50] := by decide +kernel
  have up : ¬ ShutDown (notices 500 Libm.rational none [tunedTo 50]) := by
    rintro ⟨ppm, last⟩
    rw [told] at last
    cases last
  exact (crystal_restored 500 Libm.rational none [tunedTo 50]).2.2 up none (unmeasured 2000000)
    (by decide +kernel) (by decide +kernel)

/-- A value that was set outlives a power cut once it is on the flash, and not before. -/
example :
    notices 500 Libm.rational none [tunedTo 50, .boot, tunedTo 50, .sync, .boot] =
      [.saved 50, .booted 0, .saved 50, .booted 50] := by
  decide +kernel

end CrystalStore

end Player
