import SnapcastSync.Lib.Covariance
import SnapcastSync.Lib.Run
import Mathlib.Analysis.Real.Sqrt

/-! `KalmanTimeFilter` of `time_filter.h`: the offset of the server's clock and its drift from
the measurements of the Time replies. Values are exact, and the square root is a parameter, so
that the filter runs on rationals and is reasoned about on reals. -/

namespace ClockSync

variable {K : Type}

structure TimeFilter (K : Type) where
  count : Nat
  offset : K
  drift : K
  /-- None is infinity. -/
  offsetCov : Option K
  offsetDriftCov : K
  driftCov : K
  lastUpdate : K
  useDrift : Bool
  rHat : K

namespace TimeFilter

def minSamples : Nat := 5

section Field

variable [Field K]

def processVar : K := 1 / ((100 : Nat) : K) * (1 / ((100 : Nat) : K))
def driftProcessVar : K := 1 / ((10000000 : Nat) : K) * (1 / ((10000000 : Nat) : K))
def forgettingFactor : K := ((97 : Nat) : K) / ((100 : Nat) : K)
def huberC : K := ((1345 : Nat) : K) / ((1000 : Nat) : K)
def rMin : K := 1 / ((100 : Nat) : K)
def driftSigThreshSq : K := ((2 : Nat) : K) * ((2 : Nat) : K)
def dtCapMs : K := ((5000 : Nat) : K)

def initial : TimeFilter K :=
  { count := 0
    offset := 0
    drift := 0
    offsetCov := none
    offsetDriftCov := 0
    driftCov := 0
    lastUpdate := 0
    useDrift := false
    rHat := ((25 : Nat) : K) }

def reset (filter : TimeFilter K) : TimeFilter K := { initial with rHat := filter.rHat }

def offsetVariance (filter : TimeFilter K) : K := filter.offsetCov.getD 0

def covariance (filter : TimeFilter K) : Covariance K :=
  { position := filter.offsetVariance
    cross := filter.offsetDriftCov
    rate := filter.driftCov }

def predOffset (filter : TimeFilter K) (dt : K) : K := filter.offset + filter.drift * dt

def predict (filter : TimeFilter K) (dt : K) : Covariance K :=
  { position := filter.offsetVariance + ((2 : Nat) : K) * filter.offsetDriftCov * dt +
      filter.driftCov * (dt * dt) + dt * processVar
    cross := filter.offsetDriftCov + filter.driftCov * dt
    rate := filter.driftCov + dt * driftProcessVar }

def innovStd (sqrt : K → K) (filter : TimeFilter K) (dt : K) : K :=
  sqrt ((filter.predict dt).position + filter.rHat)

def takeFirst (filter : TimeFilter K) (measurement : K) : TimeFilter K :=
  { filter with
    count := filter.count + 1
    offset := measurement
    offsetCov := some filter.rHat }

def takeSecond (filter : TimeFilter K) (measurement dt : K) : TimeFilter K :=
  { filter with
    count := filter.count + 1
    drift := (measurement - filter.offset) / dt
    offset := measurement
    driftCov := (filter.offsetVariance + filter.rHat) / (dt * dt)
    offsetCov := some filter.rHat }

variable [LinearOrder K]

def normResid (sqrt : K → K) (filter : TimeFilter K) (measurement dt : K) : K :=
  |measurement - filter.predOffset dt| / filter.innovStd sqrt dt

def huberWeight (sqrt : K → K) (filter : TimeFilter K) (measurement dt : K) : K :=
  let normResid := filter.normResid sqrt measurement dt
  if normResid ≤ huberC then 1 else huberC / normResid

def rEffective (sqrt : K → K) (filter : TimeFilter K) (measurement dt : K) : K :=
  filter.rHat / filter.huberWeight sqrt measurement dt

def absorb (sqrt : K → K) (filter : TimeFilter K) (measurement dt : K) : TimeFilter K :=
  let predOffset := filter.predOffset dt
  let predicted := filter.predict dt
  let residual := measurement - predOffset
  let weight := filter.huberWeight sqrt measurement dt
  let invS := 1 / (predicted.position + filter.rEffective sqrt measurement dt)
  let kOffset := predicted.position * invS
  let kDrift := predicted.cross * invS
  let drift := filter.drift + kDrift * residual
  let driftCov := predicted.rate - kDrift * predicted.cross
  let robustResid := weight * residual
  let d := 1 - forgettingFactor
  let rHatRaw := (1 - d) * filter.rHat + d * (robustResid * robustResid - predicted.position)
  { filter with
    count := if minSamples ≤ filter.count then filter.count else filter.count + 1
    offset := predOffset + kOffset * residual
    drift := drift
    offsetCov := some (predicted.position - kOffset * predicted.position)
    offsetDriftCov := predicted.cross - kDrift * predicted.position
    driftCov := driftCov
    rHat := if minSamples ≤ filter.count then max rHatRaw rMin else filter.rHat
    useDrift := decide (driftSigThreshSq * driftCov < drift * drift) }

def elapsed (filter : TimeFilter K) (timeAdded : K) : K :=
  min (timeAdded - filter.lastUpdate) dtCapMs

def accepts (filter : TimeFilter K) (timeAdded : K) : Bool :=
  !(decide (filter.count ≠ 0) && decide (timeAdded ≤ filter.lastUpdate))

def insert (sqrt : K → K) (filter : TimeFilter K) (measurement timeAdded : K) : TimeFilter K :=
  if filter.accepts timeAdded then
    let dt := filter.elapsed timeAdded
    let stamped := { filter with lastUpdate := timeAdded }
    match filter.count with
    | 0 => stamped.takeFirst measurement
    | 1 => stamped.takeSecond measurement dt
    | _ => stamped.absorb sqrt measurement dt
  else filter

def getOffset (filter : TimeFilter K) (clientTimeMs : K) : K :=
  filter.offset + (if filter.useDrift then filter.drift else 0) *
    (clientTimeMs - filter.lastUpdate)

/-- What an insert divides by and takes the square root of. -/
def operands (sqrt : K → K) (filter : TimeFilter K) (measurement timeAdded : K) : List K :=
  if filter.accepts timeAdded then
    let dt := filter.elapsed timeAdded
    match filter.count with
    | 0 => []
    | 1 => [dt, dt * dt]
    | _ =>
        [(filter.predict dt).position + filter.rHat, filter.innovStd sqrt dt] ++
          (if filter.normResid sqrt measurement dt ≤ huberC then []
            else [filter.normResid sqrt measurement dt]) ++
          [filter.huberWeight sqrt measurement dt,
            (filter.predict dt).position + filter.rEffective sqrt measurement dt]
  else []

end Field

inductive Call (K : Type) where
  | reset
  | insert (measurement timeAdded : K)

def step [Field K] [LinearOrder K] (sqrt : K → K) (filter : TimeFilter K) :
    Call K → TimeFilter K
  | .reset => filter.reset
  | .insert measurement timeAdded => filter.insert sqrt measurement timeAdded

/-- A filter that has a measurement has a covariance of a positive variance, and the noise that
is taken of its measurements is never below its floor. -/
def Covariant [Field K] [LinearOrder K] (filter : TimeFilter K) : Prop :=
  rMin ≤ filter.rHat ∧
    (0 < filter.count → ∃ variance ∈ filter.offsetCov, 0 < variance ∧ 0 ≤ filter.driftCov ∧
      filter.offsetDriftCov * filter.offsetDriftCov ≤ variance * filter.driftCov)

def DividesByPositive [Field K] [LinearOrder K] (sqrt : K → K) (filter : TimeFilter K) :
    Call K → Prop
  | .reset => True
  | .insert measurement timeAdded =>
      ∀ operand ∈ filter.operands sqrt measurement timeAdded, 0 < operand

theorem processVar_pos : (0 : ℝ) < processVar := by norm_num [processVar]

theorem driftProcessVar_pos : (0 : ℝ) < driftProcessVar := by norm_num [driftProcessVar]

theorem huberC_pos : (0 : ℝ) < huberC := by norm_num [huberC]

theorem rMin_pos : (0 : ℝ) < rMin := by norm_num [rMin]

theorem dtCapMs_pos : (0 : ℝ) < dtCapMs := by norm_num [dtCapMs]

def Sound (filter : TimeFilter ℝ) : Prop :=
  rMin ≤ filter.rHat ∧
    (filter.count < 2 → filter.offsetDriftCov = 0 ∧ filter.driftCov = 0) ∧
    (0 < filter.count → ∃ variance, filter.offsetCov = some variance ∧ 0 < variance) ∧
    filter.covariance.Semidefinite

theorem initial_sound : (initial : TimeFilter ℝ).Sound := by
  refine ⟨by norm_num [initial, rMin], fun _ => ⟨rfl, rfl⟩,
    fun some_ => absurd some_ (by decide), ?_⟩
  simp [covariance, initial, offsetVariance, Covariance.Semidefinite]

theorem Sound.rHat_pos {filter : TimeFilter ℝ} (sound : filter.Sound) : 0 < filter.rHat :=
  rMin_pos.trans_le sound.1

theorem Sound.covariant {filter : TimeFilter ℝ} (sound : filter.Sound) : filter.Covariant := by
  refine ⟨sound.1, fun counted => ?_⟩
  obtain ⟨variance, present, positive⟩ := sound.2.2.1 counted
  obtain ⟨_, rate, cross⟩ := sound.2.2.2
  rw [covariance, offsetVariance, present] at cross
  exact ⟨variance, present, positive, rate, cross⟩

theorem accepts_iff (filter : TimeFilter ℝ) (timeAdded : ℝ) :
    filter.accepts timeAdded = true ↔ filter.count = 0 ∨ filter.lastUpdate < timeAdded := by
  rw [accepts, Bool.not_eq_true', Bool.and_eq_false_iff, decide_eq_false_iff_not,
    decide_eq_false_iff_not, not_not, not_le]

theorem elapsed_pos (filter : TimeFilter ℝ) (timeAdded : ℝ)
    (later : filter.lastUpdate < timeAdded) : 0 < filter.elapsed timeAdded :=
  lt_min (sub_pos.mpr later) dtCapMs_pos

theorem predict_eq (filter : TimeFilter ℝ) (dt : ℝ) :
    filter.predict dt =
      (filter.covariance.advance dt).widen (dt * processVar) (dt * driftProcessVar) := rfl

theorem predict_semidefinite (filter : TimeFilter ℝ) (dt : ℝ) (forward : 0 < dt)
    (semidefinite : filter.covariance.Semidefinite) :
    (filter.predict dt).Semidefinite ∧ 0 < (filter.predict dt).position := by
  have advanced := filter.covariance.advance_semidefinite dt semidefinite
  have noise := mul_pos forward processVar_pos
  refine ⟨?_, add_pos_of_nonneg_of_pos advanced.1 noise⟩
  rw [predict_eq]
  exact Covariance.widen_semidefinite _ _ _ noise.le (mul_pos forward driftProcessVar_pos).le
    advanced

theorem innovStd_pos (filter : TimeFilter ℝ) (dt : ℝ) (forward : 0 < dt) (sound : filter.Sound) :
    0 < filter.innovStd Real.sqrt dt :=
  Real.sqrt_pos.mpr
    (add_pos (filter.predict_semidefinite dt forward sound.2.2.2).2 sound.rHat_pos)

theorem huberWeight_pos (filter : TimeFilter ℝ) (measurement dt : ℝ) :
    0 < filter.huberWeight Real.sqrt measurement dt :=
  Huber.weight_pos huberC _ huberC_pos

theorem rEffective_pos (filter : TimeFilter ℝ) (measurement dt : ℝ) (sound : filter.Sound) :
    0 < filter.rEffective Real.sqrt measurement dt :=
  div_pos sound.rHat_pos (filter.huberWeight_pos measurement dt)

/-- The update corrects the predicted covariance by the inflated noise. -/
theorem absorb_covariance (filter : TimeFilter ℝ) (measurement dt : ℝ) :
    (filter.absorb Real.sqrt measurement dt).covariance =
      (filter.predict dt).correct (filter.rEffective Real.sqrt measurement dt) := rfl

theorem takeFirst_sound (filter : TimeFilter ℝ) (measurement : ℝ) (fresh : filter.count = 0)
    (sound : filter.Sound) : (filter.takeFirst measurement).Sound := by
  obtain ⟨cross, rate⟩ := sound.2.1 (by omega)
  refine ⟨sound.1, fun _ => ⟨cross, rate⟩, fun _ => ⟨filter.rHat, rfl, sound.rHat_pos⟩, ?_⟩
  have noise := sound.rHat_pos
  simp only [Covariance.Semidefinite, covariance, offsetVariance, takeFirst, Option.getD_some,
    cross, rate, mul_zero, le_refl, and_self, and_true]
  exact noise.le

theorem takeSecond_sound (filter : TimeFilter ℝ) (measurement dt : ℝ) (one : filter.count = 1)
    (sound : filter.Sound) : (filter.takeSecond measurement dt).Sound := by
  obtain ⟨cross, _⟩ := sound.2.1 (by omega)
  have counted : ¬ filter.count + 1 < 2 := by omega
  refine ⟨sound.1, fun early => absurd early counted,
    fun _ => ⟨filter.rHat, rfl, sound.rHat_pos⟩, ?_⟩
  have noise := sound.rHat_pos
  have variance : 0 ≤ filter.offsetVariance := sound.2.2.2.1
  have rate : 0 ≤ (filter.offsetVariance + filter.rHat) / (dt * dt) :=
    div_nonneg (add_nonneg variance noise.le) (mul_self_nonneg dt)
  simp only [Covariance.Semidefinite, covariance, takeSecond, cross, mul_zero]
  exact ⟨noise.le, rate, mul_nonneg noise.le rate⟩

theorem absorb_sound (filter : TimeFilter ℝ) (measurement dt : ℝ) (forward : 0 < dt)
    (more : 2 ≤ filter.count) (sound : filter.Sound) :
    (filter.absorb Real.sqrt measurement dt).Sound := by
  obtain ⟨semidefinite, position⟩ := filter.predict_semidefinite dt forward sound.2.2.2
  have noise := filter.rEffective_pos measurement dt sound
  refine ⟨?_, ?_, ?_, ?_⟩
  · rw [absorb]
    dsimp only
    split
    · exact le_max_right _ _
    · exact sound.1
  · intro early
    rw [absorb] at early
    dsimp only at early
    split at early <;> omega
  · intro _
    exact ⟨_, rfl, Covariance.correct_position_pos _ _ position noise⟩
  · rw [absorb_covariance]
    exact Covariance.correct_semidefinite _ _ position noise semidefinite

theorem insert_cases (filter : TimeFilter ℝ) (measurement timeAdded : ℝ) :
    (filter.accepts timeAdded = false ∧
        filter.insert Real.sqrt measurement timeAdded = filter) ∨
      (filter.count = 0 ∧ filter.insert Real.sqrt measurement timeAdded =
        { filter with lastUpdate := timeAdded }.takeFirst measurement) ∨
      (filter.count = 1 ∧ filter.lastUpdate < timeAdded ∧
        filter.insert Real.sqrt measurement timeAdded =
          { filter with lastUpdate := timeAdded }.takeSecond measurement
            (filter.elapsed timeAdded)) ∨
      (2 ≤ filter.count ∧ filter.lastUpdate < timeAdded ∧
        filter.insert Real.sqrt measurement timeAdded =
          { filter with lastUpdate := timeAdded }.absorb Real.sqrt measurement
            (filter.elapsed timeAdded)) := by
  rw [insert]
  cases accepted : filter.accepts timeAdded with
  | false => exact Or.inl ⟨rfl, rfl⟩
  | true =>
      have later := (filter.accepts_iff timeAdded).mp accepted
      rw [if_pos rfl]
      dsimp only
      split
      · rename_i fresh
        exact Or.inr (Or.inl ⟨fresh, rfl⟩)
      · rename_i one
        exact Or.inr (Or.inr (Or.inl ⟨one, later.resolve_left (by omega), rfl⟩))
      · rename_i zero one
        have counted : filter.count ≠ 0 := zero
        have again : filter.count ≠ 1 := one
        exact Or.inr (Or.inr (Or.inr ⟨by omega, later.resolve_left counted, rfl⟩))

theorem step_sound (filter : TimeFilter ℝ) (call : Call ℝ) (sound : filter.Sound) :
    (filter.step Real.sqrt call).Sound := by
  cases call with
  | reset =>
      obtain ⟨_, cross, _, semidefinite⟩ := initial_sound
      exact ⟨sound.1, cross, fun some_ => absurd some_ (Nat.lt_irrefl 0), semidefinite⟩
  | insert measurement timeAdded =>
      have stamped : { filter with lastUpdate := timeAdded }.Sound := sound
      rw [step]
      rcases filter.insert_cases measurement timeAdded with
        ⟨_, same⟩ | ⟨fresh, next⟩ | ⟨one, _, next⟩ | ⟨more, later, next⟩
      · rw [same]
        exact sound
      · rw [next]
        exact takeFirst_sound _ measurement fresh stamped
      · rw [next]
        exact takeSecond_sound _ measurement _ one stamped
      · rw [next]
        exact absorb_sound _ measurement _ (filter.elapsed_pos timeAdded later) more stamped

theorem divides_of_sound (filter : TimeFilter ℝ) (call : Call ℝ) (sound : filter.Sound) :
    filter.DividesByPositive Real.sqrt call := by
  cases call with
  | reset => exact trivial
  | insert measurement timeAdded =>
      intro operand member
      rw [operands] at member
      split at member
      · rename_i accepted
        rw [accepts_iff] at accepted
        have forward (counted : filter.count ≠ 0) :=
          filter.elapsed_pos timeAdded (accepted.resolve_left counted)
        dsimp only at member
        split at member
        · cases member
        · rename_i one
          have positive := forward (by omega)
          rcases List.mem_pair.mp member with rfl | rfl
          · exact positive
          · exact mul_pos positive positive
        · rename_i zero _
          have positive := forward zero
          have position := (filter.predict_semidefinite _ positive sound.2.2.2).2
          simp only [List.mem_append, List.mem_cons, List.not_mem_nil, or_false] at member
          rcases member with ((rfl | rfl) | beyond) | rfl | rfl
          · exact add_pos position sound.rHat_pos
          · exact filter.innovStd_pos _ positive sound
          · split at beyond
            · cases beyond
            · rename_i far
              rw [List.mem_singleton.mp beyond]
              exact huberC_pos.trans (not_le.mp far)
          · exact filter.huberWeight_pos measurement _
          · exact add_pos position (filter.rEffective_pos measurement _ sound)
      · cases member

/-- In every run the covariance stays one, and nothing that is not positive is divided by or has
its root taken. -/
theorem covariant_run (calls : List (Call ℝ)) :
    Run.Visits (step Real.sqrt) Covariant initial calls ∧
      Run.Along (step Real.sqrt) (DividesByPositive Real.sqrt) initial calls :=
  ⟨Run.visits_of_invariant (step Real.sqrt) Sound Covariant (fun _ sound => sound.covariant)
      step_sound initial calls initial_sound,
    Run.along_of_invariant (step Real.sqrt) Sound (DividesByPositive Real.sqrt) step_sound
      divides_of_sound initial calls initial_sound⟩

/-- An insert from the third on moves the prediction, the drift and the noise by no more than
bounds in which the measurement does not occur. -/
def BoundedInfluence (filter : TimeFilter ℝ) : Call ℝ → Prop
  | .reset => True
  | .insert measurement timeAdded =>
      2 ≤ filter.count → filter.accepts timeAdded = true →
        let dt := filter.elapsed timeAdded
        let predicted := filter.predict dt
        let noise := filter.rHat
        let deviation := Real.sqrt (predicted.position + noise)
        let after := filter.insert Real.sqrt measurement timeAdded
        |after.offset - filter.predOffset dt| ≤ predicted.position * huberC * deviation / noise ∧
          |after.drift - filter.drift| ≤ |predicted.cross| * huberC * deviation / noise ∧
          after.rHat ≤ max rMin (noise + (1 - forgettingFactor) * (huberC * huberC - 1) *
            (predicted.position + noise))

theorem forgetting_pos : (0 : ℝ) < 1 - forgettingFactor := by norm_num [forgettingFactor]

theorem one_lt_huberC_sq : (1 : ℝ) < huberC * huberC := by norm_num [huberC]

theorem absorb_offset (filter : TimeFilter ℝ) (measurement dt : ℝ) :
    (filter.absorb Real.sqrt measurement dt).offset - filter.predOffset dt =
      (filter.predict dt).position *
        (1 / ((filter.predict dt).position + filter.rEffective Real.sqrt measurement dt)) *
        (measurement - filter.predOffset dt) :=
  add_sub_cancel_left _ _

theorem absorb_drift (filter : TimeFilter ℝ) (measurement dt : ℝ) :
    (filter.absorb Real.sqrt measurement dt).drift - filter.drift =
      (filter.predict dt).cross *
        (1 / ((filter.predict dt).position + filter.rEffective Real.sqrt measurement dt)) *
        (measurement - filter.predOffset dt) :=
  add_sub_cancel_left _ _

/-- The noise learns from the weighted residual, which is within the bend of its deviation. -/
theorem absorb_rHat_le (filter : TimeFilter ℝ) (measurement dt : ℝ) (forward : 0 < dt)
    (sound : filter.Sound) :
    (filter.absorb Real.sqrt measurement dt).rHat ≤
      max rMin (filter.rHat + (1 - forgettingFactor) * (huberC * huberC - 1) *
        ((filter.predict dt).position + filter.rHat)) := by
  have position := (filter.predict_semidefinite dt forward sound.2.2.2).2
  have total := add_pos position sound.rHat_pos
  have bend := sub_pos.mpr one_lt_huberC_sq
  have grows := mul_pos (mul_pos forgetting_pos bend) total
  rw [absorb]
  dsimp only
  split
  · have robust : |filter.huberWeight Real.sqrt measurement dt *
        (measurement - filter.predOffset dt)| ≤ huberC * filter.innovStd Real.sqrt dt :=
      Huber.abs_weight_mul_le huberC _ _ huberC_pos (filter.innovStd_pos dt forward sound)
    generalize filter.huberWeight Real.sqrt measurement dt *
      (measurement - filter.predOffset dt) = robustResid at robust ⊢
    have spread : filter.innovStd Real.sqrt dt * filter.innovStd Real.sqrt dt =
        (filter.predict dt).position + filter.rHat := Real.mul_self_sqrt total.le
    have square : robustResid * robustResid ≤
        huberC * huberC * ((filter.predict dt).position + filter.rHat) := by
      calc robustResid * robustResid = |robustResid| * |robustResid| := (abs_mul_abs_self _).symm
        _ ≤ huberC * filter.innovStd Real.sqrt dt * (huberC * filter.innovStd Real.sqrt dt) :=
          mul_self_le_mul_self (abs_nonneg _) robust
        _ = huberC * huberC *
            (filter.innovStd Real.sqrt dt * filter.innovStd Real.sqrt dt) := by ring
        _ = huberC * huberC * ((filter.predict dt).position + filter.rHat) := by rw [spread]
    refine max_le ?_ (le_max_left _ _)
    refine le_trans ?_ (le_max_right _ _)
    have learned := mul_le_mul_of_nonneg_left square forgetting_pos.le
    linarith
  · exact le_trans (by linarith) (le_max_right _ _)

theorem boundedInfluence_of_sound (filter : TimeFilter ℝ) (call : Call ℝ)
    (sound : filter.Sound) : filter.BoundedInfluence call := by
  cases call with
  | reset => exact trivial
  | insert measurement timeAdded =>
      intro counted accepted
      have stamped : { filter with lastUpdate := timeAdded }.Sound := sound
      rcases filter.insert_cases measurement timeAdded with
        ⟨refused, _⟩ | ⟨fresh, _⟩ | ⟨one, _, _⟩ | ⟨_, later, next⟩
      · rw [accepted] at refused
        cases refused
      · omega
      · omega
      · have forward := filter.elapsed_pos timeAdded later
        have position := (filter.predict_semidefinite _ forward sound.2.2.2).2
        have spread := filter.innovStd_pos _ forward sound
        dsimp only
        rw [next]
        refine ⟨?_, ?_, absorb_rHat_le _ measurement _ forward stamped⟩
        · have bounded := Huber.abs_gain_mul_le huberC _
            (measurement - filter.predOffset (filter.elapsed timeAdded)) _ _
            (filter.predict (filter.elapsed timeAdded)).position huberC_pos spread position
            sound.rHat_pos
          rw [abs_of_pos position] at bounded
          exact (congrArg abs (absorb_offset _ measurement _)).trans_le bounded
        · exact (congrArg abs (absorb_drift _ measurement _)).trans_le
            (Huber.abs_gain_mul_le huberC _
              (measurement - filter.predOffset (filter.elapsed timeAdded)) _ _
              (filter.predict (filter.elapsed timeAdded)).cross huberC_pos spread position
              sound.rHat_pos)

/-- In every run no measurement moves the filter by more than what it held before allows. -/
theorem bounded_influence_run (calls : List (Call ℝ)) :
    Run.Along (step Real.sqrt) BoundedInfluence initial calls :=
  Run.along_of_invariant (step Real.sqrt) Sound BoundedInfluence step_sound
    boundedInfluence_of_sound initial calls initial_sound

noncomputable def insertLine (a b : ℝ) (filter : TimeFilter ℝ) (time : ℝ) : TimeFilter ℝ :=
  filter.insert Real.sqrt (a + b * time) time

/-- This measurement leaves the filter on the line, and with it what is extrapolated by a drift
that is significant. -/
def TracksNext (a b : ℝ) (filter : TimeFilter ℝ) (time : ℝ) : Prop :=
  let after := filter.insertLine a b time
  after.offset = a + b * time ∧ after.drift = b ∧
    (after.useDrift = true → ∀ clientTimeMs, after.getOffset clientTimeMs = a + b * clientTimeMs)

/-- On the line, so far as the measurements that it has can tell. -/
def OnLine (a b : ℝ) (filter : TimeFilter ℝ) : Prop :=
  filter.Sound ∧ 1 ≤ filter.count ∧ filter.offset = a + b * filter.lastUpdate ∧
    (2 ≤ filter.count → filter.drift = b)

theorem insertLine_next (a b : ℝ) (filter : TimeFilter ℝ) (time : ℝ) (counted : 1 ≤ filter.count)
    (later : filter.lastUpdate < time) :
    (filter.insertLine a b time).lastUpdate = time ∧ 2 ≤ (filter.insertLine a b time).count := by
  rw [insertLine]
  rcases filter.insert_cases (a + b * time) time with
    ⟨refused, _⟩ | ⟨fresh, _⟩ | ⟨one, _, next⟩ | ⟨more, _, next⟩
  · have accepted := (filter.accepts_iff time).mpr (Or.inr later)
    rw [refused] at accepted
    cases accepted
  · omega
  · rw [next]
    refine ⟨rfl, ?_⟩
    change 2 ≤ filter.count + 1
    omega
  · rw [next]
    refine ⟨rfl, ?_⟩
    rw [absorb]
    dsimp only
    split <;> omega

theorem tracksNext_of_on (a b : ℝ) (filter : TimeFilter ℝ) (time : ℝ)
    (counted : 1 ≤ filter.count) (later : filter.lastUpdate < time)
    (offset : (filter.insertLine a b time).offset = a + b * time)
    (drift : (filter.insertLine a b time).drift = b) : filter.TracksNext a b time := by
  refine ⟨offset, drift, ?_⟩
  intro significant clientTimeMs
  rw [getOffset, if_pos significant, offset, drift,
    (filter.insertLine_next a b time counted later).1]
  ring

theorem elapsed_eq_iff (filter : TimeFilter ℝ) (time : ℝ) :
    filter.elapsed time = time - filter.lastUpdate ↔ time - filter.lastUpdate ≤ dtCapMs :=
  min_eq_left_iff

/-- The second measurement gives the drift, if it comes within the cap. -/
theorem tracksNext_second_iff (a b : ℝ) (filter : TimeFilter ℝ) (time : ℝ)
    (one : filter.count = 1) (later : filter.lastUpdate < time)
    (on : filter.offset = a + b * filter.lastUpdate) :
    filter.TracksNext a b time ↔ b = 0 ∨ time - filter.lastUpdate ≤ dtCapMs := by
  have forward := (filter.elapsed_pos time later).ne'
  have next : filter.insertLine a b time =
      { filter with lastUpdate := time }.takeSecond (a + b * time) (filter.elapsed time) := by
    rcases filter.insert_cases (a + b * time) time with
      ⟨refused, _⟩ | ⟨fresh, _⟩ | ⟨_, _, next⟩ | ⟨more, _, _⟩
    · have accepted := (filter.accepts_iff time).mpr (Or.inr later)
      rw [refused] at accepted
      cases accepted
    · omega
    · exact next
    · omega
  have offset : (filter.insertLine a b time).offset = a + b * time := by rw [next]; rfl
  have drift : (filter.insertLine a b time).drift =
      b * (time - filter.lastUpdate) / filter.elapsed time := by
    rw [next]
    change (a + b * time - filter.offset) / filter.elapsed time = _
    rw [on]
    congr 1
    ring
  rw [← elapsed_eq_iff]
  constructor
  · rintro ⟨_, tracked, _⟩
    rw [drift, div_eq_iff forward] at tracked
    rcases mul_eq_mul_left_iff.mp tracked with same | still
    · exact Or.inr same.symm
    · exact Or.inl still
  · intro condition
    apply filter.tracksNext_of_on a b time one.ge later offset
    rw [drift]
    rcases condition with still | within
    · rw [still, zero_mul, zero_div]
    · rw [← within, mul_div_assoc, div_self forward, mul_one]

/-- A later one corrects a share of what its prediction is off by, never all of it. -/
theorem tracksNext_later_iff (a b : ℝ) (filter : TimeFilter ℝ) (time : ℝ)
    (more : 2 ≤ filter.count) (later : filter.lastUpdate < time) (sound : filter.Sound)
    (on : filter.offset = a + b * filter.lastUpdate) (drifts : filter.drift = b) :
    filter.TracksNext a b time ↔ b = 0 ∨ time - filter.lastUpdate ≤ dtCapMs := by
  have forward := filter.elapsed_pos time later
  have stamped : { filter with lastUpdate := time }.Sound := sound
  have next : filter.insertLine a b time =
      { filter with lastUpdate := time }.absorb Real.sqrt (a + b * time) (filter.elapsed time) := by
    rcases filter.insert_cases (a + b * time) time with
      ⟨refused, _⟩ | ⟨fresh, _⟩ | ⟨one, _, _⟩ | ⟨_, _, next⟩
    · have accepted := (filter.accepts_iff time).mpr (Or.inr later)
      rw [refused] at accepted
      cases accepted
    · omega
    · omega
    · exact next
  have position := (filter.predict_semidefinite _ forward sound.2.2.2).2
  have noise := rEffective_pos _ (a + b * time) (filter.elapsed time) stamped
  have total := (add_pos position noise).ne'
  have off : a + b * time - filter.predOffset (filter.elapsed time) =
      b * (time - filter.lastUpdate - filter.elapsed time) := by
    rw [predOffset, on, drifts]
    ring
  have moved := absorb_offset { filter with lastUpdate := time } (a + b * time)
    (filter.elapsed time)
  have turned := absorb_drift { filter with lastUpdate := time } (a + b * time)
    (filter.elapsed time)
  rw [← next] at moved turned
  change _ - filter.predOffset _ = (filter.predict _).position * (1 / ((filter.predict _).position +
    _)) * (a + b * time - filter.predOffset _) at moved
  change _ - filter.drift = _ * _ * (a + b * time - filter.predOffset _) at turned
  rw [off] at moved turned
  rw [← elapsed_eq_iff]
  constructor
  · rintro ⟨tracked, _, _⟩
    rw [tracked, off] at moved
    have share : b * (time - filter.lastUpdate - filter.elapsed time) *
        rEffective Real.sqrt { filter with lastUpdate := time } (a + b * time)
          (filter.elapsed time) = 0 := by
      field_simp at moved
      linarith
    rcases mul_eq_zero.mp ((mul_eq_zero.mp share).resolve_right noise.ne') with still | same
    · exact Or.inl still
    · exact Or.inr (sub_eq_zero.mp same).symm
  · intro condition
    have none_ : b * (time - filter.lastUpdate - filter.elapsed time) = 0 := by
      rcases condition with still | within
      · rw [still, zero_mul]
      · rw [within, sub_self, mul_zero]
    rw [none_, mul_zero] at moved turned
    apply filter.tracksNext_of_on a b time (by omega) later
    · linarith
    · linarith

theorem tracksNext_iff (a b : ℝ) (filter : TimeFilter ℝ) (time : ℝ)
    (later : filter.lastUpdate < time) (on : filter.OnLine a b) :
    filter.TracksNext a b time ↔ b = 0 ∨ time - filter.lastUpdate ≤ dtCapMs := by
  obtain ⟨sound, counted, offset, drift⟩ := on
  rcases Nat.lt_or_ge filter.count 2 with few | more
  · exact filter.tracksNext_second_iff a b time (by omega) later offset
  · exact filter.tracksNext_later_iff a b time more later sound offset (drift more)

theorem onLine_next (a b : ℝ) (filter : TimeFilter ℝ) (time : ℝ)
    (later : filter.lastUpdate < time) (on : filter.OnLine a b)
    (tracks : filter.TracksNext a b time) : (filter.insertLine a b time).OnLine a b := by
  obtain ⟨sound, counted, _, _⟩ := on
  obtain ⟨last, more⟩ := filter.insertLine_next a b time counted later
  refine ⟨filter.step_sound (.insert (a + b * time) time) sound, by omega, ?_, fun _ => tracks.2.1⟩
  rw [last]
  exact tracks.1

theorem tracks_run_iff (a b : ℝ) (filter : TimeFilter ℝ) (times : List ℝ)
    (on : filter.OnLine a b) (increasing : (filter.lastUpdate :: times).IsChain (· < ·)) :
    Run.Along (insertLine a b) (TracksNext a b) filter times ↔
      b = 0 ∨ (filter.lastUpdate :: times).IsChain (fun before time => time - before ≤ dtCapMs) := by
  induction times generalizing filter with
  | nil => exact iff_of_true trivial (Or.inr (List.isChain_singleton _))
  | cons time rest ih =>
      obtain ⟨later, rising⟩ := List.isChain_cons_cons.mp increasing
      have last := (filter.insertLine_next a b time on.2.1 later).1
      rw [Run.along_cons, List.isChain_cons_cons, or_and_left,
        ← filter.tracksNext_iff a b time later on]
      apply and_congr_right
      intro tracks
      rw [ih _ (filter.onLine_next a b time later on tracks) (by rw [last]; exact rising), last]

theorem reset_onLine (a b first : ℝ) (filter : TimeFilter ℝ) (sound : filter.Sound) :
    (filter.reset.insertLine a b first).OnLine a b := by
  have one : (filter.reset.insertLine a b first).count = 1 := rfl
  refine ⟨step_sound _ (.insert (a + b * first) first) (filter.step_sound .reset sound), one.ge,
    rfl, fun more => ?_⟩
  rw [one] at more
  omega

/-- However the filter has been used before: after a reset, the second and every later
measurement of an affine clock leaves it on the line just where it does not drift or no two
measurements are farther apart than the cap. -/
theorem tracks_affine_iff (calls : List (Call ℝ)) (a b first : ℝ) (times : List ℝ)
    (increasing : (first :: times).IsChain (· < ·)) :
    Run.Along (insertLine a b) (TracksNext a b)
        ((calls.foldl (step Real.sqrt) initial).reset.insertLine a b first) times ↔
      b = 0 ∨ (first :: times).IsChain (fun before time => time - before ≤ dtCapMs) := by
  have reached := Run.visits_last (step Real.sqrt) Sound initial calls
    (Run.visits_of_preserved (step Real.sqrt) Sound step_sound initial calls initial_sound)
  exact tracks_run_iff a b _ times (reset_onLine a b first _ reached) increasing

theorem seconds_tracked :
    Run.Along (insertLine 3 1) (TracksNext 3 1)
      ((List.nil.foldl (step Real.sqrt) initial).reset.insertLine 3 1 1000) [2000, 3000] :=
  (tracks_affine_iff [] 3 1 1000 [2000, 3000] (by simp; norm_num)).mpr
    (Or.inr (by simp [dtCapMs]; norm_num))

/-- Six seconds between the first two measurements give a drift that is too large. -/
theorem stall_untracked :
    ¬ ∀ (a b first : ℝ) (times : List ℝ), (first :: times).IsChain (· < ·) →
      Run.Along (insertLine a b) (TracksNext a b)
        ((initial : TimeFilter ℝ).reset.insertLine a b first) times := by
  intro always
  have increasing : ([1000, 7000] : List ℝ).IsChain (· < ·) := by
    simp
    norm_num
  have condition := (tracks_run_iff 3 1 _ [7000] (reset_onLine 3 1 1000 initial initial_sound)
    increasing).mp (always 3 1 1000 [7000] increasing)
  rcases condition with impossible | chain
  · exact one_ne_zero impossible
  · have within : (7000 : ℝ) - 1000 ≤ dtCapMs := (List.isChain_cons_cons.mp chain).1
    norm_num [dtCapMs] at within

end TimeFilter

end ClockSync
