import SnapcastSync.ClockSync.OffsetFilter

/-! The sandwiched TSF read: the timer is read before and after the TSF, and the narrowest of a
few attempts is taken, or the first that is narrow enough. -/

namespace ClockSync

def sandwichMaxUs : Int := 50
def sandwichLooseMaxUs : Int := 400
def sandwichAttempts : Nat := 5

structure Attempt where
  beforeUs : Int
  tsfUs : Int
  afterUs : Int
deriving DecidableEq, Repr

namespace Attempt

def widthUs (attempt : Attempt) : Int := attempt.afterUs - attempt.beforeUs

def sample (attempt : Attempt) : TsfSample :=
  { tsfUs := attempt.tsfUs
    localUs := attempt.beforeUs + Int.tdiv attempt.widthUs 2 }

def read (attempt : Attempt) : TsfRead :=
  { sample := attempt.sample
    sandwichUs := attempt.widthUs }

end Attempt

def better (best : Option TsfRead) (attempt : Attempt) : TsfRead :=
  match best with
  | none => attempt.read
  | some taken => if attempt.widthUs < taken.sandwichUs then attempt.read else taken

/-- The loop of `sample_tsf_` over the attempts that remain. A TSF of zero ends it: the radio is
asleep. -/
def sampleLoop (best : Option TsfRead) : List Attempt → Option TsfRead
  | [] => best.filter fun taken => decide (taken.sandwichUs ≤ sandwichLooseMaxUs)
  | attempt :: rest =>
      if attempt.tsfUs = 0 then none
      else if attempt.widthUs ≤ sandwichMaxUs then
        some { better best attempt with sandwichUs := attempt.widthUs }
      else sampleLoop (some (better best attempt)) rest

def sampleTsf (attempts : Vector Attempt sandwichAttempts) : Option TsfRead :=
  sampleLoop none attempts.toList

def Loose (attempts : List Attempt) (taken : TsfRead) : Prop :=
  ∃ attempt ∈ attempts, attempt.tsfUs ≠ 0 ∧ sandwichMaxUs < attempt.widthUs ∧ taken = attempt.read

theorem better_loose (attempts : List Attempt) (best : Option TsfRead) (attempt : Attempt)
    (loose : ∀ taken ∈ best, Loose attempts taken) (member : attempt ∈ attempts)
    (awake : attempt.tsfUs ≠ 0) (wide : sandwichMaxUs < attempt.widthUs) :
    Loose attempts (better best attempt) := by
  have own : Loose attempts attempt.read := ⟨attempt, member, awake, wide, rfl⟩
  cases best with
  | none => exact own
  | some taken =>
      rw [better]
      split
      · exact own
      · exact loose taken rfl

theorem better_tight (attempts : List Attempt) (best : Option TsfRead) (attempt : Attempt)
    (loose : ∀ taken ∈ best, Loose attempts taken) (tight : attempt.widthUs ≤ sandwichMaxUs) :
    better best attempt = attempt.read := by
  cases best with
  | none => rfl
  | some taken =>
      obtain ⟨other, _, _, wide, same⟩ := loose taken rfl
      have narrower : attempt.widthUs < taken.sandwichUs := by
        rw [same]
        exact tight.trans_lt wide
      exact if_pos narrower

theorem sampleLoop_taken (attempts rest : List Attempt) (best : Option TsfRead) (taken : TsfRead)
    (loose : ∀ earlier ∈ best, Loose attempts earlier) (remaining : ∀ attempt ∈ rest,
      attempt ∈ attempts) (found : sampleLoop best rest = some taken) :
    ∃ attempt ∈ attempts, attempt.tsfUs ≠ 0 ∧ attempt.widthUs ≤ sandwichLooseMaxUs ∧
      taken = attempt.read := by
  induction rest generalizing best with
  | nil =>
      rw [sampleLoop, Option.filter_eq_some_iff] at found
      obtain ⟨held, narrow⟩ := found
      obtain ⟨attempt, member, awake, _, same⟩ := loose taken held
      have within : taken.sandwichUs ≤ sandwichLooseMaxUs := of_decide_eq_true narrow
      rw [same] at within
      exact ⟨attempt, member, awake, within, same⟩
  | cons attempt rest ih =>
      have member := remaining attempt List.mem_cons_self
      have later := fun other present => remaining other (List.mem_cons_of_mem attempt present)
      rw [sampleLoop] at found
      by_cases asleep : attempt.tsfUs = 0
      · rw [if_pos asleep] at found
        cases found
      · rw [if_neg asleep] at found
        by_cases tight : attempt.widthUs ≤ sandwichMaxUs
        · rw [if_pos tight, better_tight attempts best attempt loose tight] at found
          cases found
          exact ⟨attempt, member, asleep, tight.trans (by decide), rfl⟩
        · rw [if_neg tight] at found
          apply ih (some (better best attempt)) _ later found
          intro earlier held
          cases held
          exact better_loose attempts best attempt loose member asleep (not_le.mp tight)

theorem sampleTsf_taken (attempts : Vector Attempt sandwichAttempts) (taken : TsfRead)
    (found : sampleTsf attempts = some taken) :
    ∃ attempt ∈ attempts.toList, attempt.tsfUs ≠ 0 ∧ attempt.widthUs ≤ sandwichLooseMaxUs ∧
      taken = attempt.read :=
  sampleLoop_taken attempts.toList attempts.toList none taken (by intro _ none_; cases none_)
    (fun _ member => member) found

/-- What the TSF may be read as while the timer shows some time. -/
structure TsfClock where
  shows : Int → Int → Prop
  ppm : Nat
  /-- Between two readings the two clocks drift apart by so much at most, and a microsecond. -/
  steady : ∀ localUs tsfUs otherLocalUs otherTsfUs, shows localUs tsfUs →
    shows otherLocalUs otherTsfUs →
      |(tsfUs - localUs) - (otherTsfUs - otherLocalUs)| * 1000000 ≤
        ppm * |localUs - otherLocalUs| + 1000000

def TsfClock.Took (clock : TsfClock) (attempt : Attempt) : Prop :=
  ∃ localUs, attempt.beforeUs ≤ localUs ∧ localUs ≤ attempt.afterUs ∧
    clock.shows localUs attempt.tsfUs

/-- The mapping of a sample, against that of any other local time: half the loose sandwich, and
the drift in between. -/
theorem sampled_mapping (clock : TsfClock) (attempts : Vector Attempt sandwichAttempts)
    (took : ∀ attempt ∈ attempts.toList, attempt.tsfUs ≠ 0 → clock.Took attempt)
    (taken : TsfRead) (found : sampleTsf attempts = some taken) (localUs tsfUs : Int)
    (shown : clock.shows localUs tsfUs) :
    |(taken.sample.tsfUs - taken.sample.localUs) - (tsfUs - localUs)| * 1000000 ≤
      clock.ppm * (|taken.sample.localUs - localUs| + 200) + 201 * 1000000 := by
  obtain ⟨attempt, member, awake, narrow, rfl⟩ := sampleTsf_taken attempts taken found
  obtain ⟨atUs, early, late, showing⟩ := took attempt member awake
  have drift := clock.steady atUs attempt.tsfUs localUs tsfUs showing shown
  have halved : Int.tdiv attempt.widthUs 2 = (attempt.afterUs - attempt.beforeUs) / 2 :=
    Int.tdiv_eq_ediv_of_nonneg (by rw [Attempt.widthUs]; omega)
  have middle : |attempt.sample.localUs - atUs| ≤ 200 := by
    rw [Attempt.sample, abs_le]
    dsimp only
    rw [halved]
    rw [Attempt.widthUs, sandwichLooseMaxUs] at narrow
    omega
  have apart : |atUs - localUs| ≤ |attempt.sample.localUs - localUs| + 200 := by
    have split : atUs - localUs = (atUs - attempt.sample.localUs) +
        (attempt.sample.localUs - localUs) := by ring
    rw [split, add_comm (|_|)]
    refine (abs_add_le _ _).trans (add_le_add ?_ le_rfl)
    rw [abs_sub_comm]
    exact middle
  have off : |(attempt.tsfUs - attempt.sample.localUs) - (tsfUs - localUs)| ≤
      |(attempt.tsfUs - atUs) - (tsfUs - localUs)| + 200 := by
    have split : (attempt.tsfUs - attempt.sample.localUs) - (tsfUs - localUs) =
        ((attempt.tsfUs - atUs) - (tsfUs - localUs)) + (atUs - attempt.sample.localUs) := by ring
    rw [split]
    refine (abs_add_le _ _).trans (add_le_add le_rfl ?_)
    rw [abs_sub_comm]
    exact middle
  calc |(attempt.tsfUs - attempt.sample.localUs) - (tsfUs - localUs)| * 1000000
      ≤ (|(attempt.tsfUs - atUs) - (tsfUs - localUs)| + 200) * 1000000 :=
        mul_le_mul_of_nonneg_right off (by decide)
    _ ≤ (clock.ppm * |atUs - localUs| + 1000000) + 200 * 1000000 := by
        rw [add_mul]
        exact add_le_add drift le_rfl
    _ = clock.ppm * |atUs - localUs| + 201 * 1000000 := by ring
    _ ≤ clock.ppm * (|attempt.sample.localUs - localUs| + 200) + 201 * 1000000 :=
        add_le_add (mul_le_mul_of_nonneg_left apart (Int.natCast_nonneg _)) le_rfl

end ClockSync
