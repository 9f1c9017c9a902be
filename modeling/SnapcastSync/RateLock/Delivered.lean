import Mathlib.Algebra.Order.AbsoluteValue.Basic
import Mathlib.Tactic.Linarith
import Mathlib.Tactic.Ring
import SnapcastSync.RateLock.Baseline

/-! What the hardware gets of a trim: the ratios that the register runs on over the ticks after it,
against the one that was asked for. -/

namespace I2sRateLock

variable {K : Type}

def Session.ticked (session : Session K) : Session K :=
  { session with
    lock := (session.lock.tick session.clock).1
    clock := (session.lock.tick session.clock).2
    steered := false }

def Session.Shows (session : Session K) : Prop :=
  session.clock.divConf &&& fracFieldsMask = session.lock.lastFracVal

/-- The register shows the lock's last value whenever no reprogramming is left to be read. -/
def Session.Tracks (session : Session K) : Prop :=
  session.lock.baselineValid = true → session.lock.rebaseline = false →
    session.unannounced = false → session.Shows

theorem store_shows_val (clock : ClockRegisters) (last val : Nat) (small : val < 2 ^ 28)
    (shown : clock.divConf &&& fracFieldsMask = last) :
    (clock.store last val).divConf &&& fracFieldsMask = val := by
  rw [ClockRegisters.store]
  split
  · next same => exact shown.trans same.symm
  · exact masked_of_lt val small

theorem ticked_shows (session : Session K) (shown : session.Shows)
    (small : session.lock.ditherOn = true →
      session.lock.ditherLo < 2 ^ 28 ∧ session.lock.ditherHi < 2 ^ 28) :
    session.ticked.Shows := by
  rw [Session.Shows, Session.ticked, RateLock.tick]
  split
  · next on =>
      have wanted : session.lock.want < 2 ^ 28 := by
        rw [RateLock.want]
        split
        · exact (small on).2
        · exact (small on).1
      exact store_shows_val _ _ _ wanted shown
  · exact shown

variable [Field K]

/-- The ratio that the divider runs on, where the fraction in the register can be read. -/
def ClockRegisters.ratio (clock : ClockRegisters) : Option K :=
  (decodeFrac (clock.divConf &&& fracFieldsMask)).map fun fraction =>
    programmedRatio clock.divNum fraction.1 fraction.2

def Session.Delivers : Session K → List K → Prop
  | _, [] => True
  | session, ratio :: later =>
      session.ticked.clock.ratio = some ratio ∧ session.ticked.Delivers later

def Reads (val : Nat) (v : K) : Prop :=
  val < 2 ^ 28 ∧ ∃ b a, decodeFrac val = some (b, a) ∧ (b : K) / (a : K) = v

structure Dithers (session : Session K) (lo hi : K) : Prop where
  on : session.lock.ditherOn = true
  shown : session.Shows
  lo : Reads session.lock.ditherLo lo
  hi : Reads session.lock.ditherHi hi

theorem ratio_of_shown (session : Session K) (v : K) (shown : session.Shows)
    (reads : Reads session.lock.lastFracVal v) :
    session.clock.ratio = some ((session.clock.divNum : K) + v) := by
  obtain ⟨_, b, a, decoded, value⟩ := reads
  rw [Session.Shows] at shown
  rw [ClockRegisters.ratio, shown, decoded, Option.map_some, programmedRatio, value]

theorem dithers_ticked (session : Session K) (lo hi : K) (dithers : Dithers session lo hi) :
    Dithers session.ticked lo hi ∧ session.ticked.clock.divNum = session.clock.divNum ∧
      session.ticked.clock.ratio =
        some ((session.clock.divNum : K) +
          if (sigmaDeltaStep session.lock.ditherDuty session.lock.sdAcc).1 then hi else lo) := by
  have ticked : session.lock.tick session.clock =
      ({ session.lock with
          sdAcc := (sigmaDeltaStep session.lock.ditherDuty session.lock.sdAcc).2
          lastFracVal := session.lock.want },
        session.clock.store session.lock.lastFracVal session.lock.want) := if_pos dithers.on
  have shown := ticked_shows session dithers.shown fun _ => ⟨dithers.lo.1, dithers.hi.1⟩
  have same : session.ticked.clock.divNum = session.clock.divNum := by
    rw [Session.ticked, ticked]
    exact store_divNum _ _ _
  refine ⟨?_, same, ?_⟩
  · constructor
    · rw [Session.ticked, ticked]
      exact dithers.on
    · exact shown
    · rw [Session.ticked, ticked]
      exact dithers.lo
    · rw [Session.ticked, ticked]
      exact dithers.hi
  · rw [← same]
    apply ratio_of_shown session.ticked _ shown
    rw [Session.ticked, ticked]
    dsimp only
    rw [RateLock.want]
    split
    · exact dithers.hi
    · exact dithers.lo

/-- The ticks put out the upper end as often as the shares asked of them add up to, but for what
the accumulator holds. -/
theorem dithers_delivers (session : Session K) (lo hi : K) (dithers : Dithers session lo hi)
    (share : session.lock.ditherDuty ≤ 65536) (below : session.lock.sdAcc < 65536)
    (ticks : Nat) :
    ∃ (ratios : List K) (count left : Nat),
      ratios.length = ticks ∧ session.Delivers ratios ∧
      ratios.sum = (ticks : K) * ((session.clock.divNum : K) + lo) + (count : K) * (hi - lo) ∧
      65536 * count + left = ticks * session.lock.ditherDuty + session.lock.sdAcc ∧
      left < 65536 := by
  induction ticks generalizing session with
  | zero => exact ⟨[], 0, session.lock.sdAcc, rfl, trivial, by simp, by simp, below⟩
  | succ ticks ih =>
      obtain ⟨onward, same, ratio⟩ := dithers_ticked session lo hi dithers
      obtain ⟨stays, balance⟩ :=
        sigmaDeltaStep_spec session.lock.ditherDuty session.lock.sdAcc below share
      have ticked : session.ticked.lock.ditherDuty = session.lock.ditherDuty ∧
          session.ticked.lock.sdAcc =
            (sigmaDeltaStep session.lock.ditherDuty session.lock.sdAcc).2 := by
        rw [Session.ticked, RateLock.tick, if_pos dithers.on]
        exact ⟨rfl, rfl⟩
      obtain ⟨ratios, count, left, length, delivers, sum, total, rest⟩ :=
        ih session.ticked onward (by rw [ticked.1]; exact share) (by rw [ticked.2]; exact stays)
      rw [same] at sum
      rw [ticked.1, ticked.2] at total
      cases step : (sigmaDeltaStep session.lock.ditherDuty session.lock.sdAcc).1 with
      | true =>
          rw [step, if_pos rfl] at ratio
          rw [step] at balance
          refine ⟨((session.clock.divNum : K) + hi) :: ratios, count + 1, left, by simp [length],
            ⟨ratio, delivers⟩, ?_, ?_, rest⟩
          · rw [List.sum_cons, sum]
            push_cast
            ring
          · simp only [Bool.toNat_true] at balance
            rw [Nat.add_mul, Nat.one_mul]
            omega
      | false =>
          rw [step, if_neg Bool.false_ne_true] at ratio
          rw [step] at balance
          refine ⟨((session.clock.divNum : K) + lo) :: ratios, count, left, by simp [length],
            ⟨ratio, delivers⟩, ?_, ?_, rest⟩
          · rw [List.sum_cons, sum]
            push_cast
            ring
          · simp only [Bool.toNat_false] at balance
            rw [Nat.add_mul, Nat.one_mul]
            omega

theorem still_delivers (session : Session K) (v : K) (off : session.lock.ditherOn = false)
    (shown : session.Shows) (reads : Reads session.lock.lastFracVal v) (ticks : Nat) :
    session.Delivers (List.replicate ticks ((session.clock.divNum : K) + v)) := by
  induction ticks generalizing session with
  | zero => exact trivial
  | succ ticks ih =>
      have idle : session.lock.tick session.clock = (session.lock, session.clock) := by
        rw [RateLock.tick, off, if_neg Bool.false_ne_true]
      have same : session.ticked = { session with steered := false } := by
        rw [Session.ticked, idle]
      rw [List.replicate_succ, Session.Delivers, same]
      exact ⟨ratio_of_shown { session with steered := false } v shown reads,
        ih { session with steered := false } off shown reads⟩

section Trim

variable [LinearOrder K] [IsStrictOrderedRing K] [FloorRing K]

omit [IsStrictOrderedRing K] in
theorem readBaseline_shows (lock read : RateLock K) (clock : ClockRegisters)
    (idle : lock.ditherOn = false) (found : lock.readBaseline clock = some read) :
    clock.divConf &&& fracFieldsMask = read.lastFracVal := by
  obtain ⟨_, ⟨_, shown, rfl⟩ | ⟨_, b, a, _, rfl⟩⟩ := readBaseline_cases lock read clock idle found
  · exact shown
  · rfl

omit [IsStrictOrderedRing K] in
theorem ensureBaseline_shows (session : Session K) (ready : RateLock K) (sound : Sound session)
    (tracks : session.Tracks) (taken : session.lock.rebaseline = false)
    (announced : session.unannounced = false)
    (ensured : session.lock.ensureBaseline session.clock = some ready) :
    session.clock.divConf &&& fracFieldsMask = ready.lastFracVal := by
  rw [RateLock.ensureBaseline] at ensured
  split at ensured
  · next valid =>
      cases ensured
      exact tracks valid taken announced
  · next invalid =>
      obtain ⟨read, found, rfl⟩ := Option.map_eq_some_iff.mp ensured
      have idle := sound.idle (Bool.eq_false_iff.mpr invalid) taken
      exact readBaseline_shows session.lock read session.clock idle found

omit [LinearOrder K] [IsStrictOrderedRing K] [FloorRing K] in
theorem takeRebaseline_tracks (session : Session K) (tracks : session.Tracks) :
    ({ session with lock := session.lock.takeRebaseline } : Session K).Tracks := by
  rw [RateLock.takeRebaseline]
  split
  · intro impossible
    cases impossible
  · exact tracks

omit [IsStrictOrderedRing K] in
theorem steer_shows (lock after : RateLock K) (clock shown : ClockRegisters) (ppm : K)
    (answer : Bool) (shows_ : clock.divConf &&& fracFieldsMask = lock.lastFracVal)
    (steered : lock.steer clock ppm = some (answer, after, shown)) :
    shown.divConf &&& fracFieldsMask = after.lastFracVal := by
  obtain ⟨rfl, rfl⟩ | ⟨choice, loVal, hiVal, loSmall, hiSmall, written | published⟩ :=
    steer_cases _ _ _ _ _ _ steered
  · exact shows_
  · obtain ⟨rfl, rfl⟩ := Prod.mk.inj written
    apply store_shows_val _ _ _ ?_ shows_
    split
    · exact loSmall
    · exact hiSmall
  · obtain ⟨rfl, rfl⟩ := published
    exact shows_

omit [IsStrictOrderedRing K] in
theorem setTrimPpm_cases (session after : Session K) (ppm : K) (sound : Sound session)
    (tracks : session.Tracks) (announced : session.unannounced = false)
    (performed : session.perform (.setTrimPpm ppm) = some after) :
    (after.lock.baselineValid = false ∧ after.steered = false) ∨
      after.Shows ∧ ∃ ready : RateLock K,
        ready.steer session.clock ppm = some (after.steered, after.lock, after.clock) ∧
          session.clock.divConf &&& fracFieldsMask = ready.lastFracVal ∧
          ready.sdAcc = session.lock.sdAcc := by
  obtain ⟨result, trimmed, rfl⟩ := Option.map_eq_some_iff.mp performed
  have taken := sound_takeRebaseline session sound
  have unset := takeRebaseline_rebaseline session.lock
  have kept := takeRebaseline_tracks session tracks
  rw [RateLock.setTrimPpm] at trimmed
  cases ensured : session.lock.takeRebaseline.ensureBaseline session.clock with
  | none =>
      rw [ensured] at trimmed
      cases trimmed
      refine Or.inl ⟨?_, rfl⟩
      rw [RateLock.ensureBaseline] at ensured
      split at ensured
      · cases ensured
      · next invalid => exact Bool.eq_false_iff.mpr invalid
  | some ready =>
      rw [ensured] at trimmed
      have shown := ensureBaseline_shows
        { session with lock := session.lock.takeRebaseline } ready taken kept unset announced
        ensured
      refine Or.inr ⟨steer_shows ready _ _ _ ppm _ shown trimmed, ready, trimmed, shown, ?_⟩
      rw [(ensureBaseline_share _ _ _ ensured).2, (takeRebaseline_share session.lock).2]

structure Steady (session : Session K) : Prop where
  sound : Sound session
  tracks : session.Tracks

omit [Field K] [LinearOrder K] [IsStrictOrderedRing K] [FloorRing K] in
theorem tick_flags (lock : RateLock K) (clock : ClockRegisters) :
    (lock.tick clock).1.baselineValid = lock.baselineValid ∧
      (lock.tick clock).1.rebaseline = lock.rebaseline := by
  rw [RateLock.tick]
  split <;> exact ⟨rfl, rfl⟩

theorem perform_steady (session after : Session K) (call : LockCall K) (steady : Steady session)
    (announced : Announced session call) (apart : Apart session call)
    (performed : session.perform call = some after) : Steady after := by
  refine ⟨(sound_perform session after call steady.sound announced apart performed).1, ?_⟩
  cases call with
  | setTrimPpm ppm =>
      rcases setTrimPpm_cases session after ppm steady.sound steady.tracks announced
        performed with ⟨invalid, _⟩ | ⟨shown, _⟩
      · intro valid
        rw [invalid] at valid
        cases valid
      · exact fun _ _ _ => shown
  | tick =>
      cases performed
      intro valid unset heard
      obtain ⟨sameValid, sameUnset⟩ := tick_flags session.lock session.clock
      have shown := steady.tracks (sameValid.symm.trans valid) (sameUnset.symm.trans unset) heard
      exact ticked_shows session shown fun on => (steady.sound.dithering on).2
  | invalidateBaseline =>
      cases performed
      intro _ impossible
      cases impossible
  | reprogram clock =>
      cases performed
      intro _ _ impossible
      cases impossible

theorem run_steady (port rate : Nat) (clock : ClockRegisters) (calls : List (LockCall K))
    (session : Session K)
    (announced : Run.Along lockRun (fun session call => ∀ before ∈ session, Announced before call)
      (some (Session.start port rate clock)) calls)
    (apart : Run.Along lockRun (fun session call => ∀ before ∈ session, Apart before call)
      (some (Session.start port rate clock)) calls)
    (reached : calls.foldl lockRun (some (Session.start port rate clock)) = some session) :
    Steady session := by
  have visits : Run.Visits lockRun (fun session => ∀ reached ∈ session, Steady reached)
      (some (Session.start port rate clock)) calls := by
    apply Run.visits_halting Session.perform Steady _
      (fun session call => Announced session call ∧ Apart session call)
    · exact fun session steady => steady
    · intro before call after steady allowed performed
      exact perform_steady before after call steady allowed.1 allowed.2 performed
    · exact ⟨sound_start port rate clock, fun impossible => by cases impossible⟩
    · have both := (Run.along_and lockRun _ _ _ _).mpr ⟨announced, apart⟩
      refine Run.along_mono lockRun _ _ ?_ _ _ both
      exact fun session call allowed before present =>
        ⟨allowed.1 before present, allowed.2 before present⟩
  exact Run.visits_last lockRun _ _ calls visits session reached

omit [LinearOrder K] [IsStrictOrderedRing K] [FloorRing K] in
theorem reads_of_encoded {b a val : Nat} {v : K} (encodes : Encodes b a v)
    (encoded : encodeFrac b a = some val) : Reads val v := by
  obtain ⟨written, numerator, denominator, writes, decoded, value⟩ := encodes
  rw [encoded] at writes
  cases writes
  exact ⟨encodeFrac_lt b a val encoded, numerator, denominator, decoded, value⟩

theorem steer_applied (lock after : RateLock K) (clock shown : ClockRegisters) (ppm : K)
    (steered : lock.steer clock ppm = some (true, after, shown)) :
    let frac := trimFrac lock.baseRatio lock.baseInt ppm
    let choice := pickFrac frac
    0 ≤ frac ∧ frac < 1 ∧ after.baseRatio = lock.baseRatio ∧ after.baseInt = lock.baseInt ∧
      after.sdAcc = lock.sdAcc ∧
      (choice.exact = true ∧ after.ditherOn = false ∧
          Reads after.lastFracVal (if choice.useLo then choice.loV else choice.hiV) ∨
        choice.exact = false ∧ after.ditherOn = true ∧ Reads after.ditherLo choice.loV ∧
          Reads after.ditherHi choice.hiV ∧
          after.ditherDuty = (Rounding.llround (choice.duty * ((65536 : Nat) : K))).toNat) := by
  intro frac choice
  rw [RateLock.steer] at steered
  split at steered
  · cases steered
  · next inside =>
      rw [not_or, not_lt, not_le] at inside
      obtain ⟨loVal, loEncoded, rest⟩ := Option.bind_eq_some_iff.mp steered
      obtain ⟨hiVal, hiEncoded, result⟩ := Option.map_eq_some_iff.mp rest
      have found : (pickFrac frac).hiB < (pickFrac frac).hiA := by
        by_contra missing
        have default := (pickFrac_hiEnd frac inside.1 inside.2).none_above missing
        rw [show (pickFrac (trimFrac lock.baseRatio lock.baseInt ppm)).hiB = 1 from default.1,
          show (pickFrac (trimFrac lock.baseRatio lock.baseInt ppm)).hiA = 1 from default.2.1,
          encodeFrac_one] at hiEncoded
        cases hiEncoded
      have lo := reads_of_encoded (pickFrac_lo_encodes frac inside.1 inside.2).2 loEncoded
      have hi := reads_of_encoded (pickFrac_hi_encodes frac inside.1 inside.2 found) hiEncoded
      refine ⟨inside.1, inside.2, ?_⟩
      split at result
      · next exact_ =>
          cases result
          refine ⟨rfl, rfl, rfl, Or.inl ⟨exact_, rfl, ?_⟩⟩
          change Reads (if choice.useLo then loVal else hiVal) _
          by_cases useLo : choice.useLo = true
          · rw [if_pos useLo, if_pos useLo]
            exact lo
          · rw [if_neg useLo, if_neg useLo]
            exact hi
      · next apart =>
          cases result
          exact ⟨rfl, rfl, rfl, Or.inr ⟨Bool.eq_false_iff.mpr apart, rfl, lo, hi, rfl⟩⟩

omit [FloorRing K] in
theorem weigh_exact_near (frac : K) (c : FracChoice K) (below : (c.weigh frac).loV ≤ frac)
    (above : frac ≤ (c.weigh frac).hiV) (exact_ : (c.weigh frac).exact = true) :
    |(if (c.weigh frac).useLo then (c.weigh frac).loV else (c.weigh frac).hiV) - frac| ≤
      exactTolerance := by
  have short : c.hiV - c.loV < exactTolerance ∨ frac - c.loV < exactTolerance ∨
      c.hiV - frac < exactTolerance := of_decide_eq_true exact_
  simp only [FracChoice.weigh, decide_eq_true_eq] at below above ⊢
  split
  · next first =>
      rw [abs_sub_comm, abs_of_nonneg (by linarith)]
      rcases short with gap | lo | hi <;> linarith
  · next second =>
      rw [not_le] at second
      rw [abs_of_nonneg (by linarith)]
      rcases short with gap | lo | hi <;> linarith

/-- The end that an exact choice takes is the target up to the tolerance. -/
theorem pickFrac_exact_near (frac : K) (nonneg : 0 ≤ frac) (proper : frac < 1)
    (exact_ : (pickFrac frac).exact = true) :
    |(if (pickFrac frac).useLo then (pickFrac frac).loV else (pickFrac frac).hiV) - frac| ≤
      exactTolerance := by
  have below := (pickFrac_loEnd frac nonneg proper).below
  have above := (pickFrac_hiEnd frac nonneg proper).above
  rw [pickFrac] at below above exact_ ⊢
  exact weigh_exact_near frac _ below above exact_

omit [FloorRing K] in
/-- Ends that are out in the right shares, but for one tick and the rounding of the share, mean
the target. -/
theorem mean_near (frac lo hi duty dutyQ16 : K) (ticks count left acc : K)
    (mean : lo + (hi - lo) * duty = frac) (wide : 0 ≤ hi - lo) (some_ : 0 ≤ ticks)
    (rounded : |dutyQ16 - duty * 65536| ≤ 1 / 2)
    (total : 65536 * count + left = ticks * dutyQ16 + acc)
    (leftover : |acc - left| ≤ 65536) :
    |ticks * lo + count * (hi - lo) - ticks * frac| ≤ (hi - lo) * (1 + ticks / 131072) := by
  have counted : count - ticks * duty =
      (acc - left) / 65536 + ticks * ((dutyQ16 - duty * 65536) / 65536) := by
    have scaled : count = (ticks * dutyQ16 + acc - left) / 65536 := by linarith
    rw [scaled]
    ring
  have apart : ticks * lo + count * (hi - lo) - ticks * frac =
      (hi - lo) * (count - ticks * duty) := by
    rw [← mean]
    ring
  rw [apart, abs_mul, abs_of_nonneg wide]
  refine mul_le_mul_of_nonneg_left ?_ wide
  rw [counted]
  have first : |(acc - left) / 65536| ≤ 1 := by
    rw [abs_div, abs_of_pos (by norm_num : (0 : K) < 65536), div_le_one (by norm_num)]
    exact leftover
  have second : |ticks * ((dutyQ16 - duty * 65536) / 65536)| ≤ ticks / 131072 := by
    rw [abs_mul, abs_of_nonneg some_, abs_div, abs_of_pos (by norm_num : (0 : K) < 65536)]
    calc ticks * (|dutyQ16 - duty * 65536| / 65536)
        ≤ ticks * (1 / 2 / 65536) := by gcongr
      _ = ticks / 131072 := by ring
  exact (abs_add_le _ _).trans (add_le_add first second)

theorem open_choice_delivers (session : Session K) (frac : K) (nonneg : 0 ≤ frac)
    (proper : frac < 1) (open_ : (pickFrac frac).exact = false)
    (dithers : Dithers session (pickFrac frac).loV (pickFrac frac).hiV)
    (duty : session.lock.ditherDuty =
      (Rounding.llround ((pickFrac frac).duty * ((65536 : Nat) : K))).toNat)
    (below : session.lock.sdAcc < 65536) (ticks : Nat) :
    ∃ ratios : List K, ratios.length = ticks ∧ session.Delivers ratios ∧
      |ratios.sum - (ticks : K) * ((session.clock.divNum : K) + frac)| ≤
        ((pickFrac frac).hiV - (pickFrac frac).loV) * (1 + (ticks : K) / 131072) := by
  obtain ⟨positive, share, mean⟩ : 0 < (pickFrac frac).duty ∧ (pickFrac frac).duty < 1 ∧
      (pickFrac frac).loV + ((pickFrac frac).hiV - (pickFrac frac).loV) *
        (pickFrac frac).duty = frac := weigh_mean frac _ open_
  have rounds : 0 ≤ Rounding.llround ((pickFrac frac).duty * ((65536 : Nat) : K)) :=
    Rounding.llround_nonneg _ (mul_nonneg positive.le (Nat.cast_nonneg _))
  have rounded : |(session.lock.ditherDuty : K) - (pickFrac frac).duty * 65536| ≤ 1 / 2 := by
    have close := Rounding.llround_abs_sub_le ((pickFrac frac).duty * ((65536 : Nat) : K))
    rw [duty, ← Int.cast_natCast, Int.toNat_of_nonneg rounds]
    exact_mod_cast close
  have wide : 0 ≤ (pickFrac frac).hiV - (pickFrac frac).loV :=
    sub_nonneg.mpr ((pickFrac_loEnd frac nonneg proper).below.trans
      (pickFrac_hiEnd frac nonneg proper).above)
  obtain ⟨ratios, count, left, length, delivers, sum, total, rest⟩ :=
    dithers_delivers session _ _ dithers (by rw [duty]; exact dutyQ16_le _ share) below ticks
  have leftover : |(session.lock.sdAcc : K) - (left : K)| ≤ 65536 := by
    have accBelow : (session.lock.sdAcc : K) < 65536 := by exact_mod_cast below
    have leftBelow : (left : K) < 65536 := by exact_mod_cast rest
    have accNonneg : (0 : K) ≤ (session.lock.sdAcc : K) := Nat.cast_nonneg _
    have leftNonneg : (0 : K) ≤ (left : K) := Nat.cast_nonneg _
    rw [abs_le]
    constructor <;> linarith
  have near := mean_near frac _ _ _ _ (ticks : K) (count : K) (left : K) _ mean wide
    (Nat.cast_nonneg ticks) rounded (by exact_mod_cast total) leftover
  refine ⟨ratios, length, delivers, le_trans (le_of_eq (congrArg _ ?_)) near⟩
  rw [sum]
  ring

theorem exact_choice_delivers (session : Session K) (frac : K) (nonneg : 0 ≤ frac)
    (proper : frac < 1) (exact_ : (pickFrac frac).exact = true)
    (off : session.lock.ditherOn = false) (shown : session.Shows)
    (reads : Reads session.lock.lastFracVal
      (if (pickFrac frac).useLo then (pickFrac frac).loV else (pickFrac frac).hiV))
    (ticks : Nat) :
    ∃ ratios : List K, ratios.length = ticks ∧ session.Delivers ratios ∧
      |ratios.sum - (ticks : K) * ((session.clock.divNum : K) + frac)| ≤
        (ticks : K) * exactTolerance := by
  refine ⟨_, List.length_replicate, still_delivers session _ off shown reads ticks, ?_⟩
  rw [List.sum_replicate, nsmul_eq_mul, ← mul_sub, abs_mul, abs_of_nonneg (Nat.cast_nonneg ticks),
    add_sub_add_left_eq_sub]
  exact mul_le_mul_of_nonneg_left (pickFrac_exact_near frac nonneg proper exact_)
    (Nat.cast_nonneg ticks)

/-- In every run of calls, announced and with the driver's clock apart, that ends in a trim that
answers true: the ticks to come run the register on ratios whose sum is that of the ratio asked
for, up to one step of the bracket and the rounding of its share, or to the tolerance of an exact
choice. -/
theorem trim_delivers (port rate : Nat) (clock : ClockRegisters) (calls : List (LockCall K))
    (ppm : K) (after : Session K) (ticks : Nat)
    (announced : Run.Along lockRun (fun session call => ∀ before ∈ session, Announced before call)
      (some (Session.start port rate clock)) (calls ++ [.setTrimPpm ppm]))
    (apart : Run.Along lockRun (fun session call => ∀ before ∈ session, Apart before call)
      (some (Session.start port rate clock)) (calls ++ [.setTrimPpm ppm]))
    (reached : (calls ++ [LockCall.setTrimPpm ppm]).foldl lockRun
      (some (Session.start port rate clock)) = some after)
    (steered : after.steered = true) :
    let target := trimTarget after.lock.baseRatio ppm
    let choice := pickFrac (trimFrac after.lock.baseRatio after.lock.baseInt ppm)
    ∃ ratios : List K, ratios.length = ticks ∧ after.Delivers ratios ∧
      |ratios.sum - (ticks : K) * target| ≤
        if choice.exact then (ticks : K) * exactTolerance
        else (choice.hiV - choice.loV) * (1 + (ticks : K) / 131072) := by
  intro target choice
  rw [List.foldl_append] at reached
  obtain ⟨earlier, last⟩ := (Run.along_append lockRun _ _ calls [LockCall.setTrimPpm ppm]).mp announced
  have earlierApart := ((Run.along_append lockRun _ _ calls [LockCall.setTrimPpm ppm]).mp apart).1
  cases ran : calls.foldl lockRun (some (Session.start port rate clock)) with
  | none =>
      rw [ran] at reached
      cases reached
  | some before =>
      rw [ran] at reached last
      have heard : before.unannounced = false := last.1 before rfl
      have performed : before.perform (.setTrimPpm ppm) = some after := reached
      have steady := run_steady port rate clock calls before earlier earlierApart ran
      have described := (sound_setTrimPpm before after steady.sound ppm heard performed).2 steered
      have share := Run.visits_last lockRun _ _ calls (dither_inShare port rate clock calls)
        before ran
      rcases setTrimPpm_cases before after ppm steady.sound steady.tracks heard performed with
        ⟨_, refused⟩ | ⟨shown, ready, went, _, carried⟩
      · rw [steered] at refused
        cases refused
      · rw [steered] at went
        obtain ⟨nonneg, proper, sameRatio, sameInt, sameAcc, placed⟩ :=
          steer_applied ready after.lock before.clock after.clock ppm went
        rw [← sameRatio, ← sameInt] at nonneg proper placed
        have whole : after.lock.baseInt = after.clock.divNum := described.1
        have wanted : target = (after.clock.divNum : K) +
            trimFrac after.lock.baseRatio after.lock.baseInt ppm := by
          rw [trimFrac, whole]
          exact (add_sub_cancel _ _).symm
        rw [wanted]
        rcases placed with ⟨exact_, off, reads⟩ | ⟨open_, on, lo, hi, duty⟩
        · rw [if_pos exact_]
          exact exact_choice_delivers after _ nonneg proper exact_ off shown reads ticks
        · rw [if_neg (Bool.eq_false_iff.mp open_)]
          exact open_choice_delivers after _ nonneg proper open_ ⟨on, shown, lo, hi⟩ duty
            (by rw [sameAcc, carried]; exact share.2) ticks

end Trim

def firstTrim : List (LockCall Rat) := [.tick, .setTrimPpm 1]

set_option maxRecDepth 10000 in
theorem firstTrim_reached :
    (firstTrim.foldl lockRun (some (Session.start 0 0 commonClock))).isSome = true := by
  decide +kernel

def trimmed : Session Rat :=
  (firstTrim.foldl lockRun (some (Session.start 0 0 commonClock))).get firstTrim_reached

set_option maxRecDepth 10000 in
theorem trim_delivers_first :
    let target := trimTarget trimmed.lock.baseRatio 1
    let choice := pickFrac (trimFrac trimmed.lock.baseRatio trimmed.lock.baseInt 1)
    ∃ ratios : List Rat, ratios.length = 100 ∧ trimmed.Delivers ratios ∧
      |ratios.sum - ((100 : Nat) : Rat) * target| ≤
        if choice.exact then ((100 : Nat) : Rat) * exactTolerance
        else (choice.hiV - choice.loV) * (1 + ((100 : Nat) : Rat) / 131072) := by
  refine trim_delivers 0 0 commonClock [.tick] 1 trimmed 100 ?_ ?_ ?_ (by decide +kernel)
  · refine ⟨fun _ _ => trivial, ?_, trivial⟩
    intro before present
    cases present
    rfl
  · refine ⟨?_, fun _ _ => trivial, trivial⟩
    intro before present
    cases present
    exact Or.inl rfl
  · exact (Option.some_get firstTrim_reached).symm

end I2sRateLock
