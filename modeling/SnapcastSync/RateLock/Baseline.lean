import SnapcastSync.Lib.Run
import SnapcastSync.RateLock.Lock

/-! The baseline of the rate lock against the driver that owns the divider: which clock the lock
measures its trims from, over any order of trims, ticks, invalidations and reprogrammings. -/

namespace I2sRateLock

variable {K : Type} [Field K] [LinearOrder K]

section Model

variable [FloorRing K]

/-- The lock and the registers, with what the driver last programmed into the fraction, whether
a reprogramming still waits for its `invalidate_baseline`, and whether the last call was a trim
that returned true. -/
structure Session (K : Type) where
  lock : RateLock K
  clock : ClockRegisters
  driverConf : Nat
  unannounced : Bool
  steered : Bool

inductive LockCall (K : Type) where
  | setTrimPpm (ppm : K)
  | tick
  | invalidateBaseline
  | reprogram (clock : ClockRegisters)

/-- `none` where the call divides by zero. -/
def Session.perform (session : Session K) : LockCall K → Option (Session K)
  | .setTrimPpm ppm =>
      (session.lock.setTrimPpm session.clock ppm).map (fun result =>
        { session with lock := result.2.1, clock := result.2.2, steered := result.1 })
  | .tick =>
      some { session with
        lock := (session.lock.tick session.clock).1
        clock := (session.lock.tick session.clock).2
        steered := false }
  | .invalidateBaseline =>
      some { session with
        lock := session.lock.invalidateBaseline
        unannounced := false
        steered := false }
  | .reprogram clock =>
      some { session with
        clock := clock
        driverConf := clock.divConf
        unannounced := true
        steered := false }

def Session.start (port rate : Nat) (clock : ClockRegisters) : Session K :=
  { lock := (RateLock.fresh port).setOutputRate rate
    clock := clock
    driverConf := clock.divConf
    unannounced := false
    steered := false }

def Describes (lock : RateLock K) (divNum divConf : Nat) : Prop :=
  lock.baseInt = divNum ∧ ∃ b a, decodeFrac (divConf &&& fracFieldsMask) = some (b, a) ∧
    lock.baseRatio = baselineRatio lock.outputRate divNum b a

/-- After a trim that returned true the baseline is that of the driver's current clock. -/
def Session.Follows (session : Session K) : Prop :=
  session.steered = true → Describes session.lock session.clock.divNum session.driverConf

def Announced (session : Session K) : LockCall K → Prop
  | .setTrimPpm _ => session.unannounced = false
  | _ => True

/-- The driver's clock stays apart from what the lock has written: a reprogramming to a clock of
another baseline brings a fraction other than the last one written here, and no tick writes
until the lock has read it. -/
def Apart (session : Session K) : LockCall K → Prop
  | .reprogram clock =>
      session.lock.oursValid = false ∨
        clock.divConf &&& fracFieldsMask ≠ session.lock.lastFracVal ∨
        Describes session.lock clock.divNum clock.divConf
  | .tick =>
      session.lock.ditherOn = false ∨ session.lock.want = session.lock.lastFracVal ∨
        Describes session.lock session.clock.divNum session.driverConf
  | _ => True

end Model

variable [IsStrictOrderedRing K] [FloorRing K]

theorem programmedRatio_pos (divNum b a : Nat) (two : 2 ≤ divNum) :
    (0 : K) < programmedRatio divNum b a := by
  have whole : (0 : K) < (divNum : K) := Nat.cast_pos.mpr (by omega)
  have fraction : (0 : K) ≤ (b : K) / (a : K) := div_nonneg (Nat.cast_nonneg b) (Nat.cast_nonneg a)
  rw [programmedRatio]
  linarith

omit [IsStrictOrderedRing K] in
/-- What replaces the programmed ratio explains it to a hundredth and keeps its integer part. -/
theorem correctedRatio_near (rate divNum b a : Nat) (ideal : K)
    (corrected : correctedRatio rate divNum b a = some ideal) :
    |ideal - programmedRatio divNum b a| / programmedRatio divNum b a ≤ multMatchTol ∧
      ⌊ideal⌋.toNat = divNum := by
  rw [correctedRatio] at corrected
  split at corrected
  · cases corrected
  · obtain ⟨mult, found, taken⟩ := Option.bind_eq_some_iff.mp corrected
    have near : |idealRatio rate mult - programmedRatio divNum b a| / programmedRatio divNum b a ≤
        (multMatchTol : K) := by simpa using List.find?_some found
    split at taken
    · next whole =>
        cases taken
        exact ⟨near, whole⟩
    · cases taken

theorem baselineRatio_pos (rate divNum b a : Nat) (two : 2 ≤ divNum) :
    (0 : K) < baselineRatio rate divNum b a := by
  have positive : (0 : K) < programmedRatio divNum b a := programmedRatio_pos divNum b a two
  rw [baselineRatio]
  cases corrected : (correctedRatio rate divNum b a : Option K) with
  | none => exact positive
  | some ideal =>
      obtain ⟨near, _⟩ := correctedRatio_near rate divNum b a ideal corrected
      rw [div_le_iff₀ positive, multMatchTol] at near
      have below := (abs_le.mp near).1
      have tolerance : ((1 : Nat) : K) / ((100 : Nat) : K) < 1 := by
        rw [div_lt_one (Nat.cast_pos.mpr (by decide)), Nat.cast_lt]
        decide
      have share : ((1 : Nat) : K) / ((100 : Nat) : K) * programmedRatio divNum b a <
          programmedRatio divNum b a := mul_lt_of_lt_one_left positive tolerance
      change 0 < ideal
      linarith

theorem masked_of_lt (val : Nat) (small : val < 2 ^ 28) : val &&& fracFieldsMask = val :=
  Nat.and_two_pow_sub_one_of_lt_two_pow small

@[simp] theorem store_divNum (clock : ClockRegisters) (last val : Nat) :
    (clock.store last val).divNum = clock.divNum := by
  rw [ClockRegisters.store]
  split
  · rfl
  · rfl

theorem store_shows (clock : ClockRegisters) (driven last val : Nat) (small : val < 2 ^ 28)
    (source : clock.divConf &&& fracFieldsMask = driven ∨
      clock.divConf &&& fracFieldsMask = last) :
    (clock.store last val).divConf &&& fracFieldsMask = driven ∨
      (clock.store last val).divConf &&& fracFieldsMask = val := by
  rw [ClockRegisters.store]
  split
  · next unchanged =>
      rw [unchanged]
      exact source
  · exact Or.inr (masked_of_lt val small)

omit [IsStrictOrderedRing K] in
theorem describes_of_same {lock other : RateLock K} {divNum divConf : Nat}
    (sameInt : other.baseInt = lock.baseInt) (sameRatio : other.baseRatio = lock.baseRatio)
    (sameRate : other.outputRate = lock.outputRate) (described : Describes lock divNum divConf) :
    Describes other divNum divConf := by
  rw [Describes, sameInt, sameRatio, sameRate]
  exact described

/-- What holds of the session between two calls. Where the register shows the lock's last value
the baseline is still that of the driver's clock: recognising it does no harm. -/
structure Sound (session : Session K) : Prop where
  source : session.clock.divConf &&& fracFieldsMask = session.driverConf &&& fracFieldsMask ∨
    session.lock.oursValid = true ∧
      session.clock.divConf &&& fracFieldsMask = session.lock.lastFracVal
  positive : session.lock.oursValid = true ∨ session.lock.baselineValid = true →
    0 < session.lock.baseRatio
  ours : session.lock.oursValid = true →
    session.clock.divConf &&& fracFieldsMask = session.lock.lastFracVal →
    Describes session.lock session.clock.divNum session.driverConf
  valid : session.lock.baselineValid = true → session.lock.rebaseline = false →
    session.unannounced = false → Describes session.lock session.clock.divNum session.driverConf
  idle : session.lock.baselineValid = false → session.lock.rebaseline = false →
    session.lock.ditherOn = false
  dithering : session.lock.ditherOn = true → session.lock.oursValid = true ∧
    session.lock.ditherLo < 2 ^ 28 ∧ session.lock.ditherHi < 2 ^ 28

omit [IsStrictOrderedRing K] in
theorem sound_start (port rate : Nat) (clock : ClockRegisters) :
    Sound (Session.start port rate clock : Session K) := by
  constructor
  · exact Or.inl rfl
  · rintro (impossible | impossible) <;> cases impossible
  · intro impossible
    cases impossible
  · intro impossible
    cases impossible
  · intro _ impossible
    cases impossible
  · intro impossible
    cases impossible

omit [IsStrictOrderedRing K] in
theorem sound_takeRebaseline (session : Session K) (sound : Sound session) :
    Sound { session with lock := session.lock.takeRebaseline } := by
  rw [RateLock.takeRebaseline]
  split
  · constructor
    · exact sound.source
    · rintro (written | impossible)
      · exact sound.positive (Or.inl written)
      · cases impossible
    · exact sound.ours
    · intro impossible
      cases impossible
    · exact fun _ _ => rfl
    · intro impossible
      cases impossible
  · exact sound

omit [LinearOrder K] [IsStrictOrderedRing K] [FloorRing K] in
theorem takeRebaseline_rebaseline (lock : RateLock K) : lock.takeRebaseline.rebaseline = false := by
  rw [RateLock.takeRebaseline]
  split
  · rfl
  · next unset => exact Bool.eq_false_iff.mpr unset

omit [IsStrictOrderedRing K] in
/-- A read of the baseline, once for every caller: the checks it passed, and what it keeps or
takes from the register. -/
theorem readBaseline_eq_some_iff (lock read : RateLock K) (clock : ClockRegisters) :
    lock.readBaseline clock = some read ↔
      lock.port ≤ 1 ∧ clock.txClkActive = true ∧ 2 ≤ clock.divNum ∧
        (lock.keepsBaseline (clock.divConf &&& fracFieldsMask) = true ∧ read = lock ∨
          lock.keepsBaseline (clock.divConf &&& fracFieldsMask) = false ∧
          ∃ b a, decodeFrac (clock.divConf &&& fracFieldsMask) = some (b, a) ∧
            encodeFrac b a = some (clock.divConf &&& fracFieldsMask) ∧
            read = lock.adoptBaseline clock.divNum (clock.divConf &&& fracFieldsMask) b a) := by
  rw [RateLock.readBaseline]
  dsimp only
  constructor
  · intro found
    obtain ⟨port, found⟩ := Option.ite_none_left_eq_some.mp found
    obtain ⟨active, found⟩ := Option.ite_none_left_eq_some.mp found
    obtain ⟨divider, found⟩ := Option.ite_none_left_eq_some.mp found
    refine ⟨Nat.le_of_not_lt port, by simpa using active, Nat.le_of_not_lt divider, ?_⟩
    split at found
    · next kept =>
        cases found
        exact Or.inl ⟨kept, rfl⟩
    · next lost =>
        refine Or.inr ⟨Bool.eq_false_iff.mpr lost, ?_⟩
        split at found
        · cases found
        · next b a decoded =>
            obtain ⟨same, adopted⟩ := Option.ite_none_right_eq_some.mp found
            exact ⟨b, a, decoded, same, (Option.some.inj adopted).symm⟩
  · rintro ⟨port, active, divider, taken⟩
    rw [if_neg (Nat.not_lt.mpr port), if_neg (by rw [active]; decide),
      if_neg (Nat.not_lt.mpr divider)]
    rcases taken with ⟨kept, rfl⟩ | ⟨lost, b, a, decoded, same, rfl⟩
    · exact if_pos kept
    · rw [if_neg (Bool.eq_false_iff.mp lost), decoded]
      exact if_pos same

omit [IsStrictOrderedRing K] in
/-- The round-trip check of a baseline read lets through the canonical fractions alone. -/
theorem readBaseline_eq_none_iff (lock : RateLock K) (clock : ClockRegisters) :
    lock.readBaseline clock = none ↔
      1 < lock.port ∨ clock.txClkActive = false ∨ clock.divNum < 2 ∨
        lock.keepsBaseline (clock.divConf &&& fracFieldsMask) = false ∧
          ¬ Canonical (clock.divConf &&& fracFieldsMask) := by
  rw [← encodeFrac_decodeFrac_iff, Option.eq_none_iff_forall_ne_some]
  simp only [Ne, readBaseline_eq_some_iff]
  constructor
  · intro refused
    by_contra passes
    simp only [not_or, not_and_or, not_not, Nat.not_lt, Bool.not_eq_false] at passes
    obtain ⟨port, active, divider, kept⟩ := passes
    by_cases keeps : lock.keepsBaseline (clock.divConf &&& fracFieldsMask) = true
    · exact refused lock ⟨port, active, divider, Or.inl ⟨keeps, rfl⟩⟩
    · obtain ⟨b, a, decoded, same⟩ := kept.resolve_left keeps
      exact refused _ ⟨port, active, divider,
        Or.inr ⟨Bool.eq_false_iff.mpr keeps, b, a, decoded, same, rfl⟩⟩
  · rintro refusal read ⟨port, active, divider, taken⟩
    rcases refusal with high | idle | low | ⟨lost, foreign⟩
    · exact absurd high (Nat.not_lt.mpr port)
    · rw [active] at idle
      cases idle
    · exact absurd low (Nat.not_lt.mpr divider)
    · rcases taken with ⟨kept, _⟩ | ⟨_, b, a, decoded, same, _⟩
      · rw [lost] at kept
        cases kept
      · exact foreign ⟨b, a, decoded, same⟩
omit [IsStrictOrderedRing K] in
/-- The codec of the fraction against the check made of it: a register is taken over as the
baseline where it could have been written from a ratio. -/
theorem register_codec :
    (∀ val, (∃ b a, decodeFrac val = some (b, a) ∧ encodeFrac b a = some val) ↔
      ∃ b a, b < a ∧ a ≤ fracMaxDenominator ∧ encodeFrac b a = some val) ∧
    (∀ b a, 0 < b → b < a → a ≤ fracMaxDenominator →
      ∃ val, encodeFrac b a = some val ∧ decodeFrac val = some (b, a)) ∧
    ∀ (lock : RateLock K) (clock : ClockRegisters), lock.readBaseline clock = none ↔
      1 < lock.port ∨ clock.txClkActive = false ∨ clock.divNum < 2 ∨
        lock.keepsBaseline (clock.divConf &&& fracFieldsMask) = false ∧
          ¬ ∃ b a, b < a ∧ a ≤ fracMaxDenominator ∧
            encodeFrac b a = some (clock.divConf &&& fracFieldsMask) := by
  refine ⟨encodeFrac_decodeFrac_iff, ?_, readBaseline_eq_none_iff⟩
  intro b a positive proper within
  obtain ⟨val, encoded, decoded⟩ := decodeFrac_encodeFrac b a proper within
  rw [if_neg positive.ne'] at decoded
  exact ⟨val, encoded, decoded⟩

theorem register_codec_common :
    ∃ val, encodeFrac 76 441 = some val ∧ decodeFrac val = some (76, 441) :=
  (register_codec (K := Rat)).2.1 76 441 (by decide) (by decide) (by decide)

omit [IsStrictOrderedRing K] in
/-- Reading the divider with no dither on: the baseline is kept where the register shows the
last value written here, and otherwise is that of the register. -/
theorem readBaseline_cases (lock read : RateLock K) (clock : ClockRegisters)
    (idle : lock.ditherOn = false) (found : lock.readBaseline clock = some read) :
    2 ≤ clock.divNum ∧
      (lock.oursValid = true ∧ clock.divConf &&& fracFieldsMask = lock.lastFracVal ∧ read = lock ∨
        (lock.oursValid = true → 0 < lock.baseRatio →
          clock.divConf &&& fracFieldsMask ≠ lock.lastFracVal) ∧
        ∃ b a, decodeFrac (clock.divConf &&& fracFieldsMask) = some (b, a) ∧
          read = lock.adoptBaseline clock.divNum (clock.divConf &&& fracFieldsMask) b a) := by
  have recognised : lock.keepsBaseline (clock.divConf &&& fracFieldsMask) = true ↔
      (lock.oursValid = true ∧ clock.divConf &&& fracFieldsMask = lock.lastFracVal) ∧
        0 < lock.baseRatio := by
    rw [RateLock.keepsBaseline, RateLock.recognises, idle, Bool.false_and, Bool.or_false]
    simp only [Bool.and_eq_true, decide_eq_true_eq]
  obtain ⟨_, _, divider, kept | adopted⟩ := (readBaseline_eq_some_iff lock read clock).mp found
  · obtain ⟨⟨written, shown⟩, _⟩ := recognised.mp kept.1
    exact ⟨divider, Or.inl ⟨written, shown, kept.2⟩⟩
  · obtain ⟨lost, b, a, decoded, _, same⟩ := adopted
    refine ⟨divider, Or.inr ⟨fun written positive shown => ?_, b, a, decoded, same⟩⟩
    exact Bool.eq_false_iff.mp lost (recognised.mpr ⟨⟨written, shown⟩, positive⟩)

theorem sound_ensureBaseline (session : Session K) (sound : Sound session)
    (taken : session.lock.rebaseline = false) (announced : session.unannounced = false)
    (ready : RateLock K) (ensured : session.lock.ensureBaseline session.clock = some ready) :
    Sound { session with lock := ready } ∧ ready.baselineValid = true ∧
      ready.rebaseline = false ∧ Describes ready session.clock.divNum session.driverConf := by
  rw [RateLock.ensureBaseline] at ensured
  split at ensured
  · next validAlready =>
      cases ensured
      exact ⟨sound, validAlready, taken, sound.valid validAlready taken announced⟩
  · next invalid =>
      obtain ⟨read, found, rfl⟩ := Option.map_eq_some_iff.mp ensured
      have idle := sound.idle (Bool.eq_false_iff.mpr invalid) taken
      obtain ⟨two, kept | adopted⟩ := readBaseline_cases _ _ _ idle found
      · obtain ⟨written, shown, rfl⟩ := kept
        have described := sound.ours written shown
        refine ⟨?_, rfl, taken, described⟩
        constructor
        · exact sound.source
        · exact fun _ => sound.positive (Or.inl written)
        · exact sound.ours
        · exact fun _ _ _ => described
        · intro impossible
          cases impossible
        · exact sound.dithering
      · obtain ⟨unlike, b, a, decoded, rfl⟩ := adopted
        -- the register shows what the driver programmed
        have driven : session.clock.divConf &&& fracFieldsMask =
            session.driverConf &&& fracFieldsMask := by
          rcases sound.source with same | ⟨written, shown⟩
          · exact same
          · exact absurd shown (unlike written (sound.positive (Or.inl written)))
        have described : Describes
            { session.lock.adoptBaseline session.clock.divNum
                (session.clock.divConf &&& fracFieldsMask) b a with baselineValid := true }
            session.clock.divNum session.driverConf :=
          ⟨rfl, b, a, by rw [← driven]; exact decoded, rfl⟩
        refine ⟨?_, rfl, taken, described⟩
        constructor
        · exact Or.inl driven
        · exact fun _ => baselineRatio_pos _ _ b a two
        · exact fun _ _ => described
        · exact fun _ _ _ => described
        · intro impossible
          cases impossible
        · intro on
          exact absurd (show session.lock.ditherOn = true from on) (Bool.eq_false_iff.mp idle)

omit [IsStrictOrderedRing K] in
/-- A trim that goes through either writes the one value it wants or hands a bracket to the
ticks; in either case the register shows what it showed or what was written last. -/
theorem steer_cases (lock after : RateLock K) (clock shown : ClockRegisters) (ppm : K)
    (answer : Bool) (steered : lock.steer clock ppm = some (answer, after, shown)) :
    after = lock ∧ shown = clock ∨
      ∃ choice loVal hiVal, loVal < 2 ^ 28 ∧ hiVal < 2 ^ 28 ∧
        ((after, shown) = lock.applyExact choice loVal hiVal clock ∨
          after = lock.publishDither choice loVal hiVal (trimTarget lock.baseRatio ppm) ∧
            shown = clock) := by
  rw [RateLock.steer] at steered
  split at steered
  · cases steered
    exact Or.inl ⟨rfl, rfl⟩
  · obtain ⟨loVal, loEncoded, rest⟩ := Option.bind_eq_some_iff.mp steered
    obtain ⟨hiVal, hiEncoded, result⟩ := Option.map_eq_some_iff.mp rest
    refine Or.inr ⟨pickFrac (trimFrac lock.baseRatio lock.baseInt ppm), loVal, hiVal,
      encodeFrac_lt _ _ _ loEncoded, encodeFrac_lt _ _ _ hiEncoded, ?_⟩
    split at result
    · exact Or.inl (congrArg Prod.snd result).symm
    · cases result
      exact Or.inr ⟨rfl, rfl⟩

omit [IsStrictOrderedRing K] in
/-- Where the baseline is that of the driver's clock, anything the lock may put in the register
leaves the session sound. -/
theorem sound_of_written (session : Session K)
    (source : session.clock.divConf &&& fracFieldsMask = session.driverConf &&& fracFieldsMask ∨
      session.lock.oursValid = true ∧
        session.clock.divConf &&& fracFieldsMask = session.lock.lastFracVal)
    (positive : 0 < session.lock.baseRatio) (validated : session.lock.baselineValid = true)
    (described : Describes session.lock session.clock.divNum session.driverConf)
    (dithering : session.lock.ditherOn = true → session.lock.oursValid = true ∧
      session.lock.ditherLo < 2 ^ 28 ∧ session.lock.ditherHi < 2 ^ 28) : Sound session := by
  constructor
  · exact source
  · exact fun _ => positive
  · exact fun _ _ => described
  · exact fun _ _ _ => described
  · intro invalid
    rw [validated] at invalid
    cases invalid
  · exact dithering

omit [IsStrictOrderedRing K] in
theorem sound_steer (session : Session K) (sound : Sound session)
    (validated : session.lock.baselineValid = true)
    (described : Describes session.lock session.clock.divNum session.driverConf)
    (after : RateLock K) (shown : ClockRegisters) (ppm : K) (answer : Bool)
    (steered : session.lock.steer session.clock ppm = some (answer, after, shown)) :
    Sound { session with lock := after, clock := shown, steered := answer } ∧
      Describes after shown.divNum session.driverConf := by
  have positive := sound.positive (Or.inr validated)
  obtain ⟨rfl, rfl⟩ | ⟨choice, loVal, hiVal, loSmall, hiSmall, written | published⟩ :=
    steer_cases _ _ _ _ _ _ steered
  · exact ⟨⟨sound.source, sound.positive, sound.ours, sound.valid, sound.idle, sound.dithering⟩,
      described⟩
  · obtain ⟨rfl, rfl⟩ := Prod.mk.inj written
    have small : (if choice.useLo then loVal else hiVal) < 2 ^ 28 := by
      split
      · exact loSmall
      · exact hiSmall
    have kept : Describes (session.lock.applyExact choice loVal hiVal session.clock).1
        (session.lock.applyExact choice loVal hiVal session.clock).2.divNum session.driverConf := by
      rw [RateLock.applyExact, store_divNum]
      exact describes_of_same rfl rfl rfl described
    refine ⟨sound_of_written _ ?_ positive validated kept (fun impossible => by cases impossible),
      kept⟩
    exact (store_shows session.clock _ _ _ small (sound.source.imp_right And.right)).imp_right
      (fun shows => ⟨rfl, shows⟩)
  · obtain ⟨rfl, rfl⟩ := published
    have kept : Describes
        (session.lock.publishDither choice loVal hiVal (trimTarget session.lock.baseRatio ppm))
        session.clock.divNum session.driverConf := describes_of_same rfl rfl rfl described
    refine ⟨sound_of_written _ ?_ positive validated kept (fun _ => ⟨rfl, loSmall, hiSmall⟩), kept⟩
    rcases sound.source with same | ⟨_, shows⟩
    · exact Or.inl same
    · exact Or.inr ⟨rfl, shows⟩

theorem sound_setTrimPpm (session after : Session K) (sound : Sound session) (ppm : K)
    (announced : session.unannounced = false)
    (performed : session.perform (.setTrimPpm ppm) = some after) :
    Sound after ∧ after.Follows := by
  obtain ⟨result, trimmed, rfl⟩ := Option.map_eq_some_iff.mp performed
  have taken := sound_takeRebaseline session sound
  have unset := takeRebaseline_rebaseline session.lock
  rw [RateLock.setTrimPpm] at trimmed
  cases ensured : session.lock.takeRebaseline.ensureBaseline session.clock with
  | none =>
      rw [ensured] at trimmed
      cases trimmed
      refine ⟨⟨taken.source, taken.positive, taken.ours, taken.valid, taken.idle,
        taken.dithering⟩, ?_⟩
      intro impossible
      cases impossible
  | some ready =>
      rw [ensured] at trimmed
      obtain ⟨readySound, validated, _, described⟩ := sound_ensureBaseline
        { session with lock := session.lock.takeRebaseline } taken unset announced ready ensured
      obtain ⟨steeredSound, follows⟩ := sound_steer { session with lock := ready } readySound
        validated described result.2.1 result.2.2 ppm result.1 trimmed
      exact ⟨steeredSound, fun _ => follows⟩

omit [IsStrictOrderedRing K] in
theorem sound_tick (session : Session K) (sound : Sound session)
    (apart : Apart session (LockCall.tick : LockCall K)) :
    Sound { session with
      lock := (session.lock.tick session.clock).1
      clock := (session.lock.tick session.clock).2
      steered := false } := by
  by_cases on : session.lock.ditherOn = true
  · obtain ⟨written, loSmall, hiSmall⟩ := sound.dithering on
    have small : session.lock.want < 2 ^ 28 := by
      rw [RateLock.want]
      split
      · exact hiSmall
      · exact loSmall
    have ticked : session.lock.tick session.clock =
        ({ session.lock with
            sdAcc := (sigmaDeltaStep session.lock.ditherDuty session.lock.sdAcc).2
            lastFracVal := session.lock.want },
          session.clock.store session.lock.lastFracVal session.lock.want) := if_pos on
    rw [ticked]
    -- a tick that writes does so on a clock the baseline describes
    have harmless : session.lock.want = session.lock.lastFracVal ∨
        Describes session.lock session.clock.divNum session.driverConf := by
      rcases apart with off | quiet
      · rw [off] at on
        cases on
      · exact quiet
    constructor
    · exact (store_shows session.clock _ _ _ small (sound.source.imp_right And.right)).imp_right
        (fun shows => ⟨written, shows⟩)
    · exact sound.positive
    · intro _ shows
      dsimp only at shows ⊢
      rw [store_divNum]
      rcases harmless with quiet | described
      · rw [quiet, ClockRegisters.store, if_pos rfl] at shows
        exact describes_of_same rfl rfl rfl (sound.ours written shows)
      · exact describes_of_same rfl rfl rfl described
    · intro validated unset announced
      dsimp only
      rw [store_divNum]
      exact describes_of_same rfl rfl rfl (sound.valid validated unset announced)
    · exact sound.idle
    · exact sound.dithering
  · have idle : session.lock.tick session.clock = (session.lock, session.clock) := if_neg on
    rw [idle]
    exact ⟨sound.source, sound.positive, sound.ours, sound.valid, sound.idle, sound.dithering⟩

omit [IsStrictOrderedRing K] in
theorem sound_reprogram (session : Session K) (sound : Sound session) (clock : ClockRegisters)
    (apart : Apart session (.reprogram clock)) :
    Sound { session with
      clock := clock
      driverConf := clock.divConf
      unannounced := true
      steered := false } := by
  constructor
  · exact Or.inl rfl
  · exact sound.positive
  · intro written shows
    rcases apart with unwritten | different | described
    · exact absurd written (Bool.eq_false_iff.mp unwritten)
    · exact absurd shows different
    · exact described
  · intro _ _ impossible
    cases impossible
  · exact sound.idle
  · exact sound.dithering

theorem sound_perform (session after : Session K) (call : LockCall K) (sound : Sound session)
    (announced : Announced session call) (apart : Apart session call)
    (performed : session.perform call = some after) : Sound after ∧ after.Follows := by
  cases call with
  | setTrimPpm ppm => exact sound_setTrimPpm session after sound ppm announced performed
  | tick =>
      cases performed
      exact ⟨sound_tick session sound apart, fun impossible => by cases impossible⟩
  | invalidateBaseline =>
      cases performed
      refine ⟨⟨sound.source, sound.positive, sound.ours, ?_, ?_, sound.dithering⟩,
        fun impossible => by cases impossible⟩
      · intro _ impossible
        cases impossible
      · intro _ impossible
        cases impossible
  | reprogram clock =>
      cases performed
      exact ⟨sound_reprogram session sound clock apart, fun impossible => by cases impossible⟩

abbrev lockRun : Option (Session K) → LockCall K → Option (Session K) :=
  Run.halting Session.perform

/-- As long as the driver's clock stays apart from what the lock writes, every trim that returns
true is measured from it. -/
theorem baseline_follows (port rate : Nat) (clock : ClockRegisters) (calls : List (LockCall K))
    (announced : Run.Along lockRun (fun session call => ∀ before ∈ session, Announced before call)
      (some (Session.start port rate clock)) calls)
    (apart : Run.Along lockRun (fun session call => ∀ before ∈ session, Apart before call)
      (some (Session.start port rate clock)) calls) :
    Run.Visits lockRun (fun session => ∀ reached ∈ session, reached.Follows)
      (some (Session.start port rate clock)) calls := by
  apply Run.visits_halting Session.perform (fun session => Sound session ∧ session.Follows) _
    (fun session call => Announced session call ∧ Apart session call)
  · exact fun session invariant => invariant.2
  · intro before call after invariant allowed performed
    exact sound_perform before after call invariant.1 allowed.1 allowed.2 performed
  · exact ⟨sound_start port rate clock, fun impossible => by cases impossible⟩
  · have both := (Run.along_and lockRun _ _ _ _).mpr ⟨announced, apart⟩
    refine Run.along_mono lockRun _ _ ?_ _ _ both
    exact fun session call allowed before present =>
      ⟨allowed.1 before present, allowed.2 before present⟩

def InShare (session : Session K) : Prop :=
  session.lock.ditherDuty ≤ 65536 ∧ session.lock.sdAcc < 65536

theorem dutyQ16_le (duty : K) (proper : duty < 1) :
    (Rounding.llround (duty * ((65536 : Nat) : K))).toNat ≤ 65536 := by
  have below : duty * ((65536 : Nat) : K) ≤ ((65536 : Int) : K) := by
    rw [Int.cast_ofNat, ← Nat.cast_ofNat (R := K)]
    exact mul_le_of_le_one_left (Nat.cast_nonneg _) proper.le
  have rounded := Rounding.llround_mono below
  rw [Rounding.llround_intCast] at rounded
  omega

theorem steer_inShare (lock after : RateLock K) (clock shown : ClockRegisters) (ppm : K)
    (answer : Bool) (share : lock.ditherDuty ≤ 65536)
    (steered : lock.steer clock ppm = some (answer, after, shown)) :
    after.ditherDuty ≤ 65536 ∧ after.sdAcc = lock.sdAcc := by
  rw [RateLock.steer] at steered
  split at steered
  · cases steered
    exact ⟨share, rfl⟩
  · obtain ⟨loVal, _, rest⟩ := Option.bind_eq_some_iff.mp steered
    obtain ⟨hiVal, _, result⟩ := Option.map_eq_some_iff.mp rest
    split at result
    · cases result
      exact ⟨share, rfl⟩
    · next apart =>
        cases result
        exact ⟨dutyQ16_le _ (weigh_mean _ _ (Bool.eq_false_iff.mpr apart)).2.1, rfl⟩

omit [LinearOrder K] [IsStrictOrderedRing K] [FloorRing K] in
theorem takeRebaseline_share (lock : RateLock K) :
    lock.takeRebaseline.ditherDuty = lock.ditherDuty ∧ lock.takeRebaseline.sdAcc = lock.sdAcc := by
  rw [RateLock.takeRebaseline]
  split
  · exact ⟨rfl, rfl⟩
  · exact ⟨rfl, rfl⟩

omit [IsStrictOrderedRing K] in
theorem readBaseline_share (lock read : RateLock K) (clock : ClockRegisters)
    (found : lock.readBaseline clock = some read) :
    read.ditherDuty = lock.ditherDuty ∧ read.sdAcc = lock.sdAcc := by
  obtain ⟨_, _, _, ⟨_, rfl⟩ | ⟨_, b, a, _, _, rfl⟩⟩ :=
    (readBaseline_eq_some_iff lock read clock).mp found
  · exact ⟨rfl, rfl⟩
  · exact ⟨rfl, rfl⟩

omit [IsStrictOrderedRing K] in
theorem ensureBaseline_share (lock ready : RateLock K) (clock : ClockRegisters)
    (ensured : lock.ensureBaseline clock = some ready) :
    ready.ditherDuty = lock.ditherDuty ∧ ready.sdAcc = lock.sdAcc := by
  rw [RateLock.ensureBaseline] at ensured
  split at ensured
  · cases ensured
    exact ⟨rfl, rfl⟩
  · obtain ⟨read, found, rfl⟩ := Option.map_eq_some_iff.mp ensured
    exact readBaseline_share lock read clock found

theorem setTrimPpm_inShare (lock : RateLock K) (clock : ClockRegisters) (ppm : K)
    (result : Bool × RateLock K × ClockRegisters) (share : lock.ditherDuty ≤ 65536)
    (trimmed : lock.setTrimPpm clock ppm = some result) :
    result.2.1.ditherDuty ≤ 65536 ∧ result.2.1.sdAcc = lock.sdAcc := by
  obtain ⟨takenDuty, takenAcc⟩ := takeRebaseline_share lock
  rw [RateLock.setTrimPpm] at trimmed
  cases ensured : lock.takeRebaseline.ensureBaseline clock with
  | none =>
      rw [ensured] at trimmed
      cases trimmed
      exact ⟨takenDuty.trans_le share, takenAcc⟩
  | some ready =>
      rw [ensured] at trimmed
      obtain ⟨duty, acc⟩ := ensureBaseline_share _ _ _ ensured
      obtain ⟨bounded, same⟩ := steer_inShare ready result.2.1 clock result.2.2 ppm result.1
        (by rw [duty, takenDuty]; exact share) trimmed
      exact ⟨bounded, by rw [same, acc, takenAcc]⟩

omit [Field K] [LinearOrder K] [IsStrictOrderedRing K] [FloorRing K] in
theorem tick_inShare (lock : RateLock K) (clock : ClockRegisters)
    (share : lock.ditherDuty ≤ 65536) (below : lock.sdAcc < 65536) :
    (lock.tick clock).1.ditherDuty ≤ 65536 ∧ (lock.tick clock).1.sdAcc < 65536 := by
  rw [RateLock.tick]
  split
  · exact ⟨share, (sigmaDeltaStep_spec _ _ below share).1⟩
  · exact ⟨share, below⟩

/-- Whatever the calls, the ticks run inside the shares the sigma-delta is exact on. -/
theorem dither_inShare (port rate : Nat) (clock : ClockRegisters) (calls : List (LockCall K)) :
    Run.Visits lockRun (fun session => ∀ reached ∈ session, InShare reached)
      (some (Session.start port rate clock)) calls := by
  apply Run.visits_halting Session.perform InShare _ (fun _ _ => True)
  · exact fun _ inShare => inShare
  · intro before call after inShare _ performed
    cases call with
    | setTrimPpm ppm =>
        obtain ⟨result, trimmed, rfl⟩ := Option.map_eq_some_iff.mp performed
        obtain ⟨share, same⟩ := setTrimPpm_inShare _ _ _ _ inShare.1 trimmed
        exact ⟨share, same.trans_lt inShare.2⟩
    | tick =>
        cases performed
        exact tick_inShare _ _ inShare.1 inShare.2
    | invalidateBaseline =>
        cases performed
        exact inShare
    | reprogram clock =>
        cases performed
        exact inShare
  · exact ⟨Nat.zero_le _, Nat.zero_lt_succ _⟩
  · exact Run.along_of_forall _ _ (fun _ _ _ _ => trivial) _ _

/-- 14 + 76/441, as the driver programs it for 44100 Hz. -/
def commonClock : ClockRegisters :=
  { txClkActive := true, divNum := 14, divConf := packFields 4 61 76 0 }

/-- 13 + 1/48, for 48000 Hz. -/
def studioClock : ClockRegisters :=
  { txClkActive := true, divNum := 13, divConf := packFields 47 0 1 0 }

theorem baseline_follows_studioClock :
    Run.Visits lockRun (fun session => ∀ reached ∈ session, reached.Follows)
      (some (Session.start 0 0 commonClock : Session Rat))
      [.reprogram studioClock, .invalidateBaseline, .setTrimPpm 0] := by
  apply baseline_follows 0 0 commonClock
  · refine ⟨fun _ _ => trivial, fun _ _ => trivial, ?_, trivial⟩
    intro before present
    cases present
    rfl
  · refine ⟨?_, fun _ _ => trivial, fun _ _ => trivial, trivial⟩
    intro before present
    cases present
    exact Or.inl rfl

/-- The dither is on when the driver moves from 44100 to 48000 Hz, and ticks once before the
next trim. -/
def tickAcrossRestart : List (LockCall Rat) :=
  [.setTrimPpm 1, .reprogram studioClock, .invalidateBaseline, .tick, .setTrimPpm 0]

set_option maxRecDepth 10000 in
theorem tickAcrossRestart_keeps_stale :
    (tickAcrossRestart.foldl lockRun (some (Session.start 0 0 commonClock))).map (fun session =>
      (session.steered, session.lock.baseInt, session.clock.divNum)) = some (true, 14, 13) := by
  decide +kernel

/-- The tick puts the old fraction over the driver's, the trim takes it for its own, and the
baseline stays at the integer part of a clock that is gone. -/
theorem baseline_left_behind :
    Run.Along lockRun (fun session call => ∀ before ∈ session, Announced before call)
        (some (Session.start 0 0 commonClock)) tickAcrossRestart ∧
      ¬ Run.Visits lockRun (fun session => ∀ reached ∈ session, reached.Follows)
        (some (Session.start 0 0 commonClock)) tickAcrossRestart := by
  constructor
  · refine ⟨?_, fun _ _ => trivial, fun _ _ => trivial, fun _ _ => trivial, ?_, trivial⟩
    · intro before present
      cases present
      rfl
    · intro before present
      obtain ⟨ticked, announced, performed⟩ := Option.bind_eq_some_iff.mp present
      obtain ⟨earlier, _, invalidated⟩ := Option.bind_eq_some_iff.mp announced
      cases invalidated
      cases performed
      rfl
  · intro visits
    have last := Run.visits_last lockRun _ _ _ visits
    obtain ⟨reached, present, shape⟩ := Option.map_eq_some_iff.mp tickAcrossRestart_keeps_stale
    obtain ⟨steered, rest⟩ := Prod.mk.inj shape
    obtain ⟨baseInt, divNum⟩ := Prod.mk.inj rest
    have same := (last reached present steered).1
    rw [baseInt, divNum] at same
    cases same

end I2sRateLock
