import SnapcastSync.ClockSync.TsfSync
import SnapcastSync.Player.ServoParams
import SnapcastSync.Player.UnmuteGate

/-! The alignment of the render phase: a due report kicks the bias toward the group, and takes the
part that the devices share back out of it. -/

namespace ClockSync

variable {K : Type}

def Peer.biasFresh (peer : Peer K) (localNowUs : Int) : Bool :=
  decide (peer.biasUs ≠ int32Min) && decide (localNowUs - peer.biasSeenUs < phaseStaleUs)

/-- `group_bias_mean_us`, with the bias that this device has published. -/
def groupBiasMeanUs (mine : Int) (peer : PeerTable K) (localNowUs : Int) : Int :=
  if mine = int32Min then int32Min
  else
    let counted := peer.slots.foldl
      (fun (counted : Int × Int) slot =>
        if slot.biasFresh localNowUs then (counted.1 + slot.biasUs, counted.2 + 1) else counted)
      (mine, 1)
    if 2 ≤ counted.2 then Int.tdiv counted.1 counted.2 else int32Min

end ClockSync

namespace Player

open ClockSync Rounding

variable {K : Type} [Field K] [LinearOrder K] [FloorRing K]

def renderAlignEveryNReports : Nat := 3

structure AlignReading (K : Type) where
  converged : Bool
  dlHaveErr : Bool
  dlErrUs : Int
  syncDeadbandUs : Int
  phaseTransientUntilUs : Int
  steadyAtUs : Int
  groupDelta : Int
  peer : PeerTable K
  meanAtUs : Int

def AlignReading.ownSteady (reading : AlignReading K) : Bool :=
  reading.dlHaveErr &&
    decide (|reading.dlErrUs| ≤ unmuteBandDeadbands * reading.syncDeadbandUs) &&
    decide (reading.phaseTransientUntilUs ≤ reading.steadyAtUs)

/-- The servo with what the alignment keeps beside it: the count of the reports, the part of a
microsecond that is not stepped yet, and the kick that is not delivered yet. -/
structure RenderAlign (K : Type) where
  servo : Servo K
  renderAlignTick : Nat
  renderAlignFrac : K
  alignKickUs : K

namespace RenderAlign

def capUs (client : RenderAlign K) : Int := client.servo.tune.alignMaxUs

def biasUs (client : RenderAlign K) : Int := client.servo.state.renderBiasUs

def tick (client : RenderAlign K) : RenderAlign K :=
  { client with renderAlignTick := (client.renderAlignTick + 1) % 2 ^ 32 }

def moveBias (client : RenderAlign K) (bias : Int) : RenderAlign K :=
  { client with
    servo := { client.servo with state := { client.servo.state with renderBiasUs := bias } }
    alignKickUs := client.alignKickUs + ((bias - client.biasUs : Int) : K) }

/-- `set_render_bias_us`. -/
def publish (client : RenderAlign K) : RenderAlign K :=
  { client with
    servo :=
      { client.servo with
        state :=
          { client.servo.state with
            tsfRenderBiasUs := client.servo.state.tsfRenderBiasUs.map fun _ => client.biasUs } } }

def aligns (client : RenderAlign K) (reading : AlignReading K) : Bool :=
  decide (0 < client.capUs) && reading.converged && reading.ownSteady &&
    decide (client.renderAlignTick % renderAlignEveryNReports = 0) &&
    decide (reading.groupDelta ≠ int32Min)

/-- The step against the group delta; none where the fraction has no conversion. -/
def kick (client : RenderAlign K) (groupDelta : Int) : Option (RenderAlign K) :=
  let tune := client.servo.tune
  if tune.alignDeadbandUs < |groupDelta| ∧ |groupDelta| ≤ tune.alignRejectUs then
    tune.alignGain.number?.bind fun gain =>
      let frac := client.renderAlignFrac + -(groupDelta : K) * gain
      (FloatValue.finite frac).toInt32?.map fun stepI =>
        let step := clamp stepI (-tune.alignStepUs) tune.alignStepUs
        let client := { client with renderAlignFrac := frac - (stepI : K) }
        if tune.alignApply then
          client.moveBias (clamp (client.biasUs + step) (-client.capUs) client.capUs)
        else client
  else some client

def groupMean (client : RenderAlign K) (reading : AlignReading K) : Int :=
  match client.servo.state.tsfRenderBiasUs with
  | some mine => groupBiasMeanUs mine reading.peer reading.meanAtUs
  | none => int32Min

/-- The group mean is taken out of the bias, some of it at a time; the result is not clamped. -/
def recentre (client : RenderAlign K) (reading : AlignReading K) : RenderAlign K :=
  let tune := client.servo.tune
  if tune.alignApply then
    let gm := client.groupMean reading
    if gm ≠ int32Min ∧ gm ≠ 0 then
      let adj := clamp gm (-tune.alignRecentreUs) tune.alignRecentreUs
      (client.moveBias (client.biasUs - adj)).publish
    else client
  else client

/-- The report counts on a shared timebase alone. -/
def cycles (client : RenderAlign K) (reading : AlignReading K) : Bool :=
  client.servo.state.tsfRenderBiasUs.isSome && client.tick.aligns reading

def report (client : RenderAlign K) (reading : AlignReading K) : Option (RenderAlign K) :=
  if client.servo.state.tsfRenderBiasUs.isSome then
    let client := client.tick
    if client.aligns reading then
      (client.kick reading.groupDelta).map fun kicked => kicked.publish.recentre reading
    else some client
  else some client

end RenderAlign

inductive AlignEvent (K : Type) where
  | report (reading : AlignReading K)
  | set (call : ServoCall K)

namespace AlignEvent

def perform : Option (RenderAlign K) → AlignEvent K → Option (RenderAlign K)
  | none, _ => none
  | some client, .report reading => client.report reading
  | some client, .set call =>
      (client.servo.setServoParam call).map fun answer => { client with servo := answer.2 }

def Leaves (client : Option (RenderAlign K)) : AlignEvent K → Prop
  | .report _ => True
  | .set call => call.name ≠ "align_bias_us" ∧ call.name ≠ "align_bias_kick_us" ∧
      ∀ before ∈ client, ∀ after ∈ perform client (.set call), after.capUs = before.capUs

end AlignEvent

namespace RenderAlign

/-- The bias that the kick has left is a whole re-centring step from the cap, or the mean asks for
no more than the room that is left; on either side. -/
def HasRoom (client : RenderAlign K) (reading : AlignReading K) : Prop :=
  client.servo.tune.alignApply = true → client.groupMean reading ≠ int32Min →
    (client.biasUs ≤ client.capUs - client.servo.tune.alignRecentreUs ∨
        client.biasUs - client.capUs ≤ client.groupMean reading) ∧
      (client.servo.tune.alignRecentreUs - client.capUs ≤ client.biasUs ∨
        client.groupMean reading ≤ client.biasUs + client.capUs)

end RenderAlign

def AlignEvent.Roomy : Option (RenderAlign K) → AlignEvent K → Prop
  | some client, .report reading => client.cycles reading = true →
      ∀ kicked ∈ client.tick.kick reading.groupDelta, kicked.publish.HasRoom reading
  | _, _ => True

def Capped (client : Option (RenderAlign K)) : Prop :=
  ∀ known ∈ client, |known.biasUs| ≤ known.capUs

structure ServoParams.AlignChecked (tune : ServoParams K) : Prop where
  cap : 0 ≤ tune.alignMaxUs
  recentre : 0 ≤ tune.alignRecentreUs
  gain : tune.alignGain.Within 0 1
  step : 0 ≤ tune.alignStepUs
  reject : tune.alignRejectUs ≤ 20000

namespace Servo

/-- The tunables of the alignment are still checked, and the bias is as it was or taken back. -/
def AlignKept (servo after : Servo K) : Prop :=
  after.tune.AlignChecked ∧
    (after.state.renderBiasUs = servo.state.renderBiasUs ∨ after.state.renderBiasUs = 0)

def KeepsAlign (branch : Servo K → ServoCall K → ServoAnswer K) : Prop :=
  ∀ servo call, servo.tune.AlignChecked → ∀ accepted after,
    branch servo call = some (accepted, after) → servo.AlignKept after

section Branches

variable (servo : Servo K) (checked : servo.tune.AlignChecked)

include checked

omit [FloorRing K] in
theorem answer_alignKept (refused : Bool) (stored : Servo K)
    (kept : refused = false → servo.AlignKept stored) (accepted : Bool) (after : Servo K)
    (answered : servo.answer refused stored = some (accepted, after)) :
    servo.AlignKept after := by
  cases refused with
  | true =>
      cases answered
      exact ⟨checked, Or.inl rfl⟩
  | false =>
      cases answered
      exact kept rfl

theorem answerInt_alignKept (refused : Bool) (value : FloatValue K) (stored : Int → Servo K)
    (kept : refused = false → ∀ number, value.toInt32? = some number →
      servo.AlignKept (stored number)) (accepted : Bool) (after : Servo K)
    (answered : servo.answerInt refused value stored = some (accepted, after)) :
    servo.AlignKept after := by
  cases refused with
  | true =>
      cases answered
      exact ⟨checked, Or.inl rfl⟩
  | false =>
      obtain ⟨number, converted, same⟩ := Option.map_eq_some_iff.mp answered
      cases same
      exact kept rfl number converted

variable [IsStrictOrderedRing K]

theorem storeInt_alignKept (value : FloatValue K) (lo hi : Int) (stored : Int → Servo K)
    (low : -2 ^ 31 ≤ lo) (high : hi < 2 ^ 31)
    (kept : ∀ number, lo ≤ number → number ≤ hi → servo.AlignKept (stored number))
    (accepted : Bool) (after : Servo K)
    (answered : servo.answerInt (value.notBetween (lo : K) (hi : K)) value stored =
      some (accepted, after)) :
    servo.AlignKept after := by
  refine servo.answerInt_alignKept checked _ value stored ?_ accepted after answered
  intro between number converted
  obtain ⟨same, truncated, above, below⟩ :=
    FloatValue.Within.toInt32? value lo hi ((value.notBetween_iff _ _).mp between) low high
  rw [converted] at truncated
  cases truncated
  exact kept number above below

end Branches

section Stored

omit [FloorRing K]

theorem setCrystalPpm_keepsAlign : KeepsAlign (K := K) setCrystalPpm := by
  intro servo call checked
  refine servo.answer_alignKept checked _ _ fun _ => ⟨checked, Or.inl ?_⟩
  cases call.saves <;> rfl

theorem setErrTauHorizons_keepsAlign : KeepsAlign (K := K) setErrTauHorizons := by
  intro servo call checked
  exact servo.answer_alignKept checked _ _ fun _ => ⟨{ checked with }, Or.inl rfl⟩

theorem setRatewhyPpm_keepsAlign : KeepsAlign (K := K) setRatewhyPpm := by
  intro servo call checked
  exact servo.answer_alignKept checked _ _ fun _ => ⟨{ checked with }, Or.inl rfl⟩

theorem setCommonDrainS_keepsAlign : KeepsAlign (K := K) setCommonDrainS := by
  intro servo call checked
  exact servo.answer_alignKept checked _ _ fun _ => ⟨{ checked with }, Or.inl rfl⟩

theorem setCompensateGdFilter_keepsAlign : KeepsAlign (K := K) setCompensateGdFilter := by
  intro servo call checked
  exact servo.answer_alignKept checked _ _ fun _ => ⟨{ checked with }, Or.inl rfl⟩

theorem setPositionNeedsDiff_keepsAlign : KeepsAlign (K := K) setPositionNeedsDiff := by
  intro servo call checked
  exact servo.answer_alignKept checked _ _ fun _ => ⟨{ checked with }, Or.inl rfl⟩

theorem setKpFromDiffSigma_keepsAlign : KeepsAlign (K := K) setKpFromDiffSigma := by
  intro servo call checked
  exact servo.answer_alignKept checked _ _ fun _ => ⟨{ checked with }, Or.inl rfl⟩

theorem setCommonAuthorityPpm_keepsAlign : KeepsAlign (K := K) setCommonAuthorityPpm := by
  intro servo call checked
  exact servo.answer_alignKept checked _ _ fun _ => ⟨{ checked with }, Or.inl rfl⟩

theorem setSplitRampUsPerS_keepsAlign : KeepsAlign (K := K) setSplitRampUsPerS := by
  intro servo call checked
  exact servo.answer_alignKept checked _ _ fun _ => ⟨{ checked with }, Or.inl rfl⟩

theorem setRateAuthorityPpm_keepsAlign : KeepsAlign (K := K) setRateAuthorityPpm := by
  intro servo call checked
  exact servo.answer_alignKept checked _ _ fun _ => ⟨{ checked with }, Or.inl rfl⟩

theorem setAlignApply_keepsAlign : KeepsAlign (K := K) setAlignApply := by
  intro servo call checked
  exact servo.answer_alignKept checked _ _ fun _ => ⟨{ checked with }, Or.inl rfl⟩

theorem setAlignGain_keepsAlign : KeepsAlign (K := K) setAlignGain := by
  intro servo call checked
  exact servo.answer_alignKept checked _ _ fun between =>
    ⟨{ checked with gain := (call.value.notBetween_iff _ _).mp between }, Or.inl rfl⟩

theorem setResyncWinS_keepsAlign : KeepsAlign (K := K) setResyncWinS := by
  intro servo call checked
  exact servo.answer_alignKept checked _ _ fun _ => ⟨{ checked with }, Or.inl rfl⟩

theorem setPersist_keepsAlign : KeepsAlign (K := K) setPersist := by
  intro servo call checked
  exact servo.answer_alignKept checked _ _ fun _ => ⟨{ checked with }, Or.inl rfl⟩

end Stored

theorem setRateFilterLagUs_keepsAlign : KeepsAlign (K := K) setRateFilterLagUs := by
  intro servo call checked
  exact servo.answerInt_alignKept checked _ _ _ fun _ _ _ =>
    ⟨{ checked with }, Or.inl rfl⟩

theorem setCommonTargetUs_keepsAlign : KeepsAlign (K := K) setCommonTargetUs := by
  intro servo call checked
  exact servo.answerInt_alignKept checked _ _ _ fun _ _ _ =>
    ⟨{ checked with }, Or.inl rfl⟩

theorem setTimingTargetUs_keepsAlign : KeepsAlign (K := K) setTimingTargetUs := by
  intro servo call checked
  exact servo.answerInt_alignKept checked _ _ _ fun _ _ _ =>
    ⟨{ checked with }, Or.inl rfl⟩

theorem setTagStaleMs_keepsAlign : KeepsAlign (K := K) setTagStaleMs := by
  intro servo call checked
  exact servo.answerInt_alignKept checked _ _ _ fun _ _ _ =>
    ⟨{ checked with }, Or.inl rfl⟩

theorem setBlankMs_keepsAlign : KeepsAlign (K := K) setBlankMs := by
  intro servo call checked
  exact servo.answerInt_alignKept checked _ _ _ fun _ _ _ =>
    ⟨{ checked with }, Or.inl rfl⟩

theorem setGapBlankMs_keepsAlign : KeepsAlign (K := K) setGapBlankMs := by
  intro servo call checked
  exact servo.answerInt_alignKept checked _ _ _ fun _ _ _ =>
    ⟨{ checked with }, Or.inl rfl⟩

theorem setAlignDeadbandUs_keepsAlign : KeepsAlign (K := K) setAlignDeadbandUs := by
  intro servo call checked
  exact servo.answerInt_alignKept checked _ _ _ fun _ _ _ =>
    ⟨{ checked with }, Or.inl rfl⟩

theorem setResyncBlankMs_keepsAlign : KeepsAlign (K := K) setResyncBlankMs := by
  intro servo call checked
  exact servo.answerInt_alignKept checked _ _ _ fun _ _ _ =>
    ⟨{ checked with }, Or.inl rfl⟩

variable [IsStrictOrderedRing K]

theorem setAlignMaxUs_keepsAlign : KeepsAlign (K := K) setAlignMaxUs := by
  intro servo call checked
  refine servo.storeInt_alignKept checked call.value 0 20000 _ (by decide) (by decide) ?_
  intro number nonneg _
  refine ⟨{ checked with cap := nonneg }, ?_⟩
  cases off : call.value.ne 0 with
  | true => exact Or.inl rfl
  | false => exact Or.inr rfl

theorem setAlignRecentreUs_keepsAlign : KeepsAlign (K := K) setAlignRecentreUs := by
  intro servo call checked
  exact servo.storeInt_alignKept checked call.value 0 20 _ (by decide) (by decide)
    fun number nonneg _ => ⟨{ checked with recentre := nonneg }, Or.inl rfl⟩

theorem setAlignRejectUs_keepsAlign : KeepsAlign (K := K) setAlignRejectUs := by
  intro servo call checked
  exact servo.storeInt_alignKept checked call.value 10 20000 _ (by decide) (by decide)
    fun number _ within => ⟨{ checked with reject := within }, Or.inl rfl⟩

theorem setAlignStepUs_keepsAlign : KeepsAlign (K := K) setAlignStepUs := by
  intro servo call checked
  exact servo.storeInt_alignKept checked call.value 1 200 _ (by decide) (by decide)
    fun number positive _ =>
      ⟨{ checked with step := le_trans (by decide) positive }, Or.inl rfl⟩

theorem branches_keepAlign (branch : String × (Servo K → ServoCall K → ServoAnswer K))
    (member : branch ∈ servoBranches) (bias : branch.1 ≠ "align_bias_us")
    (kick : branch.1 ≠ "align_bias_kick_us") : KeepsAlign branch.2 := by
  have all : ∀ branch ∈ (servoBranches : List (String × (Servo K → ServoCall K → ServoAnswer K))),
      branch.1 ≠ "align_bias_us" → branch.1 ≠ "align_bias_kick_us" → KeepsAlign branch.2 := by
    simp only [servoBranches, List.forall_mem_cons]
    exact ⟨fun _ _ => setCrystalPpm_keepsAlign,
      fun _ _ => setErrTauHorizons_keepsAlign,
      fun _ _ => setRateFilterLagUs_keepsAlign,
      fun _ _ => setRatewhyPpm_keepsAlign,
      fun _ _ => setCommonDrainS_keepsAlign,
      fun _ _ => setCompensateGdFilter_keepsAlign,
      fun _ _ => setPositionNeedsDiff_keepsAlign,
      fun _ _ => setKpFromDiffSigma_keepsAlign,
      fun _ _ => setCommonTargetUs_keepsAlign,
      fun _ _ => setCommonAuthorityPpm_keepsAlign,
      fun _ _ => setSplitRampUsPerS_keepsAlign,
      fun _ _ => setRateAuthorityPpm_keepsAlign,
      fun _ _ => setTimingTargetUs_keepsAlign,
      fun _ _ => setTagStaleMs_keepsAlign,
      fun _ _ => setBlankMs_keepsAlign,
      fun _ _ => setGapBlankMs_keepsAlign,
      fun _ _ => setAlignMaxUs_keepsAlign,
      fun same => absurd rfl same,
      fun _ same => absurd rfl same,
      fun _ _ => setAlignApply_keepsAlign,
      fun _ _ => setAlignRecentreUs_keepsAlign,
      fun _ _ => setAlignGain_keepsAlign,
      fun _ _ => setAlignDeadbandUs_keepsAlign,
      fun _ _ => setAlignRejectUs_keepsAlign,
      fun _ _ => setAlignStepUs_keepsAlign,
      fun _ _ => setResyncWinS_keepsAlign,
      fun _ _ => setResyncBlankMs_keepsAlign,
      fun _ _ => setPersist_keepsAlign,
      fun _ absent => absurd absent List.not_mem_nil⟩
  exact all branch member bias kick

theorem setServoParam_alignKept (servo : Servo K) (call : ServoCall K)
    (checked : servo.tune.AlignChecked) (bias : call.name ≠ "align_bias_us")
    (kick : call.name ≠ "align_bias_kick_us") (accepted : Bool) (after : Servo K)
    (answered : servo.setServoParam call = some (accepted, after)) :
    servo.AlignKept after := by
  rw [setServoParam] at answered
  split at answered
  case h_1 branch found =>
    have named : branch.1 = call.name := of_decide_eq_true (List.find?_some found :)
    exact branches_keepAlign branch (List.mem_of_find?_eq_some found)
      (fun same => bias (named.symm.trans same)) (fun same => kick (named.symm.trans same))
      servo call checked accepted after answered
  case h_2 =>
    cases answered
    exact ⟨checked, Or.inl rfl⟩

end Servo

namespace RenderAlign

structure Sound (client : RenderAlign K) : Prop where
  checked : client.servo.tune.AlignChecked
  frac : |client.renderAlignFrac| < 1
  capped : |client.biasUs| ≤ client.capUs

structure Kicked (client kicked : RenderAlign K) : Prop where
  tune : kicked.servo.tune = client.servo.tune
  frac : |kicked.renderAlignFrac| < 1
  capped : |kicked.biasUs| ≤ kicked.capUs

variable [IsStrictOrderedRing K]

/-- A client as it starts, with a bias that the stored one was not refused for. -/
def boot (renderAlignMaxUs : Int) (state : ServoState K) : RenderAlign K :=
  { servo := { tune := ServoParams.initial renderAlignMaxUs, state := state }
    renderAlignTick := 0
    renderAlignFrac := 0
    alignKickUs := 0 }

theorem boot_sound (renderAlignMaxUs : Int) (state : ServoState K)
    (restored : |state.renderBiasUs| ≤ renderAlignMaxUs) :
    (boot renderAlignMaxUs state).Sound := by
  refine ⟨⟨?_, ?_, ?_, ?_, ?_⟩, ?_, restored⟩
  · exact (abs_nonneg _).trans restored
  · exact Int.natCast_nonneg 2
  · exact (ServoParams.initial_inRange renderAlignMaxUs).alignGain
  · exact Int.natCast_nonneg 20
  · exact Int.le_of_lt (by decide : (500 : Int) < 20000)
  · rw [boot, abs_zero]
    exact one_pos

/-- Every delta that is acted on has a step, whatever the gain is. -/
theorem kick_defined (client : RenderAlign K) (sound : client.Sound) (groupDelta : Int)
    (within : |groupDelta| ≤ client.servo.tune.alignRejectUs) :
    ∃ gain stepI, client.servo.tune.alignGain.number? = some gain ∧
      (FloatValue.finite (client.renderAlignFrac + -(groupDelta : K) * gain)).toInt32? =
        some stepI ∧
      |client.renderAlignFrac + -(groupDelta : K) * gain - (stepI : K)| < 1 := by
  obtain ⟨gain, same, nonneg, small⟩ := sound.checked.gain
  have delta : |(groupDelta : K)| ≤ 20000 := by
    exact_mod_cast within.trans sound.checked.reject
  have product : |-(groupDelta : K) * gain| ≤ 20000 := by
    rw [abs_mul, abs_neg, abs_of_nonneg nonneg]
    exact (mul_le_of_le_one_right (abs_nonneg _) small).trans delta
  have bounded : |client.renderAlignFrac + -(groupDelta : K) * gain| ≤ 20001 :=
    (abs_add_le _ _).trans (by linarith [sound.frac])
  obtain ⟨below, above⟩ := abs_le.mp bounded
  obtain ⟨stepI, converted, _⟩ := FloatValue.Within.toInt32?
    (.finite (client.renderAlignFrac + -(groupDelta : K) * gain)) (-20001) 20001
    ⟨_, rfl, by push_cast; exact below, by push_cast; exact above⟩ (by decide) (by decide)
  refine ⟨gain, stepI, by rw [same]; rfl, converted, ?_⟩
  rw [FloatValue.toInt32?] at converted
  split at converted
  · cases converted
    exact abs_sub_truncToInt_lt _
  · cases converted

theorem kick_kicked (client : RenderAlign K) (sound : client.Sound) (groupDelta : Int) :
    ∃ kicked, client.kick groupDelta = some kicked ∧ client.Kicked kicked := by
  by_cases acts : client.servo.tune.alignDeadbandUs < |groupDelta| ∧
      |groupDelta| ≤ client.servo.tune.alignRejectUs
  · obtain ⟨gain, stepI, number, converted, fraction⟩ :=
      client.kick_defined sound groupDelta acts.2
    have ordered : -client.capUs ≤ client.capUs := neg_le_self sound.checked.cap
    rw [kick, if_pos acts, number, Option.bind_some]
    dsimp only
    rw [converted, Option.map_some]
    refine ⟨_, rfl, ?_⟩
    split
    · exact ⟨rfl, fraction, abs_le.mpr (clamp_mem _ _ _ ordered)⟩
    · exact ⟨rfl, fraction, sound.capped⟩
  · rw [kick, if_neg acts]
    exact ⟨client, rfl, rfl, sound.frac, sound.capped⟩

/-- Less a clamped mean, a bias within the cap stays within it exactly when on either side it is a
whole step from the cap, or the mean asks for no more than what is left. -/
theorem sub_clamp_capped_iff (bias cap mean step : Int) (capped : |bias| ≤ cap)
    (nonneg : 0 ≤ step) :
    |bias - clamp mean (-step) step| ≤ cap ↔
      (bias ≤ cap - step ∨ bias - cap ≤ mean) ∧ (step - cap ≤ bias ∨ mean ≤ bias + cap) := by
  obtain ⟨above, below⟩ := abs_le.mp capped
  rw [abs_le, clamp]
  split
  · omega
  · split
    · omega
    · omega

omit [LinearOrder K] [FloorRing K] in
/-- A re-centring stays within the cap exactly when there is room for it. -/
theorem recentre_capped_iff (client : RenderAlign K) (reading : AlignReading K)
    (nonneg : 0 ≤ client.servo.tune.alignRecentreUs) (capped : |client.biasUs| ≤ client.capUs) :
    |(client.recentre reading).biasUs| ≤ (client.recentre reading).capUs ↔
      client.HasRoom reading := by
  have exactly := sub_clamp_capped_iff client.biasUs client.capUs (client.groupMean reading)
    client.servo.tune.alignRecentreUs capped nonneg
  rw [recentre, HasRoom]
  by_cases applies : client.servo.tune.alignApply = true
  · rw [if_pos applies]
    dsimp only
    by_cases shares : client.groupMean reading ≠ int32Min ∧ client.groupMean reading ≠ 0
    · rw [if_pos shares]
      refine Iff.trans exactly ?_
      exact ⟨fun room _ _ => room, fun room => room applies shares.1⟩
    · rw [if_neg shares]
      refine iff_of_true capped ?_
      intro _ known
      have centred : client.groupMean reading = 0 := by
        by_contra moves
        exact shares ⟨known, moves⟩
      obtain ⟨above, below⟩ := abs_le.mp capped
      rw [centred]
      omega
  · rw [if_neg applies]
    exact iff_of_true capped fun applied => absurd applied applies

omit [LinearOrder K] [FloorRing K] in
theorem recentre_frame (client : RenderAlign K) (reading : AlignReading K) :
    (client.recentre reading).servo.tune = client.servo.tune ∧
      (client.recentre reading).renderAlignFrac = client.renderAlignFrac := by
  rw [recentre]
  split
  · dsimp only
    split
    · exact ⟨rfl, rfl⟩
    · exact ⟨rfl, rfl⟩
  · exact ⟨rfl, rfl⟩

/-- A report has a result; the result is within the cap exactly when the cycle has room, and is
sound then. -/
theorem report_sound_iff (client : RenderAlign K) (reading : AlignReading K)
    (sound : client.Sound) :
    ∃ after, client.report reading = some after ∧
      (|after.biasUs| ≤ after.capUs ↔ AlignEvent.Roomy (some client) (.report reading)) ∧
      (|after.biasUs| ≤ after.capUs → after.Sound) := by
  by_cases cycles : client.cycles reading = true
  · obtain ⟨shared, aligns⟩ := Bool.and_eq_true_iff.mp cycles
    obtain ⟨kicked, kicks, keeps⟩ :=
      client.tick.kick_kicked ⟨sound.checked, sound.frac, sound.capped⟩ reading.groupDelta
    have reported : client.report reading = some (kicked.publish.recentre reading) := by
      rw [report, if_pos shared]
      dsimp only
      rw [if_pos aligns, kicks, Option.map_some]
    have checked : kicked.servo.tune.AlignChecked := by
      rw [keeps.tune]
      exact sound.checked
    have exactly :=
      kicked.publish.recentre_capped_iff reading checked.recentre keeps.capped
    obtain ⟨tune, frac⟩ := kicked.publish.recentre_frame reading
    refine ⟨_, reported, exactly.trans ?_, fun capped => ⟨?_, ?_, capped⟩⟩
    · constructor
      · intro room _ other some_
        rw [kicks] at some_
        cases some_
        exact room
      · exact fun roomy => roomy cycles kicked kicks
    · rw [tune]
      exact checked
    · rw [frac]
      exact keeps.frac
  · have roomy : AlignEvent.Roomy (some client) (.report reading) :=
      fun counts => absurd counts cycles
    by_cases shared : client.servo.state.tsfRenderBiasUs.isSome = true
    · have idle : ¬ client.tick.aligns reading = true := fun aligns =>
        cycles (Bool.and_eq_true_iff.mpr ⟨shared, aligns⟩)
      refine ⟨client.tick, ?_, iff_of_true sound.capped roomy,
        fun _ => ⟨sound.checked, sound.frac, sound.capped⟩⟩
      rw [report, if_pos shared]
      exact if_neg idle
    · exact ⟨client, if_neg shared, iff_of_true sound.capped roomy, fun _ => sound⟩

theorem set_sound (client : RenderAlign K) (call : ServoCall K) (sound : client.Sound)
    (leaves : AlignEvent.Leaves (some client) (.set call)) :
    ∀ after ∈ AlignEvent.perform (some client) (.set call), after.Sound := by
  obtain ⟨bias, kick, cap⟩ := leaves
  intro after performed
  have same := cap client rfl after performed
  obtain ⟨⟨accepted, servo⟩, answered, rfl⟩ := Option.map_eq_some_iff.mp performed
  obtain ⟨checked, kept⟩ :=
    client.servo.setServoParam_alignKept call sound.checked bias kick accepted servo answered
  refine ⟨checked, sound.frac, ?_⟩
  rw [same, biasUs]
  rcases kept with held | cleared
  · rw [held]
    exact sound.capped
  · rw [cleared, abs_zero]
    exact sound.checked.cap

/-- In a run that leaves its cap and is not overridden, the bias is within the cap all along exactly
when no cycle takes out more than there is room for. -/
theorem capped_iff_roomy (client : RenderAlign K) (sound : client.Sound)
    (events : List (AlignEvent K))
    (leaves : Run.Along AlignEvent.perform AlignEvent.Leaves (some client) events) :
    Run.Visits AlignEvent.perform Capped (some client) events ↔
      Run.Along AlignEvent.perform AlignEvent.Roomy (some client) events := by
  refine Run.visits_iff_along_of_admitted AlignEvent.perform
    (fun client => ∀ known ∈ client, known.Sound) Capped AlignEvent.Leaves AlignEvent.Roomy
    ?sound ?exactly ?preserved (some client) events ?start leaves
  case sound => exact fun client known here member => (known here member).capped
  case start =>
    intro known member
    cases member
    exact sound
  case exactly =>
    intro client event known leaves
    cases client with
    | none => exact iff_of_true (fun here absent => by cases absent) trivial
    | some client =>
        cases event with
        | report reading =>
            obtain ⟨after, reported, exactly, _⟩ :=
              client.report_sound_iff reading (known client rfl)
            rw [← exactly, Capped, AlignEvent.perform, reported]
            exact ⟨fun capped => capped after rfl, fun capped here member => by
              cases member
              exact capped⟩
        | set call =>
            refine iff_of_true ?_ trivial
            intro after performed
            exact (client.set_sound call (known client rfl) leaves after performed).capped
  case preserved =>
    intro client event known leaves roomy after performed
    cases client with
    | none => cases performed
    | some client =>
        cases event with
        | report reading =>
            obtain ⟨reached, reported, exactly, sound⟩ :=
              client.report_sound_iff reading (known client rfl)
            rw [AlignEvent.perform, reported] at performed
            cases performed
            exact sound (exactly.mpr roomy)
        | set call => exact client.set_sound call (known client rfl) leaves after performed

end RenderAlign

private def dueClient (renderBiasUs : Int) : RenderAlign Rat :=
  { servo :=
      { tune := ServoParams.initial 500
        state :=
          { timingEngine := Timing.Engine.create Timing.Profile.initial
            dlIntegralPref := none
            crystalSavedPpm := 0
            crystalSavedAtUs := 0
            renderBiasUs := renderBiasUs
            tsfRenderBiasUs := some renderBiasUs
            alignBiasPref := some renderBiasUs
            biasKickRequestUs := 0 } }
    renderAlignTick := 2
    renderAlignFrac := 0
    alignKickUs := 0 }

private theorem dueClient_sound (renderBiasUs : Int) (within : |renderBiasUs| ≤ 500) :
    (dueClient renderBiasUs).Sound :=
  { RenderAlign.boot_sound 500 (dueClient renderBiasUs).servo.state within with }

private def biasedPeer (octet : UInt8) (biasUs : Int) : Peer Rat :=
  { Peer.fresh (Vector.replicate 6 octet) 0 with biasUs := biasUs }

private def steadyReading (biasUs : Int) : AlignReading Rat :=
  { converged := true
    dlHaveErr := true
    dlErrUs := 0
    syncDeadbandUs := 100
    phaseTransientUntilUs := 0
    steadyAtUs := 1000000
    groupDelta := 0
    peer :=
      { slots := [biasedPeer 1 biasUs, biasedPeer 2 biasUs]
        bounded := Nat.le_of_lt (by decide : 2 < maxPeers)
        distinct :=
          (by decide +kernel : [Vector.replicate 6 (1 : UInt8), Vector.replicate 6 2].Nodup) }
    meanAtUs := 1000000 }

theorem capped_iff_roomy_centred :
    Run.Visits AlignEvent.perform Capped (some (dueClient 100))
      [.report (steadyReading (-100))] := by
  apply (RenderAlign.capped_iff_roomy (dueClient 100) (dueClient_sound 100 (by decide))
    [.report (steadyReading (-100))] ⟨trivial, trivial⟩).mpr
  refine ⟨?_, trivial⟩
  intro _ kicked kicks
  cases kicks
  exact fun _ _ => by decide +kernel

/-- At its cap of 500 us, beside two devices at theirs of -500 us, the bias is taken to 502 us. -/
theorem recentred_beyond_cap :
    ¬ ∀ (client : RenderAlign Rat) (events : List (AlignEvent Rat)), client.Sound →
      Run.Along AlignEvent.perform AlignEvent.Leaves (some client) events →
      Run.Visits AlignEvent.perform Capped (some client) events := by
  intro always
  have visits := always (dueClient 500) [.report (steadyReading (-500))]
    (dueClient_sound 500 (by decide)) ⟨trivial, trivial⟩
  have last := Run.visits_last AlignEvent.perform Capped _ _ visits
  have moved : ((dueClient 500).report (steadyReading (-500))).map RenderAlign.biasUs =
      some 502 := by decide +kernel
  obtain ⟨after, reported, bias⟩ := Option.map_eq_some_iff.mp moved
  have capped := last after reported
  have cap : ((dueClient 500).report (steadyReading (-500))).map RenderAlign.capUs =
      some 500 := by decide +kernel
  rw [reported, Option.map_some] at cap
  rw [bias, Option.some.inj cap] at capped
  exact absurd capped (by decide)

end Player
