import SnapcastSync.Player.PcmRing

/-! How long `emit_pcm_` takes. Of the player and the rest only this is left: between two polls
bytes go off the ring, records off the queue, and a shutdown may come. -/

namespace Player

/-- What a poll of `emit_pcm_` finds to have happened since the one before. -/
structure Meanwhile where
  drained : Nat
  taken : Nat
  shutdown : Bool
  turn : EmitTurn
deriving DecidableEq, Repr

/-- A call of `emit_pcm_`: the ring and the queue as far as it sees them, what it has put into
the ring and whether its record is posted. -/
structure Emitter where
  capacity : Nat
  used : Nat
  queued : Nat
  shutdown : Bool
  point : EmitPoint
  entered : Nat
  posted : Bool
deriving DecidableEq, Repr

namespace Emitter

def call (capacity used queued : Nat) (shutdown : Bool) (chunk : PcmChunk) : Emitter :=
  { capacity := capacity
    used := used
    queued := queued
    shutdown := shutdown
    point := if chunk.data.length = 0 then .idle else .room chunk
    entered := 0
    posted := false }

def meet (emitter : Emitter) (meanwhile : Meanwhile) : Emitter :=
  { emitter with
    used := emitter.used - meanwhile.drained
    queued := emitter.queued - meanwhile.taken
    shutdown := emitter.shutdown || meanwhile.shutdown }

def stand (emitter : Emitter) (point : EmitPoint) : Emitter := { emitter with point := point }

def enter (emitter : Emitter) (count : Nat) : Emitter :=
  { emitter with
    used := emitter.used + count
    entered := emitter.entered + count }

def givesUp (turn : EmitTurn) : Prop :=
  turn.outputActive = false ∧ turn.streamActive = false ∨ emitRoomWaitMaxUs < turn.waitedUs

instance (turn : EmitTurn) : Decidable (givesUp turn) := by
  unfold givesUp
  infer_instance

def turn (emitter : Emitter) (turn : EmitTurn) : Emitter :=
  match emitter.point with
  | .idle => emitter
  | .room chunk =>
      if emitter.capacity - emitter.used < chunk.data.length ∧ emitter.shutdown = false then
        if givesUp turn then emitter.stand .idle else emitter
      else emitter.stand (.writing chunk 0)
  | .writing chunk written =>
      if written < chunk.data.length ∧ emitter.shutdown = false then
        let n := min turn.accepted
          (min (chunk.data.length - written) (emitter.capacity - emitter.used))
        (emitter.enter n).stand (.writing chunk (written + n))
      else emitter.stand (.counting chunk written)
  | .counting chunk written =>
      emitter.stand (if written < chunk.data.length then .idle else .posting chunk)
  | .posting _ =>
      if emitter.queued < recordQueueLength then
        { emitter with
          queued := emitter.queued + 1
          point := .idle
          posted := true }
      else if emitter.shutdown then emitter.stand .idle
      else emitter

def poll (emitter : Emitter) (meanwhile : Meanwhile) : Emitter :=
  (emitter.meet meanwhile).turn meanwhile.turn

def run (emitter : Emitter) (polls : Nat → Meanwhile) : Nat → Emitter
  | 0 => emitter
  | count + 1 => (emitter.run polls count).poll (polls count)

def met (emitter : Emitter) (polls : Nat → Meanwhile) : Nat → Emitter
  | 0 => emitter
  | count + 1 => (emitter.met polls count).meet (polls count)

/-- The call is over, and its PCM is in the ring with its record behind it, or neither is. -/
def Whole (emitter : Emitter) (chunk : PcmChunk) : Prop :=
  emitter.point = .idle ∧
    (emitter.posted = true ∧ emitter.entered = chunk.data.length ∨
      emitter.posted = false ∧ emitter.entered = 0)

def Waits (emitter : Emitter) (chunk : PcmChunk) (polls : Nat → Meanwhile) (count : Nat) : Prop :=
  emitter.capacity - (emitter.met polls (count + 1)).used < chunk.data.length ∧
    (emitter.met polls (count + 1)).shutdown = false ∧ ¬ givesUp (polls count).turn

def Enters (emitter : Emitter) (chunk : PcmChunk) (polls : Nat → Meanwhile) (count : Nat) : Prop :=
  (∀ earlier < count, emitter.Waits chunk polls earlier) ∧ 0 < chunk.data.length ∧
    chunk.data.length ≤ emitter.capacity - (emitter.met polls (count + 1)).used ∧
    (emitter.met polls (count + 2)).shutdown = false

/-- A chunk that enters the ring finds a place for its record within the bound, before a
shutdown. -/
def FindsPlace (emitter : Emitter) (chunk : PcmChunk) (polls : Nat → Meanwhile) (bound : Nat) :
    Prop :=
  ∀ count, emitter.Enters chunk polls count →
    ∃ tries, count + 4 + tries < bound ∧
      (emitter.met polls (count + 4 + tries + 1)).queued < recordQueueLength ∧
      ∀ earlier < tries, (emitter.met polls (count + 4 + earlier + 1)).shutdown = false

theorem turn_writing (emitter : Emitter) (turn : EmitTurn) (chunk : PcmChunk) (written : Nat) :
    (emitter.stand (.writing chunk written)).turn turn =
      if written < chunk.data.length ∧ emitter.shutdown = false then
        let n := min turn.accepted
          (min (chunk.data.length - written) (emitter.capacity - emitter.used))
        (emitter.enter n).stand (.writing chunk (written + n))
      else emitter.stand (.counting chunk written) :=
  rfl

theorem turn_counting (emitter : Emitter) (turn : EmitTurn) (chunk : PcmChunk) (written : Nat) :
    (emitter.stand (.counting chunk written)).turn turn =
      emitter.stand (if written < chunk.data.length then .idle else .posting chunk) :=
  rfl

theorem turn_capacity (emitter : Emitter) (turn : EmitTurn) :
    (emitter.turn turn).capacity = emitter.capacity := by
  rw [Emitter.turn]
  split <;> repeat' split
  all_goals rfl

theorem turn_shutdown (emitter : Emitter) (turn : EmitTurn) :
    (emitter.turn turn).shutdown = emitter.shutdown := by
  rw [Emitter.turn]
  split <;> repeat' split
  all_goals rfl

theorem turn_queued (emitter : Emitter) (turn : EmitTurn) :
    (emitter.turn turn).posted = false →
      emitter.posted = false ∧ (emitter.turn turn).queued = emitter.queued := by
  rw [Emitter.turn]
  split
  · exact fun still => ⟨still, rfl⟩
  · split
    · split
      · exact fun still => ⟨still, rfl⟩
      · exact fun still => ⟨still, rfl⟩
    · exact fun still => ⟨still, rfl⟩
  · split
    · exact fun still => ⟨still, rfl⟩
    · exact fun still => ⟨still, rfl⟩
  · exact fun still => ⟨still, rfl⟩
  · split
    · intro posted
      cases posted
    · split
      · exact fun still => ⟨still, rfl⟩
      · exact fun still => ⟨still, rfl⟩

theorem turn_idle (emitter : Emitter) (turn : EmitTurn) (returned : emitter.point = .idle) :
    emitter.turn turn = emitter := by
  rw [Emitter.turn, returned]

theorem run_idle (emitter : Emitter) (polls : Nat → Meanwhile) (chunk : PcmChunk) (count : Nat)
    (returned : (emitter.run polls count).point = .idle) (later : Nat) (after : count ≤ later) :
    (emitter.run polls later).point = .idle ∧
      ((emitter.run polls later).Whole chunk ↔ (emitter.run polls count).Whole chunk) := by
  induction later, after using Nat.le_induction with
  | base => exact ⟨returned, Iff.rfl⟩
  | succ later _ ih =>
      have met : ((emitter.run polls later).meet (polls later)).point = .idle := ih.1
      have still : emitter.run polls (later + 1) = (emitter.run polls later).meet (polls later) := by
        rw [run, poll, turn_idle _ _ met]
      rw [still]
      exact ⟨met, ih.2⟩

theorem met_capacity (emitter : Emitter) (polls : Nat → Meanwhile) (count : Nat) :
    (emitter.met polls count).capacity = emitter.capacity := by
  induction count with
  | zero => rfl
  | succ count ih => exact ih

theorem met_point (emitter : Emitter) (polls : Nat → Meanwhile) (count : Nat) :
    (emitter.met polls count).point = emitter.point := by
  induction count with
  | zero => rfl
  | succ count ih => exact ih

theorem met_frame (emitter : Emitter) (polls : Nat → Meanwhile) (count : Nat) :
    (emitter.met polls count).posted = emitter.posted ∧
      (emitter.met polls count).entered = emitter.entered := by
  induction count with
  | zero => exact ⟨rfl, rfl⟩
  | succ count ih => exact ih

theorem run_untouched (emitter : Emitter) (polls : Nat → Meanwhile) (count : Nat) :
    (emitter.run polls count).capacity = emitter.capacity ∧
      (emitter.run polls count).shutdown = (emitter.met polls count).shutdown ∧
      ((emitter.run polls count).posted = false →
        (emitter.run polls count).queued = (emitter.met polls count).queued) := by
  induction count with
  | zero => exact ⟨rfl, rfl, fun _ => rfl⟩
  | succ count ih =>
      obtain ⟨capacity, shutdown, queued⟩ := ih
      rw [run, poll]
      refine ⟨?_, ?_, ?_⟩
      · rw [turn_capacity]
        exact capacity
      · rw [turn_shutdown, met, meet, meet]
        dsimp only
        rw [shutdown]
      · intro still
        obtain ⟨before, kept⟩ := turn_queued _ _ still
        rw [kept, met, meet, meet]
        dsimp only
        rw [queued before]

theorem met_shutdown (emitter : Emitter) (polls : Nat → Meanwhile) (count later : Nat)
    (after : count ≤ later) (running : (emitter.met polls later).shutdown = false) :
    (emitter.met polls count).shutdown = false := by
  induction later, after using Nat.le_induction with
  | base => exact running
  | succ later _ ih =>
      rw [met, meet] at running
      exact ih (Bool.or_eq_false_iff.mp running).1

theorem met_used (emitter : Emitter) (polls : Nat → Meanwhile) (count later : Nat)
    (after : count ≤ later) :
    (emitter.met polls later).used ≤ (emitter.met polls count).used := by
  induction later, after using Nat.le_induction with
  | base => exact Nat.le_refl _
  | succ later _ ih =>
      rw [met, meet]
      exact (Nat.sub_le _ _).trans ih

/-- The wait for room. -/
theorem run_of_waits (emitter : Emitter) (chunk : PcmChunk) (polls : Nat → Meanwhile)
    (count : Nat) (calling : emitter.point = .room chunk)
    (waits : ∀ earlier < count, emitter.Waits chunk polls earlier) :
    emitter.run polls count = emitter.met polls count := by
  induction count with
  | zero => rfl
  | succ count ih =>
      have before := ih fun earlier less => waits earlier (Nat.lt_succ_of_lt less)
      obtain ⟨full, running, going⟩ := waits count (Nat.lt_succ_self count)
      have point := emitter.met_point polls (count + 1)
      have capacity := emitter.met_capacity polls (count + 1)
      rw [run, poll, before]
      change (emitter.met polls (count + 1)).turn _ = _
      rw [Emitter.turn, point, calling]
      dsimp only
      rw [capacity, if_pos ⟨full, running⟩, if_neg going]

theorem first_leaving (emitter : Emitter) (chunk : PcmChunk) (polls : Nat → Meanwhile)
    (bound : Nat) (expires : emitRoomWaitMaxUs < (polls bound).turn.waitedUs) :
    ∃ count ≤ bound, (∀ earlier < count, emitter.Waits chunk polls earlier) ∧
      ¬ emitter.Waits chunk polls count := by
  classical
  have leaves : ∃ count, ¬ emitter.Waits chunk polls count :=
    ⟨bound, fun waits => waits.2.2 (Or.inr expires)⟩
  refine ⟨Nat.find leaves, Nat.find_min' leaves fun waits => waits.2.2 (Or.inr expires), ?_,
    Nat.find_spec leaves⟩
  intro earlier less
  exact not_not.mp (Nat.find_min leaves less)

theorem run_posting (emitter : Emitter) (chunk : PcmChunk) (polls : Nat → Meanwhile) (start : Nat)
    (posting : (emitter.run polls start).point = .posting chunk)
    (unposted : (emitter.run polls start).posted = false) :
    emitter.run polls (start + 1) =
      if (emitter.met polls (start + 1)).queued < recordQueueLength then
        { (emitter.run polls start).meet (polls start) with
          queued := (emitter.met polls (start + 1)).queued + 1
          point := .idle
          posted := true }
      else if (emitter.met polls (start + 1)).shutdown then
        ((emitter.run polls start).meet (polls start)).stand .idle
      else (emitter.run polls start).meet (polls start) := by
  obtain ⟨_, shutdown, queued⟩ := emitter.run_untouched polls start
  have place : ((emitter.run polls start).meet (polls start)).queued =
      (emitter.met polls (start + 1)).queued := by
    rw [met, meet, meet]
    dsimp only
    rw [queued unposted]
  have stop : ((emitter.run polls start).meet (polls start)).shutdown =
      (emitter.met polls (start + 1)).shutdown := by
    rw [met, meet, meet]
    dsimp only
    rw [shutdown]
  have point : ((emitter.run polls start).meet (polls start)).point = .posting chunk := posting
  rw [run, poll, Emitter.turn, point]
  dsimp only
  rw [place, stop]

theorem tried_succ_iff (emitter : Emitter) (polls : Nat → Meanwhile) (start tries : Nat) :
    (∃ tried < tries + 1, (emitter.met polls (start + tried + 1)).queued < recordQueueLength ∧
        ∀ earlier < tried, (emitter.met polls (start + earlier + 1)).shutdown = false) ↔
      (emitter.met polls (start + 1)).queued < recordQueueLength ∨
        (emitter.met polls (start + 1)).shutdown = false ∧
          ∃ tried < tries,
            (emitter.met polls (start + 1 + tried + 1)).queued < recordQueueLength ∧
              ∀ earlier < tried,
                (emitter.met polls (start + 1 + earlier + 1)).shutdown = false := by
  have shift (count : Nat) : start + (count + 1) + 1 = start + 1 + count + 1 := by omega
  rw [Nat.exists_lt_succ_left]
  simp only [Nat.forall_lt_succ_left, Nat.add_zero, shift]
  constructor
  · rintro (⟨here, _⟩ | ⟨tried, less, found, running, later⟩)
    · exact Or.inl here
    · exact Or.inr ⟨running, tried, less, found, later⟩
  · rintro (here | ⟨running, tried, less, found, later⟩)
    · exact Or.inl ⟨here, nofun⟩
    · exact Or.inr ⟨tried, less, found, running, later⟩

theorem posting_whole_iff (emitter : Emitter) (chunk : PcmChunk) (polls : Nat → Meanwhile)
    (start tries : Nat) (some_ : 0 < chunk.data.length)
    (posting : (emitter.run polls start).point = .posting chunk)
    (entered : (emitter.run polls start).entered = chunk.data.length)
    (unposted : (emitter.run polls start).posted = false) :
    (emitter.run polls (start + tries)).Whole chunk ↔
      ∃ tried < tries, (emitter.met polls (start + tried + 1)).queued < recordQueueLength ∧
        ∀ earlier < tried, (emitter.met polls (start + earlier + 1)).shutdown = false := by
  induction tries generalizing start with
  | zero =>
      refine iff_of_false ?_ ?_
      · rintro ⟨returned, _⟩
        rw [Nat.add_zero, posting] at returned
        cases returned
      · rintro ⟨_, none_, _⟩
        exact absurd none_ (Nat.not_lt_zero _)
  | succ tries ih =>
      have next := emitter.run_posting chunk polls start posting unposted
      rw [tried_succ_iff]
      by_cases room : (emitter.met polls (start + 1)).queued < recordQueueLength
      · rw [if_pos room] at next
        have returned : (emitter.run polls (start + 1)).point = .idle := by rw [next]
        have whole := (emitter.run_idle polls chunk (start + 1) returned (start + (tries + 1))
          (by omega)).2
        refine iff_of_true ?_ (Or.inl room)
        rw [whole, next]
        exact ⟨rfl, Or.inl ⟨rfl, entered⟩⟩
      · rw [if_neg room] at next
        cases stopped : (emitter.met polls (start + 1)).shutdown with
        | true =>
            rw [stopped, if_pos rfl] at next
            have returned : (emitter.run polls (start + 1)).point = .idle := by
              rw [next]
              rfl
            have whole := (emitter.run_idle polls chunk (start + 1) returned (start + (tries + 1))
              (by omega)).2
            refine iff_of_false ?_ ?_
            · rw [whole, next]
              rintro ⟨_, ⟨posted, _⟩ | ⟨_, none_⟩⟩
              · change (emitter.run polls start).posted = true at posted
                rw [unposted] at posted
                cases posted
              · change (emitter.run polls start).entered = 0 at none_
                omega
            · rintro (found | ⟨running, _⟩)
              · exact room found
              · cases running
        | false =>
            rw [stopped, if_neg Bool.false_ne_true] at next
            have onward := ih (start + 1) (by rw [next]; exact posting)
              (by rw [next]; exact entered) (by rw [next]; exact unposted)
            rw [show start + (tries + 1) = start + 1 + tries by omega, onward]
            exact ⟨fun later => Or.inr ⟨rfl, later⟩,
              fun found => (found.resolve_left room).2⟩

theorem run_leaving (emitter : Emitter) (chunk : PcmChunk) (polls : Nat → Meanwhile)
    (count : Nat) (calling : emitter.point = .room chunk)
    (waits : ∀ earlier < count, emitter.Waits chunk polls earlier)
    (leaves : ¬ emitter.Waits chunk polls count) :
    (emitter.capacity - (emitter.met polls (count + 1)).used < chunk.data.length ∧
        emitter.run polls (count + 1) =
          (emitter.met polls (count + 1)).stand .idle) ∨
      ((chunk.data.length ≤ emitter.capacity - (emitter.met polls (count + 1)).used ∨
          (emitter.met polls (count + 1)).shutdown = true) ∧
        emitter.run polls (count + 1) =
          (emitter.met polls (count + 1)).stand (.writing chunk 0)) := by
  have before := emitter.run_of_waits chunk polls count calling waits
  have point := emitter.met_point polls (count + 1)
  have capacity := emitter.met_capacity polls (count + 1)
  have next : emitter.run polls (count + 1) =
      (emitter.met polls (count + 1)).turn (polls count).turn := by
    rw [run, poll, before]
    rfl
  rw [Emitter.turn, point, calling] at next
  dsimp only at next
  rw [capacity] at next
  by_cases full : emitter.capacity - (emitter.met polls (count + 1)).used < chunk.data.length ∧
      (emitter.met polls (count + 1)).shutdown = false
  · have up : givesUp (polls count).turn := by
      by_contra going
      exact leaves ⟨full.1, full.2, going⟩
    rw [if_pos full, if_pos up] at next
    exact Or.inl ⟨full.1, next⟩
  · rw [if_neg full] at next
    refine Or.inr ⟨?_, next⟩
    by_cases room : emitter.capacity - (emitter.met polls (count + 1)).used < chunk.data.length
    · right
      rw [← Bool.not_eq_false]
      exact fun running => full ⟨room, running⟩
    · exact Or.inl (Nat.le_of_not_lt room)

/-- A shutdown before the write leaves the ring as it is. -/
theorem run_stopped (emitter : Emitter) (chunk : PcmChunk) (polls : Nat → Meanwhile)
    (count : Nat) (some_ : 0 < chunk.data.length) (fresh : emitter.posted = false)
    (none_ : emitter.entered = 0)
    (writing : emitter.run polls (count + 1) =
      (emitter.met polls (count + 1)).stand (.writing chunk 0))
    (stopped : (emitter.met polls (count + 2)).shutdown = true) :
    (emitter.run polls (count + 3)).Whole chunk := by
  have second : emitter.run polls (count + 2) =
      (emitter.met polls (count + 2)).stand (.counting chunk 0) := by
    rw [run, writing, poll]
    change ((emitter.met polls (count + 2)).stand (.writing chunk 0)).turn _ = _
    rw [turn_writing, stopped, if_neg (fun both => Bool.noConfusion both.2)]
  have third : emitter.run polls (count + 3) =
      (emitter.met polls (count + 3)).stand .idle := by
    rw [run, second, poll]
    change ((emitter.met polls (count + 3)).stand (.counting chunk 0)).turn _ = _
    rw [turn_counting, if_pos some_]
  rw [third]
  exact ⟨rfl, Or.inr ⟨(met_frame emitter polls _).1.trans fresh,
    (met_frame emitter polls _).2.trans none_⟩⟩

theorem run_entering (emitter : Emitter) (chunk : PcmChunk) (polls : Nat → Meanwhile)
    (count : Nat) (some_ : 0 < chunk.data.length) (fresh : emitter.posted = false)
    (none_ : emitter.entered = 0)
    (takes : ∀ poll, chunk.data.length ≤ (polls poll).turn.accepted)
    (room : chunk.data.length ≤ emitter.capacity - (emitter.met polls (count + 1)).used)
    (writing : emitter.run polls (count + 1) =
      (emitter.met polls (count + 1)).stand (.writing chunk 0))
    (running : (emitter.met polls (count + 2)).shutdown = false) :
    (emitter.run polls (count + 4)).point = .posting chunk ∧
      (emitter.run polls (count + 4)).entered = chunk.data.length ∧
      (emitter.run polls (count + 4)).posted = false := by
  have shrinks := emitter.met_used polls (count + 1) (count + 2) (by omega)
  have capacity := emitter.met_capacity polls (count + 2)
  have whole : min (polls (count + 1)).turn.accepted
      (min (chunk.data.length - 0)
        ((emitter.met polls (count + 2)).capacity - (emitter.met polls (count + 2)).used)) =
      chunk.data.length := by
    have taken := takes (count + 1)
    rw [capacity]
    omega
  have second : emitter.run polls (count + 2) =
      ((emitter.met polls (count + 2)).enter chunk.data.length).stand
        (.writing chunk chunk.data.length) := by
    rw [run, writing, poll]
    change ((emitter.met polls (count + 2)).stand (.writing chunk 0)).turn _ = _
    rw [turn_writing, if_pos ⟨some_, running⟩]
    dsimp only
    rw [whole, Nat.zero_add]
  have third : emitter.run polls (count + 3) =
      (((emitter.met polls (count + 2)).enter chunk.data.length).meet (polls (count + 2))).stand
        (.counting chunk chunk.data.length) := by
    rw [run, second, poll]
    change ((((emitter.met polls (count + 2)).enter chunk.data.length).meet
      (polls (count + 2))).stand (.writing chunk chunk.data.length)).turn _ = _
    rw [turn_writing, if_neg (fun both => absurd both.1 (Nat.lt_irrefl _))]
  have fourth : emitter.run polls (count + 4) =
      ((((emitter.met polls (count + 2)).enter chunk.data.length).meet (polls (count + 2))).meet
        (polls (count + 3))).stand (.posting chunk) := by
    rw [run, third, poll]
    change (((((emitter.met polls (count + 2)).enter chunk.data.length).meet
      (polls (count + 2))).meet (polls (count + 3))).stand
        (.counting chunk chunk.data.length)).turn _ = _
    rw [turn_counting, if_neg (Nat.lt_irrefl _)]
  rw [fourth]
  refine ⟨rfl, ?_, (met_frame emitter polls _).1.trans fresh⟩
  change (emitter.met polls (count + 2)).entered + chunk.data.length = _
  rw [(met_frame emitter polls _).2, none_, Nat.zero_add]

/-- A chunk can enter only at the poll where the wait is over. -/
theorem enters_unique (emitter : Emitter) (chunk : PcmChunk) (polls : Nat → Meanwhile)
    (count : Nat) (waits : ∀ earlier < count, emitter.Waits chunk polls earlier)
    (leaves : ¬ emitter.Waits chunk polls count) (other : Nat)
    (enters : emitter.Enters chunk polls other) : other = count := by
  rcases Nat.lt_trichotomy other count with earlier | same | later
  · have waited := waits other earlier
    exact absurd waited.1 (Nat.not_lt.mpr enters.2.2.1)
  · exact same
  · exact absurd (enters.1 count later) leaves

theorem findsPlace_iff (emitter : Emitter) (chunk : PcmChunk) (polls : Nat → Meanwhile)
    (count bound : Nat) (waits : ∀ earlier < count, emitter.Waits chunk polls earlier)
    (leaves : ¬ emitter.Waits chunk polls count) :
    emitter.FindsPlace chunk polls bound ↔
      (emitter.Enters chunk polls count → ∃ tries, count + 4 + tries < bound ∧
        (emitter.met polls (count + 4 + tries + 1)).queued < recordQueueLength ∧
        ∀ earlier < tries, (emitter.met polls (count + 4 + earlier + 1)).shutdown = false) := by
  constructor
  · exact fun finds => finds count
  · intro finds other enters
    obtain rfl := emitter.enters_unique chunk polls count waits leaves other enters
    exact finds enters

theorem posting_within_iff (emitter : Emitter) (chunk : PcmChunk) (polls : Nat → Meanwhile)
    (start bound : Nat) (some_ : 0 < chunk.data.length)
    (posting : (emitter.run polls start).point = .posting chunk)
    (entered : (emitter.run polls start).entered = chunk.data.length)
    (unposted : (emitter.run polls start).posted = false) :
    (emitter.run polls bound).Whole chunk ↔
      ∃ tries, start + tries < bound ∧
        (emitter.met polls (start + tries + 1)).queued < recordQueueLength ∧
        ∀ earlier < tries, (emitter.met polls (start + earlier + 1)).shutdown = false := by
  rcases Nat.lt_or_ge bound start with short | long
  · refine iff_of_false ?_ ?_
    · rintro ⟨returned, _⟩
      have past := (emitter.run_idle polls chunk bound returned start short.le).1
      rw [posting] at past
      cases past
    · rintro ⟨tries, less, _⟩
      omega
  · obtain ⟨tries, rfl⟩ := Nat.exists_eq_add_of_le long
    rw [emitter.posting_whole_iff chunk polls start tries some_ posting entered unposted]
    constructor
    · rintro ⟨tried, less, place⟩
      exact ⟨tried, by omega, place⟩
    · rintro ⟨tried, less, place⟩
      exact ⟨tried, by omega, place⟩

/-- A call comes back within the bound, with all or nothing done, just if a chunk that enters the
ring finds a place for its record within it. -/
theorem call_whole_iff (capacity used queued : Nat) (shutdown : Bool) (chunk : PcmChunk)
    (polls : Nat → Meanwhile) (roomPolls bound : Nat)
    (expires : emitRoomWaitMaxUs < (polls roomPolls).turn.waitedUs)
    (takes : ∀ poll, chunk.data.length ≤ (polls poll).turn.accepted)
    (enough : roomPolls + 3 ≤ bound) :
    ((call capacity used queued shutdown chunk).run polls bound).Whole chunk ↔
      (call capacity used queued shutdown chunk).FindsPlace chunk polls bound := by
  rcases Nat.eq_zero_or_pos chunk.data.length with empty | some_
  · have returned : (call capacity used queued shutdown chunk).point = .idle := by
      rw [call, empty]
      rfl
    have whole := ((call capacity used queued shutdown chunk).run_idle polls chunk 0 returned bound
      (Nat.zero_le _)).2
    refine iff_of_true (whole.mpr ⟨returned, Or.inr ⟨rfl, rfl⟩⟩) ?_
    intro count enters
    exact absurd enters.2.1 (by omega)
  · have calling : (call capacity used queued shutdown chunk).point = .room chunk := by
      rw [call, if_neg (Nat.ne_of_gt some_)]
    have fresh : (call capacity used queued shutdown chunk).posted = false := rfl
    have none_ : (call capacity used queued shutdown chunk).entered = 0 := rfl
    generalize call capacity used queued shutdown chunk = emitter at calling fresh none_ ⊢
    obtain ⟨count, within, waits, leaves⟩ :=
      emitter.first_leaving chunk polls roomPolls expires
    rw [emitter.findsPlace_iff chunk polls count bound waits leaves]
    rcases emitter.run_leaving chunk polls count calling waits leaves with
      ⟨full, up⟩ | ⟨room, writing⟩
    · have returned : (emitter.run polls (count + 1)).point = .idle := by
        rw [up]
        rfl
      have whole := (emitter.run_idle polls chunk (count + 1) returned bound (by omega)).2
      refine iff_of_true (whole.mpr ⟨returned, Or.inr ?_⟩) ?_
      · rw [up]
        exact ⟨(met_frame emitter polls _).1.trans fresh, (met_frame emitter polls _).2.trans none_⟩
      · exact fun enters => absurd full (Nat.not_lt.mpr enters.2.2.1)
    · cases stopped : (emitter.met polls (count + 2)).shutdown with
      | true =>
          have third := emitter.run_stopped chunk polls count some_ fresh none_ writing stopped
          have whole := (emitter.run_idle polls chunk (count + 3) third.1 bound (by omega)).2
          refine iff_of_true (whole.mpr third) ?_
          intro enters
          have running := enters.2.2.2
          rw [stopped] at running
          cases running
      | false =>
          have fits : chunk.data.length ≤
              emitter.capacity - (emitter.met polls (count + 1)).used := by
            rcases room with fits | halted
            · exact fits
            · have running := emitter.met_shutdown polls (count + 1) (count + 2) (by omega) stopped
              rw [halted] at running
              cases running
          have enters : emitter.Enters chunk polls count := ⟨waits, some_, fits, stopped⟩
          obtain ⟨posting, entered, unposted⟩ :=
            emitter.run_entering chunk polls count some_ fresh none_ takes fits writing stopped
          rw [emitter.posting_within_iff chunk polls (count + 4) bound some_ posting entered
            unposted]
          exact ⟨fun found _ => found, fun finds => finds enters⟩

def idlePlayer (count : Nat) : Meanwhile :=
  { drained := 0
    taken := 0
    shutdown := false
    turn :=
      { outputActive := true
        streamActive := true
        waitedUs := 10000 * count
        accepted := 4096 } }

def smallChunk : PcmChunk :=
  { data := [0, 0]
    serverTsUs := 0
    frameBytes := 2
    sampleRate := 48000
    arrivalUs := 0 }

theorem small_chunk_returns :
    ((call 4096 0 0 false smallChunk).run idlePlayer 204).Whole smallChunk := by
  refine (call_whole_iff 4096 0 0 false smallChunk idlePlayer 201 204 (by decide)
    (fun _ => by change 2 ≤ 4096; decide) (by decide)).mpr ?_
  intro count enters
  cases count with
  | zero => exact ⟨0, by decide, by decide, nofun⟩
  | succ count =>
      have waits := (enters.1 0 (Nat.succ_pos count)).1
      exact absurd waits (by decide)

theorem idlePlayer_met (emitter : Emitter) (count : Nat) :
    (emitter.met idlePlayer count).queued = emitter.queued := by
  induction count with
  | zero => rfl
  | succ count ih => exact ih

end Emitter

namespace PcmRing

/-- What `emit_pcm_` sees of the state, with what a call has done so far. -/
def emitter (state : PcmRing) (entered : Nat) (posted : Bool) : Emitter :=
  { capacity := state.capacity
    used := state.ring.length
    queued := state.queue.length
    shutdown := state.shutdown
    point := state.emit
    entered := entered
    posted := posted }

/-- A turn of `emit_pcm_` on the state is one on what it sees: what it lays into the ring is what
enters, and it posts when a record is emitted. -/
def Mirrors (state : PcmRing) (turn : EmitTurn) (entered : Nat) (posted : Bool) : Prop :=
  ∃ laid new,
    (state.emitter entered posted).turn turn =
        (state.emitTurn turn).emitter (entered + laid) (posted || new) ∧
      (state.emitTurn turn).ring.length = state.ring.length + laid ∧
      (state.emitTurn turn).emitted.length = state.emitted.length + new.toNat

theorem mirrors_stand (state : PcmRing) (turn : EmitTurn) (entered : Nat) (posted : Bool)
    (point : EmitPoint) (next : state.emitTurn turn = { state with emit := point })
    (turned : (state.emitter entered posted).turn turn =
      (state.emitter entered posted).stand point) : state.Mirrors turn entered posted := by
  refine ⟨0, false, ?_, ?_, ?_⟩
  · rw [turned, next, Bool.or_false]
    rfl
  · rw [next]
    rfl
  · rw [next]
    rfl

theorem mirrors_still (state : PcmRing) (turn : EmitTurn) (entered : Nat) (posted : Bool)
    (next : state.emitTurn turn = state)
    (turned : (state.emitter entered posted).turn turn = state.emitter entered posted) :
    state.Mirrors turn entered posted :=
  state.mirrors_stand turn entered posted state.emit next turned

theorem mirrors_room (state : PcmRing) (turn : EmitTurn) (entered : Nat) (posted : Bool)
    (chunk : PcmChunk) (point : state.emit = .room chunk) : state.Mirrors turn entered posted := by
  have seen : (state.emitter entered posted).point = .room chunk := point
  by_cases full : state.capacity - state.ring.length < chunk.data.length ∧
      state.shutdown = false
  · by_cases up : Emitter.givesUp turn
    · apply state.mirrors_stand turn entered posted .idle
      · rw [emitTurn, point]
        dsimp only
        rw [if_pos full]
        exact if_pos up
      · rw [Emitter.turn, seen]
        exact (if_pos full).trans (if_pos up)
    · apply state.mirrors_still
      · rw [emitTurn, point]
        dsimp only
        rw [if_pos full]
        exact if_neg up
      · rw [Emitter.turn, seen]
        exact (if_pos full).trans (if_neg up)
  · apply state.mirrors_stand turn entered posted (.writing chunk 0)
    · rw [emitTurn, point]
      dsimp only
      rw [if_neg full]
    · rw [Emitter.turn, seen]
      exact if_neg full

theorem mirrors_writing (state : PcmRing) (turn : EmitTurn) (entered : Nat) (posted : Bool)
    (chunk : PcmChunk) (written : Nat) (point : state.emit = .writing chunk written) :
    state.Mirrors turn entered posted := by
  have seen : (state.emitter entered posted).point = .writing chunk written := point
  by_cases more : written < chunk.data.length ∧ state.shutdown = false
  · have length : (((chunk.data.drop written).take (min turn.accepted
        (min (chunk.data.length - written) (state.capacity - state.ring.length)))).length) =
        min turn.accepted
          (min (chunk.data.length - written) (state.capacity - state.ring.length)) := by
      rw [List.length_take, List.length_drop]
      omega
    refine ⟨min turn.accepted
      (min (chunk.data.length - written) (state.capacity - state.ring.length)), false, ?_⟩
    rw [emitTurn, Emitter.turn, seen, point]
    dsimp only
    rw [if_pos more, Bool.or_false]
    refine ⟨(if_pos more).trans ?_, ?_, rfl⟩
    · simp only [emitter, Emitter.stand, Emitter.enter, ringWrite, List.length_append, length]
    · simp only [ringWrite, List.length_append, length]
  · apply state.mirrors_stand turn entered posted (.counting chunk written)
    · rw [emitTurn, point]
      dsimp only
      rw [if_neg more]
    · rw [Emitter.turn, seen]
      exact if_neg more

theorem mirrors_posting (state : PcmRing) (turn : EmitTurn) (entered : Nat) (posted : Bool)
    (chunk : PcmChunk) (point : state.emit = .posting chunk) :
    state.Mirrors turn entered posted := by
  have seen : (state.emitter entered posted).point = .posting chunk := point
  by_cases place : state.queue.length < recordQueueLength
  · refine ⟨0, true, ?_⟩
    rw [emitTurn, Emitter.turn, seen, point]
    dsimp only
    rw [if_pos place, Bool.or_true]
    refine ⟨(if_pos place).trans ?_, rfl, ?_⟩
    · simp only [emitter, postRecord, List.length_append]
      rfl
    · simp only [postRecord, List.length_append]
      rfl
  · by_cases stopped : state.shutdown = true
    · apply state.mirrors_stand turn entered posted .idle
      · rw [emitTurn, point]
        dsimp only
        rw [if_neg place, if_pos stopped]
      · rw [Emitter.turn, seen]
        exact (if_neg place).trans (if_pos stopped)
    · apply state.mirrors_still
      · rw [emitTurn, point]
        dsimp only
        rw [if_neg place, if_neg stopped]
      · rw [Emitter.turn, seen]
        exact (if_neg place).trans (if_neg stopped)

theorem emitTurn_mirrors (state : PcmRing) (turn : EmitTurn) (entered : Nat) (posted : Bool) :
    state.Mirrors turn entered posted := by
  have seen : (state.emitter entered posted).point = state.emit := rfl
  cases point : state.emit with
  | idle =>
      apply state.mirrors_still
      · rw [emitTurn, point]
      · rw [Emitter.turn, seen, point]
  | room chunk => exact state.mirrors_room turn entered posted chunk point
  | writing chunk written => exact state.mirrors_writing turn entered posted chunk written point
  | counting chunk written =>
      refine ⟨0, false, ?_⟩
      rw [emitTurn, Emitter.turn, seen, point, Bool.or_false]
      exact ⟨rfl, rfl, rfl⟩
  | posting chunk => exact state.mirrors_posting turn entered posted chunk point

theorem playTurn_frame (state : PcmRing) (turn : PlayTurn) :
    (state.playTurn turn).capacity = state.capacity ∧
      (state.playTurn turn).emit = state.emit ∧
      (state.playTurn turn).shutdown = state.shutdown ∧
      (state.playTurn turn).emitted = state.emitted ∧
      (state.playTurn turn).ring.length ≤ state.ring.length ∧
      (state.playTurn turn).queue.length ≤ state.queue.length := by
  have finished (record : PcmRecord) (bytes : Nat) :
      (state.finish record bytes).capacity = state.capacity ∧
        (state.finish record bytes).emit = state.emit ∧
        (state.finish record bytes).shutdown = state.shutdown ∧
        (state.finish record bytes).emitted = state.emitted ∧
        (state.finish record bytes).ring.length ≤ state.ring.length ∧
        (state.finish record bytes).queue.length ≤ state.queue.length := by
    rw [finish]
    split <;> exact ⟨rfl, rfl, rfl, rfl, Nat.le_refl _, Nat.le_refl _⟩
  rw [playTurn]
  split
  · split
    · simp
    · split
      · simp
      · rename_i record later queued
        simp [takeRecord, queued]
  · split
    · simp
    · split <;> simp
  · split
    · simp [ringRead]
    · exact finished _ _
  · simp
  · split
    · simp
    · exact finished _ _
  · dsimp only
    split
    · simp [ringRead]
    · simp
  · simp
  · split
    · split
      · simp
      · dsimp only
        split
        · simp
        · split <;> simp
    · simp
  · simp

def between (state : PcmRing) : List (Option PlayTurn) → PcmRing
  | [] => state
  | some turn :: later => (state.step (.playTurn turn)).between later
  | none :: later => (state.step .shutdown).between later

def pollRun (state : PcmRing) (schedule : Nat → List (Option PlayTurn) × EmitTurn) : Nat → PcmRing
  | 0 => state
  | count + 1 =>
      ((state.pollRun schedule count).between (schedule count).1).emitTurn (schedule count).2

def found (state : PcmRing) (schedule : Nat → List (Option PlayTurn) × EmitTurn) (count : Nat) :
    Meanwhile :=
  let before := state.pollRun schedule count
  let after := before.between (schedule count).1
  { drained := before.ring.length - after.ring.length
    taken := before.queue.length - after.queue.length
    shutdown := after.shutdown
    turn := (schedule count).2 }

theorem between_frame (state : PcmRing) (moves : List (Option PlayTurn)) :
    (state.between moves).capacity = state.capacity ∧
      (state.between moves).emit = state.emit ∧
      (state.shutdown = true → (state.between moves).shutdown = true) ∧
      (state.between moves).emitted = state.emitted ∧
      (state.between moves).ring.length ≤ state.ring.length ∧
      (state.between moves).queue.length ≤ state.queue.length := by
  induction moves generalizing state with
  | nil => exact ⟨rfl, rfl, id, rfl, Nat.le_refl _, Nat.le_refl _⟩
  | cons move later ih =>
      cases move with
      | some turn =>
          obtain ⟨capacity, emit, shutdown, emitted, ring, queue⟩ := state.playTurn_frame turn
          obtain ⟨capacity', emit', shutdown', emitted', ring', queue'⟩ := ih (state.playTurn turn)
          rw [shutdown] at shutdown'
          exact ⟨capacity'.trans capacity, emit'.trans emit, shutdown', emitted'.trans emitted,
            ring'.trans ring, queue'.trans queue⟩
      | none =>
          obtain ⟨capacity, emit, shutdown, emitted, ring, queue⟩ :=
            ih { state with shutdown := true }
          exact ⟨capacity, emit, fun _ => shutdown rfl, emitted, ring, queue⟩

/-- A call on the state is a call on what it sees, for every order in which the tasks run. -/
theorem pollRun_emitter (state : PcmRing)
    (schedule : Nat → List (Option PlayTurn) × EmitTurn) (count : Nat) :
    ∃ entered posted,
      (state.emitter 0 false).run (state.found schedule) count =
          (state.pollRun schedule count).emitter entered posted ∧
        (posted = true ↔
          state.emitted.length < (state.pollRun schedule count).emitted.length) ∧
        state.emitted.length ≤ (state.pollRun schedule count).emitted.length := by
  induction count with
  | zero => exact ⟨0, false, rfl, by simp [pollRun], Nat.le_refl _⟩
  | succ count ih =>
      obtain ⟨entered, posted, ran, grown, more⟩ := ih
      obtain ⟨capacity, emit, shutdown, emitted, ring, queue⟩ :=
        (state.pollRun schedule count).between_frame (schedule count).1
      have met : ((state.pollRun schedule count).emitter entered posted).meet
          (state.found schedule count) =
            ((state.pollRun schedule count).between (schedule count).1).emitter entered posted := by
        rw [Emitter.meet, found, emitter, emitter]
        dsimp only
        rw [capacity, emit, Nat.sub_sub_self ring, Nat.sub_sub_self queue]
        cases stopped : (state.pollRun schedule count).shutdown with
        | true => rw [shutdown stopped, Bool.or_true]
        | false => rw [Bool.false_or]
      obtain ⟨laid, new, turned, _, lengths⟩ :=
        ((state.pollRun schedule count).between (schedule count).1).emitTurn_mirrors
          (schedule count).2 entered posted
      refine ⟨entered + laid, posted || new, ?_, ?_, ?_⟩
      · rw [Emitter.run, ran, Emitter.poll, met]
        exact turned
      · rw [pollRun, lengths, emitted, Bool.or_eq_true, grown]
        cases new with
        | true =>
            exact iff_of_true (Or.inr rfl) (Nat.lt_succ_of_le more)
        | false =>
            change _ ∨ false = true ↔ _ < _ + 0
            simp
      · rw [pollRun, lengths, emitted]
        omega

def emitSmall : List PcmEvent :=
  .emitPcm Emitter.smallChunk ::
    List.replicate 5 (.emitTurn (Emitter.idlePlayer 0).turn)

def queueFull : PcmRing :=
  ((List.replicate recordQueueLength emitSmall).flatten ++
    [PcmEvent.emitPcm Emitter.smallChunk]).foldl
    PcmRing.step (PcmRing.start 4096)

end PcmRing

/-- The queue is full with small chunks while the ring has room, and the next call never
returns. -/
theorem full_queue_never_returns :
    PcmRing.queueFull.emitter 0 false = Emitter.call 4096 320 160 false Emitter.smallChunk ∧
      ∀ bound, ¬ ((Emitter.call 4096 320 160 false Emitter.smallChunk).run Emitter.idlePlayer
        bound).Whole Emitter.smallChunk := by
  constructor
  · decide +kernel
  · intro bound whole
    have posting : ((Emitter.call 4096 320 160 false Emitter.smallChunk).run Emitter.idlePlayer
        4).point = .posting Emitter.smallChunk := by decide +kernel
    rcases Nat.le_total bound 4 with short | long
    · have past := (Emitter.run_idle _ _ Emitter.smallChunk bound whole.1 4 short).1
      rw [posting] at past
      cases past
    · obtain ⟨tries, rfl⟩ := Nat.exists_eq_add_of_le long
      rw [Emitter.posting_whole_iff _ Emitter.smallChunk Emitter.idlePlayer 4 tries (by decide)
        posting (by decide +kernel) (by decide +kernel)] at whole
      obtain ⟨tried, _, place, _⟩ := whole
      rw [Emitter.idlePlayer_met] at place
      exact absurd place (by decide)

end Player
