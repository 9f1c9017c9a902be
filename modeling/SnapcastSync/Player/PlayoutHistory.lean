import Mathlib.Data.List.Induction
import SnapcastSync.Lib.SlotRing

/-! The playout histories: the level of a frame counter at a past instant, looked up among the
last marks. The search goes through the slots in place, so that among marks of one timestamp it
answers with the one of the highest slot. -/

namespace Player

def playoutHistorySlots : Nat := 64

/-- `ts_us` 0 marks an unused slot. -/
structure PlayoutMark where
  tsUs : Int
  total : Int
deriving DecidableEq, Repr

def PlayoutMark.unused : PlayoutMark :=
  { tsUs := 0
    total := 0 }

abbrev PlayoutHistory := SlotRing PlayoutMark playoutHistorySlots

def clearPlayoutHistory : PlayoutHistory := SlotRing.blank .unused (by decide)

def markPlayout (history : PlayoutHistory) (tsUs total : Int) : PlayoutHistory :=
  history.append { tsUs := tsUs, total := total }

def considerSlot (asOfUs : Int) (best : Option PlayoutMark) (slot : PlayoutMark) :
    Option PlayoutMark :=
  if slot.tsUs = 0 ∨ asOfUs < slot.tsUs then best
  else if best.all (fun held => decide (held.tsUs ≤ slot.tsUs)) then some slot
  else best

def playoutLevelAt (history : PlayoutHistory) (asOfUs : Int) : Option Int :=
  (history.slots.foldl (considerSlot asOfUs) none).map PlayoutMark.total

def accountedAt (pushed played : PlayoutHistory) (asOfUs : Int) : Option Int := do
  let pushedAt ← playoutLevelAt pushed asOfUs
  let playedAt ← playoutLevelAt played asOfUs
  pure (pushedAt - playedAt)

def playoutHistoryOf (marks : List PlayoutMark) : PlayoutHistory :=
  marks.foldl (fun history mark => markPlayout history mark.tsUs mark.total) clearPlayoutHistory

/-! What the lookup is for, on the appended marks themselves. -/

/-- The marks a ring of this many slots still holds, oldest first. -/
def heldMarks (marks : List PlayoutMark) : List PlayoutMark :=
  marks.drop (marks.length - playoutHistorySlots)

def newestBy (asOfUs : Int) (marks : List PlayoutMark) : Option PlayoutMark :=
  (marks.filter (fun mark => decide (mark.tsUs ≤ asOfUs))).getLast?

structure Chronological (marks : List PlayoutMark) : Prop where
  positive : ∀ mark ∈ marks, 0 < mark.tsUs
  ascending : marks.Pairwise (fun earlier later => earlier.tsUs ≤ later.tsUs)

def lapStart (marks : List PlayoutMark) : Nat := marks.length - marks.length % playoutHistorySlots

/-- The answer is in the lap the ring is in, and the last slot, filled a lap before, carries
its timestamp with another level. -/
def TiedAcrossWrap (marks : List PlayoutMark) (asOfUs : Int) : Prop :=
  ∃ newest ∈ newestBy asOfUs (marks.drop (lapStart marks)),
    ∃ lastSlot ∈ (marks.take (lapStart marks)).getLast?,
      lastSlot.tsUs = newest.tsUs ∧ lastSlot.total ≠ newest.total

section Scan

variable {asOfUs : Int}

theorem considerSlot_of_late (best : Option PlayoutMark) (slot : PlayoutMark)
    (late : asOfUs < slot.tsUs) : considerSlot asOfUs best slot = best :=
  if_pos (Or.inr late)

theorem considerSlot_unused (best : Option PlayoutMark) :
    considerSlot asOfUs best .unused = best :=
  if_pos (Or.inl rfl)

theorem considerSlot_none (slot : PlayoutMark) (positive : 0 < slot.tsUs)
    (early : slot.tsUs ≤ asOfUs) : considerSlot asOfUs none slot = some slot := by
  rw [considerSlot, if_neg (by omega)]
  rfl

theorem considerSlot_some (held slot : PlayoutMark) (positive : 0 < slot.tsUs)
    (early : slot.tsUs ≤ asOfUs) :
    considerSlot asOfUs (some held) slot =
      if held.tsUs ≤ slot.tsUs then some slot else some held := by
  rw [considerSlot, if_neg (by omega)]
  by_cases after : held.tsUs ≤ slot.tsUs
  · simp [after]
  · simp [after]

theorem considerSlot_considerSlot (best : Option PlayoutMark) (earlier later : PlayoutMark)
    (positive : 0 < earlier.tsUs) (ordered : earlier.tsUs ≤ later.tsUs)
    (early : later.tsUs ≤ asOfUs) :
    considerSlot asOfUs (considerSlot asOfUs best earlier) later =
      considerSlot asOfUs best later := by
  have earlierEarly : earlier.tsUs ≤ asOfUs := by omega
  have laterPositive : 0 < later.tsUs := by omega
  cases best with
  | none =>
      rw [considerSlot_none earlier positive earlierEarly,
        considerSlot_none later laterPositive early,
        considerSlot_some _ _ laterPositive early, if_pos ordered]
  | some held =>
      rw [considerSlot_some held earlier positive earlierEarly]
      split
      · next replaced =>
          rw [considerSlot_some _ _ laterPositive early, if_pos ordered,
            considerSlot_some _ _ laterPositive early, if_pos (by omega)]
      · rfl

theorem scan_unused (best : Option PlayoutMark) (count : Nat) :
    (List.replicate count PlayoutMark.unused).foldl (considerSlot asOfUs) best = best := by
  induction count with
  | zero => rfl
  | succ count ih =>
      rw [List.replicate_succ, List.foldl_cons, considerSlot_unused]
      exact ih

theorem newestBy_concat (marks : List PlayoutMark) (mark : PlayoutMark) :
    newestBy asOfUs (marks ++ [mark]) =
      if mark.tsUs ≤ asOfUs then some mark else newestBy asOfUs marks := by
  rw [newestBy, List.filter_append]
  split
  · next early => simp [early]
  · next late => simp [newestBy, late]

theorem newestBy_append (older newer : List PlayoutMark) :
    newestBy asOfUs (older ++ newer) = (newestBy asOfUs newer).or (newestBy asOfUs older) := by
  rw [newestBy, List.filter_append, List.getLast?_append]
  rfl

theorem newestBy_mem {marks : List PlayoutMark} {newest : PlayoutMark}
    (found : newest ∈ newestBy asOfUs marks) : newest ∈ marks ∧ newest.tsUs ≤ asOfUs := by
  have kept := List.mem_of_getLast? found
  exact ⟨List.mem_of_mem_filter kept, of_decide_eq_true (List.mem_filter.mp kept).2⟩

theorem newestBy_eq_none_iff (marks : List PlayoutMark) :
    newestBy asOfUs marks = none ↔ ∀ mark ∈ marks, asOfUs < mark.tsUs := by
  simp [newestBy]

/-- A scan through marks in order answers with the newest one in time, unless what it came with
is stamped later. -/
theorem scan_chronological (marks : List PlayoutMark) (chronological : Chronological marks)
    (best : Option PlayoutMark) :
    marks.foldl (considerSlot asOfUs) best =
      match newestBy asOfUs marks with
      | none => best
      | some newest => considerSlot asOfUs best newest := by
  induction marks using List.reverseRec with
  | nil => rfl
  | append_singleton marks mark ih =>
      have ascending := List.pairwise_append.mp chronological.ascending
      have earlier : Chronological marks :=
        ⟨fun held member => chronological.positive held (List.mem_append_left _ member),
          ascending.1⟩
      rw [List.foldl_concat, ih earlier, newestBy_concat]
      rcases Int.lt_or_le asOfUs mark.tsUs with late | early
      · rw [considerSlot_of_late _ _ late, if_neg (by omega)]
      · rw [if_pos early]
        have positive := chronological.positive mark
          (List.mem_append_right _ (List.mem_singleton_self mark))
        cases found : newestBy asOfUs marks with
        | none => rfl
        | some newest =>
            have before := ascending.2.2 newest (newestBy_mem found).1 mark
              (List.mem_singleton_self mark)
            have newestPositive := earlier.positive newest (newestBy_mem found).1
            exact considerSlot_considerSlot best newest mark newestPositive before early

end Scan

section Held

theorem playoutHistoryOf_window (marks : List PlayoutMark) :
    (playoutHistoryOf marks).window =
      List.replicate (playoutHistorySlots - marks.length) .unused ++ heldMarks marks := by
  have filled := SlotRing.window_appends clearPlayoutHistory marks
  rw [clearPlayoutHistory, SlotRing.window_blank, List.drop_append, List.length_replicate,
    List.drop_replicate] at filled
  exact filled

theorem playoutHistoryOf_next (marks : List PlayoutMark) :
    (playoutHistoryOf marks).next = marks.length % playoutHistorySlots := by
  have counted := SlotRing.next_appends clearPlayoutHistory marks
  rw [show clearPlayoutHistory.next = 0 from rfl, Nat.zero_add] at counted
  exact counted

def lastLap (marks : List PlayoutMark) : List PlayoutMark :=
  (marks.take (lapStart marks)).drop (marks.length - playoutHistorySlots)

theorem heldMarks_eq (marks : List PlayoutMark) :
    heldMarks marks = lastLap marks ++ marks.drop (lapStart marks) := by
  have within : marks.length - playoutHistorySlots ≤ lapStart marks := by
    rw [lapStart]; have := Nat.mod_lt marks.length (show 0 < playoutHistorySlots by decide); omega
  have shorter : lapStart marks ≤ marks.length := Nat.sub_le _ _
  calc
    heldMarks marks
        = (marks.take (lapStart marks) ++ marks.drop (lapStart marks)).drop
            (marks.length - playoutHistorySlots) := by rw [List.take_append_drop]; rfl
    _ = lastLap marks ++ marks.drop (lapStart marks) := by
      rw [List.drop_append_of_le_length (by rw [List.length_take]; omega)]
      rfl

theorem playoutHistoryOf_slots (marks : List PlayoutMark) :
    (playoutHistoryOf marks).slots =
      marks.drop (lapStart marks) ++
        (List.replicate (playoutHistorySlots - marks.length) .unused ++ lastLap marks) := by
  rw [SlotRing.slots_eq, playoutHistoryOf_window, playoutHistoryOf_next, heldMarks_eq,
    ← List.append_assoc]
  have room := Nat.mod_lt marks.length (show 0 < playoutHistorySlots by decide)
  have older : (List.replicate (playoutHistorySlots - marks.length) PlayoutMark.unused ++
      lastLap marks).length = playoutHistorySlots - marks.length % playoutHistorySlots := by
    have split := Nat.div_add_mod marks.length playoutHistorySlots
    rw [List.length_append, List.length_replicate, lastLap, List.length_drop, List.length_take,
      lapStart]
    rcases Nat.lt_or_ge marks.length playoutHistorySlots with first | wrapped
    · rw [Nat.mod_eq_of_lt first]; omega
    · omega
  rw [← older, List.drop_left, List.take_left]

end Held

theorem chronological_sublist {marks part : List PlayoutMark} (chronological : Chronological marks)
    (inside : part.Sublist marks) : Chronological part :=
  ⟨fun mark member => chronological.positive mark (inside.subset member),
    chronological.ascending.sublist inside⟩

theorem scan_none (marks : List PlayoutMark) (chronological : Chronological marks)
    (asOfUs : Int) : marks.foldl (considerSlot asOfUs) none = newestBy asOfUs marks := by
  rw [scan_chronological marks chronological]
  cases found : newestBy asOfUs marks with
  | none => rfl
  | some newest =>
      obtain ⟨member, early⟩ := newestBy_mem found
      exact considerSlot_none newest (chronological.positive newest member) early

theorem playoutLevelAt_eq (marks : List PlayoutMark) (chronological : Chronological marks)
    (asOfUs : Int) :
    playoutLevelAt (playoutHistoryOf marks) asOfUs =
      ((lastLap marks).foldl (considerSlot asOfUs)
        (newestBy asOfUs (marks.drop (lapStart marks)))).map PlayoutMark.total := by
  have lap := chronological_sublist chronological (List.drop_sublist (lapStart marks) marks)
  rw [playoutLevelAt, playoutHistoryOf_slots, List.foldl_append, List.foldl_append, scan_unused,
    scan_none _ lap]

theorem newestBy_of_getLast? {marks : List PlayoutMark} {last : PlayoutMark} {asOfUs : Int}
    (ends : marks.getLast? = some last) (early : last.tsUs ≤ asOfUs) :
    newestBy asOfUs marks = some last := by
  obtain ⟨front, rfl⟩ := List.getLast?_eq_some_iff.mp ends
  rw [newestBy_concat, if_pos early]

theorem lastLap_getLast? (marks : List PlayoutMark) :
    (lastLap marks).getLast? = (marks.take (lapStart marks)).getLast? := by
  have room := Nat.mod_lt marks.length (show 0 < playoutHistorySlots by decide)
  rw [lastLap, List.getLast?_drop, List.length_take]
  split
  · next reached =>
      have first : lapStart marks = 0 := by
        rw [lapStart] at reached ⊢
        rcases Nat.lt_or_ge marks.length playoutHistorySlots with first | wrapped
        · rw [Nat.mod_eq_of_lt first]; omega
        · omega
      rw [first]
      rfl
  · rfl

/-- The tie in the last slot, seen from the marks still held of the lap before. -/
theorem tiedAcrossWrap_iff (marks : List PlayoutMark) (chronological : Chronological marks)
    (asOfUs : Int) :
    TiedAcrossWrap marks asOfUs ↔
      ∃ newest ∈ newestBy asOfUs (marks.drop (lapStart marks)),
        ∃ older ∈ newestBy asOfUs (lastLap marks),
          older.tsUs = newest.tsUs ∧ older.total ≠ newest.total := by
  have parts := chronological_sublist chronological
    (List.drop_sublist (marks.length - playoutHistorySlots) marks)
  rw [show marks.drop (marks.length - playoutHistorySlots) = heldMarks marks from rfl,
    heldMarks_eq] at parts
  have across := (List.pairwise_append.mp parts.ascending).2.2
  have beforeAscending := (List.pairwise_append.mp parts.ascending).1
  constructor
  · rintro ⟨newest, found, lastSlot, ends, tied, differs⟩
    rw [← lastLap_getLast?] at ends
    have early := (newestBy_mem found).2
    exact ⟨newest, found, lastSlot, newestBy_of_getLast? ends (by omega), tied, differs⟩
  · rintro ⟨newest, found, older, foundOlder, tied, differs⟩
    obtain ⟨member, early⟩ := newestBy_mem found
    obtain ⟨olderMember, _⟩ := newestBy_mem foundOlder
    obtain ⟨front, last, shape⟩ := (List.eq_nil_or_concat (lastLap marks)).resolve_left
      (List.ne_nil_of_mem olderMember)
    have ends : (lastLap marks).getLast? = some last := by rw [shape, List.concat_eq_append, List.getLast?_concat]
    have lastBefore : last.tsUs ≤ newest.tsUs :=
      across last (List.mem_of_getLast? ends) newest member
    have olderBefore : older.tsUs ≤ last.tsUs := by
      rw [shape, List.concat_eq_append] at beforeAscending olderMember
      rcases List.mem_append.mp olderMember with inFront | atEnd
      · exact (List.pairwise_append.mp beforeAscending).2.2 older inFront last
          (List.mem_singleton_self last)
      · exact Int.le_of_eq (congrArg PlayoutMark.tsUs (List.mem_singleton.mp atEnd))
    have same : older = last := by
      have foundLast : newestBy asOfUs (lastLap marks) = some last :=
        newestBy_of_getLast? ends (by omega)
      exact Option.some.inj ((Option.mem_def.mp foundOlder).symm.trans foundLast)
    subst same
    rw [lastLap_getLast?] at ends
    exact ⟨newest, found, older, ends, tied, differs⟩

/-- The lookup answers with the newest mark in time unless a tie straddles the wrap. -/
theorem playoutLevelAt_newest_iff (marks : List PlayoutMark) (chronological : Chronological marks)
    (asOfUs : Int) :
    playoutLevelAt (playoutHistoryOf marks) asOfUs =
        (newestBy asOfUs (heldMarks marks)).map PlayoutMark.total ↔
      ¬ TiedAcrossWrap marks asOfUs := by
  have before : Chronological (lastLap marks) := chronological_sublist chronological
    ((List.drop_sublist _ _).trans (List.take_sublist _ _))
  rw [playoutLevelAt_eq marks chronological, tiedAcrossWrap_iff marks chronological,
    heldMarks_eq, newestBy_append, scan_chronological _ before]
  cases foundOlder : newestBy asOfUs (lastLap marks) with
  | none => simp
  | some older =>
      obtain ⟨olderMember, olderEarly⟩ := newestBy_mem foundOlder
      have olderPositive := before.positive older olderMember
      cases found : newestBy asOfUs (marks.drop (lapStart marks)) with
      | none => simp [considerSlot_none older olderPositive olderEarly]
      | some newest =>
          have ordered : older.tsUs ≤ newest.tsUs := by
            have ascending := (chronological_sublist chronological
              (List.drop_sublist (marks.length - playoutHistorySlots) marks)).ascending
            rw [show marks.drop (marks.length - playoutHistorySlots) = heldMarks marks from rfl,
              heldMarks_eq] at ascending
            exact (List.pairwise_append.mp ascending).2.2 older olderMember newest
              (newestBy_mem found).1
          dsimp only
          rw [considerSlot_some newest older olderPositive olderEarly]
          split
          · next tied => simp [show older.tsUs = newest.tsUs by omega]
          · next apart => simp [show older.tsUs ≠ newest.tsUs by omega]

/-- The lookup fails exactly when no mark it holds is early enough. -/
theorem playoutLevelAt_eq_none_iff (marks : List PlayoutMark)
    (chronological : Chronological marks) (asOfUs : Int) :
    playoutLevelAt (playoutHistoryOf marks) asOfUs = none ↔
      ∀ mark ∈ heldMarks marks, asOfUs < mark.tsUs := by
  have before : Chronological (lastLap marks) := chronological_sublist chronological
    ((List.drop_sublist _ _).trans (List.take_sublist _ _))
  rw [playoutLevelAt_eq marks chronological, Option.map_eq_none_iff,
    ← newestBy_eq_none_iff, heldMarks_eq, newestBy_append, scan_chronological _ before]
  cases foundOlder : newestBy asOfUs (lastLap marks) with
  | none => simp
  | some older =>
      obtain ⟨olderMember, olderEarly⟩ := newestBy_mem foundOlder
      have olderPositive := before.positive older olderMember
      cases found : newestBy asOfUs (marks.drop (lapStart marks)) with
      | none => simp [considerSlot_none older olderPositive olderEarly]
      | some newest =>
          dsimp only
          rw [considerSlot_some newest older olderPositive olderEarly]
          split <;> simp

theorem accountedAt_newest (pushed played : List PlayoutMark)
    (pushedChronological : Chronological pushed) (playedChronological : Chronological played)
    (asOfUs : Int) (pushedApart : ¬ TiedAcrossWrap pushed asOfUs)
    (playedApart : ¬ TiedAcrossWrap played asOfUs) :
    accountedAt (playoutHistoryOf pushed) (playoutHistoryOf played) asOfUs =
      (newestBy asOfUs (heldMarks pushed)).bind (fun pushedAt =>
        (newestBy asOfUs (heldMarks played)).map (fun playedAt =>
          pushedAt.total - playedAt.total)) := by
  rw [accountedAt, (playoutLevelAt_newest_iff pushed pushedChronological asOfUs).mpr pushedApart,
    (playoutLevelAt_newest_iff played playedChronological asOfUs).mpr playedApart]
  cases newestBy asOfUs (heldMarks pushed) with
  | none => rfl
  | some pushedAt =>
      cases newestBy asOfUs (heldMarks played) with
      | none => rfl
      | some playedAt => rfl

/-- The whole contract of the lookup, and when it holds. -/
theorem playoutLookup_iff (marks : List PlayoutMark) (chronological : Chronological marks)
    (asOfUs : Int) :
    (playoutLevelAt (playoutHistoryOf marks) asOfUs =
          (newestBy asOfUs (heldMarks marks)).map PlayoutMark.total ∧
        (playoutLevelAt (playoutHistoryOf marks) asOfUs = none ↔
          ∀ mark ∈ heldMarks marks, asOfUs < mark.tsUs)) ↔
      ¬ TiedAcrossWrap marks asOfUs := by
  constructor
  · rintro ⟨answers, _⟩
    exact (playoutLevelAt_newest_iff marks chronological asOfUs).mp answers
  · intro apart
    exact ⟨(playoutLevelAt_newest_iff marks chronological asOfUs).mpr apart,
      playoutLevelAt_eq_none_iff marks chronological asOfUs⟩

def crowdedInstant : List PlayoutMark :=
  (List.range playoutHistorySlots).map (fun slot =>
      { tsUs := 1000 * (slot + 1), total := 512 * slot }) ++
    [{ tsUs := 64000, total := 512 * 64 }]

theorem crowdedInstant_chronological : Chronological crowdedInstant :=
  ⟨by decide +kernel, by decide +kernel⟩

/-- The newest mark sits in slot 0 and the lookup answers with the one in slot 63. -/
theorem crowdedInstant_answers_older :
    Chronological crowdedInstant ∧
      playoutLevelAt (playoutHistoryOf crowdedInstant) 64000 ≠
        (newestBy 64000 (heldMarks crowdedInstant)).map PlayoutMark.total :=
  ⟨crowdedInstant_chronological, by decide +kernel⟩

theorem playoutLookup_iff_crowdedInstant :
    Chronological crowdedInstant ∧
      ((playoutLevelAt (playoutHistoryOf crowdedInstant) 64000 =
            (newestBy 64000 (heldMarks crowdedInstant)).map PlayoutMark.total ∧
          (playoutLevelAt (playoutHistoryOf crowdedInstant) 64000 = none ↔
            ∀ mark ∈ heldMarks crowdedInstant, 64000 < mark.tsUs)) ↔
        ¬ TiedAcrossWrap crowdedInstant 64000) :=
  ⟨crowdedInstant_chronological,
    playoutLookup_iff crowdedInstant crowdedInstant_chronological 64000⟩

section Alongside

/-- Two histories marked at the same instants, whose levels at each are so related. -/
def MarkedAlike (related : Int → Int → Prop) (one other : PlayoutHistory) : Prop :=
  one.next = other.next ∧
    List.Forall₂ (fun mark beside => mark.tsUs = beside.tsUs ∧
      (mark.tsUs ≠ 0 → related mark.total beside.total)) one.slots other.slots

variable {related : Int → Int → Prop}

theorem markedAlike_clear : MarkedAlike related clearPlayoutHistory clearPlayoutHistory := by
  have unused (slots : Nat) : List.Forall₂ (fun mark beside => mark.tsUs = beside.tsUs ∧
      (mark.tsUs ≠ 0 → related mark.total beside.total))
      (List.replicate slots PlayoutMark.unused) (List.replicate slots PlayoutMark.unused) := by
    induction slots with
    | zero => exact List.Forall₂.nil
    | succ slots ih => exact List.Forall₂.cons ⟨rfl, fun used => absurd rfl used⟩ ih
  exact ⟨rfl, unused playoutHistorySlots⟩

theorem MarkedAlike.imp {wider : Int → Int → Prop} {one other : PlayoutHistory}
    (alike : MarkedAlike related one other)
    (widen : ∀ total beside, related total beside → wider total beside) :
    MarkedAlike wider one other :=
  ⟨alike.1, alike.2.imp fun _ _ both => ⟨both.1, fun used => widen _ _ (both.2 used)⟩⟩

theorem forall₂_set {A B : Type} {pairs : A → B → Prop} {ones : List A} {others : List B}
    (alike : List.Forall₂ pairs ones others) (place : Nat) {one : A} {other : B}
    (pair : pairs one other) : List.Forall₂ pairs (ones.set place one) (others.set place other) := by
  induction alike generalizing place with
  | nil => exact List.Forall₂.nil
  | cons head tail ih =>
      cases place with
      | zero => exact List.Forall₂.cons pair tail
      | succ place => exact List.Forall₂.cons head (ih place)

theorem MarkedAlike.mark {one other : PlayoutHistory} (alike : MarkedAlike related one other)
    (tsUs total beside : Int) (relates : related total beside) :
    MarkedAlike related (markPlayout one tsUs total) (markPlayout other tsUs beside) := by
  refine ⟨?_, ?_⟩
  · change (one.next + 1) % playoutHistorySlots = (other.next + 1) % playoutHistorySlots
    rw [alike.1]
  · change List.Forall₂ _ (one.slots.set one.next _) (other.slots.set other.next _)
    rw [alike.1]
    exact forall₂_set alike.2 _ ⟨rfl, fun _ => relates⟩

theorem considerSlot_alike (asOfUs : Int) {mark beside : PlayoutMark}
    {best bestBeside : Option PlayoutMark}
    (slots : mark.tsUs = beside.tsUs ∧ (mark.tsUs ≠ 0 → related mark.total beside.total))
    (held : Option.Rel (fun one other : PlayoutMark => one.tsUs = other.tsUs ∧
      related one.total other.total) best bestBeside) :
    Option.Rel (fun one other : PlayoutMark => one.tsUs = other.tsUs ∧
      related one.total other.total) (considerSlot asOfUs best mark)
      (considerSlot asOfUs bestBeside beside) := by
  rw [considerSlot, considerSlot, ← slots.1]
  by_cases skipped : mark.tsUs = 0 ∨ asOfUs < mark.tsUs
  · rw [if_pos skipped, if_pos skipped]
    exact held
  · rw [if_neg skipped, if_neg skipped]
    have taken : Option.Rel (fun one other : PlayoutMark => one.tsUs = other.tsUs ∧
        related one.total other.total) (some mark) (some beside) :=
      Option.Rel.some ⟨slots.1, slots.2 (fun zero => skipped (Or.inl zero))⟩
    cases held with
    | none => exact taken
    | some pair =>
        rename_i one other
        rw [Option.all_some, Option.all_some, pair.1]
        split
        · exact taken
        · exact Option.Rel.some pair

/-- The lookup chooses by instants only, so it finds the levels of one mark. -/
theorem MarkedAlike.levels {one other : PlayoutHistory} (alike : MarkedAlike related one other)
    (asOfUs level : Int) (found : playoutLevelAt one asOfUs = some level) :
    ∃ beside, playoutLevelAt other asOfUs = some beside ∧ related level beside := by
  have scanned (marks besides : List PlayoutMark) (best bestBeside : Option PlayoutMark)
      (pairs : List.Forall₂ (fun mark beside => mark.tsUs = beside.tsUs ∧
        (mark.tsUs ≠ 0 → related mark.total beside.total)) marks besides)
      (held : Option.Rel (fun one other : PlayoutMark => one.tsUs = other.tsUs ∧
        related one.total other.total) best bestBeside) :
      Option.Rel (fun one other : PlayoutMark => one.tsUs = other.tsUs ∧
        related one.total other.total) (marks.foldl (considerSlot asOfUs) best)
        (besides.foldl (considerSlot asOfUs) bestBeside) := by
    induction pairs generalizing best bestBeside with
    | nil => exact held
    | cons slots _ ih => exact ih _ _ (considerSlot_alike asOfUs slots held)
  have both := scanned _ _ none none alike.2 Option.Rel.none
  rw [playoutLevelAt, Option.map_eq_some_iff] at found
  obtain ⟨mark, chosen, rfl⟩ := found
  rw [chosen] at both
  obtain ⟨beside, besideChosen, pair⟩ : ∃ beside,
      other.slots.foldl (considerSlot asOfUs) none = some beside ∧
        (mark.tsUs = beside.tsUs ∧ related mark.total beside.total) := by
    generalize other.slots.foldl (considerSlot asOfUs) none = chosenBeside at both
    cases both with
    | some pair => exact ⟨_, rfl, pair⟩
  exact ⟨beside.total, by rw [playoutLevelAt, besideChosen, Option.map_some], pair.2⟩

end Alongside

end Player
