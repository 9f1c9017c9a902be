import SnapcastSync.ClockSync.Contribution

/-! The array behind the peer table: `find_peer_` as the loop over the eight slots that it is,
and the table as what that loop keeps of them. -/

namespace ClockSync

variable {K : Type}

/-- One element of `peer_`. -/
structure PeerSlot (K : Type) where
  used : Bool
  peer : Peer K

/-- `Peer{}`. -/
def PeerSlot.unused [Zero K] : PeerSlot K :=
  { used := false
    peer :=
      { mac := Vector.replicate 6 0
        seenUs := 0
        phaseUs := 0
        phaseSeenUs := 0
        biasUs := 0
        biasSeenUs := 0
        commonErrUs := 0
        commonSeenUs := 0
        mapValid := false
        mapSeenUs := 0
        tsfBaseUs := 0
        tmsBaseUs := 0
        driftPpm := 0
        pipelineUs := 0
        crystalPpm := some 0 } }

def PeerSlot.of (peer : Peer K) : PeerSlot K :=
  { used := true
    peer := peer }

/-- How the loop of `find_peer_` ends: at the sender's slot, at an unused one, or past the last,
with the stalest it has passed. -/
inductive PeerSearch where
  | known (slot : Nat)
  | vacant (slot : Nat)
  | stalest (slot : Nat)
deriving DecidableEq

def searchPeer (mac : Mac) : List (PeerSlot K) → Nat → Nat → Int → PeerSearch
  | [], _, oldest, _ => .stalest oldest
  | slot :: rest, at_, oldest, oldestSeenUs =>
      if slot.used = true ∧ slot.peer.mac = mac then .known at_
      else if slot.used = false then .vacant at_
      else if slot.peer.seenUs < oldestSeenUs then
        searchPeer mac rest (at_ + 1) at_ slot.peer.seenUs
      else searchPeer mac rest (at_ + 1) oldest oldestSeenUs

/-- `find_peer_`: the array it leaves and the slot that it points to. -/
def findPeerSlot [Zero K] (slots : List (PeerSlot K)) (mac : Mac) (localNowUs : Int) :
    List (PeerSlot K) × Nat :=
  match searchPeer mac slots 0 0 ((slots.head?.map fun slot => slot.peer.seenUs).getD 0) with
  | .known slot => (slots, slot)
  | .vacant slot => (slots.set slot (.of (Peer.fresh mac localNowUs)), slot)
  | .stalest slot => (slots.set slot (.of (Peer.evicted mac localNowUs)), slot)

namespace PeerTable

/-- The array of a table: its slots, and unused ones behind them. -/
def layout [Zero K] (table : PeerTable K) : List (PeerSlot K) :=
  table.slots.map .of ++ List.replicate (maxPeers - table.slots.length) .unused

def slotOf (table : PeerTable K) (mac : Mac) : Nat :=
  table.slots.findIdx fun peer => peer.mac = mac

theorem slotOf_mem (table : PeerTable K) (mac : Mac)
    (known : ∃ peer ∈ table.slots, peer.mac = mac) :
    ∃ peer, table.slots[table.slotOf mac]? = some peer ∧ peer.mac = mac := by
  obtain ⟨peer, member, named⟩ := known
  have found : table.slotOf mac < table.slots.length :=
    List.findIdx_lt_length_of_exists ⟨peer, member, decide_eq_true named⟩
  exact ⟨table.slots[table.slotOf mac], List.getElem?_eq_getElem found,
    of_decide_eq_true (List.findIdx_getElem (w := found))⟩

theorem slot_inj (table : PeerTable K) {one other : Nat} {left right : Peer K}
    (leftAt : table.slots[one]? = some left) (rightAt : table.slots[other]? = some right)
    (same : left.mac = right.mac) : one = other := by
  have inside : one < (table.slots.map Peer.mac).length := by
    rw [List.length_map]
    exact (List.getElem?_eq_some_iff.mp leftAt).1
  refine (List.getElem?_inj inside table.distinct).mp ?_
  rw [List.getElem?_map, List.getElem?_map, leftAt, rightAt, Option.map_some, Option.map_some,
    same]

theorem slotOf_eq (table : PeerTable K) (mac : Mac) (slot : Nat) (peer : Peer K)
    (here : table.slots[slot]? = some peer) (named : peer.mac = mac) : table.slotOf mac = slot := by
  obtain ⟨found, foundAt, foundNamed⟩ :=
    table.slotOf_mem mac ⟨peer, List.mem_of_getElem? here, named⟩
  exact table.slot_inj foundAt here (foundNamed.trans named.symm)

end PeerTable

/-- The stalest slot of those passed so far, with the time that it was seen. -/
def passSlots : List (Peer K) → Nat → Nat × Int → Nat × Int
  | [], _, oldest => oldest
  | peer :: rest, at_, oldest =>
      passSlots rest (at_ + 1) (if peer.seenUs < oldest.2 then (at_, peer.seenUs) else oldest)

theorem searchPeer_pass (mac : Mac) (front : List (Peer K)) (rest : List (PeerSlot K)) (at_ : Nat)
    (oldest : Nat × Int) (absent : ∀ other ∈ front, other.mac ≠ mac) :
    searchPeer mac (front.map .of ++ rest) at_ oldest.1 oldest.2 =
      searchPeer mac rest (at_ + front.length) (passSlots front at_ oldest).1
        (passSlots front at_ oldest).2 := by
  induction front generalizing at_ oldest with
  | nil => rfl
  | cons peer front ih =>
      have other := absent peer List.mem_cons_self
      have later := fun held member => absent held (List.mem_cons_of_mem peer member)
      rw [List.map_cons, List.cons_append, searchPeer, if_neg (fun both => other both.2),
        if_neg (fun unused => nomatch unused), passSlots, List.length_cons,
        Nat.add_comm front.length, ← Nat.add_assoc]
      by_cases stale : peer.seenUs < oldest.2
      · rw [if_pos (by exact stale), if_pos stale]
        exact ih (at_ + 1) (at_, peer.seenUs) later
      · rw [if_neg (by exact stale), if_neg stale]
        exact ih (at_ + 1) oldest later

theorem passSlots_spec (slots rest : List (Peer K)) (at_ : Nat) (oldest : Nat × Int)
    (start : Peer K) (startAt : slots[oldest.1]? = some start) (seen : oldest.2 = start.seenUs)
    (aligned : ∀ place, slots[at_ + place]? = rest[place]?) :
    slots[(passSlots rest at_ oldest).1]? = some (PeerTable.oldest start rest) := by
  induction rest generalizing at_ oldest start with
  | nil => exact startAt
  | cons peer rest ih =>
      have here := aligned 0
      have later : ∀ place, slots[at_ + 1 + place]? = rest[place]? := by
        intro place
        have next := aligned (place + 1)
        rw [List.getElem?_cons_succ] at next
        rw [← next, Nat.add_assoc, Nat.add_comm 1]
      rw [Nat.add_zero, List.getElem?_cons_zero] at here
      rw [passSlots, PeerTable.oldest, List.foldl_cons, seen]
      by_cases stale : peer.seenUs < start.seenUs
      · rw [if_pos stale, if_pos stale]
        exact ih (at_ + 1) (at_, peer.seenUs) peer here rfl later
      · rw [if_neg stale, if_neg stale]
        exact ih (at_ + 1) oldest start startAt seen later

namespace PeerTable

section FindPeer

variable [Zero K] (table : PeerTable K) (mac : Mac) (localNowUs : Int)

theorem findPeer_eq_self (known : ∃ peer ∈ table.slots, peer.mac = mac) :
    table.findPeer mac localNowUs = table := by
  unfold findPeer
  rw [dif_pos known]

theorem findPeer_set (unknown : ¬ ∃ peer ∈ table.slots, peer.mac = mac)
    (full : ¬ table.slots.length < maxPeers) (head : Peer K) (tail : List (Peer K))
    (listed : table.slots = head :: tail) (victim : Nat)
    (stalest : table.slots[victim]? = some (oldest head tail)) :
    (table.findPeer mac localNowUs).slots =
      table.slots.set victim (Peer.evicted mac localNowUs) := by
  rw [findPeer_full table mac localNowUs unknown full head tail listed]
  apply List.ext_getElem?
  intro slot
  rw [List.getElem?_map, List.getElem?_set]
  have within := (List.getElem?_eq_some_iff.mp stalest).1
  by_cases here : victim = slot
  · rw [if_pos here, ← here, if_pos within, stalest, Option.map_some, if_pos rfl]
  · rw [if_neg here]
    cases held : table.slots[slot]? with
    | none => rfl
    | some peer =>
        have other : peer.mac ≠ (oldest head tail).mac :=
          fun same => here (table.slot_inj stalest held same.symm)
        rw [Option.map_some, if_neg other]

def victimSlot : Nat :=
  (passSlots table.slots 0 (0, (table.slots.head?.map Peer.seenUs).getD 0)).1

omit [Zero K] in
theorem victimSlot_spec (head : Peer K) (tail : List (Peer K))
    (listed : table.slots = head :: tail) :
    table.slots[table.victimSlot]? = some (oldest head tail) := by
  rw [victimSlot, listed]
  have start := passSlots_spec (head :: tail) (head :: tail) 0 (0, head.seenUs) head rfl rfl
    (fun place => by rw [Nat.zero_add])
  rw [oldest, List.foldl_cons, if_neg (lt_irrefl _)] at start
  exact start

theorem layout_head : (table.layout.head?.map fun slot => slot.peer.seenUs).getD 0 =
    (table.slots.head?.map Peer.seenUs).getD 0 := by
  rw [layout]
  cases table.slots with
  | nil => rfl
  | cons head tail => rfl

theorem findPeerSlot_known (known : ∃ peer ∈ table.slots, peer.mac = mac) :
    findPeerSlot table.layout mac localNowUs = (table.layout, table.slotOf mac) := by
  obtain ⟨peer, here, named⟩ := table.slotOf_mem mac known
  obtain ⟨within, present⟩ := List.getElem?_eq_some_iff.mp here
  have absent : ∀ other ∈ table.slots.take (table.slotOf mac), other.mac ≠ mac := by
    intro other member same
    obtain ⟨place, earlier, at_⟩ := List.getElem_of_mem member
    rw [List.length_take] at earlier
    rw [List.getElem_take] at at_
    have found := table.slotOf_eq mac place other
      (List.getElem?_eq_some_iff.mpr ⟨by omega, at_⟩) same
    omega
  have split : table.layout = (table.slots.take (table.slotOf mac)).map .of ++
      (.of peer :: ((table.slots.drop (table.slotOf mac + 1)).map .of ++
        List.replicate (maxPeers - table.slots.length) .unused)) := by
    rw [layout, ← List.cons_append, ← List.map_cons, ← present, ← List.drop_eq_getElem_cons within,
      ← List.append_assoc, ← List.map_append, List.take_append_drop]
  have searched : searchPeer mac table.layout 0 0
      ((table.layout.head?.map fun slot => slot.peer.seenUs).getD 0) =
        .known (table.slotOf mac) := by
    rw [split, searchPeer_pass mac _ _ 0 (0, _) absent, searchPeer, if_pos ⟨rfl, named⟩,
      List.length_take, Nat.min_eq_left within.le, Nat.zero_add]
  rw [findPeerSlot, searched]

theorem findPeerSlot_vacant (unknown : ¬ ∃ peer ∈ table.slots, peer.mac = mac)
    (vacant : table.slots.length < maxPeers) :
    findPeerSlot table.layout mac localNowUs =
      ((table.findPeer mac localNowUs).layout, table.slots.length) := by
  have slots := findPeer_vacant table mac localNowUs unknown vacant
  have absent : ∀ other ∈ table.slots, other.mac ≠ mac :=
    fun other member same => unknown ⟨other, member, same⟩
  obtain ⟨room, spare⟩ := Nat.exists_eq_succ_of_ne_zero (Nat.sub_ne_zero_of_lt vacant)
  have searched : searchPeer mac table.layout 0 0
      ((table.layout.head?.map fun slot => slot.peer.seenUs).getD 0) =
        .vacant table.slots.length := by
    rw [layout, searchPeer_pass mac _ _ 0 (0, _) absent, spare, List.replicate_succ, searchPeer,
      if_neg (fun both => nomatch both.1),
      if_pos (show (PeerSlot.unused : PeerSlot K).used = false from rfl), Nat.zero_add]
  have fewer : maxPeers - (table.slots.length + 1) = room := by omega
  rw [findPeerSlot, searched]
  dsimp only
  rw [layout, layout, slots, spare, List.replicate_succ, List.set_append_right _ _
    (by rw [List.length_map]), List.length_map, Nat.sub_self, List.set_cons_zero, List.map_append,
    List.length_append, List.length_singleton, fewer, List.append_assoc]
  rfl

theorem findPeerSlot_stalest (unknown : ¬ ∃ peer ∈ table.slots, peer.mac = mac)
    (full : ¬ table.slots.length < maxPeers) :
    findPeerSlot table.layout mac localNowUs =
      ((table.findPeer mac localNowUs).layout, table.victimSlot) := by
  have absent : ∀ other ∈ table.slots, other.mac ≠ mac :=
    fun other member same => unknown ⟨other, member, same⟩
  have whole : table.layout = table.slots.map .of ++ [] := by
    rw [layout, Nat.sub_eq_zero_of_le (Nat.le_of_not_lt full)]
    rfl
  have searched : searchPeer mac table.layout 0 0
      ((table.layout.head?.map fun slot => slot.peer.seenUs).getD 0) =
        .stalest table.victimSlot := by
    rw [layout_head, whole, searchPeer_pass mac _ _ 0 (0, _) absent, searchPeer, victimSlot]
  have some_ : table.slots ≠ [] := by
    intro none_
    rw [none_, List.length_nil] at full
    exact full (by decide)
  obtain ⟨head, tail, listed⟩ := List.exists_cons_of_ne_nil some_
  have slots := table.findPeer_set mac localNowUs unknown full head tail listed _
    (table.victimSlot_spec head tail listed)
  have after : (table.findPeer mac localNowUs).layout =
      (table.slots.set table.victimSlot (Peer.evicted mac localNowUs)).map .of := by
    rw [layout, slots, List.length_set, Nat.sub_eq_zero_of_le (Nat.le_of_not_lt full),
      List.replicate_zero, List.append_nil]
  rw [findPeerSlot, searched, after, List.map_set, whole, List.append_nil]

/-- The slot that `find_peer_` points to. -/
def takenSlot : Nat :=
  if ∃ peer ∈ table.slots, peer.mac = mac then table.slotOf mac
  else if table.slots.length < maxPeers then table.slots.length
  else table.victimSlot

/-- The loop over the array does to it what `findPeer` does to the table. -/
theorem findPeerSlot_layout :
    findPeerSlot table.layout mac localNowUs =
      ((table.findPeer mac localNowUs).layout, table.takenSlot mac) := by
  rw [takenSlot]
  by_cases known : ∃ peer ∈ table.slots, peer.mac = mac
  · rw [if_pos known, table.findPeer_eq_self mac localNowUs known]
    exact table.findPeerSlot_known mac localNowUs known
  · rw [if_neg known]
    by_cases vacant : table.slots.length < maxPeers
    · rw [if_pos vacant]
      exact table.findPeerSlot_vacant mac localNowUs known vacant
    · rw [if_neg vacant]
      exact table.findPeerSlot_stalest mac localNowUs known vacant

theorem layout_used (slot : Nat) (held : PeerSlot K) (here : table.layout[slot]? = some held) :
    held.used = true ↔ slot < table.slots.length := by
  rw [layout] at here
  rcases Nat.lt_or_ge slot table.slots.length with inside | behind
  · rw [List.getElem?_append_left (by rwa [List.length_map]), List.getElem?_map] at here
    obtain ⟨peer, _, rfl⟩ := Option.map_eq_some_iff.mp here
    exact iff_of_true rfl inside
  · rw [List.getElem?_append_right (by rwa [List.length_map]), List.getElem?_replicate] at here
    split at here
    · cases here
      exact iff_of_false (fun used => nomatch used) (Nat.not_lt.mpr behind)
    · cases here

theorem layout_distinct (one other : Nat) (left right : PeerSlot K)
    (leftAt : table.layout[one]? = some left) (rightAt : table.layout[other]? = some right)
    (leftUsed : left.used = true) (rightUsed : right.used = true)
    (same : left.peer.mac = right.peer.mac) : one = other := by
  have oneInside := (table.layout_used one left leftAt).mp leftUsed
  have otherInside := (table.layout_used other right rightAt).mp rightUsed
  rw [layout, List.getElem?_append_left (by rwa [List.length_map]), List.getElem?_map] at leftAt
  rw [layout, List.getElem?_append_left (by rwa [List.length_map]), List.getElem?_map] at rightAt
  obtain ⟨leftPeer, leftHere, rfl⟩ := Option.map_eq_some_iff.mp leftAt
  obtain ⟨rightPeer, rightHere, rfl⟩ := Option.map_eq_some_iff.mp rightAt
  exact table.slot_inj leftHere rightHere same

theorem findPeer_slots :
    (∀ slot, slot ≠ table.takenSlot mac →
      (table.findPeer mac localNowUs).slots[slot]? = table.slots[slot]?) ∧
    ((∃ peer, peer.mac = mac ∧ table.slots[table.takenSlot mac]? = some peer ∧
        (table.findPeer mac localNowUs).slots[table.takenSlot mac]? = some peer) ∨
      ((¬ ∃ peer ∈ table.slots, peer.mac = mac) ∧ table.slots.length < maxPeers ∧
        table.slots[table.takenSlot mac]? = none ∧
        (table.findPeer mac localNowUs).slots[table.takenSlot mac]? =
          some (Peer.fresh mac localNowUs)) ∨
      ((¬ ∃ peer ∈ table.slots, peer.mac = mac) ∧ ¬ table.slots.length < maxPeers ∧
        (∃ victim ∈ table.slots, table.slots[table.takenSlot mac]? = some victim) ∧
        (table.findPeer mac localNowUs).slots[table.takenSlot mac]? =
          some (Peer.evicted mac localNowUs))) := by
  rw [takenSlot]
  by_cases known : ∃ peer ∈ table.slots, peer.mac = mac
  · rw [if_pos known, table.findPeer_eq_self mac localNowUs known]
    obtain ⟨peer, here, named⟩ := table.slotOf_mem mac known
    exact ⟨fun _ _ => rfl, Or.inl ⟨peer, named, here, here⟩⟩
  · rw [if_neg known]
    by_cases vacant : table.slots.length < maxPeers
    · rw [if_pos vacant, findPeer_vacant table mac localNowUs known vacant]
      refine ⟨fun slot other => ?_, Or.inr (Or.inl ⟨known, vacant,
        List.getElem?_eq_none le_rfl, List.getElem?_concat_length⟩)⟩
      rcases Nat.lt_or_ge slot table.slots.length with inside | behind
      · exact List.getElem?_append_left inside
      · rw [List.getElem?_eq_none behind, List.getElem?_eq_none]
        rw [List.length_append, List.length_singleton]
        omega
    · have some_ : table.slots ≠ [] := by
        intro none_
        rw [none_, List.length_nil] at vacant
        exact vacant (by decide)
      obtain ⟨head, tail, listed⟩ := List.exists_cons_of_ne_nil some_
      have stalest := table.victimSlot_spec head tail listed
      have inside := (List.getElem?_eq_some_iff.mp stalest).1
      rw [if_neg vacant, table.findPeer_set mac localNowUs known vacant head tail listed _ stalest]
      refine ⟨fun slot other => ?_, Or.inr (Or.inr ⟨known, vacant,
        ⟨_, List.mem_of_getElem? stalest, stalest⟩, ?_⟩)⟩
      · rw [List.getElem?_set_ne (fun same => other same.symm)]
      · rw [List.getElem?_set_self inside]

end FindPeer

end PeerTable

end ClockSync
