import Mathlib.Data.List.Basic
import Mathlib.Data.List.Nodup

/-! A ring of slots that each append overwrites in turn. Read from the slot the next append goes
to, the ring is a sliding window on what was appended: its oldest entry leaves, the new one
joins at the end. -/

structure SlotRing (A : Type) (size : Nat) where
  slots : List A
  next : Nat
  full : slots.length = size
  inside : next < size

namespace SlotRing

variable {A : Type} {size : Nat}

def blank (empty : A) (positive : 0 < size) : SlotRing A size :=
  { slots := List.replicate size empty
    next := 0
    full := List.length_replicate
    inside := positive }

def append (ring : SlotRing A size) (item : A) : SlotRing A size :=
  { slots := ring.slots.set ring.next item
    next := (ring.next + 1) % size
    full := by rw [List.length_set, ring.full]
    inside := Nat.mod_lt _ (Nat.zero_lt_of_lt ring.inside) }

def window (ring : SlotRing A size) : List A :=
  ring.slots.drop ring.next ++ ring.slots.take ring.next

@[simp] theorem length_window (ring : SlotRing A size) : ring.window.length = size := by
  have full := ring.full
  have inside := ring.inside
  rw [window, List.length_append, List.length_drop, List.length_take]
  omega

@[simp] theorem window_blank (empty : A) (positive : 0 < size) :
    (blank empty positive).window = List.replicate size empty := by
  simp [window, blank]

theorem window_append (ring : SlotRing A size) (item : A) :
    (ring.append item).window = ring.window.tail ++ [item] := by
  have full := ring.full
  have inside := ring.inside
  have within : ring.next < ring.slots.length := by omega
  rcases Nat.lt_or_ge (ring.next + 1) size with room | last
  · have stays : (ring.next + 1) % size = ring.next + 1 := Nat.mod_eq_of_lt room
    simp only [window, append, stays]
    rw [List.drop_set_of_lt (Nat.lt_succ_self _), List.drop_eq_getElem_cons within,
      List.cons_append, List.tail_cons, List.append_assoc]
    congr 1
    rw [List.take_set, List.take_succ_eq_append_getElem within,
      List.set_append_right _ _ (by rw [List.length_take]; omega), List.length_take,
      Nat.min_eq_left (Nat.le_of_lt within), Nat.sub_self, List.set_cons_zero]
  · have whole : ring.next + 1 = size := by omega
    have wraps : (ring.next + 1) % size = 0 := by rw [whole, Nat.mod_self]
    simp only [window, append, wraps, List.drop_zero, List.take_zero, List.append_nil]
    rw [List.drop_eq_getElem_cons within, List.drop_eq_nil_of_le (by omega),
      List.cons_append, List.nil_append, List.tail_cons, List.set_eq_take_append_cons_drop,
      if_pos within, List.drop_eq_nil_of_le (by omega)]

theorem window_appends (ring : SlotRing A size) (items : List A) :
    (items.foldl append ring).window = (ring.window ++ items).drop items.length := by
  induction items generalizing ring with
  | nil => simp
  | cons item rest ih =>
      rw [List.foldl_cons, ih, window_append, List.append_assoc, List.singleton_append]
      have filled : 0 < ring.window.length := by
        rw [length_window]; exact Nat.zero_lt_of_lt ring.inside
      obtain ⟨oldest, later, shape⟩ := List.exists_cons_of_length_pos filled
      rw [shape, List.tail_cons, List.cons_append, List.length_cons, List.drop_succ_cons]

theorem next_appends (ring : SlotRing A size) (items : List A) :
    (items.foldl append ring).next = (ring.next + items.length) % size := by
  induction items generalizing ring with
  | nil => exact (Nat.mod_eq_of_lt ring.inside).symm
  | cons item rest ih =>
      rw [List.foldl_cons, ih, List.length_cons]
      dsimp only [append]
      rw [Nat.mod_add_mod, Nat.add_assoc, Nat.add_comm 1]

/-- With stamps that count the appends: a slot holds the latest of the items whose turn fell to
it. -/
def Latest (stamp : A → Nat) (count : Nat) (ring : SlotRing A size) : Prop :=
  ring.next = count % size ∧
    ∀ (slot : Nat) (item : A), ring.slots[slot]? = some item → slot < count →
      stamp item % size = slot ∧ stamp item < count ∧ count ≤ stamp item + size

theorem latest_blank (stamp : A → Nat) (empty : A) (positive : 0 < size) :
    (blank empty positive).Latest stamp 0 := by
  refine ⟨(Nat.zero_mod size).symm, fun slot item _ early => ?_⟩
  exact absurd early (Nat.not_lt_zero slot)

theorem latest_append (stamp : A → Nat) (count : Nat) (ring : SlotRing A size) (item : A)
    (stamped : stamp item = count) (latest : ring.Latest stamp count) :
    (ring.append item).Latest stamp (count + 1) := by
  obtain ⟨next, held⟩ := latest
  constructor
  · rw [append]
    dsimp only
    rw [next, Nat.mod_add_mod]
  · intro slot other present early
    have bound : slot < size := by
      have within := (List.getElem?_eq_some_iff.mp present).1
      rw [append, List.length_set, ring.full] at within
      exact within
    rw [append] at present
    dsimp only at present
    by_cases here : ring.next = slot
    · rw [here, List.getElem?_set_self (ring.full.symm ▸ bound)] at present
      cases present
      rw [stamped]
      exact ⟨next.symm.trans here, Nat.lt_succ_self count, by omega⟩
    · rw [List.getElem?_set_ne here] at present
      have written : slot < count := by
        rcases Nat.lt_or_ge slot count with before | now
        · exact before
        · have same : slot = count := by omega
          rw [next, ← same, Nat.mod_eq_of_lt bound] at here
          exact absurd rfl here
      obtain ⟨turn, before, recent⟩ := held slot other present written
      refine ⟨turn, by omega, ?_⟩
      by_contra stale
      have whole : stamp other + size = count := by omega
      rw [next, ← whole, Nat.add_mod_right] at here
      exact here turn

theorem latest_take_nodup (stamp : A → Nat) (count : Nat) (ring : SlotRing A size)
    (latest : ring.Latest stamp count) (length : Nat) (written : length ≤ count) :
    ((ring.slots.take length).map stamp).Nodup := by
  have turn (slot : Nat) (item : A) (present : (ring.slots.take length)[slot]? = some item) :
      stamp item % size = slot := by
    rw [List.getElem?_take] at present
    split at present
    · rename_i within
      exact (latest.2 slot item present (by omega)).1
    · cases present
  rw [List.nodup_iff_getElem?_ne_getElem?]
  intro one other earlier within same
  rw [List.length_map] at within
  have otherAt := List.getElem?_eq_getElem within
  have oneAt := List.getElem?_eq_getElem (Nat.lt_trans earlier within)
  rw [List.getElem?_map, List.getElem?_map, oneAt, otherAt, Option.map_some, Option.map_some,
    Option.some_inj] at same
  have oneTurn := turn one _ oneAt
  rw [same, turn other _ otherAt] at oneTurn
  omega

theorem getElem?_window (ring : SlotRing A size) (place : Nat) (within : place < size) :
    ring.window[place]? = ring.slots[(ring.next + place) % size]? := by
  have full := ring.full
  have inside := ring.inside
  rw [window]
  rcases Nat.lt_or_ge (ring.next + place) size with straight | wrapped
  · rw [List.getElem?_append_left (by rw [List.length_drop]; omega), List.getElem?_drop,
      Nat.mod_eq_of_lt straight]
  · rw [List.getElem?_append_right (by rw [List.length_drop]; omega), List.length_drop,
      List.getElem?_take_of_lt (by omega), Nat.mod_eq_sub_mod wrapped, Nat.mod_eq_of_lt (by omega)]
    congr 1
    omega

/-- Slot order: the newest entries, from slot 0 up to the next append, stand before the older
ones. -/
theorem slots_eq (ring : SlotRing A size) :
    ring.slots = ring.window.drop (size - ring.next) ++ ring.window.take (size - ring.next) := by
  have full := ring.full
  have inside := ring.inside
  have tailLength : (ring.slots.drop ring.next).length = size - ring.next := by
    rw [List.length_drop, full]
  rw [window, ← tailLength, List.drop_left, List.take_left, List.take_append_drop]

end SlotRing
