import Mathlib.Data.List.Nodup
import Mathlib.Data.List.Perm.Basic

/-! Lists of slots that are distinct by a key, read against the members of a group that each
have one slot: whatever the order of the slots, they hold the members' values. -/

namespace KeyedList

variable {Slot Key Member Value : Type}

/-- Every member has a slot with its value, and no other slot has one. -/
structure Holds (key : Slot → Key) (value : Slot → Option Value) (name : Member → Key)
    (expected : Member → Value) (slots : List Slot) (members : List Member) : Prop where
  present : ∀ member ∈ members,
    ∃ slot ∈ slots, key slot = name member ∧ value slot = some (expected member)
  others : ∀ slot ∈ slots, (∀ member ∈ members, key slot ≠ name member) → value slot = none

variable {key : Slot → Key} {value : Slot → Option Value} {name : Member → Key}
  {expected : Member → Value}

theorem Holds.skip {head : Slot} {tail : List Slot} {members : List Member}
    (holds : Holds key value name expected (head :: tail) members)
    (apart : ∀ member ∈ members, key head ≠ name member) :
    Holds key value name expected tail members := by
  constructor
  · intro member within
    obtain ⟨slot, there, named, valued⟩ := holds.present member within
    rcases List.mem_cons.mp there with rfl | later
    · exact absurd named (apart member within)
    · exact ⟨slot, later, named, valued⟩
  · intro slot there
    exact holds.others slot (List.mem_cons_of_mem head there)

theorem Holds.take {head : Slot} {tail : List Slot} {member : Member} {early late : List Member}
    (holds : Holds key value name expected (head :: tail) (early ++ member :: late))
    (named : key head = name member) (slotsApart : key head ∉ tail.map key)
    (membersApart : ∀ other ∈ early ++ late, name other ≠ name member) :
    Holds key value name expected tail (early ++ late) := by
  have widen : ∀ other ∈ early ++ late, other ∈ early ++ member :: late := by
    intro other within
    rcases List.mem_append.mp within with before | after
    · exact List.mem_append_left _ before
    · exact List.mem_append_right _ (List.mem_cons_of_mem member after)
  constructor
  · intro other within
    obtain ⟨slot, there, slotNamed, valued⟩ := holds.present other (widen other within)
    rcases List.mem_cons.mp there with rfl | later
    · exact absurd (slotNamed.symm.trans named) (membersApart other within)
    · exact ⟨slot, later, slotNamed, valued⟩
  · intro slot there unnamed
    apply holds.others slot (List.mem_cons_of_mem head there)
    intro other within
    rcases List.mem_append.mp within with before | after
    · exact unnamed other (List.mem_append_left _ before)
    · rcases List.mem_cons.mp after with rfl | later
      · intro same
        exact slotsApart (List.mem_map.mpr ⟨slot, there, same.trans named.symm⟩)
      · exact unnamed other (List.mem_append_right _ later)

theorem filterMap_perm (slots : List Slot) (members : List Member)
    (slotsDistinct : (slots.map key).Nodup) (membersDistinct : (members.map name).Nodup)
    (holds : Holds key value name expected slots members) :
    (slots.filterMap value).Perm (members.map expected) := by
  induction slots generalizing members with
  | nil =>
      cases members with
      | nil => exact List.Perm.refl _
      | cons member rest =>
          obtain ⟨slot, there, _⟩ := holds.present member List.mem_cons_self
          cases there
  | cons head tail ih =>
      rw [List.map_cons, List.nodup_cons] at slotsDistinct
      by_cases known : ∃ member ∈ members, key head = name member
      · obtain ⟨member, within, named⟩ := known
        obtain ⟨slot, there, slotNamed, valued⟩ := holds.present member within
        have atHead : slot = head := by
          rcases List.mem_cons.mp there with same | later
          · exact same
          · exact absurd (List.mem_map.mpr ⟨slot, later, slotNamed.trans named.symm⟩)
              slotsDistinct.1
        rw [atHead] at valued
        obtain ⟨early, late, rfl⟩ := List.append_of_mem within
        have middle : (early ++ member :: late).Perm (member :: (early ++ late)) :=
          List.perm_middle
        have distinct := (middle.map name).nodup_iff.mp membersDistinct
        rw [List.map_cons, List.nodup_cons] at distinct
        have rest := ih (early ++ late) slotsDistinct.2 distinct.2
          (holds.take named slotsDistinct.1 fun other member same =>
            distinct.1 (List.mem_map.mpr ⟨other, member, same⟩))
        rw [List.filterMap_cons_some valued]
        exact (rest.cons (expected member)).trans (middle.map expected).symm
      · have apart : ∀ member ∈ members, key head ≠ name member :=
          fun member within same => known ⟨member, within, same⟩
        rw [List.filterMap_cons_none (holds.others head List.mem_cons_self apart)]
        exact ih members slotsDistinct.2 membersDistinct (holds.skip apart)

end KeyedList
