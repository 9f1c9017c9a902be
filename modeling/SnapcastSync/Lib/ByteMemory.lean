import Mathlib.Algebra.Group.Nat.Defs
import Mathlib.Data.List.Basic
import Mathlib.Logic.Function.Basic

/-! A memory of 32-bit addresses, which wrap around. -/

namespace ByteMemory

variable {V : Type}

def store (memory : UInt32 → V) (address : UInt32) : List V → UInt32 → V
  | [] => memory
  | value :: rest => store (Function.update memory address value) (address + 1) rest

def load (memory : UInt32 → V) (address : UInt32) : Nat → List V
  | 0 => []
  | count + 1 => memory address :: load memory (address + 1) count

@[simp] theorem store_nil (memory : UInt32 → V) (address : UInt32) :
    store memory address [] = memory := rfl

theorem add_ofNat_succ (address : UInt32) (count : Nat) :
    address + 1 + UInt32.ofNat count = address + UInt32.ofNat (count + 1) := by
  rw [UInt32.add_assoc, Nat.add_comm count, UInt32.ofNat_add]
  rfl

theorem store_append (memory : UInt32 → V) (address : UInt32) (early late : List V) :
    store memory address (early ++ late) =
      store (store memory address early) (address + UInt32.ofNat early.length) late := by
  induction early generalizing memory address with
  | nil =>
      rw [List.nil_append, List.length_nil, store_nil]
      exact congrArg (fun start => store memory start late) (UInt32.add_zero address).symm
  | cons value rest ih =>
      rw [List.cons_append, store, ih, store, List.length_cons, add_ofNat_succ]

/-- The same from an offset on, so that the offsets add up. -/
theorem store_append_at (memory : UInt32 → V) (address offset : UInt32) (early late : List V) :
    store memory (address + offset) (early ++ late) =
      store (store memory (address + offset) early)
        (address + (offset + UInt32.ofNat early.length)) late := by
  rw [store_append, UInt32.add_assoc]

theorem load_append (memory : UInt32 → V) (address : UInt32) (early late : Nat) :
    load memory address (early + late) =
      load memory address early ++ load memory (address + UInt32.ofNat early) late := by
  induction early generalizing address with
  | zero =>
      rw [Nat.zero_add, load, List.nil_append]
      exact congrArg (fun start => load memory start late) (UInt32.add_zero address).symm
  | succ early ih =>
      rw [Nat.add_right_comm, load, ih, load, List.cons_append, add_ofNat_succ]

theorem load_append_at (memory : UInt32 → V) (address offset : UInt32) (early late : Nat) :
    load memory (address + offset) (early + late) =
      load memory (address + offset) early ++
        load memory (address + (offset + UInt32.ofNat early)) late := by
  rw [load_append, UInt32.add_assoc]

theorem store_apart (memory : UInt32 → V) (address other : UInt32) (values : List V)
    (apart : ∀ index < values.length, other ≠ address + UInt32.ofNat index) :
    store memory address values other = memory other := by
  induction values generalizing memory address with
  | nil => rfl
  | cons value rest ih =>
      have first : other ≠ address := by
        have differs := apart 0 (Nat.zero_lt_succ _)
        rwa [show UInt32.ofNat 0 = 0 from rfl, UInt32.add_zero] at differs
      rw [store, ih, Function.update_of_ne first]
      intro index below
      rw [add_ofNat_succ]
      exact apart (index + 1) (Nat.succ_lt_succ below)

theorem load_store (memory : UInt32 → V) (address : UInt32) (values : List V)
    (fits : values.length ≤ 2 ^ 32) :
    load (store memory address values) address values.length = values := by
  induction values generalizing memory address with
  | nil => rfl
  | cons value rest ih =>
      rw [List.length_cons] at fits
      have first : store memory address (value :: rest) address = value := by
        rw [store, store_apart, Function.update_self]
        intro index below same
        rw [add_ofNat_succ] at same
        have zero : UInt32.ofNat (index + 1) = 0 := UInt32.left_eq_add.mp same
        have value := congrArg UInt32.toNat zero
        rw [UInt32.toNat_ofNat', Nat.mod_eq_of_lt (by omega)] at value
        cases value
      rw [List.length_cons, load, first, store, ih _ _ (by omega)]

end ByteMemory
