import Mathlib.Data.List.TakeWhile
import SnapcastSync.Lib.Rounding

/-! Texts as C and its library handle them. A text is the list of its bytes, each of them the
character with that code; a position is a number of bytes. -/

namespace CText

open Rounding

abbrev Text := List Char

def nul : Char := Char.ofNat 0

/-- What is seen of a text through a pointer to its first byte. -/
def cStr (text : Text) : Text := text.takeWhile fun char => decide (char ≠ nul)

def rfind (char : Char) : Text → Option Nat
  | [] => none
  | head :: rest =>
      match rfind char rest with
      | some index => some (index + 1)
      | none => if head = char then some 0 else none

def substr (text : Text) (position count : Nat) : Text := (text.drop position).take count

/-- `strncpy`: as many bytes as fit, and zeros behind a shorter text. -/
def strncpy (text : Text) (count : Nat) : Text :=
  (cStr text).take count ++ List.replicate (count - (cStr text).length) nul

def isSpace (char : Char) : Bool :=
  decide (char = ' ') || (decide (9 ≤ char.toNat) && decide (char.toNat ≤ 13))

def longMax : Int := 2 ^ 31 - 1
def longMin : Int := -2 ^ 31

def skipSign : Text → Bool × Text
  | [] => (false, [])
  | head :: rest =>
      if head = '-' then (true, rest)
      else if head = '+' then (false, rest)
      else (false, head :: rest)

/-- `strtol` to base ten: the number, and the text from where it ends on. Without a digit nothing
is read. -/
def strtol (text : Text) : Int × Text :=
  let (negative, digits) := skipSign (text.dropWhile isSpace)
  let run := digits.takeWhile Char.isDigit
  if run.isEmpty then (0, text)
  else
    let number : Int := Nat.ofDigitChars 10 run 0
    (clamp (if negative then -number else number) longMin longMax,
      digits.dropWhile Char.isDigit)

theorem cStr_of_notMem (text : Text) (absent : nul ∉ text) : cStr text = text := by
  rw [cStr, List.takeWhile_eq_self_iff]
  intro char member
  exact decide_eq_true fun same => absent (same ▸ member)

theorem nul_notMem_cStr (text : Text) : nul ∉ cStr text := by
  intro member
  have other : decide (nul ≠ nul) = true :=
    List.mem_takeWhile_imp (p := fun char => decide (char ≠ nul)) member
  exact absurd rfl (of_decide_eq_true other)

theorem strncpy_length (text : Text) (count : Nat) : (strncpy text count).length = count := by
  rw [strncpy, List.length_append, List.length_take, List.length_replicate]
  omega

theorem cStr_append_nul (text rest : Text) (absent : nul ∉ text) :
    cStr (text ++ nul :: rest) = text := by
  induction text with
  | nil => exact List.takeWhile_cons_of_neg (by decide)
  | cons head tail ih =>
      rw [List.mem_cons, not_or] at absent
      have first : decide (head ≠ nul) = true := decide_eq_true (Ne.symm absent.1)
      have cut : cStr (head :: (tail ++ nul :: rest)) = head :: cStr (tail ++ nul :: rest) :=
        List.takeWhile_cons_of_pos first
      rw [List.cons_append, cut, ih absent.2]

theorem cStr_strncpy (text rest : Text) (count : Nat) :
    cStr (strncpy text count ++ nul :: rest) = (cStr text).take count := by
  have absent : nul ∉ (cStr text).take count := fun member =>
    nul_notMem_cStr text (List.mem_of_mem_take member)
  rw [strncpy, List.append_assoc]
  cases count - (cStr text).length with
  | zero => exact cStr_append_nul _ rest absent
  | succ more =>
      rw [List.replicate_succ, List.cons_append]
      exact cStr_append_nul _ _ absent

theorem rfind_eq_none_iff (char : Char) (text : Text) :
    rfind char text = none ↔ char ∉ text := by
  induction text with
  | nil => exact iff_of_true rfl List.not_mem_nil
  | cons head rest ih =>
      rw [rfind, List.mem_cons, not_or, ← ih]
      cases found : rfind char rest with
      | some index => exact iff_of_false (by simp) fun both => by cases both.2
      | none =>
          dsimp only
          split
          case isTrue same => exact iff_of_false (by simp) fun both => both.1 same.symm
          case isFalse differs => exact iff_of_true rfl ⟨fun same => differs same.symm, rfl⟩

theorem rfind_append_cons (char : Char) (before after : Text) (absent : char ∉ after) :
    rfind char (before ++ char :: after) = some before.length := by
  induction before with
  | nil =>
      rw [List.nil_append, rfind, (rfind_eq_none_iff char after).mpr absent]
      exact if_pos rfl
  | cons head rest ih =>
      rw [List.cons_append, rfind, ih]
      rfl

theorem rfind_split (char : Char) (text : Text) (index : Nat)
    (found : rfind char text = some index) :
    ∃ before after, text = before ++ char :: after ∧ char ∉ after ∧ before.length = index := by
  induction text generalizing index with
  | nil => cases found
  | cons head rest ih =>
      rw [rfind] at found
      cases later : rfind char rest with
      | some position =>
          rw [later] at found
          cases found
          obtain ⟨before, after, split, absent, length⟩ := ih position later
          exact ⟨head :: before, after, by rw [split]; rfl, absent, by rw [← length]; rfl⟩
      | none =>
          rw [later] at found
          dsimp only at found
          split at found
          case isTrue same =>
            cases found
            exact ⟨[], rest, by rw [same]; rfl, (rfind_eq_none_iff char rest).mp later, rfl⟩
          case isFalse => cases found

theorem substr_append (before middle after : Text) :
    substr (before ++ (middle ++ after)) before.length middle.length = middle := by
  rw [substr, List.drop_left, List.take_left]

theorem isDigit_facts (char : Char) (digit : char.isDigit = true) :
    isSpace char = false ∧ char ≠ '-' ∧ char ≠ '+' := by
  rw [Char.isDigit, Bool.and_eq_true, decide_eq_true_eq, decide_eq_true_eq] at digit
  obtain ⟨low, high⟩ := digit
  refine ⟨?_, ?_, ?_⟩
  · have above : 48 ≤ char.toNat := low
    rw [isSpace, Bool.or_eq_false_iff, decide_eq_false_iff_not]
    refine ⟨fun same => ?_, ?_⟩
    · rw [same] at above
      exact absurd above (by decide)
    · rw [Bool.and_eq_false_iff, decide_eq_false_iff_not, decide_eq_false_iff_not]
      omega
  · intro same
    rw [same] at low
    exact absurd low (by decide)
  · intro same
    rw [same] at low
    exact absurd low (by decide)

theorem notMem_toDigits (number : Nat) (char : Char) (other : char.isDigit = false) :
    char ∉ Nat.toDigits 10 number := by
  intro member
  rw [Nat.isDigit_of_mem_toDigits (by decide) (by decide) member] at other
  cases other

/-- A printed number is read back whole. -/
theorem strtol_toDigits (number : Nat) (fits : (number : Int) ≤ longMax) :
    strtol (Nat.toDigits 10 number) = ((number : Int), []) := by
  have digits : ∀ char ∈ Nat.toDigits 10 number, char.isDigit = true :=
    fun char member => Nat.isDigit_of_mem_toDigits (by decide) (by decide) member
  have value : Nat.ofDigitChars 10 (Nat.toDigits 10 number) 0 = number :=
    Nat.ofDigitChars_ten_toDigits
  cases printed : Nat.toDigits 10 number with
  | nil => exact absurd printed Nat.toDigits_ne_nil
  | cons head rest =>
      rw [printed] at digits value
      obtain ⟨space, minus, plus⟩ := isDigit_facts head (digits head List.mem_cons_self)
      have skipped : (head :: rest).dropWhile isSpace = head :: rest :=
        List.dropWhile_cons_of_neg (by rw [space]; decide)
      have all : (head :: rest).takeWhile Char.isDigit = head :: rest :=
        List.takeWhile_eq_self_iff.mpr digits
      have none_ : (head :: rest).dropWhile Char.isDigit = [] :=
        List.dropWhile_eq_nil_iff.mpr digits
      rw [strtol, skipped, skipSign, if_neg minus, if_neg plus]
      dsimp only
      rw [all, none_, value, if_neg (by simp), if_neg Bool.false_ne_true,
        clamp_of_mem _ _ _ (le_trans (by decide) (Int.natCast_nonneg number)) fits]

end CText
