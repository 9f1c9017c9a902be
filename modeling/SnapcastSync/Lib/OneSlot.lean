import SnapcastSync.Lib.Run
import Mathlib.Data.List.Induction

/-! A slot that holds one job at a time. Its log marks each job that is taken and each receipt
on which the slot is given up, settled or dropped; an orderly log takes a job only into a free
slot and gives it up only on a receipt for the job that was taken last. -/

namespace OneSlot

variable {Job Receipt : Type}

inductive Mark (Job Receipt : Type) where
  | taken (job : Job)
  | settled (receipt : Receipt)
  | dropped (receipt : Receipt)

def Mark.takes : Mark Job Receipt → Option Job
  | .taken job => some job
  | _ => none

/-- The job that was taken last, and whether the slot still holds it. -/
structure Slot (Job : Type) where
  last : Option Job
  busy : Bool

structure Rules (Job Receipt : Type) where
  follows : Job → Job → Prop
  settles : Job → Receipt → Prop
  drops : Job → Receipt → Prop

namespace Slot

def free : Slot Job :=
  { last := none
    busy := false }

def record (slot : Slot Job) : Mark Job Receipt → Slot Job
  | .taken job =>
      { last := some job
        busy := true }
  | _ => { slot with busy := false }

def Permits (rules : Rules Job Receipt) (slot : Slot Job) : Mark Job Receipt → Prop
  | .taken job =>
      slot.busy = false ∧ ∀ last, slot.last = some last → rules.follows last job
  | .settled receipt => slot.busy = true ∧ ∃ job, slot.last = some job ∧ rules.settles job receipt
  | .dropped receipt => slot.busy = true ∧ ∃ job, slot.last = some job ∧ rules.drops job receipt

end Slot

def Orderly (rules : Rules Job Receipt) (slot : Slot Job) (log : List (Mark Job Receipt)) : Prop :=
  Run.Along Slot.record (Slot.Permits rules) slot log

/-- A job is given up once, on a receipt of its own, before the next one is taken. -/
def GivenUp (rules : Rules Job Receipt) (job : Job) (between : List (Mark Job Receipt)) : Prop :=
  ∃ receipt, (between = [.settled receipt] ∧ rules.settles job receipt) ∨
    (between = [.dropped receipt] ∧ rules.drops job receipt)

theorem orderly_append (rules : Rules Job Receipt) (slot : Slot Job)
    (early late : List (Mark Job Receipt)) :
    Orderly rules slot (early ++ late) ↔
      Orderly rules slot early ∧ Orderly rules (early.foldl Slot.record slot) late :=
  Run.along_append Slot.record (Slot.Permits rules) slot early late

theorem head_taken_of_free (rules : Rules Job Receipt) (slot : Slot Job)
    (mark : Mark Job Receipt) (rest : List (Mark Job Receipt)) (idle : slot.busy = false)
    (orderly : Orderly rules slot (mark :: rest)) : ∃ job, mark = .taken job := by
  cases mark with
  | taken job => exact ⟨job, rfl⟩
  | settled receipt => exact absurd (idle.symm.trans orderly.1.1) Bool.false_ne_true
  | dropped receipt => exact absurd (idle.symm.trans orderly.1.1) Bool.false_ne_true

theorem nil_of_free (rules : Rules Job Receipt) (slot : Slot Job) (job : Job)
    (between late : List (Mark Job Receipt)) (idle : slot.busy = false)
    (untaken : ∀ mark ∈ between, mark.takes = none)
    (orderly : Orderly rules slot (between ++ .taken job :: late)) :
    between = [] ∧ ∀ last, slot.last = some last → rules.follows last job := by
  cases between with
  | nil => exact ⟨rfl, orderly.1.2⟩
  | cons mark rest =>
      obtain ⟨other, same⟩ := head_taken_of_free rules slot mark _ idle orderly
      have takes := untaken mark List.mem_cons_self
      rw [same] at takes
      cases takes

/-- Between two jobs that are taken one after the other, the first is given up once. -/
theorem givenUp_between (rules : Rules Job Receipt) (slot : Slot Job) (first second : Job)
    (early between late : List (Mark Job Receipt))
    (untaken : ∀ mark ∈ between, mark.takes = none)
    (orderly : Orderly rules slot
      (early ++ .taken first :: (between ++ .taken second :: late))) :
    rules.follows first second ∧ GivenUp rules first between := by
  have held := ((orderly_append rules slot early _).mp orderly).2.2
  cases between with
  | nil => exact absurd held.1.1 (Bool.noConfusion ·)
  | cons mark rest =>
      have unmarked : ∀ other ∈ rest, other.takes = none := by
        intro other member
        exact untaken other (List.mem_cons_of_mem mark member)
      cases mark with
      | taken job =>
          have takes := untaken (.taken job) List.mem_cons_self
          cases takes
      | settled receipt =>
          obtain ⟨_, job, same, settles⟩ := held.1
          cases same
          obtain ⟨nil, follows⟩ := nil_of_free rules _ second rest late rfl unmarked held.2
          rw [nil]
          exact ⟨follows first rfl, receipt, Or.inl ⟨rfl, settles⟩⟩
      | dropped receipt =>
          obtain ⟨_, job, same, drops⟩ := held.1
          cases same
          obtain ⟨nil, follows⟩ := nil_of_free rules _ second rest late rfl unmarked held.2
          rw [nil]
          exact ⟨follows first rfl, receipt, Or.inr ⟨rfl, drops⟩⟩

theorem last_taken_of_busy (log : List (Mark Job Receipt))
    (job : Job) (busy : (log.foldl Slot.record Slot.free).busy = true)
    (last : (log.foldl Slot.record Slot.free).last = some job) :
    ∃ earlier, log = earlier ++ [.taken job] := by
  induction log using List.reverseRecOn with
  | nil => cases busy
  | append_singleton earlier mark _ =>
      rw [List.foldl_append] at busy last
      cases mark with
      | taken other =>
          cases last
          exact ⟨earlier, rfl⟩
      | settled receipt => cases busy
      | dropped receipt => cases busy

/-- What is settled was taken by the mark before, so it is settled once and never after it was
dropped. -/
theorem taken_before_settled (rules : Rules Job Receipt) (receipt : Receipt)
    (early late : List (Mark Job Receipt))
    (orderly : Orderly rules Slot.free (early ++ .settled receipt :: late)) :
    ∃ earlier job, early = earlier ++ [.taken job] ∧ rules.settles job receipt := by
  obtain ⟨busy, job, last, settles⟩ := ((orderly_append rules _ early _).mp orderly).2.1
  obtain ⟨earlier, ended⟩ := last_taken_of_busy early job busy last
  exact ⟨earlier, job, ended, settles⟩

end OneSlot
