import Mathlib.Data.List.Induction
import SnapcastSync.Lib.Unwinding

/-! Machines whose steps put out several items each, and what comes out against a language that is
given by the moves of an observer. -/

namespace Conformance

variable {S E O T : Type} (step : S → E → S × List O) (move : T → O → T → Prop)

def trace (state : S) (events : List E) : List O := (Unwinding.answers step state events).flatten

def run (state : S) (events : List E) : S := events.foldl (Unwinding.next step) state

theorem trace_cons (state : S) (event : E) (rest : List E) :
    trace step state (event :: rest) =
      (step state event).2 ++ trace step (Unwinding.next step state event) rest := rfl

/-- The observer gets from one stage to another along a list of items. -/
def Follows : T → List O → T → Prop
  | stage, [], last => last = stage
  | stage, item :: rest, last => ∃ middle, move stage item middle ∧ Follows middle rest last

theorem follows_single {stage last : T} {item : O} (moves : move stage item last) :
    Follows move stage [item] last := ⟨last, moves, rfl⟩

theorem follows_append {stage middle last : T} {first second : List O}
    (before : Follows move stage first middle) (after : Follows move middle second last) :
    Follows move stage (first ++ second) last := by
  induction first generalizing stage with
  | nil => exact before ▸ after
  | cons item rest ih =>
      obtain ⟨next, moves, along⟩ := before
      exact ⟨next, moves, ih along⟩

theorem follows_of_stays {stage : T} {items : List O}
    (stays : ∀ item ∈ items, move stage item stage) : Follows move stage items stage := by
  induction items with
  | nil => rfl
  | cons item rest ih =>
      refine ⟨stage, stays item List.mem_cons_self, ih ?_⟩
      intro other member
      exact stays other (List.mem_cons_of_mem item member)

/-- Where every step is followed and keeps an agreement, a run is followed and keeps it. -/
theorem trace_followed (agrees : S → T → Prop) (allowed : S → E → Prop)
    (followed : ∀ state stage event, agrees state stage → allowed state event →
      ∃ last, Follows move stage (step state event).2 last ∧ agrees (step state event).1 last)
    (state : S) (stage : T) (events : List E) (start : agrees state stage)
    (along : Run.Along (Unwinding.next step) allowed state events) :
    ∃ last, Follows move stage (trace step state events) last ∧
      agrees (run step state events) last := by
  induction events generalizing state stage with
  | nil => exact ⟨stage, rfl, start⟩
  | cons event rest ih =>
      obtain ⟨middle, here, agreed⟩ := followed state stage event start along.1
      obtain ⟨last, later, kept⟩ := ih _ middle agreed along.2
      exact ⟨last, follows_append move here later, kept⟩

def EachFounded (founds : List O → O → Prop) (items : List O) : Prop :=
  ∀ earlier item later, items = earlier ++ item :: later → founds earlier item

theorem eachFounded_nil (founds : List O → O → Prop) : EachFounded founds [] :=
  fun _ _ _ split => absurd split.symm (List.append_ne_nil_of_right_ne_nil _ (List.cons_ne_nil _ _))

theorem EachFounded.snoc {founds : List O → O → Prop} {items : List O}
    (founded : EachFounded founds items) (item : O) (here : founds items item) :
    EachFounded founds (items ++ [item]) := by
  intro earlier other later split
  rcases List.eq_nil_or_concat later with last | ⟨before, final, last⟩
  · rw [last] at split
    obtain ⟨same, equal⟩ := List.append_inj' split rfl
    rw [← same, ← (List.cons.inj equal).1]
    exact here
  · rw [last, List.concat_eq_append, ← List.cons_append, ← List.append_assoc] at split
    exact founded earlier other before (List.append_inj' split rfl).1

theorem EachFounded.append {founds : List O → O → Prop} {items : List O}
    (founded : EachFounded founds items) (more : List O)
    (always : ∀ item ∈ more, ∀ earlier, founds earlier item) :
    EachFounded founds (items ++ more) := by
  induction more using List.reverseRecOn with
  | nil =>
      rw [List.append_nil]
      exact founded
  | append_singleton rest item ih =>
      rw [← List.append_assoc]
      apply EachFounded.snoc
      · exact ih fun other member => always other (List.mem_append_left _ member)
      · exact always item (List.mem_append_right _ List.mem_cons_self) _

theorem run_history_after (holds : S → List O → Prop) (admits : E → Prop)
    (preserved : ∀ state items event, holds state items → admits event →
      holds (step state event).1 (items ++ (step state event).2))
    (state : S) (events : List E) (admitted : ∀ event ∈ events, admits event)
    (earlier : List O) (start : holds state earlier) :
    holds (run step state events) (earlier ++ trace step state events) := by
  induction events generalizing state earlier with
  | nil =>
      rw [trace, Unwinding.answers, List.flatten_nil, List.append_nil]
      exact start
  | cons event rest ih =>
      have here := preserved state earlier event start (admitted event List.mem_cons_self)
      rw [trace_cons, ← List.append_assoc]
      exact ih (step state event).1
        (fun other member => admitted other (List.mem_cons_of_mem event member)) _ here

/-- The rule for what a state says of all that has come out before it. -/
theorem run_history (holds : S → List O → Prop) (admits : E → Prop)
    (preserved : ∀ state items event, holds state items → admits event →
      holds (step state event).1 (items ++ (step state event).2))
    (state : S) (events : List E) (admitted : ∀ event ∈ events, admits event)
    (start : holds state []) : holds (run step state events) (trace step state events) :=
  run_history_after step holds admits preserved state events admitted [] start

theorem trace_eq (alike : S → S → Prop)
    (same : ∀ first second event, alike first second →
      (step first event).2 = (step second event).2)
    (keeps : ∀ first second event, alike first second →
      alike (step first event).1 (step second event).1)
    (first second : S) (events : List E) (start : alike first second) :
    trace step first events = trace step second events := by
  rw [trace, trace]
  congr 1
  apply Unwinding.answers_eq step alike fun _ _ => True
  · exact fun first second event alike_ _ _ => same first second event alike_
  · exact fun first second event alike_ _ _ => keeps first second event alike_
  · exact start
  · exact Run.along_of_forall _ _ (fun _ _ => trivial) first events
  · exact Run.along_of_forall _ _ (fun _ _ => trivial) second events

end Conformance
