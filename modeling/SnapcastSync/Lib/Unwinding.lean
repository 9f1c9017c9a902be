import SnapcastSync.Lib.Run

/-! Machines that answer every event. Two runs over the same events give the same answers if
they start in states that are alike, alike states answer alike, and a step keeps them so. -/

namespace Unwinding

variable {S E O : Type} (step : S → E → S × O)

def answers : S → List E → List O
  | _, [] => []
  | state, event :: rest => (step state event).2 :: answers (step state event).1 rest

def next (state : S) (event : E) : S := (step state event).1

theorem answers_eq (alike : S → S → Prop) (allowed : S → E → Prop)
    (answer : ∀ first second event, alike first second → allowed first event →
      allowed second event → (step first event).2 = (step second event).2)
    (keeps : ∀ first second event, alike first second → allowed first event →
      allowed second event → alike (step first event).1 (step second event).1)
    (first second : S) (events : List E) (start : alike first second)
    (firstAllowed : Run.Along (next step) allowed first events)
    (secondAllowed : Run.Along (next step) allowed second events) :
    answers step first events = answers step second events := by
  induction events generalizing first second with
  | nil => rfl
  | cons event rest ih =>
      have here := answer first second event start firstAllowed.1 secondAllowed.1
      have later := ih _ _ (keeps first second event start firstAllowed.1 secondAllowed.1)
        firstAllowed.2 secondAllowed.2
      rw [answers, answers, here, later]

/-- Two machines over events that are translated for the second one. -/
theorem answers_translated {T F : Type} (step : S → E → S × O) (other : T → F → T × O)
    (translate : E → F) (alike : S → T → Prop) (admits : E → Prop)
    (answer : ∀ first second event, alike first second → admits event →
      (step first event).2 = (other second (translate event)).2)
    (keeps : ∀ first second event, alike first second → admits event →
      alike (step first event).1 (other second (translate event)).1)
    (first : S) (second : T) (events : List E) (start : alike first second)
    (admitted : ∀ event ∈ events, admits event) :
    answers step first events = answers other second (events.map translate) := by
  induction events generalizing first second with
  | nil => rfl
  | cons event rest ih =>
      have head := admitted event List.mem_cons_self
      have here := answer first second event start head
      have later := ih _ _ (keeps first second event start head)
        fun other member => admitted other (List.mem_cons_of_mem event member)
      rw [List.map_cons, answers, answers, here, later]

end Unwinding
