import Mathlib.Logic.Basic
import Mathlib.Data.List.Basic

/-! Runs of a deterministic step over a list of events. `Along` asks every step of a run
to meet a condition on the state before it; `Visits` asks every state of the run, the
first and the last included, to satisfy an invariant. -/

namespace Run

variable {S E : Type} (step : S → E → S)

def Along (allowed : S → E → Prop) : S → List E → Prop
  | _, [] => True
  | state, event :: rest => allowed state event ∧ Along allowed (step state event) rest

def Visits (holds : S → Prop) : S → List E → Prop
  | state, [] => holds state
  | state, event :: rest => holds state ∧ Visits holds (step state event) rest

@[simp] theorem along_nil (allowed : S → E → Prop) (state : S) :
    Along step allowed state [] := trivial

@[simp] theorem along_cons (allowed : S → E → Prop) (state : S) (event : E) (rest : List E) :
    Along step allowed state (event :: rest) ↔
      allowed state event ∧ Along step allowed (step state event) rest := Iff.rfl

@[simp] theorem visits_nil (holds : S → Prop) (state : S) :
    Visits step holds state [] ↔ holds state := Iff.rfl

@[simp] theorem visits_cons (holds : S → Prop) (state : S) (event : E) (rest : List E) :
    Visits step holds state (event :: rest) ↔
      holds state ∧ Visits step holds (step state event) rest := Iff.rfl

instance decidableAlong (allowed : S → E → Prop)
    [∀ state event, Decidable (allowed state event)] (state : S) (events : List E) :
    Decidable (Along step allowed state events) :=
  match events with
  | [] => isTrue trivial
  | event :: rest =>
      have := decidableAlong allowed (step state event) rest
      inferInstanceAs (Decidable (allowed state event ∧ _))

theorem along_mono (allowed wider : S → E → Prop)
    (weaker : ∀ state event, allowed state event → wider state event)
    (state : S) (events : List E) (along : Along step allowed state events) :
    Along step wider state events := by
  induction events generalizing state with
  | nil => exact trivial
  | cons event rest ih =>
      exact ⟨weaker state event along.1, ih (step state event) along.2⟩

theorem along_of_forall (allowed : S → E → Prop) (always : ∀ state event, allowed state event)
    (state : S) (events : List E) : Along step allowed state events := by
  induction events generalizing state with
  | nil => exact trivial
  | cons event rest ih => exact ⟨always state event, ih (step state event)⟩

/-- The invariant rule: what every step preserves holds all along a run. -/
theorem visits_of_preserved (holds : S → Prop)
    (preserved : ∀ state event, holds state → holds (step state event))
    (state : S) (events : List E) (start : holds state) : Visits step holds state events := by
  induction events generalizing state with
  | nil => exact start
  | cons event rest ih => exact ⟨start, ih _ (preserved state event start)⟩

/-- The same where the invariant is preserved by the allowed steps only. -/
theorem visits_of_along (invariant holds : S → Prop) (allowed : S → E → Prop)
    (sound : ∀ state, invariant state → holds state)
    (preserved : ∀ state event, invariant state → allowed state event →
      invariant (step state event))
    (state : S) (events : List E) (start : invariant state)
    (along : Along step allowed state events) : Visits step holds state events := by
  induction events generalizing state with
  | nil => exact sound state start
  | cons event rest ih =>
      exact ⟨sound state start, ih _ (preserved state event start along.1) along.2⟩

/-- The same where what must hold follows from an invariant that every step preserves. -/
theorem visits_of_invariant (invariant holds : S → Prop)
    (sound : ∀ state, invariant state → holds state)
    (preserved : ∀ state event, invariant state → invariant (step state event))
    (state : S) (events : List E) (start : invariant state) : Visits step holds state events :=
  visits_of_along step invariant holds (fun _ _ => True) sound
    (fun state event here _ => preserved state event here) state events start
    (along_of_forall step _ (fun _ _ => trivial) state events)

theorem along_append (allowed : S → E → Prop) (state : S) (early late : List E) :
    Along step allowed state (early ++ late) ↔
      Along step allowed state early ∧ Along step allowed (early.foldl step state) late := by
  induction early generalizing state with
  | nil => exact ⟨fun along => ⟨trivial, along⟩, fun both => both.2⟩
  | cons event rest ih =>
      rw [List.cons_append, along_cons, along_cons, ih, List.foldl_cons, and_assoc]

theorem visits_and (first second : S → Prop) (state : S) (events : List E) :
    Visits step (fun state => first state ∧ second state) state events ↔
      Visits step first state events ∧ Visits step second state events := by
  induction events generalizing state with
  | nil => exact Iff.rfl
  | cons event rest ih => rw [visits_cons, visits_cons, visits_cons, ih, and_and_and_comm]

theorem along_and (first second : S → E → Prop) (state : S) (events : List E) :
    Along step (fun state event => first state event ∧ second state event) state events ↔
      Along step first state events ∧ Along step second state events := by
  induction events generalizing state with
  | nil => exact ⟨fun along => ⟨along, along⟩, fun both => both.1⟩
  | cons event rest ih => rw [along_cons, along_cons, along_cons, ih, and_and_and_comm]

theorem along_congr (allowed other : S → E → Prop) (state : S) (events : List E)
    (agree : ∀ event ∈ events, ∀ state, allowed state event ↔ other state event) :
    Along step allowed state events ↔ Along step other state events := by
  induction events generalizing state with
  | nil => exact Iff.rfl
  | cons event rest ih =>
      have here := agree event List.mem_cons_self state
      have later := ih (step state event)
        fun other member => agree other (List.mem_cons_of_mem event member)
      rw [along_cons, along_cons, here, later]

theorem along_of_mem (admits : E → Prop) (state : S) (events : List E)
    (admitted : ∀ event ∈ events, admits event) :
    Along step (fun _ event => admits event) state events := by
  induction events generalizing state with
  | nil => exact trivial
  | cons event rest ih =>
      exact ⟨admitted event List.mem_cons_self,
        ih _ fun other member => admitted other (List.mem_cons_of_mem event member)⟩

/-- Two conditions on the steps that agree in the states of an invariant that the run keeps. -/
theorem along_iff_of_along (holds : S → Prop) (admits allowed other : S → E → Prop)
    (preserved : ∀ state event, holds state → admits state event → holds (step state event))
    (agree : ∀ state event, holds state → admits state event →
      (allowed state event ↔ other state event))
    (state : S) (events : List E) (start : holds state)
    (admitted : Along step admits state events) :
    Along step allowed state events ↔ Along step other state events := by
  induction events generalizing state with
  | nil => exact Iff.rfl
  | cons event rest ih =>
      have here := agree state event start admitted.1
      have later := ih (step state event) (preserved state event start admitted.1) admitted.2
      rw [along_cons, along_cons, here, later]

/-- The same where what is admitted is a matter of the event alone. -/
theorem along_iff_of_invariant (holds : S → Prop) (admits : E → Prop) (allowed other : S → E → Prop)
    (preserved : ∀ state event, holds state → admits event → holds (step state event))
    (agree : ∀ state event, holds state → admits event →
      (allowed state event ↔ other state event))
    (state : S) (events : List E) (start : holds state)
    (admitted : ∀ event ∈ events, admits event) :
    Along step allowed state events ↔ Along step other state events :=
  along_iff_of_along step holds (fun _ event => admits event) allowed other preserved agree state
    events start (along_of_mem step admits state events admitted)

theorem visits_first (holds : S → Prop) (state : S) (events : List E)
    (visits : Visits step holds state events) : holds state := by
  cases events with
  | nil => exact visits
  | cons _ _ => exact visits.1

/-- The exact form: where the steps from states of an invariant reach what must hold just when
they are allowed, and then keep the invariant, a run of admitted steps visits only such states
just when all of its steps are allowed. -/
theorem visits_iff_along_of_admitted (invariant holds : S → Prop) (admits allowed : S → E → Prop)
    (sound : ∀ state, invariant state → holds state)
    (exactly : ∀ state event, invariant state → admits state event →
      (holds (step state event) ↔ allowed state event))
    (preserved : ∀ state event, invariant state → admits state event → allowed state event →
      invariant (step state event))
    (state : S) (events : List E) (start : invariant state)
    (admitted : Along step admits state events) :
    Visits step holds state events ↔ Along step allowed state events := by
  induction events generalizing state with
  | nil => exact ⟨fun _ => trivial, fun _ => sound state start⟩
  | cons event rest ih =>
      have now := exactly state event start admitted.1
      have later := fun allowed =>
        ih _ (preserved state event start admitted.1 allowed) admitted.2
      rw [visits_cons, along_cons]
      constructor
      · rintro ⟨_, visits⟩
        have here := now.mp (visits_first step holds _ rest visits)
        exact ⟨here, (later here).mp visits⟩
      · rintro ⟨here, along⟩
        exact ⟨sound state start, (later here).mpr along⟩

theorem visits_iff_along_of_invariant (invariant holds : S → Prop) (allowed : S → E → Prop)
    (sound : ∀ state, invariant state → holds state)
    (exactly : ∀ state event, invariant state →
      (holds (step state event) ↔ allowed state event))
    (preserved : ∀ state event, invariant state → allowed state event →
      invariant (step state event))
    (state : S) (events : List E) (start : invariant state) :
    Visits step holds state events ↔ Along step allowed state events :=
  visits_iff_along_of_admitted step invariant holds (fun _ _ => True) allowed sound
    (fun state event here _ => exactly state event here)
    (fun state event here _ => preserved state event here) state events start
    (along_of_forall step _ (fun _ _ => trivial) state events)

theorem visits_iff_along (holds : S → Prop) (allowed : S → E → Prop)
    (exactly : ∀ state event, holds state → (holds (step state event) ↔ allowed state event))
    (state : S) (events : List E) (start : holds state) :
    Visits step holds state events ↔ Along step allowed state events :=
  visits_iff_along_of_invariant step holds holds allowed (fun _ here => here) exactly
    (fun state event here => (exactly state event here).mpr) state events start

/-- What every allowed step guarantees from states of the invariant, every step of the run
guarantees. -/
theorem along_of_along (holds : S → Prop) (allowed guaranteed : S → E → Prop)
    (preserved : ∀ state event, holds state → allowed state event → holds (step state event))
    (guarantees : ∀ state event, holds state → allowed state event → guaranteed state event)
    (state : S) (events : List E) (start : holds state)
    (along : Along step allowed state events) : Along step guaranteed state events := by
  induction events generalizing state with
  | nil => exact trivial
  | cons event rest ih =>
      exact ⟨guarantees state event start along.1,
        ih _ (preserved state event start along.1) along.2⟩

/-- The same where every step preserves the invariant. -/
theorem along_of_invariant (holds : S → Prop) (guaranteed : S → E → Prop)
    (preserved : ∀ state event, holds state → holds (step state event))
    (guarantees : ∀ state event, holds state → guaranteed state event)
    (state : S) (events : List E) (start : holds state) :
    Along step guaranteed state events :=
  along_of_along step holds (fun _ _ => True) guaranteed
    (fun state event here _ => preserved state event here)
    (fun state event here _ => guarantees state event here) state events start
    (along_of_forall step _ (fun _ _ => trivial) state events)

theorem visits_last (holds : S → Prop) (state : S) (events : List E)
    (visits : Visits step holds state events) : holds (events.foldl step state) := by
  induction events generalizing state with
  | nil => exact visits
  | cons event rest ih => exact ih _ visits.2

/-- What holds in the end held throughout, or has held since some event that began it. -/
theorem visits_or_began (holds : S → Prop) (state : S) (events : List E)
    (ends : holds (events.foldl step state)) :
    Visits step holds state events ∨
      ∃ early event late, events = early ++ event :: late ∧ ¬ holds (early.foldl step state) ∧
        Visits step holds (step (early.foldl step state) event) late := by
  induction events generalizing state with
  | nil => exact Or.inl ends
  | cons event rest ih =>
      rcases ih (step state event) ends with throughout | ⟨early, other, late, split, before, since⟩
      · by_cases here : holds state
        · exact Or.inl ⟨here, throughout⟩
        · exact Or.inr ⟨[], event, rest, rfl, here, throughout⟩
      · exact Or.inr ⟨event :: early, other, late, by rw [split]; rfl, before, since⟩

/-- The rank rule: where every counted event that misses the goal uses up some of a rank, and no
other event adds to it, more counted events than the rank allows reach the goal. -/
theorem exists_of_rank (counted : E → Bool) (admits : E → Prop) (goal : S → E → Prop)
    (within : Nat → S → Prop)
    (drops : ∀ left state event, within left state → admits event → counted event = true →
      ¬ goal state event → ∃ fewer < left, within fewer (step state event))
    (keeps : ∀ left state event, within left state → counted event = false →
      within left (step state event))
    (left : Nat) (state : S) (events : List E) (start : within left state)
    (admitted : ∀ event ∈ events, admits event) (enough : left < events.countP counted) :
    ∃ before event after, events = before ++ event :: after ∧ before.countP counted ≤ left ∧
      goal (before.foldl step state) event := by
  induction events generalizing state left with
  | nil => exact absurd enough (Nat.not_lt_zero left)
  | cons event rest ih =>
      have here := admitted event List.mem_cons_self
      have later := fun other member => admitted other (List.mem_cons_of_mem event member)
      cases kind : counted event with
      | false =>
          rw [List.countP_cons_of_neg (by rw [kind]; decide)] at enough
          obtain ⟨before, met, after, split, few, reached⟩ :=
            ih left _ (keeps left state event start kind) later enough
          refine ⟨event :: before, met, after, by rw [split]; rfl, ?_, reached⟩
          rwa [List.countP_cons_of_neg (by rw [kind]; decide)]
      | true =>
          by_cases reached : goal state event
          · exact ⟨[], event, rest, rfl, Nat.zero_le left, reached⟩
          · obtain ⟨fewer, less, ranked⟩ := drops left state event start here kind reached
            rw [List.countP_cons_of_pos kind] at enough
            obtain ⟨before, met, after, split, few, found⟩ :=
              ih fewer _ ranked later (by omega)
            refine ⟨event :: before, met, after, by rw [split]; rfl, ?_, found⟩
            rw [List.countP_cons_of_pos kind]
            omega

def halting (step : S → E → Option S) (state : Option S) (event : E) : Option S :=
  state.bind (fun before => step before event)

/-- The invariant rule for such a step: nothing is asked of it where it has no result. -/
theorem visits_halting (step : S → E → Option S) (invariant holds : S → Prop)
    (allowed : S → E → Prop) (sound : ∀ state, invariant state → holds state)
    (preserved : ∀ before event after, invariant before → allowed before event →
      step before event = some after → invariant after)
    (state : S) (events : List E) (start : invariant state)
    (along : Along (halting step) (fun state event => ∀ before ∈ state, allowed before event)
      (some state) events) :
    Visits (halting step) (fun state => ∀ reached ∈ state, holds reached) (some state) events := by
  apply visits_of_along (halting step) (fun state => ∀ reached ∈ state, invariant reached) _
    (fun state event => ∀ before ∈ state, allowed before event)
  · exact fun state keeps reached member => sound reached (keeps reached member)
  · intro state event keeps here after member
    obtain ⟨before, present, stepped⟩ := Option.bind_eq_some_iff.mp member
    exact preserved before event after (keeps before present) (here before present) stepped
  · intro reached member
    cases member
    exact start
  · exact along

end Run
