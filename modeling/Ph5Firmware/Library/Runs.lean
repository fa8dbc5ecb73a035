import Mathlib.Tactic.Common

/-!
# Properties of every step of a run

A run is a list of events; `step` gives the state after an event.
`Run.Along step P state events` says that `P` holds at every event, of the state
in which the event happens.

`Run.Somewhere step P state events` says that `P` holds at one of the events.
`Run.somewhere_of_left` finds it from a state that only an event with `P` can end;
`Run.somewhere_of_rank` finds it from a rank that every counted event without `P`
brings down.

`Run.along_imp` and `Run.along_iff` compare two such properties under an invariant.
The invariant may depend on the first property itself: it has to survive an event
only if the property held there, so it may describe the runs on which nothing has
gone wrong so far.

`Run.foldl_part` cuts a run down to one part of the state and the events that reach it.
-/

namespace Run

variable {State Event : Type*} {step : State → Event → State}

/-- `P` at every event of the run from `state`. -/
def Along (step : State → Event → State) (P : State → Event → Prop) :
    State → List Event → Prop
  | _, [] => True
  | state, event :: rest => P state event ∧ Along step P (step state event) rest

instance decidableAlong (step : State → Event → State) (P : State → Event → Prop)
    [∀ state event, Decidable (P state event)] :
    (state : State) → (events : List Event) → Decidable (Along step P state events)
  | _, [] => inferInstanceAs (Decidable True)
  | state, event :: rest =>
      have := decidableAlong step P (step state event) rest
      inferInstanceAs (Decidable (P state event ∧ Along step P (step state event) rest))

theorem along_of_forall {P : State → Event → Prop} (hholds : ∀ state event, P state event)
    (state : State) (events : List Event) : Along step P state events := by
  induction events generalizing state with
  | nil => trivial
  | cons event rest ih => exact ⟨hholds state event, ih (step state event)⟩

theorem along_and {P Q : State → Event → Prop} {state : State} {events : List Event}
    (hP : Along step P state events) (hQ : Along step Q state events) :
    Along step (fun state event => P state event ∧ Q state event) state events := by
  induction events generalizing state with
  | nil => trivial
  | cons event rest ih => exact ⟨⟨hP.1, hQ.1⟩, ih hP.2 hQ.2⟩

/-- A property that gives another one under an invariant gives it along a run, where the
invariant need survive only the events at which the first property holds. -/
theorem along_imp {Invariant : State → Prop} {Allowed P Q : State → Event → Prop}
    (hgives : ∀ state event, Invariant state → Allowed state event → P state event →
      Q state event)
    (hkeeps : ∀ state event, Invariant state → Allowed state event → P state event →
      Invariant (step state event))
    {state : State} (hinitial : Invariant state) {events : List Event}
    (hallowed : Along step Allowed state events) (hP : Along step P state events) :
    Along step Q state events := by
  induction events generalizing state with
  | nil => trivial
  | cons event rest ih =>
      obtain ⟨hevent, hrest⟩ := hallowed
      obtain ⟨hhere, hlater⟩ := hP
      have hnext := hkeeps state event hinitial hevent hhere
      exact ⟨hgives state event hinitial hevent hhere, ih hnext hrest hlater⟩

/-- A property that follows from an invariant, where every allowed event keeps it. -/
theorem along_of_invariant {Invariant : State → Prop} {Allowed P : State → Event → Prop}
    (hholds : ∀ state event, Invariant state → Allowed state event → P state event)
    (hkeeps : ∀ state event, Invariant state → Allowed state event →
      Invariant (step state event))
    {state : State} (hinitial : Invariant state) {events : List Event}
    (hallowed : Along step Allowed state events) : Along step P state events := by
  have hunrestricted : Along step (fun _ _ => True) state events :=
    along_of_forall (fun _ _ => trivial) state events
  refine along_imp ?_ ?_ hinitial hunrestricted hallowed
  · intro state event hinvariant _ hevent
    exact hholds state event hinvariant hevent
  · intro state event hinvariant _ hevent
    exact hkeeps state event hinvariant hevent

/-- Two properties that agree under an invariant agree on a run, where the
invariant need survive only the events at which the first property holds. -/
theorem along_iff {Invariant : State → Prop} {Allowed P Q : State → Event → Prop}
    (hagree : ∀ state event, Invariant state → Allowed state event →
      (P state event ↔ Q state event))
    (hkeeps : ∀ state event, Invariant state → Allowed state event → P state event →
      Invariant (step state event))
    {state : State} (hinitial : Invariant state) {events : List Event}
    (hallowed : Along step Allowed state events) :
    Along step P state events ↔ Along step Q state events := by
  constructor
  · refine along_imp ?_ hkeeps hinitial hallowed
    intro state event hinvariant hevent hP
    exact (hagree state event hinvariant hevent).mp hP
  · refine along_imp ?_ ?_ hinitial hallowed
    · intro state event hinvariant hevent hQ
      exact (hagree state event hinvariant hevent).mpr hQ
    · intro state event hinvariant hevent hQ
      exact hkeeps state event hinvariant hevent
        ((hagree state event hinvariant hevent).mpr hQ)

/-- A part of the state that only some events reach, each by a step of the part. -/
theorem foldl_part {Part PartEvent : Type*} {partStep : Part → PartEvent → Part}
    (part : State → Part) (reaches : Event → Option PartEvent)
    (hpart : ∀ state event,
      part (step state event) = (reaches event).elim (part state) (partStep (part state)))
    (state : State) (events : List Event) :
    part (events.foldl step state) = (events.filterMap reaches).foldl partStep (part state) := by
  induction events generalizing state with
  | nil => rfl
  | cons event rest ih =>
      rw [List.foldl_cons, ih, hpart]
      cases hreaches : reaches event with
      | none => rw [List.filterMap_cons_none hreaches, Option.elim_none]
      | some partEvent =>
          rw [List.filterMap_cons_some hreaches, Option.elim_some, List.foldl_cons]

/-! ## Something happens along a run -/

/-- `P` at some event of the run from `state`. -/
def Somewhere (step : State → Event → State) (P : State → Event → Prop) :
    State → List Event → Prop
  | _, [] => False
  | state, event :: rest => P state event ∨ Somewhere step P (step state event) rest

instance decidableSomewhere (step : State → Event → State) (P : State → Event → Prop)
    [∀ state event, Decidable (P state event)] :
    (state : State) → (events : List Event) → Decidable (Somewhere step P state events)
  | _, [] => inferInstanceAs (Decidable False)
  | state, event :: rest =>
      have := decidableSomewhere step P (step state event) rest
      inferInstanceAs (Decidable (P state event ∨ Somewhere step P (step state event) rest))

theorem somewhere_append {P : State → Event → Prop} {state : State} {front back : List Event} :
    Somewhere step P state (front ++ back) ↔
      Somewhere step P state front ∨ Somewhere step P (front.foldl step state) back := by
  induction front generalizing state with
  | nil =>
      constructor
      · exact .inr
      · exact (Or.resolve_left · id)
  | cons event rest ih =>
      rw [List.cons_append, List.foldl_cons]
      refine Iff.trans ?_ (or_assoc).symm
      exact or_congr Iff.rfl ih

/-- Without an event with `P`, what the others keep is kept. -/
theorem foldl_of_not_somewhere {Invariant : State → Prop} {P : State → Event → Prop}
    (hkeeps : ∀ state event, Invariant state → ¬ P state event → Invariant (step state event))
    {state : State} (hinitial : Invariant state) {events : List Event}
    (hnowhere : ¬ Somewhere step P state events) : Invariant (events.foldl step state) := by
  induction events generalizing state with
  | nil => exact hinitial
  | cons event rest ih =>
      obtain ⟨hevent, hrest⟩ := not_or.mp hnowhere
      exact ih (hkeeps state event hinitial hevent) hrest

/-- A state that only an event with `P` can end, and that has ended. -/
theorem somewhere_of_left {Waiting : State → Prop} {P : State → Event → Prop}
    (hkeeps : ∀ state event, Waiting state → ¬ P state event → Waiting (step state event))
    {state : State} (hwaiting : Waiting state) {events : List Event}
    (hleft : ¬ Waiting (events.foldl step state)) : Somewhere step P state events := by
  by_contra hnowhere
  exact hleft (foldl_of_not_somewhere hkeeps hwaiting hnowhere)

/-- A rank that no event without `P` raises, and that the counted ones lower. -/
theorem somewhere_of_rank {Waiting : State → Prop} {P : State → Event → Prop}
    {rank : State → ℕ} {counted : Event → Bool}
    (hkeeps : ∀ state event, Waiting state → ¬ P state event → Waiting (step state event) ∧
      rank (step state event) + (if counted event then 1 else 0) ≤ rank state)
    {state : State} (hwaiting : Waiting state) {events : List Event}
    (hlong : rank state < events.countP counted) : Somewhere step P state events := by
  induction events generalizing state with
  | nil => exact absurd hlong (Nat.not_lt_zero _)
  | cons event rest ih =>
      by_cases hevent : P state event
      · exact .inl hevent
      · obtain ⟨hnext, hrank⟩ := hkeeps state event hwaiting hevent
        rw [List.countP_cons] at hlong
        refine .inr (ih hnext ?_)
        omega

end Run
