import Mathlib

/-!
# Machines and their refinement

A machine takes labelled steps, of which some are silent. Its runs are known by their labels. One
machine refines another when its steps are matched: a labelled step by a step of the same label, a
silent one by staying. Every run is then matched by a run with the same labels, and what holds of
the runs of the one holds of the runs of the other.
-/
namespace Refinement

universe u v w

/-- A machine that takes labelled and silent steps. -/
structure Machine (State : Type u) (Label : Type v) where
  /-- Where it starts. -/
  starts : State → Prop
  /-- The steps it can take. -/
  steps : State → Option Label → State → Prop

namespace Machine

variable {State : Type u} {Label : Type v} (machine : Machine State Label)

/-- The runs of a machine, with the labels of their steps in order. -/
inductive Runs : State → List Label → State → Prop where
  /-- No step is taken. -/
  | nil (state : State) : Runs state [] state
  /-- A step is taken, and the rest follows. -/
  | cons {state next last : State} {label : Option Label} {trace : List Label}
    (step : machine.steps state label next) (more : Runs next trace last) :
    Runs state (label.toList ++ trace) last

variable {machine}

/-- What every step keeps, every run keeps. -/
theorem Runs.keeps {kept : State → Prop}
    (keeps : ∀ {state label next}, kept state → machine.steps state label next → kept next)
    {state last : State} {trace : List Label} (runs : machine.Runs state trace last)
    (holds : kept state) : kept last := by
  induction runs with
  | nil _ => exact holds
  | cons step _ ih => exact ih (keeps holds step)

/-- What a step adds to a quantity, a run adds label by label. -/
theorem Runs.adds {Quantity : Type w} [AddCommMonoid Quantity] {quantity : State → Quantity}
    {weight : Label → Quantity}
    (adds : ∀ {state label next}, machine.steps state label next →
      quantity next = quantity state + (label.toList.map weight).sum)
    {state last : State} {trace : List Label} (runs : machine.Runs state trace last) :
    quantity last = quantity state + (trace.map weight).sum := by
  induction runs with
  | nil _ => simp
  | cons step _ ih =>
    rw [ih, adds step, List.map_append, List.sum_append, add_assoc]

/-- A run with a label in its trace takes a step of this label on the way. -/
theorem Runs.split {state last : State} {trace before after : List Label} {label : Label}
    (runs : machine.Runs state trace last) (parts : trace = before ++ label :: after) :
    ∃ middle next, machine.Runs state before middle ∧ machine.steps middle (some label) next ∧
      machine.Runs next after last := by
  induction runs generalizing before with
  | nil _ => simp at parts
  | @cons state next last first trace step more ih =>
    cases first with
    | none =>
      obtain ⟨middle, later, runs, at_label, rest⟩ := ih parts
      exact ⟨middle, later, .cons step runs, at_label, rest⟩
    | some first =>
      cases before with
      | nil =>
        obtain ⟨rfl, rfl⟩ := List.cons.inj parts
        exact ⟨state, next, .nil state, step, more⟩
      | cons other before =>
        obtain ⟨rfl, rest⟩ := List.cons.inj parts
        obtain ⟨middle, later, runs, at_label, after⟩ := ih rest
        exact ⟨middle, later, .cons step runs, at_label, after⟩

/-- A state that a run from a start leads to, with the labels of the run. -/
def Reaches (machine : Machine State Label) (trace : List Label) (state : State) : Prop :=
  ∃ first, machine.starts first ∧ machine.Runs first trace state

end Machine

variable {Concrete : Type u} {Abstract : Type v} {Label : Type w}

/-- Every step of the one machine is matched by the other. -/
structure Simulates (concrete : Machine Concrete Label) (abstract : Machine Abstract Label)
    (Like : Concrete → Abstract → Prop) : Prop where
  /-- Starts are matched. -/
  starts : ∀ {state}, concrete.starts state → ∃ image, abstract.starts image ∧ Like state image
  /-- A labelled step is matched by a step of this label. -/
  labelled : ∀ {state next image label}, Like state image →
    concrete.steps state (some label) next →
      ∃ image', abstract.steps image (some label) image' ∧ Like next image'
  /-- A silent step is matched by staying. -/
  silent : ∀ {state next image}, Like state image → concrete.steps state none next →
    Like next image

namespace Simulates

variable {concrete : Machine Concrete Label} {abstract : Machine Abstract Label}
  {Like : Concrete → Abstract → Prop}

/-- Every run is matched by a run with the same labels. -/
theorem run (simulates : Simulates concrete abstract Like) {state last : Concrete}
    {trace : List Label} (runs : concrete.Runs state trace last) {image : Abstract}
    (start : Like state image) :
    ∃ image', abstract.Runs image trace image' ∧ Like last image' := by
  induction runs generalizing image with
  | nil _ => exact ⟨image, .nil image, start⟩
  | @cons state next last label trace step more ih =>
    cases label with
    | none => exact ih (simulates.silent start step)
    | some label =>
      obtain ⟨image₁, step', after⟩ := simulates.labelled start step
      obtain ⟨image₂, rest, ended⟩ := ih after
      exact ⟨image₂, .cons step' rest, ended⟩

/-- Every state reached is matched by one reached with the same labels. -/
theorem reaches (simulates : Simulates concrete abstract Like) {state : Concrete}
    {trace : List Label} (reached : concrete.Reaches trace state) :
    ∃ image, abstract.Reaches trace image ∧ Like state image := by
  obtain ⟨first, starts, runs⟩ := reached
  obtain ⟨image, starts', start⟩ := simulates.starts starts
  obtain ⟨image', runs', ended⟩ := simulates.run runs start
  exact ⟨image', ⟨image, starts', runs'⟩, ended⟩

end Simulates

end Refinement
