import OnlineVoting.Library.Run

/-!
# The steps of one call

A method is called within a round of its process, and until it returns its process takes only the
steps of the call: lines typed at its console, and its own requests served. All other steps of a
run are those of other processes. The steps of a process are kept here with the stores around
them, so that what a call wrote can be told from what others wrote meanwhile.
-/
namespace Interleaving

variable {I : Interface} {P : Program I}

/-- A step with the stores before and after it. -/
structure Transition (P : Program I) where
  /-- The store before the step. -/
  before : P.Store
  /-- The step as the log keeps it. -/
  entry : Entry P
  /-- The store after the step. -/
  after : P.Store

/-- The line typed at a step, if any. -/
def Action.line : Action P → Option String
  | .typed line => some line
  | _ => none

/-- The lines typed at some steps of a process, newest first. -/
def typedIn (steps : List (Transition P)) : List String :=
  (steps.filterMap fun step => step.entry.action.line).reverse

@[simp] theorem typedIn_nil : typedIn ([] : List (Transition P)) = [] := rfl

/-- One more step adds the line that was typed at it. -/
theorem typedIn_concat (steps : List (Transition P)) (step : Transition P) :
    typedIn (steps ++ [step]) = step.entry.action.line.toList ++ typedIn steps := by
  rw [typedIn, List.filterMap_append, List.reverse_append]
  cases line : step.entry.action.line <;> simp [typedIn, line]

/-- The process takes no step between two rounds. -/
def Event.Within (process : Nat) : Event P → Prop
  | .start actor | .turn actor | .kill actor => actor ≠ process
  | .type _ _ | .serve _ _ => True

instance (process : Nat) (event : Event P) : Decidable (event.Within process) := by
  cases event <;> unfold Event.Within <;> infer_instance

namespace System

/-- The steps that a process takes in a run, in their order. -/
def transitions (process : Nat) (system : System P) : List (Event P) → List (Transition P)
  | [] => []
  | event :: later =>
    match system.step event with
    | none => []
    | some next =>
      ((next.log.head?.filter fun entry => entry.process = process).map fun entry =>
        ⟨system.store, entry, next.store⟩).toList ++ next.transitions process later

/-- A step of another process is not among those of this one. -/
theorem transitions_other {process : Nat} {system next : System P} {event : Event P}
    {later : List (Event P)} (stepped : system.step event = some next)
    (apart : event.actor ≠ process) :
    system.transitions process (event :: later) = next.transitions process later := by
  obtain ⟨entry, logged, actor⟩ := step_log stepped
  have other : entry.process ≠ process := actor ▸ apart
  simp [transitions, stepped, logged, other]

/-- A step of the process itself comes first. -/
theorem transitions_own {process : Nat} {system : System P} {event : Event P}
    {later : List (Event P)} {store : P.Store} {loop : P.Loop} {action : Action P}
    {rest : Dialogue I (Option P.Loop)}
    (stepped : system.step event = some (system.advance process store loop action (some rest))) :
    system.transitions process (event :: later) =
      ⟨system.store, ⟨process, loop, action, rest.printed⟩, store⟩ ::
        (system.advance process store loop action (some rest)).transitions process later := by
  have logged : (system.advance process store loop action (some rest)).log =
      ⟨process, loop, action, rest.printed⟩ :: system.log := rfl
  have kept : (system.advance process store loop action (some rest)).store = store := rfl
  simp [transitions, stepped, logged, kept, Option.filter]

/-- What the steps of other processes keep, and every line and every answer of a call, holds at
any rest of the call. -/
theorem call {process : Nat} {loop : P.Loop}
    {holds : System P → List (Transition P) → Dialogue I (Option P.Loop) → Prop}
    (others : ∀ moment next steps rest event, moment.step event = some next →
      event.actor ≠ process → holds moment steps rest → holds next steps rest)
    (line : ∀ moment steps printed next line,
      moment.process process = some ⟨loop, .read printed next⟩ →
      holds moment steps (.read printed next) →
        holds (moment.advance process moment.store loop (.typed line) (some (next line)))
          (steps ++ [⟨moment.store, ⟨process, loop, .typed line, (next line).printed⟩,
            moment.store⟩]) (next line))
    (answer : ∀ moment steps printed request next choice store answer,
      moment.process process = some ⟨loop, .ask printed request next⟩ →
      P.serve request choice moment.store = some (store, answer) →
      holds moment steps (.ask printed request next) →
        holds (moment.advance process store loop (.served request choice answer)
            (some (next answer)))
          (steps ++ [⟨moment.store, ⟨process, loop, .served request choice answer,
            (next answer).printed⟩, store⟩]) (next answer))
    {system last : System P} {events : List (Event P)} {rest : Dialogue I (Option P.Loop)}
    {steps : List (Transition P)} (runs : system.process process = some ⟨loop, rest⟩)
    (start : holds system steps rest) (ran : system.run events = some last)
    (within : ∀ event ∈ events, event.Within process) :
    ∃ rest', last.process process = some ⟨loop, rest'⟩ ∧
      holds last (steps ++ system.transitions process events) rest' := by
  induction events generalizing system rest steps with
  | nil =>
    obtain rfl := Option.some.inj ran
    exact ⟨rest, runs, by rw [transitions, List.append_nil]; exact start⟩
  | cons event later ih =>
    obtain ⟨next, stepped, ran⟩ := run_cons ran
    have inside := within event List.mem_cons_self
    have more : ∀ event ∈ later, event.Within process :=
      fun event present => within event (List.mem_cons_of_mem _ present)
    by_cases own : event.actor = process
    · cases step_move stepped with
      | start _ | turn _ | leave _ | kill _ => exact absurd own inside
      | @type actor _ _ _ typed waits =>
        have same : actor = process := own
        subst same
        obtain ⟨rfl, rfl⟩ := Process.mk.inj (Option.some.inj (runs.symm.trans waits))
        rw [transitions_own stepped, List.append_cons]
        exact ih (advance_self _ _ _ _ _ _) (line _ _ _ _ typed waits start) ran more
      | @serve actor _ _ _ _ _ _ _ waits served =>
        have same : actor = process := own
        subst same
        obtain ⟨rfl, rfl⟩ := Process.mk.inj (Option.some.inj (runs.symm.trans waits))
        rw [transitions_own stepped, List.append_cons]
        exact ih (advance_self _ _ _ _ _ _) (answer _ _ _ _ _ _ _ _ waits served start) ran more
    · have rests : next.process process = some ⟨loop, rest⟩ := by
        rw [← runs]
        cases step_move stepped <;> exact advance_other _ (Ne.symm own) _ _ _ _
      rw [transitions_other stepped own]
      exact ih rests (others _ _ _ _ _ stepped own start) ran more

end System

end Interleaving
