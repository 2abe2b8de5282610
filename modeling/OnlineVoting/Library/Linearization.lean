import OnlineVoting.Library.Call
import OnlineVoting.Library.Solo

/-!
# The point of a call

A call does all it does at one of its own steps, when all others leave the store as they found it.
This module tells that step from the outside: what a call heard until it returned, the moment at
which each of its steps was taken, and how the stores of an undisturbed call hang together, so that
its only effect is an effect on the store that it began with.
-/
namespace Interleaving

variable {I : Interface} {P : Program I} {α β : Type}

/-! ## What a call hears -/

/-- A line typed at the console of a call, or the answer to its request. -/
inductive Heard (I : Interface) where
  /-- A line was typed. -/
  | line (line : String)
  /-- A request was answered. -/
  | answer (request : I.Request) (answer : I.Answer request)

/-- What a process hears at a step. -/
def Action.heard : Action P → Option (Heard I)
  | .typed line => some (.line line)
  | .served request _ answer => some (.answer request answer)
  | _ => none

/-- What a process heard at some of its steps, newest first. -/
def heardIn (steps : List (Transition P)) : List (Heard I) :=
  (steps.filterMap fun step => step.entry.action.heard).reverse

/-- The lines among what was heard. -/
def linesHeard (heard : List (Heard I)) : List String :=
  heard.filterMap fun
    | .line line => some line
    | .answer _ _ => none

/-- One more step adds what was heard at it. -/
theorem heardIn_concat (steps : List (Transition P)) (step : Transition P) :
    heardIn (steps ++ [step]) = step.entry.action.heard.toList ++ heardIn steps := by
  rw [heardIn, List.filterMap_append, List.reverse_append]
  cases heard : step.entry.action.heard <;> simp [heardIn, heard]

/-- The lines heard are those typed. -/
theorem linesHeard_heardIn (steps : List (Transition P)) :
    linesHeard (heardIn steps) = typedIn steps := by
  rw [linesHeard, heardIn, typedIn, List.filterMap_reverse, List.filterMap_filterMap]
  congr 1
  refine List.filterMap_congr fun step _ => ?_
  cases step.entry.action <;> rfl

/-- Whatever a dialogue hears, this holds when it returns of all that it heard. -/
def Dialogue.Ends (holds : List (Heard I) → List I.Output → α → Prop) :
    Dialogue I α → List (Heard I) → Prop
  | .done printed value, heard => holds heard printed value
  | .read _ next, heard => ∀ line, Ends holds (next line) (.line line :: heard)
  | .ask _ request next, heard => ∀ answer, Ends holds (next answer) (.answer request answer :: heard)

/-- A dialogue that another one calls last ends as the whole does. -/
theorem Dialogue.Ends.bind_done {result : α → β} {holds : List (Heard I) → List I.Output → β → Prop}
    {rest : Dialogue I α} {heard : List (Heard I)}
    (ends : rest.Ends (fun heard printed value => holds heard printed (result value)) heard) :
    (rest >>= fun value => Dialogue.done [] (result value)).Ends holds heard := by
  induction rest generalizing heard with
  | done printed value =>
    rw [done_bind, prepend_done, List.append_nil]
    exact ends
  | read printed next ih =>
    rw [read_bind]
    exact fun line => ih line (ends line)
  | ask printed request next ih =>
    rw [ask_bind]
    exact fun answer => ih answer (ends answer)

namespace System

/-- A call that returns has ended on all that it heard. -/
theorem call_ends {process : Nat} {loop : P.Loop}
    {holds : List (Heard I) → List I.Output → Option P.Loop → Prop} {system last : System P}
    {events : List (Event P)} {rest : Dialogue I (Option P.Loop)}
    (runs : system.process process = some ⟨loop, rest⟩) (ends : rest.Ends holds [])
    (ran : system.run events = some last) (within : ∀ event ∈ events, event.Within process)
    {printed : List I.Output} {value : Option P.Loop}
    (returned : last.process process = some ⟨loop, .done printed value⟩) :
    holds (heardIn (system.transitions process events)) printed value := by
  let kept (_ : System P) (steps : List (Transition P)) (rest : Dialogue I (Option P.Loop)) : Prop :=
    rest.Ends holds (heardIn steps)
  have others (moment next : System P) (steps : List (Transition P))
      (rest : Dialogue I (Option P.Loop)) (event : Event P) (_ : moment.step event = some next)
      (_ : event.actor ≠ process) (before : kept moment steps rest) : kept next steps rest :=
    before
  obtain ⟨rest', now, done⟩ := @call _ _ process loop kept others
    (fun moment steps printed next line _ before => by
      show (next line).Ends holds (heardIn (steps ++ [_]))
      rw [heardIn_concat]
      exact before line)
    (fun moment steps printed request next choice store answer _ _ before => by
      show (next answer).Ends holds (heardIn (steps ++ [_]))
      rw [heardIn_concat]
      exact before answer)
    _ _ _ _ [] runs ends ran within
  obtain ⟨_, rfl⟩ := Process.mk.inj (Option.some.inj (returned.symm.trans now))
  exact done

/-! ## The moment of a step -/

/-- The moment at which a step of a process was taken. -/
structure Moment (process : Nat) (system : System P) (step : Transition P) (moment next : System P)
    (event : Event P) : Prop where
  /-- A run led to it. -/
  reached : ∃ earlier, system.run earlier = some moment
  /-- The step was taken there. -/
  stepped : moment.step event = some next
  /-- The process took it. -/
  actor : event.actor = process
  /-- The step found this store. -/
  before : step.before = moment.store
  /-- The step left this store. -/
  after : step.after = next.store
  /-- The log keeps it. -/
  logged : next.log = step.entry :: moment.log

/-- Every step of a process was taken at some moment. -/
theorem moment_of_transition {process : Nat} {system : System P} {events : List (Event P)}
    {step : Transition P} (present : step ∈ system.transitions process events) :
    ∃ moment next event, event ∈ events ∧ Moment process system step moment next event := by
  induction events generalizing system with
  | nil => exact absurd present List.not_mem_nil
  | cons event later ih =>
    unfold transitions at present
    split at present
    · exact absurd present List.not_mem_nil
    · rename_i next stepped
      obtain ⟨entry, logged, actor⟩ := step_log stepped
      rcases List.mem_append.mp present with now | further
      · simp only [logged, List.head?_cons, Option.filter, Option.mem_toList] at now
        split at now
        · rename_i own
          obtain rfl := Option.some.inj now
          exact ⟨system, next, event, List.mem_cons_self, ⟨[], rfl⟩, stepped, actor ▸ of_decide_eq_true own, rfl, rfl,
            logged⟩
        · contradiction
      · obtain ⟨moment, after, act, inside, found⟩ := ih further
        obtain ⟨earlier, ran⟩ := found.reached
        exact ⟨moment, after, act, List.mem_cons_of_mem event inside, ⟨⟨event :: earlier, run_step stepped ran⟩, found.stepped,
          found.actor, found.before, found.after, found.logged⟩⟩

/-! ## Calls that nobody disturbs -/

/-- Steps that hang together: each finds the store that the one before it left. -/
inductive Relay : P.Store → List (Transition P) → P.Store → Prop where
  | nil (store : P.Store) : Relay store [] store
  | cons {step : Transition P} {steps : List (Transition P)} {last : P.Store}
    (rest : Relay step.after steps last) : Relay step.before (step :: steps) last

/-- What all steps keep is kept throughout. -/
theorem Relay.keeps {γ : Type} (view : P.Store → γ) {first last : P.Store}
    {steps : List (Transition P)} (relay : Relay first steps last)
    (kept : ∀ step ∈ steps, view step.after = view step.before) : view last = view first := by
  induction relay with
  | nil store => rfl
  | cons rest ih =>
    rw [ih fun step present => kept step (List.mem_cons_of_mem _ present)]
    exact kept _ List.mem_cons_self

/-- When all steps but one keep a view of the store, that one found the first view and left the
last. -/
theorem Relay.point {γ : Type} (view : P.Store → γ) {first last : P.Store}
    {before after : List (Transition P)} {point : Transition P}
    (relay : Relay first (before ++ point :: after) last)
    (kept : ∀ step ∈ before ++ after, view step.after = view step.before) :
    view point.before = view first ∧ view last = view point.after := by
  induction before generalizing first with
  | nil =>
    cases relay with
    | cons rest => exact ⟨rfl, rest.keeps view kept⟩
  | cons step before ih =>
    cases relay with
    | cons rest =>
      obtain ⟨found, left⟩ := ih rest fun other present => kept other (List.mem_cons_of_mem _ present)
      exact ⟨found.trans (kept step List.mem_cons_self), left⟩

/-- The steps of a process that nobody disturbs hang together. -/
theorem relay_of_undisturbed {healthy : P.Choice → Prop} {process : Nat} {system last : System P}
    {events : List (Event P)} (ran : system.run events = some last)
    (undisturbed : ∀ event ∈ events, event.Undisturbed healthy process) :
    Relay system.store (system.transitions process events) last.store := by
  induction events generalizing system with
  | nil =>
    obtain rfl := Option.some.inj ran
    exact .nil _
  | cons event later ih =>
    obtain ⟨next, stepped, ran⟩ := run_cons ran
    have rest := ih ran fun other present => undisturbed other (List.mem_cons_of_mem event present)
    have now := undisturbed event List.mem_cons_self
    obtain ⟨entry, logged, actor⟩ := step_log stepped
    by_cases own : event.actor = process
    · have first : system.transitions process (event :: later) =
          ⟨system.store, entry, next.store⟩ :: next.transitions process later := by
        simp [transitions, stepped, logged, actor, own, Option.filter]
      rw [first]
      exact @Relay.cons _ _ ⟨system.store, entry, next.store⟩ _ _ rest
    · have kept : next.store = system.store := by
        cases step_move stepped with
        | serve _ _ => exact absurd now.1 own
        | start _ | type _ _ | turn _ | leave _ | kill _ => rfl
      rw [transitions_other stepped own, ← kept]
      exact rest

end System

end Interleaving
