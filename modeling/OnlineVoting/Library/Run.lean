import OnlineVoting.Library.Dialogue

/-!
# Interleaved runs of many processes over one store

Any number of processes run the same program, each a chain of loops whose bodies are dialogues.
They share one store, and nothing else: a request is one atomic step on it. A run is any order
of launches, typed lines, served requests, turns of a loop, and ends of processes; the store
makes its free choices (identifiers, row order, failures) at the step that serves a request.
Every step is written down in a log, newest first, together with what it printed.
-/
namespace Interleaving

/-- A program, and the store that serves its requests. -/
structure Program (I : Interface) where
  /-- State of the shared store. -/
  Store : Type
  /-- What the store decides on its own when it serves a request. -/
  Choice : Type
  /-- Serve one request; `none` when the store never makes this choice in this state. -/
  serve : (request : I.Request) → Choice → Store → Option (Store × I.Answer request)
  /-- The store before any process has run. -/
  initial : Store
  /-- The loops of the program. -/
  Loop : Type
  /-- The loop a launched process begins with. -/
  boot : Loop
  /-- One round of a loop, returning the loop to continue with, or `none` to end the process. -/
  body : Loop → Dialogue I (Option Loop)

variable {I : Interface}

/-- What happened at one step. -/
inductive Action (P : Program I) : Type where
  /-- A process was launched. -/
  | started
  /-- A line was typed at its console. -/
  | typed (line : String)
  /-- A request of it was served. -/
  | served (request : I.Request) (choice : P.Choice) (answer : I.Answer request)
  /-- It began a round of a loop. -/
  | turned
  /-- It ended, by its own decision or not. -/
  | stopped

/-- One step as the log keeps it. -/
structure Entry (P : Program I) where
  /-- The process that took the step. -/
  process : Nat
  /-- The loop it is in after the step. -/
  loop : P.Loop
  /-- What happened. -/
  action : Action P
  /-- What the step printed at the console of the process. -/
  printed : List I.Output

/-- The shared store, and everything that happened so far, newest first. -/
structure World (P : Program I) where
  /-- State of the shared store. -/
  store : P.Store
  /-- Steps taken, newest first. -/
  log : List (Entry P)

/-- A running process. -/
structure Process (P : Program I) where
  /-- The loop it is in. -/
  loop : P.Loop
  /-- The rest of the round. -/
  rest : Dialogue I (Option P.Loop)

/-- The world and the processes that run in it. -/
structure System (P : Program I) extends World P where
  /-- The running process of each number, if any. -/
  process : Nat → Option (Process P)

/-- One scheduled step. -/
inductive Event (P : Program I) : Type where
  /-- Launch a process. -/
  | start (process : Nat)
  /-- Type a line at the console of a process that waits for one. -/
  | type (process : Nat) (line : String)
  /-- Serve the request a process waits for. -/
  | serve (process : Nat) (choice : P.Choice)
  /-- Begin the next round, or end the process, after a round has returned. -/
  | turn (process : Nat)
  /-- End a process at any rest. -/
  | kill (process : Nat)

variable {P : Program I}

/-- The process that takes the step. -/
def Event.actor : Event P → Nat
  | .start process | .type process _ | .serve process _ | .turn process | .kill process => process

/-- Write down a step. -/
def World.record (world : World P) (store : P.Store) (entry : Entry P) : World P where
  store := store
  log := entry :: world.log

@[simp] theorem World.record_store (world : World P) (store : P.Store) (entry : Entry P) :
    (world.record store entry).store = store := rfl

@[simp] theorem World.record_log (world : World P) (store : P.Store) (entry : Entry P) :
    (world.record store entry).log = entry :: world.log := rfl

namespace System

/-- No process has run yet. -/
def initial (P : Program I) : System P where
  store := P.initial
  log := []
  process _ := none

/-- The request a process waits for. -/
def requested (system : System P) (process : Nat) : Option I.Request :=
  (system.process process).bind fun running => running.rest.requested

/-- A process that waits for an answer is at its request. -/
theorem waits_of_requested {system : System P} {process : Nat} {request : I.Request}
    (requests : system.requested process = some request) :
    ∃ loop printed next, system.process process = some ⟨loop, .ask printed request next⟩ := by
  obtain ⟨⟨loop, rest⟩, runs, waits⟩ := Option.bind_eq_some_iff.mp requests
  obtain ⟨printed, next, rfl⟩ := Dialogue.ask_of_requested waits
  exact ⟨loop, printed, next, runs⟩

/-- One step of a process: its next rest, or `none` when it ends. -/
def advance (system : System P) (process : Nat) (store : P.Store) (loop : P.Loop)
    (action : Action P) (rest : Option (Dialogue I (Option P.Loop))) : System P where
  toWorld := system.toWorld.record store
    ⟨process, loop, action, (rest.map Dialogue.printed).getD []⟩
  process := Function.update system.process process (rest.map fun rest => ⟨loop, rest⟩)

/-- The process that took the step is at its next rest. -/
@[simp] theorem advance_self (system : System P) (process : Nat) (store : P.Store) (loop : P.Loop)
    (action : Action P) (rest : Option (Dialogue I (Option P.Loop))) :
    (system.advance process store loop action rest).process process =
      rest.map fun rest => ⟨loop, rest⟩ :=
  Function.update_self ..

/-- The other processes stay where they are. -/
theorem advance_other (system : System P) {process other : Nat} (apart : other ≠ process)
    (store : P.Store) (loop : P.Loop) (action : Action P)
    (rest : Option (Dialogue I (Option P.Loop))) :
    (system.advance process store loop action rest).process other = system.process other :=
  Function.update_of_ne apart ..

/-- One scheduled step; `none` when the process is not at a rest of that kind. -/
def step (system : System P) : Event P → Option (System P)
  | .start process =>
    match system.process process with
    | none => some (system.advance process system.store P.boot .started (some (P.body P.boot)))
    | some _ => none
  | .type process line =>
    match system.process process with
    | some ⟨loop, .read _ next⟩ =>
      some (system.advance process system.store loop (.typed line) (some (next line)))
    | _ => none
  | .serve process choice =>
    match system.process process with
    | some ⟨loop, .ask _ request next⟩ =>
      (P.serve request choice system.store).map fun served =>
        system.advance process served.1 loop (.served request choice served.2)
          (some (next served.2))
    | _ => none
  | .turn process =>
    match system.process process with
    | some ⟨_, .done _ (some loop)⟩ =>
      some (system.advance process system.store loop .turned (some (P.body loop)))
    | some ⟨loop, .done _ none⟩ =>
      some (system.advance process system.store loop .stopped none)
    | _ => none
  | .kill process =>
    match system.process process with
    | some ⟨loop, _⟩ => some (system.advance process system.store loop .stopped none)
    | none => none

/-- Everything a step can do, guards included. -/
inductive Move (system : System P) : Event P → System P → Prop where
  | start {process : Nat} (free : system.process process = none) :
    Move system (.start process)
      (system.advance process system.store P.boot .started (some (P.body P.boot)))
  | type {process : Nat} {loop : P.Loop} {printed : List I.Output}
    {next : String → Dialogue I (Option P.Loop)} (line : String)
    (waits : system.process process = some ⟨loop, .read printed next⟩) :
    Move system (.type process line)
      (system.advance process system.store loop (.typed line) (some (next line)))
  | serve {process : Nat} {loop : P.Loop} {printed : List I.Output} {request : I.Request}
    {next : I.Answer request → Dialogue I (Option P.Loop)} {choice : P.Choice}
    {store : P.Store} {answer : I.Answer request}
    (waits : system.process process = some ⟨loop, .ask printed request next⟩)
    (served : P.serve request choice system.store = some (store, answer)) :
    Move system (.serve process choice)
      (system.advance process store loop (.served request choice answer) (some (next answer)))
  | turn {process : Nat} {loop next : P.Loop} {printed : List I.Output}
    (returned : system.process process = some ⟨loop, .done printed (some next)⟩) :
    Move system (.turn process)
      (system.advance process system.store next .turned (some (P.body next)))
  | leave {process : Nat} {loop : P.Loop} {printed : List I.Output}
    (returned : system.process process = some ⟨loop, .done printed none⟩) :
    Move system (.turn process) (system.advance process system.store loop .stopped none)
  | kill {process : Nat} {loop : P.Loop} {rest : Dialogue I (Option P.Loop)}
    (runs : system.process process = some ⟨loop, rest⟩) :
    Move system (.kill process) (system.advance process system.store loop .stopped none)

/-- The step function takes only the listed moves. -/
theorem step_move {system next : System P} {event : Event P}
    (stepped : system.step event = some next) : Move system event next := by
  cases event with
  | start process =>
    simp only [step] at stepped
    split at stepped
    · rename_i free
      obtain rfl := Option.some.inj stepped
      exact .start free
    · contradiction
  | type process line =>
    simp only [step] at stepped
    split at stepped
    · rename_i waits
      obtain rfl := Option.some.inj stepped
      exact .type line waits
    · contradiction
  | serve process choice =>
    simp only [step] at stepped
    split at stepped
    · rename_i waits
      obtain ⟨⟨store, answer⟩, served, rfl⟩ := Option.map_eq_some_iff.mp stepped
      exact .serve waits served
    · contradiction
  | turn process =>
    simp only [step] at stepped
    split at stepped
    · rename_i returned
      obtain rfl := Option.some.inj stepped
      exact .turn returned
    · rename_i returned
      obtain rfl := Option.some.inj stepped
      exact .leave returned
    · contradiction
  | kill process =>
    simp only [step] at stepped
    split at stepped
    · rename_i runs
      obtain rfl := Option.some.inj stepped
      exact .kill runs
    · contradiction

/-- A process that waits for a line takes the one that is typed. -/
theorem step_type {system : System P} {process : Nat} {loop : P.Loop} {printed : List I.Output}
    {next : String → Dialogue I (Option P.Loop)}
    (waits : system.process process = some ⟨loop, .read printed next⟩) (line : String) :
    system.step (.type process line) = some
      (system.advance process system.store loop (.typed line) (some (next line))) := by
  simp only [step, waits]

/-- A process that waits for an answer takes it when its request is served. -/
theorem step_serve {system : System P} {process : Nat} {loop : P.Loop} {printed : List I.Output}
    {request : I.Request} {next : I.Answer request → Dialogue I (Option P.Loop)}
    (waits : system.process process = some ⟨loop, .ask printed request next⟩) {choice : P.Choice}
    {store : P.Store} {answer : I.Answer request}
    (served : P.serve request choice system.store = some (store, answer)) :
    system.step (.serve process choice) = some
      (system.advance process store loop (.served request choice answer) (some (next answer))) := by
  simp only [step, waits, served, Option.map_some]

/-- A process whose round has returned a loop enters it at its turn. -/
theorem step_turn {system : System P} {process : Nat} {loop next : P.Loop}
    {printed : List I.Output}
    (returned : system.process process = some ⟨loop, .done printed (some next)⟩) :
    system.step (.turn process) =
      some (system.advance process system.store next .turned (some (P.body next))) := by
  simp only [step, returned]

/-- Take the scheduled steps in order. -/
def run (system : System P) : List (Event P) → Option (System P)
  | [] => some system
  | event :: later => (system.step event).bind fun next => next.run later

/-- A state some run leads to. -/
def Reachable (system : System P) : Prop := ∃ events, (initial P).run events = some system

@[simp] theorem run_nil (system : System P) : system.run [] = some system := rfl

/-- A run of a joined schedule is a run of its parts in order. -/
theorem run_append (system : System P) (first second : List (Event P)) :
    system.run (first ++ second) = (system.run first).bind fun middle => middle.run second := by
  induction first generalizing system with
  | nil => rfl
  | cons event first ih =>
    simp only [List.cons_append, run, Option.bind_assoc]
    congr 1
    funext next
    exact ih next

/-- A joined schedule that runs has a state between its parts. -/
theorem run_split {α : Type} {system : System P} {first second : List (Event P)}
    {observe : System P → α} {seen : α}
    (ran : (system.run (first ++ second)).map observe = some seen) :
    ∃ middle last, system.run first = some middle ∧ middle.run second = some last ∧
      observe last = seen := by
  obtain ⟨last, ran, same⟩ := Option.map_eq_some_iff.mp ran
  rw [run_append] at ran
  obtain ⟨middle, before, after⟩ := Option.bind_eq_some_iff.mp ran
  exact ⟨middle, last, before, after, same⟩

/-- A step and a run from where it leads are a run. -/
theorem run_step {system next last : System P} {event : Event P} {later : List (Event P)}
    (stepped : system.step event = some next) (ran : next.run later = some last) :
    system.run (event :: later) = some last := by
  rw [run, stepped, Option.bind_some, ran]

/-- A nonempty run takes its first step and runs on. -/
theorem run_cons {system last : System P} {event : Event P} {later : List (Event P)}
    (ran : system.run (event :: later) = some last) :
    ∃ next, system.step event = some next ∧ next.run later = some last :=
  Option.bind_eq_some_iff.mp ran

/-- What every step keeps, every run keeps. -/
theorem run_keeps {kept : System P → Prop}
    (keeps : ∀ system event next, kept system → system.step event = some next → kept next)
    {system last : System P} {events : List (Event P)} (ran : system.run events = some last)
    (holds : kept system) : kept last := by
  induction events generalizing system with
  | nil =>
    obtain rfl := Option.some.inj ran
    exact holds
  | cons event later ih =>
    obtain ⟨next, stepped, ran⟩ := run_cons ran
    exact ih ran (keeps _ _ _ holds stepped)

/-- A state reached from a reachable state is reachable. -/
theorem Reachable.run {system last : System P} {events : List (Event P)}
    (reachable : system.Reachable) (ran : system.run events = some last) : last.Reachable := by
  obtain ⟨earlier, reached⟩ := reachable
  exact ⟨earlier ++ events, by rw [run_append, reached]; exact ran⟩

/-- A step from a reachable state leads to one. -/
theorem Reachable.step {system next : System P} {event : Event P}
    (reachable : system.Reachable) (stepped : system.step event = some next) : next.Reachable := by
  have ran : system.run [event] = some next := by simp [System.run, stepped]
  exact reachable.run ran

/-- What holds at first, and is kept by every step from a reachable state, holds in every reachable
state. -/
theorem Reachable.keeps {kept : System P → Prop} (start : kept (initial P))
    (keeps : ∀ {state next : System P} {event : Event P}, state.Reachable → kept state →
      state.step event = some next → kept next)
    {system : System P} (reachable : system.Reachable) : kept system := by
  obtain ⟨events, ran⟩ := reachable
  have both (state : System P) (event : Event P) (next : System P)
      (holds : state.Reachable ∧ kept state) (stepped : state.step event = some next) :
      next.Reachable ∧ kept next :=
    ⟨holds.1.step stepped, keeps holds.1 holds.2 stepped⟩
  exact (run_keeps both ran ⟨⟨[], rfl⟩, start⟩).2

/-- A step writes down exactly one entry, of the process that took it. -/
theorem step_log {system next : System P} {event : Event P}
    (stepped : system.step event = some next) :
    ∃ entry : Entry P, next.log = entry :: system.log ∧ entry.process = event.actor := by
  cases step_move stepped <;> exact ⟨_, rfl, rfl⟩

/-- A process that runs after its own step was launched by it, or was in the same loop, or has
returned to the loop it is in; and the step was written down for this loop. -/
theorem step_own {system next : System P} {event : Event P} {entry : Entry P}
    (stepped : system.step event = some next) (logged : next.log = entry :: system.log)
    {process : Nat} (own : event.actor = process) {loop : P.Loop}
    {rest : Dialogue I (Option P.Loop)} (runs : next.process process = some ⟨loop, rest⟩) :
    entry.loop = loop ∧ (loop = P.boot ∨ (∃ before, system.process process = some ⟨loop, before⟩) ∨
      ∃ last printed, system.process process = some ⟨last, .done printed (some loop)⟩) := by
  subst own
  have now {store : P.Store} {loop' : P.Loop} {action : Action P}
      {rest' : Option (Dialogue I (Option P.Loop))}
      (led : next = system.advance event.actor store loop' action rest') :
      entry.loop = loop' ∧ loop' = loop ∧ rest' = some rest := by
    subst led
    obtain ⟨rfl, _⟩ := List.cons.inj logged
    rw [advance_self] at runs
    obtain ⟨dialogue, present, same⟩ := Option.map_eq_some_iff.mp runs
    obtain ⟨rfl, rfl⟩ := Process.mk.inj same
    exact ⟨rfl, rfl, present⟩
  cases step_move stepped with
  | start free =>
    obtain ⟨here, rfl, _⟩ := now rfl
    exact ⟨here, .inl rfl⟩
  | type line waits =>
    obtain ⟨here, rfl, _⟩ := now rfl
    exact ⟨here, .inr (.inl ⟨_, waits⟩)⟩
  | serve waits _ =>
    obtain ⟨here, rfl, _⟩ := now rfl
    exact ⟨here, .inr (.inl ⟨_, waits⟩)⟩
  | turn returned =>
    obtain ⟨here, rfl, _⟩ := now rfl
    exact ⟨here, .inr (.inr ⟨_, _, returned⟩)⟩
  | leave _ | kill _ =>
    obtain ⟨_, _, none⟩ := now rfl
    contradiction

/-- A process whose request was served goes on in its loop. -/
theorem step_served {system next : System P} {event : Event P} {entry : Entry P}
    (stepped : system.step event = some next) (logged : next.log = entry :: system.log)
    {request : I.Request} {choice : P.Choice} {answer : I.Answer request}
    (action : entry.action = .served request choice answer) :
    ∃ rest, next.process entry.process = some ⟨entry.loop, rest⟩ := by
  cases step_move stepped with
  | serve waits _ =>
    obtain ⟨rfl, _⟩ := List.cons.inj logged
    exact ⟨_, advance_self _ _ _ _ _ _⟩
  | start _ | type _ _ | turn _ | leave _ | kill _ =>
    obtain ⟨rfl, _⟩ := List.cons.inj logged
    contradiction

/-- A process that takes no step of a run stays where it is. -/
theorem run_idle {system last : System P} {process : Nat} {events : List (Event P)}
    (idle : ∀ event ∈ events, event.actor ≠ process) (ran : system.run events = some last) :
    last.process process = system.process process := by
  induction events generalizing system with
  | nil =>
    obtain rfl := Option.some.inj ran
    rfl
  | cons event later ih =>
    obtain ⟨next, stepped, ran⟩ := run_cons ran
    have apart : process ≠ event.actor := (idle event List.mem_cons_self).symm
    have first : next.process process = system.process process := by
      cases step_move stepped <;> exact advance_other _ apart ..
    rw [ih (fun other present => idle other (List.mem_cons_of_mem event present)) ran, first]

/-- A run extends the log by as many entries as it has steps. -/
theorem run_log {system last : System P} {events : List (Event P)}
    (ran : system.run events = some last) :
    ∃ newer, last.log = newer ++ system.log ∧ newer.length = events.length := by
  induction events generalizing system with
  | nil =>
    obtain rfl := Option.some.inj ran
    exact ⟨[], rfl, rfl⟩
  | cons event later ih =>
    obtain ⟨next, stepped, ran⟩ := run_cons ran
    obtain ⟨entry, logged, _⟩ := step_log stepped
    obtain ⟨newer, extended, count⟩ := ih ran
    exact ⟨newer ++ [entry], by simp [extended, logged], by simp [count]⟩

end System

/-- The lines typed at the console of a process, newest first. -/
def linesOf (process : Nat) (log : List (Entry P)) : List String :=
  log.filterMap fun entry =>
    match entry.action with
    | .typed line => if entry.process = process then some line else none
    | _ => none

/-- The steps of other processes type no line of this one. -/
theorem linesOf_append_others {process : Nat} {newer log : List (Entry P)}
    (others : ∀ entry ∈ newer, entry.process ≠ process) :
    linesOf process (newer ++ log) = linesOf process log := by
  have silent : linesOf process newer = [] := by
    apply List.filterMap_eq_nil_iff.mpr
    intro entry present
    split
    · simp [others entry present]
    · rfl
  simp only [linesOf, List.filterMap_append] at silent ⊢
  rw [silent, List.nil_append]

/-- A typed line is the newest of its process. -/
theorem linesOf_typed (process : Nat) (loop : P.Loop) (line : String) (printed : List I.Output)
    (log : List (Entry P)) :
    linesOf process (⟨process, loop, .typed line, printed⟩ :: log) =
      line :: linesOf process log := by
  simp [linesOf]

/-- A served request types nothing. -/
theorem linesOf_served (process actor : Nat) (loop : P.Loop) (request : I.Request)
    (choice : P.Choice) (answer : I.Answer request) (printed : List I.Output)
    (log : List (Entry P)) :
    linesOf process (⟨actor, loop, .served request choice answer, printed⟩ :: log) =
      linesOf process log := by
  simp [linesOf]

/-! ## Rounds -/

/-- The step began a round. -/
def Action.begins : Action P → Bool
  | .started | .turned => true
  | _ => false

/-- The steps of a process since it began its round, newest first. -/
def roundOf (process : Nat) (log : List (Entry P)) : List (Entry P) :=
  (log.takeWhile fun entry => !(entry.process = process && entry.action.begins)).filter
    fun entry => entry.process = process

/-- The steps of other processes are not in the round. -/
theorem roundOf_other {process : Nat} {entry : Entry P} (other : entry.process ≠ process)
    (log : List (Entry P)) : roundOf process (entry :: log) = roundOf process log := by
  simp [roundOf, other]

/-- A step that begins a round is not in it. -/
theorem roundOf_begins {action : Action P} (begins : action.begins = true) (process : Nat)
    (loop : P.Loop) (printed : List I.Output) (log : List (Entry P)) :
    roundOf process (⟨process, loop, action, printed⟩ :: log) = [] := by
  simp [roundOf, begins]

/-- Any other step of a process is in its round. -/
theorem roundOf_own {action : Action P} (within : action.begins = false) (process : Nat)
    (loop : P.Loop) (printed : List I.Output) (log : List (Entry P)) :
    roundOf process (⟨process, loop, action, printed⟩ :: log) =
      ⟨process, loop, action, printed⟩ :: roundOf process log := by
  simp [roundOf, within]

/-- The newest step of a round is the newest step of its process. -/
theorem roundOf_newest {process : Nat} {log round : List (Entry P)} {entry : Entry P}
    (newest : roundOf process log = entry :: round) :
    ∃ newer older, log = newer ++ entry :: older ∧ ∀ other ∈ newer, other.process ≠ process := by
  induction log with
  | nil => contradiction
  | cons first log ih =>
    by_cases own : first.process = process
    · cases begins : first.action.begins with
      | true => simp [roundOf, own, begins] at newest
      | false =>
        have same : first = entry := by
          simp only [roundOf, own, begins, Bool.and_false, Bool.not_false, decide_true,
            List.takeWhile_cons_of_pos, List.filter_cons_of_pos, List.cons.injEq] at newest
          exact newest.1
        exact ⟨[], log, by rw [same]; rfl, by simp⟩
    · rw [roundOf_other own] at newest
      obtain ⟨newer, older, split, others⟩ := ih newest
      refine ⟨first :: newer, older, by rw [split]; rfl, fun other present => ?_⟩
      rcases List.mem_cons.mp present with rfl | inside
      · exact own
      · exact others other inside

/-- What holds of every loop when a round begins, and is kept by every line and every answer,
holds of a process at any rest of its round. -/
theorem System.Reachable.rounds {process : Nat}
    {holds : P.Loop → List (Entry P) → Dialogue I (Option P.Loop) → Prop}
    (body : ∀ loop, holds loop [] (P.body loop))
    (line : ∀ loop round printed next line, holds loop round (.read printed next) →
      holds loop (⟨process, loop, .typed line, (next line).printed⟩ :: round) (next line))
    (answer : ∀ loop round printed request next choice answer,
      holds loop round (.ask printed request next) →
        holds loop (⟨process, loop, .served request choice answer, (next answer).printed⟩ :: round)
          (next answer))
    {system : System P} (reachable : system.Reachable) {loop : P.Loop}
    {rest : Dialogue I (Option P.Loop)} (runs : system.process process = some ⟨loop, rest⟩) :
    holds loop (roundOf process system.log) rest := by
  obtain ⟨events, ran⟩ := reachable
  let kept (state : System P) : Prop := ∀ loop rest,
    state.process process = some ⟨loop, rest⟩ → holds loop (roundOf process state.log) rest
  have other {state : System P} (before : kept state) {actor : Nat} (apart : actor ≠ process)
      (store : P.Store) (loop : P.Loop) (action : Action P)
      (rest : Option (Dialogue I (Option P.Loop))) :
      kept (state.advance actor store loop action rest) := by
    intro running dialogue runs
    rw [System.advance_other _ apart.symm] at runs
    have same : roundOf process (state.advance actor store loop action rest).log =
        roundOf process state.log := roundOf_other apart _
    rw [same]
    exact before running dialogue runs
  -- A step of the process itself: what it keeps is stated for its own number.
  have own {state : System P} {actor : Nat} (same : actor = process) (store : P.Store)
      (loop : P.Loop) (action : Action P) (rest : Option (Dialogue I (Option P.Loop)))
      (now : ∀ dialogue, rest = some dialogue →
        holds loop (roundOf process (⟨process, loop, action, dialogue.printed⟩ :: state.log))
          dialogue) : kept (state.advance actor store loop action rest) := by
    subst same
    intro running dialogue runs
    simp only [System.advance_self, Option.map_eq_some_iff, Process.mk.injEq] at runs
    obtain ⟨_, present, rfl, rfl⟩ := runs
    subst present
    exact now _ rfl
  have keeps (state : System P) (event : Event P) (next : System P) (before : kept state)
      (stepped : state.step event = some next) : kept next := by
    by_cases same : event.actor = process
    · cases System.step_move stepped with
      | start _ | turn _ =>
        apply own same _ _ _ _
        intro dialogue present
        obtain rfl := Option.some.inj present
        rw [roundOf_begins rfl]
        exact body _
      | type typed waits =>
        apply own same _ _ _ _
        intro dialogue present
        obtain rfl := Option.some.inj present
        rw [roundOf_own rfl]
        exact line _ _ _ _ _ (before _ _ (by rw [← same]; exact waits))
      | serve waits _ =>
        apply own same _ _ _ _
        intro dialogue present
        obtain rfl := Option.some.inj present
        rw [roundOf_own rfl]
        exact answer _ _ _ _ _ _ _ (before _ _ (by rw [← same]; exact waits))
      | leave _ | kill _ => exact own same _ _ _ _ (by simp)
    · cases System.step_move stepped <;> exact other before same _ _ _ _
  have start : kept (System.initial P) := fun _ _ none => by simp [System.initial] at none
  exact System.run_keeps keeps ran start loop rest runs

/-- In a reachable state, the rest of every round takes the course of its loop, with the lines
typed in the round. -/
theorem System.Reachable.follows {course : P.Loop → Dialogue.Course I (Option P.Loop)}
    (bodies : ∀ loop, (P.body loop).Follows (course loop) []) {system : System P}
    (reachable : system.Reachable) {process : Nat} {loop : P.Loop}
    {rest : Dialogue I (Option P.Loop)} (runs : system.process process = some ⟨loop, rest⟩) :
    rest.Follows (course loop) (linesOf process (roundOf process system.log)) := by
  let holds (loop : P.Loop) (round : List (Entry P)) (rest : Dialogue I (Option P.Loop)) : Prop :=
    rest.Follows (course loop) (linesOf process round)
  refine @System.Reachable.rounds _ _ process holds bodies ?_ ?_ _ reachable _ _ runs
  · intro loop round printed next line follows
    have typed := linesOf_typed process loop line (next line).printed round
    show (next line).Follows (course loop) (linesOf process (_ :: round))
    rw [typed]
    exact follows.line line
  · intro loop round printed request next choice answer follows
    have silent := linesOf_served process process loop request choice answer
      (next answer).printed round
    show (next answer).Follows (course loop) (linesOf process (_ :: round))
    rw [silent]
    exact follows.answer answer

/-- A process shows what its newest step printed, from the first step of its round on. -/
theorem System.Reachable.shown {system : System P} (reachable : system.Reachable)
    {process : Nat} {loop : P.Loop} {rest : Dialogue I (Option P.Loop)}
    (runs : system.process process = some ⟨loop, rest⟩) :
    (roundOf process system.log = [] ∧ rest = P.body loop) ∨
      ∃ entry older, roundOf process system.log = entry :: older ∧
        entry.printed = rest.printed := by
  let holds (loop : P.Loop) (round : List (Entry P)) (rest : Dialogue I (Option P.Loop)) : Prop :=
    (round = [] ∧ rest = P.body loop) ∨
      ∃ entry older, round = entry :: older ∧ entry.printed = rest.printed
  exact @System.Reachable.rounds _ _ process holds (fun _ => .inl ⟨rfl, rfl⟩)
    (fun _ _ _ _ _ _ => .inr ⟨_, _, rfl, rfl⟩) (fun _ _ _ _ _ _ _ _ => .inr ⟨_, _, rfl, rfl⟩)
    _ reachable _ _ runs

/-- A process that has taken no step of its round is at the body of its loop. -/
theorem System.Reachable.at_body {system : System P} (reachable : system.Reachable)
    {process : Nat} {loop : P.Loop}
    (runs : (system.process process).map Process.loop = some loop)
    (none : roundOf process system.log = []) :
    system.process process = some ⟨loop, P.body loop⟩ := by
  obtain ⟨⟨_, rest⟩, present, rfl⟩ := Option.map_eq_some_iff.mp runs
  rcases reachable.shown present with ⟨_, rfl⟩ | ⟨entry, older, some, _⟩
  · exact present
  · rw [none] at some
    contradiction

end Interleaving
