import OnlineVoting.Library.Solo

/-!
# Rounds that end, and processes that can be left

A round that takes a bounded number of lines and answers, whatever they are, ends. From there on a
process is left by typing, in every loop, the line that ends it: then it takes a bounded number of
further steps, whatever is answered to it and whatever other processes do, and there is always a
next step to take.
-/
namespace Interleaving

variable {I : Interface} {P : Program I} {α β : Type}

/-! ## Bounded dialogues -/

/-- A dialogue returns after at most so many lines and answers, with a value of the kind. -/
def Dialogue.Bounded (kind : α → Prop) : Dialogue I α → Nat → Prop
  | .done _ value, _ => kind value
  | .read _ _, 0 => False
  | .read _ next, n + 1 => ∀ line, Bounded kind (next line) n
  | .ask _ _ _, 0 => False
  | .ask _ _ next, n + 1 => ∀ answer, Bounded kind (next answer) n

namespace Dialogue.Bounded

variable {kind : α → Prop}

/-- A larger bound is a bound. -/
theorem mono {rest : Dialogue I α} {n : Nat} (bounded : rest.Bounded kind n) {m : Nat}
    (larger : n ≤ m) : rest.Bounded kind m := by
  induction rest generalizing n m with
  | done printed value =>
    cases m <;> cases n <;> exact bounded
  | read printed next ih =>
    cases n with
    | zero => exact bounded.elim
    | succ n =>
      cases m with
      | zero => omega
      | succ m => exact fun line => ih line (bounded line) (by omega)
  | ask printed request next ih =>
    cases n with
    | zero => exact bounded.elim
    | succ n =>
      cases m with
      | zero => omega
      | succ m => exact fun answer => ih answer (bounded answer) (by omega)

/-- A dialogue that returns does so within any bound. -/
theorem done {printed : List I.Output} {value : α} (holds : kind value) (n : Nat) :
    (Dialogue.done printed value : Dialogue I α).Bounded kind n := by
  cases n <;> exact holds

/-- A line that is read is one step. -/
theorem read {printed : List I.Output} {next : String → Dialogue I α} {n : Nat}
    (bounded : ∀ line, (next line).Bounded kind n) :
    (Dialogue.read printed next).Bounded kind (n + 1) := bounded

/-- An answer is one step. -/
theorem ask {printed : List I.Output} {request : I.Request}
    {next : I.Answer request → Dialogue I α} {n : Nat}
    (bounded : ∀ answer, (next answer).Bounded kind n) :
    (Dialogue.ask printed request next).Bounded kind (n + 1) := bounded

/-- What was printed before does not count. -/
theorem prepend {rest : Dialogue I α} {n : Nat} (bounded : rest.Bounded kind n)
    (printed : List I.Output) : (rest.prepend printed).Bounded kind n := by
  cases rest with
  | done _ _ =>
    rw [prepend_done]
    cases n <;> exact bounded
  | read _ _ =>
    rw [prepend_read]
    cases n <;> exact bounded
  | ask _ _ _ =>
    rw [prepend_ask]
    cases n <;> exact bounded

/-- A dialogue that another one calls last has its bound. -/
theorem bind_done {other : β → Prop} {result : α → β} {rest : Dialogue I α} {n : Nat}
    (bounded : rest.Bounded kind n) (maps : ∀ value, kind value → other (result value)) :
    (rest >>= fun value => Dialogue.done [] (result value)).Bounded other n := by
  induction rest generalizing n with
  | done printed value =>
    rw [Dialogue.done_bind, prepend_done]
    cases n <;> exact maps value bounded
  | read printed next ih =>
    rw [read_bind]
    cases n with
    | zero => exact bounded.elim
    | succ n => exact fun line => ih line (bounded line)
  | ask printed request next ih =>
    rw [ask_bind]
    cases n with
    | zero => exact bounded.elim
    | succ n => exact fun answer => ih answer (bounded answer)

end Dialogue.Bounded

/-- When the bodies of all loops are bounded, a round has taken no more steps than its bound leaves
for the rest of it. -/
theorem System.Reachable.bounded {kind : P.Loop → Option P.Loop → Prop} {bound : P.Loop → Nat}
    (bodies : ∀ loop, (P.body loop).Bounded (kind loop) (bound loop)) {system : System P}
    (reachable : system.Reachable) {process : Nat} {loop : P.Loop}
    {rest : Dialogue I (Option P.Loop)} (runs : system.process process = some ⟨loop, rest⟩) :
    ∃ n, rest.Bounded (kind loop) n ∧ (roundOf process system.log).length + n = bound loop := by
  let holds (loop : P.Loop) (round : List (Entry P)) (rest : Dialogue I (Option P.Loop)) : Prop :=
    ∃ n, rest.Bounded (kind loop) n ∧ round.length + n = bound loop
  refine @System.Reachable.rounds _ _ process holds ?_ ?_ ?_ _ reachable _ _ runs
  · intro loop
    exact ⟨bound loop, bodies loop, by simp⟩
  · rintro loop round printed next line ⟨n, bounded, count⟩
    cases n with
    | zero => exact bounded.elim
    | succ n => exact ⟨n, bounded line, by rw [List.length_cons]; omega⟩
  · rintro loop round printed request next choice answer ⟨n, bounded, count⟩
    cases n with
    | zero => exact bounded.elim
    | succ n => exact ⟨n, bounded answer, by rw [List.length_cons]; omega⟩

/-! ## Leaving -/

/-- Typing in every loop its line, a process is left within so many steps of its own, whatever is
answered. -/
def Leaves (exit : P.Loop → String) : Nat → P.Loop → Dialogue I (Option P.Loop) → Prop
  | 0, _, _ => False
  | _ + 1, _, .done _ none => True
  | n + 1, _, .done _ (some next) => Leaves exit n next (P.body next)
  | n + 1, loop, .read _ next => Leaves exit n loop (next (exit loop))
  | n + 1, loop, .ask _ _ next => ∀ answer, Leaves exit n loop (next answer)

namespace Leaves

variable {exit : P.Loop → String}

/-- More steps do no harm. -/
theorem succ {n : Nat} {loop : P.Loop} {rest : Dialogue I (Option P.Loop)}
    (leaves : Leaves exit n loop rest) : Leaves exit (n + 1) loop rest := by
  induction n generalizing loop rest with
  | zero => exact leaves.elim
  | succ n ih =>
    cases rest with
    | done printed value =>
      cases value with
      | none => trivial
      | some next => exact ih leaves
    | read printed next => exact ih leaves
    | ask printed request next => exact fun answer => ih (leaves answer)

/-- More steps do no harm. -/
theorem mono {n m : Nat} {loop : P.Loop} {rest : Dialogue I (Option P.Loop)}
    (leaves : Leaves exit n loop rest) (larger : n ≤ m) : Leaves exit m loop rest := by
  induction m, larger using Nat.le_induction with
  | base => exact leaves
  | succ m _ ih => exact ih.succ

/-- A bounded round is left when it is left from every return of it. -/
theorem of_bounded {kind : Option P.Loop → Prop} {loop : P.Loop} {n m : Nat}
    {rest : Dialogue I (Option P.Loop)} (bounded : rest.Bounded kind n)
    (returns : ∀ printed value, kind value → Leaves exit m loop (.done printed value)) :
    Leaves exit (n + m) loop rest := by
  induction rest generalizing n with
  | done printed value =>
    have holds : kind value := by cases n <;> exact bounded
    exact (returns printed value holds).mono (by omega)
  | read printed next ih =>
    cases n with
    | zero => exact bounded.elim
    | succ n =>
      rw [Nat.succ_add]
      exact ih _ (bounded (exit loop))
  | ask printed request next ih =>
    cases n with
    | zero => exact bounded.elim
    | succ n =>
      rw [Nat.succ_add]
      exact fun answer => ih answer (bounded answer)

end Leaves

namespace System

variable {exit : P.Loop → String}

/-- A process that is there is left within so many steps of its own. -/
def Leaving (exit : P.Loop → String) (process : Nat) (n : Nat) (system : System P) : Prop :=
  ∀ loop rest, system.process process = some ⟨loop, rest⟩ → Leaves exit n loop rest

/-- A step of the process brings it nearer to its end. -/
theorem Leaving.own {process n : Nat} {system next : System P} {event : Event P}
    {entry : Entry P} (leaving : Leaving exit process n system)
    (stepped : system.step event = some next) (logged : next.log = entry :: system.log)
    (own : event.actor = process) (started : event ≠ .start process)
    (exits : ∀ line, entry.action = .typed line → line = exit entry.loop) :
    ∃ m, n = m + 1 ∧ Leaving exit process m next := by
  subst own
  have gone {store : P.Store} {loop : P.Loop} {action : Action P}
      {rest : Dialogue I (Option P.Loop)} {m : Nat} (leaves : Leaves exit m loop rest) :
      Leaving exit event.actor m (system.advance event.actor store loop action (some rest)) := by
    intro running dialogue runs
    rw [advance_self] at runs
    obtain ⟨rfl, rfl⟩ := Process.mk.inj (Option.some.inj runs)
    exact leaves
  have ended {store : P.Store} {loop : P.Loop} {action : Action P} (m : Nat) :
      Leaving exit event.actor m (system.advance event.actor store loop action none) := by
    intro running dialogue runs
    rw [advance_self] at runs
    contradiction
  cases n with
  | zero =>
    cases step_move stepped with
    | start _ => exact absurd rfl started
    | type _ waits => exact (leaving _ _ waits).elim
    | serve waits _ => exact (leaving _ _ waits).elim
    | turn returned => exact (leaving _ _ returned).elim
    | leave returned => exact (leaving _ _ returned).elim
    | kill runs => exact (leaving _ _ runs).elim
  | succ n =>
    refine ⟨n, rfl, ?_⟩
    cases step_move stepped with
    | start _ => exact absurd rfl started
    | type line waits =>
      obtain ⟨rfl, _⟩ := List.cons.inj logged
      have typed := exits line rfl
      have leaves := leaving _ _ waits
      rw [typed]
      exact gone leaves
    | serve waits _ => exact gone (leaving _ _ waits _)
    | turn returned => exact gone (leaving _ _ returned)
    | leave _ => exact ended n
    | kill _ => exact ended n

/-- A run brings a process nearer to its end by every step of the process. -/
theorem Leaving.run {process n : Nat} {system last : System P} {events : List (Event P)}
    (leaving : Leaving exit process n system) (ran : system.run events = some last)
    (started : ∀ event ∈ events, event ≠ .start process) {newer : List (Entry P)}
    (logged : last.log = newer ++ system.log)
    (exits : ∀ entry ∈ newer, entry.process = process →
      ∀ line, entry.action = .typed line → line = exit entry.loop) :
    ∃ m, n = m + (stepsOf process newer).length ∧ Leaving exit process m last := by
  induction events generalizing system n newer with
  | nil =>
    obtain rfl := Option.some.inj ran
    have none : newer = [] := by
      have lengths := congrArg List.length logged
      rw [List.length_append] at lengths
      exact List.length_eq_zero_iff.mp (by omega)
    rw [none]
    exact ⟨n, rfl, leaving⟩
  | cons event later ih =>
    obtain ⟨next, stepped, ran⟩ := run_cons ran
    obtain ⟨entry, first, actor⟩ := step_log stepped
    obtain ⟨rest, grown, _⟩ := run_log ran
    have split : newer = rest ++ [entry] := by
      have both : newer ++ system.log = (rest ++ [entry]) ++ system.log := by
        rw [← logged, grown, first, List.append_assoc, List.singleton_append]
      exact List.append_cancel_right both
    subst split
    have whole : stepsOf process (rest ++ [entry]) = stepsOf process rest ++ stepsOf process [entry] :=
      List.filter_append _ _
    have further : ∀ event ∈ later, event ≠ .start process :=
      fun other present => started other (List.mem_cons_of_mem event present)
    have typed : ∀ entry ∈ rest, entry.process = process →
        ∀ line, entry.action = .typed line → line = exit entry.loop :=
      fun other present => exits other (List.mem_append_left _ present)
    by_cases own : event.actor = process
    · obtain ⟨m, rfl, nearer⟩ := leaving.own stepped first own (started event List.mem_cons_self)
        (exits entry (by simp) (actor.trans own))
      obtain ⟨k, rfl, left⟩ := ih nearer ran further grown typed
      refine ⟨k, ?_, left⟩
      have one : stepsOf process [entry] = [entry] := by simp [stepsOf, actor, own]
      rw [whole, one, List.length_append, List.length_singleton]
      omega
    · have kept : Leaving exit process n next := by
        intro loop dialogue runs
        refine leaving loop dialogue ?_
        rw [← runs]
        cases step_move stepped <;> exact (advance_other _ (Ne.symm own) _ _ _ _).symm
      obtain ⟨k, count, left⟩ := ih kept ran further grown typed
      refine ⟨k, ?_, left⟩
      have other : stepsOf process [entry] = [] := by simp [stepsOf, actor, own]
      rw [whole, other, List.append_nil]
      exact count

/-- By at most so many steps of its own, a process can be left with nothing else changed. -/
def CanLeave (process n : Nat) (system : System P) : Prop :=
  ∃ events last, system.run events = some last ∧ events.length ≤ n ∧
    (∀ event ∈ events, event.actor = process ∧ event ≠ .kill process) ∧
    last.process process = none ∧ last.store = system.store ∧
    ∀ other, other ≠ process → last.process other = system.process other

/-- A step of the process that keeps the store may come first. -/
theorem CanLeave.step {process n : Nat} {system : System P} {event : Event P} {loop : P.Loop}
    {action : Action P} {rest : Dialogue I (Option P.Loop)}
    (leaves : CanLeave process n (system.advance process system.store loop action (some rest)))
    (stepped : system.step event =
      some (system.advance process system.store loop action (some rest)))
    (own : event.actor = process) (kept : event ≠ .kill process) :
    CanLeave process (n + 1) system := by
  obtain ⟨events, last, ran, few, all, gone, same, others⟩ := leaves
  refine ⟨event :: events, last, run_step stepped ran, ?_, ?_, gone, same, ?_⟩
  · rw [List.length_cons]
    omega
  · intro other present
    rcases List.mem_cons.mp present with rfl | inside
    · exact ⟨own, kept⟩
    · exact all other inside
  · intro other apart
    rw [others other apart]
    exact advance_other _ apart _ _ _ _

/-- Where every request can be answered with the store kept, a process that is left by typing the
lines can be left with nothing else changed. -/
theorem canLeave_of_leaves (idles : ∀ request store, ∃ choice answer,
    P.serve request choice store = some (store, answer)) {process n : Nat} {system : System P}
    {loop : P.Loop} {rest : Dialogue I (Option P.Loop)}
    (runs : system.process process = some ⟨loop, rest⟩) (leaves : Leaves exit n loop rest) :
    CanLeave process n system := by
  induction n generalizing system loop rest with
  | zero => exact leaves.elim
  | succ n ih =>
    cases rest with
    | done printed value =>
      cases value with
      | none =>
        have stepped : system.step (.turn process) =
            some (system.advance process system.store loop .stopped none) := by
          simp [step, runs]
        refine ⟨[.turn process], _, run_step stepped (run_nil _), by simp, by simp [Event.actor],
          ?_, rfl, fun other apart => advance_other _ apart _ _ _ _⟩
        rw [advance_self]
        rfl
      | some next => exact (ih (advance_self _ _ _ _ _ _) leaves).step (step_turn runs) rfl (by simp)
    | read printed next =>
      exact (ih (advance_self _ _ _ _ _ _) leaves).step (step_type runs (exit loop)) rfl (by simp)
    | ask printed request next =>
      obtain ⟨choice, answer, served⟩ := idles request system.store
      exact (ih (advance_self _ _ _ _ _ _) (leaves answer)).step (step_serve runs served) rfl
        (by simp)

end System

end Interleaving
