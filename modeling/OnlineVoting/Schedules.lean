import OnlineVoting.Alike
import OnlineVoting.Calls
import OnlineVoting.Library.Reordering
import OnlineVoting.Startup

/-!
# What the order of steps can decide

On a complete database a step that reports no success leaves every table as it is. The consoles
therefore meet in the reported steps alone: two schedules that keep the order of each console, and
the order in which the reported statements are served with respect to the statements of each
console, lead to the same tables and to the same steps at every console; and a process that never
reports a success can be taken out of a run without anybody noticing.
-/
namespace OnlineVoting

open Interleaving Relational

section

variable [Platform]

/-! ## Steps that report nothing -/

/-- Complete databases with the same rows are one database. -/
theorem Database.Complete.eq {left right : Database} (complete : left.Complete)
    (complete' : right.Complete) (rows : left.rows = right.rows) : left = right := by
  have tables : left.Alike (fun _ _ => True) right := by
    apply complete.alike complete'
    · rw [rows]
    · rw [rows]
    · rw [rows]
    · rw [rows]
    · trivial
  have votes : left.votes = right.votes := by
    have present : left.votes.isSome = true := complete.has .votes
    have present' : right.votes.isSome = true := complete'.has .votes
    obtain ⟨table, stored⟩ := Option.isSome_iff_exists.mp present
    obtain ⟨table', stored'⟩ := Option.isSome_iff_exists.mp present'
    have same : Table.rowsOf left.votes = Table.rowsOf right.votes := congrArg Rows.votes rows
    rw [stored, stored'] at same ⊢
    exact congrArg some (Table.ext same)
  obtain ⟨_, _, _, _, _, _⟩ := left
  obtain ⟨_, _, _, _, _, _⟩ := right
  obtain ⟨rfl, rfl, rfl, rfl, _⟩ := tables
  obtain rfl := votes
  rfl

/-- The database is complete while a process is in a menu. -/
theorem complete_of_menu {system : System app} (reachable : system.Reachable) {process : Nat}
    {loop : Loop} (runs : (system.process process).map Process.loop = some loop)
    (menu : loop ≠ .boot) : system.store.Complete := by
  obtain ⟨⟨_, rest⟩, present, rfl⟩ := Option.map_eq_some_iff.mp runs
  exact ((good_of_reachable reachable).ready process _ rest present).complete menu

/-- A complete database stays complete. -/
theorem complete_step {system next : System app} (reachable : system.Reachable)
    (complete : system.store.Complete) {event : Event app}
    (stepped : system.step event = some next) : next.store.Complete := by
  have evolves := (good_of_reachable reachable).evolves rules_sound stepped
  constructor
  · exact evolves.created complete.created
  · exact fun table => evolves.has table (complete.has table)
  · obtain ⟨user, stored, seed⟩ := complete.seeded
    exact ⟨user, evolves.users user stored, seed⟩

/-- A step that reports no success leaves a complete database as it is. -/
theorem silent_step {system next : System app} (reachable : system.Reachable)
    (complete : system.store.Complete) {event : Event app} {entry : Entry app}
    (stepped : system.step event = some next) (logged : next.log = entry :: system.log)
    (silent : ∀ output ∈ entry.printed, output.isSuccess = false) :
    next.store = system.store := by
  cases (good_of_reachable reachable).stepped_entry rules_sound stepped logged with
  | unserved _ kept _ _ => exact kept
  | @served process loop stmt choice answer printed logged _ permit served prints =>
    have quiet : succeeds stmt answer = false := by
      rw [← Bool.not_eq_true]
      intro success
      obtain ⟨message, own⟩ := Option.ne_none_iff_exists'.mp (message_of_succeeds success)
      have confirmed : confirmation (.served stmt choice answer) = some message := by
        rw [confirmation, if_pos success, own]
      have reported := successMessage_isSuccess own
      have present := (prints.announces.mem_iff reported).mpr confirmed
      rw [silent message present] at reported
      contradiction
    have rows : next.store.rows = system.store.rows := by
      by_cases seeds : ∃ passwordHash, stmt = .seedAdmin passwordHash
      · obtain ⟨passwordHash, rfl⟩ := seeds
        -- The seeded account is there, so nothing is left for the seed to add.
        rcases boot_step reachable stepped logged permit.1 with same | ⟨free, _⟩
        · exact same
        · obtain ⟨user, stored, seed⟩ := complete.seeded
          have named : collates user.username "admin" = true := by
            rw [seed, adminUser]
            exact Platform.collates_equivalence.refl "admin"
          rw [free user stored] at named
          contradiction
      · exact (serve_written served).1.quiet quiet fun passwordHash same =>
          seeds ⟨passwordHash, same⟩
    exact Database.Complete.eq (complete_step reachable complete stepped) complete rows

/-! ## Schedules with their reports -/

/-- The newest step reported a success. -/
def reported (system : System app) : Bool :=
  system.log.head?.any fun entry => entry.printed.any Output.isSuccess

/-- A schedule, each step with whether it reports a success. -/
def reports (system : System app) : List (Event app) → List (Event app × Bool)
  | [] => []
  | event :: later =>
    match system.step event with
    | none => []
    | some next => (event, reported next) :: reports next later

/-- The reports of a run are of its steps, in their order. -/
theorem reports_eq {system last : System app} {events : List (Event app)}
    (ran : system.run events = some last) :
    reports system events = events.zip ((reports system events).map Prod.snd) := by
  induction events generalizing system with
  | nil => rfl
  | cons event later ih =>
    obtain ⟨next, stepped, ran⟩ := System.run_cons ran
    have rest := ih ran
    simp only [reports, stepped, List.map_cons, List.zip_cons_cons]
    rw [← rest]

/-- Only the steps that report a success change a complete database. -/
theorem runs_reports {system last : System app} {events : List (Event app)}
    (reachable : system.Reachable) (complete : system.store.Complete)
    (ran : system.run events = some last) : system.Runs (reports system events) last := by
  induction events generalizing system with
  | nil =>
    obtain rfl := Option.some.inj ran
    exact .nil system
  | cons event later ih =>
    obtain ⟨next, stepped, ran⟩ := System.run_cons ran
    obtain ⟨entry, logged, _⟩ := System.step_log stepped
    have kept : reported next = false → next.store = system.store := by
      intro none
      apply silent_step reachable complete stepped logged
      simpa [reported, logged] using none
    have more := ih (reachable.step stepped) (complete_step reachable complete stepped) ran
    simp only [reports, stepped]
    exact .cons stepped kept more

/-- From a complete database on, a run can be rescheduled. Any schedule of the same steps that keeps
the order of the steps of each console, and the order of the reported statements with respect to
the statements of each console, can be run as well; it leads to the same tables, leaves every
process at the same point, and every console has shown the same. -/
theorem reports_decide {system last : System app} {events : List (Event app)}
    (reachable : system.Reachable) (complete : system.store.Complete)
    (ran : system.run events = some last) {other : List (Event app × Bool)}
    (same : SameOrder (reports system events) other) :
    ∃ last', system.run (other.map Prod.fst) = some last' ∧ last'.store = last.store ∧
      last'.process = last.process ∧
      ∀ process, stepsOf process last'.log = stepsOf process last.log := by
  obtain ⟨last', runs, agrees⟩ := (runs_reports reachable complete ran).reorder same
  exact ⟨last', runs.run, agrees.store.symm, agrees.process.symm,
    fun process => (agrees.steps process).symm⟩

/-! ## Processes that report nothing -/

/-- The steps of a process that reports no success leave a complete database as it is. -/
theorem silent_transitions {system last : System app} {events : List (Event app)} {process : Nat}
    (reachable : system.Reachable) (complete : system.store.Complete)
    (ran : system.run events = some last)
    (silent : ∀ step ∈ system.transitions process events,
      ∀ output ∈ step.entry.printed, output.isSuccess = false) :
    ∀ step ∈ system.transitions process events, step.after = step.before := by
  induction events generalizing system with
  | nil => simp [System.transitions]
  | cons event later ih =>
    obtain ⟨next, stepped, ran⟩ := System.run_cons ran
    obtain ⟨entry, logged, actor⟩ := System.step_log stepped
    have further := complete_step reachable complete stepped
    by_cases own : event.actor = process
    · have first : system.transitions process (event :: later) =
          ⟨system.store, entry, next.store⟩ :: next.transitions process later := by
        simp [System.transitions, stepped, logged, actor, own, Option.filter]
      rw [first] at silent ⊢
      intro step present
      rcases List.mem_cons.mp present with rfl | rest
      · exact silent_step reachable complete stepped logged (silent _ List.mem_cons_self)
      · exact ih (reachable.step stepped) further ran
          (fun other inside => silent other (List.mem_cons_of_mem _ inside)) step rest
    · rw [System.transitions_other stepped own] at silent ⊢
      exact ih (reachable.step stepped) further ran silent

/-- From a complete database on, a process that reports no success is invisible: without its steps
the run leads to the same tables, leaves every other process at the same point, and every other
console has shown the same. -/
theorem silent_process_invisible {system last : System app} {events : List (Event app)}
    {process : Nat} (reachable : system.Reachable) (complete : system.store.Complete)
    (ran : system.run events = some last)
    (silent : ∀ step ∈ system.transitions process events,
      ∀ output ∈ step.entry.printed, output.isSuccess = false) :
    ∃ last', system.run (events.filter fun event => event.actor ≠ process) = some last' ∧
      last'.store = last.store ∧ ∀ other, other ≠ process →
        last'.process other = last.process other ∧
          stepsOf other last'.log = stepsOf other last.log := by
  have idle := silent_transitions reachable complete ran silent
  have start : System.AgreesBut process system system := ⟨rfl, fun _ _ => rfl, fun _ _ => rfl⟩
  obtain ⟨last', ran', agrees⟩ := start.run ran idle
  exact ⟨last', ran', agrees.store.symm, fun other apart =>
    ⟨(agrees.others other apart).symm, (agrees.steps other apart).symm⟩⟩

end

/-! ## A schedule and another -/

section

attribute [local instance] latin1

/-- The admin and Cara at their menus, before application 7 is decided. -/
def sitting : List (Event app) :=
  candidacy ++ launching 1 9 ++ loggingIn 1 "admin" "admin123"

/-- Cara asks for her status while the admin approves her application. -/
def interleaved : List (Event app) :=
  typing 1 ["4"] ++ typing 0 ["2"] ++ typing 1 ["7", "approve"] ++ serving 1 [0, 0] ++
    serving 0 [0] ++ [.turn 1, .turn 0]

/-- The admin approves the application, and then Cara asks for her status. -/
def oneAfterAnother : List (Event app) :=
  deciding 1 "4" "7" "approve" ++ typing 0 ["2"] ++ serving 0 [0] ++ [.turn 0]

/-- Both schedules report a success at the decision alone, and order what is in conflict alike. -/
theorem sameOrder_sitting :
    SameOrder
      (interleaved.zip [false, false, false, false, false, true, false, false, false])
      (oneAfterAnother.zip [false, false, false, false, true, false, false, false, false]) := by
  constructor
  · intro process
    by_cases first : 0 = process
    · subst first
      rfl
    · by_cases second : 1 = process
      · subst second
        rfl
      · simp [interleaved, oneAfterAnother, deciding, typing, serving, Event.actor, first, second]
  · intro process
    by_cases first : 0 = process
    · subst first
      rfl
    · by_cases second : 1 = process
      · subst second
        rfl
      · simp [interleaved, oneAfterAnother, deciding, typing, serving, Event.actor, Event.serves,
          first, second]

set_option maxRecDepth 10000 in
/-- Cara is told the same, and the tables are the same, whether the admin is done before she asks or
not. -/
theorem reports_decide_sitting : ∃ system last last', (System.initial app).run sitting = some system ∧
    system.run interleaved = some last ∧ system.run oneAfterAnother = some last' ∧
    last'.store = last.store ∧ ∀ process, stepsOf process last'.log = stepsOf process last.log := by
  have result : ((System.initial app).run sitting).bind (fun system =>
      (system.run interleaved).map fun _ =>
        ((system.process 0).map Process.loop, (reports system interleaved).map Prod.snd)) =
      some (some (.candidateMenu 2 "cara"),
        [false, false, false, false, false, true, false, false, false]) := by
    decide +kernel
  obtain ⟨system, ran, result⟩ := Option.bind_eq_some_iff.mp result
  obtain ⟨last, ran', result⟩ := Option.map_eq_some_iff.mp result
  obtain ⟨runs, marks⟩ := Prod.mk.inj result
  have complete := complete_of_menu ⟨sitting, ran⟩ runs (by simp)
  have same := sameOrder_sitting
  rw [← marks, ← reports_eq ran'] at same
  obtain ⟨last', other, store, _, steps⟩ := reports_decide ⟨sitting, ran⟩ complete ran' same
  exact ⟨system, last, last', ran, ran', other, store, steps⟩

set_option maxRecDepth 10000 in
/-- The admin does not notice whether Cara asks for her status. -/
theorem silent_process_invisible_sitting : ∃ system last last',
    (System.initial app).run sitting = some system ∧ system.run interleaved = some last ∧
    system.run (interleaved.filter fun event => event.actor ≠ 0) = some last' ∧
    last'.store = last.store ∧ stepsOf 1 last'.log = stepsOf 1 last.log := by
  have result : ((System.initial app).run sitting).bind (fun system =>
      (system.run interleaved).map fun _ =>
        ((system.process 0).map Process.loop, (system.transitions 0 interleaved).all fun step =>
          step.entry.printed.all fun output => !output.isSuccess)) =
      some (some (.candidateMenu 2 "cara"), true) := by
    decide +kernel
  obtain ⟨system, ran, result⟩ := Option.bind_eq_some_iff.mp result
  obtain ⟨last, ran', result⟩ := Option.map_eq_some_iff.mp result
  obtain ⟨runs, quiet⟩ := Prod.mk.inj result
  have complete := complete_of_menu ⟨sitting, ran⟩ runs (by simp)
  obtain ⟨last', other, store, others⟩ :=
    @silent_process_invisible _ system last interleaved 0 ⟨sitting, ran⟩ complete ran'
      (by simpa using quiet)
  exact ⟨system, last, last', ran, ran', other, store, (others 1 (by simp)).2⟩

end

end OnlineVoting
