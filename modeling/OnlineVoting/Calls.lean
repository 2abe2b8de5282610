import OnlineVoting.Library.Call
import OnlineVoting.Applications
import OnlineVoting.Operations

/-!
# What a call of a writing method does

A writing method is followed through one call, from the choice in its menu to the return, while
other sessions take any steps in between. Either its last statement took effect, and then the call
wrote one row and prints nothing but its success message, or the tables are as every step of the
call found them, and no success is printed.
-/
namespace OnlineVoting

open Interleaving

section

variable [Platform]

/-! ## What one step does -/

/-- A step that changed no table, and reported no success. -/
structure Quiet (step : Transition app) : Prop where
  /-- No table changed. -/
  rows : step.after.rows = step.before.rows
  /-- No success is printed. -/
  silent : ∀ output ∈ step.entry.printed, output.isSuccess = false

omit [Platform] in
/-- Only a statement with a success message succeeds as a write. -/
theorem message_of_succeeds {stmt : Stmt} {answer : Answer stmt}
    (success : succeeds stmt answer = true) : successMessage stmt ≠ none := by
  cases stmt with
  | insertUser | insertVote | insertForumPost | updateStatus => simp [successMessage]
  | insertProfile table => cases table <;> simp [successMessage]
  | _ => contradiction

omit [Platform] in
/-- But for the seed, a statement that does not succeed as a write changes no table. -/
theorem Written.quiet {choice : Choice} {rows later : Rows} {stmt : Stmt} {answer : Answer stmt}
    (change : Written choice rows stmt answer later) (quiet : succeeds stmt answer = false)
    (other : ∀ passwordHash, stmt ≠ .seedAdmin passwordHash) : later = rows := by
  cases change with
  | nothing _ => rfl
  | seed passwordHash => exact absurd rfl (other passwordHash)
  | status _ _ _ _ some _ => simp [succeeds, some] at quiet
  | user | profile | vote | post => contradiction

/-- An action that reports nothing prints no success. -/
theorem Announces.silent {action : Action app} {printed : List Output}
    (announces : Announces action printed) (unconfirmed : confirmation action = none) :
    ∀ output ∈ printed, output.isSuccess = false := by
  intro output present
  rw [← Bool.not_eq_true]
  intro success
  have reported := (announces.mem_iff success).mp present
  rw [unconfirmed] at reported
  contradiction

/-- A statement that does not succeed as a write is not reported. -/
theorem unconfirmed_of_quiet {stmt : Stmt} {choice : Choice} {answer : Answer stmt}
    (quiet : succeeds stmt answer = false) :
    confirmation (.served stmt choice answer) = none := by
  rw [confirmation, quiet]
  rfl

/-- A statement that took effect wrote the row of its operation. -/
theorem Operation.writes {operation : Operation} {typed older : List String} {loop : Loop}
    {process : Nat} {world : World app} {stmt : Stmt} {choice : Choice} {answer : Answer stmt}
    {later : Rows} {message : Output} (sends : operation.Sends typed stmt)
    (permit : Permit loop process world stmt) (lines : linesOf process world.log = typed ++ older)
    (change : Written choice world.store.rows stmt answer later)
    (success : succeeds stmt answer = true) (reported : successMessage stmt = some message) :
    operation.Writes world.store.rows later typed message := by
  cases operation with
  | register =>
    obtain ⟨role, password, username, name, rfl, rfl⟩ := sends
    cases change with
    | nothing quiet => simp [quiet] at success
    | user _ _ _ _ parsed named =>
      exact ⟨role, password, username, name, parsed, choice.id, rfl, named, rfl,
        (Option.some.inj reported).symm⟩
  | applyVoterID userId =>
    obtain ⟨address, constituency, rfl, rfl⟩ := sends
    cases change with
    | nothing quiet => simp [quiet] at success
    | profile _ _ _ =>
      exact ⟨address, constituency, choice.id, rfl, rfl, (Option.some.inj reported).symm⟩
  | applyCandidate userId =>
    obtain ⟨manifesto, constituency, party, rfl, rfl⟩ := sends
    cases change with
    | nothing quiet => simp [quiet] at success
    | profile _ _ _ =>
      exact ⟨manifesto, constituency, party, choice.id, rfl, rfl, (Option.some.inj reported).symm⟩
  | approveReject table =>
    obtain ⟨action, idStr, status, id, rfl, decided, parsed, rfl⟩ := sends
    cases change with
    | nothing quiet => simp [quiet] at success
    | status _ _ _ found some stored =>
      refine ⟨action, idStr, status, id, rfl, decided, parsed, ?_, rfl,
        (Option.some.inj reported).symm⟩
      have positive : 0 < (world.store.rows.profiles table).countP fun profile => profile.id = id :=
        List.countP_pos_iff.mpr (by simpa using stored)
      have alone : ((world.store.rows.profiles table).countP fun profile => profile.id = id) ≤ 1 := by
        refine Relational.Table.rowsOf_countP_le_one _ _ fun left right first second => .inl ?_
        have same := (of_decide_eq_true first).trans (of_decide_eq_true second).symm
        exact Int.ofNat.inj same
      omega
  | castVote voterId =>
    obtain ⟨idStr, candidateId, rfl, rfl⟩ := sends
    obtain ⟨_, _, profile, stored, rfl, chosen, _⟩ := permit
    have parsed : parseInt (trim idStr) = some (profile.id : Int) := by
      rw [typedId, lines] at chosen
      exact chosen
    cases change with
    | nothing quiet => simp [quiet] at success
    | vote _ _ =>
      exact ⟨idStr, choice.ballotId, choice.ballotClock, profile, stored, rfl, parsed, rfl,
        (Option.some.inj reported).symm⟩
  | postForum userId =>
    obtain ⟨line, rfl, rfl⟩ := sends
    cases change with
    | nothing quiet => simp [quiet] at success
    | post _ _ =>
      exact ⟨line, choice.id, choice.clock, rfl, rfl, (Option.some.inj reported).symm⟩

/-- An UPDATE that the server does not fail reports success exactly if the application is there. -/
theorem update_reported {database next : Database} {table : ProfileTable} {status : Status}
    {id : Int} {choice : Choice} {answer : Answer (.updateStatus table status id)}
    {printed : List Output} (has : database.has table.name = true) (fault : choice.fault = none)
    (served : serve (.updateStatus table status id) choice database = some (next, answer))
    (announces : Announces (.served (.updateStatus table status id) choice answer) printed) :
    .println ("Done! Status set to " ++ status.label ++ ".\n") ∈ printed ↔
      ∃ profile ∈ database.rows.profiles table, (profile.id : Int) = id := by
  have message : successMessage (.updateStatus table status id) =
      some (.println ("Done! Status set to " ++ status.label ++ ".\n")) := rfl
  rw [announces.mem_iff (successMessage_isSuccess message)]
  simp only [serve, fault, execute, has, if_true, Option.some.injEq, Prod.mk.injEq] at served
  obtain ⟨_, rfl⟩ := served
  simp [confirmation, succeeds, successMessage, List.countP_pos_iff]

/-! ## What a call does -/

/-- What a call has done at a rest: it has only asked, or it has sent its writing statement and
returns. -/
inductive Outcome (operation : Operation) (loop : Loop) :
    List (Transition app) → Dialogue console (Option Loop) → Prop where
  /-- No statement of it writes. -/
  | asking {steps : List (Transition app)} {rest : Dialogue console (Option Loop)}
    (quiet : ∀ step ∈ steps, Quiet step)
    (asks : ∀ step ∈ steps, ∀ stmt choice answer, step.entry.action = .served stmt choice answer →
      successMessage stmt = none)
    (shown : rest = operation.call loop ∨
      ∃ before last, steps = before ++ [last] ∧ last.entry.printed = rest.printed) :
    Outcome operation loop steps rest
  /-- Its last statement is the one that writes. -/
  | sent {steps : List (Transition app)} {last : Transition app} {message : Output} {stmt : Stmt}
    {choice : Choice} {answer : Answer stmt} (quiet : ∀ step ∈ steps, Quiet step)
    (asks : ∀ step ∈ steps, ∀ stmt choice answer, step.entry.action = .served stmt choice answer →
      successMessage stmt = none)
    (action : last.entry.action = .served stmt choice answer)
    (sends : operation.Sends (typedIn steps) stmt) (printed : last.entry.printed = [message])
    (wrote : (message.isSuccess = true ∧
      operation.Writes last.before.rows last.after.rows (typedIn steps) message) ∨ Quiet last)
    (updates : ∀ table status id, stmt = .updateStatus table status id → choice.fault = none →
      (.println ("Done! Status set to " ++ status.label ++ ".\n") ∈ last.entry.printed ↔
        ∃ profile ∈ last.before.rows.profiles table, (profile.id : Int) = id)) :
    Outcome operation loop (steps ++ [last]) (.done [message] (some loop))

/-- One more quiet step that sends no writing statement. -/
theorem Outcome.ask {operation : Operation} {loop : Loop} {steps : List (Transition app)}
    {rest next : Dialogue console (Option Loop)} {step : Transition app}
    (outcome : Outcome operation loop steps rest) (more : ∀ printed, rest ≠ .done printed (some loop))
    (quiet : Quiet step)
    (asks : ∀ stmt choice answer, step.entry.action = .served stmt choice answer →
      successMessage stmt = none) (shown : step.entry.printed = next.printed) :
    Outcome operation loop (steps ++ [step]) next := by
  cases outcome with
  | sent => exact absurd rfl (more _)
  | asking before others _ =>
    refine .asking (fun other present => ?_) (fun other present => ?_)
      (.inr ⟨steps, step, rfl, shown⟩)
    · rcases List.mem_append.mp present with older | newest
      · exact before other older
      · exact List.mem_singleton.mp newest ▸ quiet
    · rcases List.mem_append.mp present with older | newest
      · exact others other older
      · exact List.mem_singleton.mp newest ▸ asks

/-- What a call does until a rest, and what is known of the rest. -/
structure Calling (operation : Operation) (loop : Loop) (process : Nat) (older : List String)
    (moment : System app) (steps : List (Transition app))
    (rest : Dialogue console (Option Loop)) : Prop where
  /-- The state is reachable. -/
  reachable : moment.Reachable
  /-- The newest lines of the process are those of the call. -/
  lines : linesOf process moment.log = typedIn steps ++ older
  /-- The rest takes the course of the call. -/
  follows : rest.Follows (operation.callCourse loop) (typedIn steps)
  /-- What the call has done. -/
  outcome : Outcome operation loop steps rest

namespace Calling

variable {operation : Operation} {loop : Loop} {process : Nat} {older : List String}

/-- The steps of other processes do not matter. -/
theorem others {moment next : System app} {steps : List (Transition app)}
    {rest : Dialogue console (Option Loop)} {event : Event app}
    (stepped : moment.step event = some next) (apart : event.actor ≠ process)
    (calling : Calling operation loop process older moment steps rest) :
    Calling operation loop process older next steps rest := by
  obtain ⟨entry, logged, actor⟩ := System.step_log stepped
  refine ⟨calling.reachable.step stepped, ?_, calling.follows, calling.outcome⟩
  rw [← calling.lines, logged]
  refine @linesOf_append_others _ _ process [entry] moment.log ?_
  simpa [actor] using apart

/-- A typed line changes no table. -/
theorem line {moment : System app} {steps : List (Transition app)} {printed : List Output}
    {next : String → Dialogue console (Option Loop)} (typed : String)
    (waits : moment.process process = some ⟨loop, .read printed next⟩)
    (calling : Calling operation loop process older moment steps (.read printed next)) :
    Calling operation loop process older
      (moment.advance process moment.store loop (.typed typed) (some (next typed)))
      (steps ++ [⟨moment.store, ⟨process, loop, .typed typed, (next typed).printed⟩,
        moment.store⟩]) (next typed) := by
  have stepped := System.step_type waits typed
  have reached := calling.reachable.step stepped
  have announces := ((good_of_reachable reached).prints _ List.mem_cons_self).announces
  refine ⟨reached, ?_, ?_, ?_⟩
  · have now := linesOf_typed process loop typed (next typed).printed moment.log
    rw [calling.lines] at now
    rw [typedIn_concat]
    exact now
  · rw [typedIn_concat]
    exact calling.follows.line typed
  · exact calling.outcome.ask (by simp) ⟨rfl, announces.silent rfl⟩ (by simp) rfl

/-- A statement that is served takes effect and is reported, or changes no table. -/
theorem answer {moment : System app} {steps : List (Transition app)} {printed : List Output}
    {stmt : Stmt} {next : Answer stmt → Dialogue console (Option Loop)} {choice : Choice}
    {store : Database} {answer : Answer stmt}
    (waits : moment.process process = some ⟨loop, .ask printed stmt next⟩)
    (served : serve stmt choice moment.store = some (store, answer))
    (calling : Calling operation loop process older moment steps (.ask printed stmt next)) :
    Calling operation loop process older
      (moment.advance process store loop (.served stmt choice answer) (some (next answer)))
      (steps ++ [⟨moment.store, ⟨process, loop, .served stmt choice answer,
        (next answer).printed⟩, store⟩]) (next answer) := by
  have stepped := System.step_serve waits served
  have reached := calling.reachable.step stepped
  have announces : Announces (.served stmt choice answer) (next answer).printed :=
    ((good_of_reachable reached).prints _ List.mem_cons_self).announces
  have permit : Permit loop process moment.toWorld stmt :=
    (good_of_reachable calling.reachable).permit rules_sound waits
  obtain ⟨change, _⟩ := serve_written served
  obtain ⟨other, writes⟩ := calling.follows.asks
  have typed : typedIn (steps ++ [⟨moment.store, ⟨process, loop, .served stmt choice answer,
      (next answer).printed⟩, store⟩]) = typedIn steps := typedIn_concat _ _
  refine ⟨reached, ?_, ?_, ?_⟩
  · have now := linesOf_served process process loop stmt choice answer (next answer).printed
      moment.log
    rw [calling.lines] at now
    rw [typed]
    exact now
  · rw [typed]
    exact calling.follows.answer answer
  · by_cases message : successMessage stmt = none
    · have quiet : succeeds stmt answer = false := by
        rw [← Bool.not_eq_true]
        exact fun success => message_of_succeeds success message
      refine calling.outcome.ask (by simp)
        ⟨change.quiet quiet other, announces.silent (unconfirmed_of_quiet quiet)⟩ ?_ rfl
      intro stmt' choice' answer' same
      obtain ⟨rfl, _, _⟩ := Action.served.inj same
      exact message
    · obtain ⟨sends, ends⟩ := writes message
      obtain ⟨text, done⟩ := ends answer
      rw [done] at announces ⊢
      cases calling.outcome with
      | asking before asked _ =>
        refine .sent before asked rfl sends rfl ?_ ?_
        · by_cases success : succeeds stmt answer = true
          · obtain ⟨reported, own⟩ := Option.ne_none_iff_exists'.mp message
            have succeeded := successMessage_isSuccess own
            have confirmed : confirmation (.served stmt choice answer) = some reported := by
              rw [confirmation, if_pos success, own]
            have present := (announces.mem_iff succeeded).mpr confirmed
            obtain rfl := List.mem_singleton.mp present
            exact .inl ⟨succeeded, operation.writes sends permit calling.lines change success own⟩
          · rw [Bool.not_eq_true] at success
            exact .inr ⟨change.quiet success other,
              announces.silent (unconfirmed_of_quiet success)⟩
        · rintro table status id rfl fault
          have complete := complete_of_waits calling.reachable waits
            (by simp [connectStatements, setupStatements])
          exact update_reported (complete.has _) fault served announces

end Calling

/-- A call either took effect with its last statement alone, wrote one row with the values typed in
it and printed its success message, or changed no table and reports no success. A decision is
reported exactly if the application is there. -/
structure AllOrNothing (operation : Operation) (loop : Loop) (steps : List (Transition app))
    (rest : Dialogue console (Option Loop)) : Prop where
  /-- Success is reported exactly if the row was written; a call that returns prints a message. -/
  wrote : (∃ quiet written message, steps = quiet ++ [written] ∧ (∀ step ∈ quiet, Quiet step) ∧
      operation.Writes written.before.rows written.after.rows (typedIn steps) message ∧
      message.isSuccess = true ∧ written.entry.printed = [message] ∧
      rest = .done [message] (some loop)) ∨
    (∀ step ∈ steps, Quiet step) ∧ ∀ printed next, rest = .done printed next →
      printed ≠ [] ∧ next = some loop ∧
        ∃ before last, steps = before ++ [last] ∧ last.entry.printed = printed
  /-- A decision is the one typed, and is reported exactly if the application is there. -/
  decides : ∀ step ∈ steps, ∀ table status id choice answer,
    step.entry.action = .served (.updateStatus table status id) choice answer →
      (operation = .approveReject table ∧ ∃ action idStr, typedIn steps = [action, idStr] ∧
        decision (toUpperCase (trim action)) = some status ∧ parseInt (trim idStr) = some id) ∧
      (choice.fault = none →
        (.println ("Done! Status set to " ++ status.label ++ ".\n") ∈ step.entry.printed ↔
          ∃ profile ∈ step.before.rows.profiles table, (profile.id : Int) = id))

/-- Every call of a writing method is all or nothing, and reports truthfully, whatever is typed and
whatever other sessions do meanwhile. -/
theorem calls_all_or_nothing {earlier later : System app} {events : List (Event app)}
    (reachable : earlier.Reachable) {process : Nat} {loop : Loop} {operation : Operation}
    (calls : earlier.process process = some ⟨loop, operation.call loop⟩)
    (ran : earlier.run events = some later) (within : ∀ event ∈ events, event.Within process) :
    ∃ rest, later.process process = some ⟨loop, rest⟩ ∧
      AllOrNothing operation loop (earlier.transitions process events) rest := by
  let older := linesOf process earlier.log
  have start : Calling operation loop process older earlier [] (operation.call loop) :=
    ⟨reachable, rfl, operation.call_course loop, .asking (by simp) (by simp) (.inl rfl)⟩
  obtain ⟨rest, runs, calling⟩ := @System.call _ _ process loop
    (Calling operation loop process older) (fun _ _ _ _ _ => Calling.others)
    (fun _ _ _ _ typed => Calling.line typed) (fun _ _ _ _ _ _ _ _ => Calling.answer)
    _ _ _ _ _ calls start ran within
  rw [List.nil_append] at calling
  refine ⟨rest, runs, ?_⟩
  have follows := calling.follows
  generalize earlier.transitions process events = steps at calling follows ⊢
  cases calling.outcome with
  | asking quiet asks shown =>
    refine ⟨.inr ⟨quiet, ?_⟩, fun step present table status id choice answer action => ?_⟩
    · rintro printed next rfl
      obtain ⟨visible, returned⟩ := follows.ends
      refine ⟨visible, returned, ?_⟩
      rcases shown with same | last
      · cases operation <;> contradiction
      · exact last
    · have silent := asks step present _ _ _ action
      contradiction
  | @sent steps last message stmt choice answer quiet asks action sends printed wrote updates =>
    have typed : typedIn (steps ++ [last]) = typedIn steps := by
      rw [typedIn_concat, action]
      rfl
    constructor
    · rcases wrote with ⟨success, writes⟩ | unwritten
      · rw [← typed] at writes
        exact .inl ⟨steps, last, message, rfl, quiet, writes, success, printed, rfl⟩
      · refine .inr ⟨fun step present => ?_, fun shown next returns => ?_⟩
        · rcases List.mem_append.mp present with older | newest
          · exact quiet step older
          · exact List.mem_singleton.mp newest ▸ unwritten
        · obtain ⟨rfl, rfl⟩ := Dialogue.done.inj returns
          exact ⟨by simp, rfl, steps, last, rfl, printed⟩
    · intro step present table status id choice' answer' action'
      rcases List.mem_append.mp present with older | newest
      · have silent := asks step older _ _ _ action'
        contradiction
      · obtain rfl := List.mem_singleton.mp newest
        obtain ⟨rfl, rfl, _⟩ := Action.served.inj (action.symm.trans action')
        refine ⟨?_, updates table status id rfl⟩
        rw [typed]
        cases operation with
        | approveReject own =>
          obtain ⟨typedAction, idStr, _, _, lines, decided, parsed, same⟩ := sends
          obtain ⟨rfl, rfl, rfl⟩ := Stmt.updateStatus.inj same
          exact ⟨rfl, typedAction, idStr, lines, decided, parsed⟩
        | register | applyVoterID | applyCandidate | castVote | postForum =>
          simp [Operation.Sends] at sends

end

/-! ## A run -/

section

attribute [local instance] latin1

set_option maxRecDepth 10000 in
/-- The admin approves application 7 a second time: the call is all or nothing. -/
theorem calls_all_or_nothing_approval : ∃ earlier later rest,
    (System.initial app).run (candidacy ++ approval ++ typing 1 ["4"]) = some earlier ∧
    earlier.run (typing 1 ["7", "approve"] ++ serving 1 [0, 0]) = some later ∧
    later.store.rows.candidates = [⟨7, 2, ⟨"Green", "North", "Trees"⟩, .approved⟩] ∧
    later.process 1 = some ⟨.adminMenu 1, rest⟩ ∧
    AllOrNothing (.approveReject .candidateProfiles) (.adminMenu 1) (earlier.transitions 1
      (typing 1 ["7", "approve"] ++ serving 1 [0, 0])) rest := by
  have result : ((System.initial app).run (candidacy ++ approval)).bind (fun middle =>
      (middle.run (typing 1 ["4"] ++ (typing 1 ["7", "approve"] ++ serving 1 [0, 0]))).map
        fun later => (@Option.map _ Loop Process.loop (middle.process 1),
          (roundOf 1 middle.log).length, later.store.rows.candidates)) =
        some (some (.adminMenu 1), 0, [⟨7, 2, ⟨"Green", "North", "Trees"⟩, .approved⟩]) := by
    decide +kernel
  obtain ⟨middle, before, result⟩ := Option.bind_eq_some_iff.mp result
  obtain ⟨later, after, seen⟩ := Option.map_eq_some_iff.mp result
  obtain ⟨runs, fresh, rows⟩ : _ ∧ _ ∧ _ := by simpa using seen
  rw [System.run_append] at after
  obtain ⟨earlier, chosen, ran⟩ := Option.bind_eq_some_iff.mp after
  have reachable : middle.Reachable := ⟨candidacy ++ approval, before⟩
  have parsed : Loop.operation (.adminMenu 1) (trim "4") =
      some (.approveReject .candidateProfiles) := by decide +kernel
  obtain ⟨next, stepped, calls⟩ := choice_calls reachable (by simpa using runs) fresh parsed
  have same : next = earlier := by
    have alone := System.run_step stepped (System.run_nil next)
    exact Option.some.inj (alone.symm.trans chosen)
  rw [same] at calls
  obtain ⟨rest, returned, whole⟩ := calls_all_or_nothing (reachable.run chosen) calls ran (by decide)
  have start : (System.initial app).run (candidacy ++ approval ++ typing 1 ["4"]) = some earlier := by
    rw [System.run_append, before, Option.bind_some, chosen]
  exact ⟨earlier, later, rest, start, ran, rows, returned, whole⟩

end

end OnlineVoting
