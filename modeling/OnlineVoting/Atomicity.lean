import OnlineVoting.Library.Linearization
import OnlineVoting.Calls
import OnlineVoting.Refusals

/-!
# The writing methods as single steps

Read on its own, each writing method says when it succeeds. A call that is interleaved with others
does the same at one of its own statements: it succeeds exactly if the method, run there on its own
with the same lines, would succeed, and that statement is all it does. `castVote` alone is no such
method, since it looks at the voter and the candidate before it waits for its line.
-/
namespace OnlineVoting

open Interleaving

section

variable [Platform]

namespace Operation

/-- With these lines, newest first, the method succeeds on these rows when nobody disturbs it.
`castVote` is left out: it is no single step. -/
def Accepts (rows : Rows) : Operation → List String → Prop
  | register, [role, password, username, name] =>
    isRole (toUpperCase (trim role)) = true ∧
      Storable (.insertUser (trim username) (sha256 (trim password)) (trim name)
        (toUpperCase (trim role))) ∧
      ¬ ∃ user ∈ rows.users, collates user.username (trim username) = true
  | applyVoterID userId, [address, constituency] =>
    Storable (.insertProfile .voterProfiles userId ⟨trim constituency, trim address⟩) ∧
      ¬ ∃ profile ∈ rows.voters, profile.userId = userId
  | applyCandidate userId, [manifesto, constituency, party] =>
    Storable (.insertProfile .candidateProfiles userId
      ⟨trim party, trim constituency, trim manifesto⟩) ∧
      ¬ ∃ profile ∈ rows.candidates, profile.userId = userId
  | approveReject table, [action, idStr] =>
    decision (toUpperCase (trim action)) ≠ none ∧
      ∃ profile ∈ rows.profiles table, parseInt (trim idStr) = some (profile.id : Int)
  | postForum userId, [line] =>
    trim line ≠ "" ∧ Storable (.insertForumPost userId (trim line))
  | _, _ => False

/-- The number of lines that a method asks for. -/
def lines : Operation → Nat
  | register => 4
  | applyVoterID _ => 2
  | applyCandidate _ => 3
  | approveReject _ => 2
  | castVote _ => 1
  | postForum _ => 1

/-- A method succeeds with as many lines as it asks for. -/
theorem Accepts.length {rows : Rows} {operation : Operation} {typed : List String}
    (accepts : operation.Accepts rows typed) : typed.length = operation.lines := by
  unfold Accepts at accepts
  split at accepts <;> first | contradiction | rfl

/-- A writing statement is sent when all lines are typed. -/
theorem Sends.length {operation : Operation} {typed : List String} {stmt : Stmt}
    (sends : operation.Sends typed stmt) : typed.length = operation.lines := by
  cases operation with
  | register =>
    obtain ⟨role, password, username, name, rfl, _⟩ := sends
    rfl
  | applyVoterID userId =>
    obtain ⟨address, constituency, rfl, _⟩ := sends
    rfl
  | applyCandidate userId =>
    obtain ⟨manifesto, constituency, party, rfl, _⟩ := sends
    rfl
  | approveReject table =>
    obtain ⟨action, idStr, _, _, rfl, _⟩ := sends
    rfl
  | castVote voterId =>
    obtain ⟨idStr, _, rfl, _⟩ := sends
    rfl
  | postForum userId =>
    obtain ⟨line, rfl, _⟩ := sends
    rfl

/-- A writing statement has a success message. -/
theorem Sends.writes {operation : Operation} {typed : List String} {stmt : Stmt}
    (sends : operation.Sends typed stmt) : successMessage stmt ≠ none := by
  cases operation with
  | register =>
    obtain ⟨_, _, _, _, _, rfl⟩ := sends
    simp [successMessage]
  | applyVoterID userId =>
    obtain ⟨_, _, _, rfl⟩ := sends
    simp [successMessage]
  | applyCandidate userId =>
    obtain ⟨_, _, _, _, rfl⟩ := sends
    simp [successMessage]
  | approveReject table =>
    obtain ⟨_, _, _, _, _, _, _, rfl⟩ := sends
    simp [successMessage]
  | castVote voterId =>
    obtain ⟨_, _, _, rfl⟩ := sends
    simp [successMessage]
  | postForum userId =>
    obtain ⟨_, _, rfl⟩ := sends
    simp [successMessage]

/-- When all lines are typed, no more of them make a method succeed. -/
theorem never_of_full {operation : Operation} {typed : List String} {rows : Rows}
    (full : typed.length = operation.lines) (refuses : ¬ operation.Accepts rows typed)
    (more : List String) : ¬ operation.Accepts rows (more ++ typed) := by
  intro accepts
  have lengths := accepts.length
  rw [List.length_append, full] at lengths
  have none : more = [] := List.length_eq_zero_iff.mp (by omega)
  rw [none, List.nil_append] at accepts
  exact refuses accepts

/-- The table of the applications that an operation inserts, and the applicant. -/
def application : Operation → Option (ProfileTable × Nat)
  | applyVoterID userId => some (.voterProfiles, userId)
  | applyCandidate userId => some (.candidateProfiles, userId)
  | _ => none

/-- What the program itself checks of a writing statement before it sends it. -/
def Checked : Stmt → Prop
  | .insertUser _ _ _ role => isRole role = true
  | .insertForumPost _ content => content ≠ ""
  | _ => True

/-- Why a call returns, by what it heard last. -/
inductive Stops (operation : Operation) : List (Heard console) → Prop where
  /-- It sent its writing statement. -/
  | sent {stmt : Stmt} {answer : Answer stmt} {heard : List (Heard console)}
    (writes : successMessage stmt ≠ none) (checked : Checked stmt) :
    Stops operation (.answer stmt answer :: heard)
  /-- A query of it failed. -/
  | failed {stmt : Stmt} {e : SqlException} {heard : List (Heard console)}
    (queries : successMessage stmt = none) :
    Stops operation (.answer stmt (.error e) :: heard)
  /-- The user has applied. -/
  | applied {table : ProfileTable} {userId : Nat} {heard : List (Heard console)}
    (own : operation.application = some (table, userId)) :
    Stops operation (.answer (.existsProfile table userId) (.ok true) :: heard)
  /-- No row makes the method succeed with the lines typed so far. -/
  | typed {heard : List (Heard console)}
    (queries : ∀ stmt answer older, heard = .answer stmt answer :: older → successMessage stmt = none)
    (never : ∀ rows more, ¬ operation.Accepts rows (more ++ linesHeard heard)) :
    Stops operation heard

/-- A call that returns from its writing statement had checked it. -/
theorem Stops.checked {operation : Operation} {stmt : Stmt} {answer : Answer stmt}
    {older : List (Heard console)} (stops : operation.Stops (.answer stmt answer :: older))
    (writes : successMessage stmt ≠ none) : Checked stmt := by
  generalize whole : @Heard.answer console stmt answer :: older = heard at stops
  cases stops with
  | sent _ checked =>
    obtain ⟨rfl, _⟩ := Heard.answer.inj (List.cons.inj whole).1
    exact checked
  | failed queries =>
    obtain ⟨rfl, _⟩ := Heard.answer.inj (List.cons.inj whole).1
    exact absurd queries writes
  | applied own =>
    obtain ⟨rfl, _⟩ := Heard.answer.inj (List.cons.inj whole).1
    exact absurd rfl writes
  | typed queries _ => exact absurd (queries stmt answer older whole.symm) writes

/-- A method stops for a reason. -/
abbrev Ends (operation : Operation) (rest : Dialogue console Unit) (heard : List (Heard console)) :
    Prop :=
  rest.Ends (fun heard _ _ => operation.Stops heard) heard

theorem register_ends : register.Ends OnlineVoting.register [] := by
  rw [register_eq]
  intro name username password role
  dsimp only
  split
  · rename_i named
    intro answer
    have sent : register.Stops (.answer _ answer :: [.line role, .line password, .line username,
        .line name]) := .sent (by simp [successMessage]) named
    cases answer with
    | ok _ => exact sent
    | error e =>
      dsimp only
      split <;> exact sent
  · rename_i unnamed
    exact .typed (by simp) fun _ => never_of_full rfl fun accepts => unnamed accepts.1

theorem applyVoterID_ends (userId : Nat) :
    (applyVoterID userId).Ends (OnlineVoting.applyVoterID userId) [] := by
  rw [applyVoterID_eq]
  rintro (e | found)
  · exact .failed rfl
  · cases found with
    | true => exact .applied rfl
    | false =>
      intro constituency address answer
      cases answer <;> exact .sent (by simp [successMessage]) trivial

theorem applyCandidate_ends (userId : Nat) :
    (applyCandidate userId).Ends (OnlineVoting.applyCandidate userId) [] := by
  rw [applyCandidate_eq]
  rintro (e | found)
  · exact .failed rfl
  · cases found with
    | true => exact .applied rfl
    | false =>
      intro party constituency manifesto answer
      cases answer <;> exact .sent (by simp [successMessage]) trivial

theorem approveReject_ends (table : ProfileTable) :
    (approveReject table).Ends (OnlineVoting.approveReject table) [] := by
  rw [approveReject_eq]
  intro idStr action
  dsimp only
  split
  · rename_i undecided
    exact .typed (by simp) fun _ => never_of_full rfl fun accepts => accepts.1 undecided
  · rintro (e | ⟨⟨⟩⟩)
    · exact .failed rfl
    · dsimp only
      split
      · intro answer
        have sent : (approveReject table).Stops (.answer _ answer :: [.answer .prepare (.ok ()),
            .line action, .line idStr]) := .sent (by simp [successMessage]) trivial
        cases answer with
        | error e => exact sent
        | ok rows =>
          dsimp only
          split <;> exact sent
      · rename_i unparsed
        have queries : ∀ (stmt : Stmt) (answer : Answer stmt) older, [@Heard.answer console .prepare (.ok ()),
            .line action, .line idStr] = @Heard.answer console stmt answer :: older →
              successMessage stmt = none := by
          rintro stmt answer older same
          obtain ⟨first, _⟩ := List.cons.inj same
          obtain ⟨rfl, _⟩ := Heard.answer.inj first
          rfl
        refine .typed queries fun _ => never_of_full rfl fun accepts => ?_
        obtain ⟨_, profile, _, parsed⟩ := accepts
        rw [unparsed] at parsed
        contradiction

theorem postForum_ends (userId : Nat) :
    (postForum userId).Ends (OnlineVoting.postForum userId) [] := by
  rw [postForum_eq]
  intro line
  dsimp only
  split
  · rename_i empty
    exact .typed (by simp) fun _ => never_of_full rfl fun accepts => accepts.1 (String.isEmpty_iff.mp empty)
  · rename_i some
    intro answer
    have checked : trim line ≠ "" := fun none => some (String.isEmpty_iff.mpr none)
    cases answer <;> exact .sent (by simp [successMessage]) checked

/-- Every operation but `castVote` stops for a reason. -/
theorem method_ends {operation : Operation} (single : ∀ voterId, operation ≠ .castVote voterId) :
    operation.Ends operation.method [] := by
  cases operation with
  | register => exact register_ends
  | applyVoterID userId => exact applyVoterID_ends userId
  | applyCandidate userId => exact applyCandidate_ends userId
  | approveReject table => exact approveReject_ends table
  | castVote voterId => exact absurd rfl (single voterId)
  | postForum userId => exact postForum_ends userId

/-! ## Acceptance and refusal -/

/-- A statement that has no reason to be refused is storable. -/
theorem storable_of_unrefused {rows : Rows} {stmt : Stmt}
    (unrefused : ∀ exception, ¬ Refusal rows stmt exception) : Storable stmt := by
  cases checked : checkColumns stmt.columns with
  | ok done => exact checked
  | error exception => exact absurd (.text checked) (unrefused exception)

/-- An operation accepts when its insertion has no reason to be refused. -/
theorem accepts_of_unrefused {operation : Operation} {rows : Rows} {typed : List String}
    {stmt : Stmt} (single : ∀ voterId, operation ≠ .castVote voterId)
    (inserts : ∀ table status id, stmt ≠ .updateStatus table status id)
    (sends : operation.Sends typed stmt) (checked : Checked stmt)
    (unrefused : ∀ exception, ¬ Refusal rows stmt exception) : operation.Accepts rows typed := by
  have storable := storable_of_unrefused unrefused
  cases operation with
  | register =>
    obtain ⟨role, password, username, name, rfl, rfl⟩ := sends
    refine ⟨checked, storable, ?_⟩
    rintro ⟨user, known, same⟩
    exact unrefused _ (.key storable (.username user known same))
  | applyVoterID userId =>
    obtain ⟨address, constituency, rfl, rfl⟩ := sends
    refine ⟨storable, ?_⟩
    rintro ⟨profile, stored, own⟩
    exact unrefused _ (.key storable (.applicant profile stored own))
  | applyCandidate userId =>
    obtain ⟨manifesto, constituency, party, rfl, rfl⟩ := sends
    refine ⟨storable, ?_⟩
    rintro ⟨profile, stored, own⟩
    exact unrefused _ (.key storable (.applicant profile stored own))
  | approveReject table =>
    obtain ⟨_, _, status, id, _, _, _, same⟩ := sends
    exact absurd same (inserts table status id)
  | castVote voterId => exact absurd rfl (single voterId)
  | postForum userId =>
    obtain ⟨line, rfl, rfl⟩ := sends
    exact ⟨checked, storable⟩

/-- An operation does not accept when its insertion has a reason to be refused. -/
theorem refuses_of_refusal {operation : Operation} {rows : Rows} {typed : List String}
    {stmt : Stmt} {exception : SqlException} (single : ∀ voterId, operation ≠ .castVote voterId)
    (sends : operation.Sends typed stmt) (refusal : Refusal rows stmt exception) :
    ¬ operation.Accepts rows typed := by
  intro accepts
  have text (storable : Storable stmt) : ¬ checkColumns stmt.columns = .error exception := by
    intro unstorable
    have both := unstorable.symm.trans storable
    contradiction
  cases operation with
  | register =>
    obtain ⟨role, password, username, name, rfl, rfl⟩ := sends
    obtain ⟨_, storable, free⟩ := accepts
    cases refusal with
    | text unstorable => exact text storable unstorable
    | key _ taken =>
      obtain ⟨user, known, same⟩ := taken
      exact free ⟨user, known, same⟩
  | applyVoterID userId =>
    obtain ⟨address, constituency, rfl, rfl⟩ := sends
    obtain ⟨storable, first⟩ := accepts
    cases refusal with
    | text unstorable => exact text storable unstorable
    | key _ taken =>
      obtain _ | ⟨profile, stored, own⟩ := taken
      exact first ⟨profile, stored, own⟩
  | applyCandidate userId =>
    obtain ⟨manifesto, constituency, party, rfl, rfl⟩ := sends
    obtain ⟨storable, first⟩ := accepts
    cases refusal with
    | text unstorable => exact text storable unstorable
    | key _ taken =>
      obtain _ | ⟨profile, stored, own⟩ := taken
      exact first ⟨profile, stored, own⟩
  | approveReject table =>
    obtain ⟨_, _, status, id, _, _, _, rfl⟩ := sends
    rcases refusal.inserts with columns | ⟨_, _, vote⟩
    · exact columns rfl
    · contradiction
  | castVote voterId => exact absurd rfl (single voterId)
  | postForum userId =>
    obtain ⟨line, rfl, rfl⟩ := sends
    cases refusal with
    | text unstorable => exact text accepts.2 unstorable
    | key _ taken => cases taken

end Operation

/-- A statement with a reason to be refused is a write. -/
theorem Refusal.writes {rows : Rows} {stmt : Stmt} {exception : SqlException}
    (refusal : Refusal rows stmt exception) : successMessage stmt ≠ none := by
  rcases refusal.inserts with columns | ⟨voterId, candidateId, rfl⟩
  · cases stmt with
    | insertUser _ _ _ _ | insertForumPost _ _ => simp [successMessage]
    | insertProfile table _ _ => cases table <;> simp [successMessage]
    | _ => exact absurd rfl columns
  · simp [successMessage]

/-! ## The steps of a call -/

omit [Platform] in
/-- An insertion that succeeds changes the tables. -/
theorem Written.changes {choice : Choice} {rows later : Rows} {stmt : Stmt} {answer : Answer stmt}
    (change : Written choice rows stmt answer later) (success : succeeds stmt answer = true)
    (inserts : ∀ table status id, stmt ≠ .updateStatus table status id) : later ≠ rows := by
  intro same
  cases change with
  | nothing quiet =>
    rw [quiet] at success
    contradiction
  | seed passwordHash => contradiction
  | user _ _ _ _ _ _ => exact rows.addUser_ne _ same
  | profile _ _ _ => exact rows.addProfile_ne _ _ same
  | status table status id _ _ _ => exact inserts table status id rfl
  | vote _ _ => exact rows.addVote_ne _ same
  | post _ _ => exact rows.addForumPost_ne _ same

/-- An operation that inserted a row changed the tables. -/
theorem Operation.Writes.changes {operation : Operation} {rows later : Rows} {typed : List String}
    {message : Output} (writes : operation.Writes rows later typed message)
    (inserts : ∀ table, operation ≠ .approveReject table) : later ≠ rows := by
  cases operation with
  | register =>
    obtain ⟨_, _, _, _, _, _, _, _, rfl, _⟩ := writes
    exact rows.addUser_ne _
  | applyVoterID userId =>
    obtain ⟨_, _, _, _, rfl, _⟩ := writes
    exact rows.addProfile_ne _ _
  | applyCandidate userId =>
    obtain ⟨_, _, _, _, _, rfl, _⟩ := writes
    exact rows.addProfile_ne _ _
  | approveReject table => exact absurd rfl (inserts table)
  | castVote voterId =>
    obtain ⟨_, _, _, _, _, _, _, rfl, _⟩ := writes
    exact rows.addVote_ne _
  | postForum userId =>
    obtain ⟨_, _, _, _, rfl, _⟩ := writes
    exact rows.addForumPost_ne _

/-- A step at which a statement was served changed the store as the statement does, and gets its
verdict unless the server failed it. -/
theorem transition_verdict {system : System app} (reachable : system.Reachable) {process : Nat}
    {events : List (Event app)} {step : Transition app}
    (present : step ∈ system.transitions process events) {stmt : Stmt} {choice : Choice}
    {answer : Answer stmt} (action : step.entry.action = .served stmt choice answer) :
    .serve process choice ∈ events ∧
      serve stmt choice step.before = some (step.after, answer) ∧
      (choice.fault = none → Verdict step.before step.after stmt answer) := by
  obtain ⟨moment, next, event, inside, taken⟩ := System.moment_of_transition present
  obtain ⟨earlier, ran⟩ := taken.reached
  have reached := reachable.run ran
  have logged := taken.logged
  have after := taken.after
  have own := taken.actor
  rw [taken.before]
  cases System.step_move taken.stepped with
  | serve waits served =>
    obtain ⟨here, _⟩ := List.cons.inj logged
    rw [← here] at action
    obtain ⟨rfl, rfl, same⟩ := Action.served.inj action
    obtain rfl := eq_of_heq same
    rw [after]
    rw [← own]
    exact ⟨inside, served, fun healthy => verdict_of_reachable reached waits healthy served⟩
  | start _ | type _ _ | turn _ | leave _ | kill _ =>
    obtain ⟨here, _⟩ := List.cons.inj logged
    rw [← here] at action
    contradiction

/-- What a call did at its point: it succeeded as the method alone would, or refused as the method
alone would, whatever else were typed. -/
inductive Acts (operation : Operation) (typed : List String) (printed : List Output)
    (before after : Rows) : Prop where
  /-- It succeeded. -/
  | accepted (message : Output) (accepts : operation.Accepts before typed)
    (writes : operation.Writes before after typed message) (success : message.isSuccess = true)
    (shown : printed = [message])
  /-- It refused. -/
  | refused (refuses : ∀ more, ¬ operation.Accepts before (more ++ typed)) (same : after = before)
    (silent : ∀ output ∈ printed, output.isSuccess = false)

/-- All steps of a call but one leave the tables alone, and that one is all that the call does. -/
def ActsOnce (operation : Operation) (steps : List (Transition app)) (printed : List Output) :
    Prop :=
  ∃ before point after, steps = before ++ point :: after ∧
    (∀ step ∈ before ++ after, step.after.rows = step.before.rows) ∧
    Acts operation (typedIn steps) printed point.before.rows point.after.rows

/-- The call is followed up to a later state. -/
theorem calling_of_run {earlier later : System app} {events : List (Event app)}
    (reachable : earlier.Reachable) {process : Nat} {loop : Loop} {operation : Operation}
    (calls : earlier.process process = some ⟨loop, operation.call loop⟩)
    (ran : earlier.run events = some later) (within : ∀ event ∈ events, event.Within process) :
    ∃ rest, later.process process = some ⟨loop, rest⟩ ∧
      Calling operation loop process (linesOf process earlier.log) later
        (earlier.transitions process events) rest := by
  have start : Calling operation loop process (linesOf process earlier.log) earlier []
      (operation.call loop) :=
    ⟨reachable, rfl, operation.call_course loop, .asking (by simp) (by simp) (.inl rfl)⟩
  exact @System.call _ _ process loop (Calling operation loop process (linesOf process earlier.log))
    (fun _ _ _ _ _ => Calling.others) (fun _ _ _ _ typed => Calling.line typed)
    (fun _ _ _ _ _ _ _ _ => Calling.answer) _ _ _ _ _ calls start ran within

/-- A decision acts where it is sent. -/
theorem acts_of_update {operation : Operation} {typed : List String} {last : Transition app}
    {table : ProfileTable} {status : Status} {id : Int} {message : Output}
    (sends : operation.Sends typed (.updateStatus table status id))
    (printed : last.entry.printed = [message])
    (wrote : (message.isSuccess = true ∧
      operation.Writes last.before.rows last.after.rows typed message) ∨ Quiet last)
    (updates : .println ("Done! Status set to " ++ status.label ++ ".\n") ∈ last.entry.printed ↔
      ∃ profile ∈ last.before.rows.profiles table, (profile.id : Int) = id) :
    Acts operation typed [message] last.before.rows last.after.rows := by
  have own : operation = .approveReject table ∧ ∃ action idStr, typed = [action, idStr] ∧
      decision (toUpperCase (trim action)) = some status ∧ parseInt (trim idStr) = some id := by
    cases operation with
    | approveReject other =>
      obtain ⟨action, idStr, _, _, rfl, decided, parsed, same⟩ := sends
      obtain ⟨rfl, rfl, rfl⟩ := Stmt.updateStatus.inj same
      exact ⟨rfl, action, idStr, rfl, decided, parsed⟩
    | register | applyVoterID | applyCandidate | castVote | postForum =>
      simp [Operation.Sends] at sends
  obtain ⟨rfl, action, idStr, rfl, decided, parsed⟩ := own
  rcases wrote with ⟨success, writes⟩ | quiet
  · refine .accepted message ⟨by simp [decided], ?_⟩ writes success rfl
    obtain ⟨_, _, _, _, same, _, found, count, _⟩ := writes
    obtain ⟨rfl, rfl⟩ : _ ∧ _ := by simpa using same
    obtain rfl := Option.some.inj (parsed.symm.trans found)
    have positive : 0 < (last.before.rows.profiles table).countP fun profile => profile.id = id := by
      omega
    obtain ⟨profile, stored, own⟩ := List.countP_pos_iff.mp positive
    exact ⟨profile, stored, by rw [parsed, of_decide_eq_true own]⟩
  · refine .refused (Operation.never_of_full rfl ?_) quiet.rows ?_
    · rintro ⟨_, profile, stored, found⟩
      have done := updates.mpr ⟨profile, stored, Option.some.inj (found.symm.trans parsed)⟩
      have silent := quiet.silent _ done
      have message : successMessage (.updateStatus table status id) =
          some (.println ("Done! Status set to " ++ status.label ++ ".\n")) := rfl
      rw [successMessage_isSuccess message] at silent
      contradiction
    · rw [← printed]
      exact quiet.silent

/-- A call that has sent its insertion acts there. -/
theorem acts_of_insertion {operation : Operation} {typed : List String} {last : Transition app}
    {stmt : Stmt} {choice : Choice} {answer : Answer stmt} {message : Output}
    (single : ∀ voterId, operation ≠ .castVote voterId)
    (inserts : ∀ table status id, stmt ≠ .updateStatus table status id)
    (writes : successMessage stmt ≠ none) (checked : Operation.Checked stmt)
    (sends : operation.Sends typed stmt)
    (served : serve stmt choice last.before = some (last.after, answer))
    (verdict : Verdict last.before last.after stmt answer) (printed : last.entry.printed = [message])
    (wrote : (message.isSuccess = true ∧
      operation.Writes last.before.rows last.after.rows typed message) ∨ Quiet last) :
    Acts operation typed [message] last.before.rows last.after.rows := by
  have change := (serve_written served).1
  cases verdict with
  | executed result ok unrefused =>
    have accepts := Operation.accepts_of_unrefused single inserts sends checked unrefused
    rcases wrote with ⟨success, wrote⟩ | quiet
    · exact .accepted message accepts wrote success rfl
    · have success : succeeds stmt answer = true := by
        rw [ok]
        cases stmt with
        | updateStatus table status id => exact absurd rfl (inserts table status id)
        | insertUser _ _ _ _ | insertProfile _ _ _ | insertVote _ _ | insertForumPost _ _ => rfl
        | _ => exact absurd rfl writes
      exact absurd quiet.rows (change.changes success inserts)
  | refused exception error refusal same =>
    have refuses := Operation.refuses_of_refusal single sends refusal
    rcases wrote with ⟨_, writes⟩ | quiet
    · refine absurd (congrArg Database.rows same) (writes.changes ?_)
      rintro table rfl
      obtain ⟨_, _, status, id, _, _, _, update⟩ := sends
      exact inserts table status id update
    · refine .refused (Operation.never_of_full sends.length refuses) quiet.rows ?_
      rw [← printed]
      exact quiet.silent

/-- What was heard was heard at a step. -/
theorem step_of_heard {steps : List (Transition app)} {heard : Heard console}
    {older : List (Heard console)} (newest : heardIn steps = heard :: older) :
    ∃ step ∈ steps, step.entry.action.heard = some heard := by
  have present : heard ∈ heardIn steps := by
    rw [newest]
    exact List.mem_cons_self
  rw [heardIn, List.mem_reverse] at present
  exact List.mem_filterMap.mp present

/-- An answer is heard where the statement is served. -/
theorem served_of_heard {action : Action app} {stmt : Stmt} {answer : Answer stmt}
    (heard : action.heard = some (.answer stmt answer)) :
    ∃ choice, action = .served stmt choice answer := by
  cases action with
  | served request choice result =>
    obtain ⟨rfl, same⟩ := Heard.answer.inj (Option.some.inj heard)
    obtain rfl := eq_of_heq same
    exact ⟨choice, rfl⟩
  | started | typed _ | turned | stopped => simp [Action.heard] at heard

/-- A user whose application is found has applied. -/
theorem applied_of_found {database next : Database} {table : ProfileTable} {userId : Nat}
    {choice : Choice} (served : serve (.existsProfile table userId) choice database =
      some (next, .ok true)) : ∃ profile ∈ database.rows.profiles table, profile.userId = userId := by
  have executed : database.query [table.name] (!(database.rows.profilesOf table userId).isEmpty) =
      some (next, .ok true) := serve_ok served
  have found := Database.query_ok executed
  have some : database.rows.profilesOf table userId ≠ [] := by
    intro none
    simp [none] at found
  obtain ⟨profile, present⟩ := List.exists_mem_of_ne_nil _ some
  obtain ⟨stored, own⟩ := List.mem_filter.mp present
  exact ⟨profile, stored, of_decide_eq_true own⟩

/-- A user who has applied is refused whatever is typed. -/
theorem refuses_applied {operation : Operation} {rows : Rows} {table : ProfileTable} {userId : Nat}
    (own : operation.application = some (table, userId))
    (applied : ∃ profile ∈ rows.profiles table, profile.userId = userId) (typed : List String) :
    ¬ operation.Accepts rows typed := by
  intro accepts
  unfold Operation.Accepts at accepts
  split at accepts
  · contradiction
  · obtain ⟨rfl, rfl⟩ := Prod.mk.inj (Option.some.inj own)
    exact accepts.2 applied
  · obtain ⟨rfl, rfl⟩ := Prod.mk.inj (Option.some.inj own)
    exact accepts.2 applied
  · contradiction
  · contradiction
  · exact accepts

/-- A call whose steps all left the tables alone acts at a step where the method refuses. -/
theorem acts_of_quiet {operation : Operation} {steps : List (Transition app)}
    {printed : List Output} (quiet : ∀ step ∈ steps, Quiet step)
    (shown : ∃ before last, steps = before ++ [last] ∧ last.entry.printed = printed)
    {point : Transition app} (present : point ∈ steps)
    (refuses : ∀ more, ¬ operation.Accepts point.before.rows (more ++ typedIn steps)) :
    ActsOnce operation steps printed := by
  have silent : ∀ output ∈ printed, output.isSuccess = false := by
    obtain ⟨before, last, rfl, rfl⟩ := shown
    exact (quiet last (by simp)).silent
  obtain ⟨before, after, split⟩ := List.append_of_mem present
  refine ⟨before, point, after, split, fun step other => ?_, ?_⟩
  · refine (quiet step ?_).rows
    rw [split]
    rcases List.mem_append.mp other with older | newer
    · exact List.mem_append_left _ older
    · exact List.mem_append_right _ (List.mem_cons_of_mem _ newer)
  · exact .refused refuses (quiet point present).rows silent

/-- A call that returns without a failure of the server acts at one step. -/
theorem acts_once {earlier later : System app} {events : List (Event app)}
    (reachable : earlier.Reachable) {process : Nat} {loop : Loop} {operation : Operation}
    (single : ∀ voterId, operation ≠ .castVote voterId)
    (calls : earlier.process process = some ⟨loop, operation.call loop⟩)
    (ran : earlier.run events = some later) (within : ∀ event ∈ events, event.Within process)
    (healthy : ∀ choice, .serve process choice ∈ events → choice.fault = none)
    {printed : List Output} {next : Option Loop}
    (returned : later.process process = some ⟨loop, .done printed next⟩) :
    ActsOnce operation (earlier.transitions process events) printed := by
  obtain ⟨rest, runs, calling⟩ := calling_of_run reachable calls ran within
  obtain ⟨_, rfl⟩ := Process.mk.inj (Option.some.inj (returned.symm.trans runs))
  have ends : (operation.call loop).Ends (fun heard _ _ => operation.Stops heard) [] :=
    Dialogue.Ends.bind_done (Operation.method_ends single)
  have stops := System.call_ends calls ends ran within returned
  have facts {step : Transition app} (present : step ∈ earlier.transitions process events)
      {stmt : Stmt} {choice : Choice} {answer : Answer stmt}
      (action : step.entry.action = .served stmt choice answer) :
      choice.fault = none ∧ serve stmt choice step.before = some (step.after, answer) ∧
        Verdict step.before step.after stmt answer := by
    obtain ⟨inside, served, verdict⟩ := transition_verdict reachable present action
    have faultless := healthy choice inside
    exact ⟨faultless, served, verdict faultless⟩
  generalize earlier.transitions process events = steps at calling stops facts ⊢
  generalize newest : heardIn steps = heard at stops
  cases calling.outcome with
  | asking quiet asks shown =>
    have ended : ∃ before last, steps = before ++ [last] ∧ last.entry.printed = printed := by
      rcases shown with same | last
      · cases operation <;> contradiction
      · exact last
    cases stops with
    | sent writes checked =>
      obtain ⟨step, present, answered⟩ := step_of_heard newest
      obtain ⟨choice, action⟩ := served_of_heard answered
      exact absurd (asks step present _ _ _ action) writes
    | failed queries =>
      obtain ⟨step, present, answered⟩ := step_of_heard newest
      obtain ⟨choice, action⟩ := served_of_heard answered
      obtain ⟨_, _, verdict⟩ := facts present action
      cases verdict with
      | executed result ok _ => contradiction
      | refused exception error refusal _ => exact absurd queries refusal.writes
    | applied own =>
      obtain ⟨step, present, answered⟩ := step_of_heard newest
      obtain ⟨choice, action⟩ := served_of_heard answered
      obtain ⟨_, served, _⟩ := facts present action
      have applied := applied_of_found served
      exact acts_of_quiet quiet ended present fun more => refuses_applied own applied _
    | typed queries never =>
      have refuses := ended
      obtain ⟨before, last, split, _⟩ := refuses
      have present : last ∈ steps := by simp [split]
      rw [← newest, linesHeard_heardIn] at never
      exact acts_of_quiet quiet ended present (never last.before.rows)
  | @sent before last message stmt choice answer quiet asks action sends shown wrote updates =>
    have present : last ∈ before ++ [last] := by simp
    obtain ⟨faultless, served, verdict⟩ := facts present action
    have typed : typedIn (before ++ [last]) = typedIn before := by
      rw [typedIn_concat, action]
      rfl
    refine ⟨before, last, [], rfl, fun step other => ?_, ?_⟩
    · rw [List.append_nil] at other
      exact (quiet step other).rows
    · rw [typed]
      by_cases update : ∃ table status id, stmt = .updateStatus table status id
      · obtain ⟨table, status, id, rfl⟩ := update
        exact acts_of_update sends shown wrote (updates table status id rfl faultless)
      · have inserts : ∀ table status id, stmt ≠ .updateStatus table status id :=
          fun table status id same => update ⟨table, status, id, same⟩
        have writes := sends.writes
        have checked : Operation.Checked stmt := by
          rw [heardIn_concat, action] at newest
          rw [← newest] at stops
          exact Operation.Stops.checked stops writes
        exact acts_of_insertion single inserts writes checked sends served verdict shown wrote

/-- Every call of a writing method but `castVote` that returns without a failure of the server acts
at one step, whatever other sessions do meanwhile: it succeeds exactly if the method, run on its own
with the same lines on the tables that this step finds, succeeds; the step writes what that method
writes, and all other steps of the call leave the tables alone. If nobody else is served during the
call, it succeeds exactly if the tables that it began with make it, and changes them in this way. -/
theorem calls_atomic {earlier later : System app} {events : List (Event app)}
    (reachable : earlier.Reachable) {process : Nat} {loop : Loop} {operation : Operation}
    (single : ∀ voterId, operation ≠ .castVote voterId)
    (calls : earlier.process process = some ⟨loop, operation.call loop⟩)
    (ran : earlier.run events = some later) (within : ∀ event ∈ events, event.Within process)
    (healthy : ∀ choice, .serve process choice ∈ events → choice.fault = none)
    {printed : List Output} {next : Option Loop}
    (returned : later.process process = some ⟨loop, .done printed next⟩) :
    ActsOnce operation (earlier.transitions process events) printed ∧
      ((∀ other choice, .serve other choice ∈ events → other = process) →
        Acts operation (typedIn (earlier.transitions process events)) printed
          earlier.store.rows later.store.rows) := by
  have once := acts_once reachable single calls ran within healthy returned
  refine ⟨once, fun alone => ?_⟩
  obtain ⟨before, point, after, split, quiet, acts⟩ := once
  have undisturbed : ∀ event ∈ events, event.Undisturbed Healthy process := by
    intro event present
    have inside := within event present
    cases event with
    | start actor => trivial
    | type actor line => trivial
    | serve actor choice =>
      have own := alone actor choice present
      subst own
      exact ⟨rfl, healthy choice present⟩
    | turn actor => exact inside
    | kill actor => exact inside
  have relay := System.relay_of_undisturbed ran undisturbed
  rw [split] at relay
  obtain ⟨found, left⟩ := relay.point Database.rows quiet
  rw [found, ← left] at acts
  exact acts

end

/-! ## A disturbed call -/

section

attribute [local instance] latin1

/-- Someone chooses to register, in process 1. -/
def opened : List (Event app) := launching 0 1 ++ launching 1 9 ++ typing 1 ["2"]

/-- Meanwhile Cara registers in process 0 under the name that is typed in process 1. -/
def disturbed : List (Event app) :=
  typing 1 ["Carl", "Cara"] ++ registering 0 2 "Cara" "cara" "secret" "candidate" ++
    typing 1 ["pw", "voter"] ++ [.serve 1 offered]

/-- What a returned round has printed, and where it goes on. -/
def returns? : Option (Process app) → Option (Loop × List Output × Option Loop)
  | some ⟨loop, .done printed next⟩ => some (loop, printed, next)
  | _ => none

/-- A round that is seen to have returned has returned. -/
theorem of_returns {process : Option (Process app)} {loop : Loop} {printed : List Output}
    {next : Option Loop} (seen : returns? process = some (loop, printed, next)) :
    process = some ⟨loop, .done printed next⟩ := by
  unfold returns? at seen
  split at seen
  · obtain ⟨rfl, rfl, rfl⟩ : _ ∧ _ ∧ _ := by simpa using seen
    rfl
  · contradiction

set_option maxRecDepth 10000 in
/-- The disturbed registration acts once, and is told that the username is taken. -/
theorem calls_atomic_disturbed : ∃ earlier later, (System.initial app).run opened = some earlier ∧
    earlier.run disturbed = some later ∧
    ActsOnce .register (earlier.transitions 1 disturbed)
      [.println "Username already taken. Try another.\n"] := by
  have result : ((System.initial app).run (launching 0 1 ++ launching 1 9)).bind (fun middle =>
      (middle.run (typing 1 ["2"] ++ disturbed)).map fun later =>
        (@Option.map _ Loop Process.loop (middle.process 1), (roundOf 1 middle.log).length,
          decide (returns? (later.process 1) = some (.mainMenu,
            [.println "Username already taken. Try another.\n"], some .mainMenu)))) =
        some (some .mainMenu, 0, true) := by
    decide +kernel
  obtain ⟨middle, before, result⟩ := Option.bind_eq_some_iff.mp result
  obtain ⟨later, after, seen⟩ := Option.map_eq_some_iff.mp result
  obtain ⟨runs, fresh, returned⟩ : _ ∧ _ ∧ _ := by simpa using seen
  rw [System.run_append] at after
  obtain ⟨earlier, chosen, ran⟩ := Option.bind_eq_some_iff.mp after
  have reachable : middle.Reachable := ⟨launching 0 1 ++ launching 1 9, before⟩
  have parsed : Loop.operation .mainMenu (trim "2") = some .register := by decide
  obtain ⟨next, stepped, calls⟩ := choice_calls reachable (by simpa using runs) fresh parsed
  have same : next = earlier := by
    have alone := System.run_step stepped (System.run_nil next)
    exact Option.some.inj (alone.symm.trans chosen)
  rw [same] at calls
  have healthy (choice : Choice) (served : .serve 1 choice ∈ disturbed) : choice.fault = none := by
    simp [disturbed, registering, typing, serving] at served
    rw [served]
    rfl
  have start : (System.initial app).run opened = some earlier := by
    rw [opened, System.run_append, before, Option.bind_some, chosen]
  exact ⟨earlier, later, start, ran, (calls_atomic (reachable.run chosen) (by simp) calls ran
    (by decide) healthy (of_returns returned)).1⟩

end

end OnlineVoting
