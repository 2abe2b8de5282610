import OnlineVoting.Operations
import OnlineVoting.Replies

/-!
# Methods that read

A method that only shows something asks for it with one statement, and prints the answer. The menus
call these methods; a choice of one sends its query, whatever the others do before it is served the
method goes on waiting for the answer, and it prints the answer that it is given.
-/
namespace OnlineVoting

open Interleaving

/-- What is printed of the answer about one's own application. -/
def statusPage (table : ProfileTable) :
    Except SqlException (List (table.Entries × Status)) → List Output
  | .ok rows => ownStatus table rows
  | .error e => [.println ("[DB ERROR] " ++ e.message)]

/-- The methods that only show something. -/
inductive Reading where
  /-- `viewPendingVoters` and `viewPendingCandidates` -/
  | pending (table : ProfileTable)
  /-- `viewApprovedCandidates` -/
  | approved
  /-- `viewResults` -/
  | results
  /-- `viewForum` -/
  | forum
  /-- `viewMyVoterStatus` and `viewMyCandidateStatus` -/
  | ownStatus (table : ProfileTable) (userId : Nat)

namespace Reading

/-- The method of the source. -/
def method : Reading → Dialogue console Unit
  | pending .voterProfiles => viewPendingVoters
  | pending .candidateProfiles => viewPendingCandidates
  | approved => viewApprovedCandidates
  | results => viewResults
  | forum => viewForum
  | ownStatus .voterProfiles voterId => viewMyVoterStatus voterId
  | ownStatus .candidateProfiles candidateId => viewMyCandidateStatus candidateId

/-- What it prints before its query. -/
def title : Reading → List Output
  | pending table => [pendingTitle table]
  | approved => [.println "\n── Approved Candidates ──"]
  | results => [.println "\n──── LIVE ELECTION RESULTS ────"]
  | forum => [.println "\n──── DISCUSSION FORUM ────"]
  | ownStatus _ _ => []

/-- Its query. -/
@[reducible] def stmt : Reading → Stmt
  | pending table => .selectPending table
  | approved => .selectApproved
  | results => .selectResults
  | forum => .selectForum
  | ownStatus table userId => .selectProfile table userId

/-- What it prints of the answer. -/
def page : (reading : Reading) → Answer reading.stmt → List Output
  | pending table => pendingListing table
  | approved => approvedListing
  | results => leaderboard
  | forum => forumPage
  | ownStatus table _ => statusPage table

/-- Every one of them asks once, and prints the answer. -/
theorem method_eq (reading : Reading) : reading.method =
    .ask reading.title reading.stmt fun answer => .done (reading.page answer) () := by
  cases reading with
  | pending table =>
    cases table with
    | voterProfiles => exact viewPendingVoters_eq
    | candidateProfiles => exact viewPendingCandidates_eq
  | approved => exact viewApprovedCandidates_eq
  | results => exact viewResults_eq
  | forum => exact viewForum_eq
  | ownStatus table userId =>
    cases table with
    | voterProfiles =>
      rw [method, viewMyVoterStatus_eq]
      refine congrArg _ (funext fun answer => ?_)
      obtain _ | _ | _ := answer <;> rfl
    | candidateProfiles =>
      rw [method, viewMyCandidateStatus_eq]
      refine congrArg _ (funext fun answer => ?_)
      obtain _ | _ | _ := answer <;> rfl

/-- A call of it in a menu, which goes on with the menu. -/
def asked (reading : Reading) (loop : Loop) : Dialogue console (Option Loop) :=
  .ask reading.title reading.stmt fun answer => .done (reading.page answer) (some loop)

/-- A menu that calls it waits for its answer. -/
theorem method_round (reading : Reading) (loop : Loop) :
    (reading.method >>= fun _ => .done [] (some loop)) = reading.asked loop := by
  rw [method_eq, Dialogue.ask_bind]
  refine congrArg _ (funext fun answer => ?_)
  exact returned_round rfl loop

end Reading

/-- The method behind a choice in a menu. -/
def Loop.reading : Loop → String → Option Reading
  | .adminMenu _, "1" => some (.pending .voterProfiles)
  | .adminMenu _, "3" => some (.pending .candidateProfiles)
  | .adminMenu _, "5" => some .results
  | .officerMenu _, "1" => some (.pending .voterProfiles)
  | .voterMenu voterId _, "2" => some (.ownStatus .voterProfiles voterId)
  | .voterMenu _ _, "3" => some .approved
  | .voterMenu _ _, "6" => some .forum
  | .candidateMenu candidateId _, "2" => some (.ownStatus .candidateProfiles candidateId)
  | .candidateMenu _ _, "4" => some .forum
  | _, _ => none

variable [Platform]

/-- Every menu calls the method that was chosen. -/
theorem menu_reads {loop : Loop} {line : String} {reading : Reading}
    (chosen : loop.reading (trim line) = some reading) :
    ∃ printed next, loop.body = .read printed next ∧ next line = reading.asked loop := by
  unfold Loop.reading at chosen
  split at chosen
  case h_10 => contradiction
  all_goals
    rename_i typed
    obtain rfl := Option.some.inj chosen
    rw [← Reading.method_round]
    simp only [Loop.body, adminMenu_eq, officerMenu_eq, voterMenu_eq, candidateMenu_eq]
    refine ⟨_, _, rfl, ?_⟩
    simp only [typed]
    rfl

/-- A line typed at a menu sends the query of the method that it chooses, and changes no table; until
it is served, the process waits for the answer, which it then prints. -/
theorem choice_reads {system : System app} (reachable : system.Reachable) {process : Nat}
    {loop : Loop} (runs : (system.process process).map Process.loop = some loop)
    (fresh : roundOf process system.log = []) {line : String} {reading : Reading}
    (chosen : loop.reading (trim line) = some reading) :
    ∃ asked, system.step (.type process line) = some asked ∧ asked.store = system.store ∧
      asked.Reachable ∧ ∀ events later, (∀ event ∈ events, event.actor ≠ process) →
        asked.run events = some later →
          later.process process = some ⟨loop, reading.asked loop⟩ := by
  have waits : system.process process = some ⟨loop, loop.body⟩ := reachable.at_body runs fresh
  obtain ⟨printed, more, body, calls⟩ := menu_reads chosen
  rw [body] at waits
  have stepped := System.step_type waits line
  refine ⟨_, stepped, rfl, reachable.step stepped, fun events later idle ran => ?_⟩
  rw [System.run_idle idle ran, System.advance_self, calls]
  rfl

/-- A voter that has not voted yet is shown the approved candidates before it chooses one. -/
theorem casting_lists {system : System app} (reachable : system.Reachable) {process voterId : Nat}
    (requests : system.requested process = some (.existsVote voterId)) {choice : Choice}
    (fault : choice.fault = none)
    (free : ∀ vote ∈ system.store.rows.votes, vote.voterId ≠ voterId) :
    ∃ asked, system.step (.serve process choice) = some asked ∧ asked.store = system.store ∧
      asked.Reachable ∧ ∀ events later, (∀ event ∈ events, event.actor ≠ process) →
        asked.run events = some later → ∃ loop next, later.process process =
          some ⟨loop, .ask Reading.approved.title .selectApproved next⟩ := by
  have unvoted : (system.store.rows.votes.any fun vote => vote.voterId = voterId) = false := by
    rw [List.any_eq_false]
    exact fun vote present => by simp [free vote present]
  obtain ⟨loop, printed, next, waits, stepped⟩ := query_step reachable requests
    (by simp [connectStatements, setupStatements]) fault rfl
  rw [unvoted] at stepped
  obtain ⟨⟨_, _, more, lists⟩, _⟩ := asks_of_reachable reachable waits
  rw [lists] at stepped
  refine ⟨_, stepped, rfl, reachable.step stepped, fun events later idle ran => ?_⟩
  rw [System.run_idle idle ran, System.advance_self]
  exact ⟨_, _, rfl⟩

/-- A process that waits for the answer of such a method has sent its query. -/
theorem Reading.requested {system : System app} {process : Nat} {loop : Loop} {reading : Reading}
    (waits : system.process process = some ⟨loop, reading.asked loop⟩) :
    system.requested process = some reading.stmt := by
  rw [System.requested, waits]
  rfl

end OnlineVoting
