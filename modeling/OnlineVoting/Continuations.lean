import OnlineVoting.Menus

/-!
# How a round goes on

What the program does around the statements that it sends: which of the lines typed in the round
they take, what it prints before and after a listing, that it returns at once with the message
of a write that succeeded, and how a login goes on with the menu of the role it is told. This holds
at every point of every loop.
-/
namespace OnlineVoting

open Interleaving

/-- The menu of a role. -/
def Role.menu (role : Role) (id : Nat) (username : String) : Loop :=
  match role with
  | .admin => .adminMenu id
  | .fieldOfficer => .officerMenu id
  | .voter => .voterMenu id username
  | .candidate => .candidateMenu id username

/-- The loop a login goes on with, given the answer of its query. -/
def enteredLoop (username : String) : Except SqlException (List LoginRow) → Loop
  | .ok (row :: _) => row.role.menu row.id username
  | _ => .mainMenu

/-- What `viewResults` prints of the answer of its query. -/
def leaderboard (answer : Except SqlException (List ResultRow)) : List Output :=
  listing "No approved candidates yet." (resultLines 1) answer

/-- What the pending applications of a table are printed under. -/
def pendingTitle : ProfileTable → Output
  | .voterProfiles => .println "\n── Pending Voter Applications ──"
  | .candidateProfiles => .println "\n── Pending Candidate Applications ──"

/-- What is printed of the pending applications of a table. -/
def pendingListing : (table : ProfileTable) →
    Except SqlException (List (ApplicationRow table.Entries)) → List Output
  | .voterProfiles => listing "No pending applications." (·.flatMap pendingVoterLines)
  | .candidateProfiles => listing "No pending applications." (·.flatMap pendingCandidateLines)

/-- What is printed of the approved candidates. -/
def approvedListing (answer : Except SqlException (List CandidateRow)) : List Output :=
  listing "No approved candidates yet." (·.flatMap candidateLines) answer

/-- What is printed of the forum. -/
def forumPage (answer : Except SqlException (List ForumRow)) : List Output :=
  listing "No posts yet. Be the first!" (·.flatMap postLines) answer

/-- What is printed before and after a listing is queried, and how the round goes on; a voter who has
not voted is shown the approved candidates first. -/
def Shows {α : Type} (value : α) (printed : List Output) :
    (stmt : Stmt) → (Answer stmt → Dialogue console α) → Prop
  | .selectPending table, next =>
    printed = [pendingTitle table] ∧ ∀ answer, next answer = .done (pendingListing table answer) value
  | .selectApproved, next =>
    printed = [.println "\n── Approved Candidates ──"] ∧
      ∀ answer, next answer = .done (approvedListing answer) value ∨
        ∃ more, next answer = .read (approvedListing answer ++
          [.print "Enter Candidate ID to vote for: "]) more
  | .selectResults, next =>
    printed = [.println "\n──── LIVE ELECTION RESULTS ────"] ∧
      ∀ answer, next answer = .done (leaderboard answer) value
  | .selectForum, next =>
    printed = [.println "\n──── DISCUSSION FORUM ────"] ∧
      ∀ answer, next answer = .done (forumPage answer) value
  | .existsVote _, next =>
    ∃ more, next (.ok false) = .ask [.println "\n── Approved Candidates ──"] .selectApproved more
  | _, _ => True

/-- How a login goes on. -/
def LoginGoesOn : (stmt : Stmt) → (Answer stmt → Dialogue console (Option Loop)) → Prop
  | .selectLogin username _, next =>
    ∀ answer, ∃ printed, next answer = .done printed (some (enteredLoop username answer))
  | _, _ => True

variable [Platform]

/-- What a statement takes from the lines typed in its round, newest first. -/
def Entered (typed : List String) : Stmt → Prop
  | .insertUser username passwordHash name role =>
    ∃ typedRole password typedUsername typedName rest,
      typed = typedRole :: password :: typedUsername :: typedName :: rest ∧
      username = trim typedUsername ∧ passwordHash = sha256 (trim password) ∧
      name = trim typedName ∧ role = toUpperCase (trim typedRole)
  | .insertProfile table _ entries => enteredFrom table typed = some entries
  | .updateStatus _ status id => ∃ action idStr rest, typed = action :: idStr :: rest ∧
      parseInt (trim idStr) = some id ∧ decision (toUpperCase (trim action)) = some status
  | .insertVote _ _ => ∃ idStr rest id, typed = idStr :: rest ∧ parseInt (trim idStr) = some id
  | .insertForumPost _ content => ∃ line rest, typed = line :: rest ∧ content = trim line
  | _ => True

/-- How a round goes on around a statement. -/
structure Asks {α : Type} (value : α) (typed : List String) (printed : List Output) (stmt : Stmt)
    (next : Answer stmt → Dialogue console α) : Prop where
  /-- The statement takes what was typed. -/
  entered : Entered typed stmt
  /-- A write that succeeds is reported, and ends the round. -/
  reports : ∀ answer, succeeds stmt answer = true →
    ∃ message, successMessage stmt = some message ∧ next answer = .done [message] value
  /-- A listing is printed under its title. -/
  listed : Shows value printed stmt next

/-- The course of a method of a session. -/
def methodCourse : Dialogue.Course console Unit where
  asks typed printed stmt next :=
    Asks () typed printed stmt next ∧ ∀ username passwordHash, stmt ≠ .selectLogin username passwordHash

/-- The course of a loop. -/
def Loop.course (loop : Loop) : Dialogue.Course console (Option Loop) where
  asks typed printed stmt next := Asks (some loop) typed printed stmt next ∧
    LoginGoesOn stmt next ∧ (loop = .boot → stmt ∈ startupStatements)

omit [Platform] in
/-- A method that has returned lets its loop go on. -/
theorem returned_round {rest : Dialogue console Unit} {printed : List Output}
    (returns : rest = .done printed ()) (loop : Loop) :
    (rest >>= fun _ => .done [] (some loop)) = .done printed (some loop) := by
  rw [returns, Dialogue.done_bind, Dialogue.prepend_done, List.append_nil]

/-- A method within a round of a loop. -/
theorem method_round {method : Dialogue console Unit} {typed : List String}
    (follows : method.Follows methodCourse typed) {loop : Loop} (menu : loop ≠ .boot) :
    (method >>= fun _ => .done [] (some loop)).Follows loop.course typed := by
  refine Dialogue.Follows.bind_done follows (fun typed printed stmt next asks => ?_)
    fun _ _ _ _ => trivial
  obtain ⟨⟨entered, reports, listed⟩, other⟩ := asks
  refine ⟨⟨entered, fun answer success => ?_, ?_⟩, ?_, fun boot => absurd boot menu⟩
  · obtain ⟨message, own, returns⟩ := reports answer success
    exact ⟨message, own, returned_round returns loop⟩
  · cases stmt with
    | selectPending _ | selectResults | selectForum =>
      obtain ⟨title, goes⟩ := listed
      exact ⟨title, fun answer => returned_round (goes answer) loop⟩
    | selectApproved =>
      obtain ⟨title, goes⟩ := listed
      refine ⟨title, fun answer => (goes answer).imp (fun returns => ?_) fun asks => ?_⟩
      · exact returned_round returns loop
      · obtain ⟨more, reads⟩ := asks
        exact ⟨_, congrArg (· >>= fun _ => .done [] (some loop)) reads⟩
    | existsVote _ =>
      obtain ⟨more, lists⟩ := listed
      exact ⟨_, congrArg (· >>= fun _ => .done [] (some loop)) lists⟩
    | _ => trivial
  · cases stmt with
    | selectLogin username passwordHash => exact absurd rfl (other username passwordHash)
    | _ => trivial

/-- Around a statement that writes nothing, only the listings matter. -/
theorem Asks.query {α : Type} {value : α} {typed : List String} {printed : List Output}
    {stmt : Stmt} {next : Answer stmt → Dialogue console α} (entered : Entered typed stmt)
    (quiet : ∀ answer, succeeds stmt answer = false) (listed : Shows value printed stmt next) :
    Asks value typed printed stmt next := by
  refine ⟨entered, fun answer success => ?_, listed⟩
  rw [quiet answer] at success
  contradiction

/-! ## Methods -/

theorem applyVoterID_follows (userId : Nat) (typed : List String) :
    (applyVoterID userId).Follows methodCourse typed := by
  rw [applyVoterID_eq]
  refine .ask ⟨.query trivial (fun _ => rfl) trivial, by simp⟩ fun answer => ?_
  split
  · exact .done trivial
  · refine .read fun _ => .read fun _ => .ask ⟨⟨rfl, fun answer success => ?_, trivial⟩, by simp⟩
      fun answer => ?_
    · cases answer with
      | ok _ => exact ⟨_, rfl, rfl⟩
      | error _ => contradiction
    · split <;> exact .done trivial
  · exact .done trivial

theorem applyCandidate_follows (userId : Nat) (typed : List String) :
    (applyCandidate userId).Follows methodCourse typed := by
  rw [applyCandidate_eq]
  refine .ask ⟨.query trivial (fun _ => rfl) trivial, by simp⟩ fun answer => ?_
  split
  · exact .done trivial
  · refine .read fun _ => .read fun _ => .read fun _ =>
      .ask ⟨⟨rfl, fun answer success => ?_, trivial⟩, by simp⟩ fun answer => ?_
    · cases answer with
      | ok _ => exact ⟨_, rfl, rfl⟩
      | error _ => contradiction
    · split <;> exact .done trivial
  · exact .done trivial

theorem viewMyVoterStatus_follows (userId : Nat) (typed : List String) :
    (viewMyVoterStatus userId).Follows methodCourse typed := by
  rw [viewMyVoterStatus_eq]
  refine .ask ⟨.query trivial (fun _ => rfl) trivial, by simp⟩ fun answer => ?_
  split <;> exact .done trivial

theorem viewMyCandidateStatus_follows (userId : Nat) (typed : List String) :
    (viewMyCandidateStatus userId).Follows methodCourse typed := by
  rw [viewMyCandidateStatus_eq]
  refine .ask ⟨.query trivial (fun _ => rfl) trivial, by simp⟩ fun answer => ?_
  split <;> exact .done trivial

theorem viewPendingVoters_follows (typed : List String) :
    viewPendingVoters.Follows methodCourse typed := by
  rw [viewPendingVoters_eq]
  exact .ask ⟨.query trivial (fun _ => rfl) ⟨rfl, fun _ => rfl⟩, by simp⟩
    fun _ => .done trivial

theorem viewPendingCandidates_follows (typed : List String) :
    viewPendingCandidates.Follows methodCourse typed := by
  rw [viewPendingCandidates_eq]
  exact .ask ⟨.query trivial (fun _ => rfl) ⟨rfl, fun _ => rfl⟩, by simp⟩
    fun _ => .done trivial

theorem viewApprovedCandidates_follows (typed : List String) :
    viewApprovedCandidates.Follows methodCourse typed := by
  rw [viewApprovedCandidates_eq]
  exact .ask ⟨.query trivial (fun _ => rfl) ⟨rfl, fun _ => .inl rfl⟩, by simp⟩
    fun _ => .done trivial

theorem viewResults_follows (typed : List String) : viewResults.Follows methodCourse typed := by
  rw [viewResults_eq]
  exact .ask ⟨.query trivial (fun _ => rfl) ⟨rfl, fun _ => rfl⟩, by simp⟩
    fun _ => .done trivial

theorem viewForum_follows (typed : List String) : viewForum.Follows methodCourse typed := by
  rw [viewForum_eq]
  exact .ask ⟨.query trivial (fun _ => rfl) ⟨rfl, fun _ => rfl⟩, by simp⟩
    fun _ => .done trivial

/-- `castVote` lists the approved candidates on its way to the prompt for one of them. -/
theorem castVote_follows (voterId : Nat) (typed : List String) :
    (castVote voterId).Follows methodCourse typed := by
  simp only [castVote_eq, chooseCandidate_eq, Dialogue.prepend_read]
  refine .ask ⟨.query trivial (fun _ => rfl) trivial, by simp⟩ fun answer => ?_
  split
  · split
    · refine .ask ⟨.query trivial (fun _ => rfl) ⟨_, rfl⟩, by simp⟩ fun answer => ?_
      split
      · exact .done trivial
      · refine .ask ⟨.query trivial (fun _ => rfl) ⟨rfl, fun _ => .inr ⟨_, rfl⟩⟩, by simp⟩ fun answer => ?_
        refine .read fun idStr => .ask ⟨.query trivial (fun _ => rfl) trivial, by simp⟩ fun answer => ?_
        split
        · split
          · rename_i id parsed
            refine .ask ⟨.query trivial (fun _ => rfl) trivial, by simp⟩ fun answer => ?_
            split
            · refine .ask ⟨⟨⟨idStr, typed, id, rfl, parsed⟩, fun answer success => ?_, trivial⟩,
                by simp⟩ fun answer => ?_
              · cases answer with
                | ok _ => exact ⟨_, rfl, rfl⟩
                | error _ => contradiction
              · split <;> exact .done trivial
            · exact .done trivial
            · exact .done trivial
          · exact .done trivial
        · exact .done trivial
      · exact .done trivial
    · exact .done trivial
  · exact .done trivial
  · exact .done trivial

theorem postForum_follows (userId : Nat) (typed : List String) :
    (postForum userId).Follows methodCourse typed := by
  rw [postForum_eq]
  refine .read fun line => ?_
  split
  · exact .done trivial
  · refine .ask ⟨⟨⟨line, typed, rfl, rfl⟩, fun answer success => ?_, trivial⟩, by simp⟩
      fun answer => ?_
    · cases answer with
      | ok _ => exact ⟨_, rfl, rfl⟩
      | error _ => contradiction
    · split <;> exact .done trivial

theorem approveReject_follows (table : ProfileTable) (typed : List String) :
    (approveReject table).Follows methodCourse typed := by
  rw [approveReject_eq]
  refine .read fun idStr => .read fun action => ?_
  split
  · exact .done trivial
  · rename_i status decided
    refine .ask ⟨.query trivial (fun _ => rfl) trivial, by simp⟩ fun answer => ?_
    split
    · split
      · rename_i id parsed
        refine .ask ⟨⟨⟨action, idStr, typed, rfl, parsed, decided⟩, fun answer success => ?_,
          trivial⟩, by simp⟩ fun answer => ?_
        · cases answer with
          | ok rows =>
            have found : 0 < rows := of_decide_eq_true success
            exact ⟨_, rfl, by simp only [if_pos found]⟩
          | error _ => contradiction
        · split
          · split <;> exact .done trivial
          · exact .done trivial
      · exact .done trivial
    · exact .done trivial

theorem register_follows (typed : List String) : register.Follows methodCourse typed := by
  rw [register_eq]
  refine .read fun name => .read fun username => .read fun password => .read fun role => ?_
  split
  · refine .ask ⟨⟨⟨role, password, username, name, typed, rfl, rfl, rfl, rfl, rfl⟩,
      fun answer success => ?_, trivial⟩, by simp⟩ fun answer => ?_
    · cases answer with
      | ok _ => exact ⟨_, rfl, rfl⟩
      | error _ => contradiction
    · split
      · exact .done trivial
      · split <;> exact .done trivial
  · exact .done trivial

/-! ## Loops -/

/-- `login` enters the menu of the role. -/
theorem login_follows (typed : List String) : login.Follows Loop.mainMenu.course typed := by
  rw [login_eq]
  refine .read fun username => .read fun password =>
    .ask ⟨.query trivial (fun _ => rfl) trivial, fun answer => ?_, by simp⟩ fun answer => ?_
  · obtain e | _ | ⟨⟨id, name, role⟩, others⟩ := answer
    · exact ⟨_, rfl⟩
    · exact ⟨_, rfl⟩
    · cases role <;> exact ⟨_, rfl⟩
  · obtain e | _ | ⟨⟨id, name, role⟩, others⟩ := answer
    · exact .done trivial
    · exact .done trivial
    · cases role <;> exact .done trivial

/-- The startup asks for nothing that was typed, and lists nothing. -/
theorem startup_follows (typed : List String) : startup.Follows Loop.boot.course typed := by
  have all (stmts : List Stmt) (own : ∀ stmt ∈ stmts, stmt ∈ startupStatements)
      (printed : List Output) (next : Except SqlException Unit → Dialogue console (Option Loop))
      (ends : ∀ result printed, ((next result).prepend printed).Follows Loop.boot.course typed) :
      ((executeAll stmts >>= next).prepend printed).Follows Loop.boot.course typed := by
    induction stmts generalizing printed with
    | nil =>
      rw [executeAll_nil_bind]
      exact ends (.ok ()) printed
    | cons stmt rest ih =>
      rw [executeAll_cons_bind, Dialogue.prepend_ask, List.append_nil]
      refine .ask ?_ fun answer => ?_
      · have present := own stmt List.mem_cons_self
        refine ⟨?_, ?_, fun _ => present⟩
        all_goals simp only [startupStatements, connectStatements, setupStatements, List.cons_append,
          List.nil_append, List.mem_cons, List.not_mem_nil, or_false] at present
        · rcases present with rfl | rfl | rfl | rfl | rfl | rfl | rfl | rfl | rfl <;>
            exact .query trivial (fun _ => rfl) trivial
        · rcases present with rfl | rfl | rfl | rfl | rfl | rfl | rfl | rfl | rfl <;> trivial
      · cases answer with
        | ok _ => exact ih (fun stmt present => own stmt (List.mem_cons_of_mem _ present)) []
        | error e => exact ends (.error e) []
  obtain ⟨printed, next, concludes, _, same⟩ := startup_eq
  rw [same]
  refine all _ (fun _ present => present) printed next fun result printed => ?_
  cases result with
  | ok _ =>
    rw [concludes.ok, Dialogue.prepend_done]
    exact .done trivial
  | error e =>
    rw [concludes.error, Dialogue.prepend_done]
    exact .done trivial

theorem mainMenu_follows : mainMenu.Follows Loop.mainMenu.course [] := by
  rw [mainMenu_eq]
  refine .read fun line => ?_
  split
  · exact login_follows _
  · exact method_round (register_follows _) (by simp)
  · exact .done trivial
  · exact .done trivial

theorem adminMenu_follows (adminId : Nat) :
    (adminMenu adminId).Follows (Loop.adminMenu adminId).course [] := by
  rw [adminMenu_eq]
  refine .read fun line => ?_
  split
  · exact method_round (viewPendingVoters_follows _) (by simp)
  · exact method_round (approveReject_follows .voterProfiles _) (by simp)
  · exact method_round (viewPendingCandidates_follows _) (by simp)
  · exact method_round (approveReject_follows .candidateProfiles _) (by simp)
  · exact method_round (viewResults_follows _) (by simp)
  · exact .done trivial
  · exact .done trivial

theorem officerMenu_follows (officerId : Nat) :
    (officerMenu officerId).Follows (Loop.officerMenu officerId).course [] := by
  rw [officerMenu_eq]
  refine .read fun line => ?_
  split
  · exact method_round (viewPendingVoters_follows _) (by simp)
  · exact method_round (approveReject_follows .voterProfiles _) (by simp)
  · exact .done trivial
  · exact .done trivial

theorem voterMenu_follows (voterId : Nat) (username : String) :
    (voterMenu voterId username).Follows (Loop.voterMenu voterId username).course [] := by
  rw [voterMenu_eq]
  refine .read fun line => ?_
  split
  · exact method_round (applyVoterID_follows voterId _) (by simp)
  · exact method_round (viewMyVoterStatus_follows voterId _) (by simp)
  · exact method_round (viewApprovedCandidates_follows _) (by simp)
  · exact method_round (castVote_follows voterId _) (by simp)
  · exact method_round (postForum_follows voterId _) (by simp)
  · exact method_round (viewForum_follows _) (by simp)
  · exact .done trivial
  · exact .done trivial

theorem candidateMenu_follows (candidateId : Nat) (username : String) :
    (candidateMenu candidateId username).Follows (Loop.candidateMenu candidateId username).course
      [] := by
  rw [candidateMenu_eq]
  refine .read fun line => ?_
  split
  · exact method_round (applyCandidate_follows candidateId _) (by simp)
  · exact method_round (viewMyCandidateStatus_follows candidateId _) (by simp)
  · exact method_round (postForum_follows candidateId _) (by simp)
  · exact method_round (viewForum_follows _) (by simp)
  · exact .done trivial
  · exact .done trivial

/-- Every loop takes its course. -/
theorem body_follows (loop : Loop) : loop.body.Follows loop.course [] := by
  cases loop with
  | boot => exact startup_follows []
  | mainMenu => exact mainMenu_follows
  | adminMenu adminId => exact adminMenu_follows adminId
  | officerMenu officerId => exact officerMenu_follows officerId
  | voterMenu voterId username => exact voterMenu_follows voterId username
  | candidateMenu candidateId username => exact candidateMenu_follows candidateId username

/-- A process that waits for an answer is on the course of its loop. -/
theorem asks_of_reachable {system : System app} (reachable : system.Reachable) {process : Nat}
    {loop : Loop} {printed : List Output} {stmt : Stmt}
    {next : Answer stmt → Dialogue console (Option Loop)}
    (waits : system.process process = some ⟨loop, .ask printed stmt next⟩) :
    Asks (some loop) (linesOf process (roundOf process system.log)) printed stmt next ∧
      LoginGoesOn stmt next ∧ (loop = .boot → stmt ∈ startupStatements) :=
  Dialogue.Follows.asks (System.Reachable.follows body_follows reachable waits)

/-- The statements of sessions are sent on a complete database. -/
theorem complete_of_waits {system : System app} (reachable : system.Reachable) {process : Nat}
    {loop : Loop} {printed : List Output} {stmt : Stmt}
    {next : Answer stmt → Dialogue console (Option Loop)}
    (waits : system.process process = some ⟨loop, .ask printed stmt next⟩)
    (session : stmt ∉ startupStatements) : system.store.Complete := by
  have ready := (good_of_reachable reachable).ready _ _ _ waits
  exact ready.complete fun boot => session ((asks_of_reachable reachable waits).2.2 boot)

/-- A query on a complete database gets its result, and changes nothing. -/
theorem serve_query {stmt : Stmt} {choice : Choice} {database : Database}
    (complete : database.Complete) (fault : choice.fault = none) {tables : List TableName}
    {result : Result stmt} (queries : execute choice database stmt = database.query tables result) :
    serve stmt choice database = some (database, .ok result) := by
  have all : tables.find? (fun table => !database.has table) = none := by
    simp [List.find?_eq_none, complete.has]
  simp only [serve, fault, queries, Database.query, all]

/-- A session that waits for the result of a query gets it. -/
theorem query_step {system : System app} (reachable : system.Reachable) {process : Nat}
    {stmt : Stmt} (requests : system.requested process = some stmt)
    (session : stmt ∉ startupStatements) {choice : Choice} (fault : choice.fault = none)
    {tables : List TableName} {result : Result stmt}
    (queries : execute choice system.store stmt = system.store.query tables result) :
    ∃ loop printed next, system.process process = some ⟨loop, .ask printed stmt next⟩ ∧
      system.step (.serve process choice) = some (system.advance process system.store loop
        (.served stmt choice (.ok result)) (some (next (.ok result)))) := by
  obtain ⟨loop, printed, next, waits⟩ := System.waits_of_requested requests
  have complete := complete_of_waits reachable waits session
  exact ⟨loop, printed, next, waits,
    System.step_serve waits (serve_query complete fault queries)⟩

end OnlineVoting
