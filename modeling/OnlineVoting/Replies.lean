import OnlineVoting.Continuations

/-!
# What a session is told

Most statements end the method that sends them, for most of their answers: with the success message,
with the rows asked for, with the reason why the method stops, or with the exception. This is the
table of these replies, and every method of every menu keeps to it.
-/
namespace OnlineVoting

open Interleaving

/-- What is printed of an application that its user asks for. -/
def ownStatus : (table : ProfileTable) → List (table.Entries × Status) → List Output
  | .voterProfiles, (entries, status) :: _ =>
    [.println ("Constituency: " ++ entries.constituency),
      .println ("Status      : " ++ status.label ++ "\n")]
  | .voterProfiles, [] => [.println "No application found. Please apply first.\n"]
  | .candidateProfiles, (entries, status) :: _ =>
    [.println ("Party       : " ++ entries.party),
      .println ("Constituency: " ++ entries.constituency),
      .println ("Status      : " ++ status.label ++ "\n")]
  | .candidateProfiles, [] => [.println "No candidacy application found.\n"]

/-- What `register` prints of an exception. -/
def registerError (e : SqlException) : Output :=
  if contains e.message "Duplicate" then .println "Username already taken. Try another.\n"
  else .println ("[DB ERROR] " ++ e.message)

/-- What a method prints when this answer ends it. -/
def reply : (stmt : Stmt) → Answer stmt → Option (List Output)
  | .selectLogin _ _, .ok [] => some [.println "Invalid username or password.\n"]
  | .selectLogin _ _, .error e => some [.println ("[DB ERROR] " ++ e.message)]
  | .insertUser _ _ _ _, .ok () => some [.println "Registered successfully! You can now log in.\n"]
  | .insertUser _ _ _ _, .error e => some [registerError e]
  | .existsProfile .voterProfiles _, .ok true =>
    some [.println "You have already submitted a Voter ID application.\n"]
  | .existsProfile .candidateProfiles _, .ok true =>
    some [.println "You have already submitted a candidacy application.\n"]
  | .existsProfile _ _, .error e => some [.println ("[DB ERROR] " ++ e.message)]
  | .insertProfile .voterProfiles _ _, .ok () =>
    some [.println "Voter ID application submitted! Status: PENDING.\n"]
  | .insertProfile .candidateProfiles _ _, .ok () =>
    some [.println "Candidacy application submitted! Status: PENDING.\n"]
  | .insertProfile _ _ _, .error e => some [.println ("[DB ERROR] " ++ e.message)]
  | .selectProfile table _, .ok rows => some (ownStatus table rows)
  | .selectProfile _ _, .error e => some [.println ("[DB ERROR] " ++ e.message)]
  | .selectPending table, answer => some (pendingListing table answer)
  | .prepare, .error e => some [.println ("[ERROR] " ++ e.message)]
  | .updateStatus _ status _, .ok rows =>
    some [if 0 < rows then .println ("Done! Status set to " ++ status.label ++ ".\n")
      else .println "ID not found.\n"]
  | .updateStatus _ _ _, .error e => some [.println ("[ERROR] " ++ e.message)]
  | .selectVoterStatus _, .ok (status :: _) =>
    if status.label = "APPROVED" then none
    else some [.println "Your Voter ID is not approved yet.\n"]
  | .selectVoterStatus _, .ok [] => some [.println "You need to apply for a Voter ID first.\n"]
  | .selectVoterStatus _, .error e => some [.println ("[DB ERROR] " ++ e.message)]
  | .existsVote _, .ok true => some [.println "You have already cast your vote!\n"]
  | .existsVote _, .error e => some [.println ("[DB ERROR] " ++ e.message)]
  | .selectCandidate _, .ok [] => some [.println "Invalid candidate ID.\n"]
  | .selectCandidate _, .error e => some [.println ("[ERROR] " ++ e.message)]
  | .insertVote _ _, .ok () => some [.println "Vote cast successfully! Thank you.\n"]
  | .insertVote _ _, .error e => some [.println ("[ERROR] " ++ e.message)]
  | .selectResults, answer => some (leaderboard answer)
  | .insertForumPost _ _, .ok () => some [.println "Posted!\n"]
  | .insertForumPost _ _, .error e => some [.println ("[DB ERROR] " ++ e.message)]
  | .selectForum, answer => some (forumPage answer)
  | _, _ => none

/-- A statement whose replies end a method end it with this value. -/
def Replies {α : Type} (value : α) (stmt : Stmt) (next : Answer stmt → Dialogue console α) : Prop :=
  ∀ answer lines, reply stmt answer = some lines → next answer = .done lines value

/-- Methods that keep to the table of replies. -/
def replyCourse {α : Type} (value : α) : Dialogue.Course console α where
  asks _ _ stmt next := Replies value stmt next

/-- A method that prints the reply ends with it. -/
theorem told {α : Type} {value : α} {shown lines : List Output}
    (replies : some shown = some lines) : @Dialogue.done console α shown value = .done lines value :=
  congrArg (Dialogue.done · value) (Option.some.inj replies)

/-- A method within a round replies for the round. -/
theorem reply_round {method : Dialogue console Unit} {typed : List String}
    (follows : method.Follows (replyCourse ()) typed) (loop : Loop) :
    (method >>= fun _ => .done [] (some loop)).Follows (replyCourse (some loop)) typed := by
  refine Dialogue.Follows.bind_done follows (fun typed printed stmt next asks => ?_)
    fun _ _ _ _ => trivial
  intro answer lines replies
  exact returned_round (asks answer lines replies) loop

/-- What was printed before a method replies does not matter. -/
theorem prepend_replies {α : Type} {value : α} {rest : Dialogue console α}
    {typed : List String} (follows : rest.Follows (replyCourse value) typed)
    (printed : List Output) : (rest.prepend printed).Follows (replyCourse value) typed := by
  cases follows with
  | done =>
    rw [Dialogue.prepend_done]
    exact .done trivial
  | read more =>
    rw [Dialogue.prepend_read]
    exact .read more
  | ask asks more =>
    rw [Dialogue.prepend_ask]
    exact .ask asks more

/-! ## Methods -/

theorem applyVoterID_replies (userId : Nat) (typed : List String) :
    (applyVoterID userId).Follows (replyCourse ()) typed := by
  rw [applyVoterID_eq]
  refine .ask ?_ fun answer => ?_
  · rintro (e | found) lines replies
    · exact told replies
    · cases found with
      | true => exact told replies
      | false => contradiction
  · split
    · exact .done trivial
    · refine .read fun _ => .read fun _ => .ask ?_ fun answer => ?_
      · rintro (e | ⟨⟨⟩⟩) lines replies
        · exact told replies
        · exact told replies
      · split <;> exact .done trivial
    · exact .done trivial

theorem applyCandidate_replies (userId : Nat) (typed : List String) :
    (applyCandidate userId).Follows (replyCourse ()) typed := by
  rw [applyCandidate_eq]
  refine .ask ?_ fun answer => ?_
  · rintro (e | found) lines replies
    · exact told replies
    · cases found with
      | true => exact told replies
      | false => contradiction
  · split
    · exact .done trivial
    · refine .read fun _ => .read fun _ => .read fun _ => .ask ?_ fun answer => ?_
      · rintro (e | ⟨⟨⟩⟩) lines replies
        · exact told replies
        · exact told replies
      · split <;> exact .done trivial
    · exact .done trivial

theorem viewMyVoterStatus_replies (userId : Nat) (typed : List String) :
    (viewMyVoterStatus userId).Follows (replyCourse ()) typed := by
  rw [viewMyVoterStatus_eq]
  refine .ask ?_ fun answer => ?_
  · rintro (e | _ | ⟨⟨entries, status⟩, others⟩) lines replies
    · exact told replies
    · exact told replies
    · exact told replies
  · split <;> exact .done trivial

theorem viewMyCandidateStatus_replies (userId : Nat) (typed : List String) :
    (viewMyCandidateStatus userId).Follows (replyCourse ()) typed := by
  rw [viewMyCandidateStatus_eq]
  refine .ask ?_ fun answer => ?_
  · rintro (e | _ | ⟨⟨entries, status⟩, others⟩) lines replies
    · exact told replies
    · exact told replies
    · exact told replies
  · split <;> exact .done trivial

theorem viewPendingVoters_replies (typed : List String) :
    viewPendingVoters.Follows (replyCourse ()) typed := by
  rw [viewPendingVoters_eq]
  exact .ask (fun _ _ replies => told replies) fun _ => .done trivial

theorem viewPendingCandidates_replies (typed : List String) :
    viewPendingCandidates.Follows (replyCourse ()) typed := by
  rw [viewPendingCandidates_eq]
  exact .ask (fun _ _ replies => told replies) fun _ => .done trivial

theorem viewApprovedCandidates_replies (typed : List String) :
    viewApprovedCandidates.Follows (replyCourse ()) typed := by
  rw [viewApprovedCandidates_eq]
  exact .ask (fun _ _ replies => by contradiction) fun _ => .done trivial

theorem viewResults_replies (typed : List String) :
    viewResults.Follows (replyCourse ()) typed := by
  rw [viewResults_eq]
  exact .ask (fun _ _ replies => told replies) fun _ => .done trivial

theorem viewForum_replies (typed : List String) :
    viewForum.Follows (replyCourse ()) typed := by
  rw [viewForum_eq]
  exact .ask (fun _ _ replies => told replies) fun _ => .done trivial

/-- The part of `castVote` after the listing. -/
theorem chooseCandidate_replies (voterId : Nat) (typed : List String) :
    (chooseCandidate voterId).Follows (replyCourse ()) typed := by
  rw [chooseCandidate_eq]
  refine .read fun idStr => .ask ?_ fun answer => ?_
  · rintro (e | ⟨⟨⟩⟩) lines replies
    · exact told replies
    · contradiction
  · split
    · split
      · refine .ask ?_ fun answer => ?_
        · rintro (e | _ | ⟨candidateId, others⟩) lines replies
          · exact told replies
          · exact told replies
          · contradiction
        · split
          · refine .ask ?_ fun answer => ?_
            · rintro (e | ⟨⟨⟩⟩) lines replies
              · exact told replies
              · exact told replies
            · split <;> exact .done trivial
          · exact .done trivial
          · exact .done trivial
      · exact .done trivial
    · exact .done trivial

theorem castVote_replies (voterId : Nat) (typed : List String) :
    (castVote voterId).Follows (replyCourse ()) typed := by
  rw [castVote_eq]
  refine .ask ?_ fun answer => ?_
  · rintro (e | _ | ⟨status, others⟩) lines replies
    · exact told replies
    · exact told replies
    · simp only [reply] at replies
      split at replies
      · contradiction
      · rename_i unapproved
        simp only [if_neg unapproved]
        exact told replies
  · split
    · split
      · refine .ask ?_ fun answer => ?_
        · rintro (e | found) lines replies
          · exact told replies
          · cases found with
            | true => exact told replies
            | false => contradiction
        · split
          · exact .done trivial
          · refine .ask (fun _ _ replies => by contradiction) fun answer => ?_
            exact prepend_replies (chooseCandidate_replies voterId _) _
          · exact .done trivial
      · exact .done trivial
    · exact .done trivial
    · exact .done trivial

theorem postForum_replies (userId : Nat) (typed : List String) :
    (postForum userId).Follows (replyCourse ()) typed := by
  rw [postForum_eq]
  refine .read fun line => ?_
  split
  · exact .done trivial
  · refine .ask ?_ fun answer => ?_
    · rintro (e | ⟨⟨⟩⟩) lines replies
      · exact told replies
      · exact told replies
    · split <;> exact .done trivial

/-- `login` replies unless it enters a menu. -/
theorem login_replies (typed : List String) :
    login.Follows (replyCourse (some Loop.mainMenu)) typed := by
  rw [login_eq]
  refine .read fun username => .read fun password => .ask ?_ fun answer => ?_
  · rintro (e | _ | ⟨row, others⟩) lines replies
    · exact told replies
    · exact told replies
    · contradiction
  · obtain e | _ | ⟨⟨id, name, role⟩, others⟩ := answer
    · exact .done trivial
    · exact .done trivial
    · cases role <;> exact .done trivial

variable [Platform]

theorem approveReject_replies (table : ProfileTable) (typed : List String) :
    (approveReject table).Follows (replyCourse ()) typed := by
  rw [approveReject_eq]
  refine .read fun idStr => .read fun action => ?_
  split
  · exact .done trivial
  · refine .ask ?_ fun answer => ?_
    · rintro (e | ⟨⟨⟩⟩) lines replies
      · exact told replies
      · contradiction
    · split
      · split
        · refine .ask ?_ fun answer => ?_
          · rintro (e | rows) lines replies
            · exact told replies
            · by_cases found : 0 < rows
              · simp only [reply, if_pos found] at replies
                simp only [if_pos found]
                exact told replies
              · simp only [reply, if_neg found] at replies
                simp only [if_neg found]
                exact told replies
          · split
            · split <;> exact .done trivial
            · exact .done trivial
        · exact .done trivial
      · exact .done trivial

theorem register_replies (typed : List String) : register.Follows (replyCourse ()) typed := by
  rw [register_eq]
  refine .read fun name => .read fun username => .read fun password => .read fun role => ?_
  split
  · refine .ask ?_ fun answer => ?_
    · rintro (e | ⟨⟨⟩⟩) lines replies
      · by_cases duplicate : contains e.message "Duplicate" = true
        · simp only [reply, registerError, if_pos duplicate] at replies
          simp only [if_pos duplicate]
          exact told replies
        · simp only [reply, registerError, if_neg duplicate] at replies
          simp only [if_neg duplicate]
          exact told replies
      · exact told replies
    · split
      · exact .done trivial
      · split <;> exact .done trivial
  · exact .done trivial

/-! ## Loops -/

omit [Platform] in
/-- The statements of the startup have no reply. -/
theorem reply_startup {stmt : Stmt} (own : stmt ∈ startupStatements) (answer : Answer stmt) :
    reply stmt answer = none := by
  simp only [startupStatements, connectStatements, setupStatements, List.cons_append,
    List.nil_append, List.mem_cons, List.not_mem_nil, or_false] at own
  rcases own with rfl | rfl | rfl | rfl | rfl | rfl | rfl | rfl | rfl <;> rfl

omit [Platform] in
theorem startup_replies (typed : List String) :
    startup.Follows (replyCourse (some Loop.boot)) typed := by
  have all (stmts : List Stmt) (own : ∀ stmt ∈ stmts, stmt ∈ startupStatements)
      (printed : List Output) (next : Except SqlException Unit → Dialogue console (Option Loop))
      (ends : ∀ result, (next result).Follows (replyCourse (some Loop.boot)) typed) :
      ((executeAll stmts >>= next).prepend printed).Follows (replyCourse (some Loop.boot))
        typed := by
    induction stmts generalizing printed with
    | nil =>
      rw [executeAll_nil_bind]
      exact prepend_replies (ends (.ok ())) printed
    | cons stmt rest ih =>
      rw [executeAll_cons_bind, Dialogue.prepend_ask, List.append_nil]
      refine .ask (fun answer lines replies => ?_) fun answer => ?_
      · rw [reply_startup (own stmt List.mem_cons_self)] at replies
        contradiction
      · cases answer with
        | ok _ => exact ih (fun stmt present => own stmt (List.mem_cons_of_mem _ present)) []
        | error e => exact ends (.error e)
  obtain ⟨printed, next, concludes, _, same⟩ := startup_eq
  rw [same]
  refine all _ (fun _ present => present) printed next fun result => ?_
  cases result with
  | ok _ =>
    rw [concludes.ok]
    exact .done trivial
  | error e =>
    rw [concludes.error]
    exact .done trivial

theorem mainMenu_replies : mainMenu.Follows (replyCourse (some Loop.mainMenu)) [] := by
  rw [mainMenu_eq]
  refine .read fun line => ?_
  split
  · exact login_replies _
  · exact reply_round (register_replies _) _
  · exact .done trivial
  · exact .done trivial

theorem adminMenu_replies (adminId : Nat) :
    (adminMenu adminId).Follows (replyCourse (some (.adminMenu adminId))) [] := by
  rw [adminMenu_eq]
  refine .read fun line => ?_
  split
  · exact reply_round (viewPendingVoters_replies _) _
  · exact reply_round (approveReject_replies .voterProfiles _) _
  · exact reply_round (viewPendingCandidates_replies _) _
  · exact reply_round (approveReject_replies .candidateProfiles _) _
  · exact reply_round (viewResults_replies _) _
  · exact .done trivial
  · exact .done trivial

theorem officerMenu_replies (officerId : Nat) :
    (officerMenu officerId).Follows (replyCourse (some (.officerMenu officerId))) [] := by
  rw [officerMenu_eq]
  refine .read fun line => ?_
  split
  · exact reply_round (viewPendingVoters_replies _) _
  · exact reply_round (approveReject_replies .voterProfiles _) _
  · exact .done trivial
  · exact .done trivial

omit [Platform] in
theorem voterMenu_replies (voterId : Nat) (username : String) :
    (voterMenu voterId username).Follows (replyCourse (some (.voterMenu voterId username))) [] := by
  rw [voterMenu_eq]
  refine .read fun line => ?_
  split
  · exact reply_round (applyVoterID_replies voterId _) _
  · exact reply_round (viewMyVoterStatus_replies voterId _) _
  · exact reply_round (viewApprovedCandidates_replies _) _
  · exact reply_round (castVote_replies voterId _) _
  · exact reply_round (postForum_replies voterId _) _
  · exact reply_round (viewForum_replies _) _
  · exact .done trivial
  · exact .done trivial

omit [Platform] in
theorem candidateMenu_replies (candidateId : Nat) (username : String) :
    (candidateMenu candidateId username).Follows
      (replyCourse (some (.candidateMenu candidateId username))) [] := by
  rw [candidateMenu_eq]
  refine .read fun line => ?_
  split
  · exact reply_round (applyCandidate_replies candidateId _) _
  · exact reply_round (viewMyCandidateStatus_replies candidateId _) _
  · exact reply_round (postForum_replies candidateId _) _
  · exact reply_round (viewForum_replies _) _
  · exact .done trivial
  · exact .done trivial

/-- Every loop keeps to the table of replies. -/
theorem body_replies (loop : Loop) : loop.body.Follows (replyCourse (some loop)) [] := by
  cases loop with
  | boot => exact startup_replies []
  | mainMenu => exact mainMenu_replies
  | adminMenu adminId => exact adminMenu_replies adminId
  | officerMenu officerId => exact officerMenu_replies officerId
  | voterMenu voterId username => exact voterMenu_replies voterId username
  | candidateMenu candidateId username => exact candidateMenu_replies candidateId username

/-- A process that waits for an answer returns to its loop with the reply to it, if there is one. -/
theorem replies_of_reachable {system : System app} (reachable : system.Reachable) {process : Nat}
    {loop : Loop} {printed : List Output} {stmt : Stmt}
    {next : Answer stmt → Dialogue console (Option Loop)}
    (waits : system.process process = some ⟨loop, .ask printed stmt next⟩) :
    Replies (some loop) stmt next := by
  let course (loop : Loop) : Dialogue.Course console (Option Loop) := replyCourse (some loop)
  have follows : (Dialogue.ask printed stmt next).Follows (course loop)
      (linesOf process (roundOf process system.log)) := reachable.follows body_replies waits
  exact follows.asks

/-- When a statement is served whose answer has a reply, the step prints the reply and the round
returns to its loop. -/
theorem reply_step {system later : System app} (reachable : system.Reachable) {process : Nat}
    {stmt : Stmt} {choice : Choice} (requests : system.requested process = some stmt)
    (stepped : system.step (.serve process choice) = some later) :
    ∃ entry loop answer, later.log = entry :: system.log ∧ entry.process = process ∧
      entry.action = .served stmt choice answer ∧
      serve stmt choice system.store = some (later.store, answer) ∧
      ∀ lines, reply stmt answer = some lines → entry.printed = lines ∧
        later.process process = some ⟨loop, .done lines (some loop)⟩ := by
  obtain ⟨loop, printed, next, waits⟩ := System.waits_of_requested requests
  have replies := replies_of_reachable reachable waits
  have moved := stepped
  simp only [System.step, waits] at moved
  obtain ⟨⟨store, answer⟩, served, rfl⟩ := Option.map_eq_some_iff.mp moved
  refine ⟨_, loop, answer, rfl, rfl, rfl, served, fun lines told => ?_⟩
  have returned := replies answer lines told
  constructor
  · show (next answer).printed = lines
    rw [returned]
    rfl
  · rw [System.advance_self, returned]
    rfl

end OnlineVoting
