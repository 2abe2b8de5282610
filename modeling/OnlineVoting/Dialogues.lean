import OnlineVoting.App

/-!
# The dialogues of the methods

Each method written out as the dialogue it is: the lines it reads, the statements it sends, and what
it prints with each of them. Whatever is proved of a method along its course is proved of this form.
-/
namespace OnlineVoting

open Interleaving

/-! ## Startup -/

variable {α : Type} (next : Except SqlException Unit → Dialogue console α)

/-- With nothing to execute, `main` goes on. -/
theorem executeAll_nil_bind : executeAll [] >>= next = next (.ok ()) := by
  simp only [executeAll, Dialogue.pure_eq, Dialogue.done_bind, Dialogue.prepend_nil]

/-- The statements are executed in order, and the first exception ends it. -/
theorem executeAll_cons_bind (stmt : Stmt) (rest : List Stmt) :
    executeAll (stmt :: rest) >>= next =
      .ask [] stmt fun answer =>
        match answer with
        | .ok _ => executeAll rest >>= next
        | .error e => next (.error e) := by
  simp only [executeAll, sql_eq, Dialogue.ask_bind, Dialogue.done_bind, Dialogue.prepend_nil,
    Dialogue.pure_eq]
  refine congrArg _ (funext fun answer => ?_)
  cases answer with
  | ok _ => rfl
  | error e => simp only [Dialogue.done_bind, Dialogue.prepend_nil]

/-! ## Applications -/

/-- `applyVoterID` asks for an application, reads two lines and inserts. -/
theorem applyVoterID_eq (userId : Nat) : applyVoterID userId =
    .ask [] (.existsProfile .voterProfiles userId) fun answer =>
      match answer with
      | .ok true => .done [.println "You have already submitted a Voter ID application.\n"] ()
      | .ok false =>
        .read [.print "Enter your Constituency: "] fun constituency =>
          .read [.print "Enter your Address: "] fun address =>
            .ask [] (.insertProfile .voterProfiles userId ⟨trim constituency, trim address⟩)
              fun answer =>
                match answer with
                | .ok () => .done [.println "Voter ID application submitted! Status: PENDING.\n"] ()
                | .error e => .done [.println ("[DB ERROR] " ++ e.message)] ()
      | .error e => .done [.println ("[DB ERROR] " ++ e.message)] () := by
  simp only [applyVoterID, sql_eq, nextLine_eq, print_eq, println_eq, dbError_eq,
    Dialogue.done_bind, Dialogue.ask_bind, Dialogue.read_bind, Dialogue.prepend_read,
    Dialogue.prepend_nil, List.append_nil]
  refine congrArg _ (funext fun answer => ?_)
  obtain _ | _ | _ := answer
  · rfl
  · refine congrArg (Dialogue.read _) (funext fun constituency =>
      congrArg (Dialogue.read _) (funext fun address => congrArg _ (funext fun answer => ?_)))
    cases answer <;> rfl
  · rfl

/-- `applyCandidate` asks for an application, reads three lines and inserts. -/
theorem applyCandidate_eq (userId : Nat) : applyCandidate userId =
    .ask [] (.existsProfile .candidateProfiles userId) fun answer =>
      match answer with
      | .ok true => .done [.println "You have already submitted a candidacy application.\n"] ()
      | .ok false =>
        .read [.print "Party Name: "] fun party =>
          .read [.print "Constituency: "] fun constituency =>
            .read [.print "Manifesto (brief): "] fun manifesto =>
              .ask [] (.insertProfile .candidateProfiles userId
                  ⟨trim party, trim constituency, trim manifesto⟩) fun answer =>
                match answer with
                | .ok () =>
                  .done [.println "Candidacy application submitted! Status: PENDING.\n"] ()
                | .error e => .done [.println ("[DB ERROR] " ++ e.message)] ()
      | .error e => .done [.println ("[DB ERROR] " ++ e.message)] () := by
  simp only [applyCandidate, sql_eq, nextLine_eq, print_eq, println_eq, dbError_eq,
    Dialogue.done_bind, Dialogue.ask_bind, Dialogue.read_bind, Dialogue.prepend_read,
    Dialogue.prepend_nil, List.append_nil]
  refine congrArg _ (funext fun answer => ?_)
  obtain _ | _ | _ := answer
  · rfl
  · refine congrArg (Dialogue.read _) (funext fun party =>
      congrArg (Dialogue.read _) (funext fun constituency =>
        congrArg (Dialogue.read _) (funext fun manifesto => congrArg _ (funext fun answer => ?_))))
    cases answer <;> rfl
  · rfl

/-- `viewMyVoterStatus` asks once and prints. -/
theorem viewMyVoterStatus_eq (userId : Nat) : viewMyVoterStatus userId =
    .ask [] (.selectProfile .voterProfiles userId) fun answer =>
      match answer with
      | .ok ((entries, status) :: _) =>
        .done [.println ("Constituency: " ++ entries.constituency),
          .println ("Status      : " ++ status.label ++ "\n")] ()
      | .ok [] => .done [.println "No application found. Please apply first.\n"] ()
      | .error e => .done [.println ("[DB ERROR] " ++ e.message)] () := by rfl

/-- `viewMyCandidateStatus` asks once and prints. -/
theorem viewMyCandidateStatus_eq (userId : Nat) : viewMyCandidateStatus userId =
    .ask [] (.selectProfile .candidateProfiles userId) fun answer =>
      match answer with
      | .ok ((entries, status) :: _) =>
        .done [.println ("Party       : " ++ entries.party),
          .println ("Constituency: " ++ entries.constituency),
          .println ("Status      : " ++ status.label ++ "\n")] ()
      | .ok [] => .done [.println "No candidacy application found.\n"] ()
      | .error e => .done [.println ("[DB ERROR] " ++ e.message)] () := by rfl

/-! ## Listings -/

/-- `viewPendingVoters` prints its title, asks once and prints the answer. -/
theorem viewPendingVoters_eq : viewPendingVoters =
    .ask [.println "\n── Pending Voter Applications ──"] (.selectPending .voterProfiles) fun answer =>
      .done (listing "No pending applications." (·.flatMap pendingVoterLines) answer) () := by
  simp only [viewPendingVoters, println_eq, sql_eq, printAll_eq, Dialogue.done_bind,
    Dialogue.ask_bind, Dialogue.prepend_ask, Dialogue.prepend_nil, List.append_nil]

/-- `viewPendingCandidates` prints its title, asks once and prints the answer. -/
theorem viewPendingCandidates_eq : viewPendingCandidates =
    .ask [.println "\n── Pending Candidate Applications ──"] (.selectPending .candidateProfiles)
      fun answer =>
        .done (listing "No pending applications." (·.flatMap pendingCandidateLines) answer) () := by
  simp only [viewPendingCandidates, println_eq, sql_eq, printAll_eq, Dialogue.done_bind,
    Dialogue.ask_bind, Dialogue.prepend_ask, Dialogue.prepend_nil, List.append_nil]

/-- `viewApprovedCandidates` prints its title, asks once and prints the answer. -/
theorem viewApprovedCandidates_eq : viewApprovedCandidates =
    .ask [.println "\n── Approved Candidates ──"] .selectApproved fun answer =>
      .done (listing "No approved candidates yet." (·.flatMap candidateLines) answer) () := by
  simp only [viewApprovedCandidates, println_eq, sql_eq, printAll_eq, Dialogue.done_bind,
    Dialogue.ask_bind, Dialogue.prepend_ask, Dialogue.prepend_nil, List.append_nil]

/-- `viewResults` prints its title, asks once and prints the answer. -/
theorem viewResults_eq : viewResults =
    .ask [.println "\n──── LIVE ELECTION RESULTS ────"] .selectResults fun answer =>
      .done (listing "No approved candidates yet." (resultLines 1) answer) () := by
  simp only [viewResults, println_eq, sql_eq, printAll_eq, Dialogue.done_bind, Dialogue.ask_bind,
    Dialogue.prepend_ask, Dialogue.prepend_nil, List.append_nil]

/-- `viewForum` prints its title, asks once and prints the answer. -/
theorem viewForum_eq : viewForum =
    .ask [.println "\n──── DISCUSSION FORUM ────"] .selectForum fun answer =>
      .done (listing "No posts yet. Be the first!" (·.flatMap postLines) answer) () := by
  simp only [viewForum, println_eq, sql_eq, printAll_eq, Dialogue.done_bind, Dialogue.ask_bind,
    Dialogue.prepend_ask, Dialogue.prepend_nil, List.append_nil]

/-! ## Votes and posts -/

/-- The second half of `castVote` reads one line, checks the candidate and inserts. -/
theorem chooseCandidate_eq (voterId : Nat) : chooseCandidate voterId =
    .read [.print "Enter Candidate ID to vote for: "] fun line =>
      .ask [] .prepare fun answer =>
        match answer with
        | .ok () =>
          match parseInt (trim line) with
          | some id =>
            .ask [] (.selectCandidate id) fun answer =>
              match answer with
              | .ok (candidateUserId :: _) =>
                .ask [] (.insertVote voterId candidateUserId) fun answer =>
                  match answer with
                  | .ok () => .done [.println "Vote cast successfully! Thank you.\n"] ()
                  | .error e => .done [.println ("[ERROR] " ++ e.message)] ()
              | .ok [] => .done [.println "Invalid candidate ID.\n"] ()
              | .error e => .done [.println ("[ERROR] " ++ e.message)] ()
          | none => .done [.println ("[ERROR] " ++ numberFormatMessage (trim line))] ()
        | .error e => .done [.println ("[ERROR] " ++ e.message)] () := by rfl

/-- `castVote` makes its two checks and lists the candidates before one is chosen. -/
theorem castVote_eq (voterId : Nat) : castVote voterId =
    .ask [] (.selectVoterStatus voterId) fun answer =>
      match answer with
      | .ok (status :: _) =>
        if status.label = "APPROVED" then
          .ask [] (.existsVote voterId) fun answer =>
            match answer with
            | .ok true => .done [.println "You have already cast your vote!\n"] ()
            | .ok false =>
              .ask [.println "\n── Approved Candidates ──"] .selectApproved fun answer =>
                (chooseCandidate voterId).prepend
                  (listing "No approved candidates yet." (·.flatMap candidateLines) answer)
            | .error e => .done [.println ("[DB ERROR] " ++ e.message)] ()
        else
          .done [.println "Your Voter ID is not approved yet.\n"] ()
      | .ok [] => .done [.println "You need to apply for a Voter ID first.\n"] ()
      | .error e => .done [.println ("[DB ERROR] " ++ e.message)] () := by
  simp only [castVote, viewApprovedCandidates_eq, sql_eq, println_eq, dbError_eq,
    Dialogue.done_bind, Dialogue.ask_bind, Dialogue.prepend_nil]
  rfl

/-- `postForum` reads one line, and inserts unless it is blank. -/
theorem postForum_eq (userId : Nat) : postForum userId =
    .read [.print "Your message: "] fun line =>
      if (trim line).isEmpty then
        .done [.println "Empty message.\n"] ()
      else
        .ask [] (.insertForumPost userId (trim line)) fun answer =>
          match answer with
          | .ok () => .done [.println "Posted!\n"] ()
          | .error e => .done [.println ("[DB ERROR] " ++ e.message)] () := by
  simp only [postForum, sql_eq, nextLine_eq, print_eq, println_eq, dbError_eq,
    Dialogue.done_bind, Dialogue.ask_bind, Dialogue.read_bind, Dialogue.prepend_read,
    Dialogue.prepend_nil, List.append_nil]
  refine congrArg _ (funext fun line => ?_)
  split
  · rfl
  · refine congrArg _ (funext fun answer => ?_)
    cases answer <;> rfl

/-! ## Menus of applicants -/

/-- What `voterMenu` prints. -/
def voterChoices : List Output :=
  [.println "──── VOTER MENU ────", .println "1. Apply for Voter ID",
    .println "2. View My Application Status", .println "3. View Approved Candidates",
    .println "4. Cast Vote", .println "5. Post on Forum", .println "6. View Forum",
    .println "7. Logout", .print "> "]

/-- What `candidateMenu` prints. -/
def candidateChoices : List Output :=
  [.println "──── CANDIDATE MENU ────", .println "1. Apply for Candidacy",
    .println "2. View My Application Status", .println "3. Post on Forum",
    .println "4. View Forum", .println "5. Logout", .print "> "]

/-- `voterMenu` reads a choice and calls its method. -/
theorem voterMenu_eq (voterId : Nat) (username : String) : voterMenu voterId username =
    .read voterChoices fun line =>
      match trim line with
      | "1" => applyVoterID voterId >>= fun _ => .done [] (some (.voterMenu voterId username))
      | "2" => viewMyVoterStatus voterId >>= fun _ => .done [] (some (.voterMenu voterId username))
      | "3" => viewApprovedCandidates >>= fun _ => .done [] (some (.voterMenu voterId username))
      | "4" => castVote voterId >>= fun _ => .done [] (some (.voterMenu voterId username))
      | "5" => postForum voterId >>= fun _ => .done [] (some (.voterMenu voterId username))
      | "6" => viewForum >>= fun _ => .done [] (some (.voterMenu voterId username))
      | "7" => .done [.println "Logged out.\n"] (some .mainMenu)
      | _ => .done [.println "Invalid choice."] (some (.voterMenu voterId username)) := by rfl

/-- `candidateMenu` reads a choice and calls its method. -/
theorem candidateMenu_eq (candidateId : Nat) (username : String) :
    candidateMenu candidateId username =
      .read candidateChoices fun line =>
        match trim line with
        | "1" => applyCandidate candidateId >>= fun _ =>
          .done [] (some (.candidateMenu candidateId username))
        | "2" => viewMyCandidateStatus candidateId >>= fun _ =>
          .done [] (some (.candidateMenu candidateId username))
        | "3" => postForum candidateId >>= fun _ =>
          .done [] (some (.candidateMenu candidateId username))
        | "4" => viewForum >>= fun _ => .done [] (some (.candidateMenu candidateId username))
        | "5" => .done [.println "Logged out.\n"] (some .mainMenu)
        | _ => .done [.println "Invalid choice."] (some (.candidateMenu candidateId username)) := by
  rfl

/-! ## Accounts -/

/-- `login` reads two lines, asks once and enters the menu of the role. -/
theorem login_eq : login =
    .read [.print "Username: "] fun username =>
      .read [.print "Password: "] fun password =>
        .ask [] (.selectLogin (trim username) (sha256 (trim password))) fun answer =>
          match answer with
          | .ok (row :: _) =>
            Dialogue.prepend [.println ("\nWelcome, " ++ row.name ++ "! [" ++ row.role.label ++ "]\n")]
              (match row.role.label with
              | "ADMIN" => .done [] (some (.adminMenu row.id))
              | "FIELD_OFFICER" => .done [] (some (.officerMenu row.id))
              | "VOTER" => .done [] (some (.voterMenu row.id (trim username)))
              | "CANDIDATE" => .done [] (some (.candidateMenu row.id (trim username)))
              | _ => .done [.println "Unknown role."] (some .mainMenu))
          | .ok [] => .done [.println "Invalid username or password.\n"] (some .mainMenu)
          | .error e => .done [.println ("[DB ERROR] " ++ e.message)] (some .mainMenu) := by
  simp only [login, sql_eq, nextLine_eq, print_eq, println_eq, dbError_eq,
    Dialogue.done_bind, Dialogue.ask_bind, Dialogue.read_bind, Dialogue.prepend_read,
    Dialogue.prepend_nil, List.append_nil, Dialogue.pure_eq,
    Dialogue.prepend_done]
  refine congrArg _ (funext fun username => congrArg _ (funext fun password =>
    congrArg _ (funext fun answer => ?_)))
  obtain _ | _ | _ := answer <;> rfl

variable [Platform]

/-- `register` reads four lines, and inserts if the last names a role. -/
theorem register_eq : register =
    .read [.print "Full Name: "] fun name =>
      .read [.print "Username: "] fun username =>
        .read [.print "Password: "] fun password =>
          .read [.println "Role (VOTER / CANDIDATE / FIELD_OFFICER / ADMIN): ", .print "> "]
            fun role =>
              if isRole (toUpperCase (trim role)) then
                .ask [] (.insertUser (trim username) (sha256 (trim password)) (trim name)
                    (toUpperCase (trim role))) fun answer =>
                  match answer with
                  | .ok () => .done [.println "Registered successfully! You can now log in.\n"] ()
                  | .error e =>
                    if contains e.message "Duplicate" then
                      .done [.println "Username already taken. Try another.\n"] ()
                    else .done [.println ("[DB ERROR] " ++ e.message)] ()
              else .done [.println "Invalid role.\n"] () := by
  simp only [register, sql_eq, nextLine_eq, print_eq, println_eq, dbError_eq,
    Dialogue.done_bind, Dialogue.ask_bind, Dialogue.read_bind, Dialogue.prepend_read,
    Dialogue.prepend_nil, List.append_nil,
    List.cons_append, List.nil_append]
  refine congrArg _ (funext fun name => congrArg _ (funext fun username =>
    congrArg _ (funext fun password => congrArg _ (funext fun role => ?_))))
  split
  · refine congrArg _ (funext fun answer => ?_)
    cases answer <;> rfl
  · rfl

/-! ## Decisions -/

/-- `approveReject` reads two lines, and updates if they are a decision and a number. -/
theorem approveReject_eq (table : ProfileTable) : approveReject table =
    .read [.print "Enter Application ID: "] fun line =>
      .read [.print "Action (APPROVE / REJECT): "] fun action =>
        match decision (toUpperCase (trim action)) with
        | none => .done [.println "Invalid action.\n"] ()
        | some status =>
          .ask [] .prepare fun answer =>
            match answer with
            | .ok () =>
              match parseInt (trim line) with
              | some id =>
                .ask [] (.updateStatus table status id) fun answer =>
                  match answer with
                  | .ok rows =>
                    if 0 < rows then
                      .done [.println ("Done! Status set to " ++ status.label ++ ".\n")] ()
                    else .done [.println "ID not found.\n"] ()
                  | .error e => .done [.println ("[ERROR] " ++ e.message)] ()
              | none => .done [.println ("[ERROR] " ++ numberFormatMessage (trim line))] ()
            | .error e => .done [.println ("[ERROR] " ++ e.message)] () := by rfl

/-! ## Menus of the staff -/

/-- What the menu of `main` prints. -/
def mainChoices : List Output :=
  [.println "1. Login", .println "2. Register", .println "3. Exit", .print "> "]

/-- What `adminMenu` prints. -/
def adminChoices : List Output :=
  [.println "──── ADMIN MENU ────", .println "1. View Pending Voter Applications",
    .println "2. Approve/Reject Voter Application",
    .println "3. View Pending Candidate Applications",
    .println "4. Approve/Reject Candidate Application", .println "5. View Live Election Results",
    .println "6. Logout", .print "> "]

/-- What `officerMenu` prints. -/
def officerChoices : List Output :=
  [.println "──── FIELD OFFICER MENU ────", .println "1. View Pending Voter Applications",
    .println "2. Approve/Reject Voter Application", .println "3. Logout", .print "> "]

/-- The menu of `main` reads a choice and calls its method. -/
theorem mainMenu_eq : mainMenu =
    .read mainChoices fun line =>
      match trim line with
      | "1" => login
      | "2" => register >>= fun _ => .done [] (some .mainMenu)
      | "3" => .done [.println "Goodbye!"] none
      | _ => .done [.println "Invalid choice.\n"] (some .mainMenu) := by rfl

/-- `adminMenu` reads a choice and calls its method. -/
theorem adminMenu_eq (adminId : Nat) : adminMenu adminId =
    .read adminChoices fun line =>
      match trim line with
      | "1" => viewPendingVoters >>= fun _ => .done [] (some (.adminMenu adminId))
      | "2" => approveReject .voterProfiles >>= fun _ => .done [] (some (.adminMenu adminId))
      | "3" => viewPendingCandidates >>= fun _ => .done [] (some (.adminMenu adminId))
      | "4" => approveReject .candidateProfiles >>= fun _ => .done [] (some (.adminMenu adminId))
      | "5" => viewResults >>= fun _ => .done [] (some (.adminMenu adminId))
      | "6" => .done [.println "Logged out.\n"] (some .mainMenu)
      | _ => .done [.println "Invalid choice."] (some (.adminMenu adminId)) := by rfl

/-- `officerMenu` reads a choice and calls its method. -/
theorem officerMenu_eq (officerId : Nat) : officerMenu officerId =
    .read officerChoices fun line =>
      match trim line with
      | "1" => viewPendingVoters >>= fun _ => .done [] (some (.officerMenu officerId))
      | "2" => approveReject .voterProfiles >>= fun _ => .done [] (some (.officerMenu officerId))
      | "3" => .done [.println "Logged out.\n"] (some .mainMenu)
      | _ => .done [.println "Invalid choice."] (some (.officerMenu officerId)) := by rfl

end OnlineVoting
