import OnlineVoting.Library.Run
import OnlineVoting.Statement

/-!
# The program `OnlineVotingApp`

The methods of the program as dialogues, each under its name and in the order of the source: what
it prints, which lines it reads, which statements it sends, and what it does with each answer and
each exception. The `while (true)` loops of `main` and of the four menus are the loops of
`Loop`; a body returns the loop that the source goes on with, so a menu called by `login` is
entered by returning it and left by returning to the main menu.
-/
namespace OnlineVoting

open Interleaving

/-- An argument of `printf`. -/
inductive Arg where
  /-- For `%d`. -/
  | int (value : Int)
  /-- For `%s`. -/
  | text (value : String)
  /-- For `%s`, a `Timestamp` in seconds. -/
  | time (seconds : Nat)
  deriving DecidableEq

/-- One call of `System.out`. -/
inductive Output where
  /-- `print` -/
  | print (text : String)
  /-- `println` -/
  | println (text : String)
  /-- `printf` -/
  | printf (format : String) (args : List Arg)
  deriving DecidableEq

/-- Statements go to MariaDB, output to the console. -/
@[reducible] def console : Interface where
  Request := Stmt
  Answer := Answer
  Output := Output

/-- `System.out.print` -/
def print (text : String) : Dialogue console Unit := .print (.print text)

/-- `System.out.println` -/
def println (text : String) : Dialogue console Unit := .print (.println text)

/-- Several calls of `System.out`, one after the other. -/
def printAll (outputs : List Output) : Dialogue console Unit := .done outputs ()

/-- `sc.nextLine()` -/
def nextLine : Dialogue console String := .readLine

/-- Execute a statement. -/
def sql (stmt : Stmt) : Dialogue console (Answer stmt) := @Dialogue.request console stmt

@[simp] theorem print_eq (text : String) : print text = .done [.print text] () := rfl

@[simp] theorem println_eq (text : String) : println text = .done [.println text] () := rfl

@[simp] theorem printAll_eq (outputs : List Output) : printAll outputs = .done outputs () := rfl

@[simp] theorem nextLine_eq : nextLine = .read [] fun line => .done [] line := rfl

@[simp] theorem sql_eq (stmt : Stmt) : sql stmt = .ask [] stmt fun answer => .done [] answer := rfl

/-- The loops of the program, each with the arguments of the method that runs it. -/
inductive Loop where
  /-- `main` up to its menu. -/
  | boot
  /-- The menu of `main`. -/
  | mainMenu
  /-- `adminMenu(adminId)` -/
  | adminMenu (adminId : Nat)
  /-- `officerMenu(officerId)` -/
  | officerMenu (officerId : Nat)
  /-- `voterMenu(voterId, username)` -/
  | voterMenu (voterId : Nat) (username : String)
  /-- `candidateMenu(candidateId, username)` -/
  | candidateMenu (candidateId : Nat) (username : String)
  deriving DecidableEq

/-- The common handler of `SQLException`. -/
def dbError (e : SqlException) : Dialogue console Unit := println ("[DB ERROR] " ++ e.message)

@[simp] theorem dbError_eq (e : SqlException) :
    dbError e = .done [.println ("[DB ERROR] " ++ e.message)] () := rfl

variable [Platform]

/-! ## Startup -/

/-- What `main` does to reach the database. -/
def connectStatements : List Stmt := [.connectBoot, .createDatabase, .connect]

/-- The statements of `setupDatabase`. -/
def setupStatements : List Stmt :=
  [.createTable .users, .createTable .voterProfiles, .createTable .candidateProfiles,
    .createTable .votes, .createTable .forumPosts, .seedAdmin (sha256 "admin123")]

/-- Execute statements in order; the first exception ends it. -/
def executeAll : List Stmt → Dialogue console (Except SqlException Unit)
  | [] => return .ok ()
  | stmt :: rest => do
    match ← sql stmt with
    | .ok _ => executeAll rest
    | .error e => return .error e

/-- `main` up to its menu. -/
def startup : Dialogue console (Option Loop) := do
  println "╔══════════════════════════════════════╗"
  println "║   ONLINE NATIONAL POLLING SYSTEM     ║"
  println "╚══════════════════════════════════════╝"
  match ← executeAll (connectStatements ++ setupStatements) with
  | .ok () =>
    println "[OK] Connected to MySQL.\n"
    return some .mainMenu
  | .error e =>
    println ("[ERROR] Cannot connect to MySQL: " ++ e.message)
    println "Make sure MySQL is running on port 3306."
    return none

/-! ## Login and registration -/

/-- `login` -/
def login : Dialogue console (Option Loop) := do
  print "Username: "
  let username := trim (← nextLine)
  print "Password: "
  let password := trim (← nextLine)
  match ← sql (.selectLogin username (sha256 password)) with
  | .ok (row :: _) =>
    println ("\nWelcome, " ++ row.name ++ "! [" ++ row.role.label ++ "]\n")
    match row.role.label with
    | "ADMIN" => return some (.adminMenu row.id)
    | "FIELD_OFFICER" => return some (.officerMenu row.id)
    | "VOTER" => return some (.voterMenu row.id username)
    | "CANDIDATE" => return some (.candidateMenu row.id username)
    | _ =>
      println "Unknown role."
      return some .mainMenu
  | .ok [] =>
    println "Invalid username or password.\n"
    return some .mainMenu
  | .error e =>
    dbError e
    return some .mainMenu

/-- `role.matches("VOTER|CANDIDATE|FIELD_OFFICER|ADMIN")` -/
def isRole (role : String) : Bool :=
  role ∈ ["VOTER", "CANDIDATE", "FIELD_OFFICER", "ADMIN"]

/-- `register` -/
def register : Dialogue console Unit := do
  print "Full Name: "
  let name := trim (← nextLine)
  print "Username: "
  let username := trim (← nextLine)
  print "Password: "
  let password := trim (← nextLine)
  println "Role (VOTER / CANDIDATE / FIELD_OFFICER / ADMIN): "
  print "> "
  let role := toUpperCase (trim (← nextLine))
  if isRole role then
    match ← sql (.insertUser username (sha256 password) name role) with
    | .ok () => println "Registered successfully! You can now log in.\n"
    | .error e =>
      if contains e.message "Duplicate" then
        println "Username already taken. Try another.\n"
      else
        dbError e
  else
    println "Invalid role.\n"

/-! ## Applications -/

/-- `applyVoterID` -/
def applyVoterID (userId : Nat) : Dialogue console Unit := do
  match ← sql (.existsProfile .voterProfiles userId) with
  | .ok true => println "You have already submitted a Voter ID application.\n"
  | .ok false =>
    print "Enter your Constituency: "
    let constituency := trim (← nextLine)
    print "Enter your Address: "
    let address := trim (← nextLine)
    match ← sql (.insertProfile .voterProfiles userId ⟨constituency, address⟩) with
    | .ok () => println "Voter ID application submitted! Status: PENDING.\n"
    | .error e => dbError e
  | .error e => dbError e

/-- `viewMyVoterStatus` -/
def viewMyVoterStatus (userId : Nat) : Dialogue console Unit := do
  match ← sql (.selectProfile .voterProfiles userId) with
  | .ok ((entries, status) :: _) =>
    println ("Constituency: " ++ entries.constituency)
    println ("Status      : " ++ status.label ++ "\n")
  | .ok [] => println "No application found. Please apply first.\n"
  | .error e => dbError e

/-- `applyCandidate` -/
def applyCandidate (userId : Nat) : Dialogue console Unit := do
  match ← sql (.existsProfile .candidateProfiles userId) with
  | .ok true => println "You have already submitted a candidacy application.\n"
  | .ok false =>
    print "Party Name: "
    let party := trim (← nextLine)
    print "Constituency: "
    let constituency := trim (← nextLine)
    print "Manifesto (brief): "
    let manifesto := trim (← nextLine)
    match ← sql (.insertProfile .candidateProfiles userId ⟨party, constituency, manifesto⟩) with
    | .ok () => println "Candidacy application submitted! Status: PENDING.\n"
    | .error e => dbError e
  | .error e => dbError e

/-- `viewMyCandidateStatus` -/
def viewMyCandidateStatus (userId : Nat) : Dialogue console Unit := do
  match ← sql (.selectProfile .candidateProfiles userId) with
  | .ok ((entries, status) :: _) =>
    println ("Party       : " ++ entries.party)
    println ("Constituency: " ++ entries.constituency)
    println ("Status      : " ++ status.label ++ "\n")
  | .ok [] => println "No candidacy application found.\n"
  | .error e => dbError e

/-! ## Listings -/

/-- What a view prints of its result: the lines of the rows, or a note that there are none, or
the exception, and an empty line. -/
def listing {Row : Type} (none : String) (lines : List Row → List Output) :
    Except SqlException (List Row) → List Output
  | .ok [] => [.println none, .println ""]
  | .ok rows => lines rows ++ [.println ""]
  | .error e => [.println ("[DB ERROR] " ++ e.message), .println ""]

/-- The line of a pending voter application. -/
def pendingVoterLines (row : ApplicationRow VoterEntries) : List Output :=
  [.printf "[ID:%d] %-20s (@%s) | %s | %s%n" [.int row.id, .text row.name, .text row.username,
    .text row.entries.constituency, .text row.entries.address]]

/-- The lines of a pending candidate application. -/
def pendingCandidateLines (row : ApplicationRow CandidateEntries) : List Output :=
  [.printf "[ID:%d] %-20s (@%s) | %s | %s%n" [.int row.id, .text row.name, .text row.username,
      .text row.entries.party, .text row.entries.constituency],
    .println ("       Manifesto: " ++ row.entries.manifesto)]

/-- The lines of an approved candidate. -/
def candidateLines (row : CandidateRow) : List Output :=
  [.printf "[ID:%d] %-20s | %s | %s%n" [.int row.id, .text row.name, .text row.entries.party,
      .text row.entries.constituency],
    .println ("       Manifesto: " ++ row.entries.manifesto)]

/-- The line of the leaderboard at a rank. -/
def resultLine (rank : Nat) (row : ResultRow) : Output :=
  .printf "#%d  %-20s | %s | %s | Votes: %d%n" [.int rank, .text row.name, .text row.party,
    .text row.constituency, .int row.votes]

/-- The lines of the leaderboard from a rank on: `rank++` at each row. -/
def resultLines : Nat → List ResultRow → List Output
  | _, [] => []
  | rank, row :: rows => resultLine rank row :: resultLines (rank + 1) rows

/-- The line of a post. -/
def postLines (row : ForumRow) : List Output :=
  [.printf "[%s] %s: %s%n" [.time row.postedAt, .text row.name, .text row.content]]

/-- `viewPendingVoters` -/
def viewPendingVoters : Dialogue console Unit := do
  println "\n── Pending Voter Applications ──"
  let answer ← sql (.selectPending .voterProfiles)
  printAll (listing "No pending applications." (·.flatMap pendingVoterLines) answer)

/-- `viewPendingCandidates` -/
def viewPendingCandidates : Dialogue console Unit := do
  println "\n── Pending Candidate Applications ──"
  let answer ← sql (.selectPending .candidateProfiles)
  printAll (listing "No pending applications." (·.flatMap pendingCandidateLines) answer)

/-- `viewApprovedCandidates` -/
def viewApprovedCandidates : Dialogue console Unit := do
  println "\n── Approved Candidates ──"
  let answer ← sql .selectApproved
  printAll (listing "No approved candidates yet." (·.flatMap candidateLines) answer)

/-- `viewResults` -/
def viewResults : Dialogue console Unit := do
  println "\n──── LIVE ELECTION RESULTS ────"
  let answer ← sql .selectResults
  printAll (listing "No approved candidates yet." (resultLines 1) answer)

/-- `viewForum` -/
def viewForum : Dialogue console Unit := do
  println "\n──── DISCUSSION FORUM ────"
  let answer ← sql .selectForum
  printAll (listing "No posts yet. Be the first!" (·.flatMap postLines) answer)

/-! ## Decisions, votes and posts -/

/-- The status that a typed action asks for. -/
def decision (action : String) : Option Status :=
  if action = "APPROVE" then some .approved
  else if action = "REJECT" then some .rejected
  else none

/-- The handler of `SQLException | NumberFormatException`. -/
def inputError (message : String) : Dialogue console Unit := println ("[ERROR] " ++ message)

omit [Platform] in
@[simp] theorem inputError_eq (message : String) :
    inputError message = .done [.println ("[ERROR] " ++ message)] () := rfl

/-- `approveReject` -/
def approveReject (table : ProfileTable) : Dialogue console Unit := do
  print "Enter Application ID: "
  let idStr := trim (← nextLine)
  print "Action (APPROVE / REJECT): "
  let action := toUpperCase (trim (← nextLine))
  match decision action with
  | none => println "Invalid action.\n"
  | some status =>
    match ← sql .prepare with
    | .ok () =>
      match parseInt idStr with
      | some id =>
        match ← sql (.updateStatus table status id) with
        | .ok rows =>
          if 0 < rows then println ("Done! Status set to " ++ status.label ++ ".\n")
          else println "ID not found.\n"
        | .error e => inputError e.message
      | none => inputError (numberFormatMessage idStr)
    | .error e => inputError e.message

/-- `castVote` from its second query on: the candidate is chosen, validated and voted for. -/
def chooseCandidate (voterId : Nat) : Dialogue console Unit := do
  print "Enter Candidate ID to vote for: "
  let idStr := trim (← nextLine)
  match ← sql .prepare with
  | .ok () =>
    match parseInt idStr with
    | some id =>
      match ← sql (.selectCandidate id) with
      | .ok (candidateUserId :: _) =>
        match ← sql (.insertVote voterId candidateUserId) with
        | .ok () => println "Vote cast successfully! Thank you.\n"
        | .error e => inputError e.message
      | .ok [] => println "Invalid candidate ID.\n"
      | .error e => inputError e.message
    | none => inputError (numberFormatMessage idStr)
  | .error e => inputError e.message

/-- `castVote` -/
def castVote (voterId : Nat) : Dialogue console Unit := do
  match ← sql (.selectVoterStatus voterId) with
  | .ok (status :: _) =>
    if status.label = "APPROVED" then
      match ← sql (.existsVote voterId) with
      | .ok true => println "You have already cast your vote!\n"
      | .ok false =>
        viewApprovedCandidates
        chooseCandidate voterId
      | .error e => dbError e
    else
      println "Your Voter ID is not approved yet.\n"
  | .ok [] => println "You need to apply for a Voter ID first.\n"
  | .error e => dbError e

/-- `postForum` -/
def postForum (userId : Nat) : Dialogue console Unit := do
  print "Your message: "
  let content := trim (← nextLine)
  if content.isEmpty then
    println "Empty message.\n"
  else
    match ← sql (.insertForumPost userId content) with
    | .ok () => println "Posted!\n"
    | .error e => dbError e

/-! ## Menus -/

/-- The menu of `main`. -/
def mainMenu : Dialogue console (Option Loop) := do
  println "1. Login"
  println "2. Register"
  println "3. Exit"
  print "> "
  match trim (← nextLine) with
  | "1" => login
  | "2" =>
    register
    return some .mainMenu
  | "3" =>
    println "Goodbye!"
    return none
  | _ =>
    println "Invalid choice.\n"
    return some .mainMenu

/-- `adminMenu` -/
def adminMenu (adminId : Nat) : Dialogue console (Option Loop) := do
  println "──── ADMIN MENU ────"
  println "1. View Pending Voter Applications"
  println "2. Approve/Reject Voter Application"
  println "3. View Pending Candidate Applications"
  println "4. Approve/Reject Candidate Application"
  println "5. View Live Election Results"
  println "6. Logout"
  print "> "
  match trim (← nextLine) with
  | "1" =>
    viewPendingVoters
    return some (.adminMenu adminId)
  | "2" =>
    approveReject .voterProfiles
    return some (.adminMenu adminId)
  | "3" =>
    viewPendingCandidates
    return some (.adminMenu adminId)
  | "4" =>
    approveReject .candidateProfiles
    return some (.adminMenu adminId)
  | "5" =>
    viewResults
    return some (.adminMenu adminId)
  | "6" =>
    println "Logged out.\n"
    return some .mainMenu
  | _ =>
    println "Invalid choice."
    return some (.adminMenu adminId)

/-- `officerMenu` -/
def officerMenu (officerId : Nat) : Dialogue console (Option Loop) := do
  println "──── FIELD OFFICER MENU ────"
  println "1. View Pending Voter Applications"
  println "2. Approve/Reject Voter Application"
  println "3. Logout"
  print "> "
  match trim (← nextLine) with
  | "1" =>
    viewPendingVoters
    return some (.officerMenu officerId)
  | "2" =>
    approveReject .voterProfiles
    return some (.officerMenu officerId)
  | "3" =>
    println "Logged out.\n"
    return some .mainMenu
  | _ =>
    println "Invalid choice."
    return some (.officerMenu officerId)

/-- `voterMenu` -/
def voterMenu (voterId : Nat) (username : String) : Dialogue console (Option Loop) := do
  println "──── VOTER MENU ────"
  println "1. Apply for Voter ID"
  println "2. View My Application Status"
  println "3. View Approved Candidates"
  println "4. Cast Vote"
  println "5. Post on Forum"
  println "6. View Forum"
  println "7. Logout"
  print "> "
  match trim (← nextLine) with
  | "1" =>
    applyVoterID voterId
    return some (.voterMenu voterId username)
  | "2" =>
    viewMyVoterStatus voterId
    return some (.voterMenu voterId username)
  | "3" =>
    viewApprovedCandidates
    return some (.voterMenu voterId username)
  | "4" =>
    castVote voterId
    return some (.voterMenu voterId username)
  | "5" =>
    postForum voterId
    return some (.voterMenu voterId username)
  | "6" =>
    viewForum
    return some (.voterMenu voterId username)
  | "7" =>
    println "Logged out.\n"
    return some .mainMenu
  | _ =>
    println "Invalid choice."
    return some (.voterMenu voterId username)

/-- `candidateMenu` -/
def candidateMenu (candidateId : Nat) (username : String) : Dialogue console (Option Loop) := do
  println "──── CANDIDATE MENU ────"
  println "1. Apply for Candidacy"
  println "2. View My Application Status"
  println "3. Post on Forum"
  println "4. View Forum"
  println "5. Logout"
  print "> "
  match trim (← nextLine) with
  | "1" =>
    applyCandidate candidateId
    return some (.candidateMenu candidateId username)
  | "2" =>
    viewMyCandidateStatus candidateId
    return some (.candidateMenu candidateId username)
  | "3" =>
    postForum candidateId
    return some (.candidateMenu candidateId username)
  | "4" =>
    viewForum
    return some (.candidateMenu candidateId username)
  | "5" =>
    println "Logged out.\n"
    return some .mainMenu
  | _ =>
    println "Invalid choice."
    return some (.candidateMenu candidateId username)

/-- The body of each loop. -/
def Loop.body : Loop → Dialogue console (Option Loop)
  | .boot => startup
  | .mainMenu => OnlineVoting.mainMenu
  | .adminMenu adminId => OnlineVoting.adminMenu adminId
  | .officerMenu officerId => OnlineVoting.officerMenu officerId
  | .voterMenu voterId username => OnlineVoting.voterMenu voterId username
  | .candidateMenu candidateId username => OnlineVoting.candidateMenu candidateId username

/-- `OnlineVotingApp`: any number of processes over one MariaDB server, which has no database
`online_voting` at first. -/
@[reducible] def app : Program console where
  Store := Database
  Choice := Choice
  serve := serve
  initial := .absent
  Loop := Loop
  boot := .boot
  body := Loop.body

end OnlineVoting
