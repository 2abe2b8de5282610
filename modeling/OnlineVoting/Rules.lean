import OnlineVoting.Library.Discipline
import OnlineVoting.History

/-!
# The rules that every session keeps

The discipline of the program: who may send which statement and with which values, what a step
may print, what a menu relies on, and what always holds between the tables and the log. That the
program keeps these rules is proved elsewhere, dialogue by dialogue and statement by statement;
this module says what the rules are.
-/
namespace OnlineVoting

open Interleaving

variable [Platform]

/-! ## Identity of a session -/

/-- The account a menu runs for, and the role it runs it in. -/
def Loop.session : Loop → Option (Nat × Role)
  | .boot | .mainMenu => none
  | .adminMenu id => some (id, .admin)
  | .officerMenu id => some (id, .fieldOfficer)
  | .voterMenu id _ => some (id, .voter)
  | .candidateMenu id _ => some (id, .candidate)

/-- The role that applies to a table of applications. -/
def ProfileTable.role : ProfileTable → Role
  | .voterProfiles => .voter
  | .candidateProfiles => .candidate

/-- A user of this identifier has this role. -/
def Rows.HasRole (rows : Rows) (id : Nat) (role : Role) : Prop :=
  ∃ user ∈ rows.users, user.id = id ∧ user.role = role

/-- The account that `setupDatabase` seeds. -/
def User.IsSeed (user : User) : Prop := user = adminUser user.id (sha256 "admin123")

/-- The database after a complete startup. -/
structure Database.Complete (database : Database) : Prop where
  /-- The database exists. -/
  created : database.created = true
  /-- All tables exist. -/
  has : ∀ table, database.has table = true
  /-- The seeded account exists. -/
  seeded : ∃ user ∈ database.rows.users, user.IsSeed

/-- What a loop relies on: every menu on a complete startup, a session on its account. -/
structure Ready (loop : Loop) (database : Database) : Prop where
  /-- Only the boot loop runs on an incomplete database. -/
  complete : loop ≠ .boot → database.Complete
  /-- The account of a session exists in its role. -/
  account : ∀ id role, loop.session = some (id, role) → database.rows.HasRole id role

/-! ## Checks before a vote -/

/-- The steps of a log since the newest check of a process. -/
def since (process : Nat) (check : Action app → Bool) (log : List (Entry app)) :
    List (Entry app) :=
  log.takeWhile fun entry => !(entry.process = process && check entry.action)

/-- The log up to the newest check of a process. -/
def upTo (process : Nat) (check : Action app → Bool) (log : List (Entry app)) :
    List (Entry app) :=
  log.dropWhile fun entry => !(entry.process = process && check entry.action)

/-- The SELECT of the voter's status, the first statement of `castVote`. -/
def isVoterCheck : Action app → Bool
  | .served (.selectVoterStatus _) _ _ => true
  | _ => false

/-- The SELECT that validates the chosen candidate. -/
def isCandidateCheck : Action app → Bool
  | .served (.selectCandidate _) _ _ => true
  | _ => false

/-- The process saw the voter approved, by the decisions made up to its newest check. -/
def VoterChecked (process voterId : Nat) (rows : Rows) (log : List (Entry app)) : Prop :=
  ∃ profile ∈ rows.voters, profile.userId = voterId ∧
    standing .voterProfiles profile.id (upTo process isVoterCheck log) = .approved

/-- The process saw the candidate with the typed identifier approved, by the decisions made up to
its newest check. -/
def CandidateChecked (process candidateId : Nat) (rows : Rows) (log : List (Entry app)) : Prop :=
  ∃ profile ∈ rows.candidates, profile.userId = candidateId ∧
    typedId process log = some (profile.id : Int) ∧
    standing .candidateProfiles profile.id (upTo process isCandidateCheck log) = .approved

/-- A check that was just made is the newest. -/
theorem upTo_check {process : Nat} {check : Action app → Bool} {entry : Entry app}
    (own : entry.process = process) (checks : check entry.action = true)
    (log : List (Entry app)) : upTo process check (entry :: log) = entry :: log := by
  simp [upTo, own, checks]

/-- Any other step leaves the newest check where it is. -/
theorem upTo_other {process : Nat} {check : Action app → Bool} {entry : Entry app}
    (other : entry.process ≠ process ∨ check entry.action = false) (log : List (Entry app)) :
    upTo process check (entry :: log) = upTo process check log := by
  rcases other with other | other <;> simp [upTo, other]

/-- The steps of other processes leave the newest check where it is. -/
theorem upTo_others {process : Nat} {check : Action app → Bool} {newer : List (Entry app)}
    (others : ∀ entry ∈ newer, entry.process ≠ process) (log : List (Entry app)) :
    upTo process check (newer ++ log) = upTo process check log := by
  induction newer with
  | nil => rfl
  | cons entry newer ih =>
    rw [List.cons_append, upTo_other (.inl (others entry List.mem_cons_self))]
    exact ih fun other present => others other (List.mem_cons_of_mem entry present)

/-- The log is what came since a check after what came up to it. -/
theorem since_append_upTo (process : Nat) (check : Action app → Bool) (log : List (Entry app)) :
    since process check log ++ upTo process check log = log :=
  List.takeWhile_append_dropWhile

/-! ## Permitted statements -/

/-- The statements a loop may send, and the values it may send them with: those typed at its
console, under its own account, after its checks. -/
def Permit (loop : Loop) (process : Nat) (world : World app) : Stmt → Prop
  | .connect => world.store.created = true
  | .createTable table => loop = .boot ∧ (table = .users ∨ world.store.has .users = true)
  | .seedAdmin passwordHash => loop = .boot ∧ passwordHash = sha256 "admin123" ∧
      world.store.has .users = true
  | .selectLogin username passwordHash => loop = .mainMenu ∧
      ∃ password name rest, linesOf process world.log = password :: name :: rest ∧
        username = trim name ∧ passwordHash = sha256 (trim password)
  | .insertUser username passwordHash name role => loop = .mainMenu ∧
      ∀ id parsed, Role.ofLabel role = some parsed →
        RegisteredFrom ⟨id, username, passwordHash, name, parsed⟩ (linesOf process world.log)
  | .insertProfile table userId entries => loop.session = some (userId, table.role) ∧
      enteredFrom table (linesOf process world.log) = some entries
  | .updateStatus table status id =>
      ((∃ admin, loop = .adminMenu admin) ∨
        table = .voterProfiles ∧ ∃ officer, loop = .officerMenu officer) ∧
      ∃ action idStr rest, linesOf process world.log = action :: idStr :: rest ∧
        parseInt (trim idStr) = some id ∧ decision (toUpperCase (trim action)) = some status
  | .insertVote voterId candidateId => loop.session = some (voterId, .voter) ∧
      VoterChecked process voterId world.store.rows world.log ∧
      CandidateChecked process candidateId world.store.rows world.log
  | .insertForumPost userId content =>
      (loop.session = some (userId, .voter) ∨ loop.session = some (userId, .candidate)) ∧
      ∃ line rest, linesOf process world.log = line :: rest ∧ content = trim line
  | .selectResults => ∃ admin, loop = .adminMenu admin
  | _ => True

omit [Platform] in
/-- An action that sets a status never sets `PENDING`. -/
theorem decision_ne_pending {action : String} {status : Status}
    (decided : decision action = some status) : status ≠ .pending := by
  unfold decision at decided
  split at decided
  · obtain rfl := Option.some.inj decided
    decide
  · split at decided
    · obtain rfl := Option.some.inj decided
      decide
    · contradiction

/-- A permitted decision is never `PENDING`. -/
theorem Permit.decided {loop : Loop} {process : Nat} {world : World app} {stmt : Stmt}
    (permit : Permit loop process world stmt) :
    ∀ table status id, stmt = .updateStatus table status id → status ≠ .pending := by
  rintro table status id rfl
  obtain ⟨_, _, _, _, _, _, decided⟩ := permit
  exact decision_ne_pending decided

/-! ## Permitted output -/

/-- A line that only `viewResults` prints. -/
def Output.isResult : Output → Bool
  | .println text => text = "\n──── LIVE ELECTION RESULTS ────"
  | .printf format _ => format = "#%d  %-20s | %s | %s | Votes: %d%n"
  | .print _ => false

/-- The line `login` prints for a role without a menu. -/
def unknownRole : Output := .println "Unknown role."

/-- Success is reported exactly where it happened, the leaderboard is printed only to an ADMIN,
and every role has a menu. -/
structure Prints (loop : Loop) (action : Action app) (printed : List Output) : Prop where
  /-- Success messages are truthful and complete. -/
  announces : Announces action printed
  /-- The leaderboard is for the ADMIN menu. -/
  results : ∀ output ∈ printed, output.isResult = true → ∃ admin, loop = .adminMenu admin
  /-- Every role has a menu. -/
  known : unknownRole ∉ printed

/-! ## The invariant -/

/-- No user is there before the seeded account. -/
def Seeded (rows : Rows) : Prop := rows.users = [] ∨ ∃ user ∈ rows.users, user.IsSeed

/-- Applicants have the role of the table they applied to. -/
def RolesMatch (rows : Rows) : Prop :=
  ∀ table, ∀ profile ∈ rows.profiles table, rows.HasRole profile.userId table.role

/-- The status of every application is the last decision on it. -/
def Standings (rows : Rows) (log : List (Entry app)) : Prop :=
  ∀ table, ∀ profile ∈ rows.profiles table, profile.status = standing table profile.id log

/-- Decisions are made on stored applications, and never to `PENDING`. -/
def Decided (rows : Rows) (log : List (Entry app)) : Prop :=
  ∀ table id, ∀ status ∈ decisions table id log,
    status ≠ .pending ∧ ∃ profile ∈ rows.profiles table, profile.id = id

/-- Every vote is of a decided voter for a decided candidate. -/
def BallotsDecided (rows : Rows) : Prop :=
  ∀ vote ∈ rows.votes,
    (∃ profile ∈ rows.voters, profile.userId = vote.voterId ∧ profile.status ≠ .pending) ∧
    ∃ profile ∈ rows.candidates, profile.userId = vote.candidateId ∧ profile.status ≠ .pending

/-- The votes of every candidate are those reported for its identifier, and none was reported for
an identifier without a candidate. -/
structure Tallied (rows : Rows) (log : List (Entry app)) : Prop where
  /-- Votes are counted one by one. -/
  counted : ∀ profile ∈ rows.candidates,
    castsFor profile.id log = rows.votes.countP fun vote => vote.candidateId = profile.userId
  /-- Only identifiers of candidates are voted for. -/
  known : ∀ id, castsFor id log ≠ 0 → ∃ profile ∈ rows.candidates, profile.id = id
  /-- As many votes are stored as were reported. -/
  total : rows.votes.length = casts log

/-- Every row of a user comes from a reported step of the log, with the values typed there. -/
structure Recorded (rows : Rows) (log : List (Entry app)) : Prop where
  /-- Users are registered, but for the seeded account. -/
  users : ∀ user ∈ rows.users, user.IsSeed ∨ Occurs (Registers user) log
  /-- Applications are applied for. -/
  profiles : ∀ table, ∀ profile ∈ rows.profiles table,
    Occurs (Applies table profile.id profile.userId profile.entries) log

/-- What always holds between the tables and the log. -/
structure Invariant (world : World app) : Prop where
  /-- No user is there before the seeded account. -/
  seeded : Seeded world.store.rows
  /-- Applicants have the role of the table they applied to. -/
  roles : RolesMatch world.store.rows
  /-- The status of every application is the last decision on it. -/
  standings : Standings world.store.rows world.log
  /-- Decisions are made on stored applications. -/
  decided : Decided world.store.rows world.log
  /-- Every vote is of a decided voter for a decided candidate. -/
  ballots : BallotsDecided world.store.rows
  /-- The votes are those reported. -/
  tallied : Tallied world.store.rows world.log
  /-- Every row comes from a step. -/
  recorded : Recorded world.store.rows world.log

/-- The discipline of the program. -/
@[reducible] def rules : Discipline app where
  Evolves := Database.Evolves
  Invariant := Invariant
  Ready := Ready
  Permit := Permit
  Prints := Prints

end OnlineVoting
