import OnlineVoting.Library.Query
import OnlineVoting.Database

/-!
# The SQL statements of the program

Every statement the program sends is a value of `Stmt`, with the parameters bound to its
placeholders, and `serve` is what MariaDB does with it as one atomic, auto-committed step. The
server chooses freely what SQL leaves open: the next automatic identifier among the unused ones,
the time, the order of rows that no ORDER BY fixes, and whether the statement fails for a reason
of its own; such a failure changes nothing.
-/
namespace OnlineVoting

open Relational

variable [Platform]

/-- A statement with its bound parameters. -/
inductive Stmt where
  /-- `DriverManager.getConnection(DB_URL_BOOT, DB_USER, DB_PASS)` -/
  | connectBoot
  /-- `CREATE DATABASE IF NOT EXISTS online_voting` -/
  | createDatabase
  /-- `DriverManager.getConnection(DB_URL, DB_USER, DB_PASS)` -/
  | connect
  /-- `CREATE TABLE IF NOT EXISTS table (...)` -/
  | createTable (table : TableName)
  /-- `INSERT IGNORE INTO users (...) VALUES ('admin', hash, 'System Administrator', 'ADMIN')` -/
  | seedAdmin (passwordHash : String)
  /-- `SELECT id, name, role FROM users WHERE username = ? AND password_hash = ?` -/
  | selectLogin (username passwordHash : String)
  /-- `INSERT INTO users (username, password_hash, name, role) VALUES (?, ?, ?, ?)` -/
  | insertUser (username passwordHash name role : String)
  /-- `SELECT id FROM table WHERE user_id = ?`, and whether `next()` finds a row -/
  | existsProfile (table : ProfileTable) (userId : Nat)
  /-- `INSERT INTO table (user_id, ..., status) VALUES (?, ..., 'PENDING')` -/
  | insertProfile (table : ProfileTable) (userId : Nat) (entries : table.Entries)
  /-- `SELECT ..., status FROM table WHERE user_id = ?` -/
  | selectProfile (table : ProfileTable) (userId : Nat)
  /-- `SELECT ... FROM table p JOIN users u ON u.id = p.user_id WHERE p.status = 'PENDING'` -/
  | selectPending (table : ProfileTable)
  /-- `prepareStatement`, where code that can throw stands between it and the execution -/
  | prepare
  /-- `UPDATE table SET status = ? WHERE id = ?`, and the number of rows found -/
  | updateStatus (table : ProfileTable) (status : Status) (id : Int)
  /-- `SELECT ... FROM candidate_profiles cp JOIN users u ON u.id = cp.user_id
  WHERE cp.status = 'APPROVED'` -/
  | selectApproved
  /-- `SELECT status FROM voter_profiles WHERE user_id = ?` -/
  | selectVoterStatus (userId : Nat)
  /-- `SELECT id FROM votes WHERE voter_id = ?`, and whether `next()` finds a row -/
  | existsVote (voterId : Nat)
  /-- `SELECT user_id FROM candidate_profiles WHERE id = ? AND status = 'APPROVED'` -/
  | selectCandidate (id : Int)
  /-- `INSERT INTO votes (voter_id, candidate_id) VALUES (?, ?)` -/
  | insertVote (voterId candidateId : Nat)
  /-- The tally of `viewResults` -/
  | selectResults
  /-- `INSERT INTO forum_posts (user_id, content) VALUES (?, ?)` -/
  | insertForumPost (userId : Nat) (content : String)
  /-- The latest posts of `viewForum` -/
  | selectForum
  deriving DecidableEq

/-! ## Results -/

/-- A row of the login query. -/
structure LoginRow where
  /-- `id` -/
  id : Nat
  /-- `name` -/
  name : String
  /-- `role` -/
  role : Role
  deriving DecidableEq

/-- A row of a listing of applications. -/
structure ApplicationRow (Entries : Type) where
  /-- `id` of the application -/
  id : Nat
  /-- `name` of the applicant -/
  name : String
  /-- `username` of the applicant -/
  username : String
  /-- The entered columns. -/
  entries : Entries
  deriving DecidableEq

/-- A row of the listing of approved candidates. -/
structure CandidateRow where
  /-- `id` of the application -/
  id : Nat
  /-- `name` of the candidate -/
  name : String
  /-- `party`, `constituency` and `manifesto` -/
  entries : CandidateEntries
  deriving DecidableEq

/-- A row of the tally. -/
structure ResultRow where
  /-- `name` of the candidate -/
  name : String
  /-- `party` -/
  party : String
  /-- `constituency` -/
  constituency : String
  /-- `COUNT(v.id)` -/
  votes : Nat
  deriving DecidableEq

/-- A row of the forum. -/
structure ForumRow where
  /-- `name` of the author -/
  name : String
  /-- `content` -/
  content : String
  /-- `posted_at` -/
  postedAt : Nat
  deriving DecidableEq

omit [Platform] in
/-- What the program reads from a statement that succeeds. -/
@[reducible] def Result : Stmt → Type
  | .connectBoot | .createDatabase | .connect | .createTable _ | .prepare => Unit
  | .seedAdmin _ => Nat
  | .selectLogin _ _ => List LoginRow
  | .insertUser _ _ _ _ => Unit
  | .existsProfile _ _ => Bool
  | .insertProfile _ _ _ => Unit
  | .selectProfile table _ => List (table.Entries × Status)
  | .selectPending table => List (ApplicationRow table.Entries)
  | .updateStatus _ _ _ => Nat
  | .selectApproved => List CandidateRow
  | .selectVoterStatus _ => List Status
  | .existsVote _ => Bool
  | .selectCandidate _ => List Nat
  | .insertVote _ _ => Unit
  | .selectResults => List ResultRow
  | .insertForumPost _ _ => Unit
  | .selectForum => List ForumRow

/-- The result, or the exception the statement raises. -/
@[reducible] def Answer (stmt : Stmt) : Type := Except SqlException (Result stmt)

/-- What the server chooses when it executes a statement. -/
structure Choice where
  /-- The message of a failure of its own. -/
  fault : Option String
  /-- The next automatic identifier of any table but `votes`. -/
  id : Nat
  /-- The time, in seconds, for any table but `votes`. -/
  clock : Nat
  /-- Rows that no ORDER BY tells apart come in the order of this rank of their identifiers. -/
  scan : Nat → Nat
  /-- The next automatic identifier of `votes`. -/
  ballotId : Nat
  /-- The time, in seconds, for `votes`. -/
  ballotClock : Nat

/-! ## Exceptions of MariaDB -/

/-- A violated unique index. -/
def duplicateEntry (value key : String) : SqlException :=
  ⟨"Duplicate entry '" ++ Platform.quoted 64 value ++ "' for key '" ++ key ++ "'"⟩

/-- A violated foreign key to `users`, by its number in the table and its column. -/
def foreignKeyFails (table : TableName) (number : Nat) (column : String) : SqlException :=
  ⟨"Cannot add or update a child row: a foreign key constraint fails (`online_voting`.`" ++
    table.sql ++ "`, CONSTRAINT `" ++ table.sql ++ "_ibfk_" ++ toString number ++ "` FOREIGN KEY (`" ++
    column ++ "`) REFERENCES `users` (`id`))"⟩

/-- A statement on a table that does not exist. -/
def noSuchTable (table : TableName) : SqlException :=
  ⟨"Table 'online_voting." ++ table.sql ++ "' doesn't exist"⟩

/-- A foreign key to a table that does not exist. -/
def cannotCreate (table : TableName) : SqlException :=
  ⟨"Can't create table `online_voting`.`" ++ table.sql ++
    "` (errno: 150 \"Foreign key constraint is incorrectly formed\")"⟩

/-- A connection to a database that does not exist. -/
def unknownDatabase : SqlException := ⟨"Unknown database 'online_voting'"⟩

/-- A text that is none of the values of an enumeration. -/
def noSuchValue (column : String) : SqlException :=
  ⟨"Data truncated for column '" ++ column ++ "' at row 1"⟩

/-! ## Queries -/

namespace Rows

/-- Rows in the order in which the server happens to read them. -/
def scanned {Row : Type} (scan : Nat → Nat) (id : Row → Nat) (rows : List Row) : List Row :=
  rows.insertionSort fun left right => scan (id left) ≤ scan (id right)

/-- The users that a login matches. -/
def loginMatches (rows : Rows) (username passwordHash : String) : List User :=
  rows.users.filter fun user =>
    collates user.username username && collates user.passwordHash passwordHash

/-- `SELECT id, name, role FROM users WHERE username = ? AND password_hash = ?` -/
def login (rows : Rows) (scan : Nat → Nat) (username passwordHash : String) : List LoginRow :=
  (scanned scan User.id (rows.loginMatches username passwordHash)).map fun user =>
    ⟨user.id, user.name, user.role⟩

/-- The applications of a user: `FROM table WHERE user_id = ?`. -/
def profilesOf (rows : Rows) (table : ProfileTable) (userId : Nat) :
    List (Profile table.Entries) :=
  (rows.profiles table).filter fun profile => profile.userId = userId

/-- `FROM table p JOIN users u ON u.id = p.user_id WHERE p.status = ?` -/
def withStatus (rows : Rows) (table : ProfileTable) (status : Status) :
    List (Profile table.Entries × User) :=
  (join (fun profile user => user.id = profile.userId) (rows.profiles table) rows.users).filter
    fun row => row.1.status = status

/-- The pending applications of a table, with their applicants. -/
def pending (rows : Rows) (scan : Nat → Nat) (table : ProfileTable) :
    List (ApplicationRow table.Entries) :=
  (scanned scan (fun row => row.1.id) (rows.withStatus table .pending)).map fun row =>
    ⟨row.1.id, row.2.name, row.2.username, row.1.entries⟩

/-- The approved candidates. -/
def approved (rows : Rows) (scan : Nat → Nat) : List CandidateRow :=
  (scanned scan (fun row => row.1.id) (rows.withStatus .candidateProfiles .approved)).map
    fun row => ⟨row.1.id, row.2.name, row.1.entries⟩

/-- `SELECT user_id FROM candidate_profiles WHERE id = ? AND status = 'APPROVED'` -/
def candidateUserIds (rows : Rows) (id : Int) : List Nat :=
  (rows.candidates.filter fun profile => profile.id = id ∧ profile.status = .approved).map
    Profile.userId

/-- `FROM candidate_profiles cp JOIN users u ON u.id = cp.user_id
LEFT JOIN votes v ON v.candidate_id = cp.user_id WHERE cp.status = 'APPROVED'` -/
def ballots (rows : Rows) : List ((CandidateProfile × User) × Option Vote) :=
  (leftJoin (fun row vote => vote.candidateId = row.1.userId)
    (join (fun profile user => user.id = profile.userId) rows.candidates rows.users)
    rows.votes).filter fun row => row.1.1.status = .approved

/-- `GROUP BY cp.id`, with `cp.id`, the selected columns and `COUNT(v.id)` of each group. -/
def tally (rows : Rows) : List (Nat × ResultRow) :=
  (groupBy (fun row : (CandidateProfile × User) × Option Vote => row.1.1.id)
    rows.ballots).filterMap fun group => group.head?.map fun row =>
      (row.1.1.id, ⟨row.1.2.name, row.1.1.entries.party, row.1.1.entries.constituency,
        countPresent group⟩)

/-- `ORDER BY votes DESC`: ties come as the server reads them. -/
def results (rows : Rows) (scan : Nat → Nat) : List ResultRow :=
  (rows.tally.insertionSort fun left right =>
    right.2.votes < left.2.votes ∨
      (left.2.votes = right.2.votes ∧ scan left.1 ≤ scan right.1)).map Prod.snd

/-- `FROM forum_posts fp JOIN users u ON u.id = fp.user_id ORDER BY fp.posted_at DESC LIMIT 20` -/
def forum (rows : Rows) (scan : Nat → Nat) : List ForumRow :=
  (((join (fun post user => user.id = post.userId) rows.forumPosts rows.users).insertionSort
    fun left right => right.1.postedAt < left.1.postedAt ∨
      (left.1.postedAt = right.1.postedAt ∧ scan left.1.id ≤ scan right.1.id)).take 20).map
    fun row => ⟨row.2.name, row.1.content, row.1.postedAt⟩

end Rows

/-! ## Writes -/

/-- An automatic identifier: a positive `INT` that no stored row has. -/
def Admissible (id : Nat) (used : List Nat) : Prop := 0 < id ∧ id < 2 ^ 31 ∧ id ∉ used

instance (id : Nat) (used : List Nat) : Decidable (Admissible id used) :=
  inferInstanceAs (Decidable (_ ∧ _ ∧ _))

/-- The account that `setupDatabase` seeds, under an automatic identifier. -/
def adminUser (id : Nat) (passwordHash : String) : User :=
  ⟨id, "admin", passwordHash, "System Administrator", .admin⟩

namespace Database

/-- `CREATE TABLE IF NOT EXISTS`: refused when the table it refers to does not exist. -/
def createTable (database : Database) (table : TableName) : Except SqlException Database :=
  if database.has table = false ∧ table ≠ .users ∧ database.has .users = false then
    .error (cannotCreate table)
  else
    .ok { database with
      users := if table = .users then Table.ensure database.users else database.users
      profiles other := if table = other.name then Table.ensure (database.profiles other)
        else database.profiles other
      votes := if table = .votes then Table.ensure database.votes else database.votes
      forumPosts := if table = .forumPosts then Table.ensure database.forumPosts
        else database.forumPosts
      referential := by
        simpa only [apply_ite Table.rowsOf, Table.rowsOf_ensure, ite_self] using
          database.referential }

/-- Insert a user; `none` when the identifier cannot be the next automatic one. -/
def storeUser (database : Database) (user : User) : Option (Except SqlException Database) :=
  match stored : database.users with
  | none => some (.error (noSuchTable .users))
  | some users =>
    if Admissible user.id (users.rows.map User.id) then
      match inserted : users.insert user with
      | none => some (.error (duplicateEntry user.username "username"))
      | some next => some (.ok { database with
          users := some next
          referential := by
            simpa only [Rows.addUser, rows, stored, Table.rowsOf_some,
              Table.insert_rows inserted] using database.refers.addUser user })
    else none

/-- Insert an application; `none` when the identifier cannot be the next automatic one. -/
def storeProfile (database : Database) (table : ProfileTable) (profile : Profile table.Entries) :
    Option (Except SqlException Database) :=
  match stored : database.profiles table with
  | none => some (.error (noSuchTable table.name))
  | some profiles =>
    if Admissible profile.id (profiles.rows.map Profile.id) then
      match inserted : profiles.insert profile with
      | none => some (.error (duplicateEntry (toString profile.userId) "user_id"))
      | some next =>
        if known : database.rows.HasUser profile.userId then
          some (.ok { database with
            profiles := Function.update database.profiles table (some next)
            referential := by
              have rows : (fun other => Table.rowsOf
                  (Function.update database.profiles table (some next) other)) =
                  (database.rows.addProfile table profile).profiles := by
                funext other
                by_cases same : other = table
                · subst same
                  simp [Rows.addProfile, rows, stored, Table.insert_rows inserted]
                · simp [Rows.addProfile, rows, same]
              rw [rows]
              exact database.refers.addProfile known })
        else some (.error (foreignKeyFails table.name 1 "user_id"))
    else none

/-- Set the status of the application with an identifier, if there is one. -/
def decideProfile (database : Database) (table : ProfileTable) (id : Int) (status : Status) :
    Database :=
  { database with
    profiles := Function.update database.profiles table ((database.profiles table).map fun stored =>
      stored.modify (Profile.decide id status) (Profile.decide_clash id status))
    referential := by
      have rows : (fun other => Table.rowsOf (Function.update database.profiles table
          ((database.profiles table).map fun stored => stored.modify (Profile.decide id status)
            (Profile.decide_clash id status)) other)) =
          (database.rows.decideProfile table id status).profiles := by
        funext other
        by_cases same : other = table
        · subst same
          cases stored : database.profiles other <;>
            simp [Rows.decideProfile, rows, stored]
        · simp [Rows.decideProfile, rows, same]
      rw [rows]
      exact database.refers.decideProfile table id status }

/-- Insert a vote; `none` when the identifier cannot be the next automatic one. -/
def storeVote (database : Database) (vote : Vote) : Option (Except SqlException Database) :=
  match stored : database.votes with
  | none => some (.error (noSuchTable .votes))
  | some votes =>
    if Admissible vote.id (votes.rows.map Vote.id) then
      match inserted : votes.insert vote with
      | none => some (.error (duplicateEntry (toString vote.voterId) "voter_id"))
      | some next =>
        if voter : database.rows.HasUser vote.voterId then
          if candidate : database.rows.HasUser vote.candidateId then
            some (.ok { database with
              votes := some next
              referential := by
                simpa only [Rows.addVote, rows, stored, Table.rowsOf_some,
                  Table.insert_rows inserted] using database.refers.addVote voter candidate })
          else some (.error (foreignKeyFails .votes 2 "candidate_id"))
        else some (.error (foreignKeyFails .votes 1 "voter_id"))
    else none

/-- Insert a post; `none` when the identifier cannot be the next automatic one. -/
def storeForumPost (database : Database) (post : ForumPost) :
    Option (Except SqlException Database) :=
  match stored : database.forumPosts with
  | none => some (.error (noSuchTable .forumPosts))
  | some posts =>
    if Admissible post.id (posts.rows.map ForumPost.id) then
      match inserted : posts.insert post with
      | none => some (.error (duplicateEntry (toString post.id) "PRIMARY"))
      | some next =>
        if known : database.rows.HasUser post.userId then
          some (.ok { database with
            forumPosts := some next
            referential := by
              simpa only [Rows.addForumPost, rows, stored, Table.rowsOf_some,
                Table.insert_rows inserted] using database.refers.addForumPost known })
        else some (.error (foreignKeyFails .forumPosts 1 "user_id"))
    else none

/-- A query that needs some tables. -/
def query {α : Type} (database : Database) (tables : List TableName) (result : α) :
    Option (Database × Except SqlException α) :=
  some (database, match tables.find? fun table => !database.has table with
    | some missing => .error (noSuchTable missing)
    | none => .ok result)

/-- An insertion: the new database, or the exception and the old one. -/
def insertion (database : Database) (stored : Option (Except SqlException Database)) :
    Option (Database × Except SqlException Unit) :=
  stored.map fun outcome => match outcome with
    | .ok next => (next, .ok ())
    | .error exception => (database, .error exception)

end Database

/-- Check the text columns of a new row, in order. -/
def checkColumns (columns : List (TextType × ColumnName × String)) : Except SqlException Unit :=
  columns.forM fun column => column.1.check column.2.1 column.2.2

/-- The text columns of a new user. -/
def userColumns (username passwordHash name : String) : List (TextType × ColumnName × String) :=
  [(.varchar 100, ⟨"users", "username"⟩, username),
    (.varchar 64, ⟨"users", "password_hash"⟩, passwordHash),
    (.varchar 200, ⟨"users", "name"⟩, name)]

/-- The text columns of a new application. -/
def entryColumns : (table : ProfileTable) → table.Entries → List (TextType × ColumnName × String)
  | .voterProfiles, entries =>
    [(.varchar 200, ⟨"voter_profiles", "constituency"⟩, entries.constituency),
      (.text, ⟨"voter_profiles", "address"⟩, entries.address)]
  | .candidateProfiles, entries =>
    [(.varchar 200, ⟨"candidate_profiles", "party"⟩, entries.party),
      (.varchar 200, ⟨"candidate_profiles", "constituency"⟩, entries.constituency),
      (.text, ⟨"candidate_profiles", "manifesto"⟩, entries.manifesto)]

/-- Execute a statement that does not fail for a reason of the server's own. -/
def execute (choice : Choice) (database : Database) :
    (stmt : Stmt) → Option (Database × Answer stmt)
  | .connectBoot => some (database, .ok ())
  | .createDatabase => some ({ database with created := true }, .ok ())
  | .connect => some (database, if database.created then .ok () else .error unknownDatabase)
  | .createTable table => some (match database.createTable table with
    | .ok next => (next, .ok ())
    | .error exception => (database, .error exception))
  | .seedAdmin passwordHash =>
    -- IGNORE turns a duplicate into a warning; the constants fit their columns.
    (database.storeUser (adminUser choice.id passwordHash)).map fun outcome => match outcome with
      | .ok next => (next, .ok 1)
      | .error exception =>
        (database, if database.has .users then .ok 0 else .error exception)
  | .selectLogin username passwordHash =>
    database.query [.users] (database.rows.login choice.scan username passwordHash)
  | .insertUser username passwordHash name role =>
    match checkColumns (userColumns username passwordHash name), Role.ofLabel role with
    | .ok (), some role =>
      database.insertion (database.storeUser ⟨choice.id, username, passwordHash, name, role⟩)
    | .ok (), none => some (database, .error (noSuchValue "role"))
    | .error exception, _ => some (database, .error exception)
  | .existsProfile table userId =>
    database.query [table.name] !(database.rows.profilesOf table userId).isEmpty
  | .insertProfile table userId entries =>
    match checkColumns (entryColumns table entries) with
    | .ok () => database.insertion (database.storeProfile table ⟨choice.id, userId, entries, .pending⟩)
    | .error exception => some (database, .error exception)
  | .selectProfile table userId =>
    database.query [table.name] ((database.rows.profilesOf table userId).map fun profile =>
      (profile.entries, profile.status))
  | .selectPending table =>
    database.query [table.name, .users] (database.rows.pending choice.scan table)
  | .prepare => some (database, .ok ())
  | .updateStatus table status id =>
    if database.has table.name then
      some (database.decideProfile table id status,
        .ok ((database.rows.profiles table).countP fun profile => profile.id = id))
    else some (database, .error (noSuchTable table.name))
  | .selectApproved =>
    database.query [.candidateProfiles, .users] (database.rows.approved choice.scan)
  | .selectVoterStatus userId =>
    database.query [.voterProfiles]
      ((database.rows.profilesOf .voterProfiles userId).map Profile.status)
  | .existsVote voterId =>
    database.query [.votes] (database.rows.votes.any fun vote => vote.voterId = voterId)
  | .selectCandidate id =>
    database.query [.candidateProfiles] (database.rows.candidateUserIds id)
  | .insertVote voterId candidateId =>
    database.insertion
      (database.storeVote ⟨choice.ballotId, voterId, candidateId, choice.ballotClock⟩)
  | .selectResults =>
    database.query [.candidateProfiles, .users, .votes] (database.rows.results choice.scan)
  | .insertForumPost userId content =>
    match TextType.text.check ⟨"forum_posts", "content"⟩ content with
    | .ok () =>
      database.insertion (database.storeForumPost ⟨choice.id, userId, content, choice.clock⟩)
    | .error exception => some (database, .error exception)
  | .selectForum => database.query [.forumPosts, .users] (database.rows.forum choice.scan)

/-- Serve a statement as one atomic, auto-committed step. -/
def serve (stmt : Stmt) (choice : Choice) (database : Database) :
    Option (Database × Answer stmt) :=
  match choice.fault with
  | some message => some (database, .error ⟨message⟩)
  | none => execute choice database stmt

end OnlineVoting
