import OnlineVoting.Library.Table
import OnlineVoting.Platform

/-!
# The tables of the database `online_voting`

The five tables of `setupDatabase`, with the constraints that MariaDB enforces on them carried
by the value: primary keys and unique columns by each table, foreign keys by the database. No
operation can build a state that violates a declared constraint; an operation that would is
answered with the exception MariaDB raises, and changes nothing.
-/
namespace OnlineVoting

open Relational

/-- `ENUM('VOTER','CANDIDATE','FIELD_OFFICER','ADMIN')`. -/
inductive Role where
  | voter | candidate | fieldOfficer | admin
  deriving DecidableEq

/-- The text of a role in its column. -/
def Role.label : Role → String
  | .voter => "VOTER"
  | .candidate => "CANDIDATE"
  | .fieldOfficer => "FIELD_OFFICER"
  | .admin => "ADMIN"

/-- The role of a text, if it is one of the column. -/
def Role.ofLabel (text : String) : Option Role :=
  [voter, candidate, fieldOfficer, admin].find? fun role => role.label = text

/-- A text that names a role is the label of that role. -/
theorem Role.label_of_ofLabel {text : String} {role : Role} (named : ofLabel text = some role) :
    role.label = text := by
  simpa using List.find?_some named

/-- `ENUM('PENDING','APPROVED','REJECTED')`. -/
inductive Status where
  | pending | approved | rejected
  deriving DecidableEq

/-- The text of a status in its column. -/
def Status.label : Status → String
  | .pending => "PENDING"
  | .approved => "APPROVED"
  | .rejected => "REJECTED"

/-- A row of `users`. -/
structure User where
  /-- `INT AUTO_INCREMENT PRIMARY KEY` -/
  id : Nat
  /-- `VARCHAR(100) NOT NULL UNIQUE` -/
  username : String
  /-- `VARCHAR(64) NOT NULL` -/
  passwordHash : String
  /-- `VARCHAR(200) NOT NULL` -/
  name : String
  /-- One of the four roles. -/
  role : Role
  deriving DecidableEq

/-- The two tables of applications, as `approveReject` names them. -/
inductive ProfileTable where
  | voterProfiles | candidateProfiles
  deriving DecidableEq

/-- What a voter enters in an application. -/
structure VoterEntries where
  /-- `VARCHAR(200) NOT NULL` -/
  constituency : String
  /-- `TEXT` -/
  address : String
  deriving DecidableEq

/-- What a candidate enters in an application. -/
structure CandidateEntries where
  /-- `VARCHAR(200) NOT NULL` -/
  party : String
  /-- `VARCHAR(200) NOT NULL` -/
  constituency : String
  /-- `TEXT` -/
  manifesto : String
  deriving DecidableEq

/-- The entered columns of a table of applications. -/
@[reducible] def ProfileTable.Entries : ProfileTable → Type
  | .voterProfiles => VoterEntries
  | .candidateProfiles => CandidateEntries

instance (table : ProfileTable) : DecidableEq table.Entries :=
  match table with
  | .voterProfiles => inferInstanceAs (DecidableEq VoterEntries)
  | .candidateProfiles => inferInstanceAs (DecidableEq CandidateEntries)

/-- A row of a table of applications. -/
structure Profile (Entries : Type) where
  /-- `INT AUTO_INCREMENT PRIMARY KEY` -/
  id : Nat
  /-- `INT NOT NULL UNIQUE`, references `users(id)` -/
  userId : Nat
  /-- The entered columns. -/
  entries : Entries
  /-- `NOT NULL DEFAULT 'PENDING'` -/
  status : Status
  deriving DecidableEq

/-- A row of `voter_profiles`. -/
abbrev VoterProfile := Profile VoterEntries

/-- A row of `candidate_profiles`. -/
abbrev CandidateProfile := Profile CandidateEntries

/-- A row of `votes`. -/
structure Vote where
  /-- `INT AUTO_INCREMENT PRIMARY KEY` -/
  id : Nat
  /-- `INT NOT NULL UNIQUE`, references `users(id)` -/
  voterId : Nat
  /-- `INT NOT NULL`, references `users(id)` -/
  candidateId : Nat
  /-- `TIMESTAMP DEFAULT CURRENT_TIMESTAMP`, in seconds -/
  votedAt : Nat
  deriving DecidableEq

/-- A row of `forum_posts`. -/
structure ForumPost where
  /-- `INT AUTO_INCREMENT PRIMARY KEY` -/
  id : Nat
  /-- `INT NOT NULL`, references `users(id)` -/
  userId : Nat
  /-- `TEXT NOT NULL` -/
  content : String
  /-- `TIMESTAMP DEFAULT CURRENT_TIMESTAMP`, in seconds -/
  postedAt : Nat
  deriving DecidableEq

/-- The tables that `setupDatabase` creates. -/
inductive TableName where
  | users | voterProfiles | candidateProfiles | votes | forumPosts
  deriving DecidableEq

/-- A table of applications among the tables. -/
def ProfileTable.name : ProfileTable → TableName
  | .voterProfiles => .voterProfiles
  | .candidateProfiles => .candidateProfiles

/-- The name of a table in SQL. -/
def TableName.sql : TableName → String
  | .users => "users"
  | .voterProfiles => "voter_profiles"
  | .candidateProfiles => "candidate_profiles"
  | .votes => "votes"
  | .forumPosts => "forum_posts"

/-! ## Keys -/

/-- Two users under one primary key, or under usernames that the unique index takes for one. -/
def User.Clash [Platform] (left right : User) : Prop :=
  left.id = right.id ∨ collates left.username right.username = true

/-- Two applications under one primary key or of one user. -/
def Profile.Clash {Entries : Type} (left right : Profile Entries) : Prop :=
  left.id = right.id ∨ left.userId = right.userId

/-- Two votes under one primary key or of one voter. -/
def Vote.Clash (left right : Vote) : Prop := left.id = right.id ∨ left.voterId = right.voterId

/-- Two posts under one primary key. -/
def ForumPost.Clash (left right : ForumPost) : Prop := left.id = right.id

instance [Platform] : DecidableRel User.Clash := fun _ _ => inferInstanceAs (Decidable (_ ∨ _))

instance {Entries : Type} : DecidableRel (@Profile.Clash Entries) :=
  fun _ _ => inferInstanceAs (Decidable (_ ∨ _))

instance : DecidableRel Vote.Clash := fun _ _ => inferInstanceAs (Decidable (_ ∨ _))

instance : DecidableRel ForumPost.Clash := fun _ _ => inferInstanceAs (Decidable (_ = _))

theorem User.clash_symm [Platform] (left right : User) (clash : left.Clash right) :
    right.Clash left :=
  clash.imp Eq.symm fun same => Platform.collates_equivalence.symm same

theorem Profile.clash_symm {Entries : Type} (left right : Profile Entries)
    (clash : left.Clash right) : right.Clash left := clash.imp Eq.symm Eq.symm

theorem Vote.clash_symm (left right : Vote) (clash : left.Clash right) : right.Clash left :=
  clash.imp Eq.symm Eq.symm

/-- `SET status = ? WHERE id = ?`, on one row. -/
def Profile.decide {Entries : Type} (id : Int) (status : Status) (profile : Profile Entries) :
    Profile Entries :=
  if profile.id = id then { profile with status := status } else profile

@[simp] theorem Profile.decide_id {Entries : Type} (id : Int) (status : Status)
    (profile : Profile Entries) : (profile.decide id status).id = profile.id := by
  unfold decide
  split <;> rfl

@[simp] theorem Profile.decide_userId {Entries : Type} (id : Int) (status : Status)
    (profile : Profile Entries) : (profile.decide id status).userId = profile.userId := by
  unfold decide
  split <;> rfl

@[simp] theorem Profile.decide_entries {Entries : Type} (id : Int) (status : Status)
    (profile : Profile Entries) : (profile.decide id status).entries = profile.entries := by
  unfold decide
  split <;> rfl

/-- Setting a status creates no clash. -/
theorem Profile.decide_clash {Entries : Type} (id : Int) (status : Status)
    (left right : Profile Entries)
    (clash : (left.decide id status).Clash (right.decide id status)) : left.Clash right := by
  simpa only [Clash, decide_id, decide_userId] using clash

/-! ## Rows of all tables -/

/-- The rows of the five tables, oldest first. -/
structure Rows where
  /-- `users` -/
  users : List User
  /-- `voter_profiles` and `candidate_profiles` -/
  profiles : (table : ProfileTable) → List (Profile table.Entries)
  /-- `votes` -/
  votes : List Vote
  /-- `forum_posts` -/
  forumPosts : List ForumPost

namespace Rows

/-- `candidate_profiles` -/
abbrev candidates (rows : Rows) : List CandidateProfile := rows.profiles .candidateProfiles

/-- `voter_profiles` -/
abbrev voters (rows : Rows) : List VoterProfile := rows.profiles .voterProfiles

/-- One more user. -/
def addUser (rows : Rows) (user : User) : Rows := { rows with users := rows.users ++ [user] }

/-- One more application. -/
def addProfile (rows : Rows) (table : ProfileTable) (profile : Profile table.Entries) : Rows :=
  { rows with
    profiles := Function.update rows.profiles table (rows.profiles table ++ [profile]) }

/-- One application decided, if the table has it. -/
def decideProfile (rows : Rows) (table : ProfileTable) (id : Int) (status : Status) : Rows :=
  { rows with
    profiles := Function.update rows.profiles table
      ((rows.profiles table).map (Profile.decide id status)) }

/-- One more vote. -/
def addVote (rows : Rows) (vote : Vote) : Rows := { rows with votes := rows.votes ++ [vote] }

/-- One more post. -/
def addForumPost (rows : Rows) (post : ForumPost) : Rows :=
  { rows with forumPosts := rows.forumPosts ++ [post] }

/-- Where a stored application comes from, once another was added. -/
inductive Added (rows : Rows) {table : ProfileTable} (added : Profile table.Entries) :
    (other : ProfileTable) → Profile other.Entries → Prop where
  /-- It was stored before. -/
  | old {other : ProfileTable} {profile : Profile other.Entries}
    (stored : profile ∈ rows.profiles other) : Added rows added other profile
  /-- It is the one that was added. -/
  | new : Added rows added table added

/-- Every application was stored before another was added, or is the added one. -/
theorem mem_addProfile {rows : Rows} {table : ProfileTable} {added : Profile table.Entries}
    {other : ProfileTable} {profile : Profile other.Entries}
    (present : profile ∈ (rows.addProfile table added).profiles other) :
    rows.Added added other profile := by
  by_cases same : other = table
  · subst same
    simp only [addProfile, Function.update_self, List.mem_append, List.mem_singleton] at present
    rcases present with stored | rfl
    · exact .old stored
    · exact .new
  · simp only [addProfile, Function.update_of_ne same] at present
    exact .old present

/-- Every application was stored before a decision, and was decided if the decision was made in its
table. -/
theorem mem_decideProfile {rows : Rows} {table : ProfileTable} {id : Int} {status : Status}
    {other : ProfileTable} {profile : Profile other.Entries}
    (present : profile ∈ (rows.decideProfile table id status).profiles other) :
    ∃ old ∈ rows.profiles other, profile = if table = other then old.decide id status else old := by
  by_cases same : other = table
  · subst same
    simp only [decideProfile, Function.update_self, List.mem_map] at present
    obtain ⟨old, stored, rfl⟩ := present
    exact ⟨old, stored, (if_pos rfl).symm⟩
  · simp only [decideProfile, Function.update_of_ne same] at present
    exact ⟨profile, present, (if_neg fun equal => same equal.symm).symm⟩

/-- A decision keeps everything of an application but its status. -/
theorem origin_decideProfile {rows : Rows} {table : ProfileTable} {id : Int} {status : Status}
    {other : ProfileTable} {profile : Profile other.Entries}
    (present : profile ∈ (rows.decideProfile table id status).profiles other) :
    ∃ old ∈ rows.profiles other, old.id = profile.id ∧ old.userId = profile.userId ∧
      old.entries = profile.entries := by
  obtain ⟨old, stored, rfl⟩ := mem_decideProfile present
  refine ⟨old, stored, ?_⟩
  split
  · exact ⟨(Profile.decide_id ..).symm, (Profile.decide_userId ..).symm,
      (Profile.decide_entries ..).symm⟩
  · exact ⟨rfl, rfl, rfl⟩

/-- Some user has this id. -/
def HasUser (rows : Rows) (id : Nat) : Prop := ∃ user ∈ rows.users, user.id = id

instance (rows : Rows) (id : Nat) : Decidable (rows.HasUser id) :=
  inferInstanceAs (Decidable (∃ user ∈ rows.users, user.id = id))

/-- Every foreign key refers to a user. -/
structure Referential (rows : Rows) : Prop where
  /-- `user_id` of both tables of applications -/
  applicant : ∀ table, ∀ profile ∈ rows.profiles table, rows.HasUser profile.userId
  /-- `votes.voter_id` -/
  voter : ∀ vote ∈ rows.votes, rows.HasUser vote.voterId
  /-- `votes.candidate_id` -/
  candidate : ∀ vote ∈ rows.votes, rows.HasUser vote.candidateId
  /-- `forum_posts.user_id` -/
  author : ∀ post ∈ rows.forumPosts, rows.HasUser post.userId

/-- A new user invalidates no reference. -/
theorem Referential.addUser {rows : Rows} (refers : rows.Referential) (user : User) :
    (rows.addUser user).Referential := by
  have grown {id : Nat} (known : rows.HasUser id) : (rows.addUser user).HasUser id :=
    known.imp fun _ found => ⟨List.mem_append_left _ found.1, found.2⟩
  exact ⟨fun t p h => grown (refers.applicant t p h), fun v h => grown (refers.voter v h),
    fun v h => grown (refers.candidate v h), fun p h => grown (refers.author p h)⟩

/-- A new application of a user refers to that user. -/
theorem Referential.addProfile {rows : Rows} (refers : rows.Referential) {table : ProfileTable}
    {profile : Profile table.Entries} (known : rows.HasUser profile.userId) :
    (rows.addProfile table profile).Referential := by
  refine ⟨fun other found present => ?_, refers.voter, refers.candidate, refers.author⟩
  cases mem_addProfile present with
  | old stored => exact refers.applicant other found stored
  | new => exact known

/-- Deciding an application changes no reference. -/
theorem Referential.decideProfile {rows : Rows} (refers : rows.Referential)
    (table : ProfileTable) (id : Int) (status : Status) :
    (rows.decideProfile table id status).Referential := by
  refine ⟨fun other found present => ?_, refers.voter, refers.candidate, refers.author⟩
  obtain ⟨old, stored, _, userId, _⟩ := origin_decideProfile present
  have known := refers.applicant other old stored
  rw [userId] at known
  exact known

/-- A new vote between users refers to those users. -/
theorem Referential.addVote {rows : Rows} (refers : rows.Referential) {vote : Vote}
    (voter : rows.HasUser vote.voterId) (candidate : rows.HasUser vote.candidateId) :
    (rows.addVote vote).Referential :=
  ⟨refers.applicant,
    fun other present => (List.mem_append.mp present).elim (refers.voter other)
      fun new => List.mem_singleton.mp new ▸ voter,
    fun other present => (List.mem_append.mp present).elim (refers.candidate other)
      fun new => List.mem_singleton.mp new ▸ candidate,
    refers.author⟩

/-- A new post of a user refers to that user. -/
theorem Referential.addForumPost {rows : Rows} (refers : rows.Referential) {post : ForumPost}
    (known : rows.HasUser post.userId) : (rows.addForumPost post).Referential :=
  ⟨refers.applicant, refers.voter, refers.candidate,
    fun other present => (List.mem_append.mp present).elim (refers.author other)
      fun new => List.mem_singleton.mp new ▸ known⟩

end Rows

/-! ## The database -/

variable [Platform]

/-- The database and its tables, `none` until created, with the declared keys. -/
structure Database where
  /-- `CREATE DATABASE` was executed. -/
  created : Bool
  /-- `users` -/
  users : Option (Table User User.Clash)
  /-- `voter_profiles` and `candidate_profiles` -/
  profiles : (table : ProfileTable) → Option (Table (Profile table.Entries) Profile.Clash)
  /-- `votes` -/
  votes : Option (Table Vote Vote.Clash)
  /-- `forum_posts` -/
  forumPosts : Option (Table ForumPost ForumPost.Clash)
  /-- Foreign keys are checked at every insertion. -/
  referential : Rows.Referential ⟨Table.rowsOf users, fun table => Table.rowsOf (profiles table),
    Table.rowsOf votes, Table.rowsOf forumPosts⟩

namespace Database

/-- The rows of the five tables. -/
def rows (database : Database) : Rows where
  users := Table.rowsOf database.users
  profiles table := Table.rowsOf (database.profiles table)
  votes := Table.rowsOf database.votes
  forumPosts := Table.rowsOf database.forumPosts

/-- A server without the database. -/
def absent : Database where
  created := false
  users := none
  profiles _ := none
  votes := none
  forumPosts := none
  referential := ⟨by simp, by simp, by simp, by simp⟩

/-- A table exists. -/
def has (database : Database) : TableName → Bool
  | .users => database.users.isSome
  | .voterProfiles => (database.profiles .voterProfiles).isSome
  | .candidateProfiles => (database.profiles .candidateProfiles).isSome
  | .votes => database.votes.isSome
  | .forumPosts => database.forumPosts.isSome

/-- Every foreign key of the database refers to a user. -/
theorem refers (database : Database) : database.rows.Referential := database.referential

/-- Users under clashing keys are one user. -/
theorem user_unique (database : Database) {left right : User}
    (leftStored : left ∈ database.rows.users) (rightStored : right ∈ database.rows.users)
    (clash : left.Clash right) : left = right :=
  Table.rowsOf_unique User.clash_symm leftStored rightStored clash

/-- Applications under clashing keys are one application. -/
theorem profile_unique (database : Database) {table : ProfileTable}
    {left right : Profile table.Entries} (leftStored : left ∈ database.rows.profiles table)
    (rightStored : right ∈ database.rows.profiles table) (clash : left.Clash right) :
    left = right :=
  Table.rowsOf_unique Profile.clash_symm leftStored rightStored clash

/-- Candidacies under clashing keys are one candidacy. -/
theorem candidate_unique (database : Database) {left right : CandidateProfile}
    (leftStored : left ∈ database.rows.candidates)
    (rightStored : right ∈ database.rows.candidates) (clash : left.Clash right) : left = right :=
  @profile_unique _ database .candidateProfiles left right leftStored rightStored clash

/-- Votes under clashing keys are one vote. -/
theorem vote_unique (database : Database) {left right : Vote}
    (leftStored : left ∈ database.rows.votes) (rightStored : right ∈ database.rows.votes)
    (clash : left.Clash right) : left = right :=
  Table.rowsOf_unique Vote.clash_symm leftStored rightStored clash

end Database

end OnlineVoting
