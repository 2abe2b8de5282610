import OnlineVoting.Casting

/-!
# Databases that differ in their votes

The votes are read by three statements alone: whether a voter has voted, the insertion of a vote,
and the tally. When two databases differ in nothing but their votes, and in these only so that the
same voters have voted, every other statement has the same answer on both, and leaves two databases
that differ so again.
-/
namespace OnlineVoting

open Relational

variable [Platform]

/-- `votes`, before or after its creation. -/
abbrev Votes := Option (Table Vote Vote.Clash)

namespace Database

/-- Two databases that differ in their votes alone. -/
structure Alike (votes : Votes → Votes → Prop) (left right : Database) : Prop where
  /-- Both are created, or neither is. -/
  created : left.created = right.created
  /-- The same users. -/
  users : left.users = right.users
  /-- The same applications. -/
  profiles : left.profiles = right.profiles
  /-- The same posts. -/
  forumPosts : left.forumPosts = right.forumPosts
  /-- Votes that are not to be told apart. -/
  votes : votes left.votes right.votes

end Database

/-- What a relation between votes keeps, whatever statements are executed by choices that match. -/
structure Veils (votes : Votes → Votes → Prop) (alike : Choice → Choice → Prop) : Prop where
  /-- Both tables exist, or neither does. -/
  present : ∀ {left right}, votes left right → left.isSome = right.isSome
  /-- Creation of the table keeps it. -/
  ensure : ∀ {left right}, votes left right → votes (Table.ensure left) (Table.ensure right)
  /-- The same voters have voted. -/
  voters : ∀ {left right}, votes left right → ∀ voterId,
    (∃ vote ∈ Table.rowsOf left, vote.voterId = voterId) ↔
      ∃ vote ∈ Table.rowsOf right, vote.voterId = voterId
  /-- Choices that match differ only in what they choose for votes. -/
  choices : ∀ {choice other}, alike choice other → choice.fault = other.fault ∧
    choice.id = other.id ∧ choice.clock = other.clock ∧ choice.scan = other.scan
  /-- A new vote of one voter for one candidate keeps it. -/
  insert : ∀ {left right next next' : Table Vote Vote.Clash} {choice other voterId candidateId},
    votes (some left) (some right) → alike choice other →
    left.insert ⟨choice.ballotId, voterId, candidateId, choice.ballotClock⟩ = some next →
    right.insert ⟨other.ballotId, voterId, candidateId, other.ballotClock⟩ = some next' →
      votes (some next) (some next')

namespace Database

/-- The outcomes of one insertion into two databases. -/
inductive Outcomes (votes : Votes → Votes → Prop) :
    Option (Except SqlException Database) → Option (Except SqlException Database) → Prop where
  /-- The identifier cannot be the next one. -/
  | never : Outcomes votes none none
  /-- Both raise the same exception. -/
  | error (exception : SqlException) :
    Outcomes votes (some (.error exception)) (some (.error exception))
  /-- Both store the row. -/
  | ok {left right : Database} (alike : left.Alike votes right) :
    Outcomes votes (some (.ok left)) (some (.ok right))

variable {votes : Votes → Votes → Prop} {left right : Database}

/-- Complete databases with the same rows but for the votes are alike when their votes are. -/
theorem Complete.alike (complete : left.Complete) (complete' : right.Complete)
    (users : left.rows.users = right.rows.users) (voters : left.rows.voters = right.rows.voters)
    (candidates : left.rows.candidates = right.rows.candidates)
    (posts : left.rows.forumPosts = right.rows.forumPosts)
    (veiled : votes left.votes right.votes) : left.Alike votes right := by
  have same {Row : Type} {Clash : Row → Row → Prop} {table other : Option (Table Row Clash)}
      (present : table.isSome = true) (present' : other.isSome = true)
      (rows : Table.rowsOf table = Table.rowsOf other) : table = other := by
    obtain ⟨table, rfl⟩ := Option.isSome_iff_exists.mp present
    obtain ⟨other, rfl⟩ := Option.isSome_iff_exists.mp present'
    exact congrArg some (Table.ext rows)
  refine ⟨?_, same (complete.has .users) (complete'.has .users) users, funext fun table => ?_,
    same (complete.has .forumPosts) (complete'.has .forumPosts) posts, veiled⟩
  · rw [complete.created, complete'.created]
  · cases table with
    | voterProfiles => exact same (complete.has .voterProfiles) (complete'.has .voterProfiles) voters
    | candidateProfiles =>
      exact same (complete.has .candidateProfiles) (complete'.has .candidateProfiles) candidates

/-- A user is stored in both databases, or refused by both. -/
theorem Alike.storeUser (alike : left.Alike votes right) (user : User) :
    Outcomes votes (left.storeUser user) (right.storeUser user) := by
  obtain ⟨created, users, profiles, voted, posts, refers⟩ := left
  obtain ⟨_, _, _, voted', _, refers'⟩ := right
  obtain ⟨rfl, rfl, rfl, rfl, veiled⟩ := alike
  unfold Database.storeUser
  dsimp only
  split
  · exact .error _
  · split
    · split
      · exact .error _
      · exact .ok ⟨rfl, rfl, rfl, rfl, veiled⟩
    · exact .never

/-- An application is stored in both databases, or refused by both. -/
theorem Alike.storeProfile (alike : left.Alike votes right) (table : ProfileTable)
    (profile : Profile table.Entries) :
    Outcomes votes (left.storeProfile table profile) (right.storeProfile table profile) := by
  obtain ⟨created, users, profiles, voted, posts, refers⟩ := left
  obtain ⟨_, _, _, voted', _, refers'⟩ := right
  obtain ⟨rfl, rfl, rfl, rfl, veiled⟩ := alike
  unfold Database.storeProfile
  dsimp only
  split
  · exact .error _
  · split
    · split
      · exact .error _
      · split
        · rename_i known
          split
          · exact .ok ⟨rfl, rfl, rfl, rfl, veiled⟩
          · rename_i unknown
            exact absurd known unknown
        · rename_i unknown
          split
          · rename_i known
            exact absurd known unknown
          · exact .error _
    · exact .never

/-- A post is stored in both databases, or refused by both. -/
theorem Alike.storeForumPost (alike : left.Alike votes right) (post : ForumPost) :
    Outcomes votes (left.storeForumPost post) (right.storeForumPost post) := by
  obtain ⟨created, users, profiles, voted, posts, refers⟩ := left
  obtain ⟨_, _, _, voted', _, refers'⟩ := right
  obtain ⟨rfl, rfl, rfl, rfl, veiled⟩ := alike
  unfold Database.storeForumPost
  dsimp only
  split
  · exact .error _
  · split
    · split
      · exact .error _
      · split
        · rename_i known
          split
          · exact .ok ⟨rfl, rfl, rfl, rfl, veiled⟩
          · rename_i unknown
            exact absurd known unknown
        · rename_i unknown
          split
          · rename_i known
            exact absurd known unknown
          · exact .error _
    · exact .never

variable {choices : Choice → Choice → Prop}

/-- The same tables exist. -/
theorem Alike.has (alike : left.Alike votes right) (veils : Veils votes choices)
    (table : TableName) : left.has table = right.has table := by
  cases table with
  | users => exact congrArg Option.isSome alike.users
  | voterProfiles => exact congrArg (fun profiles => (profiles .voterProfiles).isSome) alike.profiles
  | candidateProfiles =>
    exact congrArg (fun profiles => (profiles .candidateProfiles).isSome) alike.profiles
  | votes => exact veils.present alike.votes
  | forumPosts => exact congrArg Option.isSome alike.forumPosts

/-- The same users are stored. -/
theorem Alike.users_rows (alike : left.Alike votes right) : left.rows.users = right.rows.users :=
  congrArg Table.rowsOf alike.users

/-- The same applications are stored. -/
theorem Alike.profiles_rows (alike : left.Alike votes right) :
    left.rows.profiles = right.rows.profiles :=
  congrArg (fun profiles table => Table.rowsOf (profiles table)) alike.profiles

/-- The same posts are stored. -/
theorem Alike.forumPosts_rows (alike : left.Alike votes right) :
    left.rows.forumPosts = right.rows.forumPosts :=
  congrArg Table.rowsOf alike.forumPosts

/-- A table is created in both databases, or in neither. -/
theorem Alike.createTable (alike : left.Alike votes right) (veils : Veils votes choices)
    (table : TableName) :
    Outcomes votes (some (left.createTable table)) (some (right.createTable table)) := by
  unfold Database.createTable
  rw [alike.has veils table, alike.has veils .users]
  split
  · exact .error _
  · refine .ok ⟨alike.created, ?_, ?_, ?_, ?_⟩
    · simp only [alike.users]
    · simp only [alike.profiles]
    · simp only [alike.forumPosts]
    · dsimp only
      split
      · exact veils.ensure alike.votes
      · exact alike.votes

/-- A decision leaves databases alike. -/
theorem Alike.decideProfile (alike : left.Alike votes right) (table : ProfileTable) (id : Int)
    (status : Status) :
    (left.decideProfile table id status).Alike votes (right.decideProfile table id status) := by
  refine ⟨alike.created, alike.users, ?_, alike.forumPosts, alike.votes⟩
  simp only [Database.decideProfile, alike.profiles]

/-- The answers to one statement on two databases. -/
inductive Answers (votes : Votes → Votes → Prop) {α : Type} :
    Option (Database × Except SqlException α) → Option (Database × Except SqlException α) → Prop where
  /-- Neither chooses so. -/
  | never : Answers votes none none
  /-- Both answer the same, and are alike after it. -/
  | answered {left right : Database} (alike : left.Alike votes right)
    (answer : Except SqlException α) : Answers votes (some (left, answer)) (some (right, answer))

/-- Both answers are the same, and the databases alike. -/
theorem Answers.agree {α : Type} {next next' : Database}
    {first second : Option (Database × Except SqlException α)} {answer answer' : Except SqlException α}
    (answers : Answers votes first second) (one : first = some (next, answer))
    (two : second = some (next', answer')) : next.Alike votes next' ∧ answer = answer' := by
  cases answers with
  | never => contradiction
  | answered alike answer =>
    obtain ⟨rfl, rfl⟩ := Prod.mk.inj (Option.some.inj one)
    obtain ⟨rfl, rfl⟩ := Prod.mk.inj (Option.some.inj two)
    exact ⟨alike, rfl⟩

/-- What the one database answers, the other does. -/
theorem Answers.exists {α : Type} {next : Database}
    {first second : Option (Database × Except SqlException α)} {answer : Except SqlException α}
    (answers : Answers votes first second) (one : first = some (next, answer)) :
    ∃ next' answer', second = some (next', answer') := by
  cases answers with
  | never => contradiction
  | answered => exact ⟨_, _, rfl⟩

/-- A query with one result has one answer. -/
theorem Alike.query (alike : left.Alike votes right) (veils : Veils votes choices) {α : Type}
    (tables : List TableName) {result other : α} (same : result = other) :
    Answers votes (left.query tables result) (right.query tables other) := by
  have missing : (fun table => !left.has table) = fun table => !right.has table :=
    funext fun table => by rw [alike.has veils table]
  rw [Database.query, Database.query, missing, same]
  exact .answered alike _

/-- Insertions with one outcome have one answer. -/
theorem Alike.insertion (alike : left.Alike votes right)
    {stored other : Option (Except SqlException Database)} (outcomes : Outcomes votes stored other) :
    Answers votes (left.insertion stored) (right.insertion other) := by
  cases outcomes with
  | never => exact .never
  | error exception => exact .answered alike _
  | ok after => exact .answered after _

/-- A statement other than the insertion of a vote and the tally has one answer on both databases. -/
theorem Alike.execute (alike : left.Alike votes right) (veils : Veils votes choices)
    {choice other : Choice} (matching : choices choice other) {stmt : Stmt}
    (tally : stmt ≠ .selectResults)
    (ballot : ∀ voterId candidateId, stmt ≠ .insertVote voterId candidateId) :
    Answers votes (execute choice left stmt) (execute other right stmt) := by
  obtain ⟨_, id, clock, scan⟩ := veils.choices matching
  have users := alike.users_rows
  have profiles := alike.profiles_rows
  have posts := alike.forumPosts_rows
  cases stmt with
  | connectBoot | prepare => exact .answered alike _
  | createDatabase =>
    have after : ({ left with created := true } : Database).Alike votes
        { right with created := true } :=
      ⟨rfl, alike.users, alike.profiles, alike.forumPosts, alike.votes⟩
    exact .answered after _
  | connect =>
    simp only [OnlineVoting.execute, alike.created]
    exact .answered alike _
  | createTable table =>
    have outcomes := alike.createTable veils table
    simp only [OnlineVoting.execute]
    generalize left.createTable table = first at outcomes
    generalize right.createTable table = second at outcomes
    cases outcomes with
    | error exception => exact .answered alike _
    | ok after => exact .answered after _
  | seedAdmin passwordHash =>
    have outcomes := alike.storeUser (adminUser choice.id passwordHash)
    simp only [OnlineVoting.execute, ← id, ← alike.has veils]
    generalize left.storeUser (adminUser choice.id passwordHash) = first at outcomes
    generalize right.storeUser (adminUser choice.id passwordHash) = second at outcomes
    cases outcomes with
    | never => exact .never
    | error exception => exact .answered alike _
    | ok after => exact .answered after _
  | insertUser username passwordHash name role =>
    simp only [OnlineVoting.execute, ← id]
    split
    · exact alike.insertion (alike.storeUser _)
    · exact .answered alike _
    · exact .answered alike _
  | insertProfile table userId entries =>
    simp only [OnlineVoting.execute, ← id]
    split
    · exact alike.insertion (alike.storeProfile table _)
    · exact .answered alike _
  | updateStatus table status id =>
    simp only [OnlineVoting.execute, ← alike.has veils, ← profiles]
    split
    · exact .answered (alike.decideProfile table id status) _
    · exact .answered alike _
  | insertForumPost userId content =>
    simp only [OnlineVoting.execute, ← id, ← clock]
    split
    · exact alike.insertion (alike.storeForumPost _)
    · exact .answered alike _
  | selectLogin username passwordHash =>
    exact alike.query veils _ (by simp only [Rows.login, Rows.loginMatches, users, scan])
  | existsProfile table userId =>
    exact alike.query veils _ (by simp only [Rows.profilesOf, profiles])
  | selectProfile table userId =>
    exact alike.query veils _ (by simp only [Rows.profilesOf, profiles])
  | selectPending table =>
    exact alike.query veils _
      (by simp only [Rows.pending, Rows.withStatus, users, profiles, scan])
  | selectApproved =>
    exact alike.query veils _
      (by simp only [Rows.approved, Rows.withStatus, users, profiles, scan])
  | selectVoterStatus userId =>
    exact alike.query veils _ (by simp only [Rows.profilesOf, profiles])
  | selectCandidate id =>
    exact alike.query veils _ (by simp only [Rows.candidateUserIds, Rows.candidates, profiles])
  | selectForum =>
    exact alike.query veils _ (by simp only [Rows.forum, users, posts, scan])
  | existsVote voterId =>
    refine alike.query veils _ ?_
    have voted : (∃ vote ∈ left.rows.votes, vote.voterId = voterId) ↔
        ∃ vote ∈ right.rows.votes, vote.voterId = voterId := veils.voters alike.votes voterId
    rw [Bool.eq_iff_iff, List.any_eq_true, List.any_eq_true]
    simpa using voted
  | insertVote voterId candidateId => exact absurd rfl (ballot voterId candidateId)
  | selectResults => exact absurd rfl tally

/-- A vote is refused where there is no table for it. -/
theorem storeVote_missing {database : Database} (missing : database.votes = none) (vote : Vote) :
    database.storeVote vote = some (.error (noSuchTable .votes)) := by
  unfold Database.storeVote
  split
  · rfl
  · rename_i present
    rw [missing] at present
    contradiction

/-- What becomes of a vote under an admissible identifier. -/
theorem storeVote_cases {database : Database} {table : Table Vote Vote.Clash} {vote : Vote}
    (present : database.votes = some table) (admissible : Admissible vote.id (table.rows.map Vote.id)) :
    ((∃ old ∈ table.rows, old.voterId = vote.voterId) ∧ database.storeVote vote =
      some (.error (duplicateEntry (toString vote.voterId) "voter_id"))) ∨
    (¬ ∃ old ∈ table.rows, old.voterId = vote.voterId) ∧
      (¬ database.rows.HasUser vote.voterId ∧ database.storeVote vote =
          some (.error (foreignKeyFails .votes 1 "voter_id")) ∨
        database.rows.HasUser vote.voterId ∧
          (¬ database.rows.HasUser vote.candidateId ∧ database.storeVote vote =
              some (.error (foreignKeyFails .votes 2 "candidate_id")) ∨
            database.rows.HasUser vote.candidateId ∧ ∃ next later,
              table.insert vote = some next ∧ database.storeVote vote = some (.ok later) ∧
                later.created = database.created ∧ later.users = database.users ∧
                later.profiles = database.profiles ∧ later.votes = some next ∧
                later.forumPosts = database.forumPosts)) := by
  have clashes : (∃ old ∈ table.rows, old.Clash vote) ↔
      ∃ old ∈ table.rows, old.voterId = vote.voterId := by
    refine exists_congr fun old => and_congr_right fun stored => ⟨fun clash => ?_, .inr⟩
    rcases clash with same | same
    · exact absurd (List.mem_map.mpr ⟨old, stored, same⟩) admissible.2.2
    · exact same
  obtain ⟨created, users, profiles, voted, posts, refers⟩ := database
  obtain rfl : voted = some table := present
  unfold Database.storeVote
  dsimp only
  rw [if_pos admissible]
  split
  · rename_i clash
    exact .inl ⟨clashes.mp ((Table.insert_eq_none table vote).mp clash), rfl⟩
  · rename_i next inserted
    refine .inr ⟨fun old => ?_, ?_⟩
    · rw [(Table.insert_eq_none table vote).mpr (clashes.mpr old)] at inserted
      contradiction
    · split
      · rename_i voter
        refine .inr ⟨voter, ?_⟩
        split
        · rename_i candidate
          exact .inr ⟨candidate, next, _, inserted, rfl, rfl, rfl, rfl, rfl, rfl⟩
        · rename_i unknown
          exact .inl ⟨unknown, rfl⟩
      · rename_i unknown
        exact .inl ⟨unknown, rfl⟩

/-- A vote is stored in both databases, or refused by both, under identifiers that can be next. -/
theorem Alike.storeVote (alike : left.Alike votes right) (veils : Veils votes choices)
    {choice other : Choice} (matching : choices choice other) {voterId candidateId : Nat}
    {outcome outcome' : Except SqlException Database}
    (stored : left.storeVote ⟨choice.ballotId, voterId, candidateId, choice.ballotClock⟩ =
      some outcome)
    (stored' : right.storeVote ⟨other.ballotId, voterId, candidateId, other.ballotClock⟩ =
      some outcome') :
    Outcomes votes (left.storeVote ⟨choice.ballotId, voterId, candidateId, choice.ballotClock⟩)
      (right.storeVote ⟨other.ballotId, voterId, candidateId, other.ballotClock⟩) := by
  have both := veils.present alike.votes
  cases one : left.votes with
  | none =>
    have missing : right.votes = none := by simpa [one] using both.symm
    rw [storeVote_missing one, storeVote_missing missing]
    exact .error _
  | some table =>
    obtain ⟨table', two⟩ : ∃ table', right.votes = some table' :=
      Option.isSome_iff_exists.mp (by rw [← both, one]; rfl)
    have admissible := storeVote_admissible (by simp [Database.has, one]) stored
    have admissible' := storeVote_admissible (by simp [Database.has, two]) stored'
    simp only [Database.rows, one, two, Table.rowsOf_some] at admissible admissible'
    have voters := veils.voters alike.votes voterId
    rw [one, two, Table.rowsOf_some, Table.rowsOf_some] at voters
    have users : right.rows.HasUser = left.rows.HasUser := by
      funext id
      simp only [Rows.HasUser, alike.users_rows]
    have first := @storeVote_cases _ left table
      ⟨choice.ballotId, voterId, candidateId, choice.ballotClock⟩ one admissible
    have second := @storeVote_cases _ right table'
      ⟨other.ballotId, voterId, candidateId, other.ballotClock⟩ two admissible'
    dsimp only at first second
    rw [← voters, users] at second
    rcases first with ⟨voted, first⟩ | ⟨free, first⟩
    · rcases second with ⟨_, second⟩ | ⟨free, _⟩
      · rw [first, second]
        exact .error _
      · exact absurd voted free
    rcases second with ⟨voted, _⟩ | ⟨_, second⟩
    · exact absurd voted free
    rcases first with ⟨unknown, first⟩ | ⟨voter, first⟩
    · rcases second with ⟨_, second⟩ | ⟨voter, _⟩
      · rw [first, second]
        exact .error _
      · exact absurd voter unknown
    rcases second with ⟨unknown, _⟩ | ⟨_, second⟩
    · exact absurd voter unknown
    rcases first with ⟨unknown, first⟩ | ⟨candidate, next, later, inserted, first, kept⟩
    · rcases second with ⟨_, second⟩ | ⟨candidate, _⟩
      · rw [first, second]
        exact .error _
      · exact absurd candidate unknown
    rcases second with ⟨unknown, _⟩ | ⟨_, next', later', inserted', second, kept'⟩
    · exact absurd candidate unknown
    obtain ⟨created, users, profiles, grown, posts⟩ := kept
    obtain ⟨created', users', profiles', grown', posts'⟩ := kept'
    rw [first, second]
    refine .ok ⟨?_, ?_, ?_, ?_, ?_⟩
    · rw [created, created', alike.created]
    · rw [users, users', alike.users]
    · rw [profiles, profiles', alike.profiles]
    · rw [posts, posts', alike.forumPosts]
    · have veiled := alike.votes
      rw [one, two] at veiled
      rw [grown, grown']
      exact veils.insert veiled matching inserted inserted'

/-- The insertion of a vote has one answer on both databases, and leaves them alike. -/
theorem Alike.insertVote (alike : left.Alike votes right) (veils : Veils votes choices)
    {choice other : Choice} (matching : choices choice other) {voterId candidateId : Nat}
    {next next' : Database} {answer answer' : Except SqlException Unit}
    (served : OnlineVoting.execute choice left (.insertVote voterId candidateId) =
      some (next, answer))
    (served' : OnlineVoting.execute other right (.insertVote voterId candidateId) =
      some (next', answer')) : next.Alike votes next' ∧ answer = answer' := by
  obtain ⟨_, stored, _⟩ := Option.map_eq_some_iff.mp served
  obtain ⟨_, stored', _⟩ := Option.map_eq_some_iff.mp served'
  have outcomes := alike.storeVote veils matching stored stored'
  exact (alike.insertion outcomes).agree served served'

end Database

end OnlineVoting
