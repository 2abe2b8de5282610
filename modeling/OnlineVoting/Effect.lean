import OnlineVoting.Statement

/-!
# What a statement can do to the tables

One theorem, `serve_written`, says what every statement writes: nothing unless it succeeds as a
write, and then one new row, or the status of one application. Everything later derives from
it: rows are never removed, entered columns never change, and an application that has been
decided is never pending again (`Evolves`).
-/
namespace OnlineVoting

open Relational

variable [Platform]

/-- A writing statement of a session took effect. -/
def succeeds : (stmt : Stmt) → Answer stmt → Bool
  | .insertUser _ _ _ _, .ok _ => true
  | .insertProfile _ _ _, .ok _ => true
  | .updateStatus _ _ _, .ok found => 0 < found
  | .insertVote _ _, .ok _ => true
  | .insertForumPost _ _, .ok _ => true
  | _, _ => false

/-- The rows before and after a statement that was answered so. -/
inductive Written (choice : Choice) (rows : Rows) : (stmt : Stmt) → Answer stmt → Rows → Prop where
  /-- No row changed. -/
  | nothing {stmt : Stmt} {answer : Answer stmt} (quiet : succeeds stmt answer = false) :
    Written choice rows stmt answer rows
  /-- The admin account was seeded. -/
  | seed (passwordHash : String) : Written choice rows (.seedAdmin passwordHash) (.ok 1)
      (rows.addUser (adminUser choice.id passwordHash))
  /-- A user was inserted. -/
  | user (username passwordHash name role : String) (parsed : Role)
    (named : Role.ofLabel role = some parsed) :
    Written choice rows (.insertUser username passwordHash name role) (.ok ())
      (rows.addUser ⟨choice.id, username, passwordHash, name, parsed⟩)
  /-- An application was inserted. -/
  | profile (table : ProfileTable) (userId : Nat) (entries : table.Entries) :
    Written choice rows (.insertProfile table userId entries) (.ok ())
      (rows.addProfile table ⟨choice.id, userId, entries, .pending⟩)
  /-- A stored application was decided. -/
  | status (table : ProfileTable) (status : Status) (id : Int) (found : Nat) (some : 0 < found)
    (stored : ∃ profile ∈ rows.profiles table, profile.id = id) :
    Written choice rows (.updateStatus table status id) (.ok found)
      (rows.decideProfile table id status)
  /-- A vote was inserted. -/
  | vote (voterId candidateId : Nat) : Written choice rows (.insertVote voterId candidateId)
      (.ok ()) (rows.addVote ⟨choice.ballotId, voterId, candidateId, choice.ballotClock⟩)
  /-- A post was inserted. -/
  | post (userId : Nat) (content : String) : Written choice rows (.insertForumPost userId content)
      (.ok ()) (rows.addForumPost ⟨choice.id, userId, content, choice.clock⟩)

namespace Database

/-- Tables are never dropped. -/
structure Grows (database later : Database) : Prop where
  /-- The database stays. -/
  created : database.created = true → later.created = true
  /-- Its tables stay. -/
  has : ∀ table, database.has table = true → later.has table = true

theorem Grows.refl (database : Database) : database.Grows database := ⟨id, fun _ => id⟩

theorem Grows.trans {first second third : Database} (before : first.Grows second)
    (after : second.Grows third) : first.Grows third :=
  ⟨fun h => after.created (before.created h), fun t h => after.has t (before.has t h)⟩

/-- A query changes nothing. -/
theorem query_store {α : Type} {database next : Database} {tables : List TableName} {result : α}
    {answer : Except SqlException α} (served : database.query tables result = some (next, answer)) :
    next = database := by
  simp only [query, Option.some.injEq, Prod.mk.injEq] at served
  exact served.1.symm

/-- A query that succeeds is answered with its result. -/
theorem query_ok {α : Type} {database next : Database} {tables : List TableName}
    {result found : α} (served : database.query tables result = some (next, .ok found)) :
    found = result := by
  simp only [query, Option.some.injEq, Prod.mk.injEq] at served
  obtain ⟨_, answered⟩ := served
  split at answered
  · contradiction
  · exact (Except.ok.inj answered).symm

/-- A created table keeps the rows of all tables. -/
theorem createTable_rows {database next : Database} {table : TableName}
    (made : database.createTable table = .ok next) :
    next.rows = database.rows ∧ database.Grows next ∧ next.has table = true := by
  unfold createTable at made
  split at made
  · contradiction
  · obtain rfl := Except.ok.inj made
    refine ⟨?_, ⟨id, fun other present => ?_⟩, ?_⟩
    · simp only [rows, apply_ite Table.rowsOf, Table.rowsOf_ensure, ite_self]
    · cases other <;> simp only [has] at present ⊢ <;> split <;> first | rfl | exact present
    · cases table <;> simp [has, ProfileTable.name]

/-- A table is created where the table it refers to exists. -/
theorem createTable_ok {database : Database} {table : TableName}
    (referenced : table = .users ∨ database.has .users = true) :
    ∃ next, database.createTable table = .ok next := by
  unfold createTable
  rw [if_neg]
  · exact ⟨_, rfl⟩
  · rintro ⟨_, other, missing⟩
    rcases referenced with rfl | present
    · exact other rfl
    · simp [present] at missing

/-- A stored user is the one new row. -/
theorem storeUser_rows {database next : Database} {user : User}
    (stored : database.storeUser user = some (.ok next)) :
    next.rows = database.rows.addUser user ∧ database.Grows next := by
  unfold storeUser at stored
  split at stored
  · simp at stored
  · rename_i users present
    split at stored
    · split at stored
      · simp at stored
      · rename_i table inserted
        simp only [Option.some.injEq, Except.ok.injEq] at stored
        subst stored
        refine ⟨?_, ⟨id, fun other held => ?_⟩⟩
        · simp [rows, Rows.addUser, present, Table.insert_rows inserted]
        · cases other <;> simp_all [has]
    · contradiction

/-- A user is refused only for a clash, or where there is no table. -/
theorem storeUser_error {database : Database} {user : User} {exception : SqlException}
    (refused : database.storeUser user = some (.error exception)) :
    database.has .users = false ∨ ∃ old ∈ database.rows.users, old.Clash user := by
  unfold storeUser at refused
  split at refused
  · rename_i missing
    exact .inl (by simp [has, missing])
  · rename_i users present
    split at refused
    · split at refused
      · rename_i clash
        refine .inr ?_
        simpa [rows, present] using (Table.insert_eq_none users user).mp clash
      · simp at refused
    · contradiction

/-- A stored application is the one new row. -/
theorem storeProfile_rows {database next : Database} {table : ProfileTable}
    {profile : Profile table.Entries}
    (stored : database.storeProfile table profile = some (.ok next)) :
    next.rows = database.rows.addProfile table profile ∧ database.Grows next := by
  unfold storeProfile at stored
  split at stored
  · simp at stored
  · rename_i profiles present
    split at stored
    · split at stored
      · simp at stored
      · rename_i grown inserted
        split at stored
        · simp only [Option.some.injEq, Except.ok.injEq] at stored
          subst stored
          refine ⟨?_, ⟨id, fun other held => ?_⟩⟩
          · simp only [rows, Rows.addProfile, Rows.mk.injEq, and_true, true_and]
            funext other
            by_cases same : other = table
            · subst same
              simp [present, Table.insert_rows inserted]
            · simp [same]
          · cases other <;> cases table <;> simp_all [has, Function.update]
        · simp at stored
    · contradiction

/-- A decision rewrites the applications with its identifier. -/
theorem decideProfile_rows (database : Database) (table : ProfileTable) (id : Int)
    (status : Status) :
    (database.decideProfile table id status).rows = database.rows.decideProfile table id status ∧
      database.Grows (database.decideProfile table id status) := by
  refine ⟨?_, ⟨fun created => created, fun other held => ?_⟩⟩
  · simp only [rows, decideProfile, Rows.decideProfile, Rows.mk.injEq, and_true, true_and]
    funext other
    by_cases same : other = table
    · subst same
      cases database.profiles other <;> simp
    · simp [same]
  · cases other <;> cases table <;> simp_all [has, decideProfile, Function.update]

omit [Platform] in
/-- A decision on an identifier that no application has changes nothing. -/
theorem decideProfile_absent {rows : Rows} {table : ProfileTable} {id : Int} {status : Status}
    (absent : ∀ profile ∈ rows.profiles table, (profile.id : Int) ≠ id) :
    rows.decideProfile table id status = rows := by
  have same : (rows.profiles table).map (Profile.decide id status) = rows.profiles table := by
    conv_rhs => rw [← List.map_id (rows.profiles table)]
    apply List.map_congr_left
    intro profile present
    simp [Profile.decide, absent profile present]
  rw [Rows.decideProfile, same, Function.update_eq_self]

/-- A stored vote is the one new row. -/
theorem storeVote_rows {database next : Database} {vote : Vote}
    (stored : database.storeVote vote = some (.ok next)) :
    next.rows = database.rows.addVote vote ∧ database.Grows next := by
  unfold storeVote at stored
  split at stored
  · simp at stored
  · rename_i votes present
    split at stored
    · split at stored
      · simp at stored
      · rename_i grown inserted
        split at stored
        · split at stored
          · simp only [Option.some.injEq, Except.ok.injEq] at stored
            subst stored
            refine ⟨?_, ⟨id, fun other held => ?_⟩⟩
            · simp [rows, Rows.addVote, present, Table.insert_rows inserted]
            · cases other <;> simp_all [has]
          · simp at stored
        · simp at stored
    · contradiction

/-- A stored post is the one new row. -/
theorem storeForumPost_rows {database next : Database} {post : ForumPost}
    (stored : database.storeForumPost post = some (.ok next)) :
    next.rows = database.rows.addForumPost post ∧ database.Grows next := by
  unfold storeForumPost at stored
  split at stored
  · simp at stored
  · rename_i posts present
    split at stored
    · split at stored
      · simp at stored
      · rename_i grown inserted
        split at stored
        · simp only [Option.some.injEq, Except.ok.injEq] at stored
          subst stored
          refine ⟨?_, ⟨id, fun other held => ?_⟩⟩
          · simp [rows, Rows.addForumPost, present, Table.insert_rows inserted]
          · cases other <;> simp_all [has]
        · simp at stored
    · contradiction

/-- An insertion that is answered changes the rows exactly when it succeeds. -/
theorem insertion_rows {database next : Database}
    {stored : Option (Except SqlException Database)} {answer : Except SqlException Unit}
    {added : Rows} (served : database.insertion stored = some (next, answer))
    (adds : ∀ grown, stored = some (.ok grown) → grown.rows = added ∧ database.Grows grown) :
    next.rows = (match answer with | .ok () => added | .error _ => database.rows) ∧
      database.Grows next := by
  obtain ⟨outcome, result, same⟩ := Option.map_eq_some_iff.mp served
  cases outcome with
  | ok grown =>
    simp only [Prod.mk.injEq] at same
    obtain ⟨rfl, rfl⟩ := same
    exact adds grown result
  | error exception =>
    simp only [Prod.mk.injEq] at same
    obtain ⟨rfl, rfl⟩ := same
    exact ⟨rfl, .refl _⟩

end Database

/-- A statement that succeeds did not fail for a reason of the server's own. -/
theorem serve_ok {stmt : Stmt} {choice : Choice} {database next : Database}
    {result : Result stmt} (served : serve stmt choice database = some (next, .ok result)) :
    execute choice database stmt = some (next, .ok result) := by
  unfold serve at served
  split at served
  · simp at served
  · exact served

/-- A statement that fails writes nothing. -/
theorem written_refused {stmt : Stmt} {choice : Choice} {database next : Database}
    {answer : Answer stmt} {exception : SqlException}
    (refused : some (database, (.error exception : Answer stmt)) = some (next, answer)) :
    Written choice database.rows stmt answer next.rows ∧ database.Grows next := by
  obtain ⟨rfl, rfl⟩ := Prod.mk.inj (Option.some.inj refused)
  have quiet : succeeds stmt (.error exception) = false := by cases stmt <;> rfl
  exact ⟨.nothing quiet, .refl _⟩

/-- Every statement writes one of the listed changes, and drops nothing. -/
theorem serve_written {stmt : Stmt} {choice : Choice} {database next : Database}
    {answer : Answer stmt} (served : serve stmt choice database = some (next, answer)) :
    Written choice database.rows stmt answer next.rows ∧ database.Grows next := by
  unfold serve at served
  split at served
  · exact written_refused served
  · cases stmt with
    | connectBoot | connect | prepare =>
      simp only [execute, Option.some.injEq, Prod.mk.injEq] at served
      obtain ⟨rfl, rfl⟩ := served
      exact ⟨.nothing rfl, .refl _⟩
    | createDatabase =>
      simp only [execute, Option.some.injEq, Prod.mk.injEq] at served
      obtain ⟨rfl, rfl⟩ := served
      exact ⟨.nothing rfl, fun _ => rfl, fun _ held => held⟩
    | createTable table =>
      simp only [execute, Option.some.injEq] at served
      split at served
      · rename_i made
        obtain ⟨rfl, rfl⟩ := Prod.mk.inj served
        obtain ⟨rows, grows, _⟩ := Database.createTable_rows made
        rw [rows]
        exact ⟨.nothing rfl, grows⟩
      · exact written_refused (congrArg some served)
    | seedAdmin passwordHash =>
      obtain ⟨outcome, result, same⟩ := Option.map_eq_some_iff.mp served
      cases outcome with
      | ok grown =>
        obtain ⟨rfl, rfl⟩ := Prod.mk.inj same
        obtain ⟨rows, grows⟩ := Database.storeUser_rows result
        rw [rows]
        exact ⟨.seed passwordHash, grows⟩
      | error exception =>
        obtain ⟨rfl, rfl⟩ := Prod.mk.inj same
        exact ⟨.nothing rfl, .refl _⟩
    | insertUser username passwordHash name role =>
      simp only [execute] at served
      split at served
      · rename_i parsed _ named
        obtain ⟨rows, grows⟩ := Database.insertion_rows served fun _ => Database.storeUser_rows
        rw [rows]
        cases answer with
        | ok _ => exact ⟨.user _ _ _ _ parsed named, grows⟩
        | error _ => exact ⟨.nothing rfl, grows⟩
      · exact written_refused served
      · exact written_refused served
    | insertProfile table userId entries =>
      simp only [execute] at served
      split at served
      · obtain ⟨rows, grows⟩ := Database.insertion_rows served fun _ => Database.storeProfile_rows
        rw [rows]
        cases answer with
        | ok _ => exact ⟨.profile _ _ _, grows⟩
        | error _ => exact ⟨.nothing rfl, grows⟩
      · exact written_refused served
    | updateStatus table status id =>
      simp only [execute] at served
      split at served
      · simp only [Option.some.injEq, Prod.mk.injEq] at served
        obtain ⟨rfl, rfl⟩ := served
        obtain ⟨rows, grows⟩ := Database.decideProfile_rows database table id status
        rw [rows]
        refine ⟨?_, grows⟩
        by_cases stored : ∃ profile ∈ database.rows.profiles table, (profile.id : Int) = id
        · refine .status table status id _ (List.countP_pos_iff.mpr ?_) stored
          simpa using stored
        · have absent : ∀ profile ∈ database.rows.profiles table, (profile.id : Int) ≠ id :=
            fun profile present same => stored ⟨profile, present, same⟩
          have none : ((database.rows.profiles table).countP fun profile => profile.id = id) = 0 :=
            List.countP_eq_zero.mpr fun profile present => by simpa using absent profile present
          rw [Database.decideProfile_absent absent]
          exact .nothing (by simp [succeeds, none])
      · exact written_refused served
    | insertVote voterId candidateId =>
      obtain ⟨rows, grows⟩ := Database.insertion_rows served fun _ => Database.storeVote_rows
      rw [rows]
      cases answer with
      | ok _ => exact ⟨.vote _ _, grows⟩
      | error _ => exact ⟨.nothing rfl, grows⟩
    | insertForumPost userId content =>
      simp only [execute] at served
      split at served
      · obtain ⟨rows, grows⟩ :=
          Database.insertion_rows served fun _ => Database.storeForumPost_rows
        rw [rows]
        cases answer with
        | ok _ => exact ⟨.post _ _, grows⟩
        | error _ => exact ⟨.nothing rfl, grows⟩
      · exact written_refused served
    | selectLogin | existsProfile | selectProfile | selectPending | selectApproved
    | selectVoterStatus | existsVote | selectCandidate | selectResults | selectForum =>
      obtain rfl := Database.query_store served
      exact ⟨.nothing (by cases answer <;> rfl), .refl _⟩

namespace Database

/-- A new user shares neither identifier nor username with a stored one. -/
theorem fresh_user {database : Database} {rows : Rows} {user : User}
    (added : database.rows = rows.addUser user) : ∀ old ∈ rows.users, ¬ old.Clash user :=
  Table.rowsOf_fresh (congrArg Rows.users added)

/-- A new application shares neither identifier nor applicant with a stored one. -/
theorem fresh_profile {database : Database} {rows : Rows} {table : ProfileTable}
    {profile : Profile table.Entries} (added : database.rows = rows.addProfile table profile) :
    ∀ old ∈ rows.profiles table, ¬ old.Clash profile := by
  have grown := congrFun (congrArg Rows.profiles added) table
  simp only [Rows.addProfile, Function.update_self] at grown
  exact Table.rowsOf_fresh grown

end Database

/-! ## How the database evolves -/

/-- The same application later on. -/
structure Profile.Continues {Entries : Type} (profile later : Profile Entries) : Prop where
  /-- The identifier stays. -/
  id : later.id = profile.id
  /-- The applicant stays. -/
  userId : later.userId = profile.userId
  /-- The entered columns stay. -/
  entries : later.entries = profile.entries
  /-- A decided application stays decided. -/
  decided : profile.status ≠ .pending → later.status ≠ .pending

/-- The same rows later on: all of them are there, and only a status may differ. -/
structure Rows.Evolves (rows later : Rows) : Prop where
  /-- Users never change. -/
  users : ∀ user ∈ rows.users, user ∈ later.users
  /-- Applications keep everything but their status. -/
  profiles : ∀ table, ∀ profile ∈ rows.profiles table,
    ∃ next ∈ later.profiles table, profile.Continues next
  /-- Votes never change. -/
  votes : ∀ vote ∈ rows.votes, vote ∈ later.votes
  /-- Posts never change. -/
  forumPosts : ∀ post ∈ rows.forumPosts, post ∈ later.forumPosts

/-- The same database later on. -/
structure Database.Evolves (database later : Database) : Prop extends
    database.Grows later, database.rows.Evolves later.rows

omit [Platform] in
theorem Profile.Continues.refl {Entries : Type} (profile : Profile Entries) :
    profile.Continues profile := ⟨rfl, rfl, rfl, fun decided => decided⟩

omit [Platform] in
theorem Profile.Continues.trans {Entries : Type} {first second third : Profile Entries}
    (before : first.Continues second) (after : second.Continues third) :
    first.Continues third :=
  ⟨after.id.trans before.id, after.userId.trans before.userId,
    after.entries.trans before.entries, fun decided => after.decided (before.decided decided)⟩

omit [Platform] in
theorem Rows.Evolves.refl (rows : Rows) : rows.Evolves rows :=
  ⟨fun _ h => h, fun _ profile h => ⟨profile, h, .refl profile⟩, fun _ h => h, fun _ h => h⟩

omit [Platform] in
theorem Rows.Evolves.trans {first second third : Rows} (before : first.Evolves second)
    (after : second.Evolves third) : first.Evolves third := by
  refine ⟨fun u h => after.users u (before.users u h), fun table profile h => ?_,
    fun v h => after.votes v (before.votes v h),
    fun p h => after.forumPosts p (before.forumPosts p h)⟩
  obtain ⟨middle, stored, first⟩ := before.profiles table profile h
  obtain ⟨last, found, second⟩ := after.profiles table middle stored
  exact ⟨last, found, first.trans second⟩

omit [Platform] in
/-- A new application leaves the others as they are. -/
theorem Rows.evolves_addProfile (rows : Rows) (table : ProfileTable)
    (profile : Profile table.Entries) : rows.Evolves (rows.addProfile table profile) := by
  refine ⟨fun _ h => h, fun other old stored => ⟨old, ?_, .refl old⟩, fun _ h => h, fun _ h => h⟩
  by_cases same : other = table
  · subst same
    simp [Rows.addProfile, stored]
  · simpa [Rows.addProfile, same] using stored

omit [Platform] in
/-- A decision other than `PENDING` keeps every decided application decided. -/
theorem Rows.evolves_decideProfile (rows : Rows) (table : ProfileTable) (id : Int)
    {status : Status} (decided : status ≠ .pending) :
    rows.Evolves (rows.decideProfile table id status) := by
  refine ⟨fun _ h => h, fun other old stored => ?_, fun _ h => h, fun _ h => h⟩
  by_cases same : other = table
  · subst same
    refine ⟨old.decide id status, ?_, Profile.decide_id .., Profile.decide_userId ..,
      Profile.decide_entries .., fun was => ?_⟩
    · simp only [Rows.decideProfile, Function.update_self]
      exact List.mem_map_of_mem stored
    · unfold Profile.decide
      split
      · exact decided
      · exact was
  · exact ⟨old, by simpa [Rows.decideProfile, same] using stored, .refl old⟩

omit [Platform] in
/-- Every listed change evolves the rows, unless a decision is made to `PENDING`. -/
theorem Written.evolves {choice : Choice} {rows later : Rows} {stmt : Stmt}
    {answer : Answer stmt} (change : Written choice rows stmt answer later)
    (decided : ∀ table status id, stmt = .updateStatus table status id → status ≠ .pending) :
    rows.Evolves later := by
  cases change with
  | nothing _ => exact .refl _
  | seed _ =>
    exact ⟨fun _ h => List.mem_append_left _ h, fun _ p h => ⟨p, h, .refl p⟩, fun _ h => h,
      fun _ h => h⟩
  | user _ _ _ _ _ _ =>
    exact ⟨fun _ h => List.mem_append_left _ h, fun _ p h => ⟨p, h, .refl p⟩, fun _ h => h,
      fun _ h => h⟩
  | profile table userId entries => exact rows.evolves_addProfile table _
  | status table status id found _ _ =>
    exact rows.evolves_decideProfile table id (decided table status id rfl)
  | vote _ _ =>
    exact ⟨fun _ h => h, fun _ p h => ⟨p, h, .refl p⟩, fun _ h => List.mem_append_left _ h,
      fun _ h => h⟩
  | post _ _ =>
    exact ⟨fun _ h => h, fun _ p h => ⟨p, h, .refl p⟩, fun _ h => h,
      fun _ h => List.mem_append_left _ h⟩

namespace Database

theorem Evolves.refl (database : Database) : database.Evolves database :=
  ⟨.refl database, .refl database.rows⟩

theorem Evolves.trans {first second third : Database} (before : first.Evolves second)
    (after : second.Evolves third) : first.Evolves third :=
  ⟨before.toGrows.trans after.toGrows, before.toEvolves.trans after.toEvolves⟩

end Database

end OnlineVoting
