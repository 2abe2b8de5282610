import OnlineVoting.Casting
import OnlineVoting.Replies
import OnlineVoting.Startup

/-!
# What a healthy server refuses

Once the startup is complete, a server without failures of its own refuses a statement for two
reasons only: a text that its column cannot hold, and a username, an applicant or a voter that is
there already. No foreign key, no missing table and no unknown role is ever the reason, whatever the
sessions do in whatever order.
-/
namespace OnlineVoting

open Interleaving Relational

/-! ## Insertions change the tables -/

namespace Rows

theorem addUser_ne (rows : Rows) (user : User) : rows.addUser user ≠ rows := by
  intro same
  have lengths := congrArg (fun rows => rows.users.length) same
  simp [addUser] at lengths

theorem addProfile_ne (rows : Rows) (table : ProfileTable) (profile : Profile table.Entries) :
    rows.addProfile table profile ≠ rows := by
  intro same
  have lengths := congrArg (fun rows => (rows.profiles table).length) same
  simp [addProfile] at lengths

theorem addVote_ne (rows : Rows) (vote : Vote) : rows.addVote vote ≠ rows := by
  intro same
  have lengths := congrArg (fun rows => rows.votes.length) same
  simp [addVote] at lengths

theorem addForumPost_ne (rows : Rows) (post : ForumPost) : rows.addForumPost post ≠ rows := by
  intro same
  have lengths := congrArg (fun rows => rows.forumPosts.length) same
  simp [addForumPost] at lengths

end Rows

section

variable [Platform]

/-! ## Reasons -/

/-- The text columns that a statement fills. -/
def Stmt.columns : Stmt → List (TextType × ColumnName × String)
  | .insertUser username passwordHash name _ => userColumns username passwordHash name
  | .insertProfile table _ entries => entryColumns table entries
  | .insertForumPost _ content => [(.text, ⟨"forum_posts", "content"⟩, content)]
  | _ => []

/-- The texts of a statement fit their columns. -/
def Storable (stmt : Stmt) : Prop := checkColumns stmt.columns = .ok ()

instance (stmt : Stmt) : Decidable (Storable stmt) :=
  match checked : checkColumns stmt.columns with
  | .ok () => .isTrue checked
  | .error _ => .isFalse (by simp [Storable, checked])

/-- The key of a statement is taken, with the exception that says so. -/
inductive Taken (rows : Rows) : Stmt → SqlException → Prop where
  /-- A user has the username. -/
  | username {username passwordHash name role : String} (user : User) (stored : user ∈ rows.users)
    (same : collates user.username username = true) :
    Taken rows (.insertUser username passwordHash name role) (duplicateEntry username "username")
  /-- The user has applied. -/
  | applicant {table : ProfileTable} {userId : Nat} {entries : table.Entries}
    (profile : Profile table.Entries) (stored : profile ∈ rows.profiles table)
    (same : profile.userId = userId) :
    Taken rows (.insertProfile table userId entries) (duplicateEntry (toString userId) "user_id")
  /-- The user has voted. -/
  | voter {voterId candidateId : Nat} (vote : Vote) (stored : vote ∈ rows.votes)
    (same : vote.voterId = voterId) :
    Taken rows (.insertVote voterId candidateId) (duplicateEntry (toString voterId) "voter_id")

/-- Why a healthy server refuses a statement. -/
inductive Refusal (rows : Rows) (stmt : Stmt) (exception : SqlException) : Prop where
  /-- A column cannot hold its text. -/
  | text (unstorable : checkColumns stmt.columns = .error exception)
  /-- The key is taken. -/
  | key (storable : Storable stmt) (taken : Taken rows stmt exception)

/-! ## The outcome of an insertion -/

namespace Database

/-- A user is stored, or refused for a username that is taken. -/
theorem storeUser_outcome {database : Database} {user : User}
    {outcome : Except SqlException Database} (has : database.has .users = true)
    (stored : database.storeUser user = some outcome) :
    (∃ next, outcome = .ok next) ∧
        (¬ ∃ old ∈ database.rows.users, collates old.username user.username = true) ∨
      outcome = .error (duplicateEntry user.username "username") ∧
        ∃ old ∈ database.rows.users, collates old.username user.username = true := by
  unfold storeUser at stored
  split at stored
  · rename_i missing
    simp [Database.has, missing] at has
  · rename_i users present
    have rows : database.rows.users = users.rows := by simp [Database.rows, present]
    rw [rows]
    split at stored
    · rename_i admissible
      split at stored
      · rename_i clash
        obtain rfl := Option.some.inj stored
        obtain ⟨old, known, same⟩ := (Table.insert_eq_none users user).mp clash
        refine .inr ⟨rfl, old, known, same.resolve_left fun id => ?_⟩
        exact admissible.2.2 (List.mem_map.mpr ⟨old, known, id⟩)
      · rename_i next inserted
        obtain rfl := Option.some.inj stored
        refine .inl ⟨⟨_, rfl⟩, ?_⟩
        rintro ⟨old, known, same⟩
        have clash := (Table.insert_eq_none users user).mpr ⟨old, known, .inr same⟩
        rw [clash] at inserted
        contradiction
    · contradiction

/-- An application is stored, or refused for a user who has applied. -/
theorem storeProfile_outcome {database : Database} {table : ProfileTable}
    {profile : Profile table.Entries} {outcome : Except SqlException Database}
    (has : database.has table.name = true) (known : database.rows.HasUser profile.userId)
    (stored : database.storeProfile table profile = some outcome) :
    (∃ next, outcome = .ok next) ∧
        (¬ ∃ old ∈ database.rows.profiles table, old.userId = profile.userId) ∨
      outcome = .error (duplicateEntry (toString profile.userId) "user_id") ∧
        ∃ old ∈ database.rows.profiles table, old.userId = profile.userId := by
  unfold storeProfile at stored
  split at stored
  · rename_i missing
    cases table <;> simp [Database.has, ProfileTable.name, missing] at has
  · rename_i profiles present
    have rows : database.rows.profiles table = profiles.rows := by simp [Database.rows, present]
    rw [rows]
    split at stored
    · rename_i admissible
      split at stored
      · rename_i clash
        obtain rfl := Option.some.inj stored
        obtain ⟨old, found, same⟩ := (Table.insert_eq_none profiles profile).mp clash
        refine .inr ⟨rfl, old, found, same.resolve_left fun id => ?_⟩
        exact admissible.2.2 (List.mem_map.mpr ⟨old, found, id⟩)
      · rename_i next inserted
        obtain rfl := Option.some.inj stored
        refine .inl ⟨⟨_, rfl⟩, ?_⟩
        rintro ⟨old, found, same⟩
        have clash := (Table.insert_eq_none profiles profile).mpr ⟨old, found, .inr same⟩
        rw [clash] at inserted
        contradiction
    · contradiction

/-- A vote is stored, or refused for a user who has voted. -/
theorem storeVote_outcome {database : Database} {vote : Vote}
    {outcome : Except SqlException Database} (has : database.has .votes = true)
    (voter : database.rows.HasUser vote.voterId)
    (candidate : database.rows.HasUser vote.candidateId)
    (stored : database.storeVote vote = some outcome) :
    (∃ next, outcome = .ok next) ∧ (¬ ∃ old ∈ database.rows.votes, old.voterId = vote.voterId) ∨
      outcome = .error (duplicateEntry (toString vote.voterId) "voter_id") ∧
        ∃ old ∈ database.rows.votes, old.voterId = vote.voterId := by
  unfold storeVote at stored
  split at stored
  · rename_i missing
    simp [Database.has, missing] at has
  · rename_i votes present
    have rows : database.rows.votes = votes.rows := by simp [Database.rows, present]
    rw [rows]
    split at stored
    · rename_i admissible
      split at stored
      · rename_i clash
        obtain rfl := Option.some.inj stored
        obtain ⟨old, found, same⟩ := (Table.insert_eq_none votes vote).mp clash
        refine .inr ⟨rfl, old, found, same.resolve_left fun id => ?_⟩
        exact admissible.2.2 (List.mem_map.mpr ⟨old, found, id⟩)
      · rename_i next inserted
        obtain rfl := Option.some.inj stored
        refine .inl ⟨⟨_, rfl⟩, ?_⟩
        rintro ⟨old, found, same⟩
        have clash := (Table.insert_eq_none votes vote).mpr ⟨old, found, .inr same⟩
        rw [clash] at inserted
        contradiction
    · contradiction

/-- A post is stored. -/
theorem storeForumPost_outcome {database : Database} {post : ForumPost}
    {outcome : Except SqlException Database} (has : database.has .forumPosts = true)
    (known : database.rows.HasUser post.userId)
    (stored : database.storeForumPost post = some outcome) : ∃ next, outcome = .ok next := by
  unfold storeForumPost at stored
  split at stored
  · rename_i missing
    simp [Database.has, missing] at has
  · rename_i posts present
    split at stored
    · rename_i admissible
      split at stored
      · rename_i clash
        obtain ⟨old, found, same⟩ := (Table.insert_eq_none posts post).mp clash
        exact absurd (List.mem_map.mpr ⟨old, found, same⟩) admissible.2.2
      · obtain rfl := Option.some.inj stored
        exact ⟨_, rfl⟩
    · contradiction

end Database

/-- A statement is refused for one reason. -/
theorem Refusal.unique {rows : Rows} {stmt : Stmt} {left right : SqlException}
    (first : Refusal rows stmt left) (second : Refusal rows stmt right) : left = right := by
  cases first with
  | text unstorable =>
    cases second with
    | text again => exact Except.error.inj (unstorable.symm.trans again)
    | key storable _ =>
      have both := unstorable.symm.trans storable
      contradiction
  | key storable taken =>
    cases second with
    | text unstorable =>
      have both := unstorable.symm.trans storable
      contradiction
    | key _ again =>
      cases taken <;> cases again <;> rfl

/-- Only insertions are refused. -/
theorem Refusal.inserts {rows : Rows} {stmt : Stmt} {exception : SqlException}
    (refusal : Refusal rows stmt exception) :
    stmt.columns ≠ [] ∨ ∃ voterId candidateId, stmt = .insertVote voterId candidateId := by
  cases refusal with
  | text unstorable =>
    refine .inl fun none => ?_
    rw [none] at unstorable
    contradiction
  | key _ taken =>
    cases taken with
    | username _ _ _ => exact .inl (by simp [Stmt.columns, userColumns])
    | @applicant table _ _ _ _ _ =>
      cases table with
      | voterProfiles => exact .inl (by simp [Stmt.columns, entryColumns])
      | candidateProfiles => exact .inl (by simp [Stmt.columns, entryColumns])
    | voter _ _ _ => exact .inr ⟨_, _, rfl⟩

/-- What a healthy server does with a statement: it refuses it for its reason and changes nothing,
or it executes it. -/
inductive Verdict (database next : Database) (stmt : Stmt) (answer : Answer stmt) : Prop where
  /-- It executes it. -/
  | executed (result : Result stmt) (ok : answer = .ok result)
    (unrefused : ∀ exception, ¬ Refusal database.rows stmt exception)
  /-- It refuses it. -/
  | refused (exception : SqlException) (error : answer = .error exception)
    (refusal : Refusal database.rows stmt exception) (same : next = database)

/-- An insertion is refused exactly as its storing is. -/
theorem Verdict.insertion {database next : Database} {stmt : Stmt} {answer : Answer stmt}
    {outcome : Except SqlException Database} {exception : SqlException} {taken : Prop}
    (storable : Storable stmt) (only : ∀ other, Taken database.rows stmt other → taken)
    (reason : taken → Taken database.rows stmt exception)
    (decides : (∃ grown, outcome = .ok grown) ∧ ¬ taken ∨ outcome = .error exception ∧ taken)
    (ok : ∀ grown, outcome = .ok grown → ∃ result, answer = .ok result)
    (error : ∀ other, outcome = .error other → next = database ∧ answer = .error other) :
    Verdict database next stmt answer := by
  rcases decides with ⟨⟨grown, stored⟩, free⟩ | ⟨refused, clash⟩
  · obtain ⟨result, executed⟩ := ok grown stored
    refine .executed result executed fun other refusal => ?_
    cases refusal with
    | text unstorable =>
      have both := unstorable.symm.trans storable
      contradiction
    | key _ found => exact free (only other found)
  · obtain ⟨same, answered⟩ := error exception refused
    exact .refused exception answered (.key storable (reason clash)) same

/-! ## Statements of a session -/

/-- The users that a statement refers to are stored. -/
def Refers (rows : Rows) : Stmt → Prop
  | .insertProfile _ userId _ => rows.HasUser userId
  | .insertVote voterId candidateId => rows.HasUser voterId ∧ rows.HasUser candidateId
  | .insertForumPost userId _ => rows.HasUser userId
  | _ => True

/-- The user that a statement registers gets a role. -/
def NamesRole : Stmt → Prop
  | .insertUser _ _ _ role => ∃ parsed, Role.ofLabel role = some parsed
  | _ => True

/-- A permitted statement refers to stored users only. -/
theorem refers_of_permit {loop : Loop} {process : Nat} {world : World app} {stmt : Stmt}
    (ready : Ready loop world.store) (permit : Permit loop process world stmt) :
    Refers world.store.rows stmt := by
  have session {id : Nat} {role : Role} (own : loop.session = some (id, role)) :
      world.store.rows.HasUser id := by
    obtain ⟨user, stored, same, _⟩ := ready.account id role own
    exact ⟨user, stored, same⟩
  cases stmt with
  | insertProfile table userId entries => exact session permit.1
  | insertVote voterId candidateId =>
    obtain ⟨own, _, profile, stored, owner, _⟩ := permit
    have candidate := world.store.refers.applicant .candidateProfiles profile stored
    rw [owner] at candidate
    exact ⟨session own, candidate⟩
  | insertForumPost userId content => exact permit.1.elim session session
  | _ => trivial

omit [Platform] in
/-- The roles that `register` lets through are those of the column. -/
theorem role_of_isRole {role : String} (named : isRole role = true) :
    ∃ parsed, Role.ofLabel role = some parsed := by
  have one : role = "VOTER" ∨ role = "CANDIDATE" ∨ role = "FIELD_OFFICER" ∨ role = "ADMIN" := by
    simpa [isRole] using named
  rcases one with rfl | rfl | rfl | rfl
  · exact ⟨.voter, by decide⟩
  · exact ⟨.candidate, by decide⟩
  · exact ⟨.fieldOfficer, by decide⟩
  · exact ⟨.admin, by decide⟩

/-- The menu of `main` registers users in a role only. -/
def roleCourse {α : Type} : Dialogue.Course console α where
  asks _ _ stmt _ := NamesRole stmt

theorem register_role (typed : List String) : register.Follows roleCourse typed := by
  rw [register_eq]
  refine .read fun _ => .read fun _ => .read fun _ => .read fun role => ?_
  split
  · rename_i named
    refine .ask (role_of_isRole named) fun answer => ?_
    split
    · exact .done trivial
    · split <;> exact .done trivial
  · exact .done trivial

theorem mainMenu_role : mainMenu.Follows roleCourse [] := by
  rw [mainMenu_eq, login_eq]
  refine .read fun line => ?_
  split
  · refine .read fun username => .read fun password => .ask trivial fun answer => ?_
    split
    · split <;> exact .done trivial
    · exact .done trivial
    · exact .done trivial
  · exact Dialogue.Follows.bind_done (register_role _) (fun _ _ _ _ asks => asks)
      fun _ _ _ _ => trivial
  · exact .done trivial
  · exact .done trivial

/-- A process that waits for the answer to a registration registers a user in a role. -/
theorem namesRole_of_reachable {system : System app} (reachable : system.Reachable) {process : Nat}
    {loop : Loop} {printed : List Output} {stmt : Stmt}
    {next : Answer stmt → Dialogue console (Option Loop)}
    (waits : system.process process = some ⟨loop, .ask printed stmt next⟩) : NamesRole stmt := by
  let course : Loop → Dialogue.Course console (Option Loop)
    | .mainMenu => roleCourse
    | _ => .any
  have bodies (loop : Loop) : loop.body.Follows (course loop) [] := by
    cases loop with
    | mainMenu => exact mainMenu_role
    | boot | adminMenu _ | officerMenu _ | voterMenu _ _ | candidateMenu _ _ => exact .any _ _
  have permit := (good_of_reachable reachable).permit rules_sound waits
  cases stmt with
  | insertUser username passwordHash name role =>
    obtain ⟨rfl, _⟩ := permit
    have follows : (Dialogue.ask printed (Stmt.insertUser username passwordHash name role) next).Follows
        (course .mainMenu) (linesOf process (roundOf process system.log)) :=
      reachable.follows bodies waits
    exact follows.asks
  | _ => trivial

/-! ## The verdict of the server -/

/-- The answer to an insertion is the outcome of its storing. -/
theorem insertion_outcome {database next : Database}
    {stored : Option (Except SqlException Database)} {answer : Except SqlException Unit}
    (inserted : database.insertion stored = some (next, answer)) :
    ∃ outcome, stored = some outcome ∧
      (∀ grown, outcome = .ok grown → ∃ result, answer = .ok result) ∧
      ∀ exception, outcome = .error exception → next = database ∧ answer = .error exception := by
  obtain ⟨outcome, same, answered⟩ := Option.map_eq_some_iff.mp inserted
  refine ⟨outcome, same, ?_, ?_⟩
  · rintro grown rfl
    exact ⟨(), (Prod.mk.inj answered).2.symm⟩
  · rintro exception rfl
    obtain ⟨kept, error⟩ := Prod.mk.inj answered
    exact ⟨kept.symm, error.symm⟩

/-- A query is executed. -/
theorem Verdict.query {database next : Database} {stmt : Stmt} {answer : Answer stmt}
    {choice : Choice} (complete : database.Complete) (healthy : choice.fault = none)
    (columns : stmt.columns = []) (other : ∀ voterId candidateId, stmt ≠ .insertVote voterId candidateId)
    {tables : List TableName} {result : Result stmt}
    (queries : execute choice database stmt = database.query tables result)
    (served : serve stmt choice database = some (next, answer)) :
    Verdict database next stmt answer := by
  have answered := (serve_query complete healthy queries).symm.trans served
  obtain ⟨_, same⟩ := Prod.mk.inj (Option.some.inj answered)
  refine .executed result same.symm fun exception refusal => ?_
  rcases refusal.inserts with some | ⟨voterId, candidateId, vote⟩
  · exact some columns
  · exact other voterId candidateId vote

/-- A text that its column cannot hold is refused before anything else is looked at. -/
theorem Verdict.text {database next : Database} {stmt : Stmt} {answer : Answer stmt}
    {exception : SqlException} (unstorable : checkColumns stmt.columns = .error exception)
    (executed : some (database, Except.error exception) = some (next, answer)) :
    Verdict database next stmt answer := by
  obtain ⟨same, error⟩ := Prod.mk.inj (Option.some.inj executed)
  exact .refused exception error.symm (.text unstorable) same.symm

/-- A registration gets its verdict. -/
theorem Verdict.user {database next : Database} {username passwordHash name role : String}
    {answer : Answer (.insertUser username passwordHash name role)} {choice : Choice}
    (complete : database.Complete) (named : NamesRole (.insertUser username passwordHash name role))
    (executed : execute choice database (.insertUser username passwordHash name role) =
      some (next, answer)) :
    Verdict database next (.insertUser username passwordHash name role) answer := by
  obtain ⟨parsed, found⟩ := named
  simp only [execute, found] at executed
  split at executed
  · rename_i storable again
    obtain rfl := Option.some.inj again
    obtain ⟨outcome, stored, ok, error⟩ := insertion_outcome executed
    have decides := Database.storeUser_outcome (complete.has .users) stored
    refine .insertion storable ?_ ?_ decides ok error
    · rintro _ (⟨old, known, same⟩)
      exact ⟨old, known, same⟩
    · rintro ⟨old, known, same⟩
      exact .username old known same
  · rename_i none
    contradiction
  · rename_i unstorable
    exact .text unstorable executed

/-- An application gets its verdict. -/
theorem Verdict.profile {database next : Database} {table : ProfileTable} {userId : Nat}
    {entries : table.Entries} {answer : Answer (.insertProfile table userId entries)}
    {choice : Choice} (complete : database.Complete) (known : database.rows.HasUser userId)
    (executed : execute choice database (.insertProfile table userId entries) =
      some (next, answer)) :
    Verdict database next (.insertProfile table userId entries) answer := by
  simp only [execute] at executed
  split at executed
  · rename_i storable
    obtain ⟨outcome, stored, ok, error⟩ := insertion_outcome executed
    have decides := Database.storeProfile_outcome (complete.has _) known stored
    refine .insertion storable ?_ ?_ decides ok error
    · intro exception taken
      cases taken with
      | applicant old found same => exact ⟨old, found, same⟩
    · rintro ⟨old, found, same⟩
      exact .applicant old found same
  · rename_i unstorable
    exact .text unstorable executed

/-- A vote gets its verdict. -/
theorem Verdict.vote {database next : Database} {voterId candidateId : Nat}
    {answer : Answer (.insertVote voterId candidateId)} {choice : Choice}
    (complete : database.Complete) (voter : database.rows.HasUser voterId)
    (candidate : database.rows.HasUser candidateId)
    (executed : execute choice database (.insertVote voterId candidateId) = some (next, answer)) :
    Verdict database next (.insertVote voterId candidateId) answer := by
  obtain ⟨outcome, stored, ok, error⟩ := insertion_outcome executed
  have decides := Database.storeVote_outcome (complete.has .votes) voter candidate stored
  refine .insertion rfl ?_ ?_ decides ok error
  · intro exception taken
    cases taken with
    | voter old found same => exact ⟨old, found, same⟩
  · rintro ⟨old, found, same⟩
    exact .voter old found same

/-- A post gets its verdict. -/
theorem Verdict.post {database next : Database} {userId : Nat} {content : String}
    {answer : Answer (.insertForumPost userId content)} {choice : Choice}
    (complete : database.Complete) (known : database.rows.HasUser userId)
    (executed : execute choice database (.insertForumPost userId content) = some (next, answer)) :
    Verdict database next (.insertForumPost userId content) answer := by
  have columns : checkColumns (Stmt.columns (.insertForumPost userId content)) =
      TextType.text.check ⟨"forum_posts", "content"⟩ content := by
    simp only [Stmt.columns, checkColumns, List.forM_eq_forM, List.forM_cons, List.forM_nil]
    cases TextType.text.check ⟨"forum_posts", "content"⟩ content <;> rfl
  simp only [execute] at executed
  split at executed
  · rename_i storable
    obtain ⟨outcome, stored, ok, _⟩ := insertion_outcome executed
    obtain ⟨grown, rfl⟩ := Database.storeForumPost_outcome (complete.has .forumPosts) known stored
    obtain ⟨result, posted⟩ := ok grown rfl
    refine .executed result posted fun exception refusal => ?_
    cases refusal with
    | text unstorable =>
      rw [columns, storable] at unstorable
      contradiction
    | key _ taken => cases taken
  · rename_i unstorable
    rw [← columns] at unstorable
    exact .text unstorable executed

/-- Every statement of a session gets its verdict. -/
theorem serve_verdict {database next : Database} {stmt : Stmt} {answer : Answer stmt}
    {choice : Choice} (complete : database.Complete) (session : stmt ∉ startupStatements)
    (seeds : ∀ passwordHash, stmt ≠ .seedAdmin passwordHash) (refers : Refers database.rows stmt)
    (named : NamesRole stmt) (healthy : choice.fault = none)
    (served : serve stmt choice database = some (next, answer)) :
    Verdict database next stmt answer := by
  have executed : execute choice database stmt = some (next, answer) := by
    simpa only [serve, healthy] using served
  have query {tables : List TableName} {result : Result stmt} (columns : stmt.columns = [])
      (other : ∀ voterId candidateId, stmt ≠ .insertVote voterId candidateId)
      (queries : execute choice database stmt = database.query tables result) :
      Verdict database next stmt answer :=
    .query complete healthy columns other queries served
  cases stmt with
  | connectBoot | createDatabase | connect =>
    exact absurd (by simp [startupStatements, connectStatements]) session
  | createTable table =>
    refine absurd ?_ session
    cases table <;> simp [startupStatements, connectStatements, setupStatements]
  | seedAdmin passwordHash => exact absurd rfl (seeds passwordHash)
  | insertUser _ _ _ _ => exact .user complete named executed
  | insertProfile _ _ _ => exact .profile complete refers executed
  | insertVote _ _ => exact .vote complete refers.1 refers.2 executed
  | insertForumPost _ _ => exact .post complete refers executed
  | prepare => exact @query [] () rfl (by simp) rfl
  | updateStatus table status id =>
    simp only [execute, complete.has, if_true, Option.some.injEq, Prod.mk.injEq] at executed
    refine .executed _ executed.2.symm fun exception refusal => ?_
    rcases refusal.inserts with some | ⟨_, _, vote⟩
    · exact some rfl
    · contradiction
  | selectLogin _ _ | existsProfile _ _ | selectProfile _ _ | selectPending _ | selectApproved
  | selectVoterStatus _ | existsVote _ | selectCandidate _ | selectResults | selectForum =>
    exact query rfl (by simp) rfl

/-- A startup statement has no reason to be refused. -/
theorem unrefused_startup {rows : Rows} {stmt : Stmt} (own : stmt ∈ startupStatements)
    (exception : SqlException) : ¬ Refusal rows stmt exception := by
  intro refusal
  simp only [startupStatements, connectStatements, setupStatements, List.cons_append,
    List.nil_append, List.mem_cons, List.not_mem_nil, or_false] at own
  rcases refusal.inserts with columns | ⟨_, _, vote⟩
  · rcases own with rfl | rfl | rfl | rfl | rfl | rfl | rfl | rfl | rfl <;> exact columns rfl
  · rcases own with rfl | rfl | rfl | rfl | rfl | rfl | rfl | rfl | rfl <;> contradiction

/-- Every statement that a process waits for gets its verdict from a healthy server. -/
theorem verdict_of_reachable {system : System app} (reachable : system.Reachable) {process : Nat}
    {loop : Loop} {printed : List Output} {stmt : Stmt}
    {more : Answer stmt → Dialogue console (Option Loop)}
    (waits : system.process process = some ⟨loop, .ask printed stmt more⟩) {choice : Choice}
    (healthy : choice.fault = none) {next : Database} {answer : Answer stmt}
    (served : serve stmt choice system.store = some (next, answer)) :
    Verdict system.store next stmt answer := by
  have good := good_of_reachable reachable
  have permit := good.permit rules_sound waits
  by_cases startup : stmt ∈ startupStatements
  · obtain ⟨result, ok⟩ := startup_ok permit startup healthy served
    exact .executed result ok (unrefused_startup startup)
  · have complete := complete_of_waits reachable waits startup
    refine serve_verdict complete startup ?_ (refers_of_permit (good.ready _ _ _ waits) permit)
      (namesRole_of_reachable reachable waits) healthy served
    rintro passwordHash rfl
    obtain ⟨_, rfl, _⟩ := permit
    exact startup (by simp [startupStatements, setupStatements])

/-- Whatever the sessions did before, a server without a failure of its own refuses the statement
of a process exactly for its reasons: a text that its column cannot hold, or a username, an
applicant or a voter that is there already. A refused statement changes nothing. -/
theorem refused_iff {system next : System app} (reachable : system.Reachable) {process : Nat}
    {stmt : Stmt} (requests : system.requested process = some stmt) {choice : Choice}
    (healthy : choice.fault = none) (stepped : system.step (.serve process choice) = some next) :
    ∃ entry answer, next.log = entry :: system.log ∧ entry.process = process ∧
      entry.action = .served stmt choice answer ∧
      (∀ exception, answer = .error exception ↔ Refusal system.store.rows stmt exception) ∧
      ((∃ exception, Refusal system.store.rows stmt exception) → next.store = system.store) := by
  obtain ⟨loop, printed, more, waits⟩ := System.waits_of_requested requests
  have moved := stepped
  simp only [System.step, waits] at moved
  obtain ⟨⟨store, answer⟩, served, rfl⟩ := Option.map_eq_some_iff.mp moved
  refine ⟨_, answer, rfl, rfl, rfl, ?_⟩
  cases verdict_of_reachable reachable waits healthy served with
  | executed result ok unrefused =>
    constructor
    · intro exception
      rw [ok]
      exact ⟨fun error => by contradiction, fun refusal => absurd refusal (unrefused exception)⟩
    · rintro ⟨exception, refusal⟩
      exact absurd refusal (unrefused exception)
  | refused exception error refusal same =>
    constructor
    · intro other
      rw [error]
      constructor
      · intro equal
        rw [← Except.error.inj equal]
        exact refusal
      · intro again
        rw [refusal.unique again]
    · intro _
      exact same

/-! ## What a registration is told -/

omit [Platform] in
/-- A text contains what its first part starts with. -/
theorem contains_of_head {part head : String} (starts : part.toList <+: head.toList)
    (second third fourth fifth : String) :
    contains (head ++ second ++ third ++ fourth ++ fifth) part = true := by
  rw [contains, decide_eq_true_iff, String.toList_append, String.toList_append,
    String.toList_append, String.toList_append, List.append_assoc, List.append_assoc,
    List.append_assoc]
  exact (starts.trans (List.prefix_append _ _)).isInfix

/-- The exception of a taken key says so. -/
theorem contains_duplicateEntry (value key : String) :
    contains (duplicateEntry value key).message "Duplicate" = true := by
  have start : "Duplicate".toList <+: "Duplicate entry '".toList := by decide +kernel
  exact contains_of_head start (Platform.quoted 64 value) "' for key '" key "'"

/-- Columns are refused for one of them. -/
theorem column_of_checkColumns {columns : List (TextType × ColumnName × String)}
    {exception : SqlException} (refused : checkColumns columns = .error exception) :
    ∃ column ∈ columns, column.1.check column.2.1 column.2.2 = .error exception := by
  induction columns with
  | nil => contradiction
  | cons column columns ih =>
    cases checked : column.1.check column.2.1 column.2.2 with
    | error found =>
      have same : checkColumns (column :: columns) = .error found := by
        simp only [checkColumns, List.forM_eq_forM, List.forM_cons, checked]
        rfl
      refine ⟨column, List.mem_cons_self, ?_⟩
      rw [checked, ← refused, same]
    | ok done =>
      have rest : checkColumns (column :: columns) = checkColumns columns := by
        simp only [checkColumns, List.forM_eq_forM, List.forM_cons, checked]
        rfl
      obtain ⟨other, present, error⟩ := ih (rest ▸ refused)
      exact ⟨other, List.mem_cons_of_mem column present, error⟩

omit [Platform] in
/-- The exception of a text that is too long for a column of `users` does not speak of
duplicates. -/
theorem tooLong_unduplicated : ∀ column ∈ ["username", "password_hash", "name"],
    contains ("Data truncation: Data too long for column '" ++ column ++ "' at row 1")
      "Duplicate" = false := by
  decide +kernel

omit [Platform] in
/-- A text with another beginning is no report of an exception. -/
theorem dbError_ne {text : String} (head : text.toList.head? ≠ some '[') (message : String) :
    "[DB ERROR] " ++ message ≠ text := by
  rintro rfl
  refine head ?_
  rw [String.toList_append]
  rfl

/-- The exception of texts that are only too long does not speak of duplicates. -/
theorem unduplicated {username passwordHash name : String} {exception : SqlException}
    (encodes : ∀ column ∈ userColumns username passwordHash name, encodable column.2.2 = true)
    (refused : checkColumns (userColumns username passwordHash name) = .error exception) :
    contains exception.message "Duplicate" = false := by
  obtain ⟨column, present, error⟩ := column_of_checkColumns refused
  have message : exception =
      ⟨"Data truncation: Data too long for column '" ++ column.2.1.name ++ "' at row 1"⟩ := by
    rw [TextType.check, if_pos (encodes column present)] at error
    split at error
    · contradiction
    · exact (Except.error.inj error).symm
  rw [message]
  refine tooLong_unduplicated column.2.1.name ?_
  simp only [userColumns, List.mem_cons, List.not_mem_nil, or_false] at present
  rcases present with rfl | rfl | rfl <;> simp

/-- A registration that a healthy server answers is told the truth: that it is registered exactly
if it is stored, and, if all its texts are encodable, that the username is taken exactly if some
user has it. -/
theorem registration_told {system next : System app} (reachable : system.Reachable) {process : Nat}
    {username passwordHash name role : String}
    (requests : system.requested process = some (.insertUser username passwordHash name role))
    {choice : Choice} (healthy : choice.fault = none)
    (stepped : system.step (.serve process choice) = some next) :
    ∃ entry, next.log = entry :: system.log ∧ entry.process = process ∧
      (entry.printed = [.println "Registered successfully! You can now log in.\n"] ↔
        ∃ user, next.store.rows = system.store.rows.addUser user ∧ user.username = username) ∧
      ((∀ column ∈ userColumns username passwordHash name, encodable column.2.2 = true) →
        (entry.printed = [.println "Username already taken. Try another.\n"] ↔
          Storable (.insertUser username passwordHash name role) ∧
            ∃ user ∈ system.store.rows.users, collates user.username username = true)) := by
  obtain ⟨entry, loop, answer, logged, own, action, served, told⟩ :=
    reply_step reachable requests stepped
  obtain ⟨_, _, _, waits⟩ := System.waits_of_requested requests
  refine ⟨entry, logged, own, ?_⟩
  cases verdict_of_reachable reachable waits healthy served with
  | executed result ok unrefused =>
    obtain ⟨printed, _⟩ := told _ (by rw [ok]; rfl)
    have stored : ∃ user, next.store.rows = system.store.rows.addUser user ∧
        user.username = username := by
      obtain ⟨change, _⟩ := serve_written served
      generalize written : next.store.rows = rows at change
      cases change with
      | nothing quiet =>
        rw [ok] at quiet
        contradiction
      | user _ _ _ _ parsed _ => exact ⟨_, rfl, rfl⟩
    refine ⟨⟨fun _ => stored, fun _ => printed⟩, fun _ => ?_⟩
    rw [printed]
    constructor
    · intro same
      simp at same
    · rintro ⟨storable, user, known, same⟩
      exact absurd (.key storable (.username user known same)) (unrefused _)
  | refused exception error refusal same =>
    obtain ⟨printed, _⟩ := told _ (by rw [error]; rfl)
    constructor
    · constructor
      · intro registered
        rw [printed] at registered
        unfold registerError at registered
        split at registered
        · simp at registered
        · simp only [List.cons.injEq, Output.println.injEq, and_true] at registered
          exact absurd registered (dbError_ne (by decide) _)
      · rintro ⟨user, added, _⟩
        rw [same] at added
        exact absurd added.symm (Rows.addUser_ne _ user)
    · intro encodes
      rw [printed]
      cases refusal with
      | text unstorable =>
        have silent := unduplicated encodes unstorable
        simp only [registerError, silent]
        constructor
        · intro same
          simp only [Bool.false_eq_true, if_false, List.cons.injEq, Output.println.injEq,
            and_true] at same
          exact absurd same (dbError_ne (by decide) _)
        · rintro ⟨storable, _⟩
          have both := unstorable.symm.trans storable
          contradiction
      | key storable taken =>
        cases taken with
        | username user known same =>
          have speaks := contains_duplicateEntry username "username"
          rw [registerError, if_pos speaks]
          exact ⟨fun _ => ⟨storable, user, known, same⟩, fun _ => rfl⟩

end

/-! ## A race for a username -/

section

attribute [local instance] latin1

/-- Cara registers while someone else, in another process, is about to take her username. -/
def race : List (Event app) :=
  launching 0 1 ++ launching 1 9 ++ registering 0 2 "Cara" "cara" "secret" "candidate" ++
    typing 1 ["2", "Carl", "Cara", "pw", "voter"]

/-- The statement that comes second. -/
abbrev second : Stmt := .insertUser "Cara" (sha256 "pw") "Carl" "VOTER"

/-- The identifier that it is offered. -/
def offered : Choice := ⟨none, 3, 0, fun id => id, 0, 0⟩

set_option maxRecDepth 10000 in
/-- The second registration is to be served, and its username is taken. -/
theorem race_ran : ∃ system next, (System.initial app).run race = some system ∧
    system.requested 1 = some second ∧ system.step (.serve 1 offered) = some next ∧
    ∃ user ∈ system.store.rows.users, collates user.username "Cara" = true := by
  have result : ((System.initial app).run race).map (fun system =>
      (system.requested 1, (system.step (.serve 1 offered)).isSome,
        system.store.rows.users.any fun user => collates user.username "Cara")) =
          some (some second, true, true) := by
    decide +kernel
  obtain ⟨system, ran, seen⟩ := Option.map_eq_some_iff.mp result
  obtain ⟨requests, seen⟩ := Prod.mk.inj seen
  obtain ⟨serves, known⟩ := Prod.mk.inj seen
  obtain ⟨next, stepped⟩ := Option.isSome_iff_exists.mp serves
  obtain ⟨user, stored, same⟩ := List.any_eq_true.mp known
  exact ⟨system, next, ran, requests, stepped, user, stored, same⟩

/-- The second registration is refused, and changes nothing. -/
theorem refused_iff_race : ∃ system next entry answer, (System.initial app).run race = some system ∧
    system.step (.serve 1 offered) = some next ∧ next.log = entry :: system.log ∧
    entry.action = .served second offered answer ∧
    answer = .error (duplicateEntry "Cara" "username") ∧ next.store = system.store := by
  obtain ⟨system, next, ran, requests, stepped, user, stored, same⟩ := race_ran
  obtain ⟨entry, answer, logged, _, action, refused, kept⟩ :=
    refused_iff ⟨race, ran⟩ requests rfl stepped
  have storable : Storable second := by decide +kernel
  have refusal : Refusal system.store.rows second (duplicateEntry "Cara" "username") :=
    .key storable (.username user stored same)
  exact ⟨system, next, entry, answer, ran, stepped, logged, action, (refused _).mpr refusal,
    kept ⟨_, refusal⟩⟩

/-- It is told that the username is taken. -/
theorem registration_told_race : ∃ system next entry, (System.initial app).run race = some system ∧
    system.step (.serve 1 offered) = some next ∧ next.log = entry :: system.log ∧
    entry.printed = [.println "Username already taken. Try another.\n"] := by
  obtain ⟨system, next, ran, requests, stepped, user, stored, same⟩ := race_ran
  obtain ⟨entry, logged, _, _, told⟩ := registration_told ⟨race, ran⟩ requests rfl stepped
  have encodes : ∀ column ∈ userColumns "Cara" (sha256 "pw") "Carl",
      encodable column.2.2 = true := by
    decide +kernel
  have storable : Storable second := by decide +kernel
  exact ⟨system, next, entry, ran, stepped, logged, (told encodes).mpr ⟨storable, user, stored, same⟩⟩

end

end OnlineVoting
