import OnlineVoting.Secrecy
import OnlineVoting.Views

/-!
# Who learns an address

Two systems stand at the same rests over databases that differ in addresses of voter applications
alone. Whatever happens next, sessions of voters and candidates print the same in both, and so does
whoever is not logged in. When only addresses of decided applications differ, staff prints the same
as well.
-/
namespace OnlineVoting

open Interleaving Relational

/-! ## Applications without addresses -/

/-- The columns of an application without the address. -/
def ProfileTable.unaddressed : (table : ProfileTable) → table.Entries → table.Entries
  | .voterProfiles, entries => { entries with address := "" }
  | .candidateProfiles, entries => entries

/-- The address of a decided application is hidden, and that of a pending one if asked for. -/
def hides (pending : Bool) (status : Status) : Bool := pending || decide (status ≠ .pending)

/-- An application without its address, if that is hidden. -/
def discreet (pending : Bool) (table : ProfileTable) (profile : Profile table.Entries) :
    Profile table.Entries where
  id := profile.id
  userId := profile.userId
  entries := if hides pending profile.status then table.unaddressed profile.entries
    else profile.entries
  status := profile.status

@[simp] theorem discreet_id (pending : Bool) (table : ProfileTable)
    (profile : Profile table.Entries) : (discreet pending table profile).id = profile.id := rfl

@[simp] theorem discreet_userId (pending : Bool) (table : ProfileTable)
    (profile : Profile table.Entries) : (discreet pending table profile).userId = profile.userId :=
  rfl

@[simp] theorem discreet_status (pending : Bool) (table : ProfileTable)
    (profile : Profile table.Entries) : (discreet pending table profile).status = profile.status :=
  rfl

/-- Candidates enter no address. -/
@[simp] theorem discreet_candidate (pending : Bool) (profile : CandidateProfile) :
    discreet pending .candidateProfiles profile = profile := by
  cases profile
  simp [discreet, ProfileTable.unaddressed]

/-- An application whose address is not hidden is shown as it is. -/
theorem discreet_shown {pending : Bool} {table : ProfileTable} {profile : Profile table.Entries}
    (shown : hides pending profile.status = false) : discreet pending table profile = profile := by
  cases profile
  dsimp only at shown
  simp [discreet, shown]

/-- Hiding an address leaves the other columns. -/
theorem unaddressed_discreet (pending : Bool) (table : ProfileTable)
    (profile : Profile table.Entries) :
    table.unaddressed (discreet pending table profile).entries =
      table.unaddressed profile.entries := by
  cases table <;> cases hidden : hides pending profile.status <;>
    simp [discreet, hidden, ProfileTable.unaddressed]

/-- A decision hides the address, whatever it was. -/
theorem discreet_decide {pending : Bool} {table : ProfileTable} {left right : Profile table.Entries}
    (same : discreet pending table left = discreet pending table right) (id : Int) {status : Status}
    (decided : status ≠ .pending) : discreet pending table (left.decide id status) =
      discreet pending table (right.decide id status) := by
  have ids := congrArg Profile.id same
  have users := congrArg Profile.userId same
  simp only [discreet_id, discreet_userId] at ids users
  have entries : table.unaddressed left.entries = table.unaddressed right.entries := by
    rw [← unaddressed_discreet pending, same, unaddressed_discreet]
  by_cases own : left.id = id
  · have hidden : hides pending status = true := by simp [hides, decided]
    have own' : right.id = id := by rw [← ids, own]
    simp [discreet, Profile.decide, own', hidden, ids, users, entries]
  · have other : ¬ right.id = id := by rw [← ids]; exact own
    simp only [Profile.decide, if_neg own, if_neg other, same]

/-- What applications with the same discreet columns have in common, lists of them have. -/
theorem map_of_discreet {pending : Bool} {table : ProfileTable} {β : Type}
    {column : Profile table.Entries → β} (through : ∀ left right : Profile table.Entries,
      discreet pending table left = discreet pending table right → column left = column right)
    {left right : List (Profile table.Entries)}
    (same : left.map (discreet pending table) = right.map (discreet pending table)) :
    left.map column = right.map column := by
  have pointwise : List.Forall₂ (fun one other => discreet pending table one =
      discreet pending table other) left right := by
    rw [← List.forall₂_eq_eq_eq, List.forall₂_map_left_iff, List.forall₂_map_right_iff] at same
    exact same
  rw [← List.forall₂_eq_eq_eq, List.forall₂_map_left_iff, List.forall₂_map_right_iff]
  exact pointwise.imp through

/-! ## Databases that differ in addresses -/

section

variable [Platform]

namespace Database

/-- Two databases that differ in hidden addresses alone. -/
structure Discreet (pending : Bool) (left right : Database) : Prop where
  /-- Both are created, or neither is. -/
  created : left.created = right.created
  /-- The same users. -/
  users : left.users = right.users
  /-- The same applications, but for hidden addresses. -/
  profiles : ∀ table, (left.profiles table).map (fun stored => stored.rows.map (discreet pending table)) =
    (right.profiles table).map fun stored => stored.rows.map (discreet pending table)
  /-- The same votes. -/
  votes : left.votes = right.votes
  /-- The same posts. -/
  forumPosts : left.forumPosts = right.forumPosts

variable {pending : Bool} {left right : Database}

/-- The same tables exist. -/
theorem Discreet.has (alike : left.Discreet pending right) (table : TableName) :
    left.has table = right.has table := by
  have exist (table : ProfileTable) :
      (left.profiles table).isSome = (right.profiles table).isSome := by
    have same := congrArg Option.isSome (alike.profiles table)
    simpa using same
  cases table with
  | users => exact congrArg Option.isSome alike.users
  | voterProfiles => exact exist .voterProfiles
  | candidateProfiles => exact exist .candidateProfiles
  | votes => exact congrArg Option.isSome alike.votes
  | forumPosts => exact congrArg Option.isSome alike.forumPosts

/-- The same applications are stored, but for hidden addresses. -/
theorem Discreet.rows (alike : left.Discreet pending right) (table : ProfileTable) :
    (left.rows.profiles table).map (discreet pending table) =
      (right.rows.profiles table).map (discreet pending table) := by
  have rowsOf (profiles : Option (Table (Profile table.Entries) Profile.Clash)) :
      (Table.rowsOf profiles).map (discreet pending table) =
        (profiles.map fun stored => stored.rows.map (discreet pending table)).getD [] := by
    cases profiles <;> rfl
  exact (rowsOf _).trans ((congrArg (Option.getD · []) (alike.profiles table)).trans (rowsOf _).symm)

/-- A condition on other columns selects the same applications, but for hidden addresses. -/
theorem Discreet.filter (alike : left.Discreet pending right) {table : ProfileTable}
    (keep : Profile table.Entries → Bool)
    (blind : ∀ profile, keep (discreet pending table profile) = keep profile) :
    ((left.rows.profiles table).filter keep).map (discreet pending table) =
      ((right.rows.profiles table).filter keep).map (discreet pending table) := by
  have through (rows : List (Profile table.Entries)) :
      (rows.filter keep).map (discreet pending table) =
        (rows.map (discreet pending table)).filter keep := by
    rw [List.filter_map]
    exact congrArg (List.map _) (List.filter_congr fun profile _ => (blind profile).symm)
  rw [through, alike.rows table, ← through]

/-- The same candidacies are stored. -/
theorem Discreet.candidates (alike : left.Discreet pending right) :
    left.rows.candidates = right.rows.candidates := by
  have same := map_of_discreet (fun one other same => by
    simpa only [discreet_candidate] using same) (alike.rows .candidateProfiles)
  simpa only [List.map_id'] using same

/-- The same users are stored. -/
theorem Discreet.users_rows (alike : left.Discreet pending right) :
    left.rows.users = right.rows.users := congrArg Table.rowsOf alike.users

/-- The same votes are stored. -/
theorem Discreet.votes_rows (alike : left.Discreet pending right) :
    left.rows.votes = right.rows.votes := congrArg Table.rowsOf alike.votes

/-- The same posts are stored. -/
theorem Discreet.forumPosts_rows (alike : left.Discreet pending right) :
    left.rows.forumPosts = right.rows.forumPosts := congrArg Table.rowsOf alike.forumPosts

/-- Complete databases with the same rows but for hidden addresses differ in these alone. -/
theorem Complete.discreet (complete : left.Complete) (complete' : right.Complete)
    (users : left.rows.users = right.rows.users)
    (profiles : ∀ table, (left.rows.profiles table).map (OnlineVoting.discreet pending table) =
      (right.rows.profiles table).map (OnlineVoting.discreet pending table))
    (votes : left.rows.votes = right.rows.votes)
    (posts : left.rows.forumPosts = right.rows.forumPosts) : left.Discreet pending right := by
  have same {Row : Type} {Clash : Row → Row → Prop} {table other : Option (Table Row Clash)}
      (present : table.isSome = true) (present' : other.isSome = true)
      (rows : Table.rowsOf table = Table.rowsOf other) : table = other := by
    obtain ⟨table, rfl⟩ := Option.isSome_iff_exists.mp present
    obtain ⟨other, rfl⟩ := Option.isSome_iff_exists.mp present'
    exact congrArg some (Table.ext rows)
  refine ⟨complete.created.trans complete'.created.symm,
    same (complete.has .users) (complete'.has .users) users, fun table => ?_,
    same (complete.has .votes) (complete'.has .votes) votes,
    same (complete.has .forumPosts) (complete'.has .forumPosts) posts⟩
  have present (database : Database) (complete : database.Complete) :
      (database.profiles table).isSome = true := by
    cases table with
    | voterProfiles => exact complete.has .voterProfiles
    | candidateProfiles => exact complete.has .candidateProfiles
  have rows := profiles table
  obtain ⟨stored, one⟩ := Option.isSome_iff_exists.mp (present left complete)
  obtain ⟨stored', two⟩ := Option.isSome_iff_exists.mp (present right complete')
  simp only [Database.rows, one, two, Table.rowsOf_some] at rows
  rw [one, two, Option.map_some, Option.map_some, rows]

/-- The outcomes of one insertion into two databases. -/
inductive Insertions (pending : Bool) :
    Option (Except SqlException Database) → Option (Except SqlException Database) → Prop where
  /-- The identifier cannot be the next one. -/
  | never : Insertions pending none none
  /-- Both raise the same exception. -/
  | error (exception : SqlException) :
    Insertions pending (some (.error exception)) (some (.error exception))
  /-- Both store the row. -/
  | ok {left right : Database} (alike : left.Discreet pending right) :
    Insertions pending (some (.ok left)) (some (.ok right))

/-- A user is stored in both databases, or refused by both. -/
theorem Discreet.storeUser (alike : left.Discreet pending right) (user : User) :
    Insertions pending (left.storeUser user) (right.storeUser user) := by
  obtain ⟨created, users, profiles, votes, posts, refers⟩ := left
  obtain ⟨_, _, profiles', _, _, refers'⟩ := right
  obtain ⟨rfl, rfl, same, rfl, rfl⟩ := alike
  unfold Database.storeUser
  dsimp only
  split
  · exact .error _
  · split
    · split
      · exact .error _
      · exact .ok ⟨rfl, rfl, same, rfl, rfl⟩
    · exact .never

/-- A vote is stored in both databases, or refused by both. -/
theorem Discreet.storeVote (alike : left.Discreet pending right) (vote : Vote) :
    Insertions pending (left.storeVote vote) (right.storeVote vote) := by
  obtain ⟨created, users, profiles, votes, posts, refers⟩ := left
  obtain ⟨_, _, profiles', _, _, refers'⟩ := right
  obtain ⟨rfl, rfl, same, rfl, rfl⟩ := alike
  unfold Database.storeVote
  dsimp only
  split
  · exact .error _
  · split
    · split
      · exact .error _
      · split
        · rename_i voter
          split
          · rename_i candidate
            split
            · split
              · exact .ok ⟨rfl, rfl, same, rfl, rfl⟩
              · rename_i unknown
                exact absurd candidate unknown
            · rename_i unknown
              exact absurd voter unknown
          · rename_i unknown
            split
            · split
              · rename_i candidate
                exact absurd candidate unknown
              · exact .error _
            · rename_i unknown
              exact absurd voter unknown
        · rename_i unknown
          split
          · rename_i voter
            exact absurd voter unknown
          · exact .error _
    · exact .never

/-- A post is stored in both databases, or refused by both. -/
theorem Discreet.storeForumPost (alike : left.Discreet pending right) (post : ForumPost) :
    Insertions pending (left.storeForumPost post) (right.storeForumPost post) := by
  obtain ⟨created, users, profiles, votes, posts, refers⟩ := left
  obtain ⟨_, _, profiles', _, _, refers'⟩ := right
  obtain ⟨rfl, rfl, same, rfl, rfl⟩ := alike
  unfold Database.storeForumPost
  dsimp only
  split
  · exact .error _
  · split
    · split
      · exact .error _
      · split
        · rename_i known
          split
          · exact .ok ⟨rfl, rfl, same, rfl, rfl⟩
          · rename_i unknown
            exact absurd known unknown
        · rename_i unknown
          split
          · rename_i known
            exact absurd known unknown
          · exact .error _
    · exact .never

/-- What becomes of an application under an identifier, when its table exists. -/
theorem storeProfile_cases {database : Database} {table : ProfileTable}
    {stored : Table (Profile table.Entries) Profile.Clash} (present : database.profiles table = some stored)
    (profile : Profile table.Entries) :
    (¬ Admissible profile.id (stored.rows.map Profile.id) ∧
      database.storeProfile table profile = none) ∨
    Admissible profile.id (stored.rows.map Profile.id) ∧
      ((∃ old ∈ stored.rows, old.Clash profile) ∧ database.storeProfile table profile =
          some (.error (duplicateEntry (toString profile.userId) "user_id")) ∨
        (¬ ∃ old ∈ stored.rows, old.Clash profile) ∧
          (¬ database.rows.HasUser profile.userId ∧ database.storeProfile table profile =
              some (.error (foreignKeyFails table.name 1 "user_id")) ∨
            database.rows.HasUser profile.userId ∧ ∃ next later,
              stored.insert profile = some next ∧
                database.storeProfile table profile = some (.ok later) ∧
                later.created = database.created ∧ later.users = database.users ∧
                later.profiles = Function.update database.profiles table (some next) ∧
                later.votes = database.votes ∧ later.forumPosts = database.forumPosts)) := by
  unfold Database.storeProfile
  split
  · rename_i missing
    rw [present] at missing
    contradiction
  · rename_i found same
    rw [present] at same
    obtain rfl := Option.some.inj same
    split
    · rename_i admissible
      refine .inr ⟨admissible, ?_⟩
      split
      · rename_i clash
        exact .inl ⟨(Table.insert_eq_none stored profile).mp clash, rfl⟩
      · rename_i next inserted
        refine .inr ⟨fun clash => ?_, ?_⟩
        · rw [(Table.insert_eq_none stored profile).mpr clash] at inserted
          contradiction
        · split
          · rename_i known
            exact .inr ⟨known, next, _, inserted, rfl, rfl, rfl, rfl, rfl, rfl⟩
          · rename_i unknown
            exact .inl ⟨unknown, rfl⟩
    · rename_i taken
      exact .inl ⟨taken, rfl⟩

/-- An application is stored in both databases, or refused by both. -/
theorem Discreet.storeProfile (alike : left.Discreet pending right) (table : ProfileTable)
    (profile : Profile table.Entries) :
    Insertions pending (left.storeProfile table profile) (right.storeProfile table profile) := by
  cases one : left.profiles table with
  | none =>
    have both := alike.has table.name
    have missing : right.profiles table = none := by
      cases table <;> simpa [Database.has, ProfileTable.name, one] using both.symm
    have refused {database : Database} (none : database.profiles table = none) :
        database.storeProfile table profile = some (.error (noSuchTable table.name)) := by
      unfold Database.storeProfile
      split
      · rfl
      · rename_i present
        rw [none] at present
        contradiction
    rw [refused one, refused missing]
    exact .error _
  | some stored =>
    have same := alike.profiles table
    obtain ⟨stored', two⟩ : ∃ stored', right.profiles table = some stored' := by
      rw [one] at same
      cases two : right.profiles table with
      | none => simp [two] at same
      | some stored' => exact ⟨stored', rfl⟩
    have rows : stored.rows.map (discreet pending table) =
        stored'.rows.map (discreet pending table) := by
      simpa [one, two] using same
    have ids : stored.rows.map Profile.id = stored'.rows.map Profile.id :=
      map_of_discreet (fun _ _ same => by simpa using congrArg Profile.id same) rows
    have clashes : (∃ old ∈ stored.rows, old.Clash profile) ↔
        ∃ old ∈ stored'.rows, old.Clash profile := by
      have through (rows : List (Profile table.Entries)) : (∃ old ∈ rows, old.Clash profile) ↔
          ∃ old ∈ rows.map (discreet pending table), old.Clash profile := by
        simp [Profile.Clash]
      rw [through, rows, ← through]
    have known : right.rows.HasUser = left.rows.HasUser := by
      funext id
      simp only [Rows.HasUser, alike.users_rows]
    have first := storeProfile_cases one profile
    have second := storeProfile_cases two profile
    rw [← ids, ← clashes, known] at second
    rcases first with ⟨taken, first⟩ | ⟨free, first⟩
    · rcases second with ⟨_, second⟩ | ⟨free, _⟩
      · rw [first, second]
        exact .never
      · exact absurd free taken
    rcases second with ⟨taken, _⟩ | ⟨_, second⟩
    · exact absurd free taken
    rcases first with ⟨clash, first⟩ | ⟨apart, first⟩
    · rcases second with ⟨_, second⟩ | ⟨apart, _⟩
      · rw [first, second]
        exact .error _
      · exact absurd clash apart
    rcases second with ⟨clash, _⟩ | ⟨_, second⟩
    · exact absurd clash apart
    rcases first with ⟨unknown, first⟩ | ⟨known, next, later, inserted, first, kept⟩
    · rcases second with ⟨_, second⟩ | ⟨known, _⟩
      · rw [first, second]
        exact .error _
      · exact absurd known unknown
    rcases second with ⟨unknown, _⟩ | ⟨_, next', later', inserted', second, kept'⟩
    · exact absurd known unknown
    obtain ⟨created, users, grown, votes, posts⟩ := kept
    obtain ⟨created', users', grown', votes', posts'⟩ := kept'
    rw [first, second]
    refine .ok ⟨?_, ?_, fun other => ?_, ?_, ?_⟩
    · rw [created, created', alike.created]
    · rw [users, users', alike.users]
    · rw [grown, grown']
      by_cases own : other = table
      · subst own
        simp [Table.insert_rows inserted, Table.insert_rows inserted', rows]
      · simp [own, alike.profiles other]
    · rw [votes, votes', alike.votes]
    · rw [posts, posts', alike.forumPosts]

/-- A table is created in both databases, or in neither. -/
theorem Discreet.createTable (alike : left.Discreet pending right) (table : TableName) :
    Insertions pending (some (left.createTable table)) (some (right.createTable table)) := by
  unfold Database.createTable
  rw [alike.has table, alike.has .users]
  split
  · exact .error _
  · refine .ok ⟨alike.created, ?_, fun other => ?_, ?_, ?_⟩
    · simp only [alike.users]
    · have same := alike.profiles other
      dsimp only
      split
      · cases one : left.profiles other <;> cases two : right.profiles other <;>
          simp_all [Table.ensure]
      · exact same
    · simp only [alike.votes]
    · simp only [alike.forumPosts]

/-- A decision leaves nothing to tell apart. -/
theorem Discreet.decideProfile (alike : left.Discreet pending right) (table : ProfileTable)
    (id : Int) {status : Status} (decided : status ≠ .pending) :
    (left.decideProfile table id status).Discreet pending (right.decideProfile table id status) := by
  refine ⟨alike.created, alike.users, fun other => ?_, alike.votes, alike.forumPosts⟩
  have same := alike.profiles other
  by_cases own : other = table
  · subst own
    simp only [Database.decideProfile, Function.update_self]
    cases one : left.profiles other with
    | none =>
      cases two : right.profiles other with
      | none => rfl
      | some _ => simp [one, two] at same
    | some stored =>
      cases two : right.profiles other with
      | none => simp [one, two] at same
      | some stored' =>
        have rows : stored.rows.map (discreet pending other) =
            stored'.rows.map (discreet pending other) := by simpa [one, two] using same
        simp only [Option.map_some, Table.rows_modify, List.map_map, Option.some.injEq]
        exact map_of_discreet (fun _ _ same => discreet_decide same id decided) rows
  · simp only [Database.decideProfile, Function.update_of_ne own]
    exact same

/-- The answers to one statement on two databases. -/
inductive Replied (pending : Bool) {α : Type} :
    Option (Database × Except SqlException α) → Option (Database × Except SqlException α) → Prop where
  /-- Neither chooses so. -/
  | never : Replied pending none none
  /-- Both answer the same, and are alike after it. -/
  | answered {left right : Database} (alike : left.Discreet pending right)
    (answer : Except SqlException α) : Replied pending (some (left, answer)) (some (right, answer))

/-- A query with one result has one answer. -/
theorem Discreet.query (alike : left.Discreet pending right) {α : Type} (tables : List TableName)
    {result other : α} (same : result = other) :
    Replied pending (left.query tables result) (right.query tables other) := by
  have missing : (fun table => !left.has table) = fun table => !right.has table :=
    funext fun table => by rw [alike.has table]
  rw [Database.query, Database.query, missing, same]
  exact .answered alike _

/-- A query with two results is refused on both databases, or answered with these. -/
theorem Discreet.query_both (alike : left.Discreet pending right) {α : Type}
    (tables : List TableName) (result other : α) {store : Database}
    {answer : Except SqlException α} (served : left.query tables result = some (store, answer)) :
    store = left ∧ ∃ answer', right.query tables other = some (right, answer') ∧
      (answer = .ok result ∧ answer' = .ok other ∨
        ∃ exception, answer = .error exception ∧ answer' = .error exception) := by
  have missing : (fun table => !left.has table) = fun table => !right.has table :=
    funext fun table => by rw [alike.has table]
  rw [Database.query, missing] at served
  obtain ⟨rfl, rfl⟩ := Prod.mk.inj (Option.some.inj served)
  refine ⟨rfl, _, rfl, ?_⟩
  cases tables.find? fun table => !right.has table with
  | none => exact .inl ⟨rfl, rfl⟩
  | some table => exact .inr ⟨_, rfl, rfl⟩

/-- Insertions with one outcome have one answer. -/
theorem Discreet.insertion (alike : left.Discreet pending right)
    {stored other : Option (Except SqlException Database)} (both : Insertions pending stored other) :
    Replied pending (left.insertion stored) (right.insertion other) := by
  cases both with
  | never => exact .never
  | error exception => exact .answered alike _
  | ok after => exact .answered after _

/-- The pending applications are the same, unless their addresses are hidden. -/
theorem Discreet.applicants (alike : left.Discreet false right) (scan : Nat → Nat)
    (table : ProfileTable) : left.rows.pending scan table = right.rows.pending scan table := by
  have selected : (left.rows.profiles table).filter (fun profile => profile.status = .pending) =
      (right.rows.profiles table).filter fun profile => profile.status = .pending := by
    have shown (rows : List (Profile table.Entries)) :
        (rows.filter fun profile => profile.status = .pending).map (discreet false table) =
          rows.filter fun profile => profile.status = .pending := by
      refine (List.map_congr_left fun profile present => ?_).trans (List.map_id _)
      have waiting := (List.mem_filter.mp present).2
      exact discreet_shown (by simpa [hides] using waiting)
    have same := alike.filter (fun profile : Profile table.Entries => profile.status = .pending)
      fun _ => rfl
    rw [shown, shown] at same
    exact same
  simp only [Rows.pending, Rows.withStatus, join_filter
    (fun (profile : Profile table.Entries) (user : User) => decide (user.id = profile.userId))
    fun profile => profile.status = .pending, selected, alike.users_rows]

/-- The columns that a user is shown of an application do not depend on its address. -/
theorem Discreet.ownStatus (alike : left.Discreet pending right) (table : ProfileTable)
    (userId : Nat) :
    ownStatus table ((left.rows.profilesOf table userId).map fun profile =>
        (profile.entries, profile.status)) =
      ownStatus table ((right.rows.profilesOf table userId).map fun profile =>
        (profile.entries, profile.status)) := by
  have same := alike.filter (fun profile : Profile table.Entries => profile.userId = userId)
    fun _ => rfl
  have shown (rows : List (Profile table.Entries)) :
      OnlineVoting.ownStatus table (rows.map fun profile => (profile.entries, profile.status)) =
        OnlineVoting.ownStatus table ((rows.map fun profile => (profile.entries, profile.status)).map
          fun row => (table.unaddressed row.1, row.2)) := by
    cases table <;> cases rows <;> rfl
  rw [shown, shown, List.map_map, List.map_map]
  refine congrArg _ (map_of_discreet (fun one other same => ?_) same)
  have status := congrArg Profile.status same
  simp only [discreet_status] at status
  have entries : table.unaddressed one.entries = table.unaddressed other.entries := by
    rw [← unaddressed_discreet pending, same, unaddressed_discreet]
  exact Prod.ext entries status

/-- A statement that shows no hidden address has one answer on both databases. -/
theorem Discreet.execute (alike : left.Discreet pending right) (choice : Choice) {stmt : Stmt}
    (own : ∀ userId, stmt ≠ .selectProfile .voterProfiles userId)
    (staff : stmt = .selectPending .voterProfiles → pending = false)
    (decided : ∀ table status id, stmt = .updateStatus table status id → status ≠ .pending) :
    Replied pending (execute choice left stmt) (execute choice right stmt) := by
  have users := alike.users_rows
  have candidates := alike.candidates
  have votes := alike.votes_rows
  have posts := alike.forumPosts_rows
  have applied (table : ProfileTable) (userId : Nat) :=
    alike.filter (fun profile : Profile table.Entries => profile.userId = userId) fun _ => rfl
  cases stmt with
  | connectBoot | prepare => exact .answered alike _
  | createDatabase =>
    have after : ({ left with created := true } : Database).Discreet pending
        { right with created := true } :=
      ⟨rfl, alike.users, alike.profiles, alike.votes, alike.forumPosts⟩
    exact .answered after _
  | connect =>
    simp only [OnlineVoting.execute, alike.created]
    exact .answered alike _
  | createTable table =>
    have both := alike.createTable table
    simp only [OnlineVoting.execute]
    generalize left.createTable table = first at both
    generalize right.createTable table = second at both
    cases both with
    | error exception => exact .answered alike _
    | ok after => exact .answered after _
  | seedAdmin passwordHash =>
    have both := alike.storeUser (adminUser choice.id passwordHash)
    simp only [OnlineVoting.execute, ← alike.has]
    generalize left.storeUser (adminUser choice.id passwordHash) = first at both
    generalize right.storeUser (adminUser choice.id passwordHash) = second at both
    cases both with
    | never => exact .never
    | error exception => exact .answered alike _
    | ok after => exact .answered after _
  | insertUser username passwordHash name role =>
    simp only [OnlineVoting.execute]
    split
    · exact alike.insertion (alike.storeUser _)
    · exact .answered alike _
    · exact .answered alike _
  | insertProfile table userId entries =>
    simp only [OnlineVoting.execute]
    split
    · exact alike.insertion (alike.storeProfile table _)
    · exact .answered alike _
  | insertVote voterId candidateId => exact alike.insertion (alike.storeVote _)
  | insertForumPost userId content =>
    simp only [OnlineVoting.execute]
    split
    · exact alike.insertion (alike.storeForumPost _)
    · exact .answered alike _
  | updateStatus table status id =>
    have found : (left.rows.profiles table).countP (fun profile => profile.id = id) =
        (right.rows.profiles table).countP fun profile => profile.id = id := by
      have ids := map_of_discreet (fun _ _ same => by simpa using congrArg Profile.id same)
        (alike.rows table)
      have count (rows : List (Profile table.Entries)) :
          rows.countP (fun profile => profile.id = id) =
            (rows.map Profile.id).countP fun own : Nat => (own : Int) = id := by
        rw [List.countP_map]
        rfl
      rw [count, ids, ← count]
    simp only [OnlineVoting.execute, ← alike.has, found]
    split
    · exact .answered (alike.decideProfile table id (decided table status id rfl)) _
    · exact .answered alike _
  | selectLogin username passwordHash =>
    exact alike.query _ (by simp only [Rows.login, Rows.loginMatches, users])
  | existsProfile table userId =>
    refine alike.query _ ?_
    have empty := congrArg List.isEmpty (applied table userId)
    simpa [Rows.profilesOf] using empty
  | selectProfile table userId =>
    cases table with
    | voterProfiles => exact absurd rfl (own userId)
    | candidateProfiles =>
      refine alike.query _ ?_
      have same : left.rows.profiles .candidateProfiles = right.rows.profiles .candidateProfiles :=
        candidates
      simp only [Rows.profilesOf, same]
  | selectPending table =>
    refine alike.query _ ?_
    cases table with
    | voterProfiles =>
      obtain rfl := staff rfl
      exact alike.applicants choice.scan .voterProfiles
    | candidateProfiles =>
      have same : left.rows.profiles .candidateProfiles = right.rows.profiles .candidateProfiles :=
        candidates
      simp only [Rows.pending, Rows.withStatus, users, same]
  | selectApproved =>
    have same : left.rows.profiles .candidateProfiles = right.rows.profiles .candidateProfiles :=
      candidates
    exact alike.query _ (by simp only [Rows.approved, Rows.withStatus, users, same])
  | selectVoterStatus userId =>
    refine alike.query _ ?_
    exact map_of_discreet (fun _ _ same => by simpa using congrArg Profile.status same)
      (applied .voterProfiles userId)
  | existsVote voterId => exact alike.query _ (by simp only [votes])
  | selectCandidate id => exact alike.query _ (by simp only [Rows.candidateUserIds, candidates])
  | selectResults =>
    exact alike.query _
      (by simp only [Rows.results, Rows.tally, Rows.ballots, users, candidates, votes])
  | selectForum => exact alike.query _ (by simp only [Rows.forum, users, posts])

end Database

/-! ## Sessions -/

/-- The sessions of staff are shown pending applications of voters. -/
def Loop.OfStaff (loop : Loop) : Prop :=
  ∃ id, loop.session = some (id, .admin) ∨ loop.session = some (id, .fieldOfficer)

/-- The listing of pending applications tells their addresses apart, to staff. -/
@[reducible] def hiddenAddresses (pending : Bool) : Likeness app where
  Alike := Database.Discreet pending
  Matches := Eq
  Tells loop := pending = true ∧ Loop.OfStaff loop

/-- A process that waits for a decision does not set an application back. -/
theorem decided_of_reachable {system : System app} (reachable : system.Reachable) {process : Nat}
    {loop : Loop} {printed : List Output} {table : ProfileTable} {status : Status} {id : Int}
    {next : Answer (.updateStatus table status id) → Dialogue console (Option Loop)}
    (waits : system.process process = some ⟨loop, .ask printed (.updateStatus table status id) next⟩) :
    status ≠ .pending := by
  have permit : Permit loop process system.toWorld (.updateStatus table status id) :=
    (good_of_reachable reachable).permit rules_sound waits
  obtain ⟨_, _, _, _, _, _, decided⟩ := permit
  exact decision_ne_pending decided

/-- A statement that is served under the same choice on databases that differ in hidden addresses
leaves them so, and lets the session go on in the same way, unless it tells. -/
theorem discreet_served {pending : Bool} {system : System app} (reachable : system.Reachable)
    {right : Database} (alike : system.store.Discreet pending right) {process : Nat} {loop : Loop}
    {printed : List Output} {stmt : Stmt} {next : Answer stmt → Dialogue console (Option Loop)}
    (waits : system.process process = some ⟨loop, .ask printed stmt next⟩) {choice : Choice}
    {store : Database} {answer : Answer stmt}
    (served : serve stmt choice system.store = some (store, answer)) :
    ∃ store' answer', serve stmt choice right = some (store', answer') ∧
      store.Discreet pending store' ∧
      Dialogue.Alike ((hiddenAddresses pending).Tells loop) (next answer) (next answer') := by
  have replies := replies_of_reachable reachable waits
  have reads := sends_of_reachable reachable waits
  cases fault : choice.fault with
  | some message =>
    simp only [serve, fault, Option.some.injEq, Prod.mk.injEq] at served
    obtain ⟨rfl, rfl⟩ := served
    exact ⟨right, _, by simp only [serve, fault], alike, .same _⟩
  | none =>
    simp only [serve, fault] at served ⊢
    by_cases own : ∃ userId, stmt = .selectProfile .voterProfiles userId
    · obtain ⟨userId, rfl⟩ := own
      obtain ⟨rfl, answer', served', answers⟩ := alike.query_both _ _
        ((right.rows.profilesOf .voterProfiles userId).map fun profile =>
          (profile.entries, profile.status)) served
      refine ⟨right, answer', served', alike, ?_⟩
      rcases answers with ⟨rfl, rfl⟩ | ⟨exception, rfl, rfl⟩
      · rw [replies _ _ rfl, replies _ _ rfl, alike.ownStatus]
        exact .same _
      · exact .same _
    by_cases staff : stmt = .selectPending .voterProfiles ∧ pending = true
    · obtain ⟨rfl, hidden⟩ := staff
      obtain ⟨rfl, answer', served', _⟩ := alike.query_both _ _
        (right.rows.pending choice.scan .voterProfiles) served
      refine ⟨right, answer', served', alike, ?_⟩
      rw [replies _ _ rfl, replies _ _ rfl]
      exact .told ⟨hidden, reads⟩ _ _ _
    have answers := alike.execute choice (fun userId same => own ⟨userId, same⟩)
      (fun same => by simpa [same] using staff)
      (fun table status id same => by subst same; exact decided_of_reachable reachable waits)
    rw [served] at answers
    generalize execute choice right stmt = other at answers
    cases answers with
    | answered after => exact ⟨_, _, rfl, after, .same _⟩

/-- Only the listing of pending voters tells addresses apart. -/
theorem hiddenAddresses_sound (pending : Bool) : (hiddenAddresses pending).Sound where
  agrees leftReachable _ alike waits _ matching served served' := by
    subst matching
    obtain ⟨_, _, answered, after, rests⟩ := discreet_served leftReachable alike waits served
    obtain ⟨rfl, rfl⟩ := Prod.mk.inj (Option.some.inj (served'.symm.trans answered))
    exact ⟨after, rests⟩
  answers leftReachable _ alike waits _ served := by
    obtain ⟨store', answer', answered, _⟩ := discreet_served leftReachable alike waits served
    exact ⟨_, store', answer', rfl, answered⟩

/-- Nobody but staff learns an address, and staff learns none of a decided application: over
databases that are equal but for the addresses of voter applications, of all of them or of the
decided ones, every step prints the same, except that in the former case the steps of admins and
field officers may differ, whatever is typed and by whomever, and the databases are so again. -/
theorem addresses_private (pending : Bool) {left right last : System app}
    (leftReachable : left.Reachable) (rightReachable : right.Reachable)
    (stores : left.store.Discreet pending right.store) (sessions : left.process = right.process)
    {events : List (Event app)} (ran : left.run events = some last) :
    ∃ last', right.run events = some last' ∧ last.store.Discreet pending last'.store ∧
      ∃ newer newer', last.log = newer ++ left.log ∧ last'.log = newer' ++ right.log ∧
        List.Forall₂ (Entry.Alike (hiddenAddresses pending).Tells) newer newer' := by
  have pair : (hiddenAddresses pending).Pair left right :=
    ⟨stores, fun process => by rw [sessions]; exact .refl _ _⟩
  obtain ⟨others, last', matching, ran'⟩ :=
    pair.run_follows (hiddenAddresses_sound pending) leftReachable rightReachable ran
  obtain ⟨ended, printed⟩ :=
    pair.run (hiddenAddresses_sound pending) leftReachable rightReachable matching ran ran'
  have same : events = others := by
    rw [← List.forall₂_eq_eq_eq]
    exact matching.imp fun _ _ => Event.Match.eq
  exact ⟨last', by rw [same, ran'], ended.stores, printed⟩

end

/-! ## Two addresses -/

section

attribute [local instance] latin1

/-- Vera applies from an address, and the admin logs in. -/
def filed (address : String) : List (Event app) :=
  launching 0 1 ++ registering 0 4 "Vera" "vera" "secret" "voter" ++
    visit "vera" "7" (applying 0 5 ["North", address]) ++ loggingIn 0 "admin" "admin123"

/-- The admin then approves her. -/
def settled (address : String) : List (Event app) := filed address ++ deciding 0 "2" "5" "approve"

/-- The admin views the pending applications, and Vera views hers in another process. -/
def inquiries : List (Event app) :=
  typing 0 ["1"] ++ serving 0 [0] ++ launching 1 9 ++ loggingIn 1 "vera" "secret" ++
    typing 1 ["2"] ++ serving 1 [0]

/-- Databases with the same rows but for the addresses that are to be hidden, and the first process
in the menu of the admin. -/
def Resemble (pending : Bool) (left right : System app) : Prop :=
  (left.store.rows.users = right.store.rows.users ∧
    left.store.rows.voters.map (discreet pending .voterProfiles) =
      right.store.rows.voters.map (discreet pending .voterProfiles) ∧
    left.store.rows.candidates = right.store.rows.candidates ∧
    left.store.rows.votes = right.store.rows.votes ∧
    left.store.rows.forumPosts = right.store.rows.forumPosts) ∧
  (∀ system ∈ [left, right],
    @Option.map _ Loop Process.loop (system.process 0) = some (.adminMenu 1) ∧
      (roundOf 0 system.log).length = 0)

instance (pending : Bool) (left right : System app) : Decidable (Resemble pending left right) :=
  inferInstanceAs (Decidable (_ ∧ _))

variable {pending : Bool} {left right : System app}

/-- Where the admin is. -/
theorem Resemble.at_menu (resemble : Resemble pending left right) {system : System app}
    (one : system ∈ [left, right]) (reachable : system.Reachable) :
    system.process 0 = some ⟨.adminMenu 1, app.body (.adminMenu 1)⟩ := by
  obtain ⟨runs, fresh⟩ := resemble.2 system one
  exact reachable.at_body runs (List.length_eq_zero_iff.mp fresh)

/-- Databases that resemble each other differ in hidden addresses alone. -/
theorem Resemble.stores (resemble : Resemble pending left right)
    (leftReachable : left.Reachable) (rightReachable : right.Reachable) :
    left.store.Discreet pending right.store := by
  have complete {system : System app} (one : system ∈ [left, right])
      (reachable : system.Reachable) : system.store.Complete :=
    ((good_of_reachable reachable).ready _ _ _ (resemble.at_menu one reachable)).complete (by simp)
  obtain ⟨⟨users, voters, candidates, votes, posts⟩, _⟩ := resemble
  refine (complete (by simp) leftReachable).discreet (complete (by simp) rightReachable) users
    (fun table => ?_) votes posts
  cases table with
  | voterProfiles => exact voters
  | candidateProfiles => exact congrArg _ candidates

/-- After runs of the first process alone, the sessions are at the same rests. -/
theorem Resemble.sessions (resemble : Resemble pending left right)
    {events others : List (Event app)} (ran : (System.initial app).run events = some left)
    (ran' : (System.initial app).run others = some right)
    (alone : ∀ event ∈ events ++ others, event.actor = 0) : left.process = right.process := by
  funext process
  by_cases first : process = 0
  · subst first
    rw [resemble.at_menu (by simp) ⟨events, ran⟩, resemble.at_menu (by simp) ⟨others, ran'⟩]
  · have idle (event : Event app) (present : event ∈ events ++ others) : event.actor ≠ process := by
      rw [alone event present]
      exact Ne.symm first
    rw [System.run_idle (fun event present => idle event (List.mem_append_left _ present)) ran,
      System.run_idle (fun event present => idle event (List.mem_append_right _ present)) ran']

/-- After two runs that stored other addresses of Vera with this status, the inquiries print the same
but for what may be told of addresses. -/
def InquireAlike (pending : Bool) (status : Status) (events others : List (Event app)) : Prop :=
  ∃ left right last last',
    (System.initial app).run events = some left ∧ (System.initial app).run others = some right ∧
    left.store.rows.voters = [⟨5, 4, ⟨"North", "Main Street 1"⟩, status⟩] ∧
    right.store.rows.voters = [⟨5, 4, ⟨"North", "Side Street 2"⟩, status⟩] ∧
    left.run inquiries = some last ∧ right.run inquiries = some last' ∧
    ∃ newer newer', last.log = newer ++ left.log ∧ last'.log = newer' ++ right.log ∧
      List.Forall₂ (Entry.Alike (hiddenAddresses pending).Tells) newer newer'

set_option maxRecDepth 10000 in
/-- Whatever Vera's address, once she is approved neither the admin nor she herself is shown it any
more, and before she is approved it is shown to the admin alone. -/
theorem addresses_private_inquiries :
    InquireAlike false .approved (settled "Main Street 1") (settled "Side Street 2") ∧
    InquireAlike true .pending (filed "Main Street 1") (filed "Side Street 2") := by
  have each (pending : Bool) (status : Status) (events others : List (Event app))
      (result : ((System.initial app).run events).bind (fun left =>
        ((System.initial app).run others).bind fun right => (left.run inquiries).map fun _ =>
          decide (Resemble pending left right ∧
            left.store.rows.voters = [⟨5, 4, ⟨"North", "Main Street 1"⟩, status⟩] ∧
            right.store.rows.voters = [⟨5, 4, ⟨"North", "Side Street 2"⟩, status⟩])) = some true)
      (alone : ∀ event ∈ events ++ others, event.actor = 0) :
      InquireAlike pending status events others := by
    obtain ⟨left, ran, result⟩ := Option.bind_eq_some_iff.mp result
    obtain ⟨right, ran', result⟩ := Option.bind_eq_some_iff.mp result
    obtain ⟨last, inquired, seen⟩ := Option.map_eq_some_iff.mp result
    obtain ⟨resemble, rows, rows'⟩ := of_decide_eq_true seen
    have leftReachable : left.Reachable := ⟨_, ran⟩
    have rightReachable : right.Reachable := ⟨_, ran'⟩
    obtain ⟨last', inquired', _, printed⟩ := addresses_private pending leftReachable
      rightReachable (resemble.stores leftReachable rightReachable)
      (resemble.sessions ran ran' alone) inquired
    exact ⟨left, right, last, last', ran, ran', rows, rows', inquired, inquired', printed⟩
  exact ⟨each false .approved _ _ (by decide +kernel) (by decide +kernel),
    each true .pending _ _ (by decide +kernel) (by decide +kernel)⟩

end

end OnlineVoting
