import OnlineVoting.Applications

/-!
# Who may change what

Every change that any step makes to the rows is one of those that the role of the session allows,
and is made under its own account; a user is stored by the startup or by `register`, with what was
typed there. The role of every open session is that of its account, and the leaderboard is printed
in the sessions of ADMINs only.
-/
namespace OnlineVoting

open Interleaving

section

variable [Platform]

/-- The changes that a step may make to the rows, the step being the newest after an older log. -/
inductive Allowed (entry : Entry app) (older : List (Entry app)) (rows : Rows) : Rows → Prop where
  /-- Nothing changes. -/
  | nothing : Allowed entry older rows rows
  /-- `setupDatabase` seeds its account. -/
  | seed (boot : entry.loop = .boot) (choice : Choice)
    (seeds : entry.action = .served (.seedAdmin (sha256 "admin123")) choice (.ok 1)) :
    Allowed entry older rows (rows.addUser (adminUser choice.id (sha256 "admin123")))
  /-- `register` stores the user it was told of. -/
  | register (menu : entry.loop = .mainMenu) (user : User) (registers : Registers user entry older) :
    Allowed entry older rows (rows.addUser user)
  /-- A session applies for itself, in the table of its role, with what was typed. -/
  | apply_ (table : ProfileTable) (id userId : Nat) (entries : table.Entries)
    (own : entry.loop.session = some (userId, table.role))
    (applies : Applies table id userId entries entry older) :
    Allowed entry older rows (rows.addProfile table ⟨id, userId, entries, .pending⟩)
  /-- An ADMIN or a FIELD_OFFICER sets the status of one voter application. -/
  | decideVoter (profile : VoterProfile) (status : Status) (userId : Nat)
    (office : entry.loop.session = some (userId, .admin) ∨
      entry.loop.session = some (userId, .fieldOfficer))
    (stored : profile ∈ rows.voters)
    (alone : ∀ other ∈ rows.voters, other.id = profile.id → other = profile) :
    Allowed entry older rows (rows.decideProfile .voterProfiles profile.id status)
  /-- An ADMIN sets the status of one candidacy. -/
  | decideCandidate (profile : CandidateProfile) (status : Status) (userId : Nat)
    (office : entry.loop.session = some (userId, .admin)) (stored : profile ∈ rows.candidates)
    (alone : ∀ other ∈ rows.candidates, other.id = profile.id → other = profile) :
    Allowed entry older rows (rows.decideProfile .candidateProfiles profile.id status)
  /-- A VOTER votes for itself. -/
  | vote (vote : Vote) (own : entry.loop.session = some (vote.voterId, .voter)) :
    Allowed entry older rows (rows.addVote vote)
  /-- A VOTER or a CANDIDATE posts for itself. -/
  | post (post : ForumPost)
    (own : entry.loop.session = some (post.userId, .voter) ∨
      entry.loop.session = some (post.userId, .candidate)) :
    Allowed entry older rows (rows.addForumPost post)

/-- A permitted statement makes only allowed changes. -/
theorem Written.allowed {entry : Entry app} {world : World app} {stmt : Stmt} {choice : Choice}
    {answer : Answer stmt} {later : Rows}
    (change : Written choice world.store.rows stmt answer later)
    (action : entry.action = .served stmt choice answer)
    (announces : Announces entry.action entry.printed)
    (permit : Permit entry.loop entry.process world stmt) :
    Allowed entry world.log world.store.rows later := by
  cases change with
  | nothing _ => exact .nothing
  | seed passwordHash =>
    obtain ⟨boot, rfl, _⟩ := permit
    exact .seed boot choice action
  | user username passwordHash name role parsed named =>
    exact .register permit.1 _ (registers_of_served action announces permit named)
  | profile table userId entries =>
    exact .apply_ table choice.id userId entries permit.1
      (applies_of_served action announces permit)
  | status table status target found some stored =>
    obtain ⟨office, _⟩ := permit
    obtain ⟨profile, present, rfl⟩ := stored
    have alone : ∀ other ∈ world.store.rows.profiles table, other.id = profile.id →
        other = profile := fun other known same =>
      world.store.profile_unique known present (.inl same)
    cases table with
    | voterProfiles =>
      rcases office with ⟨admin, menu⟩ | ⟨_, officer, menu⟩
      · exact .decideVoter profile status admin (.inl (by rw [menu]; rfl)) present alone
      · exact .decideVoter profile status officer (.inr (by rw [menu]; rfl)) present alone
    | candidateProfiles =>
      rcases office with ⟨admin, menu⟩ | ⟨impossible, _⟩
      · exact .decideCandidate profile status admin (by rw [menu]; rfl) present alone
      · contradiction
  | vote voterId candidateId => exact .vote _ permit.1
  | post userId content => exact .post _ permit.1

/-- Every change to the rows is allowed to the session that makes it, no row is ever lost and no
column but a status ever changes, every open session has the role of its account, and the
leaderboard is asked for and printed in sessions of ADMINs only. -/
theorem access_by_role {system : System app} (reachable : system.Reachable) :
    (∀ event next, system.step event = some next → ∃ entry, next.log = entry :: system.log ∧
      Allowed entry system.log system.store.rows next.store.rows ∧
      system.store.rows.Evolves next.store.rows ∧
      ∀ choice answer, entry.action = .served .selectResults choice answer →
        ∃ id, entry.loop.session = some (id, .admin)) ∧
    (∀ process loop rest id role, system.process process = some ⟨loop, rest⟩ →
      loop.session = some (id, role) →
        ∃ user ∈ system.store.rows.users, user.id = id ∧ user.role = role ∧
          ∀ other ∈ system.store.rows.users, other.id = id → other = user) ∧
    (∀ entry ∈ system.log, ∀ output ∈ entry.printed, output.isResult = true →
      ∃ id, entry.loop.session = some (id, .admin)) := by
  have good := good_of_reachable reachable
  refine ⟨fun event next stepped => ?_, fun process loop rest id role runs session => ?_,
    fun entry present output printed result => ?_⟩
  · have evolves := (good.evolves rules_sound stepped).toEvolves
    obtain ⟨entry, did⟩ := good.stepped rules_sound stepped
    refine ⟨entry, did.logged, ?_, evolves, fun choice answer action => ?_⟩
    · cases did with
      | unserved _ kept _ _ =>
        rw [kept]
        exact .nothing
      | served _ _ permit served prints =>
        exact (serve_written served).1.allowed rfl prints.announces permit
    · obtain ⟨_, permit, _, _⟩ := did.of_served action
      obtain ⟨admin, menu⟩ := permit
      exact ⟨admin, by rw [menu]; rfl⟩
  · have ready := good.ready process loop rest runs
    obtain ⟨user, stored, rfl, held⟩ := ready.account id role session
    exact ⟨user, stored, rfl, held, fun other known same =>
      system.store.user_unique known stored (.inl same)⟩
  · obtain ⟨admin, menu⟩ := (good.prints entry present).results output printed result
    exact ⟨admin, by rw [menu]; rfl⟩

end

section

attribute [local instance] latin1

set_option maxRecDepth 10000 in
/-- After the approval, the session of process 1 is that of the seeded ADMIN. -/
theorem access_by_role_approval : ∃ system,
    (System.initial app).run (candidacy ++ approval) = some system ∧
    (∃ rest, system.process 1 = some ⟨.adminMenu 1, rest⟩) ∧
    ∃ user ∈ system.store.rows.users, user.id = 1 ∧ user.role = .admin ∧
      ∀ other ∈ system.store.rows.users, other.id = 1 → other = user := by
  have result : ((System.initial app).run (candidacy ++ approval)).map
      (fun system => (system.process 1).map Process.loop) = some (some (.adminMenu 1)) := by
    decide +kernel
  obtain ⟨system, ran, runs⟩ := Option.map_eq_some_iff.mp result
  obtain ⟨⟨loop, rest⟩, runs, rfl⟩ := Option.map_eq_some_iff.mp runs
  exact ⟨system, ran, ⟨rest, runs⟩,
    (access_by_role ⟨_, ran⟩).2.1 1 _ rest 1 .admin runs rfl⟩

end

end OnlineVoting
