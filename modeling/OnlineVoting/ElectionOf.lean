import OnlineVoting.Election
import OnlineVoting.Menus

/-!
# The election of a state

Every reachable state of the program is a lawful election, read from its tables and from the
decisions in its log: the role of an account, the status of its application, whether that was ever
approved, and whom the account voted for.
-/
namespace OnlineVoting

open Interleaving

section

variable [Platform]

/-! ## The election of a state -/

/-- The roles under an identifier. -/
def Rows.rolesOf (rows : Rows) (id : Nat) : List Role :=
  (rows.users.filter fun user => user.id = id).map User.role

/-- The statuses of the applications of a user. -/
def Rows.statusesOf (rows : Rows) (userId : Nat) : List Status :=
  (rows.voters.filter fun profile => profile.userId = userId).map Profile.status ++
    (rows.candidates.filter fun profile => profile.userId = userId).map Profile.status

/-- The candidates a user voted for. -/
def Rows.choicesOf (rows : Rows) (voterId : Nat) : List Nat :=
  (rows.votes.filter fun vote => vote.voterId = voterId).map Vote.candidateId

/-- An application of the user was approved at some time. -/
def Admitted (world : World app) (userId : Nat) : Prop :=
  ∃ table, ∃ profile ∈ world.store.rows.profiles table, profile.userId = userId ∧
    .approved ∈ decisions table profile.id world.log

omit [Platform] in
/-- The first of values that are all alike is any of them. -/
private theorem head?_of_alike {α : Type} {values : List α}
    (alike : ∀ left ∈ values, ∀ right ∈ values, left = right) (value : α) :
    values.head? = some value ↔ value ∈ values := by
  cases values with
  | nil => simp
  | cons first rest =>
    have same : ∀ other ∈ rest, other = first := fun other present =>
      alike other (List.mem_cons_of_mem _ present) first List.mem_cons_self
    constructor
    · rintro ⟨⟩
      exact List.mem_cons_self
    · intro present
      rw [alike value present first List.mem_cons_self]
      rfl

/-- A user of this identifier has this role. -/
theorem role_iff (database : Database) (id : Nat) (role : Role) :
    (database.rows.rolesOf id).head? = some role ↔ database.rows.HasRole id role := by
  rw [head?_of_alike]
  · simp [Rows.rolesOf, Rows.HasRole, and_assoc]
  · simp only [Rows.rolesOf, List.mem_map, List.mem_filter, decide_eq_true_iff]
    rintro _ ⟨left, ⟨stored, same⟩, rfl⟩ _ ⟨right, ⟨stored', same'⟩, rfl⟩
    rw [database.user_unique stored stored' (.inl (same.trans same'.symm))]

/-- A user votes for this candidate. -/
theorem choice_iff (database : Database) (voterId candidateId : Nat) :
    (database.rows.choicesOf voterId).head? = some candidateId ↔
      ∃ vote ∈ database.rows.votes, vote.voterId = voterId ∧ vote.candidateId = candidateId := by
  rw [head?_of_alike]
  · simp [Rows.choicesOf, and_assoc]
  · simp only [Rows.choicesOf, List.mem_map, List.mem_filter, decide_eq_true_iff]
    rintro _ ⟨left, ⟨stored, same⟩, rfl⟩ _ ⟨right, ⟨stored', same'⟩, rfl⟩
    rw [database.vote_unique stored stored' (.inr (same.trans same'.symm))]

/-- A user has one role. -/
theorem role_unique {database : Database} {id : Nat} {left right : Role}
    (first : database.rows.HasRole id left) (second : database.rows.HasRole id right) :
    left = right := by
  have one := (role_iff database id left).mpr first
  have two := (role_iff database id right).mpr second
  exact Option.some.inj (one.symm.trans two)

/-- A user has one application, in the table of its role. -/
theorem application_unique {database : Database} (roles : RolesMatch database.rows)
    {table other : ProfileTable} {left : Profile table.Entries} {right : Profile other.Entries}
    (stored : left ∈ database.rows.profiles table) (stored' : right ∈ database.rows.profiles other)
    (same : left.userId = right.userId) : table = other ∧ left.status = right.status := by
  have one := roles table left stored
  have two := roles other right stored'
  rw [same] at one
  have role := role_unique one two
  have tables : table = other := by
    cases table <;> cases other <;> first | rfl | contradiction
  subst tables
  rw [database.profile_unique stored stored' (.inr same)]
  exact ⟨rfl, rfl⟩

omit [Platform] in
/-- The statuses of a user are those of its applications. -/
theorem mem_statusesOf {rows : Rows} {userId : Nat} {status : Status} :
    status ∈ rows.statusesOf userId ↔
      ∃ table, ∃ profile ∈ rows.profiles table, profile.userId = userId ∧ profile.status = status := by
  simp only [Rows.statusesOf, List.mem_append, List.mem_map, List.mem_filter, decide_eq_true_iff,
    and_assoc]
  constructor
  · rintro (⟨profile, stored, owner, same⟩ | ⟨profile, stored, owner, same⟩)
    · exact ⟨.voterProfiles, profile, stored, owner, same⟩
    · exact ⟨.candidateProfiles, profile, stored, owner, same⟩
  · rintro ⟨table, profile, stored, owner, same⟩
    cases table with
    | voterProfiles => exact .inl ⟨profile, stored, owner, same⟩
    | candidateProfiles => exact .inr ⟨profile, stored, owner, same⟩

/-- The application of a user has this status. -/
theorem standing_iff {database : Database} (roles : RolesMatch database.rows) (userId : Nat)
    (status : Status) : (database.rows.statusesOf userId).head? = some status ↔
      ∃ table, ∃ profile ∈ database.rows.profiles table,
        profile.userId = userId ∧ profile.status = status := by
  rw [head?_of_alike, mem_statusesOf]
  intro left first right second
  obtain ⟨table, profile, stored, owner, rfl⟩ := mem_statusesOf.mp first
  obtain ⟨other, profile', stored', owner', rfl⟩ := mem_statusesOf.mp second
  exact (application_unique roles stored stored' (owner.trans owner'.symm)).2

omit [Platform] in
/-- A user without a status has no application. -/
theorem standing_none {rows : Rows} {userId : Nat} :
    (rows.statusesOf userId).head? = none ↔
      ∀ table, ∀ profile ∈ rows.profiles table, profile.userId ≠ userId := by
  rw [List.head?_eq_none_iff, List.eq_nil_iff_forall_not_mem]
  constructor
  · intro none table profile stored owner
    exact none profile.status (mem_statusesOf.mpr ⟨table, profile, stored, owner, rfl⟩)
  · intro none status present
    obtain ⟨table, profile, stored, owner, _⟩ := mem_statusesOf.mp present
    exact none table profile stored owner

/-! ## Approvals in the log -/

/-- A standing of `APPROVED` was decided. -/
theorem approved_of_standing {table : ProfileTable} {id : Nat} {log : List (Entry app)}
    (approved : standing table id log = .approved) : .approved ∈ decisions table id log := by
  unfold standing at approved
  cases newest : (decisions table id log).head? with
  | none =>
    rw [newest] at approved
    contradiction
  | some status =>
    rw [newest, Option.getD_some] at approved
    subst approved
    exact List.mem_of_mem_head? newest

/-- A decision of an earlier log is one of a later log. -/
theorem decisions_append {table : ProfileTable} {id : Nat} {newer older : List (Entry app)}
    {status : Status} (decided : status ∈ decisions table id older) :
    status ∈ decisions table id (newer ++ older) := by
  rw [decisions, List.filterMap_append]
  exact List.mem_append_right _ decided

/-- The admitted stay admitted. -/
theorem admitted_step {system next : System app} {event : Event app}
    (good : rules.Good system) (stepped : system.step event = some next) {userId : Nat}
    (admitted : Admitted system.toWorld userId) : Admitted next.toWorld userId := by
  obtain ⟨table, profile, stored, owner, approved⟩ := admitted
  obtain ⟨later, kept, continues⟩ := (good.evolves rules_sound stepped).profiles table profile stored
  obtain ⟨entry, logged, _⟩ := System.step_log stepped
  refine ⟨table, later, kept, continues.userId.trans owner, ?_⟩
  show Status.approved ∈ decisions table later.id next.log
  rw [continues.id, logged]
  exact @decisions_append _ table profile.id [entry] system.log _ approved

/-- A voter whose check succeeded is admitted. -/
theorem VoterChecked.admitted {process voterId : Nat} {world : World app}
    (checked : VoterChecked process voterId world.store.rows world.log) :
    Admitted world voterId := by
  obtain ⟨profile, stored, owner, approved⟩ := checked
  refine ⟨.voterProfiles, profile, stored, owner, ?_⟩
  have present := @decisions_append _ .voterProfiles profile.id (since process isVoterCheck world.log)
    _ _ (approved_of_standing approved)
  rw [since_append_upTo] at present
  exact present

/-- A candidate whose check succeeded is admitted. -/
theorem CandidateChecked.admitted {process candidateId : Nat} {world : World app}
    (checked : CandidateChecked process candidateId world.store.rows world.log) :
    Admitted world candidateId := by
  obtain ⟨profile, stored, owner, _, approved⟩ := checked
  refine ⟨.candidateProfiles, profile, stored, owner, ?_⟩
  have present := @decisions_append _ .candidateProfiles profile.id
    (since process isCandidateCheck world.log) _ _ (approved_of_standing approved)
  rw [since_append_upTo] at present
  exact present

/-- Who voted was admitted, and so was whoever was voted for. -/
theorem vote_admitted {system : System app} (reachable : system.Reachable) :
    ∀ vote ∈ system.store.rows.votes,
      Admitted system.toWorld vote.voterId ∧ Admitted system.toWorld vote.candidateId := by
  let kept (state : System app) : Prop := ∀ vote ∈ state.store.rows.votes,
    Admitted state.toWorld vote.voterId ∧ Admitted state.toWorld vote.candidateId
  have start : kept (System.initial app) := by
    intro vote present
    simp [System.initial, app, Database.rows, Database.absent] at present
  have keeps {state next : System app} {event : Event app} {entry : Entry app}
      (good : rules.Good state) (before : kept state) (stepped : state.step event = some next)
      (did : rules.Stepped state next entry) : kept next := by
    intro vote present
    have older (old : Vote) (stored : old ∈ state.store.rows.votes) :
        Admitted next.toWorld old.voterId ∧ Admitted next.toWorld old.candidateId := by
      obtain ⟨voter, candidate⟩ := before old stored
      exact ⟨admitted_step good stepped voter, admitted_step good stepped candidate⟩
    cases did with
    | unserved _ same _ _ =>
      rw [same] at present
      exact older vote present
    | served _ _ permit served _ =>
      obtain ⟨change, _⟩ := serve_written served
      generalize next.store.rows = rows at change present
      cases change with
      | vote voterId candidateId =>
        rcases List.mem_append.mp present with old | new
        · exact older vote old
        · obtain rfl := List.mem_singleton.mp new
          obtain ⟨_, voter, candidate⟩ := permit
          exact ⟨admitted_step good stepped voter.admitted,
            admitted_step good stepped candidate.admitted⟩
      | nothing | seed | user | profile | status | post => exact older vote present
  exact rules_sound.reachable_keeps start keeps reachable

/-- The election of a reachable state. -/
noncomputable def electionOf (system : System app) (reachable : system.Reachable) :
    Election Nat where
  role id := (system.store.rows.rolesOf id).head?
  standing userId := (system.store.rows.statusesOf userId).head?
  admitted := {userId | Admitted system.toWorld userId}
  choice voterId := (system.store.rows.choicesOf voterId).head?
  finite := by
    apply (system.store.rows.users.map User.id).toFinset.finite_toSet.subset
    intro id member
    obtain ⟨role, known⟩ := Option.ne_none_iff_exists'.mp member
    obtain ⟨user, stored, rfl, _⟩ := (role_iff system.store id role).mp known
    simpa using ⟨user, stored, rfl⟩
  applicants := by
    intro userId applied
    have good := good_of_reachable reachable
    obtain ⟨status, known⟩ := Option.ne_none_iff_exists'.mp applied
    obtain ⟨table, profile, stored, rfl, _⟩ := (standing_iff good.invariant.roles _ _).mp known
    have role := (role_iff system.store _ _).mpr (good.invariant.roles table profile stored)
    cases table with
    | voterProfiles => exact .inl role
    | candidateProfiles => exact .inr role
  decided := by
    rintro userId ⟨table, profile, stored, rfl, approved⟩
    have good := good_of_reachable reachable
    have now := (standing_iff good.invariant.roles profile.userId profile.status).mpr
      ⟨table, profile, stored, rfl, rfl⟩
    have status := good.invariant.standings table profile stored
    have decided : profile.status ≠ .pending := by
      rw [status, standing]
      cases newest : (decisions table profile.id system.log).head? with
      | none =>
        rw [List.head?_eq_none_iff] at newest
        rw [newest] at approved
        contradiction
      | some last =>
        exact (good.invariant.decided table profile.id last (List.mem_of_mem_head? newest)).1
    rw [now]
    exact ⟨by simp, by simpa using decided⟩
  voters := by
    intro voter voted
    have good := good_of_reachable reachable
    obtain ⟨candidate, known⟩ := Option.ne_none_iff_exists'.mp voted
    obtain ⟨vote, stored, rfl, _⟩ := (choice_iff system.store _ _).mp known
    obtain ⟨⟨profile, applied, owner, _⟩, _⟩ := good.invariant.ballots vote stored
    have role := good.invariant.roles .voterProfiles profile applied
    rw [owner] at role
    exact ⟨(role_iff _ _ _).mpr role, (vote_admitted reachable vote stored).1⟩
  candidates := by
    intro voter candidate chosen
    have good := good_of_reachable reachable
    obtain ⟨vote, stored, _, rfl⟩ := (choice_iff system.store _ _).mp chosen
    obtain ⟨_, profile, applied, owner, _⟩ := good.invariant.ballots vote stored
    have role := good.invariant.roles .candidateProfiles profile applied
    rw [owner] at role
    exact ⟨(role_iff _ _ _).mpr role, (vote_admitted reachable vote stored).2⟩

/-- Nobody is a member before any process has run. -/
theorem electionOf_initial (reachable : (System.initial app).Reachable) :
    electionOf (System.initial app) reachable = .empty := by
  have none (userId : Nat) : ¬ Admitted (System.initial app).toWorld userId := by
    rintro ⟨table, profile, stored, _, approved⟩
    contradiction
  ext userId
  · rfl
  · rfl
  · exact ⟨fun admitted => absurd admitted (none userId), fun impossible => absurd impossible id⟩
  · rfl

end

end OnlineVoting
