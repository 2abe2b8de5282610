import OnlineVoting.ElectionOf
import OnlineVoting.Results

/-!
# The program conducts an election

Every step of the program is one of the happenings of an election, under the conditions of that
happening, or changes nothing of the election that the tables and the log are. So whatever the
sessions of any number of processes do, in whatever order, they conduct one election, and what
holds of every election holds of the program.
-/
namespace OnlineVoting

open Interleaving Refinement

section

variable [Platform]

/-! ## What a step is for the election -/

/-- What a step is for the election, if anything. -/
def happening (rows : Rows) (entry : Entry app) : Option (Happening Nat) :=
  match entry.action with
  | .served (.seedAdmin _) choice (.ok added) =>
    if 0 < added then some (.joined choice.id .admin) else none
  | .served (.insertUser _ _ _ role) choice (.ok _) =>
    (Role.ofLabel role).map fun role => .joined choice.id role
  | .served (.insertProfile _ userId _) _ (.ok _) => some (.applied userId)
  | .served (.updateStatus table status id) _ (.ok found) =>
    if 0 < found then
      entry.loop.session.bind fun session =>
        ((rows.profiles table).find? fun profile => profile.id = id).map fun profile =>
          .decided session.1 profile.userId status
    else none
  | .served (.insertVote voterId candidateId) _ (.ok _) => some (.voted voterId candidateId)
  | _ => none

/-- The program as a machine, whose steps are known by what they are for the election. -/
def sessions : Machine (System app) (Happening Nat) where
  starts system := system = System.initial app
  steps system label next := ∃ event entry, system.step event = some next ∧
    next.log = entry :: system.log ∧ happening system.store.rows entry = label

/-! ## What a step does to the election -/

/-- States that differ in their posts, and in steps that decide nothing, are one election. -/
theorem electionOf_same {system next : System app} (reachable : system.Reachable)
    (reachable' : next.Reachable) (users : next.store.rows.users = system.store.rows.users)
    (profiles : next.store.rows.profiles = system.store.rows.profiles)
    (votes : next.store.rows.votes = system.store.rows.votes)
    (log : ∀ table id, decisions table id next.log = decisions table id system.log) :
    electionOf next reachable' = electionOf system reachable := by
  have admitted (userId : Nat) : Admitted next.toWorld userId ↔ Admitted system.toWorld userId := by
    simp [Admitted, profiles, log]
  ext1
  · simp [electionOf, Rows.rolesOf, users]
  · simp only [electionOf, Rows.statusesOf, Rows.voters, Rows.candidates, profiles]
  · exact Set.ext admitted
  · simp [electionOf, Rows.choicesOf, votes]

omit [Platform] in
/-- A new user has its role. -/
theorem rolesOf_addUser (rows : Rows) (user : User) (id : Nat) :
    (rows.addUser user).rolesOf id =
      rows.rolesOf id ++ if user.id = id then [user.role] else [] := by
  by_cases same : user.id = id
  · simp [Rows.rolesOf, Rows.addUser, same]
  · simp [Rows.rolesOf, Rows.addUser, same]

omit [Platform] in
/-- A new application counts for its user. -/
theorem statusesOf_addProfile (rows : Rows) {table : ProfileTable} (profile : Profile table.Entries)
    {userId : Nat} (other : userId ≠ profile.userId) :
    (rows.addProfile table profile).statusesOf userId = rows.statusesOf userId := by
  cases table with
  | voterProfiles =>
    simp [Rows.statusesOf, Rows.addProfile, Rows.voters, Rows.candidates, other.symm]
  | candidateProfiles =>
    simp [Rows.statusesOf, Rows.addProfile, Rows.voters, Rows.candidates, other.symm]

/-- A decision on the application of one user leaves those of others as they are. -/
theorem statusesOf_decideProfile {database : Database} {table : ProfileTable}
    {profile : Profile table.Entries} (stored : profile ∈ database.rows.profiles table)
    (status : Status) {userId : Nat} (other : userId ≠ profile.userId) :
    (database.rows.decideProfile table profile.id status).statusesOf userId =
      database.rows.statusesOf userId := by
  have kept (found : ProfileTable) :
      ((database.rows.decideProfile table profile.id status).profiles found).filter
          (fun row => row.userId = userId) =
        (database.rows.profiles found).filter fun row => row.userId = userId := by
    by_cases same : found = table
    · subst same
      simp only [Rows.decideProfile, Function.update_self, List.filter_map]
      have owners : (fun row : Profile found.Entries => decide (row.userId = userId)) ∘
          Profile.decide profile.id status = fun row => decide (row.userId = userId) := by
        funext row
        simp
      rw [owners]
      conv_rhs => rw [← List.map_id ((database.rows.profiles found).filter _)]
      apply List.map_congr_left
      intro row present
      obtain ⟨known, owner⟩ := List.mem_filter.mp present
      have apart : (row.id : Int) ≠ profile.id := by
        intro clash
        have one := database.profile_unique known stored (.inl (Int.ofNat.inj clash))
        rw [one] at owner
        exact other (of_decide_eq_true owner).symm
      simp [Profile.decide, apart]
    · simp [Rows.decideProfile, same]
  have voters := congrArg (List.map Profile.status) (kept .voterProfiles)
  have candidates := congrArg (List.map Profile.status) (kept .candidateProfiles)
  exact congrArg₂ (· ++ ·) voters candidates

omit [Platform] in
/-- A new vote is the choice of its voter. -/
theorem choicesOf_addVote (rows : Rows) (vote : Vote) (voterId : Nat) :
    (rows.addVote vote).choicesOf voterId =
      rows.choicesOf voterId ++ if vote.voterId = voterId then [vote.candidateId] else [] := by
  by_cases same : vote.voterId = voterId
  · simp [Rows.choicesOf, Rows.addVote, same]
  · simp [Rows.choicesOf, Rows.addVote, same]

/-- A step after which a user is stored is that user's joining. -/
theorem join_step {system next : System app} (reachable : system.Reachable)
    (reachable' : next.Reachable) {user : User}
    (added : next.store.rows = system.store.rows.addUser user)
    (log : ∀ table id, decisions table id next.log = decisions table id system.log) :
    (electionOf system reachable).Step (some (.joined user.id user.role))
      (electionOf next reachable') := by
  have none : system.store.rows.rolesOf user.id = [] := by
    rw [Rows.rolesOf, List.map_eq_nil_iff, List.filter_eq_nil_iff]
    intro old stored same
    exact Database.fresh_user added old stored (.inl (of_decide_eq_true same))
  have new : (electionOf system reachable).role user.id = Option.none := by
    simp [electionOf, none]
  have same : electionOf next reachable' = (electionOf system reachable).join user.id user.role new := by
    ext1
    · funext id
      by_cases own : id = user.id
      · simp [electionOf, Election.join, added, rolesOf_addUser, own, none]
      · simp [electionOf, Election.join, added, rolesOf_addUser, own, Ne.symm own]
    · simp [electionOf, Election.join, added, Rows.statusesOf, Rows.addUser]
    · ext userId
      simp [electionOf, Election.join, Admitted, added, Rows.addUser, log]
    · simp [electionOf, Election.join, added, Rows.choicesOf, Rows.addUser]
  rw [same]
  exact .joined new

/-- A step after which an application is stored is that user's application. -/
theorem apply_step {system next : System app} (reachable : system.Reachable)
    (reachable' : next.Reachable) {table : ProfileTable} {profile : Profile table.Entries}
    (added : next.store.rows = system.store.rows.addProfile table profile)
    (pending : profile.status = .pending)
    (role : system.store.rows.HasRole profile.userId table.role)
    (log : ∀ table id, decisions table id next.log = decisions table id system.log) :
    (electionOf system reachable).Step (some (.applied profile.userId))
      (electionOf next reachable') := by
  have good := good_of_reachable reachable
  have good' := good_of_reachable reachable'
  have stored : profile ∈ next.store.rows.profiles table := by
    simp [added, Rows.addProfile]
  have fresh := Database.fresh_profile added
  have may : (electionOf system reachable).role profile.userId = some .voter ∨
      (electionOf system reachable).role profile.userId = some .candidate := by
    have known := (role_iff system.store _ _).mpr role
    cases table with
    | voterProfiles => exact .inl known
    | candidateProfiles => exact .inr known
  have new : (electionOf system reachable).standing profile.userId = none := by
    apply standing_none.mpr
    intro other old present owner
    have kept : old ∈ next.store.rows.profiles other := by
      by_cases same : other = table
      · subst same
        simp [added, Rows.addProfile, present]
      · simpa [added, Rows.addProfile, same] using present
    obtain ⟨rfl, _⟩ := application_unique good'.invariant.roles kept stored owner
    exact fresh old present (.inr owner)
  have same : electionOf next reachable' =
      (electionOf system reachable).apply profile.userId may new := by
    ext1
    · simp [electionOf, Election.apply, added, Rows.rolesOf, Rows.addProfile]
    · funext userId
      by_cases own : userId = profile.userId
      · have now := (standing_iff good'.invariant.roles userId .pending).mpr
          ⟨table, profile, stored, own.symm, pending⟩
        simpa [electionOf, Election.apply, own] using now
      · simp [electionOf, Election.apply, own, added, statusesOf_addProfile _ profile own]
    · ext userId
      show Admitted next.toWorld userId ↔ Admitted system.toWorld userId
      constructor
      · rintro ⟨other, found, present, owner, approved⟩
        simp only [added] at present
        simp only [log] at approved
        cases Rows.mem_addProfile present with
        | old stored => exact ⟨other, found, stored, owner, approved⟩
        | new =>
          -- No decision was made under an identifier that no application had.
          obtain ⟨_, old, known, clash⟩ := good.invariant.decided table profile.id _ approved
          exact absurd (.inl clash) (fresh old known)
      · rintro ⟨other, found, present, owner, approved⟩
        refine ⟨other, found, ?_, owner, ?_⟩
        · show found ∈ next.store.rows.profiles other
          by_cases same : other = table
          · subst same
            simp [added, Rows.addProfile, present]
          · simpa [added, Rows.addProfile, same] using present
        · simpa [log] using approved
    · simp [electionOf, Election.apply, added, Rows.choicesOf, Rows.addProfile]
  rw [same]
  exact .applied may new

/-- A decision admits the user whose application it approves, and nobody else. -/
theorem admitted_decide {system next : System app} {table : ProfileTable} {profile : Profile table.Entries}
    (stored : profile ∈ system.store.rows.profiles table) {status : Status}
    (decided : next.store.rows = system.store.rows.decideProfile table profile.id status)
    (final : status ≠ .pending)
    (log : ∀ other id, decisions other id next.log =
      (if other = table ∧ id = profile.id then [status] else []) ++ decisions other id system.log)
    (userId : Nat) : Admitted next.toWorld userId ↔
      (userId = profile.userId ∧ status = .approved) ∨ Admitted system.toWorld userId := by
  have evolves := system.store.rows.evolves_decideProfile table profile.id final
  rw [← decided] at evolves
  constructor
  · rintro ⟨other, found, present, rfl, approved⟩
    simp only [decided] at present
    simp only [log, List.mem_append] at approved
    obtain ⟨old, known, sameId, sameUser, _⟩ := Rows.origin_decideProfile present
    rcases approved with new | earlier
    · split at new
      · rename_i here
        obtain ⟨rfl, id⟩ := here
        have one := system.store.profile_unique known stored (.inl (sameId.trans id))
        rw [one] at sameUser
        exact .inl ⟨sameUser.symm, (List.mem_singleton.mp new).symm⟩
      · contradiction
    · rw [← sameId] at earlier
      exact .inr ⟨other, old, known, sameUser, earlier⟩
  · rintro (⟨rfl, rfl⟩ | ⟨other, found, known, owner, approved⟩)
    · obtain ⟨later, kept, continues⟩ := evolves.profiles table profile stored
      refine ⟨table, later, kept, continues.userId, ?_⟩
      show Status.approved ∈ decisions table later.id next.log
      simp [log, continues.id]
    · obtain ⟨later, kept, continues⟩ := evolves.profiles other found known
      refine ⟨other, later, kept, continues.userId.trans owner, ?_⟩
      show Status.approved ∈ decisions other later.id next.log
      rw [log, continues.id]
      exact List.mem_append_right _ approved

/-- A step that stores a status is the decision of an application. -/
theorem decide_step {system next : System app} (reachable : system.Reachable)
    (reachable' : next.Reachable) {table : ProfileTable} {profile : Profile table.Entries}
    (stored : profile ∈ system.store.rows.profiles table) {status : Status}
    (decided : next.store.rows = system.store.rows.decideProfile table profile.id status)
    (final : status ≠ .pending) {official : Nat} {role : Role}
    (known : system.store.rows.HasRole official role)
    (charge : Election.decides role table.role = true)
    (log : ∀ other id, decisions other id next.log =
      (if other = table ∧ id = profile.id then [status] else []) ++ decisions other id system.log) :
    (electionOf system reachable).Step (some (.decided official profile.userId status))
      (electionOf next reachable') := by
  have good := good_of_reachable reachable
  have good' := good_of_reachable reachable'
  have officialRole := (role_iff system.store official role).mpr known
  have personRole := (role_iff system.store profile.userId table.role).mpr
    (good.invariant.roles table profile stored)
  have applied : (electionOf system reachable).standing profile.userId ≠ none := by
    intro none
    exact standing_none.mp none table profile stored rfl
  have present : profile.decide profile.id status ∈ next.store.rows.profiles table := by
    rw [decided]
    simp only [Rows.decideProfile, Function.update_self]
    exact List.mem_map_of_mem stored
  have same : electionOf next reachable' =
      (electionOf system reachable).decide profile.userId status applied final := by
    ext1
    · simp [electionOf, Election.decide, decided, Rows.rolesOf, Rows.decideProfile]
    · funext userId
      by_cases own : userId = profile.userId
      · have now := (standing_iff good'.invariant.roles userId status).mpr
          ⟨table, _, present, by rw [Profile.decide_userId, own], by simp [Profile.decide]⟩
        simpa [electionOf, Election.decide, own] using now
      · simp [electionOf, Election.decide, own, decided, statusesOf_decideProfile stored status own]
    · ext userId
      have now : ((electionOf system reachable).decide profile.userId status applied final).admitted =
          if status = .approved then insert profile.userId (electionOf system reachable).admitted
          else (electionOf system reachable).admitted := rfl
      have admitted := admitted_decide stored decided final log userId
      rw [now]
      by_cases approved : status = .approved
      · rw [if_pos approved]
        exact admitted.trans (by simp [approved, electionOf])
      · rw [if_neg approved]
        exact admitted.trans (by simp [approved, electionOf])
    · simp [electionOf, Election.decide, decided, Rows.choicesOf, Rows.decideProfile]
  rw [same]
  exact .decided officialRole personRole charge applied final

/-- A step that stores a vote is a vote of the election. -/
theorem vote_step {system next : System app} (reachable : system.Reachable)
    (reachable' : next.Reachable) {vote : Vote}
    (added : next.store.rows = system.store.rows.addVote vote)
    (voter : system.store.rows.HasRole vote.voterId .voter ∧ Admitted system.toWorld vote.voterId)
    (candidate : system.store.rows.HasRole vote.candidateId .candidate ∧
      Admitted system.toWorld vote.candidateId)
    (log : ∀ table id, decisions table id next.log = decisions table id system.log) :
    (electionOf system reachable).Step (some (.voted vote.voterId vote.candidateId))
      (electionOf next reachable') := by
  have fresh := Relational.Table.rowsOf_fresh (congrArg Rows.votes added)
  have none : system.store.rows.choicesOf vote.voterId = [] := by
    rw [Rows.choicesOf, List.map_eq_nil_iff, List.filter_eq_nil_iff]
    intro old stored same
    exact fresh old stored (.inr (of_decide_eq_true same))
  have may : (electionOf system reachable).role vote.voterId = some .voter ∧
      vote.voterId ∈ (electionOf system reachable).admitted :=
    ⟨(role_iff _ _ _).mpr voter.1, voter.2⟩
  have stands : (electionOf system reachable).role vote.candidateId = some .candidate ∧
      vote.candidateId ∈ (electionOf system reachable).admitted :=
    ⟨(role_iff _ _ _).mpr candidate.1, candidate.2⟩
  have first : (electionOf system reachable).choice vote.voterId = Option.none := by
    simp [electionOf, none]
  have same : electionOf next reachable' =
      (electionOf system reachable).vote vote.voterId vote.candidateId may stands := by
    ext1
    · simp [electionOf, Election.vote, added, Rows.rolesOf, Rows.addVote]
    · simp [electionOf, Election.vote, added, Rows.statusesOf, Rows.addVote]
    · ext userId
      simp [electionOf, Election.vote, Admitted, added, Rows.addVote, log]
    · funext voterId
      by_cases own : voterId = vote.voterId
      · simp [electionOf, Election.vote, added, choicesOf_addVote, own, none]
      · simp [electionOf, Election.vote, added, choicesOf_addVote, own, Ne.symm own]
  rw [same]
  exact .voted may stands first

/-- The seed adds the account of the administrator exactly if it counts one row. -/
theorem seed_rows {choice : Choice} {database next : Database} {passwordHash : String}
    {answer : Answer (.seedAdmin passwordHash)}
    (served : serve (.seedAdmin passwordHash) choice database = some (next, answer)) :
    (answer = .ok 1 ∧ next.rows = database.rows.addUser (adminUser choice.id passwordHash)) ∨
      ((∀ added, answer = .ok added → added = 0) ∧ next.rows = database.rows) := by
  unfold serve at served
  split at served
  · obtain ⟨rfl, rfl⟩ := Prod.mk.inj (Option.some.inj served)
    exact .inr ⟨by simp, rfl⟩
  · obtain ⟨outcome, result, same⟩ := Option.map_eq_some_iff.mp served
    cases outcome with
    | ok grown =>
      obtain ⟨rfl, rfl⟩ := Prod.mk.inj same
      exact .inl ⟨rfl, (Database.storeUser_rows result).1⟩
    | error exception =>
      obtain ⟨rfl, rfl⟩ := Prod.mk.inj same
      refine .inr ⟨fun added counted => ?_, rfl⟩
      split at counted
      · exact (Except.ok.inj counted).symm
      · contradiction

/-- A step that reports no success as a decision is none. -/
theorem decisions_other {entry : Entry app} {log : List (Entry app)}
    (other : ∀ table status id choice found,
      entry.action = .served (.updateStatus table status id) choice (.ok found) → found = 0)
    (table : ProfileTable) (id : Nat) :
    decisions table id (entry :: log) = decisions table id log := by
  have none : decisionOf table id entry = none := by
    cases decided : decisionOf table id entry with
    | none => rfl
    | some status =>
      obtain ⟨choice, found, action, some⟩ := decisionOf_eq_some decided
      rw [other _ _ _ _ _ action] at some
      exact absurd some (Nat.lt_irrefl 0)
  simp [decisions, none]

/-- Every step of the program is a happening of the election, under its conditions, or leaves the
election as it is. -/
theorem election_step {system next : System app} (reachable : system.Reachable)
    (reachable' : next.Reachable) {event : Event app} {entry : Entry app}
    (stepped : system.step event = some next) (logged : next.log = entry :: system.log) :
    match happening system.store.rows entry with
    | some label => (electionOf system reachable).Step (some label) (electionOf next reachable')
    | none => electionOf next reachable' = electionOf system reachable := by
  have good := good_of_reachable reachable
  cases good.stepped_entry rules_sound stepped logged with
  | unserved _ kept other _ =>
    have nothing : happening system.store.rows entry = none := by
      unfold happening
      split <;> first | rfl | exact absurd ‹_› (other _ _ _)
    rw [nothing]
    refine electionOf_same reachable reachable' (by rw [kept]) (by rw [kept]) (by rw [kept])
      fun table id => ?_
    rw [logged]
    exact decisions_other (fun _ _ _ _ _ action => absurd action (other _ _ _)) table id
  | @served process loop stmt choice answer printed _ ready permit served prints =>
    have account (id : Nat) (role : Role) (session : loop.session = some (id, role)) :
        system.store.rows.HasRole id role := ready.account id role session
    by_cases seeds : ∃ passwordHash, stmt = .seedAdmin passwordHash
    · obtain ⟨passwordHash, rfl⟩ := seeds
      have log (table : ProfileTable) (id : Nat) :
          decisions table id next.log = decisions table id system.log := by
        rw [logged]
        exact decisions_other (by simp) table id
      rcases seed_rows served with ⟨rfl, added⟩ | ⟨zero, same⟩
      · exact join_step reachable reachable' added log
      · have nothing : happening system.store.rows
            ⟨process, loop, .served (.seedAdmin passwordHash) choice answer, printed⟩ = none := by
          cases answer with
          | error _ => rfl
          | ok added => simp [happening, zero added rfl]
        rw [nothing]
        exact electionOf_same reachable reachable' (by rw [same]) (by rw [same]) (by rw [same]) log
    · obtain ⟨change, _⟩ := serve_written served
      generalize changed : next.store.rows = rows at change
      have log (other : ∀ table status id found, stmt = .updateStatus table status id →
          HEq answer (.ok found : Answer (.updateStatus table status id)) → found = 0)
          (table : ProfileTable) (id : Nat) :
          decisions table id next.log = decisions table id system.log := by
        rw [logged]
        refine decisions_other (fun table status id choice' found action => ?_) table id
        obtain ⟨same, _, answered⟩ := Action.served.inj action
        exact other table status id found same answered
      cases change with
      | nothing quiet =>
        have nothing : happening system.store.rows
            ⟨process, loop, .served stmt choice answer, printed⟩ = none := by
          cases stmt with
          | seedAdmin passwordHash => exact absurd ⟨passwordHash, rfl⟩ seeds
          | updateStatus table status id =>
            cases answer with
            | error _ => rfl
            | ok found =>
              have zero : ¬ 0 < found := by simpa [succeeds] using quiet
              simp [happening, zero]
          | insertUser | insertProfile | insertVote =>
            cases answer with
            | error _ => rfl
            | ok _ => contradiction
          | _ => rfl
        rw [nothing]
        refine electionOf_same reachable reachable' (by rw [changed]) (by rw [changed])
          (by rw [changed]) (log ?_)
        rintro table status id found rfl answered
        obtain rfl := eq_of_heq answered
        simpa [succeeds] using quiet
      | seed passwordHash => exact absurd ⟨passwordHash, rfl⟩ seeds
      | user username passwordHash name role parsed named =>
        have joined := join_step reachable reachable' changed (log (by simp))
        simpa [happening, named] using joined
      | profile table userId entries =>
        exact apply_step reachable reachable' changed rfl (account _ _ permit.1) (log (by simp))
      | status table status id found some stored =>
        obtain ⟨profile, present, rfl⟩ := stored
        have final := Permit.decided permit table status _ rfl
        have one : ((system.store.rows.profiles table).find? fun other =>
            (other.id : Int) = profile.id) = .some profile := by
          obtain ⟨other, found⟩ : ∃ other, ((system.store.rows.profiles table).find? fun other =>
              (other.id : Int) = profile.id) = .some other := by
            rw [← Option.isSome_iff_exists, List.find?_isSome]
            exact ⟨profile, present, by simp⟩
          have same := List.find?_some found
          simp only [decide_eq_true_iff] at same
          have known := List.mem_of_find?_eq_some found
          rw [found, system.store.profile_unique known present (.inl (Int.ofNat.inj same))]
        have decisions_now (other : ProfileTable) (id : Nat) : decisions other id next.log =
            (if other = table ∧ id = profile.id then [status] else []) ++
              decisions other id system.log := by
          rw [logged, decisions_cons]
          congr 1
          by_cases here : other = table ∧ id = profile.id
          · obtain ⟨rfl, rfl⟩ := here
            simp [decisionOf, some]
          · rw [if_neg here]
            have apart : ¬ (table = other ∧ (profile.id : Int) = id ∧ 0 < found) := by
              rintro ⟨rfl, same, _⟩
              exact here ⟨rfl, (Int.ofNat.inj same).symm⟩
            simp only [decisionOf, if_neg apart, Option.toList_none]
        have official : ∃ id role, loop.session = .some (id, role) ∧
            Election.decides role table.role = true := by
          rcases permit.1 with ⟨admin, rfl⟩ | ⟨rfl, officer, rfl⟩
          · exact ⟨admin, .admin, rfl, rfl⟩
          · exact ⟨officer, .fieldOfficer, rfl, rfl⟩
        obtain ⟨id, role, session, charge⟩ := official
        have step := decide_step reachable reachable' present changed final
          (account id role session) charge decisions_now
        have label : happening system.store.rows ⟨process, loop,
            .served (.updateStatus table status profile.id) choice (.ok found), printed⟩ =
              .some (.decided id profile.userId status) := by
          simp only [happening, if_pos some, session, Option.bind_some, one, Option.map_some]
        rw [label]
        exact step
      | vote voterId candidateId =>
        have voter : VoterChecked process voterId system.store.rows system.log := permit.2.1
        have candidate : CandidateChecked process candidateId system.store.rows system.log :=
          permit.2.2
        have admitted : Admitted system.toWorld candidateId := candidate.admitted
        obtain ⟨profile, stored, rfl, _⟩ := candidate
        have stands := good.invariant.roles .candidateProfiles profile stored
        exact vote_step reachable reachable' changed ⟨account _ _ permit.1, voter.admitted⟩
          ⟨stands, admitted⟩ (log (by simp))
      | post userId content =>
        exact electionOf_same reachable reachable' (by rw [changed]; rfl) (by rw [changed]; rfl)
          (by rw [changed]; rfl) (log (by simp))

/-! ## Runs of the program -/

/-- A reachable state is matched by its election. -/
def Conducts (system : System app) (election : Election Nat) : Prop :=
  ∃ reachable : system.Reachable, election = electionOf system reachable

/-- The program refines the election: what its sessions do is what may happen in an election. -/
theorem sessions_refine : Simulates sessions Election.machine Conducts := by
  constructor
  · rintro _ rfl
    have reachable : (System.initial app).Reachable := ⟨[], rfl⟩
    exact ⟨.empty, rfl, reachable, (electionOf_initial reachable).symm⟩
  · rintro system next _ label ⟨reachable, rfl⟩ ⟨event, entry, stepped, logged, same⟩
    have reachable' := reachable.step stepped
    have step := election_step reachable reachable' stepped logged
    rw [same] at step
    exact ⟨electionOf next reachable', step, reachable', rfl⟩
  · rintro system next _ ⟨reachable, rfl⟩ ⟨event, entry, stepped, logged, same⟩
    have reachable' := reachable.step stepped
    have step := election_step reachable reachable' stepped logged
    rw [same] at step
    exact ⟨reachable', step.symm⟩

/-- What happens in a run, step by step. -/
def happenings (system : System app) : List (Event app) → List (Happening Nat)
  | [] => []
  | event :: later =>
    match system.step event with
    | none => []
    | some next =>
      (next.log.head?.bind (happening system.store.rows)).toList ++ happenings next later

/-- A run of the program is a run of the machine, with what happens in it. -/
theorem sessions_runs {system last : System app} {events : List (Event app)}
    (ran : system.run events = some last) :
    sessions.Runs system (happenings system events) last := by
  induction events generalizing system with
  | nil =>
    obtain rfl := Option.some.inj ran
    exact .nil system
  | cons event later ih =>
    obtain ⟨next, stepped, ran⟩ := System.run_cons ran
    obtain ⟨entry, logged, _⟩ := System.step_log stepped
    have step : sessions.steps system (happening system.store.rows entry) next :=
      ⟨event, entry, stepped, logged, rfl⟩
    simp only [happenings, stepped, logged, List.head?_cons, Option.bind_some]
    exact .cons step (ih ran)

/-- Whatever the sessions do between two states, in whatever order, is a run of the election from
the one to the other. -/
theorem conducts_election {system last : System app} {events : List (Event app)}
    (reachable : system.Reachable) (ran : system.run events = some last) :
    Election.machine.Runs (electionOf system reachable) (happenings system events)
      (electionOf last (reachable.run ran)) := by
  have start : Conducts system (electionOf system reachable) := ⟨reachable, rfl⟩
  obtain ⟨image, runs, _, rfl⟩ := sessions_refine.run (sessions_runs ran) start
  exact runs

/-- A state is an election that started without members, with all that happened in the run. -/
theorem election_reached {last : System app} {events : List (Event app)}
    (ran : (System.initial app).run events = some last) :
    Election.machine.Reaches (happenings (System.initial app) events)
      (electionOf last ⟨events, ran⟩) := by
  have reached : sessions.Reaches (happenings (System.initial app) events) last :=
    ⟨System.initial app, rfl, sessions_runs ran⟩
  obtain ⟨image, reaches, _, rfl⟩ := sessions_refine.reaches reached
  exact reaches

/-- In every run, the vote of one account for another comes after an approval of the voter's
application by an administrator or a field officer and one of the candidate's by an administrator,
is of a VOTER for a CANDIDATE, and is the voter's only one. -/
theorem votes_authorized {last : System app} {events : List (Event app)}
    (ran : (System.initial app).run events = some last) {before after : List (Happening Nat)}
    {voterId candidateId : Nat}
    (parts : happenings (System.initial app) events =
      before ++ .voted voterId candidateId :: after) :
    (∃ official, .decided official voterId .approved ∈ before ∧
      (last.store.rows.HasRole official .admin ∨
        last.store.rows.HasRole official .fieldOfficer)) ∧
    (∃ official, .decided official candidateId .approved ∈ before ∧
      last.store.rows.HasRole official .admin) ∧
    last.store.rows.HasRole voterId .voter ∧ last.store.rows.HasRole candidateId .candidate ∧
    ∀ other, .voted voterId other ∉ before ∧ .voted voterId other ∉ after := by
  have role (id : Nat) (role : Role) := role_iff last.store id role
  obtain ⟨⟨official, approves, charge⟩, ⟨admin, approves', charge'⟩, votes, runsFor, once⟩ :=
    Election.vote_authorized (election_reached ran) parts
  refine ⟨⟨official, approves, ?_⟩, ⟨admin, approves', ?_⟩, ?_, ?_, once⟩
  · exact charge.imp (role official .admin).mp (role official .fieldOfficer).mp
  · exact (role admin .admin).mp charge'
  · exact (role voterId .voter).mp votes
  · exact (role candidateId .candidate).mp runsFor

/-! ## The count of the election -/

omit [Platform] in
/-- Rows with different keys are as many as their keys. -/
private theorem ncard_keys {Row : Type} {rows : List Row} {key : Row → Nat}
    (apart : rows.Pairwise fun left right => key left ≠ key right) (keep : Row → Bool) :
    {value | ∃ row ∈ rows, keep row = true ∧ key row = value}.ncard = rows.countP keep := by
  have keys : {value | ∃ row ∈ rows, keep row = true ∧ key row = value} =
      ↑((rows.filter keep).map key).toFinset := by
    ext value
    simp [and_assoc]
  have distinct : ((rows.filter keep).map key).Nodup :=
    List.pairwise_map.mpr (apart.filter _)
  rw [keys, Set.ncard_coe_finset, List.toFinset_card_of_nodup distinct, List.length_map,
    List.countP_eq_length_filter]

/-- The votes for a candidate in the election are the rows with its identifier. -/
theorem tally_electionOf (system : System app) (reachable : system.Reachable) (candidateId : Nat) :
    (electionOf system reachable).tally candidateId = system.store.rows.votesFor candidateId := by
  have apart : system.store.rows.votes.Pairwise fun left right => left.voterId ≠ right.voterId :=
    (Relational.Table.rowsOf_distinct system.store.votes).imp fun free same => free (.inr same)
  rw [Rows.votesFor, ← ncard_keys apart]
  refine congrArg Set.ncard (Set.ext fun voterId => ?_)
  refine (choice_iff system.store voterId candidateId).trans ?_
  simp [and_comm]

/-- In every run, the votes stored for a candidate are those that were cast for it on the way. -/
theorem votesFor_happenings {last : System app} {events : List (Event app)}
    (ran : (System.initial app).run events = some last) (candidateId : Nat) :
    last.store.rows.votesFor candidateId =
      ((happenings (System.initial app) events).map (Happening.votesFor candidateId)).sum := by
  obtain ⟨first, starts, runs⟩ := election_reached ran
  have begins : first = .empty := starts
  have none : (Election.empty : Election Nat).tally candidateId = 0 := by
    simp [Election.tally, Election.empty]
  have count := Election.tally_of_runs runs candidateId
  rw [begins, none, Nat.zero_add] at count
  exact (tally_electionOf last ⟨events, ran⟩ candidateId).symm.trans count

/-- As many people voted in the election as there are rows. -/
theorem turnout_electionOf (system : System app) (reachable : system.Reachable) :
    (electionOf system reachable).turnout = system.store.rows.votes.length := by
  have apart : system.store.rows.votes.Pairwise fun left right => left.voterId ≠ right.voterId :=
    (Relational.Table.rowsOf_distinct system.store.votes).imp fun free same => free (.inr same)
  rw [← List.countP_true, ← ncard_keys apart]
  refine congrArg Set.ncard (Set.ext fun voterId => ?_)
  simp only [true_and]
  show (electionOf system reachable).choice voterId ≠ none ↔ _
  rw [Option.ne_none_iff_exists']
  constructor
  · rintro ⟨candidateId, chosen⟩
    obtain ⟨vote, stored, owner, _⟩ := (choice_iff system.store voterId candidateId).mp chosen
    exact ⟨vote, stored, owner⟩
  · rintro ⟨vote, stored, owner⟩
    exact ⟨vote.candidateId, (choice_iff system.store voterId _).mpr ⟨vote, stored, owner, rfl⟩⟩

/-- The members with a role are its accounts. -/
theorem members_electionOf (system : System app) (reachable : system.Reachable) (role : Role) :
    (electionOf system reachable).members role =
      system.store.rows.users.countP fun user => user.role = role := by
  have apart : system.store.rows.users.Pairwise fun left right => left.id ≠ right.id :=
    (Relational.Table.rowsOf_distinct system.store.users).imp fun free same => free (.inl same)
  rw [← ncard_keys apart]
  refine congrArg Set.ncard (Set.ext fun id => ?_)
  refine (role_iff system.store id role).trans ?_
  simp [Rows.HasRole, and_comm]

/-- The line of a candidate on the leaderboard, with the tally of the election for it. -/
noncomputable def tallyRow (system : System app) (reachable : system.Reachable) (profile : CandidateProfile) :
    ResultRow where
  name := (system.store.rows.applicant profile.userId).name
  party := profile.entries.party
  constituency := profile.entries.constituency
  votes := (electionOf system reachable).tally profile.userId

/-- The tally of a candidate is the number of its votes. -/
theorem tallyRow_eq (system : System app) (reachable : system.Reachable)
    (profile : CandidateProfile) :
    tallyRow system reachable profile = system.store.rows.resultRow profile := by
  rw [tallyRow, tally_electionOf]
  rfl

/-- The leaderboard has one line for each approved candidate, with its own name, party and
constituency, and with the tally of the election for it; and the numbers together are at most the
people who voted, as many as there are stored votes, who are at most the accounts of voters. -/
theorem leaderboard_is_tally {system : System app} (reachable : system.Reachable) {process : Nat}
    (requests : system.requested process = some .selectResults) {choice : Choice}
    (fault : choice.fault = none) :
    ∃ (later : System app) (entry : Entry app) (order : List CandidateProfile),
      system.step (.serve process choice) = some later ∧
      later.log = entry :: system.log ∧ order.Perm system.store.rows.approvedCandidates ∧
      entry.printed = leaderboard (.ok (order.map (tallyRow system reachable))) ∧
      printedVotes entry.printed = order.map (fun profile =>
        (electionOf system reachable).tally profile.userId) ∧
      (printedVotes entry.printed).sum ≤ (electionOf system reachable).turnout ∧
      (electionOf system reachable).turnout = system.store.rows.votes.length ∧
      (electionOf system reachable).turnout ≤
        system.store.rows.users.countP fun user => user.role = .voter := by
  obtain ⟨later, entry, stepped, logged, _, _, printed⟩ := viewResults_step reachable requests fault
  have listed := system.store.rows.ranking_perm choice.scan
  have lines : entry.printed = leaderboard (.ok ((system.store.rows.ranking choice.scan).map
      (tallyRow system reachable))) := by
    rw [printed, system.store.results_eq]
    refine congrArg (fun rows => leaderboard (.ok rows)) (List.map_congr_left fun profile _ => ?_)
    exact (tallyRow_eq system reachable profile).symm
  have numbers : printedVotes entry.printed = (system.store.rows.ranking choice.scan).map
      fun profile => (electionOf system reachable).tally profile.userId := by
    rw [lines, printedVotes_leaderboard, List.map_map]
    rfl
  refine ⟨later, entry, system.store.rows.ranking choice.scan, stepped, logged, listed, lines,
    numbers, ?_, turnout_electionOf system reachable, ?_⟩
  · have apart := system.store.approvedCandidates_apart
    have distinct : ((system.store.rows.ranking choice.scan).map Profile.userId).Nodup := by
      apply (listed.map _).nodup_iff.mpr
      exact List.pairwise_map.mpr apart
    have bound := (electionOf system reachable).sum_tally_le
      ((system.store.rows.ranking choice.scan).map Profile.userId).toFinset
    rw [List.sum_toFinset _ distinct, List.map_map] at bound
    rw [numbers]
    exact bound
  · rw [← members_electionOf system reachable .voter]
    obtain ⟨first, second⟩ := (electionOf system reachable).turnout_le
    exact first.trans second

end

section

attribute [local instance] latin1

/-- What happens in the election of Cara. -/
def candidature : List (Happening Nat) :=
  [.joined 1 .admin, .joined 2 .candidate, .applied 2, .joined 3 .voter, .applied 3,
    .decided 1 2 .approved, .decided 1 3 .approved, .voted 3 2]

set_option maxRecDepth 10000 in
/-- It happens in the run of the program. -/
theorem election_happens : ∃ last, (System.initial app).run election = some last ∧
    happenings (System.initial app) election = candidature := by
  have result : ((System.initial app).run election).map
      (fun _ => happenings (System.initial app) election) = some candidature := by
    decide +kernel
  obtain ⟨last, ran, happened⟩ := Option.map_eq_some_iff.mp result
  exact ⟨last, ran, happened⟩

/-- The consoles of Cara, Vera and the admin conduct an election. -/
theorem conducts_election_election : ∃ last, ∃ ran : (System.initial app).run election = some last,
    Election.machine.Runs .empty candidature (electionOf last ⟨election, ran⟩) := by
  obtain ⟨last, ran, happened⟩ := election_happens
  have start : (System.initial app).Reachable := ⟨[], rfl⟩
  have runs := conducts_election start ran
  rw [electionOf_initial, happened] at runs
  exact ⟨last, ran, runs⟩

/-- Vera's vote comes after the approval of her application and of Cara's. -/
theorem votes_authorized_election : ∃ last, (System.initial app).run election = some last ∧
    last.store.rows.HasRole 3 .voter ∧ last.store.rows.HasRole 2 .candidate ∧
    ∃ official, .decided official 2 .approved ∈ candidature ∧
      last.store.rows.HasRole official .admin := by
  obtain ⟨last, ran, happened⟩ := election_happens
  have parts : happenings (System.initial app) election =
      candidature.dropLast ++ .voted 3 2 :: [] := happened.trans rfl
  obtain ⟨_, ⟨official, approves, admin⟩, voter, candidate, _⟩ := votes_authorized ran parts
  exact ⟨last, ran, voter, candidate, official, List.mem_of_mem_dropLast approves, admin⟩

/-- After the votes of Vera and Wim, the leaderboard shows the two people who chose Cara on her line,
and none on that of Dan. -/
theorem leaderboard_is_tally_landslide : ∃ (system later : System app) (entry : Entry app)
    (reachable : system.Reachable) (order : List CandidateProfile),
    (System.initial app).run landslide = some system ∧
      system.step (.serve 0 tallying) = some later ∧ later.log = entry :: system.log ∧
      order.Perm [cara, dan] ∧
      entry.printed = leaderboard (.ok (order.map (tallyRow system reachable))) ∧
      tallyRow system reachable cara = ⟨"Cara", "Green", "North", 2⟩ ∧
      tallyRow system reachable dan = ⟨"Dan", "Blue", "South", 0⟩ ∧
      (electionOf system reachable).turnout = 2 := by
  obtain ⟨system, ran, seen⟩ := landslide_runs
  have reachable : system.Reachable := ⟨landslide, ran⟩
  obtain ⟨later, entry, order, stepped, logged, listed, printed, _, _, turnout, _⟩ :=
    @leaderboard_is_tally _ system reachable 0 seen.requests tallying rfl
  have approved : system.store.rows.approvedCandidates = [cara, dan] := by
    rw [Rows.approvedCandidates, seen.candidates]
    rfl
  rw [approved] at listed
  rw [seen.votes] at turnout
  exact ⟨system, later, entry, reachable, order, ran, stepped, logged, listed, printed,
    (tallyRow_eq system reachable cara).trans seen.forCara,
    (tallyRow_eq system reachable dan).trans seen.forDan, turnout⟩

end

end OnlineVoting
