import OnlineVoting.Rules

/-!
# The invariant is kept

Each part of the invariant is kept by a step that reports nothing, and by each of the changes
that a permitted statement can make (`Written`). The two theorems at the end put the parts
together: they are what the discipline asks of the statements of the program.
-/
namespace OnlineVoting

open Interleaving

variable [Platform]

/-! ## Steps that report nothing -/

omit [Platform] in
/-- Only the insertion of a vote is reported as one. -/
theorem successMessage_voteCast {stmt : Stmt} (message : successMessage stmt = some voteCast) :
    ∃ voterId candidateId, stmt = .insertVote voterId candidateId := by
  cases stmt with
  | insertVote voterId candidateId => exact ⟨voterId, candidateId, rfl⟩
  | updateStatus table status id =>
    cases status <;> simp [successMessage, voteCast, Status.label] at message
  | insertProfile table userId entries =>
    cases table <;> simp [successMessage, voteCast] at message
  | _ => simp [successMessage, voteCast] at message

/-- A vote is reported exactly on a successful insertion of a vote. -/
theorem voteCast_mem_iff_inserted {entry : Entry app}
    (announces : Announces entry.action entry.printed) :
    voteCast ∈ entry.printed ↔ ∃ voterId candidateId choice,
      entry.action = .served (.insertVote voterId candidateId) choice (.ok ()) := by
  rw [voteCast_mem_iff announces]
  constructor
  · intro confirmed
    unfold confirmation at confirmed
    split at confirmed
    · rename_i stmt choice answer action
      split at confirmed
      · rename_i success
        obtain ⟨voterId, candidateId, rfl⟩ := successMessage_voteCast confirmed
        cases answer with
        | ok _ => exact ⟨voterId, candidateId, choice, action⟩
        | error _ => contradiction
      · contradiction
    · contradiction
  · rintro ⟨voterId, candidateId, choice, action⟩
    rw [action]
    rfl

/-- A step without a confirmation reports no vote. -/
theorem voteCast_not_mem {entry : Entry app} (announces : Announces entry.action entry.printed)
    (other : confirmation entry.action ≠ some voteCast) : voteCast ∉ entry.printed :=
  fun reported => other ((voteCast_mem_iff announces).mp reported)

omit [Platform] in
/-- The decisions on an application after one more step. -/
theorem decisions_cons [Platform] (table : ProfileTable) (id : Nat) (entry : Entry app)
    (log : List (Entry app)) : decisions table id (entry :: log) =
      (decisionOf table id entry).toList ++ decisions table id log := by
  unfold decisions
  cases decided : decisionOf table id entry <;> simp [decided]

/-- A step without a report leaves the count of an identifier as it is. -/
theorem castsFor_cons {entry : Entry app} (quiet : voteCast ∉ entry.printed) (id : Nat)
    (log : List (Entry app)) : castsFor id (entry :: log) = castsFor id log := by
  simp [castsFor, quiet]

/-- A step without a report leaves the number of votes as it is. -/
theorem casts_cons {entry : Entry app} (quiet : voteCast ∉ entry.printed)
    (log : List (Entry app)) : casts (entry :: log) = casts log := by
  simp [casts, quiet]

/-! ## Seed and roles -/

omit [Platform] in
/-- A role lasts as long as the users do. -/
theorem Rows.HasRole.evolves {rows later : Rows} {id : Nat} {role : Role}
    (has : rows.HasRole id role) (users : ∀ user ∈ rows.users, user ∈ later.users) :
    later.HasRole id role := by
  obtain ⟨user, stored, same⟩ := has
  exact ⟨user, users user stored, same⟩

variable {world : World app} {entry : Entry app} {stmt : Stmt} {choice : Choice}
  {answer : Answer stmt} {later : Rows}

/-- Users come after the seeded account: before it, there is no menu to register in. -/
theorem Written.seeded (change : Written choice world.store.rows stmt answer later)
    (permit : Permit entry.loop entry.process world stmt) (ready : Ready entry.loop world.store)
    (seeded : Seeded world.store.rows) : Seeded later := by
  cases change with
  | nothing _ | profile _ _ _ | status _ _ _ _ _ _ | vote _ _ | post _ _ => exact seeded
  | seed passwordHash =>
    obtain ⟨_, rfl, _⟩ := permit
    exact .inr ⟨_, List.mem_append_right _ List.mem_cons_self, rfl⟩
  | user username passwordHash name role parsed named =>
    obtain ⟨menu, _⟩ := permit
    obtain ⟨admin, stored, seed⟩ := (ready.complete (by simp [menu])).seeded
    exact .inr ⟨admin, List.mem_append_left _ stored, seed⟩

/-- An application is stored under the account of its session. -/
theorem Written.rolesMatch (change : Written choice world.store.rows stmt answer later)
    (permit : Permit entry.loop entry.process world stmt) (ready : Ready entry.loop world.store)
    (roles : RolesMatch world.store.rows) : RolesMatch later := by
  have users := (change.evolves permit.decided).users
  intro table profile stored
  cases change with
  | nothing _ | seed _ | user _ _ _ _ _ _ | vote _ _ | post _ _ =>
    exact (roles table profile stored).evolves users
  | profile applied userId entries =>
    have own := ready.account _ _ permit.1
    cases Rows.mem_addProfile stored with
    | old before => exact (roles table profile before).evolves users
    | new => exact own
  | status decided status id _ _ _ =>
    obtain ⟨old, before, _, userId, _⟩ := Rows.origin_decideProfile stored
    have held := (roles table old before).evolves users
    rw [userId] at held
    exact held

/-! ## Standings and decisions -/

/-- A step that decides nothing keeps decisions on stored applications. -/
theorem Decided.quiet {rows later : Rows} {log : List (Entry app)} (decided : Decided rows log)
    (none : ∀ table id, decisionOf table id entry = none) (evolves : rows.Evolves later) :
    Decided later (entry :: log) := by
  intro table id status made
  simp only [decisions_cons, none, Option.toList_none, List.nil_append] at made
  obtain ⟨final, profile, stored, same⟩ := decided table id status made
  obtain ⟨next, present, continues⟩ := evolves.profiles table profile stored
  exact ⟨final, next, present, continues.id.trans same⟩

/-- A step that decides nothing and leaves the applications keeps their standings. -/
theorem Standings.quiet {rows later : Rows} {log : List (Entry app)}
    (standings : Standings rows log) (none : ∀ table id, decisionOf table id entry = none)
    (same : later.profiles = rows.profiles) : Standings later (entry :: log) := by
  intro table profile stored
  rw [same] at stored
  rw [standing_cons (none table profile.id), standings table profile stored]

/-- An application that was never stored was never decided. -/
theorem Decided.standing_fresh {rows : Rows} {log : List (Entry app)} (decided : Decided rows log)
    {table : ProfileTable} {id : Nat} (fresh : ∀ old ∈ rows.profiles table, old.id ≠ id) :
    standing table id log = .pending := by
  have none : decisions table id log = [] := by
    refine List.eq_nil_iff_forall_not_mem.mpr fun status made => ?_
    obtain ⟨_, profile, stored, same⟩ := decided table id status made
    exact fresh profile stored same
  simp [standing, none]

/-- The one decision of an executed UPDATE that found a row. -/
theorem decisionOf_status {table : ProfileTable} {status : Status} {target : Int} {found : Nat}
    (action : entry.action = .served (.updateStatus table status target) choice (.ok found))
    (some : 0 < found) (other : ProfileTable) (id : Nat) :
    decisionOf other id entry =
      if table = other ∧ target = id then Option.some status else none := by
  simp [decisionOf, action, some]

/-- Decisions are made on stored applications, and never to `PENDING`. -/
theorem Written.decided (change : Written choice world.store.rows stmt answer later)
    (action : entry.action = .served stmt choice answer)
    (permit : Permit entry.loop entry.process world stmt)
    (decided : Decided world.store.rows world.log) : Decided later (entry :: world.log) := by
  have evolves := change.evolves permit.decided
  cases change with
  | nothing quiet =>
    exact decided.quiet (fun _ _ => decisionOf_eq_none (by simp [action, confirmation, quiet]) _ _)
      evolves
  | seed _ | user _ _ _ _ _ _ | profile _ _ _ | vote _ _ | post _ _ =>
    exact decided.quiet (fun _ _ => by simp [decisionOf, action]) evolves
  | status table status target found some stored =>
    intro other id given made
    rw [decisions_cons, decisionOf_status action some, List.mem_append] at made
    rcases made with new | old
    · split at new
      · rename_i addressed
        obtain ⟨rfl, target⟩ := addressed
        obtain rfl := List.mem_singleton.mp new
        obtain ⟨profile, present, same⟩ := stored
        obtain ⟨next, kept, continues⟩ := evolves.profiles table profile present
        refine ⟨permit.decided _ _ _ rfl, next, kept, continues.id.trans ?_⟩
        exact Int.ofNat.inj (same.trans target)
      · simp at new
    · obtain ⟨final, profile, present, same⟩ := decided other id given old
      obtain ⟨next, kept, continues⟩ := evolves.profiles other profile present
      exact ⟨final, next, kept, continues.id.trans same⟩

/-- The status of every application is the last decision on it. -/
theorem Written.standings (change : Written choice world.store.rows stmt answer later)
    {store : Database} (stored : store.rows = later)
    (action : entry.action = .served stmt choice answer)
    (decided : Decided world.store.rows world.log)
    (standings : Standings world.store.rows world.log) :
    Standings later (entry :: world.log) := by
  cases change with
  | nothing quiet =>
    exact standings.quiet
      (fun _ _ => decisionOf_eq_none (by simp [action, confirmation, quiet]) _ _) rfl
  | seed _ | user _ _ _ _ _ _ | vote _ _ | post _ _ =>
    exact standings.quiet (fun _ _ => by simp [decisionOf, action]) rfl
  | profile table userId entries =>
    intro other profile present
    rw [standing_cons (by simp [decisionOf, action])]
    cases Rows.mem_addProfile present with
    | old before => exact standings other profile before
    | new =>
      have fresh := Database.fresh_profile stored
      exact (decided.standing_fresh fun old present clash => fresh old present (.inl clash)).symm
  | status table status target found some known =>
    intro other profile present
    simp only [standing, decisions_cons, decisionOf_status action some]
    obtain ⟨old, before, rfl⟩ := Rows.mem_decideProfile present
    have last := standings other old before
    by_cases same : table = other
    · simp only [if_pos same, Profile.decide_id]
      by_cases addressed : target = old.id
      · simp [Profile.decide, same, addressed]
      · have apart : ¬ (old.id : Int) = target := fun equal => addressed equal.symm
        simpa [Profile.decide, addressed, apart, standing] using last
    · simpa [same, standing] using last

/-- An application that was once seen approved has been decided since. -/
theorem Decided.standing_checked {rows : Rows} {log : List (Entry app)}
    (decided : Decided rows log) {process id : Nat} {check : Action app → Bool}
    {table : ProfileTable} (approved : standing table id (upTo process check log) = .approved) :
    standing table id log ≠ .pending := by
  have split := since_append_upTo process check log
  rw [← split, standing_append, approved]
  cases newest : (decisions table id (since process check log)).head? with
  | none => decide
  | some status =>
    refine (decided table id status ?_).1
    rw [← split, decisions, List.filterMap_append]
    exact List.mem_append_left _ (List.mem_of_mem_head? newest)

/-! ## Votes -/

omit [Platform] in
/-- Stored votes stay votes of decided voters for decided candidates. -/
theorem BallotsDecided.evolves {rows later : Rows} (ballots : BallotsDecided rows)
    (evolves : rows.Evolves later) :
    ∀ vote ∈ rows.votes,
      (∃ profile ∈ later.voters, profile.userId = vote.voterId ∧ profile.status ≠ .pending) ∧
      ∃ profile ∈ later.candidates,
        profile.userId = vote.candidateId ∧ profile.status ≠ .pending := by
  intro vote stored
  have lasts (table : ProfileTable) {userId : Nat}
      (was : ∃ profile ∈ rows.profiles table,
        profile.userId = userId ∧ profile.status ≠ .pending) :
      ∃ profile ∈ later.profiles table, profile.userId = userId ∧ profile.status ≠ .pending := by
    obtain ⟨profile, present, owner, decided⟩ := was
    obtain ⟨next, kept, continues⟩ := evolves.profiles table profile present
    exact ⟨next, kept, continues.userId.trans owner, continues.decided decided⟩
  exact ⟨lasts .voterProfiles (ballots vote stored).1,
    lasts .candidateProfiles (ballots vote stored).2⟩

/-- Every vote is of a decided voter for a decided candidate. -/
theorem Written.ballotsDecided (change : Written choice world.store.rows stmt answer later)
    (permit : Permit entry.loop entry.process world stmt)
    (decided : Decided world.store.rows world.log)
    (standings : Standings world.store.rows world.log)
    (ballots : BallotsDecided world.store.rows) : BallotsDecided later := by
  have kept := ballots.evolves (change.evolves permit.decided)
  cases change with
  | nothing _ | seed _ | user _ _ _ _ _ _ | profile _ _ _ | status _ _ _ _ _ _ | post _ _ =>
    exact kept
  | vote voterId candidateId =>
    intro vote present
    rcases List.mem_append.mp present with old | new
    · exact kept vote old
    · obtain rfl := List.mem_singleton.mp new
      obtain ⟨_, ⟨voter, voterStored, voterOwner, voterSeen⟩,
        ⟨candidate, candidateStored, candidateOwner, _, candidateSeen⟩⟩ := permit
      refine ⟨⟨voter, voterStored, voterOwner, ?_⟩,
        ⟨candidate, candidateStored, candidateOwner, ?_⟩⟩
      · rw [standings .voterProfiles voter voterStored]
        exact decided.standing_checked voterSeen
      · rw [standings .candidateProfiles candidate candidateStored]
        exact decided.standing_checked candidateSeen

/-- A step that reports no vote and stores none keeps the counts, whatever it does to the
applications, as long as every candidate it adds has no vote yet. -/
theorem Tallied.quiet {rows later : Rows} {log : List (Entry app)} (tallied : Tallied rows log)
    (quiet : voteCast ∉ entry.printed) (votes : later.votes = rows.votes)
    (evolves : rows.Evolves later)
    (origin : ∀ profile ∈ later.candidates,
      (∃ old ∈ rows.candidates, old.id = profile.id ∧ old.userId = profile.userId) ∨
      (∀ old ∈ rows.candidates, old.id ≠ profile.id) ∧
        ∀ vote ∈ rows.votes, vote.candidateId ≠ profile.userId) :
    Tallied later (entry :: log) where
  counted profile present := by
    rw [castsFor_cons quiet, votes]
    rcases origin profile present with ⟨old, stored, id, userId⟩ | ⟨fresh, unvoted⟩
    · rw [← id, ← userId]
      exact tallied.counted old stored
    · have none : castsFor profile.id log = 0 := by
        by_contra voted
        obtain ⟨old, stored, same⟩ := tallied.known profile.id voted
        exact fresh old stored same
      rw [none, eq_comm, List.countP_eq_zero]
      exact fun vote stored => by simpa using unvoted vote stored
  known id voted := by
    rw [castsFor_cons quiet] at voted
    obtain ⟨profile, stored, same⟩ := tallied.known id voted
    obtain ⟨next, kept, continues⟩ := evolves.profiles .candidateProfiles profile stored
    exact ⟨next, kept, continues.id.trans same⟩
  total := by rw [casts_cons quiet, votes, tallied.total]

/-- The votes are those reported. -/
theorem Written.tallied (change : Written choice world.store.rows stmt answer later)
    {store : Database} (stored : store.rows = later)
    (action : entry.action = .served stmt choice answer)
    (announces : Announces entry.action entry.printed)
    (permit : Permit entry.loop entry.process world stmt)
    (ballots : BallotsDecided world.store.rows)
    (tallied : Tallied world.store.rows world.log) : Tallied later (entry :: world.log) := by
  have evolves := change.evolves permit.decided
  have silent (other : ∀ voterId candidateId, stmt ≠ .insertVote voterId candidateId) :
      voteCast ∉ entry.printed := by
    rw [voteCast_mem_iff_inserted announces, action]
    rintro ⟨voterId, candidateId, _, same⟩
    exact other voterId candidateId (Action.served.inj same).1
  cases change with
  | nothing quiet =>
    refine tallied.quiet (voteCast_not_mem announces ?_) rfl evolves
      fun profile present => .inl ⟨profile, present, rfl, rfl⟩
    simp [action, confirmation, quiet]
  | seed _ | user _ _ _ _ _ _ | post _ _ =>
    exact tallied.quiet (silent (by simp)) rfl evolves
      fun profile present => .inl ⟨profile, present, rfl, rfl⟩
  | profile table userId entries =>
    refine tallied.quiet (silent (by simp)) rfl evolves fun profile present => ?_
    cases Rows.mem_addProfile present with
    | old before => exact .inl ⟨profile, before, rfl, rfl⟩
    | new =>
      have fresh := Database.fresh_profile stored
      refine .inr ⟨fun old present clash => fresh old present (.inl clash),
        fun vote present clash => ?_⟩
      obtain ⟨old, known, owner, _⟩ := (ballots vote present).2
      exact fresh old known (.inr (owner.trans clash))
  | status table status target _ _ _ =>
    refine tallied.quiet (silent (by simp)) rfl evolves fun profile present => .inl ?_
    obtain ⟨old, before, id, userId, _⟩ := Rows.origin_decideProfile present
    exact ⟨old, before, id, userId⟩
  | vote voterId candidateId =>
    have reported : voteCast ∈ entry.printed :=
      (voteCast_mem_iff_inserted announces).mpr ⟨_, _, _, action⟩
    obtain ⟨_, _, chosen, chosenStored, owner, typed, _⟩ := permit
    refine ⟨fun profile present => ?_, fun id voted => ?_, ?_⟩
    · have same : chosen.id = profile.id ↔ candidateId = profile.userId := by
        constructor
        · intro clash
          rw [world.store.candidate_unique present chosenStored (.inl clash.symm), owner]
        · intro clash
          rw [world.store.candidate_unique present chosenStored
            (.inr (clash.symm.trans owner.symm))]
      have one := tallied.counted profile present
      simp [castsFor, reported, typed, same, one, Rows.addVote]
    · by_cases hit : id = chosen.id
      · exact ⟨chosen, chosenStored, hit.symm⟩
      · refine tallied.known id ?_
        have apart : ¬ chosen.id = id := fun equal => hit equal.symm
        simpa [castsFor, typed, apart] using voted
    · simp [casts, reported, Rows.addVote, tallied.total]

/-! ## Origins -/

/-- Rows that were there keep their origin. -/
theorem Recorded.quiet {rows later : Rows} {log : List (Entry app)}
    (recorded : Recorded rows log) (users : later.users = rows.users)
    (origin : ∀ table, ∀ profile ∈ later.profiles table, ∃ old ∈ rows.profiles table,
      old.id = profile.id ∧ old.userId = profile.userId ∧ old.entries = profile.entries) :
    Recorded later (entry :: log) where
  users user stored := by
    rw [users] at stored
    exact (recorded.users user stored).imp id fun occurs => occurs.cons entry
  profiles table profile stored := by
    obtain ⟨old, before, id, userId, entries⟩ := origin table profile stored
    rw [← id, ← userId, ← entries]
    exact (recorded.profiles table old before).cons entry

/-- An insertion of a user that succeeds registers it. -/
theorem registers_of_served {username passwordHash name role : String} {parsed : Role}
    (action : entry.action = .served (.insertUser username passwordHash name role) choice (.ok ()))
    (announces : Announces entry.action entry.printed)
    (permit : Permit entry.loop entry.process world (.insertUser username passwordHash name role))
    (named : Role.ofLabel role = some parsed) :
    Registers ⟨choice.id, username, passwordHash, name, parsed⟩ entry world.log := by
  have reported : .println "Registered successfully! You can now log in.\n" ∈ entry.printed :=
    (announces.mem_iff (by simp [Output.isSuccess, successTexts])).mpr
      (by simp [action, confirmation, succeeds, successMessage])
  exact ⟨⟨_, _, _, _, _, action, rfl⟩, reported, permit.2 _ _ named⟩

/-- An insertion of an application that succeeds applies for it. -/
theorem applies_of_served {table : ProfileTable} {userId : Nat} {entries : table.Entries}
    (action : entry.action = .served (.insertProfile table userId entries) choice (.ok ()))
    (announces : Announces entry.action entry.printed)
    (permit : Permit entry.loop entry.process world (.insertProfile table userId entries)) :
    Applies table choice.id userId entries entry world.log := by
  obtain ⟨message, text⟩ : ∃ message,
      successMessage (.insertProfile table userId entries) = some message := by
    cases table <;> exact ⟨_, rfl⟩
  have reported := (announces.mem_iff (successMessage_isSuccess text)).mpr
    (by simp [action, confirmation, succeeds, text])
  exact ⟨⟨_, action, rfl⟩, ⟨message, text, reported⟩, permit.2⟩

/-- Every row of a user comes from a reported step of the log. -/
theorem Written.recorded (change : Written choice world.store.rows stmt answer later)
    (action : entry.action = .served stmt choice answer)
    (announces : Announces entry.action entry.printed)
    (permit : Permit entry.loop entry.process world stmt)
    (recorded : Recorded world.store.rows world.log) : Recorded later (entry :: world.log) := by
  cases change with
  | nothing _ | vote _ _ | post _ _ =>
    exact recorded.quiet rfl fun _ profile present => ⟨profile, present, rfl, rfl, rfl⟩
  | seed passwordHash =>
    obtain ⟨_, rfl, _⟩ := permit
    refine ⟨fun user stored => ?_, fun table profile stored =>
      (recorded.profiles table profile stored).cons entry⟩
    rcases List.mem_append.mp stored with old | new
    · exact (recorded.users user old).imp id fun occurs => occurs.cons entry
    · exact .inl (List.mem_singleton.mp new ▸ rfl)
  | user username passwordHash name role parsed named =>
    refine ⟨fun user stored => ?_, fun table profile stored =>
      (recorded.profiles table profile stored).cons entry⟩
    rcases List.mem_append.mp stored with old | new
    · exact (recorded.users user old).imp id fun occurs => occurs.cons entry
    · obtain rfl := List.mem_singleton.mp new
      exact .inr (.newest (registers_of_served action announces permit named))
  | profile table userId entries =>
    refine ⟨fun user stored => (recorded.users user stored).imp id fun occurs =>
      occurs.cons entry, fun other profile stored => ?_⟩
    cases Rows.mem_addProfile stored with
    | old before => exact (recorded.profiles other profile before).cons entry
    | new => exact .newest (applies_of_served action announces permit)
  | status table status target _ _ _ =>
    exact recorded.quiet rfl fun other profile present => Rows.origin_decideProfile present

/-! ## The whole invariant -/

/-- The invariant holds on a server without the database. -/
theorem Invariant.initial : Invariant ⟨.absent, []⟩ where
  seeded := .inl rfl
  roles _ _ stored := (List.not_mem_nil stored).elim
  standings _ _ stored := (List.not_mem_nil stored).elim
  decided _ _ _ made := (List.not_mem_nil made).elim
  ballots _ stored := (List.not_mem_nil stored).elim
  tallied := ⟨fun _ stored => (List.not_mem_nil stored).elim, fun _ voted => absurd rfl voted, rfl⟩
  recorded := ⟨fun _ stored => (List.not_mem_nil stored).elim,
    fun _ _ stored => (List.not_mem_nil stored).elim⟩

/-- A step that executes no statement keeps the invariant. -/
theorem Invariant.unserved (invariant : Invariant world)
    (unserved : ∀ stmt choice answer, entry.action ≠ .served stmt choice answer)
    (announces : Announces entry.action entry.printed) :
    Invariant (world.record world.store entry) := by
  have quiet : confirmation entry.action = none := by
    cases action : entry.action with
    | served stmt choice answer => exact absurd action (unserved stmt choice answer)
    | _ => rfl
  have undecided := fun table id => decisionOf_eq_none quiet table id
  exact {
    seeded := invariant.seeded
    roles := invariant.roles
    standings := invariant.standings.quiet undecided rfl
    decided := invariant.decided.quiet undecided (.refl _)
    ballots := invariant.ballots
    tallied := invariant.tallied.quiet (voteCast_not_mem announces (by simp [quiet])) rfl
      (.refl _) fun profile present => .inl ⟨profile, present, rfl, rfl⟩
    recorded := invariant.recorded.quiet rfl
      fun _ profile present => ⟨profile, present, rfl, rfl, rfl⟩ }

/-- A permitted statement evolves the database. -/
theorem Permit.evolves {loop : Loop} {process : Nat} {store : Database}
    (permit : Permit loop process world stmt)
    (served : serve stmt choice world.store = some (store, answer)) :
    world.store.Evolves store := by
  obtain ⟨change, grows⟩ := serve_written served
  exact ⟨grows, change.evolves permit.decided⟩

/-- A permitted statement keeps the invariant. -/
theorem Invariant.served {store : Database} (invariant : Invariant world)
    (ready : Ready entry.loop world.store) (permit : Permit entry.loop entry.process world stmt)
    (served : serve stmt choice world.store = some (store, answer))
    (action : entry.action = .served stmt choice answer)
    (announces : Announces entry.action entry.printed) :
    Invariant (world.record store entry) := by
  obtain ⟨change, _⟩ := serve_written served
  exact {
    seeded := change.seeded permit ready invariant.seeded
    roles := change.rolesMatch permit ready invariant.roles
    standings := change.standings rfl action invariant.decided invariant.standings
    decided := change.decided action permit invariant.decided
    ballots := change.ballotsDecided permit invariant.decided invariant.standings
      invariant.ballots
    tallied := change.tallied rfl action announces permit invariant.ballots invariant.tallied
    recorded := change.recorded action announces permit invariant.recorded }

/-- A complete startup stays complete. -/
theorem Database.Complete.evolves {database later : Database} (complete : database.Complete)
    (evolves : database.Evolves later) : later.Complete := by
  obtain ⟨admin, stored, seed⟩ := complete.seeded
  exact ⟨evolves.created complete.created, fun table => evolves.has table (complete.has table),
    admin, evolves.users admin stored, seed⟩

/-- A menu stays ready however the database evolves. -/
theorem Ready.evolves {loop : Loop} {database later : Database} (ready : Ready loop database)
    (evolves : database.Evolves later) : Ready loop later :=
  ⟨fun menu => (ready.complete menu).evolves evolves,
    fun id role session => (ready.account id role session).evolves evolves.users⟩

/-- The statements of the program respect its rules. -/
theorem rules_stable : rules.Stable where
  evolves_refl := .refl
  evolves_trans := .trans
  initial := .initial
  unserved _ _ invariant unserved prints := invariant.unserved unserved prints.announces
  served_evolves permit served := permit.evolves served
  served _ _ _ _ _ _ _ _ invariant ready permit served prints :=
    invariant.served ready permit served rfl prints.announces
  ready_evolves ready evolves := ready.evolves evolves
  ready_boot _ := ⟨fun menu => absurd rfl menu, fun _ _ session => by simp [Loop.session] at session⟩

end OnlineVoting
