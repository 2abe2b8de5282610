import OnlineVoting.Library.Solo
import OnlineVoting.Listings

/-!
# Which votes are accepted

A call of `castVote` that no other session disturbs stores a vote exactly for an approved voter who
has not voted, and for the identifier of an approved candidacy. No constraint of `votes` gets in
the way of such a vote, and there is always an identifier left for it.
-/
namespace OnlineVoting

open Interleaving Relational

section

variable [Platform]

/-! ## Room for a vote -/

/-- Identifiers of users are positive and fit an `INT`. -/
def UserIds (rows : Rows) : Prop := ∀ user ∈ rows.users, 0 < user.id ∧ user.id < 2 ^ 31

/-- A stored user has an automatic identifier. -/
theorem Database.storeUser_admissible {database next : Database} {user : User}
    (stored : database.storeUser user = some (.ok next)) : 0 < user.id ∧ user.id < 2 ^ 31 := by
  unfold Database.storeUser at stored
  split at stored
  · simp at stored
  · split at stored
    · rename_i admissible
      exact ⟨admissible.1, admissible.2.1⟩
    · contradiction

/-- Every statement keeps the identifiers of users in their range. -/
theorem UserIds.served {stmt : Stmt} {choice : Choice} {database next : Database}
    {answer : Answer stmt} (ids : UserIds database.rows)
    (served : serve stmt choice database = some (next, answer)) : UserIds next.rows := by
  have one {user : User} (range : 0 < user.id ∧ user.id < 2 ^ 31) :
      UserIds (database.rows.addUser user) := by
    intro other present
    rcases List.mem_append.mp present with old | new
    · exact ids other old
    · rw [List.mem_singleton.mp new]
      exact range
  obtain ⟨change, _⟩ := serve_written served
  generalize written : next.rows = rows at change
  cases change with
  | nothing _ => exact ids
  | seed passwordHash =>
    obtain ⟨outcome, stored, same⟩ := Option.map_eq_some_iff.mp (serve_ok served)
    cases outcome with
    | ok grown => exact one (Database.storeUser_admissible stored)
    | error exception =>
      have impossible := (Prod.mk.inj same).2
      split at impossible <;> simp at impossible
  | user username passwordHash name role parsed named =>
    have executed := serve_ok served
    simp only [execute] at executed
    split at executed
    · rename_i again _ found
      obtain ⟨outcome, stored, same⟩ := Option.map_eq_some_iff.mp executed
      rw [named] at found
      obtain rfl := Option.some.inj found
      cases outcome with
      | ok grown => exact one (Database.storeUser_admissible stored)
      | error exception => simp at same
    · simp at executed
    · simp at executed
  | profile _ _ _ => exact ids
  | status _ _ _ _ _ _ => exact ids
  | vote _ _ => exact ids
  | post _ _ => exact ids

/-- The identifiers of users stay in their range. -/
theorem userIds_of_reachable {system : System app} (reachable : system.Reachable) :
    UserIds system.store.rows := by
  obtain ⟨events, ran⟩ := reachable
  refine @System.run_keeps _ app (fun state => UserIds state.store.rows)
    (fun state event next ids stepped => ?_) _ _ _ ran (fun _ none => (List.not_mem_nil none).elim)
  cases System.step_move stepped with
  | serve _ served => exact ids.served served
  | start _ | type _ _ | turn _ | leave _ | kill _ => exact ids

/-- A voter of a stored vote is a user in the role of voters. -/
theorem voter_of_vote {system : System app} (reachable : system.Reachable) {vote : Vote}
    (stored : vote ∈ system.store.rows.votes) : system.store.rows.HasRole vote.voterId .voter := by
  have invariant := (good_of_reachable reachable).invariant
  obtain ⟨⟨profile, applied, owner, _⟩, _⟩ := invariant.ballots vote stored
  rw [← owner]
  exact invariant.roles .voterProfiles profile applied

/-- There is always an identifier left for a vote: the seeded account never votes. -/
theorem exists_ballotId {system : System app} (reachable : system.Reachable) :
    ∃ id, Admissible id (system.store.rows.votes.map Vote.id) := by
  have range := userIds_of_reachable reachable
  let voters := system.store.rows.votes.map Vote.voterId
  have distinct : voters.Nodup := by
    have apart : system.store.rows.votes.Pairwise fun left right => ¬ left.Clash right :=
      Table.rowsOf_distinct _
    rw [List.nodup_iff_pairwise_ne, List.pairwise_map]
    exact apart.imp fun free same => free (.inr same)
  have known (id : Nat) (voted : id ∈ voters) : system.store.rows.HasRole id .voter := by
    obtain ⟨vote, stored, rfl⟩ := List.mem_map.mp voted
    exact voter_of_vote reachable stored
  have few : voters.length < 2 ^ 31 - 1 := by
    cases votes : voters with
    | nil => simp
    | cons first others =>
      obtain ⟨voter, registered, _, _⟩ := known first (by simp [votes])
      obtain ⟨admin, stored, seed⟩ : ∃ user ∈ system.store.rows.users, user.IsSeed := by
        rcases (good_of_reachable reachable).invariant.seeded with nobody | seeded
        · simp [nobody] at registered
        · exact seeded
      have within : voters.toFinset ⊆ (Finset.Ico 1 (2 ^ 31)).erase admin.id := by
        intro id voted
        obtain ⟨user, present, rfl, role⟩ := known id (List.mem_toFinset.mp voted)
        have bounds := range user present
        refine Finset.mem_erase.mpr ⟨fun same => ?_, Finset.mem_Ico.mpr bounds⟩
        have one := system.store.user_unique present stored (.inl same)
        rw [one, seed] at role
        contradiction
      have count := Finset.card_le_card within
      have inside : admin.id ∈ Finset.Ico 1 (2 ^ 31) := Finset.mem_Ico.mpr (range admin stored)
      rw [List.toFinset_card_of_nodup distinct, Finset.card_erase_of_mem inside,
        Nat.card_Ico, votes] at count
      omega
  have length : ((system.store.rows.votes.map Vote.id).toFinset).card ≤ voters.length := by
    refine (List.toFinset_card_le _).trans ?_
    simp [voters]
  have room : ((system.store.rows.votes.map Vote.id).toFinset).card <
      (Finset.Ico 1 (2 ^ 31)).card := by
    rw [Nat.card_Ico]
    omega
  obtain ⟨id, inside, unused⟩ := Finset.exists_mem_notMem_of_card_lt_card room
  rw [Finset.mem_Ico] at inside
  rw [List.mem_toFinset] at unused
  exact ⟨id, inside.1, inside.2, unused⟩

/-! ## Constraints of a vote -/

/-- An insertion of a vote that is answered was offered an automatic identifier. -/
theorem Database.storeVote_admissible {database : Database} {vote : Vote}
    {outcome : Except SqlException Database} (has : database.has .votes = true)
    (stored : database.storeVote vote = some outcome) :
    Admissible vote.id (database.rows.votes.map Vote.id) := by
  unfold Database.storeVote at stored
  split at stored
  · rename_i missing
    simp [Database.has, missing] at has
  · rename_i votes present
    split at stored
    · rename_i admissible
      simpa [Database.rows, present] using admissible
    · contradiction

/-- A first vote between users violates no constraint. -/
theorem Database.storeVote_ok {database : Database} {vote : Vote}
    (has : database.has .votes = true)
    (admissible : Admissible vote.id (database.rows.votes.map Vote.id))
    (first : ∀ old ∈ database.rows.votes, old.voterId ≠ vote.voterId)
    (voter : database.rows.HasUser vote.voterId)
    (candidate : database.rows.HasUser vote.candidateId) :
    ∃ next, database.storeVote vote = some (.ok next) := by
  unfold Database.storeVote
  split
  · rename_i missing
    simp [Database.has, missing] at has
  · rename_i votes present
    have rows : database.rows.votes = votes.rows := by simp [Database.rows, present]
    rw [rows] at admissible first
    rw [if_pos admissible]
    split
    · rename_i clash
      obtain ⟨old, stored, same⟩ := (Table.insert_eq_none votes vote).mp clash
      rcases same with id | again
      · exact absurd (List.mem_map.mpr ⟨old, stored, id⟩) admissible.2.2
      · exact absurd again (first old stored)
    · rw [dif_pos voter, dif_pos candidate]
      exact ⟨_, rfl⟩

/-- A first vote between users is stored when its insertion is served. -/
theorem serve_insertVote {database : Database} (complete : database.Complete)
    {voterId candidateId : Nat} (first : ∀ old ∈ database.rows.votes, old.voterId ≠ voterId)
    (voter : database.rows.HasUser voterId) (candidate : database.rows.HasUser candidateId)
    {choice : Choice} (fault : choice.fault = none) {store : Database}
    {answer : Answer (.insertVote voterId candidateId)}
    (served : serve (.insertVote voterId candidateId) choice database = some (store, answer)) :
    answer = .ok () ∧ store.rows = database.rows.addVote
      ⟨choice.ballotId, voterId, candidateId, choice.ballotClock⟩ := by
  have executed : database.insertion (database.storeVote
      ⟨choice.ballotId, voterId, candidateId, choice.ballotClock⟩) = some (store, answer) := by
    simp only [serve, fault] at served
    exact served
  obtain ⟨outcome, stored, same⟩ := Option.map_eq_some_iff.mp executed
  obtain ⟨next, ok⟩ := Database.storeVote_ok (complete.has .votes)
    (Database.storeVote_admissible (complete.has .votes) stored) first voter candidate
  obtain rfl := Option.some.inj (stored.symm.trans ok)
  obtain ⟨rfl, rfl⟩ := Prod.mk.inj same
  exact ⟨rfl, (Database.storeVote_rows stored).1⟩

/-- The insertion of a first vote between users can be served. -/
theorem insertVote_serves {database : Database} (complete : database.Complete)
    {voterId candidateId : Nat} (first : ∀ old ∈ database.rows.votes, old.voterId ≠ voterId)
    (voter : database.rows.HasUser voterId) (candidate : database.rows.HasUser candidateId)
    {id : Nat} (admissible : Admissible id (database.rows.votes.map Vote.id)) :
    ∃ choice store answer, choice.fault = none ∧
      serve (.insertVote voterId candidateId) choice database = some (store, answer) := by
  obtain ⟨next, ok⟩ := @Database.storeVote_ok _ database ⟨id, voterId, candidateId, 0⟩
    (complete.has .votes) admissible first voter candidate
  refine ⟨⟨none, 0, 0, fun id => id, id, 0⟩, next, .ok (), rfl, ?_⟩
  simp only [serve, execute, ok, Database.insertion, Option.map_some]

/-! ## A call of castVote -/

/-- The candidates that a step listed. -/
def shownCandidates : Action app → List CandidateRow
  | .served .selectApproved _ (.ok rows) => rows
  | _ => []

/-- The voter is approved, and has not voted. -/
def Entitled (rows : Rows) (voterId : Nat) : Prop :=
  (∃ profile ∈ rows.voters, profile.userId = voterId ∧ profile.status = .approved) ∧
    ∀ vote ∈ rows.votes, vote.voterId ≠ voterId

/-- The line names the candidacy, which is approved. -/
def Names (rows : Rows) (line : String) (profile : CandidateProfile) : Prop :=
  profile ∈ rows.candidates ∧ profile.status = .approved ∧
    parseInt (trim line) = some (profile.id : Int)

omit [Platform] in
/-- A listed candidate has an approved candidacy under the listed identifier. -/
theorem Rows.approved_of_listed {rows : Rows} {scan : Nat → Nat} {row : CandidateRow}
    (listed : row ∈ rows.approved scan) :
    ∃ profile ∈ rows.candidates, profile.status = .approved ∧ profile.id = row.id := by
  simp only [Rows.approved, Rows.scanned, List.mem_map, List.mem_insertionSort] at listed
  obtain ⟨found, present, rfl⟩ := listed
  exact ⟨found.1, (Rows.mem_withStatus present).1, of_decide_eq_true (List.mem_filter.mp present).2,
    rfl⟩

/-- What a call of `castVote` did. -/
inductive Cast (process voterId : Nat) (before : Rows) (after : Rows) (round : List (Entry app)) :
    Prop where
  /-- It asked for no candidate. -/
  | refused (same : after = before) (typed : linesOf process round = [])
    (unentitled : ¬ Entitled before voterId)
    (shown : round.flatMap (fun entry => shownCandidates entry.action) = [])
  /-- It refused the candidate. -/
  | unknown (same : after = before) (line : String) (typed : linesOf process round = [line])
    (entitled : Entitled before voterId) (unnamed : ∀ profile, ¬ Names before line profile)
    (scan : Nat → Nat)
    (shown : round.flatMap (fun entry => shownCandidates entry.action) = before.approved scan)
  /-- It stored a vote. -/
  | stored (line : String) (typed : linesOf process round = [line])
    (entitled : Entitled before voterId) (profile : CandidateProfile)
    (named : Names before line profile) (id clock : Nat)
    (added : after = before.addVote ⟨id, voterId, profile.userId, clock⟩) (scan : Nat → Nat)
    (shown : round.flatMap (fun entry => shownCandidates entry.action) = before.approved scan)

/-- The server makes no failure of its own. -/
abbrev Healthy (choice : Choice) : Prop := choice.fault = none

/-- While nobody else is served and nothing fails, the rest of a round returns like this. -/
abbrev Finishes (process : Nat) (loop : Loop)
    (post : Database → List (Entry app) → Option Loop → Prop)
    (rest : Dialogue console (Option Loop)) (store : Database) (round : List (Entry app)) : Prop :=
  @Dialogue.Completes console app Healthy process loop post rest store round

/-- A query on a complete database has its result as its only healthy answer. -/
theorem finishes_query {process : Nat} {loop : Loop}
    {post : Database → List (Entry app) → Option Loop → Prop} {store : Database}
    (complete : store.Complete) {round : List (Entry app)} {printed : List Output} {stmt : Stmt}
    {next : Answer stmt → Dialogue console (Option Loop)} {tables : List TableName}
    {result : Choice → Result stmt}
    (queries : ∀ choice, execute choice store stmt = store.query tables (result choice))
    (more : ∀ choice, Finishes process loop post (next (.ok (result choice))) store
      (⟨process, loop, .served stmt choice (.ok (result choice)),
        (next (.ok (result choice))).printed⟩ :: round)) :
    Finishes process loop post (.ask printed stmt next) store round := by
  have served (choice : Choice) (healthy : Healthy choice) :
      serve stmt choice store = some (store, .ok (result choice)) :=
    serve_query complete healthy (queries choice)
  let choice : Choice := ⟨none, 0, 0, fun id => id, 0, 0⟩
  refine ⟨⟨choice, store, .ok (result choice), rfl, served choice rfl⟩, ?_⟩
  intro choice later answer healthy found
  obtain ⟨rfl, rfl⟩ := Prod.mk.inj (Option.some.inj ((served choice healthy).symm.trans found))
  exact more choice

/-- A voter is approved exactly if the first query of `castVote` finds that status first. -/
theorem Database.approvedVoter_iff (database : Database) (voterId : Nat) :
    (∃ profile ∈ database.rows.voters, profile.userId = voterId ∧ profile.status = .approved) ↔
      ((database.rows.profilesOf .voterProfiles voterId).map Profile.status).head? =
        some .approved := by
  constructor
  · rintro ⟨profile, stored, owner, approved⟩
    have alone : database.rows.profilesOf .voterProfiles voterId = [profile] :=
      Table.rowsOf_filter (fun left right first second =>
        .inr ((of_decide_eq_true first).trans (of_decide_eq_true second).symm)) stored
        (decide_eq_true owner)
    rw [alone, ← approved]
    rfl
  · intro found
    obtain ⟨profile, present, approved⟩ := List.mem_map.mp (List.mem_of_head? found)
    obtain ⟨stored, owner⟩ := List.mem_filter.mp present
    exact ⟨profile, stored, of_decide_eq_true owner, approved⟩

/-- The candidate query finds the user of a candidacy that the line names, and nothing for a line
that names none. -/
theorem Database.candidateUserIds_eq (database : Database) {line : String} {id : Int}
    (parsed : parseInt (trim line) = some id) :
    (∃ profile, Names database.rows line profile ∧
      database.rows.candidateUserIds id = [profile.userId]) ∨
      (∀ profile, ¬ Names database.rows line profile) ∧ database.rows.candidateUserIds id = [] := by
  by_cases named : ∃ profile, Names database.rows line profile
  · obtain ⟨profile, stored, approved, own⟩ := named
    refine .inl ⟨profile, ⟨stored, approved, own⟩, ?_⟩
    obtain rfl := Option.some.inj (parsed.symm.trans own)
    have alone : database.rows.candidates.filter (fun other =>
        other.id = (profile.id : Int) ∧ other.status = .approved) = [profile] :=
      Table.rowsOf_filter (fun left right first second => by
        have leftId := (of_decide_eq_true first).1
        have rightId := (of_decide_eq_true second).1
        exact .inl (by omega)) stored (by simp [approved])
    rw [Rows.candidateUserIds, alone]
    rfl
  · refine .inr ⟨fun profile names => named ⟨profile, names⟩, ?_⟩
    rw [Rows.candidateUserIds, List.map_eq_nil_iff, List.filter_eq_nil_iff]
    intro profile stored selected
    obtain ⟨own, approved⟩ := of_decide_eq_true selected
    exact named ⟨profile, stored, approved, by rw [parsed, own]⟩

/-- A call of `castVote` that nobody disturbs does one of three things. -/
theorem castVote_finishes {system : System app} (reachable : system.Reachable)
    (complete : system.store.Complete) (process voterId : Nat) (username : String)
    (known : system.store.rows.HasUser voterId) :
    Finishes process (.voterMenu voterId username)
      (fun store round _ => Cast process voterId system.store.rows store.rows round)
      (castVote voterId >>= fun _ => .done [] (some (.voterMenu voterId username))) system.store
      [] := by
  have approval := system.store.approvedVoter_iff voterId
  simp only [castVote_eq, chooseCandidate_eq, Dialogue.prepend_read]
  apply finishes_query complete (fun _ => rfl)
  intro first
  generalize (system.store.rows.profilesOf .voterProfiles voterId).map Profile.status =
    statuses at approval ⊢
  cases statuses with
  | nil =>
    refine .refused rfl rfl (fun entitled => ?_) rfl
    have impossible := approval.mp entitled.1
    contradiction
  | cons status others =>
    dsimp only
    split
    · rename_i label
      have approved : status = .approved := by
        cases status <;> simp [Status.label] at label ⊢
      apply finishes_query complete (fun _ => rfl)
      intro second
      generalize voted : (system.store.rows.votes.any fun vote => vote.voterId = voterId) = found
      cases found with
      | true =>
        refine .refused rfl rfl (fun entitled => ?_) rfl
        obtain ⟨vote, stored, own⟩ := List.any_eq_true.mp voted
        exact entitled.2 vote stored (of_decide_eq_true own)
      | false =>
        have entitled : Entitled system.store.rows voterId := by
          refine ⟨approval.mpr (by rw [approved]; rfl), fun vote stored own => ?_⟩
          have another := List.any_eq_false.mp voted vote stored
          simp [own] at another
        dsimp only
        apply finishes_query complete (fun _ => rfl)
        intro third line
        have prepares : ∀ choice, execute choice system.store .prepare =
          system.store.query [] () := fun _ => rfl
        apply finishes_query complete prepares
        intro fourth
        dsimp only
        split
        · rename_i id parsed
          apply finishes_query complete (fun _ => rfl)
          intro fifth
          rcases system.store.candidateUserIds_eq parsed with ⟨profile, names, found⟩ | ⟨none, found⟩
          · simp only [found]
            have candidate := system.store.refers.applicant .candidateProfiles profile names.1
            obtain ⟨id, admissible⟩ := exists_ballotId reachable
            refine ⟨insertVote_serves complete entitled.2 known candidate admissible,
              fun choice store answer healthy served => ?_⟩
            obtain ⟨rfl, added⟩ :=
              serve_insertVote complete entitled.2 known candidate healthy served
            refine .stored line ?_ entitled profile names _ _ added third.scan ?_
            · simp [linesOf]
            · simp [shownCandidates]
          · simp only [found]
            refine .unknown rfl line ?_ entitled none third.scan ?_
            · simp [linesOf]
            · simp [shownCandidates]
        · rename_i unparsed
          refine .unknown rfl line ?_ entitled (fun profile names => ?_) third.scan ?_
          · simp [linesOf]
          · rw [names.2.2] at unparsed
            contradiction
          · simp [shownCandidates]
    · rename_i label
      refine .refused rfl rfl (fun entitled => ?_) rfl
      have head := approval.mp entitled.1
      obtain rfl := Option.some.inj head
      exact label rfl

/-! ## Accepted votes -/

/-- A call of `castVote` with this line to type, from its start to its return. -/
structure Casts (process : Nat) (line : String) (called last : System app)
    (events : List (Event app)) (newer : List (Entry app)) : Prop where
  /-- It ran. -/
  ran : called.run events = some last
  /-- Nobody else was served, and nothing failed. -/
  undisturbed : ∀ event ∈ events, event.Undisturbed Healthy process
  /-- It returned. -/
  returned : ∃ loop printed next, last.process process = some ⟨loop, .done printed next⟩
  /-- These are its steps. -/
  grown : last.log = newer ++ called.log
  /-- The line was typed, if the call asked for one. -/
  typed : linesOf process newer = [] ∨ linesOf process newer = [line]

/-- The vote of this voter with this line is one that `castVote` is there for. -/
def Accepted (rows : Rows) (voterId : Nat) (line : String) : Prop :=
  Entitled rows voterId ∧ ∃ profile, Names rows line profile

/-- A call asks for one line at most. -/
theorem Cast.typed {process voterId : Nat} {before after : Rows} {newer : List (Entry app)}
    (cast : Cast process voterId before after (stepsOf process newer)) :
    linesOf process newer = [] ∨ ∃ line, linesOf process newer = [line] := by
  rw [← linesOf_stepsOf process newer]
  cases cast with
  | refused _ typed _ _ => exact .inl typed
  | unknown _ line typed _ _ _ _ => exact .inr ⟨line, typed⟩
  | stored line typed _ _ _ _ _ _ _ _ => exact .inr ⟨line, typed⟩

/-- What a call did, in terms of the line that it may have asked for. -/
theorem Cast.facts {process voterId : Nat} {before after : Rows} {newer : List (Entry app)}
    (cast : Cast process voterId before after (stepsOf process newer))
    (ids : ∀ left ∈ before.candidates, ∀ right ∈ before.candidates, left.id = right.id →
      left = right) {line : String}
    (typed : linesOf process newer = [] ∨ linesOf process newer = [line]) :
    ((∃ vote, after.votes = before.votes ++ [vote] ∧ vote.voterId = voterId) ↔
        Accepted before voterId line) ∧
      (∀ profile, Entitled before voterId → Names before line profile →
        ∃ id clock, after = before.addVote ⟨id, voterId, profile.userId, clock⟩) ∧
      (¬ Accepted before voterId line → after = before) ∧
      ∀ entry ∈ newer, entry.process = process → ∀ row ∈ shownCandidates entry.action,
        parseInt (trim line) = some (row.id : Int) → Accepted before voterId line := by
  have unchanged {after : Rows} (same : after = before) :
      ¬ ∃ vote, after.votes = before.votes ++ [vote] ∧ vote.voterId = voterId := by
    rintro ⟨vote, added, _⟩
    have lengths := congrArg List.length added
    simp [same] at lengths
  have listed {shown : List CandidateRow} (all : (stepsOf process newer).flatMap
      (fun entry => shownCandidates entry.action) = shown) {entry : Entry app}
      (present : entry ∈ newer) (own : entry.process = process) {row : CandidateRow}
      (inside : row ∈ shownCandidates entry.action) : row ∈ shown := by
    rw [← all]
    exact List.mem_flatMap.mpr ⟨entry, List.mem_filter.mpr ⟨present, decide_eq_true own⟩, inside⟩
  rw [← linesOf_stepsOf process newer] at typed
  cases cast with
  | refused same _ unentitled shown =>
    refine ⟨⟨fun inserted => absurd inserted (unchanged same), fun accepted =>
      absurd accepted.1 unentitled⟩, fun _ entitled => absurd entitled unentitled, fun _ => same,
      fun entry present own row inside => ?_⟩
    simpa using listed shown present own inside
  | unknown same other asked entitled unnamed scan shown =>
    obtain rfl : other = line := by simpa [asked] using typed
    refine ⟨⟨fun inserted => absurd inserted (unchanged same), fun accepted => ?_⟩,
      fun profile _ names => absurd names (unnamed profile), fun _ => same,
      fun entry present own row inside parsed => ?_⟩
    · obtain ⟨_, profile, names⟩ := accepted
      exact absurd names (unnamed profile)
    · obtain ⟨profile, stored, approved, id⟩ :=
        Rows.approved_of_listed (listed shown present own inside)
      exact ⟨entitled, profile, stored, approved, by rw [id]; exact parsed⟩
  | stored other asked entitled profile named id clock added scan shown =>
    obtain rfl : other = line := by simpa [asked] using typed
    have accepted : Accepted before voterId other := ⟨entitled, profile, named⟩
    refine ⟨⟨fun _ => accepted, fun _ => ⟨_, by rw [added]; rfl, rfl⟩⟩,
      fun another _ names => ⟨id, clock, ?_⟩, fun refused => absurd accepted refused,
      fun _ _ _ _ _ _ => accepted⟩
    have one : another.id = profile.id := by
      have both := named.2.2.symm.trans names.2.2
      simp only [Option.some.injEq, Nat.cast_inj] at both
      exact both.symm
    rw [ids another names.1 profile named.1 one]
    exact added

/-- The entry of the menu that calls `castVote`. -/
theorem voterMenu_casts (voterId : Nat) (username : String) {chosen : String}
    (casting : trim chosen = "4") :
    ∃ printed next, (Loop.voterMenu voterId username).body = .read printed next ∧
      next chosen = castVote voterId >>= fun _ => .done [] (some (.voterMenu voterId username)) := by
  refine ⟨_, _, rfl, ?_⟩
  simp only [Dialogue.bind, Dialogue.prepend_nil, casting]
  rfl

/-- In the menu of an open VOTER session, `castVote` can always be called and returns, whatever is
typed; and unless somebody else is served or the database fails, it stores a vote of the voter
exactly if the voter is approved and has not voted and the line is the identifier of an approved
candidacy. The vote is for the user of that candidacy, nothing else changes, and every identifier
that the call lists is accepted. -/
theorem castVote_exact {system : System app} (reachable : system.Reachable) {process voterId : Nat}
    {username : String} (menu : system.process process =
      some ⟨.voterMenu voterId username, (Loop.voterMenu voterId username).body⟩)
    {chosen : String} (casting : trim chosen = "4") (line : String) :
    ∃ called, system.step (.type process chosen) = some called ∧
      (∃ last events newer, Casts process line called last events newer) ∧
      ∀ last events newer, Casts process line called last events newer →
        ((∃ vote, last.store.rows.votes = system.store.rows.votes ++ [vote] ∧
          vote.voterId = voterId) ↔ Accepted system.store.rows voterId line) ∧
        (∀ profile, Entitled system.store.rows voterId → Names system.store.rows line profile →
          ∃ id clock, last.store.rows =
            system.store.rows.addVote ⟨id, voterId, profile.userId, clock⟩) ∧
        (¬ Accepted system.store.rows voterId line → last.store.rows = system.store.rows) ∧
        ∀ entry ∈ newer, entry.process = process → ∀ row ∈ shownCandidates entry.action,
          parseInt (trim line) = some (row.id : Int) →
            Accepted system.store.rows voterId line := by
  obtain ⟨printed, next, body, calls⟩ := voterMenu_casts voterId username casting
  rw [body] at menu
  have ready := (good_of_reachable reachable).ready _ _ _ menu
  have complete := ready.complete (by simp)
  obtain ⟨user, stored, own, _⟩ := ready.account voterId .voter rfl
  have finishes := castVote_finishes reachable complete process voterId username
    ⟨user, stored, own⟩
  have stepped := System.step_type menu chosen
  rw [calls] at stepped
  let called := system.advance process system.store (.voterMenu voterId username) (.typed chosen)
    (some (castVote voterId >>= fun _ => .done [] (some (.voterMenu voterId username))))
  have rests : called.process process = some ⟨.voterMenu voterId username,
      castVote voterId >>= fun _ => .done [] (some (.voterMenu voterId username))⟩ :=
    System.advance_self _ _ _ _ _ _
  refine ⟨called, stepped, ?_, fun last events newer casts => ?_⟩
  · obtain ⟨events, last, newer, shown, value, ran, undisturbed, returned, grown, scripted⟩ :=
      @Dialogue.Completes.exists_run _ app _ process _ _ called _ [] rests finishes (fun _ => line)
        [] trivial
    refine ⟨last, events, newer, ran, undisturbed, ⟨_, _, _, returned⟩, grown, ?_⟩
    obtain ⟨same, again, cast⟩ := finishes.returned rests ran undisturbed returned
    obtain rfl := List.append_cancel_right (again.symm.trans grown)
    rw [List.append_nil] at scripted
    rcases cast.typed with none | ⟨other, one⟩
    · exact .inl none
    · rw [one] at scripted ⊢
      exact .inr (by rw [scripted.1])
  · obtain ⟨ran, undisturbed, ⟨loop, shown, value, returned⟩, grown, typed⟩ := casts
    obtain ⟨same, again, cast⟩ := finishes.returned rests ran undisturbed returned
    obtain rfl := List.append_cancel_right (again.symm.trans grown)
    exact cast.facts (fun left leftStored right rightStored same =>
      system.store.candidate_unique leftStored rightStored (.inl same)) typed

end

/-! ## A call -/

section

attribute [local instance] latin1

/-- Vera's approved application. -/
def vera : VoterProfile := ⟨5, 3, ⟨"North", "Main Street 1"⟩, .approved⟩

set_option maxRecDepth 10000 in
/-- Vera's vote for Cara is accepted when nobody disturbs it. -/
theorem castVote_exact_admission : ∃ system called last events newer vote,
    (System.initial app).run admission = some system ∧
      system.step (.type 2 "4") = some called ∧ Casts 2 "7" called last events newer ∧
      last.store.rows.votes = [vote] ∧ vote.voterId = 3 := by
  have result : ((System.initial app).run admission).map (fun system =>
      (@Option.map _ Loop Process.loop (system.process 2), (roundOf 2 system.log).isEmpty,
        decide (system.store.rows.voters = [vera] ∧ system.store.rows.candidates = [cara] ∧
          system.store.rows.votes = []))) = some (some (.voterMenu 3 "vera"), true, true) := by
    decide +kernel
  obtain ⟨system, ran, seen⟩ := Option.map_eq_some_iff.mp result
  obtain ⟨loop, seen⟩ := Prod.mk.inj seen
  obtain ⟨empty, stored⟩ := Prod.mk.inj seen
  obtain ⟨voters, candidates, votes⟩ := of_decide_eq_true stored
  have menu := System.Reachable.at_body ⟨admission, ran⟩ loop (List.isEmpty_iff.mp empty)
  have casting : trim "4" = "4" := by decide
  have seven : parseInt (trim "7") = some ((cara.id : Nat) : Int) := by decide
  obtain ⟨called, stepped, ⟨last, events, newer, casts⟩, exact_⟩ :=
    castVote_exact ⟨admission, ran⟩ menu casting "7"
  have accepted : Accepted system.store.rows 3 "7" := by
    refine ⟨⟨⟨vera, ?_, rfl, rfl⟩, ?_⟩, cara, ?_, rfl, seven⟩
    · rw [voters]
      exact List.mem_cons_self
    · rw [votes]
      exact fun _ none => (List.not_mem_nil none).elim
    · rw [candidates]
      exact List.mem_cons_self
  obtain ⟨vote, added, own⟩ := (exact_ last events newer casts).1.mpr accepted
  rw [votes] at added
  exact ⟨system, called, last, events, newer, vote, ran, stepped, casts, added, own⟩

end

end OnlineVoting
