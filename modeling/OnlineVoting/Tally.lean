import OnlineVoting.Effect

/-!
# What the tally of `viewResults` comes to

The query joins candidates, users and votes, filters by status and groups by candidacy. On a
database that keeps its keys this is: the approved candidates, each once, in the order of their
votes, each with the name of its applicant and the number of votes for its user.
-/
namespace OnlineVoting

open Relational

namespace Rows

/-- The candidacies that are approved. -/
def approvedCandidates (rows : Rows) : List CandidateProfile :=
  rows.candidates.filter fun profile => profile.status = .approved

/-- Number of votes for a user. -/
def votesFor (rows : Rows) (userId : Nat) : Nat :=
  rows.votes.countP fun vote => vote.candidateId = userId

/-- The user of an identifier; without one, the seeded account stands in. -/
def applicant (rows : Rows) (userId : Nat) : User :=
  (rows.users.find? fun user => user.id = userId).getD (adminUser userId "")

/-- The row of a candidacy in the tally. -/
def resultRow (rows : Rows) (profile : CandidateProfile) : ResultRow where
  name := (rows.applicant profile.userId).name
  party := profile.entries.party
  constituency := profile.entries.constituency
  votes := rows.votesFor profile.userId

/-- The approved candidacies in the order of the leaderboard. -/
def ranking (rows : Rows) (scan : Nat → Nat) : List CandidateProfile :=
  rows.approvedCandidates.insertionSort fun left right =>
    rows.votesFor right.userId < rows.votesFor left.userId ∨
      (rows.votesFor left.userId = rows.votesFor right.userId ∧ scan left.id ≤ scan right.id)

/-- The leaderboard lists exactly the approved candidacies. -/
theorem ranking_perm (rows : Rows) (scan : Nat → Nat) :
    (rows.ranking scan).Perm rows.approvedCandidates := List.perm_insertionSort _ _

end Rows

variable [Platform]

namespace Database

/-- A reference selects exactly one user. -/
theorem user_filter (database : Database) {userId : Nat} (known : database.rows.HasUser userId) :
    database.rows.users.filter (fun user => user.id = userId) =
      [database.rows.applicant userId] := by
  obtain ⟨user, stored, same⟩ := known
  have own : decide (user.id = userId) = true := decide_eq_true same
  have alone : database.rows.users.filter (fun user => user.id = userId) = [user] :=
    Table.rowsOf_filter (fun left right first second =>
      .inl ((of_decide_eq_true first).trans (of_decide_eq_true second).symm)) stored own
  have found : database.rows.users.find? (fun user => user.id = userId) = some user := by
    rw [← List.head?_filter, alone, List.head?_cons]
  rw [alone, Rows.applicant, found, Option.getD_some]

/-- The user that a reference selects is stored under that identifier. -/
theorem user_stored (database : Database) {userId : Nat} (known : database.rows.HasUser userId) :
    database.rows.applicant userId ∈ database.rows.users ∧
      (database.rows.applicant userId).id = userId := by
  have selected : database.rows.applicant userId ∈
      database.rows.users.filter (fun user => user.id = userId) := by
    rw [database.user_filter known]
    exact List.mem_singleton.mpr rfl
  obtain ⟨stored, same⟩ := List.mem_filter.mp selected
  exact ⟨stored, of_decide_eq_true same⟩

/-- The applicant of a candidacy is its user. -/
theorem applicant_stored (database : Database) {profile : CandidateProfile}
    (stored : profile ∈ database.rows.candidates) :
    database.rows.applicant profile.userId ∈ database.rows.users ∧
      (database.rows.applicant profile.userId).id = profile.userId :=
  database.user_stored (database.refers.applicant .candidateProfiles profile stored)

/-- Approved candidacies have identifiers of their own. -/
theorem approvedCandidates_ids (database : Database) :
    (database.rows.approvedCandidates.map Profile.id).Nodup := by
  have apart : database.rows.candidates.Pairwise fun left right => ¬ left.Clash right :=
    Table.rowsOf_distinct _
  rw [List.nodup_iff_pairwise_ne, List.pairwise_map]
  exact (apart.filter _).imp fun free same => free (.inl same)

/-- Applications with a status are joined with their applicants, each once. -/
theorem withStatus_eq (database : Database) (table : ProfileTable) (status : Status) :
    database.rows.withStatus table status =
      ((database.rows.profiles table).filter fun profile => profile.status = status).map
        fun profile => (profile, database.rows.applicant profile.userId) := by
  rw [Rows.withStatus, join_filter (fun (profile : Profile table.Entries) (user : User) =>
    user.id = profile.userId) (fun profile => profile.status = status)]
  exact join_reference _ _ _ _ fun profile present => database.user_filter
    (database.refers.applicant table profile (List.mem_filter.mp present).1)

/-- The joined rows of the tally are the approved candidacies with their users, each left-joined
with its votes. -/
theorem ballots_eq (database : Database) : database.rows.ballots =
    leftJoin (fun row vote => vote.candidateId = row.1.userId)
      (database.rows.approvedCandidates.map fun profile =>
        (profile, database.rows.applicant profile.userId)) database.rows.votes := by
  have joined : (join (fun profile user => user.id = profile.userId) database.rows.candidates
      database.rows.users).filter (fun row => row.1.status = .approved) =
        database.rows.approvedCandidates.map fun profile =>
          (profile, database.rows.applicant profile.userId) :=
    database.withStatus_eq .candidateProfiles .approved
  rw [Rows.ballots, leftJoin_filter
    (fun (row : CandidateProfile × User) (vote : Vote) => vote.candidateId = row.1.userId)
    (fun row => row.1.status = .approved), joined]

/-- The tally has one row for each approved candidacy. -/
theorem tally_eq (database : Database) : database.rows.tally =
    database.rows.approvedCandidates.map fun profile =>
      (profile.id, database.rows.resultRow profile) := by
  have distinct : ((database.rows.approvedCandidates.map fun profile =>
      (profile, database.rows.applicant profile.userId)).map fun row => row.1.id).Nodup := by
    rw [List.map_map]
    exact database.approvedCandidates_ids
  rw [Rows.tally, ballots_eq,
    groupBy_leftJoin _ (fun row : CandidateProfile × User => row.1.id) _ _ distinct, List.map_map,
    List.filterMap_map, ← List.filterMap_eq_map]
  refine List.filterMap_congr fun profile present => ?_
  simp only [Function.comp_apply]
  set group := leftJoinRow (fun row vote => decide (vote.candidateId = row.1.userId))
    database.rows.votes (profile, database.rows.applicant profile.userId) with joined
  have counted : countPresent group = database.rows.votesFor profile.userId :=
    countPresent_leftJoinRow _ _ _
  cases rows : group with
  | nil => exact absurd rows (leftJoinRow_ne_nil _ _ _)
  | cons row others =>
    have own : row.1 = (profile, database.rows.applicant profile.userId) :=
      fst_of_mem_leftJoinRow _ _ _ (by rw [← joined, rows]; exact List.mem_cons_self)
    rw [List.head?_cons, Option.map_some, own, ← rows, counted]
    rfl

/-- The leaderboard is made of the rows of the approved candidacies. -/
theorem results_eq (database : Database) (scan : Nat → Nat) :
    database.rows.results scan = (database.rows.ranking scan).map database.rows.resultRow := by
  let row (profile : CandidateProfile) : Nat × ResultRow :=
    (profile.id, database.rows.resultRow profile)
  have sorted : (database.rows.ranking scan).map row = (database.rows.approvedCandidates.map
      row).insertionSort fun left right => right.2.votes < left.2.votes ∨
        (left.2.votes = right.2.votes ∧ scan left.1 ≤ scan right.1) :=
    List.map_insertionSort _ _ row _ fun _ _ _ _ => Iff.rfl
  rw [Rows.results, tally_eq, ← sorted, List.map_map]
  rfl

end Database

end OnlineVoting
