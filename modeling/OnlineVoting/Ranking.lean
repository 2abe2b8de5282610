import OnlineVoting.Library.Ordering
import OnlineVoting.Results

/-!
# The ranks of the leaderboard

`viewResults` numbers its lines. Whatever order the server gives to candidates with equally many
votes, a candidate with more votes has the better rank; candidates with equally many votes have
ranks of their own, in the order of the server.
-/
namespace OnlineVoting

open Interleaving Relational

/-! ## Lines -/

/-- The lines of some rows, and then of others. -/
theorem resultLines_append (rank : Nat) (first second : List ResultRow) :
    resultLines rank (first ++ second) =
      resultLines rank first ++ resultLines (rank + first.length) second := by
  induction first generalizing rank with
  | nil => rfl
  | cons row first ih =>
    have further : rank + 1 + first.length = rank + (first.length + 1) := by omega
    simp only [List.cons_append, resultLines, ih, List.length_cons, further]

/-- Every row has one line. -/
theorem resultLines_length (rank : Nat) (rows : List ResultRow) :
    (resultLines rank rows).length = rows.length := by
  induction rows generalizing rank with
  | nil => rfl
  | cons row rows ih => simp only [resultLines, List.length_cons, ih]

/-- The rank on the line of a row is its place. -/
theorem leaderboard_line (before after : List ResultRow) (row : ResultRow) :
    (leaderboard (.ok (before ++ row :: after)))[before.length]? =
      some (resultLine (before.length + 1) row) := by
  have listed : leaderboard (.ok (before ++ row :: after)) =
      resultLines 1 (before ++ row :: after) ++ [.println ""] := by
    cases before <;> rfl
  have place : 1 + before.length = before.length + 1 := by omega
  rw [listed, resultLines_append, resultLines, List.append_assoc,
    List.getElem?_append_right (by rw [resultLines_length]), resultLines_length, Nat.sub_self, place]
  rfl

/-! ## Ranks -/

/-- The leaderboard descends by the votes. -/
theorem Rows.ranking_descends (rows : Rows) (scan : Nat → Nat) :
    (rows.ranking scan).Pairwise fun left right =>
      rows.votesFor right.userId ≤ rows.votesFor left.userId := by
  have sorted : (rows.ranking scan).Pairwise (Descending (fun profile => rows.votesFor profile.userId)
      fun profile => scan profile.id) := pairwise_descending _ _ rows.approvedCandidates
  exact sorted.imp Descending.key_le

section

variable [Platform]

/-- The printed rank of an approved candidate counts the approved candidates with more votes, all
of which are ranked better, and those with equally many votes that the server puts before it. -/
theorem rank_by_votes {system : System app} (reachable : system.Reachable) {process : Nat}
    (requests : system.requested process = some .selectResults) {choice : Choice}
    (fault : choice.fault = none) :
    ∃ (later : System app) (entry : Entry app) (order : List CandidateProfile),
      system.step (.serve process choice) = some later ∧ later.log = entry :: system.log ∧
      order.Perm system.store.rows.approvedCandidates ∧
      ∀ before profile after, order = before ++ profile :: after →
        ∃ rank, entry.printed[before.length]? =
            some (resultLine rank (system.store.rows.resultRow profile)) ∧
          rank = 1 + (system.store.rows.approvedCandidates.countP fun other =>
              system.store.rows.votesFor profile.userId < system.store.rows.votesFor other.userId) +
            (before.countP fun other =>
              system.store.rows.votesFor other.userId = system.store.rows.votesFor profile.userId) ∧
          ∀ other ∈ system.store.rows.approvedCandidates,
            system.store.rows.votesFor profile.userId < system.store.rows.votesFor other.userId →
              other ∈ before := by
  obtain ⟨later, entry, stepped, logged, _, _, lines⟩ := viewResults_step reachable requests fault
  have listed := system.store.rows.ranking_perm choice.scan
  have descends := system.store.rows.ranking_descends choice.scan
  rw [system.store.results_eq] at lines
  refine ⟨later, entry, system.store.rows.ranking choice.scan, stepped, logged, listed,
    fun before profile after split => ?_⟩
  rw [split] at descends
  have place := @length_before CandidateProfile
    (fun profile => system.store.rows.votesFor profile.userId) before after profile descends
  rw [← split, listed.countP_eq] at place
  refine ⟨before.length + 1, ?_, by omega, fun other approved more => ?_⟩
  · have row := leaderboard_line (before.map system.store.rows.resultRow)
      (after.map system.store.rows.resultRow) (system.store.rows.resultRow profile)
    rw [List.length_map] at row
    rw [lines, split, List.map_append, List.map_cons]
    exact row
  · have present := listed.mem_iff.mpr approved
    rw [split] at present
    rcases List.mem_append.mp present with early | late
    · exact early
    · have least : system.store.rows.votesFor other.userId ≤
          system.store.rows.votesFor profile.userId := by
        rcases List.mem_cons.mp late with rfl | late
        · exact le_refl _
        · exact (List.pairwise_cons.mp (List.pairwise_append.mp descends).2.1).1 other late
      omega

end

/-! ## A tie -/

section

attribute [local instance] latin1

/-- Carl registers and applies: user 3 with application 8. -/
def rivalry : List (Event app) :=
  launching 2 9 ++ registering 2 3 "Carl" "carl" "secret" "candidate" ++
    loggingIn 2 "carl" "secret" ++ applying 2 8 ["Blue", "South", "Roads"]

/-- Cara and Carl are approved, nobody votes, and the admin asks for the leaderboard. -/
def stalemate : List (Event app) :=
  candidacy ++ rivalry ++ approval ++ deciding 1 "4" "8" "approve" ++ typing 1 ["5"]

/-- Carl's approved application. -/
def carl : CandidateProfile := ⟨8, 3, ⟨"Blue", "South", "Roads"⟩, .approved⟩

/-- Where the leaderboard is asked for in the stalemate. -/
structure Stalemate (system : System app) : Prop where
  /-- The admin waits for it. -/
  requests : system.requested 1 = some .selectResults
  /-- Nobody has voted. -/
  votes : system.store.rows.votes = []
  /-- Cara and Carl are approved. -/
  approved : system.store.rows.approvedCandidates = [cara, carl]
  /-- The server puts Cara first. -/
  results : system.store.rows.results (fun id => id) =
    [system.store.rows.resultRow cara, system.store.rows.resultRow carl]

set_option maxRecDepth 10000 in
/-- The admin waits for the leaderboard of Cara and Carl. -/
theorem stalemate_runs : ∃ system, (System.initial app).run stalemate = some system ∧
    Stalemate system := by
  have result : ((System.initial app).run stalemate).map (fun system => decide
      (system.requested 1 = some .selectResults ∧ system.store.rows.votes = [] ∧
        system.store.rows.approvedCandidates = [cara, carl] ∧
        system.store.rows.results (fun id => id) =
          [system.store.rows.resultRow cara, system.store.rows.resultRow carl])) = some true := by
    decide +kernel
  obtain ⟨system, ran, seen⟩ := Option.map_eq_some_iff.mp result
  obtain ⟨requests, votes, approved, results⟩ := of_decide_eq_true seen
  exact ⟨system, ran, requests, votes, approved, results⟩

/-- In the stalemate, everybody has no votes. -/
theorem Stalemate.votesFor {system : System app} (seen : Stalemate system) (userId : Nat) :
    system.store.rows.votesFor userId = 0 := by
  rw [Rows.votesFor, seen.votes]
  rfl

/-- Carl is ranked second, though nobody has more votes. -/
theorem not_every_rank_by_votes : ¬ ∀ (system later : System app) (process : Nat)
    (choice : Choice) (entry : Entry app) (profile : CandidateProfile) (rank : Nat),
    system.Reachable → system.requested process = some .selectResults → choice.fault = none →
      system.step (.serve process choice) = some later → later.log = entry :: system.log →
        profile ∈ system.store.rows.approvedCandidates →
          resultLine rank (system.store.rows.resultRow profile) ∈ entry.printed →
            rank = 1 + system.store.rows.approvedCandidates.countP fun other =>
              system.store.rows.votesFor profile.userId <
                system.store.rows.votesFor other.userId := by
  intro fair
  obtain ⟨system, ran, seen⟩ := stalemate_runs
  obtain ⟨later, entry, stepped, logged, _, _, lines⟩ :=
    viewResults_step ⟨stalemate, ran⟩ seen.requests (show tallying.fault = none from rfl)
  have printed : resultLine 2 (system.store.rows.resultRow carl) ∈ entry.printed := by
    have order : system.store.rows.results tallying.scan =
      [system.store.rows.resultRow cara, system.store.rows.resultRow carl] := seen.results
    rw [lines, order]
    exact List.mem_cons_of_mem _ List.mem_cons_self
  have second := fair system later 1 tallying entry carl 2 ⟨stalemate, ran⟩ seen.requests rfl
    stepped logged (by rw [seen.approved]; simp) printed
  simp [seen.votesFor] at second

/-- In the stalemate, the two candidates have equally many votes, and the ranks 1 and 2. -/
theorem rank_by_votes_stalemate : ∃ (system later : System app) (entry : Entry app)
    (first second : CandidateProfile), (System.initial app).run stalemate = some system ∧
      system.step (.serve 1 tallying) = some later ∧ later.log = entry :: system.log ∧
      [first, second].Perm [cara, carl] ∧
      system.store.rows.votesFor first.userId = system.store.rows.votesFor second.userId ∧
      entry.printed[0]? = some (resultLine 1 (system.store.rows.resultRow first)) ∧
      entry.printed[1]? = some (resultLine 2 (system.store.rows.resultRow second)) := by
  obtain ⟨system, ran, seen⟩ := stalemate_runs
  obtain ⟨later, entry, order, stepped, logged, listed, ranks⟩ :=
    @rank_by_votes _ system ⟨stalemate, ran⟩ 1 seen.requests tallying rfl
  rw [seen.approved] at listed
  obtain ⟨first, second, rfl⟩ := List.length_eq_two.mp listed.length_eq
  obtain ⟨rank, line, counted, _⟩ := ranks [] first [second] rfl
  obtain ⟨next, below, more, _⟩ := ranks [first] second [] rfl
  have one : rank = 1 := by
    rw [counted]
    simp [seen.votesFor]
  have two : next = 2 := by
    rw [more]
    simp [seen.votesFor]
  rw [one] at line
  rw [two] at below
  exact ⟨system, later, entry, first, second, ran, stepped, logged, listed,
    (seen.votesFor _).trans (seen.votesFor _).symm, line, below⟩

end

end OnlineVoting
