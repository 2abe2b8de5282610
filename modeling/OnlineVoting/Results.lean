import OnlineVoting.Ballots
import OnlineVoting.Continuations
import OnlineVoting.Tally

/-!
# The leaderboard

What `viewResults` prints in any reachable state: one line for each approved candidacy, with what
was entered for it, and with the number of votes that were reported for its identifier. A vote for
a candidate that has been rejected since is stored, and is on no line.
-/
namespace OnlineVoting

open Interleaving

section

variable [Platform]

/-- A session that waits for the tally gets it, and prints it as the leaderboard. -/
theorem viewResults_step {system : System app} (reachable : system.Reachable) {process : Nat}
    (requests : system.requested process = some .selectResults) {choice : Choice}
    (fault : choice.fault = none) :
    ∃ later entry, system.step (.serve process choice) = some later ∧
      later.log = entry :: system.log ∧ entry.process = process ∧
      entry.action = .served .selectResults choice (.ok (system.store.rows.results choice.scan)) ∧
      entry.printed = leaderboard (.ok (system.store.rows.results choice.scan)) := by
  obtain ⟨loop, printed, next, waits, stepped⟩ := query_step reachable requests
    (by simp [connectStatements, setupStatements]) fault rfl
  obtain ⟨⟨_, _, _, goes⟩, _⟩ := asks_of_reachable reachable waits
  refine ⟨_, _, stepped, rfl, rfl, rfl, ?_⟩
  simp only [Option.map_some, Option.getD_some]
  rw [goes]
  rfl

/-- The number of votes on a line of the leaderboard. -/
def Output.lineVotes : Output → Option Nat
  | .printf "#%d  %-20s | %s | %s | Votes: %d%n" [_, _, _, _, .int votes] => some votes.toNat
  | _ => none

/-- The numbers of votes on the printed lines of a leaderboard. -/
def printedVotes (printed : List Output) : List Nat := printed.filterMap Output.lineVotes

omit [Platform] in
/-- A printed leaderboard shows the number of votes of each of its rows. -/
theorem printedVotes_leaderboard (rows : List ResultRow) :
    printedVotes (leaderboard (.ok rows)) = rows.map ResultRow.votes := by
  have lines (rank : Nat) (rows : List ResultRow) :
      printedVotes (resultLines rank rows) = rows.map ResultRow.votes := by
    induction rows generalizing rank with
    | nil => rfl
    | cons row rows ih =>
      have first : (resultLine rank row).lineVotes = some row.votes := rfl
      rw [resultLines, printedVotes, List.filterMap_cons_some first, List.map_cons, ← ih (rank + 1)]
      rfl
  cases rows with
  | nil => rfl
  | cons row rows =>
    have listed : leaderboard (.ok (row :: rows)) =
        resultLines 1 (row :: rows) ++ [.println ""] := rfl
    rw [listed, ← lines 1, printedVotes, List.filterMap_append]
    exact List.append_nil _

/-! ## All votes -/

/-- The candidate of a vote is approved. -/
def Rows.Counts (rows : Rows) (vote : Vote) : Prop :=
  ∃ profile ∈ rows.candidates, profile.userId = vote.candidateId ∧ profile.status = .approved

instance (rows : Rows) (vote : Vote) : Decidable (rows.Counts vote) :=
  inferInstanceAs (Decidable (∃ profile ∈ rows.candidates, _))

/-- No vote counts for two candidacies. -/
theorem Database.approvedCandidates_apart (database : Database) :
    database.rows.approvedCandidates.Pairwise fun first second => first.userId ≠ second.userId := by
  have apart : database.rows.candidates.Pairwise fun left right => ¬ left.Clash right :=
    Relational.Table.rowsOf_distinct _
  exact (apart.filter _).imp fun free same => free (.inr same)

/-- The votes on all lines together are the votes whose candidate is approved. -/
theorem Database.ranking_votes (database : Database) (scan : Nat → Nat) :
    ((database.rows.ranking scan).map fun profile => database.rows.votesFor profile.userId).sum =
      database.rows.votes.countP fun vote => database.rows.Counts vote := by
  rw [((database.rows.ranking_perm scan).map _).sum_eq]
  have apart : database.rows.approvedCandidates.Pairwise fun first second =>
      ∀ vote ∈ database.rows.votes, decide (vote.candidateId = first.userId) = true →
        decide (vote.candidateId = second.userId) = false :=
    database.approvedCandidates_apart.imp fun different vote _ hit => by
      rw [of_decide_eq_true hit]
      exact decide_eq_false different
  have summed := Relational.sum_countP
    (fun (profile : CandidateProfile) (vote : Vote) => vote.candidateId = profile.userId)
    database.rows.approvedCandidates database.rows.votes apart
  refine summed.trans (List.countP_congr fun vote _ => ?_)
  rw [List.any_eq_true, decide_eq_true_iff]
  constructor
  · rintro ⟨profile, listed, own⟩
    obtain ⟨stored, approved⟩ := List.mem_filter.mp listed
    exact ⟨profile, stored, (of_decide_eq_true own).symm, of_decide_eq_true approved⟩
  · rintro ⟨profile, stored, own, approved⟩
    exact ⟨profile, List.mem_filter.mpr ⟨stored, decide_eq_true approved⟩,
      decide_eq_true own.symm⟩

/-- A vote is on exactly one line when its candidate is approved, and on none otherwise. -/
theorem Database.ranking_countP (database : Database) (scan : Nat → Nat) (vote : Vote) :
    ((database.rows.ranking scan).countP fun profile => vote.candidateId = profile.userId) =
      if database.rows.Counts vote then 1 else 0 := by
  rw [(database.rows.ranking_perm scan).countP_eq]
  have few : (database.rows.candidates.countP fun profile =>
      profile.userId = vote.candidateId) ≤ 1 :=
    Relational.Table.rowsOf_countP_le_one _ _ fun left right first second =>
      .inr ((of_decide_eq_true first).trans (of_decide_eq_true second).symm)
  have fewer : (database.rows.approvedCandidates.countP fun profile =>
      vote.candidateId = profile.userId) ≤ 1 := by
    refine le_trans ?_ few
    rw [Rows.approvedCandidates, List.countP_filter]
    exact List.countP_mono_left fun profile _ both => by simp_all
  split
  · rename_i counts
    obtain ⟨profile, stored, owner, approved⟩ := counts
    have some : 0 < database.rows.approvedCandidates.countP fun profile =>
        vote.candidateId = profile.userId := by
      refine List.countP_pos_iff.mpr ⟨profile, ?_, decide_eq_true owner.symm⟩
      exact List.mem_filter.mpr ⟨stored, decide_eq_true approved⟩
    omega
  · rename_i unapproved
    rw [List.countP_eq_zero]
    intro profile listed own
    obtain ⟨stored, approved⟩ := List.mem_filter.mp listed
    exact unapproved ⟨profile, stored, (of_decide_eq_true own).symm, of_decide_eq_true approved⟩

/-- The votes on the printed lines are the stored votes whose candidate is approved, each on one
line; the stored votes are those reported; and none is missing exactly if every candidate that was
voted for is approved. -/
theorem results_count_approved {system : System app} (reachable : system.Reachable)
    {process : Nat} (requests : system.requested process = some .selectResults)
    {choice : Choice} (fault : choice.fault = none) :
    ∃ (later : System app) (entry : Entry app) (order : List CandidateProfile),
      system.step (.serve process choice) = some later ∧
      later.log = entry :: system.log ∧
      entry.printed = leaderboard (.ok (order.map system.store.rows.resultRow)) ∧
      (printedVotes entry.printed).sum =
        (system.store.rows.votes.countP fun vote => system.store.rows.Counts vote) ∧
      (∀ vote ∈ system.store.rows.votes,
        (order.countP fun profile => vote.candidateId = profile.userId) =
          if system.store.rows.Counts vote then 1 else 0) ∧
      system.store.rows.votes.length = casts system.log ∧
      ((printedVotes entry.printed).sum = system.store.rows.votes.length ↔
        ∀ vote ∈ system.store.rows.votes, system.store.rows.Counts vote) := by
  obtain ⟨later, entry, stepped, logged, _, _, lines⟩ := viewResults_step reachable requests fault
  rw [system.store.results_eq] at lines
  have sum : (printedVotes entry.printed).sum =
      system.store.rows.votes.countP fun vote => system.store.rows.Counts vote := by
    rw [lines, printedVotes_leaderboard, List.map_map]
    exact system.store.ranking_votes choice.scan
  refine ⟨later, entry, system.store.rows.ranking choice.scan, stepped, logged, lines, sum,
    fun vote _ => system.store.ranking_countP choice.scan vote,
    (good_of_reachable reachable).invariant.tallied.total, ?_⟩
  rw [sum, List.countP_eq_length]
  exact forall₂_congr fun vote _ => decide_eq_true_iff

/-! ## The votes of one candidate -/

/-- For every approved candidacy there is exactly one line, with the name that was registered for
its user, the party and constituency that were entered in its application, and as many votes as
were reported for its identifier; and only a reported vote for its identifier changes their
number. -/
theorem leaderboard_counts_ballots {system : System app} (reachable : system.Reachable)
    {process : Nat} (requests : system.requested process = some .selectResults)
    {choice : Choice} (fault : choice.fault = none) :
    ∃ (later : System app) (entry : Entry app) (order : List CandidateProfile)
      (row : CandidateProfile → ResultRow),
      system.step (.serve process choice) = some later ∧
      later.log = entry :: system.log ∧
      entry.printed = leaderboard (.ok (order.map row)) ∧ order.Nodup ∧
      (∀ profile, profile ∈ order ↔
        profile ∈ system.store.rows.candidates ∧ profile.status = .approved) ∧
      ∀ profile ∈ order,
        (∃ user, user.id = profile.userId ∧ user.name = (row profile).name ∧
          Occurs (Registers user) system.log) ∧
        (∃ entries : CandidateEntries, entries.party = (row profile).party ∧
          entries.constituency = (row profile).constituency ∧
          Occurs (Applies .candidateProfiles profile.id profile.userId entries) system.log) ∧
        (row profile).votes = castsFor profile.id system.log ∧
        ∀ event after newest, system.step event = some after →
          after.log = newest :: system.log →
            after.store.rows.votesFor profile.userId = (row profile).votes +
              if voteCast ∈ newest.printed ∧
                typedId newest.process system.log = some (profile.id : Int) then 1 else 0 := by
  obtain ⟨later, entry, stepped, logged, _, _, lines⟩ := viewResults_step reachable requests fault
  have good := good_of_reachable reachable
  have listed (profile : CandidateProfile) : profile ∈ system.store.rows.ranking choice.scan ↔
      profile ∈ system.store.rows.candidates ∧ profile.status = .approved := by
    rw [(system.store.rows.ranking_perm choice.scan).mem_iff, Rows.approvedCandidates,
      List.mem_filter, decide_eq_true_iff]
  have distinct : (system.store.rows.ranking choice.scan).Nodup := by
    rw [(system.store.rows.ranking_perm choice.scan).nodup_iff]
    exact system.store.approvedCandidates_ids.of_map
  rw [system.store.results_eq] at lines
  refine ⟨later, entry, system.store.rows.ranking choice.scan, system.store.rows.resultRow,
    stepped, logged, lines, distinct, listed, fun profile present => ?_⟩
  obtain ⟨stored, _⟩ := (listed profile).mp present
  obtain ⟨known, own⟩ := system.store.applicant_stored stored
  refine ⟨⟨system.store.rows.applicant profile.userId, own, rfl, ?_⟩,
    ⟨profile.entries, rfl, rfl, good.invariant.recorded.profiles .candidateProfiles profile stored⟩,
    (good.invariant.tallied.counted profile stored).symm, fun event after newest moved written => ?_⟩
  · rcases good.invariant.recorded.users _ known with seed | registered
    · -- The seeded account is an ADMIN, and the applicant is a CANDIDATE.
      obtain ⟨user, held, same, role⟩ :=
        good.invariant.roles .candidateProfiles profile stored
      have one := system.store.user_unique known held (.inl (own.trans same.symm))
      rw [← one, seed] at role
      contradiction
    · exact registered
  · have goodAfter := good_of_reachable (reachable.step moved)
    obtain ⟨kept, held, continues⟩ :=
      (good.evolves rules_sound moved).profiles .candidateProfiles profile stored
    have before := good.invariant.tallied.counted profile stored
    have now := goodAfter.invariant.tallied.counted kept held
    rw [continues.id, continues.userId, written] at now
    exact now.symm.trans (congrArg (· + _) before)

end

/-! ## A leaderboard -/

section

attribute [local instance] latin1

/-- The admin of process 1 asks for the leaderboard after the election. -/
def closing : List (Event app) := election ++ typing 1 ["5"]

/-- The admin rejects application 7 after the election, and asks for the leaderboard. -/
def annulment : List (Event app) := election ++ deciding 1 "4" "7" "reject" ++ typing 1 ["5"]

set_option maxRecDepth 10000 in
/-- After the rejection of Cara, the leaderboard shows none of the stored votes. -/
theorem not_every_vote_printed : ¬ ∀ (system later : System app) (process : Nat) (choice : Choice)
    (entry : Entry app), system.Reachable →
      system.requested process = some .selectResults → choice.fault = none →
        system.step (.serve process choice) = some later → later.log = entry :: system.log →
          (printedVotes entry.printed).sum = system.store.rows.votes.length := by
  intro complete
  have result : ((System.initial app).run annulment).bind (fun system =>
      (system.step (.serve 1 tallying)).map fun later =>
        (decide (system.requested 1 = some .selectResults), system.store.rows.votes.length,
          later.log.head?.map fun entry => (printedVotes entry.printed).sum)) =
      some (true, 1, some 0) := by
    decide +kernel
  obtain ⟨system, ran, stepped⟩ := Option.bind_eq_some_iff.mp result
  obtain ⟨later, stepped, seen⟩ := Option.map_eq_some_iff.mp stepped
  obtain ⟨tally, seen⟩ := Prod.mk.inj seen
  obtain ⟨stored, printed⟩ := Prod.mk.inj seen
  obtain ⟨entry, logged, _⟩ := System.step_log stepped
  have shown : (printedVotes entry.printed).sum = 0 := by
    rw [logged, List.head?_cons, Option.map_some] at printed
    exact Option.some.inj printed
  have equal := complete system later 1 tallying entry ⟨annulment, ran⟩ (of_decide_eq_true tally) rfl
    stepped logged
  rw [shown, stored] at equal
  contradiction

/-- Cara's approved application. -/
def cara : CandidateProfile := ⟨7, 2, ⟨"Green", "North", "Trees"⟩, .approved⟩

set_option maxRecDepth 10000 in
/-- After the election, the admin waits for the tally of one vote, for Cara. -/
theorem closing_runs : ∃ system, (System.initial app).run closing = some system ∧
    system.requested 1 = some .selectResults ∧ system.store.rows.candidates = [cara] ∧
    (system.store.rows.votes.countP fun vote => system.store.rows.Counts vote) = 1 ∧
    castsFor 7 system.log = 1 := by
  have result : ((System.initial app).run closing).map (fun system =>
      (decide (system.requested 1 = some .selectResults), system.store.rows.candidates,
        system.store.rows.votes.countP fun vote => system.store.rows.Counts vote,
        castsFor 7 system.log)) = some (true, [cara], 1, 1) := by
    decide +kernel
  obtain ⟨system, ran, seen⟩ := Option.map_eq_some_iff.mp result
  obtain ⟨tally, seen⟩ := Prod.mk.inj seen
  obtain ⟨stored, seen⟩ := Prod.mk.inj seen
  obtain ⟨counted, cast⟩ := Prod.mk.inj seen
  exact ⟨system, ran, of_decide_eq_true tally, stored, counted, cast⟩

/-- Vera and Wim vote for Cara, and the admin asks for the leaderboard. -/
def landslide : List (Event app) :=
  polls ++ votes "7" "7" ++ loggingIn 0 "admin" "admin123" ++ typing 0 ["5"]

/-- Dan's approved application. -/
def dan : CandidateProfile := ⟨8, 3, ⟨"Blue", "South", "Seas"⟩, .approved⟩

/-- Where the leaderboard is asked for after both votes. -/
structure Landslide (system : System app) : Prop where
  /-- The admin waits for it. -/
  requests : system.requested 0 = some .selectResults
  /-- The candidates are Cara and Dan. -/
  candidates : system.store.rows.candidates = [cara, dan]
  /-- The votes of Vera and Wim are stored. -/
  votes : system.store.rows.votes = [⟨4, 4, 2, 0⟩, ⟨9, 5, 2, 0⟩]
  /-- Cara has both. -/
  forCara : system.store.rows.resultRow cara = ⟨"Cara", "Green", "North", 2⟩
  /-- Dan has none. -/
  forDan : system.store.rows.resultRow dan = ⟨"Dan", "Blue", "South", 0⟩
  /-- Both were reported for Cara. -/
  castCara : castsFor cara.id system.log = 2
  /-- None was reported for Dan. -/
  castDan : castsFor dan.id system.log = 0

set_option maxRecDepth 10000 in
/-- After both votes, the admin waits for the tally of two for Cara and none for Dan. -/
theorem landslide_runs : ∃ system, (System.initial app).run landslide = some system ∧
    Landslide system := by
  have result : ((System.initial app).run landslide).map (fun system => decide
      (system.requested 0 = some .selectResults ∧ system.store.rows.candidates = [cara, dan] ∧
        system.store.rows.votes = [⟨4, 4, 2, 0⟩, ⟨9, 5, 2, 0⟩] ∧
        system.store.rows.resultRow cara = ⟨"Cara", "Green", "North", 2⟩ ∧
        system.store.rows.resultRow dan = ⟨"Dan", "Blue", "South", 0⟩ ∧
        castsFor cara.id system.log = 2 ∧ castsFor dan.id system.log = 0)) = some true := by
    decide +kernel
  obtain ⟨system, ran, seen⟩ := Option.map_eq_some_iff.mp result
  obtain ⟨requests, candidates, votes, forCara, forDan, castCara, castDan⟩ := of_decide_eq_true seen
  exact ⟨system, ran, requests, candidates, votes, forCara, forDan, castCara, castDan⟩

/-- After the votes of Vera and Wim for Cara, the leaderboard of Cara and Dan shows both. -/
theorem results_count_approved_election : ∃ (system later : System app) (entry : Entry app)
    (order : List CandidateProfile), (System.initial app).run landslide = some system ∧
      system.step (.serve 0 tallying) = some later ∧ later.log = entry :: system.log ∧
      entry.printed = leaderboard (.ok (order.map system.store.rows.resultRow)) ∧
      (printedVotes entry.printed).sum = 2 ∧ casts system.log = 2 ∧
      ∀ vote ∈ system.store.rows.votes,
        (order.countP fun profile => vote.candidateId = profile.userId) = 1 := by
  obtain ⟨system, ran, seen⟩ := landslide_runs
  obtain ⟨later, entry, order, stepped, logged, printed, _, once, all, complete⟩ :=
    @results_count_approved _ system ⟨landslide, ran⟩ 0 seen.requests tallying rfl
  have two : system.store.rows.votes.length = 2 := by rw [seen.votes]; rfl
  have counts : ∀ vote ∈ system.store.rows.votes, system.store.rows.Counts vote := by
    intro vote present
    refine ⟨cara, by rw [seen.candidates]; exact List.mem_cons_self, ?_, rfl⟩
    rw [seen.votes] at present
    rcases List.mem_cons.mp present with rfl | other
    · rfl
    · rw [List.mem_singleton.mp other]
      rfl
  refine ⟨system, later, entry, order, ran, stepped, logged, printed,
    (complete.mpr counts).trans two, all.symm.trans two, fun vote present => ?_⟩
  rw [once vote present, if_pos (counts vote present)]

/-- After the election, the leaderboard has a line of Cara, with the one vote reported for her. -/
theorem leaderboard_counts_ballots_election : ∃ (system later : System app)
    (entry : Entry app) (order : List CandidateProfile) (row : CandidateProfile → ResultRow),
    (System.initial app).run closing = some system ∧
      system.step (.serve 1 tallying) = some later ∧ later.log = entry :: system.log ∧
      entry.printed = leaderboard (.ok (order.map row)) ∧ cara ∈ order ∧
      (row cara).votes = castsFor 7 system.log ∧ castsFor 7 system.log = 1 := by
  obtain ⟨system, ran, requests, stored, _, cast⟩ := closing_runs
  obtain ⟨later, entry, order, row, stepped, logged, printed, _, listed, lines⟩ :=
    @leaderboard_counts_ballots _ system ⟨closing, ran⟩ 1 requests tallying rfl
  have shown : cara ∈ order := (listed cara).mpr ⟨by rw [stored]; exact List.mem_cons_self, rfl⟩
  exact ⟨system, later, entry, order, row, ran, stepped, logged, printed, shown,
    (lines cara shown).2.2.1, cast⟩

end

end OnlineVoting
