import OnlineVoting.Library.Lockstep
import OnlineVoting.Alike

/-!
# What sessions learn of the votes

Two systems stand at the same rests over databases that differ in their votes alone. When the
candidates of the votes are hidden, whatever happens next, every session but those of admins prints
the same in both. When only the link between voters and candidates is hidden, so that the same
voters have voted and every candidate has as many votes, every session prints the same.
-/
namespace OnlineVoting

open Interleaving Relational

section

variable [Platform]

namespace Database

variable {votes : Votes → Votes → Prop} {choices : Choice → Choice → Prop}
  {left right : Database} {choice other : Choice}

/-- A statement other than the tally is answered the same, and leaves the databases alike. -/
theorem Alike.serve (alike : left.Alike votes right) (veils : Veils votes choices)
    (matching : choices choice other) {stmt : Stmt} (tally : stmt ≠ .selectResults)
    {next next' : Database} {answer answer' : Answer stmt}
    (served : OnlineVoting.serve stmt choice left = some (next, answer))
    (served' : OnlineVoting.serve stmt other right = some (next', answer')) :
    next.Alike votes next' ∧ answer = answer' := by
  have fault := (veils.choices matching).1
  cases message : choice.fault with
  | some text =>
    have same : other.fault = some text := by rw [← fault, message]
    simp only [OnlineVoting.serve, message, same, Option.some.injEq, Prod.mk.injEq] at served served'
    obtain ⟨rfl, rfl⟩ := served
    obtain ⟨rfl, rfl⟩ := served'
    exact ⟨alike, rfl⟩
  | none =>
    have same : other.fault = none := by rw [← fault, message]
    simp only [OnlineVoting.serve, message] at served
    simp only [OnlineVoting.serve, same] at served'
    by_cases ballot : ∃ voterId candidateId, stmt = .insertVote voterId candidateId
    · obtain ⟨voterId, candidateId, rfl⟩ := ballot
      exact alike.insertVote veils matching served served'
    · have others : ∀ voterId candidateId, stmt ≠ .insertVote voterId candidateId :=
        fun voterId candidateId same => ballot ⟨voterId, candidateId, same⟩
      exact (alike.execute veils matching tally others).agree served served'

/-- The tally is always answered, and changes nothing. -/
theorem serve_tally (choice : Choice) (database : Database) :
    ∃ answer, OnlineVoting.serve .selectResults choice database = some (database, answer) := by
  cases fault : choice.fault with
  | some text => exact ⟨_, by simp only [OnlineVoting.serve, fault]; rfl⟩
  | none => exact ⟨_, by simp only [OnlineVoting.serve, fault, OnlineVoting.execute, query]; rfl⟩

/-- A vote under an identifier that can be next has an outcome. -/
theorem storeVote_exists {database : Database} {vote : Vote}
    (admissible : database.has .votes = true →
      Admissible vote.id (database.rows.votes.map Vote.id)) :
    ∃ outcome, database.storeVote vote = some outcome := by
  cases present : database.votes with
  | none => exact ⟨_, storeVote_missing present vote⟩
  | some table =>
    have free := admissible (by simp [has, present])
    simp only [rows, present, Table.rowsOf_some] at free
    rcases storeVote_cases present free with ⟨_, same⟩ | ⟨_, outcome⟩
    · exact ⟨_, same⟩
    rcases outcome with ⟨_, same⟩ | ⟨_, ⟨_, same⟩ | ⟨_, _, _, _, same, _⟩⟩
    · exact ⟨_, same⟩
    · exact ⟨_, same⟩
    · exact ⟨_, same⟩

/-- A statement is answered by any choice that matches, if its identifier can be that of a vote. -/
theorem Alike.serve_exists (alike : left.Alike votes right) (veils : Veils votes choices)
    (matching : choices choice other) {stmt : Stmt}
    (admissible : ∀ voterId candidateId, stmt = .insertVote voterId candidateId →
      other.fault = none → right.has .votes = true →
        Admissible other.ballotId (right.rows.votes.map Vote.id))
    {next : Database} {answer : Answer stmt}
    (served : OnlineVoting.serve stmt choice left = some (next, answer)) :
    ∃ next' answer', OnlineVoting.serve stmt other right = some (next', answer') := by
  have fault := (veils.choices matching).1
  cases message : other.fault with
  | some text => exact ⟨_, _, by simp only [OnlineVoting.serve, message]; rfl⟩
  | none =>
    rw [message] at fault
    simp only [OnlineVoting.serve, fault] at served
    by_cases tally : stmt = .selectResults
    · subst tally
      obtain ⟨answer', second⟩ := serve_tally other right
      exact ⟨right, answer', second⟩
    by_cases ballot : ∃ voterId candidateId, stmt = .insertVote voterId candidateId
    · obtain ⟨voterId, candidateId, rfl⟩ := ballot
      obtain ⟨outcome, stored⟩ := @storeVote_exists _ right
        ⟨other.ballotId, voterId, candidateId, other.ballotClock⟩
        (admissible voterId candidateId rfl message)
      have served' : OnlineVoting.serve (.insertVote voterId candidateId) other right =
          right.insertion (some outcome) := by
        rw [← stored]
        simp only [OnlineVoting.serve, message, OnlineVoting.execute]
      exact ⟨_, _, served'⟩
    · have others : ∀ voterId candidateId, stmt ≠ .insertVote voterId candidateId :=
        fun voterId candidateId same => ballot ⟨voterId, candidateId, same⟩
      obtain ⟨next', answer', second⟩ :=
        (alike.execute veils matching tally others).exists served
      refine ⟨next', answer', ?_⟩
      simp only [OnlineVoting.serve, message, second]

end Database

/-! ## Votes without their candidates -/

/-- A vote without its candidate. -/
def Vote.sealed (vote : Vote) : Nat × Nat × Nat := (vote.id, vote.voterId, vote.votedAt)

/-- Votes that are the same but for their candidates. -/
def Sealed (left right : Votes) : Prop :=
  left.map (fun table => table.rows.map Vote.sealed) =
    right.map fun table => table.rows.map Vote.sealed

omit [Platform] in
/-- The rows of sealed votes are the same but for their candidates. -/
theorem Sealed.rows {left right : Votes} (same : Sealed left right) :
    (Table.rowsOf left).map Vote.sealed = (Table.rowsOf right).map Vote.sealed := by
  cases left with
  | none =>
    cases right with
    | none => rfl
    | some table => contradiction
  | some table =>
    cases right with
    | none => contradiction
    | some table' => exact Option.some.inj same

omit [Platform] in
/-- Sealed votes are of the same voters. -/
theorem Sealed.voters {left right : Votes} (same : Sealed left right) (voterId : Nat) :
    (∃ vote ∈ Table.rowsOf left, vote.voterId = voterId) ↔
      ∃ vote ∈ Table.rowsOf right, vote.voterId = voterId := by
  have listed (votes : Votes) : (∃ vote ∈ Table.rowsOf votes, vote.voterId = voterId) ↔
      ∃ one ∈ (Table.rowsOf votes).map Vote.sealed, one.2.1 = voterId := by
    simp [Vote.sealed]
  rw [listed left, listed right, same.rows]

omit [Platform] in
/-- Sealed votes have the same identifiers. -/
theorem Sealed.ids {left right : Votes} (same : Sealed left right) :
    (Table.rowsOf left).map Vote.id = (Table.rowsOf right).map Vote.id := by
  have listed (votes : Votes) : (Table.rowsOf votes).map Vote.id =
      ((Table.rowsOf votes).map Vote.sealed).map Prod.fst := by
    simp [Vote.sealed]
  rw [listed left, listed right, same.rows]

omit [Platform] in
/-- The candidates of votes are veiled, whatever the choices. -/
theorem veils_sealed : Veils Sealed Eq where
  present same := by
    have present := congrArg Option.isSome same
    simpa using present
  ensure {left right} same := by
    have rows := same.rows
    rw [← Table.rowsOf_ensure, ← Table.rowsOf_ensure right] at rows
    exact congrArg some rows
  voters same := same.voters
  choices same := by
    subst same
    exact ⟨rfl, rfl, rfl, rfl⟩
  insert same matching inserted inserted' := by
    subst matching
    have before := Option.some.inj same
    refine congrArg some ?_
    dsimp only at before ⊢
    rw [Table.insert_rows inserted, Table.insert_rows inserted', List.map_append, List.map_append,
      before]

/-- The tally tells the votes apart, to admins. -/
@[reducible] def hiddenCandidates : Likeness app where
  Alike := Database.Alike Sealed
  Matches := Eq
  Tells loop := ∃ admin, loop = .adminMenu admin

/-- A session that waits for the tally is one of an admin, and returns with the leaderboard. -/
theorem tally_told {system : System app} (reachable : system.Reachable) {process : Nat}
    {loop : Loop} {printed : List Output}
    {next : Answer .selectResults → Dialogue console (Option Loop)}
    (waits : system.process process = some ⟨loop, .ask printed .selectResults next⟩) :
    (∃ admin, loop = .adminMenu admin) ∧
      ∀ answer, next answer = .done (leaderboard answer) (some loop) := by
  have permit : Permit loop process system.toWorld .selectResults :=
    (good_of_reachable reachable).permit rules_sound waits
  obtain ⟨⟨_, _, _, goes⟩, _⟩ := asks_of_reachable reachable waits
  exact ⟨permit, goes⟩

/-- Only the tally tells votes apart that differ in their candidates. -/
theorem hiddenCandidates_sound : hiddenCandidates.Sound where
  agrees {left right process loop printed stmt next choice other store store' answer answer'}
      leftReachable _ alike waits _ matching served served' := by
    by_cases tally : stmt = .selectResults
    · subst tally
      obtain ⟨admin, goes⟩ := tally_told leftReachable waits
      obtain ⟨_, first⟩ := Database.serve_tally choice left.store
      obtain ⟨_, second⟩ := Database.serve_tally other right.store
      obtain ⟨rfl, _⟩ := Prod.mk.inj (Option.some.inj (served.symm.trans first))
      obtain ⟨rfl, _⟩ := Prod.mk.inj (Option.some.inj (served'.symm.trans second))
      rw [goes, goes]
      exact ⟨alike, .told admin _ _ _⟩
    · obtain ⟨after, rfl⟩ := alike.serve veils_sealed matching tally served served'
      exact ⟨after, .same _⟩
  answers {left right process loop printed stmt next choice store answer}
      _ _ alike _ _ served := by
    have admissible (voterId candidateId : Nat) (ballot : stmt = .insertVote voterId candidateId)
        (fault : choice.fault = none) (has : right.store.has .votes = true) :
        Admissible choice.ballotId (right.store.rows.votes.map Vote.id) := by
      subst ballot
      simp only [serve, fault, execute] at served
      obtain ⟨_, stored, _⟩ := Option.map_eq_some_iff.mp served
      have free := Database.storeVote_admissible (by rw [alike.has veils_sealed, has]) stored
      have ids : left.store.rows.votes.map Vote.id = right.store.rows.votes.map Vote.id :=
        Sealed.ids alike.votes
      rw [← ids]
      exact free
    obtain ⟨_, _, second⟩ := alike.serve_exists veils_sealed (Eq.refl choice) admissible served
    exact ⟨choice, _, _, rfl, second⟩

/-- Sessions other than those of admins learn nothing about the candidates of votes: over databases
that are equal but for these, every step of theirs prints the same, whatever is typed and whatever
is voted and viewed meanwhile, and the databases are equal again but for these. -/
theorem candidates_secret {left right last : System app} (leftReachable : left.Reachable)
    (rightReachable : right.Reachable) (equal : hiddenCandidates.Pair left right)
    {events : List (Event app)} (ran : left.run events = some last) :
    ∃ last', right.run events = some last' ∧ hiddenCandidates.Pair last last' ∧
      ((∀ process admin rest, last.process process ≠ some ⟨.adminMenu admin, rest⟩) →
        last.process = last'.process) ∧
      ∃ newer newer', last.log = newer ++ left.log ∧ last'.log = newer' ++ right.log ∧
        List.Forall₂ (Entry.Alike hiddenCandidates.Tells) newer newer' := by
  obtain ⟨others, last', matching, ran'⟩ :=
    equal.run_follows hiddenCandidates_sound leftReachable rightReachable ran
  obtain ⟨ended, printed⟩ :=
    equal.run hiddenCandidates_sound leftReachable rightReachable matching ran ran'
  have same : events = others := by
    rw [← List.forall₂_eq_eq_eq]
    exact matching.imp fun _ _ => Event.Match.eq
  refine ⟨last', by rw [same, ran'], ended, fun nobody => funext fun process => ?_, printed⟩
  refine (ended.processes process).eq fun loop rest runs => ?_
  rintro ⟨admin, rfl⟩
  exact nobody process admin rest runs

end

section

attribute [local instance] latin1

/-- Vera asks to vote once more, and the admin views the results. -/
def recount : List (Event app) :=
  visit "vera" "7" (typing 0 ["4"] ++ serving 0 [0, 0] ++ [.turn 0]) ++
    loggingIn 0 "admin" "admin123" ++ typing 0 ["5"] ++ serving 0 [0]

/-- The first process shows the menu of `main` of both systems, and their databases have the same
rows but for the votes. -/
def Twins (left right : System app) : Prop :=
  (left.store.rows.users = right.store.rows.users ∧
    left.store.rows.voters = right.store.rows.voters ∧
    left.store.rows.candidates = right.store.rows.candidates ∧
    left.store.rows.forumPosts = right.store.rows.forumPosts) ∧
  (∀ system ∈ [left, right],
    @Option.map _ Loop Process.loop (system.process 0) = some .mainMenu ∧
      (roundOf 0 system.log).length = 0)

instance (left right : System app) : Decidable (Twins left right) :=
  inferInstanceAs (Decidable (_ ∧ _))

/-- The first process of a reachable system of twins is at the menu of `main`. -/
theorem Twins.at_menu {left right system : System app} (twins : Twins left right)
    (one : system ∈ [left, right]) (reachable : system.Reachable) :
    system.process 0 = some ⟨.mainMenu, app.body .mainMenu⟩ := by
  obtain ⟨runs, fresh⟩ := twins.2 system one
  exact reachable.at_body runs (List.length_eq_zero_iff.mp fresh)

/-- The databases of twins are complete. -/
theorem Twins.complete {left right system : System app} (twins : Twins left right)
    (one : system ∈ [left, right]) (reachable : system.Reachable) : system.store.Complete :=
  ((good_of_reachable reachable).ready _ _ _ (twins.at_menu one reachable)).complete (by simp)

/-- The databases of twins are alike when their votes are. -/
theorem Twins.stores {left right : System app} (twins : Twins left right)
    (leftReachable : left.Reachable) (rightReachable : right.Reachable)
    {votes : Votes → Votes → Prop} (veiled : votes left.store.votes right.store.votes) :
    left.store.Alike votes right.store := by
  have complete := twins.complete (by simp) leftReachable
  have complete' := twins.complete (by simp) rightReachable
  obtain ⟨⟨users, voters, candidates, posts⟩, _⟩ := twins
  exact complete.alike complete' users voters candidates posts veiled

/-- Twins of runs of the first process alone have their sessions at the same rests. -/
theorem Twins.sessions {left right : System app} (twins : Twins left right)
    {events others : List (Event app)} (ran : (System.initial app).run events = some left)
    (ran' : (System.initial app).run others = some right)
    (alone : ∀ event ∈ events ++ others, event.actor = 0) : left.process = right.process := by
  funext process
  by_cases first : process = 0
  · subst first
    rw [twins.at_menu (by simp) ⟨events, ran⟩, twins.at_menu (by simp) ⟨others, ran'⟩]
  · have idle (event : Event app) (present : event ∈ events ++ others) : event.actor ≠ process := by
      rw [alone event present]
      exact Ne.symm first
    rw [System.run_idle (fun event present => idle event (List.mem_append_left _ present)) ran,
      System.run_idle (fun event present => idle event (List.mem_append_right _ present)) ran']

/-- What is compared of two ways to vote: whether the systems are twins, and their votes. -/
def compared (vera wim vera' wim' : String) : Option (Bool × List Vote × List Vote) :=
  ((System.initial app).run polls).bind fun opened =>
    (opened.run (votes vera wim)).bind fun left =>
      (opened.run (votes vera' wim')).bind fun right =>
        (left.run recount).map fun _ =>
          (decide (Twins left right), left.store.rows.votes, right.store.rows.votes)

/-- Two ways to vote that were compared lead to two reachable systems. -/
theorem of_compared {vera wim vera' wim' : String} {before after : List Vote}
    (result : compared vera wim vera' wim' = some (true, before, after)) :
    ∃ left right last, (System.initial app).run (polls ++ votes vera wim) = some left ∧
      (System.initial app).run (polls ++ votes vera' wim') = some right ∧
      left.run recount = some last ∧ Twins left right ∧
      left.store.rows.votes = before ∧ right.store.rows.votes = after := by
  obtain ⟨opened, ran, result⟩ := Option.bind_eq_some_iff.mp result
  obtain ⟨left, voted, result⟩ := Option.bind_eq_some_iff.mp result
  obtain ⟨right, voted', result⟩ := Option.bind_eq_some_iff.mp result
  obtain ⟨last, recounted, seen⟩ := Option.map_eq_some_iff.mp result
  obtain ⟨twins, rows⟩ := Prod.mk.inj seen
  obtain ⟨rows, rows'⟩ := Prod.mk.inj rows
  refine ⟨left, right, last, ?_, ?_, recounted, of_decide_eq_true twins, rows, rows'⟩
  · rw [System.run_append, ran, Option.bind_some, voted]
  · rw [System.run_append, ran, Option.bind_some, voted']

set_option maxRecDepth 10000 in
/-- Whether Wim votes for Dan or for Cara changes nothing that Vera is shown. -/
theorem candidates_secret_recount : ∃ left right last last',
    (System.initial app).run (polls ++ votes "7" "8") = some left ∧
    (System.initial app).run (polls ++ votes "7" "7") = some right ∧
    left.store.rows.votes = [⟨4, 4, 2, 0⟩, ⟨9, 5, 3, 0⟩] ∧
    right.store.rows.votes = [⟨4, 4, 2, 0⟩, ⟨9, 5, 2, 0⟩] ∧
    left.run recount = some last ∧ right.run recount = some last' ∧
    hiddenCandidates.Pair last last' ∧
    ∃ newer newer', last.log = newer ++ left.log ∧ last'.log = newer' ++ right.log ∧
      List.Forall₂ (Entry.Alike hiddenCandidates.Tells) newer newer' := by
  have result : compared "7" "8" "7" "7" =
      some (true, [⟨4, 4, 2, 0⟩, ⟨9, 5, 3, 0⟩], [⟨4, 4, 2, 0⟩, ⟨9, 5, 2, 0⟩]) := by decide +kernel
  obtain ⟨left, right, last, ran, ran', recounted, twins, rows, rows'⟩ := of_compared result
  have leftReachable : left.Reachable := ⟨_, ran⟩
  have rightReachable : right.Reachable := ⟨_, ran'⟩
  have veiled : Sealed left.store.votes right.store.votes := by
    obtain ⟨table, present⟩ :=
      Option.isSome_iff_exists.mp ((twins.complete (by simp) leftReachable).has .votes)
    obtain ⟨table', present'⟩ :=
      Option.isSome_iff_exists.mp ((twins.complete (by simp) rightReachable).has .votes)
    have stored : table.rows = [⟨4, 4, 2, 0⟩, ⟨9, 5, 3, 0⟩] := by
      simpa [Database.rows, present] using rows
    have stored' : table'.rows = [⟨4, 4, 2, 0⟩, ⟨9, 5, 2, 0⟩] := by
      simpa [Database.rows, present'] using rows'
    simp [Sealed, present, present', stored, stored', Vote.sealed]
  have sessions : left.process = right.process := twins.sessions ran ran' (by decide +kernel)
  have equal : hiddenCandidates.Pair left right :=
    ⟨twins.stores leftReachable rightReachable veiled,
      fun process => by rw [sessions]; exact .refl _ _⟩
  obtain ⟨last', recounted', ended, _, printed⟩ :=
    candidates_secret leftReachable rightReachable equal recounted
  exact ⟨left, right, last, last', ran, ran', rows, rows', recounted, recounted', ended, printed⟩

end

section

variable [Platform]

/-! ## Votes without the link to their voters -/

/-- Votes of the same voters, and with as many for each candidate. -/
structure Unlinked (left right : Votes) : Prop where
  /-- Both tables exist, or neither does. -/
  present : left.isSome = right.isSome
  /-- The same voters have voted. -/
  voters : ∀ voterId, (∃ vote ∈ Table.rowsOf left, vote.voterId = voterId) ↔
    ∃ vote ∈ Table.rowsOf right, vote.voterId = voterId
  /-- Every candidate has as many votes. -/
  counts : ∀ userId, ((Table.rowsOf left).countP fun vote => vote.candidateId = userId) =
    (Table.rowsOf right).countP fun vote => vote.candidateId = userId

/-- Choices that differ in the identifier and the time of a vote alone. -/
structure Choice.Unmarked (choice other : Choice) : Prop where
  /-- The same failure. -/
  fault : choice.fault = other.fault
  /-- The same identifier of other rows. -/
  id : choice.id = other.id
  /-- The same time of other rows. -/
  clock : choice.clock = other.clock
  /-- The same order of rows that no ORDER BY tells apart. -/
  scan : choice.scan = other.scan

omit [Platform] in
/-- The link between voters and candidates is veiled, whatever identifiers and times votes get. -/
theorem veils_unlinked : Veils Unlinked Choice.Unmarked where
  present same := same.present
  ensure same := by
    refine ⟨rfl, ?_, ?_⟩
    · simpa only [Table.rowsOf_ensure] using same.voters
    · simpa only [Table.rowsOf_ensure] using same.counts
  voters same := same.voters
  choices same := ⟨same.fault, same.id, same.clock, same.scan⟩
  insert {left right next next' choice other voterId candidateId} same _ inserted inserted' := by
    have rows := Table.insert_rows inserted
    have rows' := Table.insert_rows inserted'
    refine ⟨rfl, fun one => ?_, fun userId => ?_⟩
    · have before := same.voters one
      simp only [Table.rowsOf_some] at before ⊢
      rw [rows, rows']
      simp only [List.mem_append, List.mem_singleton, or_and_right, exists_or, exists_eq_left,
        before]
    · have before := same.counts userId
      simp only [Table.rowsOf_some] at before ⊢
      rw [rows, rows', List.countP_append, List.countP_append, before]
      rfl

/-- No session tells the link between voters and candidates. -/
@[reducible] def hiddenLinks : Likeness app where
  Alike := Database.Alike Unlinked
  Matches := Choice.Unmarked
  Tells _ := False

/-- The tally depends on the number of votes of each candidate alone. -/
theorem results_unlinked {left right : Database} (alike : left.Alike Unlinked right)
    (scan : Nat → Nat) : left.rows.results scan = right.rows.results scan := by
  have counts : left.rows.votesFor = right.rows.votesFor := funext alike.votes.counts
  have approved : left.rows.approvedCandidates = right.rows.approvedCandidates := by
    simp only [Rows.approvedCandidates, Rows.candidates, alike.profiles_rows]
  have row : left.rows.resultRow = right.rows.resultRow := by
    funext profile
    simp only [Rows.resultRow, Rows.applicant, alike.users_rows, counts]
  rw [Database.results_eq, Database.results_eq, Rows.ranking, Rows.ranking, approved, row, counts]

/-- No answer tells who voted for whom. -/
theorem hiddenLinks_sound : hiddenLinks.Sound where
  agrees {left right process loop printed stmt next choice other store store' answer answer'}
      _ _ alike _ _ matching served served' := by
    have agree : store.Alike Unlinked store' ∧ answer = answer' := by
      by_cases tally : stmt = .selectResults
      · subst tally
        have results := results_unlinked alike choice.scan
        simp only [serve, ← matching.fault] at served served'
        cases fault : choice.fault with
        | some text =>
          simp only [fault, Option.some.injEq, Prod.mk.injEq] at served served'
          obtain ⟨rfl, rfl⟩ := served
          obtain ⟨rfl, rfl⟩ := served'
          exact ⟨alike, rfl⟩
        | none =>
          simp only [fault, execute, ← matching.scan] at served served'
          exact (alike.query veils_unlinked _ results).agree served served'
      · exact alike.serve veils_unlinked matching tally served served'
    obtain ⟨after, rfl⟩ := agree
    exact ⟨after, .same _⟩
  answers {left right process loop printed stmt next choice store answer}
      _ rightReachable alike _ _ served := by
    obtain ⟨ballotId, free⟩ := exists_ballotId rightReachable
    have matching : choice.Unmarked { choice with ballotId := ballotId } := ⟨rfl, rfl, rfl, rfl⟩
    obtain ⟨_, _, second⟩ :=
      alike.serve_exists veils_unlinked matching (fun _ _ _ _ _ => free) served
    exact ⟨{ choice with ballotId := ballotId }, _, _, matching, second⟩

/-- Nobody learns who voted for whom: over databases that are equal but for votes of the same voters
with as many for each candidate, every step of every session prints the same, whatever is typed, and
the databases are so again. -/
theorem links_secret {left right last : System app} (leftReachable : left.Reachable)
    (rightReachable : right.Reachable) (stores : left.store.Alike Unlinked right.store)
    (sessions : left.process = right.process) {events : List (Event app)}
    (ran : left.run events = some last) :
    (∃ others last', List.Forall₂ (Event.Match Choice.Unmarked) events others ∧
      right.run others = some last') ∧
    ∀ others last', List.Forall₂ (Event.Match Choice.Unmarked) events others →
      right.run others = some last' →
        last.store.Alike Unlinked last'.store ∧ last.process = last'.process ∧
        ∃ newer newer', last.log = newer ++ left.log ∧ last'.log = newer' ++ right.log ∧
          newer.map Entry.shown = newer'.map Entry.shown := by
  have pair : hiddenLinks.Pair left right :=
    ⟨stores, fun process => by rw [sessions]; exact .refl _ _⟩
  refine ⟨pair.run_follows hiddenLinks_sound leftReachable rightReachable ran,
    fun others last' matching ran' => ?_⟩
  obtain ⟨ended, newer, newer', grown, grown', alike⟩ :=
    pair.run hiddenLinks_sound leftReachable rightReachable matching ran ran'
  refine ⟨ended.stores, funext fun process => ?_, newer, newer', grown, grown', ?_⟩
  · exact (ended.processes process).eq fun _ _ _ => id
  · exact Entry.shown_eq (fun _ => id) alike

end

section

attribute [local instance] latin1

set_option maxRecDepth 10000 in
/-- Whether Vera votes for Cara and Wim for Dan or the other way round, nobody is shown. -/
theorem links_secret_recount : ∃ left right last others last',
    (System.initial app).run (polls ++ votes "7" "8") = some left ∧
    (System.initial app).run (polls ++ votes "8" "7") = some right ∧
    left.store.rows.votes = [⟨4, 4, 2, 0⟩, ⟨9, 5, 3, 0⟩] ∧
    right.store.rows.votes = [⟨4, 4, 3, 0⟩, ⟨9, 5, 2, 0⟩] ∧
    left.run recount = some last ∧ right.run others = some last' ∧
    List.Forall₂ (Event.Match Choice.Unmarked) recount others ∧
    ∃ newer newer', last.log = newer ++ left.log ∧ last'.log = newer' ++ right.log ∧
      newer.map Entry.shown = newer'.map Entry.shown := by
  have result : compared "7" "8" "8" "7" =
      some (true, [⟨4, 4, 2, 0⟩, ⟨9, 5, 3, 0⟩], [⟨4, 4, 3, 0⟩, ⟨9, 5, 2, 0⟩]) := by decide +kernel
  obtain ⟨left, right, last, ran, ran', recounted, twins, rows, rows'⟩ := of_compared result
  have leftReachable : left.Reachable := ⟨_, ran⟩
  have rightReachable : right.Reachable := ⟨_, ran'⟩
  have stored : Table.rowsOf left.store.votes = [⟨4, 4, 2, 0⟩, ⟨9, 5, 3, 0⟩] := rows
  have stored' : Table.rowsOf right.store.votes = [⟨4, 4, 3, 0⟩, ⟨9, 5, 2, 0⟩] := rows'
  have veiled : Unlinked left.store.votes right.store.votes := by
    refine ⟨?_, fun voterId => ?_, fun userId => ?_⟩
    · have present := (twins.complete (by simp) leftReachable).has .votes
      have present' := (twins.complete (by simp) rightReachable).has .votes
      exact present.trans present'.symm
    · simp [stored, stored']
    · rw [stored, stored']
      simp only [List.countP_cons, List.countP_nil]
      omega
  have sessions : left.process = right.process := twins.sessions ran ran' (by decide +kernel)
  have stores := twins.stores leftReachable rightReachable veiled
  obtain ⟨⟨others, last', matching, recounted'⟩, shown⟩ :=
    links_secret leftReachable rightReachable stores sessions recounted
  obtain ⟨_, _, printed⟩ := shown others last' matching recounted'
  exact ⟨left, right, last, others, last', ran, ran', rows, rows', recounted, recounted', matching,
    printed⟩

end

end OnlineVoting
