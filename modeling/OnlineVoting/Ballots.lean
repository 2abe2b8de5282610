import OnlineVoting.Access

/-!
# The vote store

Every stored vote is the only one of its voter, is of a decided voter for a decided candidate, and
is final. Both were approved when `castVote` checked them; whether they still are when the vote is
inserted depends on the decisions made in between, and `approved_iff_undisturbed` says exactly how.
-/
namespace OnlineVoting

open Interleaving

section

variable [Platform]

/-- The vote store holds at most one vote of each voter, of a decided VOTER for a decided
CANDIDATE, and never loses or changes one. -/
theorem vote_store {system : System app} (reachable : system.Reachable) :
    (∀ voterId, (system.store.rows.votes.countP fun vote => vote.voterId = voterId) ≤ 1) ∧
    (∀ vote ∈ system.store.rows.votes,
      system.store.rows.HasRole vote.voterId .voter ∧
      (∃ profile ∈ system.store.rows.voters,
        profile.userId = vote.voterId ∧ profile.status ≠ .pending) ∧
      system.store.rows.HasRole vote.candidateId .candidate ∧
      (∃ profile ∈ system.store.rows.candidates,
        profile.userId = vote.candidateId ∧ profile.status ≠ .pending ∧
          ∀ other ∈ system.store.rows.candidates,
            other.userId = vote.candidateId → other = profile) ∧
      vote.voterId ≠ vote.candidateId) ∧
    (∀ event next, system.step event = some next → ∀ vote ∈ system.store.rows.votes,
      vote ∈ next.store.rows.votes ∧
        ∀ other ∈ next.store.rows.votes, other.voterId = vote.voterId → other = vote) := by
  have good := good_of_reachable reachable
  refine ⟨fun voterId => ?_, fun vote stored => ?_, fun event next stepped vote stored => ?_⟩
  · apply Relational.Table.rowsOf_countP_le_one _ _
    intro left right first second
    exact .inr ((of_decide_eq_true first).trans (of_decide_eq_true second).symm)
  · obtain ⟨⟨voter, voterStored, voterOwner, voterDecided⟩,
      ⟨candidate, candidateStored, candidateOwner, candidateDecided⟩⟩ :=
      good.invariant.ballots vote stored
    have votes := good.invariant.roles .voterProfiles voter voterStored
    have stands := good.invariant.roles .candidateProfiles candidate candidateStored
    rw [voterOwner] at votes
    rw [candidateOwner] at stands
    refine ⟨votes, ⟨voter, voterStored, voterOwner, voterDecided⟩, stands,
      ⟨candidate, candidateStored, candidateOwner, candidateDecided, fun other known same => ?_⟩,
      fun clash => ?_⟩
    · exact system.store.candidate_unique known candidateStored
        (.inr (same.trans candidateOwner.symm))
    · obtain ⟨left, leftStored, leftId, leftRole⟩ := votes
      obtain ⟨right, rightStored, rightId, rightRole⟩ := stands
      have one : left = right := system.store.user_unique leftStored rightStored
        (.inl (leftId.trans (clash.trans rightId.symm)))
      rw [one, rightRole] at leftRole
      contradiction
  · have kept := (good.evolves rules_sound stepped).votes vote stored
    exact ⟨kept, fun other known same => next.store.vote_unique known kept (.inr same)⟩

/-! ## Eligibility at the moment of voting -/

/-- Voter and candidate are approved. -/
def Eligible (rows : Rows) (voterId candidateId : Nat) : Prop :=
  (∃ profile ∈ rows.voters, profile.userId = voterId ∧ profile.status = .approved) ∧
    ∃ profile ∈ rows.candidates, profile.userId = candidateId ∧ profile.status = .approved

instance (rows : Rows) (voterId candidateId : Nat) :
    Decidable (Eligible rows voterId candidateId) := inferInstanceAs (Decidable (_ ∧ _))

/-- Since the newest check of a process, the last decision on each application of a user, if any
was made, is an approval. -/
def StaysApproved (table : ProfileTable) (check : Action app → Bool) (process userId : Nat)
    (world : World app) : Prop :=
  ∀ profile ∈ world.store.rows.profiles table, profile.userId = userId →
    ∀ status, (decisions table profile.id (since process check world.log)).head? = some status →
      status = .approved

/-- Since a process checked the voter, and since it checked the candidate, nobody has withdrawn
the approval, or it was given again. -/
def Undisturbed (process voterId candidateId : Nat) (world : World app) : Prop :=
  StaysApproved .voterProfiles isVoterCheck process voterId world ∧
    StaysApproved .candidateProfiles isCandidateCheck process candidateId world

/-- The vote that a step inserts, if it does: voter and candidate. -/
def insertedVote : Action app → Option (Nat × Nat)
  | .served (.insertVote voterId candidateId) _ (.ok ()) => some (voterId, candidateId)
  | _ => none

/-- Every step of a run that inserts a vote does so in a state with this property of the process,
the voter and the candidate. -/
def EveryVote (events : List (Event app)) (property : Nat → Nat → Nat → World app → Prop) : Prop :=
  ∀ before event after system next entry voterId candidateId,
    events = before ++ event :: after → (System.initial app).run before = some system →
      system.step event = some next → next.log = entry :: system.log →
        insertedVote entry.action = some (voterId, candidateId) →
          property entry.process voterId candidateId system.toWorld

/-- An application that was approved when it was checked is approved now exactly if the last
decision on it since then, if any, is an approval. -/
theorem approved_iff_staysApproved {system : System app} (good : rules.Good system)
    (table : ProfileTable) {check : Action app → Bool} {process userId : Nat}
    (checked : ∃ profile ∈ system.store.rows.profiles table, profile.userId = userId ∧
      standing table profile.id (upTo process check system.log) = .approved) :
    (∃ profile ∈ system.store.rows.profiles table,
      profile.userId = userId ∧ profile.status = .approved) ↔
      StaysApproved table check process userId system.toWorld := by
  obtain ⟨profile, stored, owner, seen⟩ := checked
  have one (other : Profile table.Entries) (known : other ∈ system.store.rows.profiles table)
      (same : other.userId = userId) : other = profile :=
    system.store.profile_unique known stored (.inr (same.trans owner.symm))
  have now : profile.status =
      (decisions table profile.id (since process check system.log)).head?.getD .approved := by
    rw [good.invariant.standings table profile stored, ← seen, ← standing_append,
      since_append_upTo]
  constructor
  · rintro ⟨other, known, same, approved⟩ found present mine status newest
    obtain rfl := one other known same
    obtain rfl := one found present mine
    rw [newest, Option.getD_some] at now
    exact now.symm.trans approved
  · intro stays
    refine ⟨profile, stored, owner, ?_⟩
    rw [now]
    cases newest : (decisions table profile.id (since process check system.log)).head? with
    | none => rfl
    | some status => exact stays profile stored owner status newest

/-- A step that inserts a vote was preceded by both checks. -/
theorem checked_of_inserted {system next : System app} {entry : Entry app}
    (stepped : rules.Stepped system next entry) {voterId candidateId : Nat}
    (inserted : insertedVote entry.action = some (voterId, candidateId)) :
    VoterChecked entry.process voterId system.store.rows system.log ∧
      CandidateChecked entry.process candidateId system.store.rows system.log := by
  unfold insertedVote at inserted
  split at inserted
  · rename_i voter candidate choice action
    obtain ⟨rfl, rfl⟩ := Prod.mk.inj (Option.some.inj inserted)
    obtain ⟨_, permit, _, _⟩ := stepped.of_served action
    exact permit.2
  · contradiction

/-- When a vote is inserted, voter and candidate are approved exactly if no approval was withdrawn
since it was checked. -/
theorem eligible_iff_undisturbed {system next : System app} {event : Event app}
    {entry : Entry app} (reachable : system.Reachable) (stepped : system.step event = some next)
    (logged : next.log = entry :: system.log) {voterId candidateId : Nat}
    (inserted : insertedVote entry.action = some (voterId, candidateId)) :
    Eligible system.store.rows voterId candidateId ↔
      Undisturbed entry.process voterId candidateId system.toWorld := by
  have good := good_of_reachable reachable
  have did := good.stepped_entry rules_sound stepped logged
  obtain ⟨⟨voter, voterStored, voterOwner, voterSeen⟩,
    ⟨candidate, candidateStored, candidateOwner, _, candidateSeen⟩⟩ :=
    checked_of_inserted did inserted
  exact and_congr
    (approved_iff_staysApproved good .voterProfiles ⟨voter, voterStored, voterOwner, voterSeen⟩)
    (approved_iff_staysApproved good .candidateProfiles
      ⟨candidate, candidateStored, candidateOwner, candidateSeen⟩)

/-- In a run, every vote is inserted while voter and candidate are approved exactly if, at every
vote, no approval was withdrawn since it was checked. -/
theorem approved_iff_undisturbed (events : List (Event app)) :
    (EveryVote events fun _ voterId candidateId world =>
      Eligible world.store.rows voterId candidateId) ↔ EveryVote events Undisturbed := by
  constructor
  · intro eligible before event after system next entry voterId candidateId split ran stepped
      logged inserted
    exact (eligible_iff_undisturbed ⟨before, ran⟩ stepped logged inserted).mp
      (eligible before event after system next entry voterId candidateId split ran stepped logged
        inserted)
  · intro undisturbed before event after system next entry voterId candidateId split ran stepped
      logged inserted
    exact (eligible_iff_undisturbed ⟨before, ran⟩ stepped logged inserted).mpr
      (undisturbed before event after system next entry voterId candidateId split ran stepped
        logged inserted)

end

/-! ## A vote after a withdrawn approval -/

section

attribute [local instance] latin1

/-- Vera registers and applies: user 3 with application 5. -/
def enrolment : List (Event app) :=
  launching 2 9 ++ registering 2 3 "Vera" "vera" "secret" "voter" ++ loggingIn 2 "vera" "secret" ++
    applying 2 5 ["North", "Main Street 1"]

/-- Cara is approved, and Vera is. -/
def admission : List (Event app) := candidacy ++ enrolment ++ approval ++ deciding 1 "2" "5" "approve"

/-- Vera casts a vote, up to the prompt for the identifier of a candidate. -/
def choosing : List (Event app) := typing 2 ["4"] ++ serving 2 [0, 0, 0]

/-- Vera votes for application 7, up to the INSERT. -/
def naming : List (Event app) := typing 2 ["7"] ++ serving 2 [0, 0]

/-- The approval of Vera is withdrawn while she is asked for a candidate. -/
def withdrawal : List (Event app) := choosing ++ deciding 1 "2" "5" "reject" ++ naming

/-- The INSERT of the vote. -/
def insertion : Event app := .serve 2 ⟨none, 0, 0, fun id => id, 4, 0⟩

set_option maxRecDepth 10000 in
/-- Vera's vote is stored although her approval has been withdrawn. -/
theorem not_every_vote_eligible : ¬ ∀ events, EveryVote events fun _ voterId candidateId world =>
    Eligible world.store.rows voterId candidateId := by
  intro eligible
  have result : (((System.initial app).run (admission ++ withdrawal)).bind fun system =>
      (system.step insertion).map fun next =>
        ((next.log.head?.bind fun entry => insertedVote entry.action),
          decide (Eligible system.store.rows 3 2))) = some (some (3, 2), false) := by
    decide +kernel
  obtain ⟨system, ran, stepped⟩ := Option.bind_eq_some_iff.mp result
  obtain ⟨next, stepped, seen⟩ := Option.map_eq_some_iff.mp stepped
  obtain ⟨inserted, refused⟩ := Prod.mk.inj seen
  obtain ⟨entry, logged, _⟩ := System.step_log stepped
  rw [logged, List.head?_cons, Option.bind_some] at inserted
  have approved := eligible ((admission ++ withdrawal) ++ [insertion]) _ insertion [] system next
    entry 3 2 rfl ran stepped logged inserted
  exact of_decide_eq_false refused approved

/-- The election up to its only vote. -/
def election : List (Event app) := admission ++ choosing ++ naming ++ [insertion]

/-- All four applicants are approved. -/
def polls : List (Event app) :=
  applicants ++ loggingIn 0 "admin" "admin123" ++ deciding 0 "4" "7" "approve" ++
    deciding 0 "4" "8" "approve" ++ deciding 0 "2" "5" "approve" ++
    deciding 0 "2" "6" "approve" ++ typing 0 ["6"] ++ [.turn 0]

/-- A vote for an application, stored under an identifier. -/
def votingFor (application : String) (id : Nat) : List (Event app) :=
  typing 0 ["4"] ++ serving 0 [0, 0, 0] ++ typing 0 [application] ++ serving 0 [0, 0, id] ++
    [.turn 0]

/-- The votes of Vera and Wim, in this order. -/
def votes (vera wim : String) : List (Event app) :=
  visit "vera" "7" (votingFor vera 4) ++ visit "wim" "7" (votingFor wim 9)

set_option maxRecDepth 10000 in
/-- After the election, the vote of Vera for Cara is a vote of a VOTER for a CANDIDATE. -/
theorem vote_store_election : ∃ system, (System.initial app).run election = some system ∧
    system.store.rows.votes = [⟨4, 3, 2, 0⟩] ∧
    system.store.rows.HasRole 3 .voter ∧ system.store.rows.HasRole 2 .candidate := by
  have result : ((System.initial app).run election).map
      (fun system => system.store.rows.votes) = some [⟨4, 3, 2, 0⟩] := by decide +kernel
  obtain ⟨system, ran, votes⟩ := Option.map_eq_some_iff.mp result
  obtain ⟨voter, _, candidate, _⟩ := (vote_store ⟨election, ran⟩).2.1 ⟨4, 3, 2, 0⟩ (by simp [votes])
  exact ⟨system, ran, votes, voter, candidate⟩

end

end OnlineVoting
