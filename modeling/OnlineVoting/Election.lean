import OnlineVoting.Database
import OnlineVoting.Library.Refinement

/-!
# What an election is

An election among people of any kind, without tables, consoles or statements: who is a member and
in which role, where the applications stand, who has ever been admitted, and who chose whom. A
value of `Election` is a lawful one, so only members apply, only the admitted are voted for, and
only admitted voters vote; its happenings carry the conditions under which they may happen. The
results are about any election: votes are counted one by one, nobody votes twice, nobody votes or
is voted for without an approval before, and no more votes are counted than there are voters.
-/
namespace OnlineVoting

open Refinement

noncomputable section

open scoped Classical

variable {Person : Type}

/-- Something that happens in an election. -/
inductive Happening (Person : Type) where
  /-- A person becomes a member in a role. -/
  | joined (person : Person) (role : Role)
  /-- A member applies. -/
  | applied (person : Person)
  /-- An official decides an application. -/
  | decided (official person : Person) (status : Status)
  /-- A voter votes for a candidate. -/
  | voted (voter candidate : Person)
  deriving DecidableEq

namespace Happening

/-- Whether something that happens admits a person. -/
def Admits (person : Person) : Happening Person → Prop
  | .decided _ found status => found = person ∧ status = .approved
  | .joined _ _ | .applied _ | .voted _ _ => False

/-- What something that happens adds to the votes for a candidate. -/
def votesFor (candidate : Person) : Happening Person → Nat
  | .voted _ chosen => if chosen = candidate then 1 else 0
  | .joined _ _ | .applied _ | .decided _ _ _ => 0

/-- What something that happens adds to the votes of a voter. -/
def votesOf (voter : Person) : Happening Person → Nat
  | .voted found _ => if found = voter then 1 else 0
  | .joined _ _ | .applied _ | .decided _ _ _ => 0

end Happening

/-- A lawful election. -/
@[ext]
structure Election (Person : Type) where
  /-- The role of a member. -/
  role : Person → Option Role
  /-- Where the application of a person stands, once made. -/
  standing : Person → Option Status
  /-- Those whose application was ever approved. -/
  admitted : Set Person
  /-- Whom a person voted for. -/
  choice : Person → Option Person
  /-- There are finitely many members. -/
  finite : {person | role person ≠ none}.Finite
  /-- Voters and candidates apply. -/
  applicants : ∀ person, standing person ≠ none →
    role person = some .voter ∨ role person = some .candidate
  /-- An admitted application has been decided. -/
  decided : ∀ person ∈ admitted, standing person ≠ none ∧ standing person ≠ some .pending
  /-- Admitted voters vote. -/
  voters : ∀ voter, choice voter ≠ none → role voter = some .voter ∧ voter ∈ admitted
  /-- Admitted candidates are voted for. -/
  candidates : ∀ voter candidate, choice voter = some candidate →
    role candidate = some .candidate ∧ candidate ∈ admitted

namespace Election

/-- Nobody is a member yet. -/
def empty : Election Person where
  role _ := none
  standing _ := none
  admitted := ∅
  choice _ := none
  finite := by simp
  applicants := by simp
  decided := by simp
  voters := by simp
  candidates := by simp

variable (election : Election Person)

/-- An official of this role decides the applications of people of that role. -/
def decides : Role → Role → Bool
  | .admin, _ => true
  | .fieldOfficer, role => role = .voter
  | .voter, _ | .candidate, _ => false

/-- A person becomes a member. -/
def join (person : Person) (role : Role) (new : election.role person = none) :
    Election Person where
  role := Function.update election.role person (some role)
  standing := election.standing
  admitted := election.admitted
  choice := election.choice
  finite := by
    apply (election.finite.insert person).subset
    intro other member
    by_cases same : other = person
    · exact .inl same
    · simp only [Set.mem_ofPred_eq, Function.update_of_ne same] at member
      exact .inr member
  applicants := by
    intro other applied
    have before := election.applicants other applied
    have apart : other ≠ person := by
      rintro rfl
      simp [new] at before
    rw [Function.update_of_ne apart]
    exact before
  decided := election.decided
  voters := by
    intro voter voted
    obtain ⟨before, admitted⟩ := election.voters voter voted
    have apart : voter ≠ person := by
      rintro rfl
      simp [new] at before
    rw [Function.update_of_ne apart]
    exact ⟨before, admitted⟩
  candidates := by
    intro voter candidate chosen
    obtain ⟨before, admitted⟩ := election.candidates voter candidate chosen
    have apart : candidate ≠ person := by
      rintro rfl
      simp [new] at before
    rw [Function.update_of_ne apart]
    exact ⟨before, admitted⟩

/-- A voter or a candidate applies. -/
def apply (person : Person)
    (may : election.role person = some .voter ∨ election.role person = some .candidate)
    (new : election.standing person = none) : Election Person where
  role := election.role
  standing := Function.update election.standing person (some .pending)
  admitted := election.admitted
  choice := election.choice
  finite := election.finite
  applicants := by
    intro other applied
    by_cases same : other = person
    · rw [same]
      exact may
    · rw [Function.update_of_ne same] at applied
      exact election.applicants other applied
  decided := by
    intro other admitted
    have before := election.decided other admitted
    have apart : other ≠ person := by
      rintro rfl
      exact before.1 new
    rw [Function.update_of_ne apart]
    exact before
  voters := election.voters
  candidates := election.candidates

/-- An application is decided. -/
def decide (person : Person) (status : Status) (applied : election.standing person ≠ none)
    (final : status ≠ .pending) : Election Person where
  role := election.role
  standing := Function.update election.standing person (some status)
  admitted := if status = .approved then insert person election.admitted else election.admitted
  choice := election.choice
  finite := election.finite
  applicants := by
    intro other
    by_cases same : other = person
    · rw [same]
      exact fun _ => election.applicants person applied
    · rw [Function.update_of_ne same]
      exact election.applicants other
  decided := by
    intro other admitted
    by_cases same : other = person
    · rw [same, Function.update_self]
      simp [final]
    · rw [Function.update_of_ne same]
      split at admitted
      · exact election.decided other (admitted.resolve_left same)
      · exact election.decided other admitted
  voters := by
    intro voter voted
    obtain ⟨role, admitted⟩ := election.voters voter voted
    split
    · exact ⟨role, .inr admitted⟩
    · exact ⟨role, admitted⟩
  candidates := by
    intro voter candidate chosen
    obtain ⟨role, admitted⟩ := election.candidates voter candidate chosen
    split
    · exact ⟨role, .inr admitted⟩
    · exact ⟨role, admitted⟩

/-- An admitted voter votes for an admitted candidate. -/
def vote (voter candidate : Person)
    (may : election.role voter = some .voter ∧ voter ∈ election.admitted)
    (stands : election.role candidate = some .candidate ∧ candidate ∈ election.admitted) :
    Election Person where
  role := election.role
  standing := election.standing
  admitted := election.admitted
  choice := Function.update election.choice voter (some candidate)
  finite := election.finite
  applicants := election.applicants
  decided := election.decided
  voters := by
    intro other
    by_cases same : other = voter
    · rw [same]
      exact fun _ => may
    · rw [Function.update_of_ne same]
      exact election.voters other
  candidates := by
    intro other chosen
    by_cases same : other = voter
    · rw [same, Function.update_self]
      rintro ⟨⟩
      exact stands
    · rw [Function.update_of_ne same]
      exact election.candidates other chosen

/-- What may happen in an election, and where it leads. -/
inductive Step (election : Election Person) :
    Option (Happening Person) → Election Person → Prop where
  /-- Somebody who is no member joins. -/
  | joined {person : Person} {role : Role} (new : election.role person = none) :
    Step election (some (.joined person role)) (election.join person role new)
  /-- A voter or candidate applies for the first time. -/
  | applied {person : Person}
    (may : election.role person = some .voter ∨ election.role person = some .candidate)
    (new : election.standing person = none) :
    Step election (some (.applied person)) (election.apply person may new)
  /-- An official decides an application that is in his charge. -/
  | decided {official person : Person} {status : Status} {officialRole personRole : Role}
    (official_role : election.role official = some officialRole)
    (person_role : election.role person = some personRole)
    (charge : decides officialRole personRole = true)
    (applied : election.standing person ≠ none) (final : status ≠ .pending) :
    Step election (some (.decided official person status))
      (election.decide person status applied final)
  /-- An admitted voter votes for the first time, for an admitted candidate. -/
  | voted {voter candidate : Person}
    (may : election.role voter = some .voter ∧ voter ∈ election.admitted)
    (stands : election.role candidate = some .candidate ∧ candidate ∈ election.admitted)
    (first : election.choice voter = none) :
    Step election (some (.voted voter candidate)) (election.vote voter candidate may stands)

/-- The machine of elections, from one without members. -/
def machine : Machine (Election Person) (Happening Person) where
  starts election := election = empty
  steps := Step

/-! ## What stays -/

variable {election} {later : Election Person}

/-- What an election keeps of an earlier one. -/
structure Grows (election later : Election Person) : Prop where
  /-- Members keep their role. -/
  role : ∀ person, election.role person ≠ none → later.role person = election.role person
  /-- Applications stay, and decided ones stay decided. -/
  standing : ∀ person, election.standing person ≠ none → later.standing person ≠ none ∧
    (election.standing person ≠ some .pending → later.standing person ≠ some .pending)
  /-- The admitted stay admitted. -/
  admitted : election.admitted ⊆ later.admitted
  /-- Votes stay. -/
  choice : ∀ voter, election.choice voter ≠ none → later.choice voter = election.choice voter

theorem Grows.refl (election : Election Person) : election.Grows election :=
  ⟨fun _ _ => rfl, fun _ applied => ⟨applied, id⟩, subset_rfl, fun _ _ => rfl⟩

theorem Grows.trans {last : Election Person} (before : election.Grows later)
    (after : later.Grows last) : election.Grows last := by
  constructor
  · intro person member
    have first := before.role person member
    rw [← first] at member ⊢
    exact after.role person member
  · intro person applied
    obtain ⟨still, decided⟩ := before.standing person applied
    obtain ⟨stays, decided'⟩ := after.standing person still
    exact ⟨stays, fun was => decided' (decided was)⟩
  · exact before.admitted.trans after.admitted
  · intro voter voted
    have first := before.choice voter voted
    rw [← first] at voted ⊢
    exact after.choice voter voted

/-- Nothing that happens takes anything back. -/
theorem Step.grows {label : Option (Happening Person)} (step : election.Step label later) :
    election.Grows later := by
  have other {α : Type} {values : Person → Option α} {person : Person} (new : values person = none)
      {found : Person} (present : values found ≠ none) : found ≠ person := by
    rintro rfl
    exact present new
  cases step with
  | joined new =>
    refine ⟨fun found member => ?_, fun _ applied => ⟨applied, id⟩, subset_rfl, fun _ _ => rfl⟩
    exact Function.update_of_ne (other new member) ..
  | @applied person may new =>
    refine ⟨fun _ _ => rfl, fun found applied => ?_, subset_rfl, fun _ _ => rfl⟩
    have same : (election.apply person may new).standing found = election.standing found :=
      Function.update_of_ne (other new applied) ..
    rw [same]
    exact ⟨applied, id⟩
  | @decided _ person status _ _ _ _ _ applied final =>
    refine ⟨fun _ _ => rfl, fun found present => ?_, fun found admitted => ?_, fun _ _ => rfl⟩
    · by_cases same : found = person
      · have now : (election.decide person status applied final).standing found = some status := by
          simp [decide, same]
        rw [now]
        exact ⟨by simp, fun _ => by simpa using final⟩
      · have kept : (election.decide person status applied final).standing found =
            election.standing found := Function.update_of_ne same ..
        rw [kept]
        exact ⟨present, id⟩
    · show found ∈ ite _ _ _
      split
      · exact .inr admitted
      · exact admitted
  | voted may stands first =>
    refine ⟨fun _ _ => rfl, fun _ applied => ⟨applied, id⟩, subset_rfl, fun found voted => ?_⟩
    exact Function.update_of_ne (other first voted) ..

/-- No run takes anything back. -/
theorem grows_of_runs {trace : List (Happening Person)} (runs : machine.Runs election trace later) :
    election.Grows later := by
  let kept (moment : Election Person) : Prop := election.Grows moment
  have keeps {moment next : Election Person} {label : Option (Happening Person)}
      (grown : kept moment) (step : machine.steps moment label next) : kept next :=
    grown.trans (Step.grows step)
  exact runs.keeps keeps (Grows.refl election)

/-! ## Approvals -/

/-- A step admits the person whose application it approves, and nobody else. -/
theorem Step.admitted {label : Option (Happening Person)} (step : election.Step label later)
    (person : Person) : person ∈ later.admitted ↔
      person ∈ election.admitted ∨ ∃ happening ∈ label, happening.Admits person := by
  cases step with
  | joined _ | applied _ _ | voted _ _ _ => simp [Happening.Admits, join, apply, vote]
  | @decided _ found status _ _ _ _ _ applied final =>
    have now : (election.decide found status applied final).admitted =
        if status = .approved then insert found election.admitted else election.admitted := rfl
    rw [now]
    by_cases approved : status = .approved
    · rw [if_pos approved]
      simp [Happening.Admits, approved, or_comm, eq_comm]
    · rw [if_neg approved]
      simp [Happening.Admits, approved]

/-- A run admits those whose applications it approves, and nobody else. -/
theorem admitted_of_runs {trace : List (Happening Person)}
    (runs : machine.Runs election trace later) (person : Person) :
    person ∈ later.admitted ↔
      person ∈ election.admitted ∨ ∃ happening ∈ trace, happening.Admits person := by
  induction runs with
  | nil _ => simp
  | @cons election next later label trace step _ ih =>
    rw [ih, Step.admitted step]
    cases label with
    | none => simp
    | some happening => simp [or_assoc]

/-- Whoever decides an application is an official in charge of the people of its role. -/
theorem decided_by {trace : List (Happening Person)} (runs : machine.Runs election trace later)
    {official person : Person} {status : Status}
    (present : .decided official person status ∈ trace) :
    ∃ officialRole personRole, later.role official = some officialRole ∧
      later.role person = some personRole ∧ decides officialRole personRole = true := by
  obtain ⟨before, after, parts⟩ := List.append_of_mem present
  obtain ⟨middle, next, _, step, rest⟩ := runs.split parts
  have grown := (Step.grows step).trans (grows_of_runs rest)
  cases step with
  | @decided _ _ _ officialRole personRole known knownToo charge _ _ =>
    refine ⟨officialRole, personRole, ?_, ?_, charge⟩
    · rw [grown.role official (by simp [known]), known]
    · rw [grown.role person (by simp [knownToo]), knownToo]

/-- Somebody who was admitted was approved by an official in charge. -/
theorem approved_by {trace : List (Happening Person)} (runs : machine.Runs empty trace election)
    {person : Person} (admitted : person ∈ election.admitted) :
    ∃ official, .decided official person .approved ∈ trace := by
  have nobody : person ∉ (empty : Election Person).admitted := by simp [empty]
  obtain ⟨happening, present, admits⟩ :=
    ((admitted_of_runs runs person).mp admitted).resolve_left nobody
  cases happening with
  | decided official found status =>
    obtain ⟨rfl, rfl⟩ := admits
    exact ⟨official, present⟩
  | joined _ _ | applied _ | voted _ _ => contradiction

/-! ## The count -/

/-- The number of votes for a candidate. -/
def tally (election : Election Person) (candidate : Person) : Nat :=
  {voter | election.choice voter = some candidate}.ncard

/-- The number of people who voted. -/
def turnout (election : Election Person) : Nat := {voter | election.choice voter ≠ none}.ncard

/-- The number of members with a role. -/
def members (election : Election Person) (role : Role) : Nat :=
  {person | election.role person = some role}.ncard

/-- Those with a role are finitely many. -/
theorem finite_role (election : Election Person) (role : Role) :
    {person | election.role person = some role}.Finite := by
  apply election.finite.subset
  intro person member
  simp only [Set.mem_ofPred_eq] at member ⊢
  simp [member]

/-- Those who voted are admitted voters. -/
theorem voted_subset (election : Election Person) : {voter | election.choice voter ≠ none} ⊆
    {person | election.role person = some .voter ∧ person ∈ election.admitted} :=
  fun voter voted => election.voters voter voted

/-- Those who voted are finitely many. -/
theorem finite_voted (election : Election Person) :
    {voter | election.choice voter ≠ none}.Finite := by
  apply (election.finite_role .voter).subset
  exact fun voter voted => (election.voters voter voted).1

/-- Those who voted for a candidate are finitely many. -/
theorem finite_tally (election : Election Person) (candidate : Person) :
    {voter | election.choice voter = some candidate}.Finite := by
  apply election.finite_voted.subset
  intro voter chosen
  simp only [Set.mem_ofPred_eq] at chosen ⊢
  simp [chosen]

/-- As many people voted as there are admitted voters at most, and these are voters. -/
theorem turnout_le (election : Election Person) : election.turnout ≤
      {person | election.role person = some .voter ∧ person ∈ election.admitted}.ncard ∧
    {person | election.role person = some .voter ∧ person ∈ election.admitted}.ncard ≤
      election.members .voter := by
  have voters := election.finite_role .voter
  have admitted : {person | election.role person = some .voter ∧ person ∈ election.admitted} ⊆
      {person | election.role person = some .voter} := fun _ both => both.1
  exact ⟨Set.ncard_le_ncard election.voted_subset (voters.subset admitted),
    Set.ncard_le_ncard admitted voters⟩

/-- The votes for different candidates are votes of different people: those for any candidates are
at most those cast, and if nobody else is voted for they are all of them. -/
theorem sum_tally (election : Election Person) (candidates : Finset Person) :
    ∑ candidate ∈ candidates, election.tally candidate =
      {voter | ∃ candidate ∈ candidates, election.choice voter = some candidate}.ncard := by
  induction candidates using Finset.induction with
  | empty => simp
  | insert candidate others fresh ih =>
    have others_finite :
        {voter | ∃ candidate ∈ others, election.choice voter = some candidate}.Finite := by
      apply election.finite_voted.subset
      rintro voter ⟨candidate, _, chosen⟩
      simp only [Set.mem_ofPred_eq]
      simp [chosen]
    have parts : {voter | ∃ found ∈ insert candidate others, election.choice voter = some found} =
        {voter | election.choice voter = some candidate} ∪
          {voter | ∃ found ∈ others, election.choice voter = some found} := by
      ext voter
      simp
    have apart : Disjoint {voter | election.choice voter = some candidate}
        {voter | ∃ found ∈ others, election.choice voter = some found} := by
      rw [Set.disjoint_left]
      rintro voter chosen ⟨found, present, chosen'⟩
      simp only [Set.mem_ofPred_eq] at chosen
      rw [chosen] at chosen'
      obtain rfl := Option.some.inj chosen'
      exact fresh present
    rw [Finset.sum_insert fresh, ih, parts,
      Set.ncard_union_eq apart (election.finite_tally candidate) others_finite]
    rfl

/-- The votes for any candidates are at most those cast. -/
theorem sum_tally_le (election : Election Person) (candidates : Finset Person) :
    ∑ candidate ∈ candidates, election.tally candidate ≤ election.turnout := by
  rw [sum_tally]
  apply Set.ncard_le_ncard _ election.finite_voted
  rintro voter ⟨candidate, _, chosen⟩
  simp only [Set.mem_ofPred_eq]
  simp [chosen]

/-- A step adds its vote to the count. -/
theorem Step.tally {label : Option (Happening Person)} (step : election.Step label later)
    (candidate : Person) : later.tally candidate =
      election.tally candidate + (label.toList.map (Happening.votesFor candidate)).sum := by
  cases step with
  | joined _ | applied _ _ | decided _ _ _ _ _ =>
    simp only [Option.toList_some, List.map_cons, List.map_nil, List.sum_singleton,
      Happening.votesFor, add_zero]
    rfl
  | @voted voter chosen may stands first =>
    simp only [Option.toList_some, List.map_cons, List.map_nil, List.sum_singleton,
      Happening.votesFor]
    have fresh : voter ∉ {voter | election.choice voter = some candidate} := by
      simp [first]
    by_cases same : chosen = candidate
    · have now : {found | (election.vote voter chosen may stands).choice found = some candidate} =
          insert voter {voter | election.choice voter = some candidate} := by
        ext found
        by_cases own : found = voter
        · simp [vote, own, same]
        · simp [vote, own]
      rw [if_pos same, Election.tally, now,
        Set.ncard_insert_of_notMem fresh (election.finite_tally candidate)]
      rfl
    · have now : {found | (election.vote voter chosen may stands).choice found = some candidate} =
          {voter | election.choice voter = some candidate} := by
        ext found
        by_cases own : found = voter
        · simp [vote, own, same, first]
        · simp [vote, own]
      rw [if_neg same, Election.tally, now]
      rfl

/-- A run adds its votes to the count, one by one. -/
theorem tally_of_runs {trace : List (Happening Person)} (runs : machine.Runs election trace later)
    (candidate : Person) : later.tally candidate =
      election.tally candidate + (trace.map (Happening.votesFor candidate)).sum :=
  runs.adds fun step => Step.tally step candidate

/-- A step is the vote of a voter if it makes that voter's choice. -/
theorem Step.choice {label : Option (Happening Person)} (step : election.Step label later)
    (voter : Person) : (if later.choice voter = none then 0 else 1) =
      (if election.choice voter = none then 0 else 1) +
        (label.toList.map (Happening.votesOf voter)).sum := by
  cases step with
  | joined _ | applied _ _ | decided _ _ _ _ _ =>
    simp only [Option.toList_some, List.map_cons, List.map_nil, List.sum_singleton,
      Happening.votesOf, add_zero]
    rfl
  | @voted found chosen may stands first =>
    by_cases own : found = voter
    · subst own
      simp [vote, Happening.votesOf, first]
    · simp [vote, Happening.votesOf, own, Ne.symm own]

/-- Nobody votes twice in a run, and nobody who has voted votes again. -/
theorem votes_once {trace : List (Happening Person)} (runs : machine.Runs election trace later)
    (voter : Person) : (trace.map (Happening.votesOf voter)).sum ≤ 1 ∧
      (election.choice voter ≠ none → (trace.map (Happening.votesOf voter)).sum = 0) := by
  let voted (moment : Election Person) : Nat := if moment.choice voter = none then 0 else 1
  have count : voted later = voted election + (trace.map (Happening.votesOf voter)).sum :=
    runs.adds fun step => Step.choice step voter
  simp only [voted] at count
  constructor
  · split at count <;> split at count <;> omega
  · intro voted
    rw [if_neg voted] at count
    split at count <;> omega

/-- The candidate of every vote was approved before by an administrator, and its voter by an
administrator or a field officer; and the voter votes this once. -/
theorem vote_authorized {trace before after : List (Happening Person)}
    (reaches : machine.Reaches trace election) {voter candidate : Person}
    (parts : trace = before ++ .voted voter candidate :: after) :
    (∃ official, .decided official voter .approved ∈ before ∧
      (election.role official = some .admin ∨ election.role official = some .fieldOfficer)) ∧
    (∃ official, .decided official candidate .approved ∈ before ∧
      election.role official = some .admin) ∧
    election.role voter = some .voter ∧ election.role candidate = some .candidate ∧
    ∀ other, .voted voter other ∉ before ∧ .voted voter other ∉ after := by
  obtain ⟨first, rfl, runs⟩ := reaches
  obtain ⟨middle, next, earlier, step, rest⟩ := runs.split parts
  have grown := (Step.grows step).trans (grows_of_runs rest)
  cases step with
  | voted may stands first =>
    have votes : election.role voter = some .voter := by
      rw [grown.role voter (by simp [may.1]), may.1]
    have runsFor : election.role candidate = some .candidate := by
      rw [grown.role candidate (by simp [stands.1]), stands.1]
    have inside {happening : Happening Person} (present : happening ∈ before) :
        happening ∈ trace := by
      rw [parts]
      exact List.mem_append_left _ present
    obtain ⟨official, approves⟩ := approved_by earlier may.2
    obtain ⟨official', approves'⟩ := approved_by earlier stands.2
    refine ⟨⟨official, approves, ?_⟩, ⟨official', approves', ?_⟩, votes, runsFor, ?_⟩
    · obtain ⟨role, _, known, knownToo, charge⟩ := decided_by runs (inside approves)
      rw [votes] at knownToo
      obtain rfl := Option.some.inj knownToo
      cases role with
      | admin => exact .inl known
      | fieldOfficer => exact .inr known
      | voter | candidate => contradiction
    · obtain ⟨role, _, known, knownToo, charge⟩ := decided_by runs (inside approves')
      rw [runsFor] at knownToo
      obtain rfl := Option.some.inj knownToo
      cases role with
      | admin => exact known
      | fieldOfficer | voter | candidate => contradiction
    · have once := (votes_once runs voter).1
      rw [parts, List.map_append, List.sum_append, List.map_cons, List.sum_cons] at once
      have own : (Happening.voted voter candidate).votesOf voter = 1 := by simp [Happening.votesOf]
      have counts {happenings : List (Happening Person)} {other : Person}
          (present : .voted voter other ∈ happenings) :
          1 ≤ (happenings.map (Happening.votesOf voter)).sum := by
        apply List.single_le_sum (by simp)
        exact List.mem_map.mpr ⟨_, present, by simp [Happening.votesOf]⟩
      intro other
      constructor
      · intro present
        have more := counts present
        omega
      · intro present
        have more := counts present
        omega

end Election

end

end OnlineVoting
