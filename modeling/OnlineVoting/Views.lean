import OnlineVoting.Authentication
import OnlineVoting.Readings

/-!
# Who sends what

No statement is sent outside the menu it belongs to: applications, votes and the tally are read and
written only by sessions of a role that has to do with them, and rows of a single user only by the
session of that user. What a user reads of an application is what was typed for it, with the last
decision on it.
-/
namespace OnlineVoting

open Interleaving Relational

/-- The sessions that may send a statement; `none` is nobody logged in. -/
def MaySend (session : Option (Nat × Role)) : Stmt → Prop
  | .connectBoot | .createDatabase | .connect | .createTable _ | .seedAdmin _ => session = none
  | .selectLogin _ _ | .insertUser _ _ _ _ => session = none
  | .existsProfile table userId | .insertProfile table userId _ | .selectProfile table userId =>
    session = some (userId, table.role)
  | .selectPending .voterProfiles => ∃ id, session = some (id, .admin) ∨ session = some (id, .fieldOfficer)
  | .selectPending .candidateProfiles => ∃ id, session = some (id, .admin)
  | .prepare => session ≠ none
  | .updateStatus .voterProfiles status _ => status ≠ .pending ∧
    ∃ id, session = some (id, .admin) ∨ session = some (id, .fieldOfficer)
  | .updateStatus .candidateProfiles status _ => status ≠ .pending ∧ ∃ id, session = some (id, .admin)
  | .selectApproved | .selectCandidate _ => ∃ id, session = some (id, .voter)
  | .selectVoterStatus voterId | .existsVote voterId | .insertVote voterId _ =>
    session = some (voterId, .voter)
  | .selectResults => ∃ id, session = some (id, .admin)
  | .insertForumPost userId content => content ≠ "" ∧
    (session = some (userId, .voter) ∨ session = some (userId, .candidate))
  | .selectForum => ∃ id, session = some (id, .voter) ∨ session = some (id, .candidate)

/-- Dialogues that send only what a session may send. -/
def sendCourse {α : Type} (session : Option (Nat × Role)) : Dialogue.Course console α where
  asks _ _ stmt _ := MaySend session stmt

/-- A method within a round sends what the round may send. -/
theorem send_round {method : Dialogue console Unit} {session : Option (Nat × Role)}
    {typed : List String} (follows : method.Follows (sendCourse session) typed) (loop : Loop) :
    (method >>= fun _ => .done [] (some loop)).Follows (sendCourse session) typed :=
  Dialogue.Follows.bind_done follows (fun _ _ _ _ asks => asks) fun _ _ _ _ => trivial

/-! ## Methods -/

theorem applyVoterID_sends (userId : Nat) (typed : List String) :
    (applyVoterID userId).Follows (sendCourse (some (userId, .voter))) typed := by
  rw [applyVoterID_eq]
  refine .ask rfl fun answer => ?_
  split
  · exact .done trivial
  · refine .read fun _ => .read fun _ => .ask rfl fun answer => ?_
    split <;> exact .done trivial
  · exact .done trivial

theorem applyCandidate_sends (userId : Nat) (typed : List String) :
    (applyCandidate userId).Follows (sendCourse (some (userId, .candidate))) typed := by
  rw [applyCandidate_eq]
  refine .ask rfl fun answer => ?_
  split
  · exact .done trivial
  · refine .read fun _ => .read fun _ => .read fun _ => .ask rfl fun answer => ?_
    split <;> exact .done trivial
  · exact .done trivial

theorem viewMyVoterStatus_sends (userId : Nat) (typed : List String) :
    (viewMyVoterStatus userId).Follows (sendCourse (some (userId, .voter))) typed := by
  rw [viewMyVoterStatus_eq]
  refine .ask rfl fun answer => ?_
  split <;> exact .done trivial

theorem viewMyCandidateStatus_sends (userId : Nat) (typed : List String) :
    (viewMyCandidateStatus userId).Follows (sendCourse (some (userId, .candidate))) typed := by
  rw [viewMyCandidateStatus_eq]
  refine .ask rfl fun answer => ?_
  split <;> exact .done trivial

theorem viewPendingVoters_sends {session : Option (Nat × Role)}
    (may : MaySend session (.selectPending .voterProfiles)) (typed : List String) :
    viewPendingVoters.Follows (sendCourse session) typed := by
  rw [viewPendingVoters_eq]
  exact .ask may fun _ => .done trivial

theorem viewPendingCandidates_sends {session : Option (Nat × Role)}
    (may : MaySend session (.selectPending .candidateProfiles)) (typed : List String) :
    viewPendingCandidates.Follows (sendCourse session) typed := by
  rw [viewPendingCandidates_eq]
  exact .ask may fun _ => .done trivial

theorem viewApprovedCandidates_sends (voterId : Nat) (typed : List String) :
    viewApprovedCandidates.Follows (sendCourse (some (voterId, .voter))) typed := by
  rw [viewApprovedCandidates_eq]
  exact .ask ⟨voterId, rfl⟩ fun _ => .done trivial

theorem viewResults_sends (adminId : Nat) (typed : List String) :
    viewResults.Follows (sendCourse (some (adminId, .admin))) typed := by
  rw [viewResults_eq]
  exact .ask ⟨adminId, rfl⟩ fun _ => .done trivial

theorem viewForum_sends {session : Option (Nat × Role)} (may : MaySend session .selectForum)
    (typed : List String) : viewForum.Follows (sendCourse session) typed := by
  rw [viewForum_eq]
  exact .ask may fun _ => .done trivial

theorem castVote_sends (voterId : Nat) (typed : List String) :
    (castVote voterId).Follows (sendCourse (some (voterId, .voter))) typed := by
  simp only [castVote_eq, chooseCandidate_eq, Dialogue.prepend_read]
  refine .ask rfl fun answer => ?_
  split
  · split
    · refine .ask rfl fun answer => ?_
      split
      · exact .done trivial
      · refine .ask ⟨voterId, rfl⟩ fun _ => .read fun _ => .ask (Option.some_ne_none _) fun answer => ?_
        split
        · split
          · refine .ask ⟨voterId, rfl⟩ fun answer => ?_
            split
            · refine .ask rfl fun answer => ?_
              split <;> exact .done trivial
            · exact .done trivial
            · exact .done trivial
          · exact .done trivial
        · exact .done trivial
      · exact .done trivial
    · exact .done trivial
  · exact .done trivial
  · exact .done trivial

theorem postForum_sends {userId : Nat} {session : Option (Nat × Role)}
    (author : session = some (userId, .voter) ∨ session = some (userId, .candidate))
    (typed : List String) : (postForum userId).Follows (sendCourse session) typed := by
  rw [postForum_eq]
  refine .read fun line => ?_
  split
  · exact .done trivial
  · rename_i some
    refine .ask ⟨fun empty => some ?_, author⟩ fun answer => ?_
    · rw [empty]
      rfl
    · split <;> exact .done trivial

theorem login_sends (typed : List String) : login.Follows (sendCourse none) typed := by
  rw [login_eq]
  refine .read fun username => .read fun password => .ask rfl fun answer => ?_
  split
  · split <;> exact .done trivial
  · exact .done trivial
  · exact .done trivial

theorem voterMenu_sends (voterId : Nat) (username : String) :
    (voterMenu voterId username).Follows (sendCourse (some (voterId, .voter))) [] := by
  rw [voterMenu_eq]
  refine .read fun line => ?_
  split
  · exact send_round (applyVoterID_sends voterId _) _
  · exact send_round (viewMyVoterStatus_sends voterId _) _
  · exact send_round (viewApprovedCandidates_sends voterId _) _
  · exact send_round (castVote_sends voterId _) _
  · exact send_round (postForum_sends (.inl rfl) _) _
  · exact send_round (viewForum_sends ⟨voterId, .inl rfl⟩ _) _
  · exact .done trivial
  · exact .done trivial

theorem candidateMenu_sends (candidateId : Nat) (username : String) :
    (candidateMenu candidateId username).Follows (sendCourse (some (candidateId, .candidate))) [] := by
  rw [candidateMenu_eq]
  refine .read fun line => ?_
  split
  · exact send_round (applyCandidate_sends candidateId _) _
  · exact send_round (viewMyCandidateStatus_sends candidateId _) _
  · exact send_round (postForum_sends (.inr rfl) _) _
  · exact send_round (viewForum_sends ⟨candidateId, .inr rfl⟩ _) _
  · exact .done trivial
  · exact .done trivial

section

variable [Platform]

theorem approveReject_sends {table : ProfileTable} {session : Option (Nat × Role)}
    (may : ∀ status id, status ≠ .pending → MaySend session (.updateStatus table status id))
    (entered : session ≠ none) (typed : List String) :
    (approveReject table).Follows (sendCourse session) typed := by
  rw [approveReject_eq]
  refine .read fun _ => .read fun _ => ?_
  split
  · exact .done trivial
  · rename_i decided
    refine .ask entered fun answer => ?_
    split
    · split
      · refine .ask (may _ _ (decision_ne_pending decided)) fun answer => ?_
        split
        · split <;> exact .done trivial
        · exact .done trivial
      · exact .done trivial
    · exact .done trivial

theorem register_sends (typed : List String) : register.Follows (sendCourse none) typed := by
  rw [register_eq]
  refine .read fun _ => .read fun _ => .read fun _ => .read fun _ => ?_
  split
  · refine .ask rfl fun answer => ?_
    split
    · exact .done trivial
    · split <;> exact .done trivial
  · exact .done trivial

/-! ## Loops -/

theorem mainMenu_sends : mainMenu.Follows (sendCourse none) [] := by
  rw [mainMenu_eq]
  refine .read fun line => ?_
  split
  · exact login_sends _
  · exact send_round (register_sends _) _
  · exact .done trivial
  · exact .done trivial

theorem adminMenu_sends (adminId : Nat) :
    (adminMenu adminId).Follows (sendCourse (some (adminId, .admin))) [] := by
  rw [adminMenu_eq]
  refine .read fun line => ?_
  split
  · exact send_round (viewPendingVoters_sends ⟨adminId, .inl rfl⟩ _) _
  · exact send_round (@approveReject_sends _ .voterProfiles _
      (fun _ _ decided => ⟨decided, adminId, .inl rfl⟩) (by simp) _) _
  · exact send_round (viewPendingCandidates_sends ⟨adminId, rfl⟩ _) _
  · exact send_round (@approveReject_sends _ .candidateProfiles _
      (fun _ _ decided => ⟨decided, adminId, rfl⟩) (by simp) _) _
  · exact send_round (viewResults_sends adminId _) _
  · exact .done trivial
  · exact .done trivial

theorem officerMenu_sends (officerId : Nat) :
    (officerMenu officerId).Follows (sendCourse (some (officerId, .fieldOfficer))) [] := by
  rw [officerMenu_eq]
  refine .read fun line => ?_
  split
  · exact send_round (viewPendingVoters_sends ⟨officerId, .inr rfl⟩ _) _
  · exact send_round (@approveReject_sends _ .voterProfiles _
      (fun _ _ decided => ⟨decided, officerId, .inr rfl⟩) (by simp) _) _
  · exact .done trivial
  · exact .done trivial

/-- A process that waits for an answer may have sent the statement. -/
theorem sends_of_reachable {system : System app} (reachable : system.Reachable) {process : Nat}
    {loop : Loop} {printed : List Output} {stmt : Stmt}
    {next : Answer stmt → Dialogue console (Option Loop)}
    (waits : system.process process = some ⟨loop, .ask printed stmt next⟩) :
    MaySend loop.session stmt := by
  by_cases boot : loop = .boot
  · have own := (asks_of_reachable reachable waits).2.2 boot
    simp only [startupStatements, connectStatements, setupStatements, List.cons_append,
      List.nil_append, List.mem_cons, List.not_mem_nil, or_false] at own
    subst boot
    rcases own with rfl | rfl | rfl | rfl | rfl | rfl | rfl | rfl | rfl <;> rfl
  · let course (loop : Loop) : Dialogue.Course console (Option Loop) :=
      if loop = .boot then .any else sendCourse loop.session
    have sends {menu : Loop} (away : menu ≠ .boot) : course menu = sendCourse menu.session :=
      if_neg away
    have bodies (loop : Loop) : loop.body.Follows (course loop) [] := by
      by_cases startup : loop = .boot
      · have free : course loop = .any := if_pos startup
        rw [free]
        exact .any _ _
      · rw [sends startup]
        cases loop with
        | boot => contradiction
        | mainMenu => exact mainMenu_sends
        | adminMenu adminId => exact adminMenu_sends adminId
        | officerMenu officerId => exact officerMenu_sends officerId
        | voterMenu voterId username => exact voterMenu_sends voterId username
        | candidateMenu candidateId username => exact candidateMenu_sends candidateId username
    have follows : (Dialogue.ask printed stmt next).Follows (course loop)
        (linesOf process (roundOf process system.log)) := reachable.follows bodies waits
    rw [sends boot] at follows
    exact follows.asks

/-- A statement that is served is one that its session may send. -/
theorem stepped_sends {system next : System app} (reachable : system.Reachable) {event : Event app}
    (stepped : system.step event = some next) {entry : Entry app}
    (logged : next.log = entry :: system.log) {stmt : Stmt} {choice : Choice} {answer : Answer stmt}
    (action : entry.action = .served stmt choice answer) : MaySend entry.loop.session stmt := by
  cases System.step_move stepped with
  | serve waits _ =>
    obtain ⟨here, _⟩ := List.cons.inj logged
    subst here
    obtain ⟨rfl, _⟩ := Action.served.inj action
    exact sends_of_reachable reachable waits
  | start _ | type _ _ | turn _ | leave _ | kill _ =>
    obtain ⟨here, _⟩ := List.cons.inj logged
    subst here
    contradiction

/-- Whatever statement was served in a run, its session was one that may send it, and the account of
the session has the role. -/
theorem statements_by_role {system : System app} (reachable : system.Reachable) {entry : Entry app}
    (present : entry ∈ system.log) {stmt : Stmt} {choice : Choice} {answer : Answer stmt}
    (action : entry.action = .served stmt choice answer) :
    MaySend entry.loop.session stmt ∧ ∀ id role, entry.loop.session = some (id, role) →
      system.store.rows.HasRole id role := by
  let kept (state : System app) : Prop := ∀ entry ∈ state.log, ∀ stmt choice (answer : Answer stmt),
    entry.action = .served stmt choice answer → MaySend entry.loop.session stmt ∧
      ∀ id role, entry.loop.session = some (id, role) → state.store.rows.HasRole id role
  have start : kept (System.initial app) := fun _ none => (List.not_mem_nil none).elim
  have keeps {state next : System app} {event : Event app} (reached : state.Reachable)
      (before : kept state) (stepped : state.step event = some next) : kept next := by
    intro entry present stmt choice answer action
    have good := good_of_reachable reached
    have evolves := (good.evolves rules_sound stepped).toEvolves
    obtain ⟨newest, logged, _⟩ := System.step_log stepped
    rw [logged] at present
    rcases List.mem_cons.mp present with rfl | old
    · have did := good.stepped_entry rules_sound stepped logged
      obtain ⟨ready, _, _, _⟩ := did.of_served action
      exact ⟨stepped_sends reached stepped logged action,
        fun id role session => (ready.account id role session).evolves evolves.users⟩
    · obtain ⟨reads, roles⟩ := before entry old stmt choice answer action
      exact ⟨reads, fun id role session => (roles id role session).evolves evolves.users⟩
  have all : kept system := reachable.keeps start keeps
  exact all entry present stmt choice answer action

/-! ## The status of one's own application -/

/-- An application that was reported is stored. -/
theorem applied_stored {system : System app} (reachable : system.Reachable) {table : ProfileTable}
    {id userId : Nat} {entries : table.Entries}
    (applied : Occurs (Applies table id userId entries) system.log) :
    ∃ profile ∈ system.store.rows.profiles table, profile.id = id ∧ profile.userId = userId ∧
      profile.entries = entries := by
  let kept (state : System app) : Prop := ∀ entry ∈ state.log, ∀ choice,
    entry.action = .served (.insertProfile table userId entries) choice (.ok ()) →
      ∃ profile ∈ state.store.rows.profiles table, profile.id = choice.id ∧
        profile.userId = userId ∧ profile.entries = entries
  have start : kept (System.initial app) := fun _ none => (List.not_mem_nil none).elim
  have keeps {state next : System app} {event : Event app} (reached : state.Reachable)
      (before : kept state) (stepped : state.step event = some next) : kept next := by
    intro entry present choice action
    have good := good_of_reachable reached
    obtain ⟨newest, logged, _⟩ := System.step_log stepped
    rw [logged] at present
    rcases List.mem_cons.mp present with rfl | old
    · have did := good.stepped_entry rules_sound stepped logged
      obtain ⟨_, _, served, _⟩ := did.of_served action
      obtain ⟨change, _⟩ := serve_written served
      generalize next.store.rows = rows at change
      cases change with
      | nothing quiet => contradiction
      | profile _ _ _ =>
        exact ⟨⟨choice.id, userId, entries, .pending⟩, by simp [Rows.addProfile], rfl, rfl, rfl⟩
    · obtain ⟨profile, stored, same, owner, entered⟩ := before entry old choice action
      obtain ⟨later, present, continues⟩ :=
        (good.evolves rules_sound stepped).toEvolves.profiles table profile stored
      exact ⟨later, present, continues.id.trans same, continues.userId.trans owner,
        continues.entries.trans entered⟩
  have all : kept system := reachable.keeps start keeps
  obtain ⟨newer, entry, older, split, ⟨choice, action, rfl⟩, _, _⟩ := applied
  exact all entry (by simp [split]) choice action

/-- The columns of an application that its user is shown: of a candidacy neither the manifesto, nor
of a voter application the address. -/
def shownColumns : (table : ProfileTable) → table.Entries → List (String × String)
  | .voterProfiles, entries => [("Constituency: ", entries.constituency)]
  | .candidateProfiles, entries =>
    [("Party       : ", entries.party), ("Constituency: ", entries.constituency)]

/-- What its user is shown of an application. -/
def statusLines (table : ProfileTable) (entries : table.Entries) (status : Status) : List Output :=
  (shownColumns table entries).map (fun column => .println (column.1 ++ column.2)) ++
    [.println ("Status      : " ++ status.label ++ "\n")]

/-- What a user without an application is told. -/
def noApplication : ProfileTable → String
  | .voterProfiles => "No application found. Please apply first.\n"
  | .candidateProfiles => "No candidacy application found.\n"

omit [Platform] in
/-- The reply to a query for one's own application. -/
theorem ownStatus_eq (table : ProfileTable) :
    (∀ entries status, ownStatus table [(entries, status)] = statusLines table entries status) ∧
      ownStatus table [] = [.println (noApplication table)] := by
  cases table <;> exact ⟨fun _ _ => rfl, rfl⟩

/-- What a user is shown of its own application: columns that were typed when it was reported as
submitted, and the last decision on it; or that there is none, if none was ever reported. -/
def ShowsOwn (table : ProfileTable) (userId : Nat) (log : List (Entry app))
    (printed : List Output) : Prop :=
  (∃ id entries, Occurs (Applies table id userId entries) log ∧
    (∀ other entered, Occurs (Applies table other userId entered) log →
      other = id ∧ entered = entries) ∧
    printed = statusLines table entries (standing table id log)) ∨
  ((∀ id entries, ¬ Occurs (Applies table id userId entries) log) ∧
    printed = [.println (noApplication table)])

/-- A query for one's own application that is served is answered so. -/
theorem shows_own {system next : System app} (reachable : system.Reachable) {process : Nat}
    {table : ProfileTable} {userId : Nat}
    (requests : system.requested process = some (.selectProfile table userId)) {choice : Choice}
    (healthy : choice.fault = none) (stepped : system.step (.serve process choice) = some next) :
    ∃ entry, next.log = entry :: system.log ∧ entry.process = process ∧
      entry.loop.session = some (userId, table.role) ∧
      ShowsOwn table userId system.log entry.printed := by
  obtain ⟨entry, loop, answer, logged, own, action, served, told⟩ :=
    reply_step reachable requests stepped
  obtain ⟨running, _, _, waits⟩ := System.waits_of_requested requests
  have complete := complete_of_waits reachable waits
    (by simp [connectStatements, setupStatements])
  have invariant := (good_of_reachable reachable).invariant
  have answered := (serve_query complete healthy rfl).symm.trans served
  obtain ⟨_, rfl⟩ := Prod.mk.inj (Option.some.inj answered)
  obtain ⟨printed, _⟩ := told _ rfl
  refine ⟨entry, logged, own, stepped_sends reachable stepped logged action, ?_⟩
  rw [printed]
  by_cases stored : ∃ profile ∈ system.store.rows.profiles table, profile.userId = userId
  · left
    obtain ⟨profile, stored, owner⟩ := stored
    have alone : system.store.rows.profilesOf table userId = [profile] :=
      Table.rowsOf_filter (fun left right first second =>
        .inr ((of_decide_eq_true first).trans (of_decide_eq_true second).symm)) stored
        (decide_eq_true owner)
    refine ⟨profile.id, profile.entries, ?_, fun other entered applied => ?_, ?_⟩
    · rw [← owner]
      exact invariant.recorded.profiles table profile stored
    · obtain ⟨found, present, same, user, typed⟩ := applied_stored reachable applied
      have one := system.store.profile_unique present stored (.inr (user.trans owner.symm))
      subst one
      exact ⟨same.symm, typed.symm⟩
    · rw [alone, ← invariant.standings table profile stored]
      exact (ownStatus_eq table).1 _ _
  · right
    have none : system.store.rows.profilesOf table userId = [] := by
      rw [Rows.profilesOf, List.filter_eq_nil_iff]
      intro profile present owner
      exact stored ⟨profile, present, of_decide_eq_true owner⟩
    refine ⟨fun id entries applied => ?_, ?_⟩
    · obtain ⟨profile, present, _, owner, _⟩ := applied_stored reachable applied
      exact stored ⟨profile, present, owner⟩
    · rw [none]
      exact (ownStatus_eq table).2

/-- A user who chooses the status of the own application in a menu is shown it, whatever the others
do before the query is served: the columns typed in the one application that was reported as
submitted, and the last decision on it when the query is served; or that there is none. -/
theorem own_status {system : System app} (reachable : system.Reachable) {process : Nat}
    {loop : Loop} (runs : (system.process process).map Process.loop = some loop)
    (fresh : roundOf process system.log = []) {line : String} {table : ProfileTable} {userId : Nat}
    (chosen : loop.reading (trim line) = some (.ownStatus table userId)) :
    ∃ asked, system.step (.type process line) = some asked ∧ asked.store = system.store ∧
      ∀ events later choice, (∀ event ∈ events, event.actor ≠ process) →
        asked.run events = some later → choice.fault = none →
          ∃ next entry, later.step (.serve process choice) = some next ∧
            next.log = entry :: later.log ∧ entry.process = process ∧
            entry.loop.session = some (userId, table.role) ∧
            ShowsOwn table userId later.log entry.printed := by
  obtain ⟨asked, stepped, same, further, waits⟩ := choice_reads reachable runs fresh chosen
  refine ⟨asked, stepped, same, fun events later choice idle ran fault => ?_⟩
  have reached : later.Reachable := further.run ran
  have requests := Reading.requested (waits events later idle ran)
  obtain ⟨_, _, _, _, served⟩ := query_step reached requests
    (by simp [connectStatements, setupStatements]) fault rfl
  obtain ⟨entry, shows⟩ := shows_own reached requests fault served
  exact ⟨_, entry, served, shows⟩

end

/-! ## A candidate looks -/

section

attribute [local instance] latin1

/-- Cara asks for the status of her application once it is approved. -/
def asking : List (Event app) := candidacy ++ approval ++ typing 0 ["2"]

set_option maxRecDepth 10000 in
/-- She reads it as a candidate. -/
theorem statements_by_role_asking : ∃ system next entry, (System.initial app).run asking = some system ∧
    system.step (.serve 0 tallying) = some next ∧ entry ∈ next.log ∧
    MaySend entry.loop.session (.selectProfile .candidateProfiles 2) := by
  have result : ((System.initial app).run asking).map (fun system =>
      (system.requested 0, (system.step (.serve 0 tallying)).isSome)) =
      some (some (.selectProfile .candidateProfiles 2), true) := by
    decide +kernel
  obtain ⟨system, ran, seen⟩ := Option.map_eq_some_iff.mp result
  obtain ⟨requests, steps⟩ := Prod.mk.inj seen
  obtain ⟨next, stepped⟩ := Option.isSome_iff_exists.mp steps
  obtain ⟨entry, _, _, logged, _, action, _⟩ := reply_step ⟨asking, ran⟩ requests stepped
  have present : entry ∈ next.log := by simp [logged]
  have reachable : next.Reachable := System.Reachable.step ⟨asking, ran⟩ stepped
  exact ⟨system, next, entry, ran, stepped, present, (statements_by_role reachable present action).1⟩

/-- All applications are approved, and a user logs in. -/
def attending (username : String) : List (Event app) := polls ++ loggingIn 0 username "secret"

/-- After this run, a user chooses the second entry of the menu, and is shown these lines. -/
def ShownStatus (events : List (Event app)) (lines : List Output) : Prop :=
  ∃ system asked next entry, (System.initial app).run events = some system ∧
    system.step (.type 0 "2") = some asked ∧ asked.step (.serve 0 tallying) = some next ∧
    next.log = entry :: asked.log ∧ entry.printed = lines

set_option maxRecDepth 10000 in
/-- Vera is shown her constituency and the approval, and Cara also her party. -/
theorem own_status_attending :
    ShownStatus (attending "vera")
      [.println "Constituency: North", .println "Status      : APPROVED\n"] ∧
    ShownStatus (attending "cara")
      [.println "Party       : Green", .println "Constituency: North",
        .println "Status      : APPROVED\n"] := by
  have each {events : List (Event app)} {system : System app}
      (ran : (System.initial app).run events = some system) {loop : Loop}
      (runs : @Option.map _ Loop Process.loop (system.process 0) = some loop)
      (fresh : (roundOf 0 system.log).length = 0) {table : ProfileTable}
      {profile : Profile table.Entries} (stored : profile ∈ system.store.rows.profiles table)
      (chosen : loop.reading (trim "2") = some (.ownStatus table profile.userId)) :
      ShownStatus events (statusLines table profile.entries profile.status) := by
    obtain ⟨asked, stepped, same, served⟩ :=
      own_status ⟨events, ran⟩ runs (List.length_eq_zero_iff.mp fresh) chosen
    obtain ⟨next, entry, answered, logged, _, _, shows⟩ :=
      served [] asked tallying (by simp) rfl rfl
    refine ⟨system, asked, next, entry, ran, stepped, answered, logged, ?_⟩
    have invariant := (good_of_reachable (System.Reachable.step ⟨events, ran⟩ stepped)).invariant
    have kept : profile ∈ asked.store.rows.profiles table := same ▸ stored
    have applied := invariant.recorded.profiles table profile kept
    rcases shows with ⟨id, entries, _, one, printed⟩ | ⟨never, _⟩
    · obtain ⟨rfl, rfl⟩ := one _ _ applied
      rw [printed, invariant.standings table profile kept]
    · exact absurd applied (never _ _)
  have voter : ((System.initial app).run (attending "vera")).map (fun system => decide
      (@Option.map _ Loop Process.loop (system.process 0) = some (.voterMenu 4 "vera") ∧
        (roundOf 0 system.log).length = 0 ∧
        (⟨5, 4, ⟨"North", "Main Street 1"⟩, .approved⟩ : VoterProfile) ∈
          system.store.rows.voters)) = some true := by
    decide +kernel
  have candidate : ((System.initial app).run (attending "cara")).map (fun system => decide
      (@Option.map _ Loop Process.loop (system.process 0) = some (.candidateMenu 2 "cara") ∧
        (roundOf 0 system.log).length = 0 ∧
        (⟨7, 2, ⟨"Green", "North", "Trees"⟩, .approved⟩ : CandidateProfile) ∈
          system.store.rows.candidates)) = some true := by
    decide +kernel
  have two : trim "2" = "2" := by decide
  constructor
  · obtain ⟨system, ran, seen⟩ := Option.map_eq_some_iff.mp voter
    obtain ⟨runs, fresh, stored⟩ := of_decide_eq_true seen
    exact @each _ system ran _ runs fresh .voterProfiles _ stored (by rw [two]; rfl)
  · obtain ⟨system, ran, seen⟩ := Option.map_eq_some_iff.mp candidate
    obtain ⟨runs, fresh, stored⟩ := of_decide_eq_true seen
    exact @each _ system ran _ runs fresh .candidateProfiles _ stored (by rw [two]; rfl)

end

end OnlineVoting
