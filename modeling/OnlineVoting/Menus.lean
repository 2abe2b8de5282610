import OnlineVoting.Sessions

/-!
# Every loop keeps the rules

`main` up to its menu, the menu of `main` with `login` and `register`, and the four menus of the
roles. A menu is entered only when it is ready: after a complete startup, and under an account
that the login query found in its role. `rules_sound` states the discipline for the program.
-/
namespace OnlineVoting

open Interleaving

variable [Platform]

variable {loop : Loop} {process : Nat} {world moment later : World app} {action : Action app}

/-- What a round of a loop must return: a loop that is ready. -/
abbrev Rounds (loop : Loop) (process : Nat) (action : Action app)
    (round : Dialogue console (Option Loop)) (world : World app) : Prop :=
  rules.Resumes loop process (fun later next => ∀ loop, next = some loop → Ready loop later.store)
    action round world

/-- A round may end, or go on with a loop that is ready. -/
theorem Rounds.done {printed : List Output} {next : Option Loop}
    (ready : ∀ loop, next = some loop → Ready loop world.store)
    (prints : Prints loop action printed) :
    Rounds loop process action (.done printed next) world :=
  Discipline.Resumes.done prints fun _ rested loop same => (ready loop same).evolves rested.evolves

/-- A round that calls a method goes on with its own loop. -/
theorem Returns.round {method : Dialogue console Unit}
    (returns : Returns loop process action method world) :
    Rounds loop process action (method >>= fun _ => .done [] (some loop)) world :=
  Discipline.Resumes.bind_done returns fun _ _ ready _ same => Option.some.inj same ▸ ready

/-- The menu of `main` is ready where any menu is. -/
theorem Ready.mainMenu {database : Database} (ready : Ready loop database) (menu : loop ≠ .boot) :
    Ready .mainMenu database :=
  ⟨fun _ => ready.complete menu, fun _ _ session => by simp [Loop.session] at session⟩

/-- A round that stays in its loop. -/
theorem Rounds.stay {printed : List Output} (ready : Ready loop world.store)
    (prints : Prints loop action printed) :
    Rounds loop process action (.done printed (some loop)) world :=
  .done (fun _ same => Option.some.inj same ▸ ready) prints

/-- A round that logs out. -/
theorem Rounds.logout (ready : Ready loop world.store) (menu : loop ≠ .boot)
    (quiet : confirmation action = none) :
    Rounds loop process action (.done [.println "Logged out.\n"] (some .mainMenu)) world :=
  .done (fun _ same => Option.some.inj same ▸ ready.mainMenu menu)
    (.text quiet (by simp [reservedTexts, successTexts]))

/-! ## Menus of the roles -/

/-- `adminMenu` keeps the rules. -/
theorem adminMenu_rounds {adminId : Nat} (ready : Ready (.adminMenu adminId) world.store)
    (quiet : confirmation action = none) :
    Rounds (.adminMenu adminId) process action (adminMenu adminId) world := by
  rw [adminMenu_eq]
  refine Discipline.Resumes.read rules_stable (.plain quiet ?_) fun line moment later after => ?_
  · simp [adminChoices, Output.isPlain, Output.isSuccess, Output.isResult, successTexts,
      unknownRole]
  replace ready := after.ready rules_stable ready
  split
  · exact (viewPendingVoters_returns ready rfl).round
  · exact (approveReject_returns (.inl ⟨adminId, rfl⟩) ready rfl).round
  · exact (viewPendingCandidates_returns ready rfl).round
  · exact (approveReject_returns (.inl ⟨adminId, rfl⟩) ready rfl).round
  · exact (viewResults_returns ready rfl).round
  · exact Rounds.logout ready (by simp) rfl
  · exact Rounds.stay ready (.text rfl (by simp [reservedTexts, successTexts]))

/-- `officerMenu` keeps the rules. -/
theorem officerMenu_rounds {officerId : Nat} (ready : Ready (.officerMenu officerId) world.store)
    (quiet : confirmation action = none) :
    Rounds (.officerMenu officerId) process action (officerMenu officerId) world := by
  rw [officerMenu_eq]
  refine Discipline.Resumes.read rules_stable (.plain quiet ?_) fun line moment later after => ?_
  · simp [officerChoices, Output.isPlain, Output.isSuccess, Output.isResult, successTexts,
      unknownRole]
  replace ready := after.ready rules_stable ready
  split
  · exact (viewPendingVoters_returns ready rfl).round
  · exact (approveReject_returns (.inr ⟨rfl, officerId, rfl⟩) ready rfl).round
  · exact Rounds.logout ready (by simp) rfl
  · exact Rounds.stay ready (.text rfl (by simp [reservedTexts, successTexts]))

/-- `voterMenu` keeps the rules. -/
theorem voterMenu_rounds {voterId : Nat} {username : String}
    (ready : Ready (.voterMenu voterId username) world.store)
    (quiet : confirmation action = none) :
    Rounds (.voterMenu voterId username) process action (voterMenu voterId username) world := by
  rw [voterMenu_eq]
  refine Discipline.Resumes.read rules_stable (.plain quiet ?_) fun line moment later after => ?_
  · simp [voterChoices, Output.isPlain, Output.isSuccess, Output.isResult, successTexts,
      unknownRole]
  replace ready := after.ready rules_stable ready
  split
  · exact (applyVoterID_returns ready rfl).round
  · exact (viewMyVoterStatus_returns ready rfl).round
  · exact (viewApprovedCandidates_returns ready rfl).round
  · exact (castVote_returns ready rfl).round
  · exact (postForum_returns (.inl rfl) ready rfl).round
  · exact (viewForum_returns ready rfl).round
  · exact Rounds.logout ready (by simp) rfl
  · exact Rounds.stay ready (.text rfl (by simp [reservedTexts, successTexts]))

/-- `candidateMenu` keeps the rules. -/
theorem candidateMenu_rounds {candidateId : Nat} {username : String}
    (ready : Ready (.candidateMenu candidateId username) world.store)
    (quiet : confirmation action = none) :
    Rounds (.candidateMenu candidateId username) process action
      (candidateMenu candidateId username) world := by
  rw [candidateMenu_eq]
  refine Discipline.Resumes.read rules_stable (.plain quiet ?_) fun line moment later after => ?_
  · simp [candidateChoices, Output.isPlain, Output.isSuccess, Output.isResult, successTexts,
      unknownRole]
  replace ready := after.ready rules_stable ready
  split
  · exact (applyCandidate_returns ready rfl).round
  · exact (viewMyCandidateStatus_returns ready rfl).round
  · exact (postForum_returns (.inr rfl) ready rfl).round
  · exact (viewForum_returns ready rfl).round
  · exact Rounds.logout ready (by simp) rfl
  · exact Rounds.stay ready (.text rfl (by simp [reservedTexts, successTexts]))

/-! ## Registration and login -/

/-- `register` keeps the rules in the menu of `main`. -/
theorem register_returns (ready : Ready .mainMenu world.store)
    (quiet : confirmation action = none) :
    Returns .mainMenu process action register world := by
  rw [register_eq]
  refine Discipline.Resumes.read rules_stable (.plain quiet rfl)
    fun name moment later first => ?_
  replace ready := first.ready rules_stable ready
  refine Discipline.Resumes.read rules_stable (.plain rfl rfl)
    fun username moment later second => ?_
  replace ready := second.ready rules_stable ready
  refine Discipline.Resumes.read rules_stable (.plain rfl rfl)
    fun password moment later third => ?_
  replace ready := third.ready rules_stable ready
  refine Discipline.Resumes.read rules_stable (.plain rfl ?_)
    fun role moment later fourth => ?_
  · simp [Output.isPlain, Output.isSuccess, Output.isResult, successTexts, unknownRole]
  replace ready := fourth.ready rules_stable ready
  have typed := fourth.linesOf_typed
  rw [third.linesOf_typed, second.linesOf_typed, first.linesOf_typed] at typed
  split
  · refine Discipline.Resumes.ask rules_stable (.plain rfl rfl)
      (fun moment rested => ⟨rfl, fun id parsed named => ?_⟩)
      fun choice answer moment later after _ => ?_
    · exact ⟨role, password, username, name, _, rested.linesOf.trans typed, rfl, rfl, rfl,
        Role.label_of_ofLabel named⟩
    replace ready := after.ready rules_stable ready
    cases answer with
    | ok _ => exact Returns.done ready (.success rfl)
    | error e =>
      dsimp only
      split
      · exact Returns.done ready (.text rfl (by simp [reservedTexts, successTexts]))
      · exact Returns.done ready (.dbError rfl e.message)
  · exact Returns.done ready (.text rfl (by simp [reservedTexts, successTexts]))

/-- A user that the login query returns has this identifier, name and role, and the credentials
compare equal. -/
theorem mem_login {rows : Rows} {scan : Nat → Nat} {username passwordHash : String}
    {row : LoginRow} : row ∈ rows.login scan username passwordHash ↔
      ∃ user ∈ rows.users, collates user.username username = true ∧
        collates user.passwordHash passwordHash = true ∧ ⟨user.id, user.name, user.role⟩ = row := by
  simp [Rows.login, Rows.scanned, Rows.loginMatches, and_assoc]

/-- The menu of the role of a stored user is ready. -/
theorem Ready.enter {database : Database} (ready : Ready .mainMenu database) {user : User}
    (stored : user ∈ database.rows.users) (session : loop.session = some (user.id, user.role)) :
    Ready loop database := by
  refine ⟨fun _ => ready.complete (by simp), fun id role same => ?_⟩
  obtain ⟨rfl, rfl⟩ := Prod.mk.inj (Option.some.inj (session.symm.trans same))
  exact ⟨user, stored, rfl, rfl⟩

omit [Platform] in
/-- The line that greets an account is plain. -/
theorem welcome_plain (text : String) : (Output.println ("\nWelcome, " ++ text)).isPlain = true := by
  have clear : Clear "\nWelcome, " := by decide
  exact (clear.append text).plain

/-- `login` keeps the rules in the menu of `main`. -/
theorem login_rounds (ready : Ready .mainMenu world.store) (quiet : confirmation action = none) :
    Rounds .mainMenu process action login world := by
  rw [login_eq]
  refine Discipline.Resumes.read rules_stable (.plain quiet rfl)
    fun username moment later first => ?_
  replace ready := first.ready rules_stable ready
  refine Discipline.Resumes.read rules_stable (.plain rfl rfl)
    fun password moment later second => ?_
  replace ready := second.ready rules_stable ready
  have typed := second.linesOf_typed
  rw [first.linesOf_typed] at typed
  refine Discipline.Resumes.ask rules_stable (.plain rfl rfl)
    (fun moment rested => ⟨rfl, password, username, _, rested.linesOf.trans typed, rfl, rfl⟩)
    fun choice answer moment later after served => ?_
  replace ready := after.ready rules_stable ready
  obtain e | rows := answer
  · exact Rounds.stay ready (.dbError rfl e.message)
  cases rows with
  | nil => exact Rounds.stay ready (.text rfl (by simp [reservedTexts, successTexts]))
  | cons row others =>
    obtain ⟨found, same⟩ := query_served rfl served
    have present : row ∈ moment.store.rows.login choice.scan (trim username)
        (sha256 (trim password)) := by
      rw [← found]
      exact List.mem_cons_self
    obtain ⟨user, stored, _, _, rfl⟩ := mem_login.mp present
    rw [← same] at stored
    have greets : Prints .mainMenu (.served (.selectLogin (trim username) (sha256 (trim password)))
        choice (.ok (⟨user.id, user.name, user.role⟩ :: others)))
        [.println ("\nWelcome, " ++ user.name ++ "! [" ++ user.role.label ++ "]\n")] := by
      refine .plain rfl ?_
      simp [String.append_assoc, welcome_plain]
    cases role : user.role <;> rw [role] at greets <;>
      simp only [Role.label, Dialogue.prepend_done, List.append_nil] at greets ⊢
    all_goals
      refine Rounds.done (fun _ same => ?_) greets
      obtain rfl := Option.some.inj same
      exact ready.enter stored (by simp [Loop.session, role])

/-- `mainMenu` keeps the rules. -/
theorem mainMenu_rounds (ready : Ready .mainMenu world.store)
    (quiet : confirmation action = none) :
    Rounds .mainMenu process action mainMenu world := by
  rw [mainMenu_eq]
  refine Discipline.Resumes.read rules_stable (.plain quiet ?_) fun line moment later after => ?_
  · simp [mainChoices, Output.isPlain, Output.isSuccess, Output.isResult, successTexts,
      unknownRole]
  replace ready := after.ready rules_stable ready
  split
  · exact login_rounds ready rfl
  · exact (register_returns ready rfl).round
  · exact Rounds.done (by simp) (.text rfl (by simp [reservedTexts, successTexts]))
  · exact Rounds.stay ready (.text rfl (by simp [reservedTexts, successTexts]))

/-! ## Startup -/

/-- The statements of a startup, in order. -/
abbrev startupStatements : List Stmt := connectStatements ++ setupStatements

/-- What a statement of the startup leaves behind when it succeeds. -/
def Effected : Stmt → Database → Prop
  | .createDatabase, database => database.created = true
  | .createTable table, database => database.has table = true
  | .seedAdmin _, database => ∃ user ∈ database.rows.users, user.IsSeed
  | _, _ => True

/-- What a statement of the startup left behind stays. -/
theorem Effected.evolves {stmt : Stmt} {database later : Database}
    (effected : Effected stmt database) (evolves : database.Evolves later) :
    Effected stmt later := by
  cases stmt with
  | createDatabase => exact evolves.created effected
  | createTable table => exact evolves.has table effected
  | seedAdmin passwordHash =>
    exact effected.imp fun user found => ⟨evolves.users user found.1, found.2⟩
  | _ => trivial

/-- A statement of the startup is permitted once those before it succeeded. -/
theorem startup_permit {before rest : List Stmt} {stmt : Stmt}
    (order : before ++ stmt :: rest = startupStatements)
    (effected : ∀ done ∈ before, Effected done world.store) :
    Permit .boot process world stmt := by
  have created (present : Stmt.createDatabase ∈ before) : world.store.created = true :=
    effected _ present
  have users (present : Stmt.createTable .users ∈ before) : world.store.has .users = true :=
    effected _ present
  simp only [startupStatements, connectStatements, setupStatements, List.append_eq_cons_iff,
    List.cons_eq_append_iff, List.cons_append, List.nil_append, List.cons.injEq] at order
  -- One case for each statement, with the statements before it.
  obtain ⟨rfl, rfl, _⟩ | ⟨_, rfl, ⟨rfl, same, _⟩ | ⟨_, rfl, ⟨rfl, same, _⟩ | ⟨_, rfl,
    ⟨rfl, same, _⟩ | ⟨_, rfl, ⟨rfl, same, _⟩ | ⟨_, rfl, ⟨rfl, same, _⟩ | ⟨_, rfl,
      ⟨rfl, same, _⟩ | ⟨_, rfl, ⟨rfl, same, _⟩ | ⟨_, rfl, ⟨rfl, same, _⟩ | ⟨_, rfl,
        impossible⟩⟩⟩⟩⟩⟩⟩⟩⟩ := order
  · trivial
  · cases same
    trivial
  · cases same
    exact created (by simp)
  · cases same
    exact ⟨rfl, .inl rfl⟩
  · cases same
    exact ⟨rfl, .inr (users (by simp))⟩
  · cases same
    exact ⟨rfl, .inr (users (by simp))⟩
  · cases same
    exact ⟨rfl, .inr (users (by simp))⟩
  · cases same
    exact ⟨rfl, .inr (users (by simp))⟩
  · cases same
    exact ⟨rfl, rfl, users (by simp)⟩
  · simp at impossible

/-- No statement of the startup is one of a session. -/
theorem startup_quiet {stmt : Stmt} (present : stmt ∈ startupStatements) (choice : Choice)
    (answer : Answer stmt) : confirmation (.served stmt choice answer) = none := by
  simp only [startupStatements, connectStatements, setupStatements, List.cons_append,
    List.nil_append, List.mem_cons, List.not_mem_nil, or_false] at present
  rcases present with rfl | rfl | rfl | rfl | rfl | rfl | rfl | rfl | rfl <;> rfl

/-- A permitted statement that succeeds leaves its effect behind. -/
theorem effected_served {stmt : Stmt} {choice : Choice} {database next : Database}
    {result : Result stmt} (seeded : Seeded database.rows)
    (permit : ∀ passwordHash, stmt = .seedAdmin passwordHash →
      passwordHash = sha256 "admin123" ∧ database.has .users = true)
    (served : serve stmt choice database = some (next, .ok result)) : Effected stmt next := by
  have executed := serve_ok served
  cases stmt with
  | createDatabase =>
    simp only [execute, Option.some.injEq, Prod.mk.injEq] at executed
    rw [← executed.1]
    rfl
  | createTable table =>
    simp only [execute, Option.some.injEq] at executed
    split at executed
    · rename_i made
      obtain ⟨rfl, _⟩ := Prod.mk.inj executed
      exact (Database.createTable_rows made).2.2
    · simp at executed
  | seedAdmin passwordHash =>
    obtain ⟨rfl, has⟩ := permit passwordHash rfl
    obtain ⟨outcome, stored, same⟩ := Option.map_eq_some_iff.mp executed
    cases outcome with
    | ok grown =>
      obtain ⟨rfl, _⟩ := Prod.mk.inj same
      obtain ⟨rows, _⟩ := Database.storeUser_rows stored
      rw [Effected, rows]
      exact ⟨_, List.mem_append_right _ List.mem_cons_self, rfl⟩
    | error exception =>
      -- Ignored as a duplicate: some user is there, so the seeded account is.
      obtain ⟨rfl, _⟩ := Prod.mk.inj same
      rcases Database.storeUser_error stored with missing | ⟨old, present, _⟩
      · simp [has] at missing
      · rcases seeded with empty | seed
        · simp [empty] at present
        · exact seed
  | _ => trivial

/-- What the startup does after its statements. -/
structure Concludes (next : Except SqlException Unit → Dialogue console (Option Loop)) : Prop where
  /-- After all of them it goes on to the menu. -/
  ok : next (.ok ()) = .done [.println "[OK] Connected to MySQL.\n"] (some .mainMenu)
  /-- After an exception it ends. -/
  error : ∀ e, next (.error e) =
    .done [.println ("[ERROR] Cannot connect to MySQL: " ++ e.message),
      .println "Make sure MySQL is running on port 3306."] none

/-- All that a startup leaves behind is a complete database. -/
theorem complete_of_effected {database : Database}
    (effected : ∀ stmt ∈ startupStatements, Effected stmt database) : database.Complete := by
  refine ⟨effected .createDatabase (by simp [connectStatements]), fun table => ?_,
    effected (.seedAdmin (sha256 "admin123")) (by simp [setupStatements])⟩
  refine effected (.createTable table) ?_
  cases table <;> simp [setupStatements]

/-- The remaining statements of a startup keep the rules, once those before them succeeded. -/
theorem executeAll_rounds {next : Except SqlException Unit → Dialogue console (Option Loop)}
    (concludes : Concludes next) {before todo : List Stmt} {printed : List Output}
    (order : before ++ todo = startupStatements)
    (effected : ∀ done ∈ before, Effected done world.store)
    (quiet : confirmation action = none) (plain : printed.all Output.isPlain = true) :
    Rounds .boot process action ((executeAll todo >>= next).prepend printed) world := by
  induction todo generalizing before printed world action with
  | nil =>
    rw [executeAll_nil_bind, concludes.ok, Dialogue.prepend_done]
    rw [List.append_nil] at order
    subst order
    refine Rounds.done (fun _ same => ?_) (.plain quiet ?_)
    · obtain rfl := Option.some.inj same
      exact ⟨fun _ => complete_of_effected effected, fun _ _ session => by
        simp [Loop.session] at session⟩
    · rw [List.all_append, plain]
      simp [Output.isPlain, Output.isSuccess, Output.isResult, successTexts, unknownRole]
  | cons stmt rest ih =>
    rw [executeAll_cons_bind, Dialogue.prepend_ask, List.append_nil]
    have present : stmt ∈ startupStatements := by simp [← order]
    have permit (moment : World app) (rested : rules.Later process world moment) :
        Permit .boot process moment stmt :=
      startup_permit order fun done early => (effected done early).evolves rested.evolves
    refine Discipline.Resumes.ask rules_stable (.plain quiet plain) permit
      fun choice answer moment later after served => ?_
    have silent := startup_quiet present choice answer
    cases answer with
    | error e =>
      simp only [concludes.error]
      refine Rounds.done (by simp) (.plain silent ?_)
      have clear : Clear "[ERROR] Cannot connect to MySQL: " := by decide
      rw [List.all_cons, (clear.append e.message).plain]
      simp [Output.isPlain, Output.isSuccess, Output.isResult, successTexts, unknownRole]
    | ok result =>
      rw [← Dialogue.prepend_nil (executeAll rest >>= next)]
      have further : (before ++ [stmt]) ++ rest = startupStatements := by simp [← order]
      refine ih further ?_ silent rfl
      intro done early
      rcases List.mem_append.mp early with old | new
      · exact (effected done old).evolves (after.evolved rules_stable)
      · obtain rfl := List.mem_singleton.mp new
        refine effected_served after.rested.invariant.seeded ?_ served
        rintro passwordHash rfl
        exact (permit moment after.rested).2

omit [Platform] in
/-- `main` up to its menu executes the statements of the startup, and concludes. -/
theorem startup_eq : ∃ printed next, Concludes next ∧ printed.all Output.isPlain = true ∧
    startup = (executeAll startupStatements >>= next).prepend printed := by
  simp only [startup, println_eq, Dialogue.pure_eq, Dialogue.done_bind, Dialogue.prepend_done,
    Dialogue.prepend_prepend, List.append_nil, List.cons_append, List.nil_append]
  refine ⟨_, _, ⟨rfl, fun _ => rfl⟩, ?_, rfl⟩
  simp [Output.isPlain, Output.isSuccess, Output.isResult, successTexts, unknownRole]

/-- `main` up to its menu keeps the rules. -/
theorem startup_rounds (quiet : confirmation action = none) :
    Rounds .boot process action startup world := by
  obtain ⟨printed, next, concludes, plain, same⟩ := startup_eq
  rw [same]
  exact executeAll_rounds concludes (List.nil_append _) (by simp) quiet plain

/-! ## The discipline -/

/-- Every loop keeps the rules, from any state it is ready in. -/
theorem body_rounds (ready : Ready loop world.store) (quiet : confirmation action = none) :
    Rounds loop process action loop.body world := by
  cases loop with
  | boot => exact startup_rounds quiet
  | mainMenu => exact mainMenu_rounds ready quiet
  | adminMenu adminId => exact adminMenu_rounds ready quiet
  | officerMenu officerId => exact officerMenu_rounds ready quiet
  | voterMenu voterId username => exact voterMenu_rounds ready quiet
  | candidateMenu candidateId username => exact candidateMenu_rounds ready quiet

/-- The program respects its rules. -/
theorem rules_sound : rules.Sound where
  toStable := rules_stable
  stop_prints _ := ⟨rfl, by simp, by simp⟩
  start _ _ := startup_rounds rfl
  turn _ _ _ ready := body_rounds ready rfl

/-- Every reachable state keeps the rules. -/
theorem good_of_reachable {system : System app} (reachable : system.Reachable) :
    rules.Good system := rules_sound.good_of_reachable reachable

end OnlineVoting
