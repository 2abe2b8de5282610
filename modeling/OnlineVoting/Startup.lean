import OnlineVoting.Applications

/-!
# Startup

A startup may begin at any time, beside sessions and other startups, and may end after any of its
statements. Its statements succeed unless the server fails them, it writes nothing but the seeded
account, and no menu is entered before that account is stored, so nobody else is ever registered
under its name.
-/
namespace OnlineVoting

open Interleaving

section

variable [Platform]

/-! ## Statements of a startup -/

/-- A permitted statement of a startup succeeds unless the server fails it. -/
theorem startup_ok {loop : Loop} {process : Nat} {world : World app} {stmt : Stmt}
    (permit : Permit loop process world stmt) (present : stmt ∈ startupStatements)
    {choice : Choice} (fault : choice.fault = none) {next : Database} {answer : Answer stmt}
    (served : serve stmt choice world.store = some (next, answer)) :
    ∃ result, answer = .ok result := by
  have executed : execute choice world.store stmt = some (next, answer) := by
    simpa only [serve, fault] using served
  have table {name : TableName} (permit : Permit loop process world (.createTable name))
      {answer : Answer (.createTable name)}
      (executed : execute choice world.store (.createTable name) = some (next, answer)) :
      ∃ result, answer = .ok result := by
    obtain ⟨made, created⟩ := Database.createTable_ok permit.2
    simp only [execute, created, Option.some.injEq, Prod.mk.injEq] at executed
    exact ⟨(), executed.2.symm⟩
  simp only [startupStatements, connectStatements, setupStatements, List.cons_append,
    List.nil_append, List.mem_cons, List.not_mem_nil, or_false] at present
  rcases present with rfl | rfl | rfl | rfl | rfl | rfl | rfl | rfl | rfl
  · simp only [execute, Option.some.injEq, Prod.mk.injEq] at executed
    exact ⟨(), executed.2.symm⟩
  · simp only [execute, Option.some.injEq, Prod.mk.injEq] at executed
    exact ⟨(), executed.2.symm⟩
  · have created : world.store.created = true := permit
    simp only [execute, created, if_true, Option.some.injEq, Prod.mk.injEq] at executed
    exact ⟨(), executed.2.symm⟩
  · exact table permit executed
  · exact table permit executed
  · exact table permit executed
  · exact table permit executed
  · exact table permit executed
  · have users : world.store.has .users = true := permit.2.2
    obtain ⟨outcome, _, same⟩ := Option.map_eq_some_iff.mp executed
    cases outcome with
    | ok seeded => exact ⟨1, (Prod.mk.inj same).2.symm⟩
    | error exception =>
      simp only [users, if_true] at same
      exact ⟨0, (Prod.mk.inj same).2.symm⟩

/-- A statement permitted to a startup writes nothing but the seeded account. -/
theorem Written.boot {choice : Choice} {rows later : Rows} {stmt : Stmt} {answer : Answer stmt}
    (change : Written choice rows stmt answer later) {process : Nat} {world : World app}
    (permit : Permit .boot process world stmt) :
    later = rows ∨ later = rows.addUser (adminUser choice.id (sha256 "admin123")) := by
  cases change with
  | nothing _ => exact .inl rfl
  | seed passwordHash =>
    obtain ⟨_, rfl, _⟩ := permit
    exact .inr rfl
  | user _ _ _ _ _ _ =>
    obtain ⟨menu, _⟩ := permit
    contradiction
  | profile _ _ _ =>
    obtain ⟨session, _⟩ := permit
    contradiction
  | status _ _ _ _ _ _ =>
    obtain ⟨⟨_, menu⟩ | ⟨_, _, menu⟩, _⟩ := permit <;> contradiction
  | vote _ _ =>
    obtain ⟨session, _⟩ := permit
    contradiction
  | post _ _ =>
    obtain ⟨session | session, _⟩ := permit <;> contradiction

/-! ## Steps and runs of startups -/

/-- A step of a startup leaves all rows as they are, or adds the seeded account where nobody has
its name. -/
theorem boot_step {system next : System app} (reachable : system.Reachable) {event : Event app}
    {entry : Entry app} (stepped : system.step event = some next)
    (logged : next.log = entry :: system.log) (boot : entry.loop = .boot) :
    next.store.rows = system.store.rows ∨
      (∀ user ∈ system.store.rows.users, collates user.username "admin" = false) ∧
        ∃ id, next.store.rows = system.store.rows.addUser (adminUser id (sha256 "admin123")) := by
  cases (good_of_reachable reachable).stepped_entry rules_sound stepped logged with
  | unserved _ kept _ _ => exact .inl (by rw [kept])
  | served _ _ permit served _ =>
    obtain rfl : _ = Loop.boot := boot
    rcases (serve_written served).1.boot permit with same | seeded
    · exact .inl same
    · refine .inr ⟨fun user stored => ?_, _, seeded⟩
      have apart := Database.fresh_user seeded user stored
      exact Bool.eq_false_iff.mpr fun taken => apart (.inr taken)

/-- Steps of startups leave every row as it is once the seeded account is there. -/
theorem boot_run {system last : System app} {events : List (Event app)}
    (reachable : system.Reachable) (ran : system.run events = some last)
    (seeded : ∃ user ∈ system.store.rows.users, collates user.username "admin" = true)
    {newer : List (Entry app)} (logged : last.log = newer ++ system.log)
    (boot : ∀ entry ∈ newer, entry.loop = .boot) : last.store.rows = system.store.rows := by
  induction events generalizing system newer with
  | nil =>
    obtain rfl := Option.some.inj ran
    rfl
  | cons event events ih =>
    obtain ⟨next, stepped, ran⟩ := System.run_cons ran
    obtain ⟨entry, first, _⟩ := System.step_log stepped
    obtain ⟨later, rest, _⟩ := System.run_log ran
    obtain rfl : newer = later ++ [entry] := by
      have both : newer ++ system.log = (later ++ [entry]) ++ system.log := by
        rw [← logged, rest, first, List.append_assoc, List.singleton_append]
      exact List.append_cancel_right both
    have kept : next.store.rows = system.store.rows := by
      rcases boot_step reachable stepped first (boot entry (by simp)) with same | ⟨free, _⟩
      · exact same
      · obtain ⟨user, stored, taken⟩ := seeded
        rw [free user stored] at taken
        contradiction
    rw [ih (reachable.step stepped) ran (by rwa [kept]) rest fun other present =>
      boot other (List.mem_append_left _ present), kept]

/-- A startup whose remaining statements are all served, none failed by the server, goes on as
after a success. -/
theorem executeAll_serves {process : Nat}
    {next : Except SqlException Unit → Dialogue console (Option Loop)} {todo : List Stmt}
    (own : ∀ stmt ∈ todo, stmt ∈ startupStatements) {choices : List Choice}
    (faultless : ∀ choice ∈ choices, choice.fault = none) (all : choices.length = todo.length)
    {system last : System app} (reachable : system.Reachable) {printed : List Output}
    (waits : system.process process = some ⟨.boot, (executeAll todo >>= next).prepend printed⟩)
    (ran : system.run (choices.map (.serve process)) = some last) :
    (∃ printed, last.process process = some ⟨.boot, (next (.ok ())).prepend printed⟩) ∧
      ∃ newer, last.log = newer ++ system.log ∧ ∀ entry ∈ newer, entry.loop = .boot := by
  induction todo generalizing choices system printed with
  | nil =>
    obtain rfl := List.length_eq_zero_iff.mp all
    obtain rfl := Option.some.inj ran
    exact ⟨⟨printed, waits⟩, [], rfl, by simp⟩
  | cons stmt todo ih =>
    obtain ⟨choice, choices, rfl⟩ := List.exists_cons_of_length_eq_add_one all
    rw [executeAll_cons_bind, Dialogue.prepend_ask, List.append_nil] at waits
    obtain ⟨middle, stepped, ran⟩ := System.run_cons ran
    have moved := stepped
    simp only [System.step, waits] at moved
    obtain ⟨⟨store, answer⟩, served, rfl⟩ := Option.map_eq_some_iff.mp moved
    have permit := (good_of_reachable reachable).permit rules_sound waits
    obtain ⟨result, rfl⟩ := startup_ok permit (own stmt List.mem_cons_self)
      (faultless choice List.mem_cons_self) served
    have further : (system.advance process store .boot (.served stmt choice (.ok result))
        (some (executeAll todo >>= next))).process process =
          some ⟨.boot, (executeAll todo >>= next).prepend []⟩ := by
      rw [System.advance_self]
      rfl
    obtain ⟨returned, newer, logged, boot⟩ :=
      ih (fun other present => own other (List.mem_cons_of_mem stmt present))
        (fun other present => faultless other (List.mem_cons_of_mem choice present))
        (Nat.succ.inj all) (reachable.step stepped) further ran
    refine ⟨returned, newer ++ [_], by rw [logged, List.append_assoc]; rfl, fun entry present => ?_⟩
    rcases List.mem_append.mp present with later | first
    · exact boot entry later
    · rw [List.mem_singleton.mp first]

/-- A startup that is not cut short reaches the menu of `main`. -/
theorem startup_completes {system last : System app} (reachable : system.Reachable) {process : Nat}
    {choices : List Choice} (faultless : ∀ choice ∈ choices, choice.fault = none)
    (all : choices.length = startupStatements.length)
    (ran : system.run (.start process :: choices.map (.serve process)) = some last) :
    (∃ printed, last.process process = some ⟨.boot, .done printed (some .mainMenu)⟩) ∧
      ∃ newer, last.log = newer ++ system.log ∧ ∀ entry ∈ newer, entry.loop = .boot := by
  obtain ⟨started, stepped, ran⟩ := System.run_cons ran
  have moved := stepped
  simp only [System.step] at moved
  split at moved
  · obtain rfl := Option.some.inj moved
    obtain ⟨banner, next, concludes, _, same⟩ := startup_eq
    have waits : (system.advance process system.store .boot .started (some startup)).process
        process = some ⟨.boot, (executeAll startupStatements >>= next).prepend banner⟩ := by
      rw [System.advance_self, same]
      rfl
    obtain ⟨⟨printed, returned⟩, newer, logged, boot⟩ :=
      executeAll_serves (fun _ present => present) faultless all (reachable.step stepped) waits ran
    rw [concludes.ok, Dialogue.prepend_done] at returned
    refine ⟨⟨_, returned⟩, newer ++ [_], by rw [logged, List.append_assoc]; rfl,
      fun entry present => ?_⟩
    rcases List.mem_append.mp present with later | first
    · exact boot entry later
    · rw [List.mem_singleton.mp first]
  · contradiction

/-! ## The seeded account -/

/-- On a complete database the seeded account alone has its name. -/
theorem Database.Complete.admin {database : Database} (complete : database.Complete) :
    ∃ user ∈ database.rows.users, user.IsSeed ∧
      ∀ other ∈ database.rows.users, collates other.username "admin" = true → other = user := by
  obtain ⟨user, stored, seed⟩ := complete.seeded
  refine ⟨user, stored, seed, fun other known taken => ?_⟩
  have named : user.username = "admin" := by rw [seed, adminUser]
  exact database.user_unique known stored (.inr (by rwa [named]))

/-- Nobody registers under the name of the seeded account. -/
theorem admin_refused {system next : System app} (reachable : system.Reachable)
    {event : Event app} {entry : Entry app} (stepped : system.step event = some next)
    (logged : next.log = entry :: system.log) {username passwordHash name role : String}
    {choice : Choice} {answer : Answer (.insertUser username passwordHash name role)}
    (action : entry.action = .served (.insertUser username passwordHash name role) choice answer)
    (taken : collates username "admin" = true) : ∃ exception, answer = .error exception := by
  have did := (good_of_reachable reachable).stepped_entry rules_sound stepped logged
  obtain ⟨ready, permit, served, _⟩ := did.of_served action
  cases answer with
  | error exception => exact ⟨exception, rfl⟩
  | ok done =>
    have menu : entry.loop ≠ .boot := by
      rw [permit.1]
      simp
    obtain ⟨user, stored, seed, _⟩ := (ready.complete menu).admin
    have named : user.username = "admin" := by rw [seed, adminUser]
    obtain ⟨change, _⟩ := serve_written served
    generalize written : next.store.rows = rows at change
    cases change with
    | nothing quiet => contradiction
    | user _ _ _ _ parsed _ =>
      have apart := Database.fresh_user written user stored
      refine absurd (.inr ?_) apart
      rw [named]
      exact Platform.collates_equivalence.symm taken

/-- A startup changes no row but for adding the seeded account where nobody has its name, and
changes nothing on a complete database. One that is not cut short leaves a complete database; its
statements never fail but for the server's own reasons; and whenever a process is at a menu, the
seeded account is there and alone has its name. -/
theorem startup_safe {system : System app} (reachable : system.Reachable) :
    (∀ event next entry, system.step event = some next → next.log = entry :: system.log →
      entry.loop = .boot → next.store.rows = system.store.rows ∨
        (∀ user ∈ system.store.rows.users, collates user.username "admin" = false) ∧
          ∃ id, next.store.rows = system.store.rows.addUser (adminUser id (sha256 "admin123"))) ∧
    (∀ (process : Nat) (choices : List Choice) last, (∀ choice ∈ choices, choice.fault = none) →
      choices.length = startupStatements.length →
      system.run (.start process :: choices.map (.serve process)) = some last →
        (∃ printed, last.process process = some ⟨.boot, .done printed (some .mainMenu)⟩) ∧
        last.store.Complete ∧
        (system.store.Complete → last.store.rows = system.store.rows)) ∧
    (∀ event next entry stmt (choice : Choice) answer, system.step event = some next →
      next.log = entry :: system.log → entry.action = .served stmt choice answer →
      stmt ∈ startupStatements → choice.fault = none → ∃ result, answer = .ok result) ∧
    ((∃ process loop rest, system.process process = some ⟨loop, rest⟩ ∧ loop ≠ .boot) →
      system.store.Complete ∧
      (∃ user ∈ system.store.rows.users, user.IsSeed ∧
        ∀ other ∈ system.store.rows.users,
          collates other.username "admin" = true → other = user) ∧
      ∀ event next entry username passwordHash name role choice answer,
        system.step event = some next → next.log = entry :: system.log →
        entry.action = .served (.insertUser username passwordHash name role) choice answer →
        collates username "admin" = true → ∃ exception, answer = .error exception) := by
  have good := good_of_reachable reachable
  refine ⟨fun event next entry stepped logged boot => boot_step reachable stepped logged boot,
    fun process choices last faultless all ran => ?_,
    fun event next entry stmt choice answer stepped logged action present fault => ?_,
    fun ⟨process, loop, rest, runs, menu⟩ => ?_⟩
  · obtain ⟨⟨printed, returned⟩, newer, logged, boot⟩ :=
      startup_completes reachable faultless all ran
    have ready := (good_of_reachable (reachable.run ran)).returned rules_sound returned
    refine ⟨⟨printed, returned⟩, ready.complete (by simp), fun complete => ?_⟩
    obtain ⟨user, stored, seed, _⟩ := complete.admin
    have taken : collates user.username "admin" = true := by
      rw [seed, adminUser]
      exact Platform.collates_equivalence.refl "admin"
    exact boot_run reachable ran ⟨user, stored, taken⟩ logged boot
  · have did := good.stepped_entry rules_sound stepped logged
    obtain ⟨_, permit, served, _⟩ := did.of_served action
    exact startup_ok permit present fault served
  · have complete := (good.ready process loop rest runs).complete menu
    exact ⟨complete, complete.admin, fun event next entry username passwordHash name role choice
      answer stepped logged action taken => admin_refused reachable stepped logged action taken⟩

end

section

attribute [local instance] latin1

set_option maxRecDepth 10000 in
/-- While Cara is at her menu, the seeded account alone is called `admin`. -/
theorem startup_safe_candidacy : ∃ system, (System.initial app).run candidacy = some system ∧
    ∃ user ∈ system.store.rows.users, user.IsSeed ∧
      ∀ other ∈ system.store.rows.users, collates other.username "admin" = true → other = user := by
  have result : ((System.initial app).run candidacy).map
      (fun system => (system.process 0).map Process.loop) =
        some (some (.candidateMenu 2 "cara")) := by
    decide +kernel
  obtain ⟨system, ran, runs⟩ := Option.map_eq_some_iff.mp result
  obtain ⟨⟨loop, rest⟩, runs, rfl⟩ := Option.map_eq_some_iff.mp runs
  exact ⟨system, ran, ((startup_safe ⟨candidacy, ran⟩).2.2.2 ⟨0, _, rest, runs, by simp⟩).2.1⟩

end

end OnlineVoting
