import OnlineVoting.Applications
import OnlineVoting.Continuations

/-!
# Registration and login

A registration that is reported as a success is in the table from then on, under the identifier
it got. A login compares its two lines with the rows of the table: at most one row has the
username, so the session that opens is that of the one registration, and opens exactly if the
digests are equal.
-/
namespace OnlineVoting

open Interleaving

section

variable [Platform]

/-! ## Registered users -/

/-- The message of a successful registration. -/
def registered : Output := .println "Registered successfully! You can now log in.\n"

omit [Platform] in
/-- Only the insertion of a user reports a registration. -/
theorem insertUser_of_registered [Platform] {stmt : Stmt}
    (message : successMessage stmt = some registered) :
    ∃ username passwordHash name role, stmt = .insertUser username passwordHash name role := by
  cases stmt with
  | insertUser username passwordHash name role => exact ⟨_, _, _, _, rfl⟩
  | insertProfile table _ _ => cases table <;> simp [successMessage, registered] at message
  | updateStatus _ status _ =>
    cases status <;> simp [successMessage, registered, Status.label] at message
  | _ => simp [successMessage, registered] at message

/-- A step that reports a registration stores the user it registers. -/
theorem registers_of_reported {system next : System app} {entry : Entry app}
    (stepped : rules.Stepped system next entry) (reported : registered ∈ entry.printed) :
    ∃ user ∈ next.store.rows.users, Registers user entry system.log := by
  have success : registered.isSuccess = true := by
    simp [registered, Output.isSuccess, successTexts]
  cases stepped with
  | unserved _ _ other prints =>
    have confirmed := (prints.announces.mem_iff success).mp reported
    unfold confirmation at confirmed
    split at confirmed
    · exact absurd ‹_› (other _ _ _)
    · contradiction
  | served _ _ permit served prints =>
    have confirmed := (prints.announces.mem_iff success).mp reported
    simp only [confirmation] at confirmed
    split at confirmed
    · rename_i done
      obtain ⟨username, passwordHash, name, role, rfl⟩ := insertUser_of_registered confirmed
      obtain ⟨change, _⟩ := serve_written served
      generalize written : next.store.rows = rows at change
      cases change with
      | nothing quiet =>
        rw [quiet] at done
        contradiction
      | user _ _ _ _ parsed named =>
        refine ⟨_, List.mem_append_right _ (List.mem_singleton.mpr rfl), ?_, reported,
          permit.2 _ parsed named⟩
        exact ⟨_, _, _, _, _, rfl, rfl⟩
    · contradiction

/-- Every registration that was reported is stored. -/
theorem registered_stored {system : System app} (reachable : system.Reachable)
    {newer older : List (Entry app)} {entry : Entry app}
    (logged : system.log = newer ++ entry :: older) (reported : registered ∈ entry.printed) :
    ∃ user ∈ system.store.rows.users, Registers user entry older := by
  let kept (state : System app) : Prop := ∀ newer older entry,
    state.log = newer ++ entry :: older → registered ∈ entry.printed →
      ∃ user ∈ state.store.rows.users, Registers user entry older
  have start : kept (System.initial app) := by
    intro newer _ _ logged
    simp [System.initial] at logged
  have keeps {state next : System app} {event : Event app} {newest : Entry app}
      (good : rules.Good state) (holds : kept state) (stepped : state.step event = some next)
      (did : rules.Stepped state next newest) : kept next := by
    intro newer older entry logged reported
    have evolves := (good.evolves rules_sound stepped).toEvolves
    rw [did.logged] at logged
    cases newer with
    | nil =>
      obtain ⟨rfl, rfl⟩ := List.cons.inj logged
      exact registers_of_reported did reported
    | cons first newer =>
      obtain ⟨user, stored, registers⟩ :=
        holds newer older entry (List.cons.inj logged).2 reported
      exact ⟨user, evolves.users user stored, registers⟩
  have all : kept system := rules_sound.reachable_keeps start keeps reachable
  exact all newer older entry logged reported

/-! ## The answer of the login query -/

/-- At most one user has a username. -/
theorem Database.username_countP_le_one (database : Database) (username : String) :
    (database.rows.users.countP fun user => collates user.username username) ≤ 1 :=
  Relational.Table.rowsOf_countP_le_one _ _ fun _ _ first second => .inr
    (Platform.collates_equivalence.trans first (Platform.collates_equivalence.symm second))

/-- A login with the username of a user finds that user if the digests compare equal, and else
finds nobody. -/
theorem Database.login_known (database : Database) (scan : Nat → Nat) {user : User}
    (stored : user ∈ database.rows.users) {username : String} (passwordHash : String)
    (same : collates user.username username = true) :
    database.rows.login scan username passwordHash =
      if collates user.passwordHash passwordHash then [⟨user.id, user.name, user.role⟩] else [] := by
  have alone : database.rows.users.filter (fun other => collates other.username username) =
      [user] :=
    Relational.Table.rowsOf_filter (fun _ _ first second => .inr
      (Platform.collates_equivalence.trans first (Platform.collates_equivalence.symm second)))
      stored same
  have matched : database.rows.loginMatches username passwordHash =
      [user].filter fun other => collates other.passwordHash passwordHash := by
    rw [← alone, List.filter_filter]
    exact List.filter_congr fun _ _ => Bool.and_comm _ _
  rw [Rows.login, matched]
  cases equal : collates user.passwordHash passwordHash <;> simp [Rows.scanned, equal]

/-- A login with the username of nobody finds nobody. -/
theorem Rows.login_unknown {rows : Rows} (scan : Nat → Nat) {username : String}
    (passwordHash : String)
    (unknown : ∀ user ∈ rows.users, collates user.username username = false) :
    rows.login scan username passwordHash = [] := by
  apply List.eq_nil_iff_forall_not_mem.mpr
  intro row found
  obtain ⟨user, stored, same, _⟩ := mem_login.mp found
  rw [unknown user stored] at same
  contradiction

/-! ## Sessions -/

omit [Platform] in
/-- The menu of a role is a session of that role. -/
theorem Role.session_menu (role : Role) (id : Nat) (username : String) :
    (role.menu id username).session = some (id, role) := by
  cases role <;> rfl

omit [Platform] in
/-- A login opens the session of the first row it is answered. -/
theorem session_enteredLoop (username : String) (rows : List LoginRow) :
    (enteredLoop username (.ok rows)).session = rows.head?.map fun row => (row.id, row.role) := by
  cases rows with
  | nil => rfl
  | cons row rows => exact row.role.session_menu row.id username

/-- When its query is served, a login returns with this loop, and the process enters it next. -/
def LogsIn (system : System app) (process : Nat) (choice : Choice) (entered : Loop) : Prop :=
  ∃ later opened, system.step (.serve process choice) = some later ∧
    later.step (.turn process) = some opened ∧
    opened.process process = some ⟨entered, entered.body⟩

/-- A login that has sent its query is answered, and enters the loop of the answer. -/
theorem login_step {system : System app} (reachable : system.Reachable) {process : Nat}
    {username passwordHash : String}
    (requests : system.requested process = some (.selectLogin username passwordHash))
    {choice : Choice} (fault : choice.fault = none) :
    LogsIn system process choice (enteredLoop username
      (.ok (system.store.rows.login choice.scan username passwordHash))) := by
  let answer : Answer (.selectLogin username passwordHash) :=
    .ok (system.store.rows.login choice.scan username passwordHash)
  obtain ⟨loop, printed, next, waits, stepped⟩ := query_step reachable requests
    (by simp [connectStatements, setupStatements]) fault rfl
  obtain ⟨lines, goes⟩ := (asks_of_reachable reachable waits).2.1 answer
  have returned : (system.advance process system.store loop
      (.served (.selectLogin username passwordHash) choice answer)
      (some (next answer))).process process =
        some ⟨loop, .done lines (some (enteredLoop username answer))⟩ := by
    rw [System.advance_self, goes, Option.map_some]
  exact ⟨_, _, stepped, System.step_turn returned, System.advance_self _ _ _ _ _ _⟩

/-- A login with two typed lines opens the session of the one registration that was reported for
the username, exactly if the digests of the passwords are equal; and none for an unknown
username. -/
theorem register_then_login {system : System app} (reachable : system.Reachable) {process : Nat}
    {username passwordHash : String}
    (requests : system.requested process = some (.selectLogin username passwordHash))
    {choice : Choice} (fault : choice.fault = none) :
    ∃ password₂ username₂ rest entered,
      linesOf process system.log = password₂ :: username₂ :: rest ∧
      LogsIn system process choice entered ∧
      (∀ newer entry older, system.log = newer ++ entry :: older → registered ∈ entry.printed →
        ∃ user, Registers user entry older ∧ ∀ role password username name lines,
          linesOf entry.process older = role :: password :: username :: name :: lines →
            collates (trim username) (trim username₂) = true →
              entered.session = if sha256 (trim password₂) = sha256 (trim password)
                then some (user.id, user.role) else none) ∧
      ((∀ user ∈ system.store.rows.users, collates user.username (trim username₂) = false) →
        entered.session = none) ∧
      (∀ username, (system.store.rows.users.countP fun user =>
        collates user.username username) ≤ 1) ∧
      ∀ entry ∈ system.log, unknownRole ∉ entry.printed := by
  have good := good_of_reachable reachable
  obtain ⟨loop, printed, next, waits⟩ := System.waits_of_requested requests
  obtain ⟨_, password₂, username₂, rest, typed, rfl, rfl⟩ := good.permit rules_sound waits
  refine ⟨password₂, username₂, rest, _, typed, login_step reachable requests fault,
    fun newer entry older logged reported => ?_, fun unknown => ?_,
    system.store.username_countP_le_one, fun entry present => (good.prints entry present).known⟩
  · obtain ⟨user, stored, registers⟩ := registered_stored reachable logged reported
    refine ⟨user, registers, fun role password username name lines entered same => ?_⟩
    obtain ⟨_, _, _, _, _, _, _, there, named, hashed, _⟩ := registers
    have both := entered.symm.trans there
    simp only [List.cons.injEq] at both
    obtain ⟨_, rfl, rfl, _⟩ := both
    rw [← named] at same
    have equal : collates user.passwordHash (sha256 (trim password₂)) = true ↔
        sha256 (trim password₂) = sha256 (trim password) := by
      rw [hashed, collates_sha256, eq_comm]
    rw [session_enteredLoop, system.store.login_known choice.scan stored _ same]
    split <;> rename_i compared <;> rw [equal] at compared <;> simp [compared]
  · rw [session_enteredLoop, Rows.login_unknown choice.scan _ unknown]
    rfl

end

/-! ## A login -/

section

attribute [local instance] latin1

/-- Cara registers. -/
def registration : List (Event app) :=
  launching 0 1 ++ registering 0 2 "Cara" "cara" "secret" "candidate"

/-- Cara logs in, with her username in capitals and a blank after her password. -/
def attempt : List (Event app) := typing 0 ["1", "CARA", "secret "]

set_option maxRecDepth 10000 in
/-- After her registration, Cara's login opens a session of the candidate that she registered. -/
theorem register_then_login_cara : ∃ system newer entry older entered,
    (System.initial app).run (registration ++ attempt) = some system ∧
      system.log = newer ++ entry :: older ∧
      LogsIn system 0 ⟨none, 0, 0, fun id => id, 0, 0⟩ entered ∧
      ∃ user, Registers user entry older ∧ entered.session = some (user.id, user.role) := by
  have result : ((System.initial app).run (registration ++ attempt)).map (fun system =>
      (decide (system.requested 0 = some (.selectLogin "CARA" (sha256 "secret"))),
        (linesOf 0 system.log).take 2, system.log[4]?.map fun entry =>
          (entry.process, decide (registered ∈ entry.printed)), linesOf 0 (system.log.drop 5))) =
      some (true, ["secret ", "CARA"], some (0, true),
        ["candidate", "secret", "cara", "Cara", "2"]) := by
    decide +kernel
  obtain ⟨system, ran, seen⟩ := Option.map_eq_some_iff.mp result
  obtain ⟨requests, seen⟩ := Prod.mk.inj seen
  obtain ⟨typed, seen⟩ := Prod.mk.inj seen
  obtain ⟨found, entered⟩ := Prod.mk.inj seen
  obtain ⟨entry, found, seen⟩ := Option.map_eq_some_iff.mp found
  obtain ⟨own, reported⟩ := Prod.mk.inj seen
  have logged : system.log = system.log.take 4 ++ entry :: system.log.drop 5 := by
    obtain ⟨inside, rfl⟩ := List.getElem?_eq_some_iff.mp found
    rw [← List.drop_eq_getElem_cons inside, List.take_append_drop]
  obtain ⟨password, username, rest, loop, lines, opens, session, _⟩ :=
    @register_then_login _ system ⟨registration ++ attempt, ran⟩ 0 "CARA" (sha256 "secret")
      (of_decide_eq_true requests) ⟨none, 0, 0, fun id => id, 0, 0⟩ rfl
  rw [lines] at typed
  simp only [List.take_succ_cons, List.take_zero, List.cons.injEq, and_true] at typed
  obtain ⟨rfl, rfl⟩ := typed
  obtain ⟨user, registers, same⟩ := session _ _ _ logged (of_decide_eq_true reported)
  refine ⟨system, _, entry, _, loop, ran, logged, opens, user, registers, ?_⟩
  rw [same _ _ _ _ _ (by rw [own]; exact entered) (by decide +kernel), if_pos (by decide +kernel)]

end

end OnlineVoting
