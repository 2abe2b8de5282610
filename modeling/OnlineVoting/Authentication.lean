import OnlineVoting.Ballots
import OnlineVoting.Credentials

/-!
# Whoever acts for an account has logged in to it

A menu is entered by a login alone: it is the console itself that typed a username and a password,
whose digest is the one stored when the account was registered, and it has not left the menu since.
So every row that carries an account was written by a console that knew its password.
-/
namespace OnlineVoting

open Interleaving

/-! ## How a round enters a session -/

/-- The rest after the answer of a login, which goes on with the menu of the account. -/
def EntersBy : (stmt : Stmt) → Answer stmt → Dialogue console (Option Loop) → Prop
  | .selectLogin username _, answer, rest =>
    ∃ printed, rest = .done printed (some (enteredLoop username answer))
  | _, _, _ => False

/-- A round of a loop goes on with another session only after the answer of a login. -/
def Opening (loop : Loop) : Dialogue console (Option Loop) → Prop
  | .done _ next => ∀ entered, next = some entered → entered.session ≠ none → entered = loop
  | .read _ next => ∀ line, Opening loop (next line)
  | .ask _ stmt next => ∀ answer, Opening loop (next answer) ∨ EntersBy stmt answer (next answer)

/-- What was printed before does not matter. -/
theorem Opening.prepend {loop : Loop} {rest : Dialogue console (Option Loop)}
    (opening : Opening loop rest) (printed : List Output) : Opening loop (rest.prepend printed) := by
  cases rest with
  | done _ _ =>
    rw [Dialogue.prepend_done]
    exact opening
  | read _ _ =>
    rw [Dialogue.prepend_read]
    exact opening
  | ask _ _ _ =>
    rw [Dialogue.prepend_ask]
    exact opening

/-- A method returns to the loop that called it. -/
theorem Opening.method (method : Dialogue console Unit) {loop : Loop} {next : Option Loop}
    (stays : ∀ entered, next = some entered → entered.session ≠ none → entered = loop) :
    Opening loop (method >>= fun _ => .done [] next) := by
  induction method with
  | done printed _ =>
    rw [Dialogue.done_bind, Dialogue.prepend_done]
    exact stays
  | read _ more ih =>
    rw [Dialogue.read_bind]
    exact ih
  | ask _ _ more ih =>
    rw [Dialogue.ask_bind]
    exact fun answer => .inl (ih answer)

/-- A loop goes on with itself. -/
theorem stays_loop (loop entered : Loop) (same : some loop = some entered)
    (_ : entered.session ≠ none) : entered = loop := (Option.some.inj same).symm

/-- No menu is left for a session. -/
theorem stays_main (loop entered : Loop) (same : some .mainMenu = some entered)
    (session : entered.session ≠ none) : entered = loop := by
  obtain rfl := Option.some.inj same
  contradiction

/-- The startup enters no session. -/
theorem startup_opening [Platform] : Opening .boot startup := by
  have statements (todo : List Stmt) (printed : List Output)
      {next : Except SqlException Unit → Dialogue console (Option Loop)}
      (ends : ∀ result, Opening .boot (next result)) :
      Opening .boot ((executeAll todo >>= next).prepend printed) := by
    induction todo generalizing printed with
    | nil =>
      rw [executeAll_nil_bind]
      exact (ends (.ok ())).prepend printed
    | cons stmt todo ih =>
      rw [executeAll_cons_bind, Dialogue.prepend_ask]
      intro answer
      cases answer with
      | ok _ => exact .inl (ih [])
      | error exception => exact .inl (ends (.error exception))
  obtain ⟨printed, next, concludes, _, same⟩ := startup_eq
  rw [same]
  refine statements _ printed fun result => ?_
  cases result with
  | ok _ =>
    rw [concludes.ok]
    exact stays_main .boot
  | error exception =>
    rw [concludes.error]
    intro entered none
    contradiction

/-- A login enters the menu that its query finds. -/
theorem login_opening (printed : List Output) : Opening .mainMenu (login.prepend printed) := by
  have back (shown : List Output) : Opening .mainMenu (.done shown (some .mainMenu)) :=
    stays_main .mainMenu
  apply Opening.prepend
  rw [login_eq]
  intro username password answer
  cases answer with
  | error exception => exact .inl (back _)
  | ok rows =>
    cases rows with
    | nil => exact .inl (back _)
    | cons row others =>
      right
      cases role : row.role <;>
        exact ⟨_, by simp [role, Role.label, enteredLoop, Role.menu]; rfl⟩

/-- `voterMenu` stays in its menu, or leaves it. -/
theorem voterMenu_opening (id : Nat) (username : String) :
    Opening (.voterMenu id username) (voterMenu id username) := by
  rw [voterMenu_eq]
  intro line
  beta_reduce
  split
  · exact .method _ (stays_loop _)
  · exact .method _ (stays_loop _)
  · exact .method _ (stays_loop _)
  · exact .method _ (stays_loop _)
  · exact .method _ (stays_loop _)
  · exact .method _ (stays_loop _)
  · exact stays_main _
  · exact stays_loop _

/-- `candidateMenu` stays in its menu, or leaves it. -/
theorem candidateMenu_opening (id : Nat) (username : String) :
    Opening (.candidateMenu id username) (candidateMenu id username) := by
  rw [candidateMenu_eq]
  intro line
  beta_reduce
  split
  · exact .method _ (stays_loop _)
  · exact .method _ (stays_loop _)
  · exact .method _ (stays_loop _)
  · exact .method _ (stays_loop _)
  · exact stays_main _
  · exact stays_loop _

section

variable [Platform]

/-- `adminMenu` stays in its menu, or leaves it. -/
theorem adminMenu_opening (id : Nat) :
    Opening (.adminMenu id) (adminMenu id) := by
  rw [adminMenu_eq]
  intro line
  beta_reduce
  split
  · exact .method _ (stays_loop _)
  · exact .method _ (stays_loop _)
  · exact .method _ (stays_loop _)
  · exact .method _ (stays_loop _)
  · exact .method _ (stays_loop _)
  · exact stays_main _
  · exact stays_loop _

/-- `officerMenu` stays in its menu, or leaves it. -/
theorem officerMenu_opening (id : Nat) :
    Opening (.officerMenu id) (officerMenu id) := by
  rw [officerMenu_eq]
  intro line
  beta_reduce
  split
  · exact .method _ (stays_loop _)
  · exact .method _ (stays_loop _)
  · exact stays_main _
  · exact stays_loop _

/-- The menu of `main` enters a session by a login alone. -/
theorem mainMenu_opening : Opening .mainMenu mainMenu := by
  rw [mainMenu_eq]
  intro line
  beta_reduce
  split
  · exact login_opening []
  · exact .method _ (stays_main _)
  · simp [Opening]
  · exact stays_main _

/-- Every round goes on with another session only after the answer of a login. -/
theorem body_opening (loop : Loop) : Opening loop loop.body := by
  cases loop with
  | boot => exact startup_opening
  | mainMenu => exact mainMenu_opening
  | adminMenu id => exact adminMenu_opening id
  | officerMenu id => exact officerMenu_opening id
  | voterMenu id username => exact voterMenu_opening id username
  | candidateMenu id username => exact candidateMenu_opening id username

/-- A round that goes on with another session has just been answered the query of a login. -/
theorem login_of_returned {system : System app} (reachable : system.Reachable) {process : Nat}
    {loop entered : Loop} {printed : List Output}
    (returned : system.process process = some ⟨loop, .done printed (some entered)⟩)
    (session : entered.session ≠ none) (other : entered ≠ loop) :
    ∃ username passwordHash choice answer shown round, roundOf process system.log =
      ⟨process, loop, .served (.selectLogin username passwordHash) choice answer, shown⟩ :: round ∧
        entered = enteredLoop username answer := by
  let holds (loop : Loop) (round : List (Entry app)) (rest : Dialogue console (Option Loop)) : Prop :=
    Opening loop rest ∨ ∃ username passwordHash choice answer shown older printed, round =
      ⟨process, loop, .served (.selectLogin username passwordHash) choice answer, shown⟩ :: older ∧
        rest = .done printed (some (enteredLoop username answer))
  have line (loop : Loop) (round : List (Entry app)) (printed : List Output)
      (next : String → Dialogue console (Option Loop)) (typed : String)
      (before : holds loop round (.read printed next)) :
      holds loop (⟨process, loop, .typed typed, (next typed).printed⟩ :: round) (next typed) := by
    rcases before with opening | ⟨_, _, _, _, _, _, _, _, impossible⟩
    · exact .inl (opening typed)
    · contradiction
  have answer (loop : Loop) (round : List (Entry app)) (printed : List Output) (stmt : Stmt)
      (next : Answer stmt → Dialogue console (Option Loop)) (choice : Choice) (answer : Answer stmt)
      (before : holds loop round (.ask printed stmt next)) :
      holds loop (⟨process, loop, .served stmt choice answer, (next answer).printed⟩ :: round)
        (next answer) := by
    rcases before with opening | ⟨_, _, _, _, _, _, _, _, impossible⟩
    · rcases opening answer with more | enters
      · exact .inl more
      · cases stmt with
        | selectLogin username passwordHash =>
          obtain ⟨shown, same⟩ := enters
          exact .inr ⟨_, _, _, _, _, _, _, rfl, same⟩
        | _ => exact absurd enters id
    · contradiction
  have now : holds loop (roundOf process system.log) (.done printed (some entered)) :=
    @System.Reachable.rounds _ _ process holds (fun loop => .inl (body_opening loop)) line answer
      _ reachable _ _ returned
  rcases now with opening | ⟨username, passwordHash, choice, answer, shown, round, _, same, rest⟩
  · exact absurd (opening entered rfl session) other
  · refine ⟨username, passwordHash, choice, answer, shown, round, same, ?_⟩
    injection rest with _ value
    exact Option.some.inj value

/-! ## Logins in the log -/

/-- The step is the answer of a login with the lines typed before it: their password has the digest
stored for the user. -/
structure Verifies (user : User) (username : String) (entry : Entry app)
    (older : List (Entry app)) : Prop where
  /-- The username and the password are the lines typed last. -/
  lines : ∃ password typed rest, linesOf entry.process older = password :: typed :: rest ∧
    username = trim typed ∧ user.passwordHash = sha256 (trim password)
  /-- The username is that of the user. -/
  named : collates user.username username = true
  /-- The query found the user. -/
  found : ∃ passwordHash choice others, entry.action = .served (.selectLogin username passwordHash)
    choice (.ok (⟨user.id, user.name, user.role⟩ :: others))
  /-- The user was registered before, or is the seeded account. -/
  known : user.IsSeed ∨ Occurs (Registers user) older

/-- The digest stored for a user is that of a password. -/
theorem hash_of_recorded {user : User} {log : List (Entry app)}
    (recorded : user.IsSeed ∨ Occurs (Registers user) log) :
    ∃ password, user.passwordHash = sha256 password := by
  rcases recorded with seed | ⟨_, _, _, _, _, _, _, password, _, _, _, _, _, hash, _⟩
  · exact ⟨"admin123", by rw [seed]; rfl⟩
  · exact ⟨trim password, hash⟩

/-- Every login that found a user verified its password. -/
theorem login_verifies {system : System app} (reachable : system.Reachable)
    {newer older : List (Entry app)} {entry : Entry app}
    (logged : system.log = newer ++ entry :: older) {username passwordHash : String}
    {choice : Choice} {row : LoginRow} {others : List LoginRow}
    (action : entry.action =
      .served (.selectLogin username passwordHash) choice (.ok (row :: others))) :
    ∃ user ∈ system.store.rows.users, (user.id, user.role) = (row.id, row.role) ∧
      Verifies user username entry older := by
  let kept (state : System app) : Prop := ∀ newer older entry username passwordHash choice row others,
    state.log = newer ++ entry :: older → entry.action =
      .served (.selectLogin username passwordHash) choice (.ok (row :: others)) →
        ∃ user ∈ state.store.rows.users, (user.id, user.role) = (row.id, row.role) ∧
          Verifies user username entry older
  have start : kept (System.initial app) := by
    intro newer _ _ _ _ _ _ _ logged
    simp [System.initial] at logged
  have keeps {state next : System app} {event : Event app} {newest : Entry app}
      (good : rules.Good state) (holds : kept state) (stepped : state.step event = some next)
      (did : rules.Stepped state next newest) : kept next := by
    intro newer older entry username passwordHash choice row others logged action
    have evolves := (good.evolves rules_sound stepped).toEvolves
    rw [did.logged] at logged
    cases newer with
    | nil =>
      obtain ⟨rfl, rfl⟩ := List.cons.inj logged
      obtain ⟨_, permit, served, _⟩ := did.of_served action
      obtain ⟨_, password, typed, rest, lines, name, hash⟩ := permit
      have answered := Database.query_ok (serve_ok served)
      have present : row ∈ state.store.rows.login choice.scan username passwordHash := by
        rw [← answered]
        exact List.mem_cons_self
      obtain ⟨user, stored, same, equal, rfl⟩ := mem_login.mp present
      have recorded := good.invariant.recorded.users user stored
      obtain ⟨secret, digest⟩ := hash_of_recorded recorded
      rw [digest, hash, collates_sha256] at equal
      refine ⟨user, evolves.users user stored, rfl, ⟨password, typed, rest, lines, name, ?_⟩, same,
        ⟨passwordHash, choice, others, action⟩, recorded⟩
      rw [digest, equal]
    | cons first newer =>
      obtain ⟨user, stored, verified⟩ := holds newer older entry username passwordHash choice row
        others (List.cons.inj logged).2 action
      exact ⟨user, evolves.users user stored, verified⟩
  have all : kept system := rules_sound.reachable_keeps start keeps reachable
  exact all newer older entry username passwordHash choice row others logged action

/-! ## Authenticated sessions -/

/-- The process logged in to the account of the menu, and has been in this menu since. -/
def Authenticated (process : Nat) (loop : Loop) (rows : Rows) (log : List (Entry app)) : Prop :=
  ∃ newer entry older user username, log = newer ++ entry :: older ∧ entry.process = process ∧
    user ∈ rows.users ∧ Verifies user username entry older ∧
    loop = user.role.menu user.id username ∧
    ∀ later ∈ newer, later.process = process → later.loop = loop

/-- A session stays authenticated as long as its process is in its menu. -/
theorem Authenticated.cons {process : Nat} {loop : Loop} {rows later : Rows}
    {log : List (Entry app)} (authenticated : Authenticated process loop rows log)
    (users : ∀ user ∈ rows.users, user ∈ later.users) (entry : Entry app)
    (stays : entry.process = process → entry.loop = loop) :
    Authenticated process loop later (entry :: log) := by
  obtain ⟨newer, login, older, user, username, split, own, stored, verifies, menu, since⟩ :=
    authenticated
  refine ⟨entry :: newer, login, older, user, username, by rw [split, List.cons_append], own,
    users user stored, verifies, menu, fun other present => ?_⟩
  rcases List.mem_cons.mp present with rfl | inside
  · exact stays
  · exact since other inside

/-- A round that has returned a session has authenticated it. -/
theorem authenticated_of_returned {system : System app} (reachable : system.Reachable)
    {process : Nat} {loop entered : Loop} {printed : List Output}
    (returned : system.process process = some ⟨loop, .done printed (some entered)⟩)
    (session : entered.session ≠ none) (other : entered ≠ loop) :
    Authenticated process entered system.store.rows system.log := by
  obtain ⟨username, passwordHash, choice, answer, shown, round, newest, same⟩ :=
    login_of_returned reachable returned session other
  obtain ⟨newer, older, split, others⟩ := roundOf_newest newest
  cases answer with
  | error exception =>
    subst same
    contradiction
  | ok rows =>
    cases rows with
    | nil =>
      subst same
      contradiction
    | cons row rest =>
      obtain ⟨user, stored, account, verifies⟩ := login_verifies reachable split rfl
      obtain ⟨id, role⟩ := Prod.mk.inj account
      refine ⟨newer, _, older, user, username, split, rfl, stored, verifies, ?_, ?_⟩
      · rw [same, id, role]
        rfl
      · exact fun later present own => absurd own (others later present)

/-- Every session is authenticated. -/
theorem session_authenticated {system : System app} (reachable : system.Reachable) {process : Nat}
    {loop : Loop} {rest : Dialogue console (Option Loop)}
    (runs : system.process process = some ⟨loop, rest⟩) (session : loop.session ≠ none) :
    Authenticated process loop system.store.rows system.log := by
  let kept (state : System app) : Prop := ∀ process loop rest,
    state.process process = some ⟨loop, rest⟩ → loop.session ≠ none →
      Authenticated process loop state.store.rows state.log
  have start : kept (System.initial app) := by
    intro process loop rest runs
    simp [System.initial] at runs
  have keeps {state next : System app} {event : Event app} (reached : state.Reachable)
      (before : kept state) (stepped : state.step event = some next) : kept next := by
    have evolves := ((good_of_reachable reached).evolves rules_sound stepped).toEvolves
    obtain ⟨entry, logged, actor⟩ := System.step_log stepped
    intro process loop rest runs session
    rw [logged]
    by_cases own : event.actor = process
    · obtain ⟨here, boot | ⟨rest', ran⟩ | ⟨last, printed, returned⟩⟩ :=
        System.step_own stepped logged own runs
      · subst boot
        contradiction
      · exact (before _ _ _ ran session).cons evolves.users entry fun _ => here
      · by_cases same : loop = last
        · subst same
          exact (before _ _ _ returned session).cons evolves.users entry fun _ => here
        · have entered := authenticated_of_returned reached returned session same
          exact entered.cons evolves.users entry fun _ => here
    · have rests : next.process process = state.process process := by
        cases System.step_move stepped <;> exact System.advance_other _ (Ne.symm own) _ _ _ _
      rw [rests] at runs
      apply (before process loop rest runs session).cons evolves.users entry
      intro mine
      exact absurd (actor.symm.trans mine) own
  have all : kept system := reachable.keeps start keeps
  exact all process loop rest runs session

/-! ## What is written for an account -/

/-- The account that a statement writes a row for. -/
def Stmt.account : Stmt → Option Nat
  | .insertProfile _ userId _ => some userId
  | .insertVote voterId _ => some voterId
  | .insertForumPost userId _ => some userId
  | _ => none

/-- A statement for an account is sent by a session of it. -/
theorem session_of_account {loop : Loop} {process : Nat} {world : World app} {stmt : Stmt}
    (permit : Permit loop process world stmt) {id : Nat} (account : stmt.account = some id) :
    ∃ role, loop.session = some (id, role) := by
  cases stmt with
  | insertProfile table userId entries =>
    obtain rfl := Option.some.inj account
    exact ⟨_, permit.1⟩
  | insertVote voterId candidateId =>
    obtain rfl := Option.some.inj account
    exact ⟨_, permit.1⟩
  | insertForumPost userId content =>
    obtain rfl := Option.some.inj account
    exact permit.1.elim (fun session => ⟨_, session⟩) fun session => ⟨_, session⟩
  | _ => contradiction

/-- A step that sent a statement for an account was one of a session of this account, authenticated
by then. -/
theorem statement_authenticated {system : System app} (reachable : system.Reachable)
    {newer older : List (Entry app)} {entry : Entry app}
    (logged : system.log = newer ++ entry :: older) {stmt : Stmt} {choice : Choice}
    {answer : Answer stmt} (action : entry.action = .served stmt choice answer) {id : Nat}
    (account : stmt.account = some id) :
    ∃ role, entry.loop.session = some (id, role) ∧
      Authenticated entry.process entry.loop system.store.rows (entry :: older) := by
  let kept (state : System app) : Prop := ∀ newer older entry stmt choice (answer : Answer stmt) id,
    state.log = newer ++ entry :: older → entry.action = .served stmt choice answer →
      stmt.account = some id → ∃ role, entry.loop.session = some (id, role) ∧
        Authenticated entry.process entry.loop state.store.rows (entry :: older)
  have start : kept (System.initial app) := by
    intro newer _ _ _ _ _ _ logged
    simp [System.initial] at logged
  have keeps {state next : System app} {event : Event app} (reached : state.Reachable)
      (before : kept state) (stepped : state.step event = some next) : kept next := by
    intro newer older entry stmt choice answer id logged action account
    have good := good_of_reachable reached
    have evolves := (good.evolves rules_sound stepped).toEvolves
    obtain ⟨newest, did⟩ := good.stepped rules_sound stepped
    have grown := did.logged
    rw [grown] at logged
    cases newer with
    | nil =>
      obtain ⟨rfl, rfl⟩ := List.cons.inj logged
      obtain ⟨_, permit, _, _⟩ := did.of_served action
      obtain ⟨role, session⟩ := session_of_account permit account
      obtain ⟨rest, runs⟩ := System.step_served stepped grown action
      have authenticated := session_authenticated (reached.step stepped) runs (by simp [session])
      rw [grown] at authenticated
      exact ⟨role, session, authenticated⟩
    | cons first newer =>
      obtain ⟨role, session, login, between, earlier, user, username, split, own, stored, rest⟩ :=
        before newer older entry stmt choice answer id (List.cons.inj logged).2 action account
      exact ⟨role, session, login, between, earlier, user, username, split, own,
        evolves.users user stored, rest⟩
  have all : kept system := reachable.keeps start keeps
  exact all newer older entry stmt choice answer id logged action account

/-- What was written for an account stands in the log, with the statement that wrote it. -/
structure Inserted (rows : Rows) (log : List (Entry app)) : Prop where
  /-- Votes are inserted. -/
  votes : ∀ vote ∈ rows.votes, Occurs (fun entry _ => ∃ choice, entry.action =
    .served (.insertVote vote.voterId vote.candidateId) choice (.ok ())) log
  /-- Applications are inserted. -/
  profiles : ∀ table, ∀ profile ∈ rows.profiles table, Occurs (fun entry _ => ∃ choice, entry.action =
    .served (.insertProfile table profile.userId profile.entries) choice (.ok ())) log
  /-- Posts are inserted. -/
  forumPosts : ∀ post ∈ rows.forumPosts, Occurs (fun entry _ => ∃ choice, entry.action =
    .served (.insertForumPost post.userId post.content) choice (.ok ())) log

/-- Every row that carries an account was inserted by a step of the log. -/
theorem inserted_of_reachable {system : System app} (reachable : system.Reachable) :
    Inserted system.store.rows system.log := by
  let kept (state : System app) : Prop := Inserted state.store.rows state.log
  have start : kept (System.initial app) := by
    constructor <;> simp [System.initial, app, Database.rows, Database.absent]
  have keeps {state next : System app} {event : Event app} {entry : Entry app}
      (_ : rules.Good state) (before : kept state) (_ : state.step event = some next)
      (did : rules.Stepped state next entry) : kept next := by
    have older : Inserted state.store.rows next.log := by
      rw [did.logged]
      exact ⟨fun vote stored => (before.votes vote stored).cons entry,
        fun table profile stored => (before.profiles table profile stored).cons entry,
        fun post stored => (before.forumPosts post stored).cons entry⟩
    show Inserted next.store.rows next.log
    cases did with
    | unserved _ same _ _ =>
      rw [same]
      exact older
    | served logged _ _ served _ =>
      obtain ⟨change, _⟩ := serve_written served
      generalize next.store.rows = rows at change
      cases change with
      | nothing | seed | user => exact ⟨older.votes, older.profiles, older.forumPosts⟩
      | vote voterId candidateId =>
        refine ⟨fun vote present => ?_, older.profiles, older.forumPosts⟩
        rcases List.mem_append.mp present with old | new
        · exact older.votes vote old
        · obtain rfl := List.mem_singleton.mp new
          rw [logged]
          exact .newest ⟨_, rfl⟩
      | profile table userId entries =>
        refine ⟨older.votes, fun other found present => ?_, older.forumPosts⟩
        cases Rows.mem_addProfile present with
        | old stored => exact older.profiles other found stored
        | new =>
          rw [logged]
          exact .newest ⟨_, rfl⟩
      | status table status id found some stored =>
        refine ⟨older.votes, fun other found present => ?_, older.forumPosts⟩
        obtain ⟨old, known, _, userId, entries⟩ := Rows.origin_decideProfile present
        rw [← userId, ← entries]
        exact older.profiles other old known
      | post userId content =>
        refine ⟨older.votes, older.profiles, fun post present => ?_⟩
        rcases List.mem_append.mp present with old | new
        · exact older.forumPosts post old
        · obtain rfl := List.mem_singleton.mp new
          rw [logged]
          exact .newest ⟨_, rfl⟩
  exact rules_sound.reachable_keeps start keeps reachable

/-- A console inserted this row for an account, in a session that it had logged in to. -/
def WrittenBy (system : System app) (id : Nat) (stmt : Stmt) : Prop :=
  ∃ newer entry older choice answer role, system.log = newer ++ entry :: older ∧
    entry.action = .served stmt choice answer ∧ succeeds stmt answer = true ∧
    entry.loop.session = some (id, role) ∧
    Authenticated entry.process entry.loop system.store.rows (entry :: older)

/-- Nobody acts for an account without its password. Every menu of an account is that of a console
which typed its username and a password with the digest stored for it, and has not left the menu
since; and every vote, every application and every post was inserted by such a console, in a menu of
the account that the row carries. -/
theorem accounts_authenticated {system : System app} (reachable : system.Reachable) :
    (∀ process loop rest, system.process process = some ⟨loop, rest⟩ → loop.session ≠ none →
      Authenticated process loop system.store.rows system.log) ∧
    (∀ vote ∈ system.store.rows.votes,
      WrittenBy system vote.voterId (.insertVote vote.voterId vote.candidateId)) ∧
    (∀ table, ∀ profile ∈ system.store.rows.profiles table,
      WrittenBy system profile.userId (.insertProfile table profile.userId profile.entries)) ∧
    (∀ post ∈ system.store.rows.forumPosts,
      WrittenBy system post.userId (.insertForumPost post.userId post.content)) := by
  have inserted := inserted_of_reachable reachable
  have written (id : Nat) (stmt : Stmt) (account : stmt.account = some id) (answer : Answer stmt)
      (success : succeeds stmt answer = true)
      (occurs : Occurs (fun entry _ => ∃ choice, entry.action = .served stmt choice answer)
        system.log) : WrittenBy system id stmt := by
    obtain ⟨newer, entry, older, split, choice, action⟩ := occurs
    obtain ⟨role, session, authenticated⟩ :=
      statement_authenticated reachable split action account
    exact ⟨newer, entry, older, choice, answer, role, split, action, success, session, authenticated⟩
  refine ⟨fun process loop rest runs session => session_authenticated reachable runs session,
    fun vote stored => ?_, fun table profile stored => ?_, fun post stored => ?_⟩
  · exact written _ _ rfl (.ok ()) rfl (inserted.votes vote stored)
  · exact written _ _ rfl (.ok ()) rfl (inserted.profiles table profile stored)
  · exact written _ _ rfl (.ok ()) rfl (inserted.forumPosts post stored)

end

section

attribute [local instance] latin1

set_option maxRecDepth 10000 in
/-- Vera's vote was inserted by a console that had logged in to her account. -/
theorem accounts_authenticated_election : ∃ system, (System.initial app).run election = some system ∧
    WrittenBy system 3 (.insertVote 3 2) := by
  have result : ((System.initial app).run election).map
      (fun system => system.store.rows.votes) = some [⟨4, 3, 2, 0⟩] := by decide +kernel
  obtain ⟨system, ran, votes⟩ := Option.map_eq_some_iff.mp result
  obtain ⟨_, voted, _⟩ := accounts_authenticated ⟨election, ran⟩
  exact ⟨system, ran, voted ⟨4, 3, 2, 0⟩ (by rw [votes]; exact List.mem_cons_self)⟩

end

end OnlineVoting
