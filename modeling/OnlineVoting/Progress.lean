import OnlineVoting.Library.Progress
import OnlineVoting.Ballots
import OnlineVoting.Continuations

/-!
# No session hangs

Every method returns after a few lines and answers, whatever they are. So a round of a menu is at
most eight steps long, a startup at most nine, and whoever types nothing but the lines that log out
and exit is out after a few steps, whatever the server answers and whatever the others do.
-/
namespace OnlineVoting

open Interleaving

/-- The line that ends each loop. -/
def Loop.exit : Loop → String
  | .boot => ""
  | .mainMenu => "3"
  | .adminMenu _ => "6"
  | .officerMenu _ => "3"
  | .voterMenu _ _ => "7"
  | .candidateMenu _ _ => "5"

/-- Where a round of a loop goes on. -/
def Loop.GoesOn : Loop → Option Loop → Prop
  | .boot, next => next = none ∨ next = some .mainMenu
  | _, next => next ≠ some .boot

/-- The steps that a round of a loop may take. -/
def Loop.bound : Loop → Nat
  | .boot => 9
  | _ => 8

/-! ## Methods -/

/-- A method returns after at most so many lines and answers. -/
abbrev Ending (rest : Dialogue console Unit) (n : Nat) : Prop := rest.Bounded (fun _ => True) n

/-- A method that has returned has ended. -/
theorem ending_done (printed : List Output) (n : Nat) :
    Ending (.done printed ()) n := .done trivial n

/-- A method within a round of a menu. -/
theorem Ending.round {method : Dialogue console Unit} {n : Nat} (ends : Ending method n)
    {loop : Loop} (menu : loop ≠ .boot) :
    (method >>= fun _ => .done [] (some loop)).Bounded (fun next => next ≠ some .boot) n :=
  Dialogue.Bounded.bind_done ends fun _ _ same => menu (Option.some.inj same)

theorem applyVoterID_ending (userId : Nat) : Ending (applyVoterID userId) 4 := by
  rw [applyVoterID_eq]
  intro answer
  dsimp only
  split
  · exact ending_done _ _
  · intro constituency address answer
    dsimp only
    split <;> exact ending_done _ _
  · exact ending_done _ _

theorem applyCandidate_ending (userId : Nat) : Ending (applyCandidate userId) 5 := by
  rw [applyCandidate_eq]
  intro answer
  dsimp only
  split
  · exact ending_done _ _
  · intro party constituency manifesto answer
    dsimp only
    split <;> exact ending_done _ _
  · exact ending_done _ _

theorem viewMyVoterStatus_ending (userId : Nat) : Ending (viewMyVoterStatus userId) 1 := by
  rw [viewMyVoterStatus_eq]
  intro answer
  dsimp only
  split <;> exact ending_done _ _

theorem viewMyCandidateStatus_ending (userId : Nat) : Ending (viewMyCandidateStatus userId) 1 := by
  rw [viewMyCandidateStatus_eq]
  intro answer
  dsimp only
  split <;> exact ending_done _ _

theorem viewPendingVoters_ending : Ending viewPendingVoters 1 := by
  rw [viewPendingVoters_eq]
  exact fun answer => ending_done _ _

theorem viewPendingCandidates_ending : Ending viewPendingCandidates 1 := by
  rw [viewPendingCandidates_eq]
  exact fun answer => ending_done _ _

theorem viewApprovedCandidates_ending : Ending viewApprovedCandidates 1 := by
  rw [viewApprovedCandidates_eq]
  exact fun answer => ending_done _ _

theorem viewResults_ending : Ending viewResults 1 := by
  rw [viewResults_eq]
  exact fun answer => ending_done _ _

theorem viewForum_ending : Ending viewForum 1 := by
  rw [viewForum_eq]
  exact fun answer => ending_done _ _

theorem postForum_ending (userId : Nat) : Ending (postForum userId) 2 := by
  rw [postForum_eq]
  intro line
  dsimp only
  split
  · exact ending_done _ _
  · intro answer
    dsimp only
    split <;> exact ending_done _ _

/-- The part of `castVote` after the listing. -/
theorem chooseCandidate_ending (voterId : Nat) : Ending (chooseCandidate voterId) 4 := by
  rw [chooseCandidate_eq]
  intro line answer
  dsimp only
  split
  · split
    · intro answer
      dsimp only
      split
      · intro answer
        dsimp only
        split <;> exact ending_done _ _
      · exact ending_done _ _
      · exact ending_done _ _
    · exact ending_done _ _
  · exact ending_done _ _

theorem castVote_ending (voterId : Nat) : Ending (castVote voterId) 7 := by
  rw [castVote_eq]
  intro answer
  dsimp only
  split
  · split
    · intro answer
      dsimp only
      split
      · exact ending_done _ _
      · exact fun answer => (chooseCandidate_ending voterId).prepend _
      · exact ending_done _ _
    · exact ending_done _ _
  · exact ending_done _ _
  · exact ending_done _ _

section

variable [Platform]

theorem approveReject_ending (table : ProfileTable) : Ending (approveReject table) 4 := by
  rw [approveReject_eq]
  intro idStr action
  dsimp only
  split
  · exact ending_done _ _
  · intro answer
    dsimp only
    split
    · split
      · intro answer
        dsimp only
        split
        · split <;> exact ending_done _ _
        · exact ending_done _ _
      · exact ending_done _ _
    · exact ending_done _ _

theorem register_ending : Ending register 5 := by
  rw [register_eq]
  intro name username password role
  dsimp only
  split
  · intro answer
    dsimp only
    split
    · exact ending_done _ _
    · split <;> exact ending_done _ _
  · exact ending_done _ _

/-! ## Loops -/

-- Elaboration is slow where the bound unfolds into a method; the rules of `Dialogue.Bounded` suffice.
attribute [local irreducible] Dialogue.Bounded

omit [Platform] in
/-- A round of a menu may take more steps than its method does. -/
theorem Ending.within {method : Dialogue console Unit} {n : Nat} (ends : Ending method n)
    {loop : Loop} (menu : loop ≠ .boot) (few : n ≤ 7) :
    (method >>= fun _ => .done [] (some loop)).Bounded (fun next => next ≠ some .boot) 7 :=
  (ends.round menu).mono few

omit [Platform] in
/-- A menu that goes on after a line. -/
theorem menu_done (printed : List Output) {next : Option Loop} (menu : next ≠ some .boot) :
    @Dialogue.Bounded console _ (fun next => next ≠ some Loop.boot) (.done printed next) 7 :=
  @Dialogue.Bounded.done console _ (fun next => next ≠ some .boot) printed next menu 7

omit [Platform] in
/-- A list of statements takes as many answers as it has statements. -/
theorem executeAll_bounded {kind : Option Loop → Prop} (stmts : List Stmt)
    {next : Except SqlException Unit → Dialogue console (Option Loop)}
    (ends : ∀ result n, (next result).Bounded kind n) :
    (executeAll stmts >>= next).Bounded kind stmts.length := by
  induction stmts with
  | nil =>
    rw [executeAll_nil_bind]
    exact ends _ _
  | cons stmt rest ih =>
    rw [executeAll_cons_bind, List.length_cons]
    apply Dialogue.Bounded.ask
    intro answer
    cases answer with
    | ok _ => exact ih
    | error e => exact ends _ _

omit [Platform] in
theorem startup_bounded : startup.Bounded Loop.boot.GoesOn 9 := by
  obtain ⟨printed, next, concludes, _, same⟩ := startup_eq
  have ends (result : Except SqlException Unit) (n : Nat) :
      (next result).Bounded Loop.boot.GoesOn n := by
    cases result with
    | ok _ =>
      rw [concludes.ok]
      exact .done (.inr rfl) n
    | error e =>
      rw [concludes.error]
      exact .done (.inl rfl) n
  rw [same]
  exact (executeAll_bounded startupStatements ends).prepend printed

theorem mainMenu_bounded : mainMenu.Bounded Loop.mainMenu.GoesOn 8 := by
  rw [mainMenu_eq]
  apply Dialogue.Bounded.read
  intro line
  split
  · rw [login_eq]
    apply Dialogue.Bounded.read
    intro username
    apply Dialogue.Bounded.read
    intro password
    apply Dialogue.Bounded.ask
    intro answer
    split
    · split <;> exact .done (by simp [Loop.GoesOn]) _
    · exact .done (by simp [Loop.GoesOn]) _
    · exact .done (by simp [Loop.GoesOn]) _
  · exact register_ending.within (by simp) (by omega)
  · exact menu_done _ (by simp)
  · exact menu_done _ (by simp)

theorem adminMenu_bounded (adminId : Nat) :
    (adminMenu adminId).Bounded (Loop.adminMenu adminId).GoesOn 8 := by
  rw [adminMenu_eq]
  apply Dialogue.Bounded.read
  intro line
  split
  · exact viewPendingVoters_ending.within (by simp) (by omega)
  · exact (approveReject_ending _).within (by simp) (by omega)
  · exact viewPendingCandidates_ending.within (by simp) (by omega)
  · exact (approveReject_ending _).within (by simp) (by omega)
  · exact viewResults_ending.within (by simp) (by omega)
  · exact menu_done _ (by simp)
  · exact menu_done _ (by simp)

theorem officerMenu_bounded (officerId : Nat) :
    (officerMenu officerId).Bounded (Loop.officerMenu officerId).GoesOn 8 := by
  rw [officerMenu_eq]
  apply Dialogue.Bounded.read
  intro line
  split
  · exact viewPendingVoters_ending.within (by simp) (by omega)
  · exact (approveReject_ending _).within (by simp) (by omega)
  · exact menu_done _ (by simp)
  · exact menu_done _ (by simp)

omit [Platform] in
theorem voterMenu_bounded (voterId : Nat) (username : String) :
    (voterMenu voterId username).Bounded (Loop.voterMenu voterId username).GoesOn 8 := by
  rw [voterMenu_eq]
  apply Dialogue.Bounded.read
  intro line
  split
  · exact (applyVoterID_ending _).within (by simp) (by omega)
  · exact (viewMyVoterStatus_ending _).within (by simp) (by omega)
  · exact viewApprovedCandidates_ending.within (by simp) (by omega)
  · exact (castVote_ending _).within (by simp) (by omega)
  · exact (postForum_ending _).within (by simp) (by omega)
  · exact viewForum_ending.within (by simp) (by omega)
  · exact menu_done _ (by simp)
  · exact menu_done _ (by simp)

omit [Platform] in
theorem candidateMenu_bounded (candidateId : Nat) (username : String) :
    (candidateMenu candidateId username).Bounded (Loop.candidateMenu candidateId username).GoesOn
      8 := by
  rw [candidateMenu_eq]
  apply Dialogue.Bounded.read
  intro line
  split
  · exact (applyCandidate_ending _).within (by simp) (by omega)
  · exact (viewMyCandidateStatus_ending _).within (by simp) (by omega)
  · exact (postForum_ending _).within (by simp) (by omega)
  · exact viewForum_ending.within (by simp) (by omega)
  · exact menu_done _ (by simp)
  · exact menu_done _ (by simp)

/-- A round of every loop is bounded. -/
theorem body_bounded (loop : Loop) : loop.body.Bounded loop.GoesOn loop.bound := by
  cases loop with
  | boot => exact startup_bounded
  | mainMenu => exact mainMenu_bounded
  | adminMenu adminId => exact adminMenu_bounded adminId
  | officerMenu officerId => exact officerMenu_bounded officerId
  | voterMenu voterId username => exact voterMenu_bounded voterId username
  | candidateMenu candidateId username => exact candidateMenu_bounded candidateId username

/-- The server can always fail a statement, and then keeps the database. -/
theorem serve_idles (stmt : Stmt) (database : Database) : ∃ choice answer,
    serve stmt choice database = some (database, answer) :=
  ⟨⟨some "", 0, 0, fun id => id, 0, 0⟩, .error ⟨""⟩, rfl⟩

/-! ## Leaving -/

/-- A process is left by typing in every loop the line that ends it. -/
abbrev Exits (n : Nat) (loop : Loop) (rest : Dialogue console (Option Loop)) : Prop :=
  @Leaves console app Loop.exit n loop rest

/-- Where the line of a loop leads. -/
def Loop.after : Loop → Option Loop
  | .boot | .mainMenu => none
  | _ => some .mainMenu

/-- The line of a menu ends it at once. -/
theorem exit_ends {loop : Loop} (menu : loop ≠ .boot) : ∃ printed next,
    loop.body = .read printed next ∧ ∃ shown, next loop.exit = .done shown loop.after := by
  have three : trim "3" = "3" := by decide
  have five : trim "5" = "5" := by decide
  have six : trim "6" = "6" := by decide
  have seven : trim "7" = "7" := by decide
  cases loop with
  | boot => exact absurd rfl menu
  | mainMenu | adminMenu _ | officerMenu _ | voterMenu _ _ | candidateMenu _ _ =>
    simp only [Loop.body, mainMenu_eq, adminMenu_eq, officerMenu_eq, voterMenu_eq,
      candidateMenu_eq, Loop.exit, Loop.after]
    refine ⟨_, _, rfl, ?_⟩
    simp only [three, five, six, seven]
    exact ⟨_, rfl⟩

/-- The menu of `main` is left in two steps. -/
theorem mainMenu_exits : Exits 2 .mainMenu Loop.mainMenu.body := by
  have menu : Loop.mainMenu ≠ .boot := by simp
  obtain ⟨printed, next, body, shown, ends⟩ := exit_ends menu
  rw [body]
  show Exits 1 .mainMenu (next Loop.mainMenu.exit)
  rw [ends]
  trivial

/-- Every menu is left in four steps. -/
theorem menu_exits {loop : Loop} (menu : loop ≠ .boot) : Exits 4 loop loop.body := by
  by_cases main : loop = .mainMenu
  · subst main
    exact mainMenu_exits.mono (by omega)
  · obtain ⟨printed, next, body, shown, ends⟩ := exit_ends menu
    have out : loop.after = some .mainMenu := by cases loop <;> trivial
    rw [body]
    show Exits 3 loop (next loop.exit)
    rw [ends, out]
    exact mainMenu_exits

/-- In a reachable state, every process is left within twelve steps. -/
theorem exits_of_reachable {system : System app} (reachable : system.Reachable) {process : Nat}
    {loop : Loop} {rest : Dialogue console (Option Loop)}
    (runs : system.process process = some ⟨loop, rest⟩) : Exits 12 loop rest := by
  obtain ⟨n, bounded, count⟩ := reachable.bounded body_bounded runs
  by_cases boot : loop = .boot
  · subst boot
    have few : n ≤ 9 := by
      have bound : Loop.bound .boot = 9 := rfl
      omega
    have left : Exits (n + 3) .boot rest := by
      refine Leaves.of_bounded bounded ?_
      rintro printed _ (rfl | rfl)
      · trivial
      · exact mainMenu_exits
    exact left.mono (by omega)
  · have bound : loop.bound = 8 := by cases loop <;> trivial
    have returns (printed : List Output) (next : Option Loop) (goes : loop.GoesOn next) :
        Exits 5 loop (.done printed next) := by
      cases next with
      | none => trivial
      | some menu =>
        have other : menu ≠ .boot := by
          rintro rfl
          cases loop <;> first | exact boot rfl | exact goes rfl
        exact menu_exits other
    cases round : roundOf process system.log with
    | nil =>
      rcases reachable.shown runs with ⟨_, same⟩ | ⟨_, _, some, _⟩
      · rw [same]
        exact (menu_exits boot).mono (by omega)
      · rw [round] at some
        contradiction
    | cons entry older =>
      rw [round, List.length_cons] at count
      exact (Leaves.of_bounded bounded returns).mono (by omega)

/-- No session hangs. A round of a menu takes at most eight steps and a startup at most nine, whatever
is typed and answered. Whoever types nothing but the lines that end the loops is out after at most
twelve steps of the process, whatever the server answers and whatever other processes do; and there
is always a way to take these steps with nothing else changed. -/
theorem sessions_end {system : System app} (reachable : system.Reachable) {process : Nat}
    {loop : Loop} {rest : Dialogue console (Option Loop)}
    (runs : system.process process = some ⟨loop, rest⟩) :
    (roundOf process system.log).length ≤ loop.bound ∧ System.CanLeave process 12 system ∧
      ∀ events last newer, system.run events = some last →
        (∀ event ∈ events, event ≠ .start process) → last.log = newer ++ system.log →
        (∀ entry ∈ newer, entry.process = process →
          ∀ line, entry.action = .typed line → line = entry.loop.exit) →
        (stepsOf process newer).length ≤ 12 ∧
          ((stepsOf process newer).length = 12 → last.process process = none) := by
  have exits := exits_of_reachable reachable runs
  refine ⟨?_, System.canLeave_of_leaves serve_idles runs exits, ?_⟩
  · obtain ⟨n, _, count⟩ := reachable.bounded body_bounded runs
    omega
  · intro events last newer ran started logged lines
    have leaving : System.Leaving Loop.exit process 12 system := by
      intro running dialogue now
      obtain ⟨rfl, rfl⟩ := Process.mk.inj (Option.some.inj (runs.symm.trans now))
      exact exits
    obtain ⟨m, count, left⟩ := leaving.run ran started logged lines
    refine ⟨by omega, fun all => ?_⟩
    have zero : m = 0 := by omega
    cases now : last.process process with
    | none => rfl
    | some running =>
      have impossible := left running.loop running.rest now
      rw [zero] at impossible
      exact impossible.elim

end

/-! ## In the middle of a vote -/

section

attribute [local instance] latin1

set_option maxRecDepth 10000 in
/-- Vera, who is asked for a candidate, can still leave. -/
theorem sessions_end_choosing : ∃ system, (System.initial app).run (admission ++ choosing) =
    some system ∧ System.CanLeave 2 12 system := by
  have result : ((System.initial app).run (admission ++ choosing)).map
      (fun system => (system.process 2).isSome) = some true := by
    decide +kernel
  obtain ⟨system, ran, seen⟩ := Option.map_eq_some_iff.mp result
  obtain ⟨⟨loop, rest⟩, runs⟩ := Option.isSome_iff_exists.mp seen
  exact ⟨system, ran, (sessions_end ⟨admission ++ choosing, ran⟩ runs).2.1⟩

end

end OnlineVoting
