import OnlineVoting.App
import OnlineVoting.Effect

/-!
# What the log of a run says

The log holds what was typed, which statements were executed, and what was printed. Read from it,
without looking at the tables: the success messages and the writes they report, the decisions on
an application and the status they leave it with, the votes reported for a typed candidate
identifier, and the registration and application that the rows of a user come from.
-/
namespace OnlineVoting

open Interleaving

variable [Platform]

/-! ## Success messages -/

/-- The message that reports the success of a writing statement. -/
def successMessage : Stmt → Option Output
  | .insertUser _ _ _ _ => some (.println "Registered successfully! You can now log in.\n")
  | .insertProfile .voterProfiles _ _ =>
    some (.println "Voter ID application submitted! Status: PENDING.\n")
  | .insertProfile .candidateProfiles _ _ =>
    some (.println "Candidacy application submitted! Status: PENDING.\n")
  | .updateStatus _ status _ => some (.println ("Done! Status set to " ++ status.label ++ ".\n"))
  | .insertVote _ _ => some (.println "Vote cast successfully! Thank you.\n")
  | .insertForumPost _ _ => some (.println "Posted!\n")
  | _ => none

/-- The texts of all success messages. -/
def successTexts : List String :=
  ["Registered successfully! You can now log in.\n",
    "Voter ID application submitted! Status: PENDING.\n",
    "Candidacy application submitted! Status: PENDING.\n",
    "Done! Status set to PENDING.\n", "Done! Status set to APPROVED.\n",
    "Done! Status set to REJECTED.\n", "Vote cast successfully! Thank you.\n", "Posted!\n"]

/-- A printed success message. -/
def Output.isSuccess : Output → Bool
  | .println text => text ∈ successTexts
  | _ => false

/-- The success message that an action must report. -/
def confirmation : Action app → Option Output
  | .served stmt _ answer => if succeeds stmt answer then successMessage stmt else none
  | _ => none

/-- The success messages printed on an action are the one it must report, if any. -/
def Announces (action : Action app) (printed : List Output) : Prop :=
  printed.filter Output.isSuccess = (confirmation action).toList

omit [Platform] in
/-- Every success message is recognised as one. -/
theorem successMessage_isSuccess {stmt : Stmt} {output : Output}
    (message : successMessage stmt = some output) : output.isSuccess = true := by
  unfold successMessage at message
  split at message <;> simp only [Option.some.injEq, reduceCtorEq] at message <;> subst message
  case h_4 status _ => cases status <;> simp [Output.isSuccess, successTexts, Status.label]
  all_goals simp [Output.isSuccess, successTexts]

/-- A success message is printed exactly on the action that must report it. -/
theorem Announces.mem_iff {action : Action app} {printed : List Output}
    (announces : Announces action printed) {output : Output} (success : output.isSuccess = true) :
    output ∈ printed ↔ confirmation action = some output := by
  have filtered : output ∈ printed ↔ output ∈ printed.filter Output.isSuccess := by
    simp [success]
  rw [filtered, announces, Option.mem_toList]

/-! ## Decisions on applications -/

/-- The status that this step gave to an application. -/
def decisionOf (table : ProfileTable) (id : Nat) (entry : Entry app) : Option Status :=
  match entry.action with
  | .served (.updateStatus decided status target) _ (.ok found) =>
    if decided = table ∧ target = id ∧ 0 < found then some status else none
  | _ => none

/-- The decisions on an application, newest first. -/
def decisions (table : ProfileTable) (id : Nat) (log : List (Entry app)) : List Status :=
  log.filterMap (decisionOf table id)

/-- The status of an application by the last decision on it, or `PENDING`. -/
def standing (table : ProfileTable) (id : Nat) (log : List (Entry app)) : Status :=
  (decisions table id log).head?.getD .pending

/-- Only a reported success is a decision. -/
theorem decisionOf_eq_none {entry : Entry app} (silent : confirmation entry.action = none)
    (table : ProfileTable) (id : Nat) : decisionOf table id entry = none := by
  unfold decisionOf
  split
  · rename_i action
    rw [action] at silent
    simp only [confirmation, succeeds, successMessage] at silent
    split
    · rename_i decided
      simp [decided.2.2] at silent
    · rfl
  · rfl

/-- A decision is made by an UPDATE that found a row. -/
theorem decisionOf_eq_some {table : ProfileTable} {id : Nat} {entry : Entry app} {status : Status}
    (decided : decisionOf table id entry = some status) :
    ∃ choice found, entry.action = .served (.updateStatus table status id) choice (.ok found) ∧
      0 < found := by
  unfold decisionOf at decided
  split at decided
  · rename_i found action
    split at decided
    · rename_i addressed
      obtain ⟨rfl, rfl, some⟩ := addressed
      obtain rfl := Option.some.inj decided
      exact ⟨_, found, action, some⟩
    · contradiction
  · contradiction

/-- The standing after more steps is that of the newest decision among them, if any. -/
theorem standing_append (table : ProfileTable) (id : Nat) (newer older : List (Entry app)) :
    standing table id (newer ++ older) =
      (decisions table id newer).head?.getD (standing table id older) := by
  simp only [standing, decisions, List.filterMap_append, List.head?_append]
  cases (newer.filterMap (decisionOf table id)).head? <;> rfl

/-- A step that is no decision leaves every standing as it is. -/
theorem standing_cons {table : ProfileTable} {id : Nat} {entry : Entry app}
    (none : decisionOf table id entry = none) (log : List (Entry app)) :
    standing table id (entry :: log) = standing table id log := by
  simp [standing, decisions, none]

/-! ## Votes -/

/-- The message that reports a vote. -/
def voteCast : Output := .println "Vote cast successfully! Thank you.\n"

/-- The candidate identifier typed last at the console of a process. -/
def typedId (process : Nat) (log : List (Entry app)) : Option Int :=
  (linesOf process log).head?.bind fun line => parseInt (trim line)

/-- Number of reported votes for which this candidate identifier had been typed. -/
def castsFor (id : Nat) : List (Entry app) → Nat
  | [] => 0
  | entry :: older =>
    castsFor id older +
      if voteCast ∈ entry.printed ∧ typedId entry.process older = some (id : Int) then 1 else 0

/-- Number of reported votes. -/
def casts (log : List (Entry app)) : Nat := log.countP fun entry => voteCast ∈ entry.printed

/-- A vote is reported exactly on a successful insertion of a vote. -/
theorem voteCast_mem_iff {entry : Entry app} (announces : Announces entry.action entry.printed) :
    voteCast ∈ entry.printed ↔ confirmation entry.action = some voteCast :=
  announces.mem_iff (by simp [voteCast, Output.isSuccess, successTexts])

/-! ## Registrations and applications -/

/-- The row that `register` inserts for the lines typed at its console, newest first. -/
def RegisteredFrom (user : User) (lines : List String) : Prop :=
  ∃ role password username name rest, lines = role :: password :: username :: name :: rest ∧
    user.username = trim username ∧ user.passwordHash = sha256 (trim password) ∧
    user.name = trim name ∧ user.role.label = toUpperCase (trim role)

/-- The columns that an application takes from the lines typed at its console, newest first. -/
def enteredFrom : (table : ProfileTable) → List String → Option table.Entries
  | .voterProfiles, address :: constituency :: _ => some ⟨trim constituency, trim address⟩
  | .candidateProfiles, manifesto :: constituency :: party :: _ =>
    some ⟨trim party, trim constituency, trim manifesto⟩
  | _, _ => none

omit [Platform] in
/-- The columns of a voter application are the last two lines. -/
theorem enteredFrom_voter {typed : List String} {entries : ProfileTable.voterProfiles.Entries}
    (entered : enteredFrom .voterProfiles typed = some entries) :
    ∃ address constituency rest, typed = address :: constituency :: rest ∧
      entries = ⟨trim constituency, trim address⟩ := by
  obtain _ | ⟨address, _ | ⟨constituency, rest⟩⟩ := typed
  · contradiction
  · contradiction
  · exact ⟨_, _, _, rfl, (Option.some.inj entered).symm⟩

omit [Platform] in
/-- The columns of a candidate application are the last three lines. -/
theorem enteredFrom_candidate {typed : List String}
    {entries : ProfileTable.candidateProfiles.Entries}
    (entered : enteredFrom .candidateProfiles typed = some entries) :
    ∃ manifesto constituency party rest, typed = manifesto :: constituency :: party :: rest ∧
      entries = ⟨trim party, trim constituency, trim manifesto⟩ := by
  obtain _ | ⟨manifesto, _ | ⟨constituency, _ | ⟨party, rest⟩⟩⟩ := typed
  · contradiction
  · contradiction
  · contradiction
  · exact ⟨_, _, _, _, rfl, (Option.some.inj entered).symm⟩

/-- A step of the log with the log before it. -/
def Occurs (event : Entry app → List (Entry app) → Prop) (log : List (Entry app)) : Prop :=
  ∃ newer entry older, log = newer ++ entry :: older ∧ event entry older

/-- What occurred stays in the log. -/
theorem Occurs.cons {event : Entry app → List (Entry app) → Prop} {log : List (Entry app)}
    (occurs : Occurs event log) (entry : Entry app) : Occurs event (entry :: log) := by
  obtain ⟨newer, found, older, split, holds⟩ := occurs
  exact ⟨entry :: newer, found, older, by rw [split, List.cons_append], holds⟩

/-- What the newest step is has occurred. -/
theorem Occurs.newest {event : Entry app → List (Entry app) → Prop} {entry : Entry app}
    {log : List (Entry app)} (holds : event entry log) : Occurs event (entry :: log) :=
  ⟨[], entry, log, rfl, holds⟩

/-- The step that registered a user: the insertion of the row, reported as a success, with the
values typed before it. -/
def Registers (user : User) (entry : Entry app) (older : List (Entry app)) : Prop :=
  (∃ username passwordHash name role choice,
    entry.action = .served (.insertUser username passwordHash name role) choice (.ok ()) ∧
      choice.id = user.id) ∧
    .println "Registered successfully! You can now log in.\n" ∈ entry.printed ∧
    RegisteredFrom user (linesOf entry.process older)

/-- The step that stored an application: the insertion of the row, reported as a success, with
the values typed before it. -/
def Applies (table : ProfileTable) (id userId : Nat) (entries : table.Entries)
    (entry : Entry app) (older : List (Entry app)) : Prop :=
  (∃ choice, entry.action = .served (.insertProfile table userId entries) choice (.ok ()) ∧
      choice.id = id) ∧
    (∃ message, successMessage (.insertProfile table userId entries) = some message ∧
      message ∈ entry.printed) ∧
    enteredFrom table (linesOf entry.process older) = some entries

end OnlineVoting
