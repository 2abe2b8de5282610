import OnlineVoting.Menus

/-!
# The life of an application

An application is stored once for a user, keeps its identifier and everything entered in it, and
has the status of the last decision on it. An identifier that a listing showed stays that of the
application it was shown with, so a decision that is typed much later acts on that application.
-/
namespace OnlineVoting

open Interleaving

section

variable [Platform]

/-- What an application shows to others: its identifier, the name of the applicant, and what was
entered. -/
def Rows.Shows (rows : Rows) (table : ProfileTable) (id : Nat) (name : String)
    (entries : table.Entries) : Prop :=
  ∃ profile ∈ rows.profiles table, profile.id = id ∧ profile.entries = entries ∧
    ∃ user ∈ rows.users, user.id = profile.userId ∧ user.name = name

/-- A step listed an application: among those pending, or among the approved candidates. -/
inductive Lists : (table : ProfileTable) → Entry app → Nat → String → table.Entries → Prop where
  /-- In `viewPendingVoters` or `viewPendingCandidates`. -/
  | pending {table : ProfileTable} {entry : Entry app} {choice : Choice}
    {rows : List (ApplicationRow table.Entries)} {row : ApplicationRow table.Entries}
    (action : entry.action = .served (.selectPending table) choice (.ok rows))
    (present : row ∈ rows) : Lists table entry row.id row.name row.entries
  /-- In `viewApprovedCandidates`. -/
  | approved {entry : Entry app} {choice : Choice} {rows : List CandidateRow}
    {row : CandidateRow} (action : entry.action = .served .selectApproved choice (.ok rows))
    (present : row ∈ rows) : Lists .candidateProfiles entry row.id row.name row.entries

omit [Platform] in
/-- What an application shows stays. -/
theorem Rows.Shows.evolves {rows later : Rows} {table : ProfileTable} {id : Nat} {name : String}
    {entries : table.Entries} (shows_ : rows.Shows table id name entries)
    (evolves : rows.Evolves later) : later.Shows table id name entries := by
  obtain ⟨profile, stored, same, entered, user, known, owner, named⟩ := shows_
  obtain ⟨next, kept, continues⟩ := evolves.profiles table profile stored
  exact ⟨next, kept, continues.id.trans same, continues.entries.trans entered, user,
    evolves.users user known, owner.trans continues.userId.symm, named⟩

omit [Platform] in
/-- A row of a joined listing comes from an application and its applicant. -/
theorem Rows.mem_withStatus {rows : Rows} {table : ProfileTable} {status : Status}
    {row : Profile table.Entries × User} (present : row ∈ rows.withStatus table status) :
    row.1 ∈ rows.profiles table ∧ row.2 ∈ rows.users ∧ row.2.id = row.1.userId := by
  have joined := (List.mem_filter.mp present).1
  simp only [Relational.join, List.mem_flatMap, List.mem_map, List.mem_filter,
    decide_eq_true_eq] at joined
  obtain ⟨profile, stored, user, ⟨known, owner⟩, rfl⟩ := joined
  exact ⟨stored, known, owner⟩

omit [Platform] in
/-- Whatever the pending applications show is shown by the tables. -/
theorem Rows.shows_pending {rows : Rows} {scan : Nat → Nat} {table : ProfileTable}
    {row : ApplicationRow table.Entries} (present : row ∈ rows.pending scan table) :
    rows.Shows table row.id row.name row.entries := by
  simp only [pending, scanned, List.mem_map, List.mem_insertionSort] at present
  obtain ⟨found, listed, rfl⟩ := present
  obtain ⟨stored, known, owner⟩ := mem_withStatus listed
  exact ⟨found.1, stored, rfl, rfl, found.2, known, owner, rfl⟩

omit [Platform] in
/-- Whatever the approved candidates show is shown by the tables. -/
theorem Rows.shows_approved {rows : Rows} {scan : Nat → Nat} {row : CandidateRow}
    (present : row ∈ rows.approved scan) :
    rows.Shows .candidateProfiles row.id row.name row.entries := by
  simp only [approved, scanned, List.mem_map, List.mem_insertionSort] at present
  obtain ⟨found, listed, rfl⟩ := present
  obtain ⟨stored, known, owner⟩ := mem_withStatus listed
  exact ⟨found.1, stored, rfl, rfl, found.2, known, owner, rfl⟩

/-- A listing shows what the tables hold when it is executed. -/
theorem Lists.shows {system next : System app} {entry : Entry app}
    (stepped : rules.Stepped system next entry) {table : ProfileTable} {id : Nat} {name : String}
    {entries : table.Entries} (lists : Lists table entry id name entries) :
    system.store.rows.Shows table id name entries := by
  cases lists with
  | pending action present =>
    obtain ⟨_, _, served, _⟩ := stepped.of_served action
    rw [(query_served rfl served).1] at present
    exact Rows.shows_pending present
  | approved action present =>
    obtain ⟨_, _, served, _⟩ := stepped.of_served action
    rw [(query_served rfl served).1] at present
    exact Rows.shows_approved present

/-- What was ever listed is still shown. -/
theorem listed_shows {system : System app} (reachable : system.Reachable) {table : ProfileTable}
    {entry : Entry app} (present : entry ∈ system.log) {id : Nat} {name : String}
    {entries : table.Entries} (lists : Lists table entry id name entries) :
    system.store.rows.Shows table id name entries := by
  let kept (state : System app) : Prop := ∀ entry ∈ state.log, ∀ id name entries,
    Lists table entry id name entries → state.store.rows.Shows table id name entries
  have start : kept (System.initial app) := fun _ none => (List.not_mem_nil none).elim
  have keeps {state next : System app} {event : Event app} {newest : Entry app}
      (good : rules.Good state) (holds : kept state) (stepped : state.step event = some next)
      (did : rules.Stepped state next newest) : kept next := by
    intro entry recent id name entries lists
    have evolves := (good.evolves rules_sound stepped).toEvolves
    rw [did.logged] at recent
    rcases List.mem_cons.mp recent with rfl | older
    · exact (lists.shows did).evolves evolves
    · exact (holds entry older id name entries lists).evolves evolves
  have all : kept system := rules_sound.reachable_keeps start keeps reachable
  exact all entry present id name entries lists

/-- What a step that decides an application does: it reports the decision, on the identifier and
the action typed last, and sets the status of that application alone. -/
structure Decides (system next : System app) (entry : Entry app) (table : ProfileTable) (id : Nat)
    (status : Status) : Prop where
  /-- The rows of that application, and no others, have the new status. -/
  rows : next.store.rows = system.store.rows.decideProfile table id status
  /-- The application is stored. -/
  stored : ∃ profile ∈ system.store.rows.profiles table, profile.id = id
  /-- Success is reported. -/
  reported : .println ("Done! Status set to " ++ status.label ++ ".\n") ∈ entry.printed
  /-- Identifier and action were typed before. -/
  typed : ∃ action idStr older, linesOf entry.process system.log = action :: idStr :: older ∧
    parseInt (trim idStr) = some (id : Int) ∧ decision (toUpperCase (trim action)) = some status

/-- Every decision in the log was made so. -/
theorem decides_of_decisionOf {system next : System app} {entry : Entry app}
    (stepped : rules.Stepped system next entry) {table : ProfileTable} {id : Nat}
    {status : Status} (decided : decisionOf table id entry = some status) :
    Decides system next entry table id status := by
  obtain ⟨choice, found, action, some⟩ := decisionOf_eq_some decided
  obtain ⟨_, permit, served, prints⟩ := stepped.of_served action
  have message : successMessage (.updateStatus table status (id : Int)) = Option.some
      (.println ("Done! Status set to " ++ status.label ++ ".\n")) := rfl
  have success : confirmation (.served (.updateStatus table status (id : Int)) choice
      (.ok found)) = Option.some
        (.println ("Done! Status set to " ++ status.label ++ ".\n")) := by
    simp [confirmation, succeeds, successMessage, some]
  have reported := (prints.announces.mem_iff (successMessage_isSuccess message)).mpr success
  obtain ⟨change, _⟩ := serve_written served
  generalize written : next.store.rows = rows at change
  cases change with
  | nothing quiet => simp [succeeds, some] at quiet
  | status _ _ _ _ _ stored =>
    obtain ⟨profile, present, same⟩ := stored
    obtain ⟨_, typed⟩ := permit
    exact ⟨written, ⟨profile, present, Int.ofNat.inj same⟩, reported, typed⟩

/-- An application is unique for its user, keeps its identifier, its user and everything entered,
is never pending again, and has the status of the last decision on it. What a listing once showed
under an identifier is what a decision on that identifier acts on. -/
theorem application_lifecycle {earlier later : System app} {events : List (Event app)}
    (reachable : earlier.Reachable) (ran : earlier.run events = some later)
    (table : ProfileTable) :
    (∀ userId, ((later.store.rows.profiles table).countP fun profile =>
      profile.userId = userId) ≤ 1) ∧
    (∀ profile ∈ earlier.store.rows.profiles table,
      ∃ next ∈ later.store.rows.profiles table, profile.Continues next ∧
        ∀ other ∈ later.store.rows.profiles table, other.id = profile.id → other = next) ∧
    (∀ profile ∈ later.store.rows.profiles table,
      profile.status = standing table profile.id later.log) ∧
    (∀ event next entry id status, later.step event = some next →
      next.log = entry :: later.log → decisionOf table id entry = some status →
      Decides later next entry table id status ∧
        ∀ listing ∈ later.log, ∀ name entries, Lists table listing id name entries →
          later.store.rows.Shows table id name entries) := by
  have good := good_of_reachable reachable
  have reached := reachable.run ran
  have goodLater := good_of_reachable reached
  have evolves := good.run_evolves rules_sound ran
  refine ⟨fun userId => ?_, fun profile stored => ?_, goodLater.invariant.standings table,
    fun event next entry id status stepped logged decided => ⟨?_, ?_⟩⟩
  · apply Relational.Table.rowsOf_countP_le_one _ _
    intro left right first second
    exact .inr ((of_decide_eq_true first).trans (of_decide_eq_true second).symm)
  · obtain ⟨next, kept, continues⟩ := evolves.profiles table profile stored
    refine ⟨next, kept, continues, fun other present same => ?_⟩
    exact later.store.profile_unique present kept (.inl (same.trans continues.id.symm))
  · have did := goodLater.stepped_entry rules_sound stepped logged
    exact decides_of_decisionOf did decided
  · exact fun listing present name entries lists => listed_shows reached present lists

end

/-! ## A run -/

section

attribute [local instance] latin1

/-- Lines typed at a console. -/
def typing (process : Nat) (lines : List String) : List (Event app) :=
  lines.map fun line => .type process line

/-- A statement served without a fault. -/
def tallying : Choice := ⟨none, 0, 0, fun id => id, 0, 0⟩

/-- Statements served without a fault, each offered the next identifier. -/
def serving (process : Nat) (ids : List Nat) : List (Event app) :=
  ids.map fun id => .serve process ⟨none, id, 0, fun id => id, id, 0⟩

/-- A startup, whose seed is offered an identifier. -/
def launching (process id : Nat) : List (Event app) :=
  .start process :: serving process [0, 0, 0, 0, 0, 0, 0, 0, id] ++ [.turn process]

/-- A registration in the menu of `main`. -/
def registering (process id : Nat) (name username password role : String) : List (Event app) :=
  typing process ["2", name, username, password, role] ++ serving process [id] ++ [.turn process]

/-- A login in the menu of `main`. -/
def loggingIn (process : Nat) (username password : String) : List (Event app) :=
  typing process ["1", username, password] ++ serving process [0] ++ [.turn process]

/-- An application, the first entry of the menus of voters and candidates. -/
def applying (process id : Nat) (entries : List String) : List (Event app) :=
  typing process ["1"] ++ serving process [0] ++ typing process entries ++ serving process [id] ++
    [.turn process]

/-- A decision, from the entry of a menu on. -/
def deciding (process : Nat) (entry id action : String) : List (Event app) :=
  typing process [entry, id, action] ++ serving process [0, 0] ++ [.turn process]

/-- Cara registers and applies: user 2 with application 7. -/
def candidacy : List (Event app) :=
  launching 0 1 ++ registering 0 2 "Cara" "cara" "secret" "candidate" ++
    loggingIn 0 "cara" "secret" ++ applying 0 7 ["Green", "North", "Trees"]

/-- A visit of a user with the password `secret`, from the menu of `main` and back to it. -/
def visit (username logout : String) (entries : List (Event app)) : List (Event app) :=
  loggingIn 0 username "secret" ++ entries ++ typing 0 [logout] ++ [.turn 0]

/-- Cara and Dan apply as candidates, with applications 7 and 8, and Vera and Wim as voters, with 5
and 6, in one process. -/
def applicants : List (Event app) :=
  launching 0 1 ++ registering 0 2 "Cara" "cara" "secret" "candidate" ++
    registering 0 3 "Dan" "dan" "secret" "candidate" ++
    registering 0 4 "Vera" "vera" "secret" "voter" ++
    registering 0 5 "Wim" "wim" "secret" "voter" ++
    visit "cara" "5" (applying 0 7 ["Green", "North", "Trees"]) ++
    visit "dan" "5" (applying 0 8 ["Blue", "South", "Seas"]) ++
    visit "vera" "7" (applying 0 5 ["North", "Main Street 1"]) ++
    visit "wim" "7" (applying 0 6 ["South", "High Street 2"])

/-- The admin approves application 7 in another process. -/
def approval : List (Event app) :=
  launching 1 9 ++ loggingIn 1 "admin" "admin123" ++ deciding 1 "4" "7" "approve"

set_option maxRecDepth 10000 in
/-- Application 7 is the same one before and after its approval. -/
theorem application_lifecycle_approval : ∃ earlier later,
    (System.initial app).run candidacy = some earlier ∧ earlier.run approval = some later ∧
    later.store.rows.candidates = [⟨7, 2, ⟨"Green", "North", "Trees"⟩, .approved⟩] ∧
    ∀ profile ∈ earlier.store.rows.candidates,
      ∃ next ∈ later.store.rows.candidates, profile.Continues next ∧
        ∀ other ∈ later.store.rows.candidates, other.id = profile.id → other = next := by
  have result : ((System.initial app).run (candidacy ++ approval)).map
      (fun system => system.store.rows.candidates) =
        some [⟨7, 2, ⟨"Green", "North", "Trees"⟩, .approved⟩] := by decide +kernel
  obtain ⟨earlier, later, before, after, rows⟩ := System.run_split result
  refine ⟨earlier, later, before, after, rows, ?_⟩
  exact (application_lifecycle ⟨candidacy, before⟩ after .candidateProfiles).2.1

end

end OnlineVoting
