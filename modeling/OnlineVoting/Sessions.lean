import OnlineVoting.Dialogues
import OnlineVoting.Preservation

/-!
# Every session keeps the rules

The dialogues of the program are followed method by method: what each may print where, that each
statement is permitted when it is sent, however much the other processes did in between, and that
each menu is ready when it is entered. `rules_sound` puts them together, so the discipline holds
in every reachable state.
-/
namespace OnlineVoting

open Interleaving

variable [Platform]

/-! ## Lines that report nothing -/

/-- Texts of success messages, of the title of the leaderboard and of the line for a role without
a menu. -/
def reservedTexts : List String :=
  "\n──── LIVE ELECTION RESULTS ────" :: "Unknown role." :: successTexts

/-- A line that is none of these, and no line of the leaderboard. -/
def Output.isPlain (output : Output) : Bool :=
  !output.isSuccess && !output.isResult && output ≠ unknownRole

/-- What they begin with. -/
def reservedHeads : List (List Char) :=
  [['\n', '─'], ['U', 'n'], ['R', 'e'], ['V', 'o'], ['C', 'a'], ['D', 'o'], ['P', 'o']]

/-- A text that does not begin like a reserved one, whatever follows it. -/
def Clear (text : String) : Prop :=
  2 ≤ text.toList.length ∧ text.toList.take 2 ∉ reservedHeads

instance (text : String) : Decidable (Clear text) := inferInstanceAs (Decidable (_ ∧ _))

omit [Platform] in
/-- Whatever follows a clear text, the whole is clear. -/
theorem Clear.append {text : String} (clear : Clear text) (more : String) :
    Clear (text ++ more) := by
  obtain ⟨long, other⟩ := clear
  rw [Clear, String.toList_append, List.length_append, List.take_append_of_le_length long]
  exact ⟨by omega, other⟩

omit [Platform] in
/-- Reserved texts begin as listed. -/
theorem reservedTexts_head : ∀ text ∈ reservedTexts, text.toList.take 2 ∈ reservedHeads := by
  decide

omit [Platform] in
/-- A text that is not reserved makes a plain line. -/
theorem plain_of_not_reserved {text : String} (free : text ∉ reservedTexts) :
    (Output.println text).isPlain = true := by
  simp only [reservedTexts, List.mem_cons, not_or] at free
  simp [Output.isPlain, Output.isSuccess, Output.isResult, unknownRole, free.1, free.2.1, free.2.2]

omit [Platform] in
/-- A clear text makes a plain line. -/
theorem Clear.plain {text : String} (clear : Clear text) : (Output.println text).isPlain = true :=
  plain_of_not_reserved fun reserved => clear.2 (reservedTexts_head text reserved)

/-- An action that reports nothing may print any plain lines. -/
theorem Prints.plain {loop : Loop} {action : Action app} {printed : List Output}
    (quiet : confirmation action = none) (plain : printed.all Output.isPlain = true) :
    Prints loop action printed := by
  simp only [List.all_eq_true, Output.isPlain, Bool.and_eq_true, Bool.not_eq_true',
    decide_eq_true_eq] at plain
  refine ⟨?_, fun output present result => ?_, fun present => (plain _ present).2 rfl⟩
  · rw [Announces, quiet, Option.toList_none, List.filter_eq_nil_iff]
    exact fun output present success => by simp [(plain output present).1.1] at success
  · simp [(plain output present).1.2] at result

/-- An action that reports nothing may print a text that is not reserved. -/
theorem Prints.text {loop : Loop} {action : Action app} {text : String}
    (quiet : confirmation action = none) (free : text ∉ reservedTexts) :
    Prints loop action [.println text] :=
  .plain quiet (by rw [List.all_cons, plain_of_not_reserved free]; rfl)

omit [Platform] in
/-- No success message belongs to the leaderboard, and none is for a role without a menu. -/
theorem successMessage_other {stmt : Stmt} {output : Output}
    (message : successMessage stmt = some output) :
    output.isResult = false ∧ unknownRole ≠ output := by
  unfold successMessage at message
  split at message <;> simp only [Option.some.injEq, reduceCtorEq] at message <;> subst message
  case h_4 status _ => cases status <;> simp [Output.isResult, unknownRole, Status.label]
  all_goals simp [Output.isResult, unknownRole]

/-- An action that must report a success may print the report. -/
theorem Prints.success {loop : Loop} {action : Action app} {output : Output}
    (confirmed : confirmation action = some output) : Prints loop action [output] := by
  obtain ⟨stmt, message⟩ : ∃ stmt, successMessage stmt = some output := by
    unfold confirmation at confirmed
    split at confirmed
    · split at confirmed
      · exact ⟨_, confirmed⟩
      · contradiction
    · contradiction
  exact ⟨by simp [Announces, confirmed, successMessage_isSuccess message],
    by simp [(successMessage_other message).1], by simp [(successMessage_other message).2]⟩

omit [Platform] in
/-- The line of the handler of `SQLException` is plain. -/
theorem dbError_plain (message : String) :
    (Output.println ("[DB ERROR] " ++ message)).isPlain = true := by
  have clear : Clear "[DB ERROR] " := by decide
  exact (clear.append message).plain

omit [Platform] in
/-- The line of the handler of `SQLException | NumberFormatException` is plain. -/
theorem inputError_plain (message : String) :
    (Output.println ("[ERROR] " ++ message)).isPlain = true := by
  have clear : Clear "[ERROR] " := by decide
  exact (clear.append message).plain

/-- The handler of `SQLException` reports nothing. -/
theorem Prints.dbError {loop : Loop} {action : Action app} (quiet : confirmation action = none)
    (message : String) : Prints loop action [.println ("[DB ERROR] " ++ message)] :=
  .plain quiet (by simp [dbError_plain])

/-- The handler of `SQLException | NumberFormatException` reports nothing. -/
theorem Prints.inputError {loop : Loop} {action : Action app}
    (quiet : confirmation action = none) (message : String) :
    Prints loop action [.println ("[ERROR] " ++ message)] :=
  .plain quiet (by simp [inputError_plain])

/-- What every method of a session must leave its menu with. -/
abbrev Returns (loop : Loop) (process : Nat) (action : Action app) (method : Dialogue console Unit)
    (world : World app) : Prop :=
  rules.Resumes loop process (fun later _ => Ready loop later.store) action method world

variable {loop : Loop} {process : Nat} {world moment later : World app} {action : Action app}

/-- A method of a ready session may return. -/
theorem Returns.done {printed : List Output} (ready : Ready loop world.store)
    (prints : Prints loop action printed) :
    Returns loop process action (.done printed ()) world :=
  Discipline.Resumes.done prints fun _ rested => ready.evolves rested.evolves

/-- A ready session may execute a query and print plain lines for its answer. -/
theorem Returns.view {title : String} {stmt : Stmt} {lines : Answer stmt → List Output}
    (ready : Ready loop world.store) (quiet : confirmation action = none)
    (titled : title ∉ reservedTexts)
    (permit : ∀ moment, Permit loop process moment stmt)
    (query : ∀ answer, succeeds stmt answer = false)
    (plain : ∀ answer, (lines answer).all Output.isPlain = true) :
    Returns loop process action (.ask [.println title] stmt fun answer => .done (lines answer) ())
      world := by
  refine Discipline.Resumes.ask rules_stable (.text quiet titled) (fun moment _ => permit moment)
    fun choice answer moment later after _ => ?_
  exact Returns.done (after.ready rules_stable ready)
    (.plain (by simp [confirmation, query]) (plain answer))

/-! ## Listings -/

omit [Platform] in
/-- What holds of every plain line and of the lines of the rows holds of all of a listing. -/
theorem listing_all {Row : Type} {keep : Output → Bool} {none : String}
    {lines : List Row → List Output} (keeps : ∀ output : Output, output.isPlain → keep output)
    (noted : none ∉ reservedTexts) (rows : ∀ rows, (lines rows).all keep = true)
    (answer : Except SqlException (List Row)) :
    (listing none lines answer).all keep = true := by
  have ended : keep (.println "") = true :=
    keeps _ (plain_of_not_reserved (by simp [reservedTexts, successTexts]))
  unfold listing
  split
  · simp [keeps _ (plain_of_not_reserved noted), ended]
  · simp only [List.all_append, rows, Bool.true_and]
    simp [ended]
  · simp [keeps _ (dbError_plain _), ended]

omit [Platform] in
/-- The lines of all rows are plain when those of each row are. -/
theorem flatMap_plain {Row : Type} {lines : Row → List Output}
    (plain : ∀ row, (lines row).all Output.isPlain = true) (rows : List Row) :
    (rows.flatMap lines).all Output.isPlain = true := by
  induction rows with
  | nil => rfl
  | cons row rows ih => rw [List.flatMap_cons, List.all_append, plain row, ih, Bool.and_self]

omit [Platform] in
/-- The line of a manifesto is plain. -/
theorem manifesto_plain (manifesto : String) :
    (Output.println ("       Manifesto: " ++ manifesto)).isPlain = true := by
  have clear : Clear "       Manifesto: " := by decide
  exact (clear.append manifesto).plain

/-- `viewPendingVoters` keeps the rules. -/
theorem viewPendingVoters_returns (ready : Ready loop world.store)
    (quiet : confirmation action = none) :
    Returns loop process action viewPendingVoters world := by
  rw [viewPendingVoters_eq]
  refine Returns.view ready quiet (by simp [reservedTexts, successTexts]) (fun _ => trivial)
    (fun _ => rfl) (listing_all (fun _ plain => plain) (by simp [reservedTexts, successTexts])
      (flatMap_plain fun row => ?_))
  simp [pendingVoterLines, Output.isPlain, Output.isSuccess, Output.isResult, unknownRole]

/-- `viewPendingCandidates` keeps the rules. -/
theorem viewPendingCandidates_returns (ready : Ready loop world.store)
    (quiet : confirmation action = none) :
    Returns loop process action viewPendingCandidates world := by
  rw [viewPendingCandidates_eq]
  refine Returns.view ready quiet (by simp [reservedTexts, successTexts]) (fun _ => trivial)
    (fun _ => rfl) (listing_all (fun _ plain => plain) (by simp [reservedTexts, successTexts])
      (flatMap_plain fun row => ?_))
  rw [pendingCandidateLines, List.all_cons, List.all_cons, manifesto_plain]
  simp [Output.isPlain, Output.isSuccess, Output.isResult, unknownRole]

omit [Platform] in
/-- The lines of an approved candidate are plain. -/
theorem candidateLines_plain (row : CandidateRow) :
    (candidateLines row).all Output.isPlain = true := by
  rw [candidateLines, List.all_cons, List.all_cons, manifesto_plain]
  simp [Output.isPlain, Output.isSuccess, Output.isResult, unknownRole]

/-- `viewApprovedCandidates` keeps the rules. -/
theorem viewApprovedCandidates_returns (ready : Ready loop world.store)
    (quiet : confirmation action = none) :
    Returns loop process action viewApprovedCandidates world := by
  rw [viewApprovedCandidates_eq]
  exact Returns.view ready quiet (by simp [reservedTexts, successTexts]) (fun _ => trivial)
    (fun _ => rfl) (listing_all (fun _ plain => plain) (by simp [reservedTexts, successTexts])
      (flatMap_plain candidateLines_plain))

/-- `viewForum` keeps the rules. -/
theorem viewForum_returns (ready : Ready loop world.store) (quiet : confirmation action = none) :
    Returns loop process action viewForum world := by
  rw [viewForum_eq]
  refine Returns.view ready quiet (by simp [reservedTexts, successTexts]) (fun _ => trivial)
    (fun _ => rfl) (listing_all (fun _ plain => plain) (by simp [reservedTexts, successTexts])
      (flatMap_plain fun row => ?_))
  simp [postLines, Output.isPlain, Output.isSuccess, Output.isResult, unknownRole]

omit [Platform] in
/-- A line of the leaderboard is no success message. -/
theorem resultLines_unsuccessful (rank : Nat) (rows : List ResultRow) :
    (resultLines rank rows).all (fun output => !output.isSuccess && output ≠ unknownRole) = true := by
  induction rows generalizing rank with
  | nil => rfl
  | cons row rows ih => rw [resultLines, List.all_cons, ih (rank + 1)]; rfl

/-- In the menu of an ADMIN, the leaderboard may be printed. -/
theorem Prints.admin {adminId : Nat} {printed : List Output} (quiet : confirmation action = none)
    (unsuccessful : printed.all (fun output => !output.isSuccess && output ≠ unknownRole) = true) :
    Prints (.adminMenu adminId) action printed := by
  simp only [List.all_eq_true, Bool.and_eq_true, Bool.not_eq_true',
    decide_eq_true_eq] at unsuccessful
  refine ⟨?_, fun _ _ _ => ⟨adminId, rfl⟩, fun present => (unsuccessful _ present).2 rfl⟩
  rw [Announces, quiet, Option.toList_none, List.filter_eq_nil_iff]
  exact fun output present success => by simp [(unsuccessful output present).1] at success

/-- `viewResults` keeps the rules in the menu of an ADMIN. -/
theorem viewResults_returns {adminId : Nat} (ready : Ready (.adminMenu adminId) world.store)
    (quiet : confirmation action = none) :
    Returns (.adminMenu adminId) process action viewResults world := by
  rw [viewResults_eq]
  refine Discipline.Resumes.ask rules_stable (.admin quiet (by
      simp [Output.isSuccess, successTexts, unknownRole]))
    (fun _ _ => ⟨adminId, rfl⟩) fun choice answer moment later after _ => ?_
  refine Returns.done (after.ready rules_stable ready) (.admin (by simp [confirmation, succeeds]) ?_)
  refine listing_all (fun output plain => ?_) (by simp [reservedTexts, successTexts])
    (resultLines_unsuccessful 1) _
  simp only [Output.isPlain, Bool.and_eq_true] at plain ⊢
  exact ⟨plain.1.1, plain.2⟩

/-! ## Applications -/

/-- An application is permitted to the session of its account, with the values typed last. -/
theorem insertProfile_permit {table : ProfileTable} {userId : Nat} {entries : table.Entries}
    {lines : List String} (session : loop.session = some (userId, table.role))
    (typed : linesOf process world.log = lines)
    (entered : enteredFrom table lines = some entries)
    (rested : rules.Later process world moment) :
    Permit loop process moment (.insertProfile table userId entries) :=
  ⟨session, by rw [rested.linesOf, typed, entered]⟩

/-- `applyVoterID` keeps the rules in the menu of the voter. -/
theorem applyVoterID_returns {userId : Nat} {username : String}
    (ready : Ready (.voterMenu userId username) world.store)
    (quiet : confirmation action = none) :
    Returns (.voterMenu userId username) process action (applyVoterID userId) world := by
  rw [applyVoterID_eq]
  refine Discipline.Resumes.ask rules_stable (.plain quiet rfl) (fun _ _ => trivial)
    fun choice answer moment later after _ => ?_
  replace ready := after.ready rules_stable ready
  obtain e | applied := answer
  · exact Returns.done ready (.dbError rfl e.message)
  cases applied with
  | true => exact Returns.done ready (.text rfl (by simp [reservedTexts, successTexts]))
  | false =>
    refine Discipline.Resumes.read rules_stable (.plain rfl rfl)
      fun constituency moment later after => ?_
    replace ready := after.ready rules_stable ready
    refine Discipline.Resumes.read rules_stable (.plain rfl rfl)
      fun address moment later again => ?_
    replace ready := again.ready rules_stable ready
    have typed := again.linesOf_typed
    rw [after.linesOf_typed] at typed
    refine Discipline.Resumes.ask rules_stable (.plain rfl rfl)
      (fun _ rested => insertProfile_permit rfl typed rfl rested)
      fun choice answer moment later after _ => ?_
    replace ready := after.ready rules_stable ready
    cases answer with
    | error e => exact Returns.done ready (.dbError rfl e.message)
    | ok _ => exact Returns.done ready (.success rfl)

/-- `applyCandidate` keeps the rules in the menu of the candidate. -/
theorem applyCandidate_returns {userId : Nat} {username : String}
    (ready : Ready (.candidateMenu userId username) world.store)
    (quiet : confirmation action = none) :
    Returns (.candidateMenu userId username) process action (applyCandidate userId) world := by
  rw [applyCandidate_eq]
  refine Discipline.Resumes.ask rules_stable (.plain quiet rfl) (fun _ _ => trivial)
    fun choice answer moment later after _ => ?_
  replace ready := after.ready rules_stable ready
  obtain e | applied := answer
  · exact Returns.done ready (.dbError rfl e.message)
  cases applied with
  | true => exact Returns.done ready (.text rfl (by simp [reservedTexts, successTexts]))
  | false =>
    refine Discipline.Resumes.read rules_stable (.plain rfl rfl)
      fun party moment later first => ?_
    replace ready := first.ready rules_stable ready
    refine Discipline.Resumes.read rules_stable (.plain rfl rfl)
      fun constituency moment later second => ?_
    replace ready := second.ready rules_stable ready
    refine Discipline.Resumes.read rules_stable (.plain rfl rfl)
      fun manifesto moment later third => ?_
    replace ready := third.ready rules_stable ready
    have typed := third.linesOf_typed
    rw [second.linesOf_typed, first.linesOf_typed] at typed
    refine Discipline.Resumes.ask rules_stable (.plain rfl rfl)
      (fun _ rested => insertProfile_permit rfl typed rfl rested)
      fun choice answer moment later after _ => ?_
    replace ready := after.ready rules_stable ready
    cases answer with
    | error e => exact Returns.done ready (.dbError rfl e.message)
    | ok _ => exact Returns.done ready (.success rfl)

omit [Platform] in
/-- The lines of an application are plain. -/
theorem profileLines_plain (text : String) :
    (Output.println ("Constituency: " ++ text)).isPlain = true ∧
      (Output.println ("Status      : " ++ text)).isPlain = true ∧
      (Output.println ("Party       : " ++ text)).isPlain = true := by
  have constituency : Clear "Constituency: " := by decide
  have status : Clear "Status      : " := by decide
  have party : Clear "Party       : " := by decide
  exact ⟨(constituency.append text).plain, (status.append text).plain, (party.append text).plain⟩

/-- `viewMyVoterStatus` keeps the rules. -/
theorem viewMyVoterStatus_returns {userId : Nat} (ready : Ready loop world.store)
    (quiet : confirmation action = none) :
    Returns loop process action (viewMyVoterStatus userId) world := by
  rw [viewMyVoterStatus_eq]
  refine Discipline.Resumes.ask rules_stable (.plain quiet rfl) (fun _ _ => trivial)
    fun choice answer moment later after _ => ?_
  replace ready := after.ready rules_stable ready
  obtain e | rows := answer
  · exact Returns.done ready (.dbError rfl e.message)
  cases rows with
  | nil => exact Returns.done ready (.text rfl (by simp [reservedTexts, successTexts]))
  | cons row _ =>
    obtain ⟨entries, status⟩ := row
    refine Returns.done ready (.plain rfl ?_)
    simp [String.append_assoc, profileLines_plain]

/-- `viewMyCandidateStatus` keeps the rules. -/
theorem viewMyCandidateStatus_returns {userId : Nat} (ready : Ready loop world.store)
    (quiet : confirmation action = none) :
    Returns loop process action (viewMyCandidateStatus userId) world := by
  rw [viewMyCandidateStatus_eq]
  refine Discipline.Resumes.ask rules_stable (.plain quiet rfl) (fun _ _ => trivial)
    fun choice answer moment later after _ => ?_
  replace ready := after.ready rules_stable ready
  obtain e | rows := answer
  · exact Returns.done ready (.dbError rfl e.message)
  cases rows with
  | nil => exact Returns.done ready (.text rfl (by simp [reservedTexts, successTexts]))
  | cons row _ =>
    obtain ⟨entries, status⟩ := row
    refine Returns.done ready (.plain rfl ?_)
    simp [String.append_assoc, profileLines_plain]

/-! ## Decisions -/

/-- `approveReject` keeps the rules where its table may be decided. -/
theorem approveReject_returns {table : ProfileTable}
    (office : (∃ admin, loop = .adminMenu admin) ∨
      table = .voterProfiles ∧ ∃ officer, loop = .officerMenu officer)
    (ready : Ready loop world.store) (quiet : confirmation action = none) :
    Returns loop process action (approveReject table) world := by
  rw [approveReject_eq]
  refine Discipline.Resumes.read rules_stable (.plain quiet rfl)
    fun idStr moment later first => ?_
  replace ready := first.ready rules_stable ready
  refine Discipline.Resumes.read rules_stable (.plain rfl rfl)
    fun typedAction moment later second => ?_
  replace ready := second.ready rules_stable ready
  have typed := second.linesOf_typed
  rw [first.linesOf_typed] at typed
  split
  · exact Returns.done ready (.text rfl (by simp [reservedTexts, successTexts]))
  · rename_i status decided
    refine Discipline.Resumes.ask rules_stable (.plain rfl rfl) (fun _ _ => trivial)
      fun choice answer moment later after _ => ?_
    replace ready := after.ready rules_stable ready
    replace typed := after.linesOf_served.trans typed
    cases answer with
    | error e => exact Returns.done ready (.inputError rfl e.message)
    | ok _ =>
      dsimp only
      split
      · rename_i id parsed
        refine Discipline.Resumes.ask rules_stable (.plain rfl rfl)
          (fun _ rested => ⟨office, typedAction, idStr, _, rested.linesOf.trans typed, parsed,
            decided⟩)
          fun choice answer moment later after _ => ?_
        replace ready := after.ready rules_stable ready
        cases answer with
        | error e => exact Returns.done ready (.inputError rfl e.message)
        | ok found =>
          dsimp only
          split
          · rename_i some
            refine Returns.done ready (.success ?_)
            simp [confirmation, succeeds, successMessage, some]
          · rename_i none
            refine Returns.done ready (.text ?_ (by simp [reservedTexts, successTexts]))
            simp [confirmation, succeeds, none]
      · exact Returns.done ready (.inputError rfl _)

/-! ## Posts -/

/-- `postForum` keeps the rules in the menus of voters and candidates. -/
theorem postForum_returns {userId : Nat}
    (member : loop.session = some (userId, .voter) ∨ loop.session = some (userId, .candidate))
    (ready : Ready loop world.store) (quiet : confirmation action = none) :
    Returns loop process action (postForum userId) world := by
  rw [postForum_eq]
  refine Discipline.Resumes.read rules_stable (.plain quiet rfl)
    fun line moment later typed => ?_
  replace ready := typed.ready rules_stable ready
  split
  · exact Returns.done ready (.text rfl (by simp [reservedTexts, successTexts]))
  · refine Discipline.Resumes.ask rules_stable (.plain rfl rfl)
      (fun _ rested => ⟨member, line, _, rested.linesOf.trans typed.linesOf_typed, rfl⟩)
      fun choice answer moment later after _ => ?_
    replace ready := after.ready rules_stable ready
    cases answer with
    | error e => exact Returns.done ready (.dbError rfl e.message)
    | ok _ => exact Returns.done ready (.success rfl)

/-! ## Votes -/

/-- The newest check of a process at rest stays where it is. -/
theorem upTo_rested (rested : rules.Later process world moment) (check : Action app → Bool) :
    upTo process check moment.log = upTo process check world.log := by
  obtain ⟨newer, grown, others⟩ := rested.grown
  rw [grown, upTo_others others]

/-- A step that is no check leaves the newest check where it is. -/
theorem upTo_after (after : rules.After process action world moment later)
    {check : Action app → Bool} (other : check action = false) :
    upTo process check later.log = upTo process check world.log := by
  obtain ⟨loop, printed, logged⟩ := after.logged
  rw [logged, upTo_other (.inr other), upTo_rested after.rested]

/-- A check that was just made is the newest. -/
theorem upTo_made (after : rules.After process action world moment later)
    {check : Action app → Bool} (checks : check action = true) :
    upTo process check later.log = later.log := by
  obtain ⟨loop, printed, logged⟩ := after.logged
  rw [logged]
  exact upTo_check rfl checks moment.log

/-- A step that reports nothing leaves every standing as it was at its moment. -/
theorem standing_after (after : rules.After process action world moment later)
    (quiet : confirmation action = none) (table : ProfileTable) (id : Nat) :
    standing table id later.log = standing table id moment.log := by
  obtain ⟨loop, printed, logged⟩ := after.logged
  rw [logged]
  exact standing_cons (decisionOf_eq_none quiet table id) moment.log

/-- A query that succeeds is answered from the tables it found. -/
theorem query_served {stmt : Stmt} {choice : Choice} {database next : Database}
    {tables : List TableName} {answered result : Result stmt}
    (query : execute choice database stmt = database.query tables answered)
    (served : serve stmt choice database = some (next, .ok result)) :
    result = answered ∧ next = database := by
  have executed := serve_ok served
  rw [query] at executed
  exact ⟨Database.query_ok executed, Database.query_store executed⟩

/-- A voter that the SELECT found approved is checked. -/
theorem VoterChecked.made {voterId : Nat} {choice : Choice} {status : Status}
    {statuses : List Status} (approved : status = .approved)
    (after : rules.After process (.served (.selectVoterStatus voterId) choice
      (.ok (status :: statuses))) world moment later)
    (served : serve (.selectVoterStatus voterId) choice moment.store =
      some (later.store, .ok (status :: statuses))) :
    VoterChecked process voterId later.store.rows later.log := by
  obtain ⟨found, same⟩ := query_served rfl served
  have present : status ∈ (moment.store.rows.profilesOf .voterProfiles voterId).map
      Profile.status := by
    rw [← found]
    exact List.mem_cons_self
  obtain ⟨profile, stored, rfl⟩ := List.mem_map.mp present
  obtain ⟨stored, owner⟩ := List.mem_filter.mp stored
  refine ⟨profile, same ▸ stored, of_decide_eq_true owner, ?_⟩
  rw [upTo_made after rfl, standing_after after rfl, ← approved]
  exact (after.rested.invariant.standings .voterProfiles profile stored).symm

/-- A checked voter stays checked over the steps of others. -/
theorem VoterChecked.rested {voterId : Nat}
    (checked : VoterChecked process voterId world.store.rows world.log)
    (rested : rules.Later process world moment) :
    VoterChecked process voterId moment.store.rows moment.log := by
  obtain ⟨profile, stored, owner, approved⟩ := checked
  obtain ⟨next, kept, continues⟩ := rested.evolves.profiles .voterProfiles profile stored
  exact ⟨next, kept, continues.userId.trans owner, by
    rw [upTo_rested rested, continues.id, approved]⟩

/-- A checked voter stays checked over its own steps. -/
theorem VoterChecked.after {voterId : Nat}
    (checked : VoterChecked process voterId world.store.rows world.log)
    (after : rules.After process action world moment later)
    (other : isVoterCheck action = false) :
    VoterChecked process voterId later.store.rows later.log := by
  obtain ⟨profile, stored, owner, approved⟩ := checked
  obtain ⟨next, kept, continues⟩ :=
    (after.evolved rules_stable).profiles .voterProfiles profile stored
  exact ⟨next, kept, continues.userId.trans owner, by
    rw [upTo_after after other, continues.id, approved]⟩

/-- A candidate that the SELECT found approved under the typed identifier is checked. -/
theorem CandidateChecked.made {id : Int} {line : String} {older : List String} {choice : Choice}
    {candidateId : Nat} {others : List Nat} (typed : linesOf process later.log = line :: older)
    (parsed : parseInt (trim line) = some id)
    (after : rules.After process (.served (.selectCandidate id) choice
      (.ok (candidateId :: others))) world moment later)
    (served : serve (.selectCandidate id) choice moment.store =
      some (later.store, .ok (candidateId :: others))) :
    CandidateChecked process candidateId later.store.rows later.log := by
  obtain ⟨found, same⟩ := query_served rfl served
  have present : candidateId ∈ moment.store.rows.candidateUserIds id := by
    rw [← found]
    exact List.mem_cons_self
  obtain ⟨profile, stored, owner⟩ := List.mem_map.mp present
  obtain ⟨stored, addressed⟩ := List.mem_filter.mp stored
  obtain ⟨addressed, approved⟩ := of_decide_eq_true addressed
  refine ⟨profile, same ▸ stored, owner, ?_, ?_⟩
  · simp [typedId, typed, parsed, addressed]
  · rw [upTo_made after rfl, standing_after after rfl, ← approved]
    exact (after.rested.invariant.standings .candidateProfiles profile stored).symm

/-- A checked candidate stays checked over the steps of others. -/
theorem CandidateChecked.rested {candidateId : Nat}
    (checked : CandidateChecked process candidateId world.store.rows world.log)
    (rested : rules.Later process world moment) :
    CandidateChecked process candidateId moment.store.rows moment.log := by
  obtain ⟨profile, stored, owner, typed, approved⟩ := checked
  obtain ⟨next, kept, continues⟩ := rested.evolves.profiles .candidateProfiles profile stored
  exact ⟨next, kept, continues.userId.trans owner, by
    rw [typedId, rested.linesOf, continues.id]; exact typed, by
    rw [upTo_rested rested, continues.id, approved]⟩

/-- `castVote` from its second query on keeps the rules, once the voter was checked. -/
theorem chooseCandidate_resumes {voterId : Nat} {username : String} {printed : List Output}
    (ready : Ready (.voterMenu voterId username) world.store)
    (quiet : confirmation action = none) (plain : printed.all Output.isPlain = true)
    (checked : VoterChecked process voterId world.store.rows world.log) :
    Returns (.voterMenu voterId username) process action
      ((chooseCandidate voterId).prepend printed) world := by
  rw [chooseCandidate_eq, Dialogue.prepend_read]
  refine Discipline.Resumes.read rules_stable
    (.plain quiet (by rw [List.all_append, plain]; rfl)) fun idStr moment later first => ?_
  replace ready := first.ready rules_stable ready
  replace checked := checked.after first rfl
  refine Discipline.Resumes.ask rules_stable (.plain rfl rfl) (fun _ _ => trivial)
    fun choice answer moment later second _ => ?_
  replace ready := second.ready rules_stable ready
  replace checked := checked.after second rfl
  have typed := second.linesOf_served.trans first.linesOf_typed
  cases answer with
  | error e => exact Returns.done ready (.inputError rfl e.message)
  | ok _ =>
    dsimp only
    split
    · rename_i id parsed
      refine Discipline.Resumes.ask rules_stable (.plain rfl rfl) (fun _ _ => trivial)
        fun choice answer moment later third served => ?_
      replace ready := third.ready rules_stable ready
      replace checked := checked.after third rfl
      replace typed := third.linesOf_served.trans typed
      obtain e | rows := answer
      · exact Returns.done ready (.inputError rfl e.message)
      cases rows with
      | nil =>
        exact Returns.done ready (.text rfl (by simp [reservedTexts, successTexts]))
      | cons candidateUserId _ =>
        have chosen := CandidateChecked.made typed parsed third served
        refine Discipline.Resumes.ask rules_stable (.plain rfl rfl)
          (fun _ rested => ⟨rfl, checked.rested rested, chosen.rested rested⟩)
          fun choice answer moment later fourth _ => ?_
        replace ready := fourth.ready rules_stable ready
        cases answer with
        | error e => exact Returns.done ready (.inputError rfl e.message)
        | ok _ => exact Returns.done ready (.success rfl)
    · exact Returns.done ready (.inputError rfl _)

/-- `castVote` keeps the rules in the menu of the voter. -/
theorem castVote_returns {voterId : Nat} {username : String}
    (ready : Ready (.voterMenu voterId username) world.store)
    (quiet : confirmation action = none) :
    Returns (.voterMenu voterId username) process action (castVote voterId) world := by
  rw [castVote_eq]
  refine Discipline.Resumes.ask rules_stable (.plain quiet rfl) (fun _ _ => trivial)
    fun choice answer moment later first served => ?_
  replace ready := first.ready rules_stable ready
  obtain e | rows := answer
  · exact Returns.done ready (.dbError rfl e.message)
  cases rows with
  | nil => exact Returns.done ready (.text rfl (by simp [reservedTexts, successTexts]))
  | cons status _ =>
    dsimp only
    split
    · rename_i label
      have approved : status = .approved := by
        cases status <;> simp [Status.label] at label ⊢
      have checked := VoterChecked.made approved first served
      refine Discipline.Resumes.ask rules_stable (.plain rfl rfl) (fun _ _ => trivial)
        fun choice answer moment later second _ => ?_
      replace ready := second.ready rules_stable ready
      replace checked := checked.after second rfl
      obtain e | applied := answer
      · exact Returns.done ready (.dbError rfl e.message)
      cases applied with
      | true => exact Returns.done ready (.text rfl (by simp [reservedTexts, successTexts]))
      | false =>
        refine Discipline.Resumes.ask rules_stable
          (.text rfl (by simp [reservedTexts, successTexts])) (fun _ _ => trivial)
          fun choice answer moment later third _ => ?_
        refine chooseCandidate_resumes (third.ready rules_stable ready)
          (by cases answer <;> rfl) ?_ (checked.after third rfl)
        exact listing_all (fun _ plain => plain) (by simp [reservedTexts, successTexts])
          (flatMap_plain candidateLines_plain) _
    · exact Returns.done ready (.text rfl (by simp [reservedTexts, successTexts]))

end OnlineVoting
