import OnlineVoting.Console
import OnlineVoting.Readings

/-!
# What the listings show

The pending applications of a table and the approved candidates, as lines on the console: one line
`[ID:...]` for each application with the status, with its own identifier, and for candidates the
line of its manifesto below it. Nothing that anyone typed can add such a line, or the line that
says that there are none.
-/
namespace OnlineVoting

open Interleaving Relational

/-! ## Views -/

/-- The three listings of applications. -/
inductive View where
  /-- `viewPendingVoters` and `viewPendingCandidates` -/
  | pending (table : ProfileTable)
  /-- `viewApprovedCandidates` -/
  | approved

namespace View

/-- The table a view lists. -/
@[reducible] def table : View → ProfileTable
  | pending table => table
  | approved => .candidateProfiles

/-- The status a view lists. -/
def status : View → Status
  | pending _ => .pending
  | approved => .approved

/-- The query of a view. -/
@[reducible] def stmt : View → Stmt
  | pending table => .selectPending table
  | approved => .selectApproved

/-- The method of a view. -/
def reading : View → Reading
  | pending table => .pending table
  | approved => .approved

/-- What is printed before the query. -/
def title : View → Output
  | pending table => pendingTitle table
  | approved => .println "\n── Approved Candidates ──"

/-- What is printed of the answer. -/
def listing : (view : View) → Answer view.stmt → List Output
  | pending table => pendingListing table
  | approved => approvedListing

/-- The line that says that there is nothing to list. -/
def none : View → String
  | pending _ => "No pending applications."
  | approved => "No approved candidates yet."

/-- The rows of a view, for applications in this order. -/
def rows (view : View) (applicant : Nat → User) (order : List (Profile view.table.Entries)) :
    Result view.stmt :=
  match view with
  | pending _ => order.map fun profile =>
    ⟨profile.id, (applicant profile.userId).name, (applicant profile.userId).username,
      profile.entries⟩
  | approved => order.map fun profile =>
    ⟨profile.id, (applicant profile.userId).name, profile.entries⟩

/-! ## Lines -/

/-- The heading of a view. -/
def heading : View → String
  | pending .voterProfiles => "── Pending Voter Applications ──"
  | pending .candidateProfiles => "── Pending Candidate Applications ──"
  | approved => "── Approved Candidates ──"

/-- How the line of an application begins. -/
def idHead (id : Nat) : String := "[ID:" ++ Nat.repr id ++ "]"

/-- What the line of an application says after its identifier. -/
def details : (view : View) → User → view.table.Entries → String
  | pending .voterProfiles, user, entries => " " ++ padded 20 user.name ++ " (@" ++ user.username ++
      ") | " ++ entries.constituency ++ " | " ++ entries.address
  | pending .candidateProfiles, user, entries => " " ++ padded 20 user.name ++ " (@" ++
      user.username ++ ") | " ++ entries.party ++ " | " ++ entries.constituency
  | approved, user, entries => " " ++ padded 20 user.name ++ " | " ++ entries.party ++ " | " ++
      entries.constituency

/-- The line of an application. -/
def idLine (view : View) (applicant : Nat → User) (profile : Profile view.table.Entries) : String :=
  idHead profile.id ++ view.details (applicant profile.userId) profile.entries

/-- The lines below the line of an application. -/
def below : (view : View) → Profile view.table.Entries → List String
  | pending .voterProfiles, _ => []
  | pending .candidateProfiles, profile => ["       Manifesto: " ++ profile.entries.manifesto]
  | approved, profile => ["       Manifesto: " ++ profile.entries.manifesto]

/-- The lines of a listing of applications in this order. -/
def lines (view : View) (applicant : Nat → User) (order : List (Profile view.table.Entries)) :
    List String :=
  if order.isEmpty then [view.none]
  else order.flatMap fun profile => view.idLine applicant profile :: view.below profile

end View

/-- Everything that was entered is single lines. -/
def SingleLines : (table : ProfileTable) → table.Entries → Prop
  | .voterProfiles, entries => OneLine entries.constituency ∧ OneLine entries.address
  | .candidateProfiles, entries =>
    OneLine entries.party ∧ OneLine entries.constituency ∧ OneLine entries.manifesto

variable {timestamp : Nat → String}

namespace View

/-- The line of an application is one line. -/
theorem oneLine_idLine (view : View) {applicant : Nat → User} {profile : Profile view.table.Entries}
    (name : OneLine (applicant profile.userId).name)
    (username : OneLine (applicant profile.userId).username)
    (entries : SingleLines view.table profile.entries) : OneLine (view.idLine applicant profile) := by
  have fixed : OneLine "[ID:" ∧ OneLine "]" ∧ OneLine " " ∧ OneLine " (@" ∧ OneLine ") | " ∧
      OneLine " | " := by
    refine ⟨?_, ?_, ?_, ?_, ?_, ?_⟩ <;> simp [OneLine, lineBreak]
  obtain ⟨start, close, space, at_, shut, bar⟩ := fixed
  have head : OneLine (idHead profile.id) := (start.append (oneLine_repr _)).append close
  have padding := space.append (name.padded 20)
  refine head.append ?_
  cases view with
  | pending table =>
    cases table with
    | voterProfiles =>
      obtain ⟨constituency, address⟩ := entries
      exact (((((padding.append at_).append username).append shut).append constituency).append
        bar).append address
    | candidateProfiles =>
      obtain ⟨party, constituency, _⟩ := entries
      exact (((((padding.append at_).append username).append shut).append party).append bar).append
        constituency
  | approved =>
    obtain ⟨party, constituency, _⟩ := entries
    exact (((padding.append bar).append party).append bar).append constituency

/-- A manifesto is printed on one line. -/
theorem oneLine_manifesto {manifesto : String} (line : OneLine manifesto) :
    OneLine ("       Manifesto: " ++ manifesto) := by
  have fixed : OneLine "       Manifesto: " := by simp [OneLine, lineBreak]
  exact fixed.append line

/-- A listing of rows writes the lines of each row, or says that there are none. -/
theorem writes_listing {Source Row : Type} {none : String} {outputs : Row → List Output}
    {row : Source → Row} {lines : Source → List String} {sources : List Source}
    (line : OneLine none)
    (each : ∀ source ∈ sources, Writes timestamp (outputs (row source)) (lines source)) :
    Writes timestamp (OnlineVoting.listing none (·.flatMap outputs) (.ok (sources.map row)))
      ((if sources.isEmpty then [none] else sources.flatMap lines) ++ [""]) := by
  have last : Writes timestamp [.println ""] [""] := .println (by simp [OneLine])
  cases sources with
  | nil => exact (Writes.println line).append last
  | cons source sources =>
    have rows : Writes timestamp (((source :: sources).map row).flatMap outputs)
        ((source :: sources).flatMap lines) := by
      rw [List.flatMap_map]
      exact Writes.flatMap each
    exact rows.append last

/-- A listing writes its lines, when everything that was entered is single lines. -/
theorem writes (view : View) {applicant : Nat → User} {order : List (Profile view.table.Entries)}
    (single : ∀ profile ∈ order, OneLine (applicant profile.userId).name ∧
      OneLine (applicant profile.userId).username ∧ SingleLines view.table profile.entries) :
    Writes timestamp (view.listing (.ok (view.rows applicant order)))
      (view.lines applicant order ++ [""]) := by
  have idLines : ∀ profile ∈ order, OneLine (view.idLine applicant profile) :=
    fun profile listed => view.oneLine_idLine (single profile listed).1 (single profile listed).2.1
      (single profile listed).2.2
  have number (n : Nat) : toString (n : Int) = Nat.repr n := rfl
  cases view with
  | pending table =>
    cases table with
    | voterProfiles =>
      refine writes_listing (by simp [OneLine, lineBreak]) fun profile listed => ⟨?_, ?_⟩
      · simp [pendingVoterLines, Output.text, format, Arg.written, number, idLine, idHead, details,
          below]
      · simpa [below] using idLines profile listed
    | candidateProfiles =>
      refine writes_listing (by simp [OneLine, lineBreak]) fun profile listed => ⟨?_, ?_⟩
      · simp [pendingCandidateLines, Output.text, format, Arg.written, number, idLine, idHead,
          details, below]
      · simpa [below] using ⟨idLines profile listed,
          oneLine_manifesto (single profile listed).2.2.2.2⟩
  | approved =>
    refine writes_listing (by simp [OneLine, lineBreak]) fun profile listed => ⟨?_, ?_⟩
    · simp [candidateLines, Output.text, format, Arg.written, number, idLine, idHead, details,
        below]
    · simpa [below] using ⟨idLines profile listed,
        oneLine_manifesto (single profile listed).2.2.2.2⟩

/-- The title of a view ends the line of the prompt, and is a line of its own. -/
theorem writes_title (view : View) : Writes timestamp [view.title] ["", view.heading] := by
  cases view with
  | pending table =>
    cases table with
    | voterProfiles =>
      exact ⟨by simp [title, pendingTitle, heading, Output.text],
        by simp [heading, OneLine, lineBreak]⟩
    | candidateProfiles =>
      exact ⟨by simp [title, pendingTitle, heading, Output.text],
        by simp [heading, OneLine, lineBreak]⟩
  | approved =>
    exact ⟨by simp [title, heading, Output.text], by simp [heading, OneLine, lineBreak]⟩

/-! ## The lines of the applications -/

/-- The line begins as only the line of an application does. -/
def isIdLine (line : String) : Bool := "[ID:".toList.isPrefixOf line.toList

/-- The line of an application begins with its identifier. -/
theorem idHead_prefix (view : View) (applicant : Nat → User)
    (profile : Profile view.table.Entries) :
    (idHead profile.id).toList <+: (view.idLine applicant profile).toList := by
  rw [idLine, String.toList_append]
  exact List.prefix_append _ _

/-- The line of an application begins as such. -/
theorem isIdLine_idLine (view : View) (applicant : Nat → User)
    (profile : Profile view.table.Entries) : isIdLine (view.idLine applicant profile) = true := by
  simp [isIdLine, idLine, idHead]

/-- Applications with one line have one identifier. -/
theorem id_of_idLine (view : View) {applicant : Nat → User} {left right : Profile view.table.Entries}
    (same : view.idLine applicant left = view.idLine applicant right) : left.id = right.id := by
  have digits (profile : Profile view.table.Entries) :
      ((view.idLine applicant profile).toList.drop 4).takeWhile (· ≠ ']') =
        (Nat.repr profile.id).toList := by
    have solid : ∀ c ∈ (Nat.repr profile.id).toList, decide (c ≠ ']') = true := by
      intro c present
      have digit := isDigit_of_mem_repr present
      rw [decide_eq_true_iff]
      rintro rfl
      exact absurd digit (by decide)
    have written : (view.idLine applicant profile).toList.drop 4 = (Nat.repr profile.id).toList ++
        ']' :: (view.details (applicant profile.userId) profile.entries).toList := by
      simp [idLine, idHead]
    rw [written, List.takeWhile_append_of_pos solid]
    simp
  have equal : (Nat.repr left.id).toList = (Nat.repr right.id).toList := by
    rw [← digits left, ← digits right, same]
  exact Nat.repr_injective (String.toList_inj.mp equal)

/-- No other line of a listing begins as the line of an application, or says that there are none. -/
theorem plain_below (view : View) {profile : Profile view.table.Entries} {line : String}
    (present : line ∈ view.below profile) : isIdLine line = false ∧ line ≠ view.none := by
  have manifesto (text : String) : isIdLine ("       Manifesto: " ++ text) = false ∧
      ("       Manifesto: " ++ text).toList.head? = some ' ' :=
    ⟨by simp [isIdLine, List.isPrefixOf], by simp⟩
  have other : view.none.toList.head? ≠ some ' ' := by
    cases view <;> simp [none]
  have shown : isIdLine line = false ∧ line.toList.head? = some ' ' := by
    cases view with
    | pending table =>
      cases table with
      | voterProfiles => simp [below] at present
      | candidateProfiles =>
        obtain rfl := List.mem_singleton.mp present
        exact manifesto _
    | approved =>
      obtain rfl := List.mem_singleton.mp present
      exact manifesto _
  refine ⟨shown.1, ?_⟩
  rintro rfl
  exact other shown.2

/-- The lines of a view with its title; the last is the one that more output would continue. -/
def page (view : View) (applicant : Nat → User) (order : List (Profile view.table.Entries)) :
    List String := ["", view.heading] ++ (view.lines applicant order ++ ["", ""])

/-- When everything that was entered is single lines, the console shows the page of a view. -/
theorem consoleLines_page (view : View) {applicant : Nat → User}
    {order : List (Profile view.table.Entries)}
    (single : ∀ profile ∈ order, OneLine (applicant profile.userId).name ∧
      OneLine (applicant profile.userId).username ∧ SingleLines view.table profile.entries) :
    consoleLines timestamp (view.title :: view.listing (.ok (view.rows applicant order))) =
      view.page applicant order := by
  have title := @writes_title timestamp view
  have listed := @writes timestamp view applicant order single
  have whole := (title.append listed).lines
  rw [List.singleton_append] at whole
  rw [whole, page, List.append_assoc, List.append_assoc]
  rfl

/-- The heading and the empty lines are neither. -/
theorem plain_frame (view : View) :
    isIdLine "" = false ∧ isIdLine view.heading = false ∧ isIdLine view.none = false ∧
      view.none ≠ "" ∧ view.none ≠ view.heading := by
  cases view with
  | pending table =>
    cases table with
    | voterProfiles => simp [isIdLine, heading, none, List.isPrefixOf]
    | candidateProfiles => simp [isIdLine, heading, none, List.isPrefixOf]
  | approved => simp [isIdLine, heading, none, List.isPrefixOf]

/-- The lines of a page that begin as the lines of applications are those of the listed ones. -/
theorem filter_page (view : View) (applicant : Nat → User)
    (order : List (Profile view.table.Entries)) :
    (view.page applicant order).filter isIdLine = order.map (view.idLine applicant) := by
  obtain ⟨empty, heading, none, _, _⟩ := view.plain_frame
  have inner : (view.lines applicant order).filter isIdLine =
      order.map (view.idLine applicant) := by
    cases order with
    | nil => simp [lines, none]
    | cons first others =>
      have each (profile : Profile view.table.Entries) :
          (view.idLine applicant profile :: view.below profile).filter isIdLine =
            [view.idLine applicant profile] := by
        have nothing : (view.below profile).filter isIdLine = [] := by
          rw [List.filter_eq_nil_iff]
          intro line present
          simp [(view.plain_below present).1]
        rw [List.filter_cons_of_pos (view.isIdLine_idLine applicant profile), nothing]
      have whole : view.lines applicant (first :: others) = (first :: others).flatMap
          fun profile => view.idLine applicant profile :: view.below profile := rfl
      rw [whole, List.filter_flatMap]
      simp only [each]
      exact List.map_eq_flatMap.symm
  simp [page, inner, empty, heading]

/-- A page says that there are none exactly if it lists none. -/
theorem none_mem_page (view : View) (applicant : Nat → User)
    (order : List (Profile view.table.Entries)) :
    view.none ∈ view.page applicant order ↔ order = [] := by
  obtain ⟨_, _, plain, empty, heading⟩ := view.plain_frame
  have frame : view.none ∈ view.page applicant order ↔ view.none ∈ view.lines applicant order := by
    simp [page, empty, heading]
  rw [frame]
  constructor
  · intro present
    cases order with
    | nil => rfl
    | cons first others =>
      have whole : view.lines applicant (first :: others) = (first :: others).flatMap
          fun profile => view.idLine applicant profile :: view.below profile := rfl
      rw [whole] at present
      obtain ⟨profile, _, inside⟩ := List.mem_flatMap.mp present
      rcases List.mem_cons.mp inside with same | under
      · rw [same, view.isIdLine_idLine] at plain
        contradiction
      · exact absurd rfl (view.plain_below under).2
  · rintro rfl
    simp [lines]

/-- Below the line of every listed application are its further lines. -/
theorem block_of_page (view : View) (applicant : Nat → User)
    {order : List (Profile view.table.Entries)} {profile : Profile view.table.Entries}
    (listed : profile ∈ order) : ∃ before after, view.page applicant order =
      before ++ (view.idLine applicant profile :: view.below profile) ++ after := by
  let block (profile : Profile view.table.Entries) : List String :=
    view.idLine applicant profile :: view.below profile
  obtain ⟨first, last, rfl⟩ := List.append_of_mem listed
  have whole : view.lines applicant (first ++ profile :: last) =
      (first ++ profile :: last).flatMap block := by
    have some : (first ++ profile :: last).isEmpty = false := by simp
    simp [lines, some, block]
  refine ⟨["", view.heading] ++ first.flatMap block, last.flatMap block ++ ["", ""], ?_⟩
  rw [page, whole, List.flatMap_append, List.flatMap_cons]
  simp only [List.append_assoc, block]

/-- Applications with identifiers of their own have lines of their own. -/
theorem idLines_nodup (view : View) (applicant : Nat → User)
    {order : List (Profile view.table.Entries)} (ids : (order.map Profile.id).Nodup) :
    (order.map (view.idLine applicant)).Nodup := by
  rw [List.nodup_iff_pairwise_ne, List.pairwise_map] at ids ⊢
  exact ids.imp fun apart same => apart (view.id_of_idLine same)

end View

section

variable [Platform]

/-! ## The listed applications -/

/-- The applications with the status of a view. -/
def View.applications (view : View) (rows : Rows) : List (Profile view.table.Entries) :=
  (rows.profiles view.table).filter fun profile => profile.status = view.status

/-- The applications of a view, as the server reads them. -/
def View.order (view : View) (rows : Rows) (scan : Nat → Nat) :
    List (Profile view.table.Entries) :=
  Rows.scanned scan Profile.id (view.applications rows)

omit [Platform] in
/-- Sorting rows with their applicants is sorting the applications. -/
theorem scanned_map {Entries : Type} (scan : Nat → Nat) (applicant : Nat → User)
    (profiles : List (Profile Entries)) :
    Rows.scanned scan (fun row : Profile Entries × User => row.1.id)
      (profiles.map fun profile => (profile, applicant profile.userId)) =
        (Rows.scanned scan Profile.id profiles).map
          fun profile => (profile, applicant profile.userId) := by
  let row (profile : Profile Entries) : Profile Entries × User :=
    (profile, applicant profile.userId)
  have sorted := List.map_insertionSort
    (fun left right : Profile Entries => scan left.id ≤ scan right.id)
    (fun left right : Profile Entries × User => scan left.1.id ≤ scan right.1.id) row profiles
    fun _ _ _ _ => Iff.rfl
  exact sorted.symm

/-- The query of a view succeeds with the rows of its applications. -/
theorem View.execute_eq (view : View) (choice : Choice) (database : Database) :
    ∃ tables, execute choice database view.stmt = database.query tables
      (view.rows database.rows.applicant (view.order database.rows choice.scan)) := by
  cases view with
  | pending table =>
    refine ⟨[table.name, .users], ?_⟩
    rw [execute, Rows.pending, database.withStatus_eq, scanned_map, List.map_map]
    rfl
  | approved =>
    refine ⟨[.candidateProfiles, .users], ?_⟩
    rw [execute, Rows.approved, database.withStatus_eq, scanned_map, List.map_map]
    rfl

/-! ## Entered text -/

/-- Names and usernames are single lines. -/
theorem user_oneLine {system : System app} (reachable : system.Reachable)
    (scans : ScansLines system.log) {user : User} (stored : user ∈ system.store.rows.users) :
    OneLine user.name ∧ OneLine user.username := by
  have recorded := (good_of_reachable reachable).invariant.recorded
  rcases recorded.users user stored with seed | occurs
  · rw [seed]
    exact ⟨by simp [adminUser, OneLine, lineBreak], by simp [adminUser, OneLine, lineBreak]⟩
  · obtain ⟨newer, entry, older, split, _, _, typed⟩ := occurs
    obtain ⟨role, password, username, name, rest, lines, sameUsername, _, sameName, _⟩ := typed
    rw [split] at scans
    have read (line : String) (present : line ∈ linesOf entry.process older) : OneLine line :=
      scans.read present
    rw [sameName, sameUsername]
    exact ⟨(read name (by simp [lines])).trim, (read username (by simp [lines])).trim⟩

/-- Entered columns are single lines. -/
theorem profile_singleLines {system : System app} (reachable : system.Reachable)
    (scans : ScansLines system.log) {table : ProfileTable} {profile : Profile table.Entries}
    (stored : profile ∈ system.store.rows.profiles table) :
    SingleLines table profile.entries := by
  have recorded := (good_of_reachable reachable).invariant.recorded
  obtain ⟨newer, entry, older, split, _, _, typed⟩ := recorded.profiles table profile stored
  rw [split] at scans
  have read (line : String) (present : line ∈ linesOf entry.process older) : OneLine (trim line) :=
    (scans.read present).trim
  cases table with
  | voterProfiles =>
    obtain ⟨address, constituency, rest, lines, same⟩ := enteredFrom_voter typed
    rw [same]
    exact ⟨read constituency (by simp [lines]), read address (by simp [lines])⟩
  | candidateProfiles =>
    obtain ⟨manifesto, constituency, party, rest, lines, same⟩ := enteredFrom_candidate typed
    rw [same]
    exact ⟨read party (by simp [lines]), read constituency (by simp [lines]),
      read manifesto (by simp [lines])⟩

/-! ## The listings -/

/-- A session that waits for the query of a view has printed its title; it is answered with the
applications of the view, and prints the listing, followed in `castVote` by the next prompt. -/
theorem view_step {system : System app} (reachable : system.Reachable) (view : View)
    {process : Nat} (requests : system.requested process = some view.stmt) {choice : Choice}
    (fault : choice.fault = none) :
    ∃ loop next later entry prompt,
      system.process process = some ⟨loop, .ask [view.title] view.stmt next⟩ ∧
      system.step (.serve process choice) = some later ∧ later.log = entry :: system.log ∧
      entry.process = process ∧
      entry.printed = view.listing (.ok (view.rows system.store.rows.applicant
        (view.order system.store.rows choice.scan))) ++ prompt ∧
      (prompt = [] ∨ prompt = [.print "Enter Candidate ID to vote for: "]) := by
  obtain ⟨tables, queries⟩ := view.execute_eq choice system.store
  obtain ⟨loop, printed, next, waits, stepped⟩ := query_step reachable requests
    (by cases view <;> simp [connectStatements, setupStatements]) fault queries
  obtain ⟨⟨_, _, shows⟩, _⟩ := asks_of_reachable reachable waits
  cases view with
  | pending table =>
    obtain ⟨rfl, goes⟩ := shows
    refine ⟨_, _, _, _, [], waits, stepped, rfl, rfl, ?_, .inl rfl⟩
    simp only [Option.map_some, Option.getD_some, goes, List.append_nil]
    rfl
  | approved =>
    obtain ⟨rfl, goes⟩ := shows
    rcases goes (.ok (View.approved.rows system.store.rows.applicant
      (View.approved.order system.store.rows choice.scan))) with returns | ⟨more, reads⟩
    · refine ⟨_, _, _, _, [], waits, stepped, rfl, rfl, ?_, .inl rfl⟩
      simp only [Option.map_some, Option.getD_some, returns, List.append_nil]
      rfl
    · refine ⟨_, _, _, _, _, waits, stepped, rfl, rfl, ?_, .inr rfl⟩
      simp only [Option.map_some, Option.getD_some, reads]
      rfl

/-- On the lines of a listing, exactly those of the applications of the view begin as such lines do,
one line each, with its own identifier and the further lines of the application below it; and the
line that there are none is printed exactly if there are none. -/
def View.Lists (view : View) (timestamp : Nat → String) (rows : Rows) (listed : List Output) :
    Prop :=
  ∃ (lines : List String) (order : List (Profile view.table.Entries))
    (idLine : Profile view.table.Entries → String),
    lines = consoleLines timestamp (view.title :: listed) ∧
    order.Perm (view.applications rows) ∧
    lines.filter View.isIdLine = order.map idLine ∧ (order.map idLine).Nodup ∧
    (∀ profile ∈ order, (View.idHead profile.id).toList <+: (idLine profile).toList ∧
      ∃ before after, lines = before ++ (idLine profile :: view.below profile) ++ after) ∧
    (view.none ∈ lines ↔ view.applications rows = [])

/-- When single lines were typed, a listing shows the applications of its view. -/
theorem lists_of_reachable {system : System app} (reachable : system.Reachable)
    (scans : ScansLines system.log) (timestamp : Nat → String) (view : View) (scan : Nat → Nat) :
    view.Lists timestamp system.store.rows (view.listing (.ok (view.rows
      system.store.rows.applicant (view.order system.store.rows scan)))) := by
  have listed : (view.order system.store.rows scan).Perm (view.applications system.store.rows) :=
    List.perm_insertionSort _ _
  have stored (profile : Profile view.table.Entries)
      (present : profile ∈ view.order system.store.rows scan) :
      profile ∈ system.store.rows.profiles view.table :=
    (List.mem_filter.mp (listed.mem_iff.mp present)).1
  have single : ∀ profile ∈ view.order system.store.rows scan,
      OneLine (system.store.rows.applicant profile.userId).name ∧
      OneLine (system.store.rows.applicant profile.userId).username ∧
      SingleLines view.table profile.entries := by
    intro profile present
    obtain ⟨known, _⟩ := system.store.user_stored
      (system.store.refers.applicant view.table profile (stored profile present))
    obtain ⟨name, username⟩ := user_oneLine reachable scans known
    exact ⟨name, username, profile_singleLines reachable scans (stored profile present)⟩
  have ids : ((view.order system.store.rows scan).map Profile.id).Nodup := by
    rw [(listed.map Profile.id).nodup_iff, List.nodup_iff_pairwise_ne, List.pairwise_map]
    have apart : (system.store.rows.profiles view.table).Pairwise
        fun left right => ¬ left.Clash right := Table.rowsOf_distinct _
    exact (apart.filter _).imp fun free same => free (.inl same)
  refine ⟨view.page system.store.rows.applicant (view.order system.store.rows scan),
    view.order system.store.rows scan, view.idLine system.store.rows.applicant,
    (view.consoleLines_page single).symm, listed, view.filter_page _ _, view.idLines_nodup _ ids,
    fun profile present => ⟨view.idHead_prefix _ profile, view.block_of_page _ present⟩, ?_⟩
  rw [view.none_mem_page]
  constructor
  · intro nothing
    rw [nothing] at listed
    exact listed.symm.eq_nil
  · intro nothing
    rw [nothing] at listed
    exact listed.eq_nil

/-- The steps that begin a listing: a line that chooses its method in a menu, and, of the approved
candidates, also the answer in `castVote` that the voter has not voted. -/
inductive BeginsListing (system : System app) (process : Nat) : View → Event app → Prop where
  /-- A line is typed at a menu. -/
  | chosen {view : View} {loop : Loop} {line : String}
    (runs : (system.process process).map Process.loop = some loop)
    (fresh : roundOf process system.log = [])
    (chooses : loop.reading (trim line) = some view.reading) :
    BeginsListing system process view (.type process line)
  /-- A voter has not voted. -/
  | casting {voterId : Nat} {choice : Choice}
    (requests : system.requested process = some (.existsVote voterId))
    (fault : choice.fault = none)
    (free : ∀ vote ∈ system.store.rows.votes, vote.voterId ≠ voterId) :
    BeginsListing system process .approved (.serve process choice)

/-- A listing that was begun waits for the answer of its query, whatever the others do. -/
theorem BeginsListing.waits {system : System app} (reachable : system.Reachable) {process : Nat}
    {view : View} {event : Event app} (begins : BeginsListing system process view event) :
    ∃ asked, system.step event = some asked ∧ asked.store = system.store ∧ asked.Reachable ∧
      ∀ events later, (∀ other ∈ events, other.actor ≠ process) →
        asked.run events = some later → later.requested process = some view.stmt := by
  cases begins with
  | @chosen _ loop line runs fresh chooses =>
    obtain ⟨asked, stepped, same, further, waits⟩ := choice_reads reachable runs fresh chooses
    refine ⟨asked, stepped, same, further, fun events later idle ran => ?_⟩
    rw [Reading.requested (waits events later idle ran)]
    cases view <;> rfl
  | casting requests fault free =>
    obtain ⟨asked, stepped, same, further, waits⟩ := casting_lists reachable requests fault free
    refine ⟨asked, stepped, same, further, fun events later idle ran => ?_⟩
    obtain ⟨loop, next, rest⟩ := waits events later idle ran
    rw [System.requested, rest]
    rfl

/-- A listing that is begun prints its title, and asks once, whatever the other sessions do before
it is answered; the answer is printed as a listing of the applications that the view then has. -/
theorem listings_exact {system : System app} (reachable : system.Reachable) {view : View}
    {process : Nat} {event : Event app} (begins : BeginsListing system process view event) :
    ∃ asked, system.step event = some asked ∧ asked.store = system.store ∧
      ∀ events later choice, (∀ other ∈ events, other.actor ≠ process) →
        asked.run events = some later → ScansLines later.log → choice.fault = none →
          ∃ loop next after entry listed prompt,
            later.process process = some ⟨loop, .ask [view.title] view.stmt next⟩ ∧
            later.step (.serve process choice) = some after ∧ after.log = entry :: later.log ∧
            entry.process = process ∧ entry.printed = listed ++ prompt ∧
            (prompt = [] ∨ prompt = [.print "Enter Candidate ID to vote for: "]) ∧
            ∀ timestamp, view.Lists timestamp later.store.rows listed := by
  obtain ⟨asked, stepped, same, further, requests⟩ := begins.waits reachable
  refine ⟨asked, stepped, same, fun events later choice idle ran scans fault => ?_⟩
  have reached : later.Reachable := further.run ran
  obtain ⟨loop, next, after, entry, prompt, waits, served, logged, own, printed, prompts⟩ :=
    view_step reached view (requests events later idle ran) fault
  exact ⟨loop, next, after, entry, _, prompt, waits, served, logged, own, printed, prompts,
    fun timestamp => lists_of_reachable reached scans timestamp view choice.scan⟩

end

/-! ## A listing -/

section

attribute [local instance] latin1

/-- The admin has logged in before anything is decided. -/
def review : List (Event app) := applicants ++ loggingIn 0 "admin" "admin123"

/-- Vera has logged in after all applications were approved. -/
def verdict : List (Event app) := polls ++ loggingIn 0 "vera" "secret"

/-- A listing that is begun so and served shows two applications, with these identifiers. -/
def ListsTwo (system : System app) (event : Event app) (view : View) (first second : Nat) : Prop :=
  ∃ asked later entry listed prompt, ∃ one two : String, system.step event = some asked ∧
    asked.step (.serve 0 tallying) = some later ∧ later.log = entry :: asked.log ∧
    entry.printed = listed ++ prompt ∧
    ((consoleLines toString (view.title :: listed)).filter View.isIdLine).Perm [one, two] ∧
    (View.idHead first).toList <+: one.toList ∧ (View.idHead second).toList <+: two.toList ∧
    view.none ∉ consoleLines toString (view.title :: listed)

/-- The first process is at a menu, where this line is typed next, and lines were typed before. -/
def AtMenu (system : System app) (loop : Loop) (line : String) : Prop :=
  @Option.map _ Loop Process.loop (system.process 0) = some loop ∧
    (roundOf 0 system.log).length = 0 ∧
    (system.step (.type 0 line)).all (fun asked => decide (ScansLines asked.log)) = true

instance (system : System app) (loop : Loop) (line : String) : Decidable (AtMenu system loop line) :=
  inferInstanceAs (Decidable (_ ∧ _))

/-- Vera's application. -/
def verasApplication : VoterProfile := ⟨5, 4, ⟨"North", "Main Street 1"⟩, .pending⟩

/-- Wim's application. -/
def wimsApplication : VoterProfile := ⟨6, 5, ⟨"South", "High Street 2"⟩, .pending⟩

set_option maxRecDepth 10000 in
/-- The menus where the admin and Vera choose, and the applications in the tables then. -/
theorem review_runs : ∃ pending decided : System app,
    (System.initial app).run review = some pending ∧
    (System.initial app).run verdict = some decided ∧
    AtMenu pending (.adminMenu 1) "1" ∧ AtMenu pending (.adminMenu 1) "3" ∧
    AtMenu decided (.voterMenu 4 "vera") "3" ∧
    View.applications (.pending .voterProfiles) pending.store.rows = [verasApplication, wimsApplication] ∧
    View.applications (.pending .candidateProfiles) pending.store.rows =
      [{ cara with status := .pending }, { dan with status := .pending }] ∧
    View.applications .approved decided.store.rows = [cara, dan] := by
  have opened : ((System.initial app).run review).map (fun system => decide
      (AtMenu system (.adminMenu 1) "1" ∧ AtMenu system (.adminMenu 1) "3" ∧
        system.store.rows.voters = [verasApplication, wimsApplication] ∧
        system.store.rows.candidates = [{ cara with status := .pending },
          { dan with status := .pending }])) = some true := by
    decide +kernel
  have settled : ((System.initial app).run verdict).map (fun system => decide
      (AtMenu system (.voterMenu 4 "vera") "3" ∧ system.store.rows.candidates = [cara, dan])) =
      some true := by
    decide +kernel
  obtain ⟨pending, ran, seen⟩ := Option.map_eq_some_iff.mp opened
  obtain ⟨one, three, voters, candidates⟩ := of_decide_eq_true seen
  obtain ⟨decided, ran', seen'⟩ := Option.map_eq_some_iff.mp settled
  obtain ⟨menu, approved⟩ := of_decide_eq_true seen'
  have listed (view : View) (rows : Rows) : view.applications rows =
      (rows.profiles view.table).filter fun profile => profile.status = view.status := rfl
  refine ⟨pending, decided, ran, ran', one, three, menu, ?_, ?_, ?_⟩
  · have all : pending.store.rows.profiles .voterProfiles = [verasApplication, wimsApplication] := voters
    rw [listed, all]
    rfl
  · have all : pending.store.rows.profiles .candidateProfiles =
      [{ cara with status := .pending }, { dan with status := .pending }] := candidates
    rw [listed, all]
    rfl
  · have all : decided.store.rows.profiles .candidateProfiles = [cara, dan] := approved
    rw [listed, all]
    rfl

/-- The digits that are typed in the menus are as they are. -/
theorem trim_choices : trim "1" = "1" ∧ trim "3" = "3" := by decide

/-- The admin is shown the applications of Vera and Wim, and those of Cara and Dan; and Vera is shown
Cara and Dan when they are approved. -/
theorem listings_exact_review : ∃ pending decided : System app,
    (System.initial app).run review = some pending ∧
    (System.initial app).run verdict = some decided ∧
    ListsTwo pending (.type 0 "1") (.pending .voterProfiles) 5 6 ∧
    ListsTwo pending (.type 0 "3") (.pending .candidateProfiles) 7 8 ∧
    ListsTwo decided (.type 0 "3") .approved 7 8 := by
  have each {system : System app} (reachable : system.Reachable) {loop : Loop} {line : String}
      {view : View} (menu : AtMenu system loop line)
      (chooses : loop.reading (trim line) = some view.reading)
      {first second : Profile view.table.Entries}
      (stored : view.applications system.store.rows = [first, second]) :
      ListsTwo system (.type 0 line) view first.id second.id := by
    obtain ⟨runs, fresh, scans⟩ := menu
    obtain ⟨asked, stepped, same, served⟩ :=
      listings_exact reachable (.chosen runs (List.length_eq_zero_iff.mp fresh) chooses)
    rw [stepped, Option.all_some] at scans
    obtain ⟨_, _, later, entry, listed, prompt, _, answered, logged, _, printed, _, shows⟩ :=
      served [] asked tallying (by simp) rfl (of_decide_eq_true scans) rfl
    obtain ⟨lines, order, idLine, page, perm, filtered, _, blocks, none⟩ := shows toString
    rw [same, stored] at perm none
    subst page
    refine ⟨asked, later, entry, listed, prompt, idLine first, idLine second, stepped, answered,
      logged, printed, ?_, (blocks first (perm.mem_iff.mpr (by simp))).1,
      (blocks second (perm.mem_iff.mpr (by simp))).1, fun present => ?_⟩
    · rw [filtered]
      exact perm.map idLine
    · have impossible := none.mp present
      contradiction
  obtain ⟨pending, decided, ran, ran', one, three, menu, voters, candidates, approved⟩ := review_runs
  refine ⟨pending, decided, ran, ran', ?_, ?_, ?_⟩
  · exact @each pending ⟨review, ran⟩ _ "1" (.pending .voterProfiles) one
      (by rw [trim_choices.1]; rfl) verasApplication wimsApplication voters
  · exact @each pending ⟨review, ran⟩ _ "3" (.pending .candidateProfiles) three
      (by rw [trim_choices.2]; rfl) { cara with status := .pending }
        { dan with status := .pending } candidates
  · exact @each decided ⟨verdict, ran'⟩ _ "3" .approved menu
      (by rw [trim_choices.2]; rfl) cara dan approved

end

end OnlineVoting
