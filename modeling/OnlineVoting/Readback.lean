import OnlineVoting.Atomicity
import OnlineVoting.Columns
import OnlineVoting.Listings
import OnlineVoting.Ranking

/-!
# Reading the pages back

The program prints identifiers, ranks and numbers of votes between texts that users have entered.
Read back from the lines of a page, they are what was printed, whatever was entered: an identifier
that staff reads from a listing is accepted by `approveReject` and names that very application, and
the admin reads from the leaderboard how many votes were reported for each candidate.
-/
namespace OnlineVoting

open Interleaving

/-! ## Numbers -/

/-- A decimal digit is read as its value. -/
theorem digit_digitChar : ∀ d < 10, digit (Nat.digitChar d) = some d := by decide

/-- One more digit is read last. -/
theorem parseDigits_append (front : List Char) (last : Char) (value : Nat) :
    parseDigits (front ++ [last]) value =
      (parseDigits front value).bind fun read => (digit last).map (10 * read + ·) := by
  induction front generalizing value with
  | nil => cases read : digit last <;> simp [parseDigits, read]
  | cons c front ih =>
    rw [List.cons_append, parseDigits, parseDigits, Option.bind_assoc]
    exact congrArg _ (funext fun d => ih _)

/-- The digits of a number are read as that number. -/
theorem parseDigits_toDigits (n : Nat) : parseDigits (Nat.toDigits 10 n) 0 = some n := by
  induction n using Nat.strong_induction_on with
  | _ n ih =>
    by_cases small : n < 10
    · rw [Nat.toDigits_of_lt_base small]
      simp [parseDigits, digit_digitChar n small]
    · have last : n % 10 < 10 := Nat.mod_lt n (by decide)
      rw [Nat.toDigits_of_base_le (by decide) (by omega), parseDigits_append,
        ih (n / 10) (by omega), Option.bind_some, digit_digitChar _ last, Option.map_some]
      congr 1
      omega

/-- `Integer.parseInt` reads a printed number of its range. -/
theorem parseInt_repr {n : Nat} (range : n < 2 ^ 31) : parseInt (Nat.repr n) = some (n : Int) := by
  have digits := parseDigits_toDigits n
  have own : ∀ c ∈ Nat.toDigits 10 n, c.isDigit = true :=
    fun c present => Nat.isDigit_of_mem_toDigits (by decide) (by decide) present
  have some : Nat.toDigits 10 n ≠ [] := Nat.toDigits_ne_nil
  unfold parseInt
  rw [Nat.toList_repr]
  generalize Nat.toDigits 10 n = text at digits own some
  split
  · exact absurd rfl some
  · exact absurd (own '-' List.mem_cons_self) (by decide)
  · exact absurd (own '+' List.mem_cons_self) (by decide)
  · exact absurd (own '-' List.mem_cons_self) (by decide)
  · exact absurd (own '+' List.mem_cons_self) (by decide)
  · rw [digits, Option.bind_some, if_pos range]

/-! ## Identifiers -/

/-- The identifier on a line that begins as the line of an application does. -/
def readId (line : String) : Option String :=
  if View.isIdLine line then some (String.ofList ((line.toList.drop 4).takeWhile (· ≠ ']')))
  else none

/-- The line of an application shows its identifier. -/
theorem readId_idLine (view : View) (applicant : Nat → User) (profile : Profile view.table.Entries) :
    readId (view.idLine applicant profile) = some (Nat.repr profile.id) := by
  have solid : ∀ c ∈ (Nat.repr profile.id).toList, decide (c ≠ ']') = true := by
    intro c present
    have digit := isDigit_of_mem_repr present
    rw [decide_eq_true_iff]
    rintro rfl
    exact absurd digit (by decide)
  have written : (view.idLine applicant profile).toList.drop 4 = (Nat.repr profile.id).toList ++
      ']' :: (view.details (applicant profile.userId) profile.entries).toList := by
    simp [View.idLine, View.idHead]
  rw [readId, if_pos (view.isIdLine_idLine applicant profile), written,
    List.takeWhile_append_of_pos solid, List.takeWhile_cons_of_neg (by simp), List.append_nil,
    String.ofList_toList]

/-- The identifiers on a page are those of the listed applications, in order. -/
theorem readId_page (view : View) (applicant : Nat → User)
    (order : List (Profile view.table.Entries)) :
    (view.page applicant order).filterMap readId = order.map fun profile => Nat.repr profile.id := by
  have lines : (view.page applicant order).filterMap readId =
      ((view.page applicant order).filter View.isIdLine).filterMap readId := by
    rw [List.filterMap_filter]
    refine List.filterMap_congr fun line _ => ?_
    by_cases shows : View.isIdLine line = true
    · rw [if_pos shows]
    · rw [if_neg shows, readId, if_neg shows]
  rw [lines, view.filter_page, List.filterMap_map]
  have each : readId ∘ view.idLine applicant = fun profile => some (Nat.repr profile.id) :=
    funext (readId_idLine view applicant)
  rw [each, List.filterMap_eq_map']

section

variable [Platform]

/-- The identifiers of applications are positive and fit an `INT`. -/
theorem profileIds_of_reachable {system : System app} (reachable : system.Reachable)
    {table : ProfileTable} {profile : Profile table.Entries}
    (stored : profile ∈ system.store.rows.profiles table) : InRange profile.id := by
  let kept (state : System app) : Prop :=
    ∀ table, ∀ profile ∈ state.store.rows.profiles table, InRange profile.id
  have start : kept (System.initial app) := fun _ _ none => (List.not_mem_nil none).elim
  have keeps {state next : System app} {event : Event app} (_ : state.Reachable)
      (before : kept state) (stepped : state.step event = some next) : kept next := by
    cases System.step_move stepped with
    | start _ | type _ _ | turn _ | leave _ | kill _ => exact before
    | serve waits served =>
      intro other profile present
      rename_i store _
      have present : profile ∈ store.rows.profiles other := present
      have insertion (changed : store.rows ≠ state.store.rows) {id : Nat} := @inserted _ _ _ _ _ _
        served changed id
      obtain ⟨change, _⟩ := serve_written served
      generalize store.rows = rows at change insertion present
      cases change with
      | nothing _ | seed _ | user _ _ _ _ _ _ | vote _ _ | post _ _ => exact before other profile present
      | profile table userId entries =>
        cases Rows.mem_addProfile present with
        | old stored => exact before other profile stored
        | new => exact (insertion (Rows.addProfile_ne _ _ _) rfl).1
      | status table status id found some stored =>
        obtain ⟨old, stored, same, _⟩ := Rows.origin_decideProfile present
        rw [← same]
        exact before other old stored
  have all : kept system := reachable.keeps start keeps
  exact all table profile stored

/-- Everything that is listed was entered as single lines. -/
theorem listed_singleLines {system : System app} (reachable : system.Reachable)
    (scans : ScansLines system.log) {table : ProfileTable} {profile : Profile table.Entries}
    (stored : profile ∈ system.store.rows.profiles table) :
    OneLine (system.store.rows.applicant profile.userId).name ∧
      OneLine (system.store.rows.applicant profile.userId).username ∧
      SingleLines table profile.entries := by
  obtain ⟨known, _⟩ := system.store.user_stored (system.store.refers.applicant table profile stored)
  obtain ⟨name, username⟩ := user_oneLine reachable scans known
  exact ⟨name, username, profile_singleLines reachable scans stored⟩

/-- The identifiers that can be read from a listing are those of the applications it lists,
whatever their users have entered; and typed at any time later, with blanks around it or not, each
is accepted by `approveReject` of its table and names no application but the one that was listed. -/
theorem ids_read_back {system : System app} (reachable : system.Reachable)
    (scans : ScansLines system.log) (timestamp : Nat → String) (view : View) {process : Nat}
    (requests : system.requested process = some view.stmt) {choice : Choice}
    (fault : choice.fault = none) :
    ∃ (later : System app) (entry : Entry app) (listed prompt : List Output)
      (order : List (Profile view.table.Entries)),
      system.step (.serve process choice) = some later ∧ later.log = entry :: system.log ∧
      entry.printed = listed ++ prompt ∧
      (prompt = [] ∨ prompt = [.print "Enter Candidate ID to vote for: "]) ∧
      order.Perm (view.applications system.store.rows) ∧
      (consoleLines timestamp (view.title :: listed)).filterMap readId =
        order.map (fun profile => Nat.repr profile.id) ∧
      ∀ profile ∈ order, ∀ line, trim line = Nat.repr profile.id →
        ∀ events last, later.run events = some last →
          (∀ action, decision (toUpperCase (trim action)) ≠ none →
            (Operation.approveReject view.table).Accepts last.store.rows [action, line]) ∧
          ∀ next ∈ last.store.rows.profiles view.table,
            parseInt (trim line) = some (next.id : Int) → profile.Continues next := by
  obtain ⟨loop, next, later, entry, prompt, waits, stepped, logged, _, printed, prompts⟩ :=
    view_step reachable view requests fault
  have listed : (view.order system.store.rows choice.scan).Perm
      (view.applications system.store.rows) := List.perm_insertionSort _ _
  have stored (profile : Profile view.table.Entries)
      (present : profile ∈ view.order system.store.rows choice.scan) :
      profile ∈ system.store.rows.profiles view.table :=
    (List.mem_filter.mp (listed.mem_iff.mp present)).1
  refine ⟨later, entry, _, prompt, view.order system.store.rows choice.scan, stepped, logged, printed,
    prompts, listed, ?_, fun profile present line read events last ran => ?_⟩
  · rw [view.consoleLines_page fun profile present =>
      listed_singleLines reachable scans (stored profile present), readId_page]
  · have own := stored profile present
    have parsed : parseInt (trim line) = some (profile.id : Int) := by
      rw [read]
      exact parseInt_repr (profileIds_of_reachable reachable own).2
    have evolves := (good_of_reachable reachable).run_evolves rules_sound
      (System.run_step stepped ran)
    obtain ⟨kept, held, continues⟩ := evolves.profiles view.table profile own
    refine ⟨fun action decided => ⟨decided, kept, held, ?_⟩, fun other found same => ?_⟩
    · rw [parsed, continues.id]
    · have ids : other.id = kept.id := by
        have equal := Option.some.inj (same.symm.trans parsed)
        rw [continues.id]
        exact Int.ofNat.inj equal
      rw [last.store.profile_unique found held (.inl ids)]
      exact continues

end

/-! ## The leaderboard -/

/-- The line of a row of the leaderboard, as text. -/
def scoreLine (rank : Nat) (row : ResultRow) : String :=
  "#" ++ Nat.repr rank ++ "  " ++ padded 20 row.name ++ " | " ++ row.party ++ " | " ++
    row.constituency ++ " | Votes: " ++ Nat.repr row.votes

/-- The lines of the leaderboard from a rank on, as text. -/
def scoreLines : Nat → List ResultRow → List String
  | _, [] => []
  | rank, row :: rows => scoreLine rank row :: scoreLines (rank + 1) rows

/-- The rank and the number of votes on a line that begins as a line of the leaderboard does. -/
def readScore (line : String) : Option (Nat × Nat) :=
  match line.toList with
  | '#' :: rest =>
    (parseDigits (rest.takeWhile Char.isDigit) 0).bind fun rank =>
      (parseDigits (line.toList.reverse.takeWhile Char.isDigit).reverse 0).map fun votes =>
        (rank, votes)
  | _ => none

/-- Everything on a row was entered as single lines. -/
def ResultRow.SingleLines (row : ResultRow) : Prop :=
  OneLine row.name ∧ OneLine row.party ∧ OneLine row.constituency

/-- A row is printed on one line. -/
theorem writes_resultLine {timestamp : Nat → String} {rank : Nat} {row : ResultRow}
    (single : row.SingleLines) :
    Writes timestamp [resultLine rank row] [scoreLine rank row] := by
  have number (n : Nat) : toString (n : Int) = Nat.repr n := rfl
  have fixed : OneLine "#" ∧ OneLine "  " ∧ OneLine " | " ∧ OneLine " | Votes: " := by
    refine ⟨?_, ?_, ?_, ?_⟩ <;> simp [OneLine, lineBreak]
  obtain ⟨hash, space, bar, votes⟩ := fixed
  obtain ⟨name, party, constituency⟩ := single
  refine ⟨?_, ?_⟩
  · simp [resultLine, Output.text, format, Arg.written, number, scoreLine]
  · intro line present
    rw [List.mem_singleton.mp present]
    exact ((((((((hash.append (oneLine_repr _)).append space).append (name.padded 20)).append
      bar).append party).append bar).append constituency).append votes).append (oneLine_repr _)

/-- The rows are printed on one line each. -/
theorem writes_resultLines {timestamp : Nat → String} {rows : List ResultRow}
    (single : ∀ row ∈ rows, row.SingleLines) (rank : Nat) :
    Writes timestamp (resultLines rank rows) (scoreLines rank rows) := by
  induction rows generalizing rank with
  | nil => exact .nil
  | cons row rows ih =>
    have first := @writes_resultLine timestamp rank row (single row List.mem_cons_self)
    exact first.append (ih (fun other present => single other (List.mem_cons_of_mem row present)) _)

/-- The title of the leaderboard and the rows below it, as text. -/
def scorePage (rows : List ResultRow) : List String :=
  ["", "──── LIVE ELECTION RESULTS ────"] ++
    ((if rows.isEmpty then ["No approved candidates yet."] else scoreLines 1 rows) ++ ["", ""])

/-- What is printed around the tally. -/
def resultsTitle : Output := .println "\n──── LIVE ELECTION RESULTS ────"

/-- The console shows the page of the leaderboard. -/
theorem consoleLines_leaderboard {timestamp : Nat → String} {rows : List ResultRow}
    (single : ∀ row ∈ rows, row.SingleLines) :
    consoleLines timestamp (resultsTitle :: leaderboard (.ok rows)) = scorePage rows := by
  have title : Writes timestamp [resultsTitle] ["", "──── LIVE ELECTION RESULTS ────"] :=
    ⟨by simp [resultsTitle, Output.text], by simp [OneLine, lineBreak]⟩
  have last : Writes timestamp [.println ""] [""] := .println (by simp [OneLine])
  have body : Writes timestamp (leaderboard (.ok rows))
      ((if rows.isEmpty then ["No approved candidates yet."] else scoreLines 1 rows) ++ [""]) := by
    cases rows with
    | nil =>
      have none : OneLine "No approved candidates yet." := by simp [OneLine, lineBreak]
      exact (Writes.println none).append last
    | cons row rows => exact (writes_resultLines single 1).append last
  have whole := (title.append body).lines
  rw [List.singleton_append] at whole
  rw [whole, scorePage, List.append_assoc, List.append_assoc]
  rfl

/-- Digits before a space are read up to it. -/
theorem takeWhile_digits {digits : List Char} (own : ∀ c ∈ digits, c.isDigit = true)
    (rest : List Char) : (digits ++ ' ' :: rest).takeWhile Char.isDigit = digits := by
  rw [List.takeWhile_append_of_pos own, List.takeWhile_cons_of_neg (by decide), List.append_nil]

/-- The line of a row shows its rank and its number of votes, whatever was entered for it. -/
theorem readScore_scoreLine (rank : Nat) (row : ResultRow) :
    readScore (scoreLine rank row) = some (rank, row.votes) := by
  have own (n : Nat) : ∀ c ∈ Nat.toDigits 10 n, c.isDigit = true :=
    fun c present => Nat.isDigit_of_mem_toDigits (by decide) (by decide) present
  obtain ⟨entered, shape⟩ : ∃ entered, (scoreLine rank row).toList =
      '#' :: (Nat.toDigits 10 rank ++ ' ' :: (entered ++ ' ' :: Nat.toDigits 10 row.votes)) :=
    ⟨' ' :: (padded 20 row.name).toList ++ " | ".toList ++ row.party.toList ++ " | ".toList ++
      row.constituency.toList ++ " | Votes:".toList, by simp [scoreLine]⟩
  have back : (scoreLine rank row).toList.reverse = (Nat.toDigits 10 row.votes).reverse ++
      ' ' :: (entered.reverse ++ ' ' :: (Nat.toDigits 10 rank).reverse ++ ['#']) := by
    simp [shape]
  have votes : ((scoreLine rank row).toList.reverse.takeWhile Char.isDigit).reverse =
      Nat.toDigits 10 row.votes := by
    rw [back, takeWhile_digits (by simpa using own row.votes), List.reverse_reverse]
  unfold readScore
  rw [votes, parseDigits_toDigits, shape]
  simp only [takeWhile_digits (own rank), parseDigits_toDigits, Option.bind_some, Option.map_some]

/-- The ranks and numbers of votes on the page are those of the rows. -/
theorem readScore_scorePage (rows : List ResultRow) :
    (scorePage rows).filterMap readScore =
      ((rows.map ResultRow.votes).zipIdx 1).map Prod.swap := by
  have lines (rank : Nat) (rows : List ResultRow) : (scoreLines rank rows).filterMap readScore =
      ((rows.map ResultRow.votes).zipIdx rank).map Prod.swap := by
    induction rows generalizing rank with
    | nil => rfl
    | cons row rows ih =>
      rw [scoreLines, List.filterMap_cons_some (readScore_scoreLine rank row), ih]
      rfl
  have plain : readScore "" = none ∧ readScore "──── LIVE ELECTION RESULTS ────" = none ∧
      readScore "No approved candidates yet." = none := by
    refine ⟨?_, ?_, ?_⟩ <;> simp [readScore]
  obtain ⟨empty, title, none⟩ := plain
  cases rows with
  | nil => simp [scorePage, empty, title, none]
  | cons row rows =>
    have some : (row :: rows).isEmpty = false := rfl
    simp only [scorePage, some, Bool.false_eq_true, if_false, List.filterMap_append,
      List.filterMap_cons, List.filterMap_nil, empty, title, lines, List.append_nil,
      List.nil_append]

section

variable [Platform]

/-- What the admin reads from the leaderboard is the tally: the lines that begin with a rank carry
the ranks from 1 on, in this order, and how many votes were reported for each approved candidate,
no more for the next than for the one before, whatever names, parties and constituencies were
entered. -/
theorem leaderboard_read_back {system : System app} (reachable : system.Reachable)
    (scans : ScansLines system.log) (timestamp : Nat → String) {process : Nat}
    (requests : system.requested process = some .selectResults) {choice : Choice}
    (fault : choice.fault = none) :
    ∃ (later : System app) (entry : Entry app) (order : List CandidateProfile),
      system.step (.serve process choice) = some later ∧ later.log = entry :: system.log ∧
      order.Nodup ∧
      (∀ profile, profile ∈ order ↔
        profile ∈ system.store.rows.candidates ∧ profile.status = .approved) ∧
      (order.map fun profile => castsFor profile.id system.log).Pairwise (fun more fewer =>
        fewer ≤ more) ∧
      (consoleLines timestamp (resultsTitle :: entry.printed)).filterMap readScore =
        ((order.map fun profile => castsFor profile.id system.log).zipIdx 1).map Prod.swap := by
  obtain ⟨later, entry, stepped, logged, _, _, printed⟩ := viewResults_step reachable requests fault
  have invariant := (good_of_reachable reachable).invariant
  have listed (profile : CandidateProfile) : profile ∈ system.store.rows.ranking choice.scan ↔
      profile ∈ system.store.rows.candidates ∧ profile.status = .approved := by
    rw [(system.store.rows.ranking_perm choice.scan).mem_iff, Rows.approvedCandidates,
      List.mem_filter, decide_eq_true_iff]
  have distinct : (system.store.rows.ranking choice.scan).Nodup := by
    rw [(system.store.rows.ranking_perm choice.scan).nodup_iff]
    exact system.store.approvedCandidates_ids.of_map
  have votes : ((system.store.rows.ranking choice.scan).map fun profile =>
      system.store.rows.votesFor profile.userId) =
      (system.store.rows.ranking choice.scan).map fun profile =>
        castsFor profile.id system.log := by
    refine List.map_congr_left fun profile present => ?_
    exact (invariant.tallied.counted profile ((listed profile).mp present).1).symm
  refine ⟨later, entry, system.store.rows.ranking choice.scan, stepped, logged, distinct, listed,
    ?_, ?_⟩
  · rw [← votes, List.pairwise_map]
    exact system.store.rows.ranking_descends choice.scan
  · rw [printed, system.store.results_eq, consoleLines_leaderboard, readScore_scorePage,
      List.map_map]
    · exact congrArg (fun votes => (votes.zipIdx 1).map Prod.swap) votes
    · intro row present
      obtain ⟨profile, shown, rfl⟩ := List.mem_map.mp present
      obtain ⟨name, _, party, constituency, _⟩ := @listed_singleLines _ system reachable scans
        .candidateProfiles profile ((listed profile).mp shown).1
      exact ⟨name, party, constituency⟩

end

/-! ## Two pages -/

section

attribute [local instance] latin1

/-- From a listing of two applications that is begun so and served, their identifiers are read, and
with blanks around the second, deciding on it is accepted. -/
def ReadsTwo (system : System app) (event : Event app) (view : View) (first second : String) :
    Prop :=
  ∃ asked later entry listed prompt, system.step event = some asked ∧
    asked.step (.serve 0 tallying) = some later ∧ later.log = entry :: asked.log ∧
    entry.printed = listed ++ prompt ∧
    ((consoleLines toString (view.title :: listed)).filterMap readId).Perm [first, second] ∧
    (Operation.approveReject view.table).Accepts later.store.rows
      ["approve", " " ++ second ++ " "]

/-- The admin reads 5 and 6 as the pending voters, and 7 and 8 as the pending candidates; and Vera
reads 7 and 8 as the approved candidates. -/
theorem ids_read_back_review : ∃ pending decided : System app,
    (System.initial app).run review = some pending ∧
    (System.initial app).run verdict = some decided ∧
    ReadsTwo pending (.type 0 "1") (.pending .voterProfiles) "5" "6" ∧
    ReadsTwo pending (.type 0 "3") (.pending .candidateProfiles) "7" "8" ∧
    ReadsTwo decided (.type 0 "3") .approved "7" "8" := by
  have each {system : System app} (reachable : system.Reachable) {loop : Loop} {line : String}
      {view : View} (menu : AtMenu system loop line)
      (chooses : loop.reading (trim line) = some view.reading)
      {first second : Profile view.table.Entries}
      (stored : view.applications system.store.rows = [first, second])
      (typed : trim (" " ++ Nat.repr second.id ++ " ") = Nat.repr second.id) :
      ReadsTwo system (.type 0 line) view (Nat.repr first.id) (Nat.repr second.id) := by
    obtain ⟨runs, fresh, scans⟩ := menu
    have begins : BeginsListing system 0 view (.type 0 line) :=
      .chosen runs (List.length_eq_zero_iff.mp fresh) chooses
    obtain ⟨asked, stepped, same, further, requests⟩ := begins.waits reachable
    rw [stepped, Option.all_some] at scans
    obtain ⟨later, entry, listed, prompt, order, served, logged, printed, _, perm, shown, accepted⟩ :=
      ids_read_back further (of_decide_eq_true scans) toString view
        (requests [] asked (by simp) rfl) (show tallying.fault = none from rfl)
    rw [same, stored] at perm
    have present : second ∈ order := perm.mem_iff.mpr (by simp)
    refine ⟨asked, later, entry, listed, prompt, stepped, served, logged, printed, ?_, ?_⟩
    · rw [shown]
      exact perm.map fun profile => Nat.repr profile.id
    · exact (accepted second present _ typed [] later rfl).1 "approve" (by decide +kernel)
  obtain ⟨pending, decided, ran, ran', one, three, menu, voters, candidates, approved⟩ := review_runs
  refine ⟨pending, decided, ran, ran', ?_, ?_, ?_⟩
  · exact @each pending ⟨review, ran⟩ _ "1" (.pending .voterProfiles) one
      (by rw [trim_choices.1]; rfl) verasApplication wimsApplication voters (by decide +kernel)
  · exact @each pending ⟨review, ran⟩ _ "3" (.pending .candidateProfiles) three
      (by rw [trim_choices.2]; rfl) { cara with status := .pending }
        { dan with status := .pending } candidates (by decide +kernel)
  · exact @each decided ⟨verdict, ran'⟩ _ "3" .approved menu
      (by rw [trim_choices.2]; rfl) cara dan approved (by decide +kernel)

set_option maxRecDepth 10000 in
/-- After the votes of Vera and Wim, the admin reads rank 1 with two votes and rank 2 with none. -/
theorem leaderboard_read_back_landslide : ∃ (system later : System app) (entry : Entry app),
    (System.initial app).run landslide = some system ∧
      system.step (.serve 0 tallying) = some later ∧ later.log = entry :: system.log ∧
      (consoleLines toString (resultsTitle :: entry.printed)).filterMap readScore =
        [(1, 2), (2, 0)] := by
  have result : ((System.initial app).run landslide).map (fun system =>
      decide (ScansLines system.log)) = some true := by
    decide +kernel
  obtain ⟨system, ran, seen⟩ := landslide_runs
  have scans : ScansLines system.log := by
    rw [ran, Option.map_some] at result
    exact of_decide_eq_true (Option.some.inj result)
  obtain ⟨later, entry, order, stepped, logged, distinct, listed, descends, shown⟩ :=
    @leaderboard_read_back _ system ⟨landslide, ran⟩ scans toString 0 seen.requests tallying rfl
  have both : order.Perm [cara, dan] := by
    rw [List.perm_ext_iff_of_nodup distinct (by decide)]
    intro profile
    rw [listed, seen.candidates]
    refine ⟨fun held => held.1, fun one => ⟨one, ?_⟩⟩
    rcases List.mem_pair.mp one with rfl | rfl <;> rfl
  have counted : (order.map fun profile => castsFor profile.id system.log).Perm [2, 0] := by
    have votes := both.map fun profile => castsFor profile.id system.log
    rw [List.map_cons, List.map_singleton] at votes
    rw [seen.castCara, seen.castDan] at votes
    exact votes
  have ordered : (order.map fun profile => castsFor profile.id system.log) = [2, 0] :=
    counted.eq_of_pairwise (fun _ _ _ _ => by omega) descends (by decide)
  rw [ordered] at shown
  exact ⟨system, later, entry, ran, stepped, logged, shown⟩

end

end OnlineVoting
