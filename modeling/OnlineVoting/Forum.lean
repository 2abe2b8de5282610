import OnlineVoting.Ranking

/-!
# The forum

`viewForum` lists the latest twenty posts by their time, which has the resolution of a second and
no further criterion. The page is sure to be the newest posts, newest first, exactly when no post
shares its second with a different post of that page.
-/
namespace OnlineVoting

open Interleaving Relational

section

variable [Platform]

/-! ## Posts -/

/-- The post that a step inserted. -/
def insertedPost (entry : Entry app) : Option ForumPost :=
  match entry.action with
  | .served (.insertForumPost userId content) choice (.ok _) =>
    some ⟨choice.id, userId, content, choice.clock⟩
  | _ => none

/-- The posts inserted so far, newest first. -/
def postsOf (log : List (Entry app)) : List ForumPost := log.filterMap insertedPost

omit [Platform] in
/-- The columns of a post that the forum shows. -/
def Rows.forumRow (rows : Rows) (post : ForumPost) : ForumRow where
  name := (rows.applicant post.userId).name
  content := post.content
  postedAt := post.postedAt

/-- A statement stores the post it inserts, and no other. -/
theorem Written.forumPosts {choice : Choice} {rows later : Rows} {stmt : Stmt}
    {answer : Answer stmt} (change : Written choice rows stmt answer later) (process : Nat)
    (loop : Loop) (printed : List Output) : later.forumPosts = rows.forumPosts ++
      (insertedPost ⟨process, loop, .served stmt choice answer, printed⟩).toList := by
  cases change with
  | nothing quiet =>
    cases stmt with
    | insertForumPost userId content =>
      cases answer with
      | ok _ => contradiction
      | error _ => exact (List.append_nil _).symm
    | _ => exact (List.append_nil _).symm
  | post userId content => rfl
  | seed _ | user _ _ _ _ _ _ | profile _ _ _ | status _ _ _ _ _ _ | vote _ _ =>
    exact (List.append_nil _).symm

/-- The stored posts are those inserted, in the order of their insertion. -/
theorem forumPosts_reverse {system : System app} (reachable : system.Reachable) :
    system.store.rows.forumPosts.reverse = postsOf system.log := by
  let kept (state : System app) : Prop :=
    state.store.rows.forumPosts.reverse = postsOf state.log
  have keeps {state next : System app} {event : Event app} {entry : Entry app}
      (_ : rules.Good state) (same : kept state) (_ : state.step event = some next)
      (did : rules.Stepped state next entry) : kept next := by
    show next.store.rows.forumPosts.reverse = postsOf next.log
    rw [did.logged]
    cases did with
    | unserved _ store other _ =>
      have silent : insertedPost entry = none := by
        unfold insertedPost
        split
        · rename_i action
          exact absurd action (other _ _ _)
        · rfl
      rw [store, same, postsOf, postsOf, List.filterMap_cons_none silent]
    | served logged ready permit served prints =>
      rw [(serve_written served).1.forumPosts, List.reverse_append, same, postsOf, postsOf,
        List.filterMap_cons]
      cases insertedPost _ <;> rfl
  have start : kept (System.initial app) := rfl
  exact rules_sound.reachable_keeps start keeps reachable

/-- The query of the forum sorts the posts, and shows each with its author. -/
theorem Database.forum_eq (database : Database) (scan : Nat → Nat) : database.rows.forum scan =
    ((database.rows.forumPosts.insertionSort
      (Descending ForumPost.postedAt fun post => scan post.id)).take 20).map
        database.rows.forumRow := by
  let row (post : ForumPost) : ForumPost × User := (post, database.rows.applicant post.userId)
  have joined : join (fun post user => user.id = post.userId) database.rows.forumPosts
      database.rows.users = database.rows.forumPosts.map row :=
    join_reference _ _ _ _ fun post present =>
      database.user_filter (database.refers.author post present)
  have sorted := List.map_insertionSort (Descending ForumPost.postedAt fun post => scan post.id)
    (Descending (fun row : ForumPost × User => row.1.postedAt) fun row => scan row.1.id) row
    database.rows.forumPosts fun _ _ _ _ => Iff.rfl
  rw [Rows.forum, joined]
  show ((List.insertionSort (Descending (fun row : ForumPost × User => row.1.postedAt)
    fun row => scan row.1.id) _).take 20).map _ = _
  rw [← sorted, ← List.map_take, List.map_map]
  rfl

/-! ## Pages -/

/-- The row of the forum on a printed line. -/
def Output.forumRow : Output → Option ForumRow
  | .printf "[%s] %s: %s%n" [.time seconds, .text name, .text content] =>
    some ⟨name, content, seconds⟩
  | _ => none

omit [Platform] in
/-- A printed page of the forum shows each of its rows. -/
theorem forumRow_forumPage (rows : List ForumRow) :
    (forumPage (.ok rows)).filterMap Output.forumRow = rows := by
  have lines : (rows.flatMap postLines).filterMap Output.forumRow = rows := by
    induction rows with
    | nil => rfl
    | cons row rows ih =>
      rw [List.flatMap_cons, List.filterMap_append, ih]
      rfl
  cases rows with
  | nil => rfl
  | cons row rows =>
    have listed : forumPage (.ok (row :: rows)) =
        (row :: rows).flatMap postLines ++ [.println ""] := rfl
    rw [listed, List.filterMap_append, lines]
    exact List.append_nil _

/-- A session that waits for the forum gets it, and prints it as a page. -/
theorem viewForum_step {system : System app} (reachable : system.Reachable) {process : Nat}
    (requests : system.requested process = some .selectForum) {choice : Choice}
    (fault : choice.fault = none) :
    ∃ later entry, system.step (.serve process choice) = some later ∧
      later.log = entry :: system.log ∧ entry.process = process ∧
      entry.printed = forumPage (.ok (system.store.rows.forum choice.scan)) := by
  obtain ⟨loop, printed, next, waits, stepped⟩ := query_step reachable requests
    (by simp [connectStatements, setupStatements]) fault rfl
  obtain ⟨⟨_, _, _, goes⟩, _⟩ := asks_of_reachable reachable waits
  refine ⟨_, _, stepped, rfl, rfl, ?_⟩
  simp only [Option.map_some, Option.getD_some]
  rw [goes]
  rfl

/-! ## The latest posts -/

/-- The clock of the server did not go back from one post to the next. -/
def SteadyClock (log : List (Entry app)) : Prop :=
  (postsOf log).Pairwise fun newer older => older.postedAt ≤ newer.postedAt

/-- However the server orders ties, the process is shown the last twenty posts, or all if they are
fewer, each with its author and its content, newest first. -/
def ShownLatest (system : System app) (process : Nat) : Prop :=
  ∀ choice, choice.fault = none → ∃ later entry,
    system.step (.serve process choice) = some later ∧ later.log = entry :: system.log ∧
      entry.printed = forumPage (.ok
        (((postsOf system.log).take 20).map system.store.rows.forumRow))

/-- Posts of one second, one of them among the last twenty, have one author's name and one
content. -/
def SecondsAlike (system : System app) : Prop :=
  ∀ shown ∈ (postsOf system.log).take 20, ∀ other ∈ postsOf system.log,
    other.postedAt = shown.postedAt →
      system.store.rows.forumRow other = system.store.rows.forumRow shown

/-- In a run, whenever the query of a process for the forum is served without a failure. -/
def EveryPage (events : List (Event app)) (property : System app → Nat → Prop) : Prop :=
  ∀ before choice after system process, events = before ++ .serve process choice :: after →
    (System.initial app).run before = some system →
      system.requested process = some .selectForum → choice.fault = none → property system process

/-- The forum is sure to show the latest posts exactly if those of one second look the same. -/
theorem shownLatest_iff {system : System app} (reachable : system.Reachable)
    (steady : SteadyClock system.log) {process : Nat}
    (requests : system.requested process = some .selectForum) :
    ShownLatest system process ↔ SecondsAlike system := by
  have stored := forumPosts_reverse reachable
  have ids : (system.store.rows.forumPosts.map ForumPost.id).Nodup := by
    have apart : system.store.rows.forumPosts.Pairwise fun left right => ¬ left.Clash right :=
      Table.rowsOf_distinct _
    rw [List.nodup_iff_pairwise_ne, List.pairwise_map]
    exact apart
  have ordered : system.store.rows.forumPosts.Pairwise fun older newer =>
      older.postedAt ≤ newer.postedAt := by
    rw [← List.pairwise_reverse, stored]
    exact steady
  have certain := limit_iff system.store.rows.forumRow ids ordered 20
  rw [stored] at certain
  have alike : SecondsAlike system ↔ ∀ shown ∈ (postsOf system.log).take 20,
      ∀ other ∈ system.store.rows.forumPosts, other.postedAt = shown.postedAt →
        system.store.rows.forumRow other = system.store.rows.forumRow shown := by
    simp only [SecondsAlike, ← stored, List.mem_reverse]
  rw [alike, ← certain]
  constructor
  · intro latest rank
    obtain ⟨later, entry, stepped, logged, printed⟩ := latest ⟨none, 0, 0, rank, 0, 0⟩ rfl
    obtain ⟨_, found, again, written, _, page⟩ :=
      @viewForum_step _ system reachable process requests ⟨none, 0, 0, rank, 0, 0⟩ rfl
    obtain rfl := Option.some.inj (stepped.symm.trans again)
    obtain rfl : entry = found := (List.cons.inj (logged.symm.trans written)).1
    have rows := congrArg (List.filterMap Output.forumRow) (page.symm.trans printed)
    rw [forumRow_forumPage, forumRow_forumPage, system.store.forum_eq] at rows
    exact rows
  · intro sorted choice fault
    obtain ⟨later, entry, stepped, logged, _, page⟩ := viewForum_step reachable requests fault
    refine ⟨later, entry, stepped, logged, ?_⟩
    rw [page, system.store.forum_eq]
    exact congrArg (fun rows => forumPage (.ok rows)) (sorted choice.scan)

/-- In a run in which the clock never goes back, every page of the forum is sure to show the latest
posts, newest first, exactly if the posts of one second look the same whenever a page is served. -/
theorem latest_iff_seconds_alike {events : List (Event app)} {last : System app}
    (ran : (System.initial app).run events = some last) (steady : SteadyClock last.log) :
    EveryPage events ShownLatest ↔ EveryPage events fun system _ => SecondsAlike system := by
  have here (before after : List (Event app)) (system : System app)
      (split : events = before ++ after) (reached : (System.initial app).run before = some system) :
      system.Reachable ∧ SteadyClock system.log := by
    rw [split, System.run_append, reached] at ran
    obtain ⟨newer, grown, _⟩ := System.run_log ran
    rw [grown, SteadyClock, postsOf, List.filterMap_append] at steady
    exact ⟨⟨before, reached⟩, (List.pairwise_append.mp steady).2.1⟩
  constructor
  · intro latest before choice after system process split reached requests fault
    obtain ⟨reachable, steady⟩ := here before _ system split reached
    exact (shownLatest_iff reachable steady requests).mp
      (latest before choice after system process split reached requests fault)
  · intro alike before choice after system process split reached requests fault
    obtain ⟨reachable, steady⟩ := here before _ system split reached
    exact (shownLatest_iff reachable steady requests).mpr
      (alike before choice after system process split reached requests fault)

end

/-! ## Two posts of one second -/

section

attribute [local instance] latin1

/-- A post, the third entry of the menu of candidates. -/
def posting (process id : Nat) (content : String) : List (Event app) :=
  typing process ["3", content] ++ serving process [id] ++ [.turn process]

/-- Cara posts twice in one second, and views the forum. -/
def rush : List (Event app) :=
  candidacy ++ posting 0 3 "first" ++ posting 0 4 "second" ++ typing 0 ["4"]

/-- Cara posts once more a second later, and views the forum. -/
def announcement : List (Event app) :=
  candidacy ++ posting 0 3 "first" ++ typing 0 ["3", "second"] ++
    [.serve 0 ⟨none, 4, 1, fun id => id, 4, 0⟩, .turn 0] ++ typing 0 ["4"]

set_option maxRecDepth 10000 in
/-- The page served after the rush shows Cara's first post above her second. -/
theorem not_every_page_latest : ¬ ∀ events last, (System.initial app).run events = some last →
    SteadyClock last.log → EveryPage events ShownLatest := by
  intro latest
  have result : ((System.initial app).run rush).bind (fun system =>
      (system.step (.serve 0 tallying)).map fun later => decide
        (system.requested 0 = some .selectForum ∧
          postsOf system.log = [⟨4, 2, "second", 0⟩, ⟨3, 2, "first", 0⟩] ∧
          postsOf later.log = postsOf system.log ∧
          system.store.rows.forumRow ⟨4, 2, "second", 0⟩ = ⟨"Cara", "second", 0⟩ ∧
          system.store.rows.forumRow ⟨3, 2, "first", 0⟩ = ⟨"Cara", "first", 0⟩ ∧
          later.log.head?.map Entry.printed =
            some (forumPage (.ok [⟨"Cara", "first", 0⟩, ⟨"Cara", "second", 0⟩])))) =
      some true := by
    decide +kernel
  obtain ⟨system, ran, stepped⟩ := Option.bind_eq_some_iff.mp result
  obtain ⟨last, stepped, seen⟩ := Option.map_eq_some_iff.mp stepped
  obtain ⟨requests, posts, kept, second, first, page⟩ := of_decide_eq_true seen
  have steady : SteadyClock last.log := by
    rw [SteadyClock, kept, posts]
    decide
  have whole : (System.initial app).run (rush ++ [.serve 0 tallying]) = some last := by
    rw [System.run_append, ran]
    exact System.run_step stepped rfl
  obtain ⟨later, entry, again, logged, printed⟩ :=
    latest _ last whole steady rush tallying [] system 0 rfl ran requests rfl tallying rfl
  obtain rfl := Option.some.inj (stepped.symm.trans again)
  rw [logged, List.head?_cons, Option.map_some, Option.some.injEq, printed, posts] at page
  have rows := congrArg (List.filterMap Output.forumRow) page
  rw [forumRow_forumPage, forumRow_forumPage, List.take_of_length_le (by decide), List.map_cons,
    List.map_singleton, second, first] at rows
  simp at rows

set_option maxRecDepth 10000 in
/-- Her posts of two seconds are shown on a page with the later one first. -/
theorem latest_iff_seconds_alike_announcement :
    EveryPage (announcement ++ [.serve 0 tallying]) ShownLatest ∧
    ∃ (system later : System app) (entry : Entry app),
      (System.initial app).run announcement = some system ∧
      system.step (.serve 0 tallying) = some later ∧ later.log = entry :: system.log ∧
      entry.printed = forumPage (.ok [⟨"Cara", "second", 1⟩, ⟨"Cara", "first", 0⟩]) := by
  have result : ((System.initial app).run announcement).bind (fun system =>
      (system.step (.serve 0 tallying)).map fun last => decide
        (system.requested 0 = some .selectForum ∧
          postsOf system.log = [⟨4, 2, "second", 1⟩, ⟨3, 2, "first", 0⟩] ∧
          postsOf last.log = postsOf system.log ∧
          system.store.rows.forumRow ⟨4, 2, "second", 1⟩ = ⟨"Cara", "second", 1⟩ ∧
          system.store.rows.forumRow ⟨3, 2, "first", 0⟩ = ⟨"Cara", "first", 0⟩)) = some true := by
    decide +kernel
  obtain ⟨system, ran, stepped⟩ := Option.bind_eq_some_iff.mp result
  obtain ⟨last, stepped, seen⟩ := Option.map_eq_some_iff.mp stepped
  obtain ⟨requests, posts, kept, second, first⟩ := of_decide_eq_true seen
  have whole : (System.initial app).run (announcement ++ [.serve 0 tallying]) = some last := by
    rw [System.run_append, ran]
    exact System.run_step stepped rfl
  have steady : SteadyClock last.log := by
    rw [SteadyClock, kept, posts]
    decide
  have pages : EveryPage (announcement ++ [.serve 0 tallying]) ShownLatest := by
    apply (latest_iff_seconds_alike whole steady).mpr
    intro before choice after earlier process split reached _ _ shown listed other present same
    -- The posts so far are among the two, which differ in their seconds.
    rw [split, System.run_append, reached] at whole
    obtain ⟨newer, grown, _⟩ := System.run_log whole
    have among (post : ForumPost) (found : post ∈ postsOf earlier.log) :
        post ∈ [(⟨4, 2, "second", 1⟩ : ForumPost), ⟨3, 2, "first", 0⟩] := by
      rw [← posts, ← kept, grown, postsOf, List.filterMap_append]
      exact List.mem_append_right _ found
    have apart : ∀ left ∈ [(⟨4, 2, "second", 1⟩ : ForumPost), ⟨3, 2, "first", 0⟩],
        ∀ right ∈ [(⟨4, 2, "second", 1⟩ : ForumPost), ⟨3, 2, "first", 0⟩],
          left.postedAt = right.postedAt → left = right := by
      decide
    rw [apart other (among other present) shown (among shown (List.mem_of_mem_take listed)) same]
  refine ⟨pages, system, last, ?_⟩
  obtain ⟨later, entry, again, logged, printed⟩ :=
    pages announcement tallying [] system 0 rfl ran requests rfl tallying rfl
  obtain rfl := Option.some.inj (stepped.symm.trans again)
  refine ⟨entry, ran, stepped, logged, ?_⟩
  rw [printed, posts, List.take_of_length_le (by decide), List.map_cons, List.map_singleton, second,
    first]

end

end OnlineVoting
