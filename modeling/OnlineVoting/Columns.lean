import OnlineVoting.Digests
import OnlineVoting.Refusals
import OnlineVoting.Views

/-!
# What the columns hold

Whatever is typed and by whomever, the stored rows are well formed: identifiers are positive and fit
an `INT`, every text has its column's character set and width and no blanks around it, a password is
a digest, and no post is empty.
-/
namespace OnlineVoting

open Interleaving Relational

/-! ## Trimmed text -/

/-- A trimmed text has no blanks around it. -/
theorem trim_trim (text : String) : trim (trim text) = trim text := by
  let front := text.toList.dropWhile blank
  let core := front.rdropWhile blank
  have trimmed : (trim text).toList = core := by
    rw [trim, String.toList_ofList]
    rfl
  have kept : core.dropWhile blank = core := by
    rw [List.dropWhile_eq_self_iff]
    intro some
    have within : core <+: front := List.rdropWhile_prefix blank front
    have longer : 0 < front.length := lt_of_lt_of_le some within.length_le
    have first : core[0] = front[0] := within.getElem some
    rw [first]
    exact List.dropWhile_get_zero_not blank text.toList longer
  have again : core.rdropWhile blank = core :=
    List.rdropWhile_idempotent blank front
  calc trim (trim text)
      = String.ofList ((core.dropWhile blank).rdropWhile blank) := by rw [trim, trimmed]; rfl
    _ = String.ofList core := by rw [kept, again]
    _ = trim text := by rw [← trimmed, String.ofList_toList]

/-- A text without blanks is trimmed. -/
theorem trim_solid {text : String} (solid : ∀ c ∈ text.toList, blank c = false) :
    trim text = text := by
  have kept (chars : List Char) (none : ∀ c ∈ chars, blank c = false) :
      chars.dropWhile blank = chars := by
    cases chars with
    | nil => rfl
    | cons c rest => rw [List.dropWhile_cons_of_neg (by simp [none c List.mem_cons_self])]
  rw [trim, kept _ solid, kept _ (by simpa using solid), List.reverse_reverse, String.ofList_toList]

/-- A letter or a digit is no blank. -/
theorem alphanum_solid {c : Char} (word : c.isAlphanum = true) : blank c = false := by
  have space : ' '.val.toNat = 32 := rfl
  cases blanks : blank c with
  | false => rfl
  | true =>
    simp only [blank, decide_eq_true_eq, Char.le_def, UInt32.le_iff_toNat_le, space] at blanks
    simp only [Char.isAlphanum, Char.isAlpha, Char.isUpper, Char.isLower, Char.isDigit,
      Bool.or_eq_true, Bool.and_eq_true, decide_eq_true_eq, ge_iff_le, UInt32.le_iff_toNat_le] at word
    rcases word with (⟨upper, _⟩ | ⟨lower, _⟩) | ⟨digit, _⟩
    · exact absurd (upper.trans blanks) (by decide)
    · exact absurd (lower.trans blanks) (by decide)
    · exact absurd (digit.trans blanks) (by decide)

/-! ## Insertions -/

/-- A positive identifier that fits an `INT`. -/
def InRange (id : Nat) : Prop := 0 < id ∧ id < 2 ^ 31

section

variable [Platform]

namespace Database

/-- A stored application has an automatic identifier. -/
theorem storeProfile_inRange {database next : Database} {table : ProfileTable}
    {profile : Profile table.Entries}
    (stored : database.storeProfile table profile = some (.ok next)) : InRange profile.id := by
  unfold storeProfile at stored
  split at stored
  · simp at stored
  · split at stored
    · rename_i admissible
      exact ⟨admissible.1, admissible.2.1⟩
    · contradiction

/-- A stored vote has an automatic identifier. -/
theorem storeVote_inRange {database next : Database} {vote : Vote}
    (stored : database.storeVote vote = some (.ok next)) : InRange vote.id := by
  unfold storeVote at stored
  split at stored
  · simp at stored
  · split at stored
    · rename_i admissible
      exact ⟨admissible.1, admissible.2.1⟩
    · contradiction

/-- A stored post has an automatic identifier. -/
theorem storeForumPost_inRange {database next : Database} {post : ForumPost}
    (stored : database.storeForumPost post = some (.ok next)) : InRange post.id := by
  unfold storeForumPost at stored
  split at stored
  · simp at stored
  · split at stored
    · rename_i admissible
      exact ⟨admissible.1, admissible.2.1⟩
    · contradiction

/-- An insertion that is not refused has stored its row. -/
theorem insertion_ok {database next : Database} {stored : Option (Except SqlException Database)}
    (inserted : database.insertion stored = some (next, .ok ())) : stored = some (.ok next) := by
  obtain ⟨outcome, result, same⟩ := Option.map_eq_some_iff.mp inserted
  cases outcome with
  | ok grown =>
    obtain ⟨rfl, _⟩ := Prod.mk.inj same
    exact result
  | error exception => simp at same

end Database

/-- The identifier under which a statement inserts. -/
def Stmt.newId (choice : Choice) : Stmt → Option Nat
  | .seedAdmin _ | .insertUser _ _ _ _ | .insertProfile _ _ _ | .insertForumPost _ _ =>
    some choice.id
  | .insertVote _ _ => some choice.ballotId
  | _ => none

/-- An insertion that succeeds has an automatic identifier, and its texts fit their columns. -/
theorem inserted {stmt : Stmt} {choice : Choice} {database next : Database} {answer : Answer stmt}
    (served : serve stmt choice database = some (next, answer))
    (changed : next.rows ≠ database.rows) {id : Nat} (new : stmt.newId choice = some id) :
    InRange id ∧ Storable stmt := by
  obtain ⟨change, _⟩ := serve_written served
  generalize written : next.rows = rows at change
  cases change with
  | nothing _ => exact absurd written changed
  | seed passwordHash =>
    obtain rfl := Option.some.inj new
    obtain ⟨outcome, stored, same⟩ := Option.map_eq_some_iff.mp (serve_ok served)
    cases outcome with
    | ok grown => exact ⟨Database.storeUser_admissible stored, rfl⟩
    | error exception =>
      have impossible := (Prod.mk.inj same).2
      split at impossible <;> simp at impossible
  | user username passwordHash name role parsed named =>
    obtain rfl := Option.some.inj new
    have executed := serve_ok served
    simp only [execute] at executed
    split at executed
    · rename_i checked _
      exact ⟨Database.storeUser_admissible (Database.insertion_ok executed), checked⟩
    · simp at executed
    · simp at executed
  | profile table userId entries =>
    obtain rfl := Option.some.inj new
    have executed := serve_ok served
    simp only [execute] at executed
    split at executed
    · rename_i checked
      exact ⟨Database.storeProfile_inRange (Database.insertion_ok executed), checked⟩
    · simp at executed
  | status _ _ _ _ _ _ => contradiction
  | vote voterId candidateId =>
    obtain rfl := Option.some.inj new
    have executed := serve_ok served
    exact ⟨Database.storeVote_inRange (Database.insertion_ok executed), rfl⟩
  | post userId content =>
    obtain rfl := Option.some.inj new
    have executed := serve_ok served
    simp only [execute] at executed
    split at executed
    · rename_i checked
      refine ⟨Database.storeForumPost_inRange (Database.insertion_ok executed), ?_⟩
      simp [Storable, Stmt.columns, checkColumns, checked]
    · simp at executed

/-! ## Rows -/

/-- Texts that fit their columns, without blanks around them. -/
def Fitting (columns : List (TextType × ColumnName × String)) : Prop :=
  checkColumns columns = .ok () ∧ ∀ column ∈ columns, trim column.2.2 = column.2.2

/-- Stored rows are well formed. -/
structure WellFormed (rows : Rows) : Prop where
  /-- Users have a digest for a password; the seeded one has constants for its texts. -/
  users : ∀ user ∈ rows.users, InRange user.id ∧ user.passwordHash.length = 64 ∧
    (user.IsSeed ∨ Fitting (userColumns user.username user.passwordHash user.name))
  /-- Applications have fitting texts. -/
  profiles : ∀ table, ∀ profile ∈ rows.profiles table, InRange profile.id ∧
    Fitting (entryColumns table profile.entries)
  /-- Votes have identifiers of their own. -/
  votes : ∀ vote ∈ rows.votes, InRange vote.id
  /-- Posts have a fitting text that is not empty. -/
  posts : ∀ post ∈ rows.forumPosts, InRange post.id ∧ Fitting [(.text, ⟨"forum_posts", "content"⟩, post.content)] ∧
    post.content ≠ ""

omit [Platform] in
/-- The digest of a password has no blanks. -/
theorem trim_sha256 (input : String) : trim (sha256 input) = sha256 input :=
  trim_solid fun c present => alphanum_solid (sha256_hex input c present).1

omit [Platform] in
/-- Typed columns are trimmed. -/
theorem trimmed_entries {table : ProfileTable} {lines : List String} {entries : table.Entries}
    (entered : enteredFrom table lines = some entries) :
    ∀ column ∈ entryColumns table entries, trim column.2.2 = column.2.2 := by
  cases table with
  | voterProfiles =>
    obtain ⟨address, constituency, _, _, rfl⟩ := enteredFrom_voter entered
    simp [entryColumns, trim_trim]
  | candidateProfiles =>
    obtain ⟨manifesto, constituency, party, _, _, rfl⟩ := enteredFrom_candidate entered
    simp [entryColumns, trim_trim]

/-- A statement that a session may send keeps the rows well formed. -/
theorem WellFormed.served {system : System app} (reachable : system.Reachable)
    (formed : WellFormed system.store.rows) {process : Nat} {loop : Loop} {printed : List Output}
    {stmt : Stmt} {next : Answer stmt → Dialogue console (Option Loop)}
    (waits : system.process process = some ⟨loop, .ask printed stmt next⟩) {choice : Choice}
    {store : Database} {answer : Answer stmt}
    (served : serve stmt choice system.store = some (store, answer)) : WellFormed store.rows := by
  have permit : Permit loop process system.toWorld stmt :=
    (good_of_reachable reachable).permit rules_sound waits
  have sends := sends_of_reachable reachable waits
  have insertion (changed : store.rows ≠ system.store.rows) {id : Nat}
      (new : stmt.newId choice = some id) := inserted served changed new
  obtain ⟨change, _⟩ := serve_written served
  generalize store.rows = rows at change insertion
  cases change with
  | nothing _ => exact formed
  | seed passwordHash =>
    obtain ⟨_, rfl, _⟩ := permit
    obtain ⟨range, _⟩ := insertion (Rows.addUser_ne _ _) rfl
    refine ⟨fun user present => ?_, formed.profiles, formed.votes, formed.posts⟩
    rcases List.mem_append.mp present with old | new
    · exact formed.users user old
    · rw [List.mem_singleton.mp new]
      exact ⟨range, sha256_length _, .inl rfl⟩
  | user username passwordHash name role parsed named =>
    obtain ⟨range, storable⟩ := insertion (Rows.addUser_ne _ _) rfl
    obtain ⟨_, typed⟩ := permit
    obtain ⟨_, password, given, full, _, _, sameUsername, samePassword, sameName, _⟩ :=
      typed choice.id parsed named
    dsimp only at sameUsername samePassword sameName
    refine ⟨fun user present => ?_, formed.profiles, formed.votes, formed.posts⟩
    rcases List.mem_append.mp present with old | new
    · exact formed.users user old
    · rw [List.mem_singleton.mp new]
      refine ⟨range, ?_, .inr ⟨storable, ?_⟩⟩
      · rw [samePassword]
        exact sha256_length _
      · simp [userColumns, sameUsername, samePassword, sameName, trim_trim, trim_sha256]
  | profile table userId entries =>
    obtain ⟨range, storable⟩ := insertion (Rows.addProfile_ne _ _ _) rfl
    obtain ⟨_, entered⟩ := permit
    refine ⟨formed.users, fun other profile present => ?_, formed.votes, formed.posts⟩
    cases Rows.mem_addProfile present with
    | old stored => exact formed.profiles other profile stored
    | new => exact ⟨range, storable, trimmed_entries entered⟩
  | status table status id found some stored =>
    refine ⟨formed.users, fun other profile present => ?_, formed.votes, formed.posts⟩
    obtain ⟨old, stored, same, _, entries⟩ := Rows.origin_decideProfile present
    have before := formed.profiles other old stored
    rw [same, entries] at before
    exact before
  | vote voterId candidateId =>
    obtain ⟨range, _⟩ := insertion (Rows.addVote_ne _ _) rfl
    refine ⟨formed.users, formed.profiles, fun vote present => ?_, formed.posts⟩
    rcases List.mem_append.mp present with old | new
    · exact formed.votes vote old
    · rw [List.mem_singleton.mp new]
      exact range
  | post userId content =>
    obtain ⟨range, storable⟩ := insertion (Rows.addForumPost_ne _ _) rfl
    obtain ⟨_, line, _, _, typed⟩ := permit
    refine ⟨formed.users, formed.profiles, formed.votes, fun post present => ?_⟩
    rcases List.mem_append.mp present with old | new
    · exact formed.posts post old
    · rw [List.mem_singleton.mp new]
      refine ⟨range, ⟨storable, ?_⟩, sends.1⟩
      simp [typed, trim_trim]

/-- The rows of every reachable database are well formed. -/
theorem rows_well_formed {system : System app} (reachable : system.Reachable) :
    WellFormed system.store.rows := by
  let kept (state : System app) : Prop := WellFormed state.store.rows
  have start : kept (System.initial app) :=
    ⟨fun _ none => (List.not_mem_nil none).elim, fun _ _ none => (List.not_mem_nil none).elim,
      fun _ none => (List.not_mem_nil none).elim, fun _ none => (List.not_mem_nil none).elim⟩
  have keeps {state next : System app} {event : Event app} (reached : state.Reachable)
      (formed : kept state) (stepped : state.step event = some next) : kept next := by
    cases System.step_move stepped with
    | serve waits served => exact formed.served reached waits served
    | start _ | type _ _ | turn _ | leave _ | kill _ => exact formed
  exact reachable.keeps start keeps

end

section

attribute [local instance] latin1

set_option maxRecDepth 10000 in
/-- After the election, the rows are well formed. -/
theorem rows_well_formed_election : ∃ system, (System.initial app).run election = some system ∧
    system.store.rows.votes = [⟨4, 3, 2, 0⟩] ∧ WellFormed system.store.rows := by
  have result : ((System.initial app).run election).map
      (fun system => system.store.rows.votes) = some [⟨4, 3, 2, 0⟩] := by decide +kernel
  obtain ⟨system, ran, votes⟩ := Option.map_eq_some_iff.mp result
  exact ⟨system, ran, votes, rows_well_formed ⟨election, ran⟩⟩

end

end OnlineVoting
