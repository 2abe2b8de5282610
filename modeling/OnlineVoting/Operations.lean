import OnlineVoting.Continuations

/-!
# The writing methods

The six methods that write to the tables, the menus that call them, and the course of a call: a
call sends at most one writing statement, made of the lines typed in it, and returns at once with
a message.
-/
namespace OnlineVoting

open Interleaving

/-- The writing methods, each with its arguments. -/
inductive Operation where
  /-- `register()` -/
  | register
  /-- `applyVoterID(userId)` -/
  | applyVoterID (userId : Nat)
  /-- `applyCandidate(userId)` -/
  | applyCandidate (userId : Nat)
  /-- `approveReject(table)` -/
  | approveReject (table : ProfileTable)
  /-- `castVote(voterId)` -/
  | castVote (voterId : Nat)
  /-- `postForum(userId)` -/
  | postForum (userId : Nat)
  deriving DecidableEq

variable [Platform]

namespace Operation

/-- The method of an operation. -/
def method : Operation → Dialogue console Unit
  | register => OnlineVoting.register
  | applyVoterID userId => OnlineVoting.applyVoterID userId
  | applyCandidate userId => OnlineVoting.applyCandidate userId
  | approveReject table => OnlineVoting.approveReject table
  | castVote voterId => OnlineVoting.castVote voterId
  | postForum userId => OnlineVoting.postForum userId

/-- The rest of a round that has just called an operation. -/
def call (operation : Operation) (loop : Loop) : Dialogue console (Option Loop) := do
  operation.method
  return some loop

/-- The writing statement of an operation, for the lines typed in its call, newest first. -/
def Sends : Operation → List String → Stmt → Prop
  | register, typed, stmt => ∃ role password username name,
      typed = [role, password, username, name] ∧
      stmt = .insertUser (trim username) (sha256 (trim password)) (trim name)
        (toUpperCase (trim role))
  | applyVoterID userId, typed, stmt => ∃ address constituency, typed = [address, constituency] ∧
      stmt = .insertProfile .voterProfiles userId ⟨trim constituency, trim address⟩
  | applyCandidate userId, typed, stmt => ∃ manifesto constituency party,
      typed = [manifesto, constituency, party] ∧
      stmt = .insertProfile .candidateProfiles userId
        ⟨trim party, trim constituency, trim manifesto⟩
  | approveReject table, typed, stmt => ∃ action idStr status id, typed = [action, idStr] ∧
      decision (toUpperCase (trim action)) = some status ∧ parseInt (trim idStr) = some id ∧
      stmt = .updateStatus table status id
  | castVote voterId, typed, stmt => ∃ idStr candidateId, typed = [idStr] ∧
      stmt = .insertVote voterId candidateId
  | postForum userId, typed, stmt => ∃ line, typed = [line] ∧
      stmt = .insertForumPost userId (trim line)

/-- The message of an operation that wrote one row, with the values typed in its call. -/
def Writes (rows later : Rows) : Operation → List String → Output → Prop
  | register, typed, message => ∃ role password username name parsed id,
      typed = [role, password, username, name] ∧
      Role.ofLabel (toUpperCase (trim role)) = some parsed ∧
      later = rows.addUser ⟨id, trim username, sha256 (trim password), trim name, parsed⟩ ∧
      message = .println "Registered successfully! You can now log in.\n"
  | applyVoterID userId, typed, message => ∃ address constituency id,
      typed = [address, constituency] ∧
      later = rows.addProfile .voterProfiles
        ⟨id, userId, ⟨trim constituency, trim address⟩, .pending⟩ ∧
      message = .println "Voter ID application submitted! Status: PENDING.\n"
  | applyCandidate userId, typed, message => ∃ manifesto constituency party id,
      typed = [manifesto, constituency, party] ∧
      later = rows.addProfile .candidateProfiles
        ⟨id, userId, ⟨trim party, trim constituency, trim manifesto⟩, .pending⟩ ∧
      message = .println "Candidacy application submitted! Status: PENDING.\n"
  | approveReject table, typed, message => ∃ action idStr status id, typed = [action, idStr] ∧
      decision (toUpperCase (trim action)) = some status ∧ parseInt (trim idStr) = some id ∧
      ((rows.profiles table).countP fun profile => profile.id = id) = 1 ∧
      later = rows.decideProfile table id status ∧
      message = .println ("Done! Status set to " ++ status.label ++ ".\n")
  | castVote voterId, typed, message => ∃ idStr id clock, ∃ profile ∈ rows.candidates,
      typed = [idStr] ∧ parseInt (trim idStr) = some (profile.id : Int) ∧
      later = rows.addVote ⟨id, voterId, profile.userId, clock⟩ ∧
      message = .println "Vote cast successfully! Thank you.\n"
  | postForum userId, typed, message => ∃ line id clock, typed = [line] ∧
      later = rows.addForumPost ⟨id, userId, trim line, clock⟩ ∧ message = .println "Posted!\n"

/-! ## The course of a call -/

/-- The course of a call: a writing statement is the one of the operation, and ends the call with
a message. -/
def course (operation : Operation) : Dialogue.Course console Unit where
  asks typed _ stmt next := (∀ passwordHash, stmt ≠ .seedAdmin passwordHash) ∧
    (successMessage stmt ≠ none → operation.Sends typed stmt ∧
      ∀ answer, ∃ message, next answer = .done [message] ())
  ends _ printed _ := printed ≠ []

/-- A method returns with a message. -/
theorem returns {operation : Operation} {typed : List String} {printed : List Output}
    (shown : printed ≠ []) : (Dialogue.done printed ()).Follows operation.course typed :=
  .done shown

/-- A query of a method writes nothing. -/
theorem queries {operation : Operation} {typed : List String} {printed : List Output}
    {stmt : Stmt} {next : Answer stmt → Dialogue console Unit}
    (other : ∀ passwordHash, stmt ≠ .seedAdmin passwordHash) (silent : successMessage stmt = none)
    (more : ∀ answer, (next answer).Follows operation.course typed) :
    (Dialogue.ask printed stmt next).Follows operation.course typed :=
  .ask ⟨other, fun writes => absurd silent writes⟩ more

theorem register_course : OnlineVoting.register.Follows register.course [] := by
  rw [register_eq]
  refine .read fun name => .read fun username => .read fun password => .read fun role => ?_
  split
  · refine .ask ⟨by simp, fun _ => ⟨⟨role, password, username, name, rfl, rfl⟩, ?_⟩⟩ ?_
    · rintro (_ | _)
      · dsimp only
        split <;> exact ⟨_, rfl⟩
      · exact ⟨_, rfl⟩
    · rintro (_ | _)
      · dsimp only
        split <;> exact returns (by simp)
      · exact returns (by simp)
  · exact returns (by simp)

theorem applyVoterID_course (userId : Nat) :
    (OnlineVoting.applyVoterID userId).Follows (applyVoterID userId).course [] := by
  rw [applyVoterID_eq]
  refine queries (by simp) rfl fun answer => ?_
  split
  · exact returns (by simp)
  · refine .read fun constituency => .read fun address =>
      .ask ⟨by simp, fun _ => ⟨⟨address, constituency, rfl, rfl⟩, ?_⟩⟩ ?_
    · rintro (_ | _) <;> exact ⟨_, rfl⟩
    · rintro (_ | _) <;> exact returns (by simp)
  · exact returns (by simp)

theorem applyCandidate_course (userId : Nat) :
    (OnlineVoting.applyCandidate userId).Follows (applyCandidate userId).course [] := by
  rw [applyCandidate_eq]
  refine queries (by simp) rfl fun answer => ?_
  split
  · exact returns (by simp)
  · refine .read fun party => .read fun constituency => .read fun manifesto =>
      .ask ⟨by simp, fun _ => ⟨⟨manifesto, constituency, party, rfl, rfl⟩, ?_⟩⟩ ?_
    · rintro (_ | _) <;> exact ⟨_, rfl⟩
    · rintro (_ | _) <;> exact returns (by simp)
  · exact returns (by simp)

theorem approveReject_course (table : ProfileTable) :
    (OnlineVoting.approveReject table).Follows (approveReject table).course [] := by
  rw [approveReject_eq]
  refine .read fun idStr => .read fun action => ?_
  split
  · exact returns (by simp)
  · rename_i status decided
    refine queries (by simp) rfl fun answer => ?_
    split
    · split
      · rename_i id parsed
        refine .ask ⟨by simp, fun _ =>
          ⟨⟨action, idStr, status, id, rfl, decided, parsed, rfl⟩, ?_⟩⟩ ?_
        · rintro (_ | _)
          · exact ⟨_, rfl⟩
          · dsimp only
            split <;> exact ⟨_, rfl⟩
        · rintro (_ | _)
          · exact returns (by simp)
          · dsimp only
            split <;> exact returns (by simp)
      · exact returns (by simp)
    · exact returns (by simp)

/-- `castVote` asks four times before it writes. -/
theorem castVote_course (voterId : Nat) :
    (OnlineVoting.castVote voterId).Follows (castVote voterId).course [] := by
  simp only [castVote_eq, chooseCandidate_eq, Dialogue.prepend_read]
  refine queries (by simp) rfl fun answer => ?_
  split
  · split
    · refine queries (by simp) rfl fun answer => ?_
      split
      · exact returns (by simp)
      · refine queries (by simp) rfl fun answer => .read fun idStr =>
          queries (by simp) rfl fun answer => ?_
        split
        · split
          · refine queries (by simp) rfl fun answer => ?_
            split
            · refine .ask ⟨by simp, fun _ => ⟨⟨idStr, _, rfl, rfl⟩, ?_⟩⟩ ?_
              · rintro (_ | _) <;> exact ⟨_, rfl⟩
              · rintro (_ | _) <;> exact returns (by simp)
            · exact returns (by simp)
            · exact returns (by simp)
          · exact returns (by simp)
        · exact returns (by simp)
      · exact returns (by simp)
    · exact returns (by simp)
  · exact returns (by simp)
  · exact returns (by simp)

theorem postForum_course (userId : Nat) :
    (OnlineVoting.postForum userId).Follows (postForum userId).course [] := by
  rw [postForum_eq]
  refine .read fun line => ?_
  split
  · exact returns (by simp)
  · refine .ask ⟨by simp, fun _ => ⟨⟨line, rfl, rfl⟩, ?_⟩⟩ ?_
    · rintro (_ | _) <;> exact ⟨_, rfl⟩
    · rintro (_ | _) <;> exact returns (by simp)

/-- Every operation takes its course. -/
theorem method_course (operation : Operation) : operation.method.Follows operation.course [] := by
  cases operation with
  | register => exact register_course
  | applyVoterID userId => exact applyVoterID_course userId
  | applyCandidate userId => exact applyCandidate_course userId
  | approveReject table => exact approveReject_course table
  | castVote voterId => exact castVote_course voterId
  | postForum userId => exact postForum_course userId

/-- The course of a call within a round of a loop. -/
def callCourse (operation : Operation) (loop : Loop) : Dialogue.Course console (Option Loop) where
  asks typed _ stmt next := (∀ passwordHash, stmt ≠ .seedAdmin passwordHash) ∧
    (successMessage stmt ≠ none → operation.Sends typed stmt ∧
      ∀ answer, ∃ message, next answer = .done [message] (some loop))
  ends _ printed next := printed ≠ [] ∧ next = some loop

/-- Every call takes its course. -/
theorem call_course (operation : Operation) (loop : Loop) :
    (operation.call loop).Follows (operation.callCourse loop) [] := by
  refine Dialogue.Follows.bind_done operation.method_course
    (fun typed printed stmt next asks => ?_) fun _ _ _ shown => ⟨shown, rfl⟩
  refine ⟨asks.1, fun writes => ?_⟩
  obtain ⟨sends, ends⟩ := asks.2 writes
  refine ⟨sends, fun answer => ?_⟩
  obtain ⟨message, done⟩ := ends answer
  exact ⟨message, returned_round done loop⟩

end Operation

/-! ## The menus -/

/-- The operation behind a choice in a menu. -/
def Loop.operation : Loop → String → Option Operation
  | .mainMenu, "2" => some .register
  | .adminMenu _, "2" => some (.approveReject .voterProfiles)
  | .adminMenu _, "4" => some (.approveReject .candidateProfiles)
  | .officerMenu _, "2" => some (.approveReject .voterProfiles)
  | .voterMenu voterId _, "1" => some (.applyVoterID voterId)
  | .voterMenu voterId _, "4" => some (.castVote voterId)
  | .voterMenu voterId _, "5" => some (.postForum voterId)
  | .candidateMenu candidateId _, "1" => some (.applyCandidate candidateId)
  | .candidateMenu candidateId _, "3" => some (.postForum candidateId)
  | _, _ => none

/-- A menu calls the operation that is chosen. -/
theorem menu_calls {loop : Loop} {line : String} {operation : Operation}
    (chosen : loop.operation (trim line) = some operation) :
    ∃ printed next, loop.body = .read printed next ∧ next line = operation.call loop := by
  unfold Loop.operation at chosen
  split at chosen
  case h_10 => contradiction
  all_goals
    rename_i typed
    obtain rfl := Option.some.inj chosen
    simp only [Loop.body, mainMenu_eq, adminMenu_eq, officerMenu_eq, voterMenu_eq, candidateMenu_eq]
    refine ⟨_, _, rfl, ?_⟩
    simp only [typed]
    rfl

/-- A line typed at a menu calls the operation that it chooses. -/
theorem choice_calls {system : System app} (reachable : system.Reachable) {process : Nat}
    {loop : Loop} (runs : (system.process process).map Process.loop = some loop)
    (fresh : roundOf process system.log = []) {line : String} {operation : Operation}
    (chosen : loop.operation (trim line) = some operation) :
    ∃ next, system.step (.type process line) = some next ∧
      next.process process = some ⟨loop, operation.call loop⟩ := by
  have waits : system.process process = some ⟨loop, loop.body⟩ := reachable.at_body runs fresh
  obtain ⟨printed, more, body, calls⟩ := menu_calls chosen
  rw [body] at waits
  refine ⟨_, System.step_type waits line, ?_⟩
  rw [System.advance_self, calls]
  rfl

end OnlineVoting
