import Mathlib

/-!
# Dialogues of a console program

A dialogue is what one method of an interactive program does between its start and its return:
it prints, waits for a typed line, or sends a request to a shared store and continues with the
answer. What is printed before a wait is kept at the node that waits, so a dialogue is always
at rest at a wait or at its end, and one typed line or one answer leads to the next rest. The
dialogues of a program are its methods, written in the monad below in the order of the source.
-/
namespace Interleaving

/-- What the dialogues of a program may ask of the shared store, and what they print. -/
structure Interface where
  /-- Requests to the shared store. -/
  Request : Type
  /-- What a request is answered with. -/
  Answer : Request → Type
  /-- One printing call. -/
  Output : Type

/-- A dialogue at rest, with what it printed since its last rest. -/
inductive Dialogue (I : Interface) (α : Type) : Type where
  /-- The method has returned. -/
  | done (printed : List I.Output) (value : α)
  /-- The method waits for a typed line. -/
  | read (printed : List I.Output) (next : String → Dialogue I α)
  /-- The method waits for the answer to a request. -/
  | ask (printed : List I.Output) (request : I.Request)
      (next : I.Answer request → Dialogue I α)

namespace Dialogue

variable {I : Interface} {α β : Type}

/-- What was printed on the way to this rest. -/
def printed : Dialogue I α → List I.Output
  | done printed _ => printed
  | read printed _ => printed
  | ask printed _ _ => printed

/-- The request that is waited for. -/
def requested : Dialogue I α → Option I.Request
  | ask _ request _ => some request
  | _ => none

/-- Print before what the dialogue already printed. -/
def prepend : List I.Output → Dialogue I α → Dialogue I α
  | [], rest => rest
  | first :: more, done printed value => done (first :: more ++ printed) value
  | first :: more, read printed next => read (first :: more ++ printed) next
  | first :: more, ask printed request next => ask (first :: more ++ printed) request next

/-- Continue with the value a dialogue returns. -/
def bind : Dialogue I α → (α → Dialogue I β) → Dialogue I β
  | done printed value, next => (next value).prepend printed
  | read printed rest, next => read printed fun line => (rest line).bind next
  | ask printed request rest, next => ask printed request fun answer => (rest answer).bind next

instance : Monad (Dialogue I) where
  pure value := done [] value
  bind := bind

/-- One printing call. -/
def print (output : I.Output) : Dialogue I Unit := done [output] ()

/-- One line typed at the console. -/
def readLine : Dialogue I String := read [] fun line => done [] line

/-- One request to the shared store. -/
def request (request : I.Request) : Dialogue I (I.Answer request) :=
  ask [] request fun answer => done [] answer

@[simp] theorem prepend_done (first printed : List I.Output) (value : α) :
    (done printed value).prepend first = done (first ++ printed) value := by
  cases first <;> rfl

@[simp] theorem prepend_read (first printed : List I.Output) (next : String → Dialogue I α) :
    (read printed next).prepend first = read (first ++ printed) next := by
  cases first <;> rfl

@[simp] theorem prepend_ask (first printed : List I.Output) (request : I.Request)
    (next : I.Answer request → Dialogue I α) :
    (ask printed request next).prepend first = ask (first ++ printed) request next := by
  cases first <;> rfl

@[simp] theorem prepend_nil (rest : Dialogue I α) : rest.prepend (no_index []) = rest := rfl

@[simp] theorem prepend_prepend (first second : List I.Output) (rest : Dialogue I α) :
    (rest.prepend second).prepend first = rest.prepend (first ++ second) := by
  cases rest <;> simp [List.append_assoc]

@[simp] theorem printed_done (printed : List I.Output) (value : α) :
    (done printed value).printed = printed := rfl

@[simp] theorem printed_read (printed : List I.Output) (next : String → Dialogue I α) :
    (read printed next).printed = printed := rfl

@[simp] theorem printed_ask (printed : List I.Output) (request : I.Request)
    (next : I.Answer request → Dialogue I α) : (ask printed request next).printed = printed := rfl

/-- A dialogue that waits for an answer is at its request. -/
theorem ask_of_requested {rest : Dialogue I α} {request : I.Request}
    (waits : rest.requested = some request) :
    ∃ printed next, rest = ask printed request next := by
  cases rest with
  | ask printed _ next =>
    obtain rfl := Option.some.inj waits
    exact ⟨printed, next, rfl⟩
  | done _ _ => contradiction
  | read _ _ => contradiction

@[simp] theorem pure_eq (value : α) : (pure value : Dialogue I α) = done [] value := rfl

@[simp] theorem done_bind (printed : List I.Output) (value : α) (next : α → Dialogue I β) :
    done printed value >>= next = (next value).prepend printed := rfl

@[simp] theorem read_bind (printed : List I.Output) (rest : String → Dialogue I α)
    (next : α → Dialogue I β) :
    read printed rest >>= next = read printed fun line => rest line >>= next := rfl

@[simp] theorem ask_bind (printed : List I.Output) (request : I.Request)
    (rest : I.Answer request → Dialogue I α) (next : α → Dialogue I β) :
    ask printed request rest >>= next = ask printed request fun answer => rest answer >>= next :=
  rfl

/-- Returning another value prints nothing. -/
@[simp] theorem printed_bind_done (rest : Dialogue I α) (result : α → β) :
    (rest >>= fun value => done [] (result value)).printed = rest.printed := by
  cases rest <;> simp

/-- What is known of a dialogue wherever it sends a request or returns, given the lines that were
typed in it so far, newest first. -/
structure Course (I : Interface) (α : Type) where
  /-- Of what was printed before a request, of the request, and of what follows its answer. -/
  asks : List String → List I.Output → (request : I.Request) →
    (I.Answer request → Dialogue I α) → Prop
  /-- Of what was printed before the return, and of the value returned. -/
  ends : List String → List I.Output → α → Prop := fun _ _ _ => True

/-- A dialogue takes a course. -/
inductive Follows (course : Course I α) : List String → Dialogue I α → Prop where
  /-- It returns as the course says. -/
  | done {typed : List String} {printed : List I.Output} {value : α}
    (ends : course.ends typed printed value) :
    Follows course typed (done printed value)
  /-- It takes the course after every line. -/
  | read {typed : List String} {printed : List I.Output} {next : String → Dialogue I α}
    (more : ∀ line, Follows course (line :: typed) (next line)) :
    Follows course typed (read printed next)
  /-- It sends a request as the course says, and takes it after every answer. -/
  | ask {typed : List String} {printed : List I.Output} {request : I.Request}
    {next : I.Answer request → Dialogue I α} (asks : course.asks typed printed request next)
    (more : ∀ answer, Follows course typed (next answer)) :
    Follows course typed (ask printed request next)

variable {course : Course I α} {typed : List String}

/-- A line leads to a rest on the course. -/
theorem Follows.line {printed : List I.Output} {next : String → Dialogue I α}
    (follows : (Dialogue.read printed next).Follows course typed) (line : String) :
    (next line).Follows course (line :: typed) := by
  cases follows with
  | read more => exact more line

/-- A request is sent as the course says. -/
theorem Follows.asks {printed : List I.Output} {request : I.Request}
    {next : I.Answer request → Dialogue I α}
    (follows : (Dialogue.ask printed request next).Follows course typed) :
    course.asks typed printed request next := by
  cases follows with
  | ask asks _ => exact asks

/-- An answer leads to a rest on the course. -/
theorem Follows.answer {printed : List I.Output} {request : I.Request}
    {next : I.Answer request → Dialogue I α}
    (follows : (Dialogue.ask printed request next).Follows course typed)
    (answer : I.Answer request) : (next answer).Follows course typed := by
  cases follows with
  | ask _ more => exact more answer

/-- A dialogue returns as the course says. -/
theorem Follows.ends {printed : List I.Output} {value : α}
    (follows : (Dialogue.done printed value).Follows course typed) :
    course.ends typed printed value := by
  cases follows with
  | done ends => exact ends

/-- The course that every dialogue takes. -/
def Course.any : Course I α where
  asks _ _ _ _ := True

/-- Every dialogue takes it. -/
theorem Follows.any (rest : Dialogue I α) (typed : List String) : rest.Follows .any typed := by
  induction rest generalizing typed with
  | done _ _ => exact .done trivial
  | read _ _ ih => exact .read fun line => ih line (line :: typed)
  | ask _ _ _ ih => exact .ask trivial fun answer => ih answer typed

/-- A dialogue that another one calls last takes the course of the whole. -/
theorem Follows.bind_done {result : α → β} {whole : Course I β} {rest : Dialogue I α}
    (follows : rest.Follows course typed)
    (asks : ∀ typed printed request next, course.asks typed printed request next →
      whole.asks typed printed request
        fun answer => next answer >>= fun value => Dialogue.done [] (result value))
    (ends : ∀ typed printed value, course.ends typed printed value →
      whole.ends typed printed (result value)) :
    (rest >>= fun value => Dialogue.done [] (result value)).Follows whole typed := by
  induction follows with
  | done returns =>
    rw [done_bind, prepend_done, List.append_nil]
    exact .done (ends _ _ _ returns)
  | read _ ih =>
    rw [read_bind]
    exact .read ih
  | ask sends _ ih =>
    rw [ask_bind]
    exact .ask (asks _ _ _ _ sends) ih

end Dialogue

end Interleaving
