import OnlineVoting.Library.Run

/-!
# Two runs in lockstep

Two systems of one program stand at the same rests over stores that differ in something the
program is not to tell. When every request gets the same answer from both stores and leaves them
alike, the systems stay so through every interleaving, and every step of the one prints what the
matching step of the other prints. Some loops may tell the stores apart, as long as they only print
what they tell and return: then everything that other loops print is still the same.
-/
namespace Interleaving

variable {I : Interface} {P : Program I}

/-- What two runs may differ in. -/
structure Likeness (P : Program I) where
  /-- Stores that are not to be told apart. -/
  Alike : P.Store → P.Store → Prop
  /-- Choices of the stores that match. -/
  Matches : P.Choice → P.Choice → Prop
  /-- Loops that may tell the stores apart. -/
  Tells : P.Loop → Prop

/-- The same step of two systems, whose stores choose as they match. -/
inductive Event.Match (choices : P.Choice → P.Choice → Prop) : Event P → Event P → Prop where
  | start (process : Nat) : Match choices (.start process) (.start process)
  | type (process : Nat) (line : String) : Match choices (.type process line) (.type process line)
  | serve (process : Nat) {left right : P.Choice} (choice : choices left right) :
    Match choices (.serve process left) (.serve process right)
  | turn (process : Nat) : Match choices (.turn process) (.turn process)
  | kill (process : Nat) : Match choices (.kill process) (.kill process)

/-- Choices that match only themselves match only the same step. -/
theorem Event.Match.eq {left right : Event P} (same : Event.Match Eq left right) :
    left = right := by
  cases same with
  | serve process choice => rw [choice]
  | _ => rfl

/-- Dialogues at the same rest, except that one that tells may return with other output. -/
inductive Dialogue.Alike {α : Type} (tells : Prop) : Dialogue I α → Dialogue I α → Prop where
  /-- They are at the same rest. -/
  | same (rest : Dialogue I α) : Alike tells rest rest
  /-- They return the same value. -/
  | told (may : tells) (left right : List I.Output) (value : α) :
    Alike tells (.done left value) (.done right value)

/-- Processes in the same loop, at the same rest but for what a loop tells. -/
inductive Process.Alike (tells : P.Loop → Prop) :
    Option (Process P) → Option (Process P) → Prop where
  /-- Neither runs. -/
  | none : Alike tells none none
  /-- Both run in a loop. -/
  | running (loop : P.Loop) {left right : Dialogue I (Option P.Loop)}
    (rests : Dialogue.Alike (tells loop) left right) :
    Alike tells (some ⟨loop, left⟩) (some ⟨loop, right⟩)

/-- Steps that print the same, unless they are of a loop that tells. -/
structure Entry.Alike (tells : P.Loop → Prop) (left right : Entry P) : Prop where
  /-- They are of one process. -/
  process : left.process = right.process
  /-- They are in one loop. -/
  loop : left.loop = right.loop
  /-- They print the same. -/
  printed : ¬ tells left.loop → left.printed = right.printed

/-- What a step shows: at which console, in which loop, and what it prints. -/
def Entry.shown (entry : Entry P) : Nat × P.Loop × List I.Output :=
  (entry.process, entry.loop, entry.printed)

/-- Where no loop tells, steps that are alike show the same. -/
theorem Entry.shown_eq {tells : P.Loop → Prop} (silent : ∀ loop, ¬ tells loop)
    {left right : List (Entry P)} (alike : List.Forall₂ (Entry.Alike tells) left right) :
    left.map Entry.shown = right.map Entry.shown := by
  induction alike with
  | nil => rfl
  | cons same _ ih =>
    have first : Entry.shown _ = Entry.shown _ :=
      Prod.ext same.process (Prod.ext same.loop (same.printed (silent _)))
    rw [List.map_cons, List.map_cons, ih, first]

/-- Dialogues that are alike without telling print the same. -/
theorem Dialogue.Alike.printed {α : Type} {tells : Prop} {left right : Dialogue I α}
    (alike : left.Alike tells right) (silent : ¬ tells) : left.printed = right.printed := by
  cases alike with
  | same rest => rfl
  | told tells _ _ _ => exact absurd tells silent

/-- Processes at the same rest are alike. -/
theorem Process.Alike.refl (tells : P.Loop → Prop) (process : Option (Process P)) :
    Process.Alike tells process process := by
  cases process with
  | none => exact .none
  | some running => exact .running running.loop (.same running.rest)

/-- Where no loop tells, processes that are alike are the same. -/
theorem Process.Alike.eq {tells : P.Loop → Prop} {left right : Option (Process P)}
    (alike : Process.Alike tells left right)
    (silent : ∀ loop rest, left = some ⟨loop, rest⟩ → ¬ tells loop) : left = right := by
  cases alike with
  | none => rfl
  | running loop rests =>
    cases rests with
    | same rest => rfl
    | told tells _ _ _ => exact absurd tells (silent loop _ rfl)

namespace Likeness

/-- Two systems that are not to be told apart. -/
structure Pair (L : Likeness P) (left right : System P) : Prop where
  /-- Their stores are alike. -/
  stores : L.Alike left.store right.store
  /-- Their processes are alike. -/
  processes : ∀ process, Process.Alike L.Tells (left.process process) (right.process process)

/-- What must be shown of one request at a time. -/
structure Sound (L : Likeness P) : Prop where
  /-- Matching answers leave the stores alike, and are the same unless the loop tells and
  returns. -/
  agrees : ∀ {left right : System P} {process : Nat} {loop : P.Loop} {printed : List I.Output}
    {request : I.Request} {next : I.Answer request → Dialogue I (Option P.Loop)}
    {choice other : P.Choice} {store store' : P.Store} {answer answer' : I.Answer request},
    left.Reachable → right.Reachable → L.Alike left.store right.store →
    left.process process = some ⟨loop, .ask printed request next⟩ →
    right.process process = some ⟨loop, .ask printed request next⟩ → L.Matches choice other →
    P.serve request choice left.store = some (store, answer) →
    P.serve request other right.store = some (store', answer') →
      L.Alike store store' ∧ Dialogue.Alike (L.Tells loop) (next answer) (next answer')
  /-- What the one store answers, the other does by a matching choice. -/
  answers : ∀ {left right : System P} {process : Nat} {loop : P.Loop} {printed : List I.Output}
    {request : I.Request} {next : I.Answer request → Dialogue I (Option P.Loop)}
    {choice : P.Choice} {store : P.Store} {answer : I.Answer request},
    left.Reachable → right.Reachable → L.Alike left.store right.store →
    left.process process = some ⟨loop, .ask printed request next⟩ →
    right.process process = some ⟨loop, .ask printed request next⟩ →
    P.serve request choice left.store = some (store, answer) →
      ∃ other store' answer', L.Matches choice other ∧
        P.serve request other right.store = some (store', answer')

variable {L : Likeness P}

/-- A process that waits for a line or an answer waits in the other system as well. -/
theorem Pair.waits {left right : System P} (pair : L.Pair left right) {process : Nat}
    {loop : P.Loop} {rest : Dialogue I (Option P.Loop)}
    (runs : left.process process = some ⟨loop, rest⟩)
    (waiting : ∀ printed value, rest ≠ .done printed value) :
    right.process process = some ⟨loop, rest⟩ := by
  have alike := pair.processes process
  rw [runs] at alike
  generalize other : right.process process = running at alike
  cases alike with
  | running _ rests =>
    cases rests with
    | same _ => rfl
    | told _ _ _ _ => exact absurd rfl (waiting _ _)

/-- A process that has returned has returned the same value in the other system. -/
theorem Pair.returned {left right : System P} (pair : L.Pair left right) {process : Nat}
    {loop : P.Loop} {printed : List I.Output} {value : Option P.Loop}
    (runs : left.process process = some ⟨loop, .done printed value⟩) :
    ∃ other, right.process process = some ⟨loop, .done other value⟩ := by
  have alike := pair.processes process
  rw [runs] at alike
  generalize other : right.process process = running at alike
  cases alike with
  | running _ rests =>
    cases rests with
    | same _ => exact ⟨printed, rfl⟩
    | told _ _ shown _ => exact ⟨shown, rfl⟩

/-- A process that has ended has ended in the other system. -/
theorem Pair.free {left right : System P} (pair : L.Pair left right) {process : Nat}
    (free : left.process process = none) : right.process process = none := by
  have alike := pair.processes process
  rw [free] at alike
  generalize other : right.process process = running at alike
  cases alike with
  | none => rfl

/-- One process takes a step in both systems. -/
theorem Pair.advance {left right : System P} (pair : L.Pair left right) {process : Nat}
    {store store' : P.Store} (alike : L.Alike store store') {loop : P.Loop}
    (action action' : Action P) {rest rest' : Dialogue I (Option P.Loop)}
    (rests : Dialogue.Alike (L.Tells loop) rest rest') :
    L.Pair (left.advance process store loop action (some rest))
      (right.advance process store' loop action' (some rest')) := by
  refine ⟨alike, fun other => ?_⟩
  by_cases same : other = process
  · subst same
    rw [System.advance_self, System.advance_self]
    exact .running loop rests
  · rw [System.advance_other _ same, System.advance_other _ same]
    exact pair.processes other

/-- One process ends in both systems. -/
theorem Pair.stop {left right : System P} (pair : L.Pair left right) {process : Nat}
    (loop loop' : P.Loop) (action action' : Action P) :
    L.Pair (left.advance process left.store loop action none)
      (right.advance process right.store loop' action' none) := by
  refine ⟨pair.stores, fun other => ?_⟩
  by_cases same : other = process
  · subst same
    rw [System.advance_self, System.advance_self]
    exact .none
  · rw [System.advance_other _ same, System.advance_other _ same]
    exact pair.processes other

/-- Systems that are not to be told apart stay so over matching steps, which print the same. -/
theorem Pair.step (sound : L.Sound) {left right next next' : System P}
    (leftReachable : left.Reachable) (rightReachable : right.Reachable) (pair : L.Pair left right)
    {event other : Event P} (same : Event.Match L.Matches event other)
    (stepped : left.step event = some next) (stepped' : right.step other = some next') :
    L.Pair next next' ∧ ∃ entry entry', next.log = entry :: left.log ∧
      next'.log = entry' :: right.log ∧ Entry.Alike L.Tells entry entry' := by
  have own {process : Nat} {store store' : P.Store} (alike : L.Alike store store') {loop : P.Loop}
      (action action' : Action P) {rest rest' : Dialogue I (Option P.Loop)}
      (rests : Dialogue.Alike (L.Tells loop) rest rest') :
      L.Pair (left.advance process store loop action (some rest))
          (right.advance process store' loop action' (some rest')) ∧
        ∃ entry entry', (left.advance process store loop action (some rest)).log =
            entry :: left.log ∧
          (right.advance process store' loop action' (some rest')).log = entry' :: right.log ∧
          Entry.Alike L.Tells entry entry' :=
    ⟨pair.advance alike action action' rests, _, _, rfl, rfl, rfl, rfl, rests.printed⟩
  have ends (process : Nat) (loop : P.Loop) :
      L.Pair (left.advance process left.store loop .stopped none)
          (right.advance process right.store loop .stopped none) ∧
        ∃ entry entry', (left.advance process left.store loop .stopped none).log =
            entry :: left.log ∧
          (right.advance process right.store loop .stopped none).log = entry' :: right.log ∧
          Entry.Alike L.Tells entry entry' :=
    ⟨pair.stop loop loop .stopped .stopped, _, _, rfl, rfl, rfl, rfl, fun _ => rfl⟩
  cases same with
  | start process =>
    cases System.step_move stepped
    cases System.step_move stepped'
    exact own pair.stores _ _ (.same _)
  | type process line =>
    cases System.step_move stepped with
    | type _ waits =>
      have waits' := pair.waits waits (by simp)
      obtain rfl := Option.some.inj ((System.step_type waits' line).symm.trans stepped')
      exact own pair.stores _ _ (.same _)
  | serve process choice =>
    cases System.step_move stepped with
    | serve waits served =>
      have waits' := pair.waits waits (by simp)
      cases System.step_move stepped' with
      | serve found served' =>
        obtain ⟨rfl, same⟩ := Process.mk.inj (Option.some.inj (waits'.symm.trans found))
        obtain ⟨rfl, rfl, same⟩ := Dialogue.ask.inj same
        obtain rfl := eq_of_heq same
        obtain ⟨alike, rests⟩ := sound.agrees leftReachable rightReachable pair.stores waits waits'
          choice served served'
        exact own alike _ _ rests
  | turn process =>
    cases System.step_move stepped with
    | turn returned =>
      obtain ⟨_, returned'⟩ := pair.returned returned
      obtain rfl := Option.some.inj ((System.step_turn returned').symm.trans stepped')
      exact own pair.stores _ _ (.same _)
    | leave returned =>
      obtain ⟨_, returned'⟩ := pair.returned returned
      cases System.step_move stepped' with
      | turn found =>
        obtain ⟨_, same⟩ := Process.mk.inj (Option.some.inj (returned'.symm.trans found))
        exact absurd (Dialogue.done.inj same).2 (by simp)
      | leave found =>
        obtain ⟨rfl, _⟩ := Process.mk.inj (Option.some.inj (returned'.symm.trans found))
        exact ends process _
  | kill process =>
    cases System.step_move stepped with
    | kill runs =>
      cases System.step_move stepped' with
      | kill runs' =>
        have alike := pair.processes process
        rw [runs, runs'] at alike
        cases alike
        exact ends process _

/-- A step of one system can be matched by the other. -/
theorem Pair.follows (sound : L.Sound) {left right next : System P}
    (leftReachable : left.Reachable) (rightReachable : right.Reachable) (pair : L.Pair left right)
    {event : Event P} (stepped : left.step event = some next) :
    ∃ other next', Event.Match L.Matches event other ∧ right.step other = some next' := by
  cases System.step_move stepped with
  | @start process free =>
    refine ⟨_, right.advance process right.store P.boot .started (some (P.body P.boot)), .start _, ?_⟩
    simp only [System.step, pair.free free]
  | type line waits =>
    exact ⟨_, _, .type _ line, System.step_type (pair.waits waits (by simp)) line⟩
  | serve waits served =>
    have waits' := pair.waits waits (by simp)
    obtain ⟨choice, store', answer', matching, served'⟩ := sound.answers leftReachable
      rightReachable pair.stores waits waits' served
    exact ⟨_, _, .serve _ matching, System.step_serve waits' served'⟩
  | turn returned =>
    obtain ⟨_, returned'⟩ := pair.returned returned
    exact ⟨_, _, .turn _, System.step_turn returned'⟩
  | @leave process loop _ returned =>
    obtain ⟨_, returned'⟩ := pair.returned returned
    refine ⟨_, right.advance process right.store loop .stopped none, .turn _, ?_⟩
    simp only [System.step, returned']
  | @kill process loop _ runs =>
    have alike := pair.processes process
    rw [runs] at alike
    generalize other : right.process process = running at alike
    cases alike
    refine ⟨_, right.advance process right.store loop .stopped none, .kill _, ?_⟩
    simp only [System.step, other]

/-- Systems that are not to be told apart stay so over matching runs, which print the same. -/
theorem Pair.run (sound : L.Sound) {left right last last' : System P}
    (leftReachable : left.Reachable) (rightReachable : right.Reachable) (pair : L.Pair left right)
    {events others : List (Event P)} (same : List.Forall₂ (Event.Match L.Matches) events others)
    (ran : left.run events = some last) (ran' : right.run others = some last') :
    L.Pair last last' ∧ ∃ newer newer', last.log = newer ++ left.log ∧
      last'.log = newer' ++ right.log ∧ List.Forall₂ (Entry.Alike L.Tells) newer newer' := by
  induction same generalizing left right with
  | nil =>
    obtain rfl := Option.some.inj ran
    obtain rfl := Option.some.inj ran'
    exact ⟨pair, [], [], rfl, rfl, .nil⟩
  | cons event _ ih =>
    obtain ⟨next, stepped, ran⟩ := System.run_cons ran
    obtain ⟨next', stepped', ran'⟩ := System.run_cons ran'
    obtain ⟨after, entry, entry', logged, logged', alike⟩ :=
      pair.step sound leftReachable rightReachable event stepped stepped'
    obtain ⟨ended, newer, newer', grown, grown', rest⟩ :=
      ih (leftReachable.step stepped) (rightReachable.step stepped') after ran ran'
    refine ⟨ended, newer ++ [entry], newer' ++ [entry'], ?_, ?_, ?_⟩
    · rw [grown, logged, List.append_assoc, List.singleton_append]
    · rw [grown', logged', List.append_assoc, List.singleton_append]
    · exact List.rel_append rest (.cons alike .nil)

/-- A run of one system can be matched by the other. -/
theorem Pair.run_follows (sound : L.Sound) {left right last : System P}
    (leftReachable : left.Reachable) (rightReachable : right.Reachable) (pair : L.Pair left right)
    {events : List (Event P)} (ran : left.run events = some last) :
    ∃ others last', List.Forall₂ (Event.Match L.Matches) events others ∧
      right.run others = some last' := by
  induction events generalizing left right with
  | nil => exact ⟨[], right, .nil, rfl⟩
  | cons event later ih =>
    obtain ⟨next, stepped, ran⟩ := System.run_cons ran
    obtain ⟨other, next', same, stepped'⟩ :=
      pair.follows sound leftReachable rightReachable stepped
    obtain ⟨after, _⟩ := pair.step sound leftReachable rightReachable same stepped stepped'
    obtain ⟨others, last', matching, ran'⟩ :=
      ih (leftReachable.step stepped) (rightReachable.step stepped') after ran
    exact ⟨other :: others, last', .cons same matching, System.run_step stepped' ran'⟩

end Likeness

end Interleaving
