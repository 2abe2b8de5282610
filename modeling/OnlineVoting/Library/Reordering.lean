import OnlineVoting.Library.Call
import OnlineVoting.Library.Solo

/-!
# Steps that can change places

Processes meet in the store alone, and there only where one of them changes it. A step is decided
by the rest of its process and, if it serves a request, by the store; so two steps of different
processes change places unless both serve requests and one of them may change the store. Whole
schedules that order all other pairs alike then lead to one state, and a process that changes
nothing can be left out of a run.
-/
namespace Interleaving

variable {I : Interface} {P : Program I}

/-- The step serves a request. -/
def Event.serves : Event P → Bool
  | .serve _ _ => true
  | .start _ | .type _ _ | .turn _ | .kill _ => false

/-! ## What decides a step -/

/-- What a step does to the store, and where it takes its process. -/
structure Stride (P : Program I) where
  /-- The store after the step. -/
  change : P.Store → P.Store
  /-- The loop its process is in. -/
  loop : P.Loop
  /-- What happens. -/
  action : Action P
  /-- The next rest of its process. -/
  rest : Option (Dialogue I (Option P.Loop))

namespace System

/-- A process takes a stride. -/
def stride (system : System P) (process : Nat) (stride : Stride P) : System P :=
  system.advance process (stride.change system.store) stride.loop stride.action stride.rest

@[simp] theorem stride_store (system : System P) (process : Nat) (taken : Stride P) :
    (system.stride process taken).store = taken.change system.store := rfl

/-- A stride of one process leaves the others where they are. -/
theorem stride_other (system : System P) {process other : Nat} (apart : other ≠ process)
    (taken : Stride P) : (system.stride process taken).process other = system.process other :=
  system.advance_other apart _ _ _ _

/-- A step is one stride wherever its process is at the same rest and, if it serves a request, the
store is the same. -/
theorem step_stride {system next : System P} {event : Event P}
    (stepped : system.step event = some next) :
    ∃ taken : Stride P, next = system.stride event.actor taken ∧
      (event.serves = false → taken.change = id) ∧
      ∀ other : System P, other.process event.actor = system.process event.actor →
        (event.serves = true → other.store = system.store) →
          other.step event = some (other.stride event.actor taken) := by
  cases step_move stepped with
  | @start process free =>
    let taken : Stride P := ⟨id, P.boot, .started, some (P.body P.boot)⟩
    have there (other : System P) (same : other.process process = system.process process) :
        other.step (.start process) = some (other.stride process taken) := by
      simp only [step, same, free]
      rfl
    exact ⟨taken, rfl, fun _ => rfl, fun other same _ => there other same⟩
  | @type process loop printed next line waits =>
    let taken : Stride P := ⟨id, loop, .typed line, some (next line)⟩
    have there (other : System P) (same : other.process process = system.process process) :
        other.step (.type process line) = some (other.stride process taken) :=
      step_type (same.trans waits) line
    exact ⟨taken, rfl, fun _ => rfl, fun other same _ => there other same⟩
  | @serve process loop printed request next choice store answer waits served =>
    let taken : Stride P := ⟨fun _ => store, loop, .served request choice answer, some (next answer)⟩
    have there (other : System P) (same : other.process process = system.process process)
        (stored : other.store = system.store) :
        other.step (.serve process choice) = some (other.stride process taken) := by
      apply step_serve (same.trans waits)
      rw [stored]
      exact served
    exact ⟨taken, rfl, fun local_ => by contradiction, fun other same stored => there other same
      (stored rfl)⟩
  | @turn process loop next printed returned =>
    let taken : Stride P := ⟨id, next, .turned, some (P.body next)⟩
    have there (other : System P) (same : other.process process = system.process process) :
        other.step (.turn process) = some (other.stride process taken) :=
      step_turn (same.trans returned)
    exact ⟨taken, rfl, fun _ => rfl, fun other same _ => there other same⟩
  | @leave process loop printed returned =>
    let taken : Stride P := ⟨id, loop, .stopped, none⟩
    have there (other : System P) (same : other.process process = system.process process) :
        other.step (.turn process) = some (other.stride process taken) := by
      simp only [step, same, returned]
      rfl
    exact ⟨taken, rfl, fun _ => rfl, fun other same _ => there other same⟩
  | @kill process loop rest runs =>
    let taken : Stride P := ⟨id, loop, .stopped, none⟩
    have there (other : System P) (same : other.process process = system.process process) :
        other.step (.kill process) = some (other.stride process taken) := by
      simp only [step, same, runs]
      rfl
    exact ⟨taken, rfl, fun _ => rfl, fun other same _ => there other same⟩

end System

/-! ## States that differ in the order of their logs -/

/-- The same store and the same rests, and every process took the same steps in the same order. -/
structure System.Agrees (left right : System P) : Prop where
  /-- The stores are the same. -/
  store : left.store = right.store
  /-- The processes are at the same rests. -/
  process : left.process = right.process
  /-- Every process took the same steps. -/
  steps : ∀ process, stepsOf process left.log = stepsOf process right.log

namespace System.Agrees

theorem refl (system : System P) : system.Agrees system := ⟨rfl, rfl, fun _ => rfl⟩

theorem trans {first second third : System P} (before : first.Agrees second)
    (after : second.Agrees third) : first.Agrees third :=
  ⟨before.store.trans after.store, before.process.trans after.process,
    fun process => (before.steps process).trans (after.steps process)⟩

/-- One stride leads from states that agree to states that agree. -/
theorem stride {left right : System P} (agrees : left.Agrees right) (process : Nat)
    (taken : Stride P) : (left.stride process taken).Agrees (right.stride process taken) := by
  constructor
  · show taken.change left.store = taken.change right.store
    rw [agrees.store]
  · show Function.update left.process process _ = Function.update right.process process _
    rw [agrees.process]
  · intro other
    have before := agrees.steps other
    show stepsOf other (_ :: left.log) = stepsOf other (_ :: right.log)
    simp only [stepsOf, List.filter_cons] at before ⊢
    rw [before]

/-- States that agree take the same steps. -/
theorem step {left right next : System P} (agrees : left.Agrees right) {event : Event P}
    (stepped : left.step event = some next) :
    ∃ next', right.step event = some next' ∧ next.Agrees next' := by
  obtain ⟨taken, rfl, _, there⟩ := System.step_stride stepped
  have same : right.process event.actor = left.process event.actor := by rw [agrees.process]
  exact ⟨_, there right same fun _ => agrees.store.symm, agrees.stride event.actor taken⟩

end System.Agrees

/-- Strides of different processes change places, when the store does not tell their order. -/
theorem System.stride_comm (system : System P) {first second : Nat} (apart : first ≠ second)
    (one two : Stride P)
    (stores : two.change (one.change system.store) = one.change (two.change system.store)) :
    ((system.stride first one).stride second two).Agrees
      ((system.stride second two).stride first one) := by
  constructor
  · exact stores
  · exact Function.update_comm apart _ _ _
  · intro process
    show stepsOf process (_ :: _ :: system.log) = stepsOf process (_ :: _ :: system.log)
    by_cases mine : first = process
    · have other : second ≠ process := fun same => apart (mine.trans same.symm)
      simp [stepsOf, mine, other]
    · simp [stepsOf, List.filter_cons, mine]

/-! ## Marked schedules -/

/-- A run in which only marked steps may change the store. -/
inductive System.Runs : System P → List (Event P × Bool) → System P → Prop where
  /-- Nothing is left to do. -/
  | nil (system : System P) : Runs system [] system
  /-- A step is taken, and the rest follows. -/
  | cons {system next last : System P} {event : Event P} {mark : Bool}
    {later : List (Event P × Bool)} (stepped : system.step event = some next)
    (kept : mark = false → next.store = system.store) (more : Runs next later last) :
    Runs system ((event, mark) :: later) last

/-- A marked run is a run. -/
theorem System.Runs.run {system last : System P} {schedule : List (Event P × Bool)}
    (runs : system.Runs schedule last) : system.run (schedule.map Prod.fst) = some last := by
  induction runs with
  | nil system => rfl
  | cons stepped _ _ ih => exact System.run_step stepped ih

/-- Two steps that may not change places: of one process, or both serving requests of which one may
change the store. -/
def Conflict (left right : Event P × Bool) : Prop :=
  left.1.actor = right.1.actor ∨
    left.1.serves = true ∧ right.1.serves = true ∧ (left.2 = true ∨ right.2 = true)

/-- Two schedules of the same marked steps that order all pairs in conflict alike: the steps of each
process, and the requests of each process among the marked ones. -/
structure SameOrder (left right : List (Event P × Bool)) : Prop where
  /-- Every process takes its steps in one order. -/
  own : ∀ process, left.filter (fun step => step.1.actor = process) =
    right.filter fun step => step.1.actor = process
  /-- Requests are served in one order with respect to those that may change the store. -/
  served : ∀ process,
    left.filter (fun step => step.1.serves && (step.2 || step.1.actor = process)) =
      right.filter fun step => step.1.serves && (step.2 || step.1.actor = process)

namespace System

/-- Steps that are not in conflict change places. -/
theorem swap {system middle last : System P} {first second : Event P × Bool}
    (free : ¬ Conflict first second) (one : system.step first.1 = some middle)
    (kept : first.2 = false → middle.store = system.store)
    (two : middle.step second.1 = some last)
    (keptToo : second.2 = false → last.store = middle.store) :
    ∃ middle' last', system.step second.1 = some middle' ∧
      (second.2 = false → middle'.store = system.store) ∧
      middle'.step first.1 = some last' ∧ (first.2 = false → last'.store = middle'.store) ∧
      last.Agrees last' := by
  have apart : first.1.actor ≠ second.1.actor := fun same => free (.inl same)
  obtain ⟨taken, rfl, still, here⟩ := step_stride one
  obtain ⟨taken', rfl, still', there⟩ := step_stride two
  simp only [stride_store] at kept keptToo
  -- One step that serves a request finds the store as the other leaves it.
  have before : second.1.serves = true → taken.change system.store = system.store := by
    intro serves
    by_cases own : first.1.serves = true
    · have unmarked : first.2 = false := by
        cases mark : first.2 with
        | false => rfl
        | true => exact absurd (.inr ⟨own, serves, .inl mark⟩) free
      exact kept unmarked
    · rw [still (by simpa using own)]
      rfl
  have after : second.2 = false → taken'.change system.store = system.store := by
    intro unmarked
    by_cases serves : second.1.serves = true
    · have same := keptToo unmarked
      rw [before serves] at same
      exact same
    · rw [still' (by simpa using serves)]
      rfl
  have found : first.1.serves = true → taken'.change system.store = system.store := by
    intro serves
    by_cases own : second.1.serves = true
    · have unmarked : second.2 = false := by
        cases mark : second.2 with
        | false => rfl
        | true => exact absurd (.inr ⟨serves, own, .inr mark⟩) free
      exact after unmarked
    · rw [still' (by simpa using own)]
      rfl
  have early : system.step second.1 = some (system.stride second.1.actor taken') :=
    there system (system.stride_other (Ne.symm apart) taken).symm fun serves => (before serves).symm
  have late : (system.stride second.1.actor taken').step first.1 =
      some ((system.stride second.1.actor taken').stride first.1.actor taken) :=
    here _ (system.stride_other apart taken') found
  have stores : taken'.change (taken.change system.store) =
      taken.change (taken'.change system.store) := by
    by_cases serves : first.1.serves = true
    · rw [found serves]
      by_cases own : second.1.serves = true
      · rw [before own, found serves]
      · rw [still' (by simpa using own)]
        rfl
    · rw [still (by simpa using serves)]
      rfl
  refine ⟨_, _, early, after, late, fun unmarked => ?_, system.stride_comm apart taken taken' stores⟩
  show taken.change (taken'.change system.store) = taken'.change system.store
  by_cases serves : first.1.serves = true
  · rw [found serves]
    exact kept unmarked
  · rw [still (by simpa using serves)]
    rfl

/-- States that agree have the same runs. -/
theorem Agrees.runs {left right last : System P} {schedule : List (Event P × Bool)}
    (runs : left.Runs schedule last) (agrees : left.Agrees right) :
    ∃ last', right.Runs schedule last' ∧ last.Agrees last' := by
  induction runs generalizing right with
  | nil system => exact ⟨right, .nil right, agrees⟩
  | cons stepped kept _ ih =>
    obtain ⟨next', stepped', after⟩ := agrees.step stepped
    obtain ⟨last', more, ended⟩ := ih after
    have keeps := fun unmarked => after.store.symm.trans ((kept unmarked).trans agrees.store)
    exact ⟨last', .cons stepped' keeps more, ended⟩

/-- A step that is in conflict with none before it may come first. -/
theorem Runs.front {system last : System P} {before after : List (Event P × Bool)}
    {step : Event P × Bool} (runs : system.Runs (before ++ step :: after) last)
    (free : ∀ other ∈ before, ¬ Conflict other step) :
    ∃ last', system.Runs (step :: (before ++ after)) last' ∧ last.Agrees last' := by
  induction before generalizing system with
  | nil => exact ⟨last, runs, .refl last⟩
  | cons first before ih =>
    rw [List.cons_append] at runs
    cases runs with
    | cons stepped kept more =>
      obtain ⟨last₁, moved, agrees⟩ := ih more fun other present =>
        free other (List.mem_cons_of_mem _ present)
      cases moved with
      | cons stepped' kept' more' =>
        obtain ⟨middle, next, early, keptEarly, late, keptLate, swapped⟩ :=
          swap (free _ List.mem_cons_self) stepped kept stepped' kept'
        obtain ⟨last₂, rest, ended⟩ := swapped.runs more'
        exact ⟨last₂, .cons early keptEarly (.cons late keptLate rest), agrees.trans ended⟩

end System

/-- What a list keeps before its first occurrence of an element that another list begins with. -/
private theorem filter_before {α : Type} {keep : α → Bool} {before after others : List α}
    {first : α} (fresh : ∀ other ∈ before, other ≠ first)
    (same : (before ++ first :: after).filter keep = (first :: others).filter keep)
    (kept : keep first = true) : before.filter keep = [] := by
  rw [List.filter_append, List.filter_cons_of_pos kept, List.filter_cons_of_pos kept] at same
  cases found : before.filter keep with
  | nil => rfl
  | cons other rest =>
    rw [found, List.cons_append] at same
    have present : other ∈ before.filter keep := by
      rw [found]
      exact List.mem_cons_self
    exact absurd (List.cons.inj same).1 (fresh other (List.mem_filter.mp present).1)

/-- Two lists that keep the same keep the same without that first element. -/
private theorem filter_rest {α : Type} {keep : α → Bool} {before after others : List α}
    {first : α} (fresh : ∀ other ∈ before, other ≠ first)
    (same : (before ++ first :: after).filter keep = (first :: others).filter keep) :
    (before ++ after).filter keep = others.filter keep := by
  by_cases kept : keep first = true
  · have none := filter_before fresh same kept
    rw [List.filter_append, none, List.nil_append, List.filter_cons_of_pos kept,
      List.filter_cons_of_pos kept] at same
    rw [List.filter_append, none]
    exact (List.cons.inj same).2
  · rw [List.filter_append, List.filter_cons_of_neg kept, List.filter_cons_of_neg kept] at same
    rw [List.filter_append]
    exact same

/-- Schedules that order all pairs in conflict alike lead to states that agree. -/
theorem System.Runs.reorder {system last : System P} {schedule other : List (Event P × Bool)}
    (runs : system.Runs schedule last) (same : SameOrder schedule other) :
    ∃ last', system.Runs other last' ∧ last.Agrees last' := by
  induction other generalizing schedule system last with
  | nil =>
    have empty : schedule = [] := by
      cases schedule with
      | nil => rfl
      | cons step later =>
        have impossible := same.own step.1.actor
        simp at impossible
    subst empty
    cases runs
    exact ⟨system, .nil system, .refl system⟩
  | cons step other ih =>
    have own := same.own step.1.actor
    rw [List.filter_cons_of_pos (by simp)] at own
    obtain ⟨before, after, rfl, others, _, _⟩ := List.filter_eq_cons_iff.mp own
    have apart : ∀ first ∈ before, first.1.actor ≠ step.1.actor := fun first present => by
      simpa using others first present
    have fresh : ∀ first ∈ before, first ≠ step := fun first present equal =>
      apart first present (by rw [equal])
    have free : ∀ first ∈ before, ¬ Conflict first step := by
      rintro first present (equal | ⟨serves, too, marked⟩)
      · exact apart first present equal
      -- The other schedule serves the request of `step` before all that it is in conflict with.
      · have served (process : Nat) (one : first.2 = true ∨ first.1.actor = process)
            (two : step.2 = true ∨ step.1.actor = process) : False := by
          have none := filter_before fresh (same.served process) (by simp [too, two])
          have inside : first ∈ before.filter fun step =>
              step.1.serves && (step.2 || step.1.actor = process) :=
            List.mem_filter.mpr ⟨present, by simp [serves, one]⟩
          rw [none] at inside
          exact List.not_mem_nil inside
        rcases marked with first | second
        · exact served step.1.actor (.inl first) (.inr rfl)
        · exact served first.1.actor (.inr rfl) (.inl second)
    obtain ⟨last₁, moved, agrees⟩ := runs.front free
    cases moved with
    | cons stepped kept more =>
      have rest : SameOrder (before ++ after) other :=
        ⟨fun process => filter_rest fresh (same.own process),
          fun process => filter_rest fresh (same.served process)⟩
      obtain ⟨last₂, ran, ended⟩ := ih more rest
      exact ⟨last₂, .cons stepped kept ran, agrees.trans ended⟩

/-! ## Without one process -/

/-- The same store, and for all processes but one the same rests and the same steps. -/
structure System.AgreesBut (process : Nat) (left right : System P) : Prop where
  /-- The stores are the same. -/
  store : left.store = right.store
  /-- The other processes are at the same rests. -/
  others : ∀ other, other ≠ process → left.process other = right.process other
  /-- The other processes took the same steps. -/
  steps : ∀ other, other ≠ process → stepsOf other left.log = stepsOf other right.log

/-- A process whose steps leave the store as it is can be left out of a run. -/
theorem System.AgreesBut.run {process : Nat} {left right last : System P} {events : List (Event P)}
    (agrees : AgreesBut process left right) (ran : left.run events = some last)
    (idle : ∀ step ∈ left.transitions process events, step.after = step.before) :
    ∃ last', right.run (events.filter fun event => event.actor ≠ process) = some last' ∧
      AgreesBut process last last' := by
  induction events generalizing left right with
  | nil =>
    obtain rfl := Option.some.inj ran
    exact ⟨right, rfl, agrees⟩
  | cons event later ih =>
    obtain ⟨next, stepped, ran⟩ := run_cons ran
    obtain ⟨taken, rfl, _, there⟩ := step_stride stepped
    by_cases own : event.actor = process
    · have logged : (left.stride event.actor taken).log.head? = some
          ⟨event.actor, taken.loop, taken.action, (taken.rest.map Dialogue.printed).getD []⟩ := rfl
      have first : left.transitions process (event :: later) =
          ⟨left.store, ⟨event.actor, taken.loop, taken.action,
              (taken.rest.map Dialogue.printed).getD []⟩, taken.change left.store⟩ ::
            (left.stride event.actor taken).transitions process later := by
        simp [transitions, stepped, logged, Option.filter, own.symm]
      rw [first] at idle
      have kept : taken.change left.store = left.store := idle _ List.mem_cons_self
      have after : AgreesBut process (left.stride event.actor taken) right := by
        constructor
        · exact kept.trans agrees.store
        · intro other apart
          rw [stride_other left (by rw [own]; exact apart)]
          exact agrees.others other apart
        · intro other apart
          have away : event.actor ≠ other := by
            rw [own]
            exact Ne.symm apart
          show stepsOf other (_ :: left.log) = stepsOf other right.log
          rw [← agrees.steps other apart]
          simp [stepsOf, away]
      rw [List.filter_cons_of_neg (by simpa using own)]
      exact ih after ran fun step present => idle step (List.mem_cons_of_mem _ present)
    · have same := agrees.others event.actor own
      have stepped' := there right same.symm fun _ => agrees.store.symm
      have after : AgreesBut process (left.stride event.actor taken)
          (right.stride event.actor taken) := by
        constructor
        · show taken.change left.store = taken.change right.store
          rw [agrees.store]
        · intro other apart
          by_cases mine : other = event.actor
          · rw [mine]
            exact (advance_self ..).trans (advance_self ..).symm
          · rw [stride_other left mine, stride_other right mine]
            exact agrees.others other apart
        · intro other apart
          have before := agrees.steps other apart
          show stepsOf other (_ :: left.log) = stepsOf other (_ :: right.log)
          simp only [stepsOf, List.filter_cons] at before ⊢
          rw [before]
      rw [transitions_other stepped own] at idle
      obtain ⟨last', rest, ended⟩ := ih after ran idle
      rw [List.filter_cons_of_pos (by simpa using own)]
      exact ⟨last', run_step stepped' rest, ended⟩

end Interleaving
