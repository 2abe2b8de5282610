import OnlineVoting.Library.Discipline

/-!
# A round that nobody else disturbs

While the requests of one process alone are served, and the store makes only healthy choices, the
process runs its round like a sequential program. A dialogue completes from a store when every
request it sends has a healthy answer there, and every way it can go on returns with its
postcondition. Then every undisturbed run of the process returns so, and whatever is to be typed
there is such a run.
-/
namespace Interleaving

variable {I : Interface} {P : Program I}

/-- The steps of a process in a log. -/
def stepsOf (process : Nat) (log : List (Entry P)) : List (Entry P) :=
  log.filter fun entry => entry.process = process

/-- The lines typed at the console of a process are those of its own steps. -/
theorem linesOf_stepsOf (process : Nat) (log : List (Entry P)) :
    linesOf process (stepsOf process log) = linesOf process log := by
  rw [linesOf, stepsOf, List.filterMap_filter]
  refine List.filterMap_congr fun entry _ => ?_
  by_cases own : entry.process = process
  · simp [own]
  · cases action : entry.action <;> simp [own]

/-- Requests are served to this process alone, by healthy choices, and it takes no step between two
rounds. -/
def Event.Undisturbed (healthy : P.Choice → Prop) (process : Nat) : Event P → Prop
  | .serve actor choice => actor = process ∧ healthy choice
  | .turn actor | .kill actor => actor ≠ process
  | .start _ | .type _ _ => True

/-- Every request has a healthy answer, and every return satisfies the postcondition, whatever is
typed; the steps of the round are kept, newest first. -/
def Dialogue.Completes (healthy : P.Choice → Prop) (process : Nat) (loop : P.Loop)
    (post : P.Store → List (Entry P) → Option P.Loop → Prop) :
    Dialogue I (Option P.Loop) → P.Store → List (Entry P) → Prop
  | .done _ value, store, round => post store round value
  | .read _ next, store, round => ∀ line, Completes healthy process loop post (next line) store
      (⟨process, loop, .typed line, (next line).printed⟩ :: round)
  | .ask _ request next, store, round =>
      (∃ choice store' answer, healthy choice ∧
        P.serve request choice store = some (store', answer)) ∧
      ∀ choice store' answer, healthy choice →
        P.serve request choice store = some (store', answer) →
          Completes healthy process loop post (next answer) store'
            (⟨process, loop, .served request choice answer, (next answer).printed⟩ :: round)

variable {healthy : P.Choice → Prop} {process : Nat} {loop : P.Loop}
  {post : P.Store → List (Entry P) → Option P.Loop → Prop}

/-- What a process has done in an undisturbed run, and what is left of its round. -/
def Completing (healthy : P.Choice → Prop) (process : Nat) (loop : P.Loop)
    (post : P.Store → List (Entry P) → Option P.Loop → Prop) (log : List (Entry P))
    (round : List (Entry P)) (state : System P) : Prop :=
  ∃ newer rest, state.log = newer ++ log ∧ state.process process = some ⟨loop, rest⟩ ∧
    rest.Completes healthy process loop post state.store (stepsOf process newer ++ round)

/-- An undisturbed step leaves a process completing. -/
theorem Completing.step {log round : List (Entry P)} {state next : System P} {event : Event P}
    (completing : Completing healthy process loop post log round state)
    (stepped : state.step event = some next) (undisturbed : event.Undisturbed healthy process) :
    Completing healthy process loop post log round next := by
  obtain ⟨newer, rest, grown, runs, completes⟩ := completing
  have other {actor : Nat} (apart : actor ≠ process) (running : P.Loop) (action : Action P)
      (dialogue : Option (Dialogue I (Option P.Loop))) : Completing healthy process loop post log
        round (state.advance actor state.store running action dialogue) := by
    refine ⟨⟨actor, running, action, (dialogue.map Dialogue.printed).getD []⟩ :: newer, rest, ?_,
      ?_, ?_⟩
    · rw [List.cons_append, ← grown]
      rfl
    · rw [System.advance_other _ apart.symm]
      exact runs
    · rw [stepsOf, List.filter_cons_of_neg (by simpa using apart)]
      exact completes
  have own (store : P.Store) (action : Action P) (dialogue : Dialogue I (Option P.Loop))
      (now : dialogue.Completes healthy process loop post store
        (⟨process, loop, action, dialogue.printed⟩ :: (stepsOf process newer ++ round))) :
      Completing healthy process loop post log round
        (state.advance process store loop action (some dialogue)) := by
    refine ⟨⟨process, loop, action, dialogue.printed⟩ :: newer, dialogue, ?_, ?_, ?_⟩
    · rw [List.cons_append, ← grown]
      rfl
    · rw [System.advance_self, Option.map_some]
    · rw [stepsOf, List.filter_cons_of_pos (by simp)]
      exact now
  cases System.step_move stepped with
  | start free =>
    refine other ?_ _ _ _
    rintro rfl
    rw [runs] at free
    contradiction
  | type line waits =>
    rename_i actor _ _ _
    by_cases same : actor = process
    · subst same
      obtain ⟨rfl, rfl⟩ := Process.mk.inj (Option.some.inj (runs.symm.trans waits))
      exact own _ _ _ (completes line)
    · exact other same _ _ _
  | serve waits served =>
    obtain ⟨rfl, healthyChoice⟩ := undisturbed
    obtain ⟨rfl, rfl⟩ := Process.mk.inj (Option.some.inj (runs.symm.trans waits))
    exact own _ _ _ (completes.2 _ _ _ healthyChoice served)
  | turn _ => exact other undisturbed _ _ _
  | leave _ => exact other undisturbed _ _ _
  | kill _ => exact other undisturbed _ _ _

/-- An undisturbed run leaves a process completing. -/
theorem Completing.run {log round : List (Entry P)} {system last : System P}
    {events : List (Event P)} (completing : Completing healthy process loop post log round system)
    (ran : system.run events = some last)
    (undisturbed : ∀ event ∈ events, event.Undisturbed healthy process) :
    Completing healthy process loop post log round last := by
  induction events generalizing system with
  | nil =>
    obtain rfl := Option.some.inj ran
    exact completing
  | cons event later ih =>
    obtain ⟨next, stepped, ran⟩ := System.run_cons ran
    exact ih (completing.step stepped (undisturbed event List.mem_cons_self)) ran
      fun other present => undisturbed other (List.mem_cons_of_mem event present)

/-- In an undisturbed run, a dialogue that completes returns with its postcondition. -/
theorem Dialogue.Completes.returned {system last : System P} {events : List (Event P)}
    {rest : Dialogue I (Option P.Loop)} (runs : system.process process = some ⟨loop, rest⟩)
    (completes : rest.Completes healthy process loop post system.store [])
    (ran : system.run events = some last)
    (undisturbed : ∀ event ∈ events, event.Undisturbed healthy process)
    {running : P.Loop} {printed : List I.Output} {value : Option P.Loop}
    (returned : last.process process = some ⟨running, .done printed value⟩) :
    ∃ newer, last.log = newer ++ system.log ∧ post last.store (stepsOf process newer) value := by
  have start : Completing healthy process loop post system.log [] system :=
    ⟨[], rest, rfl, runs, completes⟩
  obtain ⟨newer, dialogue, grown, now, satisfied⟩ := start.run ran undisturbed
  obtain ⟨_, rfl⟩ := Process.mk.inj (Option.some.inj (returned.symm.trans now))
  rw [List.append_nil] at satisfied
  exact ⟨newer, grown, satisfied⟩

/-- Lines, newest first, each the one that a script has for those before it. -/
def Scripted (script : List String → String) : List String → Prop
  | [] => True
  | line :: older => line = script older ∧ Scripted script older

/-- A dialogue that completes has an undisturbed run in which it returns, with the lines of any
script. -/
theorem Dialogue.Completes.exists_run {system : System P} {rest : Dialogue I (Option P.Loop)}
    {round : List (Entry P)} (runs : system.process process = some ⟨loop, rest⟩)
    (completes : rest.Completes healthy process loop post system.store round)
    (script : List String → String) {earlier : List String} (scripted : Scripted script earlier) :
    ∃ events last newer printed value, system.run events = some last ∧
      (∀ event ∈ events, event.Undisturbed healthy process) ∧
      last.process process = some ⟨loop, .done printed value⟩ ∧
      last.log = newer ++ system.log ∧ Scripted script (linesOf process newer ++ earlier) := by
  induction rest generalizing system round earlier with
  | done printed value =>
    exact ⟨[], system, [], printed, value, rfl, by simp, runs, rfl, scripted⟩
  | read printed next ih =>
    let line := script earlier
    have stepped := System.step_type runs line
    have rests : (system.advance process system.store loop (.typed line)
        (some (next line))).process process = some ⟨loop, next line⟩ :=
      System.advance_self _ _ _ _ _ _
    obtain ⟨events, last, newer, shown, value, ran, undisturbed, returned, grown, typed⟩ :=
      ih line rests (completes line)
        (show Scripted script (line :: earlier) from ⟨rfl, scripted⟩)
    refine ⟨.type process line :: events, last,
      newer ++ [⟨process, loop, .typed line, (next line).printed⟩], shown, value,
      System.run_step stepped ran, ?_, returned, ?_, ?_⟩
    · intro event present
      rcases List.mem_cons.mp present with rfl | later
      · trivial
      · exact undisturbed event later
    · rw [grown, List.append_assoc]
      rfl
    · have one : linesOf process (newer ++ [(⟨process, loop, .typed line, (next line).printed⟩ :
          Entry P)]) = linesOf process newer ++ [line] := by
        simp [linesOf]
      rw [one, List.append_assoc]
      exact typed
  | ask printed request next ih =>
    obtain ⟨⟨choice, store, answer, chosen, served⟩, more⟩ := completes
    have stepped := System.step_serve runs served
    have rests : (system.advance process store loop (.served request choice answer)
        (some (next answer))).process process = some ⟨loop, next answer⟩ :=
      System.advance_self _ _ _ _ _ _
    obtain ⟨events, last, newer, shown, value, ran, undisturbed, returned, grown, typed⟩ :=
      ih answer rests (more choice store answer chosen served) scripted
    refine ⟨.serve process choice :: events, last,
      newer ++ [⟨process, loop, .served request choice answer, (next answer).printed⟩], shown,
      value, System.run_step stepped ran, ?_, returned, ?_, ?_⟩
    · intro event present
      rcases List.mem_cons.mp present with rfl | later
      · exact ⟨rfl, chosen⟩
      · exact undisturbed event later
    · rw [grown, List.append_assoc]
      rfl
    · have silent : linesOf process (newer ++ [(⟨process, loop, .served request choice answer,
          (next answer).printed⟩ : Entry P)]) = linesOf process newer := by
        simp [linesOf]
      rw [silent]
      exact typed

end Interleaving
