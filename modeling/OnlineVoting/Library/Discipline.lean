import OnlineVoting.Library.Run

/-!
# A discipline for interleaved processes

A discipline says how a program may use its store: which requests a loop may send in which
world, what it may print on which action, how the store may evolve, and what always holds of
the store and the log. A dialogue is valid when it keeps to the discipline whatever the other
processes do between its rests. One rule (`Sound.good_of_reachable`) then carries the
discipline to every run of any number of processes: the invariant holds in every reachable
state, every process is ready for its loop, and every request sent is a permitted one.
-/
namespace Interleaving

variable {I : Interface}

/-- What the loops of a program may rely on and must respect. -/
structure Discipline (P : Program I) where
  /-- How the store may change over time. -/
  Evolves : P.Store → P.Store → Prop
  /-- What holds of the store and the log after every step. -/
  Invariant : World P → Prop
  /-- What a process must know of the store to be in a loop. -/
  Ready : P.Loop → P.Store → Prop
  /-- The requests a process in a loop may send. -/
  Permit : P.Loop → Nat → World P → I.Request → Prop
  /-- What a loop may print on an action. -/
  Prints : P.Loop → Action P → List I.Output → Prop

namespace Discipline

variable {P : Program I} (D : Discipline P) {α β : Type}

/-- A world that can follow while one process rests: only others took steps. -/
structure Later (process : Nat) (world later : World P) : Prop where
  /-- The store evolved. -/
  evolves : D.Evolves world.store later.store
  /-- The log grew by entries of other processes. -/
  grown : ∃ newer, later.log = newer ++ world.log ∧ ∀ entry ∈ newer, entry.process ≠ process
  /-- The invariant holds. -/
  invariant : D.Invariant later

/-- The lines typed by a process at rest stay the same. -/
theorem Later.linesOf {D : Discipline P} {process : Nat} {world later : World P}
    (after : D.Later process world later) :
    linesOf process later.log = linesOf process world.log := by
  obtain ⟨newer, grown, others⟩ := after.grown
  rw [grown]
  exact linesOf_append_others others

/-- A dialogue respects the discipline from this world on, whatever others do meanwhile, and
returns only values that satisfy the postcondition. -/
def Valid (loop : P.Loop) (process : Nat) (post : World P → α → Prop) :
    Dialogue I α → World P → Prop
  | .done _ value, world => ∀ later, D.Later process world later → post later value
  | .read _ next, world => ∀ later, D.Later process world later → ∀ line,
      D.Prints loop (.typed line) (next line).printed ∧
        Valid loop process post (next line)
          (later.record later.store ⟨process, loop, .typed line, (next line).printed⟩)
  | .ask _ request next, world => ∀ later, D.Later process world later →
      D.Permit loop process later request ∧
        ∀ choice store answer, P.serve request choice later.store = some (store, answer) →
          D.Prints loop (.served request choice answer) (next answer).printed ∧
            Valid loop process post (next answer)
              (later.record store
                ⟨process, loop, .served request choice answer, (next answer).printed⟩)

/-- A dialogue resumes after an action of its process: what it prints on the way to its next rest
is what its loop may print on that action, and the rest is valid. -/
def Resumes (loop : P.Loop) (process : Nat) (post : World P → α → Prop) (action : Action P)
    (rest : Dialogue I α) (world : World P) : Prop :=
  D.Prints loop action rest.printed ∧ D.Valid loop process post rest world

/-- A step of a process: others took steps from `world` to `moment`, and then it took this one. -/
structure After (process : Nat) (action : Action P) (world moment next : World P) : Prop where
  /-- The process rested until then. -/
  rested : D.Later process world moment
  /-- Its step evolved the store. -/
  evolves : D.Evolves moment.store next.store
  /-- Its step was written down. -/
  logged : ∃ loop printed, next.log = ⟨process, loop, action, printed⟩ :: moment.log

/-- What must be shown of a program one request at a time. -/
structure Stable : Prop where
  /-- A store at rest has evolved from itself. -/
  evolves_refl : ∀ store, D.Evolves store store
  /-- Evolutions compose. -/
  evolves_trans : ∀ {first second third}, D.Evolves first second → D.Evolves second third →
    D.Evolves first third
  /-- The invariant holds before any process has run. -/
  initial : D.Invariant ⟨P.initial, []⟩
  /-- A step that serves no request keeps the invariant. -/
  unserved : ∀ world (entry : Entry P), D.Invariant world →
    (∀ request choice answer, entry.action ≠ .served request choice answer) →
    D.Prints entry.loop entry.action entry.printed → D.Invariant (world.record world.store entry)
  /-- A permitted request evolves the store. -/
  served_evolves : ∀ {loop process world request choice store answer},
    D.Permit loop process world request →
    P.serve request choice world.store = some (store, answer) → D.Evolves world.store store
  /-- A permitted request keeps the invariant. -/
  served : ∀ world loop process request choice store answer printed, D.Invariant world →
    D.Ready loop world.store → D.Permit loop process world request →
    P.serve request choice world.store = some (store, answer) →
    D.Prints loop (.served request choice answer) printed →
    D.Invariant (world.record store ⟨process, loop, .served request choice answer, printed⟩)
  /-- Readiness survives every evolution of the store. -/
  ready_evolves : ∀ {loop store later}, D.Ready loop store → D.Evolves store later →
    D.Ready loop later
  /-- Every process may be launched. -/
  ready_boot : ∀ store, D.Ready P.boot store

/-- What must be shown of a program, one request and one loop body at a time, for its runs to
respect the discipline. -/
structure Sound : Prop extends D.Stable where
  /-- An ended process prints nothing. -/
  stop_prints : ∀ loop, D.Prints loop .stopped []
  /-- A launched process returns only loops that are ready by then. -/
  start : ∀ process world, D.Resumes P.boot process
    (fun later next => ∀ loop, next = some loop → D.Ready loop later.store) .started
    (P.body P.boot) world
  /-- A round of a loop that is ready returns only loops that are ready by then. -/
  turn : ∀ loop process world, D.Ready loop world.store → D.Resumes loop process
    (fun later next => ∀ loop, next = some loop → D.Ready loop later.store) .turned
    (P.body loop) world

variable {D}

/-- Nothing happened yet. -/
theorem Later.refl (stable : D.Stable) {process : Nat} {world : World P}
    (invariant : D.Invariant world) : D.Later process world world :=
  ⟨stable.evolves_refl _, ⟨[], rfl, by simp⟩, invariant⟩

/-- What follows a later world follows. -/
theorem Later.trans (stable : D.Stable) {process : Nat} {first second third : World P}
    (before : D.Later process first second) (after : D.Later process second third) :
    D.Later process first third := by
  obtain ⟨newer, grown, others⟩ := before.grown
  obtain ⟨newest, grownAgain, othersAgain⟩ := after.grown
  refine ⟨stable.evolves_trans before.evolves after.evolves, ⟨newest ++ newer, ?_, ?_⟩,
    after.invariant⟩
  · rw [grownAgain, grown, List.append_assoc]
  · intro entry present
    rcases List.mem_append.mp present with recent | older
    · exact othersAgain entry recent
    · exact others entry older

/-- A valid dialogue stays valid while its process rests. -/
theorem Valid.later (stable : D.Stable) {loop : P.Loop} {process : Nat}
    {post : World P → α → Prop} {rest : Dialogue I α} {world later : World P}
    (valid : D.Valid loop process post rest world) (after : D.Later process world later) :
    D.Valid loop process post rest later := by
  cases rest with
  | done printed value => exact fun last next => valid last (after.trans stable next)
  | read printed next => exact fun last next => valid last (after.trans stable next)
  | ask printed request next => exact fun last next => valid last (after.trans stable next)

/-- A weaker postcondition holds as well. -/
theorem Valid.consequence {loop : P.Loop} {process : Nat} {strong weak : World P → α → Prop}
    {rest : Dialogue I α} {world : World P} (valid : D.Valid loop process strong rest world)
    (implies : ∀ later value, strong later value → weak later value) :
    D.Valid loop process weak rest world := by
  induction rest generalizing world with
  | done _ value => exact fun later after => implies later value (valid later after)
  | read _ next ih =>
    intro later after line
    obtain ⟨prints, more⟩ := valid later after line
    exact ⟨prints, ih line more⟩
  | ask _ request next ih =>
    intro later after
    obtain ⟨permit, answered⟩ := valid later after
    refine ⟨permit, fun choice store answer served => ?_⟩
    obtain ⟨prints, more⟩ := answered choice store answer served
    exact ⟨prints, ih answer more⟩

/-- Returning another value in the end changes nothing on the way. -/
theorem Valid.bind_done {loop : P.Loop} {process : Nat} {post : World P → β → Prop}
    {result : α → β} {rest : Dialogue I α} {world : World P}
    (valid : D.Valid loop process (fun later value => post later (result value)) rest world) :
    D.Valid loop process post (rest >>= fun value => .done [] (result value)) world := by
  induction rest generalizing world with
  | done _ value =>
    simp only [Dialogue.done_bind, Dialogue.prepend_done]
    exact fun later after => valid later after
  | read _ next ih =>
    rw [Dialogue.read_bind]
    intro later after line
    obtain ⟨prints, more⟩ := valid later after line
    simp only [Dialogue.printed_bind_done]
    exact ⟨prints, ih line more⟩
  | ask _ request next ih =>
    rw [Dialogue.ask_bind]
    intro later after
    obtain ⟨permit, answered⟩ := valid later after
    refine ⟨permit, fun choice store answer served => ?_⟩
    obtain ⟨prints, more⟩ := answered choice store answer served
    simp only [Dialogue.printed_bind_done]
    exact ⟨prints, ih answer more⟩

/-! ## Rules for the steps of a dialogue -/

/-- The store has evolved over a step. -/
theorem After.evolved (stable : D.Stable) {process : Nat} {action : Action P}
    {world moment next : World P} (after : D.After process action world moment next) :
    D.Evolves world.store next.store :=
  stable.evolves_trans after.rested.evolves after.evolves

/-- A loop stays ready over a step. -/
theorem After.ready (stable : D.Stable) {loop : P.Loop} {process : Nat} {action : Action P}
    {world moment next : World P} (after : D.After process action world moment next)
    (ready : D.Ready loop world.store) : D.Ready loop next.store :=
  stable.ready_evolves ready (after.evolved stable)

/-- A typed line is the newest of its process. -/
theorem After.linesOf_typed {process : Nat} {line : String} {world moment next : World P}
    (after : D.After process (.typed line) world moment next) :
    Interleaving.linesOf process next.log = line :: Interleaving.linesOf process world.log := by
  obtain ⟨loop, printed, logged⟩ := after.logged
  rw [logged, Interleaving.linesOf_typed, after.rested.linesOf]

/-- A served request types nothing. -/
theorem After.linesOf_served {process : Nat} {request : I.Request} {choice : P.Choice}
    {answer : I.Answer request} {world moment next : World P}
    (after : D.After process (.served request choice answer) world moment next) :
    Interleaving.linesOf process next.log = Interleaving.linesOf process world.log := by
  obtain ⟨loop, printed, logged⟩ := after.logged
  rw [logged, Interleaving.linesOf_served, after.rested.linesOf]

/-- A method that returns resumes with what it must establish. -/
theorem Resumes.done {loop : P.Loop} {process : Nat} {post : World P → α → Prop}
    {action : Action P} {printed : List I.Output} {value : α} {world : World P}
    (prints : D.Prints loop action printed)
    (holds : ∀ later, D.Later process world later → post later value) :
    D.Resumes loop process post action (.done printed value) world :=
  ⟨prints, holds⟩

/-- A method that reads a line resumes if it does after every line. -/
theorem Resumes.read (stable : D.Stable) {loop : P.Loop} {process : Nat}
    {post : World P → α → Prop} {action : Action P} {printed : List I.Output}
    {next : String → Dialogue I α} {world : World P} (prints : D.Prints loop action printed)
    (more : ∀ line moment later, D.After process (.typed line) world moment later →
      D.Resumes loop process post (.typed line) (next line) later) :
    D.Resumes loop process post action (.read printed next) world :=
  ⟨prints, fun moment rested line =>
    more line moment _ ⟨rested, stable.evolves_refl _, loop, _, rfl⟩⟩

/-- A method that sends a permitted request resumes if it does after every answer. -/
theorem Resumes.ask (stable : D.Stable) {loop : P.Loop} {process : Nat}
    {post : World P → α → Prop} {action : Action P} {printed : List I.Output}
    {request : I.Request} {next : I.Answer request → Dialogue I α} {world : World P}
    (prints : D.Prints loop action printed)
    (permit : ∀ moment, D.Later process world moment → D.Permit loop process moment request)
    (more : ∀ choice answer moment later,
      D.After process (.served request choice answer) world moment later →
      P.serve request choice moment.store = some (later.store, answer) →
      D.Resumes loop process post (.served request choice answer) (next answer) later) :
    D.Resumes loop process post action (.ask printed request next) world :=
  ⟨prints, fun moment rested => ⟨permit moment rested, fun choice store answer served =>
    more choice answer moment (moment.record store _)
      ⟨rested, stable.served_evolves (permit moment rested) served, loop, _, rfl⟩ served⟩⟩

/-- A method resumes within the one that calls it last and returns another value. -/
theorem Resumes.bind_done {loop : P.Loop} {process : Nat} {strong : World P → α → Prop}
    {weak : World P → β → Prop} {action : Action P} {result : α → β} {rest : Dialogue I α}
    {world : World P} (resumes : D.Resumes loop process strong action rest world)
    (implies : ∀ later value, strong later value → weak later (result value)) :
    D.Resumes loop process weak action (rest >>= fun value => .done [] (result value)) world :=
  ⟨by rw [Dialogue.printed_bind_done]; exact resumes.1,
    (resumes.2.consequence implies).bind_done⟩

/-! ## Runs -/

/-- The state of a run that keeps to the discipline. -/
structure Good (D : Discipline P) (system : System P) : Prop where
  /-- The invariant holds. -/
  invariant : D.Invariant system.toWorld
  /-- Every process is ready for its loop. -/
  ready : ∀ process loop rest, system.process process = some ⟨loop, rest⟩ →
    D.Ready loop system.store
  /-- The rest of every round is valid. -/
  valid : ∀ process loop rest, system.process process = some ⟨loop, rest⟩ →
    D.Valid loop process (fun later next => ∀ loop, next = some loop → D.Ready loop later.store)
      rest system.toWorld
  /-- Every step printed as its loop may. -/
  prints : ∀ entry ∈ system.log, D.Prints entry.loop entry.action entry.printed

/-- One process takes a disciplined step; the others rest. -/
theorem Good.advance (sound : D.Sound) {system : System P} (good : D.Good system)
    {process : Nat} {store : P.Store} {loop : P.Loop} {action : Action P}
    {rest : Option (Dialogue I (Option P.Loop))} (evolves : D.Evolves system.store store)
    (invariant : D.Invariant (system.advance process store loop action rest).toWorld)
    (prints : D.Prints loop action ((rest.map Dialogue.printed).getD []))
    (ready : rest.isSome → D.Ready loop store)
    (valid : ∀ dialogue, rest = some dialogue → D.Valid loop process
      (fun later next => ∀ loop, next = some loop → D.Ready loop later.store) dialogue
      (system.advance process store loop action rest).toWorld) :
    D.Good (system.advance process store loop action rest) := by
  have resting {other : Nat} (apart : other ≠ process) :
      D.Later other system.toWorld (system.advance process store loop action rest).toWorld :=
    ⟨evolves, ⟨[_], rfl, by simpa using fun same : process = other => apart same.symm⟩, invariant⟩
  refine ⟨invariant, ?_, ?_, ?_⟩
  · intro other otherLoop otherRest runs
    by_cases same : other = process
    · subst same
      simp only [System.advance_self, Option.map_eq_some_iff, Process.mk.injEq] at runs
      obtain ⟨_, present, rfl, _⟩ := runs
      exact ready (by simp [present])
    · rw [System.advance_other _ same] at runs
      exact sound.ready_evolves (good.ready other otherLoop otherRest runs) evolves
  · intro other otherLoop otherRest runs
    by_cases same : other = process
    · subst same
      simp only [System.advance_self, Option.map_eq_some_iff, Process.mk.injEq] at runs
      obtain ⟨_, present, rfl, rfl⟩ := runs
      exact valid _ present
    · rw [System.advance_other _ same] at runs
      exact (good.valid other otherLoop otherRest runs).later sound.toStable (resting same)
  · intro entry present
    rcases List.mem_cons.mp present with rfl | older
    · exact prints
    · exact good.prints entry older

/-- A round of a good state returns to a loop that is ready. -/
theorem Good.returned (sound : D.Sound) {system : System P} (good : D.Good system)
    {process : Nat} {loop next : P.Loop} {printed : List I.Output}
    (returned : system.process process = some ⟨loop, .done printed (some next)⟩) :
    D.Ready next system.store :=
  good.valid _ _ _ returned _ (Later.refl sound.toStable good.invariant) _ rfl

/-- Every step keeps to the discipline. -/
theorem Good.step (sound : D.Sound) {system next : System P} {event : Event P}
    (good : D.Good system) (stepped : system.step event = some next) : D.Good next := by
  have here {process : Nat} : D.Later process system.toWorld system.toWorld :=
    Later.refl sound.toStable good.invariant
  have still := sound.evolves_refl system.store
  cases System.step_move stepped with
  | start free =>
    rename_i process
    obtain ⟨prints, _⟩ := sound.start process system.toWorld
    exact good.advance sound still
      (sound.unserved system.toWorld ⟨_, _, .started, _⟩ good.invariant (by simp) prints)
      prints (fun _ => sound.ready_boot _) (by rintro _ ⟨⟩; exact (sound.start process _).2)
  | type line waits =>
    obtain ⟨prints, valid⟩ := good.valid _ _ _ waits _ here line
    exact good.advance sound still
      (sound.unserved system.toWorld ⟨_, _, .typed line, _⟩ good.invariant (by simp) prints)
      prints (fun _ => good.ready _ _ _ waits) (by rintro _ ⟨⟩; exact valid)
  | serve waits served =>
    obtain ⟨permit, answered⟩ := good.valid _ _ _ waits _ here
    obtain ⟨prints, valid⟩ := answered _ _ _ served
    have ready := good.ready _ _ _ waits
    have evolves := sound.served_evolves permit served
    have invariant := sound.served _ _ _ _ _ _ _ _ good.invariant ready permit served prints
    exact good.advance sound evolves invariant prints
      (fun _ => sound.ready_evolves ready evolves) (by rintro _ ⟨⟩; exact valid)
  | turn returned =>
    rename_i process _ loop _
    have ready := good.returned sound returned
    obtain ⟨prints, _⟩ := sound.turn loop process system.toWorld ready
    have next := sound.turn loop process
      (system.advance process system.store loop .turned (some (P.body loop))).toWorld ready
    exact good.advance sound still
      (sound.unserved system.toWorld ⟨_, _, .turned, _⟩ good.invariant (by simp) prints)
      prints (fun _ => ready) (by rintro _ ⟨⟩; exact next.2)
  | leave returned =>
    exact good.advance sound still
      (sound.unserved system.toWorld ⟨_, _, .stopped, []⟩ good.invariant (by simp)
        (sound.stop_prints _))
      (sound.stop_prints _) (by simp) (by simp)
  | kill runs =>
    exact good.advance sound still
      (sound.unserved system.toWorld ⟨_, _, .stopped, []⟩ good.invariant (by simp)
        (sound.stop_prints _))
      (sound.stop_prints _) (by simp) (by simp)

/-- Every reachable state keeps to the discipline. -/
theorem Sound.good_of_reachable (sound : D.Sound) {system : System P}
    (reachable : system.Reachable) : D.Good system := by
  obtain ⟨events, ran⟩ := reachable
  refine System.run_keeps (fun _ _ _ good stepped => Good.step sound good stepped) ran ?_
  exact ⟨sound.initial, by simp [System.initial], by simp [System.initial],
    by simp [System.initial]⟩

/-- A process in a good state sends only permitted requests. -/
theorem Good.permit (sound : D.Sound) {system : System P} (good : D.Good system)
    {process : Nat} {loop : P.Loop} {printed : List I.Output} {request : I.Request}
    {next : I.Answer request → Dialogue I (Option P.Loop)}
    (waits : system.process process = some ⟨loop, .ask printed request next⟩) :
    D.Permit loop process system.toWorld request :=
  (good.valid _ _ _ waits _ (Later.refl sound.toStable good.invariant)).1

/-- A step of a good state evolves the store. -/
theorem Good.evolves (sound : D.Sound) {system next : System P} {event : Event P}
    (good : D.Good system) (stepped : system.step event = some next) :
    D.Evolves system.store next.store := by
  cases System.step_move stepped with
  | serve waits served => exact sound.served_evolves (good.permit sound waits) served
  | start _ => exact sound.evolves_refl _
  | type _ _ => exact sound.evolves_refl _
  | turn _ => exact sound.evolves_refl _
  | leave _ => exact sound.evolves_refl _
  | kill _ => exact sound.evolves_refl _

/-- What one step of a good state did, as its entry in the log says. -/
inductive Stepped (D : Discipline P) (system next : System P) : Entry P → Prop where
  /-- It served no request. -/
  | unserved {entry : Entry P} (logged : next.log = entry :: system.log)
    (kept : next.store = system.store)
    (other : ∀ request choice answer, entry.action ≠ .served request choice answer)
    (prints : D.Prints entry.loop entry.action entry.printed) : Stepped D system next entry
  /-- It served a permitted request. -/
  | served {process : Nat} {loop : P.Loop} {request : I.Request} {choice : P.Choice}
    {answer : I.Answer request} {printed : List I.Output}
    (logged : next.log = ⟨process, loop, .served request choice answer, printed⟩ :: system.log)
    (ready : D.Ready loop system.store) (permit : D.Permit loop process system.toWorld request)
    (served : P.serve request choice system.store = some (next.store, answer))
    (prints : D.Prints loop (.served request choice answer) printed) :
    Stepped D system next ⟨process, loop, .served request choice answer, printed⟩

/-- A step writes down its entry. -/
theorem Stepped.logged {system next : System P} {entry : Entry P}
    (stepped : D.Stepped system next entry) : next.log = entry :: system.log := by
  cases stepped with
  | unserved logged _ _ _ => exact logged
  | served logged _ _ _ _ => exact logged

/-- Every step of a good state is one of these. -/
theorem Good.stepped (sound : D.Sound) {system next : System P} {event : Event P}
    (good : D.Good system) (stepped : system.step event = some next) :
    ∃ entry, D.Stepped system next entry := by
  have after := good.step sound stepped
  have newest (entry : Entry P) (logged : next.log = entry :: system.log) :
      D.Prints entry.loop entry.action entry.printed :=
    after.prints entry (by rw [logged]; exact List.mem_cons_self)
  cases System.step_move stepped with
  | serve waits served =>
    exact ⟨_, .served rfl (good.ready _ _ _ waits) (good.permit sound waits) served
      (newest _ rfl)⟩
  | start _ => exact ⟨_, .unserved rfl rfl (by simp) (newest _ rfl)⟩
  | type _ _ => exact ⟨_, .unserved rfl rfl (by simp) (newest _ rfl)⟩
  | turn _ => exact ⟨_, .unserved rfl rfl (by simp) (newest _ rfl)⟩
  | leave _ => exact ⟨_, .unserved rfl rfl (by simp) (newest _ rfl)⟩
  | kill _ => exact ⟨_, .unserved rfl rfl (by simp) (newest _ rfl)⟩

/-- The step of a good state with this entry is one of these. -/
theorem Good.stepped_entry (sound : D.Sound) {system next : System P} {event : Event P}
    {entry : Entry P} (good : D.Good system) (stepped : system.step event = some next)
    (logged : next.log = entry :: system.log) : D.Stepped system next entry := by
  obtain ⟨newest, did⟩ := good.stepped sound stepped
  have same : newest = entry := (List.cons.inj (did.logged.symm.trans logged)).1
  exact same ▸ did

/-- A step that served a request served it in a ready loop, as permitted. -/
theorem Stepped.of_served {system next : System P} {entry : Entry P}
    (stepped : D.Stepped system next entry) {request : I.Request} {choice : P.Choice}
    {answer : I.Answer request} (action : entry.action = .served request choice answer) :
    D.Ready entry.loop system.store ∧
      D.Permit entry.loop entry.process system.toWorld request ∧
      P.serve request choice system.store = some (next.store, answer) ∧
      D.Prints entry.loop (.served request choice answer) entry.printed := by
  cases stepped with
  | unserved _ _ other _ => exact absurd action (other _ _ _)
  | served _ ready permit served prints =>
    obtain ⟨rfl, rfl, same⟩ := Action.served.inj action
    obtain rfl := eq_of_heq same
    exact ⟨ready, permit, served, prints⟩

/-- What holds before any step, and is kept by every step of a good state, holds in every reachable
state. -/
theorem Sound.reachable_keeps (sound : D.Sound) {kept : System P → Prop}
    (start : kept (System.initial P))
    (keeps : ∀ {system next : System P} {event : Event P} {entry : Entry P}, D.Good system →
      kept system → system.step event = some next → D.Stepped system next entry → kept next)
    {system : System P} (reachable : system.Reachable) : kept system := by
  obtain ⟨events, ran⟩ := reachable
  have steps (state : System P) (event : Event P) (next : System P)
      (holds : D.Good state ∧ kept state) (stepped : state.step event = some next) :
      D.Good next ∧ kept next := by
    obtain ⟨good, holds⟩ := holds
    obtain ⟨_, did⟩ := good.stepped sound stepped
    exact ⟨good.step sound stepped, keeps good holds stepped did⟩
  have first : D.Good (System.initial P) := sound.good_of_reachable ⟨[], rfl⟩
  exact (System.run_keeps steps ran ⟨first, start⟩).2

/-- A run from a good state evolves the store. -/
theorem Good.run_evolves (sound : D.Sound) {system last : System P} {events : List (Event P)}
    (good : D.Good system) (ran : system.run events = some last) :
    D.Evolves system.store last.store := by
  let kept (state : System P) : Prop := D.Good state ∧ D.Evolves system.store state.store
  have keeps (state : System P) (event : Event P) (next : System P) (holds : kept state)
      (stepped : state.step event = some next) : kept next :=
    ⟨holds.1.step sound stepped, sound.evolves_trans holds.2 (holds.1.evolves sound stepped)⟩
  exact (System.run_keeps keeps ran ⟨good, sound.evolves_refl _⟩).2

end Discipline

end Interleaving
