import Bsrs.Qs.Serve

namespace Bsrs.Qs

open Bsrs.Library (exec Throughout)

/-- Where an abort finds a worker before it can do anything more: not polled yet, parked at its
await, or on its way out. -/
def WorkerCode.still : WorkerCode → Bool
  | .unpolled _ | .run _ _ true | .leave => true
  | _ => false

def WorkerCode.isUnpolled : WorkerCode → Bool
  | .unpolled _ => true
  | _ => false

/-- Nothing of the worker is public: not polled yet, or idled out. -/
def WorkerCode.private : WorkerCode → Bool
  | .unpolled _ | .leave => true
  | _ => false

namespace Server

/-- Whether the worker under the current claim, if there is one, stands at such a place. -/
def currentIs (server : Server) (stands : WorkerCode → Bool) : Bool :=
  server.crew.workers.all fun worker =>
    worker.finished || server.crew.slot.current != some worker.generation || stands worker.code

/-- Whether the worker of the task, if it stands at such a place, has the current claim. -/
def holdsClaim (server : Server) (task : TaskId) (stands : WorkerCode → Bool) : Bool :=
  (server.crew.workers[task]?).all fun worker =>
    !stands worker.code || server.crew.slot.current == some worker.generation

/-- A claim is revoked only from a worker that stands still: for `environment_destroy` unpolled,
parked or leaving, for `manager_stop` and a shutdown with nothing public; and a worker that lost
its claim is not polled again before the abort is called. -/
def undisturbed (server : Server) : Label → Bool
  | .rep _ =>
      match server.rep with
      | .handle .destroyTake => server.currentIs WorkerCode.still
      | .handle .stopTake | .closing => server.currentIs WorkerCode.private
      | _ => true
  | .shutdownTake => server.currentIs WorkerCode.private
  | .wake task => server.holdsClaim task fun _ => true
  | .work task => server.holdsClaim task WorkerCode.isUnpolled
  | _ => true

/-- State and slot agree on whether there is an environment. -/
def Agrees (server : Server) : Prop :=
  server.manager.state = .environmentClosed ↔ server.engine = false

/-- The revoked worker whose handle a revoker is about to abort. -/
def Stale (server : Server) (task : Option TaskId) : Prop :=
  ∀ peer ∈ task, ∀ generation ∈ server.crew.stamp peer,
    server.crew.slot.current ≠ some generation

/-- What holds at each place of the rep thread. -/
def Phase (server : Server) : Prop :=
  match server.rep with
  | .handle .openCreating => server.engine = false ∧ server.manager.state = .environmentClosed
  | .handle .openHook | .handle .openFailed | .handle .openInstall =>
      server.engine = false ∧ server.manager.state = .creatingEnvironment
  | .handle .openIdle => server.engine = true ∧ server.crew.slot.entry = none
  | .handle .closeActive | .handle .destroyTake => server.engine = true ∧ server.Agrees
  | .handle .closeClosing => server.engine = true ∧ server.crew.slot.entry = none ∧ server.Agrees
  | .handle .closeDrop | .handle .destroyDrop =>
      server.engine = true ∧ server.crew.slot.entry = none
  | .handle .closeClosed | .handle .destroyClosed => server.engine = false
  | .handle (.destroyAbort task) =>
      server.engine = true ∧ server.crew.slot.entry = none ∧ server.Agrees ∧ server.Stale task
  | .handle .destroyDestroying =>
      server.engine = true ∧ server.crew.slot.entry = none ∧ server.Agrees
  | .handle (.startState _) | .handle (.startClaim _) => server.engine = true ∧ server.Agrees
  | .handle (.startSpawn _ generation) =>
      server.engine = true ∧ server.Agrees ∧ generation ∈ server.crew.held
  | .handle (.startRegister _ task generation) =>
      server.engine = true ∧ server.Agrees ∧ server.crew.stamp task = some generation
  | .handle (.stopAbort task) | .closingAbort task => server.Agrees ∧ server.Stale task
  | _ => server.Agrees

/-- `env_destroy` between its `take` and its next write of the state. -/
def Revoking (server : Server) : Prop :=
  server.rep = .handle .destroyDestroying ∨ ∃ task, server.rep = .handle (.destroyAbort task)

/-- A worker under the current claim with something of it public. -/
def Executing (server : Server) : Prop :=
  ∃ (task : TaskId) (worker : Worker WorkerCode), server.crew.workers[task]? = some worker ∧
    worker.finished = false ∧ server.crew.slot.current = some worker.generation ∧
    worker.code.private = false

end Server

/-- What holds of a server as long as it is undisturbed. -/
structure Orderly (server : Server) : Prop where
  sound : server.crew.Sound
  /-- A worker that lost its claim does nothing more. -/
  still : ∀ (task : TaskId) (worker : Worker WorkerCode), server.crew.workers[task]? = some worker →
    worker.finished = false → server.crew.slot.current ≠ some worker.generation →
    worker.code.still = true
  executing : server.manager.state = .executingQueue → ¬server.Revoking → server.Executing
  vacant : server.engine = false → server.crew.slot.entry = none
  phase : server.Phase

section

variable {config : Config} {server next : Server} {task peer : TaskId}
  {worker fellow : Worker WorkerCode}

namespace Server

theorem currentIs_iff {stands : WorkerCode → Bool} :
    server.currentIs stands = true ↔
      ∀ (task : TaskId) (worker : Worker WorkerCode), server.crew.workers[task]? = some worker →
        worker.finished = false → server.crew.slot.current = some worker.generation →
        stands worker.code = true := by
  simp only [currentIs, List.all_eq_true, Bool.or_eq_true, bne_iff_ne]
  constructor
  · intro all task worker found unfinished current
    rcases all worker (List.mem_of_getElem? found) with (finished | stale) | stood
    · rw [unfinished] at finished
      cases finished
    · exact absurd current stale
    · exact stood
  · intro all worker member
    obtain ⟨task, found⟩ := List.mem_iff_getElem?.mp member
    cases finished : worker.finished with
    | true => exact Or.inl (Or.inl rfl)
    | false =>
        by_cases current : server.crew.slot.current = some worker.generation
        · exact Or.inr (all task worker found finished current)
        · exact Or.inl (Or.inr current)

theorem holdsClaim_iff {stands : WorkerCode → Bool}
    (found : server.crew.workers[task]? = some worker) :
    server.holdsClaim task stands = true ↔
      (stands worker.code = true → server.crew.slot.current = some worker.generation) := by
  simp only [holdsClaim, found, Option.all_some, Bool.or_eq_true, Bool.not_eq_true', beq_iff_eq]
  cases stands worker.code <;> simp

/-- What stands still is neither running a stretch nor about to. -/
theorem still_of_private {code : WorkerCode} (hidden : code.private = true) : code.still = true := by
  cases code with
  | unpolled | leave => rfl
  | _ => cases hidden

theorem current_isSome (current : server.crew.slot.current = some generation) :
    server.crew.slot.entry ≠ none := by
  intro empty
  rw [QueueTaskSlot.current, empty] at current
  cases current

end Server

namespace Orderly

/-- A worker in the middle of its stretches has the current claim. -/
theorem current (orderly : Orderly server) (found : server.crew.workers[task]? = some worker)
    (unfinished : worker.finished = false) (moves : worker.code.still = false) :
    server.crew.slot.current = some worker.generation := by
  by_contra stale
  have stood := orderly.still task worker found unfinished stale
  rw [moves] at stood
  cases stood

/-- The environment of a worker with the current claim is open. -/
theorem opened (orderly : Orderly server)
    (current : server.crew.slot.current = some generation) : server.engine = true := by
  by_contra closed
  exact Server.current_isSome current (orderly.vacant (by simpa using closed))

/-- A step that moves neither worker, claim, engine nor state keeps the order, given the phase. -/
theorem frame (orderly : Orderly server) (sound : next.crew.Sound)
    (workers : next.crew.workers = server.crew.workers)
    (entry : next.crew.slot.entry = server.crew.slot.entry)
    (engine : next.engine = server.engine) (state : next.manager.state = server.manager.state)
    (revoking : server.Revoking → next.Revoking) (phase : next.Phase) : Orderly next := by
  have current : next.crew.slot.current = server.crew.slot.current := by
    rw [QueueTaskSlot.current, entry, QueueTaskSlot.current]
  refine ⟨sound, ?_, ?_, ?_, phase⟩
  · simpa only [workers, current] using orderly.still
  · intro executing outside
    have executed := orderly.executing (state ▸ executing) fun inside => outside (revoking inside)
    simpa only [Server.Executing, workers, current] using executed
  · simpa only [engine, entry] using orderly.vacant

/-- Revoking a claim from a worker that stands still. -/
theorem taken (orderly : Orderly server) (stood : server.currentIs WorkerCode.still = true)
    (crew : next.crew = server.crew.take) (state : next.manager.state = server.manager.state)
    (executing : next.Revoking ∨ server.manager.state ≠ .executingQueue) (phase : next.Phase) :
    Orderly next where
  sound := crew ▸ orderly.sound.take
  still := by
    intro task worker found unfinished _
    rw [crew] at found
    by_cases current : server.crew.slot.current = some worker.generation
    · exact Server.currentIs_iff.mp stood task worker found unfinished current
    · exact orderly.still task worker found unfinished current
  executing := by
    intro executes outside
    rcases executing with inside | elsewhere
    · exact absurd inside outside
    · exact absurd (state ▸ executes) elsewhere
  vacant := by
    intro _
    rw [crew]
    rfl
  phase := phase

/-- With nothing of the current worker public, the manager is not executing. -/
theorem not_executing (orderly : Orderly server)
    (hidden : server.currentIs WorkerCode.private = true) (outside : ¬server.Revoking) :
    server.manager.state ≠ .executingQueue := by
  intro executes
  obtain ⟨task, worker, found, unfinished, current, exposed⟩ := orderly.executing executes outside
  have concealed := Server.currentIs_iff.mp hidden task worker found unfinished current
  rw [exposed] at concealed
  cases concealed

theorem stood (hidden : server.currentIs WorkerCode.private = true) :
    server.currentIs WorkerCode.still = true := by
  apply Server.currentIs_iff.mpr
  intro task worker found unfinished current
  exact Server.still_of_private (Server.currentIs_iff.mp hidden task worker found unfinished current)

/-- Marking a worker aborted moves no worker and no claim. -/
theorem marked (orderly : Orderly server) {update : Worker WorkerCode → Worker WorkerCode}
    (workers : next.crew.workers = server.crew.workers.modify task update)
    (kept : ∀ worker, (update worker).generation = worker.generation ∧
      (update worker).code = worker.code ∧ (update worker).finished = worker.finished)
    (sound : next.crew.Sound)
    (slot : next.crew.slot.current = server.crew.slot.current)
    (engine : next.engine = server.engine) (state : next.manager.state = server.manager.state)
    (revoking : server.Revoking → next.Revoking) (phase : next.Phase) : Orderly next where
  sound := sound
  still := by
    intro peer worker found unfinished stale
    rw [workers] at found
    obtain ⟨before, held, rfl⟩ := Crew.Sound.found_modify.mp found
    obtain ⟨generation, code, finished⟩ := kept before
    rw [slot] at stale
    by_cases mine : task = peer
    · simp only [if_pos mine, generation, code, finished] at unfinished stale ⊢
      exact orderly.still peer before held unfinished stale
    · simp only [if_neg mine] at unfinished stale ⊢
      exact orderly.still peer before held unfinished stale
  executing := by
    intro executes outside
    obtain ⟨peer, worker, found, unfinished, current, exposed⟩ :=
      orderly.executing (state ▸ executes) fun inside => outside (revoking inside)
    obtain ⟨generation, code, finished⟩ := kept worker
    refine ⟨peer, _, workers ▸ Crew.Sound.found_modify.mpr ⟨worker, found, rfl⟩, ?_⟩
    by_cases mine : task = peer
    · simp [mine, generation, code, finished, unfinished, slot, current, exposed]
    · simp [mine, unfinished, slot, current, exposed]
  vacant := by
    intro closed
    have empty := orderly.vacant (engine ▸ closed)
    have none : next.crew.slot.current = none := by
      rw [slot, QueueTaskSlot.current, empty]
      rfl
    simpa [QueueTaskSlot.current] using none
  phase := phase

end Orderly

/-- A stretch of a worker under the current claim fits every place of the rep thread. -/
theorem Server.Phase.acted (phase : server.Phase) (rep : next.rep = server.rep)
    (engine : next.engine = server.engine) (opened : server.engine = true)
    (slot : next.crew.slot = server.crew.slot) (claimed : server.crew.slot.entry ≠ none)
    (held : next.crew.held = server.crew.held) (stamps : next.crew.stamp = server.crew.stamp)
    (state : next.manager.state = server.manager.state ∨
      next.manager.state = .executingQueue ∨ next.manager.state = .idle) : next.Phase := by
  have agrees : server.Agrees → next.Agrees := by
    intro agrees
    rcases state with same | same | same <;> simp_all [Server.Agrees]
  unfold Server.Phase at phase ⊢
  rw [rep]
  split at phase <;> simp_all [Server.Stale]

/-- What empties or keeps the slot, and moves nothing else, fits every place of the rep thread. -/
theorem Server.Phase.kept (phase : server.Phase) (rep : next.rep = server.rep)
    (engine : next.engine = server.engine) (state : next.manager.state = server.manager.state)
    (held : next.crew.held = server.crew.held) (stamps : next.crew.stamp = server.crew.stamp)
    (emptied : server.crew.slot.entry = none → next.crew.slot.entry = none)
    (current : ∀ generation, next.crew.slot.current = some generation →
      server.crew.slot.current = some generation) : next.Phase := by
  have agrees : server.Agrees → next.Agrees := by
    simp [Server.Agrees, engine, state]
  have stale : ∀ handle, server.Stale handle → next.Stale handle := by
    intro handle stale peer mine generation spawned live
    exact stale peer mine generation (stamps ▸ spawned) (current generation live)
  unfold Server.Phase at phase ⊢
  rw [rep]
  split at phase <;> simp_all

/-- A stretch of a worker: what it makes public, it makes under the current claim. -/
theorem Orderly.worked (orderly : Orderly server) {code : WorkerCode}
    (found : server.crew.workers[task]? = some worker) (unfinished : worker.finished = false)
    (current : server.crew.slot.current = some worker.generation)
    (crew : next.crew = server.crew.modify task fun worker => { worker with code })
    (rep : next.rep = server.rep) (engine : next.engine = server.engine)
    (state : code.private = false ∧ (next.manager.state = server.manager.state ∨
        next.manager.state = .executingQueue) ∨ next.manager.state = .idle) :
    Orderly next where
  sound := crew ▸ orderly.sound.work task code
  still := by
    intro peer fellow seen alive stale
    rw [crew] at seen stale
    obtain ⟨before, held, rfl⟩ := Crew.Sound.found_modify.mp seen
    by_cases mine : task = peer
    · subst mine
      cases found.symm.trans held
      simp only [if_true] at stale
      exact absurd current stale
    · simp only [if_neg mine] at alive stale ⊢
      exact orderly.still peer before held alive stale
  executing := by
    intro executes _
    have exposed : code.private = false := by
      rcases state with ⟨exposed, _⟩ | idle
      · exact exposed
      · rw [idle] at executes
        cases executes
    have moved : next.crew.workers[task]? = some { worker with code } := by
      rw [crew]
      exact Crew.Sound.found_modify.mpr ⟨worker, found, by rw [if_pos rfl]⟩
    exact ⟨task, _, moved, unfinished, crew ▸ current, exposed⟩
  vacant := by
    intro closed
    rw [crew]
    exact orderly.vacant (engine ▸ closed)
  phase := by
    have stamps : next.crew.stamp = server.crew.stamp := by
      funext peer
      rw [crew]
      exact Crew.Sound.stamp_modify fun _ => rfl
    apply orderly.phase.acted rep engine (orderly.opened current) (crew ▸ rfl)
      (Server.current_isSome current) (crew ▸ rfl) stamps
    rcases state with ⟨_, same | executes⟩ | idle
    · exact Or.inl same
    · exact Or.inr (Or.inl executes)
    · exact Or.inr (Or.inr idle)

/-- The end of a worker, which leaves nothing public behind. -/
theorem Orderly.exited (orderly : Orderly server)
    (found : server.crew.workers[task]? = some worker)
    (hidden : server.crew.slot.current = some worker.generation → worker.code.private = true)
    (crew : next.crew = server.crew.exit task) (rep : next.rep = server.rep)
    (engine : next.engine = server.engine) (state : next.manager.state = server.manager.state) :
    Orderly next := by
  have ended : server.crew.exit task = { server.crew with
      slot := server.crew.slot.finish worker.generation
      workers := server.crew.workers.modify task fun worker => { worker with finished := true } } := by
    rw [Crew.exit, found]
  refine ⟨crew ▸ orderly.sound.exit task, ?_, ?_, ?_, ?_⟩
  · intro peer fellow seen alive stale
    rw [crew, ended] at seen stale
    obtain ⟨before, held, rfl⟩ := Crew.Sound.found_modify.mp seen
    by_cases mine : task = peer
    · simp [mine] at alive
    · simp only [if_neg mine] at alive stale ⊢
      apply orderly.still peer before held alive
      intro current
      by_cases live : server.crew.slot.current = some worker.generation
      · have same := Option.some.inj (live.symm.trans current)
        exact mine (orderly.sound.same_task found held same)
      · rw [QueueTaskSlot.finish_of_stale live] at stale
        exact stale current
  · intro executes outside
    have inside : server.Revoking → next.Revoking := by
      simp [Server.Revoking, rep]
    obtain ⟨peer, fellow, held, alive, current, exposed⟩ :=
      orderly.executing (state ▸ executes) fun within => outside (inside within)
    have other : task ≠ peer := by
      rintro rfl
      cases found.symm.trans held
      rw [hidden current] at exposed
      cases exposed
    have stale : server.crew.slot.current ≠ some worker.generation := by
      intro live
      exact other (orderly.sound.same_task found held (Option.some.inj (live.symm.trans current)))
    refine ⟨peer, fellow, ?_, alive, ?_, exposed⟩
    · rw [crew, ended]
      exact Crew.Sound.found_modify.mpr ⟨fellow, held, by rw [if_neg other]⟩
    · rw [crew, ended]
      simpa only [QueueTaskSlot.finish_of_stale stale] using current
  · intro closed
    rw [crew, ended]
    have empty := orderly.vacant (engine ▸ closed)
    simp [QueueTaskSlot.finish, empty]
  · have stamps : next.crew.stamp = server.crew.stamp := by
      funext peer
      rw [crew, ended]
      exact Crew.Sound.stamp_modify fun _ => rfl
    have held : next.crew.held = server.crew.held := by
      rw [crew, ended]
    have emptied : server.crew.slot.entry = none → next.crew.slot.entry = none := by
      intro empty
      rw [crew, ended]
      simp [QueueTaskSlot.finish, empty]
    apply orderly.phase.kept rep engine state held stamps emptied
    intro generation current
    rw [crew, ended] at current
    exact (Crew.Sound.finish_current current).1

/-- A worker that takes a stretch, short of returning, has the current claim. -/
theorem Orderly.claims (orderly : Orderly server) (found : server.live? task = some worker)
    (outside : ∀ job item parked, worker.code ≠ .run job item parked)
    (polled : server.holdsClaim task WorkerCode.isUnpolled = true) (stays : worker.code ≠ .leave) :
    server.crew.slot.current = some worker.generation := by
  obtain ⟨present, unfinished⟩ := Server.live?_eq_some.mp found
  by_cases moves : worker.code.still = false
  · exact orderly.current present unfinished moves
  · apply (Server.holdsClaim_iff present).mp polled
    cases code : worker.code with
    | unpolled => rfl
    | run job item parked => exact absurd code (outside job item parked)
    | leave => exact absurd code stays
    | _ =>
        rw [code] at moves
        exact absurd rfl moves

/-- The stretches of a worker outside its await. -/
theorem Orderly.work (orderly : Orderly server) (found : server.live? task = some worker)
    (outside : ∀ job item parked, worker.code ≠ .run job item parked)
    (polled : server.holdsClaim task WorkerCode.isUnpolled = true) :
    Orderly (server.work config task worker.code) := by
  obtain ⟨present, unfinished⟩ := Server.live?_eq_some.mp found
  have current := orderly.claims found outside polled
  cases code : worker.code with
  | unpolled single =>
      have live := current (by simp [code])
      cases single <;>
        exact orderly.worked present unfinished live rfl rfl rfl (Or.inl ⟨rfl, Or.inl rfl⟩)
  | checkStop =>
      have live := current (by simp [code])
      refine orderly.worked present unfinished live rfl rfl rfl (Or.inl ⟨?_, Or.inl rfl⟩)
      split <;> rfl
  | pop =>
      have live := current (by simp [code])
      simp only [Server.work]
      split
      · refine orderly.worked present unfinished live rfl rfl rfl (Or.inl ⟨?_, Or.inl rfl⟩)
        unfold itemCode
        repeat' split
        all_goals rfl
      · exact orderly.worked present unfinished live rfl rfl rfl (Or.inl ⟨rfl, Or.inl rfl⟩)
  | publish job item =>
      have live := current (by simp [code])
      exact orderly.worked present unfinished live rfl rfl rfl (Or.inl ⟨rfl, Or.inr rfl⟩)
  | archive job item outcome =>
      have live := current (by simp [code])
      refine orderly.worked present unfinished live rfl rfl rfl (Or.inl ⟨?_, Or.inl rfl⟩)
      cases job <;> rfl
  | readMode item completed =>
      have live := current (by simp [code])
      refine orderly.worked present unfinished live rfl rfl rfl (Or.inl ⟨?_, Or.inl rfl⟩)
      cases completed <;> split <;> rfl
  | requeue item completed =>
      have live := current (by simp [code])
      refine orderly.worked present unfinished live rfl rfl rfl (Or.inl ⟨?_, Or.inl rfl⟩)
      cases completed <;> rfl
  | idleOut disableAutostart =>
      have live := current (by simp [code])
      exact orderly.worked present unfinished live rfl rfl rfl (Or.inr rfl)
  | leave => exact orderly.exited present (fun _ => by rw [code]; rfl) rfl rfl rfl rfl
  | run job item parked => exact absurd code (outside job item parked)
  | clearStop | archiveStop | setStop | countFailed | archiveFail | book =>
      have live := current (by simp [code])
      exact orderly.worked present unfinished live rfl rfl rfl (Or.inl ⟨rfl, Or.inl rfl⟩)

/-- Aborting a revoked worker. -/
theorem Orderly.abort (orderly : Orderly server) {handle : Option TaskId}
    (stale : server.Stale handle)
    (crew : next.crew = (handle.map server.crew.abort).getD server.crew)
    (engine : next.engine = server.engine) (state : next.manager.state = server.manager.state)
    (revoking : server.Revoking → next.Revoking) (phase : next.Phase) : Orderly next := by
  cases handle with
  | none =>
      exact orderly.frame (crew ▸ orderly.sound) (crew ▸ rfl) (crew ▸ rfl) engine state revoking phase
  | some task =>
      have sound : (server.crew.abort task).Sound := by
        apply orderly.sound.abort task
        intro worker found
        exact stale task rfl worker.generation (by simp [Crew.stamp, found])
      exact orderly.marked (congrArg Crew.workers crew) (fun _ => ⟨rfl, rfl, rfl⟩) (crew ▸ sound)
        (crew ▸ rfl) engine state revoking phase

/-- A claim made for a worker still to be spawned. -/
theorem Orderly.claim (orderly : Orderly server) (claimed : server.crew.claim = some (crew, generation))
    (outside : ¬server.Revoking) (open' : next.engine = true) (same : next.crew = crew)
    (state : next.manager.state = server.manager.state) (phase : next.Phase) : Orderly next := by
  have sound := orderly.sound.claim claimed
  simp only [Crew.claim, Option.map_eq_some_iff, Prod.exists, Prod.mk.injEq] at claimed
  obtain ⟨slot, stamped, taken, rfl, rfl⟩ := claimed
  obtain ⟨empty, rfl, rfl⟩ := QueueTaskSlot.claim_eq_some.mp taken
  have none : server.crew.slot.current = none := by
    rw [QueueTaskSlot.current, empty]
    rfl
  refine ⟨same ▸ sound, ?_, ?_, ?_, phase⟩
  · intro task worker found unfinished _
    rw [same] at found
    apply orderly.still task worker found unfinished
    rw [none]
    rintro ⟨⟩
  · intro executes _
    obtain ⟨task, worker, found, unfinished, current, exposed⟩ :=
      orderly.executing (state ▸ executes) outside
    rw [none] at current
    cases current
  · intro closed
    rw [open'] at closed
    cases closed

theorem Orderly.spawn (orderly : Orderly server) (held : generation ∈ server.crew.held)
    {single : Option QueuedItem} (crew : next.crew = server.crew.spawn generation (.unpolled single))
    (engine : next.engine = server.engine) (state : next.manager.state = server.manager.state)
    (outside : ¬server.Revoking) (phase : next.Phase) : Orderly next := by
  refine ⟨crew ▸ orderly.sound.spawn held _, ?_, ?_, ?_, phase⟩
  · intro task worker found unfinished stale
    rw [crew] at found stale
    by_cases inside : task < server.crew.workers.length
    · exact orderly.still task worker ((List.getElem?_append_left inside).symm.trans found)
        unfinished stale
    · have bound := (List.getElem?_eq_some_iff.mp found).1
      simp only [Crew.spawn, List.length_append, List.length_cons, List.length_nil] at bound
      have newest := Nat.le_antisymm (Nat.le_of_lt_succ bound) (Nat.le_of_not_lt inside)
      have same : some ⟨generation, .unpolled single, false, false⟩ = some worker := by
        simpa [Crew.spawn, newest] using found
      cases same
      rfl
  · intro executes _
    obtain ⟨task, worker, found, rest⟩ := orderly.executing (state ▸ executes) outside
    have inside := (List.getElem?_eq_some_iff.mp found).1
    refine ⟨task, worker, ?_, ?_⟩
    · rw [crew]
      exact (List.getElem?_append_left inside).trans found
    · rw [crew]
      exact rest
  · intro closed
    rw [crew]
    exact orderly.vacant (engine ▸ closed)

theorem Orderly.register (orderly : Orderly server) (spawned : server.crew.stamp task = some generation)
    (crew : next.crew = server.crew.register task generation)
    (engine : next.engine = server.engine) (state : next.manager.state = server.manager.state)
    (revoking : server.Revoking → next.Revoking) (phase : next.Phase) : Orderly next := by
  obtain ⟨worker, found, rfl⟩ := Option.map_eq_some_iff.mp spawned
  have unmoved : (server.crew.register task worker.generation).slot.current =
      server.crew.slot.current := by
    by_cases live : server.crew.slot.current = some worker.generation
    · have registered := QueueTaskSlot.register_of_current live task
      simp only [Crew.register, registered, live]
      rfl
    · have registered := QueueTaskSlot.register_of_stale live task
      simp only [Crew.register, registered]
  exact orderly.marked (congrArg Crew.workers crew) (fun _ => ⟨rfl, rfl, rfl⟩)
    (crew ▸ orderly.sound.register found) (crew ▸ unmoved) engine state revoking phase

/-- Changing the state where no worker can be executing. -/
theorem Orderly.transit (orderly : Orderly server) (crew : next.crew = server.crew)
    (engine : next.engine = server.engine) (settled : next.manager.state ≠ .executingQueue)
    (phase : next.Phase) : Orderly next where
  sound := crew ▸ orderly.sound
  still := by simpa only [crew] using orderly.still
  executing := fun executes => absurd executes settled
  vacant := by simpa only [crew, engine] using orderly.vacant
  phase := phase

/-- The engine slot changes hands only while no worker holds a claim. -/
theorem Orderly.exchange (orderly : Orderly server) (crew : next.crew = server.crew)
    (empty : server.crew.slot.entry = none) (state : next.manager.state = server.manager.state)
    (outside : ¬server.Revoking) (phase : next.Phase) : Orderly next where
  sound := crew ▸ orderly.sound
  still := by simpa only [crew] using orderly.still
  executing := by
    intro executes _
    have executed := orderly.executing (state ▸ executes) outside
    simpa only [Server.Executing, crew] using executed
  vacant := fun _ => crew ▸ empty
  phase := phase

/-- A stretch of a request handler. -/
theorem Orderly.advance {outside : Outside} {handler : Handler} (orderly : Orderly server)
    (place : server.rep = .handle handler)
    (undisturbed : server.undisturbed (.rep outside) = true) :
    Orderly { (server.advance config outside handler).1 with
      rep := (server.advance config outside handler).2 } := by
  have phase := orderly.phase
  rw [Server.Phase, place] at phase
  have revokes : server.Revoking ↔ handler = .destroyDestroying ∨ ∃ task, handler = .destroyAbort task := by
    simp [Server.Revoking, place]
  cases handler with
  | edit edit autostarts =>
      refine orderly.frame orderly.sound rfl rfl rfl rfl (by simp [revokes]) ?_
      simp only [Server.advance]
      split <;> exact phase
  | autostart after =>
      refine orderly.frame orderly.sound rfl rfl rfl rfl (by simp [revokes]) ?_
      cases after <;> simp only [Server.advance] <;> split <;> exact phase
  | startEngine purpose =>
      refine orderly.frame orderly.sound rfl rfl rfl rfl (by simp [revokes]) ?_
      simp only [Server.advance]
      by_cases opened : server.engine = true
      · rw [if_pos opened]
        exact ⟨opened, phase⟩
      · rw [if_neg opened]
        rcases purpose with _ | (_ | _) | _ <;> exact phase
  | startState purpose =>
      refine orderly.frame orderly.sound rfl rfl rfl rfl (by simp [revokes]) ?_
      simp only [Server.advance]
      split
      · exact phase
      · rcases purpose with _ | (_ | _) | _ <;> exact phase.2
  | startClaim purpose =>
      simp only [Server.advance]
      split
      · next crew generation claimed =>
          refine orderly.claim claimed (by simp [revokes]) phase.1 rfl rfl ⟨phase.1, phase.2, ?_⟩
          simp only [Crew.claim, Option.map_eq_some_iff, Prod.exists, Prod.mk.injEq] at claimed
          obtain ⟨slot, stamped, _, rfl, rfl⟩ := claimed
          exact List.mem_cons_self ..
      · refine orderly.frame orderly.sound rfl rfl rfl rfl (by simp [revokes]) ?_
        rcases purpose with _ | (_ | _) | _ <;> exact phase.2
  | startSpawn purpose generation =>
      obtain ⟨opened, agrees, held⟩ := phase
      have code : ∃ single, purpose.code = .unpolled single := by
        cases purpose <;> exact ⟨_, rfl⟩
      obtain ⟨single, begins⟩ := code
      have crew : server.crew.spawn generation purpose.code =
          server.crew.spawn generation (.unpolled single) := by
        rw [begins]
      refine orderly.spawn held crew rfl rfl (by simp [revokes]) ⟨opened, agrees, ?_⟩
      simp [Server.advance, Crew.stamp, Crew.spawn]
  | startRegister purpose task generation =>
      refine orderly.register phase.2.2 rfl rfl rfl (by simp [revokes]) ?_
      rcases purpose with _ | (_ | _) | _ <;> exact phase.2.1
  | openSlot =>
      refine orderly.frame orderly.sound rfl rfl rfl rfl (by simp [revokes]) ?_
      simp only [Server.advance]
      by_cases opened : server.engine = true
      · rw [if_pos opened]
        exact phase
      · rw [if_neg opened]
        have closed : server.engine = false := by simpa using opened
        exact ⟨closed, phase.mpr closed⟩
  | openCreating => exact orderly.transit rfl rfl (by rintro ⟨⟩) ⟨phase.1, rfl⟩
  | openHook =>
      refine orderly.frame orderly.sound rfl rfl rfl rfl (by simp [revokes]) ?_
      simp only [Server.advance]
      split <;> exact phase
  | openFailed => exact orderly.transit rfl rfl (by rintro ⟨⟩) ⟨fun _ => phase.1, fun _ => rfl⟩
  | openInstall =>
      have empty := orderly.vacant phase.1
      exact orderly.exchange rfl empty rfl (by simp [revokes]) ⟨rfl, empty⟩
  | openIdle =>
      refine orderly.transit rfl rfl (by rintro ⟨⟩) ⟨(by intros; contradiction), fun closed => ?_⟩
      exact absurd (phase.1.symm.trans closed) (by rintro ⟨⟩)
  | closeEngine =>
      refine orderly.frame orderly.sound rfl rfl rfl rfl (by simp [revokes]) ?_
      simp only [Server.advance]
      split
      · exact phase
      · next closed =>
          split
          · exact ⟨by simpa using closed, phase⟩
          · exact phase
  | closeActive =>
      refine orderly.frame orderly.sound rfl rfl rfl rfl (by simp [revokes]) ?_
      simp only [Server.advance]
      by_cases active : server.crew.slot.isActive = true
      · rw [if_pos active]
        exact phase.2
      · rw [if_neg active]
        exact ⟨phase.1, by simpa [QueueTaskSlot.isActive] using active, phase.2⟩
  | closeClosing => exact orderly.transit rfl rfl (by rintro ⟨⟩) ⟨phase.1, phase.2.1⟩
  | closeDrop => exact orderly.exchange rfl phase.2 rfl (by simp [revokes]) rfl
  | closeClosed => exact orderly.transit rfl rfl (by rintro ⟨⟩) ⟨fun _ => phase, fun _ => rfl⟩
  | destroySlot =>
      refine orderly.frame orderly.sound rfl rfl rfl rfl (by simp [revokes]) ?_
      simp only [Server.advance]
      by_cases opened : server.engine = true
      · rw [if_pos opened]
        exact ⟨opened, phase⟩
      · rw [if_neg opened]
        exact phase
  | destroyTake =>
      have stood : server.currentIs WorkerCode.still = true := by
        simpa only [Server.undisturbed, place] using undisturbed
      refine orderly.taken stood rfl rfl (Or.inl (Or.inr ⟨_, rfl⟩)) ⟨phase.1, rfl, phase.2, (by rintro _ - _ - ⟨⟩)⟩
  | destroyAbort task =>
      obtain ⟨opened, empty, agrees, stale⟩ := phase
      refine orderly.abort stale rfl rfl rfl (fun _ => Or.inl rfl) ⟨opened, ?_, agrees⟩
      cases task <;> exact empty
  | destroyDestroying => exact orderly.transit rfl rfl (by rintro ⟨⟩) ⟨phase.1, phase.2.1⟩
  | destroyDrop => exact orderly.exchange rfl phase.2 rfl (by simp [revokes]) rfl
  | destroyClosed => exact orderly.transit rfl rfl (by rintro ⟨⟩) ⟨fun _ => phase, fun _ => rfl⟩
  | stopTake =>
      have hidden : server.currentIs WorkerCode.private = true := by
        simpa only [Server.undisturbed, place] using undisturbed
      have settled := orderly.not_executing hidden (by simp [revokes])
      exact orderly.taken (stood hidden) rfl rfl (Or.inr settled) ⟨phase, (by rintro _ - _ - ⟨⟩)⟩
  | stopAbort task => exact orderly.abort phase.2 rfl rfl rfl (by simp [revokes]) phase.1
  | pauseCall defer =>
      simp only [Server.advance]
      split
      · exact orderly.frame orderly.sound rfl rfl rfl rfl (by simp [revokes]) phase
      · split <;> exact orderly.frame orderly.sound rfl rfl rfl rfl (by simp [revokes]) phase
  | control call =>
      simp only [Server.advance]
      split <;> exact orderly.frame orderly.sound rfl rfl rfl rfl (by simp [revokes]) phase
  | metadata metadata =>
      simp only [Server.advance]
      split
      · cases metadata <;>
          exact orderly.frame orderly.sound rfl rfl rfl rfl (by simp [revokes]) phase
      · exact orderly.frame orderly.sound rfl rfl rfl rfl (by simp [revokes]) phase
  | lockApply | lockRelease =>
      simp only [Server.advance]
      split <;> exact orderly.frame orderly.sound rfl rfl rfl rfl (by simp [revokes]) phase
  | setAutostart enable =>
      refine orderly.frame orderly.sound rfl rfl rfl rfl (by simp [revokes]) ?_
      cases enable <;> exact phase
  | taskAccess group uid full =>
      refine orderly.frame orderly.sound rfl rfl rfl rfl (by simp [revokes]) ?_
      simp only [Server.advance]
      split
      · exact phase
      · split <;> exact phase
  | taskStatus uid full =>
      refine orderly.frame orderly.sound rfl rfl rfl rfl (by simp [revokes]) ?_
      cases full <;> exact phase
  | reload =>
      simp only [Server.advance]
      split <;> exact orderly.frame orderly.sound rfl rfl rfl rfl (by simp [revokes]) phase
  | reply | resolve | executeReply | stopRequest | setStop | setMode | pausePending | clearPause
  | evaluate | evaluateSpawn | taskOutcome | taskStdout =>
      exact orderly.frame orderly.sound rfl rfl rfl rfl (by simp [revokes]) phase

/-- A stretch of the rep thread. -/
theorem Orderly.served {outside : Outside} (orderly : Orderly server)
    (served : server.serve config outside = some next)
    (undisturbed : server.undisturbed (.rep outside) = true) : Orderly next := by
  have phase := orderly.phase
  cases place : server.rep with
  | handle handler =>
      simp only [Server.serve, place, Option.some.injEq] at served
      cases served
      exact orderly.advance place undisturbed
  | turn =>
      simp only [Server.serve, place, Option.some.injEq] at served
      cases served
      rw [Server.Phase, place] at phase
      refine orderly.frame orderly.sound rfl rfl rfl rfl (by simp [Server.Revoking, place]) ?_
      split <;> exact phase
  | poll =>
      simp only [Server.serve, place, Option.some.injEq] at served
      cases served
      rw [Server.Phase, place] at phase
      refine orderly.frame ?_ rfl rfl rfl rfl (by simp [Server.Revoking, place]) ?_
      · exact orderly.sound.noticed
      · split <;> exact phase
  | receive => simp [Server.serve, place] at served
  | answer reply =>
      simp only [Server.serve, place, Option.some.injEq] at served
      cases served
      rw [Server.Phase, place] at phase
      split <;>
        exact orderly.frame orderly.sound rfl rfl rfl rfl (by simp [Server.Revoking, place]) phase
  | closing =>
      simp only [Server.serve, place, Option.some.injEq] at served
      cases served
      rw [Server.Phase, place] at phase
      have hidden : server.currentIs WorkerCode.private = true := by
        simpa only [Server.undisturbed, place] using undisturbed
      have settled := orderly.not_executing hidden (by simp [Server.Revoking, place])
      exact orderly.taken (Orderly.stood hidden) rfl rfl (Or.inr settled) ⟨phase, nofun⟩
  | closingAbort task =>
      simp only [Server.serve, place, Option.some.injEq] at served
      cases served
      rw [Server.Phase, place] at phase
      exact orderly.abort phase.2 rfl rfl rfl (by simp [Server.Revoking, place]) phase.1
  | gone => simp [Server.serve, place] at served

/-- A request is taken up at a place that asks nothing more of the server. -/
theorem Server.Phase.dispatched {request : Request} {minted : Nat} (agrees : server.Agrees) :
    Server.Phase { server with rep := .handle (dispatch config server request), minted } := by
  have entry := dispatch_isEntry config server request
  generalize dispatch config server request = handler at entry ⊢
  cases handler <;> first | exact agrees | cases entry

/-- Every step of an undisturbed server keeps the order. -/
theorem Orderly.step (orderly : Orderly server) {label : Label}
    (stepped : server.step config label = some next) (undisturbed : server.undisturbed label = true) :
    Orderly next := by
  have phase := orderly.phase
  cases Server.moved stepped with
  | request waits request =>
      rw [Server.Phase, waits] at phase
      exact orderly.frame orderly.sound rfl rfl rfl rfl (by simp [Server.Revoking, waits])
        (Server.Phase.dispatched phase)
  | timeout waits =>
      rw [Server.Phase, waits] at phase
      exact orderly.frame orderly.sound rfl rfl rfl rfl (by simp [Server.Revoking, waits]) phase
  | rep outside served => exact orderly.served served undisturbed
  | work task found outside polled => exact orderly.work found outside undisturbed
  | park task found awaits =>
      obtain ⟨present, unfinished⟩ := Server.live?_eq_some.mp found
      have current := orderly.current present unfinished (by rw [awaits]; rfl)
      exact orderly.worked present unfinished current rfl rfl rfl (Or.inl ⟨rfl, Or.inl rfl⟩)
  | wake task found awaits polled =>
      obtain ⟨present, unfinished⟩ := Server.live?_eq_some.mp found
      have claimed : server.holdsClaim task (fun _ => true) = true := undisturbed
      have current := (Server.holdsClaim_iff present).mp claimed rfl
      exact orderly.worked present unfinished current rfl rfl rfl (Or.inl ⟨rfl, Or.inl rfl⟩)
  | complete task outcome found awaits =>
      obtain ⟨present, unfinished⟩ := Server.live?_eq_some.mp found
      have current := orderly.current present unfinished (by rw [awaits]; rfl)
      exact orderly.worked present unfinished current rfl rfl rfl (Or.inl ⟨rfl, Or.inl rfl⟩)
  | land task found aborted stands =>
      obtain ⟨present, unfinished⟩ := Server.live?_eq_some.mp found
      have stale := orderly.sound.revoked task _ present (Or.inl aborted)
      exact orderly.exited present (fun current => absurd current stale) rfl rfl rfl rfl
  | evaluated uid result running =>
      exact orderly.frame orderly.sound rfl rfl rfl rfl id phase
  | reported uid counted =>
      exact orderly.frame orderly.sound rfl rfl rfl rfl id phase
  | shutdown => exact orderly.frame orderly.sound rfl rfl rfl rfl id phase
  | shutdownTake down =>
      have hidden : server.currentIs WorkerCode.private = true := undisturbed
      have settled : Server.Revoking { server with crew := server.crew.take } ∨
          server.manager.state ≠ .executingQueue := by
        by_cases inside : server.Revoking
        · exact Or.inl inside
        · exact Or.inr (orderly.not_executing hidden inside)
      exact orderly.taken (Orderly.stood hidden) rfl rfl settled
        (phase.kept rfl rfl rfl rfl rfl (fun _ => rfl) nofun)
  | shutdownAbort task down taken =>
      have stale : server.Stale (some task) := by
        intro peer same generation spawned
        cases same
        obtain ⟨worker, found, rfl⟩ := Option.map_eq_some_iff.mp spawned
        exact orderly.sound.revoked task worker found (Or.inr taken)
      have stamps : (server.crew.abort task).stamp = server.crew.stamp := by
        funext peer
        exact Crew.Sound.stamp_modify fun _ => rfl
      exact orderly.abort stale rfl rfl rfl id (phase.kept rfl rfl rfl rfl stamps id fun _ => id)

end

end Bsrs.Qs
