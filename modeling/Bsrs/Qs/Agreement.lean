import Bsrs.Qs.Orderly

namespace Bsrs.Qs

open Bsrs.Core (Json)
open Bsrs.Library (exec exec_invariant_throughout Throughout)

/-- Inside `env_open`, `env_close` or `env_destroy`, between their writes. -/
def Rep.inEnvironment : Rep → Bool
  | .handle .openHook | .handle .openFailed | .handle .openInstall | .handle .openIdle
  | .handle .closeDrop | .handle .closeClosed | .handle .destroyDrop | .handle .destroyClosed => true
  | _ => false

/-- The worker whose step a label is. -/
def Label.worker? : Label → Option TaskId
  | .work task | .park task | .wake task | .complete task _ | .land task => some task
  | _ => none

/-- A run from a server as built, every step of which leaves the workers undisturbed. -/
def Undisturbed (config : Config) (start : Server) (labels : List Label) : Prop :=
  Throughout (Server.step config) (fun server label => server.undisturbed label = true) start labels

theorem Orderly.initial (permissions : Permissions) (seeded : Bool) :
    Orderly (Server.initial permissions seeded) where
  sound := Crew.Sound.new
  still := by simp [Server.initial, Crew.new]
  executing := by cases seeded <;> (intros; contradiction)
  vacant := fun _ => rfl
  phase := by cases seeded <;> simp [Server.initial, Server.Phase, Server.Agrees]

theorem Orderly.reached {config : Config} {permissions : Permissions} {seeded : Bool}
    {labels : List Label} {reached : Server}
    (ran : exec (Server.step config) (.initial permissions seeded) labels = some reached)
    (undisturbed : Undisturbed config (.initial permissions seeded) labels) : Orderly reached :=
  exec_invariant_throughout Orderly (fun _ _ _ stepped allowed orderly => orderly.step stepped allowed)
    ran undisturbed (Orderly.initial permissions seeded)

theorem Orderly.agrees {server : Server} (orderly : Orderly server)
    (outside : server.rep.inEnvironment = false) : server.Agrees := by
  have phase := orderly.phase
  unfold Server.Phase at phase
  split at phase
  case h_1 => exact ⟨fun _ => phase.1, fun _ => phase.2⟩
  all_goals simp_all [Rep.inEnvironment]

/-- A worker whose claim was revoked writes nothing more. -/
theorem Orderly.revoked_writes_nothing {config : Config} {server next : Server} {label : Label}
    {task : TaskId} {generation : Nat} (orderly : Orderly server)
    (undisturbed : server.undisturbed label = true)
    (stepped : server.step config label = some next) (worker : label.worker? = some task)
    (spawned : server.crew.stamp task = some generation)
    (revoked : server.crew.slot.current ≠ some generation) : next.manager = server.manager := by
  obtain ⟨member, held, rfl⟩ := Option.map_eq_some_iff.mp spawned
  have stands : ∀ {worker : Worker WorkerCode}, server.live? task = some worker →
      worker.code.still = true ∧ server.crew.slot.current ≠ some worker.generation := by
    intro worker found
    obtain ⟨present, unfinished⟩ := Server.live?_eq_some.mp found
    cases held.symm.trans present
    exact ⟨orderly.still task _ present unfinished revoked, revoked⟩
  cases Server.moved stepped with
  | work other found outside polled =>
      cases worker
      obtain ⟨still, stale⟩ := stands found
      have claimed := (Server.holdsClaim_iff (Server.live?_eq_some.mp found).1).mp undisturbed
      next moving =>
      cases code : moving.code with
      | unpolled single => exact absurd (claimed (by rw [code]; rfl)) stale
      | leave => rfl
      | run job item parked => exact absurd code (outside job item parked)
      | _ =>
          rw [code] at still
          cases still
  | park other found awaits =>
      cases worker
      have still := (stands found).1
      rw [awaits] at still
      cases still
  | wake other found awaits polled =>
      cases worker
      have claimed : server.holdsClaim task (fun _ => true) = true := undisturbed
      have present := (Server.live?_eq_some.mp found).1
      exact absurd ((Server.holdsClaim_iff present).mp claimed rfl) (stands found).2
  | complete other outcome found awaits =>
      cases worker
      have still := (stands found).1
      rw [awaits] at still
      cases still
  | land other found aborted stands => rfl
  | _ => cases worker

/-- In every undisturbed run the manager is `EnvironmentClosed` exactly when the engine slot is
empty, outside the environment handlers; it is `ExecutingQueue` only while a worker with the current
claim is live; and a worker whose claim was revoked changes nothing of the state any more. -/
theorem manager_state_agrees {config : Config} {permissions : Permissions} {seeded : Bool}
    {labels : List Label} {reached : Server}
    (ran : exec (Server.step config) (.initial permissions seeded) labels = some reached)
    (undisturbed : Undisturbed config (.initial permissions seeded) labels) :
    (reached.rep.inEnvironment = false →
      (reached.manager.state = .environmentClosed ↔ reached.engine = false)) ∧
    (reached.manager.state = .executingQueue → ¬reached.Revoking →
      ∃ (task : TaskId) (worker : Worker WorkerCode), reached.crew.workers[task]? = some worker ∧
        worker.finished = false ∧ reached.crew.slot.current = some worker.generation) ∧
    ∀ label next task generation, reached.undisturbed label = true →
      reached.step config label = some next → label.worker? = some task →
      reached.crew.stamp task = some generation → reached.crew.slot.current ≠ some generation →
      next.manager.state = reached.manager.state ∧
        next.manager.currentItem = reached.manager.currentItem ∧
        next.manager.pausePending = reached.manager.pausePending ∧
        next.manager.queueAutostartEnabled = reached.manager.queueAutostartEnabled := by
  have orderly := Orderly.reached ran undisturbed
  refine ⟨orderly.agrees, ?_, ?_⟩
  · intro executes outside
    obtain ⟨task, worker, found, unfinished, current, _⟩ := orderly.executing executes outside
    exact ⟨task, worker, found, unfinished, current⟩
  · intro label next task generation allowed stepped worker spawned revoked
    rw [orderly.revoked_writes_nothing allowed stepped worker spawned revoked]
    exact ⟨rfl, rfl, rfl, rfl⟩

/-- An `item` of a plan named `count`. -/
def countItem : Json :=
  .object [("item", .object [("name", .string "count")])]

/-- Open the environment, queue one item and start the queue. -/
def startOne : List Label :=
  asks "environment_open" .null 7 ++ asks "queue_item_add" countItem 3 ++
    asks "queue_start" .null 6

/-- The environment is destroyed while a plan is parked at its await, and the abort lands. -/
theorem manager_state_agrees_destroyed :
    let labels := startOne ++ [.work 0, .work 0, .work 0, .work 0, .park 0] ++
      asks "environment_destroy" .null 7 ++ [.land 0]
    ∃ reached ∈ exec (Server.step .plain) (.initial .permissive false) labels,
      reached.rep.inEnvironment = false ∧
      (reached.manager.state = .environmentClosed ↔ reached.engine = false) := by
  intro labels
  have undisturbed : Undisturbed .plain (.initial .permissive false) labels := by
    unfold Undisturbed
    decide +kernel
  have finishes : ∃ reached ∈ exec (Server.step .plain) (.initial .permissive false) labels,
      reached.rep.inEnvironment = false := by
    decide +kernel
  obtain ⟨reached, ran, settled⟩ := finishes
  exact ⟨reached, ran, settled, (manager_state_agrees ran undisturbed).1 settled⟩

/-- The environment is destroyed while the worker is about to publish the item it popped: the
revoked worker then declares a closed environment to be executing. -/
theorem manager_state_disagrees :
    ∃ reached ∈ exec (Server.step .plain) (.initial .permissive false)
        (startOne ++ [.work 0, .work 0, .work 0] ++ asks "environment_destroy" .null 7 ++ [.work 0]),
      ¬(reached.rep.inEnvironment = false →
        (reached.manager.state = .environmentClosed ↔ reached.engine = false)) := by
  decide +kernel

end Bsrs.Qs
