import Bsrs.Qs.Agreement
import Bsrs.Qs.EditFacts

namespace Bsrs.Qs

open Bsrs.Core (Json)
open Bsrs.Library (exec exec_append exec_invariant_throughout Throughout)

/-- No handler and no start attempt is under way. -/
def Rep.between : Rep → Bool
  | .turn | .poll | .receive => true
  | _ => false

/-- A start attempt is under way, or `env_destroy` has yet to write the state. -/
def Rep.attempts : Rep → Bool
  | .handle (.autostart _) | .handle (.startEngine _) | .handle (.startState _)
  | .handle (.startClaim _) | .handle (.destroyAbort _) | .handle .destroyDestroying => true
  | _ => false

/-- An edit in hand is followed by an autostart exactly where it can make the queue runnable. -/
def Rep.Paired : Rep → Prop
  | .handle (.edit edit autostarts) => autostarts = edit.adds
  | _ => True

/-- On the way out of `rep_loop`, past `manager_stop`'s revocation. -/
def Rep.stops : Rep → Bool
  | .handle (.stopAbort _) | .handle .stopRequest | .closing | .closingAbort _ | .gone => true
  | _ => false

/-- What `rep_loop` does of its own accord from there: a receive timeout, then a whole turn with a
start attempt in it. -/
def Rep.ahead (outside : Outside) : Rep → List Label
  | .receive => .timeout :: List.replicate 8 (.rep outside)
  | .turn => List.replicate 8 (.rep outside)
  | _ => List.replicate 7 (.rep outside)

namespace Server

/-- Autostart is enabled and everything a start needs is there. -/
def Armed (server : Server) : Prop :=
  server.manager.queueAutostartEnabled = true ∧ server.queue.items ≠ [] ∧
    server.engine = true ∧ server.manager.state = .idle ∧ server.crew.slot.entry = none

instance (server : Server) : Decidable server.Armed :=
  inferInstanceAs (Decidable (_ ∧ _ ∧ _ ∧ _ ∧ _))

/-- The server was told to stop. -/
def stopping (server : Server) : Bool :=
  server.stopRequested || server.down || server.rep.stops

/-- `environment_destroy` revokes a claim only from a worker that stands still, and a worker that
lost its claim is not polled again before the abort is called. -/
def quiet (server : Server) : Label → Bool
  | .rep _ =>
      match server.rep with
      | .handle .destroyTake => server.currentIs WorkerCode.still
      | _ => true
  | .wake task => server.holdsClaim task fun _ => true
  | .work task => server.holdsClaim task WorkerCode.isUnpolled
  | _ => true

end Server

/-- What keeps an armed queue from sitting still. -/
structure Attended (server : Server) : Prop where
  paired : server.rep.Paired
  armed : server.Armed → server.crew.slot.workerFinished = true ∨ server.rep.attempts = true

section

variable {config : Config} {server next : Server} {task : TaskId} {worker : Worker WorkerCode}

namespace Attended

/-- A step after which the queue is no more runnable than before. -/
theorem frame (attended : Attended server)
    (paired : next.rep.Paired)
    (armed : next.Armed → server.Armed)
    (notice : next.crew.slot.workerFinished = server.crew.slot.workerFinished)
    (attempts : server.rep.attempts = true → next.rep.attempts = true) : Attended next where
  paired := paired
  armed runnable := by
    rw [notice]
    exact (attended.armed (armed runnable)).imp_right attempts

/-- A step after which something a start needs is missing. -/
theorem unarmed
    (paired : next.rep.Paired)
    (missing : ¬next.Armed) : Attended next where
  paired := paired
  armed runnable := absurd runnable missing

/-- A step into a start attempt. -/
theorem attempting
    (paired : next.rep.Paired)
    (attempts : next.rep.attempts = true) : Attended next where
  paired := paired
  armed _ := Or.inr attempts

end Attended

theorem After.rep_paired (after : After) : after.rep.Paired := by
  cases after <;> trivial

theorem Purpose.refused_paired (purpose : Purpose) (msg : String) : (purpose.refused msg).Paired := by
  cases purpose with
  | start | execute => trivial
  | autostart after => exact after.rep_paired

theorem Purpose.started_paired (purpose : Purpose) : purpose.started.Paired := by
  cases purpose with
  | start | execute => trivial
  | autostart after => exact after.rep_paired

/-- A registration neither makes nor ends a claim. -/
theorem QueueTaskSlot.register_fst (slot : QueueTaskSlot) (generation : Nat) (handle : TaskId) :
    ((slot.register generation handle).1.entry = none ↔ slot.entry = none) ∧
      (slot.register generation handle).1.workerFinished = slot.workerFinished := by
  by_cases live : slot.current = some generation
  · obtain ⟨entry, held, _⟩ := QueueTaskSlot.current_eq_some.mp live
    simp [register_of_current live, held]
  · simp [register_of_stale live]

/-- A stretch of a request handler. -/
theorem Attended.advance {outside : Outside} {handler : Handler} (orderly : Orderly server)
    (attended : Attended server) (place : server.rep = .handle handler)
    (continues : Server.stopping { (server.advance config outside handler).1 with
      rep := (server.advance config outside handler).2 } = false) :
    Attended { (server.advance config outside handler).1 with
      rep := (server.advance config outside handler).2 } := by
  have phase := orderly.phase
  rw [Server.Phase, place] at phase
  have waiting : Rep.attempts (.handle handler) = false → server.Armed →
      server.crew.slot.workerFinished = true := by
    intro calm runnable
    rcases attended.armed runnable with notice | attempt
    · exact notice
    · rw [place, calm] at attempt
      cases attempt
  cases handler with
  | edit edit autostarts =>
      have same : autostarts = edit.adds := by
        have paired := attended.paired
        rwa [place] at paired
      refine ⟨?_, ?_⟩
      · simp only [Server.advance]
        split <;> trivial
      · simp only [Server.advance]
        split
        · exact fun _ => Or.inr rfl
        · next unattempted =>
            intro runnable
            refine Or.inl (waiting rfl ⟨runnable.1, ?_, runnable.2.2⟩)
            intro empty
            have pending := runnable.2.1
            cases adds : edit.adds with
            | false => exact pending (QueueEdit.run_of_empty adds empty)
            | true =>
                have refused : (edit.run server.queue).2.success = false := by
                  simpa [same, adds] using unattempted
                exact pending ((congrArg PlanQueue.items
                  (QueueEdit.run_of_refused adds refused)).trans empty)
  | autostart after =>
      simp only [Server.advance]
      split
      · next refused =>
          refine .unarmed after.rep_paired ?_
          rintro ⟨enabled, pending, _⟩
          have on : server.manager.queueAutostartEnabled = true := enabled
          have empty : server.queue.items = [] := by simpa [on] using refused
          exact pending empty
      · exact .attempting trivial rfl
  | startEngine purpose =>
      simp only [Server.advance]
      split
      · exact .attempting trivial rfl
      · next closed =>
          exact .unarmed (purpose.refused_paired _)
            fun runnable => closed runnable.2.2.1
  | startState purpose =>
      simp only [Server.advance]
      split
      · exact .attempting trivial rfl
      · next busy =>
          exact .unarmed (purpose.refused_paired _)
            fun runnable => busy runnable.2.2.2.1
  | startClaim purpose =>
      simp only [Server.advance]
      split
      · next crew generation claimed =>
          refine .unarmed trivial fun runnable => ?_
          simp only [Crew.claim, Option.map_eq_some_iff, Prod.exists, Prod.mk.injEq] at claimed
          obtain ⟨slot, stamped, taken, rfl, rfl⟩ := claimed
          obtain ⟨_, _, rfl⟩ := QueueTaskSlot.claim_eq_some.mp taken
          cases runnable.2.2.2.2
      · next refused =>
          refine .unarmed (purpose.refused_paired _)
            fun runnable => ?_
          have empty : server.crew.slot.entry = none := runnable.2.2.2.2
          simp [Crew.claim, QueueTaskSlot.claim, empty] at refused
  | startSpawn purpose generation => exact attended.frame trivial id rfl (by simp [place, Rep.attempts])
  | startRegister purpose task generation =>
      obtain ⟨entry, notice⟩ := server.crew.slot.register_fst generation task
      refine attended.frame purpose.started_paired
        ?_ notice (by simp [place, Rep.attempts])
      exact fun runnable =>
        ⟨runnable.1, runnable.2.1, runnable.2.2.1, runnable.2.2.2.1, entry.mp runnable.2.2.2.2⟩
  | openSlot | closeEngine | closeActive | destroySlot | taskAccess =>
      refine attended.frame ?_ id rfl (by simp [place, Rep.attempts])
      simp only [Server.advance]
      repeat' split
      all_goals trivial
  | openHook =>
      refine attended.frame ?_ id rfl (by simp [place, Rep.attempts])
      simp only [Server.advance]
      split <;> trivial
  | taskStatus uid full =>
      refine attended.frame ?_ id rfl (by simp [place, Rep.attempts])
      cases full <;> trivial
  | openCreating | openFailed | closeClosing | closeClosed | destroyDestroying | destroyClosed =>
      exact .unarmed trivial fun runnable => absurd runnable.2.2.2.1 (by rintro ⟨⟩)
  | closeDrop | destroyDrop => exact .unarmed trivial fun runnable => absurd runnable.2.2.1 (by rintro ⟨⟩)
  | openInstall =>
      refine .unarmed trivial fun runnable => ?_
      have idle : server.manager.state = .idle := runnable.2.2.2.1
      rw [phase.2] at idle
      cases idle
  | openIdle | destroyTake | destroyAbort => exact .attempting trivial rfl
  | stopTake | stopAbort | stopRequest => simp [Server.advance, Server.stopping, Rep.stops] at continues
  | setAutostart enable =>
      cases enable with
      | true => exact .attempting trivial rfl
      | false => exact .unarmed trivial fun runnable => absurd runnable.1 (by rintro ⟨⟩)
  | metadata metadata =>
      simp only [Server.advance]
      split
      · cases metadata <;> exact attended.frame trivial id rfl (by simp [place, Rep.attempts])
      · exact attended.frame trivial id rfl (by simp [place, Rep.attempts])
  | resolve uid pos => exact attended.frame rfl id rfl (by simp [place, Rep.attempts])
  | pauseCall | control | lockApply | lockRelease | reload =>
      simp only [Server.advance]
      repeat' split
      all_goals exact attended.frame trivial id rfl (by simp [place, Rep.attempts])
  | clearPause | reply | executeReply | setStop | setMode | pausePending | evaluate
  | evaluateSpawn | taskOutcome | taskStdout =>
      exact attended.frame trivial id rfl (by simp [place, Rep.attempts])

/-- A stretch of the rep thread. -/
theorem Attended.served {outside : Outside} (orderly : Orderly server) (attended : Attended server)
    (served : server.serve config outside = some next) (continues : next.stopping = false) :
    Attended next := by
  have unaware : server.rep.attempts = false → server.crew.slot.workerFinished = false →
      ¬server.Armed := by
    intro calm unnoticed runnable
    rcases attended.armed runnable with notice | attempt
    · exact absurd (unnoticed.symm.trans notice) nofun
    · exact absurd (calm.symm.trans attempt) nofun
  cases place : server.rep with
  | handle handler =>
      simp only [Server.serve, place, Option.some.injEq] at served
      cases served
      exact attended.advance orderly place continues
  | turn =>
      simp only [Server.serve, place, Option.some.injEq] at served
      cases served
      refine attended.frame ?_ id rfl (by simp [place, Rep.attempts])
      simp only
      split <;> trivial
  | poll =>
      simp only [Server.serve, place, Option.some.injEq] at served
      cases served
      split
      · exact .attempting trivial rfl
      · next unnoticed =>
          have notice : server.crew.slot.workerFinished = false :=
            Bool.eq_false_iff.mpr unnoticed
          refine .unarmed trivial fun runnable => ?_
          exact unaware (by simp [place, Rep.attempts]) notice runnable
  | receive => simp [Server.serve, place] at served
  | answer reply =>
      simp only [Server.serve, place, Option.some.injEq] at served
      cases served
      refine attended.frame ?_ ?_ ?_ (by simp [place, Rep.attempts])
      · split <;> trivial
      · split <;> exact id
      · split <;> rfl
  | closing | closingAbort =>
      simp only [Server.serve, place, Option.some.injEq] at served
      cases served
      simp [Server.stopping, Rep.stops] at continues
  | gone => simp [Server.serve, place] at served

/-- Only its return takes a worker's claim away. -/
theorem Server.work_slot {code : WorkerCode} (stays : code ≠ .leave) :
    (server.work config task code).crew.slot = server.crew.slot := by
  cases code with
  | leave => exact absurd rfl stays
  | unpolled single => cases single <;> rfl
  | pop =>
      simp only [Server.work]
      split <;> rfl
  | _ => rfl

/-- The end of a worker: the claim it gives up leaves a notice, and no other claim is touched. -/
theorem Attended.exited (attended : Attended server)
    (found : server.crew.workers[task]? = some worker)
    (crew : next.crew = server.crew.exit task) (rep : next.rep = server.rep)
    (manager : next.manager = server.manager) (queue : next.queue = server.queue)
    (engine : next.engine = server.engine) : Attended next := by
  have slot : next.crew.slot = server.crew.slot.finish worker.generation := by
    rw [crew, Crew.exit, found]
  by_cases live : server.crew.slot.current = some worker.generation
  · refine ⟨rep ▸ attended.paired, fun _ => Or.inl ?_⟩
    rw [slot, QueueTaskSlot.finish_of_current live]
  · rw [QueueTaskSlot.finish_of_stale live] at slot
    refine attended.frame (rep ▸ attended.paired) ?_ (by rw [slot]) (by rw [rep]; exact id)
    simp only [Server.Armed, manager, queue, engine, slot, imp_self]

/-- Every step of a server that goes on leaves the queue attended. -/
theorem Attended.step {label : Label} (orderly : Orderly server) (attended : Attended server)
    (stepped : server.step config label = some next) (undisturbed : server.undisturbed label = true)
    (continues : next.stopping = false) : Attended next := by
  cases Server.moved stepped with
  | request waits request =>
      refine attended.frame ?_ id rfl (by simp [waits, Rep.attempts])
      have entry := dispatch_isEntry config server request
      revert entry
      generalize dispatch config server request = handler
      intro entry
      cases handler with
      | edit edit autostarts => exact beq_iff_eq.mp entry
      | _ => trivial
  | timeout waits => exact attended.frame trivial id rfl (by simp [waits, Rep.attempts])
  | rep outside served => exact attended.served orderly served continues
  | work task found outside polled =>
      obtain ⟨present, unfinished⟩ := Server.live?_eq_some.mp found
      next worker =>
      by_cases stays : worker.code = .leave
      · rw [stays]
        exact attended.exited present rfl rfl rfl rfl rfl
      · have current := orderly.claims found outside undisturbed stays
        refine .unarmed ?_ fun runnable => ?_
        · rw [(Server.work_rep ..).1]
          exact attended.paired
        · have empty := runnable.2.2.2.2
          rw [Server.work_slot stays] at empty
          exact Server.current_isSome current empty
  | park | wake | complete | evaluated | reported =>
      exact attended.frame attended.paired id rfl id
  | land task found aborted stands =>
      exact attended.exited (Server.live?_eq_some.mp found).1 rfl rfl rfl rfl rfl
  | shutdown => simp [Server.stopping] at continues
  | shutdownTake down | shutdownAbort task down taken => simp [Server.stopping, down] at continues

/-- No stretch of a handler takes a stop back. -/
theorem Server.advance_stops (config : Config) (outside : Outside) (server : Server)
    (handler : Handler) :
    (server.stopRequested = true → (server.advance config outside handler).1.stopRequested = true) ∧
      (server.advance config outside handler).1.down = server.down := by
  cases handler with
  | stopRequest => exact ⟨fun _ => rfl, rfl⟩
  | startClaim | pauseCall | control | lockApply | lockRelease | reload =>
      simp only [Server.advance]
      repeat' split
      all_goals exact ⟨id, rfl⟩
  | metadata metadata =>
      simp only [Server.advance]
      split
      · cases metadata <;> exact ⟨id, rfl⟩
      · exact ⟨id, rfl⟩
  | _ => exact ⟨id, rfl⟩

/-- Neither does a stretch of the rep thread. -/
theorem Server.serve_stops {outside : Outside} (served : server.serve config outside = some next)
    (stopping : server.stopping = true) : next.stopping = true := by
  simp only [Server.stopping, Bool.or_eq_true] at stopping ⊢
  cases place : server.rep with
  | handle handler =>
      simp only [Server.serve, place, Option.some.injEq] at served
      cases served
      obtain ⟨requested, down⟩ := server.advance_stops config outside handler
      rcases stopping with (before | before) | stops
      · exact Or.inl (Or.inl (requested before))
      · exact Or.inl (Or.inr (down.trans before))
      · rw [place] at stops
        cases handler with
        | stopAbort => exact Or.inr rfl
        | stopRequest => exact Or.inl (Or.inl rfl)
        | _ => cases stops
  | answer reply =>
      simp only [Server.serve, place, Option.some.injEq] at served
      cases served
      split
      · exact Or.inr rfl
      · simpa [place, Rep.stops] using stopping
  | receive | gone => simp [Server.serve, place] at served
  | closing | closingAbort =>
      simp only [Server.serve, place, Option.some.injEq] at served
      cases served
      exact Or.inr rfl
  | turn | poll =>
      simp only [Server.serve, place, Option.some.injEq] at served
      cases served
      simp only [place, Rep.stops, Bool.false_eq_true, or_false] at stopping
      exact Or.inl stopping

/-- A server that was told to stop does not come back. -/
theorem Server.stopping_step {label : Label} (stepped : server.step config label = some next)
    (stopping : server.stopping = true) : next.stopping = true := by
  cases Server.moved stepped with
  | request waits request | timeout waits =>
      simp only [Server.stopping, waits, Rep.stops, Bool.or_false] at stopping
      simp only [Server.stopping, stopping, Bool.true_or]
  | rep outside served => exact Server.serve_stops served stopping
  | work task found outside polled =>
      next worker =>
      have kept : (server.work config task worker.code).stopping = server.stopping := by
        cases worker.code with
        | unpolled single => cases single <;> rfl
        | pop =>
            simp only [Server.work]
            split <;> rfl
        | _ => rfl
      exact kept.trans stopping
  | shutdown => simp [Server.stopping]
  | _ => exact stopping

/-- Where the server goes on, a quiet step is undisturbed. -/
theorem Server.undisturbed_of_quiet {label : Label} (quiet : server.quiet label = true)
    (stepped : server.step config label = some next) (continues : next.stopping = false) :
    server.undisturbed label = true := by
  cases Server.moved stepped with
  | rep outside served =>
      simp only [Server.quiet, Server.undisturbed] at quiet ⊢
      cases place : server.rep with
      | handle handler =>
          rw [place] at quiet
          cases handler with
          | stopTake =>
              simp only [Server.serve, place, Option.some.injEq] at served
              cases served
              simp [Server.advance, Server.stopping, Rep.stops] at continues
          | destroyTake => exact quiet
          | _ => rfl
      | closing =>
          simp only [Server.serve, place, Option.some.injEq] at served
          cases served
          simp [Server.stopping, Rep.stops] at continues
      | _ => rfl
  | shutdownTake down => simp [Server.stopping, down] at continues
  | work | wake => exact quiet
  | _ => rfl

end

/-- The labels bring the server to spawn a queue worker under a new claim. -/
def Server.Starts (config : Config) (server : Server) (labels : List Label) : Prop :=
  ∃ next, exec (Server.step config) server labels = some next ∧
    next.crew.workers =
      server.crew.workers ++ [⟨server.crew.slot.nextGen, .unpolled none, false, false⟩] ∧
    next.crew.slot.current = some server.crew.slot.nextGen

/-- The rep thread on its own, from a turn of its loop on: it takes the notice and starts the
queue. -/
theorem Server.poll_starts (config : Config) (server : Server) (armed : server.Armed)
    (notice : server.crew.slot.workerFinished = true) (outside : Outside)
    (place : server.rep = .poll) :
    server.Starts config (List.replicate 7 (.rep outside)) := by
  obtain ⟨enabled, pending, opened, idle, empty⟩ := armed
  simp [Server.Starts, List.replicate, exec, Server.step, Server.serve, Server.advance, place, notice, enabled,
    pending, opened, idle, empty, QueueTaskSlot.takeWorkerFinished, QueueTaskSlot.claim, Crew.claim,
    Crew.spawn, Crew.register, QueueTaskSlot.register, QueueTaskSlot.current, Purpose.code]
  exact List.modify_id ..

theorem Server.turn_starts (config : Config) (server : Server) (armed : server.Armed)
    (notice : server.crew.slot.workerFinished = true) (up : server.down = false) (outside : Outside)
    (place : server.rep = .turn) :
    server.Starts config (List.replicate 8 (.rep outside)) := by
  have polled := Server.poll_starts config { server with rep := .poll } armed notice outside rfl
  have turned : server.step config (.rep outside) = some { server with rep := .poll } := by
    simp [Server.step, Server.serve, place, up]
  simpa only [Server.Starts, List.replicate_succ, exec, turned, Option.bind_some] using polled

theorem Server.ahead_starts {config : Config} {server : Server} (armed : server.Armed)
    (notice : server.crew.slot.workerFinished = true) (between : server.rep.between = true)
    (serving : server.stopping = false) (outside : Outside) :
    server.Starts config (server.rep.ahead outside) := by
  have up : server.down = false := by
    simp only [Server.stopping, Bool.or_eq_false_iff] at serving
    exact serving.1.2
  cases place : server.rep with
  | poll => exact Server.poll_starts config server armed notice outside place
  | turn => exact Server.turn_starts config server armed notice up outside place
  | receive =>
      have turned :=
        Server.turn_starts config { server with rep := .turn } armed notice up outside rfl
      have timed : server.step config .timeout = some { server with rep := .turn } := by
        simp [Server.step, place]
      simpa only [Server.Starts, Rep.ahead, exec, timed, Option.bind_some] using turned
  | _ => simp [place, Rep.between] at between

/-- The steps a queue is not lost by: see `Server.quiet`. -/
def Quiet (config : Config) (start : Server) (labels : List Label) : Prop :=
  Throughout (Server.step config) (fun server label => server.quiet label = true) start labels

theorem Attended.initial (permissions : Permissions) (seeded : Bool) :
    Attended (Server.initial permissions seeded) where
  paired := trivial
  armed := fun armed => nomatch armed.1

theorem Attended.reached {config : Config} {permissions : Permissions} {seeded : Bool}
    {labels : List Label} {reached : Server}
    (ran : exec (Server.step config) (.initial permissions seeded) labels = some reached)
    (quiet : Quiet config (.initial permissions seeded) labels) :
    reached.stopping = true ∨ Orderly reached ∧ Attended reached := by
  apply exec_invariant_throughout (fun server => server.stopping = true ∨
    Orderly server ∧ Attended server) ?_ ran quiet
  · exact Or.inr ⟨Orderly.initial permissions seeded, Attended.initial permissions seeded⟩
  · intro before label after stepped allowed held
    rcases held with stopping | ⟨orderly, attended⟩
    · exact Or.inl (Server.stopping_step stepped stopping)
    · cases continues : after.stopping with
      | true => exact Or.inl rfl
      | false =>
          have undisturbed := Server.undisturbed_of_quiet allowed stepped continues
          exact Or.inr ⟨orderly.step stepped undisturbed,
            attended.step orderly stepped undisturbed continues⟩

/-- In every quiet run of a server that was not told to stop: when autostart is enabled, the queue
holds an item, the environment is open, the manager idle, no claim live and no handler running, the
notice of a finished worker is still there, and the next turn of `rep_loop` starts a worker. -/
theorem no_lost_autostart {config : Config} {permissions : Permissions} {seeded : Bool}
    {labels : List Label} {reached : Server}
    (ran : exec (Server.step config) (.initial permissions seeded) labels = some reached)
    (quiet : Quiet config (.initial permissions seeded) labels)
    (serving : reached.stopping = false) (between : reached.rep.between = true)
    (armed : reached.Armed) :
    reached.crew.slot.workerFinished = true ∧
      ∀ outside, reached.Starts config (reached.rep.ahead outside) := by
  have notice : reached.crew.slot.workerFinished = true := by
    rcases Attended.reached ran quiet with stopping | ⟨_, attended⟩
    · exact absurd (serving.symm.trans stopping) nofun
    · rcases attended.armed armed with notice | attempt
      · exact notice
      · cases place : reached.rep <;> simp_all [Rep.between, Rep.attempts]
  exact ⟨notice, Server.ahead_starts armed notice between serving⟩

/-- Enable the autostart, open the environment, and add an item, which starts the queue. -/
def addedOne : List Label :=
  asks "queue_autostart" (.object [("enable", .bool true)]) 3 ++ asks "environment_open" .null 7 ++
    asks "queue_item_add" countItem 8

/-- The worker runs the item to success and finds the queue drained. -/
def drained : List Label :=
  [.complete 0 ⟨"success", none, ""⟩] ++ List.replicate 5 (.work 0)

/-- An item is added after the worker found the queue drained and before it idled out: the attempt is
refused, and the notice the worker leaves makes up for it. -/
theorem no_lost_autostart_drained :
    let labels := addedOne ++ List.replicate 4 (.work 0) ++ drained ++
      asks "queue_item_add" countItem 5 ++ [.work 0, .work 0]
    ∃ reached ∈ exec (Server.step .plain) (.initial .permissive false) labels,
      reached.Armed ∧ reached.crew.slot.workerFinished = true := by
  intro labels
  have quiet : Quiet .plain (.initial .permissive false) labels := by
    unfold Quiet
    decide +kernel
  have finishes : ∃ reached ∈ exec (Server.step .plain) (.initial .permissive false) labels,
      reached.stopping = false ∧ reached.rep.between = true ∧ reached.Armed := by
    decide +kernel
  obtain ⟨reached, ran, serving, between, armed⟩ := finishes
  exact ⟨reached, ran, armed, (no_lost_autostart ran quiet serving between armed).1⟩

/-- The environment is destroyed under a worker about to publish its item, and opened again. The
revoked worker goes on, and an item is added while it executes, so that the attempt is refused. When
it idles out the queue is armed, and it gives no notice: a whole turn later nothing has started. -/
theorem autostart_lost :
    ∃ reached ∈ exec (Server.step .plain) (.initial .permissive false)
        (addedOne ++ List.replicate 3 (.work 0) ++ asks "environment_destroy" .null 7 ++
          asks "environment_open" .null 7 ++ [.work 0] ++ drained ++
          asks "queue_item_add" countItem 5 ++ [.work 0, .work 0]),
      reached.stopping = false ∧ reached.rep.between = true ∧ reached.Armed ∧
        reached.crew.slot.workerFinished = false ∧
        ∃ later ∈ exec (Server.step .plain) reached [.rep .willing, .rep .willing, .timeout],
          later.Armed ∧ later.crew.slot.workerFinished = false := by
  decide +kernel

end Bsrs.Qs
