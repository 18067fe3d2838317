import Bsrs.Qs.Ledger
import Bsrs.Qs.Solo

namespace Bsrs.Qs

open Bsrs.Core (Json)
open WorkerCode (held? settling? returning?)

/-- A move names another pending item as its reference; no worker is spawned while another is
engaged; and no abort lands on a worker with an item in hand. -/
def Server.conserves (server : Server) : Label → Bool
  | .rep _ =>
      match server.rep with
      | .handle (.edit edit _) => edit.keeps server.queue
      | .handle (.startSpawn _ _) => server.crew.workers.all fun worker => !worker.engaged
      | _ => true
  | .land task => (server.live? task).all fun worker => worker.code.held?.isNone
  | _ => true

/-- The events of a step account for what it changes. -/
structure Balances (server next : Server) (events : List Event) : Prop where
  pending : ∀ uid, next.queue.uids.count uid + events.count (.removed uid) +
      events.count (.popped uid) =
    server.queue.uids.count uid + events.count (.accepted uid) + events.count (.requeued uid)
  running : ∀ uid, events.count (.archived uid) + next.hands held? uid =
    events.count (.popped uid) + events.count (.executed uid) + server.hands held? uid
  settling : ∀ uid, events.count (.looped uid) + next.hands settling? uid ≤
    events.count (.archived uid) + server.hands settling? uid
  returning : ∀ uid, events.count (.requeued uid) + next.hands returning? uid =
    events.count (.looped uid) + server.hands returning? uid
  history : next.queue.history.map QueuedItem.itemUid =
    events.foldl archiving (server.queue.history.map QueuedItem.itemUid)

/-- The log accounts for where every item is. -/
structure Balanced (server : Server) (log : List Event) : Prop where
  pending : ∀ uid, server.queue.uids.count uid + log.count (.removed uid) + log.count (.popped uid) =
    log.count (.accepted uid) + log.count (.requeued uid)
  running : ∀ uid, log.count (.archived uid) + server.hands held? uid =
    log.count (.popped uid) + log.count (.executed uid)
  settling : ∀ uid, log.count (.looped uid) + server.hands settling? uid ≤ log.count (.archived uid)
  returning : ∀ uid, log.count (.requeued uid) + server.hands returning? uid =
    log.count (.looped uid)
  history : server.queue.history.map QueuedItem.itemUid = archive log

section

variable {config : Config} {server next : Server} {task : TaskId} {worker : Worker WorkerCode}
  {log events : List Event}

theorem Balanced.step (balanced : Balanced server log) (balances : Balances server next events) :
    Balanced next (log ++ events) where
  pending uid := by
    have before := balanced.pending uid
    have change := balances.pending uid
    simp only [List.count_append]
    omega
  running uid := by
    have before := balanced.running uid
    have change := balances.running uid
    simp only [List.count_append]
    omega
  settling uid := by
    have before := balanced.settling uid
    have change := balances.settling uid
    simp only [List.count_append]
    omega
  returning uid := by
    have before := balanced.returning uid
    have change := balances.returning uid
    simp only [List.count_append]
    omega
  history := by
    rw [balances.history, balanced.history, archive, archive, List.foldl_append]

namespace Balances

/-- A step that moves no item. -/
theorem of_unmoved (queue : next.queue = server.queue)
    (hands : ∀ view uid, next.hands view uid = server.hands view uid) :
    Balances server next [] where
  pending uid := by simp [queue]
  running uid := by simp [hands]
  settling uid := by simp [hands]
  returning uid := by simp [hands]
  history := by simp [queue]

theorem of_workers (queue : next.queue = server.queue)
    (workers : next.crew.workers = server.crew.workers) : Balances server next [] :=
  of_unmoved queue fun view uid => by rw [Server.hands, Server.hands, workers]

/-- Marking a worker moves no item. -/
theorem of_marked {update : Worker WorkerCode → Worker WorkerCode}
    (queue : next.queue = server.queue)
    (workers : next.crew.workers = server.crew.workers.modify task update)
    (kept : ∀ worker, (update worker).code = worker.code ∧
      (update worker).finished = worker.finished) : Balances server next [] := by
  refine of_unmoved queue fun view uid => ?_
  cases found : server.crew.workers[task]? with
  | none =>
      rw [Server.hands, workers, List.modify_eq_self (List.getElem?_eq_none_iff.mp found),
        Server.hands]
  | some worker =>
      have counted := Server.hands_modify view uid found workers
      rw [(kept worker).1, (kept worker).2] at counted
      omega

/-- A worker moves on: the events account for what it drops and what it takes. -/
theorem of_worker {code : WorkerCode} (found : server.live? task = some worker)
    (workers : next.crew.workers =
      server.crew.workers.modify task fun worker => { worker with code })
    (pending : ∀ uid, next.queue.uids.count uid + events.count (.removed uid) +
        events.count (.popped uid) =
      server.queue.uids.count uid + events.count (.accepted uid) + events.count (.requeued uid))
    (running : ∀ uid, events.count (.archived uid) + share code.held? uid =
      events.count (.popped uid) + events.count (.executed uid) + share worker.code.held? uid)
    (settling : ∀ uid, events.count (.looped uid) + share code.settling? uid ≤
      events.count (.archived uid) + share worker.code.settling? uid)
    (returning : ∀ uid, events.count (.requeued uid) + share code.returning? uid =
      events.count (.looped uid) + share worker.code.returning? uid)
    (history : next.queue.history.map QueuedItem.itemUid =
      events.foldl archiving (server.queue.history.map QueuedItem.itemUid)) :
    Balances server next events where
  pending := pending
  running uid := by
    have moved := Server.hands_goto held? uid found workers
    have change := running uid
    omega
  settling uid := by
    have moved := Server.hands_goto settling? uid found workers
    have change := settling uid
    omega
  returning uid := by
    have moved := Server.hands_goto returning? uid found workers
    have change := returning uid
    omega
  history := history

/-- A stretch of a worker that leaves the queue alone and keeps in view what it had. -/
theorem of_steered {code : WorkerCode} (found : server.live? task = some worker)
    (queue : next.queue = server.queue)
    (workers : next.crew.workers =
      server.crew.workers.modify task fun worker => { worker with code })
    (held : code.held? = worker.code.held?) (settling : code.settling? = worker.code.settling?)
    (returning : code.returning? = worker.code.returning?) : Balances server next [] := by
  apply of_worker found workers <;> simp [queue, held, settling, returning]

/-- A worker archives the item it holds. -/
theorem of_archived {code : WorkerCode} {item : QueuedItem} {result : Json}
    (found : server.live? task = some worker)
    (queue : next.queue = server.queue.pushHistory (item.withResult result))
    (workers : next.crew.workers =
      server.crew.workers.modify task fun worker => { worker with code })
    (had : worker.code.held? = some item) (held : code.held? = none)
    (settling : code.settling? = none ∨ code.settling? = some item)
    (returned : worker.code.returning? = none) (returning : code.returning? = none) :
    Balances server next [.archived item.itemUid] := by
  apply of_worker found workers
  · simp [queue, PlanQueue.pushHistory, PlanQueue.uids]
  · simp [had, held, share, List.count_singleton]
  · intro uid
    have entered : share code.settling? uid ≤ if item.itemUid = uid then 1 else 0 := by
      rcases settling with none | some <;> simp [share, *]
    simp only [List.count_singleton, beq_iff_eq, Event.archived.injEq, reduceCtorEq, if_false]
    omega
  · simp [returned, returning, share]
  · simp [queue, PlanQueue.pushHistory, archiving, QueuedItem.withResult]

/-- A worker that holds nothing ends, and with it nothing is lost. -/
theorem of_ended (found : server.live? task = some worker) (held : worker.code.held? = none)
    (settling : worker.code.settling? = none) (returning : worker.code.returning? = none)
    (queue : next.queue = server.queue) (crew : next.crew = server.crew.exit task) :
    Balances server next [] := by
  obtain ⟨present, unfinished⟩ := Server.live?_eq_some.mp found
  have workers : next.crew.workers =
      server.crew.workers.modify task fun worker => { worker with finished := true } := by
    rw [crew, Crew.exit, present]
  have kept : ∀ view : WorkerCode → Option QueuedItem, view worker.code = none →
      ∀ uid, next.hands view uid = server.hands view uid := by
    intro view nothing uid
    have counted := Server.hands_modify view uid present workers
    simpa [WorkerCode.views, nothing] using counted
  exact {
    pending := fun uid => by simp [queue]
    running := fun uid => by simp [kept held? held]
    settling := fun uid => by simp [kept settling? settling]
    returning := fun uid => by simp [kept returning? returning]
    history := by simp [queue] }

/-- A worker is spawned, with an item of its own or none. -/
theorem of_spawned {generation : Nat} (single : Option QueuedItem)
    (queue : next.queue = server.queue)
    (crew : next.crew = server.crew.spawn generation (.unpolled single)) :
    Balances server next (single.map fun item => Event.executed item.itemUid).toList := by
  have grown : ∀ view : WorkerCode → Option QueuedItem, ∀ uid,
      next.hands view uid = server.hands view uid + share (view (.unpolled single)) uid := by
    intro view uid
    rw [Server.hands, crew, Crew.spawn, ← share_views]
    simp [Server.hands, List.countP_append, List.countP_cons]
  exact {
    pending := fun uid => by cases single <;> simp [queue]
    running := fun uid => by
      rw [grown]
      cases single <;> simp [share, held?, List.count_singleton, Nat.add_comm]
    settling := fun uid => by
      rw [grown]
      cases single <;> simp [share, settling?]
    returning := fun uid => by
      rw [grown]
      cases single <;> simp [share, returning?]
    history := by cases single <;> simp [queue, archiving] }

/-- A request edits the queue. -/
theorem of_edited {edit : QueueEdit} (keeps : edit.keeps server.queue = true)
    (queue : next.queue = (edit.run server.queue).1)
    (workers : next.crew.workers = server.crew.workers) :
    Balances server next (edit.events server.queue) := by
  have same : ∀ view uid, next.hands view uid = server.hands view uid := by
    intro view uid
    rw [Server.hands, Server.hands, workers]
  exact {
    pending := fun uid => by
      have law := (QueueEdit.run_uids keeps).count_eq uid
      simp only [List.count_append] at law
      have accepted := edit.count_accepted server.queue uid
      have removed := edit.count_removed server.queue uid
      rw [queue, edit.count_runs server.queue (.popped uid) rfl,
        edit.count_runs server.queue (.requeued uid) rfl]
      omega
    running := fun uid => by
      rw [same, edit.count_runs server.queue _ rfl, edit.count_runs server.queue _ rfl,
        edit.count_runs server.queue _ rfl]
    settling := fun uid => by
      refine Nat.le_of_eq ?_
      rw [same, edit.count_runs server.queue _ rfl, edit.count_runs server.queue _ rfl]
    returning := fun uid => by
      rw [same, edit.count_runs server.queue _ rfl, edit.count_runs server.queue _ rfl]
    history := by
      rw [edit.archiving_events, queue, edit.run_history]
      split <;> rfl }

end Balances

theorem itemCode_views (config : Config) (item : QueuedItem) :
    held? (itemCode config item) = some item ∧ settling? (itemCode config item) = none ∧
      returning? (itemCode config item) = none := by
  unfold itemCode
  repeat' split
  all_goals exact ⟨rfl, rfl, rfl⟩

theorem nextTurn_views (completed : Bool) :
    held? (nextTurn completed) = none ∧ settling? (nextTurn completed) = none ∧
      returning? (nextTurn completed) = none := by
  cases completed <;> exact ⟨rfl, rfl, rfl⟩

/-- The stretches of a worker outside its await. -/
theorem Balances.work (found : server.live? task = some worker)
    (outside : ∀ job item parked, worker.code ≠ .run job item parked) :
    Balances server (server.work config task worker.code) (worker.code.events server) := by
  obtain ⟨present, unfinished⟩ := Server.live?_eq_some.mp found
  cases code : worker.code with
  | run job item parked => exact absurd code (outside job item parked)
  | unpolled single =>
      cases single <;> exact .of_steered found rfl rfl (by simp [code, held?])
        (by simp [code, settling?]) (by simp [code, returning?])
  | checkStop =>
      refine .of_steered found rfl rfl ?_ ?_ ?_ <;> rw [code] <;> split <;> rfl
  | clearStop | setStop | countFailed | publish | book | idleOut =>
      exact .of_steered found rfl rfl (by rw [code]; rfl) (by rw [code]; rfl) (by rw [code]; rfl)
  | pop =>
      cases pending : server.queue.items with
      | nil =>
          simp only [Server.work, PlanQueue.popFront, WorkerCode.events, pending, List.head?_nil,
            Option.map_none, Option.toList_none]
          exact .of_steered found rfl rfl (by rw [code]; rfl) (by rw [code]; rfl) (by rw [code]; rfl)
      | cons item rest =>
          obtain ⟨held, settling, returning⟩ := itemCode_views config item
          simp only [Server.work, PlanQueue.popFront, WorkerCode.events, pending, List.head?_cons,
            Option.map_some, Option.toList_some]
          apply Balances.of_worker found rfl
          · intro uid
            simp only [Server.goto_queue, PlanQueue.uids, PlanQueue.setItems_items, pending,
              List.map_cons, List.count_cons, beq_iff_eq, Event.popped.injEq]
            simp
          · simp only [held, code]
            simp [share, WorkerCode.held?, List.count_singleton]
          · simp [code, settling, share]
          · simp only [returning, code]
            simp [share, WorkerCode.returning?]
          · simp [PlanQueue.setItems, archiving]
  | archiveStop item =>
      exact .of_archived found rfl rfl (by rw [code]; rfl) rfl (Or.inl rfl) (by rw [code]; rfl) rfl
  | archiveFail item reason =>
      exact .of_archived found rfl rfl (by rw [code]; rfl) rfl (Or.inl rfl) (by rw [code]; rfl) rfl
  | archive job item outcome =>
      refine .of_archived found rfl rfl (by rw [code]; rfl) ?_ ?_ (by rw [code]; rfl) ?_
      · cases job <;> rfl
      · cases job with
        | queue => exact Or.inr rfl
        | single => exact Or.inl rfl
      · cases job <;> rfl
  | readMode item completed =>
      obtain ⟨held, settling, returning⟩ := nextTurn_views completed
      simp only [Server.work, WorkerCode.events]
      split
      · apply Balances.of_worker found rfl
        · simp
        · simp [code, share, WorkerCode.held?]
        · simp [code, share, WorkerCode.settling?, List.count_singleton]
        · simp [code, share, WorkerCode.returning?, List.count_singleton]
        · simp [archiving]
      · apply Balances.of_worker found rfl
        · simp
        · simp [held, code]
          simp [share, WorkerCode.held?]
        · simp [settling, share]
        · simp [returning, code]
          simp [share, WorkerCode.returning?]
        · simp
  | requeue item completed =>
      obtain ⟨held, settling, returning⟩ := nextTurn_views completed
      simp only [Server.work, WorkerCode.events]
      apply Balances.of_worker found rfl
      · simp [List.count_singleton, PlanQueue.uids_pushBack]
      · simp only [held, code]
        simp [share, WorkerCode.held?]
      · simp only [settling, code]
        simp [share]
      · simp only [returning, code]
        simp [share, WorkerCode.returning?, List.count_singleton]
      · simp [PlanQueue.pushBack, PlanQueue.setItems, archiving]
  | leave =>
      exact .of_ended found (by rw [code]; rfl) (by rw [code]; rfl) (by rw [code]; rfl) rfl rfl

/-- A stretch of a request handler. -/
theorem Balances.advance {outside : Outside} {handler : Handler}
    (keeps : ∀ edit autostarts, handler = .edit edit autostarts → edit.keeps server.queue = true) :
    Balances server { (server.advance config outside handler).1 with
      rep := (server.advance config outside handler).2 } (handler.events server) := by
  cases handler with
  | edit edit autostarts => exact .of_edited (keeps edit autostarts rfl) rfl rfl
  | startClaim purpose =>
      simp only [Server.advance]
      split
      · next crew generation claimed =>
          simp only [Crew.claim, Option.map_eq_some_iff, Prod.exists, Prod.mk.injEq] at claimed
          obtain ⟨slot, stamped, _, rfl, rfl⟩ := claimed
          exact .of_workers rfl rfl
      · exact .of_workers rfl rfl
  | startSpawn purpose generation =>
      cases purpose with
      | execute item => exact .of_spawned (some item) rfl rfl
      | start | autostart => exact .of_spawned none rfl rfl
  | startRegister purpose task generation => exact .of_marked rfl rfl fun _ => ⟨rfl, rfl⟩
  | destroyAbort task | stopAbort task =>
      cases task with
      | none => exact .of_workers rfl rfl
      | some task => exact .of_marked rfl rfl fun _ => ⟨rfl, rfl⟩
  | pauseCall | control | lockApply | lockRelease | reload =>
      simp only [Server.advance]
      repeat' split
      all_goals exact .of_workers rfl rfl
  | metadata metadata =>
      simp only [Server.advance]
      split
      · cases metadata <;> exact .of_workers rfl rfl
      · exact .of_workers rfl rfl
  | _ => exact .of_workers rfl rfl

/-- Every step that conserves is balanced by its events. -/
theorem Balances.step {label : Label} (conserves : server.conserves label = true)
    (stepped : server.step config label = some next) :
    Balances server next (server.events label) := by
  cases Server.moved stepped with
  | request | timeout | evaluated | reported | shutdown => exact .of_workers rfl rfl
  | rep outside served =>
      cases place : server.rep with
      | handle handler =>
          simp only [Server.serve, place, Option.some.injEq] at served
          cases served
          simp only [Server.events, place]
          apply Balances.advance
          rintro edit autostarts rfl
          simpa only [Server.conserves, place] using conserves
      | receive | gone => simp [Server.serve, place] at served
      | answer reply =>
          simp only [Server.serve, place, Option.some.injEq] at served
          cases served
          simp only [Server.events, place]
          split <;> exact .of_workers rfl rfl
      | closingAbort task =>
          simp only [Server.serve, place, Option.some.injEq] at served
          cases served
          simp only [Server.events, place]
          cases task with
          | none => exact .of_workers rfl rfl
          | some task => exact .of_marked rfl rfl fun _ => ⟨rfl, rfl⟩
      | turn | poll | closing =>
          simp only [Server.serve, place, Option.some.injEq] at served
          cases served
          simp only [Server.events, place]
          exact .of_workers rfl rfl
  | work task found outside polled =>
      simp only [Server.events, found, Option.map_some, Option.getD_some]
      exact .work found outside
  | park task found awaits | wake task found awaits | complete task outcome found awaits =>
      exact .of_steered found rfl rfl (by rw [awaits]; rfl) (by rw [awaits]; rfl)
        (by rw [awaits]; rfl)
  | land task found aborted stands =>
      next worker =>
      have empty : worker.code.held? = none := by simpa [Server.conserves, found] using conserves
      rcases stands with ⟨job, item, awaits⟩ | ⟨single, awaits⟩
      · simp [awaits, WorkerCode.held?] at empty
      · exact .of_ended found empty (by rw [awaits]; rfl) (by rw [awaits]; rfl) rfl rfl
  | shutdownTake => exact .of_workers rfl rfl
  | shutdownAbort => exact .of_marked rfl rfl fun _ => ⟨rfl, rfl⟩

end

end Bsrs.Qs
