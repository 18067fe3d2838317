import Bsrs.Qs.Serve

namespace Bsrs.Qs

/-- A worker that can still take a stretch, short of returning. -/
def Worker.engaged (worker : Worker WorkerCode) : Bool :=
  !worker.finished &&
    match worker.code with
    | .leave => false
    | .unpolled _ => !worker.aborted
    | _ => true

namespace Server

/-- No two workers are engaged. -/
def Solo (server : Server) : Prop :=
  ∀ (task peer : TaskId) (worker fellow : Worker WorkerCode),
    server.crew.workers[task]? = some worker → server.crew.workers[peer]? = some fellow →
    worker.engaged = true → fellow.engaged = true → task = peer

/-- A worker is spawned only while no other is engaged. -/
def alone (server : Server) : Label → Bool
  | .rep _ =>
      match server.rep with
      | .handle (.startSpawn _ _) => server.crew.workers.all fun worker => !worker.engaged
      | _ => true
  | _ => true

/-- The worker the rep thread is about to mark aborted. -/
def marks (server : Server) : Option TaskId :=
  match server.rep with
  | .handle (.destroyAbort task) | .handle (.stopAbort task) | .closingAbort task => task
  | .handle (.startRegister _ task generation) =>
      if server.crew.slot.current = some generation then none else some task
  | _ => none

/-- What a stretch of the rep thread does to the workers. -/
inductive Staffed (server next : Server) : Prop where
  | same (workers : next.crew.workers = server.crew.workers)
  | marked (task : TaskId) (named : server.marks = some task)
      (workers : next.crew.workers =
        server.crew.workers.modify task fun worker => { worker with aborted := true })
  | spawned (purpose : Purpose) (generation : Nat)
      (place : server.rep = .handle (.startSpawn purpose generation))
      (crew : next.crew = server.crew.spawn generation purpose.code)

end Server

section

variable {config : Config} {server next : Server} {task peer : TaskId}
  {worker fellow : Worker WorkerCode}

/-- Aborting a worker engages nobody. -/
theorem Worker.aborted_engaged (worker : Worker WorkerCode) {aborted : Bool}
    (marked : worker.aborted = true → aborted = true)
    (busy : Worker.engaged { worker with aborted } = true) : worker.engaged = true := by
  cases code : worker.code <;> simp_all [Worker.engaged]

/-- The workers after one of them was modified. -/
theorem Server.found_modified {update : Worker WorkerCode → Worker WorkerCode}
    (found : server.crew.workers[task]? = some worker)
    (workers : next.crew.workers = server.crew.workers.modify task update) :
    next.crew.workers[peer]? = some fellow ↔
      (peer = task ∧ fellow = update worker) ∨
        (peer ≠ task ∧ server.crew.workers[peer]? = some fellow) := by
  rw [workers, Crew.Sound.found_modify]
  constructor
  · rintro ⟨before, held, rfl⟩
    by_cases mine : task = peer
    · subst mine
      cases found.symm.trans held
      exact Or.inl ⟨rfl, by rw [if_pos rfl]⟩
    · exact Or.inr ⟨fun same => mine same.symm, by rw [if_neg mine]; exact held⟩
  · rintro (⟨rfl, rfl⟩ | ⟨other, held⟩)
    · exact ⟨worker, found, by rw [if_pos rfl]⟩
    · exact ⟨fellow, held, by rw [if_neg fun same => other same.symm]⟩

/-- The workers after one was spawned. -/
theorem Server.found_spawned {generation : Nat} {code : WorkerCode}
    (crew : next.crew = server.crew.spawn generation code) :
    next.crew.workers[task]? = some worker ↔
      server.crew.workers[task]? = some worker ∨
        task = server.crew.workers.length ∧ worker = ⟨generation, code, false, false⟩ := by
  rw [crew, Crew.spawn]
  simp only
  constructor
  · intro found
    rw [List.getElem?_append] at found
    split at found
    · exact Or.inl found
    · next outside =>
        obtain ⟨inside, rfl⟩ := List.getElem?_eq_some_iff.mp found
        rw [List.length_singleton] at inside
        refine Or.inr ⟨?_, by simp⟩
        exact Nat.le_antisymm (Nat.le_of_sub_eq_zero (Nat.lt_one_iff.mp inside))
          (Nat.le_of_not_lt outside)
  · rintro (found | ⟨rfl, rfl⟩)
    · exact (List.getElem?_append_left (List.getElem?_eq_some_iff.mp found).1).trans found
    · simp

theorem Server.resting (alone : server.crew.workers.all fun worker => !worker.engaged)
    (found : server.crew.workers[task]? = some worker) : worker.engaged = false := by
  simpa using List.all_eq_true.mp alone worker (List.mem_of_getElem? found)

namespace Server.Solo

theorem frame (solo : server.Solo) (workers : next.crew.workers = server.crew.workers) :
    next.Solo := by
  simpa only [Server.Solo, workers] using solo

/-- A step of one worker that engages nobody. -/
theorem modified (solo : server.Solo) {update : Worker WorkerCode → Worker WorkerCode}
    (workers : next.crew.workers = server.crew.workers.modify task update)
    (engages : ∀ worker, server.crew.workers[task]? = some worker →
      (update worker).engaged = true → worker.engaged = true) : next.Solo := by
  cases found : server.crew.workers[task]? with
  | none =>
      rw [List.modify_eq_self (List.getElem?_eq_none_iff.mp found)] at workers
      exact solo.frame workers
  | some worker =>
      intro first second former latter seen known busy active
      rcases (Server.found_modified found workers).mp seen with ⟨rfl, rfl⟩ | ⟨_, held⟩ <;>
        rcases (Server.found_modified found workers).mp known with ⟨rfl, rfl⟩ | ⟨_, also⟩
      · rfl
      · exact solo _ _ _ _ found also (engages worker found busy) active
      · exact solo _ _ _ _ held found busy (engages worker found active)
      · exact solo _ _ _ _ held also busy active

theorem spawned {generation : Nat} {code : WorkerCode}
    (crew : next.crew = server.crew.spawn generation code)
    (alone : server.crew.workers.all fun worker => !worker.engaged) : next.Solo := by
  intro first second former latter seen known busy active
  rcases (Server.found_spawned crew).mp seen with held | ⟨newest, _⟩
  · rw [Server.resting alone held] at busy
    cases busy
  · rcases (Server.found_spawned crew).mp known with also | ⟨again, _⟩
    · rw [Server.resting alone also] at active
      cases active
    · exact newest.trans again.symm

/-- Marking a worker aborted engages nobody. -/
theorem marked (solo : server.Solo) (workers : next.crew.workers =
    server.crew.workers.modify task fun worker => { worker with aborted := true }) : next.Solo :=
  solo.modified workers fun worker _ => worker.aborted_engaged fun _ => rfl

/-- An engaged worker that moves on. -/
theorem moved (solo : server.Solo) (found : server.live? task = some worker)
    (busy : worker.engaged = true) {code : WorkerCode} (workers : next.crew.workers =
      server.crew.workers.modify task fun worker => { worker with code }) : next.Solo := by
  refine solo.modified workers fun other held _ => ?_
  cases (Server.live?_eq_some.mp found).1.symm.trans held
  exact busy

end Server.Solo

/-- A stretch of a request handler. -/
theorem Server.advance_staffed {outside : Outside} {handler : Handler}
    (place : server.rep = .handle handler) :
    server.Staffed { (server.advance config outside handler).1 with
      rep := (server.advance config outside handler).2 } := by
  cases handler with
  | startClaim purpose =>
      simp only [Server.advance]
      split
      · next crew generation claimed =>
          simp only [Crew.claim, Option.map_eq_some_iff, Prod.exists, Prod.mk.injEq] at claimed
          obtain ⟨slot, stamped, _, rfl, rfl⟩ := claimed
          exact .same rfl
      · exact .same rfl
  | startSpawn purpose generation => exact .spawned purpose generation place rfl
  | startRegister purpose task generation =>
      by_cases live : server.crew.slot.current = some generation
      · refine .same ?_
        simp only [Server.advance, Crew.register, QueueTaskSlot.register_of_current live,
          Bool.or_false]
        exact List.modify_id ..
      · refine .marked task (by simp [Server.marks, place, live]) ?_
        simp only [Server.advance, Crew.register, QueueTaskSlot.register_of_stale live, Bool.or_true]
  | destroyAbort task | stopAbort task =>
      cases task with
      | none => exact .same rfl
      | some task => exact .marked task (by simp [Server.marks, place]) rfl
  | pauseCall | control | lockApply | lockRelease | reload =>
      simp only [Server.advance]
      repeat' split
      all_goals exact .same rfl
  | metadata metadata =>
      simp only [Server.advance]
      split
      · cases metadata <;> exact .same rfl
      · exact .same rfl
  | _ => exact .same rfl

theorem Server.serve_staffed {outside : Outside} (served : server.serve config outside = some next) :
    server.Staffed next := by
  cases place : server.rep with
  | handle handler =>
      simp only [Server.serve, place, Option.some.injEq] at served
      cases served
      exact Server.advance_staffed place
  | receive | gone => simp [Server.serve, place] at served
  | answer reply =>
      simp only [Server.serve, place, Option.some.injEq] at served
      cases served
      split <;> exact .same rfl
  | closingAbort task =>
      simp only [Server.serve, place, Option.some.injEq] at served
      cases served
      cases task with
      | none => exact .same rfl
      | some task => exact .marked task (by simp [Server.marks, place]) rfl
  | turn | poll | closing =>
      simp only [Server.serve, place, Option.some.injEq] at served
      cases served
      exact .same rfl

/-- A worker that takes a stretch, short of returning, is engaged. -/
theorem Server.engaged_of_works (found : server.live? task = some worker)
    (polled : ∀ single, worker.code = .unpolled single → worker.aborted = false)
    (stays : worker.code ≠ .leave) : worker.engaged = true := by
  have unfinished := (Server.live?_eq_some.mp found).2
  cases code : worker.code with
  | leave => exact absurd code stays
  | unpolled single => simp [Worker.engaged, unfinished, code, polled single code]
  | _ => simp [Worker.engaged, unfinished, code]

/-- What a stretch of a worker does to the workers: it moves on, or ends. -/
theorem Server.work_workers (config : Config) (server : Server) (task : TaskId)
    {code : WorkerCode} (stays : code ≠ .leave)
    (outside : ∀ job item parked, code ≠ .run job item parked) :
    ∃ after, (server.work config task code).crew.workers =
      server.crew.workers.modify task fun worker => { worker with code := after } := by
  cases code with
  | leave => exact absurd rfl stays
  | unpolled single => cases single <;> exact ⟨_, rfl⟩
  | pop =>
      simp only [Server.work]
      split <;> exact ⟨_, rfl⟩
  | run job item parked => exact absurd rfl (outside job item parked)
  | _ => exact ⟨_, rfl⟩

/-- The workers after one of them ended. -/
theorem Server.exit_workers (found : server.live? task = some worker)
    (crew : next.crew = server.crew.exit task) : next.crew.workers =
      server.crew.workers.modify task fun worker => { worker with finished := true } := by
  rw [crew, Crew.exit, (Server.live?_eq_some.mp found).1]

/-- Where workers are spawned alone, they never overlap. -/
theorem Server.Solo.step {label : Label} (solo : server.Solo) (alone : server.alone label = true)
    (stepped : server.step config label = some next) : next.Solo := by
  cases Server.moved stepped with
  | request | timeout | evaluated | reported | shutdown | shutdownTake => exact solo.frame rfl
  | rep outside served =>
      cases Server.serve_staffed served with
      | same workers => exact solo.frame workers
      | marked task named workers => exact solo.marked workers
      | spawned purpose generation place crew =>
          exact .spawned crew (by simpa only [Server.alone, place] using alone)
  | work task found outside polled =>
      next worker =>
      by_cases stays : worker.code = .leave
      · rw [stays]
        exact solo.modified (Server.exit_workers found rfl) fun _ _ => nofun
      · obtain ⟨after, workers⟩ := server.work_workers config task stays outside
        have busy := Server.engaged_of_works found polled stays
        exact solo.moved found busy workers
  | park task found awaits | wake task found awaits | complete task outcome found awaits =>
      refine solo.moved found (Server.engaged_of_works found ?_ ?_) rfl <;> simp [awaits]
  | land task found aborted stands =>
      exact solo.modified (Server.exit_workers found rfl) fun _ _ => nofun
  | shutdownAbort => exact solo.marked rfl

end

end Bsrs.Qs
