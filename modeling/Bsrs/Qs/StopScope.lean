import Mathlib.Data.List.Induction
import Bsrs.Library.Record
import Bsrs.Qs.Agreement
import Bsrs.Qs.Solo

namespace Bsrs.Qs

open Bsrs.Core (Json)
open Bsrs.Library (exec exec_record record Throughout)

/-- What bears on the stop of a session of the queue; a session goes by its worker's generation. -/
inductive SessionEvent where
  | began (generation : Nat)
  | asked
  | cancelled
  | popped (generation : Nat) (uid : String)
  | stopped (generation : Nat)
  deriving DecidableEq

/-- What an event does to the stop standing in a session. -/
def standingAfter (generation : Nat) (standing : Bool) : SessionEvent → Bool
  | .began other => if other = generation then false else standing
  | .asked => true
  | .cancelled => false
  | .popped _ _ | .stopped _ => standing

/-- Whether a stop was asked for since the session began, and not cancelled. -/
def standing (generation : Nat) (log : List SessionEvent) : Bool :=
  log.foldl (standingAfter generation) false

/-- What an event does to the memory of a stop asked for in a session. -/
def askedAfter (generation : Nat) (asked : Bool) : SessionEvent → Bool
  | .began other => if other = generation then false else asked
  | .asked => true
  | .cancelled | .popped _ _ | .stopped _ => asked

/-- Whether a stop was asked for since the session began. -/
def askedIn (generation : Nat) (log : List SessionEvent) : Bool :=
  log.foldl (askedAfter generation) false

/-- An item is popped only in a session with no stop standing, and a session is stopped only by a
stop asked for in it. -/
def SessionEvent.isScoped (earlier : List SessionEvent) : SessionEvent → Bool
  | .popped generation _ => !standing generation earlier
  | .stopped generation => askedIn generation earlier
  | _ => true

def Scoped (log : List SessionEvent) : Prop :=
  ∀ earlier event later, log = earlier ++ event :: later → event.isScoped earlier = true

/-- What a stretch of a worker does about the stop. -/
def Worker.sessionEvents (worker : Worker WorkerCode) (server : Server) : List SessionEvent :=
  match worker.code with
  | .setStop => [.asked]
  | .clearStop => [.stopped worker.generation]
  | .pop =>
      (server.queue.items.head?.map fun item =>
        SessionEvent.popped worker.generation item.itemUid).toList
  | _ => []

/-- What a step does about the stop. -/
def Server.sessionEvents (server : Server) : Label → List SessionEvent
  | .rep _ =>
      match server.rep with
      | .handle (.setStop pending) => [if pending then .asked else .cancelled]
      | .handle (.startSpawn .start generation) => [.began generation]
      | .handle (.startSpawn (.autostart _) generation) => [.began generation]
      | _ => []
  | .work task => ((server.live? task).map fun worker => worker.sessionEvents server).getD []
  | _ => []

/-- What a run does about the stop. -/
def sessions (config : Config) (start : Server) (labels : List Label) : List SessionEvent :=
  record (Server.step config) Server.sessionEvents start labels

namespace WorkerCode

/-- Executing a single item, outside any session of the queue. -/
def isSingle : WorkerCode → Bool
  | .unpolled (some _) | .publish .single _ | .run .single _ _ | .book .single _ _
  | .archive .single _ _ => true
  | _ => false

def isIdling : WorkerCode → Bool
  | .idleOut _ => true
  | _ => false

/-- Neither between the look at the stop and what comes of it, nor idling out. -/
def tracksStop : WorkerCode → Bool
  | .pop | .clearStop | .idleOut _ => false
  | _ => true

/-- In a session, and sure to look at the stop before the next item. -/
def heedsStop : WorkerCode → Bool
  | .pop | .idleOut _ | .leave => false
  | code => !code.isSingle

end WorkerCode

namespace Server

/-- The worker may be marked aborted: it was polled, or no stop is pending. -/
def settled (server : Server) (task : TaskId) : Bool :=
  (server.live? task).all fun worker =>
    !worker.code.isUnpolled || !server.manager.queueStopPending

/-- No two workers are engaged; a stop is asked for only while a session is sure to look at it; and
no session ends, by idling out or by an abort, while a stop is pending. -/
def scopes (server : Server) (label : Label) : Bool :=
  server.alone label &&
    match label with
    | .rep _ =>
        server.marks.all server.settled &&
          match server.rep with
          | .handle (.setStop true) =>
              server.crew.workers.any fun worker => worker.engaged && worker.code.heedsStop
          | _ => true
    | .shutdownAbort task => server.settled task
    | .work task =>
        (server.live? task).all fun worker =>
          !worker.code.isIdling || !server.manager.queueStopPending
    | .land task =>
        (server.live? task).all fun worker =>
          worker.code.isUnpolled || !server.manager.queueStopPending
    | _ => true

end Server

/-- What an engaged worker knows of the stop where it stands. -/
def Worker.Heeds (worker : Worker WorkerCode) (pending : Bool) (log : List SessionEvent) : Prop :=
  match worker.code with
  | .pop => pending = false ∧ standing worker.generation log = false
  | .clearStop => askedIn worker.generation log = true
  | .idleOut _ => True
  | code => pending = (!code.isSingle && standing worker.generation log)

/-- The flag stands for the session of the engaged worker, and is down without one. -/
structure Heeded (server : Server) (log : List SessionEvent) : Prop where
  flagged : server.manager.queueStopPending = true →
    ∃ (task : TaskId) (worker : Worker WorkerCode), server.crew.workers[task]? = some worker ∧
      worker.engaged = true
  heeds : ∀ (task : TaskId) (worker : Worker WorkerCode), server.crew.workers[task]? = some worker →
    worker.engaged = true → worker.Heeds server.manager.queueStopPending log

section

variable {config : Config} {server next : Server} {task : TaskId} {worker : Worker WorkerCode}
  {log : List SessionEvent} {event : SessionEvent} {generation : Nat}

@[simp]
theorem standing_append : standing generation (log ++ [event]) =
    standingAfter generation (standing generation log) event := by
  simp [standing]

@[simp]
theorem askedIn_append : askedIn generation (log ++ [event]) =
    askedAfter generation (askedIn generation log) event := by
  simp [askedIn]

/-- A stop that stands was asked for. -/
theorem askedIn_of_standing (stands : standing generation log = true) :
    askedIn generation log = true := by
  induction log using List.reverseRecOn with
  | nil => cases stands
  | append_singleton earlier event ih =>
      rw [standing_append] at stands
      rw [askedIn_append]
      cases event with
      | began other =>
          simp only [standingAfter, askedAfter] at stands ⊢
          split at stands
          · cases stands
          · next differs => rw [if_neg differs, ih stands]
      | asked => rfl
      | cancelled => cases stands
      | popped | stopped => exact ih stands

theorem Scoped.nil : Scoped [] := by
  intro earlier event later same
  simp at same

theorem Scoped.append (before : Scoped log) (fits : event.isScoped log = true) :
    Scoped (log ++ [event]) := by
  intro earlier other later same
  cases later using List.reverseRecOn with
  | nil =>
      obtain ⟨rfl, rest⟩ := List.append_inj' same rfl
      cases rest
      exact fits
  | append_singleton later last =>
      rw [← List.cons_append, ← List.append_assoc] at same
      exact before earlier other later (List.append_inj' same rfl).1

theorem Worker.heeds_iff {pending : Bool} (tracks : worker.code.tracksStop = true) :
    worker.Heeds pending log ↔
      pending = (!worker.code.isSingle && standing worker.generation log) := by
  unfold Worker.Heeds
  cases code : worker.code <;> first | rfl | simp [code, WorkerCode.tracksStop] at tracks

namespace Heeded

/-- A step that touches neither workers nor flag and says nothing of a stop. -/
theorem frame (heeded : Heeded server log) (workers : next.crew.workers = server.crew.workers)
    (flag : next.manager.queueStopPending = server.manager.queueStopPending) :
    Heeded next log := by
  refine ⟨?_, ?_⟩
  · simpa only [workers, flag] using heeded.flagged
  · simpa only [workers, flag] using heeded.heeds

/-- Marking a settled worker aborted. -/
theorem marked (heeded : Heeded server log) (settled : server.settled task = true)
    (workers : next.crew.workers =
      server.crew.workers.modify task fun worker => { worker with aborted := true })
    (flag : next.manager.queueStopPending = server.manager.queueStopPending) :
    Heeded next log := by
  cases found : server.crew.workers[task]? with
  | none =>
      rw [List.modify_eq_self (List.getElem?_eq_none_iff.mp found)] at workers
      exact heeded.frame workers flag
  | some worker =>
      refine ⟨?_, ?_⟩
      · rw [flag]
        intro pending
        obtain ⟨peer, fellow, held, busy⟩ := heeded.flagged pending
        by_cases mine : peer = task
        · subst mine
          cases found.symm.trans held
          refine ⟨peer, _, (Server.found_modified found workers).mpr (Or.inl ⟨rfl, rfl⟩), ?_⟩
          have unfinished : worker.finished = false := by
            simp only [Worker.engaged, Bool.and_eq_true, Bool.not_eq_true'] at busy
            exact busy.1
          have live := Server.live?_eq_some.mpr ⟨found, unfinished⟩
          have polled : worker.code.isUnpolled = false := by
            simpa [Server.settled, live, pending] using settled
          revert busy
          cases code : worker.code <;> simp_all [Worker.engaged, WorkerCode.isUnpolled]
        · exact ⟨peer, fellow, (Server.found_modified found workers).mpr (Or.inr ⟨mine, held⟩), busy⟩
      · rw [flag]
        intro peer fellow seen busy
        rcases (Server.found_modified found workers).mp seen with ⟨rfl, rfl⟩ | ⟨_, held⟩
        · exact heeded.heeds _ worker found (worker.aborted_engaged (fun _ => rfl) busy)
        · exact heeded.heeds peer fellow held busy

/-- A worker is spawned while none is engaged. -/
theorem spawned (heeded : Heeded server log) {purpose : Purpose} {generation : Nat}
    (crew : next.crew = server.crew.spawn generation purpose.code)
    (flag : next.manager.queueStopPending = server.manager.queueStopPending)
    (alone : server.crew.workers.all fun worker => !worker.engaged) :
    Heeded next (log ++ match purpose with
      | .execute _ => []
      | .start | .autostart _ => [.began generation]) := by
  have down : server.manager.queueStopPending = false := by
    rw [Bool.eq_false_iff]
    intro pending
    obtain ⟨task, worker, found, busy⟩ := heeded.flagged pending
    rw [Server.resting alone found] at busy
    cases busy
  refine ⟨?_, ?_⟩
  · rw [flag, down]
    nofun
  · rw [flag, down]
    intro task worker seen busy
    rcases (Server.found_spawned crew).mp seen with held | ⟨_, rfl⟩
    · rw [Server.resting alone held] at busy
      cases busy
    · cases purpose <;> simp [Worker.Heeds, Purpose.code, WorkerCode.isSingle, standingAfter]

/-- The engaged worker moves on. -/
theorem went (solo : server.Solo) {events : List SessionEvent}
    (found : server.live? task = some worker) (busy : worker.engaged = true) {code : WorkerCode}
    (workers : next.crew.workers =
      server.crew.workers.modify task fun worker => { worker with code })
    (stays : code ≠ .leave) (polled : code.isUnpolled = false)
    (heeds : Worker.Heeds { worker with code } next.manager.queueStopPending (log ++ events)) :
    Heeded next (log ++ events) := by
  obtain ⟨present, unfinished⟩ := Server.live?_eq_some.mp found
  have active : Worker.engaged { worker with code } = true := by
    cases code <;> simp_all [Worker.engaged, WorkerCode.isUnpolled]
  refine ⟨fun _ => ⟨task, _, (Server.found_modified present workers).mpr (Or.inl ⟨rfl, rfl⟩), active⟩, ?_⟩
  intro peer fellow seen engaged
  rcases (Server.found_modified present workers).mp seen with ⟨rfl, rfl⟩ | ⟨other, held⟩
  · exact heeds
  · exact absurd (solo _ _ _ _ held present engaged busy) other

/-- The engaged worker moves on to a place where it knows as much, or idles out. -/
theorem kept (heeded : Heeded server log) (solo : server.Solo)
    (found : server.live? task = some worker) (busy : worker.engaged = true) {code : WorkerCode}
    (workers : next.crew.workers =
      server.crew.workers.modify task fun worker => { worker with code })
    (flag : next.manager.queueStopPending = server.manager.queueStopPending)
    (stays : code ≠ .leave) (polled : code.isUnpolled = false)
    (tracked : worker.code.tracksStop = true)
    (tracks : code.isIdling = true ∨
      code.tracksStop = true ∧ code.isSingle = worker.code.isSingle) : Heeded next log := by
  have knows := heeded.heeds task worker (Server.live?_eq_some.mp found).1 busy
  have went : Heeded next (log ++ []) := by
    refine .went solo found busy workers stays polled ?_
    rw [List.append_nil, flag]
    rcases tracks with idles | ⟨tracks, same⟩
    · cases code <;> trivial
    · rw [Worker.heeds_iff tracks, same]
      exact (Worker.heeds_iff tracked).mp knows
  rwa [List.append_nil] at went

/-- A worker stops being engaged, with no stop pending if it was. -/
theorem disengaged (heeded : Heeded server log)
    {update : Worker WorkerCode → Worker WorkerCode}
    (found : server.crew.workers[task]? = some worker)
    (workers : next.crew.workers = server.crew.workers.modify task update)
    (out : (update worker).engaged = false)
    (flag : next.manager.queueStopPending = server.manager.queueStopPending)
    (calm : worker.engaged = true → server.manager.queueStopPending = false) :
    Heeded next log := by
  refine ⟨?_, ?_⟩
  · rw [flag]
    intro pending
    obtain ⟨peer, fellow, held, busy⟩ := heeded.flagged pending
    refine ⟨peer, fellow, (Server.found_modified found workers).mpr (Or.inr ⟨?_, held⟩), busy⟩
    rintro rfl
    cases found.symm.trans held
    exact absurd (pending.symm.trans (calm busy)) nofun
  · rw [flag]
    intro peer fellow seen busy
    rcases (Server.found_modified found workers).mp seen with ⟨rfl, rfl⟩ | ⟨_, held⟩
    · exact absurd (busy.symm.trans out) nofun
    · exact heeded.heeds peer fellow held busy

/-- A request asks for a stop while a session is sure to look at it, or cancels one. -/
theorem asked (heeded : Heeded server log) (solo : server.Solo) {pending : Bool}
    (workers : next.crew.workers = server.crew.workers)
    (flag : next.manager.queueStopPending = pending)
    (heard : pending = true →
      server.crew.workers.any fun worker => worker.engaged && worker.code.heedsStop) :
    Heeded next (log ++ [if pending then .asked else .cancelled]) := by
  refine ⟨?_, ?_⟩
  · rw [flag, workers]
    intro asks
    obtain ⟨worker, member, facts⟩ := List.any_eq_true.mp (heard asks)
    obtain ⟨task, found⟩ := List.mem_iff_getElem?.mp member
    exact ⟨task, worker, found, (Bool.and_eq_true_iff.mp facts).1⟩
  · rw [flag, workers]
    intro task worker found busy
    have before := heeded.heeds task worker found busy
    cases pending with
    | false =>
        unfold Worker.Heeds at before ⊢
        cases code : worker.code <;>
          simp_all [standingAfter, askedAfter]
    | true =>
        obtain ⟨fellow, member, facts⟩ := List.any_eq_true.mp (heard rfl)
        obtain ⟨peer, held⟩ := List.mem_iff_getElem?.mp member
        obtain ⟨active, heeds⟩ := Bool.and_eq_true_iff.mp facts
        have same := solo _ _ _ _ found held busy active
        subst same
        cases found.symm.trans held
        unfold Worker.Heeds
        cases code : worker.code <;>
          simp_all [standingAfter, askedAfter, WorkerCode.heedsStop]

end Heeded

theorem Worker.engaged_leave : Worker.engaged { worker with code := .leave } = false := by
  simp [Worker.engaged]

theorem itemCode_tracks (config : Config) (item : QueuedItem) :
    (itemCode config item).tracksStop = true ∧ (itemCode config item).isSingle = false ∧
      itemCode config item ≠ .leave ∧ (itemCode config item).isUnpolled = false := by
  unfold itemCode
  repeat' split
  all_goals exact ⟨rfl, rfl, nofun, rfl⟩

/-- The stretches of a worker outside its await. -/
theorem Heeded.work (heeded : Heeded server log) (solo : server.Solo)
    (found : server.live? task = some worker)
    (outside : ∀ job item parked, worker.code ≠ .run job item parked)
    (polled : ∀ single, worker.code = .unpolled single → worker.aborted = false)
    (idles : worker.code.isIdling = true → server.manager.queueStopPending = false) :
    Heeded (server.work config task worker.code) (log ++ worker.sessionEvents server) ∧
      ∀ event ∈ worker.sessionEvents server, event.isScoped log = true := by
  obtain ⟨present, unfinished⟩ := Server.live?_eq_some.mp found
  have busy := Server.engaged_of_works found polled
  have heeds : worker.code ≠ .leave → worker.Heeds server.manager.queueStopPending log :=
    fun stays => heeded.heeds task worker present (busy stays)
  unfold Worker.Heeds at heeds
  unfold Worker.sessionEvents
  cases code : worker.code with
  | run job item parked => exact absurd code (outside job item parked)
  | leave =>
      simp only [List.append_nil]
      refine ⟨heeded.disengaged present (Server.exit_workers found rfl) rfl rfl ?_, (by intros; contradiction)⟩
      simp [Worker.engaged, code]
  | idleOut disable =>
      simp only [List.append_nil]
      refine ⟨heeded.disengaged present rfl Worker.engaged_leave rfl fun _ => ?_, (by intros; contradiction)⟩
      exact idles (by rw [code]; rfl)
  | checkStop =>
      have knows : server.manager.queueStopPending = standing worker.generation log := by
        simpa [code, WorkerCode.isSingle] using heeds
      refine ⟨.went solo found (busy (by simp [code])) rfl ?_ ?_ ?_, (by intros; contradiction)⟩
      · split <;> rintro ⟨⟩
      · split <;> rfl
      · rw [List.append_nil]
        split
        · next pending => exact askedIn_of_standing (knows.symm.trans pending)
        · next calm =>
            have down := Bool.eq_false_iff.mpr calm
            exact ⟨down, knows.symm.trans down⟩
  | pop =>
      obtain ⟨down, quiet⟩ := by simpa [code] using heeds
      cases pending : server.queue.items with
      | nil =>
          simp only [Server.work, PlanQueue.popFront, pending, List.head?_nil, Option.map_none,
            Option.toList_none]
          exact ⟨.went solo found (busy (by simp [code])) rfl (by rintro ⟨⟩) rfl trivial, (by intros; contradiction)⟩
      | cons item rest =>
          obtain ⟨tracks, single, stays, unpolled⟩ := itemCode_tracks config item
          simp only [Server.work, PlanQueue.popFront, pending, List.head?_cons, Option.map_some,
            Option.toList_some]
          refine ⟨.went solo found (busy (by simp [code])) rfl stays unpolled ?_, ?_⟩
          · rw [Worker.heeds_iff tracks, single]
            simpa [standingAfter, quiet] using down
          · intro event told
            cases List.mem_singleton.mp told
            simp [SessionEvent.isScoped, quiet]
  | setStop =>
      refine ⟨.went solo found (busy (by simp [code])) rfl (by rintro ⟨⟩) rfl ?_, ?_⟩
      · rw [Worker.heeds_iff rfl]
        simp [Server.work, Server.goto, standingAfter, WorkerCode.isSingle]
      · intro event told
        cases List.mem_singleton.mp told
        rfl
  | clearStop =>
      refine ⟨.went solo found (busy (by simp [code])) rfl (by rintro ⟨⟩) rfl trivial, ?_⟩
      intro event told
      cases List.mem_singleton.mp told
      simpa [code, SessionEvent.isScoped] using heeds
  | unpolled single =>
      simp only [List.append_nil]
      refine ⟨?_, (by intros; contradiction)⟩
      cases single <;> exact heeded.kept solo found (busy (by simp [code])) rfl rfl (by rintro ⟨⟩) rfl
        (by rw [code]; rfl) (Or.inr ⟨rfl, by rw [code]; rfl⟩)
  | archiveStop | countFailed =>
      simp only [List.append_nil]
      refine ⟨?_, (by intros; contradiction)⟩
      exact heeded.kept solo found (busy (by simp [code])) rfl rfl (by rintro ⟨⟩) rfl
        (by rw [code]; rfl) (Or.inr ⟨rfl, by rw [code]; rfl⟩)
  | publish job | book job =>
      simp only [List.append_nil]
      refine ⟨?_, (by intros; contradiction)⟩
      cases job <;> exact heeded.kept solo found (busy (by simp [code])) rfl rfl (by rintro ⟨⟩) rfl
        (by rw [code]; rfl) (Or.inr ⟨rfl, by rw [code]; rfl⟩)
  | archiveFail =>
      simp only [List.append_nil]
      refine ⟨?_, (by intros; contradiction)⟩
      exact heeded.kept solo found (busy (by simp [code])) rfl rfl (by rintro ⟨⟩) rfl
        (by rw [code]; rfl) (Or.inl rfl)
  | archive job item outcome =>
      simp only [List.append_nil]
      refine ⟨?_, (by intros; contradiction)⟩
      cases job with
      | queue =>
          exact heeded.kept solo found (busy (by simp [code])) rfl rfl (by rintro ⟨⟩) rfl
            (by rw [code]; rfl) (Or.inr ⟨rfl, by rw [code]; rfl⟩)
      | single =>
          exact heeded.kept solo found (busy (by simp [code])) rfl rfl (by rintro ⟨⟩) rfl
            (by rw [code]; rfl) (Or.inl rfl)
  | readMode item completed =>
      simp only [List.append_nil]
      refine ⟨heeded.kept solo found (busy (by simp [code])) rfl rfl ?_ ?_ (by rw [code]; rfl) ?_,
        (by intros; contradiction)⟩
      · split
        · rintro ⟨⟩
        · cases completed <;> rintro ⟨⟩
      · split
        · rfl
        · cases completed <;> rfl
      · rw [code]
        split
        · exact Or.inr ⟨rfl, rfl⟩
        · cases completed with
          | true => exact Or.inr ⟨rfl, rfl⟩
          | false => exact Or.inl rfl
  | requeue item completed =>
      simp only [List.append_nil]
      refine ⟨?_, (by intros; contradiction)⟩
      cases completed with
      | true =>
          exact heeded.kept solo found (busy (by simp [code])) rfl rfl (by rintro ⟨⟩) rfl
            (by rw [code]; rfl) (Or.inr ⟨rfl, by rw [code]; rfl⟩)
      | false =>
          exact heeded.kept solo found (busy (by simp [code])) rfl rfl (by rintro ⟨⟩) rfl
            (by rw [code]; rfl) (Or.inl rfl)

/-- Of the rep thread's stretches only `queue_stop` and `queue_stop_cancel` write the flag. -/
theorem Server.serve_flag {outside : Outside} (served : server.serve config outside = some next)
    (other : ∀ pending, server.rep ≠ .handle (.setStop pending)) :
    next.manager.queueStopPending = server.manager.queueStopPending := by
  cases place : server.rep with
  | handle handler =>
      simp only [Server.serve, place, Option.some.injEq] at served
      cases served
      cases handler with
      | setStop pending => exact absurd place (other pending)
      | startClaim | pauseCall | control | lockApply | lockRelease | reload =>
          simp only [Server.advance]
          repeat' split
          all_goals rfl
      | metadata metadata =>
          simp only [Server.advance]
          split
          · cases metadata <;> rfl
          · rfl
      | _ => rfl
  | receive | gone => simp [Server.serve, place] at served
  | answer reply =>
      simp only [Server.serve, place, Option.some.injEq] at served
      cases served
      split <;> rfl
  | turn | poll | closing | closingAbort =>
      simp only [Server.serve, place, Option.some.injEq] at served
      cases served
      rfl

/-- The other stretches of the rep thread say nothing of a stop. -/
theorem Server.sessionEvents_rep {outside : Outside}
    (stop : ∀ pending, server.rep ≠ .handle (.setStop pending))
    (spawn : ∀ purpose generation, server.rep ≠ .handle (.startSpawn purpose generation)) :
    server.sessionEvents (.rep outside) = [] := by
  simp only [Server.sessionEvents]
  split
  · next place => exact absurd place (stop _)
  · next place => exact absurd place (spawn _ _)
  · next place => exact absurd place (spawn _ _)
  · rfl

/-- A stretch of the rep thread. -/
theorem Heeded.served {outside : Outside} (heeded : Heeded server log) (solo : server.Solo)
    (scopes : server.scopes (.rep outside) = true)
    (served : server.serve config outside = some next) :
    Heeded next (log ++ server.sessionEvents (.rep outside)) := by
  simp only [Server.scopes, Bool.and_eq_true, Server.alone] at scopes
  obtain ⟨alone, settled, heard⟩ := scopes
  by_cases stop : ∃ pending, server.rep = .handle (.setStop pending)
  · obtain ⟨pending, place⟩ := stop
    simp only [Server.serve, place, Option.some.injEq] at served
    cases served
    simp only [Server.sessionEvents, place]
    refine heeded.asked solo rfl rfl ?_
    rintro rfl
    simpa only [place] using heard
  · have flag := Server.serve_flag served fun pending place => stop ⟨pending, place⟩
    cases Server.serve_staffed served with
    | spawned purpose generation place crew =>
        have grown := heeded.spawned crew flag (by simpa only [place] using alone)
        cases purpose <;> simpa only [Server.sessionEvents, place] using grown
    | same workers =>
        by_cases spawn : ∃ purpose generation, server.rep = .handle (.startSpawn purpose generation)
        · obtain ⟨purpose, generation, place⟩ := spawn
          simp only [Server.serve, place, Option.some.injEq] at served
          cases served
          exact absurd (congrArg List.length workers) (by simp [Server.advance, Crew.spawn])
        · rw [Server.sessionEvents_rep (fun pending place => stop ⟨pending, place⟩)
            fun purpose generation place => spawn ⟨purpose, generation, place⟩, List.append_nil]
          exact heeded.frame workers flag
    | marked task named workers =>
        have elsewhere : ∀ purpose generation,
            server.rep ≠ .handle (.startSpawn purpose generation) := by
          intro purpose generation place
          simp [Server.marks, place] at named
        rw [Server.sessionEvents_rep (fun pending place => stop ⟨pending, place⟩) elsewhere,
          List.append_nil]
        exact heeded.marked (by simpa only [named, Option.all_some] using settled) workers flag

/-- Whatever happens, the flag is kept to its session. -/
theorem Heeded.step {label : Label} (heeded : Heeded server log) (solo : server.Solo)
    (scopes : server.scopes label = true) (stepped : server.step config label = some next) :
    Heeded next (log ++ server.sessionEvents label) ∧
      ∀ event ∈ server.sessionEvents label, event.isScoped log = true := by
  cases Server.moved stepped with
  | request | timeout | evaluated | reported | shutdown | shutdownTake =>
      simp only [Server.sessionEvents, List.append_nil]
      exact ⟨heeded.frame rfl rfl, (by intros; contradiction)⟩
  | rep outside served =>
      refine ⟨heeded.served solo scopes served, fun event told => ?_⟩
      simp only [Server.sessionEvents] at told
      split at told
      · next pending _ => cases pending <;> cases List.mem_singleton.mp told <;> rfl
      · cases List.mem_singleton.mp told
        rfl
      · cases List.mem_singleton.mp told
        rfl
      · cases told
  | work task found outside polled =>
      simp only [Server.sessionEvents, found, Option.map_some, Option.getD_some]
      apply heeded.work solo found outside polled
      intro idling
      simpa [Server.scopes, Server.alone, found, idling] using scopes
  | park task found awaits | wake task found awaits | complete task outcome found awaits =>
      simp only [Server.sessionEvents, List.append_nil]
      have busy := Server.engaged_of_works found (by simp [awaits]) (by simp [awaits])
      refine ⟨heeded.kept solo found busy rfl rfl (by rintro ⟨⟩) rfl (by rw [awaits]; rfl) (Or.inr ⟨rfl, ?_⟩),
        (by intros; contradiction)⟩
      rw [awaits]
      cases ‹Job› <;> rfl
  | land task found aborted stands =>
      simp only [Server.sessionEvents, List.append_nil]
      refine ⟨heeded.disengaged (Server.live?_eq_some.mp found).1 (Server.exit_workers found rfl) rfl
        rfl ?_, (by intros; contradiction)⟩
      intro busy
      rcases stands with ⟨job, item, awaits⟩ | ⟨single, awaits⟩
      · simpa [Server.scopes, Server.alone, found, awaits, WorkerCode.isUnpolled] using scopes
      · simp [Worker.engaged, awaits, aborted] at busy
  | shutdownAbort task down taken =>
      simp only [Server.sessionEvents, List.append_nil]
      refine ⟨heeded.marked ?_ rfl rfl, (by intros; contradiction)⟩
      simpa [Server.scopes, Server.alone] using scopes

end

/-- The steps that keep a stop to its session: see `Server.scopes`. -/
def Scoping (config : Config) (start : Server) (labels : List Label) : Prop :=
  Throughout (Server.step config) (fun server label => server.scopes label = true) start labels

/-- A step says at most one thing of a stop. -/
theorem Server.sessionEvents_length (server : Server) (label : Label) :
    (server.sessionEvents label).length ≤ 1 := by
  cases label with
  | rep outside =>
      simp only [Server.sessionEvents]
      split <;> simp
  | work task =>
      simp only [Server.sessionEvents]
      cases server.live? task with
      | none => exact Nat.zero_le _
      | some worker =>
          simp only [Option.map_some, Option.getD_some, Worker.sessionEvents]
          split <;> first | exact Nat.le_refl _ | exact Nat.zero_le _ | skip
          cases server.queue.items <;> simp
  | _ => exact Nat.zero_le _

theorem Scoped.append_all {log events : List SessionEvent} (before : Scoped log)
    (few : events.length ≤ 1) (fits : ∀ event ∈ events, event.isScoped log = true) :
    Scoped (log ++ events) := by
  match events with
  | [] => simpa using before
  | [event] => exact before.append (fits event (List.mem_singleton_self _))

/-- One worker is engaged at a time, the flag is kept to its session, and so was every stop so
far. -/
structure InScope (server : Server) (log : List SessionEvent) : Prop where
  solo : server.Solo
  heeded : Heeded server log
  confined : Scoped log

theorem InScope.step {config : Config} {server next : Server} {label : Label}
    {log : List SessionEvent} (within : InScope server log) (scopes : server.scopes label = true)
    (stepped : server.step config label = some next) :
    InScope next (log ++ server.sessionEvents label) := by
  have alone : server.alone label = true := by
    simp only [Server.scopes, Bool.and_eq_true] at scopes
    exact scopes.1
  obtain ⟨heeded, fits⟩ := within.heeded.step within.solo scopes stepped
  exact ⟨within.solo.step alone stepped, heeded,
    within.confined.append_all (server.sessionEvents_length label) fits⟩

theorem InScope.initial (permissions : Permissions) (seeded : Bool) :
    InScope (.initial permissions seeded) [] where
  solo := by simp [Server.Solo, Server.initial, Crew.new]
  heeded := ⟨nofun, by simp [Server.initial, Crew.new]⟩
  confined := .nil

/-- In every run that keeps stops to their sessions, no item is popped in a session a stop stands
in, and no session is stopped but by a stop asked for in it. -/
theorem stop_scoped {config : Config} {permissions : Permissions} {seeded : Bool}
    {labels : List Label} {reached : Server}
    (ran : exec (Server.step config) (.initial permissions seeded) labels = some reached)
    (scoping : Scoping config (.initial permissions seeded) labels) :
    Scoped (sessions config (.initial permissions seeded) labels) := by
  have preserved : ∀ before label after past, before.step config label = some after →
      before.scopes label = true → InScope before past →
      InScope after (past ++ before.sessionEvents label) :=
    fun _ _ _ _ stepped scopes within => within.step scopes stepped
  exact (exec_record InScope preserved ran scoping (.initial permissions seeded)).confined

/-- Two items are queued; the stop asked for while the first one runs leaves the second one to the
next session. -/
theorem stop_scoped_asked :
    let labels := asks "environment_open" .null 7 ++ asks "queue_item_add" countItem 3 ++
      asks "queue_item_add" countItem 3 ++ asks "queue_start" .null 6 ++
      List.replicate 4 (.work 0) ++ asks "queue_stop" .null 2 ++
      [.complete 0 ⟨"success", none, ""⟩] ++ List.replicate 7 (.work 0) ++
      [.rep .willing, .rep .willing, .rep .willing, .timeout] ++ asks "queue_start" .null 6 ++
      List.replicate 3 (.work 1)
    sessions .plain (.initial .permissive false) labels =
        [.began 0, .popped 0 "u", .asked, .stopped 0, .began 1, .popped 1 "uu"] ∧
      Scoped (sessions .plain (.initial .permissive false) labels) := by
  intro labels
  have scoping : Scoping .plain (.initial .permissive false) labels := by
    unfold Scoping
    decide +kernel
  have finishes : ∃ reached ∈ exec (Server.step .plain) (.initial .permissive false) labels,
      sessions .plain (.initial .permissive false) labels =
        [.began 0, .popped 0 "u", .asked, .stopped 0, .began 1, .popped 1 "uu"] := by
    decide +kernel
  obtain ⟨reached, ran, said⟩ := finishes
  exact ⟨said, stop_scoped ran scoping⟩

/-- A stop is asked for while nothing executes, and the next session stops before its first item. -/
theorem stop_leaks :
    let labels := asks "environment_open" .null 7 ++ asks "queue_item_add" countItem 3 ++
      asks "queue_stop" .null 2 ++ asks "queue_start" .null 6 ++ List.replicate 5 (.work 0)
    (∃ reached ∈ exec (Server.step .plain) (.initial .permissive false) labels,
      reached.queue.items.length = 1) ∧
    sessions .plain (.initial .permissive false) labels = [.asked, .began 0, .stopped 0] ∧
      ¬ Scoped (sessions .plain (.initial .permissive false) labels) := by
  intro labels
  have ran : ∃ reached ∈ exec (Server.step .plain) (.initial .permissive false) labels,
      reached.queue.items.length = 1 := by
    decide +kernel
  have said : sessions .plain (.initial .permissive false) labels =
      [.asked, .began 0, .stopped 0] := by
    decide +kernel
  refine ⟨ran, said, fun confined => ?_⟩
  have fits := confined [.asked, .began 0] (.stopped 0) [] said
  revert fits
  decide

end Bsrs.Qs
