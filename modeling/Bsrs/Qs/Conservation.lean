import Bsrs.Qs.Agreement
import Bsrs.Qs.Balance
import Bsrs.Qs.Minting

namespace Bsrs.Qs

open Bsrs.Core (Json)
open Bsrs.Library (exec exec_record Throughout)
open WorkerCode (held? settling? returning? shown?)

section

variable {config : Config} {server next : Server} {task : TaskId} {worker : Worker WorkerCode}
  {log events : List Event}

/-- Every item came in under a uid of its own, or is about to. -/
structure Minted (config : Config) (server : Server) (log : List Event) : Prop where
  once : ∀ uid, log.count (.accepted uid) + log.count (.executed uid) +
    server.rep.reserved.count uid ≤ 1
  known : ∀ uid, .accepted uid ∈ log ∨ .executed uid ∈ log ∨ uid ∈ server.rep.reserved →
    ∃ count, count < server.minted ∧ config.uuid count = uid

/-- A step brings in what was reserved for it. -/
structure Reserves (server next : Server) (events : List Event) : Prop where
  uids : ∀ uid, events.count (.accepted uid) + events.count (.executed uid) +
    next.rep.reserved.count uid ≤ server.rep.reserved.count uid
  minted : server.minted ≤ next.minted

theorem Minted.reserves (minted : Minted config server log)
    (reserves : Reserves server next events) : Minted config next (log ++ events) where
  once uid := by
    have before := minted.once uid
    have change := reserves.uids uid
    simp only [List.count_append]
    omega
  known uid present := by
    have earlier : .accepted uid ∈ log ∨ .executed uid ∈ log ∨ uid ∈ server.rep.reserved := by
      simp only [List.mem_append] at present
      have change := reserves.uids uid
      have held : 0 < events.count (.accepted uid) + events.count (.executed uid) +
          next.rep.reserved.count uid → uid ∈ server.rep.reserved := by
        intro some
        exact List.count_pos_iff.mp (by omega)
      rcases present with (before | now) | (before | now) | reserved
      · exact Or.inl before
      · have counted := List.count_pos_iff.mpr now
        exact Or.inr (Or.inr (held (by omega)))
      · exact Or.inr (Or.inl before)
      · have counted := List.count_pos_iff.mpr now
        exact Or.inr (Or.inr (held (by omega)))
      · have counted := List.count_pos_iff.mpr reserved
        exact Or.inr (Or.inr (held (by omega)))
    obtain ⟨count, below, same⟩ := minted.known uid earlier
    exact ⟨count, Nat.lt_of_lt_of_le below reserves.minted, same⟩

namespace Reserves

theorem of_nothing (reserved : next.rep.reserved = []) (minted : server.minted ≤ next.minted) :
    Reserves server next [] where
  uids uid := by simp [reserved]
  minted := minted

theorem of_same (reserved : next.rep.reserved = server.rep.reserved)
    (minted : next.minted = server.minted) : Reserves server next [] where
  uids uid := by simp [reserved]
  minted := Nat.le_of_eq minted.symm

end Reserves

theorem After.rep_reserved (after : After) : after.rep.reserved = [] := by
  cases after <;> rfl

theorem Purpose.refused_reserved (purpose : Purpose) (msg : String) :
    (purpose.refused msg).reserved = [] := by
  cases purpose with
  | start | execute => rfl
  | autostart after => exact after.rep_reserved

theorem Purpose.started_reserved (purpose : Purpose) : purpose.started.reserved = [] := by
  cases purpose with
  | start | execute => rfl
  | autostart after => exact after.rep_reserved

/-- A stretch of a request handler. -/
theorem Reserves.advance {outside : Outside} {handler : Handler}
    (place : server.rep = .handle handler) :
    Reserves server { (server.advance config outside handler).1 with
      rep := (server.advance config outside handler).2 } (handler.events server) := by
  cases handler with
  | edit edit autostarts =>
      refine ⟨fun uid => ?_, Nat.le_refl _⟩
      have nothing : (server.advance config outside (.edit edit autostarts)).2.reserved = [] := by
        simp only [Server.advance]
        split <;> rfl
      have offered : (edit.accepted server.queue).count uid ≤ edit.offered.count uid := by
        rw [QueueEdit.accepted]
        split
        · exact Nat.le_refl _
        · exact Nat.zero_le _
      simp only [nothing, place, List.count_nil]
      simp only [Handler.events, Rep.reserved, Handler.reserved, edit.count_accepted,
        edit.count_runs server.queue (.executed uid) rfl]
      exact offered
  | autostart after =>
      refine .of_nothing ?_ (Nat.le_refl _)
      simp only [Server.advance]
      split
      · exact after.rep_reserved
      · rfl
  | startEngine purpose =>
      simp only [Server.advance]
      split
      · refine .of_same ?_ rfl
        rw [place]
        cases purpose <;> rfl
      · exact .of_nothing (purpose.refused_reserved _) (Nat.le_refl _)
  | startState purpose =>
      simp only [Server.advance]
      split
      · refine .of_same ?_ rfl
        rw [place]
        cases purpose <;> rfl
      · exact .of_nothing (purpose.refused_reserved _) (Nat.le_refl _)
  | startClaim purpose =>
      simp only [Server.advance]
      split
      · refine .of_same ?_ rfl
        rw [place]
        cases purpose <;> rfl
      · exact .of_nothing (purpose.refused_reserved _) (Nat.le_refl _)
  | startSpawn purpose generation =>
      cases purpose with
      | execute item =>
          refine ⟨fun uid => ?_, Nat.le_refl _⟩
          simp [Handler.events, Server.advance, place, Rep.reserved, Handler.reserved,
            List.count_singleton]
      | start | autostart => exact .of_nothing rfl (Nat.le_refl _)
  | startRegister purpose task generation =>
      exact .of_nothing purpose.started_reserved (Nat.le_refl _)
  | evaluate method source item => exact .of_nothing rfl (Nat.le_succ _)
  | resolve uid pos => exact .of_nothing rfl (Nat.le_refl _)
  | metadata metadata =>
      simp only [Server.advance]
      split
      · cases metadata <;> exact .of_nothing rfl (Nat.le_refl _)
      · exact .of_nothing rfl (Nat.le_refl _)
  | openSlot | openHook | closeEngine | closeActive | destroySlot | pauseCall | control | lockApply
  | lockRelease | reload | taskAccess | taskStatus | setAutostart =>
      simp only [Server.advance]
      repeat' split
      all_goals exact .of_nothing rfl (Nat.le_refl _)
  | _ => exact .of_nothing rfl (Nat.le_refl _)

/-- A stretch of a worker brings nothing in. -/
theorem WorkerCode.count_accepted (server : Server) (code : WorkerCode) (uid : String) :
    (code.events server).count (.accepted uid) = 0 ∧ (code.events server).count (.executed uid) = 0 := by
  cases code with
  | pop => cases first : server.queue.items.head? <;> simp [events, first]
  | readMode item completed =>
      simp only [events]
      split <;> simp
  | _ => simp [events]

/-- What a request mints has not come in before. -/
theorem Minted.dispatched (minted : Minted config server log) (waits : server.rep = .receive)
    (request : Request) :
    Minted config { server with
      rep := .handle (dispatch config server request)
      minted := server.minted + mintedBy request.params } log := by
  obtain ⟨distinct, fresh⟩ := dispatch_minted config server request
  have reserved : Rep.reserved (.handle (dispatch config server request)) =
      (dispatch config server request).reserved := rfl
  refine ⟨fun uid => ?_, fun uid present => ?_⟩
  · have before := minted.once uid
    simp only [waits, Rep.reserved, List.count_nil, Nat.add_zero] at before
    rw [reserved]
    by_cases anew : uid ∈ (dispatch config server request).reserved
    · have unknown : log.count (.accepted uid) + log.count (.executed uid) = 0 := by
        by_contra some
        have present : Event.accepted uid ∈ log ∨ Event.executed uid ∈ log := by
          by_contra neither
          rw [not_or, ← List.count_eq_zero, ← List.count_eq_zero] at neither
          omega
        obtain ⟨count, below, same⟩ := minted.known uid (or_assoc.mp (Or.inl present))
        obtain ⟨other, above, _, equal⟩ := fresh uid anew
        have one := config.uuid.injective (same.trans equal.symm)
        omega
      refine Nat.le_of_eq ?_
      rw [unknown, List.count_eq_one_of_mem distinct anew]
    · rw [List.count_eq_zero.mpr anew]
      exact before
  · rcases present with accepted | executed | anew
    · obtain ⟨count, below, same⟩ := minted.known uid (Or.inl accepted)
      exact ⟨count, Nat.lt_of_lt_of_le below (Nat.le_add_right ..), same⟩
    · obtain ⟨count, below, same⟩ := minted.known uid (Or.inr (Or.inl executed))
      exact ⟨count, Nat.lt_of_lt_of_le below (Nat.le_add_right ..), same⟩
    · obtain ⟨count, _, below, same⟩ := fresh uid anew
      exact ⟨count, below, same⟩

theorem Minted.step {label : Label} (minted : Minted config server log)
    (stepped : server.step config label = some next) :
    Minted config next (log ++ server.events label) := by
  cases Server.moved stepped with
  | request waits request =>
      simp only [Server.events, List.append_nil]
      exact minted.dispatched waits request
  | timeout waits => exact minted.reserves (.of_nothing rfl (Nat.le_refl _))
  | rep outside served =>
      cases place : server.rep with
      | handle handler =>
          simp only [Server.serve, place, Option.some.injEq] at served
          cases served
          simp only [Server.events, place]
          exact minted.reserves (.advance place)
      | receive | gone => simp [Server.serve, place] at served
      | answer reply =>
          simp only [Server.serve, place, Option.some.injEq] at served
          cases served
          simp only [Server.events, place]
          split <;> exact minted.reserves (.of_nothing rfl (Nat.le_refl _))
      | turn | poll =>
          simp only [Server.serve, place, Option.some.injEq] at served
          cases served
          simp only [Server.events, place]
          refine minted.reserves (.of_nothing ?_ (Nat.le_refl _))
          simp only
          split <;> rfl
      | closing | closingAbort =>
          simp only [Server.serve, place, Option.some.injEq] at served
          cases served
          simp only [Server.events, place]
          exact minted.reserves (.of_nothing rfl (Nat.le_refl _))
  | work task found outside polled =>
      simp only [Server.events, found, Option.map_some, Option.getD_some]
      next worker =>
      obtain ⟨rep, same⟩ := server.work_rep config task worker.code
      refine minted.reserves ⟨fun uid => ?_, Nat.le_of_eq same.symm⟩
      obtain ⟨accepted, executed⟩ := worker.code.count_accepted server uid
      rw [accepted, executed, rep]
      omega
  | _ => exact minted.reserves (.of_same rfl rfl)

/-- The item a worker, while it is live, shows as the manager's. -/
def Worker.shows (worker : Worker WorkerCode) : Option QueuedItem :=
  if worker.finished then none else worker.code.shown?

theorem Worker.engaged_of_shows (item : worker.shows ≠ none) : worker.engaged = true := by
  cases finished : worker.finished with
  | true => simp [Worker.shows, finished] at item
  | false =>
      cases code : worker.code <;>
        simp_all [Worker.shows, Worker.engaged, WorkerCode.shown?]

/-- `current_item` is what a live worker shows. -/
structure Shown (server : Server) : Prop where
  shown : ∀ (task : TaskId) (worker : Worker WorkerCode), server.crew.workers[task]? = some worker →
    ∀ item ∈ worker.shows, server.manager.currentItem = some item
  hidden : (∀ (task : TaskId) (worker : Worker WorkerCode),
    server.crew.workers[task]? = some worker → worker.shows = none) →
    server.manager.currentItem = none

namespace Shown

/-- A step that leaves workers and `current_item` alone. -/
theorem frame (shown : Shown server) (workers : next.crew.workers = server.crew.workers)
    (item : next.manager.currentItem = server.manager.currentItem) : Shown next := by
  refine ⟨?_, ?_⟩
  · simpa only [workers, item] using shown.shown
  · simpa only [workers, item] using shown.hidden

/-- A step of one worker that keeps what is shown, or shows anew what the worker alone shows. -/
theorem modified (shown : Shown server) (solo : server.Solo)
    {update : Worker WorkerCode → Worker WorkerCode}
    (found : server.crew.workers[task]? = some worker)
    (workers : next.crew.workers = server.crew.workers.modify task update)
    (item : (update worker).shows = worker.shows ∧
        next.manager.currentItem = server.manager.currentItem ∨
      worker.engaged = true ∧ next.manager.currentItem = (update worker).shows) : Shown next := by
  have moved : next.crew.workers[task]? = some (update worker) :=
    (Server.found_modified found workers).mpr (Or.inl ⟨rfl, rfl⟩)
  refine ⟨?_, ?_⟩
  · intro peer fellow seen visible mine
    rcases (Server.found_modified found workers).mp seen with ⟨rfl, rfl⟩ | ⟨other, held⟩
    · rcases item with ⟨same, current⟩ | ⟨_, current⟩
      · exact current.trans (shown.shown _ worker found visible (same ▸ mine))
      · exact current.trans mine
    · rcases item with ⟨_, current⟩ | ⟨busy, _⟩
      · exact current.trans (shown.shown peer fellow held visible mine)
      · have active := Worker.engaged_of_shows (fun none => nomatch none.symm.trans mine)
        exact absurd (solo _ _ _ _ held found active busy) other
  · intro none
    rcases item with ⟨same, current⟩ | ⟨_, current⟩
    · rw [current]
      apply shown.hidden
      intro peer fellow held
      by_cases mine : peer = task
      · subst mine
        cases found.symm.trans held
        exact same.symm.trans (none _ _ moved)
      · exact none peer fellow ((Server.found_modified found workers).mpr (Or.inr ⟨mine, held⟩))
    · exact current.trans (none _ _ moved)

/-- A worker is spawned, and shows nothing yet. -/
theorem spawned (shown : Shown server) {generation : Nat} {purpose : Purpose}
    (crew : next.crew = server.crew.spawn generation purpose.code)
    (item : next.manager.currentItem = server.manager.currentItem) : Shown next := by
  have blank : Worker.shows ⟨generation, purpose.code, false, false⟩ = none := by
    cases purpose <;> rfl
  refine ⟨?_, ?_⟩
  · intro task worker seen visible mine
    rcases (Server.found_spawned crew).mp seen with held | ⟨_, rfl⟩
    · exact item.trans (shown.shown task worker held visible mine)
    · exact nomatch blank.symm.trans mine
  · intro none
    refine item.trans (shown.hidden fun task worker held => none task worker ?_)
    exact (Server.found_spawned crew).mpr (Or.inl held)

/-- A worker is marked aborted. -/
theorem marked (shown : Shown server) (solo : server.Solo) (workers : next.crew.workers =
      server.crew.workers.modify task fun worker => { worker with aborted := true })
    (item : next.manager.currentItem = server.manager.currentItem) : Shown next := by
  cases found : server.crew.workers[task]? with
  | none =>
      rw [List.modify_eq_self (List.getElem?_eq_none_iff.mp found)] at workers
      exact shown.frame workers item
  | some worker => exact shown.modified solo found workers (Or.inl ⟨rfl, item⟩)

end Shown

/-- A worker that goes on, and keeps showing what it showed or shows it anew. -/
theorem Shown.went (shown : Shown server) (solo : server.Solo)
    (found : server.live? task = some worker)
    (busy : worker.engaged = true) {code : WorkerCode}
    (workers : next.crew.workers =
      server.crew.workers.modify task fun worker => { worker with code })
    (item : code.shown? = worker.code.shown? ∧
        next.manager.currentItem = server.manager.currentItem ∨
      next.manager.currentItem = code.shown?) : Shown next := by
  obtain ⟨present, unfinished⟩ := Server.live?_eq_some.mp found
  apply shown.modified solo present workers
  rcases item with ⟨same, current⟩ | current
  · exact Or.inl ⟨by simp [Worker.shows, same], current⟩
  · exact Or.inr ⟨busy, by simp [Worker.shows, unfinished, current]⟩

/-- The end of a worker that shows nothing. -/
theorem Shown.ended (shown : Shown server) (solo : server.Solo)
    (found : server.live? task = some worker) (blank : worker.code.shown? = none)
    (crew : next.crew = server.crew.exit task)
    (item : next.manager.currentItem = server.manager.currentItem) : Shown next := by
  refine shown.modified solo (Server.live?_eq_some.mp found).1 (Server.exit_workers found crew)
    (Or.inl ⟨?_, item⟩)
  simp [Worker.shows, blank]

/-- The stretches of a worker outside its await. -/
theorem Shown.work (shown : Shown server) (solo : server.Solo)
    (found : server.live? task = some worker)
    (outside : ∀ job item parked, worker.code ≠ .run job item parked)
    (polled : ∀ single, worker.code = .unpolled single → worker.aborted = false) :
    Shown (server.work config task worker.code) := by
  have busy := Server.engaged_of_works found polled
  cases code : worker.code with
  | run job item parked => exact absurd code (outside job item parked)
  | leave => exact shown.ended solo found (by rw [code]; rfl) rfl rfl
  | unpolled single =>
      cases single <;>
        exact shown.went solo found (busy (by simp [code])) rfl (Or.inl ⟨by rw [code]; rfl, rfl⟩)
  | checkStop =>
      refine shown.went solo found (busy (by simp [code])) rfl (Or.inl ⟨?_, rfl⟩)
      rw [code]
      split <;> rfl
  | pop =>
      simp only [Server.work]
      split
      · refine shown.went solo found (busy (by simp [code])) rfl (Or.inl ⟨?_, rfl⟩)
        rw [code, itemCode]
        repeat' split
        all_goals rfl
      · exact shown.went solo found (busy (by simp [code])) rfl (Or.inl ⟨by rw [code]; rfl, rfl⟩)
  | publish | book | idleOut =>
      exact shown.went solo found (busy (by simp [code])) rfl (Or.inr rfl)
  | archive job item outcome =>
      refine shown.went solo found (busy (by simp [code])) rfl (Or.inl ⟨?_, rfl⟩)
      rw [code]
      cases job <;> rfl
  | readMode item completed =>
      refine shown.went solo found (busy (by simp [code])) rfl (Or.inl ⟨?_, rfl⟩)
      rw [code]
      cases completed <;> split <;> rfl
  | requeue item completed =>
      refine shown.went solo found (busy (by simp [code])) rfl (Or.inl ⟨?_, rfl⟩)
      rw [code]
      cases completed <;> rfl
  | clearStop | setStop | archiveStop | countFailed | archiveFail =>
      exact shown.went solo found (busy (by simp [code])) rfl (Or.inl ⟨by rw [code]; rfl, rfl⟩)

/-- The rep thread never writes `current_item`. -/
theorem Server.serve_item {outside : Outside} (served : server.serve config outside = some next) :
    next.manager.currentItem = server.manager.currentItem := by
  cases place : server.rep with
  | handle handler =>
      simp only [Server.serve, place, Option.some.injEq] at served
      cases served
      cases handler with
      | startClaim | pauseCall | control | lockApply | lockRelease | reload =>
          simp only [Server.advance]
          repeat' split
          all_goals rfl
      | metadata metadata =>
          simp only [Server.advance]
          split
          · cases metadata <;> rfl
          · rfl
      | _ => rfl
  | receive | gone => simp [Server.serve, place] at served
  | answer reply =>
      simp only [Server.serve, place, Option.some.injEq] at served
      cases served
      split <;> rfl
  | turn | poll | closing | closingAbort =>
      simp only [Server.serve, place, Option.some.injEq] at served
      cases served
      rfl

theorem Shown.step {label : Label} (shown : Shown server) (solo : server.Solo)
    (conserves : server.conserves label = true)
    (stepped : server.step config label = some next) : Shown next := by
  cases Server.moved stepped with
  | request | timeout | evaluated | reported | shutdown | shutdownTake => exact shown.frame rfl rfl
  | rep outside served =>
      have item := Server.serve_item served
      cases Server.serve_staffed served with
      | same workers => exact shown.frame workers item
      | marked task named workers => exact shown.marked solo workers item
      | spawned purpose generation place crew => exact shown.spawned crew item
  | work task found outside polled => exact shown.work solo found outside polled
  | park task found awaits | wake task found awaits | complete task outcome found awaits =>
      have busy := Server.engaged_of_works found (by simp [awaits]) (by simp [awaits])
      exact shown.went solo found busy rfl (Or.inl ⟨by rw [awaits]; rfl, rfl⟩)
  | land task found aborted stands =>
      next worker =>
      have empty : worker.code.held? = none := by simpa [Server.conserves, found] using conserves
      rcases stands with ⟨job, item, awaits⟩ | ⟨single, awaits⟩
      · simp [awaits, WorkerCode.held?] at empty
      · exact shown.ended solo found (by rw [awaits]; rfl) rfl rfl
  | shutdownAbort => exact shown.marked solo rfl rfl

end

theorem Server.alone_of_conserves {server : Server} {label : Label}
    (conserves : server.conserves label = true) : server.alone label = true := by
  cases label with
  | rep outside =>
      simp only [Server.conserves, Server.alone] at conserves ⊢
      split at conserves <;> simp_all
  | _ => rfl

/-- The steps that keep every item: see `Server.conserves`. -/
def Conserving (config : Config) (start : Server) (labels : List Label) : Prop :=
  Throughout (Server.step config) (fun server label => server.conserves label = true) start labels

/-- Where every item is, and how it got there. -/
structure Accounted (config : Config) (server : Server) (log : List Event) : Prop where
  balanced : Balanced server log
  minted : Minted config server log
  solo : server.Solo
  shown : Shown server

theorem Accounted.initial (config : Config) (permissions : Permissions) (seeded : Bool) :
    Accounted config (Server.initial permissions seeded) [] where
  balanced := ⟨fun _ => rfl, fun _ => rfl, fun _ => Nat.le_refl _, fun _ => rfl, rfl⟩
  minted := ⟨fun _ => Nat.zero_le _, by simp [Server.initial, Rep.reserved]⟩
  solo := by simp [Server.Solo, Server.initial, Crew.new]
  shown := ⟨by simp [Server.initial, Crew.new], fun _ => rfl⟩

theorem Accounted.reached {config : Config} {permissions : Permissions} {seeded : Bool}
    {labels : List Label} {reached : Server}
    (ran : exec (Server.step config) (.initial permissions seeded) labels = some reached)
    (conserving : Conserving config (.initial permissions seeded) labels) :
    Accounted config reached (ledger config (.initial permissions seeded) labels) := by
  have preserved : ∀ before label after past, before.step config label = some after →
      before.conserves label = true → Accounted config before past →
      Accounted config after (past ++ before.events label) := by
    intro before label after past stepped conserves accounted
    exact ⟨accounted.balanced.step (.step conserves stepped), accounted.minted.step stepped,
      accounted.solo.step (Server.alone_of_conserves conserves) stepped,
      accounted.shown.step accounted.solo conserves stepped⟩
  exact exec_record (Accounted config) preserved ran conserving
    (Accounted.initial config permissions seeded)

/-- An item that came in is pending, in a live worker's hand, removed, or archived for good. -/
theorem Accounted.once {config : Config} {server : Server} {log : List Event} {uid : String}
    (accounted : Accounted config server log)
    (present : .accepted uid ∈ log ∨ .executed uid ∈ log) :
    server.queue.uids.count uid + server.hands held? uid + log.count (.removed uid) +
      (log.count (.archived uid) - log.count (.requeued uid)) = 1 := by
  have pending := accounted.balanced.pending uid
  have running := accounted.balanced.running uid
  have settling := accounted.balanced.settling uid
  have returning := accounted.balanced.returning uid
  have once := accounted.minted.once uid
  have some : 0 < log.count (.accepted uid) + log.count (.executed uid) := by
    rcases present with accepted | executed
    · exact Nat.add_pos_left (List.count_pos_iff.mpr accepted) _
    · exact Nat.add_pos_right _ (List.count_pos_iff.mpr executed)
  omega

/-- In every run that conserves, every item that came in is in exactly one place: pending, in the
hand of a live worker, removed on request, or archived and not put back. It is archived once for
each time it was popped or handed to a worker, less the one under way, and put back once for each
time the loop mode was read as on, less the one under way; the history holds what was archived since
it was last cleared. What a live worker runs is the `current_item`, and with no live worker there is
none. -/
theorem items_conserved {config : Config} {permissions : Permissions} {seeded : Bool}
    {labels : List Label} {reached : Server}
    (ran : exec (Server.step config) (.initial permissions seeded) labels = some reached)
    (conserving : Conserving config (.initial permissions seeded) labels) :
    let log := ledger config (.initial permissions seeded) labels
    (∀ uid, .accepted uid ∈ log ∨ .executed uid ∈ log →
      reached.queue.uids.count uid + reached.hands held? uid + log.count (.removed uid) +
        (log.count (.archived uid) - log.count (.requeued uid)) = 1) ∧
    (∀ uid, log.count (.archived uid) + reached.hands held? uid =
      log.count (.popped uid) + log.count (.executed uid)) ∧
    (∀ uid, log.count (.requeued uid) + reached.hands returning? uid = log.count (.looped uid)) ∧
    reached.queue.history.map QueuedItem.itemUid = archive log ∧
    (∀ task worker, reached.live? task = some worker → ∀ item ∈ worker.code.shown?,
      reached.manager.currentItem = some item) ∧
    ((∀ task, reached.live? task = none) → reached.manager.currentItem = none) := by
  intro log
  have accounted := Accounted.reached ran conserving
  refine ⟨fun uid present => accounted.once present, accounted.balanced.running,
    accounted.balanced.returning, accounted.balanced.history, ?_, ?_⟩
  · intro task worker found item mine
    obtain ⟨present, unfinished⟩ := Server.live?_eq_some.mp found
    exact accounted.shown.shown task worker present item (by simpa [Worker.shows, unfinished] using mine)
  · intro none
    apply accounted.shown.hidden
    intro task worker present
    cases finished : worker.finished with
    | true => simp [Worker.shows, finished]
    | false =>
        have found := Server.live?_eq_some.mpr ⟨present, finished⟩
        rw [none task] at found
        cases found

/-- The item is popped, run, archived and, in loop mode, put back. -/
theorem items_conserved_looped :
    let labels := asks "queue_mode_set" (.object [("mode", .object [("loop", .bool true)])]) 2 ++
      startOne ++ List.replicate 4 (.work 0) ++ [.complete 0 ⟨"success", none, ""⟩] ++
      List.replicate 4 (.work 0)
    ∃ reached ∈ exec (Server.step .plain) (.initial .permissive false) labels,
      reached.queue.history.map QueuedItem.itemUid =
        archive (ledger .plain (.initial .permissive false) labels) := by
  intro labels
  have conserving : Conserving .plain (.initial .permissive false) labels := by
    unfold Conserving
    decide +kernel
  have finishes : ∃ reached ∈ exec (Server.step .plain) (.initial .permissive false) labels,
      reached.queue.history.length = 1 ∧ reached.queue.items.length = 1 := by
    decide +kernel
  obtain ⟨reached, ran, _⟩ := finishes
  exact ⟨reached, ran, (items_conserved ran conserving).2.2.2.1⟩

/-- The environment is destroyed while a plan is parked at its await, and the abort lands: the item
is nowhere and was never archived, and `current_item` still shows it with no worker left. -/
theorem item_lost :
    let labels := startOne ++ [.work 0, .work 0, .work 0, .work 0, .park 0] ++
      asks "environment_destroy" .null 7 ++ [.land 0]
    ∃ reached ∈ exec (Server.step .plain) (.initial .permissive false) labels,
      ∃ uid, .accepted uid ∈ ledger .plain (.initial .permissive false) labels ∧
        reached.queue.uids.count uid = 0 ∧ reached.hands held? uid = 0 ∧
        .removed uid ∉ ledger .plain (.initial .permissive false) labels ∧
        .archived uid ∉ ledger .plain (.initial .permissive false) labels ∧
        reached.crew.workers.all Worker.finished ∧ reached.manager.currentItem.isSome := by
  intro labels
  have lost : ∃ reached ∈ exec (Server.step .plain) (.initial .permissive false) labels,
      .accepted "u" ∈ ledger .plain (.initial .permissive false) labels ∧
        reached.queue.uids.count "u" = 0 ∧ reached.hands held? "u" = 0 ∧
        .removed "u" ∉ ledger .plain (.initial .permissive false) labels ∧
        .archived "u" ∉ ledger .plain (.initial .permissive false) labels ∧
        reached.crew.workers.all Worker.finished ∧ reached.manager.currentItem.isSome := by
    decide +kernel
  obtain ⟨reached, ran, facts⟩ := lost
  exact ⟨reached, ran, "u", facts⟩

end Bsrs.Qs
