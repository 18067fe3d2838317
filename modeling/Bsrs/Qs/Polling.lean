import Mathlib.Data.List.Perm.Basic
import Bsrs.Library.Record
import Bsrs.Qs.Serve

namespace Bsrs.Qs

open Bsrs.Core (Json)
open Bsrs.Library

/-! ## The tracker -/

namespace TaskTracker

/-- The entries and the order hold the same uids, each once, and no more than fit. -/
structure Sound (tracker : TaskTracker) : Prop where
  distinct : tracker.order.Nodup
  same : (tracker.entries.map Prod.fst).Perm tracker.order
  bounded : tracker.order.length ≤ maxTasks

variable {tracker : TaskTracker} {uid : String}

theorem Sound.new : Sound new :=
  ⟨List.nodup_nil, .nil, Nat.zero_le _⟩

theorem Sound.length (sound : tracker.Sound) : tracker.entries.length = tracker.order.length := by
  simpa using sound.same.length_eq

/-- The entries other than one uid's are those of the other uids. -/
theorem keys_filter (entries : List (String × TaskEntry)) (uid : String) :
    (entries.filter fun entry => entry.1 != uid).map Prod.fst =
      (entries.map Prod.fst).filter fun key => key != uid := by
  rw [List.filter_map]
  rfl

theorem filter_fresh {entries : List (String × TaskEntry)} (fresh : uid ∉ entries.map Prod.fst) :
    (entries.filter fun entry => entry.1 != uid) = entries := by
  rw [List.filter_eq_self]
  intro entry member
  have : entry.1 ≠ uid := fun same => fresh (List.mem_map.mpr ⟨entry, member, same⟩)
  simpa using this

/-- The tracker with room for one entry: as it is below capacity, without the oldest at it. -/
def room (tracker : TaskTracker) : TaskTracker :=
  if maxTasks ≤ tracker.entries.length then
    match tracker.order with
    | old :: rest =>
        { entries := tracker.entries.filter fun entry => entry.1 != old, order := rest }
    | [] => tracker
  else tracker

theorem start_eq (tracker : TaskTracker) (uid method : String) :
    tracker.start uid method =
      { entries := (uid, ⟨none, method⟩) :: tracker.room.entries.filter fun entry => entry.1 != uid
        order := tracker.room.order ++ [uid] } :=
  rfl

theorem Sound.order_room (sound : tracker.Sound) : tracker.room.order =
    if maxTasks ≤ tracker.order.length then tracker.order.drop 1 else tracker.order := by
  unfold room
  rw [sound.length]
  split
  · cases order : tracker.order <;> simp [order]
  · rfl

theorem entries_room {entry : String × TaskEntry} (kept : entry ∈ tracker.room.entries) :
    entry ∈ tracker.entries := by
  unfold room at kept
  split at kept
  · split at kept
    · exact List.mem_of_mem_filter kept
    · exact kept
  · exact kept

theorem Sound.room (sound : tracker.Sound) :
    tracker.room.Sound ∧ tracker.room.order.length < maxTasks := by
  unfold TaskTracker.room
  rw [sound.length]
  split
  · rename_i full
    cases order : tracker.order with
    | nil =>
      rw [order] at full
      exact absurd full (by decide)
    | cons old rest =>
      have kept := sound.same.filter fun key => key != old
      have distinct := sound.distinct
      have bounded := sound.bounded
      rw [order] at distinct bounded kept
      obtain ⟨gone, distinct⟩ := List.nodup_cons.mp distinct
      have others : (old :: rest).filter (fun key => key != old) = rest := by
        rw [List.filter_cons_of_neg (by simp), List.filter_eq_self]
        intro key member
        have : key ≠ old := fun same => gone (same ▸ member)
        simpa using this
      rw [others, ← keys_filter] at kept
      exact ⟨⟨distinct, kept, Nat.le_of_succ_le bounded⟩, bounded⟩
  · rename_i free
    exact ⟨sound, Nat.lt_of_not_le free⟩

theorem Sound.order_start (sound : tracker.Sound) (method : String) :
    (tracker.start uid method).order =
      (if maxTasks ≤ tracker.order.length then tracker.order.drop 1 else tracker.order) ++
        [uid] := by
  rw [start_eq, sound.order_room]

/-- A new entry comes in with no outcome, and brings no other. -/
theorem entries_start {method : String} {entry : String × TaskEntry}
    (member : entry ∈ (tracker.start uid method).entries) :
    entry = (uid, ⟨none, method⟩) ∨ entry ∈ tracker.entries := by
  rw [start_eq] at member
  rcases List.mem_cons.mp member with rfl | member
  · exact .inl rfl
  · exact .inr (entries_room (List.mem_of_mem_filter member))

theorem Sound.start (sound : tracker.Sound) (fresh : uid ∉ tracker.order) (method : String) :
    (tracker.start uid method).Sound := by
  obtain ⟨kept, free⟩ := sound.room
  have unknown : uid ∉ tracker.room.order := by
    rw [sound.order_room]
    split
    · exact fun member => fresh (List.mem_of_mem_drop member)
    · exact fresh
  have absent : uid ∉ tracker.room.entries.map Prod.fst :=
    fun member => unknown (kept.same.mem_iff.mp member)
  rw [start_eq, filter_fresh absent]
  refine ⟨?_, ?_, ?_⟩
  · exact (List.perm_append_singleton uid _).nodup_iff.mpr
      (List.nodup_cons.mpr ⟨unknown, kept.distinct⟩)
  · exact (List.Perm.cons uid kept.same).trans (List.perm_append_singleton uid _).symm
  · rw [List.length_append]
    exact free

theorem keys_complete (tracker : TaskTracker) (uid : String) (result : EvalResult) :
    (tracker.complete uid result).entries.map Prod.fst = tracker.entries.map Prod.fst := by
  simp only [complete, List.map_map]
  apply List.map_congr_left
  intro entry _
  dsimp only [Function.comp]
  split <;> rfl

theorem Sound.complete (sound : tracker.Sound) (uid : String) (result : EvalResult) :
    (tracker.complete uid result).Sound :=
  ⟨sound.distinct, by rw [keys_complete]; exact sound.same, sound.bounded⟩

/-- A uid is tracked exactly when it has an entry. -/
theorem Sound.lookup (sound : tracker.Sound) :
    uid ∈ tracker.order ↔ ∃ entry, tracker.entries.lookup uid = some entry := by
  rw [← sound.same.mem_iff]
  induction tracker.entries with
  | nil => simp
  | cons entry rest ih =>
    obtain ⟨key, held⟩ := entry
    by_cases same : uid = key
    · subst same
      simp
    · have other : (uid == key) = false := by simpa using same
      simp [List.lookup_cons, other, same, ih]

theorem mem_of_lookup {entries : List (String × TaskEntry)} {entry : TaskEntry}
    (found : entries.lookup uid = some entry) : (uid, entry) ∈ entries := by
  induction entries with
  | nil => cases found
  | cons first rest ih =>
    obtain ⟨key, held⟩ := first
    rw [List.lookup_cons] at found
    split at found
    · rename_i same
      cases found
      rw [eq_of_beq same]
      exact List.mem_cons_self
    · exact List.mem_cons_of_mem _ (ih found)

end TaskTracker

/-! ## What a step does to the evaluations -/

/-- The uid of a task that was registered and not yet spawned. -/
def Rep.spawning : Rep → Option String
  | .handle (.evaluateSpawn uid _) => some uid
  | _ => none

/-- The handlers that register, spawn or read a task. -/
def Handler.ofTask : Handler → Bool
  | .evaluate _ _ _ | .evaluateSpawn _ _ | .taskStatus _ _ | .taskOutcome _ _ => true
  | _ => false

/-- In the middle of a spawn or a poll. -/
def Rep.halfway : Rep → Bool
  | .handle (.evaluateSpawn _ _) | .handle (.taskOutcome _ _) | .handle (.taskStdout _ _ _) => true
  | _ => false

theorem Rep.spawning_of_halfway {rep : Rep} (settled : rep.halfway = false) :
    rep.spawning = none := by
  cases rep with
  | handle handler =>
    cases handler with
    | evaluateSpawn => cases settled
    | _ => rfl
  | _ => rfl

/-- The parts of the server that only evaluations move. -/
structure Server.SameTasks (server next : Server) : Prop where
  tasks : next.tasks = server.tasks
  evaluating : next.evaluating = server.evaluating
  reporting : next.reporting = server.reporting
  counted : next.manager.workerBackgroundTasks = server.manager.workerBackgroundTasks

/-- What a step is to the evaluations. -/
inductive TaskStep (config : Config) (server next : Server) : Label → Prop where
  | idle {label : Label} (same : server.SameTasks next) (minted : server.minted ≤ next.minted)
      (spawning : next.rep.spawning = none ∨ next.rep.spawning = server.rep.spawning)
      (other : ∀ uid result, label ≠ .evaluated uid result) : TaskStep config server next label
  | started (outside : Outside) (method : String)
      (tasks : next.tasks = server.tasks.start (config.uuid server.minted) method)
      (evaluating : next.evaluating = server.evaluating)
      (reporting : next.reporting = server.reporting)
      (counted : next.manager.workerBackgroundTasks = server.manager.workerBackgroundTasks)
      (minted : next.minted = server.minted + 1)
      (spawning : next.rep.spawning = some (config.uuid server.minted)) :
      TaskStep config server next (.rep outside)
  | spawned (outside : Outside) {uid : String} (held : server.rep.spawning = some uid)
      (tasks : next.tasks = server.tasks) (evaluating : next.evaluating = uid :: server.evaluating)
      (reporting : next.reporting = server.reporting)
      (counted : next.manager.workerBackgroundTasks = server.manager.workerBackgroundTasks + 1)
      (minted : next.minted = server.minted) (spawning : next.rep.spawning = none) :
      TaskStep config server next (.rep outside)
  | finished {uid : String} (result : EvalResult) (running : uid ∈ server.evaluating)
      (tasks : next.tasks = server.tasks.complete uid result)
      (evaluating : next.evaluating = server.evaluating.erase uid)
      (reporting : next.reporting = uid :: server.reporting)
      (counted : next.manager.workerBackgroundTasks = server.manager.workerBackgroundTasks)
      (minted : next.minted = server.minted) (rep : next.rep = server.rep) :
      TaskStep config server next (.evaluated uid result)
  | reported {uid : String} (waiting : uid ∈ server.reporting) (tasks : next.tasks = server.tasks)
      (evaluating : next.evaluating = server.evaluating)
      (reporting : next.reporting = server.reporting.erase uid)
      (counted : next.manager.workerBackgroundTasks = server.manager.workerBackgroundTasks - 1)
      (minted : next.minted = server.minted) (rep : next.rep = server.rep) :
      TaskStep config server next (.reported uid)

section

variable {config : Config} {server next : Server}

theorem Handler.entry_halfway {handler : Handler} (entry : handler.isEntry = true) :
    (Rep.handle handler).halfway = false := by
  cases handler with
  | evaluateSpawn | taskOutcome | taskStdout => cases entry
  | _ => rfl

theorem After.rep_halfway (after : After) : after.rep.halfway = false := by
  cases after <;> rfl

theorem Purpose.refused_halfway (purpose : Purpose) (msg : String) :
    (purpose.refused msg).halfway = false := by
  cases purpose with
  | autostart after => exact after.rep_halfway
  | start | execute => rfl

theorem Purpose.started_halfway (purpose : Purpose) : purpose.started.halfway = false := by
  cases purpose with
  | autostart after => exact after.rep_halfway
  | start | execute => rfl

/-- A worker moves none of the evaluations. -/
theorem Server.work_tasks (config : Config) (server : Server) (task : TaskId) (code : WorkerCode) :
    server.SameTasks (server.work config task code) := by
  cases code with
  | unpolled single => cases single <;> exact ⟨rfl, rfl, rfl, rfl⟩
  | pop =>
    simp only [Server.work]
    split <;> exact ⟨rfl, rfl, rfl, rfl⟩
  | _ => exact ⟨rfl, rfl, rfl, rfl⟩

/-- A stretch of a handler that has nothing to do with tasks. -/
theorem Server.advance_tasks (config : Config) (outside : Outside) (server : Server)
    {handler : Handler} (plain : handler.ofTask = false) :
    server.SameTasks (server.advance config outside handler).1 ∧
      (server.advance config outside handler).1.minted = server.minted ∧
      (server.advance config outside handler).2.halfway = false := by
  cases handler with
  | evaluate | evaluateSpawn | taskStatus | taskOutcome => cases plain
  | autostart after =>
    refine ⟨⟨rfl, rfl, rfl, rfl⟩, rfl, ?_⟩
    simp only [Server.advance]
    split
    · exact after.rep_halfway
    · rfl
  | startEngine purpose | startState purpose =>
    refine ⟨⟨rfl, rfl, rfl, rfl⟩, rfl, ?_⟩
    simp only [Server.advance]
    split
    · rfl
    · exact purpose.refused_halfway _
  | startClaim purpose =>
    cases claimed : server.crew.claim with
    | none =>
      have refused : server.advance config outside (.startClaim purpose) = (server,
          purpose.refused s!"cannot {purpose.verb}: a queue worker is already running") := by
        simp only [Server.advance, claimed]
      rw [refused]
      exact ⟨⟨rfl, rfl, rfl, rfl⟩, rfl, purpose.refused_halfway _⟩
    | some given =>
      have went : server.advance config outside (.startClaim purpose) =
          ({ server with crew := given.1 }, .handle (.startSpawn purpose given.2)) := by
        simp only [Server.advance, claimed]
      rw [went]
      exact ⟨⟨rfl, rfl, rfl, rfl⟩, rfl, rfl⟩
  | startRegister purpose => exact ⟨⟨rfl, rfl, rfl, rfl⟩, rfl, purpose.started_halfway⟩
  | destroyAbort task | stopAbort task => cases task <;> exact ⟨⟨rfl, rfl, rfl, rfl⟩, rfl, rfl⟩
  | metadata fields =>
    cases fields <;> refine ⟨⟨?_, ?_, ?_, ?_⟩, ?_, ?_⟩ <;> (simp only [Server.advance]; split)
    all_goals rfl
  | edit | openSlot | openHook | closeEngine | closeActive | destroySlot | pauseCall | control
  | lockApply | lockRelease | reload | taskAccess | setAutostart =>
    refine ⟨⟨?_, ?_, ?_, ?_⟩, ?_, ?_⟩ <;> (simp only [Server.advance]; repeat' split)
    all_goals rfl
  | _ => exact ⟨⟨rfl, rfl, rfl, rfl⟩, rfl, rfl⟩

theorem TaskStep.serve {outside : Outside} (served : server.serve config outside = some next) :
    TaskStep config server next (.rep outside) := by
  cases place : server.rep with
  | receive | gone => simp [Server.serve, place] at served
  | handle handler =>
    simp only [Server.serve, place, Option.some.injEq] at served
    subst served
    cases task : handler.ofTask with
    | false =>
      obtain ⟨⟨tasks, evaluating, reporting, counted⟩, minted, settled⟩ :=
        server.advance_tasks config outside task
      exact .idle ⟨tasks, evaluating, reporting, counted⟩ (Nat.le_of_eq minted.symm)
        (.inl (Rep.spawning_of_halfway settled)) nofun
    | true =>
      cases handler with
      | evaluate method source item => exact .started outside method rfl rfl rfl rfl rfl rfl
      | evaluateSpawn uid item =>
        exact .spawned outside (by rw [place]; rfl) rfl rfl rfl rfl rfl rfl
      | taskStatus uid full =>
        refine .idle ⟨rfl, rfl, rfl, rfl⟩ (Nat.le_refl _) (.inl ?_) nofun
        cases full <;> rfl
      | taskOutcome => exact .idle ⟨rfl, rfl, rfl, rfl⟩ (Nat.le_refl _) (.inl rfl) nofun
      | _ => cases task
  | turn | poll | answer =>
    simp only [Server.serve, place, Option.some.injEq] at served
    subst served
    split <;> exact .idle ⟨rfl, rfl, rfl, rfl⟩ (Nat.le_refl _) (.inl rfl) nofun
  | closing =>
    simp only [Server.serve, place, Option.some.injEq] at served
    subst served
    exact .idle ⟨rfl, rfl, rfl, rfl⟩ (Nat.le_refl _) (.inl rfl) nofun
  | closingAbort task =>
    simp only [Server.serve, place, Option.some.injEq] at served
    subst served
    cases task <;> exact .idle ⟨rfl, rfl, rfl, rfl⟩ (Nat.le_refl _) (.inl rfl) nofun

theorem Server.taskStep {label : Label} (stepped : server.step config label = some next) :
    TaskStep config server next label := by
  cases Server.moved stepped with
  | request waits request =>
    exact .idle ⟨rfl, rfl, rfl, rfl⟩ (Nat.le_add_right ..)
      (.inl (Rep.spawning_of_halfway (Handler.entry_halfway (dispatch_isEntry config server request))))
      nofun
  | timeout waits => exact .idle ⟨rfl, rfl, rfl, rfl⟩ (Nat.le_refl _) (.inl rfl) nofun
  | rep outside served => exact .serve served
  | work task found outside polled =>
    next worker =>
    obtain ⟨rep, minted⟩ := server.work_rep config task worker.code
    exact .idle (server.work_tasks config task worker.code) (Nat.le_of_eq minted.symm)
      (.inr (by rw [rep])) nofun
  | evaluated uid result running => exact .finished result running rfl rfl rfl rfl rfl rfl
  | reported uid counted => exact .reported counted rfl rfl rfl rfl rfl rfl
  | _ => exact .idle ⟨rfl, rfl, rfl, rfl⟩ (Nat.le_refl _) (.inr rfl) nofun

/-- The uid was minted so far. -/
def Server.HasMinted (config : Config) (server : Server) (uid : String) : Prop :=
  ∃ count, count < server.minted ∧ config.uuid count = uid

theorem Server.HasMinted.later {uid : String} (known : server.HasMinted config uid)
    (minted : server.minted ≤ next.minted) : next.HasMinted config uid := by
  obtain ⟨count, below, same⟩ := known
  exact ⟨count, Nat.lt_of_lt_of_le below minted, same⟩

theorem Server.not_hasMinted : ¬ server.HasMinted config (config.uuid server.minted) := by
  rintro ⟨count, below, same⟩
  exact absurd (config.uuid.injective same) (Nat.ne_of_lt below)

/-- What the server holds of the evaluations, against the labels of the run that led to it. -/
structure Reckoned (config : Config) (server : Server) (log : List Label) : Prop where
  sound : server.tasks.Sound
  counted :
    server.manager.workerBackgroundTasks = server.evaluating.length + server.reporting.length
  outcome : ∀ entry ∈ server.tasks.entries, ∀ result,
    entry.2.outcome = some result ↔ .evaluated entry.1 result ∈ log
  tracked : ∀ uid ∈ server.tasks.order, server.HasMinted config uid
  begun : ∀ uid, uid ∈ server.evaluating ∨ server.rep.spawning = some uid →
    server.HasMinted config uid ∧ ∀ result, .evaluated uid result ∉ log
  ended : ∀ uid result, .evaluated uid result ∈ log → server.HasMinted config uid
  distinct : server.evaluating.Nodup
  apart : ∀ uid ∈ server.evaluating, server.rep.spawning ≠ some uid

variable {log : List Label}

theorem Reckoned.initial (config : Config) (permissions : Permissions) (seeded : Bool) :
    Reckoned config (.initial permissions seeded) [] where
  sound := .new
  counted := rfl
  outcome := nofun
  tracked := nofun
  begun := by
    rintro uid (running | spawning)
    · cases running
    · cases spawning
  ended := nofun
  distinct := List.nodup_nil
  apart := nofun

private theorem evaluated_concat {uid : String} {result : EvalResult} {label : Label}
    (other : ∀ uid result, label ≠ .evaluated uid result) :
    .evaluated uid result ∈ log ++ [label] ↔ .evaluated uid result ∈ log := by
  have differs : Label.evaluated uid result ≠ label := fun same => other uid result same.symm
  simp [differs]

theorem Reckoned.step {label : Label} (reckoned : Reckoned config server log)
    (stepped : TaskStep config server next label) : Reckoned config next (log ++ [label]) := by
  cases stepped with
  | idle same minted spawning other =>
    have held : ∀ uid, next.rep.spawning = some uid → server.rep.spawning = some uid := by
      intro uid given
      rcases spawning with none | kept
      · rw [none] at given
        cases given
      · rwa [kept] at given
    refine ⟨same.tasks ▸ reckoned.sound, ?_, ?_, ?_, ?_, ?_, same.evaluating ▸ reckoned.distinct, ?_⟩
    · rw [same.counted, same.evaluating, same.reporting, reckoned.counted]
    · rw [same.tasks]
      intro entry member result
      rw [evaluated_concat other, reckoned.outcome entry member]
    · rw [same.tasks]
      exact fun uid member => (reckoned.tracked uid member).later minted
    · rw [same.evaluating]
      intro uid running
      obtain ⟨known, unfinished⟩ := reckoned.begun uid (running.imp_right (held uid))
      exact ⟨known.later minted, fun result => by
        rw [evaluated_concat other]
        exact unfinished result⟩
    · intro uid result member
      rw [evaluated_concat other] at member
      exact (reckoned.ended uid result member).later minted
    · rw [same.evaluating]
      exact fun uid running given => reckoned.apart uid running (held uid given)
  | started outside method tasks evaluating reporting counted minted spawning =>
    have fresh : config.uuid server.minted ∉ server.tasks.order :=
      fun member => Server.not_hasMinted (reckoned.tracked _ member)
    have later : server.minted ≤ next.minted := by omega
    have known : next.HasMinted config (config.uuid server.minted) :=
      ⟨server.minted, by omega, rfl⟩
    have other : ∀ uid result, Label.rep outside ≠ .evaluated uid result := nofun
    refine ⟨tasks ▸ reckoned.sound.start fresh method, ?_, ?_, ?_, ?_, ?_,
      evaluating ▸ reckoned.distinct, ?_⟩
    · rw [counted, evaluating, reporting, reckoned.counted]
    · rw [tasks]
      intro entry member result
      rw [evaluated_concat other]
      rcases TaskTracker.entries_start member with rfl | member
      · refine ⟨nofun, fun present => ?_⟩
        exact absurd (reckoned.ended _ result present) Server.not_hasMinted
      · exact reckoned.outcome entry member result
    · rw [tasks, reckoned.sound.order_start]
      intro uid member
      rcases List.mem_append.mp member with before | new
      · refine (reckoned.tracked uid ?_).later later
        split at before
        · exact List.mem_of_mem_drop before
        · exact before
      · rw [List.mem_singleton.mp new]
        exact known
    · rw [evaluating, spawning]
      intro uid running
      simp only [evaluated_concat other]
      rcases running with running | new
      · obtain ⟨known, unfinished⟩ := reckoned.begun uid (.inl running)
        exact ⟨known.later later, unfinished⟩
      · cases new
        exact ⟨known, fun result present =>
          absurd (reckoned.ended _ result present) Server.not_hasMinted⟩
    · intro uid result member
      rw [evaluated_concat other] at member
      exact (reckoned.ended uid result member).later later
    · rw [evaluating, spawning]
      rintro uid running new
      cases new
      exact Server.not_hasMinted (reckoned.begun _ (.inl running)).1
  | @spawned outside fresh held tasks evaluating reporting counted minted spawning =>
    have other : ∀ uid result, Label.rep outside ≠ .evaluated uid result := nofun
    have later : server.minted ≤ next.minted := Nat.le_of_eq minted.symm
    refine ⟨tasks ▸ reckoned.sound, ?_, ?_, ?_, ?_, ?_, ?_, ?_⟩
    · rw [counted, evaluating, reporting, reckoned.counted, List.length_cons]
      omega
    · rw [tasks]
      intro entry member result
      rw [evaluated_concat other, reckoned.outcome entry member]
    · rw [tasks]
      exact fun uid member => (reckoned.tracked uid member).later later
    · rw [evaluating, spawning]
      intro uid running
      simp only [evaluated_concat other]
      have begun : uid ∈ server.evaluating ∨ server.rep.spawning = some uid := by
        rcases running with running | none
        · rcases List.mem_cons.mp running with rfl | running
          · exact .inr held
          · exact .inl running
        · cases none
      obtain ⟨known, unfinished⟩ := reckoned.begun uid begun
      exact ⟨known.later later, unfinished⟩
    · intro uid result member
      rw [evaluated_concat other] at member
      exact (reckoned.ended uid result member).later later
    · rw [evaluating]
      exact List.nodup_cons.mpr ⟨fun running => reckoned.apart _ running held, reckoned.distinct⟩
    · rw [spawning]
      nofun
  | @finished done result running tasks evaluating reporting counted minted rep =>
    have later : server.minted ≤ next.minted := Nat.le_of_eq minted.symm
    obtain ⟨known, unfinished⟩ := reckoned.begun done (.inl running)
    have left : ∀ uid, uid ∈ next.evaluating → uid ∈ server.evaluating ∧ uid ≠ done := by
      intro uid member
      rw [evaluating, reckoned.distinct.mem_erase_iff] at member
      exact ⟨member.2, member.1⟩
    refine ⟨tasks ▸ reckoned.sound.complete done result, ?_, ?_, ?_, ?_, ?_, ?_, ?_⟩
    · rw [counted, evaluating, reporting, reckoned.counted, List.length_erase_of_mem running,
        List.length_cons]
      have := List.length_pos_of_mem running
      omega
    · rw [tasks]
      intro entry member other
      obtain ⟨before, among, rfl⟩ := List.mem_map.mp member
      have held := reckoned.outcome before among other
      simp only [List.mem_append, List.mem_singleton, Label.evaluated.injEq]
      by_cases same : before.1 = done
      · have none : before.2.outcome ≠ some other := by
          rw [Ne, held, same]
          exact unfinished other
        simp only [same, beq_self_eq_true, if_true, Option.some.injEq, unfinished, false_or,
          true_and]
        exact eq_comm
      · have differs : (before.1 == done) = false := by simpa using same
        simp only [differs, Bool.false_eq_true, if_false, same, false_and, or_false]
        exact held
    · rw [tasks]
      exact fun uid member => (reckoned.tracked uid member).later later
    · intro uid running
      rw [rep] at running
      have begun : (uid ∈ server.evaluating ∨ server.rep.spawning = some uid) ∧ uid ≠ done := by
        rcases running with member | spawning
        · exact ⟨.inl (left uid member).1, (left uid member).2⟩
        · refine ⟨.inr spawning, ?_⟩
          rintro rfl
          exact reckoned.apart _ ‹_› spawning
      obtain ⟨known, unfinished⟩ := reckoned.begun uid begun.1
      refine ⟨known.later later, fun other present => ?_⟩
      simp only [List.mem_append, List.mem_singleton, Label.evaluated.injEq] at present
      rcases present with before | ⟨same, -⟩
      · exact unfinished other before
      · exact begun.2 same
    · intro uid other present
      simp only [List.mem_append, List.mem_singleton, Label.evaluated.injEq] at present
      rcases present with before | ⟨rfl, -⟩
      · exact (reckoned.ended uid other before).later later
      · exact known.later later
    · rw [evaluating]
      exact reckoned.distinct.erase done
    · rw [rep]
      exact fun uid member => reckoned.apart uid (left uid member).1
  | @reported done waiting tasks evaluating reporting counted minted rep =>
    have other : ∀ uid result, Label.reported done ≠ .evaluated uid result := nofun
    have later : server.minted ≤ next.minted := Nat.le_of_eq minted.symm
    refine ⟨tasks ▸ reckoned.sound, ?_, ?_, ?_, ?_, ?_, evaluating ▸ reckoned.distinct, ?_⟩
    · rw [counted, evaluating, reporting, reckoned.counted, List.length_erase_of_mem waiting]
      have := List.length_pos_of_mem waiting
      omega
    · rw [tasks]
      intro entry member result
      rw [evaluated_concat other, reckoned.outcome entry member]
    · rw [tasks]
      exact fun uid member => (reckoned.tracked uid member).later later
    · rw [evaluating, rep]
      intro uid running
      obtain ⟨known, unfinished⟩ := reckoned.begun uid running
      exact ⟨known.later later, fun result => by
        rw [evaluated_concat other]
        exact unfinished result⟩
    · intro uid result member
      rw [evaluated_concat other] at member
      exact (reckoned.ended uid result member).later later
    · rw [evaluating, rep]
      exact reckoned.apart

/-! ## What a poll answers -/

/-- How a finished evaluation stands. -/
def EvalResult.status (result : EvalResult) : String :=
  if result.isSuccess then "completed" else "failed"

theorem Reckoned.finished (reckoned : Reckoned config server log) {uid : String}
    {result : EvalResult} (present : .evaluated uid result ∈ log)
    (tracked : uid ∈ server.tasks.order) :
    server.tasks.status uid = some result.status ∧ server.tasks.result uid = some result := by
  obtain ⟨entry, found⟩ := reckoned.sound.lookup.mp tracked
  have outcome := (reckoned.outcome _ (TaskTracker.mem_of_lookup found) result).mpr present
  dsimp only at outcome
  simp [TaskTracker.status, TaskTracker.result, found, outcome, EvalResult.status]

theorem Reckoned.unfinished (reckoned : Reckoned config server log) {uid : String}
    (absent : ∀ result, .evaluated uid result ∉ log) (tracked : uid ∈ server.tasks.order) :
    server.tasks.status uid = some "running" := by
  obtain ⟨entry, found⟩ := reckoned.sound.lookup.mp tracked
  have outcome : entry.outcome = none := by
    rw [Option.eq_none_iff_forall_ne_some]
    intro result given
    exact absent result ((reckoned.outcome _ (TaskTracker.mem_of_lookup found) result).mp given)
  simp [TaskTracker.status, found, outcome]

theorem Reckoned.forgotten (reckoned : Reckoned config server log) {uid : String}
    (untracked : uid ∉ server.tasks.order) :
    server.tasks.status uid = none ∧ server.tasks.result uid = none := by
  have missing : server.tasks.entries.lookup uid = none := by
    rw [Option.eq_none_iff_forall_ne_some]
    exact fun entry found => untracked (reckoned.sound.lookup.mpr ⟨entry, found⟩)
  simp [TaskTracker.status, TaskTracker.result, missing]

theorem Reckoned.result_of (reckoned : Reckoned config server log) {uid : String}
    {result : EvalResult} (given : server.tasks.result uid = some result) :
    .evaluated uid result ∈ log := by
  obtain ⟨entry, found, outcome⟩ := Option.bind_eq_some_iff.mp given
  exact (reckoned.outcome _ (TaskTracker.mem_of_lookup found) result).mp outcome

def Label.asks : Label → Bool
  | .request _ => true
  | _ => false

/-- The run up to the request in hand. -/
def upToRequest (log : List Label) : List Label :=
  (log.reverse.dropWhile fun label => !label.asks).reverse

theorem upToRequest_concat {label : Label} (other : label.asks = false) :
    upToRequest (log ++ [label]) = upToRequest log := by
  simp [upToRequest, other]

theorem mem_of_upToRequest {label : Label} (member : label ∈ upToRequest log) : label ∈ log :=
  List.mem_reverse.mp ((List.dropWhile_suffix _).subset (List.mem_reverse.mp member))

/-- The status a poll read is that of a task finished before it was asked. -/
def Server.ReadStatus (server : Server) (log : List Label) (uid status : String) : Prop :=
  ∀ result, .evaluated uid result ∈ upToRequest log →
    status = if uid ∈ server.tasks.order then result.status else "completed"

/-- And so is the result, which no unfinished task has. -/
structure Server.ReadOutcome (server : Server) (log : List Label) (uid : String)
    (outcome : Option EvalResult) : Prop where
  finished : ∀ result, .evaluated uid result ∈ upToRequest log →
    outcome = if uid ∈ server.tasks.order then some result else none
  known : ∀ result, outcome = some result → .evaluated uid result ∈ log

/-- What the poll in hand has read so far. -/
def Server.Reads (server : Server) (log : List Label) : Prop :=
  match server.rep with
  | .handle (.taskOutcome uid status) => server.ReadStatus log uid status
  | .handle (.taskStdout uid status outcome) =>
      server.ReadStatus log uid status ∧ server.ReadOutcome log uid outcome
  | _ => True

theorem Server.Reads.of_settled (settled : next.rep.halfway = false) : next.Reads log := by
  unfold Server.Reads
  split
  · rename_i place
    rw [place] at settled
    cases settled
  · rename_i place
    rw [place] at settled
    cases settled
  · trivial

theorem Server.Reads.frame {label : Label} (reads : server.Reads log) (rep : next.rep = server.rep)
    (order : next.tasks.order = server.tasks.order) (other : label.asks = false) :
    next.Reads (log ++ [label]) := by
  unfold Server.Reads at reads ⊢
  simp only [Server.ReadStatus, rep, order, upToRequest_concat other] at reads ⊢
  split
  · rename_i place
    simp only [place] at reads
    exact reads
  · rename_i place
    simp only [place] at reads
    obtain ⟨status, finished, known⟩ := reads
    refine ⟨status, ⟨?_, fun result given => List.mem_append_left _ (known result given)⟩⟩
    rw [order, upToRequest_concat other]
    exact finished
  · trivial

theorem Reckoned.readStatus (reckoned : Reckoned config server log) (uid : String) :
    server.ReadStatus log uid ((server.tasks.status uid).getD "completed") := by
  intro result present
  split
  · rename_i tracked
    rw [(reckoned.finished (mem_of_upToRequest present) tracked).1]
    rfl
  · rename_i untracked
    rw [(reckoned.forgotten untracked).1]
    rfl

theorem Reckoned.readOutcome (reckoned : Reckoned config server log) (uid : String) :
    server.ReadOutcome log uid (server.tasks.result uid) where
  finished result present := by
    split
    · rename_i tracked
      exact (reckoned.finished (mem_of_upToRequest present) tracked).2
    · rename_i untracked
      exact (reckoned.forgotten untracked).2
  known result given := reckoned.result_of given

theorem Server.Reads.serve {outside : Outside} (reads : server.Reads log)
    (reckoned : Reckoned config server log) (served : server.serve config outside = some next) :
    next.Reads (log ++ [.rep outside]) := by
  have other : Label.asks (.rep outside) = false := rfl
  cases place : server.rep with
  | receive | gone => simp [Server.serve, place] at served
  | handle handler =>
    simp only [Server.serve, place, Option.some.injEq] at served
    subst served
    cases task : handler.ofTask with
    | false => exact .of_settled (server.advance_tasks config outside task).2.2
    | true =>
      cases handler with
      | evaluate | evaluateSpawn => trivial
      | taskStatus uid full =>
        cases full with
        | false => exact .of_settled rfl
        | true =>
          intro result present
          rw [upToRequest_concat other] at present
          exact reckoned.readStatus uid result present
      | taskOutcome uid status =>
        simp only [Server.Reads, place] at reads
        refine ⟨?_, ?_, ?_⟩
        · intro result present
          rw [upToRequest_concat other] at present
          exact reads result present
        · intro result present
          rw [upToRequest_concat other] at present
          exact (reckoned.readOutcome uid).finished result present
        · exact fun result given => List.mem_append_left _ ((reckoned.readOutcome uid).known result given)
      | _ => cases task
  | turn | poll | answer =>
    simp only [Server.serve, place, Option.some.injEq] at served
    subst served
    split <;> exact .of_settled rfl
  | closing | closingAbort =>
    simp only [Server.serve, place, Option.some.injEq] at served
    subst served
    exact .of_settled rfl

theorem Server.Reads.step {label : Label} (reads : server.Reads log)
    (reckoned : Reckoned config server log) (stepped : server.step config label = some next) :
    next.Reads (log ++ [label]) := by
  cases Server.moved stepped with
  | request waits request =>
    exact .of_settled (Handler.entry_halfway (dispatch_isEntry config server request))
  | timeout waits => exact .of_settled rfl
  | rep outside served => exact reads.serve reckoned served
  | work task found outside polled =>
    next worker =>
    exact reads.frame (server.work_rep config task worker.code).1
      (congrArg TaskTracker.order (server.work_tasks config task worker.code).tasks) rfl
  | _ => exact reads.frame rfl rfl rfl

/-- The reply of `task_status`. -/
def statusReply (uid status : String) : Reply :=
  .ok [("status", .string status), ("task_uid", .string uid)]

/-- The reply of `task_result`. -/
def resultReply (uid status : String) (outcome : Option EvalResult) (stdout : String) : Reply :=
  .ok (resultFields uid status outcome stdout)

/-- The reply says that the task is completed, or successful. -/
def Reply.reportsDone (reply : Reply) : Prop :=
  reply.fields.lookup "status" = some (.string "completed") ∨
    ((reply.fields.lookup "result").bind Json.asObject).bind (·.lookup "success") =
      some (.bool true)

/-- The uid a poll asks for, at the stretch that answers it. -/
def Handler.polled : Handler → Option String
  | .taskStatus uid _ | .taskStdout uid _ _ => some uid
  | _ => none

/-- The poll in hand is answered with the reply. -/
def Server.Answers (config : Config) (server : Server) (uid : String) (reply : Reply) : Prop :=
  ∃ handler outside, server.rep = .handle handler ∧ handler.polled = some uid ∧
    (server.advance config outside handler).2 = .answer reply

/-- The reply tells no unfinished evaluation finished, and gives the result of one that was
finished before the poll, or says that it does not know the task. -/
structure Honest (server : Server) (log : List Label) (uid : String) (reply : Reply) : Prop where
  unfinished : uid ∈ server.evaluating → ¬ reply.reportsDone
  finished : ∀ result, .evaluated uid result ∈ upToRequest log →
    reply = statusReply uid result.status ∨
      reply = resultReply uid result.status (some result) result.stdout ∨ reply.success = false

/-- When a poll can be answered: an evaluation is still tracked, or its end looks like the stub's,
and `task_result` is asked of no evaluation that goes on. -/
def Answerable (server : Server) (log : List Label) (uid : String) : Prop :=
  match server.rep with
  | .handle (.taskStdout _ _ _) =>
      uid ∉ server.evaluating ∧ ∀ result, .evaluated uid result ∈ upToRequest log →
        uid ∈ server.tasks.order ∨ result = ⟨"", none, none⟩
  | _ =>
      (uid ∈ server.evaluating → uid ∈ server.tasks.order) ∧
        ∀ result, .evaluated uid result ∈ upToRequest log →
          uid ∈ server.tasks.order ∨ result.isSuccess = true

theorem statusReply_reportsDone {uid status : String} :
    (statusReply uid status).reportsDone ↔ status = "completed" := by
  simp [statusReply, Reply.ok, Reply.reportsDone, List.lookup_cons]

theorem statusReply_injective {uid status other : String}
    (same : statusReply uid status = statusReply uid other) : status = other := by
  simpa [statusReply, Reply.ok] using same

theorem statusReply_ne_resultReply {uid status other : String} {outcome : Option EvalResult}
    {stdout : String} : statusReply uid status ≠ resultReply uid other outcome stdout := by
  simp [statusReply, resultReply, resultFields, Reply.ok]

theorem resultReply_reportsDone {uid status stdout : String} {outcome : Option EvalResult} :
    (resultReply uid status outcome stdout).reportsDone ↔
      status = "completed" ∨ (outcome.map EvalResult.isSuccess).getD true = true := by
  simp [resultReply, resultFields, Reply.ok, Reply.reportsDone, List.lookup_cons, Json.asObject]

/-- The stub's answer is the own one of a silent evaluation that succeeded and gave nothing. -/
theorem resultReply_stub {uid : String} {result : EvalResult} :
    resultReply uid "completed" none "" =
        resultReply uid result.status (some result) result.stdout ↔
      result = ⟨"", none, none⟩ := by
  obtain ⟨stdout, returnValue, error⟩ := result
  cases returnValue <;> cases error <;>
    simp [resultReply, resultFields, Reply.ok, EvalResult.status, EvalResult.isSuccess, eq_comm]

theorem EvalResult.status_eq_completed {result : EvalResult} :
    result.status = "completed" ↔ result.isSuccess = true := by
  unfold EvalResult.status
  split <;> simp [*]

theorem honest_iff_answerable (reckoned : Reckoned config server log) (reads : server.Reads log)
    {uid : String} {reply : Reply} (answers : server.Answers config uid reply) :
    Honest server log uid reply ↔ Answerable server log uid := by
  obtain ⟨handler, outside, place, polled, answered⟩ := answers
  cases handler with
  | taskStatus asked full =>
    cases polled
    cases full with
    | true => cases answered
    | false =>
      cases answered
      simp only [Answerable, place]
      constructor
      · intro honest
        refine ⟨fun running => ?_, fun result present => ?_⟩
        · by_contra untracked
          refine honest.unfinished running (statusReply_reportsDone.mpr ?_)
          rw [(reckoned.forgotten untracked).1]
          rfl
        · by_cases tracked : uid ∈ server.tasks.order
          · exact .inl tracked
          · refine .inr ?_
            rcases honest.finished result present with own | other | refused
            · have status := statusReply_injective own
              rw [(reckoned.forgotten tracked).1] at status
              exact EvalResult.status_eq_completed.mp status.symm
            · exact absurd other statusReply_ne_resultReply
            · cases refused
      · rintro ⟨tracks, ends⟩
        refine ⟨fun running done => ?_, fun result present => .inl ?_⟩
        · have status := statusReply_reportsDone.mp done
          rw [reckoned.unfinished (reckoned.begun uid (.inl running)).2 (tracks running)] at status
          exact absurd status (by decide)
        · have status := reckoned.readStatus uid result present
          rw [status]
          split
          · rfl
          · rename_i untracked
            have succeeded := (ends result present).resolve_left untracked
            rw [EvalResult.status_eq_completed.mpr succeeded]
            rfl
  | taskStdout asked status outcome =>
    cases polled
    cases answered
    simp only [Server.Reads, place] at reads
    obtain ⟨status_read, outcome_read⟩ := reads
    simp only [Answerable, place]
    have own : ∀ result, .evaluated uid result ∈ upToRequest log →
        resultReply uid status outcome (((server.tasks.result uid).map EvalResult.stdout).getD "") =
          if uid ∈ server.tasks.order then
            resultReply uid result.status (some result) result.stdout
          else resultReply uid "completed" none "" := by
      intro result present
      rw [status_read result present, outcome_read.finished result present,
        (reckoned.readOutcome uid).finished result present]
      split <;> rfl
    constructor
    · intro honest
      refine ⟨fun running => ?_, fun result present => ?_⟩
      · refine honest.unfinished running (resultReply_reportsDone.mpr (.inr ?_))
        cases given : outcome with
        | none => rfl
        | some result =>
          exact absurd (outcome_read.known result given)
            ((reckoned.begun uid (.inl running)).2 result)
      · by_cases tracked : uid ∈ server.tasks.order
        · exact .inl tracked
        · have stub := own result present
          rw [if_neg tracked] at stub
          rcases honest.finished result present with other | same | refused
          · exact absurd other.symm statusReply_ne_resultReply
          · exact .inr (resultReply_stub.mp (stub.symm.trans same))
          · cases refused
    · rintro ⟨idle, ends⟩
      refine ⟨fun running => absurd running idle, fun result present => .inr (.inl ?_)⟩
      refine (own result present).trans ?_
      split
      · rfl
      · rename_i untracked
        exact resultReply_stub.mpr ((ends result present).resolve_left untracked)
  | _ => cases polled

theorem Reckoned.reached {permissions : Permissions} {seeded : Bool} {labels : List Label}
    {reached : Server}
    (ran : exec (Server.step config) (.initial permissions seeded) labels = some reached) :
    Reckoned config reached labels ∧ reached.Reads labels := by
  have preserved : ∀ before label after past, before.step config label = some after → True →
      Reckoned config before past ∧ before.Reads past →
      Reckoned config after (past ++ [label]) ∧ after.Reads (past ++ [label]) :=
    fun before label after past stepped _ held =>
      ⟨held.1.step (Server.taskStep stepped), held.2.step held.1 stepped⟩
  have held := exec_record (fun server past => Reckoned config server past ∧ server.Reads past)
    preserved ran (.of_forall (fun _ _ => trivial) _ _)
    ⟨.initial config permissions seeded, trivial⟩
  rwa [record_labels ran, List.nil_append] at held

end

/-! ## More evaluations than the tracker holds -/

/-- A server none of whose evaluations has finished, `count` of them begun. -/
def laden : Nat → Server
  | 0 => .initial .permissive true
  | count + 1 =>
      let before := laden count
      let uid := Config.plain.uuid (2 * count + 1)
      { Server.initial .permissive true with
        tasks := before.tasks.start uid "lua_eval"
        evaluating := uid :: before.evaluating
        minted := 2 * (count + 1)
        manager := { (Server.initial .permissive true).manager with
          workerBackgroundTasks := count + 1 } }

/-- One `lua_eval` request, from the turn it comes in to the turn after its reply. -/
def lap : List Label :=
  asks "lua_eval" (.object [("source", .string "run()")]) 3

/-- The laps of `count` requests. -/
def laps (count : Nat) : List Label :=
  (List.replicate count lap).flatten

theorem lap_laden (count : Nat) :
    exec (Server.step .plain) (laden count) lap = some (laden (count + 1)) := by
  cases count <;> rfl

theorem laps_laden (count : Nat) :
    exec (Server.step .plain) (.initial .permissive true) (laps count) = some (laden count) := by
  induction count with
  | zero => rfl
  | succ count ih =>
    rw [laps, List.replicate_succ', List.flatten_concat, exec_append]
    rw [laps] at ih
    rw [ih]
    exact lap_laden count

/-- The last items of a list that grows, the oldest given up at capacity. -/
theorem window_concat {α : Type} {capacity count : Nat} (some : 0 < capacity) (held : List α)
    (last : α) (length : held.length = count) :
    (if capacity ≤ count - (count - capacity) then (held.drop (count - capacity)).drop 1
      else held.drop (count - capacity)) ++ [last] =
      (held ++ [last]).drop (count + 1 - capacity) := by
  by_cases full : capacity ≤ count
  · have next : count - capacity + 1 = count + 1 - capacity := by omega
    rw [if_pos (by omega), List.drop_drop, next, List.drop_append_of_le_length (by omega)]
  · have none : count - capacity = 0 := by omega
    have next : count + 1 - capacity = 0 := by omega
    rw [if_neg (by omega), none, next]
    rfl

/-- The tracker holds the uids of the last 256 requests. -/
theorem order_laden (count : Nat) :
    (laden count).tasks.order =
      ((List.range count).map fun turn => Config.plain.uuid (2 * turn + 1)).drop (count - 256) := by
  induction count with
  | zero => rfl
  | succ count ih =>
    have sound := (Reckoned.reached (laps_laden count)).1.sound
    have length : (laden count).tasks.order.length = count - (count - 256) := by
      rw [ih, List.length_drop, List.length_map, List.length_range]
    have went : (laden (count + 1)).tasks =
      (laden count).tasks.start (Config.plain.uuid (2 * count + 1)) "lua_eval" := rfl
    rw [went, sound.order_start, length, List.range_succ, List.map_append, ih]
    exact window_concat (by decide) _ _ (by simp)

theorem first_evaluating (count : Nat) :
    Config.plain.uuid 1 ∈ (laden (count + 1)).evaluating := by
  induction count with
  | zero => exact List.mem_cons_self
  | succ count ih => exact List.mem_cons_of_mem _ ih

/-- The first request's task is forgotten once 256 others came in. -/
theorem first_forgotten : Config.plain.uuid 1 ∉ (laden 257).tasks.order := by
  rw [order_laden]
  intro member
  rw [List.drop_one, List.range_eq_range', ← List.map_tail, List.tail_range'] at member
  obtain ⟨turn, later, same⟩ := List.mem_map.mp member
  have one := Config.plain.uuid.injective same
  have := (List.mem_range'_1.mp later).1
  omega

/-- The poll of the first request's task. -/
def firstPoll : List Label :=
  asks "task_status" (.object [("task_uid", .string (Config.plain.uuid 1))]) 1

/-- The loaded server about to take up a stretch of that poll. -/
def polling (count : Nat) (handler : Handler) : Server :=
  { laden (count + 1) with
    rep := .handle handler
    minted := (laden (count + 1)).minted + 1 }

theorem firstPoll_laden {count : Nat}
    (forgotten : (laden (count + 1)).tasks.sourceMethod (Config.plain.uuid 1) = none) :
    exec (Server.step .plain) (laden (count + 1)) firstPoll =
      some (polling count (.taskStatus (Config.plain.uuid 1) false)) := by
  have asked : exec (Server.step .plain) (laden (count + 1)) (firstPoll.take 3) =
      some (polling count (.taskAccess "primary" (Config.plain.uuid 1) false)) := rfl
  have split : firstPoll = firstPoll.take 3 ++ [.rep .willing] := rfl
  rw [split, exec_append, asked]
  simp [exec, Server.step, Server.serve, Server.advance, polling, forgotten]

/-- The poll of a forgotten task reports it completed. -/
theorem forgotten_reports (count : Nat)
    (forgotten : Config.plain.uuid 1 ∉ (laden (count + 1)).tasks.order) :
    ∃ reached, exec (Server.step .plain) (.initial .permissive true)
        (laps (count + 1) ++ firstPoll) = some reached ∧
      Config.plain.uuid 1 ∈ reached.evaluating ∧
      ∃ reply, reached.Answers .plain (Config.plain.uuid 1) reply ∧ reply.reportsDone := by
  have reckoned := (Reckoned.reached (laps_laden (count + 1))).1
  have status := (reckoned.forgotten forgotten).1
  have source : (laden (count + 1)).tasks.sourceMethod (Config.plain.uuid 1) = none := by
    simpa [TaskTracker.sourceMethod, TaskTracker.status] using status
  refine ⟨polling count (.taskStatus (Config.plain.uuid 1) false), ?_, first_evaluating count,
    statusReply (Config.plain.uuid 1) "completed", ?_, statusReply_reportsDone.mpr rfl⟩
  · rw [exec_append, laps_laden]
    exact firstPoll_laden source
  · refine ⟨_, .willing, rfl, rfl, ?_⟩
    simp only [Server.advance, polling, status]
    rfl

/-- In every run the tracker is in order and the counter counts the spawned evaluations that have
not returned, and a poll is answered honestly exactly when it can be. -/
theorem task_results {config : Config} {permissions : Permissions} {seeded : Bool}
    {labels : List Label} {reached : Server}
    (ran : exec (Server.step config) (.initial permissions seeded) labels = some reached) :
    reached.tasks.order.Nodup ∧
      (reached.tasks.entries.map Prod.fst).Perm reached.tasks.order ∧
      reached.tasks.entries.length ≤ 256 ∧
      reached.manager.workerBackgroundTasks =
        reached.evaluating.length + reached.reporting.length ∧
      ∀ uid reply, reached.Answers config uid reply →
        (Honest reached labels uid reply ↔ Answerable reached labels uid) := by
  obtain ⟨reckoned, reads⟩ := Reckoned.reached ran
  refine ⟨reckoned.sound.distinct, reckoned.sound.same, ?_, reckoned.counted, fun uid reply =>
    honest_iff_answerable reckoned reads⟩
  rw [reckoned.sound.length]
  exact reckoned.sound.bounded

/-- Two evaluations begin, the first ends, and its result is asked for. -/
def polledLaps : List Label :=
  laps 2 ++ [.evaluated (Config.plain.uuid 1) ⟨"3", some "3", none⟩] ++
    asks "task_result" (.object [("task_uid", .string (Config.plain.uuid 1))]) 3

theorem task_results_lap :
    ∃ reached, exec (Server.step .plain) (.initial .permissive true) polledLaps = some reached ∧
      reached.manager.workerBackgroundTasks = 2 ∧
      ∃ reply, reached.Answers .plain (Config.plain.uuid 1) reply ∧
        Honest reached polledLaps (Config.plain.uuid 1) reply := by
  have ran : exec (Server.step .plain) (.initial .permissive true) polledLaps = some _ := rfl
  obtain ⟨_, _, _, counted, polls⟩ := task_results ran
  refine ⟨_, ran, counted.trans rfl, _, ⟨_, .willing, rfl, rfl, rfl⟩, ?_⟩
  refine (polls _ _ ⟨_, .willing, rfl, rfl, rfl⟩).mpr ?_
  exact ⟨by decide, fun _ _ => .inl (by decide)⟩

/-- After 256 more requests the poll of an evaluation that goes on reports it completed. -/
theorem forgotten_reports_completed :
    ∃ reached, exec (Server.step .plain) (.initial .permissive true) (laps 257 ++ firstPoll) =
        some reached ∧ Config.plain.uuid 1 ∈ reached.evaluating ∧
      ∃ reply, reached.Answers .plain (Config.plain.uuid 1) reply ∧ reply.reportsDone :=
  forgotten_reports 256 first_forgotten

end Bsrs.Qs
