import Bsrs.Qs.Agreement
import Bsrs.Qs.Answering
import Bsrs.Qs.Arms

namespace Bsrs.Qs

open Bsrs.Core (Json)
open Bsrs.Library (exec)

/-- The executions the server started, each with where it stands. -/
def Server.executions (server : Server) : List (Nat × WorkerCode) :=
  server.crew.workers.map fun worker => (worker.generation, worker.code)

namespace Handler

/-- May touch the queue or its history, or start an execution, in this stretch or in a later one. -/
def entersQueue : Handler → Bool
  | .edit _ _ | .resolve _ _ | .autostart _ | .startEngine _ | .startState _ | .startClaim _
  | .startSpawn _ _ | .startRegister _ _ _ | .openSlot | .openCreating | .openHook | .openInstall
  | .openIdle | .setAutostart _ => true
  | _ => false

/-- Opens, closes or destroys the environment. -/
def entersEnvironment : Handler → Bool
  | .openSlot | .openCreating | .openHook | .openFailed | .openInstall | .openIdle
  | .closeEngine | .closeActive | .closeClosing | .closeDrop | .closeClosed
  | .destroySlot | .destroyTake | .destroyAbort _ | .destroyDestroying | .destroyDrop
  | .destroyClosed => true
  | _ => false

/-- Takes, replaces or releases the lock. -/
def turnsLock (config : Config) (lock : LockInfo) : Handler → Bool
  | .lockApply _ _ _ _ key | .lockRelease key => keyMatches config lock key
  | _ => false

end Handler

namespace Rep

def entersQueue : Rep → Bool
  | .handle handler => handler.entersQueue
  | _ => false

def entersEnvironment : Rep → Bool
  | .handle handler => handler.entersEnvironment
  | _ => false

def turnsLock (config : Config) (lock : LockInfo) : Rep → Bool
  | .handle handler => handler.turnsLock config lock
  | _ => false

end Rep

/-- The methods the gate keeps from a locked queue. -/
def Method.gatesQueue (method : Method) : Bool :=
  method.name ∉ alwaysAllowed &&
    (startsWith method.name "queue_" || startsWith method.name "history_" ||
      startsWith method.name "re_")

/-- The methods the gate keeps from a locked environment. -/
def Method.gatesEnvironment (method : Method) : Bool :=
  method.name ∉ alwaysAllowed && method.name ∈ environmentMethods

/-- The environment can be opened, and an armed queue is ready to start with it. -/
def Server.opensArmed (outside : Outside) (server : Server) : Bool :=
  !server.engine && outside.accepts && server.manager.queueAutostartEnabled &&
    !server.queue.items.isEmpty && !server.crew.slot.isActive

/-- The request opens an environment that is not locked, and the armed queue starts with it. -/
def Server.startsOnOpen (outside : Outside) (server : Server) (request : Request) : Prop :=
  request.method = "environment_open" ∧
    server.permissions.check request.method request.params
      (server.permissions.resolveGroup request.params) = .ok () ∧
    server.manager.lock.environment = false ∧ server.opensArmed outside = true

section

variable {config : Config} {outside : Outside} {server : Server} {handler : Handler}
  {params : Json} {group : String} {method : Method} {minted : Nat} {lock : LockInfo}

theorem Purpose.entersEnvironment_refused (purpose : Purpose) (msg : String) :
    (purpose.refused msg).entersEnvironment = false := by
  rcases purpose with _ | ⟨_ | _⟩ | _ <;> rfl

theorem Purpose.entersEnvironment_started (purpose : Purpose) :
    purpose.started.entersEnvironment = false := by
  rcases purpose with _ | ⟨_ | _⟩ | _ <;> rfl

/-- The queue and its executions are left alone outside the handlers that enter them. -/
theorem Server.advance_queue (config : Config) (outside : Outside) (server : Server)
    (outer : handler.entersQueue = false) :
    (server.advance config outside handler).1.queue = server.queue ∧
      (server.advance config outside handler).1.executions = server.executions ∧
      (server.advance config outside handler).2.entersQueue = false := by
  cases handler with
  | edit | resolve | autostart | startEngine | startState | startClaim | startSpawn | startRegister
  | openSlot | openCreating | openHook | openInstall | openIdle | setAutostart => cases outer
  | destroyAbort task | stopAbort task =>
      refine ⟨?_, ?_, rfl⟩
      · cases task <;> rfl
      · cases task with
        | none => rfl
        | some task => exact Crew.map_modify_same _ task fun _ => rfl
  | closeEngine | closeActive | destroySlot | taskAccess | taskStatus =>
      refine ⟨rfl, rfl, ?_⟩
      simp only [Server.advance]
      repeat' split
      all_goals rfl
  | metadata fields =>
      simp only [Server.advance]
      split
      · cases fields <;> exact ⟨rfl, rfl, rfl⟩
      · exact ⟨rfl, rfl, rfl⟩
  | pauseCall | control | lockApply | lockRelease | reload =>
      simp only [Server.advance]
      repeat' split
      all_goals exact ⟨rfl, rfl, rfl⟩
  | _ => exact ⟨rfl, rfl, rfl⟩

/-- The environment is left alone outside the handlers that enter it. -/
theorem Server.advance_environment (config : Config) (outside : Outside) (server : Server)
    (outer : handler.entersEnvironment = false) :
    (server.advance config outside handler).1.engine = server.engine ∧
      (server.advance config outside handler).1.manager.state = server.manager.state ∧
      (server.advance config outside handler).2.entersEnvironment = false := by
  cases handler with
  | openSlot | openCreating | openHook | openFailed | openInstall | openIdle | closeEngine
  | closeActive | closeClosing | closeDrop | closeClosed | destroySlot | destroyTake | destroyAbort
  | destroyDestroying | destroyDrop | destroyClosed => cases outer
  | autostart after =>
      refine ⟨rfl, rfl, ?_⟩
      simp only [Server.advance]
      split
      · cases after <;> rfl
      · rfl
  | startEngine purpose | startState purpose =>
      refine ⟨rfl, rfl, ?_⟩
      simp only [Server.advance]
      split
      · rfl
      · exact purpose.entersEnvironment_refused _
  | startClaim purpose =>
      simp only [Server.advance]
      split
      · exact ⟨rfl, rfl, rfl⟩
      · exact ⟨rfl, rfl, purpose.entersEnvironment_refused _⟩
  | startRegister purpose => exact ⟨rfl, rfl, purpose.entersEnvironment_started⟩
  | stopAbort task => cases task <;> exact ⟨rfl, rfl, rfl⟩
  | edit | setAutostart | taskAccess | taskStatus =>
      refine ⟨rfl, rfl, ?_⟩
      simp only [Server.advance]
      repeat' split
      all_goals rfl
  | metadata fields =>
      simp only [Server.advance]
      split
      · cases fields <;> exact ⟨rfl, rfl, rfl⟩
      · exact ⟨rfl, rfl, rfl⟩
  | pauseCall | control | lockApply | lockRelease | reload =>
      simp only [Server.advance]
      repeat' split
      all_goals exact ⟨rfl, rfl, rfl⟩
  | _ => exact ⟨rfl, rfl, rfl⟩

/-- The lock is left alone without its key. -/
theorem Server.advance_lock (config : Config) (outside : Outside) (server : Server) (lock : LockInfo)
    (outer : handler.turnsLock config server.manager.lock = false) :
    (server.advance config outside handler).1.manager.lock = server.manager.lock ∧
      (server.advance config outside handler).2.turnsLock config lock = false := by
  cases handler with
  | lockApply environment queue user note key =>
      have other : ¬ keyMatches config server.manager.lock key = true := Bool.eq_false_iff.mp outer
      simp only [Server.advance, if_neg other, true_and]
      rfl
  | lockRelease key =>
      have other : ¬ keyMatches config server.manager.lock key = true := Bool.eq_false_iff.mp outer
      simp only [Server.advance, if_neg other, true_and]
      rfl
  | autostart after =>
      refine ⟨rfl, ?_⟩
      simp only [Server.advance]
      split
      · cases after <;> rfl
      · rfl
  | startEngine purpose | startState purpose =>
      refine ⟨rfl, ?_⟩
      simp only [Server.advance]
      split
      · rfl
      · rcases purpose with _ | ⟨_ | _⟩ | _ <;> rfl
  | startClaim purpose =>
      simp only [Server.advance]
      split
      · exact ⟨rfl, rfl⟩
      · refine ⟨rfl, ?_⟩
        rcases purpose with _ | ⟨_ | _⟩ | _ <;> rfl
  | startRegister purpose =>
      refine ⟨rfl, ?_⟩
      rcases purpose with _ | ⟨_ | _⟩ | _ <;> rfl
  | stopAbort task | destroyAbort task => cases task <;> exact ⟨rfl, rfl⟩
  | edit | openSlot | openHook | closeEngine | closeActive | destroySlot | setAutostart | taskAccess
  | taskStatus =>
      refine ⟨rfl, ?_⟩
      simp only [Server.advance]
      repeat' split
      all_goals rfl
  | metadata fields =>
      simp only [Server.advance]
      split
      · cases fields <;> exact ⟨rfl, rfl⟩
      · exact ⟨rfl, rfl⟩
  | pauseCall | control | reload =>
      simp only [Server.advance]
      repeat' split
      all_goals exact ⟨rfl, rfl⟩
  | _ => exact ⟨rfl, rfl⟩

theorem Server.settle_queue (stretches : Nat) (outer : server.rep.entersQueue = false) :
    (server.settle config outside stretches).queue = server.queue ∧
      (server.settle config outside stretches).executions = server.executions := by
  have kept := Server.settle_holds config outside
    (fun next => next.rep.entersQueue = false ∧ next.queue = server.queue ∧
      next.executions = server.executions) ?_ stretches ⟨outer, rfl, rfl⟩
  · exact kept.2
  · rintro before handler place ⟨calm, queue, executions⟩
    rw [place] at calm
    obtain ⟨same, alike, rest⟩ := Server.advance_queue config outside before calm
    exact ⟨rest, same.trans queue, alike.trans executions⟩

theorem Server.settle_environment (stretches : Nat) (outer : server.rep.entersEnvironment = false) :
    (server.settle config outside stretches).engine = server.engine ∧
      (server.settle config outside stretches).manager.state = server.manager.state := by
  have kept := Server.settle_holds config outside
    (fun next => next.rep.entersEnvironment = false ∧ next.engine = server.engine ∧
      next.manager.state = server.manager.state) ?_ stretches ⟨outer, rfl, rfl⟩
  · exact kept.2
  · rintro before handler place ⟨calm, engine, state⟩
    rw [place] at calm
    obtain ⟨same, alike, rest⟩ := Server.advance_environment config outside before calm
    exact ⟨rest, same.trans engine, alike.trans state⟩

theorem Server.settle_lock (stretches : Nat)
    (outer : server.rep.turnsLock config server.manager.lock = false) :
    (server.settle config outside stretches).manager.lock = server.manager.lock := by
  have kept := Server.settle_holds config outside
    (fun next => next.rep.turnsLock config server.manager.lock = false ∧
      next.manager.lock = server.manager.lock) ?_ stretches ⟨outer, rfl⟩
  · exact kept.2
  · rintro before handler place ⟨calm, lock⟩
    rw [place, ← lock] at calm
    obtain ⟨same, rest⟩ := Server.advance_lock config outside before server.manager.lock calm
    exact ⟨rest, same.trans lock⟩

/-- Only the gated methods and `environment_open` enter the queue. -/
theorem Armed.entersQueue (armed : Armed config minted params group method handler)
    (enters : handler.entersQueue = true) :
    method.gatesQueue = true ∨ method = .environmentOpen := by
  cases armed with
  | opens => exact Or.inr rfl
  | clears | adds | addsBatch | updates | removes | removesBatch | movesBefore | movesAfter
  | resolves | movesBatch | executes | starts | autostarts | clearsHistory =>
      exact Or.inl (by decide)
  | _ => cases enters

/-- Only `environment_open`, `environment_close` and `environment_destroy` enter the environment. -/
theorem Armed.entersEnvironment (armed : Armed config minted params group method handler)
    (enters : handler.entersEnvironment = true) : method.gatesEnvironment = true := by
  cases armed with
  | opens | closes | destroys => decide
  | _ => cases enters

/-- Only `lock` and `unlock` turn the lock, and with the key they carry. -/
theorem Armed.turnsLock (armed : Armed config minted params group method handler)
    (turns : handler.turnsLock config lock = true) :
    ∃ key, params.text "lock_key" = some key ∧ keyMatches config lock key = true := by
  cases armed with
  | locks carried | unlocks carried => exact ⟨_, carried, turns⟩
  | _ => cases turns

/-- The gate keeps a locked queue from the methods it gates. -/
theorem lockCheck_queue (locked : lock.queue = true)
    (without : carriesKey config lock params = false)
    (passed : lockCheck config lock method.name params = true) : method.gatesQueue = false := by
  rw [Bool.eq_false_iff]
  intro gates
  simp only [Method.gatesQueue, Bool.and_eq_true, decide_eq_true_eq] at gates
  obtain ⟨denied, named⟩ := gates
  simp [lockCheck, denied, LockInfo.isLocked, locked, without, named] at passed

/-- The gate keeps a locked environment from the methods it gates. -/
theorem lockCheck_environment (locked : lock.environment = true)
    (without : carriesKey config lock params = false)
    (passed : lockCheck config lock method.name params = true) :
    method.gatesEnvironment = false := by
  rw [Bool.eq_false_iff]
  intro gates
  simp only [Method.gatesEnvironment, Bool.and_eq_true, decide_eq_true_eq] at gates
  obtain ⟨denied, named⟩ := gates
  simp [lockCheck, denied, LockInfo.isLocked, locked, without, named] at passed

/-- What an opening does with the queue: nothing, unless it starts an execution. -/
theorem Server.opened (config : Config) (outside : Outside) (server : Server)
    (place : server.rep = .handle .openSlot) :
    (server.settle config outside 12).queue = server.queue ∧
      (server.settle config outside 12).executions = server.executions ++
        if server.opensArmed outside then [(server.crew.slot.nextGen, .unpolled none)] else [] := by
  cases engine : server.engine with
  | true => simp [Server.opensArmed, Server.settle, Server.advance, Server.executions, place, engine]
  | false =>
      cases accepts : outside.accepts with
      | false =>
          simp [Server.opensArmed, Server.settle, Server.advance, Server.setState, Server.executions, place, engine,
            accepts]
      | true =>
          cases enabled : server.manager.queueAutostartEnabled with
          | false =>
              simp [Server.opensArmed, Server.settle, Server.advance, Server.setState, Server.executions, After.rep,
                place, engine, accepts, enabled]
          | true =>
              cases pending : server.queue.items with
              | nil =>
                  simp [Server.opensArmed, Server.settle, Server.advance, Server.setState, Server.executions,
                    After.rep, place, engine, accepts, enabled, pending]
              | cons item rest =>
                  cases busy : server.crew.slot.entry with
                  | some entry =>
                      simp [Server.opensArmed, Server.settle, Server.advance, Server.setState, Server.executions,
                        After.rep, Purpose.refused, Crew.claim, QueueTaskSlot.claim,
                        QueueTaskSlot.isActive, place, engine,
                        accepts, enabled, pending, busy]
                  | none =>
                      simp [Server.opensArmed, Server.settle, Server.advance, Server.setState, Server.executions,
                        After.rep, Purpose.started, Purpose.code, Crew.claim, QueueTaskSlot.claim,
                        QueueTaskSlot.isActive,
                        Crew.spawn, Crew.register, Crew.map_modify_same, place, engine, accepts,
                        enabled, pending, busy]

/-- Under a locked queue and without its key, a request that enters the queue is an
`environment_open`. -/
theorem dispatch_entersQueue {request : Request} (locked : server.manager.lock.queue = true)
    (without : carriesKey config server.manager.lock request.params = false)
    (enters : (dispatch config server request).entersQueue = true) :
    dispatch config server request = .openSlot ∧ request.method = "environment_open" ∧
      server.permissions.check request.method request.params
        (server.permissions.resolveGroup request.params) = .ok () ∧
      server.manager.lock.environment = false := by
  rcases dispatch_cases config server request with
    ⟨reason, refused⟩ | ⟨method, parsed, allowed, passed, taken⟩
  · rw [refused] at enters
    cases enters
  · have named := Method.name_of_parse parsed
    rw [taken] at enters
    rcases (armed method).entersQueue enters with gated | rfl
    · rw [← named] at passed
      rw [lockCheck_queue locked without passed] at gated
      cases gated
    · refine ⟨taken, named.symm, allowed, ?_⟩
      rw [Bool.eq_false_iff]
      intro environment
      rw [← named] at passed
      have open_gated := lockCheck_environment environment without passed
      revert open_gated
      decide

theorem dispatch_of_startsOnOpen {request : Request}
    (starts : server.startsOnOpen outside request) :
    dispatch config server request = .openSlot := by
  obtain ⟨named, allowed, unlocked, _⟩ := starts
  have passed : lockCheck config server.manager.lock request.method request.params = true := by
    have outer : ("environment_open" ∈ alwaysAllowed) = False := by decide
    have queue : startsWith "environment_open" "queue_" = false := by decide
    have history : startsWith "environment_open" "history_" = false := by decide
    have engine : startsWith "environment_open" "re_" = false := by decide
    simp [lockCheck, named, unlocked, outer, queue, history, engine]
  have parsed : Method.parse request.method = some .environmentOpen := by
    rw [named]
    decide
  simp only [dispatch, allowed, passed, parsed, if_true, arm]

/-- The lock is turned only with its key. -/
theorem dispatch_turnsLock {request : Request} (locked : server.manager.lock.isLocked = true)
    (foreign : ∀ other, request.params.text "lock_key" = some other →
      server.manager.lock.keyHash ≠ some (config.hashKey other)) :
    (dispatch config server request).turnsLock config server.manager.lock = false := by
  rcases dispatch_cases config server request with
    ⟨reason, refused⟩ | ⟨method, _, _, _, taken⟩
  · rw [refused]
    rfl
  · rw [taken, Bool.eq_false_iff]
    intro turns
    obtain ⟨other, carried, fits⟩ := (armed method).turnsLock turns
    simp [keyMatches, locked, foreign other carried] at fits

theorem dispatch_entersEnvironment {request : Request}
    (locked : server.manager.lock.environment = true)
    (without : carriesKey config server.manager.lock request.params = false) :
    (dispatch config server request).entersEnvironment = false := by
  rcases dispatch_cases config server request with
    ⟨reason, refused⟩ | ⟨method, parsed, _, passed, taken⟩
  · rw [refused]
    rfl
  · rw [taken, Bool.eq_false_iff]
    intro enters
    rw [← Method.name_of_parse parsed] at passed
    have gated := (armed method).entersEnvironment enters
    rw [lockCheck_environment locked without passed] at gated
    cases gated

/-- A request without the key of the lock leaves the lock alone, a locked environment, and a locked
queue with its history and its executions, unless it opens the environment of an armed queue. -/
theorem lock_gated {config : Config} {outside : Outside} {server : Server} {request : Request}
    {key : String} (injective : ∀ other, config.hashKey other = config.hashKey key → other = key)
    (locked : server.manager.lock.isLocked = true)
    (held : server.manager.lock.keyHash = some (config.hashKey key))
    (without : request.params.text "lock_key" ≠ some key) :
    ((server.manager.lock.queue = true →
        (server.handle config outside request).queue = server.queue ∧
          (server.handle config outside request).executions = server.executions) ∧
      (server.manager.lock.environment = true →
        (server.handle config outside request).engine = server.engine ∧
          (server.handle config outside request).manager.state = server.manager.state) ∧
      (server.handle config outside request).manager.lock = server.manager.lock) ↔
    ¬ (server.manager.lock.queue = true ∧ server.startsOnOpen outside request) := by
  have foreign : ∀ other, request.params.text "lock_key" = some other →
      server.manager.lock.keyHash ≠ some (config.hashKey other) := by
    intro other carried same
    rw [held, Option.some.injEq] at same
    rw [injective other same.symm] at carried
    exact without carried
  have barred : carriesKey config server.manager.lock request.params = false := by
    cases carried : request.params.text "lock_key" with
    | none => simp [carriesKey, carried, held]
    | some other => simp [carriesKey, carried, (foreign other carried).symm]
  constructor
  · rintro ⟨queue, _, _⟩ ⟨closed, starts⟩
    have opened := Server.opened config outside (server.receive config request)
      (congrArg Rep.handle (dispatch_of_startsOnOpen starts))
    have armed : (server.receive config request).opensArmed outside = true := starts.2.2.2
    rw [if_pos armed] at opened
    have grown := congrArg List.length ((queue closed).2.symm.trans opened.2)
    simp [Server.executions, Server.receive] at grown
  · intro calm
    refine ⟨fun closed => ?_, fun closed => ?_, ?_⟩
    · cases enters : (dispatch config server request).entersQueue with
      | false => exact Server.settle_queue 12 enters
      | true =>
          obtain ⟨opens, named, allowed, unlocked⟩ := dispatch_entersQueue closed barred enters
          have opened := Server.opened config outside (server.receive config request)
            (congrArg Rep.handle opens)
          have resting : (server.receive config request).opensArmed outside ≠ true :=
            fun armed => calm ⟨closed, named, allowed, unlocked, armed⟩
          rwa [if_neg resting, List.append_nil] at opened
    · exact Server.settle_environment 12 (dispatch_entersEnvironment closed barred)
    · exact Server.settle_lock 12 (dispatch_turnsLock locked foreign)

end

/-- Lock the queue with the key `key`. -/
def queueLock : List Label :=
  asks "lock" (.object [("queue", .bool true), ("lock_key", .string "key")]) 2

/-- A queue with one item is locked, and asked to clear. -/
theorem lock_gated_clear :
    ∃ reached ∈ exec (Server.step .plain) (.initial .permissive false)
        (asks "queue_item_add" countItem 3 ++ queueLock),
      reached.queue.items.length = 1 ∧
        (reached.handle .plain .willing ⟨"queue_clear", .null⟩).queue = reached.queue := by
  have locks : ∃ reached ∈ exec (Server.step .plain) (.initial .permissive false)
        (asks "queue_item_add" countItem 3 ++ queueLock),
      reached.queue.items.length = 1 ∧ reached.manager.lock.queue = true ∧
        reached.manager.lock.isLocked = true ∧
        reached.manager.lock.keyHash = some (Config.plain.hashKey "key") := by
    decide +kernel
  obtain ⟨reached, ran, one, closed, locked, held⟩ := locks
  have injective : ∀ other, Config.plain.hashKey other = Config.plain.hashKey "key" →
      other = "key" := by
    intro other same
    by_contra differs
    simp [Config.plain, differs] at same
  have without : Json.null.text "lock_key" ≠ some "key" := nofun
  have calm : ¬ (reached.manager.lock.queue = true ∧
      reached.startsOnOpen .willing ⟨"queue_clear", .null⟩) :=
    fun breach => absurd breach.2.1 (by decide)
  exact ⟨reached, ran, one, (((lock_gated injective locked held without).mpr calm).1 closed).1⟩

/-- The queue is armed and locked, and an `environment_open` without the key starts it. -/
theorem lock_opened :
    ∃ reached ∈ exec (Server.step .plain) (.initial .permissive false)
        (asks "queue_autostart" (.object [("enable", .bool true)]) 3 ++
          asks "queue_item_add" countItem 4 ++ queueLock),
      reached.manager.lock.queue = true ∧
        reached.manager.lock.keyHash = some (Config.plain.hashKey "key") ∧
        (reached.handle .plain .willing ⟨"environment_open", .null⟩).executions ≠
          reached.executions := by
  have starts : ∃ reached ∈ exec (Server.step .plain) (.initial .permissive false)
        (asks "queue_autostart" (.object [("enable", .bool true)]) 3 ++
          asks "queue_item_add" countItem 4 ++ queueLock),
      reached.manager.lock.queue = true ∧
        reached.manager.lock.keyHash = some (Config.plain.hashKey "key") ∧
        (reached.handle .plain .willing ⟨"environment_open", .null⟩).executions.length ≠
          reached.executions.length := by
    decide +kernel
  obtain ⟨reached, ran, closed, held, more⟩ := starts
  exact ⟨reached, ran, closed, held, fun same => more (congrArg List.length same)⟩

end Bsrs.Qs
