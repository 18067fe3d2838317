import Bsrs.Qs.Server
import Mathlib.Algebra.Group.Nat.Defs

namespace Bsrs.Qs

open Bsrs.Core (Json)

/-- The methods `dispatch` has an arm for. -/
inductive Method where
  | ping | status | configGet
  | plansAllowed | plansExisting | devicesAllowed | devicesExisting | deviceInspect
  | environmentOpen | environmentClose | environmentDestroy | environmentUpdate
  | queueGet | queueClear | queueItemAdd | queueItemAddBatch | queueItemUpdate | queueItemGet
  | queueItemRemove | queueItemRemoveBatch | queueItemMove | queueItemMoveBatch | queueItemExecute
  | queueStart | queueStop | queueStopCancel | queueAutostart | queueModeSet
  | historyGet | historyClear
  | rePause | reResume | reAbort | reHalt | reStop | reRuns | reMetadata
  | lock | lockInfo | unlock
  | taskStatus | taskResult | luaEval | managerTest | permissionsGet | permissionsReload
  | managerStop | functionExecute
  | permissionsSet | scriptUpload | kernelInterrupt | managerKill
  deriving Repr, DecidableEq

namespace Method

def name : Method → String
  | .ping => "ping"
  | .status => "status"
  | .configGet => "config_get"
  | .plansAllowed => "plans_allowed"
  | .plansExisting => "plans_existing"
  | .devicesAllowed => "devices_allowed"
  | .devicesExisting => "devices_existing"
  | .deviceInspect => "device_inspect"
  | .environmentOpen => "environment_open"
  | .environmentClose => "environment_close"
  | .environmentDestroy => "environment_destroy"
  | .environmentUpdate => "environment_update"
  | .queueGet => "queue_get"
  | .queueClear => "queue_clear"
  | .queueItemAdd => "queue_item_add"
  | .queueItemAddBatch => "queue_item_add_batch"
  | .queueItemUpdate => "queue_item_update"
  | .queueItemGet => "queue_item_get"
  | .queueItemRemove => "queue_item_remove"
  | .queueItemRemoveBatch => "queue_item_remove_batch"
  | .queueItemMove => "queue_item_move"
  | .queueItemMoveBatch => "queue_item_move_batch"
  | .queueItemExecute => "queue_item_execute"
  | .queueStart => "queue_start"
  | .queueStop => "queue_stop"
  | .queueStopCancel => "queue_stop_cancel"
  | .queueAutostart => "queue_autostart"
  | .queueModeSet => "queue_mode_set"
  | .historyGet => "history_get"
  | .historyClear => "history_clear"
  | .rePause => "re_pause"
  | .reResume => "re_resume"
  | .reAbort => "re_abort"
  | .reHalt => "re_halt"
  | .reStop => "re_stop"
  | .reRuns => "re_runs"
  | .reMetadata => "re_metadata"
  | .lock => "lock"
  | .lockInfo => "lock_info"
  | .unlock => "unlock"
  | .taskStatus => "task_status"
  | .taskResult => "task_result"
  | .luaEval => "lua_eval"
  | .managerTest => "manager_test"
  | .permissionsGet => "permissions_get"
  | .permissionsReload => "permissions_reload"
  | .managerStop => "manager_stop"
  | .functionExecute => "function_execute"
  | .permissionsSet => "permissions_set"
  | .scriptUpload => "script_upload"
  | .kernelInterrupt => "kernel_interrupt"
  | .managerKill => "manager_kill"

def all : List Method :=
  [.ping, .status, .configGet, .plansAllowed, .plansExisting, .devicesAllowed, .devicesExisting,
    .deviceInspect, .environmentOpen, .environmentClose, .environmentDestroy, .environmentUpdate,
    .queueGet, .queueClear, .queueItemAdd, .queueItemAddBatch, .queueItemUpdate, .queueItemGet,
    .queueItemRemove, .queueItemRemoveBatch, .queueItemMove, .queueItemMoveBatch,
    .queueItemExecute, .queueStart, .queueStop, .queueStopCancel, .queueAutostart, .queueModeSet,
    .historyGet, .historyClear, .rePause, .reResume, .reAbort, .reHalt, .reStop, .reRuns,
    .reMetadata, .lock, .lockInfo, .unlock, .taskStatus, .taskResult, .luaEval, .managerTest,
    .permissionsGet, .permissionsReload, .managerStop, .functionExecute, .permissionsSet,
    .scriptUpload, .kernelInterrupt, .managerKill]

/-- The arm a method name selects; `none` for the catch-all. -/
def parse (text : String) : Option Method :=
  all.find? fun method => method.name == text

theorem name_of_parse {text : String} (parsed : parse text = some method) : method.name = text := by
  simpa using List.find?_some parsed

end Method

/-- `QsRequest`. -/
structure Request where
  method : String
  params : Json

/-- The methods `lock_check` lets through whatever is locked. -/
def alwaysAllowed : List String :=
  ["ping", "status", "config_get", "queue_get", "history_get", "lock_info", "plans_allowed",
    "plans_existing", "devices_allowed", "devices_existing", "re_runs", "re_metadata",
    "task_status", "task_result", "manager_test"]

def environmentMethods : List String :=
  ["environment_open", "environment_close", "environment_destroy", "environment_update"]

def startsWith (method start : String) : Bool :=
  start.toList.isPrefixOf method.toList

/-- Whether the request carries the key the lock was taken with. -/
def carriesKey (config : Config) (lock : LockInfo) (params : Json) : Bool :=
  (params.text "lock_key").map config.hashKey = lock.keyHash

/-- `lock_check`. -/
def lockCheck (config : Config) (lock : LockInfo) (method : String) (params : Json) : Bool :=
  if method ∈ alwaysAllowed then true
  else if !lock.isLocked then true
  else if method = "unlock" then carriesKey config lock params
  else
    let queueMethod :=
      startsWith method "queue_" || startsWith method "history_" || startsWith method "re_"
    let blocked :=
      (lock.environment && method ∈ environmentMethods) || (lock.queue && queueMethod)
    if blocked then carriesKey config lock params else true

/-- The submitter of the request, on an item it builds. -/
def QueuedItem.submittedBy (item : QueuedItem) (params : Json) : QueuedItem :=
  { item with user := params.text "user", userGroup := params.text "user_group" }

/-- The ambiguity checks both adds make on the position. -/
def positionError (params : Json) : Option String :=
  if (params.get "pos").isSome ∧
      ((params.text "before_uid").isSome ∨ (params.text "after_uid").isSome) then
    some "ambiguous: cannot specify both 'pos' and 'before_uid'/'after_uid'"
  else if (params.text "before_uid").isSome ∧ (params.text "after_uid").isSome then
    some "ambiguous: cannot specify both 'before_uid' and 'after_uid'"
  else none

/-- The item `queue_item_add` builds, by its `item_type`. -/
def addedItem (config : Config) (uid name : String) (item : Json) : Except String QueuedItem :=
  let itemType := (item.text "item_type").getD "plan"
  if itemType = "plan" then
    if (config.plan name).isNone then .error s!"unknown plan: {name}"
    else .ok (.plan uid name item)
  else if itemType = "instruction" then
    if name ≠ "queue_stop" then
      .error s!"unsupported instruction: {name.quote} (only 'queue_stop' is supported)"
    else .ok (.instruction uid name)
  else .error s!"unsupported item_type: {itemType.quote}"

/-- `queue_item_add` up to its hold of the queue; the uid is the next the server mints. -/
def queueItemAdd (config : Config) (minted : Nat) (params : Json) : Handler :=
  match params.get "item" with
  | none => .reply (.err "missing 'item'")
  | some item =>
      match item.text "name" with
      | none => .reply (.err "item.name required")
      | some name =>
          match positionError params with
          | some msg => .reply (.err msg)
          | none =>
              match addedItem config (config.uuid minted) name item with
              | .error msg => .reply (.err msg)
              | .ok queued =>
                  .edit (.add (queued.submittedBy params) (params.get "pos")
                    (params.text "before_uid") (params.text "after_uid")) true

/-- The items of a batch, under the uids from `minted` on; `none` once one is rejected. -/
def batchItems (config : Config) (params : Json) : Nat → List Json → Option (List QueuedItem)
  | _, [] => some []
  | minted, item :: rest =>
      match item.text "name" with
      | none => none
      | some name =>
          if (config.plan name).isNone then none
          else
            (batchItems config params (minted + 1) rest).map fun later =>
              (QueuedItem.plan (config.uuid minted) name item).submittedBy params :: later

/-- `queue_item_add_batch` up to its hold of the queue. -/
def queueItemAddBatch (config : Config) (minted : Nat) (params : Json) : Handler :=
  match (params.get "items").bind Json.asArray with
  | none => .reply (.err "missing 'items' array")
  | some items =>
      match positionError params with
      | some msg => .reply (.err msg)
      | none =>
          match batchItems config params minted items with
          | none => .reply (.err "batch rejected: one or more items failed validation")
          | some prepared =>
              .edit (.addBatch prepared (params.get "pos") (params.text "before_uid")
                (params.text "after_uid")) true

def queueItemUpdate (config : Config) (minted : Nat) (params : Json) : Handler :=
  match params.get "item" with
  | none => .reply (.err "missing 'item'")
  | some item =>
      match item.text "item_uid" with
      | none => .reply (.err "item.item_uid required")
      | some uid =>
          let replacement := QueuedItem.plan (config.uuid minted) ((item.text "name").getD "") item
          .edit (.update uid replacement ((params.flag "replace").getD false)) false

def queueItemRemove (params : Json) : Handler :=
  match params.text "uid" with
  | none => .reply (.err "uid required")
  | some uid => .edit (.remove uid) false

/-- The texts among the entries of an array parameter. -/
def texts (params : Json) (key : String) : Option (List String) :=
  ((params.get key).bind Json.asArray).map fun values => values.filterMap Json.asStr

def queueItemRemoveBatch (params : Json) : Handler :=
  match texts params "uids" with
  | none => .reply (.err "missing 'uids' array")
  | some uids => .edit (.removeBatch uids) false

def queueItemMove (params : Json) : Handler :=
  match params.text "uid" with
  | none => .reply (.err "uid required")
  | some uid =>
      match params.text "before_uid", params.text "after_uid" with
      | some reference, _ => .edit (.moveBefore uid reference) false
      | none, some reference => .edit (.moveAfter uid reference) false
      | none, none => .resolve uid (params.get "pos_dest")

/-- `queue_item_move_batch` up to its hold of the queue. -/
def queueItemMoveBatch (params : Json) : Handler :=
  match texts params "uids" with
  | none => .reply (.err "missing 'uids' array")
  | some uids =>
      let reorder := (params.flag "reorder").getD false
      let posDest := (params.get "pos_dest").filter fun pos => !pos.isNull
      match posDest, params.text "before_uid", params.text "after_uid" with
      | none, none, none =>
          .reply (.err
            "destination not specified: use 'pos_dest', 'before_uid', or 'after_uid'")
      | some pos, none, none => .edit (.moveBatch uids (.pos pos) reorder) false
      | none, some uid, none => .edit (.moveBatch uids (.before uid) reorder) false
      | none, none, some uid => .edit (.moveBatch uids (.after uid) reorder) false
      | _, _, _ =>
          .reply (.err "ambiguous: only one of 'pos_dest', 'before_uid', 'after_uid'")

/-- `queue_item_execute` up to its look at the engine. The item is minted after the claim, and the
model mints it here. -/
def queueItemExecute (config : Config) (minted : Nat) (params : Json) : Handler :=
  match params.get "item" with
  | none => .reply (.err "missing 'item'")
  | some item =>
      if (item.text "item_type").getD "plan" ≠ "plan" then
        .reply (.err "queue_item_execute: only 'plan' items are supported")
      else
        match item.text "name" with
        | none => .reply (.err "item.name required")
        | some name =>
            match config.plan name with
            | none => .reply (.err s!"unknown plan: {name}")
            | some factory =>
                match factory item with
                | .error reason => .reply (.err s!"plan build failed: {reason}")
                | .ok () =>
                    .startEngine (.execute
                      ((QueuedItem.plan (config.uuid minted) name item).submittedBy params))

def queueAutostart (params : Json) : Handler :=
  let unclear : Handler :=
    .reply (.err ("queue_autostart: required param 'enable' (bool) or 'option' " ++
      "(\"enable\"/\"disable\")"))
  match params.get "enable", params.get "option" with
  | some (.bool enable), _ => .setAutostart enable
  | none, some (.string option) =>
      if option = "enable" then .setAutostart true
      else if option = "disable" then .setAutostart false
      else unclear
  | _, _ => unclear

def queueModeSet (params : Json) : Handler :=
  match (params.get "mode").bind Json.asObject with
  | some mode => .setMode mode
  | none => .reply (.err "missing 'mode' object")

def lockApply (params : Json) : Handler :=
  match params.text "lock_key" with
  | none => .reply (.err "missing 'lock_key'")
  | some key =>
      let environment := (params.flag "environment").getD false
      let queue := (params.flag "queue").getD false
      if !environment && !queue then
        .reply (.err "must lock at least one of `environment` / `queue`")
      else .lockApply environment queue (params.text "user") (params.text "note") key

def lockRelease (params : Json) : Handler :=
  match params.text "lock_key" with
  | none => .reply (.err "missing 'lock_key'")
  | some key => .lockRelease key

/-- `lua_source_for_function`. -/
def luaSourceForFunction (name : String) (args kwargs : Json) : String :=
  let positional := (args.asArray.getD []).map Json.print
  let keyword :=
    match kwargs.asObject with
    | some (field :: rest) =>
        ["\x7b" ++ ",".intercalate ((field :: rest).map fun pair => pair.1 ++ "=" ++ pair.2.print)
          ++ "\x7d"]
    | _ => []
  s!"return {name}(" ++ ",".intercalate (positional ++ keyword) ++ ")"

/-- `lua_eval` up to its spawn. -/
def luaEval (config : Config) (params : Json) : Handler :=
  match params.text "source" with
  | none => .reply (.err "lua_eval: missing string param 'source'")
  | some source =>
      if 2 ^ 20 < source.utf8ByteSize then
        .reply (.err
          s!"lua_eval: source too large ({source.utf8ByteSize} bytes, max {2 ^ 20} bytes)")
      else if config.luaEvaluator then .evaluate "lua_eval" source none
      else
        .reply (.err ("lua_eval: this bsrs-qs build has no Lua evaluator wired " ++
          "(use `bsrs qs-manager` rather than a custom build)"))

/-- `function_execute` up to its spawn. -/
def functionExecute (config : Config) (params : Json) : Handler :=
  match params.get "item" with
  | none => .reply (.err "function_execute: missing 'item'")
  | some item =>
      let itemType := (item.text "item_type").getD "function"
      if itemType ≠ "function" then
        .reply (.err
          s!"function_execute: item_type must be 'function', got {itemType.quote}")
      else
        match item.text "name" with
        | none => .reply (.err "function_execute: item.name required")
        | some name =>
            if config.luaEvaluator then
              let args := (item.get "args").getD (.array [])
              let kwargs := (item.get "kwargs").getD (.object [])
              .evaluate "function_execute" (luaSourceForFunction name args kwargs) (some item)
            else
              .reply (.err ("function_execute: no Lua evaluator wired " ++
                "(use `bsrs qs-manager` rather than a custom build)"))

/-- The arm of `dispatch` for a method, after both gates. Read-only arms answer at once; what they
report is left out. -/
def arm (config : Config) (minted : Nat) (params : Json) (group : String) :
    Method → Handler
  | .ping | .status | .configGet | .plansAllowed | .plansExisting | .devicesAllowed
  | .devicesExisting | .deviceInspect | .environmentUpdate | .queueGet | .queueItemGet
  | .historyGet | .reRuns | .lockInfo | .managerTest | .permissionsGet => .reply (.ok [])
  | .environmentOpen => .openSlot
  | .environmentClose => .closeEngine
  | .environmentDestroy => .destroySlot
  | .queueClear => .edit .clear false
  | .queueItemAdd => queueItemAdd config minted params
  | .queueItemAddBatch => queueItemAddBatch config minted params
  | .queueItemUpdate => queueItemUpdate config minted params
  | .queueItemRemove => queueItemRemove params
  | .queueItemRemoveBatch => queueItemRemoveBatch params
  | .queueItemMove => queueItemMove params
  | .queueItemMoveBatch => queueItemMoveBatch params
  | .queueItemExecute => queueItemExecute config minted params
  | .queueStart => .startEngine .start
  | .queueStop => .setStop true
  | .queueStopCancel => .setStop false
  | .queueAutostart => queueAutostart params
  | .queueModeSet => queueModeSet params
  | .historyClear => .edit .clearHistory false
  | .rePause => .pauseCall (params.text "option" == some "deferred")
  | .reResume => .clearPause .resume
  | .reAbort => .clearPause (.abort "user abort")
  | .reHalt => .clearPause (.halt "user halt")
  | .reStop => .control .stop
  | .reMetadata => .metadata ((params.get "metadata").bind Json.asObject)
  | .lock => lockApply params
  | .unlock => lockRelease params
  | .taskStatus => .taskAccess group ((params.text "task_uid").getD "") false
  | .taskResult => .taskAccess group ((params.text "task_uid").getD "") true
  | .luaEval => luaEval config params
  | .functionExecute => functionExecute config params
  | .permissionsReload => .reload
  | .managerStop => .stopTake
  | method =>
      .reply (.err (s!"method '{method.name}' is registered but not implemented in bsrs-qs " ++
        "(bluesky-queueserver-only feature)"))

/-- The places a request is taken up at. -/
def Handler.isEntry : Handler → Bool
  | .edit change autostarts => autostarts == change.adds
  | .reply _ | .resolve _ _ | .startEngine _ | .openSlot | .closeEngine | .destroySlot
  | .stopTake | .setStop _ | .setAutostart _ | .setMode _ | .pauseCall _ | .clearPause _
  | .control _ | .metadata _ | .lockApply _ _ _ _ _ | .lockRelease _ | .evaluate _ _ _
  | .taskAccess _ _ _ | .reload => true
  | _ => false

theorem arm_isEntry (config : Config) (minted : Nat) (params : Json) (group : String)
    (method : Method) : (arm config minted params group method).isEntry = true := by
  cases method with
  | queueItemAdd =>
      simp only [arm, queueItemAdd]
      repeat' split
      all_goals rfl
  | queueItemAddBatch =>
      simp only [arm, queueItemAddBatch]
      repeat' split
      all_goals rfl
  | queueItemUpdate =>
      simp only [arm, queueItemUpdate]
      repeat' split
      all_goals rfl
  | queueItemRemove | queueItemRemoveBatch =>
      simp only [arm, queueItemRemove, queueItemRemoveBatch]
      split <;> rfl
  | queueItemMove =>
      simp only [arm, queueItemMove]
      repeat' split
      all_goals rfl
  | queueItemMoveBatch =>
      simp only [arm, queueItemMoveBatch]
      repeat' split
      all_goals rfl
  | queueItemExecute =>
      simp only [arm, queueItemExecute]
      repeat' split
      all_goals rfl
  | queueAutostart =>
      simp only [arm, queueAutostart]
      repeat' split
      all_goals rfl
  | queueModeSet =>
      simp only [arm, queueModeSet]
      split <;> rfl
  | lock | unlock =>
      simp only [arm, lockApply, lockRelease]
      repeat' split
      all_goals rfl
  | luaEval | functionExecute =>
      simp only [arm, luaEval, functionExecute]
      repeat' split
      all_goals rfl
  | _ => rfl

/-- How many uuids an arm may mint before its first hold of a lock. -/
def mintedBy (params : Json) : Nat :=
  (((params.get "items").bind Json.asArray).getD []).length + 1

/-- `dispatch`: the RBAC gate, the lock gate, the method's arm. -/
def dispatch (config : Config) (server : Server) (request : Request) : Handler :=
  let group := server.permissions.resolveGroup request.params
  match server.permissions.check request.method request.params group with
  | .error reason => .reply (.err reason)
  | .ok () =>
      if lockCheck config server.manager.lock request.method request.params then
        match Method.parse request.method with
        | some method => arm config server.minted request.params group method
        | none => .reply (.err s!"unknown method: {request.method}")
      else
        .reply (.err
          "operation rejected: subsystem is locked (use `unlock` with the matching key)")

theorem dispatch_isEntry (config : Config) (server : Server) (request : Request) :
    (dispatch config server request).isEntry = true := by
  simp only [dispatch]
  split
  · rfl
  · split
    · split
      · exact arm_isEntry ..
      · rfl
    · rfl

/-- A request is refused, or passes both gates into the arm of its method. -/
theorem dispatch_cases (config : Config) (server : Server) (request : Request) :
    (∃ reason, dispatch config server request = .reply (.err reason)) ∨
      ∃ method, Method.parse request.method = some method ∧
        server.permissions.check request.method request.params
          (server.permissions.resolveGroup request.params) = .ok () ∧
        lockCheck config server.manager.lock request.method request.params = true ∧
        dispatch config server request =
          arm config server.minted request.params
            (server.permissions.resolveGroup request.params) method := by
  simp only [dispatch]
  split
  · exact Or.inl ⟨_, rfl⟩
  · next allowed =>
      split
      · next unlocked =>
          split
          · next method parsed => exact Or.inr ⟨method, parsed, allowed, unlocked, rfl⟩
          · exact Or.inl ⟨_, rfl⟩
      · exact Or.inl ⟨_, rfl⟩

end Bsrs.Qs
