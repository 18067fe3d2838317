import Bsrs.Core.Json

namespace Bsrs.Qs

open Bsrs.Core (Json)

/-- `MethodClass`. -/
inductive MethodClass where
  | info
  | queueAdd
  | queueMutate
  | admin
  | lock
  | unknown
  deriving Repr, DecidableEq

def infoMethods : List String :=
  ["ping", "status", "config_get", "queue_get", "history_get", "plans_allowed", "plans_existing",
    "devices_allowed", "devices_existing", "device_inspect", "lock_info", "task_status",
    "task_result", "permissions_get", "manager_test", "manager_version", "re_runs"]

def queueAddMethods : List String :=
  ["queue_item_add", "queue_item_add_batch", "queue_item_execute", "queue_item_update"]

def queueMutateMethods : List String :=
  ["queue_item_remove", "queue_item_remove_batch", "queue_item_move", "queue_item_move_batch",
    "queue_clear", "queue_start", "queue_stop", "queue_stop_cancel", "queue_autostart",
    "queue_mode_set", "history_clear", "environment_open", "environment_close",
    "environment_destroy", "environment_update", "re_pause", "re_resume", "re_abort", "re_halt",
    "re_stop", "re_metadata", "re_runs_clear"]

def adminMethods : List String :=
  ["permissions_reload", "permissions_set", "manager_stop", "manager_kill", "script_upload",
    "function_execute", "kernel_interrupt", "lua_eval"]

def lockMethods : List String :=
  ["lock", "unlock"]

/-- `classify`. -/
def classify (method : String) : MethodClass :=
  if method ∈ infoMethods then .info
  else if method ∈ queueAddMethods then .queueAdd
  else if method ∈ queueMutateMethods then .queueMutate
  else if method ∈ adminMethods then .admin
  else if method ∈ lockMethods then .lock
  else .unknown

/-- `GroupPolicy`; a regex is given by the names it matches. -/
structure GroupPolicy where
  readOnly : Bool
  admin : Bool
  allowedPlans : List (String → Bool)

def GroupPolicy.planAllowed (policy : GroupPolicy) (name : String) : Bool :=
  policy.allowedPlans.any fun isMatch => isMatch name

/-- The live policy; `enforced` once a permissions file was loaded. -/
structure Permissions where
  enforced : Bool
  defaultGroup : String
  groups : List (String × GroupPolicy)
  apiKeys : List (String × String)

/-- `plan_names_from_params`: `item.name`, then every `items[].name`. -/
def planNamesFromParams (params : Json) : List String :=
  ((params.get "item").bind fun item => item.text "name").toList ++
    (((params.get "items").bind Json.asArray).getD []).filterMap fun item => item.text "name"

namespace Permissions

/-- `Permissions::permissive`. -/
def permissive : Permissions where
  enforced := false
  defaultGroup := "primary"
  groups := [("root", ⟨false, true, [fun _ => true]⟩), ("primary", ⟨false, false, [fun _ => true]⟩)]
  apiKeys := []

/-- `resolve_group`. -/
def resolveGroup (permissions : Permissions) (params : Json) : String :=
  ((params.text "api_key").bind fun key => permissions.apiKeys.lookup key).getD
    permissions.defaultGroup

/-- `check`: the reason of a denial. -/
def check (permissions : Permissions) (method : String) (params : Json) (group : String) :
    Except String Unit :=
  if permissions.enforced then
    match permissions.groups.lookup group with
    | none => .error s!"RBAC: caller's group {group.quote} is not configured in permissions.toml"
    | some policy =>
        match classify method with
        | .info | .lock | .unknown => .ok ()
        | .queueAdd =>
            if policy.readOnly then
              .error s!"RBAC: group {group.quote} is read-only; '{method}' denied"
            else
              match (planNamesFromParams params).find? fun name => !policy.planAllowed name with
              | some name =>
                  .error s!"RBAC: group {group.quote} not allowed to run plan {name.quote}"
              | none => .ok ()
        | .queueMutate =>
            if policy.readOnly then
              .error s!"RBAC: group {group.quote} is read-only; '{method}' denied"
            else .ok ()
        | .admin =>
            if policy.admin then .ok ()
            else .error s!"RBAC: group {group.quote} is not admin; '{method}' denied"
  else .ok ()

/-- `is_admin`. -/
def isAdmin (permissions : Permissions) (group : String) : Bool :=
  if permissions.enforced then
    ((permissions.groups.lookup group).map GroupPolicy.admin).getD false
  else true

end Permissions

end Bsrs.Qs
