import Bsrs.Core.Error
import Bsrs.Library.Run
import Mathlib.Data.List.Nodup
import Mathlib.Logic.Function.Basic

/-! `StageSigs`: the settings of a device, written by a stage and taken back by an unstage. What
each read and write meets comes with the call that makes it. -/

namespace Bsrs.Devices

open Library
open Bsrs.Core (BsrsError StatusError)

variable {V : Type}

/-- `TypedStageSetting`; its key stands for the signal. -/
structure Setting (V : Type) where
  key : String
  desired : V
  original : Option V

/-- What the reads and writes of one call meet, by the signal; a write that fails leaves the signal
as it was. -/
structure Faults where
  reads : String → Option BsrsError
  writes : String → Option BsrsError
  restores : String → Option BsrsError

/-- A write of a captured value and what it met. -/
structure RestoreWrite (V : Type) where
  key : String
  value : V
  error : Option BsrsError

namespace Setting

/-- `apply`: the value is read first and recorded after the write. -/
def apply (faults : Faults) (signals : String → V) (setting : Setting V) :
    Except BsrsError (Setting V × (String → V)) :=
  match faults.reads setting.key with
  | some error => .error error
  | none =>
      match faults.writes setting.key with
      | some error => .error error
      | none =>
          .ok ({ setting with original := some (signals setting.key) },
            Function.update signals setting.key setting.desired)

/-- The setting with its captured value taken out. -/
def taken (setting : Setting V) : Setting V :=
  { setting with original := none }

/-- The write `restore` makes, of the captured value it has taken out. -/
def restoreWrite (faults : Faults) (setting : Setting V) : Option (RestoreWrite V) :=
  setting.original.map fun value => ⟨setting.key, value, faults.restores setting.key⟩

/-- What `restore` leaves of the signals. -/
def restore (faults : Faults) (signals : String → V) (setting : Setting V) : String → V :=
  match setting.restoreWrite faults with
  | some ⟨key, value, none⟩ => Function.update signals key value
  | _ => signals

end Setting

/-- What a call leaves of the settings and the signals, the captured values it wrote, in order,
and how it returned. -/
structure StageOutcome (V : Type) where
  settings : List (Setting V)
  signals : String → V
  writes : List (RestoreWrite V)
  error : Option BsrsError

/-- `restore` of each setting in turn; the first error is the one returned. -/
def restoreEach (faults : Faults) : (String → V) → List (Setting V) → StageOutcome V
  | signals, [] => ⟨[], signals, [], none⟩
  | signals, setting :: rest =>
      let after := restoreEach faults (setting.restore faults signals) rest
      { settings := setting.taken :: after.settings
        signals := after.signals
        writes := (setting.restoreWrite faults).toList ++ after.writes
        error := ((setting.restoreWrite faults).bind RestoreWrite.error).or after.error }

/-- `apply` of each setting in turn. The first failure has those already applied, the last of them
first, restored again; what those restores meet is dropped. -/
def applyEach (faults : Faults) :
    (String → V) → List (Setting V) → List (Setting V) → StageOutcome V
  | signals, applied, [] => ⟨applied.reverse, signals, [], none⟩
  | signals, applied, setting :: rest =>
      match setting.apply faults signals with
      | .ok (staged, moved) => applyEach faults moved (staged :: applied) rest
      | .error error =>
          let undone := restoreEach faults signals applied
          { settings := undone.settings.reverse ++ setting :: rest
            signals := undone.signals
            writes := undone.writes
            error := some error }

/-- The setting in the place of the one with its key, or at the end. -/
def placeSetting (setting : Setting V) : List (Setting V) → List (Setting V)
  | [] => [setting]
  | held :: rest =>
      if held.key = setting.key then setting :: rest else held :: placeSetting setting rest

/-! ## What the loops leave -/

namespace Setting

variable {faults : Faults} {signals : String → V} {setting : Setting V}

theorem apply_ok (done : setting.apply faults signals = .ok (staged, moved)) :
    staged = { setting with original := some (signals setting.key) } ∧
      moved = Function.update signals setting.key setting.desired := by
  unfold apply at done
  split at done
  · cases done
  · split at done <;> cases done
    exact ⟨rfl, rfl⟩

/-- A restore touches its own signal alone. -/
theorem restore_ne {signal : String} (other : signal ≠ setting.key) :
    setting.restore faults signals signal = signals signal := by
  unfold restore restoreWrite
  cases setting.original with
  | none => rfl
  | some value =>
      cases met : faults.restores setting.key with
      | none => simp [other]
      | some error => simp

theorem restore_self {moved : String → V} (same : signals setting.key = moved setting.key) :
    setting.restore faults signals setting.key = setting.restore faults moved setting.key := by
  unfold restore restoreWrite
  cases setting.original with
  | none => exact same
  | some value =>
      cases met : faults.restores setting.key with
      | none => simp
      | some error => simpa using same

theorem restore_captured (held : setting.original = some value)
    (works : faults.restores setting.key = none) :
    setting.restore faults signals setting.key = value := by
  simp [restore, restoreWrite, held, works]

end Setting

theorem restoreEach_settings (faults : Faults) (signals : String → V) (settings : List (Setting V)) :
    (restoreEach faults signals settings).settings = settings.map Setting.taken := by
  induction settings generalizing signals with
  | nil => rfl
  | cons setting rest ih =>
      rw [restoreEach, List.map_cons, ih]

theorem keys_restoreEach (faults : Faults) (signals : String → V) (settings : List (Setting V)) :
    (restoreEach faults signals settings).settings.map Setting.key = settings.map Setting.key := by
  rw [restoreEach_settings, List.map_map]
  rfl

theorem keys_applyEach (faults : Faults) (signals : String → V) (applied settings : List (Setting V)) :
    (applyEach faults signals applied settings).settings.map Setting.key =
      (applied.map Setting.key).reverse ++ settings.map Setting.key := by
  induction settings generalizing signals applied with
  | nil => simp [applyEach]
  | cons setting rest ih =>
      rw [applyEach]
      cases done : setting.apply faults signals with
      | error error => simp [keys_restoreEach]
      | ok result =>
          obtain ⟨staged, moved⟩ := result
          obtain ⟨rfl, -⟩ := Setting.apply_ok done
          simp [ih]

theorem keys_placeSetting (setting : Setting V) (settings : List (Setting V)) :
    (placeSetting setting settings).map Setting.key =
      if setting.key ∈ settings.map Setting.key then settings.map Setting.key
      else settings.map Setting.key ++ [setting.key] := by
  induction settings with
  | nil => simp [placeSetting]
  | cons held rest ih =>
      rw [placeSetting]
      by_cases same : held.key = setting.key
      · simp [same]
      · have other : setting.key ≠ held.key := Ne.symm same
        rw [if_neg same, List.map_cons, ih, List.map_cons]
        by_cases later : setting.key ∈ rest.map Setting.key
        · rw [if_pos later, if_pos (List.mem_cons_of_mem _ later)]
        · rw [if_neg later, if_neg (by simp [other, later]), List.cons_append]

theorem restoreEach_writes (faults : Faults) (signals : String → V) (settings : List (Setting V)) :
    (restoreEach faults signals settings).writes = settings.filterMap (Setting.restoreWrite faults) := by
  induction settings generalizing signals with
  | nil => rfl
  | cons setting rest ih =>
      rw [restoreEach, ih]
      cases held : setting.restoreWrite faults <;> simp [held]

/-- The restores return no error exactly where every one of their writes succeeds. -/
theorem restoreEach_error (faults : Faults) (signals : String → V) (settings : List (Setting V)) :
    (restoreEach faults signals settings).error = none ↔
      ∀ write ∈ (restoreEach faults signals settings).writes, write.error = none := by
  induction settings generalizing signals with
  | nil => simp [restoreEach]
  | cons setting rest ih =>
      simp only [restoreEach, Option.or_eq_none_iff, ih, List.mem_append, or_imp, forall_and]
      refine and_congr_left fun _ => ?_
      cases setting.restoreWrite faults <;> simp

/-- The captured value a restore meets no fault with is among the successful writes. -/
theorem restoreEach_write {faults : Faults} {signals : String → V} {settings : List (Setting V)}
    (member : setting ∈ settings) (held : setting.original = some value) :
    ⟨setting.key, value, faults.restores setting.key⟩ ∈
      (restoreEach faults signals settings).writes := by
  rw [restoreEach_writes]
  exact List.mem_filterMap.mpr ⟨setting, member, by simp [Setting.restoreWrite, held]⟩

theorem restoreEach_untouched (faults : Faults) {signals : String → V} {settings : List (Setting V)}
    (other : key ∉ settings.map Setting.key) :
    (restoreEach faults signals settings).signals key = signals key := by
  induction settings generalizing signals with
  | nil => rfl
  | cons setting rest ih =>
      obtain ⟨differs, later⟩ := not_or.mp (List.mem_cons.not.mp other)
      rw [restoreEach, ih later]
      exact Setting.restore_ne differs

/-- Each restore shows in what all of them leave. -/
theorem restoreEach_signals (faults : Faults) {signals : String → V} {settings : List (Setting V)}
    (distinct : (settings.map Setting.key).Nodup) (member : setting ∈ settings) :
    (restoreEach faults signals settings).signals setting.key =
      setting.restore faults signals setting.key := by
  induction settings generalizing signals with
  | nil => cases member
  | cons head rest ih =>
      obtain ⟨fresh, apart⟩ := List.nodup_cons.mp distinct
      rw [restoreEach]
      rcases List.mem_cons.mp member with rfl | later
      · exact restoreEach_untouched faults fresh
      · have differs : setting.key ≠ head.key := by
          intro same
          exact fresh (same ▸ List.mem_map_of_mem later)
        rw [ih apart later]
        exact Setting.restore_self (Setting.restore_ne differs)

/-- Part of a stage is done: the settings applied have captured their signals, and no other signal
has moved. -/
structure Applying (before signals : String → V) (applied : List (Setting V)) : Prop where
  captured : ∀ setting ∈ applied, setting.original = some (before setting.key)
  untouched : ∀ key ∉ applied.map Setting.key, signals key = before key

/-- One more setting applied. -/
theorem Applying.cons {faults : Faults} {before signals moved : String → V}
    {applied : List (Setting V)} {setting staged : Setting V} (applying : Applying before signals applied)
    (fresh : setting.key ∉ applied.map Setting.key)
    (done : setting.apply faults signals = .ok (staged, moved)) :
    Applying before moved (staged :: applied) := by
  obtain ⟨rfl, rfl⟩ := Setting.apply_ok done
  refine ⟨List.forall_mem_cons.mpr ⟨congrArg some (applying.untouched _ fresh), applying.captured⟩,
    fun key other => ?_⟩
  obtain ⟨differs, later⟩ := not_or.mp (List.mem_cons.not.mp other)
  rw [Function.update_of_ne differs]
  exact applying.untouched key later

/-- The keys of a stage stay apart as a setting moves over to the applied ones. -/
theorem keys_apart {faults : Faults} {signals moved : String → V} {applied rest : List (Setting V)}
    {setting staged : Setting V}
    (distinct : (applied.map Setting.key ++ (setting :: rest).map Setting.key).Nodup)
    (done : setting.apply faults signals = .ok (staged, moved)) :
    setting.key ∉ applied.map Setting.key ∧
      ((staged :: applied).map Setting.key ++ rest.map Setting.key).Nodup := by
  obtain ⟨rfl, -⟩ := Setting.apply_ok done
  rw [List.map_cons, List.nodup_middle] at distinct
  exact ⟨fun member => (List.nodup_cons.mp distinct).1 (List.mem_append_left _ member), distinct⟩

/-- A stage that returns no error has every setting capture the value from before it. -/
theorem applyEach_captured {faults : Faults} {before signals : String → V}
    {applied settings : List (Setting V)} (applying : Applying before signals applied)
    (distinct : (applied.map Setting.key ++ settings.map Setting.key).Nodup)
    (done : (applyEach faults signals applied settings).error = none) :
    ∀ setting ∈ (applyEach faults signals applied settings).settings,
      setting.original = some (before setting.key) := by
  induction settings generalizing signals applied with
  | nil => exact fun setting member => applying.captured setting (List.mem_reverse.mp member)
  | cons head rest ih =>
      rw [applyEach] at done ⊢
      cases tried : head.apply faults signals with
      | error error => simp [tried] at done
      | ok result =>
          obtain ⟨staged, moved⟩ := result
          rw [tried] at done
          obtain ⟨fresh, apart⟩ := keys_apart distinct tried
          exact ih (applying.cons fresh tried) apart done

/-- A stage that fails leaves nothing captured it had not found so. -/
theorem applyEach_released {faults : Faults} {signals : String → V}
    {applied settings : List (Setting V)} (bare : ∀ setting ∈ settings, setting.original = none)
    (failed : (applyEach faults signals applied settings).error ≠ none) :
    ∀ setting ∈ (applyEach faults signals applied settings).settings, setting.original = none := by
  induction settings generalizing signals applied with
  | nil => exact absurd rfl failed
  | cons head rest ih =>
      rw [applyEach] at failed ⊢
      cases tried : head.apply faults signals with
      | error error =>
          simp only [restoreEach_settings, List.mem_append, List.mem_reverse, List.mem_map]
          rintro setting (⟨held, _, rfl⟩ | later)
          · rfl
          · exact bare setting later
      | ok result =>
          rw [tried] at failed
          exact ih (fun setting member => bare setting (List.mem_cons_of_mem _ member)) failed

/-- A stage that fails puts every signal back, where the rollback writes succeed. -/
theorem applyEach_undone {faults : Faults} {before signals : String → V}
    {applied settings : List (Setting V)} (applying : Applying before signals applied)
    (distinct : (applied.map Setting.key ++ settings.map Setting.key).Nodup)
    (failed : (applyEach faults signals applied settings).error ≠ none)
    (written : ∀ write ∈ (applyEach faults signals applied settings).writes, write.error = none) :
    (applyEach faults signals applied settings).signals = before := by
  induction settings generalizing signals applied with
  | nil => exact absurd rfl failed
  | cons head rest ih =>
      rw [applyEach] at failed written ⊢
      cases tried : head.apply faults signals with
      | ok result =>
          obtain ⟨staged, moved⟩ := result
          rw [tried] at failed written
          obtain ⟨fresh, apart⟩ := keys_apart distinct tried
          exact ih (applying.cons fresh tried) apart failed written
      | error error =>
          rw [tried] at written
          funext key
          by_cases among : key ∈ applied.map Setting.key
          · obtain ⟨setting, member, rfl⟩ := List.mem_map.mp among
            have held := applying.captured setting member
            have works := written _ (restoreEach_write member held)
            rw [restoreEach_signals faults (List.Nodup.of_append_left distinct) member]
            exact Setting.restore_captured held works
          · rw [restoreEach_untouched faults among]
            exact applying.untouched key among

/-! ## The set and its calls -/

/-- `StageSigs`: the settings in the order they came, no two for one signal. -/
@[ext]
structure StageSigs (V : Type) where
  settings : List (Setting V)
  staged : Bool
  distinct : (settings.map Setting.key).Nodup

namespace StageSigs

variable (sigs : StageSigs V) (signals : String → V)

def new : StageSigs V where
  settings := []
  staged := false
  distinct := List.nodup_nil

/-- `set`, and `push` of a setting just built. -/
def push (key : String) (desired : V) : StageSigs V where
  settings := placeSetting ⟨key, desired, none⟩ sigs.settings
  staged := sigs.staged
  distinct := by
    rw [keys_placeSetting]
    split
    · exact sigs.distinct
    · next fresh => simpa using List.Nodup.concat fresh sigs.distinct

def clear : StageSigs V where
  settings := []
  staged := sigs.staged
  distinct := List.nodup_nil

/-- The value captured of a signal. -/
def captured (key : String) : Option V :=
  (sigs.settings.find? fun setting => setting.key = key).bind Setting.original

def redundant : BsrsError :=
  .status (.failed "StageSigs::stage: already staged; unstage first (RedundantStaging)")

def stageOutcome (faults : Faults) : StageOutcome V :=
  if sigs.staged then ⟨sigs.settings, signals, [], some redundant⟩
  else applyEach faults signals [] sigs.settings

def unstageOutcome (faults : Faults) : StageOutcome V :=
  let restored := restoreEach faults signals sigs.settings.reverse
  { restored with settings := restored.settings.reverse }

/-- `stage`: the flag goes up first and down again on a failure. -/
def stage (faults : Faults) : StageSigs V where
  settings := (sigs.stageOutcome signals faults).settings
  staged := sigs.staged || (sigs.stageOutcome signals faults).error.isNone
  distinct := by
    unfold stageOutcome
    split
    · exact sigs.distinct
    · rw [keys_applyEach]
      exact sigs.distinct

/-- `unstage`: the flag goes down whatever the restores met. -/
def unstage (faults : Faults) : StageSigs V where
  settings := (sigs.unstageOutcome signals faults).settings
  staged := false
  distinct := by
    rw [unstageOutcome, List.map_reverse, keys_restoreEach, List.map_reverse, List.reverse_reverse]
    exact sigs.distinct

variable {sigs signals}

@[simp]
theorem stage_settings (faults : Faults) :
    (sigs.stage signals faults).settings = (sigs.stageOutcome signals faults).settings := rfl

theorem unstage_settings (faults : Faults) :
    (sigs.unstage signals faults).settings = sigs.settings.map Setting.taken := by
  simp only [unstage, unstageOutcome, restoreEach_settings, List.map_reverse, List.reverse_reverse]

/-- With keys apart, the setting found under a key is the one. -/
theorem captured_key (member : setting ∈ sigs.settings) :
    sigs.captured setting.key = setting.original := by
  have found : sigs.settings.find? (fun held => held.key = setting.key) = some setting := by
    cases hit : sigs.settings.find? (fun held => held.key = setting.key) with
    | none => simpa using List.find?_eq_none.mp hit setting member
    | some other =>
        have same : other.key = setting.key := by simpa using List.find?_some hit
        rw [List.inj_on_of_nodup_map sigs.distinct (List.mem_of_find?_eq_some hit) member same]
  rw [captured, found, Option.bind_some]

theorem captured_mem (held : sigs.captured key = some value) :
    ∃ setting ∈ sigs.settings, setting.key = key ∧ setting.original = some value := by
  obtain ⟨setting, hit, original⟩ := Option.bind_eq_some_iff.mp held
  exact ⟨setting, List.mem_of_find?_eq_some hit, by simpa using List.find?_some hit, original⟩

theorem mem_placeSetting {fresh : Setting V} {settings : List (Setting V)} (member : setting ∈ settings)
    (other : setting.key ≠ fresh.key) : setting ∈ placeSetting fresh settings := by
  induction settings with
  | nil => cases member
  | cons held rest ih =>
      rw [placeSetting]
      split
      · next same =>
          rcases List.mem_cons.mp member with rfl | later
          · exact absurd same other
          · exact List.mem_cons_of_mem _ later
      · rcases List.mem_cons.mp member with rfl | later
        · exact List.mem_cons_self
        · exact List.mem_cons_of_mem _ (ih later)

theorem of_mem_placeSetting {fresh : Setting V} {settings : List (Setting V)}
    (member : setting ∈ placeSetting fresh settings) : setting = fresh ∨ setting ∈ settings := by
  induction settings with
  | nil => simpa [placeSetting] using member
  | cons held rest ih =>
      rw [placeSetting] at member
      split at member
      · exact (List.mem_cons.mp member).imp_right (List.mem_cons_of_mem _)
      · rcases List.mem_cons.mp member with rfl | later
        · exact .inr List.mem_cons_self
        · exact (ih later).imp_right (List.mem_cons_of_mem _)

/-- A push over a setting that has captured nothing leaves what the others have. -/
theorem captured_push (bare : sigs.captured key = none) (held : sigs.captured other = some value) :
    (sigs.push key desired).captured other = some value := by
  obtain ⟨setting, member, rfl, original⟩ := captured_mem held
  have differs : setting.key ≠ key := by
    rintro rfl
    rw [captured_key member, original] at bare
    cases bare
  have remains : setting ∈ (sigs.push key desired).settings := mem_placeSetting member differs
  rw [captured_key remains, original]

/-- A stage from before which every signal is read: it puts every signal back where it fails and the
rollback writes succeed. -/
theorem stageOutcome_undone {faults : Faults} (failed : (sigs.stageOutcome signals faults).error ≠ none)
    (written : ∀ write ∈ (sigs.stageOutcome signals faults).writes, write.error = none) :
    (sigs.stageOutcome signals faults).signals = signals := by
  unfold stageOutcome at failed written ⊢
  split
  · rfl
  · next idle =>
      rw [if_neg idle] at failed written
      exact applyEach_undone ⟨by simp, fun _ _ => rfl⟩ (by simpa using sigs.distinct) failed written

end StageSigs

/-! ## Runs -/

/-- What somebody who watches the calls writes down: the signals of the last successful stage with
their values just before it, until an unstage returns `Ok`, and the captured values whose writes
failed in the last unstage. -/
structure StageLedger (V : Type) where
  before : List (String × V)
  owed : List (String × V)

/-- The set of a device, the signals it is for, and what was written down. -/
structure StagedDevice (V : Type) where
  sigs : StageSigs V
  signals : String → V
  ledger : StageLedger V

/-- A call on the set, with what its reads and writes meet. -/
inductive StageCall (V : Type) where
  | push (key : String) (desired : V)
  | clear
  | stage (faults : Faults)
  | unstage (faults : Faults)

namespace StagedDevice

def step (device : StagedDevice V) : StageCall V → Option (StagedDevice V)
  | .push key desired => some { device with sigs := device.sigs.push key desired }
  | .clear => some { device with sigs := device.sigs.clear }
  | .stage faults =>
      let outcome := device.sigs.stageOutcome device.signals faults
      some
        { sigs := device.sigs.stage device.signals faults
          signals := outcome.signals
          ledger :=
            if outcome.error.isNone then
              { device.ledger with
                before := device.sigs.settings.map fun setting =>
                  (setting.key, device.signals setting.key) }
            else device.ledger }
  | .unstage faults =>
      let outcome := device.sigs.unstageOutcome device.signals faults
      some
        { sigs := device.sigs.unstage device.signals faults
          signals := outcome.signals
          ledger :=
            { before := if outcome.error.isNone then [] else device.ledger.before
              owed := (outcome.writes.filter fun write => write.error.isSome).map fun write =>
                (write.key, write.value) } }

/-- The call keeps what staging promises: a push loses no captured value, a stage that fails puts
every signal back where its rollback writes succeed, and an unstage that returns `Ok` has every
staged signal at its value from before the stage and writes what the unstage before it failed to. -/
def Restores (device : StagedDevice V) : StageCall V → Prop
  | .push key desired => ∀ other value, device.sigs.captured other = some value →
      (device.sigs.push key desired).captured other = some value
  | .clear => True
  | .stage faults =>
      (device.sigs.stageOutcome device.signals faults).error ≠ none →
        (∀ write ∈ (device.sigs.stageOutcome device.signals faults).writes, write.error = none) →
          (device.sigs.stageOutcome device.signals faults).signals = device.signals
  | .unstage faults =>
      ((device.sigs.unstageOutcome device.signals faults).error = none →
        ∀ entry ∈ device.ledger.before,
          (device.sigs.unstageOutcome device.signals faults).signals entry.1 = entry.2) ∧
      ∀ entry ∈ device.ledger.owed,
        ∃ write ∈ (device.sigs.unstageOutcome device.signals faults).writes,
          (write.key, write.value) = entry

/-- The call loses no captured value: a push replaces no setting that holds one, the set is cleared
only while unstaged, and an unstage meets no failing write. -/
def Careful (device : StagedDevice V) : StageCall V → Prop
  | .push key _ => device.sigs.captured key = none
  | .clear => device.sigs.staged = false
  | .stage _ => True
  | .unstage faults => ∀ setting ∈ device.sigs.settings, setting.original ≠ none →
      faults.restores setting.key = none

/-- Nothing is staged, captured or written down yet. -/
structure Fresh (device : StagedDevice V) : Prop where
  unstaged : device.sigs.staged = false
  bare : ∀ setting ∈ device.sigs.settings, setting.original = none
  blank : device.ledger = ⟨[], []⟩

/-- Every value written down is still captured, and nothing is while unstaged. -/
structure Accounted (device : StagedDevice V) : Prop where
  owed : device.ledger.owed = []
  unstaged : device.sigs.staged = false →
    device.ledger.before = [] ∧ ∀ setting ∈ device.sigs.settings, setting.original = none
  captured : ∀ entry ∈ device.ledger.before, device.sigs.captured entry.1 = some entry.2

variable {device next : StagedDevice V} {faults : Faults}

theorem Fresh.accounted (fresh : device.Fresh) : device.Accounted where
  owed := by rw [fresh.blank]
  unstaged _ := ⟨by rw [fresh.blank], fresh.bare⟩
  captured := by simp [fresh.blank]

/-- The outcome of an unstage, by what its settings hold. -/
theorem unstage_signals (member : setting ∈ device.sigs.settings) :
    (device.sigs.unstageOutcome device.signals faults).signals setting.key =
      setting.restore faults device.signals setting.key := by
  refine restoreEach_signals faults ?_ (List.mem_reverse.mpr member)
  rw [List.map_reverse, List.nodup_reverse]
  exact device.sigs.distinct

theorem unstage_writes :
    (device.sigs.unstageOutcome device.signals faults).writes =
      device.sigs.settings.reverse.filterMap (Setting.restoreWrite faults) :=
  restoreEach_writes ..

/-- A careful unstage has every write succeed. -/
theorem unstage_careful (careful : device.Careful (.unstage faults)) :
    ∀ write ∈ (device.sigs.unstageOutcome device.signals faults).writes, write.error = none := by
  intro write member
  rw [unstage_writes] at member
  obtain ⟨setting, held, made⟩ := List.mem_filterMap.mp member
  obtain ⟨value, original, rfl⟩ := Option.map_eq_some_iff.mp made
  exact careful setting (List.mem_reverse.mp held) (by simp [original])

/-- What a stage that succeeds has captured of each of its settings. -/
theorem stage_captured (idle : device.sigs.staged = false)
    (done : (device.sigs.stageOutcome device.signals faults).error = none)
    (member : setting ∈ device.sigs.settings) :
    (device.sigs.stage device.signals faults).captured setting.key =
      some (device.signals setting.key) := by
  have ran : device.sigs.stageOutcome device.signals faults =
      applyEach faults device.signals [] device.sigs.settings := by simp [StageSigs.stageOutcome, idle]
  have keys : setting.key ∈ (device.sigs.stage device.signals faults).settings.map Setting.key := by
    rw [StageSigs.stage_settings, ran, keys_applyEach]
    exact List.mem_map_of_mem member
  obtain ⟨staged, there, same⟩ := List.mem_map.mp keys
  rw [← same, StageSigs.captured_key there]
  rw [StageSigs.stage_settings, ran] at there
  rw [ran] at done
  have applying : Applying device.signals device.signals [] := ⟨by simp, fun _ _ => rfl⟩
  exact applyEach_captured applying (by simpa using device.sigs.distinct) done staged there

/-- The accounts stay in order over a careful call. -/
theorem Accounted.step (device : StagedDevice V) (call : StageCall V) (next : StagedDevice V)
    (stepped : device.step call = some next) (careful : device.Careful call)
    (accounted : device.Accounted) : next.Accounted := by
  cases call with
  | push key desired =>
      cases stepped
      refine ⟨accounted.owed, fun idle => ?_, fun entry member =>
        StageSigs.captured_push careful (accounted.captured entry member)⟩
      obtain ⟨blank, bare⟩ := accounted.unstaged idle
      refine ⟨blank, fun setting member => ?_⟩
      rcases StageSigs.of_mem_placeSetting member with rfl | held
      · rfl
      · exact bare setting held
  | clear =>
      cases stepped
      obtain ⟨blank, -⟩ := accounted.unstaged careful
      exact ⟨accounted.owed, fun _ => ⟨blank, by simp [StageSigs.clear]⟩, by simp [blank]⟩
  | stage faults =>
      cases stepped
      by_cases staged : device.sigs.staged = true
      · have refused : device.sigs.stageOutcome device.signals faults =
            ⟨device.sigs.settings, device.signals, [], some StageSigs.redundant⟩ := by
          simp [StageSigs.stageOutcome, staged]
        have same : device.sigs.stage device.signals faults = device.sigs :=
          StageSigs.ext (by simp [refused]) (by simp [StageSigs.stage, staged])
        simpa [refused, same] using accounted
      · have idle := Bool.eq_false_iff.mpr staged
        obtain ⟨blank, bare⟩ := accounted.unstaged idle
        have ran : device.sigs.stageOutcome device.signals faults =
            applyEach faults device.signals [] device.sigs.settings := by
          simp [StageSigs.stageOutcome, idle]
        cases met : (device.sigs.stageOutcome device.signals faults).error with
        | none =>
            refine ⟨by simpa [met] using accounted.owed, by simp [StageSigs.stage, met], ?_⟩
            simp only [Option.isNone_none, if_true, List.mem_map]
            rintro entry ⟨setting, member, rfl⟩
            exact stage_captured idle met member
        | some error =>
            refine ⟨by simpa [met] using accounted.owed, fun _ => ⟨by simp [blank], ?_⟩, ?_⟩
            · simp only [StageSigs.stage_settings, ran]
              rw [ran] at met
              exact applyEach_released bare (by simp [met])
            · simp [blank]
  | unstage faults =>
      cases stepped
      have written := unstage_careful careful
      have done : (device.sigs.unstageOutcome device.signals faults).error = none :=
        (restoreEach_error ..).mpr written
      refine ⟨?_, fun _ => ⟨by simp [done], ?_⟩, by simp [done]⟩
      · simpa using written
      · intro setting member
        rw [StageSigs.unstage_settings] at member
        obtain ⟨held, _, rfl⟩ := List.mem_map.mp member
        rfl

/-- A careful call with the accounts in order keeps what staging promises. -/
theorem Accounted.restores (device : StagedDevice V) (call : StageCall V)
    (careful : device.Careful call) (accounted : device.Accounted) : device.Restores call := by
  cases call with
  | push key desired => exact fun _ _ held => StageSigs.captured_push careful held
  | clear => trivial
  | stage faults => exact StageSigs.stageOutcome_undone
  | unstage faults =>
      refine ⟨fun done entry member => ?_, by simp [accounted.owed]⟩
      obtain ⟨setting, held, same, original⟩ :=
        StageSigs.captured_mem (accounted.captured entry member)
      rw [← same, unstage_signals held]
      exact Setting.restore_captured original (careful setting held (by simp [original]))

/-- Over any calls from a set nothing of which is staged, staging keeps what it promises as long as
no captured value is lost: to a push over its setting, to a clear while staged, or to a failing write
of an unstage. -/
theorem staged_settings_restored (fresh : device.Fresh) {calls : List (StageCall V)}
    (careful : Throughout step Careful device calls) :
    Throughout step Restores device calls :=
  careful.of_invariant Accounted Accounted.step Accounted.restores fresh.accounted

instance [DecidableEq V] (device : StagedDevice V) :
    ∀ call : StageCall V, Decidable (device.Careful call)
  | .push key _ => inferInstanceAs (Decidable (device.sigs.captured key = none))
  | .clear => inferInstanceAs (Decidable (device.sigs.staged = false))
  | .stage _ => isTrue trivial
  | .unstage faults =>
      inferInstanceAs (Decidable (∀ setting ∈ device.sigs.settings, setting.original ≠ none →
        faults.restores setting.key = none))

/-- Two signals at zero, with a setting each. -/
def pair : StagedDevice Nat where
  sigs := (StageSigs.new.push "a" 5).push "b" 6
  signals := fun _ => 0
  ledger := ⟨[], []⟩

/-- One call's reads and writes, of which `writes` and `restores` name the signals that fail. -/
def failing (writes restores : List String) : Faults where
  reads _ := none
  writes key := if key ∈ writes then some (.status .timeout) else none
  restores key := if key ∈ restores then some (.status .timeout) else none

/-- A scan with a redundant stage and a new setting amid it, then a stage that is rolled back. -/
theorem staged_settings_restored_scan :
    Throughout step Restores pair
      [.stage (failing [] []), .stage (failing [] []), .push "c" 7, .unstage (failing [] []),
        .push "a" 9, .stage (failing ["b"] []), .unstage (failing [] [])] :=
  staged_settings_restored ⟨rfl, by decide, rfl⟩ (by decide +kernel)

/-- A failed restore is not made up for by the unstage after it, and a setting pushed over a staged
one loses what it captured. -/
theorem staged_setting_lost :
    ¬ Throughout step Restores pair
        [.stage (failing [] []), .unstage (failing [] ["a"]), .unstage (failing [] [])] ∧
      ¬ Throughout step Restores pair [.stage (failing [] []), .push "a" 9] := by
  constructor
  · rintro ⟨-, later⟩
    obtain ⟨-, last⟩ := later _ rfl
    obtain ⟨⟨restored, -⟩, -⟩ := last _ rfl
    have found := restored rfl ("a", 0) (by decide)
    exact absurd found (by decide)
  · rintro ⟨-, later⟩
    obtain ⟨kept, -⟩ := later _ rfl
    exact absurd (kept "a" 0 rfl) (by decide)

end StagedDevice

end Bsrs.Devices
