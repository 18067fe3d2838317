import Bsrs.EventModel.Documents

namespace Bsrs.EventModel

open Bsrs.Library (Table)

/-- One declared stream: its current descriptor and its sequence counter. -/
structure StreamState where
  descriptor : EventDescriptor
  seqNum : Nat
  deriving DecidableEq

/-- `RunBundle`: one run's composer. Uids come from the caller, who mints them. -/
structure RunBundle where
  startUid : Uid
  streams : Table String StreamState
  deriving DecidableEq

namespace RunBundle

/-- `RunBundle::open`. -/
def «open» (start : RunStart) : RunBundle where
  startUid := start.uid
  streams := ∅

/-- `RunBundle::descriptor`: the stream's descriptor, composed with uid `uid` on the first call. -/
def descriptor (bundle : RunBundle) (uid : Uid) (name : String)
    (dataKeys : Table String DataKey) (configuration : Table String Configuration)
    (hints : Option (Table String PerObjectHint)) (objectKeys : Table String (List String)) :
    (EventDescriptor × Bool) × RunBundle :=
  match bundle.streams.lookup name with
  | some stream => ((stream.descriptor, false), bundle)
  | none =>
      let descriptor : EventDescriptor :=
        { uid
          runStart := bundle.startUid
          dataKeys
          configuration
          name := some name
          hints
          objectKeys }
      ((descriptor, true),
        { bundle with streams := bundle.streams.insert name { descriptor, seqNum := 0 } })

/-- `RunBundle::compose_redescribe`: the next generation of a descriptor, not yet installed. -/
def composeRedescribe (bundle : RunBundle) (uid : Uid) (streamName objectName : String)
    (configuration : Configuration) : Option EventDescriptor :=
  match bundle.streams.lookup streamName with
  | none => none
  | some stream =>
      if (stream.descriptor.configuration.lookup objectName).isNone then
        none
      else
        some { stream.descriptor with
          uid
          configuration := stream.descriptor.configuration.insert objectName configuration }

/-- `RunBundle::install_descriptor`. -/
def installDescriptor (bundle : RunBundle) (streamName : String) (descriptor : EventDescriptor) :
    RunBundle :=
  { bundle with
    streams := bundle.streams.modify streamName fun stream => { stream with descriptor } }

/-- `RunBundle::event`: an Event on a declared stream, one past the stream's counter. -/
def event (bundle : RunBundle) (uid : Uid) (streamName : String) (data : Table String Value)
    (timestamps : Table String Value) : Option Event × RunBundle :=
  match bundle.streams.lookup streamName with
  | none => (none, bundle)
  | some stream =>
      (some
        { uid
          descriptor := stream.descriptor.uid
          seqNum := stream.seqNum + 1
          data
          timestamps },
        { bundle with
          streams := bundle.streams.modify streamName fun stream =>
            { stream with seqNum := stream.seqNum + 1 } })

/-- `RunBundle::peek_next_seq`. -/
def peekNextSeq (bundle : RunBundle) (streamName : String) : Option Nat :=
  (bundle.streams.lookup streamName).map fun stream => stream.seqNum + 1

/-- `RunBundle::advance_seq`. -/
def advanceSeq (bundle : RunBundle) (streamName : String) (count : Nat) : RunBundle :=
  { bundle with
    streams := bundle.streams.modify streamName fun stream =>
      { stream with seqNum := stream.seqNum + count } }

/-- `RunBundle::external_data_keys`: the keys whose data arrives outside the Events. -/
def externalDataKeys (bundle : RunBundle) (streamName : String) : Option (List String) :=
  (bundle.streams.lookup streamName).map fun stream =>
    (stream.descriptor.dataKeys.pairs.filter fun entry =>
      (entry.2.external.map fun external => external.startsWith "STREAM:").getD false).map Prod.fst

/-- `RunBundle::snapshot_seq_nums`. -/
def snapshotSeqNums (bundle : RunBundle) : Table String Nat :=
  bundle.streams.mapValues fun _ stream => stream.seqNum

/-- `RunBundle::restore_seq_nums`: a stream the snapshot does not know restarts at zero. -/
def restoreSeqNums (bundle : RunBundle) (snapshot : Table String Nat) : RunBundle :=
  { bundle with
    streams := bundle.streams.mapValues fun name stream =>
      { stream with seqNum := (snapshot.lookup name).getD 0 } }

/-- `RunBundle::stop`; `none` is the panic on a status outside the schema. -/
def stop (bundle : RunBundle) (uid : Uid) (exitStatus : String) (reason : Option String) :
    Option RunStop :=
  (ExitStatus.parse exitStatus).map fun exitStatus =>
    { uid
      runStart := bundle.startUid
      exitStatus
      reason
      numEvents := bundle.streams.mapValues fun _ stream => stream.seqNum }

/-- A stream's counter, zero while it is not declared. -/
def seqNum (bundle : RunBundle) (streamName : String) : Nat :=
  ((bundle.streams.lookup streamName).map StreamState.seqNum).getD 0

/-- The stream's current descriptor, the one its Events name. -/
def described (bundle : RunBundle) (streamName : String) : Option EventDescriptor :=
  (bundle.streams.lookup streamName).map StreamState.descriptor

/-! ## What the operations do to the counters -/

@[simp]
theorem seqNum_descriptor (bundle : RunBundle) (uid : Uid) (name stream : String)
    (dataKeys : Table String DataKey) (configuration : Table String Configuration)
    (hints : Option (Table String PerObjectHint)) (objectKeys : Table String (List String)) :
    (bundle.descriptor uid name dataKeys configuration hints objectKeys).2.seqNum stream =
      bundle.seqNum stream := by
  unfold descriptor
  cases found : bundle.streams.lookup name with
  | some held => rfl
  | none =>
      by_cases same : stream = name
      · subst same
        simp [seqNum, found]
      · simp [seqNum, same]

@[simp]
theorem seqNum_installDescriptor (bundle : RunBundle) (name stream : String)
    (descriptor : EventDescriptor) :
    (bundle.installDescriptor name descriptor).seqNum stream = bundle.seqNum stream := by
  by_cases same : stream = name
  · subst same
    cases found : bundle.streams.lookup stream <;> simp [installDescriptor, seqNum, found]
  · simp [installDescriptor, seqNum, Table.lookup_modify_ne _ _ same]

theorem event_seqNum {bundle : RunBundle} {event : Event} (uid : Uid) (name : String)
    (data timestamps : Table String Value)
    (composed : (bundle.event uid name data timestamps).1 = some event) :
    event.seqNum = bundle.seqNum name + 1 ∧
      (bundle.event uid name data timestamps).2.seqNum name = bundle.seqNum name + 1 := by
  unfold RunBundle.event at composed ⊢
  cases found : bundle.streams.lookup name with
  | none => simp [found] at composed
  | some stream =>
      simp only [found, Option.some.injEq] at composed
      subst composed
      simp [seqNum, found]

theorem seqNum_event_ne (bundle : RunBundle) (uid : Uid) (data timestamps : Table String Value)
    (different : stream ≠ name) :
    (bundle.event uid name data timestamps).2.seqNum stream = bundle.seqNum stream := by
  unfold event
  cases found : bundle.streams.lookup name with
  | none => rfl
  | some held => simp [seqNum, Table.lookup_modify_ne _ _ different]

theorem seqNum_le_event (bundle : RunBundle) (uid : Uid) (name stream : String)
    (data timestamps : Table String Value) :
    bundle.seqNum stream ≤ (bundle.event uid name data timestamps).2.seqNum stream := by
  unfold event
  cases found : bundle.streams.lookup name with
  | none => exact le_rfl
  | some held =>
      by_cases same : stream = name
      · subst same
        simp [seqNum, found]
      · simp [seqNum, Table.lookup_modify_ne _ _ same]

theorem seqNum_advanceSeq_ne (bundle : RunBundle) (count : Nat) (different : stream ≠ name) :
    (bundle.advanceSeq name count).seqNum stream = bundle.seqNum stream := by
  simp [advanceSeq, seqNum, Table.lookup_modify_ne _ _ different]

theorem seqNum_le_advanceSeq (bundle : RunBundle) (name stream : String) (count : Nat) :
    bundle.seqNum stream ≤ (bundle.advanceSeq name count).seqNum stream := by
  by_cases same : stream = name
  · subst same
    cases found : bundle.streams.lookup stream <;> simp [advanceSeq, seqNum, found]
  · exact Nat.le_of_eq (seqNum_advanceSeq_ne bundle count same).symm

/-- A snapshot knows every counter: a stream it does not have stood at zero. -/
@[simp]
theorem snapshotSeqNums_lookup (bundle : RunBundle) (stream : String) :
    (bundle.snapshotSeqNums.lookup stream).getD 0 = bundle.seqNum stream := by
  simp [snapshotSeqNums, seqNum]

/-- A restored counter is the snapshot's; of a stream not declared there is none to restore. -/
theorem seqNum_restoreSeqNums (bundle : RunBundle) (snapshot : Table String Nat)
    (stream : String) :
    (bundle.restoreSeqNums snapshot).seqNum stream = (snapshot.lookup stream).getD 0 ∨
      (bundle.restoreSeqNums snapshot).seqNum stream = bundle.seqNum stream := by
  cases found : bundle.streams.lookup stream with
  | none => exact .inr (by simp [restoreSeqNums, seqNum, found])
  | some held => exact .inl (by simp [restoreSeqNums, seqNum, found])

theorem stop_numEvents {bundle : RunBundle} {stop : RunStop} (uid : Uid) (exitStatus : String)
    (reason : Option String) (stream : String)
    (stopped : bundle.stop uid exitStatus reason = some stop) :
    (stop.numEvents.lookup stream).getD 0 = bundle.seqNum stream := by
  obtain ⟨status, -, rfl⟩ := Option.map_eq_some_iff.mp stopped
  simp [seqNum]

theorem stop_runStart {bundle : RunBundle} {stop : RunStop} {uid : Uid} {exitStatus : String}
    {reason : Option String} (stopped : bundle.stop uid exitStatus reason = some stop) :
    stop.runStart = bundle.startUid := by
  obtain ⟨status, -, rfl⟩ := Option.map_eq_some_iff.mp stopped
  rfl

/-! ## What they do to the descriptors -/

theorem described_descriptor (bundle : RunBundle) (uid : Uid) (name stream : String)
    (dataKeys : Table String DataKey) (configuration : Table String Configuration)
    (hints : Option (Table String PerObjectHint)) (objectKeys : Table String (List String)) :
    (bundle.descriptor uid name dataKeys configuration hints objectKeys).2.described stream =
      if stream = name then
        some (bundle.descriptor uid name dataKeys configuration hints objectKeys).1.1
      else bundle.described stream := by
  unfold descriptor
  cases found : bundle.streams.lookup name with
  | some held =>
      by_cases same : stream = name
      · subst same
        simp [described, found]
      · simp [same]
  | none =>
      by_cases same : stream = name
      · subst same
        simp [described]
      · simp [described, same]

/-- The composed descriptor is the stream's own, or a new one of this run. -/
theorem descriptor_cases (bundle : RunBundle) (uid : Uid) (name : String)
    (dataKeys : Table String DataKey) (configuration : Table String Configuration)
    (hints : Option (Table String PerObjectHint)) (objectKeys : Table String (List String)) :
    let composed := (bundle.descriptor uid name dataKeys configuration hints objectKeys).1.1
    bundle.described name = some composed ∨
      bundle.described name = none ∧ composed.runStart = bundle.startUid ∧
        composed.name = some name := by
  unfold descriptor
  cases found : bundle.streams.lookup name with
  | some held => exact .inl (by simp [described, found])
  | none => exact .inr (by simp [described, found])

/-- The descriptor of a stream the run does not have yet is composed as asked. -/
theorem descriptor_new {bundle : RunBundle} {name : String} (new : bundle.described name = none)
    (uid : Uid) (dataKeys : Table String DataKey) (configuration : Table String Configuration)
    (hints : Option (Table String PerObjectHint)) (objectKeys : Table String (List String)) :
    (bundle.descriptor uid name dataKeys configuration hints objectKeys).1.1 =
      { uid, runStart := bundle.startUid, dataKeys, configuration, name := some name, hints,
        objectKeys } := by
  have absent : bundle.streams.lookup name = none := Option.map_eq_none_iff.mp new
  simp [descriptor, absent]

theorem startUid_descriptor (bundle : RunBundle) (uid : Uid) (name : String)
    (dataKeys : Table String DataKey) (configuration : Table String Configuration)
    (hints : Option (Table String PerObjectHint)) (objectKeys : Table String (List String)) :
    (bundle.descriptor uid name dataKeys configuration hints objectKeys).2.startUid =
      bundle.startUid := by
  unfold descriptor
  split <;> rfl

theorem described_installDescriptor (bundle : RunBundle) (name stream : String)
    (descriptor : EventDescriptor) :
    (bundle.installDescriptor name descriptor).described stream =
      if stream = name then (bundle.described name).map fun _ => descriptor
      else bundle.described stream := by
  by_cases same : stream = name
  · subst same
    simp [installDescriptor, described, Function.comp_def]
  · simp [installDescriptor, described, same, Table.lookup_modify_ne _ _ same]

/-- A new generation differs from the stream's descriptor in the uid and a configuration. -/
theorem composeRedescribe_eq {bundle : RunBundle} {uid : Uid} {streamName objectName : String}
    {configuration : Configuration} {descriptor : EventDescriptor}
    (composed : bundle.composeRedescribe uid streamName objectName configuration =
      some descriptor) :
    ∃ held, bundle.described streamName = some held ∧ descriptor = { held with
      uid, configuration := held.configuration.insert objectName configuration } := by
  unfold composeRedescribe at composed
  split at composed
  · cases composed
  · rename_i stream found
    split at composed
    · cases composed
    · cases composed
      exact ⟨stream.descriptor, by simp [described, found], rfl⟩

theorem composeRedescribe_some {bundle : RunBundle} {uid : Uid} {streamName objectName : String}
    {configuration : Configuration} {descriptor : EventDescriptor}
    (composed : bundle.composeRedescribe uid streamName objectName configuration =
      some descriptor) :
    ∃ held, bundle.described streamName = some held ∧ descriptor.runStart = held.runStart ∧
      descriptor.name = held.name := by
  obtain ⟨held, found, rfl⟩ := composeRedescribe_eq composed
  exact ⟨held, found, rfl, rfl⟩

@[simp]
theorem described_event (bundle : RunBundle) (uid : Uid) (name stream : String)
    (data timestamps : Table String Value) :
    (bundle.event uid name data timestamps).2.described stream = bundle.described stream := by
  unfold event
  cases found : bundle.streams.lookup name with
  | none => rfl
  | some held =>
      by_cases same : stream = name
      · subst same
        simp [described, found]
      · simp [described, Table.lookup_modify_ne _ _ same]

@[simp]
theorem startUid_event (bundle : RunBundle) (uid : Uid) (name : String)
    (data timestamps : Table String Value) :
    (bundle.event uid name data timestamps).2.startUid = bundle.startUid := by
  unfold event
  split <;> rfl

/-- An Event names its stream's current descriptor. -/
theorem event_descriptor {bundle : RunBundle} {event : Event} {uid : Uid} {name : String}
    {data timestamps : Table String Value}
    (composed : (bundle.event uid name data timestamps).1 = some event) :
    ∃ held, bundle.described name = some held ∧ event.descriptor = held.uid := by
  unfold RunBundle.event at composed
  split at composed
  · cases composed
  · rename_i stream found
    cases composed
    exact ⟨stream.descriptor, by simp [described, found], rfl⟩

/-- An Event carries what it was composed of. -/
theorem event_content {bundle : RunBundle} {event : Event} {uid : Uid} {name : String}
    {data timestamps : Table String Value}
    (composed : (bundle.event uid name data timestamps).1 = some event) :
    event.data = data ∧ event.timestamps = timestamps := by
  unfold RunBundle.event at composed
  split at composed
  · cases composed
  · cases composed
    exact ⟨rfl, rfl⟩

@[simp]
theorem described_advanceSeq (bundle : RunBundle) (name stream : String) (count : Nat) :
    (bundle.advanceSeq name count).described stream = bundle.described stream := by
  by_cases same : stream = name
  · subst same
    simp [advanceSeq, described, Function.comp_def]
  · simp [advanceSeq, described, Table.lookup_modify_ne _ _ same]

@[simp]
theorem described_restoreSeqNums (bundle : RunBundle) (snapshot : Table String Nat)
    (stream : String) :
    (bundle.restoreSeqNums snapshot).described stream = bundle.described stream := by
  simp [restoreSeqNums, described, Function.comp_def]

end RunBundle

end Bsrs.EventModel
