import Mathlib.Data.List.Sort
import Mathlib.Data.Finset.Basic
import Bsrs.EventModel.Compose
import Bsrs.Core.Msg

namespace Bsrs.Engine

open Bsrs.Library (Table)
open Bsrs.EventModel
open Bsrs.Core

/-- One object's contribution to a stream descriptor; `object` is `none` for keys of no object. -/
structure StreamObject where
  object : Option String
  dataKeys : Table String DataKey
  hintFields : Option (List String)
  configuration : Configuration
  deriving DecidableEq

def StreamObject.objectless (dataKeys : Table String DataKey) : StreamObject where
  object := none
  dataKeys
  hintFields := none
  configuration := .empty

/-- State of one open bundle, between `create` and `save` or `drop`. -/
structure OpenBundle where
  streamName : String
  readings : Table String ReadingValue
  objs : List StreamObject
  deriving DecidableEq

/-- The parts of a descriptor that the objects behind a stream shape. -/
structure StreamShape where
  dataKeys : Table String DataKey
  objectKeys : Table String (List String)
  hints : Table String PerObjectHint
  configuration : Table String Configuration

namespace StreamShape

def empty : StreamShape where
  dataKeys := ∅
  objectKeys := ∅
  hints := ∅
  configuration := ∅

/-- One turn of the loop of `prepare_stream`. -/
def add (shape : StreamShape) (obj : StreamObject) : StreamShape :=
  match obj.object with
  | none => { shape with dataKeys := obj.dataKeys ∪ shape.dataKeys }
  | some name =>
      { dataKeys :=
          (obj.dataKeys.mapValues fun _ key => { key with objectName := some name }) ∪ shape.dataKeys
        objectKeys := shape.objectKeys.insert name (obj.dataKeys.keys.insertionSort (· ≤ ·))
        hints :=
          match obj.hintFields with
          | some fields => shape.hints.insert name { fields := some fields }
          | none => shape.hints
        configuration := shape.configuration.insert name obj.configuration }

end StreamShape

/-- `RunBundler`: one run's documents in the making. -/
structure RunBundler where
  bundle : RunBundle
  /-- Per-stream descriptor uids, the bundler's own cache beside `bundle.streams`. -/
  descriptors : Table String Uid
  openBundle : Option OpenBundle
  startUid : Uid
  configCache : Table String Configuration
  /-- The rewind target of the sequence counters; `none` outside a checkpoint region. -/
  seqSnapshot : Option (Table String Nat)
  streamResourceDataKeys : Table String String
  declaredStreamNames : Table (Finset String) (List String)
  deriving DecidableEq

namespace RunBundler

def new (bundle : RunBundle) : RunBundler where
  bundle
  descriptors := ∅
  openBundle := none
  startUid := bundle.startUid
  configCache := ∅
  seqSnapshot := none
  streamResourceDataKeys := ∅
  declaredStreamNames := ∅

def recordDeclaredStream (bundler : RunBundler) (objs : Finset String) (streamName : String) :
    RunBundler :=
  { bundler with
    declaredStreamNames := bundler.declaredStreamNames.insert objs
      ((bundler.declaredStreamNames.lookup objs).getD [] ++ [streamName]) }

/-- `RunBundler::declared_stream_names`: the streams declared for exactly `objs`. -/
def declaredStreams (bundler : RunBundler) (objs : Finset String) : List String :=
  (bundler.declaredStreamNames.lookup objs).getD []

def cachedConfiguration (bundler : RunBundler) (objectName : String) : Option Configuration :=
  bundler.configCache.lookup objectName

def cacheConfiguration (bundler : RunBundler) (objectName : String) (config : Configuration) :
    RunBundler :=
  { bundler with configCache := bundler.configCache.insert objectName config }

/-- `RunBundler::descriptor_uid`. -/
def descriptorUid (bundler : RunBundler) (streamName : String) : Option Uid :=
  bundler.descriptors.lookup streamName

/-- `RunBundler::compose_reconfigure`: new generations of the streams `objectName` is in, uids
minted from `uid` on, not yet installed. -/
def composeReconfigure (bundler : RunBundler) (uid : Uid) (objectName : String)
    (configuration : Configuration) : List EventDescriptor :=
  (bundler.descriptors.keys.zipIdx.filterMap fun entry =>
    bundler.bundle.composeRedescribe (uid + entry.2) entry.1 objectName configuration)

/-- `RunBundler::install_reconfigured`. -/
def installReconfigured (bundler : RunBundler) : List EventDescriptor → RunBundler
  | [] => bundler
  | descriptor :: rest =>
      match descriptor.name with
      | none => bundler.installReconfigured rest
      | some name =>
          installReconfigured
            { bundler with
              bundle := bundler.bundle.installDescriptor name descriptor
              descriptors := bundler.descriptors.insert name descriptor.uid }
            rest

def resetCheckpointState (bundler : RunBundler) : RunBundler :=
  { bundler with seqSnapshot := some bundler.bundle.snapshotSeqNums }

def clearCheckpoint (bundler : RunBundler) : RunBundler :=
  { bundler with seqSnapshot := none }

def create (bundler : RunBundler) (streamName : String) : Except PlanError RunBundler :=
  match bundler.openBundle with
  | some _ => .error .createBundleOpen
  | none => .ok { bundler with openBundle := some { streamName, readings := ∅, objs := [] } }

/-- `RunBundler::add_read`: fold one read into the open bundle. -/
def addRead (bundler : RunBundler) (obj : StreamObject) (readings : Table String ReadingValue) :
    Except PlanError RunBundler :=
  match bundler.openBundle with
  | none => .error .readNoOpenBundle
  | some bundle =>
      match readings.keys.find? fun key => (bundle.readings.lookup key).isSome with
      | some key => .error (.readCollision key)
      | none =>
          .ok { bundler with
            openBundle := some
              { bundle with
                readings := readings ∪ bundle.readings
                objs := bundle.objs ++ [obj] } }

/-- `RunBundler::prepare_stream`: shape the stream's descriptor and cache its uid. -/
def prepareStream (bundler : RunBundler) (uid : Uid) (streamName : String)
    (objs : List StreamObject) : EventDescriptor × RunBundler :=
  let shape := objs.foldl StreamShape.add .empty
  let hints := if shape.hints.entries.isEmpty then none else some shape.hints
  let composed := bundler.bundle.descriptor uid streamName shape.dataKeys shape.configuration
    hints shape.objectKeys
  (composed.1.1,
    { bundler with
      bundle := composed.2
      descriptors := bundler.descriptors.insert streamName composed.1.1.uid })

/-- The Event half of `save`. -/
def saveEvent (bundler : RunBundler) (uid : Uid) (bundle : OpenBundle) (out : List Document) :
    Except PlanError (List Document) × RunBundler :=
  match bundler.bundle.event uid bundle.streamName
      (bundle.readings.mapValues fun _ reading => reading.value)
      (bundle.readings.mapValues fun _ reading => reading.timestamp) with
  | (none, _) => (.error .saveUnknownStream, bundler)
  | (some event, advanced) => (.ok (out ++ [.event event]), { bundler with bundle := advanced })

/-- `RunBundler::save`: the Descriptor of a stream's first bundle, then the Event; nothing for a
bundle without reads. -/
def save (bundler : RunBundler) (descriptorUid eventUid : Uid) :
    Except PlanError (List Document) × RunBundler :=
  match bundler.openBundle with
  | none => (.error .saveNoOpenBundle, bundler)
  | some bundle =>
      let closed := { bundler with openBundle := none }
      if bundle.objs.isEmpty then
        (.ok [], closed)
      else
        match closed.descriptorUid bundle.streamName with
        | some _ => closed.saveEvent eventUid bundle []
        | none =>
            let prepared := closed.prepareStream descriptorUid bundle.streamName bundle.objs
            prepared.2.saveEvent eventUid bundle [.descriptor prepared.1]

def isBundling (bundler : RunBundler) : Bool :=
  bundler.openBundle.isSome

def openStreamName (bundler : RunBundler) : Option String :=
  bundler.openBundle.map OpenBundle.streamName

def dropBundle (bundler : RunBundler) : Except PlanError RunBundler :=
  match bundler.openBundle with
  | none => .error .dropNoOpenBundle
  | some _ => .ok { bundler with openBundle := none }

/-- `RunBundler::rewind`: cancel the open bundle and roll the sequence counters back. -/
def rewind (bundler : RunBundler) : RunBundler :=
  let cancelled := { bundler with openBundle := none }
  match bundler.seqSnapshot with
  | none => cancelled
  | some snapshot => { cancelled with bundle := bundler.bundle.restoreSeqNums snapshot }

/-- `RunBundler::declare_stream`. -/
def declareStream (bundler : RunBundler) (uid : Uid) (streamName : String)
    (objs : List StreamObject) : EventDescriptor × RunBundler :=
  bundler.prepareStream uid streamName objs

/-! ## What saving a bundle does to the counters -/

@[simp]
theorem prepareStream_seqNum (bundler : RunBundler) (uid : Uid) (name stream : String)
    (objs : List StreamObject) :
    (bundler.prepareStream uid name objs).2.bundle.seqNum stream = bundler.bundle.seqNum stream :=
  RunBundle.seqNum_descriptor bundler.bundle uid name stream _ _ _ _

theorem saveEvent_seqSnapshot (bundler : RunBundler) (uid : Uid) (bundle : OpenBundle)
    (out : List Document) : (bundler.saveEvent uid bundle out).2.seqSnapshot = bundler.seqSnapshot := by
  unfold saveEvent
  split <;> rfl

/-- The Event of a bundle counts in the bundle's own stream only. -/
theorem saveEvent_seqNum_ne (bundler : RunBundler) (uid : Uid) {bundle : OpenBundle}
    (out : List Document) (different : stream ≠ bundle.streamName) :
    (bundler.saveEvent uid bundle out).2.bundle.seqNum stream = bundler.bundle.seqNum stream := by
  unfold saveEvent
  split
  · rfl
  · rename_i event advanced composed
    have same := RunBundle.seqNum_event_ne bundler.bundle uid
      (bundle.readings.mapValues fun _ reading => reading.value)
      (bundle.readings.mapValues fun _ reading => reading.timestamp) different
    rwa [composed] at same

theorem saveEvent_seqNum_le (bundler : RunBundler) (uid : Uid) (bundle : OpenBundle)
    (out : List Document) (stream : String) :
    bundler.bundle.seqNum stream ≤ (bundler.saveEvent uid bundle out).2.bundle.seqNum stream := by
  unfold saveEvent
  split
  · exact le_rfl
  · rename_i event advanced composed
    have grown := RunBundle.seqNum_le_event bundler.bundle uid bundle.streamName stream
      (bundle.readings.mapValues fun _ reading => reading.value)
      (bundle.readings.mapValues fun _ reading => reading.timestamp)
    rwa [composed] at grown

theorem save_seqSnapshot (bundler : RunBundler) (descriptorUid eventUid : Uid) :
    (bundler.save descriptorUid eventUid).2.seqSnapshot = bundler.seqSnapshot := by
  unfold save
  split
  · rfl
  · dsimp only
    split
    · rfl
    · split
      · exact saveEvent_seqSnapshot _ _ _ _
      · exact saveEvent_seqSnapshot _ _ _ _

theorem save_seqNum_ne (bundler : RunBundler) (descriptorUid eventUid : Uid)
    (different : bundler.openStreamName ≠ some stream) :
    (bundler.save descriptorUid eventUid).2.bundle.seqNum stream = bundler.bundle.seqNum stream := by
  unfold save
  split
  · rfl
  · rename_i bundle held
    have other : stream ≠ bundle.streamName := by
      rintro rfl
      exact different (by simp [openStreamName, held])
    dsimp only
    split
    · rfl
    · split
      · exact saveEvent_seqNum_ne _ _ _ other
      · exact (saveEvent_seqNum_ne _ _ _ other).trans (prepareStream_seqNum _ _ _ _ _)

theorem save_seqNum_le (bundler : RunBundler) (descriptorUid eventUid : Uid) (stream : String) :
    bundler.bundle.seqNum stream ≤ (bundler.save descriptorUid eventUid).2.bundle.seqNum stream := by
  unfold save
  split
  · exact le_rfl
  · rename_i bundle held
    have closed : bundler.bundle.seqNum stream =
      { bundler with openBundle := none }.bundle.seqNum stream := rfl
    dsimp only
    split
    · exact le_rfl
    · rw [closed]
      split
      · exact saveEvent_seqNum_le _ _ _ _ _
      · rw [← prepareStream_seqNum _ descriptorUid bundle.streamName stream bundle.objs]
        exact saveEvent_seqNum_le _ _ _ _ _

/-- What a bundle composes: nothing, its Event, or its stream's Descriptor before it. -/
theorem save_docs {bundler : RunBundler} {descriptorUid eventUid : Uid} {docs : List Document}
    (saved : (bundler.save descriptorUid eventUid).1 = .ok docs) :
    docs = [] ∨ (∃ event, docs = [.event event]) ∨
      ∃ descriptor event, docs = [.descriptor descriptor, .event event] := by
  have composed : ∀ (prepared : RunBundler) (uid : Uid) (bundle : OpenBundle)
      (out : List Document), (prepared.saveEvent uid bundle out).1 = .ok docs →
      ∃ event, docs = out ++ [.event event] := by
    intro prepared uid bundle out made
    unfold saveEvent at made
    split at made
    · cases made
    · cases made
      exact ⟨_, rfl⟩
  unfold save at saved
  split at saved
  · cases saved
  · dsimp only at saved
    split at saved
    · cases saved
      exact .inl rfl
    · split at saved
      · obtain ⟨event, rfl⟩ := composed _ _ _ _ saved
        exact .inr (.inl ⟨event, rfl⟩)
      · obtain ⟨event, rfl⟩ := composed _ _ _ _ saved
        exact .inr (.inr ⟨_, event, rfl⟩)

end RunBundler

end Bsrs.Engine
