import Mathlib.Algebra.Group.Nat.Defs
import Bsrs.Engine.Environment

namespace Bsrs.Engine

open Bsrs.Library (Table Action)
open Bsrs.Library.Action
open Bsrs.EventModel
open Bsrs.Core

/-- What `pack_external_assets` accumulates over one drain. -/
structure Packing where
  registry : Table String String
  received : List String
  width : Option Nat

namespace Packing

/-- One document of the drain: checked, stamped and accounted for. The `u64` past a datum's last number
wraps, as in a release build. -/
def add (packing : Packing) (runStart : Uid) (nextSeq : Nat) (external : List String) :
    Document → Except PlanError (Document × Packing)
  | .streamResource doc =>
      if (packing.registry.lookup doc.uid).isSome then
        .error (.resourceTwice doc.uid)
      else if doc.dataKey ∉ external then
        .error (.resourceUnknownKey doc.dataKey external)
      else
        .ok (.streamResource { doc with runStart := some (doc.runStart.getD runStart) },
          { packing with registry := packing.registry.insert doc.uid doc.dataKey })
  | .streamDatum doc =>
      if doc.seqNums.start ≠ 0 ∨ doc.seqNums.stop ≠ 0 then
        .error (.datumPrefilled doc.uid doc.seqNums.start doc.seqNums.stop)
      else
        match packing.registry.lookup doc.streamResource with
        | none => .error (.datumUnknownResource doc.streamResource)
        | some dataKey =>
            let width := doc.indices.stop - doc.indices.start
            match packing.width with
            | some other =>
                if other ≠ width then
                  .error (.datumWidth doc.uid width other)
                else
                  .ok (.streamDatum
                      { doc with seqNums := { start := nextSeq, stop := (nextSeq + width) % 2 ^ 64 } },
                    { packing with received := packing.received.insert dataKey })
            | none =>
                .ok (.streamDatum
                    { doc with seqNums := { start := nextSeq, stop := (nextSeq + width) % 2 ^ 64 } },
                  { packing with
                    received := packing.received.insert dataKey
                    width := some width })
  | other => .ok (other, packing)

/-- The loop of `pack_external_assets`; the registry keeps what was added before a rejection. -/
def addAll (packing : Packing) (runStart : Uid) (nextSeq : Nat) (external : List String) :
    List Document → Except PlanError (List Document) × Packing
  | [] => (.ok [], packing)
  | doc :: rest =>
      match packing.add runStart nextSeq external doc with
      | .error error => (.error error, packing)
      | .ok (stamped, next) =>
          match addAll next runStart nextSeq external rest with
          | (.error error, reached) => (.error error, reached)
          | (.ok others, reached) => (.ok (stamped :: others), reached)

end Packing

/-- `pack_external_assets`: the stamped drain and its indices width, and the run's registry. -/
def packExternalAssets (docs : List Document) (runStart : Uid) (nextSeq : Nat)
    (external : List String) (registry : Table String String) :
    Except PlanError (List Document × Nat) × Table String String :=
  match Packing.addAll { registry, received := [], width := none } runStart nextSeq external docs with
  | (.error error, packing) => (.error error, packing.registry)
  | (.ok stamped, packing) =>
      if packing.received ≠ [] ∧
          (external.length ≠ packing.received.length ∨
            ¬ ∀ key ∈ external, key ∈ packing.received) then
        (.error (.datumCoverage packing.received external), packing.registry)
      else
        (.ok (stamped, packing.width.getD 0), packing.registry)

/-- Pack a drain against the open run `key`, whose registry records the resources. -/
def packInto (key : RunKey) (lost : PlanError) (stream : Option String) (nextSeq : Nat)
    (docs : List Document) : EngineAction (List Document × Nat) := do
  match ← ask fun engine => engine.state.bundler key with
  | none => reject lost
  | some bundler =>
      let external := (stream.bind bundler.bundle.externalDataKeys).getD []
      let packed := packExternalAssets docs bundler.startUid nextSeq external
        bundler.streamResourceDataKeys
      modify fun engine => engine.withBundler key fun bundler =>
        { bundler with streamResourceDataKeys := packed.2 }
      match packed.1 with
      | .error error => reject error
      | .ok drained => pure drained

/-- `read_object_configuration`. -/
def readObjectConfiguration (env : Env) (obj : Obj) : EngineAction Configuration := do
  let tick ← await env
  let configuration ← lift (env.readConfiguration tick obj)
  record (.reported obj configuration)
  pure configuration

/-- `ensure_object_configuration`: cached per run at an object's first use. -/
def ensureObjectConfiguration (env : Env) (key : RunKey) (obj : Obj) :
    EngineAction Configuration := do
  match ← ask fun engine => (engine.state.bundler key).bind (·.cachedConfiguration obj.name) with
  | some config => pure config
  | none =>
      let config ←
        if obj.configurable then readObjectConfiguration env obj else pure Configuration.empty
      modify fun engine => engine.withBundler key (·.cacheConfiguration obj.name config)
      pure config

/-- An object's contribution to a descriptor, its configuration read on the way. -/
def streamObject (env : Env) (key : RunKey) (obj : Obj) (dataKeys : Table String DataKey) :
    EngineAction StreamObject := do
  let configuration ← ensureObjectConfiguration env key obj
  pure { object := some obj.name, dataKeys, hintFields := obj.hintFields, configuration }

/-- Install the stream's descriptor in the run's caches; the caller broadcasts it. -/
def declareInto (key : RunKey) (missing : PlanError) (stream : String)
    (objs : List StreamObject) : EngineAction EventDescriptor := do
  let uid ← mint
  match ← ask fun engine => engine.state.bundler key with
  | none => reject missing
  | some bundler => do
      modify fun engine => engine.withBundler key fun bundler =>
        (bundler.declareStream uid stream objs).2
      pure (bundler.declareStream uid stream objs).1

/-- The readable half of `describe_stream_objs`. -/
def describeReadable (env : Env) (key : RunKey) (obj : Obj) : EngineAction StreamObject := do
  let tick ← await env
  let dataKeys ← lift (env.describe tick obj)
  streamObject env key obj dataKeys

/-- The collectable half: a nested `describe_collect` must have the declared stream alone. -/
def describeCollectable (env : Env) (key : RunKey) (streamName : String) (obj : Obj) :
    EngineAction StreamObject := do
  let tick ← await env
  let described ← lift (env.describeCollect tick obj)
  match described.lookup streamName, (described.erase streamName).keys with
  | some dataKeys, [] => streamObject env key obj dataKeys
  | _, others =>
      reject (.declareStreamMismatch obj.name streamName (others.insertionSort (· ≤ ·)))

/-- `describe_stream_objs`. -/
def describeStreamObjs (env : Env) (key : RunKey) (streamName : String) :
    StreamObjs → EngineAction (List StreamObject)
  | .readable objs => gather (describeReadable env key) objs
  | .collectable objs => gather (describeCollectable env key streamName) objs

end Bsrs.Engine
