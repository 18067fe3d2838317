import Bsrs.Serde.Shape

/-! The documents with every field `documents.rs` declares, and the two sides serde derives for
them. The engine's own model of a document keeps the fields the engine reads. -/

namespace Bsrs.Zmq

open Bsrs.Core (Json)
open Bsrs.Library (Table)
open Bsrs.Serde
open Bsrs.Serde.Shape

/-! ## Run start -/

inductive DimensionItem where
  | name (value : String)
  | fields (values : List String)
  deriving Repr, DecidableEq

instance : Wire DimensionItem where
  encode
    | .name value => Wire.encode value
    | .fields values => Wire.encode values
  decode json := decodeUntagged "DimensionItem" ((Wire.decode json).map .name)
    ((Wire.decode json).map .fields)
  distinct item := by cases item <;> exact Wire.distinct _
  decodes item := by
    cases item with
    | name value => rfl
    | fields values =>
        have decoded := Wire.decodes values
        simp only [decoded]
        rfl

structure Hints where
  dimensions : Option (List (List DimensionItem))

def Hints.shape : Shape Hints :=
  (skipNone "dimensions").record Hints.mk Hints.dimensions (fun _ => rfl) (fun _ => rfl)

instance : Wire Hints := Hints.shape.wire "Hints" (by simp [Hints.shape])

instance : Solid Hints where
  nonnull _ := nofun

structure Projections where
  configuration : Table String Value
  name : String
  projection : Table String Value
  version : String

def Projections.shape : Shape Projections :=
  Shape.record
    (beside (kept "configuration" ∅) <|
      beside (skipEmpty "name") <|
      beside (kept "projection" ∅) <|
      kept "version" "")
    (fun (configuration, name, projection, version) => { configuration, name, projection, version })
    (fun doc => (doc.configuration, doc.name, doc.projection, doc.version))
    (fun _ => rfl) (fun _ => rfl)

instance : Wire Projections :=
  Projections.shape.wire "Projections" (by simp [Projections.shape])

/-- What `RunStart` declares. -/
structure RunStartFields where
  uid : String
  time : Double
  scanId : Option UInt64
  hints : Option Hints
  sample : Option Value
  dataGroups : List String
  dataSession : String
  dataType : Option Value
  group : String
  owner : String
  project : String
  projections : List Projections

/-- `RunStart`: the declared fields, and the map flattened beside them. -/
structure RunStart extends RunStartFields where
  extra : Table String Value

def RunStart.shape : Shape RunStartFields :=
  Shape.record
    (beside (required "uid") <|
      beside (required "time") <|
      beside (skipNone "scan_id") <|
      beside (skipNone "hints") <|
      beside (skipNoneValue "sample") <|
      beside (skipEmpty "data_groups") <|
      beside (skipEmpty "data_session") <|
      beside (skipNoneValue "data_type") <|
      beside (skipEmpty "group") <|
      beside (skipEmpty "owner") <|
      beside (skipEmpty "project") <|
      skipEmpty "projections")
    (fun (uid, time, scanId, hints, sample, dataGroups, dataSession, dataType, group, owner,
        project, projections) =>
      { uid, time, scanId, hints, sample, dataGroups, dataSession, dataType, group, owner,
        project, projections })
    (fun doc => (doc.uid, doc.time, doc.scanId, doc.hints, doc.sample, doc.dataGroups,
      doc.dataSession, doc.dataType, doc.group, doc.owner, doc.project, doc.projections))
    (fun _ => rfl) (fun _ => rfl)

/-! ## Run stop -/

inductive ExitStatus where
  | success
  | abort
  | fail
  deriving Repr, DecidableEq

/-- `ExitStatus::as_str`. -/
def ExitStatus.asStr : ExitStatus → String
  | .success => "success"
  | .abort => "abort"
  | .fail => "fail"

instance : Wire ExitStatus where
  encode status := .string status.asStr
  decode := decodeVariant [("success", .success), ("abort", .abort), ("fail", .fail)]
  distinct _ := rfl
  decodes status := by cases status <;> rfl

/-- What `RunStop` declares. -/
structure RunStopFields where
  uid : String
  runStart : String
  time : Double
  exitStatus : ExitStatus
  reason : Option String
  numEvents : Table String UInt64
  dataType : Option Value

/-- `RunStop`: the declared fields, and the map flattened beside them. -/
structure RunStop extends RunStopFields where
  extra : Table String Value

def RunStop.shape : Shape RunStopFields :=
  Shape.record
    (beside (required "uid") <|
      beside (required "run_start") <|
      beside (required "time") <|
      beside (required "exit_status") <|
      beside (skipNone "reason") <|
      beside (skipEmpty "num_events") <|
      skipNoneValue "data_type")
    (fun (uid, runStart, time, exitStatus, reason, numEvents, dataType) =>
      { uid, runStart, time, exitStatus, reason, numEvents, dataType })
    (fun doc => (doc.uid, doc.runStart, doc.time, doc.exitStatus, doc.reason, doc.numEvents,
      doc.dataType))
    (fun _ => rfl) (fun _ => rfl)

/-! ## Event descriptor -/

inductive Dtype where
  | string
  | number
  | array
  | boolean
  | integer
  deriving Repr, DecidableEq

def Dtype.asStr : Dtype → String
  | .string => "string"
  | .number => "number"
  | .array => "array"
  | .boolean => "boolean"
  | .integer => "integer"

instance : Wire Dtype where
  encode dtype := .string dtype.asStr
  decode := decodeVariant [("string", .string), ("number", .number), ("array", .array),
    ("boolean", .boolean), ("integer", .integer)]
  distinct _ := rfl
  decodes dtype := by cases dtype <;> rfl

structure LimitsRange where
  high : Option Double
  low : Option Double
  deriving Repr, DecidableEq

/-- Neither field has an attribute: `None` is written as `null`, and an absent one is `None`. -/
def LimitsRange.shape : Shape LimitsRange :=
  Shape.record
    (beside (kept "high" none) <| kept "low" none)
    (fun (high, low) => { high, low })
    (fun range => (range.high, range.low))
    (fun _ => rfl) (fun _ => rfl)

instance : Wire LimitsRange := LimitsRange.shape.wire "LimitsRange" (by simp [LimitsRange.shape])

instance : Solid LimitsRange where
  nonnull _ := nofun

structure RdsRange where
  timeDifference : Double
  valueDifference : Double
  deriving Repr, DecidableEq

def RdsRange.shape : Shape RdsRange :=
  Shape.record
    (beside (required "time_difference") <| required "value_difference")
    (fun (timeDifference, valueDifference) => { timeDifference, valueDifference })
    (fun range => (range.timeDifference, range.valueDifference))
    (fun _ => rfl) (fun _ => rfl)

instance : Wire RdsRange := RdsRange.shape.wire "RdsRange" (by simp [RdsRange.shape])

instance : Solid RdsRange where
  nonnull _ := nofun

structure Limits where
  alarm : Option LimitsRange
  control : Option LimitsRange
  display : Option LimitsRange
  warning : Option LimitsRange
  hysteresis : Option Double
  rds : Option RdsRange
  deriving Repr, DecidableEq

def Limits.shape : Shape Limits :=
  Shape.record
    (beside (skipNone "alarm") <|
      beside (skipNone "control") <|
      beside (skipNone "display") <|
      beside (skipNone "warning") <|
      beside (skipNone "hysteresis") <|
      skipNone "rds")
    (fun (alarm, control, display, warning, hysteresis, rds) =>
      { alarm, control, display, warning, hysteresis, rds })
    (fun limits => (limits.alarm, limits.control, limits.display, limits.warning,
      limits.hysteresis, limits.rds))
    (fun _ => rfl) (fun _ => rfl)

instance : Wire Limits :=
  Limits.shape.wire "Limits" (by simp [Limits.shape])

instance : Solid Limits where
  nonnull _ := nofun

inductive DtypeNumpy where
  | scalar (value : String)
  | structured (fields : List (String × String))
  deriving Repr, DecidableEq

instance : Wire DtypeNumpy where
  encode
    | .scalar value => Wire.encode value
    | .structured fields => Wire.encode fields
  decode json := decodeUntagged "DtypeNumpy" ((Wire.decode json).map .scalar)
    ((Wire.decode json).map .structured)
  distinct dtype := by cases dtype <;> exact Wire.distinct _
  decodes dtype := by
    cases dtype with
    | scalar value => rfl
    | structured fields =>
        have decoded := Wire.decodes fields
        simp only [decoded]
        rfl

instance : Solid DtypeNumpy where
  nonnull dtype := by cases dtype <;> nofun

structure DataKey where
  source : String
  dtype : Dtype
  shape : List (Option UInt64)
  dtypeNumpy : Option DtypeNumpy
  external : Option String
  units : Option String
  precision : Option Int64
  objectName : Option String
  dims : Option (List String)
  limits : Option Limits
  choices : Option (List String)

def DataKey.wireShape : Shape DataKey :=
  Shape.record
    (beside (required "source") <|
      beside (required "dtype") <|
      beside (required "shape") <|
      beside (skipNone "dtype_numpy") <|
      beside (skipNone "external") <|
      beside (skipNone "units") <|
      beside (skipNone "precision") <|
      beside (skipNone "object_name") <|
      beside (skipNone "dims") <|
      beside (skipNone "limits") <|
      skipNone "choices")
    (fun (source, dtype, shape, dtypeNumpy, external, units, precision, objectName, dims,
        limits, choices) =>
      { source, dtype, shape, dtypeNumpy, external, units, precision, objectName, dims,
        limits, choices })
    (fun key => (key.source, key.dtype, key.shape, key.dtypeNumpy, key.external, key.units,
      key.precision, key.objectName, key.dims, key.limits, key.choices))
    (fun _ => rfl) (fun _ => rfl)

instance : Wire DataKey :=
  DataKey.wireShape.wire "DataKey" (by simp [DataKey.wireShape])

structure PerObjectHint where
  fields : Option (List String)
  nxClass : Option String
  deriving Repr, DecidableEq

def PerObjectHint.shape : Shape PerObjectHint :=
  Shape.record
    (beside (skipNone "fields") <| skipNone "NX_class")
    (fun (fields, nxClass) => { fields, nxClass })
    (fun hint => (hint.fields, hint.nxClass))
    (fun _ => rfl) (fun _ => rfl)

instance : Wire PerObjectHint :=
  PerObjectHint.shape.wire "PerObjectHint" (by simp [PerObjectHint.shape])

structure Configuration where
  data : Table String Value
  dataKeys : Table String DataKey
  timestamps : Table String Double

def Configuration.shape : Shape Configuration :=
  Shape.record
    (beside (kept "data" ∅) <| beside (kept "data_keys" ∅) <| kept "timestamps" ∅)
    (fun (data, dataKeys, timestamps) => { data, dataKeys, timestamps })
    (fun held => (held.data, held.dataKeys, held.timestamps))
    (fun _ => rfl) (fun _ => rfl)

instance : Wire Configuration :=
  Configuration.shape.wire "Configuration" (by simp [Configuration.shape])

structure EventDescriptor where
  uid : String
  runStart : String
  time : Double
  dataKeys : Table String DataKey
  configuration : Table String Configuration
  name : Option String
  hints : Option (Table String PerObjectHint)
  objectKeys : Table String (List String)

def EventDescriptor.shape : Shape EventDescriptor :=
  Shape.record
    (beside (required "uid") <|
      beside (required "run_start") <|
      beside (required "time") <|
      beside (required "data_keys") <|
      beside (skipEmpty "configuration") <|
      beside (skipNone "name") <|
      beside (skipNone "hints") <|
      skipEmpty "object_keys")
    (fun (uid, runStart, time, dataKeys, configuration, name, hints, objectKeys) =>
      { uid, runStart, time, dataKeys, configuration, name, hints, objectKeys })
    (fun doc => (doc.uid, doc.runStart, doc.time, doc.dataKeys, doc.configuration, doc.name,
      doc.hints, doc.objectKeys))
    (fun _ => rfl) (fun _ => rfl)

instance : Wire EventDescriptor :=
  EventDescriptor.shape.wire "EventDescriptor" (by simp [EventDescriptor.shape])

/-! ## Events -/

structure Event where
  uid : String
  descriptor : String
  time : Double
  seqNum : UInt64
  data : Table String Value
  timestamps : Table String Double
  filled : Table String Value

def Event.shape : Shape Event :=
  Shape.record
    (beside (required "uid") <|
      beside (required "descriptor") <|
      beside (required "time") <|
      beside (required "seq_num") <|
      beside (required "data") <|
      beside (required "timestamps") <|
      skipEmpty "filled")
    (fun (uid, descriptor, time, seqNum, data, timestamps, filled) =>
      { uid, descriptor, time, seqNum, data, timestamps, filled })
    (fun doc => (doc.uid, doc.descriptor, doc.time, doc.seqNum, doc.data, doc.timestamps,
      doc.filled))
    (fun _ => rfl) (fun _ => rfl)

instance : Wire Event := Event.shape.wire "Event" (by simp [Event.shape])

structure EventPage where
  uid : List String
  descriptor : String
  time : List Double
  seqNum : List UInt64
  data : Table String (List Value)
  timestamps : Table String (List Double)
  filled : Table String (List Value)

def EventPage.shape : Shape EventPage :=
  Shape.record
    (beside (required "uid") <|
      beside (required "descriptor") <|
      beside (required "time") <|
      beside (required "seq_num") <|
      beside (required "data") <|
      beside (required "timestamps") <|
      skipEmpty "filled")
    (fun (uid, descriptor, time, seqNum, data, timestamps, filled) =>
      { uid, descriptor, time, seqNum, data, timestamps, filled })
    (fun doc => (doc.uid, doc.descriptor, doc.time, doc.seqNum, doc.data, doc.timestamps,
      doc.filled))
    (fun _ => rfl) (fun _ => rfl)

instance : Wire EventPage := EventPage.shape.wire "EventPage" (by simp [EventPage.shape])

/-! ## External assets -/

structure Resource where
  uid : String
  spec : String
  root : String
  resourcePath : String
  pathSemantics : Option String
  resourceKwargs : Table String Value
  runStart : Option String

def Resource.shape : Shape Resource :=
  Shape.record
    (beside (required "uid") <|
      beside (required "spec") <|
      beside (required "root") <|
      beside (required "resource_path") <|
      beside (skipNone "path_semantics") <|
      beside (kept "resource_kwargs" ∅) <|
      skipNone "run_start")
    (fun (uid, spec, root, resourcePath, pathSemantics, resourceKwargs, runStart) =>
      { uid, spec, root, resourcePath, pathSemantics, resourceKwargs, runStart })
    (fun doc => (doc.uid, doc.spec, doc.root, doc.resourcePath, doc.pathSemantics,
      doc.resourceKwargs, doc.runStart))
    (fun _ => rfl) (fun _ => rfl)

instance : Wire Resource := Resource.shape.wire "Resource" (by simp [Resource.shape])

structure Datum where
  datumId : String
  resource : String
  datumKwargs : Table String Value

def Datum.shape : Shape Datum :=
  Shape.record
    (beside (required "datum_id") <| beside (required "resource") <| kept "datum_kwargs" ∅)
    (fun (datumId, resource, datumKwargs) => { datumId, resource, datumKwargs })
    (fun doc => (doc.datumId, doc.resource, doc.datumKwargs))
    (fun _ => rfl) (fun _ => rfl)

instance : Wire Datum := Datum.shape.wire "Datum" (by simp [Datum.shape])

structure DatumPage where
  datumId : List String
  resource : String
  datumKwargs : Table String (List Value)

def DatumPage.shape : Shape DatumPage :=
  Shape.record
    (beside (required "datum_id") <| beside (required "resource") <| kept "datum_kwargs" ∅)
    (fun (datumId, resource, datumKwargs) => { datumId, resource, datumKwargs })
    (fun doc => (doc.datumId, doc.resource, doc.datumKwargs))
    (fun _ => rfl) (fun _ => rfl)

instance : Wire DatumPage := DatumPage.shape.wire "DatumPage" (by simp [DatumPage.shape])

structure StreamResource where
  uid : String
  dataKey : String
  mimetype : String
  uri : String
  parameters : Table String Value
  runStart : Option String

def StreamResource.shape : Shape StreamResource :=
  Shape.record
    (beside (required "uid") <|
      beside (required "data_key") <|
      beside (required "mimetype") <|
      beside (required "uri") <|
      beside (kept "parameters" ∅) <|
      skipNone "run_start")
    (fun (uid, dataKey, mimetype, uri, parameters, runStart) =>
      { uid, dataKey, mimetype, uri, parameters, runStart })
    (fun doc => (doc.uid, doc.dataKey, doc.mimetype, doc.uri, doc.parameters, doc.runStart))
    (fun _ => rfl) (fun _ => rfl)

instance : Wire StreamResource :=
  StreamResource.shape.wire "StreamResource" (by simp [StreamResource.shape])

structure StreamRange where
  start : UInt64
  stop : UInt64
  deriving Repr, DecidableEq

def StreamRange.shape : Shape StreamRange :=
  Shape.record
    (beside (required "start") <| required "stop")
    (fun (start, stop) => { start, stop })
    (fun range => (range.start, range.stop))
    (fun _ => rfl) (fun _ => rfl)

instance : Wire StreamRange := StreamRange.shape.wire "StreamRange" (by simp [StreamRange.shape])

structure StreamDatum where
  uid : String
  streamResource : String
  descriptor : String
  indices : StreamRange
  seqNums : StreamRange
  deriving Repr, DecidableEq

def StreamDatum.shape : Shape StreamDatum :=
  Shape.record
    (beside (required "uid") <|
      beside (required "stream_resource") <|
      beside (required "descriptor") <|
      beside (required "indices") <|
      required "seq_nums")
    (fun (uid, streamResource, descriptor, indices, seqNums) =>
      { uid, streamResource, descriptor, indices, seqNums })
    (fun doc => (doc.uid, doc.streamResource, doc.descriptor, doc.indices, doc.seqNums))
    (fun _ => rfl) (fun _ => rfl)

instance : Wire StreamDatum := StreamDatum.shape.wire "StreamDatum" (by simp [StreamDatum.shape])

/-- `Document`. -/
inductive Document where
  | start (doc : RunStart)
  | descriptor (doc : EventDescriptor)
  | event (doc : Event)
  | eventPage (doc : EventPage)
  | resource (doc : Resource)
  | datum (doc : Datum)
  | datumPage (doc : DatumPage)
  | streamResource (doc : StreamResource)
  | streamDatum (doc : StreamDatum)
  | stop (doc : RunStop)

end Bsrs.Zmq
