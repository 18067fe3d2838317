import Bsrs.Core.Error
import Bsrs.Library.Table
import Mathlib.Data.List.Infix
import Mathlib.Data.List.Nodup

/-! `AdHdfWriter`: the data keys it answers an open with and the stream documents it emits. What the
IOC answers comes with the call that asks it, and what the XML library reads is a parameter. -/

namespace Bsrs.Host

open Library
open Bsrs.Core (BsrsError)

/-! ## The attribute datasets -/

/-- `NdAttributeDataset`. -/
structure NdAttributeDataset where
  name : String
  dtypeNumpy : String
  source : String
  deriving Repr, DecidableEq

/-- `ndattr_dbrtype_to_numpy`. -/
def ndattrDbrtypeToNumpy (dbrtype : String) : Option String :=
  if dbrtype = "DBR_SHORT" ∨ dbrtype = "DBR_ENUM" then some "<i2"
  else if dbrtype = "DBR_INT" ∨ dbrtype = "DBR_LONG" then some "<i4"
  else if dbrtype = "DBR_FLOAT" then some "<f4"
  else if dbrtype = "DBR_DOUBLE" then some "<f8"
  else if dbrtype = "DBR_STRING" then some "S40"
  else if dbrtype = "DBR_CHAR" then some "|i1"
  else none

/-- `ndattr_datatype_to_numpy`. -/
def ndattrDatatypeToNumpy (datatype : String) : Option String :=
  if datatype = "INT" then some "<i4"
  else if datatype = "INT64" then some "<i8"
  else if datatype = "DOUBLE" then some "<f8"
  else if datatype = "STRING" then some "S40"
  else none

/-- The attributes of an element of an XML document, by their names. -/
abbrev XmlElement := List (String × String)

def XmlElement.attributeOf (element : XmlElement) (name : String) : Option String :=
  (element.find? fun pair => pair.1 = name).map Prod.snd

/-- One element of `parse_ndattributes_xml`. -/
def parseAttribute (element : XmlElement) : Except BsrsError NdAttributeDataset :=
  match element.attributeOf "name" with
  | none => .error (.backend "NDAttributesFile XML: <Attribute> without a name")
  | some name =>
      if (element.attributeOf "type").getD "EPICS_PV" = "EPICS_PV" then
        let dbrtype := (element.attributeOf "dbrtype").getD "DBR_NATIVE"
        match ndattrDbrtypeToNumpy dbrtype with
        | none =>
            .error (.backend s!"NDAttribute {name} has dbrtype {dbrtype}, which is not supported")
        | some dtype =>
            match element.attributeOf "source" with
            | none => .error (.backend s!"NDAttribute {name} (EPICS_PV) has no source")
            | some pv => .ok ⟨name, dtype, s!"ca://{pv}"⟩
      else
        let datatype := (element.attributeOf "datatype").getD "INT"
        match ndattrDatatypeToNumpy datatype with
        | none =>
            .error (.backend s!"NDAttribute {name} has datatype {datatype}, which is not supported")
        | some dtype => .ok ⟨name, dtype, ""⟩

/-- What the XML library makes of a text: the children of its root, or an error. -/
abbrev XmlReader := String → Except String (List XmlElement)

/-- `parse_ndattributes_xml`. -/
def parseNdattributesXml (read : XmlReader) (xml : String) :
    Except BsrsError (List NdAttributeDataset) :=
  match read xml with
  | .error reason => .error (.backend s!"NDAttributesFile XML parse error: {reason}")
  | .ok elements => elements.mapM parseAttribute

/-- Put an attribute in the place of the one of its name, or at the end. -/
def placeNdattribute (new : NdAttributeDataset) : List NdAttributeDataset → List NdAttributeDataset
  | [] => [new]
  | held :: rest => if held.name = new.name then new :: rest else held :: placeNdattribute new rest

/-- `merge_ndattributes`. -/
def mergeNdattributes (acc new : List NdAttributeDataset) : List NdAttributeDataset :=
  new.foldl (fun acc attr => placeNdattribute attr acc) acc

def attributeNames (attrs : List NdAttributeDataset) : List String :=
  attrs.map NdAttributeDataset.name

theorem mem_names_place {name : String} {new : NdAttributeDataset} {acc : List NdAttributeDataset}
    (member : name ∈ attributeNames (placeNdattribute new acc)) :
    name = new.name ∨ name ∈ attributeNames acc := by
  induction acc with
  | nil => exact Or.inl (List.mem_singleton.mp member)
  | cons held rest ih =>
      unfold placeNdattribute at member
      split at member
      · rcases List.mem_cons.mp member with rfl | later
        · exact Or.inl rfl
        · exact Or.inr (List.mem_cons_of_mem _ later)
      · rcases List.mem_cons.mp member with rfl | later
        · exact Or.inr List.mem_cons_self
        · exact (ih later).imp_right (List.mem_cons_of_mem _)

theorem nodup_place {new : NdAttributeDataset} {acc : List NdAttributeDataset}
    (distinct : (attributeNames acc).Nodup) :
    (attributeNames (placeNdattribute new acc)).Nodup := by
  induction acc with
  | nil => exact List.nodup_singleton _
  | cons held rest ih =>
      obtain ⟨apart, others⟩ := List.nodup_cons.mp distinct
      unfold placeNdattribute
      split
      · rename_i same
        exact List.nodup_cons.mpr ⟨same ▸ apart, others⟩
      · rename_i different
        refine List.nodup_cons.mpr ⟨fun member => ?_, ih others⟩
        rcases mem_names_place member with same | among
        · exact different same
        · exact apart among

/-- The attributes of a merge are told apart by their names. -/
theorem nodup_merge {acc new : List NdAttributeDataset} (distinct : (attributeNames acc).Nodup) :
    (attributeNames (mergeNdattributes acc new)).Nodup := by
  induction new generalizing acc with
  | nil => exact distinct
  | cons attr rest ih => exact ih (nodup_place distinct)

/-! ## The writer -/

/-- What the IOC answers to one step of an open: a result, an error, or nothing more, as another
writer's error drops the open at this step. -/
abbrev AdAnswer (α : Type) := Except (Option BsrsError) α

/-- What an open meets, step by step. `begun` says whether a `start_capture` without an answer got
the plugin to capture, and `sources` are the texts of the attribute sources in their order. -/
structure AdOpen where
  directoryUri : AdAnswer String
  filename : String
  framesPerChunk : AdAnswer Nat
  setChunkSizeAuto : AdAnswer Unit
  setupHdfWriter : AdAnswer Unit
  enableCallbacks : AdAnswer Unit
  configure : AdAnswer Unit
  startCapture : AdAnswer Unit
  begun : Bool
  frameInfo : AdAnswer (List Nat × String)
  sources : List (AdAnswer String)

inductive Dtype where
  | array
  | number
  deriving Repr, DecidableEq

/-- The data key of a dataset. -/
structure AdDataKey where
  source : String
  dtype : Dtype
  shape : List (Option Nat)
  dtypeNumpy : Option String
  external : Option String
  deriving Repr, DecidableEq

/-- A dataset of the file a capture writes. -/
structure HdfDataset where
  path : String
  dtypeNumpy : String
  shape : List Nat
  deriving Repr, DecidableEq

/-- A capture, by the opening of the writers it is of: the file, and what it writes there. -/
structure Capture where
  file : String
  opening : Nat
  datasets : List HdfDataset
  deriving Repr, DecidableEq

structure AdEmitState where
  dataKey : String
  uri : String
  attrs : List NdAttributeDataset
  mainResourceUid : Option Nat
  attrResourceUids : Table String Nat
  lastEmitted : Nat
  frameShape : List Nat
  framesPerChunk : Nat

/-- `AdHdfWriter`, with its plugin: the last capture begun, and whether it runs. -/
structure AdHdfWriter where
  id : Nat
  datakeySuffix : String
  ndattributes : List NdAttributeDataset
  emit : Option AdEmitState
  capture : Option Capture
  running : Bool

def adHdfDataset : String := "/entry/data/data"

def adHdfAttrChunk : Nat := 16384

def attrDataset (name : String) : String :=
  s!"/entry/instrument/NDAttributes/{name}"

/-- `stream_datakey_dtype`. -/
def streamDatakeyDtype (multiplier shapeLen : Nat) : Dtype :=
  if 1 < multiplier ∨ 1 < shapeLen then .array else .number

/-- What a file holds: the image and the attributes. -/
def hdfDatasets (shape : List Nat) (dtypeNumpy : String) (attrs : List NdAttributeDataset) :
    List HdfDataset :=
  ⟨adHdfDataset, dtypeNumpy, shape⟩ ::
    attrs.map fun attr => ⟨attrDataset attr.name, attr.dtypeNumpy, []⟩

/-- The data keys of an open in the order they are put in, the image's first. -/
def openKeys (datakeyName uri : String) (multiplier : Nat) (shape : List Nat) (dtypeNumpy : String)
    (attrs : List NdAttributeDataset) : List (String × AdDataKey) :=
  let imageShape := (multiplier :: shape).map some
  (datakeyName,
      { source := uri
        dtype := streamDatakeyDtype multiplier imageShape.length
        shape := imageShape
        dtypeNumpy := some dtypeNumpy
        external := some "STREAM:" }) ::
    attrs.map fun attr =>
      (attr.name,
        { source := if attr.source = "" then uri else attr.source
          dtype := streamDatakeyDtype multiplier 1
          shape := [some multiplier]
          dtypeNumpy := some attr.dtypeNumpy
          external := some "STREAM:" })

/-- What one attribute source adds to the attributes; a text without any is a file's name. -/
def discoverSource (read : XmlReader) (attrs : List NdAttributeDataset) (source : AdAnswer String) :
    AdAnswer (List NdAttributeDataset) := do
  let text ← source
  if "<Attributes>".toList <:+: text.toList then
    match parseNdattributesXml read text with
    | .error error => throw (some error)
    | .ok found => pure (mergeNdattributes attrs found)
  else pure attrs

namespace AdHdfWriter

variable (writer : AdHdfWriter) (read : XmlReader)

/-- `discover_ndattributes`. -/
def discoverNdattributes (sources : List (AdAnswer String)) : AdAnswer (List NdAttributeDataset) := do
  let attrs ← sources.foldlM (discoverSource read) []
  pure (mergeNdattributes attrs writer.ndattributes)

/-- The steps of an open before the capture: the file, and the frames in a chunk. -/
def arm (io : AdOpen) : AdAnswer (String × Nat) := do
  let directoryUri ← io.directoryUri
  let uri := s!"{directoryUri}{io.filename}.h5"
  let framesPerChunk ← io.framesPerChunk
  io.setChunkSizeAuto
  io.setupHdfWriter
  io.enableCallbacks
  io.configure
  pure (uri, framesPerChunk)

/-- The steps of an open after the capture started. -/
def inspectFrame (io : AdOpen) : AdAnswer ((List Nat × String) × List NdAttributeDataset) := do
  let frame ← io.frameInfo
  let attrs ← writer.discoverNdattributes read io.sources
  pure (frame, attrs)

/-- The plugin captures into the file. -/
def begin (uri : String) (opening : Nat) : AdHdfWriter :=
  { writer with capture := some ⟨uri, opening, []⟩, running := true }

/-- The open is over, and the emit state that of this staging. -/
def staged (datakeyName uri : String) (framesPerChunk opening : Nat) (shape : List Nat)
    (dtypeNumpy : String) (attrs : List NdAttributeDataset) : AdHdfWriter :=
  { writer with
    emit := some
      { dataKey := datakeyName
        uri
        attrs
        mainResourceUid := none
        attrResourceUids := ∅
        lastEmitted := 0
        frameShape := shape
        framesPerChunk }
    capture := some ⟨uri, opening, hdfDatasets shape dtypeNumpy attrs⟩
    running := true }

/-- `open`, the data keys it answers with and what it leaves of the writer and its plugin. -/
def openWriter (datakeyName : String) (perEvent opening : Nat) (io : AdOpen) :
    AdAnswer (List (String × AdDataKey)) × AdHdfWriter :=
  match arm io with
  | .error ended => (.error ended, writer)
  | .ok (uri, framesPerChunk) =>
      match io.startCapture with
      | .error ended => (.error ended, if io.begun then writer.begin uri opening else writer)
      | .ok () =>
          match writer.inspectFrame read io with
          | .error ended => (.error ended, writer.begin uri opening)
          | .ok ((shape, dtypeNumpy), attrs) =>
              (.ok (openKeys datakeyName uri (max perEvent 1) shape dtypeNumpy attrs),
                writer.staged datakeyName uri framesPerChunk opening shape dtypeNumpy attrs)

end AdHdfWriter

/-! ## The documents -/

/-- `StreamResource`, its uid by the count of those minted before. -/
structure AdResource where
  uid : Nat
  dataKey : String
  mimetype : String
  uri : String
  dataset : String
  chunkShape : List Nat
  deriving Repr, DecidableEq

inductive AdAsset where
  | resource (resource : AdResource)
  | datum (uid streamResource : Nat) (descriptor : String) (start stop : Nat)
  deriving Repr, DecidableEq

/-- The resources among the documents. -/
def adResources (docs : List AdAsset) : List AdResource :=
  docs.filterMap fun
    | .resource resource => some resource
    | .datum .. => none

/-- The datums among the documents: the resource, and the events from the first up to the second. -/
def adMarks (docs : List AdAsset) : List (Nat × Nat × Nat) :=
  docs.filterMap fun
    | .datum _ resource _ start stop => some (resource, start, stop)
    | .resource _ => none

@[simp]
theorem adResources_append (first second : List AdAsset) :
    adResources (first ++ second) = adResources first ++ adResources second :=
  List.filterMap_append

@[simp]
theorem adMarks_append (first second : List AdAsset) :
    adMarks (first ++ second) = adMarks first ++ adMarks second :=
  List.filterMap_append

/-- `ad_stream_resource`. -/
def adStreamResource (uid : Nat) (dataKey uri dataset : String) (chunkShape : List Nat) : AdResource :=
  { uid, dataKey, mimetype := "application/x-hdf5", uri, dataset, chunkShape }

namespace AdEmitState

variable (state : AdEmitState)

def imageResource (uid : Nat) : AdResource :=
  adStreamResource uid state.dataKey state.uri adHdfDataset
    (max state.framesPerChunk 1 :: state.frameShape)

def attrResource (uid : Nat) (name : String) : AdResource :=
  adStreamResource uid name state.uri (attrDataset name) [adHdfAttrChunk]

/-- The resource of the image, once. -/
def nameMain (minted : Nat) : List AdAsset × AdEmitState × Nat :=
  match state.mainResourceUid with
  | some _ => ([], state, minted)
  | none =>
      ([.resource (state.imageResource minted)], { state with mainResourceUid := some minted },
        minted + 1)

/-- The resource of each attribute, once. -/
def nameAttrs : List NdAttributeDataset → AdEmitState → Nat → List AdAsset × AdEmitState × Nat
  | [], state, minted => ([], state, minted)
  | attr :: rest, state, minted =>
      if attr.name ∈ state.attrResourceUids then nameAttrs rest state minted
      else
        let named :=
          { state with attrResourceUids := state.attrResourceUids.insert attr.name minted }
        let others := nameAttrs rest named (minted + 1)
        (.resource (state.attrResource minted attr.name) :: others.1, others.2)

/-- The uid of an attribute's resource. -/
def attrUid (name : String) : Nat :=
  (state.attrResourceUids.lookup name).getD 0

/-- The uids of the resources a datum is emitted for, the image's first. -/
def targets : List Nat :=
  state.mainResourceUid.getD 0 :: (attributeNames state.attrs).map state.attrUid

/-- A datum for each resource, where there are new events. -/
def emitDatums (minted upTo : Nat) (descriptor : String) : List AdAsset × AdEmitState × Nat :=
  if state.lastEmitted < upTo then
    (state.targets.mapIdx fun place target =>
        .datum (minted + place) target descriptor state.lastEmitted upTo,
      { state with lastEmitted := upTo }, minted + state.targets.length)
  else ([], state, minted)

end AdEmitState

/-- `collect_stream_docs`. -/
def AdHdfWriter.collectStreamDocs (writer : AdHdfWriter) (minted upTo : Nat) (descriptor : String) :
    List AdAsset × AdHdfWriter × Nat :=
  match writer.emit with
  | none => ([], writer, minted)
  | some state =>
      let main := state.nameMain minted
      let named := main.2.1.nameAttrs state.attrs main.2.2
      let emitted := named.2.1.emitDatums named.2.2 upTo descriptor
      (main.1 ++ named.1 ++ emitted.1, { writer with emit := some emitted.2.1 }, emitted.2.2)

namespace AdEmitState

variable {state : AdEmitState}

/-- Nothing was emitted of the staging. -/
structure Fresh (state : AdEmitState) : Prop where
  main : state.mainResourceUid = none
  attrs : state.attrResourceUids = ∅
  start : state.lastEmitted = 0
  distinct : (attributeNames state.attrs).Nodup

/-- Every resource of the staging was emitted. -/
structure Named (state : AdEmitState) : Prop where
  main : state.mainResourceUid.isSome = true
  attrs : ∀ attr ∈ state.attrs, attr.name ∈ state.attrResourceUids

/-- The staging with these uids and this cursor. -/
def assigned (state : AdEmitState) (main : Option Nat) (uids : Table String Nat) (cursor : Nat) :
    AdEmitState :=
  { state with mainResourceUid := main, attrResourceUids := uids, lastEmitted := cursor }

/-- The resources emitted of the staging, the image's first. -/
def resources (state : AdEmitState) : List AdResource :=
  state.imageResource (state.mainResourceUid.getD 0) ::
    (attributeNames state.attrs).map fun name => state.attrResource (state.attrUid name) name

/-- The names of the data keys of the staging. -/
def names (state : AdEmitState) : List String :=
  state.dataKey :: attributeNames state.attrs

theorem uid_resources (state : AdEmitState) : state.resources.map AdResource.uid = state.targets := by
  simp [resources, targets, imageResource, attrResource, adStreamResource, Function.comp_def]

theorem dataKey_resources (state : AdEmitState) :
    state.resources.map AdResource.dataKey = state.names := by
  simp [resources, names, imageResource, attrResource, adStreamResource, Function.comp_def]

/-- Attributes that have their resources are given none again. -/
theorem nameAttrs_named {attrs : List NdAttributeDataset}
    (named : ∀ attr ∈ attrs, attr.name ∈ state.attrResourceUids) (minted : Nat) :
    nameAttrs attrs state minted = ([], state, minted) := by
  induction attrs with
  | nil => rfl
  | cons attr rest ih =>
      rw [nameAttrs, if_pos (named attr List.mem_cons_self)]
      exact ih fun other member => named other (List.mem_cons_of_mem _ member)

/-- Attributes without resources are given one each, under the uids that come next. -/
theorem nameAttrs_fresh {attrs : List NdAttributeDataset} (distinct : (attributeNames attrs).Nodup) :
    ∀ (state : AdEmitState) (minted : Nat), (∀ attr ∈ attrs, attr.name ∉ state.attrResourceUids) →
      ∃ uids : Table String Nat,
        nameAttrs attrs state minted =
            ((attributeNames attrs).map fun name =>
                .resource (state.attrResource ((uids.lookup name).getD 0) name),
              { state with attrResourceUids := uids }, minted + attrs.length) ∧
          (attributeNames attrs).map (fun name => (uids.lookup name).getD 0) =
            List.range' minted attrs.length ∧
          (∀ attr ∈ attrs, attr.name ∈ uids) ∧
          ∀ name ∉ attributeNames attrs, uids.lookup name = state.attrResourceUids.lookup name := by
  induction attrs with
  | nil => exact fun _ _ _ => ⟨_, rfl, rfl, by simp, fun _ _ => rfl⟩
  | cons attr rest ih =>
      intro state minted unnamed
      obtain ⟨apart, others⟩ := List.nodup_cons.mp distinct
      have missing := unnamed attr List.mem_cons_self
      obtain ⟨uids, same, order, held, kept⟩ := ih others
        { state with attrResourceUids := state.attrResourceUids.insert attr.name minted } (minted + 1)
        fun other member inside => by
          rcases (AList.mem_insert _).mp inside with equal | before
          · exact apart (equal ▸ List.mem_map_of_mem member)
          · exact unnamed other (List.mem_cons_of_mem _ member) before
      have own : uids.lookup attr.name = some minted := by
        rw [kept attr.name apart, AList.lookup_insert]
      refine ⟨uids, ?_, ?_, ?_, ?_⟩
      · rw [nameAttrs, if_neg missing]
        dsimp only
        rw [same]
        simp [attributeNames, own, attrResource, Nat.add_comm, Nat.add_left_comm]
      · simp only [attributeNames, List.map_cons, own, List.length_cons, List.range'_succ] at order ⊢
        rw [order]
        rfl
      · intro other member
        rcases List.mem_cons.mp member with rfl | later
        · exact AList.lookup_isSome.mp (by rw [own]; rfl)
        · exact held other later
      · intro name outside
        simp only [attributeNames, List.map_cons, List.mem_cons, not_or] at outside kept
        rw [kept name outside.2, AList.lookup_insert_ne outside.1]

/-- The datums from the cursor up to an index, one for each resource. -/
def marked (cursor upTo : Nat) (targets : List Nat) : List (Nat × Nat × Nat) :=
  if cursor < upTo then targets.map fun target => (target, cursor, upTo) else []

private theorem docs_mapIdx (targets : List Nat) (descriptor : String) (start stop : Nat) :
    ∀ uid : Nat → Nat,
      adMarks (targets.mapIdx fun place target =>
          AdAsset.datum (uid place) target descriptor start stop) =
          targets.map (fun target => (target, start, stop)) ∧
        adResources (targets.mapIdx fun place target =>
          AdAsset.datum (uid place) target descriptor start stop) = [] := by
  induction targets with
  | nil => exact fun _ => ⟨rfl, rfl⟩
  | cons target rest ih =>
      intro uid
      obtain ⟨marks, resources⟩ := ih fun place => uid (place + 1)
      rw [List.mapIdx_cons]
      exact ⟨congrArg _ marks, resources⟩

/-- A collect moves the cursor up to the index asked for, unless it is there. -/
theorem emitDatums_cases (state : AdEmitState) (minted upTo : Nat) (descriptor : String) :
    (state.emitDatums minted upTo descriptor).2.1 =
        { state with lastEmitted := max state.lastEmitted upTo } ∧
      adMarks (state.emitDatums minted upTo descriptor).1 =
        marked state.lastEmitted upTo state.targets ∧
      adResources (state.emitDatums minted upTo descriptor).1 = [] ∧
      minted ≤ (state.emitDatums minted upTo descriptor).2.2 := by
  obtain ⟨marks, resources⟩ := docs_mapIdx state.targets descriptor state.lastEmitted upTo
    fun place => minted + place
  by_cases further : state.lastEmitted < upTo
  · rw [emitDatums, if_pos further, marked, if_pos further]
    refine ⟨?_, marks, resources, Nat.le_add_right ..⟩
    rw [Nat.max_eq_right (Nat.le_of_lt further)]
  · rw [emitDatums, if_neg further, marked, if_neg further]
    refine ⟨?_, rfl, rfl, Nat.le_refl _⟩
    rw [Nat.max_eq_left (Nat.le_of_not_lt further)]

end AdEmitState

namespace AdHdfWriter

open AdEmitState

variable {writer : AdHdfWriter} {state : AdEmitState}

/-- The first collect of a staging names every resource under the uids that come next. -/
theorem collect_fresh (held : writer.emit = some state) (fresh : state.Fresh) (minted upTo : Nat)
    (descriptor : String) :
    ∃ uids, ∃ after : AdEmitState, after = state.assigned (some minted) uids upTo ∧
      (writer.collectStreamDocs minted upTo descriptor).2.1 = { writer with emit := some after } ∧
        after.Named ∧
        adResources (writer.collectStreamDocs minted upTo descriptor).1 = after.resources ∧
        adMarks (writer.collectStreamDocs minted upTo descriptor).1 = marked 0 upTo after.targets ∧
        after.targets = List.range' minted (state.attrs.length + 1) ∧
        minted + (state.attrs.length + 1) ≤ (writer.collectStreamDocs minted upTo descriptor).2.2 := by
  obtain ⟨uids, same, order, named, -⟩ := nameAttrs_fresh fresh.distinct
    { state with mainResourceUid := some minted } (minted + 1)
    fun attr _ member => by simp [fresh.attrs] at member
  have main : state.nameMain minted = ([.resource (state.imageResource minted)],
      { state with mainResourceUid := some minted }, minted + 1) := by
    simp only [nameMain, fresh.main]
  obtain ⟨moved, marks, resources, grown⟩ := emitDatums_cases
    (state.assigned (some minted) uids state.lastEmitted) (minted + 1 + state.attrs.length) upTo
    descriptor
  have moved := moved.trans (c := state.assigned (some minted) uids upTo)
    (by simp [assigned, fresh.start])
  have marks := marks.trans (c := marked 0 upTo (state.assigned (some minted) uids upTo).targets)
    (by simp only [assigned, fresh.start]; rfl)
  have collected : writer.collectStreamDocs minted upTo descriptor =
      ([.resource (state.imageResource minted)] ++
          ((attributeNames state.attrs).map fun name =>
            .resource (state.attrResource ((uids.lookup name).getD 0) name)) ++
          ((state.assigned (some minted) uids state.lastEmitted).emitDatums
            (minted + 1 + state.attrs.length) upTo descriptor).1,
        { writer with emit := some (state.assigned (some minted) uids upTo) },
        ((state.assigned (some minted) uids state.lastEmitted).emitDatums
          (minted + 1 + state.attrs.length) upTo descriptor).2.2) := by
    rw [← moved]
    simp only [collectStreamDocs, held, main, same]
    rfl
  rw [collected]
  refine ⟨uids, _, rfl, rfl, ⟨rfl, named⟩, ?_, ?_, ?_, ?_⟩
  · simp only [adResources_append, resources, List.append_nil]
    simp [adResources, AdEmitState.resources, attrUid, imageResource, attrResource, assigned,
      List.filterMap_map]
  · simp only [adMarks_append, marks]
    simp [adMarks, List.filterMap_map]
  · rw [List.range'_succ]
    exact congrArg _ order
  · exact Nat.le_trans (by omega) grown

/-- A later collect names no resource. -/
theorem collect_named (held : writer.emit = some state) (named : state.Named) (minted upTo : Nat)
    (descriptor : String) :
    (writer.collectStreamDocs minted upTo descriptor).2.1 =
        { writer with emit := some { state with lastEmitted := max state.lastEmitted upTo } } ∧
      adResources (writer.collectStreamDocs minted upTo descriptor).1 = [] ∧
      adMarks (writer.collectStreamDocs minted upTo descriptor).1 =
        marked state.lastEmitted upTo state.targets ∧
      minted ≤ (writer.collectStreamDocs minted upTo descriptor).2.2 := by
  obtain ⟨uid, main⟩ := Option.isSome_iff_exists.mp named.main
  have kept : state.nameMain minted = ([], state, minted) := by simp only [nameMain, main]
  have same := nameAttrs_named named.attrs minted
  obtain ⟨moved, marks, resources, grown⟩ := emitDatums_cases state minted upTo descriptor
  simp only [collectStreamDocs, held, kept, same, List.nil_append]
  exact ⟨by rw [moved], resources, marks, grown⟩

/-- What a writer has emitted resources and datums of, if it was opened. -/
def targets (writer : AdHdfWriter) : List Nat :=
  writer.emit.elim [] AdEmitState.targets

def resources (writer : AdHdfWriter) : List AdResource :=
  writer.emit.elim [] AdEmitState.resources

/-- The names of the data keys a writer was last opened with. -/
def names (writer : AdHdfWriter) : List String :=
  writer.emit.elim [] AdEmitState.names

/-- The data keys of what a writer captures, in the order they are put in. -/
def keys (writer : AdHdfWriter) (multiplier : Nat) : List (String × AdDataKey) :=
  match writer.emit, writer.capture.bind fun capture => capture.datasets.head? with
  | some state, some image =>
      openKeys state.dataKey state.uri multiplier image.shape image.dtypeNumpy state.attrs
  | _, _ => []

/-- The writer was staged by an opening, and its plugin captures what its emit state says. -/
def Staged (opening : Nat) (writer : AdHdfWriter) : Prop :=
  ∃ state shape dtypeNumpy, writer.emit = some state ∧
    writer.capture = some ⟨state.uri, opening, hdfDatasets shape dtypeNumpy state.attrs⟩ ∧
      (attributeNames state.attrs).Nodup

/-- A writer goes on with the staging of another: all but what was emitted of it is the same. -/
def GoesOn (before after : AdHdfWriter) : Prop :=
  ∃ state main uids cursor, before.emit = some state ∧
    after = { before with emit := some (state.assigned main uids cursor) }

variable {before after : AdHdfWriter}

theorem GoesOn.names (goes : GoesOn before after) : after.names = before.names := by
  obtain ⟨state, main, uids, cursor, held, rfl⟩ := goes
  simp only [AdHdfWriter.names, held, Option.elim_some]
  rfl

theorem GoesOn.keys (goes : GoesOn before after) (multiplier : Nat) :
    after.keys multiplier = before.keys multiplier := by
  obtain ⟨state, main, uids, cursor, held, rfl⟩ := goes
  simp only [AdHdfWriter.keys, held]
  cases before.capture.bind fun capture => capture.datasets.head? <;> rfl

theorem GoesOn.staged (goes : GoesOn before after) {opening : Nat} (staged : Staged opening before) :
    Staged opening after := by
  obtain ⟨state, main, uids, cursor, held, rfl⟩ := goes
  obtain ⟨other, shape, dtypeNumpy, same, capture, distinct⟩ := staged
  obtain rfl : state = other := Option.some.inj (held.symm.trans same)
  exact ⟨_, shape, dtypeNumpy, rfl, capture, distinct⟩

end AdHdfWriter

end Bsrs.Host
