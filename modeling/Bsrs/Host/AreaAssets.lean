import Bsrs.Host.AreaDetector
import Bsrs.Library.Run
import Mathlib.Data.List.Dedup

/-! A `StandardDetector` over several `AdHdfWriter`s: its openings, its drains, and how the documents
of the drains go with the description of the opening. -/

namespace Bsrs.Host

open Library
open Bsrs.Core (BsrsError)
open AdEmitState (marked)

/-- The collects of the writers of a detector, one after another. -/
def drainWriters (upTo : Nat) (descriptor : String) :
    List AdHdfWriter → Nat → List AdAsset × List AdHdfWriter × Nat
  | [], minted => ([], [], minted)
  | writer :: rest, minted =>
      let first := writer.collectStreamDocs minted upTo descriptor
      let others := drainWriters upTo descriptor rest first.2.2
      (first.1 ++ others.1, first.2.1 :: others.2.1, others.2.2)

theorem flatMap_goesOn {before after : List AdHdfWriter}
    (goes : List.Forall₂ AdHdfWriter.GoesOn before after) {f : AdHdfWriter → List α}
    (same : ∀ {before after}, AdHdfWriter.GoesOn before after → f after = f before) :
    after.flatMap f = before.flatMap f := by
  induction goes with
  | nil => rfl
  | cons one _ ih => rw [List.flatMap_cons, List.flatMap_cons, same one, ih]

theorem exists_goesOn {before after : List AdHdfWriter}
    (goes : List.Forall₂ AdHdfWriter.GoesOn before after) {writer : AdHdfWriter}
    (member : writer ∈ after) : ∃ held ∈ before, held.GoesOn writer := by
  induction goes with
  | nil => cases member
  | cons one _ ih =>
      rcases List.mem_cons.mp member with rfl | among
      · exact ⟨_, List.mem_cons_self, one⟩
      · obtain ⟨held, there, goes⟩ := ih among
        exact ⟨held, List.mem_cons_of_mem _ there, goes⟩

theorem marked_append (cursor upTo : Nat) (first second : List Nat) :
    marked cursor upTo (first ++ second) = marked cursor upTo first ++ marked cursor upTo second := by
  by_cases further : cursor < upTo <;> simp [marked, further]

/-- The uids of a drain that is the first one are told apart, as each is minted for its resource. -/
theorem drain_fresh (upTo : Nat) (descriptor : String) {writers : List AdHdfWriter}
    (fresh : ∀ writer ∈ writers, ∃ state, writer.emit = some state ∧ state.Fresh) :
    ∀ minted,
      List.Forall₂ AdHdfWriter.GoesOn writers (drainWriters upTo descriptor writers minted).2.1 ∧
        (∀ writer ∈ (drainWriters upTo descriptor writers minted).2.1, ∃ state,
          writer.emit = some state ∧ state.Named ∧ state.lastEmitted = upTo) ∧
        adResources (drainWriters upTo descriptor writers minted).1 =
          (drainWriters upTo descriptor writers minted).2.1.flatMap AdHdfWriter.resources ∧
        adMarks (drainWriters upTo descriptor writers minted).1 = marked 0 upTo
          ((drainWriters upTo descriptor writers minted).2.1.flatMap AdHdfWriter.targets) ∧
        ((drainWriters upTo descriptor writers minted).2.1.flatMap AdHdfWriter.targets).Nodup ∧
        (∀ target ∈ (drainWriters upTo descriptor writers minted).2.1.flatMap AdHdfWriter.targets,
          minted ≤ target) := by
  induction writers with
  | nil =>
      intro minted
      exact ⟨.nil, by simp [drainWriters], rfl, by simp [drainWriters, adMarks, marked],
        List.nodup_nil, by simp [drainWriters]⟩
  | cons writer rest ih =>
      intro minted
      obtain ⟨state, held, untouched⟩ := fresh writer List.mem_cons_self
      obtain ⟨uids, after, same, left, named, resources, marks, targets, grown⟩ :=
        AdHdfWriter.collect_fresh held untouched minted upTo descriptor
      obtain ⟨goes, others, more, further, apart, later⟩ :=
        ih (fun other member => fresh other (List.mem_cons_of_mem _ member))
          (writer.collectStreamDocs minted upTo descriptor).2.2
      have own : (writer.collectStreamDocs minted upTo descriptor).2.1.targets = after.targets := by
        rw [left]
        rfl
      have own' : (writer.collectStreamDocs minted upTo descriptor).2.1.resources =
          after.resources := by
        rw [left]
        rfl
      simp only [drainWriters, adResources_append, adMarks_append, List.flatMap_cons]
      refine ⟨.cons ⟨state, _, uids, upTo, held, left.trans (by rw [same])⟩ goes, ?_, ?_, ?_, ?_, ?_⟩
      · intro other member
        rcases List.mem_cons.mp member with rfl | among
        · exact ⟨after, by rw [left], named, by rw [same]; rfl⟩
        · exact others other among
      · rw [resources, more, own']
      · rw [marks, further, own, marked_append]
      · rw [own, targets]
        refine List.Nodup.append List.nodup_range' apart fun target one other => ?_
        have below := (List.mem_range'_1.mp one).2
        have above := later target other
        omega
      · intro target member
        rw [own, targets] at member
        rcases List.mem_append.mp member with one | other
        · exact (List.mem_range'_1.mp one).1
        · have above := later target other
          omega

/-- A later drain names no resource, and marks each one once. -/
theorem drain_named (upTo cursor : Nat) (descriptor : String) {writers : List AdHdfWriter}
    (named : ∀ writer ∈ writers, ∃ state, writer.emit = some state ∧ state.Named ∧
      state.lastEmitted = cursor) :
    ∀ minted,
      List.Forall₂ AdHdfWriter.GoesOn writers (drainWriters upTo descriptor writers minted).2.1 ∧
        (∀ writer ∈ (drainWriters upTo descriptor writers minted).2.1, ∃ state,
          writer.emit = some state ∧ state.Named ∧ state.lastEmitted = max cursor upTo) ∧
        adResources (drainWriters upTo descriptor writers minted).1 = [] ∧
        adMarks (drainWriters upTo descriptor writers minted).1 =
          marked cursor upTo (writers.flatMap AdHdfWriter.targets) ∧
        (drainWriters upTo descriptor writers minted).2.1.flatMap AdHdfWriter.targets =
          writers.flatMap AdHdfWriter.targets ∧
        (drainWriters upTo descriptor writers minted).2.1.flatMap AdHdfWriter.resources =
          writers.flatMap AdHdfWriter.resources := by
  induction writers with
  | nil =>
      intro minted
      exact ⟨.nil, by simp [drainWriters], rfl, by simp [drainWriters, adMarks, marked], rfl, rfl⟩
  | cons writer rest ih =>
      intro minted
      obtain ⟨state, held, known, rfl⟩ := named writer List.mem_cons_self
      obtain ⟨left, resources, marks, -⟩ :=
        AdHdfWriter.collect_named held known minted upTo descriptor
      obtain ⟨goes, others, more, further, targets, all⟩ :=
        ih (fun other member => named other (List.mem_cons_of_mem _ member))
          (writer.collectStreamDocs minted upTo descriptor).2.2
      have own : (writer.collectStreamDocs minted upTo descriptor).2.1.targets = writer.targets := by
        rw [left, AdHdfWriter.targets, AdHdfWriter.targets, held]
        rfl
      have own' : (writer.collectStreamDocs minted upTo descriptor).2.1.resources =
          writer.resources := by
        rw [left, AdHdfWriter.resources, AdHdfWriter.resources, held]
        rfl
      have written : writer.targets = state.targets := by
        rw [AdHdfWriter.targets, held]
        rfl
      simp only [drainWriters, adResources_append, adMarks_append, List.flatMap_cons]
      refine ⟨.cons ⟨state, state.mainResourceUid, state.attrResourceUids,
        max state.lastEmitted upTo, held, left⟩ goes, ?_, ?_, ?_, ?_, ?_⟩
      · intro other member
        rcases List.mem_cons.mp member with rfl | among
        · exact ⟨{ state with lastEmitted := max state.lastEmitted upTo }, by rw [left],
            ⟨known.main, known.attrs⟩, rfl⟩
        · exact others other among
      · rw [resources, more, List.append_nil]
      · rw [marks, further, written, marked_append]
      · rw [own, targets]
      · rw [own', all]

/-! ## The detector -/

/-- What the last prepare since stage set up. -/
structure AdPrepared where
  collectionsPerEvent : Nat
  dataKeys : Table String AdDataKey

/-- A `StandardDetector` whose data logics are writers of this kind. The openings of its writers are
counted, with the last one that succeeded and those that failed; `docs` are the documents since that
one, and `drained` is how far the drains since have got. -/
structure AdDetector where
  name : String
  writers : List AdHdfWriter
  prepared : Option AdPrepared
  minted : Nat
  openings : Nat
  opened : Nat
  failed : List Nat
  docs : List AdAsset
  drained : Nat

/-- How a `stop_capture` ends: done, or with an error and the plugin still capturing or not. -/
abbrev StopAnswer := Option (BsrsError × Bool)

/-- A call on the detector, with what the control, the plugins and the driver answer, those of a
writer by its id. -/
inductive AdCall where
  | stage (disarm : Option BsrsError) (stop : Nat → StopAnswer)
  | unstage (disarm : Option BsrsError) (stop : Nat → StopAnswer)
  | prepare (control : Option BsrsError) (collectionsPerEvent : Nat) (stop : Nat → StopAnswer)
      (answers : Nat → AdOpen) (written : Nat → Nat)
  | drain (written : Nat → Nat) (descriptor : String)

/-- `close`. -/
def AdHdfWriter.stopCapture (writer : AdHdfWriter) (answer : StopAnswer) : AdHdfWriter :=
  { writer with running := writer.running && answer.any fun failure => failure.2 }

namespace AdDetector

/-- Writers that nothing was asked of yet. -/
def new (name : String) (writers : List (String × List NdAttributeDataset)) : AdDetector where
  name
  writers := writers.mapIdx fun id (suffix, ndattributes) => ⟨id, suffix, ndattributes, none, none, false⟩
  prepared := none
  minted := 0
  openings := 0
  opened := 0
  failed := []
  docs := []
  drained := 0

variable (detector : AdDetector) (read : XmlReader)

def datakeyName (writer : AdHdfWriter) : String :=
  detector.name ++ writer.datakeySuffix

/-- `stop_data_logics`. -/
def stopDataLogics (stop : Nat → StopAnswer) : AdDetector :=
  { detector with writers := detector.writers.map fun writer => writer.stopCapture (stop writer.id) }

def stage (disarm : Option BsrsError) (stop : Nat → StopAnswer) : AdDetector :=
  match disarm with
  | some _ => detector
  | none => { detector with prepared := none }.stopDataLogics stop

def unstage (disarm : Option BsrsError) (stop : Nat → StopAnswer) : AdDetector :=
  match disarm with
  | some _ => detector
  | none => detector.stopDataLogics stop

/-- The open of one writer. -/
def openOne (collectionsPerEvent : Nat) (answers : Nat → AdOpen) (writer : AdHdfWriter) :
    AdAnswer (List (String × AdDataKey)) × AdHdfWriter :=
  writer.openWriter read (detector.datakeyName writer) collectionsPerEvent (detector.openings + 1)
    (answers writer.id)

/-- What every writer has written must agree. -/
def agrees (written : Nat → Nat) : Bool :=
  (detector.writers.map fun writer => written writer.id).dedup.length ≤ 1

/-- `prepare_data_logics`, and the record of what it set up. -/
def prepareDataLogics (collectionsPerEvent : Nat) (answers : Nat → AdOpen) (written : Nat → Nat) :
    AdDetector :=
  let opens := detector.writers.map (detector.openOne read collectionsPerEvent answers)
  let held :=
    { detector with
      prepared := none
      writers := opens.map Prod.snd
      openings := detector.openings + 1 }
  if opens.all fun one => one.1.isOk then
    { held with
      prepared :=
        if detector.agrees written then
          some ⟨collectionsPerEvent,
            Table.insertAll ∅ (opens.flatMap fun one => one.1.toOption.getD [])⟩
        else none
      opened := detector.openings + 1
      docs := []
      drained := 0 }
  else { held with failed := (detector.openings + 1) :: detector.failed }

/-- `prepare_for`: the writers are opened where none were, or they were for another number of
collections and all could be stopped. -/
def prepare (control : Option BsrsError) (collectionsPerEvent : Nat) (stop : Nat → StopAnswer)
    (answers : Nat → AdOpen) (written : Nat → Nat) : AdDetector :=
  match control with
  | some _ => detector
  | none =>
      match detector.prepared with
      | none => detector.prepareDataLogics read collectionsPerEvent answers written
      | some previous =>
          if previous.collectionsPerEvent = collectionsPerEvent then
            { detector with prepared := if detector.agrees written then some previous else none }
          else
            let stopped := { detector with prepared := none }.stopDataLogics stop
            if detector.writers.all fun writer => (stop writer.id).isNone then
              stopped.prepareDataLogics read collectionsPerEvent answers written
            else stopped

/-- `get_index`. -/
def getIndex (prepared : AdPrepared) (written : Nat → Nat) : Nat :=
  ((detector.writers.map fun writer => written writer.id).min?).getD 0 /
    max prepared.collectionsPerEvent 1

/-- `drain_asset_documents`. -/
def drain (written : Nat → Nat) (descriptor : String) : AdDetector :=
  match detector.prepared with
  | none => detector
  | some prepared =>
      let upTo := detector.getIndex prepared written
      let drained := drainWriters upTo descriptor detector.writers detector.minted
      { detector with
        writers := drained.2.1
        minted := drained.2.2
        docs := detector.docs ++ drained.1
        drained := max detector.drained upTo }

def step (detector : AdDetector) : AdCall → Option AdDetector
  | .stage disarm stop => some (detector.stage disarm stop)
  | .unstage disarm stop => some (detector.unstage disarm stop)
  | .prepare control collectionsPerEvent stop answers written =>
      some (detector.prepare read control collectionsPerEvent stop answers written)
  | .drain written descriptor => some (detector.drain written descriptor)

end AdDetector

/-- The ranges follow on each other from the first place to the second. -/
def Tiling : Nat → List (Nat × Nat) → Nat → Prop
  | start, [], stop => start = stop
  | start, range :: rest, stop => range.1 = start ∧ start < range.2 ∧ Tiling range.2 rest stop

theorem Tiling.concat {next : Nat} :
    ∀ {ranges : List (Nat × Nat)} {start stop : Nat}, Tiling start ranges stop → stop < next →
      Tiling start (ranges ++ [(stop, next)]) next
  | [], _, _, rfl, further => ⟨rfl, further, rfl⟩
  | _ :: _, _, _, ⟨begins, proper, rest⟩, further => ⟨begins, proper, rest.concat further⟩

/-- The events of the datums of a resource. -/
def rangesOf (docs : List AdAsset) (resource : Nat) : List (Nat × Nat) :=
  ((adMarks docs).filter fun mark => mark.1 = resource).map Prod.snd

namespace AdDetector

variable (detector : AdDetector) (read : XmlReader)

/-- A resource is of the file and a dataset of it that the last capture of a writer writes, which no
failed opening began, and the data key of its name is that dataset's. -/
def Located (prepared : AdPrepared) (resource : AdResource) : Prop :=
  ∃ writer ∈ detector.writers, ∃ capture, writer.capture = some capture ∧
    capture.opening ∉ detector.failed ∧ resource.uri = capture.file ∧
      ∃ dataset ∈ capture.datasets, resource.dataset = dataset.path ∧
        ∃ key, prepared.dataKeys.lookup resource.dataKey = some key ∧
          key.dtypeNumpy = some dataset.dtypeNumpy ∧
            key.shape = (max prepared.collectionsPerEvent 1 :: dataset.shape).map some

/-- The documents since the writers were opened match the description. -/
structure Matches (prepared : AdPrepared) : Prop where
  distinct : ((adResources detector.docs).map AdResource.dataKey).Nodup
  described : ∀ name, name ∈ (adResources detector.docs).map AdResource.dataKey ↔
    name ∈ prepared.dataKeys
  located : ∀ resource ∈ adResources detector.docs, detector.Located prepared resource
  tiled : ∃ ranges, Tiling 0 ranges detector.drained ∧
    ∀ resource ∈ adResources detector.docs, rangesOf detector.docs resource.uid = ranges

/-- The detector a prepare opens the writers of, where it comes to that. -/
def toOpen (control : Option BsrsError) (collectionsPerEvent : Nat) (stop : Nat → StopAnswer) :
    Option AdDetector :=
  match control, detector.prepared with
  | some _, _ => none
  | none, none => some detector
  | none, some previous =>
      if previous.collectionsPerEvent ≠ collectionsPerEvent ∧
          (detector.writers.all fun writer => (stop writer.id).isNone) = true then
        some ({ detector with prepared := none }.stopDataLogics stop)
      else none

/-- A failed opening leaves no capture running, and a drain documents that match the description, or
none where nothing is prepared. -/
def Honours (detector : AdDetector) : AdCall → Prop
  | .prepare control collectionsPerEvent stop answers written =>
      ∀ ready, detector.toOpen control collectionsPerEvent stop = some ready →
        (∃ writer ∈ ready.writers,
          (ready.openOne read collectionsPerEvent answers writer).1.isOk = false) →
        ∀ writer ∈ (detector.prepare read control collectionsPerEvent stop answers written).writers,
          writer.running = false
  | .drain written descriptor =>
      (∀ prepared, detector.prepared = some prepared →
        (detector.drain written descriptor).Matches prepared) ∧
        (detector.prepared = none → (detector.drain written descriptor).docs = detector.docs)
  | .stage .. | .unstage .. => True

end AdDetector

namespace AdHdfWriter

/-- Every step of an open is done. -/
def Completes (writer : AdHdfWriter) (read : XmlReader) (io : AdOpen) : Prop :=
  (arm io).isOk = true ∧ io.startCapture.isOk = true ∧ (writer.inspectFrame read io).isOk = true

/-- An open gets as far as the plugin capturing. -/
def Begins (io : AdOpen) : Prop :=
  (arm io).isOk = true ∧ (io.startCapture.isOk = true ∨ io.begun = true)

end AdHdfWriter

namespace AdDetector

/-- Where a step of an opening is not done, no writer captures before, nor gets to it; and a drain is
of data keys that are told apart by their names. -/
def Respects (read : XmlReader) (detector : AdDetector) : AdCall → Prop
  | .prepare control collectionsPerEvent stop answers _ =>
      ∀ ready, detector.toOpen control collectionsPerEvent stop = some ready →
        (∃ writer ∈ ready.writers, ¬ writer.Completes read (answers writer.id)) →
        ∀ writer ∈ ready.writers,
          writer.running = false ∧ ¬ AdHdfWriter.Begins (answers writer.id)
  | .drain .. => ∀ prepared, detector.prepared = some prepared →
      (detector.writers.flatMap AdHdfWriter.names).Nodup
  | .stage .. | .unstage .. => True

end AdDetector

namespace AdHdfWriter

variable {writer : AdHdfWriter} {read : XmlReader}

theorem nodup_discoverSource {attrs found : List NdAttributeDataset} {source : AdAnswer String}
    (distinct : (attributeNames attrs).Nodup)
    (done : discoverSource read attrs source = .ok found) : (attributeNames found).Nodup := by
  cases source with
  | error ended => cases done
  | ok text =>
      simp only [discoverSource, bind, Except.bind] at done
      split at done
      · split at done
        · cases done
        · cases done
          exact nodup_merge distinct
      · cases done
        exact distinct

theorem nodup_discoverSources {sources : List (AdAnswer String)} :
    ∀ {attrs found : List NdAttributeDataset}, (attributeNames attrs).Nodup →
      sources.foldlM (discoverSource read) attrs = .ok found → (attributeNames found).Nodup := by
  induction sources with
  | nil =>
      rintro attrs found distinct ⟨rfl⟩
      exact distinct
  | cons source rest ih =>
      intro attrs found distinct done
      rw [List.foldlM_cons] at done
      cases more : discoverSource read attrs source with
      | error ended =>
          rw [more] at done
          cases done
      | ok next =>
          rw [more] at done
          exact ih (nodup_discoverSource distinct more) done

/-- The attributes of an opening are told apart by their names. -/
theorem nodup_discovered {sources : List (AdAnswer String)} {attrs : List NdAttributeDataset}
    (discovered : writer.discoverNdattributes read sources = .ok attrs) :
    (attributeNames attrs).Nodup := by
  have empty : (attributeNames []).Nodup := List.nodup_nil
  cases done : sources.foldlM (discoverSource read) [] with
  | error ended =>
      rw [discoverNdattributes, done] at discovered
      cases discovered
  | ok found =>
      rw [discoverNdattributes, done] at discovered
      cases discovered
      exact nodup_merge (nodup_discoverSources empty done)

/-- The ways an open goes: every step is done and the writer staged, or it ends on the way and has
the plugin capturing where it got that far. -/
theorem openWriter_cases (writer : AdHdfWriter) (read : XmlReader) (datakeyName : String)
    (perEvent opening : Nat) (io : AdOpen) :
    (writer.Completes read io ∧ ∃ uri framesPerChunk shape dtypeNumpy attrs,
        (attributeNames attrs).Nodup ∧
          writer.openWriter read datakeyName perEvent opening io =
            (.ok (openKeys datakeyName uri (max perEvent 1) shape dtypeNumpy attrs),
              writer.staged datakeyName uri framesPerChunk opening shape dtypeNumpy attrs)) ∨
      ¬ writer.Completes read io ∧
        (writer.openWriter read datakeyName perEvent opening io).1.isOk = false ∧
        ((writer.openWriter read datakeyName perEvent opening io).2.running = true ↔
          writer.running = true ∨ Begins io) := by
  unfold openWriter Completes Begins
  cases armed : arm io with
  | error ended => exact Or.inr ⟨by simp [Except.isOk, Except.toBool], rfl, by
      simp [Except.isOk, Except.toBool]⟩
  | ok file =>
      cases started : io.startCapture with
      | error ended =>
          refine Or.inr ⟨by simp [Except.isOk, Except.toBool], rfl, ?_⟩
          cases begun : io.begun <;> simp [Except.isOk, Except.toBool, begin]
      | ok done =>
          cases inspected : writer.inspectFrame read io with
          | error ended =>
              exact Or.inr ⟨by simp [Except.isOk, Except.toBool], rfl, by
                simp [Except.isOk, Except.toBool, begin]⟩
          | ok frame =>
              refine Or.inl ⟨⟨rfl, rfl, rfl⟩, file.1, file.2, frame.1.1, frame.1.2, frame.2, ?_, rfl⟩
              cases looked : io.frameInfo with
              | error ended =>
                  rw [inspectFrame, looked] at inspected
                  cases inspected
              | ok info =>
                  cases discovered : writer.discoverNdattributes read io.sources with
                  | error ended =>
                      simp only [inspectFrame, looked, discovered] at inspected
                      cases inspected
                  | ok attrs =>
                      simp only [inspectFrame, looked, discovered] at inspected
                      cases inspected
                      exact nodup_discovered discovered

end AdHdfWriter

theorem rangesOf_append (first second : List AdAsset) (resource : Nat) :
    rangesOf (first ++ second) resource = rangesOf first resource ++ rangesOf second resource := by
  simp [rangesOf]

/-- The datums of a drain are one for each resource. -/
theorem rangesOf_marked {docs : List AdAsset} {cursor upTo target : Nat} {targets : List Nat}
    (marks : adMarks docs = marked cursor upTo targets) (distinct : targets.Nodup)
    (member : target ∈ targets) :
    rangesOf docs target = if cursor < upTo then [(cursor, upTo)] else [] := by
  rw [rangesOf, marks]
  by_cases further : cursor < upTo
  · rw [marked, if_pos further, if_pos further, List.filter_map]
    have once : targets.filter (fun other => other = target) = [target] := by
      rw [List.filter_eq, List.count_eq_one_of_mem distinct member]
      rfl
    simp only [Function.comp_def, once, List.map_cons, List.map_nil]
  · rw [marked, if_neg further, if_neg further]
    rfl

namespace AdHdfWriter

variable {writer : AdHdfWriter} {opening : Nat}

theorem keys_names (staged : Staged opening writer) (multiplier : Nat) :
    (writer.keys multiplier).map Prod.fst = writer.names := by
  obtain ⟨state, shape, dtypeNumpy, held, capture, -⟩ := staged
  simp [keys, AdHdfWriter.names, AdEmitState.names, held, capture, hdfDatasets, openKeys,
    attributeNames, Function.comp_def]

theorem dataKey_resources (writer : AdHdfWriter) :
    writer.resources.map AdResource.dataKey = writer.names := by
  cases held : writer.emit with
  | none => simp [resources, AdHdfWriter.names, held]
  | some state => simpa [resources, AdHdfWriter.names, held] using state.dataKey_resources

theorem uid_resources (writer : AdHdfWriter) :
    writer.resources.map AdResource.uid = writer.targets := by
  cases held : writer.emit with
  | none => simp [resources, targets, held]
  | some state => simpa [resources, targets, held] using state.uid_resources

/-- A resource of a staging is of a dataset of the capture, with the data key of that dataset. -/
theorem resource_dataset (staged : Staged opening writer) (multiplier : Nat) {resource : AdResource}
    (member : resource ∈ writer.resources) :
    ∃ capture, writer.capture = some capture ∧ capture.opening = opening ∧
      resource.uri = capture.file ∧ ∃ dataset ∈ capture.datasets, resource.dataset = dataset.path ∧
        ∃ key, (resource.dataKey, key) ∈ writer.keys multiplier ∧
          key.dtypeNumpy = some dataset.dtypeNumpy ∧
            key.shape = (multiplier :: dataset.shape).map some := by
  obtain ⟨state, shape, dtypeNumpy, held, capture, -⟩ := staged
  have keys : writer.keys multiplier =
      openKeys state.dataKey state.uri multiplier shape dtypeNumpy state.attrs := by
    simp [AdHdfWriter.keys, held, capture, hdfDatasets]
  rw [resources, held, Option.elim_some, AdEmitState.resources] at member
  refine ⟨_, capture, rfl, ?_⟩
  rw [keys]
  rcases List.mem_cons.mp member with rfl | among
  · exact ⟨rfl, _, List.mem_cons_self, rfl, _, List.mem_cons_self, rfl, rfl⟩
  · simp only [attributeNames, List.map_map, List.mem_map, Function.comp_apply] at among
    obtain ⟨attr, held, rfl⟩ := among
    exact ⟨rfl, _, List.mem_cons_of_mem _ (List.mem_map_of_mem held), rfl, _,
      List.mem_cons_of_mem _ (List.mem_map_of_mem held), rfl, rfl⟩

end AdHdfWriter

namespace AdDetector

/-- Nothing was drained since the writers were opened. -/
structure Untouched (detector : AdDetector) : Prop where
  docs : detector.docs = []
  drained : detector.drained = 0
  fresh : ∀ writer ∈ detector.writers, ∃ state, writer.emit = some state ∧ state.Fresh

/-- The drains since have named every resource, and their datums go on from one to the next. -/
structure Drained (detector : AdDetector) : Prop where
  named : ∀ writer ∈ detector.writers, ∃ state, writer.emit = some state ∧ state.Named ∧
    state.lastEmitted = detector.drained
  resources : adResources detector.docs = detector.writers.flatMap AdHdfWriter.resources
  apart : (detector.writers.flatMap AdHdfWriter.targets).Nodup
  tiled : ∃ ranges, Tiling 0 ranges detector.drained ∧
    ∀ target ∈ detector.writers.flatMap AdHdfWriter.targets, rangesOf detector.docs target = ranges

/-- The writers hold what the prepare described. -/
structure Ready (detector : AdDetector) (prepared : AdPrepared) : Prop where
  staged : ∀ writer ∈ detector.writers, writer.Staged detector.opened
  keys : prepared.dataKeys = Table.insertAll ∅ (detector.writers.flatMap fun writer =>
    writer.keys (max prepared.collectionsPerEvent 1))
  progress : detector.Untouched ∨ detector.Drained

/-- What is prepared is ready, and no opening that failed is the one that succeeded last. -/
structure Sound (detector : AdDetector) : Prop where
  ready : ∀ prepared, detector.prepared = some prepared → detector.Ready prepared
  before : ∀ opening ∈ detector.failed, opening ≤ detector.openings
  within : detector.opened ≤ detector.openings
  apart : detector.opened ∉ detector.failed

variable {detector : AdDetector} {prepared : AdPrepared}

theorem Ready.drain (ready : detector.Ready prepared) (held : detector.prepared = some prepared)
    (written : Nat → Nat) (descriptor : String) :
    (detector.drain written descriptor).Ready prepared ∧
      (detector.drain written descriptor).Drained ∧
      (detector.drain written descriptor).writers.flatMap AdHdfWriter.names =
        detector.writers.flatMap AdHdfWriter.names := by
  have same : detector.drain written descriptor =
      { detector with
        writers := (drainWriters (detector.getIndex prepared written) descriptor detector.writers
          detector.minted).2.1
        minted := (drainWriters (detector.getIndex prepared written) descriptor detector.writers
          detector.minted).2.2
        docs := detector.docs ++ (drainWriters (detector.getIndex prepared written) descriptor
          detector.writers detector.minted).1
        drained := max detector.drained (detector.getIndex prepared written) } := by
    simp only [AdDetector.drain, held]
  generalize detector.getIndex prepared written = upTo at same
  have both : List.Forall₂ AdHdfWriter.GoesOn detector.writers
      (detector.drain written descriptor).writers ∧ (detector.drain written descriptor).Drained := by
    rw [same]
    rcases ready.progress with untouched | begun
    · obtain ⟨goes, named, resources, marks, apart, -⟩ := drain_fresh
        upTo descriptor untouched.fresh detector.minted
      refine ⟨goes, ?_, ?_, apart, ?_⟩
      · simpa only [untouched.drained, Nat.zero_max] using named
      · simpa only [untouched.docs, List.nil_append] using resources
      · refine ⟨if 0 < upTo then [(0, upTo)] else [], ?_, fun target member => ?_⟩
        rotate_left
        · rw [untouched.docs, List.nil_append]
          exact rangesOf_marked marks apart member
        · simp only [untouched.drained, Nat.zero_max]
          by_cases further : 0 < upTo
          · rw [if_pos further]
            exact ⟨rfl, further, rfl⟩
          · rw [if_neg further]
            exact (Nat.eq_zero_of_not_pos further).symm
    · obtain ⟨goes, named, resources, marks, targets, all⟩ := drain_named
        upTo detector.drained descriptor begun.named detector.minted
      obtain ⟨ranges, tiling, alike⟩ := begun.tiled
      refine ⟨goes, named, ?_, ?_, ?_⟩
      · rw [adResources_append, resources, List.append_nil, begun.resources, all]
      · rw [targets]
        exact begun.apart
      · refine ⟨ranges ++ if detector.drained < upTo then [(detector.drained, upTo)] else [], ?_,
          fun target member => ?_⟩
        rotate_left
        · rw [targets] at member
          rw [rangesOf_append, alike target member, rangesOf_marked marks begun.apart member]
        · by_cases further : detector.drained < upTo
          · rw [if_pos further, Nat.max_eq_right (Nat.le_of_lt further)]
            exact tiling.concat further
          · rw [if_neg further, Nat.max_eq_left (Nat.le_of_not_lt further), List.append_nil]
            exact tiling
  obtain ⟨goes, drained⟩ := both
  refine ⟨⟨?_, ?_, Or.inr drained⟩, drained, flatMap_goesOn goes fun goes => goes.names⟩
  · have opened : (detector.drain written descriptor).opened = detector.opened := by rw [same]
    rw [opened]
    intro writer member
    obtain ⟨before, among, goes⟩ := exists_goesOn goes member
    exact goes.staged (ready.staged before among)
  · rw [flatMap_goesOn goes fun goes => goes.keys _]
    exact ready.keys

theorem Ready.names_keys (ready : detector.Ready prepared) :
    (detector.writers.flatMap fun writer =>
      writer.keys (max prepared.collectionsPerEvent 1)).map Prod.fst =
        detector.writers.flatMap AdHdfWriter.names := by
  rw [List.map_flatMap]
  exact List.flatMap_congr fun writer member => AdHdfWriter.keys_names (ready.staged writer member) _

theorem Drained.names_resources (drained : detector.Drained) :
    (adResources detector.docs).map AdResource.dataKey =
      detector.writers.flatMap AdHdfWriter.names := by
  rw [drained.resources, List.map_flatMap]
  exact List.flatMap_congr fun writer _ => writer.dataKey_resources

/-- The documents match the description as soon as the names of its data keys are told apart. -/
theorem Ready.matches (ready : detector.Ready prepared) (drained : detector.Drained)
    (apart : detector.opened ∉ detector.failed)
    (distinct : (detector.writers.flatMap AdHdfWriter.names).Nodup) : detector.Matches prepared where
  distinct := by rwa [drained.names_resources]
  described name := by
    rw [drained.names_resources, ready.keys, Table.mem_insertAll, ready.names_keys]
    simp
  located := by
    intro resource member
    rw [drained.resources, List.mem_flatMap] at member
    obtain ⟨writer, among, named⟩ := member
    obtain ⟨capture, held, opening, file, dataset, there, path, key, keyed, described⟩ :=
      AdHdfWriter.resource_dataset (ready.staged writer among)
        (max prepared.collectionsPerEvent 1) named
    refine ⟨writer, among, capture, held, opening ▸ apart, file, dataset, there, path, key, ?_,
      described⟩
    rw [ready.keys]
    exact Table.lookup_insertAll (by rwa [ready.names_keys])
      (List.mem_flatMap.mpr ⟨writer, among, keyed⟩)
  tiled := by
    obtain ⟨ranges, tiling, alike⟩ := drained.tiled
    refine ⟨ranges, tiling, fun resource member => alike _ ?_⟩
    rw [drained.resources, List.mem_flatMap] at member
    obtain ⟨writer, among, named⟩ := member
    exact List.mem_flatMap.mpr
      ⟨writer, among, writer.uid_resources ▸ List.mem_map_of_mem named⟩

theorem new_sound (name : String) (writers : List (String × List NdAttributeDataset)) :
    (new name writers).Sound :=
  ⟨(by intros; contradiction), by simp [new], Nat.le_refl _, by simp [new]⟩

/-- An open whose steps are all done leaves a fresh staging, which it answers the data keys of. -/
theorem openOne_completes {writer : AdHdfWriter} {read : XmlReader} {collectionsPerEvent : Nat}
    {answers : Nat → AdOpen} (completes : writer.Completes read (answers writer.id)) :
    (detector.openOne read collectionsPerEvent answers writer).1.isOk = true ∧
      (detector.openOne read collectionsPerEvent answers writer).2.Staged (detector.openings + 1) ∧
      (∃ state, (detector.openOne read collectionsPerEvent answers writer).2.emit = some state ∧
        state.Fresh) ∧
      (detector.openOne read collectionsPerEvent answers writer).1.toOption.getD [] =
        (detector.openOne read collectionsPerEvent answers writer).2.keys
          (max collectionsPerEvent 1) := by
  rcases AdHdfWriter.openWriter_cases writer read (detector.datakeyName writer)
    collectionsPerEvent (detector.openings + 1) (answers writer.id) with
    ⟨_, uri, framesPerChunk, shape, dtypeNumpy, attrs, distinct, same⟩ | ⟨some, _⟩
  · rw [openOne, same]
    exact ⟨rfl, ⟨_, shape, dtypeNumpy, rfl, rfl, distinct⟩, ⟨_, rfl, rfl, rfl, rfl, distinct⟩, rfl⟩
  · exact absurd completes some

/-- An open with a step that is not done fails, and leaves a capture running that ran or that it got
as far as to begin. -/
theorem openOne_ends {writer : AdHdfWriter} {read : XmlReader} {collectionsPerEvent : Nat}
    {answers : Nat → AdOpen} (ends : ¬ writer.Completes read (answers writer.id)) :
    (detector.openOne read collectionsPerEvent answers writer).1.isOk = false ∧
      ((detector.openOne read collectionsPerEvent answers writer).2.running = true ↔
        writer.running = true ∨ AdHdfWriter.Begins (answers writer.id)) := by
  rcases AdHdfWriter.openWriter_cases writer read (detector.datakeyName writer)
    collectionsPerEvent (detector.openings + 1) (answers writer.id) with ⟨all, _⟩ | ⟨_, ended⟩
  · exact absurd all ends
  · exact ended

/-- A capture runs after an open as it ran before, or if the open got as far as to begin it. -/
theorem openOne_running {writer : AdHdfWriter} {read : XmlReader} {collectionsPerEvent : Nat}
    {answers : Nat → AdOpen} :
    (detector.openOne read collectionsPerEvent answers writer).2.running = true ↔
      writer.running = true ∨ AdHdfWriter.Begins (answers writer.id) := by
  by_cases completes : writer.Completes read (answers writer.id)
  · refine iff_of_true ?_ (Or.inr ⟨completes.1, Or.inl completes.2.1⟩)
    rcases AdHdfWriter.openWriter_cases writer read (detector.datakeyName writer)
      collectionsPerEvent (detector.openings + 1) (answers writer.id) with
      ⟨_, _, _, _, _, _, _, same⟩ | ⟨some, _⟩
    · rw [openOne, same]
      rfl
    · exact absurd completes some
  · exact (openOne_ends completes).2

/-- What a prepare leaves whose writers are all opened. -/
theorem prepareDataLogics_completes {read : XmlReader} {collectionsPerEvent : Nat}
    {answers : Nat → AdOpen} (written : Nat → Nat)
    (completes : ∀ writer ∈ detector.writers, writer.Completes read (answers writer.id)) :
    detector.prepareDataLogics read collectionsPerEvent answers written =
      { detector with
        prepared :=
          if detector.agrees written then
            some ⟨collectionsPerEvent,
              Table.insertAll ∅ ((detector.writers.map fun writer =>
                (detector.openOne read collectionsPerEvent answers writer).2).flatMap fun writer =>
                  writer.keys (max collectionsPerEvent 1))⟩
          else none
        writers := detector.writers.map fun writer =>
          (detector.openOne read collectionsPerEvent answers writer).2
        openings := detector.openings + 1
        opened := detector.openings + 1
        docs := []
        drained := 0 } := by
  have all : ((detector.writers.map (detector.openOne read collectionsPerEvent answers)).all
      fun one => one.1.isOk) = true := by
    rw [List.all_map, List.all_eq_true]
    exact fun writer member => (openOne_completes (completes writer member)).1
  have keys : ((detector.writers.map (detector.openOne read collectionsPerEvent answers)).flatMap
      fun one => one.1.toOption.getD []) =
      (detector.writers.map fun writer =>
        (detector.openOne read collectionsPerEvent answers writer).2).flatMap fun writer =>
          writer.keys (max collectionsPerEvent 1) := by
    rw [List.flatMap_map, List.flatMap_map]
    exact List.flatMap_congr fun writer member => (openOne_completes (completes writer member)).2.2.2
  simp only [prepareDataLogics, if_pos all, keys, List.map_map, Function.comp_def]

/-- What a prepare leaves with a step of an open that is not done. -/
theorem prepareDataLogics_ends {read : XmlReader} {collectionsPerEvent : Nat}
    {answers : Nat → AdOpen} (written : Nat → Nat)
    (ends : ∃ writer ∈ detector.writers, ¬ writer.Completes read (answers writer.id)) :
    detector.prepareDataLogics read collectionsPerEvent answers written =
      { detector with
        prepared := none
        writers := detector.writers.map fun writer =>
          (detector.openOne read collectionsPerEvent answers writer).2
        openings := detector.openings + 1
        failed := (detector.openings + 1) :: detector.failed } := by
  have all : ¬ ((detector.writers.map (detector.openOne read collectionsPerEvent answers)).all
      fun one => one.1.isOk) = true := by
    rw [List.all_map, List.all_eq_true]
    intro done
    obtain ⟨writer, member, some⟩ := ends
    have ok := done writer member
    rw [Function.comp_apply, (openOne_ends some).1] at ok
    cases ok
  simp only [prepareDataLogics, if_neg all, List.map_map, Function.comp_def]

theorem Sound.prepareDataLogics (sound : detector.Sound) (read : XmlReader)
    (collectionsPerEvent : Nat) (answers : Nat → AdOpen) (written : Nat → Nat) :
    (detector.prepareDataLogics read collectionsPerEvent answers written).Sound := by
  by_cases completes : ∀ writer ∈ detector.writers, writer.Completes read (answers writer.id)
  · rw [prepareDataLogics_completes written completes]
    refine ⟨fun prepared held => ?_, fun opening member => Nat.le_succ_of_le
      (sound.before opening member), Nat.le_refl _, fun member => ?_⟩
    · have opened : ∀ writer ∈ detector.writers.map fun writer =>
          (detector.openOne read collectionsPerEvent answers writer).2,
          writer.Staged (detector.openings + 1) ∧
            ∃ state, writer.emit = some state ∧ state.Fresh := by
        intro writer member
        obtain ⟨before, among, rfl⟩ := List.mem_map.mp member
        obtain ⟨_, staged, fresh, _⟩ := openOne_completes (completes before among)
        exact ⟨staged, fresh⟩
      obtain ⟨_, held⟩ : _ ∧ _ = prepared := by simpa using held
      subst held
      exact ⟨fun writer member => (opened writer member).1, rfl,
        Or.inl ⟨rfl, rfl, fun writer member => (opened writer member).2⟩⟩
    · exact absurd (sound.before _ member) (Nat.not_succ_le_self _)
  · have ends : ∃ writer ∈ detector.writers, ¬ writer.Completes read (answers writer.id) := by
      simpa only [not_forall, exists_prop] using completes
    rw [prepareDataLogics_ends written ends]
    refine ⟨(by intros; contradiction), fun opening member => ?_, Nat.le_succ_of_le sound.within,
      fun member => ?_⟩
    · rcases List.mem_cons.mp member with rfl | before
      · exact Nat.le_refl _
      · exact Nat.le_succ_of_le (sound.before opening before)
    · rcases List.mem_cons.mp member with same | before
      · have within := sound.within
        dsimp only at same
        omega
      · exact sound.apart before

/-- Nothing that a stop leaves alone of a writer changes in the list of them. -/
theorem flatMap_stop (stop : Nat → StopAnswer) (writers : List AdHdfWriter) {f : AdHdfWriter → List α}
    (same : ∀ (writer : AdHdfWriter) answer, f (writer.stopCapture answer) = f writer) :
    (writers.map fun writer => writer.stopCapture (stop writer.id)).flatMap f = writers.flatMap f := by
  rw [List.flatMap_map]
  exact List.flatMap_congr fun writer _ => same writer _

theorem Ready.record (ready : detector.Ready prepared) (recorded : Option AdPrepared) :
    { detector with prepared := recorded }.Ready prepared where
  staged := ready.staged
  keys := ready.keys
  progress := ready.progress.imp (fun untouched => { untouched with }) fun drained => { drained with }

theorem Ready.stop (ready : detector.Ready prepared) (stop : Nat → StopAnswer) :
    (detector.stopDataLogics stop).Ready prepared := by
  have each : ∀ {property : AdHdfWriter → Prop},
      (∀ (writer : AdHdfWriter) answer, property writer → property (writer.stopCapture answer)) →
        (∀ writer ∈ detector.writers, property writer) →
          ∀ writer ∈ (detector.stopDataLogics stop).writers, property writer := by
    intro property kept all writer member
    obtain ⟨before, among, rfl⟩ := List.mem_map.mp member
    exact kept before _ (all before among)
  refine ⟨each (fun _ _ held => held) ready.staged, ?_, ?_⟩
  · exact ready.keys.trans (congrArg _ (flatMap_stop stop detector.writers fun _ _ => rfl).symm)
  · rcases ready.progress with untouched | drained
    · exact Or.inl ⟨untouched.docs, untouched.drained, each (fun _ _ held => held) untouched.fresh⟩
    · have targets : (detector.stopDataLogics stop).writers.flatMap AdHdfWriter.targets =
          detector.writers.flatMap AdHdfWriter.targets :=
        flatMap_stop stop detector.writers fun _ _ => rfl
      refine Or.inr ⟨each (fun _ _ held => held) drained.named, ?_, ?_, ?_⟩
      · exact drained.resources.trans (flatMap_stop stop detector.writers fun _ _ => rfl).symm
      · rw [targets]
        exact drained.apart
      · rw [targets]
        exact drained.tiled

theorem Sound.unprepared (sound : detector.Sound) : { detector with prepared := none }.Sound :=
  { sound with ready := (by intros; contradiction) }

theorem Sound.stop (sound : detector.Sound) (stop : Nat → StopAnswer) :
    (detector.stopDataLogics stop).Sound :=
  { sound with ready := fun prepared held => (sound.ready prepared held).stop stop }

/-- A prepare that comes to opening the writers opens those of the detector it comes with. -/
theorem prepare_toOpen {read : XmlReader} {control : Option BsrsError} {collectionsPerEvent : Nat}
    {stop : Nat → StopAnswer} {ready : AdDetector} (answers : Nat → AdOpen) (written : Nat → Nat)
    (opens : detector.toOpen control collectionsPerEvent stop = some ready) :
    detector.prepare read control collectionsPerEvent stop answers written =
      ready.prepareDataLogics read collectionsPerEvent answers written := by
  unfold toOpen at opens
  cases control with
  | some error => cases opens
  | none =>
      cases held : detector.prepared with
      | none =>
          simp only [held] at opens
          obtain rfl := Option.some.inj opens
          simp only [prepare, held]
      | some previous =>
          simp only [held] at opens
          split at opens
          · rename_i both
            obtain rfl := Option.some.inj opens
            simp only [prepare, held, if_neg both.1, if_pos both.2]
          · cases opens

theorem Sound.toOpen {control : Option BsrsError} {collectionsPerEvent : Nat}
    {stop : Nat → StopAnswer} {ready : AdDetector} (sound : detector.Sound)
    (opens : detector.toOpen control collectionsPerEvent stop = some ready) : ready.Sound := by
  unfold AdDetector.toOpen at opens
  cases control with
  | some error => cases opens
  | none =>
      cases held : detector.prepared with
      | none =>
          simp only [held] at opens
          exact Option.some.inj opens ▸ sound
      | some previous =>
          simp only [held] at opens
          split at opens
          · exact Option.some.inj opens ▸ sound.unprepared.stop stop
          · cases opens

/-- A prepare that does not come to it opens nothing. -/
theorem Sound.prepare (sound : detector.Sound) (read : XmlReader) (control : Option BsrsError)
    (collectionsPerEvent : Nat) (stop : Nat → StopAnswer) (answers : Nat → AdOpen)
    (written : Nat → Nat) :
    (detector.prepare read control collectionsPerEvent stop answers written).Sound := by
  cases opens : detector.toOpen control collectionsPerEvent stop with
  | some ready =>
      rw [prepare_toOpen answers written opens]
      exact (sound.toOpen opens).prepareDataLogics read collectionsPerEvent answers written
  | none =>
      cases control with
      | some error => exact sound
      | none =>
          cases held : detector.prepared with
          | none => simp [AdDetector.toOpen, held] at opens
          | some previous =>
              simp only [AdDetector.prepare, held]
              by_cases same : previous.collectionsPerEvent = collectionsPerEvent
              · rw [if_pos same]
                refine { sound with ready := fun prepared kept => ?_ }
                split at kept
                · exact (sound.ready prepared (held.trans kept)).record _
                · cases kept
              · rw [if_neg same]
                split
                · rename_i all
                  simp [AdDetector.toOpen, held, same, all] at opens
                · exact sound.unprepared.stop stop

theorem Sound.step (read : XmlReader) (detector : AdDetector) (call : AdCall) (next : AdDetector)
    (stepped : detector.step read call = some next) (sound : detector.Sound) : next.Sound := by
  cases call with
  | stage disarm stop =>
      cases stepped
      cases disarm with
      | some error => exact sound
      | none => exact sound.unprepared.stop stop
  | unstage disarm stop =>
      cases stepped
      cases disarm with
      | some error => exact sound
      | none => exact sound.stop stop
  | prepare control collectionsPerEvent stop answers written =>
      cases stepped
      exact sound.prepare read control collectionsPerEvent stop answers written
  | drain written descriptor =>
      cases stepped
      cases held : detector.prepared with
      | none =>
          have same : detector.drain written descriptor = detector := by
            simp only [AdDetector.drain, held]
          rwa [same]
      | some prepared =>
          obtain ⟨ready, -⟩ := (sound.ready prepared held).drain held written descriptor
          have kept : (detector.drain written descriptor).prepared = some prepared ∧
              (detector.drain written descriptor).failed = detector.failed ∧
              (detector.drain written descriptor).openings = detector.openings ∧
              (detector.drain written descriptor).opened = detector.opened := by
            simp only [AdDetector.drain, held, and_self]
          obtain ⟨still, failed, openings, opened⟩ := kept
          refine ⟨fun other same => ?_, ?_, ?_, ?_⟩
          · obtain rfl := Option.some.inj (still.symm.trans same)
            exact ready
          · rw [failed, openings]
            exact sound.before
          · rw [openings, opened]
            exact sound.within
          · rw [failed, opened]
            exact sound.apart

/-- A failed opening leaves no capture running where none ran before nor was begun. -/
theorem stops_iff (read : XmlReader) {ready : AdDetector} (collectionsPerEvent : Nat)
    (answers : Nat → AdOpen) (written : Nat → Nat) :
    ((∃ writer ∈ ready.writers,
          (ready.openOne read collectionsPerEvent answers writer).1.isOk = false) →
        ∀ writer ∈ (ready.prepareDataLogics read collectionsPerEvent answers written).writers,
          writer.running = false) ↔
      ((∃ writer ∈ ready.writers, ¬ writer.Completes read (answers writer.id)) →
        ∀ writer ∈ ready.writers,
          writer.running = false ∧ ¬ AdHdfWriter.Begins (answers writer.id)) := by
  have failing : (∃ writer ∈ ready.writers,
      (ready.openOne read collectionsPerEvent answers writer).1.isOk = false) ↔
      ∃ writer ∈ ready.writers, ¬ writer.Completes read (answers writer.id) := by
    refine exists_congr fun writer => and_congr_right fun _ => ?_
    by_cases completes : writer.Completes read (answers writer.id)
    · rw [(openOne_completes completes).1]
      simp [completes]
    · rw [(openOne_ends completes).1]
      simp [completes]
  rw [failing]
  refine imp_congr_right fun ends => ?_
  rw [prepareDataLogics_ends written ends]
  simp only [List.forall_mem_map]
  refine forall_congr' fun writer => imp_congr_right fun _ => ?_
  rw [← Bool.not_eq_true, openOne_running, not_or, Bool.not_eq_true]

theorem honours_iff_respects {read : XmlReader} (sound : detector.Sound) (call : AdCall) :
    Honours read detector call ↔ Respects read detector call := by
  cases call with
  | stage disarm stop => exact Iff.rfl
  | unstage disarm stop => exact Iff.rfl
  | prepare control collectionsPerEvent stop answers written =>
      refine forall_congr' fun ready => imp_congr_right fun opens => ?_
      rw [prepare_toOpen answers written opens]
      exact stops_iff read collectionsPerEvent answers written
  | drain written descriptor =>
      constructor
      · rintro ⟨honours, -⟩ prepared held
        obtain ⟨_, drained, names⟩ := (sound.ready prepared held).drain held written descriptor
        rw [← names, ← drained.names_resources]
        exact (honours prepared held).distinct
      · intro respects
        refine ⟨fun prepared held => ?_, fun held => ?_⟩
        · obtain ⟨ready, drained, names⟩ := (sound.ready prepared held).drain held written descriptor
          refine ready.matches drained ?_ (by rw [names]; exact respects prepared held)
          simp only [AdDetector.drain, held]
          exact sound.apart
        · simp only [AdDetector.drain, held]

end AdDetector

/-- Over all calls, the documents match the description and a failed opening leaves no capture
running, exactly where every drain is of data keys that are told apart by their names and no capture
runs before a failed opening or is begun by it. -/
theorem ad_assets_match (read : XmlReader) (name : String)
    (writers : List (String × List NdAttributeDataset)) (calls : List AdCall) :
    Throughout (AdDetector.step read) (AdDetector.Honours read) (.new name writers) calls ↔
      Throughout (AdDetector.step read) (AdDetector.Respects read) (.new name writers) calls :=
  Throughout.congr_invariant AdDetector.Sound (AdDetector.Sound.step read)
    (fun _ call sound => AdDetector.honours_iff_respects sound call)
    (AdDetector.new_sound name writers)

/-- An open of a frame of two by three, with no attribute source. -/
def plainOpen : AdOpen where
  directoryUri := .ok "file://localhost/data/"
  filename := "scan"
  framesPerChunk := .ok 1
  setChunkSizeAuto := .ok ()
  setupHdfWriter := .ok ()
  enableCallbacks := .ok ()
  configure := .ok ()
  startCapture := .ok ()
  begun := false
  frameInfo := .ok ([2, 3], "|u1")
  sources := []

/-- A reader of documents without elements. -/
def plainReader : XmlReader := fun _ => .ok []

/-- An attribute of the name of the image has a resource without a data key of its own, and a
capture goes on whose frame the driver does not describe. -/
theorem ad_assets_stray :
    ¬ Throughout (AdDetector.step plainReader) (AdDetector.Honours plainReader)
        (.new "det" [("", [⟨"det", "<f8", ""⟩])])
        [.prepare none 1 (fun _ => none) (fun _ => plainOpen) fun _ => 0, .drain (fun _ => 1) "d"] ∧
      ¬ Throughout (AdDetector.step plainReader) (AdDetector.Honours plainReader) (.new "det" [("", [])])
        [.prepare none 1 (fun _ => none)
          (fun _ => { plainOpen with frameInfo := .error (some (.backend "no color mode")) })
          fun _ => 0] := by
  constructor
  · intro honours
    have distinct := ((honours.2 _ rfl).1.1 _ rfl).distinct
    exact absurd distinct (by decide +kernel)
  · intro honours
    have stopped := honours.1 _ rfl ⟨_, List.mem_cons_self, rfl⟩ _ List.mem_cons_self
    cases stopped

end Bsrs.Host
