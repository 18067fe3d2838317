import Bsrs.Core.Error
import Bsrs.Library.Framing
import Bsrs.Library.Run

/-! `BinaryFrameSink`: a file of length-prefixed frames and the stream documents about it. The file is
tokio's, which is not part of the repository: it takes the bytes of a write, brings them to the file
behind the caller's back, and tells of a failure at its next operation. How far a write gets, and how
it ends, comes with the calls. -/

namespace Bsrs.Stream

open Library
open Bsrs.Core (BsrsError)
open EventModel (Uid StreamResource StreamDatum StreamRange)

/-- `MAGIC`. -/
def binaryMagic : List UInt8 :=
  [67, 73, 82, 66, 73, 78, 49, 10]

/-- How a write ends: with everything in the file, or with an error after so many bytes. -/
inductive WriteEnd where
  | whole
  | torn (written : Nat) (reason : String)
  deriving DecidableEq

/-- What a `write_all` meets: the end of the write under way before it, and its own failure where a
part of its bytes is refused while it still has others to hand over. -/
structure WriteIo where
  earlier : WriteEnd
  own : WriteEnd

/-- What a file holds, and the bytes taken that have not got there. -/
structure AsyncFile where
  contents : List UInt8
  underWay : List UInt8

namespace AsyncFile

variable (file : AsyncFile)

/-- What the file holds if the write under way ends well. -/
def flow : List UInt8 :=
  file.contents ++ file.underWay

/-- So many bytes of the write under way get to the file. -/
def lands (count : Nat) : AsyncFile where
  contents := file.contents ++ file.underWay.take count
  underWay := file.underWay.drop count

/-- `flush`: the end of the write under way, if there is one. -/
def flush (ending : WriteEnd) : Except String Unit × AsyncFile :=
  if file.underWay = [] then (.ok (), file)
  else
    match ending with
    | .whole => (.ok (), ⟨file.flow, []⟩)
    | .torn written reason => (.error reason, ⟨file.contents ++ file.underWay.take written, []⟩)

/-- `write_all`, which takes its bytes once the write under way has ended well. -/
def writeAll (bytes : List UInt8) (io : WriteIo) : Except String Unit × AsyncFile :=
  if bytes = [] then (.ok (), file)
  else
    match file.flush io.earlier with
    | (.error reason, settled) => (.error reason, settled)
    | (.ok (), settled) =>
        match io.own with
        | .torn written reason => (.error reason, ⟨settled.contents ++ bytes.take written, []⟩)
        | .whole => (.ok (), { settled with underWay := bytes })

variable {file} {bytes : List UInt8} {io : WriteIo} {ending : WriteEnd}

theorem flow_lands (count : Nat) : (file.lands count).flow = file.flow := by
  simp [flow, lands]

theorem contents_lands (count : Nat) : file.contents <+: (file.lands count).contents :=
  List.prefix_append ..

/-- A flush loses nothing that is in the file. -/
theorem contents_flush : file.contents <+: (file.flush ending).2.contents := by
  unfold flush
  split
  · exact List.prefix_rfl
  · split
    · exact List.prefix_append ..
    · exact List.prefix_append ..

/-- Where it ends well, everything taken is in the file. -/
theorem flush_ok (done : (file.flush ending).1 = .ok ()) : (file.flush ending).2 = ⟨file.flow, []⟩ := by
  unfold flush at done ⊢
  split
  · rename_i none
    obtain ⟨contents, underWay⟩ := file
    obtain rfl : underWay = [] := none
    simp [flow]
  · rename_i some
    rw [if_neg some] at done
    cases ending with
    | whole => rfl
    | torn written reason => cases done

theorem flush_whole (lasts : file.underWay = [] ∨ ending = .whole) :
    (file.flush ending).1 = .ok () := by
  unfold flush
  split
  · rfl
  · rename_i some
    rw [lasts.resolve_left some]

/-- A write loses nothing that is in the file. -/
theorem contents_writeAll : file.contents <+: (file.writeAll bytes io).2.contents := by
  have settles : file.contents <+: (file.flush io.earlier).2.contents := contents_flush
  unfold writeAll
  split
  · exact List.prefix_rfl
  · rcases flushed : file.flush io.earlier with ⟨done, settled⟩
    rw [flushed] at settles
    cases done with
    | error reason => exact settles
    | ok done =>
        cases io.own with
        | torn written reason => exact settles.trans (List.prefix_append ..)
        | whole => exact settles

/-- A write that is taken goes behind what was taken before. -/
theorem writeAll_ok (done : (file.writeAll bytes io).1 = .ok ()) :
    (file.writeAll bytes io).2.flow = file.flow ++ bytes ∧
      (bytes ≠ [] → (file.writeAll bytes io).2.contents = file.flow) := by
  have settles : (file.flush io.earlier).1 = .ok () →
      (file.flush io.earlier).2 = ⟨file.flow, []⟩ := flush_ok
  unfold writeAll at done ⊢
  split
  · rename_i none
    exact ⟨by simp [none], fun some => absurd none some⟩
  · rename_i some
    rw [if_neg some] at done
    rcases flushed : file.flush io.earlier with ⟨outcome, settled⟩
    rw [flushed] at done settles
    cases outcome with
    | error reason => cases done
    | ok outcome =>
        obtain rfl : settled = ⟨file.flow, []⟩ := settles rfl
        cases own : io.own with
        | torn written reason =>
            rw [own] at done
            cases done
        | whole => exact ⟨rfl, fun _ => rfl⟩

/-- Where what was under way ends well, a write that is refused keeps it. -/
theorem writeAll_keeps (lasts : file.underWay = [] ∨ io.earlier = .whole) :
    file.flow <+: (file.writeAll bytes io).2.flow := by
  have settles := flush_ok (flush_whole lasts)
  have ended := flush_whole lasts
  unfold writeAll
  split
  · exact List.prefix_rfl
  · rcases flushed : file.flush io.earlier with ⟨outcome, settled⟩
    rw [flushed] at settles ended
    subst settles ended
    cases io.own with
    | torn written reason => simp [flow]
    | whole => simp [flow]

end AsyncFile

/-- What an `ensure_open` that has to open the file meets. -/
structure OpenIo where
  refusal : Option String
  magic : WriteEnd

/-- What an `accept` meets besides. -/
structure AcceptIo extends OpenIo where
  length : WriteIo
  payload : WriteIo

/-- `BinaryFrameSink`, its file handle by whether there is one. -/
structure BinaryFrameSink where
  path : String
  payloadSize : Nat
  file : Bool
  counter : Nat
  lastEmitted : Nat
  resourceUid : Option String
  dataKey : Option String

/-- The data key `open` answers with. -/
structure BinaryDataKey where
  source : String
  dtype : String
  shape : List (Option Nat)
  dtypeNumpy : Option String
  external : Option String
  dims : Option (List String)

/-- `StreamAsset`, a resource with what a reader of the file needs. -/
inductive StreamAsset where
  | resource (resource : StreamResource) (mimetype uri : String)
  | datum (datum : StreamDatum)

/-- `file_uri`. -/
def fileUri (path : String) : String :=
  if path.toList.head? = some '/' then s!"file://localhost{path}" else s!"file://{path}"

namespace BinaryFrameSink

def new (path : String) (payloadSize : Nat) : BinaryFrameSink where
  path
  payloadSize
  file := false
  counter := 0
  lastEmitted := 0
  resourceUid := none
  dataKey := none

variable (sink : BinaryFrameSink) (file : AsyncFile)

/-- `ensure_open`, by what it leaves of the sink and of the file, which is truncated before the magic
is written. -/
def ensureOpen (io : OpenIo) : Except BsrsError Unit × BinaryFrameSink × AsyncFile :=
  if sink.file then (.ok (), sink, file)
  else
    match io.refusal with
    | some reason => (.error (.backend s!"binary sink open: {reason}"), sink, file)
    | none =>
        match io.magic with
        | .torn written reason =>
            (.error (.backend s!"binary sink write magic: {reason}"), sink,
              ⟨binaryMagic.take written, []⟩)
        | .whole => (.ok (), { sink with file := true }, ⟨[], binaryMagic⟩)

/-- `accept`. -/
def accept (payload : List UInt8) (io : AcceptIo) :
    Except BsrsError Unit × BinaryFrameSink × AsyncFile :=
  match sink.ensureOpen file io.toOpenIo with
  | (.error error, held, opened) => (.error error, held, opened)
  | (.ok (), held, opened) =>
      if 2 ^ 32 ≤ payload.length then
        (.error (.backend
          s!"binary sink: frame too large for u32 length prefix ({payload.length} bytes; CIRBIN1 max = 4294967295)"),
          held, opened)
      else
        match opened.writeAll (littleEndian 4 payload.length) io.length with
        | (.error reason, left) => (.error (.backend s!"binary sink write len: {reason}"), held, left)
        | (.ok (), prefixed) =>
            match prefixed.writeAll payload io.payload with
            | (.error reason, left) =>
                (.error (.backend s!"binary sink write payload: {reason}"), held, left)
            | (.ok (), left) => (.ok (), { held with counter := held.counter + 1 }, left)

/-- `DetectorWriter::open`. -/
def openWriter (datakeyName : String) (io : OpenIo) :
    Except BsrsError (String × BinaryDataKey) × BinaryFrameSink × AsyncFile :=
  match sink.ensureOpen file io with
  | (.error error, held, opened) => (.error error, held, opened)
  | (.ok (), held, opened) =>
      let key : BinaryDataKey :=
        { source := fileUri sink.path
          dtype := "number"
          shape := if 0 < sink.payloadSize then [some sink.payloadSize] else []
          dtypeNumpy := some "|u1"
          external := some "STREAM:"
          dims := some ["byte"] }
      (.ok (datakeyName, key), { held with dataKey := some datakeyName }, opened)

/-- `collect_stream_docs`, under the uids from `minted` on. -/
def collectStreamDocs (uuid : Nat → String) (minted upTo : Nat) (descriptor : Uid) :
    List StreamAsset × BinaryFrameSink × Nat :=
  match sink.dataKey with
  | none => ([], sink, minted)
  | some dataKey =>
      let uid := sink.resourceUid.getD (uuid minted)
      let named :=
        if sink.resourceUid.isNone then
          [StreamAsset.resource ⟨uid, dataKey, none⟩ "application/x-cirbin1" (fileUri sink.path)]
        else []
      let next := minted + named.length
      if sink.lastEmitted < upTo then
        (named ++ [.datum ⟨uuid next, uid, descriptor, ⟨sink.lastEmitted, upTo⟩, ⟨0, 0⟩⟩],
          { sink with resourceUid := some uid, lastEmitted := upTo }, next + 1)
      else (named, { sink with resourceUid := some uid }, next)

/-- `close`: the handle is gone whatever the flush meets. -/
def close (ending : WriteEnd) : Except BsrsError Unit × BinaryFrameSink × AsyncFile :=
  if sink.file then
    match file.flush ending with
    | (.error reason, left) =>
        (.error (.backend s!"binary sink flush: {reason}"), { sink with file := false }, left)
    | (.ok (), left) => (.ok (), { sink with file := false }, left)
  else (.ok (), sink, file)

end BinaryFrameSink

/-! ## Recordings -/

/-- The contents of a file that holds these frames and no more. -/
def image (frames : List (List UInt8)) : List UInt8 :=
  binaryMagic ++ frames.flatMap (frame 4)

theorem image_concat (frames : List (List UInt8)) (payload : List UInt8) :
    image (frames ++ [payload]) = image frames ++ littleEndian 4 payload.length ++ payload := by
  simp [image, frame]

/-- Where the datums of a resource have got to: the stop of its last one. -/
def reached (emitted : List StreamDatum) (resource : String) : Nat :=
  (((emitted.filter fun datum => datum.streamResource = resource).getLast?).map fun datum =>
    datum.indices.stop).getD 0

/-- The datums among the documents of a collect. -/
def datums (docs : List StreamAsset) : List StreamDatum :=
  docs.filterMap fun
    | .datum datum => some datum
    | .resource .. => none

/-- The uids of the resources among the documents of a collect. -/
def resources (docs : List StreamAsset) : List String :=
  docs.filterMap fun
    | .resource resource .. => some resource.uid
    | .datum _ => none

/-- A sink and its file, the uuids minted so far, and what a reader keeps: the frames accepted and
the resources emitted since the file was last truncated, and every datum. -/
structure Recording where
  sink : BinaryFrameSink
  file : AsyncFile
  minted : Nat
  accepted : List (List UInt8)
  named : List String
  emitted : List StreamDatum

/-- A call on the sink, or bytes of the write under way that get to the file. -/
inductive SinkCall where
  | openWriter (datakeyName : String) (io : OpenIo)
  | accept (payload : List UInt8) (io : AcceptIo)
  | collect (upTo : Nat) (descriptor : Uid)
  | close (ending : WriteEnd)
  | lands (count : Nat)

namespace Recording

/-- A new sink over whatever its path holds. -/
def new (path : String) (payloadSize : Nat) (contents : List UInt8) : Recording where
  sink := .new path payloadSize
  file := ⟨contents, []⟩
  minted := 0
  accepted := []
  named := []
  emitted := []

variable (recording : Recording)

/-- The call opens the file anew, and so truncates it. -/
def truncates (io : OpenIo) : Bool :=
  !recording.sink.file && io.refusal.isNone

/-- The documents of a collect, what it leaves of the sink, and the uuids minted after it. -/
def collected (uuid : Nat → String) (upTo : Nat) (descriptor : Uid) :
    List StreamAsset × BinaryFrameSink × Nat :=
  recording.sink.collectStreamDocs uuid recording.minted upTo descriptor

/-- The frames accepted and the resources emitted, where the call truncates the file none. -/
def since (io : OpenIo) : List (List UInt8) × List String :=
  if recording.truncates io then ([], []) else (recording.accepted, recording.named)

def step (uuid : Nat → String) (recording : Recording) : SinkCall → Option Recording
  | .openWriter datakeyName io =>
      let opened := recording.sink.openWriter recording.file datakeyName io
      some
        { recording with
          sink := opened.2.1
          file := opened.2.2
          accepted := (recording.since io).1
          named := (recording.since io).2 }
  | .accept payload io =>
      let done := recording.sink.accept recording.file payload io
      some
        { recording with
          sink := done.2.1
          file := done.2.2
          accepted :=
            match done.1 with
            | .ok () => (recording.since io.toOpenIo).1 ++ [payload]
            | .error _ => (recording.since io.toOpenIo).1
          named := (recording.since io.toOpenIo).2 }
  | .collect upTo descriptor =>
      let docs := recording.collected uuid upTo descriptor
      some
        { recording with
          sink := docs.2.1
          minted := docs.2.2
          named := recording.named ++ resources docs.1
          emitted := recording.emitted ++ datums docs.1 }
  | .close ending =>
      let closed := recording.sink.close recording.file ending
      some { recording with sink := closed.2.1, file := closed.2.2 }
  | .lands count => some { recording with file := recording.file.lands count }

/-- The datum goes on where the last one of its resource stopped, its resource was emitted for the
file as it is, and the file holds the frames up to its stop whole, as they were accepted. -/
structure Tiled (recording : Recording) (named : List String) (datum : StreamDatum) : Prop where
  goesOn : datum.indices.start = reached recording.emitted datum.streamResource
  proper : datum.indices.start < datum.indices.stop
  current : datum.streamResource ∈ recording.named ++ named
  magic : binaryMagic <+: recording.file.contents
  present : datum.indices.stop ≤ recording.accepted.length
  whole : readFrames 4 datum.indices.stop (recording.file.contents.drop binaryMagic.length) =
    some (recording.accepted.take datum.indices.stop)

/-- What the call emits tiles the file. -/
def Tiles (uuid : Nat → String) (recording : Recording) : SinkCall → Prop
  | .collect upTo descriptor =>
      ∀ datum ∈ datums (recording.collected uuid upTo descriptor).1,
        recording.Tiled (resources (recording.collected uuid upTo descriptor).1) datum
  | _ => True

/-- A collect asks for no more than `indices_written`. -/
def Bounded (recording : Recording) : SinkCall → Prop
  | .collect upTo _ => upTo ≤ recording.sink.counter
  | _ => True

/-- Nothing was counted or emitted for the contents a call truncates. -/
def Anew (recording : Recording) (io : OpenIo) : Prop :=
  recording.truncates io = true → recording.sink.counter = 0 ∧ recording.sink.resourceUid = none

/-- No frame is counted of which a write is still under way, or that write ends well. -/
def Lasts (recording : Recording) (ending : WriteEnd) : Prop :=
  recording.accepted = [] ∨ recording.file.underWay = [] ∨ ending = .whole

/-- The file is truncated only while nothing was counted or emitted for it, a frame is accepted only
behind whole ones, the write of a counted frame does not fail, and where a collect emits the last
frame that write has got to the file. -/
def Careful (recording : Recording) : SinkCall → Prop
  | .openWriter _ io => recording.Anew io
  | .accept _ io => recording.Anew io.toOpenIo ∧
      (recording.sink.file = true → recording.file.flow = image recording.accepted ∧
        recording.Lasts io.length.earlier)
  | .collect upTo _ => recording.sink.lastEmitted < upTo → upTo = recording.sink.counter →
      recording.file.underWay = []
  | .close ending => recording.Lasts ending
  | .lands _ => True

/-- The counts go with what was handed to the file since it was truncated, all but the last frame is
in the file, and the one resource of the sink goes with every datum emitted. -/
structure Intact (recording : Recording) : Prop where
  counted : recording.sink.counter = recording.accepted.length
  fits : ∀ payload ∈ recording.accepted, payload.length < 256 ^ 4
  held : recording.accepted ≠ [] → image recording.accepted <+: recording.file.flow
  landed : recording.accepted ≠ [] →
    image recording.accepted.dropLast <+: recording.file.contents
  covered : recording.sink.lastEmitted ≤ recording.sink.counter
  current : ∀ uid, recording.sink.resourceUid = some uid → uid ∈ recording.named
  begun : recording.sink.resourceUid = none →
    recording.emitted = [] ∧ recording.sink.lastEmitted = 0
  going : ∀ uid, recording.sink.resourceUid = some uid →
    reached recording.emitted uid = recording.sink.lastEmitted

/-- What an `ensure_open` leaves. -/
def opened (recording : Recording) (io : OpenIo) : Recording :=
  { recording with
    sink := (recording.sink.ensureOpen recording.file io).2.1
    file := (recording.sink.ensureOpen recording.file io).2.2
    accepted := (recording.since io).1
    named := (recording.since io).2 }

variable {recording} {io : OpenIo}

/-- The ways an `ensure_open` goes: the file is open, or cannot be opened, or is truncated and its
magic taken or refused. -/
theorem opened_cases (recording : Recording) (io : OpenIo) :
    ((recording.sink.ensureOpen recording.file io).1 = .ok () ∧
        recording.sink.file = true ∧ recording.opened io = recording) ∨
      ((recording.sink.ensureOpen recording.file io).1 ≠ .ok () ∧
        recording.opened io = recording) ∨
      recording.truncates io = true ∧
        ((recording.sink.ensureOpen recording.file io).1 = .ok () ∧ recording.opened io =
            { recording with
              sink := { recording.sink with file := true }, file := ⟨[], binaryMagic⟩
              accepted := [], named := [] } ∨
          (recording.sink.ensureOpen recording.file io).1 ≠ .ok () ∧
            ∃ part, recording.opened io =
              { recording with file := part, accepted := [], named := [] }) := by
  cases handle : recording.sink.file with
  | true =>
      refine Or.inl ⟨?_, rfl, ?_⟩ <;>
        simp [opened, since, truncates, BinaryFrameSink.ensureOpen, handle]
  | false =>
      cases refusal : io.refusal with
      | some reason =>
          refine Or.inr (Or.inl ⟨?_, ?_⟩) <;>
            simp [opened, since, truncates, BinaryFrameSink.ensureOpen, handle, refusal]
      | none =>
          refine Or.inr (Or.inr ⟨by simp [truncates, handle, refusal], ?_⟩)
          cases magic : io.magic with
          | whole =>
              refine Or.inl ⟨?_, ?_⟩ <;>
                simp [opened, since, truncates, BinaryFrameSink.ensureOpen, handle, refusal, magic]
          | torn written reason =>
              refine Or.inr ⟨?_, ⟨binaryMagic.take written, []⟩, ?_⟩ <;>
                simp [opened, since, truncates, BinaryFrameSink.ensureOpen, handle, refusal, magic]

theorem Intact.opened (intact : recording.Intact) (anew : recording.Anew io) :
    (recording.opened io).Intact := by
  rcases opened_cases recording io with ⟨_, _, same⟩ | ⟨_, same⟩ | ⟨truncated, rest⟩
  · rwa [same]
  · rwa [same]
  · obtain ⟨none, unnamed⟩ := anew truncated
    have begun := intact.begun unnamed
    rcases rest with ⟨_, same⟩ | ⟨_, part, same⟩
    · rw [same]
      exact ⟨none, by simp, by simp, by simp, by simp [begun.2], by simp [unnamed], fun _ => begun,
        by simp [unnamed]⟩
    · rw [same]
      exact ⟨none, by simp, by simp, by simp, by simp [begun.2], by simp [unnamed], fun _ => begun,
        by simp [unnamed]⟩

/-- An `ensure_open` that succeeds leaves a file of whole frames, where an open one was. -/
theorem opened_whole {ending : WriteEnd}
    (done : (recording.sink.ensureOpen recording.file io).1 = .ok ())
    (whole : recording.sink.file = true →
      recording.file.flow = image recording.accepted ∧ recording.Lasts ending) :
    (recording.opened io).file.flow = image (recording.opened io).accepted ∧
      (recording.opened io).Lasts ending := by
  rcases opened_cases recording io with ⟨_, handle, same⟩ | ⟨failed, _⟩ | ⟨_, ⟨_, same⟩ | ⟨failed, _⟩⟩
  · rw [same]
    exact whole handle
  · exact absurd done failed
  · rw [same]
    exact ⟨by simp [AsyncFile.flow, image], .inl rfl⟩
  · exact absurd done failed

/-- The file may hold more than it did, as long as no counted frame is lost. -/
theorem Intact.grow (intact : recording.Intact) {file : AsyncFile}
    (held : recording.accepted ≠ [] → recording.file.flow <+: file.flow)
    (landed : recording.accepted ≠ [] → recording.file.contents <+: file.contents) :
    { recording with file }.Intact :=
  { intact with
    held := fun some => (intact.held some).trans (held some)
    landed := fun some => (intact.landed some).trans (landed some) }

/-- A frame taken whole behind whole frames. -/
theorem Intact.accept (intact : recording.Intact) {payload : List UInt8} {file : AsyncFile}
    (fits : payload.length < 2 ^ 32)
    (flow : file.flow = image recording.accepted ++ littleEndian 4 payload.length ++ payload)
    (landed : image recording.accepted <+: file.contents) :
    { recording with
      sink := { recording.sink with counter := recording.sink.counter + 1 }
      file
      accepted := recording.accepted ++ [payload] }.Intact where
  counted := by simp [intact.counted]
  fits := by
    rw [List.forall_mem_append, List.forall_mem_singleton]
    exact ⟨intact.fits, fits⟩
  held _ := by simp only [flow, image_concat]; exact List.prefix_rfl
  landed _ := by simpa using landed
  covered := Nat.le_succ_of_le intact.covered
  current := intact.current
  begun := intact.begun
  going := intact.going

/-- The documents of a collect: the resource of the sink, the first time, and the datum from where
the last one stopped, where there is something new. -/
theorem collected_cases (uuid : Nat → String) (recording : Recording) (upTo : Nat) (descriptor : Uid) :
    ((recording.collected uuid upTo descriptor).1 = [] ∧
        (recording.collected uuid upTo descriptor).2.1 = recording.sink) ∨
      ∃ uid, (recording.sink.resourceUid = some uid ∨ recording.sink.resourceUid = none) ∧
        resources (recording.collected uuid upTo descriptor).1 =
          (if recording.sink.resourceUid = none then [uid] else []) ∧
        ((datums (recording.collected uuid upTo descriptor).1 = [] ∧
            (recording.collected uuid upTo descriptor).2.1 =
              { recording.sink with resourceUid := some uid }) ∨
          recording.sink.lastEmitted < upTo ∧
            (∃ datum, datums (recording.collected uuid upTo descriptor).1 = [datum] ∧
              datum.streamResource = uid ∧ datum.indices = ⟨recording.sink.lastEmitted, upTo⟩) ∧
            (recording.collected uuid upTo descriptor).2.1 =
              { recording.sink with resourceUid := some uid, lastEmitted := upTo }) := by
  cases key : recording.sink.dataKey with
  | none => exact Or.inl (by simp [collected, BinaryFrameSink.collectStreamDocs, key])
  | some dataKey =>
      refine Or.inr ⟨recording.sink.resourceUid.getD (uuid recording.minted), ?_, ?_, ?_⟩
      · cases recording.sink.resourceUid <;> simp
      · by_cases further : recording.sink.lastEmitted < upTo <;>
          cases named : recording.sink.resourceUid <;>
          simp [collected, BinaryFrameSink.collectStreamDocs, key, further, named, resources]
      · by_cases further : recording.sink.lastEmitted < upTo
        · refine Or.inr ⟨further, ?_⟩
          cases named : recording.sink.resourceUid <;>
            simp [collected, BinaryFrameSink.collectStreamDocs, key, further, named, datums]
        · refine Or.inl ?_
          cases named : recording.sink.resourceUid <;>
            simp [collected, BinaryFrameSink.collectStreamDocs, key, further, named, datums]

/-- The resource a collect names is in force after it. -/
theorem mem_named {uid : String} {named : List String} (intact : recording.Intact)
    (among : recording.sink.resourceUid = some uid ∨ recording.sink.resourceUid = none)
    (fresh : named = if recording.sink.resourceUid = none then [uid] else []) :
    uid ∈ recording.named ++ named := by
  rw [fresh, List.mem_append]
  rcases among with held | none
  · exact Or.inl (intact.current uid held)
  · exact Or.inr (by simp [none])

/-- The datums of the resource in force go on where the sink says. -/
theorem Intact.reached (intact : recording.Intact) {uid : String}
    (among : recording.sink.resourceUid = some uid ∨ recording.sink.resourceUid = none) :
    Stream.reached recording.emitted uid = recording.sink.lastEmitted := by
  rcases among with held | none
  · exact intact.going uid held
  · obtain ⟨empty, zero⟩ := intact.begun none
    simp [Stream.reached, empty, zero]

theorem reached_concat (emitted : List StreamDatum) (datum : StreamDatum) :
    reached (emitted ++ [datum]) datum.streamResource = datum.indices.stop := by
  simp [reached]

theorem Intact.collect {uuid : Nat → String} {upTo : Nat} {descriptor : Uid}
    (intact : recording.Intact) (bounded : upTo ≤ recording.sink.counter)
    (stepped : recording.step uuid (.collect upTo descriptor) = some next) : next.Intact := by
  cases stepped
  rcases collected_cases uuid recording upTo descriptor with
    ⟨none, same⟩ | ⟨uid, among, fresh, ⟨quiet, same⟩ | ⟨further, ⟨datum, only, resource, indices⟩, same⟩⟩
  · simp only [none, same, resources, datums, List.filterMap_nil, List.append_nil]
    exact { intact with }
  · rw [same, quiet, List.append_nil]
    refine ⟨intact.counted, intact.fits, intact.held, intact.landed, intact.covered, ?_, by simp, ?_⟩
    · rintro _ ⟨rfl⟩
      exact mem_named intact among fresh
    · rintro _ ⟨rfl⟩
      exact intact.reached among
  · rw [same, only]
    refine ⟨intact.counted, intact.fits, intact.held, intact.landed, bounded, ?_, by simp, ?_⟩
    · rintro _ ⟨rfl⟩
      exact mem_named intact among fresh
    · rintro _ ⟨rfl⟩
      rw [← resource, reached_concat, indices]

theorem Intact.takes {uuid : Nat → String} {payload : List UInt8} {io : AcceptIo}
    (intact : recording.Intact) (careful : recording.Careful (.accept payload io))
    (stepped : recording.step uuid (.accept payload io) = some next) : next.Intact := by
  cases stepped
  have opened := intact.opened careful.1
  rcases result : recording.sink.ensureOpen recording.file io.toOpenIo with ⟨done, held, file⟩
  cases done with
  | error error =>
      simp only [Recording.opened, result] at opened
      simpa [BinaryFrameSink.accept, result] using opened
  | ok done =>
      obtain ⟨whole, lasts⟩ := opened_whole (by rw [result]) careful.2
      simp only [Recording.opened, result, Lasts] at opened whole lasts
      simp only [BinaryFrameSink.accept, result]
      by_cases large : 2 ^ 32 ≤ payload.length
      · rw [if_pos large]
        exact opened
      · rw [if_neg large]
        have counted := @AsyncFile.contents_writeAll file (littleEndian 4 payload.length) io.length
        have taken := @AsyncFile.writeAll_ok file (littleEndian 4 payload.length) io.length
        have kept := @AsyncFile.writeAll_keeps file (littleEndian 4 payload.length) io.length
        rcases prefixing : file.writeAll (littleEndian 4 payload.length) io.length with
          ⟨ended, prefixed⟩
        rw [prefixing] at counted taken kept
        cases ended with
        | error reason =>
            exact opened.grow (fun some => kept (lasts.resolve_left some)) fun _ => counted
        | ok ended =>
            obtain ⟨flow, settled⟩ := taken rfl
            have settled := settled (by simp [littleEndian])
            have later := @AsyncFile.contents_writeAll prefixed payload io.payload
            have taken := @AsyncFile.writeAll_ok prefixed payload io.payload
            dsimp only at settled flow ⊢
            rw [settled] at later
            rcases writing : prefixed.writeAll payload io.payload with ⟨ended, left⟩
            rw [writing] at later taken
            cases ended with
            | error reason =>
                exact opened.grow (fun _ => later.trans (List.prefix_append ..))
                  fun _ => (List.prefix_append ..).trans later
            | ok ended =>
                refine opened.accept (Nat.lt_of_not_le large) ?_ (whole ▸ later)
                rw [(taken rfl).1, flow, whole]

/-- Every call leaves the counts right that is bounded and careful. -/
theorem Intact.step (uuid : Nat → String) (recording : Recording) (call : SinkCall) (next : Recording)
    (stepped : recording.step uuid call = some next)
    (allowed : recording.Bounded call ∧ recording.Careful call) (intact : recording.Intact) :
    next.Intact := by
  obtain ⟨bounded, careful⟩ := allowed
  cases call with
  | openWriter datakeyName io =>
      cases stepped
      have opened := intact.opened careful
      rcases result : recording.sink.ensureOpen recording.file io with ⟨done, held, file⟩
      simp only [Recording.opened, result] at opened
      cases done with
      | error error => simpa [BinaryFrameSink.openWriter, result] using opened
      | ok done =>
          simp only [BinaryFrameSink.openWriter, result]
          exact { opened with }
  | accept payload io => exact intact.takes careful stepped
  | collect upTo descriptor => exact intact.collect bounded stepped
  | close ending =>
      cases stepped
      have landed := @AsyncFile.contents_flush recording.file ending
      have kept : recording.accepted ≠ [] →
          recording.file.flow <+: (recording.file.flush ending).2.flow := by
        intro some
        rw [AsyncFile.flush_ok (AsyncFile.flush_whole (Or.resolve_left careful some))]
        simp [AsyncFile.flow]
      unfold BinaryFrameSink.close
      split
      · have grown := intact.grow kept fun _ => landed
        rcases flushing : recording.file.flush ending with ⟨_ | _, left⟩ <;>
          (rw [flushing] at grown; exact { grown with })
      · exact intact
  | lands count =>
      cases stepped
      exact intact.grow (fun _ => (AsyncFile.flow_lands count).symm ▸ List.prefix_rfl)
        fun _ => AsyncFile.contents_lands count

/-- What a bounded collect emits is in the file. -/
theorem Intact.image_landed (intact : recording.Intact) {upTo : Nat} (some : upTo ≠ 0)
    (bounded : upTo ≤ recording.sink.counter)
    (landed : upTo = recording.sink.counter → recording.file.underWay = []) :
    ∃ frames, image frames <+: recording.file.contents ∧ upTo ≤ frames.length ∧
      (∀ payload ∈ frames, payload.length < 256 ^ 4) ∧
        frames.take upTo = recording.accepted.take upTo := by
  have within : upTo ≤ recording.accepted.length := intact.counted ▸ bounded
  have nonempty : recording.accepted ≠ [] := by
    rintro none
    rw [none] at within
    exact some (Nat.le_zero.mp within)
  by_cases last : upTo = recording.sink.counter
  · have held := intact.held nonempty
    rw [AsyncFile.flow, landed last, List.append_nil] at held
    exact ⟨recording.accepted, held, within, intact.fits, rfl⟩
  · have before : upTo ≤ recording.accepted.length - 1 := by
      have := intact.counted
      omega
    refine ⟨recording.accepted.dropLast, intact.landed nonempty, by simpa using before,
      fun payload member => intact.fits payload (List.dropLast_subset _ member), ?_⟩
    rw [List.dropLast_eq_take, List.take_take, Nat.min_eq_left before]

/-- A bounded collect of counts that are right tiles the file. -/
theorem Intact.tiles (uuid : Nat → String) (recording : Recording) (call : SinkCall)
    (allowed : recording.Bounded call ∧ recording.Careful call) (intact : recording.Intact) :
    recording.Tiles uuid call := by
  cases call with
  | collect upTo descriptor =>
      have bounded : upTo ≤ recording.sink.counter := allowed.1
      intro datum member
      rcases collected_cases uuid recording upTo descriptor with
        ⟨none, _⟩ | ⟨uid, among, fresh, ⟨quiet, _⟩ | ⟨further, ⟨only, single, rfl, indices⟩, _⟩⟩
      · simp [none, datums] at member
      · simp [quiet] at member
      · rw [single, List.mem_singleton] at member
        subst member
        obtain ⟨frames, ⟨torn, same⟩, within, fits, counted⟩ :=
          intact.image_landed (Nat.ne_zero_of_lt further) bounded (allowed.2 further)
        refine ⟨?_, by rw [indices]; exact further, mem_named intact among fresh, ?_, ?_, ?_⟩
        · rw [indices, intact.reached among]
        · rw [← same, image, List.append_assoc]
          exact List.prefix_append ..
        · rw [indices]
          exact intact.counted ▸ bounded
        · rw [indices, ← same, image, List.append_assoc, List.drop_left, ← counted]
          exact readFrames_frames fits within torn
  | _ => trivial

theorem new_intact (path : String) (payloadSize : Nat) (contents : List UInt8) :
    (new path payloadSize contents).Intact where
  counted := rfl
  fits := by simp [new]
  held := by simp [new]
  landed := by simp [new]
  covered := Nat.le_refl _
  current := by simp [new, BinaryFrameSink.new]
  begun _ := ⟨rfl, rfl⟩
  going := by simp [new, BinaryFrameSink.new]

/-- Over any calls on a new sink, collects bounded by `indices_written`, the datums tile the file as
long as it is truncated only while nothing was counted or emitted for it, no frame is accepted behind
a torn one, and what is counted gets to the file before it is emitted. -/
theorem stream_datums_tile (uuid : Nat → String) (path : String) (payloadSize : Nat)
    (contents : List UInt8) (calls : List SinkCall)
    (allowed : Throughout (step uuid) (fun recording call =>
      recording.Bounded call ∧ recording.Careful call) (new path payloadSize contents) calls) :
    Throughout (step uuid) (Tiles uuid) (new path payloadSize contents) calls :=
  allowed.of_invariant Intact (Intact.step uuid) (Intact.tiles uuid)
    (new_intact path payloadSize contents)

instance (recording : Recording) : ∀ call, Decidable (recording.Bounded call)
  | .collect upTo _ => inferInstanceAs (Decidable (upTo ≤ recording.sink.counter))
  | .openWriter .. | .accept .. | .close _ | .lands _ => isTrue trivial

instance (recording : Recording) (io : OpenIo) : Decidable (recording.Anew io) :=
  inferInstanceAs (Decidable (recording.truncates io = true →
    recording.sink.counter = 0 ∧ recording.sink.resourceUid = none))

instance (recording : Recording) (ending : WriteEnd) : Decidable (recording.Lasts ending) :=
  inferInstanceAs (Decidable (_ ∨ _ ∨ _))

instance (recording : Recording) : ∀ call, Decidable (recording.Careful call)
  | .openWriter _ io => inferInstanceAs (Decidable (recording.Anew io))
  | .accept _ io => inferInstanceAs (Decidable (recording.Anew io.toOpenIo ∧
      (recording.sink.file = true → recording.file.flow = image recording.accepted ∧
        recording.Lasts io.length.earlier)))
  | .collect upTo _ => inferInstanceAs (Decidable (recording.sink.lastEmitted < upTo →
      upTo = recording.sink.counter → recording.file.underWay = []))
  | .close ending => inferInstanceAs (Decidable (recording.Lasts ending))
  | .lands _ => isTrue trivial

/-- Uuids told apart by their length. -/
def plainUuid (count : Nat) : String :=
  String.ofList (List.replicate count 'u')

/-- A write that is taken behind one that ended well. -/
def written : WriteIo :=
  ⟨.whole, .whole⟩

/-- A file that opens, and a frame written whole. -/
def works : AcceptIo :=
  ⟨⟨none, .whole⟩, written, written⟩

/-- A file that opens the third time, two frames collected one by one, the first while the second is
under way, and a third one whose length does not get to the file. -/
theorem stream_datums_tile_frames :
    Throughout (step plainUuid) (Tiles plainUuid) (new "/data/frames" 2 [1, 2, 3])
      [.openWriter "frames" ⟨some "denied", .whole⟩, .openWriter "frames" ⟨none, .torn 3 "disk full"⟩,
        .openWriter "frames" ⟨none, .whole⟩, .accept [10, 11] works, .accept [12, 13] works,
        .lands 1, .collect 1 0, .lands 1, .collect 2 0,
        .accept [14, 15] ⟨⟨none, .whole⟩, written, ⟨.torn 1 "disk full", .whole⟩⟩, .collect 2 0,
        .close .whole] :=
  stream_datums_tile plainUuid "/data/frames" 2 [1, 2, 3] _ (by decide +kernel)

/-- A file opened anew goes on under the resource of the one it replaces, a frame behind a torn one
is not where its index says, and one that was counted is torn. -/
theorem stream_datums_stale :
    ¬ Throughout (step plainUuid) (Tiles plainUuid) (new "/data/frames" 1 [])
        [.openWriter "frames" works.toOpenIo, .accept [10] works, .lands 1, .collect 1 0,
          .close .whole, .openWriter "frames" works.toOpenIo, .accept [11] works, .lands 1,
          .collect 2 0] ∧
      ¬ Throughout (step plainUuid) (Tiles plainUuid) (new "/data/frames" 2 [])
        [.openWriter "frames" works.toOpenIo,
          .accept [10, 11] ⟨⟨none, .whole⟩, written, ⟨.torn 2 "disk full", .whole⟩⟩,
          .accept [12, 13] works, .lands 2, .collect 1 0] ∧
      ¬ Throughout (step plainUuid) (Tiles plainUuid) (new "/data/frames" 2 [])
        [.openWriter "frames" works.toOpenIo, .accept [10, 11] works,
          .accept [12, 13] ⟨⟨none, .whole⟩, ⟨.torn 1 "disk full", .whole⟩, written⟩, .collect 1 0] := by
  refine ⟨fun tiles => ?_, fun tiles => ?_, fun tiles => ?_⟩
  · have last := tiles.2 _ rfl |>.2 _ rfl |>.2 _ rfl |>.2 _ rfl |>.2 _ rfl |>.2 _ rfl |>.2 _ rfl
      |>.2 _ rfl |>.1
    have stale := (last ⟨plainUuid 2, plainUuid 0, 0, ⟨1, 2⟩, ⟨0, 0⟩⟩ (by decide +kernel)).present
    exact absurd stale (by decide +kernel)
  · have last := tiles.2 _ rfl |>.2 _ rfl |>.2 _ rfl |>.2 _ rfl |>.1
    have torn := (last ⟨plainUuid 1, plainUuid 0, 0, ⟨0, 1⟩, ⟨0, 0⟩⟩ (by decide +kernel)).whole
    exact absurd torn (by decide +kernel)
  · have last := tiles.2 _ rfl |>.2 _ rfl |>.2 _ rfl |>.1
    have torn := (last ⟨plainUuid 1, plainUuid 0, 0, ⟨0, 1⟩, ⟨0, 0⟩⟩ (by decide +kernel)).whole
    exact absurd torn (by decide +kernel)

end Recording

end Bsrs.Stream
