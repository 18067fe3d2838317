import Bsrs.Stream.BinarySink

/-! `Hdf5FrameSink`, and what both file sinks keep of the protocol a detector opens and closes them
by. The payloads appended to a dataset are told apart; how each call of the library ends comes with
the call that makes it. -/

namespace Bsrs.Stream

open Library
open Bsrs.Core (BsrsError)
open EventModel (Uid StreamResource StreamDatum StreamRange)

/-- The calls of `open_file` that may fail it. -/
inductive OpenStep where
  | create
  | entry
  | instrument
  | detector
  | dataset
  deriving Repr, DecidableEq

def OpenStep.text (step : OpenStep) (name path reason : String) : String :=
  match step with
  | .create => s!"hdf5 sink create {path}: {reason}"
  | .entry => s!"hdf5 sink: create entry: {reason}"
  | .instrument => s!"hdf5 sink: create instrument: {reason}"
  | .detector => s!"hdf5 sink: create {name}: {reason}"
  | .dataset => s!"hdf5 sink: create dataset entry/instrument/{name}/data: {reason}"

/-- What an `open_file` fails at, and the library's reason. -/
abbrev Hdf5Refusal := Option (OpenStep × String)

/-- `StreamAsset`, a resource with all a reader of the file needs. -/
inductive FileAsset where
  | resource (resource : StreamResource) (mimetype uri : String) (parameters : List (String × String))
  | datum (datum : StreamDatum)

/-- The datums among the documents. -/
def fileDatums (docs : List FileAsset) : List StreamDatum :=
  docs.filterMap fun
    | .datum datum => some datum
    | .resource .. => none

theorem fileDatums_append (first second : List FileAsset) :
    fileDatums (first ++ second) = fileDatums first ++ fileDatums second :=
  List.filterMap_append

/-- The data key both sinks answer an open with. -/
def fileKey (path : String) (payloadSize : Nat) : BinaryDataKey where
  source := fileUri path
  dtype := "number"
  shape := if 0 < payloadSize then [some payloadSize] else []
  dtypeNumpy := some "|u1"
  external := some "STREAM:"
  dims := some ["byte"]

theorem fileKey_led {path : String} {payloadSize multiplier : Nat} :
    (fileKey path payloadSize).shape.head? = some (some multiplier) ↔
      0 < payloadSize ∧ payloadSize = multiplier := by
  by_cases sized : 0 < payloadSize <;> simp [fileKey, sized]

/-- `Hdf5FrameSink`: `tx` by whether the channel to the worker is still there, and `state` by whether
the worker holds a file. -/
structure Hdf5FrameSink where
  name : String
  path : String
  payloadSize : Nat
  tx : Bool
  state : Bool
  opened : Bool
  counter : Nat
  lastEmitted : Nat
  resourceUid : Option String
  dataKey : Option String

namespace Hdf5FrameSink

def new (name path : String) (payloadSize : Nat) : Hdf5FrameSink where
  name
  path
  payloadSize
  tx := true
  state := false
  opened := false
  counter := 0
  lastEmitted := 0
  resourceUid := none
  dataKey := none

variable (sink : Hdf5FrameSink) (frames : List (List UInt8))

/-- `send`, the worker outliving its channel. -/
def send : Except BsrsError Unit :=
  if sink.tx then .ok () else .error (.backend "hdf5 worker shut down")

/-- `ensure_open`, by what it leaves of the sink and of the frames in the file. Creating the file
truncates it. -/
def ensureOpen (refusal : Hdf5Refusal) :
    Except BsrsError Unit × Hdf5FrameSink × List (List UInt8) :=
  if sink.opened then (.ok (), sink, frames)
  else
    match sink.send with
    | .error error => (.error error, sink, frames)
    | .ok () =>
        match refusal with
        | some (step, reason) =>
            (.error (.backend (step.text sink.name sink.path reason)), sink,
              if step = .create then frames else [])
        | none => (.ok (), { sink with state := true, opened := true }, [])

/-- `accept`, the append failing for the reason given. -/
def accept (payload : List UInt8) (refusal : Hdf5Refusal) (append : Option String) :
    Except BsrsError Unit × Hdf5FrameSink × List (List UInt8) :=
  match sink.ensureOpen frames refusal with
  | (.error error, held, there) => (.error error, held, there)
  | (.ok (), held, there) =>
      match held.send with
      | .error error => (.error error, held, there)
      | .ok () =>
          if held.state then
            match append with
            | some reason => (.error (.backend s!"hdf5 append: {reason}"), held, there)
            | none => (.ok (), { held with counter := held.counter + 1 }, there ++ [payload])
          else (.error (.other "device state error: hdf5 sink not open"), held, there)

/-- `DetectorWriter::open`, which does not look at the multiplier. -/
def openWriter (datakeyName : String) (_multiplier : Nat) (refusal : Hdf5Refusal) :
    Except BsrsError (String × BinaryDataKey) × Hdf5FrameSink × List (List UInt8) :=
  match sink.ensureOpen frames refusal with
  | (.error error, held, there) => (.error error, held, there)
  | (.ok (), held, there) =>
      (.ok (datakeyName, fileKey sink.path sink.payloadSize),
        { held with dataKey := some datakeyName }, there)

/-- `close`: the worker ends with its channel, and the file with the worker. -/
def close : Hdf5FrameSink :=
  { sink with tx := false }

/-- Where a reader finds the frames in the file. -/
def parameters : List (String × String) :=
  [("path", s!"/entry/instrument/{sink.name}/data")]

/-- `collect_stream_docs`, under the uids from `minted` on. The cursor goes where it is asked to,
back as well. -/
def collectStreamDocs (uuid : Nat → String) (minted upTo : Nat) (descriptor : Uid) :
    List FileAsset × Hdf5FrameSink × Nat :=
  match sink.dataKey with
  | none => ([], sink, minted)
  | some dataKey =>
      let uid := sink.resourceUid.getD (uuid minted)
      let named :=
        if sink.resourceUid.isNone then
          [FileAsset.resource ⟨uid, dataKey, none⟩ "application/x-hdf5" (fileUri sink.path)
            sink.parameters]
        else []
      let next := minted + named.length
      let after := { sink with resourceUid := some uid, lastEmitted := upTo }
      if sink.lastEmitted < upTo then
        (named ++ [.datum ⟨uuid next, uid, descriptor, ⟨sink.lastEmitted, upTo⟩, ⟨0, 0⟩⟩], after,
          next + 1)
      else (named, after, next)

end Hdf5FrameSink

/-! ## What the datums cover -/

/-- The datums cover the collections below, and no others. -/
def Covered (emitted : List StreamDatum) (collections : Nat) : Prop :=
  ∀ index, (∃ datum ∈ emitted, datum.indices.start ≤ index ∧ index < datum.indices.stop) ↔
    index < collections

/-- The furthest stop of the datums. -/
def furthest (emitted : List StreamDatum) : Nat :=
  (emitted.map fun datum => datum.indices.stop).foldr max 0

/-- The event index of a detector whose writers have written so many collections at the least. -/
def eventIndex (written multiplier : Nat) : Nat :=
  written / max multiplier 1

theorem eventIndex_le (written multiplier : Nat) : eventIndex written multiplier ≤ written :=
  Nat.div_le_self ..

theorem furthest_append (first second : List StreamDatum) :
    furthest (first ++ second) = max (furthest first) (furthest second) := by
  induction first with
  | nil => simp [furthest]
  | cons datum rest ih =>
      simp only [furthest, List.cons_append, List.map_cons, List.foldr_cons] at ih ⊢
      rw [ih, Nat.max_assoc]

/-- What is covered is covered up to one place only. -/
theorem Covered.unique {emitted : List StreamDatum} {first second : Nat}
    (left : Covered emitted first) (right : Covered emitted second) : first = second := by
  have both : ∀ index, index < first ↔ index < second :=
    fun index => (left index).symm.trans (right index)
  have below := both first
  have above := both second
  omega

/-- The datums leave no gap below the furthest of them, and the cursor is not beyond it. -/
structure Gapless (emitted : List StreamDatum) (cursor : Nat) : Prop where
  covered : Covered emitted (furthest emitted)
  within : cursor ≤ furthest emitted

theorem Gapless.nil : Gapless [] 0 :=
  ⟨by simp [Covered, furthest], Nat.le_refl 0⟩

/-- What a collect up to an index adds: the datum from the cursor on, where there is any. -/
def Adds (cursor upTo : Nat) (added : List StreamDatum) : Prop :=
  (upTo ≤ cursor ∧ added = []) ∨
    cursor < upTo ∧ ∃ datum, added = [datum] ∧ datum.indices = ⟨cursor, upTo⟩

section

variable {emitted added : List StreamDatum} {cursor upTo : Nat}

theorem Gapless.furthest_added (gapless : Gapless emitted cursor) (adds : Adds cursor upTo added) :
    furthest (emitted ++ added) = max (furthest emitted) upTo := by
  rcases adds with ⟨behind, rfl⟩ | ⟨_, datum, rfl, indices⟩
  · rw [List.append_nil, Nat.max_eq_left (Nat.le_trans behind gapless.within)]
  · rw [furthest_append]
    simp [furthest, indices]

theorem Gapless.covered_added (gapless : Gapless emitted cursor) (adds : Adds cursor upTo added) :
    Covered (emitted ++ added) (max (furthest emitted) upTo) := by
  rcases adds with ⟨behind, rfl⟩ | ⟨further, datum, rfl, indices⟩
  · rw [List.append_nil, Nat.max_eq_left (Nat.le_trans behind gapless.within)]
    exact gapless.covered
  · intro index
    have before := gapless.covered index
    have within := gapless.within
    simp only [List.mem_append, List.mem_singleton, or_and_right, exists_or, exists_eq_left, before,
      indices]
    omega

/-- A collect leaves no gap either, wherever up to its index it leaves the cursor. -/
theorem Gapless.add (gapless : Gapless emitted cursor) (adds : Adds cursor upTo added) {next : Nat}
    (within : next ≤ max cursor upTo) : Gapless (emitted ++ added) next := by
  have reached := gapless.furthest_added adds
  refine ⟨?_, ?_⟩
  · rw [reached]
    exact gapless.covered_added adds
  · have held := gapless.within
    omega

/-- A collect covers the collections of its events where the furthest index is as many times its
own. -/
theorem Gapless.covers_iff (gapless : Gapless emitted cursor) (adds : Adds cursor upTo added)
    {collections : Nat} :
    Covered (emitted ++ added) collections ↔ max (furthest emitted) upTo = collections := by
  constructor
  · intro covered
    exact (gapless.covered_added adds).unique covered
  · rintro rfl
    exact gapless.covered_added adds

end

/-! ## The HDF5 sink under a detector -/

/-- A call of the detector on its writer, or a frame for it. A collect is up to the event index of
the least the writers have written, of which `others` is what the other ones have. -/
inductive Hdf5Call where
  | openWriter (datakeyName : String) (multiplier : Nat) (refusal : Hdf5Refusal)
  | accept (payload : List UInt8) (refusal : Hdf5Refusal) (append : Option String)
  | collect (others : Nat) (descriptor : Uid)
  | close

/-- A sink and its file, with what was seen of the calls: the multiplier of the last open where it
was answered, whether a close came, whether an open was answered after the last one, and the
documents. -/
structure Hdf5Session where
  sink : Hdf5FrameSink
  frames : List (List UInt8)
  minted : Nat
  multiplier : Option Nat
  closed : Bool
  live : Bool
  docs : List FileAsset

namespace Hdf5Session

/-- A new sink over whatever its path holds. -/
def new (name path : String) (payloadSize : Nat) (frames : List (List UInt8)) : Hdf5Session where
  sink := .new name path payloadSize
  frames
  minted := 0
  multiplier := none
  closed := false
  live := false
  docs := []

variable (session : Hdf5Session)

def emitted : List StreamDatum :=
  fileDatums session.docs

/-- The event index of a collect. -/
def upTo (others multiplier : Nat) : Nat :=
  eventIndex (min session.sink.counter others) multiplier

/-- The documents of a collect, what it leaves of the sink, and the uuids minted after it. -/
def collected (uuid : Nat → String) (upTo : Nat) (descriptor : Uid) :
    List FileAsset × Hdf5FrameSink × Nat :=
  session.sink.collectStreamDocs uuid session.minted upTo descriptor

/-- A collect without a prepare does not get to the writer. -/
def step (uuid : Nat → String) (session : Hdf5Session) : Hdf5Call → Option Hdf5Session
  | .openWriter datakeyName multiplier refusal =>
      let done := session.sink.openWriter session.frames datakeyName multiplier refusal
      some
        { session with
          sink := done.2.1
          frames := done.2.2
          multiplier := if done.1.isOk then some multiplier else none
          live := session.live || done.1.isOk }
  | .accept payload refusal append =>
      let done := session.sink.accept session.frames payload refusal append
      some { session with sink := done.2.1, frames := done.2.2 }
  | .collect others descriptor =>
      match session.multiplier with
      | none => some session
      | some multiplier =>
          let docs := session.collected uuid (session.upTo others multiplier) descriptor
          some
            { session with
              sink := docs.2.1
              minted := docs.2.2
              docs := session.docs ++ docs.1 }
  | .close => some { session with sink := session.sink.close, closed := true, live := false }

/-- The file and the dataset in it that the documents name for a resource. -/
def Located (docs : List FileAsset) (resource : String) : Prop :=
  ∃ dataKey, .resource ⟨resource, dataKey, none⟩ "application/x-hdf5" (fileUri session.sink.path)
    session.sink.parameters ∈ docs

/-- A datum refers to frames that are in the file of its resource. -/
structure Present (docs : List FileAsset) (datum : StreamDatum) : Prop where
  located : session.Located docs datum.streamResource
  held : datum.indices.stop ≤ session.frames.length

/-- An open after a close is answered, and every open with the multiplier first in the shape. -/
structure Opens (datakeyName : String) (multiplier : Nat) (refusal : Hdf5Refusal) : Prop where
  reopens : session.closed = true → refusal = none →
    (session.sink.openWriter session.frames datakeyName multiplier refusal).1.isOk = true
  led : ∀ name key,
    (session.sink.openWriter session.frames datakeyName multiplier refusal).1 = .ok (name, key) →
      key.shape.head? = some (some multiplier)

/-- The datums of a collect are of frames present, and with those before cover the collections of
the events collected. -/
structure Collects (uuid : Nat → String) (multiplier upTo : Nat) (descriptor : Uid) : Prop where
  present : ∀ datum ∈ fileDatums (session.collected uuid upTo descriptor).1,
    session.Present (session.docs ++ (session.collected uuid upTo descriptor).1) datum
  covers : Covered (session.emitted ++ fileDatums (session.collected uuid upTo descriptor).1)
    (multiplier * upTo)

/-- The call is what the detector counts on, errors of the disk aside. -/
def Honours (uuid : Nat → String) (session : Hdf5Session) : Hdf5Call → Prop
  | .openWriter datakeyName multiplier refusal => session.Opens datakeyName multiplier refusal
  | .accept payload refusal append =>
      session.live = true → refusal = none → append = none →
        (session.sink.accept session.frames payload refusal append).1 = .ok ()
  | .collect others descriptor => ∀ multiplier, session.multiplier = some multiplier →
      session.Collects uuid multiplier (session.upTo others multiplier) descriptor
  | .close => True

/-- An open that gets its file. -/
def Gets (refusal : Hdf5Refusal) : Prop :=
  session.sink.opened = true ∨ session.closed = false ∧ refusal = none

/-- An open after a close finds the file opened before, and no frame comes after it; a multiplier is
the payload size; and the furthest index of the collects is as many times the last one. -/
def Respects (session : Hdf5Session) : Hdf5Call → Prop
  | .openWriter _ multiplier refusal =>
      (session.closed = true → refusal = none → session.sink.opened = true) ∧
        (session.Gets refusal → 0 < session.sink.payloadSize ∧ session.sink.payloadSize = multiplier)
  | .accept _ refusal append =>
      session.live = true → refusal = none → append = none → session.closed = false
  | .collect others _ => ∀ multiplier, session.multiplier = some multiplier →
      max (furthest session.emitted) (session.upTo others multiplier) =
        multiplier * session.upTo others multiplier
  | .close => True

/-- How far the parts of the sink go together. -/
structure Sound (session : Hdf5Session) : Prop where
  channel : session.sink.tx = !session.closed
  live : session.live = true → session.sink.opened = true
  holds : session.sink.opened = true → session.sink.state = true
  unopened : session.sink.opened = false → session.sink.counter = 0
  counted : session.sink.counter ≤ session.frames.length
  keyed : session.multiplier.isSome = true → session.sink.dataKey.isSome = true
  located : ∀ uid, session.sink.resourceUid = some uid → session.Located session.docs uid
  gapless : Gapless session.emitted session.sink.lastEmitted

section

variable {session}

/-- The ways an `ensure_open` goes: the file was opened before, or there is no worker to ask, or it
refuses, or it opens the file anew. -/
theorem ensureOpen_cases (sound : session.Sound) (refusal : Hdf5Refusal) :
    (session.sink.opened = true ∧
        session.sink.ensureOpen session.frames refusal = (.ok (), session.sink, session.frames)) ∨
      (¬ session.Gets refusal ∧ session.sink.opened = false ∧ ∃ error there,
        session.sink.ensureOpen session.frames refusal = (.error error, session.sink, there)) ∨
      session.Gets refusal ∧ session.sink.opened = false ∧
        session.sink.ensureOpen session.frames refusal =
          (.ok (), { session.sink with state := true, opened := true }, []) := by
  have channel := sound.channel
  cases opened : session.sink.opened with
  | true => exact Or.inl ⟨rfl, by simp [Hdf5FrameSink.ensureOpen, opened]⟩
  | false =>
      cases closed : session.closed with
      | true =>
          refine Or.inr (Or.inl ⟨by simp [Gets, opened, closed], rfl, ?_⟩)
          refine ⟨.backend "hdf5 worker shut down", session.frames, ?_⟩
          simp [Hdf5FrameSink.ensureOpen, Hdf5FrameSink.send, opened, channel, closed]
      | false =>
          cases refusal with
          | some reason =>
              refine Or.inr (Or.inl ⟨by simp [Gets, opened], rfl, ?_⟩)
              refine ⟨.backend (reason.1.text session.sink.name session.sink.path reason.2),
                if reason.1 = .create then session.frames else [], ?_⟩
              simp [Hdf5FrameSink.ensureOpen, Hdf5FrameSink.send, opened, channel, closed]
          | none =>
              refine Or.inr (Or.inr ⟨by simp [Gets, closed], rfl, ?_⟩)
              simp [Hdf5FrameSink.ensureOpen, Hdf5FrameSink.send, opened, channel, closed]

theorem gets_of_opened {refusal : Hdf5Refusal} (opened : session.sink.opened = true) :
    session.Gets refusal :=
  Or.inl opened

/-- An open is answered exactly where it gets its file. -/
theorem openWriter_cases (sound : session.Sound) (datakeyName : String) (multiplier : Nat)
    (refusal : Hdf5Refusal) :
    (¬ session.Gets refusal ∧ session.sink.opened = false ∧ ∃ error there,
        session.sink.openWriter session.frames datakeyName multiplier refusal =
          (.error error, session.sink, there)) ∨
      session.Gets refusal ∧
        ((session.sink.opened = true ∧
            session.sink.openWriter session.frames datakeyName multiplier refusal =
              (.ok (datakeyName, fileKey session.sink.path session.sink.payloadSize),
                { session.sink with dataKey := some datakeyName }, session.frames)) ∨
          session.sink.opened = false ∧
            session.sink.openWriter session.frames datakeyName multiplier refusal =
              (.ok (datakeyName, fileKey session.sink.path session.sink.payloadSize),
                { session.sink with state := true, opened := true, dataKey := some datakeyName },
                [])) := by
  rcases ensureOpen_cases sound refusal with
    ⟨opened, same⟩ | ⟨refused, unopened, error, there, same⟩ | ⟨gets, unopened, same⟩
  · refine Or.inr ⟨gets_of_opened opened, Or.inl ⟨opened, ?_⟩⟩
    simp only [Hdf5FrameSink.openWriter, same]
  · refine Or.inl ⟨refused, unopened, error, there, ?_⟩
    simp only [Hdf5FrameSink.openWriter, same]
  · refine Or.inr ⟨gets, Or.inr ⟨unopened, ?_⟩⟩
    simp only [Hdf5FrameSink.openWriter, same]

/-- A frame is taken where the file is had and the worker there; it is refused otherwise, or not
taken by the disk. -/
theorem accept_cases (sound : session.Sound) (payload : List UInt8) (refusal : Hdf5Refusal)
    (append : Option String) :
    (session.sink.opened = false ∧ ∃ error there,
        session.sink.accept session.frames payload refusal append =
          (.error error, session.sink, there)) ∨
      ∃ held there, (session.sink.opened = true ∧ held = session.sink ∧ there = session.frames ∨
          session.sink.opened = false ∧
            held = { session.sink with state := true, opened := true } ∧ there = []) ∧
        ((∃ error, (session.closed = true ∨ append ≠ none) ∧
            session.sink.accept session.frames payload refusal append =
              (.error error, held, there)) ∨
          session.closed = false ∧
            session.sink.accept session.frames payload refusal append =
              (.ok (), { held with counter := held.counter + 1 }, there ++ [payload])) := by
  have channel := sound.channel
  rcases ensureOpen_cases sound refusal with
    ⟨opened, same⟩ | ⟨refused, unopened, error, there, same⟩ | ⟨gets, unopened, same⟩
  · refine Or.inr ⟨_, _, Or.inl ⟨opened, rfl, rfl⟩, ?_⟩
    have state := sound.holds opened
    cases closed : session.closed <;> cases append <;>
      simp [Hdf5FrameSink.accept, same, Hdf5FrameSink.send, channel, closed, state]
  · refine Or.inl ⟨unopened, error, there, ?_⟩
    simp only [Hdf5FrameSink.accept, same]
  · refine Or.inr ⟨_, _, Or.inr ⟨unopened, rfl, rfl⟩, ?_⟩
    cases closed : session.closed <;> cases append <;>
      simp [Hdf5FrameSink.accept, same, Hdf5FrameSink.send, channel, closed]

/-- The documents of a collect for a sink with a data key. -/
theorem collected_cases (uuid : Nat → String) (session : Hdf5Session) (upTo : Nat)
    (descriptor : Uid) (keyed : session.sink.dataKey.isSome = true) :
    ∃ uid,
      Adds session.sink.lastEmitted upTo (fileDatums (session.collected uuid upTo descriptor).1) ∧
        (∀ datum ∈ fileDatums (session.collected uuid upTo descriptor).1,
          datum.streamResource = uid ∧ datum.indices.stop = upTo) ∧
        (session.sink.resourceUid = some uid ∨
          session.Located (session.collected uuid upTo descriptor).1 uid) ∧
        (session.collected uuid upTo descriptor).2.1 =
          { session.sink with resourceUid := some uid, lastEmitted := upTo } := by
  obtain ⟨dataKey, key⟩ := Option.isSome_iff_exists.mp keyed
  refine ⟨session.sink.resourceUid.getD (uuid session.minted), ?_, ?_, ?_, ?_⟩
  · by_cases further : session.sink.lastEmitted < upTo
    · refine Or.inr ⟨further, ?_⟩
      cases named : session.sink.resourceUid <;>
        simp [collected, Hdf5FrameSink.collectStreamDocs, key, further, named, fileDatums]
    · refine Or.inl ⟨Nat.le_of_not_lt further, ?_⟩
      cases named : session.sink.resourceUid <;>
        simp [collected, Hdf5FrameSink.collectStreamDocs, key, further, named, fileDatums]
  · by_cases further : session.sink.lastEmitted < upTo <;>
      cases named : session.sink.resourceUid <;>
        simp [collected, Hdf5FrameSink.collectStreamDocs, key, further, named, fileDatums]
  · cases named : session.sink.resourceUid with
    | some uid => exact Or.inl rfl
    | none =>
        refine Or.inr ⟨dataKey, ?_⟩
        by_cases further : session.sink.lastEmitted < upTo <;>
          simp [collected, Hdf5FrameSink.collectStreamDocs, key, further, named]
  · by_cases further : session.sink.lastEmitted < upTo <;>
      simp [collected, Hdf5FrameSink.collectStreamDocs, key, further]

theorem Located.append {docs : List FileAsset} {uid : String} (located : session.Located docs uid)
    (more : List FileAsset) : session.Located (docs ++ more) uid := by
  obtain ⟨dataKey, member⟩ := located
  exact ⟨dataKey, List.mem_append_left more member⟩

theorem new_sound (name path : String) (payloadSize : Nat) (frames : List (List UInt8)) :
    (new name path payloadSize frames).Sound where
  channel := rfl
  live := (by intros; contradiction)
  holds := (by intros; contradiction)
  unopened _ := rfl
  counted := Nat.zero_le _
  keyed := (by intros; contradiction)
  located := (by intros; contradiction)
  gapless := Gapless.nil

/-- Every call keeps the parts of the sink together. -/
theorem Sound.step (uuid : Nat → String) (session : Hdf5Session) (call : Hdf5Call)
    (next : Hdf5Session) (stepped : session.step uuid call = some next) (sound : session.Sound) :
    next.Sound := by
  cases call with
  | openWriter datakeyName multiplier refusal =>
      cases stepped
      rcases openWriter_cases sound datakeyName multiplier refusal with
        ⟨_, unopened, error, there, same⟩ | ⟨_, ⟨opened, same⟩ | ⟨unopened, same⟩⟩
      · simp only [same]
        have none := sound.unopened unopened
        have live : session.live ≠ true := fun live => by simp [sound.live live] at unopened
        exact
          { sound with
            live := by simpa [Except.isOk, Except.toBool] using sound.live
            counted := by simp [none]
            keyed := by simp [Except.isOk, Except.toBool] }
      · simp only [same]
        exact { sound with live := fun _ => opened, keyed := by simp }
      · simp only [same]
        have none := sound.unopened unopened
        exact
          { sound with
            live := fun _ => rfl
            holds := fun _ => rfl
            unopened := (by intros; contradiction)
            counted := by simp [none]
            keyed := by simp }
  | accept payload refusal append =>
      cases stepped
      rcases accept_cases sound payload refusal append with
        ⟨unopened, error, there, same⟩ |
          ⟨held, there, ⟨opened, rfl, rfl⟩ | ⟨unopened, rfl, rfl⟩, ⟨error, _, same⟩ | ⟨_, same⟩⟩
      · simp only [same]
        have none := sound.unopened unopened
        exact { sound with counted := by simp [none] }
      · simpa only [same] using sound
      · simp only [same]
        exact
          { sound with
            unopened := by simp [opened]
            counted := by simpa using sound.counted }
      · simp only [same]
        have none := sound.unopened unopened
        exact
          { sound with
            live := fun _ => rfl
            holds := fun _ => rfl
            unopened := (by intros; contradiction)
            counted := by simp [none] }
      · simp only [same]
        have none := sound.unopened unopened
        exact
          { sound with
            live := fun _ => rfl
            holds := fun _ => rfl
            unopened := (by intros; contradiction)
            counted := by simp [none] }
  | collect others descriptor =>
      cases prepared : session.multiplier with
      | none =>
          simp only [Hdf5Session.step, prepared, Option.some.injEq] at stepped
          exact stepped ▸ sound
      | some multiplier =>
          simp only [Hdf5Session.step, prepared, Option.some.injEq] at stepped
          subst stepped
          have keyed := sound.keyed (by simp [prepared])
          obtain ⟨uid, adds, -, named, same⟩ :=
            collected_cases uuid session (session.upTo others multiplier) descriptor keyed
          simp only [same]
          refine { sound with keyed := fun _ => keyed, located := ?_, gapless := ?_ }
          · rintro _ ⟨rfl⟩
            rcases named with held | fresh
            · exact Located.append (sound.located uid held) _
            · obtain ⟨dataKey, member⟩ := fresh
              exact ⟨dataKey, List.mem_append_right _ member⟩
          · simp only [emitted, fileDatums_append]
            exact sound.gapless.add adds (Nat.le_max_right ..)
  | close =>
      cases stepped
      exact { sound with channel := rfl, live := (by intros; contradiction) }

/-- An open is what the detector counts on where it respects the sink. -/
theorem opens_iff (sound : session.Sound) {datakeyName : String} {multiplier : Nat}
    {refusal : Hdf5Refusal} :
    session.Opens datakeyName multiplier refusal ↔
      (session.closed = true → refusal = none → session.sink.opened = true) ∧
        (session.Gets refusal →
          0 < session.sink.payloadSize ∧ session.sink.payloadSize = multiplier) := by
  rcases openWriter_cases sound datakeyName multiplier refusal with
    ⟨refused, unopened, error, there, same⟩ | ⟨gets, answered⟩
  · constructor
    · intro opens
      refine ⟨fun closed fine => ?_, fun gets => absurd gets refused⟩
      have reopened := opens.reopens closed fine
      rw [same] at reopened
      cases reopened
    · rintro ⟨reopens, -⟩
      refine ⟨fun closed fine => ?_, fun name key done => ?_⟩
      · rw [reopens closed fine] at unopened
        cases unopened
      · rw [same] at done
        cases done
  · have done : (session.sink.openWriter session.frames datakeyName multiplier refusal).1 =
        .ok (datakeyName, fileKey session.sink.path session.sink.payloadSize) := by
      rcases answered with ⟨_, same⟩ | ⟨_, same⟩ <;> rw [same]
    constructor
    · intro opens
      refine ⟨fun closed fine => ?_, fun _ => fileKey_led.mp (opens.led _ _ done)⟩
      rcases gets with opened | ⟨still, _⟩
      · exact opened
      · rw [closed] at still
        cases still
    · rintro ⟨_, sized⟩
      refine ⟨fun _ _ => by rw [done]; rfl, fun name key answer => ?_⟩
      rw [done] at answer
      cases answer
      exact fileKey_led.mpr (sized gets)

/-- A frame after an open is taken where no close came before. -/
theorem takes_iff (sound : session.Sound) {payload : List UInt8} {refusal : Hdf5Refusal}
    {append : Option String} :
    (session.live = true → refusal = none → append = none →
        (session.sink.accept session.frames payload refusal append).1 = .ok ()) ↔
      (session.live = true → refusal = none → append = none → session.closed = false) := by
  refine imp_congr_right fun live => imp_congr_right fun fine => imp_congr_right fun appended => ?_
  have opened := sound.live live
  rcases accept_cases sound payload refusal append with
    ⟨unopened, _⟩ | ⟨held, there, _, ⟨error, failing, same⟩ | ⟨still, same⟩⟩
  · rw [opened] at unopened
    cases unopened
  · rcases failing with closed | torn
    · simp [same, closed]
    · exact absurd appended torn
  · simp [same, still]

/-- The frames a collect refers to are always there, and it covers the collections of its events
where the furthest index is as many times its own. -/
theorem collects_iff {uuid : Nat → String} (sound : session.Sound) {multiplier others : Nat}
    {descriptor : Uid} (prepared : session.multiplier = some multiplier) :
    session.Collects uuid multiplier (session.upTo others multiplier) descriptor ↔
      max (furthest session.emitted) (session.upTo others multiplier) =
        multiplier * session.upTo others multiplier := by
  have keyed := sound.keyed (by simp [prepared])
  obtain ⟨uid, adds, among, named, -⟩ :=
    collected_cases uuid session (session.upTo others multiplier) descriptor keyed
  have covers : Covered _ (multiplier * session.upTo others multiplier) ↔ _ :=
    sound.gapless.covers_iff adds
  constructor
  · intro collects
    exact covers.mp collects.covers
  · intro reached
    refine ⟨fun datum member => ?_, covers.mpr reached⟩
    obtain ⟨rfl, stop⟩ := among datum member
    refine ⟨?_, ?_⟩
    · rcases named with held | fresh
      · exact Located.append (sound.located _ held) _
      · obtain ⟨dataKey, found⟩ := fresh
        exact ⟨dataKey, List.mem_append_right _ found⟩
    · calc datum.indices.stop = session.upTo others multiplier := stop
        _ ≤ min session.sink.counter others := eventIndex_le ..
        _ ≤ session.sink.counter := Nat.min_le_left ..
        _ ≤ session.frames.length := sound.counted

theorem honours_iff_respects {uuid : Nat → String} (sound : session.Sound) (call : Hdf5Call) :
    Honours uuid session call ↔ session.Respects call := by
  cases call with
  | openWriter datakeyName multiplier refusal => exact opens_iff sound
  | accept payload refusal append => exact takes_iff sound
  | collect others descriptor =>
      exact forall_congr' fun multiplier => imp_congr_right fun prepared =>
        collects_iff sound prepared
  | close => exact Iff.rfl

end

end Hdf5Session

/-! ## The binary sink under a detector -/

/-- A call of the detector on its writer, or a frame for it. -/
inductive BinaryCall where
  | openWriter (datakeyName : String) (multiplier : Nat) (io : OpenIo)
  | accept (payload : List UInt8) (io : AcceptIo)
  | collect (others : Nat) (descriptor : Uid)
  | close (ending : WriteEnd)

/-- A sink and its file, with the multiplier of the last open where it was answered. -/
structure BinarySession where
  recording : Recording
  multiplier : Option Nat

namespace BinarySession

def new (path : String) (payloadSize : Nat) (contents : List UInt8) : BinarySession where
  recording := .new path payloadSize contents
  multiplier := none

variable (session : BinarySession)

/-- What an open answers, with the data key by its name. -/
def answer (datakeyName : String) (io : OpenIo) : Except BsrsError (String × BinaryDataKey) :=
  (session.recording.sink.openWriter session.recording.file datakeyName io).1

/-- The event index of a collect. -/
def upTo (others multiplier : Nat) : Nat :=
  eventIndex (min session.recording.sink.counter others) multiplier

/-- A collect without a prepare does not get to the writer. -/
def step (uuid : Nat → String) (session : BinarySession) : BinaryCall → Option BinarySession
  | .openWriter datakeyName multiplier io =>
      (session.recording.step uuid (.openWriter datakeyName io)).map fun recording =>
        { recording
          multiplier := if (session.answer datakeyName io).isOk then some multiplier else none }
  | .accept payload io =>
      (session.recording.step uuid (.accept payload io)).map fun recording =>
        { session with recording }
  | .collect others descriptor =>
      match session.multiplier with
      | none => some session
      | some multiplier =>
          (session.recording.step uuid (.collect (session.upTo others multiplier) descriptor)).map
            fun recording => { session with recording }
  | .close ending =>
      (session.recording.step uuid (.close ending)).map fun recording => { session with recording }

/-- The data key of an open is led by the multiplier, and the datums of a collect cover, with those
before, the collections of the events collected. -/
def Honours (uuid : Nat → String) (session : BinarySession) : BinaryCall → Prop
  | .openWriter datakeyName multiplier io => ∀ name key,
      session.answer datakeyName io = .ok (name, key) → key.shape.head? = some (some multiplier)
  | .collect others descriptor => ∀ multiplier, session.multiplier = some multiplier →
      Covered
        (session.recording.emitted ++ datums
          (session.recording.collected uuid (session.upTo others multiplier) descriptor).1)
        (multiplier * session.upTo others multiplier)
  | .accept .. | .close _ => True

/-- An open that gets its file. -/
def Gets (io : OpenIo) : Prop :=
  session.recording.sink.file = true ∨ io.refusal = none ∧ io.magic = .whole

/-- A multiplier is the payload size, and the furthest index of the collects is as many times the
last one. -/
def Respects (session : BinarySession) : BinaryCall → Prop
  | .openWriter _ multiplier io => session.Gets io →
      0 < session.recording.sink.payloadSize ∧ session.recording.sink.payloadSize = multiplier
  | .collect others _ => ∀ multiplier, session.multiplier = some multiplier →
      max (furthest session.recording.emitted) (session.upTo others multiplier) =
        multiplier * session.upTo others multiplier
  | .accept .. | .close _ => True

/-- An answered open left a data key, and the datums leave no gap. -/
structure Sound (session : BinarySession) : Prop where
  keyed : session.multiplier.isSome = true → session.recording.sink.dataKey.isSome = true
  gapless : Gapless session.recording.emitted session.recording.sink.lastEmitted

variable {session}

/-- An open is answered exactly where it gets its file, and leaves all but the file and the data key
of the sink. -/
theorem openWriter_cases (session : BinarySession) (datakeyName : String) (io : OpenIo) :
    (¬ session.Gets io ∧ (∃ error, session.answer datakeyName io = .error error) ∧
        (session.recording.sink.openWriter session.recording.file datakeyName io).2.1 =
          session.recording.sink) ∨
      session.Gets io ∧
        session.answer datakeyName io = .ok (datakeyName,
          fileKey session.recording.sink.path session.recording.sink.payloadSize) ∧
        (session.recording.sink.openWriter session.recording.file datakeyName io).2.1 =
          { session.recording.sink with file := true, dataKey := some datakeyName } := by
  cases file : session.recording.sink.file with
  | true =>
      refine Or.inr ⟨Or.inl file, ?_, ?_⟩
      · simp only [answer, BinaryFrameSink.openWriter, BinaryFrameSink.ensureOpen, file, if_true]
        rfl
      · simp [BinaryFrameSink.openWriter, BinaryFrameSink.ensureOpen, file]
  | false =>
      cases refusal : io.refusal with
      | some reason =>
          refine Or.inl ⟨by simp [Gets, file, refusal],
            ⟨.backend s!"binary sink open: {reason}", ?_⟩, ?_⟩
          · simp [answer, BinaryFrameSink.openWriter, BinaryFrameSink.ensureOpen, file, refusal]
          · simp [BinaryFrameSink.openWriter, BinaryFrameSink.ensureOpen, file, refusal]
      | none =>
          cases magic : io.magic with
          | torn written reason =>
              refine Or.inl ⟨by simp [Gets, file, magic],
                ⟨.backend s!"binary sink write magic: {reason}", ?_⟩, ?_⟩
              · simp [answer, BinaryFrameSink.openWriter, BinaryFrameSink.ensureOpen, file, refusal,
                  magic]
              · simp [BinaryFrameSink.openWriter, BinaryFrameSink.ensureOpen, file, refusal, magic]
          | whole =>
              refine Or.inr ⟨Or.inr ⟨refusal, magic⟩, ?_, ?_⟩
              · simp only [answer, BinaryFrameSink.openWriter, BinaryFrameSink.ensureOpen, file,
                  refusal, magic]
                rfl
              · simp [BinaryFrameSink.openWriter, BinaryFrameSink.ensureOpen, file, refusal, magic]

/-- An `accept` leaves the data key and the cursor of the sink. -/
theorem accept_keeps (sink : BinaryFrameSink) (file : AsyncFile) (payload : List UInt8)
    (io : AcceptIo) :
    (sink.accept file payload io).2.1.dataKey = sink.dataKey ∧
      (sink.accept file payload io).2.1.lastEmitted = sink.lastEmitted := by
  cases opened : sink.ensureOpen file io.toOpenIo with
  | mk done rest =>
      obtain ⟨held, there⟩ := rest
      have kept : held.dataKey = sink.dataKey ∧ held.lastEmitted = sink.lastEmitted := by
        have same : held = (sink.ensureOpen file io.toOpenIo).2.1 := by rw [opened]
        rw [same]
        unfold BinaryFrameSink.ensureOpen
        (repeat' split) <;> exact ⟨rfl, rfl⟩
      cases done with
      | error error => simpa [BinaryFrameSink.accept, opened] using kept
      | ok done =>
          simp only [BinaryFrameSink.accept, opened]
          (repeat' split) <;> exact kept

/-- The documents of a collect for a sink with a data key. -/
theorem collected_adds (uuid : Nat → String) {recording : Recording} (upTo : Nat) (descriptor : Uid)
    (keyed : recording.sink.dataKey.isSome = true) :
    Adds recording.sink.lastEmitted upTo (datums (recording.collected uuid upTo descriptor).1) ∧
      (recording.collected uuid upTo descriptor).2.1.dataKey = recording.sink.dataKey ∧
      (recording.collected uuid upTo descriptor).2.1.lastEmitted =
        max recording.sink.lastEmitted upTo := by
  obtain ⟨dataKey, key⟩ := Option.isSome_iff_exists.mp keyed
  by_cases further : recording.sink.lastEmitted < upTo
  · refine ⟨Or.inr ⟨further, ?_⟩, ?_, ?_⟩
    · cases named : recording.sink.resourceUid <;>
        simp [Recording.collected, BinaryFrameSink.collectStreamDocs, key, further, named, datums]
    · simp [Recording.collected, BinaryFrameSink.collectStreamDocs, key, further]
    · simp [Recording.collected, BinaryFrameSink.collectStreamDocs, key, further,
        Nat.max_eq_right (Nat.le_of_lt further)]
  · have behind := Nat.le_of_not_lt further
    refine ⟨Or.inl ⟨behind, ?_⟩, ?_, ?_⟩
    · cases named : recording.sink.resourceUid <;>
        simp [Recording.collected, BinaryFrameSink.collectStreamDocs, key, further, named, datums]
    · simp [Recording.collected, BinaryFrameSink.collectStreamDocs, key, further]
    · simp [Recording.collected, BinaryFrameSink.collectStreamDocs, key, further,
        Nat.max_eq_left behind]

theorem new_sound (path : String) (payloadSize : Nat) (contents : List UInt8) :
    (new path payloadSize contents).Sound :=
  ⟨(by intros; contradiction), Gapless.nil⟩

theorem Sound.step (uuid : Nat → String) (session : BinarySession) (call : BinaryCall)
    (next : BinarySession) (stepped : session.step uuid call = some next)
    (sound : session.Sound) : next.Sound := by
  cases call with
  | openWriter datakeyName multiplier io =>
      cases stepped
      rcases openWriter_cases session datakeyName io with
        ⟨_, ⟨error, refused⟩, same⟩ | ⟨_, answered, same⟩
      · refine ⟨?_, ?_⟩
        · simp [refused, Except.isOk, Except.toBool]
        · simp only [same]
          exact sound.gapless
      · refine ⟨?_, ?_⟩
        · simp [same]
        · simp only [same]
          exact sound.gapless
  | accept payload io =>
      cases stepped
      obtain ⟨key, cursor⟩ :=
        accept_keeps session.recording.sink session.recording.file payload io
      exact ⟨fun prepared => by simpa only [key] using sound.keyed prepared,
        by simpa only [cursor] using sound.gapless⟩
  | collect others descriptor =>
      cases prepared : session.multiplier with
      | none =>
          simp only [BinarySession.step, prepared, Option.some.injEq] at stepped
          exact stepped ▸ sound
      | some multiplier =>
          simp only [BinarySession.step, prepared] at stepped
          cases stepped
          have keyed := sound.keyed (by simp [prepared])
          obtain ⟨adds, key, cursor⟩ :=
            collected_adds uuid (session.upTo others multiplier) descriptor keyed
          refine ⟨fun _ => by simpa only [key] using keyed, ?_⟩
          simp only [cursor]
          exact sound.gapless.add adds (Nat.le_refl _)
  | close ending =>
      cases stepped
      unfold BinaryFrameSink.close
      (repeat' split) <;> exact ⟨sound.keyed, sound.gapless⟩

theorem honours_iff_respects {uuid : Nat → String} (sound : session.Sound) (call : BinaryCall) :
    Honours uuid session call ↔ session.Respects call := by
  cases call with
  | openWriter datakeyName multiplier io =>
      rcases openWriter_cases session datakeyName io with
        ⟨refused, ⟨error, answered⟩, -⟩ | ⟨gets, answered, -⟩
      · refine iff_of_true ?_ fun gets => absurd gets refused
        intro name key done
        rw [answered] at done
        cases done
      · constructor
        · intro honours _
          exact fileKey_led.mp (honours _ _ answered)
        · intro respects name key done
          rw [answered] at done
          cases done
          exact fileKey_led.mpr (respects gets)
  | collect others descriptor =>
      refine forall_congr' fun multiplier => imp_congr_right fun prepared => ?_
      have keyed := sound.keyed (by simp [prepared])
      exact sound.gapless.covers_iff
        (collected_adds uuid (session.upTo others multiplier) descriptor keyed).1
  | accept payload io => exact Iff.rfl
  | close ending => exact Iff.rfl

end BinarySession

/-- Over all calls, each is what a detector counts on exactly where it respects the sink: the HDF5
one is not used again after it was closed, the multiplier is the payload size, and the furthest
index of the collects is as many times the last one. -/
theorem writers_honour_protocol (uuid : Nat → String) (payloadSize : Nat) (path : String) :
    (∀ name frames calls,
      Throughout (Hdf5Session.step uuid) (Hdf5Session.Honours uuid)
          (.new name path payloadSize frames) calls ↔
        Throughout (Hdf5Session.step uuid) Hdf5Session.Respects
          (.new name path payloadSize frames) calls) ∧
      ∀ contents calls,
        Throughout (BinarySession.step uuid) (BinarySession.Honours uuid)
            (.new path payloadSize contents) calls ↔
          Throughout (BinarySession.step uuid) BinarySession.Respects
            (.new path payloadSize contents) calls := by
  constructor
  · intro name frames calls
    exact Throughout.congr_invariant Hdf5Session.Sound (Hdf5Session.Sound.step uuid)
      (fun session call sound => Hdf5Session.honours_iff_respects sound call)
      (Hdf5Session.new_sound name path payloadSize frames)
  · intro contents calls
    exact Throughout.congr_invariant BinarySession.Sound (BinarySession.Sound.step uuid)
      (fun session call sound => BinarySession.honours_iff_respects sound call)
      (BinarySession.new_sound path payloadSize contents)

/-- An HDF5 sink that a stage closed before its first open is not opened any more, nor takes a frame
where it was opened before; and one frame of the two of an event is covered by the datum for it. -/
theorem writers_break_protocol :
    ¬ Throughout (Hdf5Session.step Recording.plainUuid) (Hdf5Session.Honours Recording.plainUuid)
        (.new "det" "/data/det.h5" 1 []) [.close, .openWriter "det" 1 none] ∧
      ¬ Throughout (Hdf5Session.step Recording.plainUuid) (Hdf5Session.Honours Recording.plainUuid)
        (.new "det" "/data/det.h5" 1 [])
        [.openWriter "det" 1 none, .close, .openWriter "det" 1 none, .accept [10] none none] ∧
      ¬ Throughout (Hdf5Session.step Recording.plainUuid) (Hdf5Session.Honours Recording.plainUuid)
        (.new "det" "/data/det.h5" 4 []) [.openWriter "det" 1 none] ∧
      ¬ Throughout (BinarySession.step Recording.plainUuid) (BinarySession.Honours Recording.plainUuid)
        (.new "/data/frames" 2 [])
        [.openWriter "det" 2 Recording.works.toOpenIo, .accept [10, 11] Recording.works,
          .accept [12, 13] Recording.works, .collect 2 0] := by
  refine ⟨fun honours => ?_, fun honours => ?_, fun honours => ?_, fun honours => ?_⟩
  · have reopened := (honours.2 _ rfl).1.reopens rfl rfl
    cases reopened
  · have taken := ((((honours.2 _ rfl).2 _ rfl).2 _ rfl).1) rfl rfl rfl
    cases taken
  · have led := honours.1.led _ _ rfl
    cases led
  · have covered := (((honours.2 _ rfl).2 _ rfl).2 _ rfl).1 2 rfl
    have second := (covered 1).mpr (by decide +kernel)
    exact absurd second (by decide +kernel)

end Bsrs.Stream
