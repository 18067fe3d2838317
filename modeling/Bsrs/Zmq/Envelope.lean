import Bsrs.Engine.ScanId
import Bsrs.Zmq.Documents

namespace Bsrs.Zmq

open Bsrs.Core (BsrsError Json)
open Bsrs.Library (Table)
open Bsrs.Serde

/-- A body serializer, `serde_json` or `rmp_serde`, by the value tree it writes and parses. -/
structure Serializer where
  label : String
  write : Json → List UInt8
  read : List UInt8 → Except String Json

/-- `document_name`. -/
def documentName : Document → String
  | .start _ => "start"
  | .descriptor _ => "descriptor"
  | .event _ => "event"
  | .eventPage _ => "event_page"
  | .resource _ => "resource"
  | .datum _ => "datum"
  | .datumPage _ => "datum_page"
  | .streamResource _ => "stream_resource"
  | .streamDatum _ => "stream_datum"
  | .stop _ => "stop"

/-- `encode_inner`: the raw inner document, without the tag. -/
def encodeInner : Document → Json
  | .start doc => RunStart.shape.writeFlat doc.toRunStartFields doc.extra
  | .descriptor doc => Wire.encode doc
  | .event doc => Wire.encode doc
  | .eventPage doc => Wire.encode doc
  | .resource doc => Wire.encode doc
  | .datum doc => Wire.encode doc
  | .datumPage doc => Wire.encode doc
  | .streamResource doc => Wire.encode doc
  | .streamDatum doc => Wire.encode doc
  | .stop doc => RunStop.shape.writeFlat doc.toRunStopFields doc.extra

/-- The literal separator `b' '`. -/
def blank : UInt8 := 32

/-- `ZmqDocumentSink`, as its constructors and `with_prefix` leave it. -/
structure ZmqDocumentSink where
  prefixBytes : List UInt8
  serializer : Serializer
  unspaced : blank ∉ prefixBytes

def ZmqDocumentSink.withPrefix (sink : ZmqDocumentSink) (prefixBytes : List UInt8) :
    Except BsrsError ZmqDocumentSink :=
  if unspaced : blank ∉ prefixBytes then .ok { sink with prefixBytes, unspaced }
  else .error (.other "ZmqDocumentSink prefix must not contain b' '")

/-- `build_envelope`: `<prefix> <name> <body>`. -/
def ZmqDocumentSink.buildEnvelope (sink : ZmqDocumentSink) (doc : Document) : List UInt8 :=
  sink.prefixBytes ++ blank :: ((documentName doc).toUTF8.data.toList ++
    blank :: sink.serializer.write (encodeInner doc))

/-- What stands before the first separator, and what follows it. -/
def splitBlank (bytes : List UInt8) : Option (List UInt8 × List UInt8) :=
  match bytes with
  | [] => none
  | byte :: rest =>
      if byte = blank then some ([], rest)
      else (splitBlank rest).map fun (before, after) => (byte :: before, after)

def decodeStart (json : Json) : Except String RunStart :=
  (RunStart.shape.readFlat "RunStart" json).map fun (fields, extra) => { fields with extra }

def decodeStop (json : Json) : Except String RunStop :=
  (RunStop.shape.readFlat "RunStop" json).map fun (fields, extra) => { fields with extra }

/-- The variant the envelope's name picks, read from the parsed body. -/
def decodeNamed (name : String) (value : Json) : Except BsrsError Document :=
  match name with
  | "start" => named ((decodeStart value).map .start)
  | "descriptor" => named ((Wire.decode value).map .descriptor)
  | "event" => named ((Wire.decode value).map .event)
  | "event_page" => named ((Wire.decode value).map .eventPage)
  | "resource" => named ((Wire.decode value).map .resource)
  | "datum" => named ((Wire.decode value).map .datum)
  | "datum_page" => named ((Wire.decode value).map .datumPage)
  | "stream_resource" => named ((Wire.decode value).map .streamResource)
  | "stream_datum" => named ((Wire.decode value).map .streamDatum)
  | "stop" => named ((decodeStop value).map .stop)
  | other => .error (.backend s!"zmq envelope: unknown doc name {other.quote}")
where
  named (result : Except String Document) : Except BsrsError Document :=
    result.mapError fun error => .backend s!"zmq decode {name}: {error}"

/-- `decode_envelope`; the text of a failed UTF-8 check is not followed. -/
def decodeEnvelope (serializer : Serializer) (raw : List UInt8) : Except BsrsError Document :=
  match splitBlank raw with
  | none => .error (.backend "zmq envelope: no prefix separator")
  | some (_, afterPrefix) =>
      match splitBlank afterPrefix with
      | none => .error (.backend "zmq envelope: no name separator")
      | some (nameBytes, body) =>
          match String.fromUTF8? ⟨nameBytes.toArray⟩ with
          | none => .error (.backend "zmq envelope name not utf8")
          | some name =>
              match serializer.read body with
              | .error error => .error (.backend s!"zmq {serializer.label} decode: {error}")
              | .ok value => decodeNamed name value

/-- Decoding what the sink built yields an equal document of the same name. -/
def ZmqDocumentSink.RoundTrips (sink : ZmqDocumentSink) (doc : Document) : Prop :=
  ∃ back, decodeEnvelope sink.serializer (sink.buildEnvelope doc) = .ok back ∧
    back = doc ∧ documentName back = documentName doc

/-- No key of a flattened map is one its record declares, and no `Option<Value>` of these
records holds `null`. -/
def Document.Apart : Document → Prop
  | .start doc =>
      (∀ key ∈ ["uid", "time", "scan_id", "hints", "sample", "data_groups", "data_session",
        "data_type", "group", "owner", "project", "projections"], key ∉ doc.extra) ∧
      (∀ value ∈ doc.sample, value.json ≠ .null) ∧ ∀ value ∈ doc.dataType, value.json ≠ .null
  | .stop doc =>
      (∀ key ∈ ["uid", "run_start", "time", "exit_status", "reason", "num_events", "data_type"],
        key ∉ doc.extra) ∧
      ∀ value ∈ doc.dataType, value.json ≠ .null
  | _ => True

/-! ## The envelope -/

theorem splitBlank_append (unspaced : blank ∉ before) :
    splitBlank (before ++ blank :: after) = some (before, after) := by
  induction before with
  | nil => rfl
  | cons byte rest ih =>
      rw [List.mem_cons, not_or] at unspaced
      rw [List.cons_append, splitBlank, if_neg (Ne.symm unspaced.1), ih unspaced.2]
      rfl

theorem documentName_unspaced (doc : Document) :
    blank ∉ (documentName doc).toUTF8.data.toList := by
  cases doc <;> simp only [documentName] <;> decide +kernel

theorem fromUTF8_toUTF8 (text : String) :
    String.fromUTF8? ⟨text.toUTF8.data.toList.toArray⟩ = some text := by
  have valid : (⟨text.toUTF8.data.toList.toArray⟩ : ByteArray).IsValidUTF8 := text.isValidUTF8
  rw [String.fromUTF8?, dif_pos valid]
  rfl

theorem decodeEnvelope_buildEnvelope (sink : ZmqDocumentSink) (doc : Document)
    (parsed : sink.serializer.read (sink.serializer.write (encodeInner doc)) = .ok value) :
    decodeEnvelope sink.serializer (sink.buildEnvelope doc) =
      decodeNamed (documentName doc) value := by
  simp only [decodeEnvelope, ZmqDocumentSink.buildEnvelope, splitBlank_append sink.unspaced,
    splitBlank_append (documentName_unspaced doc), fromUTF8_toUTF8, parsed]

/-! ## The body -/

theorem RunStart.fits_iff (doc : RunStart) :
    RunStart.shape.FitsFlat doc.toRunStartFields doc.extra ↔ (Document.start doc).Apart := by
  simp only [Shape.FitsFlat, RunStart.shape, Shape.fits_record, Shape.fits_beside,
    Shape.fits_required, Shape.fits_skipNone, Shape.fits_skipEmpty, Shape.fits_skipNoneValue,
    true_and, and_true]
  exact and_comm

theorem RunStop.fits_iff (doc : RunStop) :
    RunStop.shape.FitsFlat doc.toRunStopFields doc.extra ↔ (Document.stop doc).Apart := by
  simp only [Shape.FitsFlat, RunStop.shape, Shape.fits_record, Shape.fits_beside,
    Shape.fits_required, Shape.fits_skipNone, Shape.fits_skipEmpty, Shape.fits_skipNoneValue,
    true_and]
  exact and_comm

theorem encodeInner_distinct (apart : doc.Apart) : (encodeInner doc).isDistinct = true := by
  cases doc with
  | start doc => exact Shape.writeFlat_distinct (doc.fits_iff.mpr apart)
  | stop doc => exact Shape.writeFlat_distinct (doc.fits_iff.mpr apart)
  | _ => exact Wire.distinct _

theorem decodeNamed_encodeInner (apart : doc.Apart) :
    decodeNamed (documentName doc) (encodeInner doc) = .ok doc := by
  cases doc with
  | start doc =>
      simp only [decodeNamed, documentName, encodeInner, decodeStart,
        Shape.readFlat_writeFlat (doc.fits_iff.mpr apart)]
      rfl
  | stop doc =>
      simp only [decodeNamed, documentName, encodeInner, decodeStop,
        Shape.readFlat_writeFlat (doc.fits_iff.mpr apart)]
      rfl
  | _ =>
      simp only [decodeNamed, documentName, encodeInner, Wire.decodes]
      rfl

theorem map_ok {result : Except String α} {make : α → β} (ok : result.map make = .ok made) :
    ∃ value, result = .ok value ∧ make value = made := by
  cases result with
  | error _ => cases ok
  | ok value => exact ⟨value, rfl, Except.ok.inj ok⟩

theorem named_ok (ok : decodeNamed.named name result = .ok back) : result = .ok back := by
  cases result with
  | error _ => cases ok
  | ok doc => exact congrArg _ (Except.ok.inj ok)

theorem decodeStart_apart (decoded : decodeStart value = .ok doc) :
    (Document.start doc).Apart := by
  obtain ⟨⟨fields, extra⟩, read, rfl⟩ := map_ok decoded
  exact (RunStart.fits_iff _).mp (Shape.readFlat_fits read)

theorem decodeStop_apart (decoded : decodeStop value = .ok doc) : (Document.stop doc).Apart := by
  obtain ⟨⟨fields, extra⟩, read, rfl⟩ := map_ok decoded
  exact (RunStop.fits_iff _).mp (Shape.readFlat_fits read)

/-- No document decoded is one that would not come back. -/
theorem decodeNamed_apart (decoded : decodeNamed name value = .ok back) : back.Apart := by
  unfold decodeNamed at decoded
  split at decoded
  case h_1 =>
    obtain ⟨doc, read, rfl⟩ := map_ok (named_ok decoded)
    exact decodeStart_apart read
  case h_10 =>
    obtain ⟨doc, read, rfl⟩ := map_ok (named_ok decoded)
    exact decodeStop_apart read
  case h_11 => cases decoded
  all_goals
    obtain ⟨doc, -, rfl⟩ := map_ok (named_ok decoded)
    trivial

theorem decodeEnvelope_apart (decoded : decodeEnvelope serializer raw = .ok back) :
    back.Apart := by
  unfold decodeEnvelope at decoded
  split at decoded
  · cases decoded
  split at decoded
  · cases decoded
  split at decoded
  · cases decoded
  split at decoded
  · cases decoded
  · exact decodeNamed_apart decoded

/-! ## The round trip -/

/-- The serializers are faithful on bodies whose keys are distinct; a document then crosses the
wire unchanged exactly when its flattened map keeps apart from its declared fields. -/
theorem wire_round_trip (sink : ZmqDocumentSink) (doc : Document)
    (faithful : (encodeInner doc).isDistinct = true →
      sink.serializer.read (sink.serializer.write (encodeInner doc)) = .ok (encodeInner doc)) :
    sink.RoundTrips doc ↔ doc.Apart := by
  constructor
  · rintro ⟨back, decoded, rfl, -⟩
    exact decodeEnvelope_apart decoded
  · intro apart
    have parsed := faithful (encodeInner_distinct apart)
    have decoded := decodeNamed_encodeInner apart
    rw [← decodeEnvelope_buildEnvelope sink doc parsed] at decoded
    exact ⟨doc, decoded, rfl, rfl⟩

/-! ## The start of a bare run -/

/-- What `serde_json` does on one document: the text it writes, and the value it reads there. -/
def Serializer.json (text : String) (parsed : Json) : Serializer where
  label := "json"
  write _ := text.toUTF8.data.toList
  read bytes :=
    if bytes = text.toUTF8.data.toList then .ok parsed
    else .error "expected value at line 1 column 1"

theorem Serializer.json_faithful (text : String) (parsed body : Json) :
    (Serializer.json text parsed).read ((Serializer.json text parsed).write body) =
      .ok parsed := by
  simp [Serializer.json]

/-- The RunStart of a bare run, and what its flattened map holds. -/
def bareStart (extra : Table String Value) : Document :=
  .start
    { uid := "run-1", time := ⟨"1.5"⟩, scanId := some 1, hints := none, sample := none
      dataGroups := [], dataSession := "", dataType := none, group := "", owner := "", project := ""
      projections := [], extra }

theorem isDistinct_string (text : String) : (Json.string text).isDistinct = true := rfl

theorem isDistinct_number (number : Core.Number) : (Json.number number).isDistinct = true := rfl

def textValue (text : String) : Value where
  json := .string text
  distinct := isDistinct_string text

def wholeValue (value : Nat) : Value where
  json := .number (.int value)
  distinct := isDistinct_number _

theorem wire_round_trip_plain :
    let doc := bareStart (AList.singleton "operator" (textValue "alice"))
    let text := "\x7b\"uid\":\"run-1\",\"time\":1.5,\"scan_id\":1,\"operator\":\"alice\"\x7d"
    let sink : ZmqDocumentSink := ⟨[], .json text (encodeInner doc), List.not_mem_nil⟩
    sink.RoundTrips doc := by
  intro doc text sink
  have faithful := Serializer.json_faithful text (encodeInner doc) (encodeInner doc)
  refine (wire_round_trip sink doc fun _ => faithful).mpr ⟨?_, nofun, nofun⟩
  decide +kernel

/-- The first run of an engine with no hook: `scan_id` is declared and in the map too, the parser
keeps one of the two, and the map comes back without it. -/
theorem start_scan_id_lost :
    let doc := bareStart ((AList.singleton "plan_type" (textValue "generator")).insert "scan_id"
      (wholeValue 1))
    let text := "\x7b\"uid\":\"run-1\",\"time\":1.5,\"scan_id\":1,\"scan_id\":1," ++
      "\"plan_type\":\"generator\"\x7d"
    let parsed := Json.object [("uid", .string "run-1"), ("time", .number (.float "1.5")),
      ("scan_id", .number (.int 1)), ("plan_type", .string "generator")]
    let sink : ZmqDocumentSink := ⟨[], .json text parsed, List.not_mem_nil⟩
    ((decodeEnvelope sink.serializer (sink.buildEnvelope doc)).toOption.bind fun back =>
        match back with
        | .start back => some (back.scanId, back.extra.keys)
        | _ => none) = some (some 1, ["plan_type"]) ∧
      ¬ sink.RoundTrips doc := by
  intro doc text parsed sink
  refine ⟨by decide +kernel, ?_⟩
  rintro ⟨back, decoded, rfl, -⟩
  have absent := (decodeEnvelope_apart decoded).1 "scan_id" (by decide)
  exact absent (by decide +kernel)

end Bsrs.Zmq
