import Bsrs.Library.Lines

/-! The crash journal on disk: the store that appends checkpoint records to it, the readers of
its tail, and a daemon that dies and restarts on the same path. File system calls succeed. -/

namespace Bsrs.Host

open Library

structure CheckpointRecord where
  timestampNs : Nat
  runUid : Option String
  bsrsVersion : String
  exitStatus : Option String
  deriving Repr, DecidableEq

structure CheckpointSnapshot where
  timestampNs : Nat
  runUid : Option String
  exitStatus : Option String
  deriving Repr, DecidableEq

def midRunAppendIntervalNs : Nat := 1000000000

def tailScanBytes : Nat := 64 * 1024

def defaultMaxBytes : Nat := 4 * 1024 * 1024

def cargoPkgVersion : String := "0.6.0"

/-- How a record is written as a line and read back from one. -/
structure RecordCodec where
  encode : CheckpointRecord → List UInt8
  decode : List UInt8 → Option CheckpointRecord

/-- A line that trims to nothing. -/
def isBlank (line : List UInt8) : Bool :=
  line.all fun byte => byte = 32 || (9 ≤ byte && byte ≤ 13)

/-- The record's text is one visible line, reads back, and does not read when cut short. -/
structure RecordCodec.Faithful (codec : RecordCodec) (record : CheckpointRecord) : Prop where
  roundTrip : codec.decode (codec.encode record) = some record
  oneLine : Unbroken (codec.encode record)
  visible : isBlank (codec.encode record) = false
  cutShort : ∀ count < (codec.encode record).length,
    codec.decode ((codec.encode record).take count) = none

instance (codec : RecordCodec) (record : CheckpointRecord) : Decidable (codec.Faithful record) :=
  decidable_of_iff
    (codec.decode (codec.encode record) = some record ∧ Unbroken (codec.encode record) ∧
      isBlank (codec.encode record) = false ∧ ∀ count < (codec.encode record).length,
        codec.decode ((codec.encode record).take count) = none)
    ⟨fun all => ⟨all.1, all.2.1, all.2.2.1, all.2.2.2⟩,
      fun faithful => ⟨faithful.1, faithful.2, faithful.3, faithful.4⟩⟩

/-- The journal's two files; `none` is a file that is not there. -/
structure Disk where
  current : Option (List UInt8)
  backup : Option (List UInt8)
  deriving Repr, DecidableEq

/-- What reaches the disk, in program order. -/
inductive DiskOp where
  | openAppend
  | rename
  | put (byte : UInt8)
  deriving Repr, DecidableEq

def Disk.apply (disk : Disk) : DiskOp → Disk
  | .openAppend => { disk with current := some (disk.current.getD []) }
  | .rename => { current := none, backup := disk.current }
  | .put byte => { disk with current := disk.current.map (· ++ [byte]) }

def Disk.run (disk : Disk) (ops : List DiskOp) : Disk :=
  ops.foldl Disk.apply disk

/-- The open write handle, if any, and the byte count of the file behind it. -/
structure Writer where
  file : Bool
  bytes : Nat
  deriving Repr, DecidableEq

structure JsonlCheckpointStore where
  maxBytes : Nat
  writer : Writer
  lastMidRun : Option (Option String × Nat)
  deriving Repr, DecidableEq

def JsonlCheckpointStore.withMaxBytes (maxBytes : Nat) : JsonlCheckpointStore :=
  { maxBytes := max maxBytes 1, writer := { file := false, bytes := 0 }, lastMidRun := none }

def ensureOpen (writer : Writer) (disk : Disk) : Writer × List DiskOp :=
  if writer.file then (writer, [])
  else ({ file := true, bytes := (disk.current.getD []).length }, [.openAppend])

def rotate : Writer × List DiskOp :=
  ({ file := false, bytes := 0 }, [.rename])

/-- `append`: the record's line, after a rotation of a file that has reached the threshold. -/
def JsonlCheckpointStore.append (codec : RecordCodec) (store : JsonlCheckpointStore) (disk : Disk)
    (record : CheckpointRecord) : JsonlCheckpointStore × List DiskOp :=
  let line := codec.encode record
  let (writer, opened) := ensureOpen store.writer disk
  let (writer, turned) :=
    if writer.bytes ≥ store.maxBytes then
      let (writer, renamed) := rotate
      let (writer, reopened) := ensureOpen writer ((disk.run opened).run renamed)
      (writer, renamed ++ reopened)
    else (writer, [])
  ({ store with writer := { writer with bytes := writer.bytes + line.length + 1 } },
    opened ++ turned ++ (line ++ [newline]).map .put)

def recordOf (snap : CheckpointSnapshot) : CheckpointRecord :=
  { timestampNs := snap.timestampNs
    runUid := snap.runUid
    bsrsVersion := cargoPkgVersion
    exitStatus := snap.exitStatus }

/-- Whether a mid-run snapshot is dropped for the one appended before it. -/
def coalesced (last : Option (Option String × Nat)) (snap : CheckpointSnapshot) : Bool :=
  match last with
  | some (uid, ts) => uid = snap.runUid && snap.timestampNs - ts < midRunAppendIntervalNs
  | none => false

/-- The closure `into_hook` makes, called on one snapshot. -/
def JsonlCheckpointStore.hook (codec : RecordCodec) (store : JsonlCheckpointStore) (disk : Disk)
    (snap : CheckpointSnapshot) : JsonlCheckpointStore × List DiskOp :=
  if snap.exitStatus.isNone then
    if coalesced store.lastMidRun snap then (store, [])
    else
      { store with lastMidRun := some (snap.runUid, snap.timestampNs) }.append codec disk
        (recordOf snap)
  else { store with lastMidRun := none }.append codec disk (recordOf snap)

def readTail (file : List UInt8) (maxBytes : Nat) : List UInt8 :=
  lastBytes maxBytes file

def tailRecord (codec : RecordCodec) (file : Option (List UInt8)) : Option CheckpointRecord := do
  let text ← file
  ((lines (readTail text tailScanBytes)).reverse.filter (!isBlank ·)).findSome? codec.decode

def latest (codec : RecordCodec) (disk : Disk) : Option CheckpointRecord :=
  (tailRecord codec disk.current).or (tailRecord codec disk.backup)

def unfinishedRun (codec : RecordCodec) (disk : Disk) : Option CheckpointRecord :=
  (latest codec disk).filter fun record => record.exitStatus.isNone && record.runUid.isSome

/-- A record that was handed to the disk, and whether all of its text got there. -/
structure Written where
  record : CheckpointRecord
  whole : Bool
  deriving Repr, DecidableEq

/-- One run of a daemon's history, its records newest first. -/
structure RunLog where
  uid : String
  records : List Written
  deriving Repr, DecidableEq

/-- The runs with one more record of the run `uid`, which begins there if it is new. -/
def note (uid : String) (entry : Option Written) : List RunLog → List RunLog
  | [] => [{ uid := uid, records := entry.toList }]
  | run :: earlier =>
      if run.uid = uid then { run with records := entry.toList ++ run.records } :: earlier
      else { uid := uid, records := entry.toList } :: run :: earlier

/-- A daemon on its journal: the process's store and open run, and the runs so far, newest first. -/
structure Daemon where
  store : JsonlCheckpointStore
  disk : Disk
  running : Option String
  runs : List RunLog
  deriving Repr, DecidableEq

def Daemon.boot (maxBytes : Nat) : Daemon :=
  { store := .withMaxBytes maxBytes, disk := { current := none, backup := none }
    running := none, runs := [] }

/-- One hook call, which returns or dies after some operations on the disk, or a death between
two calls. A death is followed by a new process on the same path. -/
inductive Act where
  | call (snap : CheckpointSnapshot) (dies : Option Nat)
  | restart
  deriving Repr, DecidableEq

/-- Serialized runs: a call is of the run that is open, or the first checkpoint of a new one. -/
def Daemon.admits (daemon : Daemon) (uid : String) (snap : CheckpointSnapshot) : Bool :=
  match daemon.running with
  | some current => uid = current
  | none => snap.exitStatus.isNone && daemon.runs.all (·.uid ≠ uid)

/-- What a call does to the disk until it returns or dies. -/
def Daemon.performed (codec : RecordCodec) (daemon : Daemon) (snap : CheckpointSnapshot)
    (dies : Option Nat) : List DiskOp :=
  let ops := (daemon.store.hook codec daemon.disk snap).2
  match dies with
  | none => ops
  | some count => ops.take count

def putCount (ops : List DiskOp) : Nat :=
  ops.countP fun op => match op with | .put _ => true | _ => false

/-- The record a call hands to the disk; a coalesced one hands none. -/
def Daemon.entry (codec : RecordCodec) (daemon : Daemon) (snap : CheckpointSnapshot)
    (dies : Option Nat) : Option Written :=
  if (daemon.store.hook codec daemon.disk snap).2 = [] then none
  else
    some
      { record := recordOf snap
        whole := (codec.encode (recordOf snap)).length ≤
          putCount (daemon.performed codec snap dies) }

def Daemon.step (codec : RecordCodec) (daemon : Daemon) : Act → Option Daemon
  | .restart => some { daemon with store := .withMaxBytes daemon.store.maxBytes, running := none }
  | .call snap dies =>
      match snap.runUid with
      | none => none
      | some uid =>
          if daemon.admits uid snap then
            let store :=
              if dies.isSome then .withMaxBytes daemon.store.maxBytes
              else (daemon.store.hook codec daemon.disk snap).1
            some
              { store := store
                disk := daemon.disk.run (daemon.performed codec snap dies)
                running := if dies.isSome || snap.exitStatus.isSome then none else some uid
                runs := note uid (daemon.entry codec snap dies) daemon.runs }
          else none

/-- The first checkpoint record of the run is whole, no close of it is, and no record of a later
run is. -/
def Unfinished (runs : List RunLog) (uid : String) : Prop :=
  ∃ later run earlier, runs = later ++ run :: earlier ∧ run.uid = uid ∧
    (∃ first, run.records.getLast? = some first ∧ first.whole = true) ∧
    (∀ written ∈ run.records, written.record.exitStatus.isSome → written.whole = false) ∧
    ∀ other ∈ later, ∀ written ∈ other.records, written.whole = false

/-- A line of the file reads as a record. -/
def holdsRecord (codec : RecordCodec) (text : List UInt8) : Bool :=
  (lines text).any fun line => !isBlank line && (codec.decode line).isSome

/-- A call that writes within the reader's reach: what it appends starts on a line of its own; a
rotation that is cut before its record is whole moves no record out of the backup for none; and
what it leaves at the file's end, with the last line before a torn piece, is inside the window. -/
structure Daemon.Untangled (codec : RecordCodec) (daemon : Daemon) (snap : CheckpointSnapshot)
    (dies : Option Nat) : Prop where
  joins : 0 < putCount (daemon.performed codec snap dies) →
    .rename ∉ daemon.performed codec snap dies → Ended (daemon.disk.current.getD [])
  keeps : .rename ∈ daemon.performed codec snap dies →
    putCount (daemon.performed codec snap dies) < (codec.encode (recordOf snap)).length →
    holdsRecord codec (daemon.disk.current.getD []) = true ∨
      holdsRecord codec (daemon.disk.backup.getD []) = false
  fits : putCount (daemon.performed codec snap dies) ≤ tailScanBytes
  reaches : 0 < putCount (daemon.performed codec snap dies) →
    putCount (daemon.performed codec snap dies) < (codec.encode (recordOf snap)).length →
    .rename ∉ daemon.performed codec snap dies →
    daemon.disk.current.getD [] = [] ∨
      lastLine (daemon.disk.current.getD []) + putCount (daemon.performed codec snap dies) ≤
        tailScanBytes

instance (codec : RecordCodec) (daemon : Daemon) (snap : CheckpointSnapshot)
    (dies : Option Nat) : Decidable (daemon.Untangled codec snap dies) :=
  decidable_of_iff
    ((0 < putCount (daemon.performed codec snap dies) →
        .rename ∉ daemon.performed codec snap dies → Ended (daemon.disk.current.getD [])) ∧
      (.rename ∈ daemon.performed codec snap dies →
        putCount (daemon.performed codec snap dies) < (codec.encode (recordOf snap)).length →
        holdsRecord codec (daemon.disk.current.getD []) = true ∨
          holdsRecord codec (daemon.disk.backup.getD []) = false) ∧
      putCount (daemon.performed codec snap dies) ≤ tailScanBytes ∧
      (0 < putCount (daemon.performed codec snap dies) →
        putCount (daemon.performed codec snap dies) < (codec.encode (recordOf snap)).length →
        .rename ∉ daemon.performed codec snap dies →
        daemon.disk.current.getD [] = [] ∨
          lastLine (daemon.disk.current.getD []) + putCount (daemon.performed codec snap dies) ≤
            tailScanBytes))
    ⟨fun all => ⟨all.1, all.2.1, all.2.2.1, all.2.2.2⟩,
      fun within => ⟨within.1, within.2, within.3, within.4⟩⟩

def Daemon.Allowed (codec : RecordCodec) (daemon : Daemon) : Act → Prop
  | .call snap dies => daemon.Untangled codec snap dies
  | .restart => True

instance (codec : RecordCodec) (daemon : Daemon) : ∀ act, Decidable (daemon.Allowed codec act)
  | .call snap dies => inferInstanceAs (Decidable (daemon.Untangled codec snap dies))
  | .restart => isTrue trivial

section Json

private def ascii (text : String) : List UInt8 :=
  text.toList.map fun char => UInt8.ofNat char.toNat

private def quoted (text : String) : List UInt8 :=
  ascii "\"" ++ ascii text ++ ascii "\""

/-- The text a record is serialized to, where its strings have nothing to escape. -/
def jsonText (record : CheckpointRecord) : List UInt8 :=
  ascii "\x7b\"timestamp_ns\":" ++ ascii (toString record.timestampNs) ++
    ascii ",\"run_uid\":" ++ (match record.runUid with
      | some uid => quoted uid
      | none => ascii "null") ++
    ascii ",\"bsrs_version\":" ++ quoted record.bsrsVersion ++
    (match record.exitStatus with
      | some status => ascii ",\"exit_status\":" ++ quoted status
      | none => []) ++
    ascii "\x7d"

private def expect (text : String) (line : List UInt8) : Option (List UInt8) :=
  if (ascii text).isPrefixOf line then some (line.drop (ascii text).length) else none

private def readNat (line : List UInt8) : Option (Nat × List UInt8) :=
  let digits := line.takeWhile fun byte => 48 ≤ byte && byte ≤ 57
  if digits = [] then none
  else
    some (digits.foldl (fun value byte => 10 * value + (byte.toNat - 48)) 0,
      line.drop digits.length)

private def readQuoted (line : List UInt8) : Option (String × List UInt8) := do
  let rest ← expect "\"" line
  let text := rest.takeWhile fun byte => byte ≠ 34 && byte ≠ 92
  let rest ← expect "\"" (rest.drop text.length)
  some (String.ofList (text.map fun byte => Char.ofNat byte.toNat), rest)

/-- A record read back from that text. -/
def readJson (line : List UInt8) : Option CheckpointRecord := do
  let rest ← expect "\x7b\"timestamp_ns\":" line
  let (timestampNs, rest) ← readNat rest
  let rest ← expect ",\"run_uid\":" rest
  let (runUid, rest) ←
    match expect "null" rest with
    | some rest => some (none, rest)
    | none => (readQuoted rest).map fun (uid, rest) => (some uid, rest)
  let rest ← expect ",\"bsrs_version\":" rest
  let (bsrsVersion, rest) ← readQuoted rest
  let (exitStatus, rest) ←
    match expect ",\"exit_status\":" rest with
    | none => some (none, rest)
    | some rest => (readQuoted rest).map fun (status, rest) => (some status, rest)
  let rest ← expect "\x7d" rest
  if rest = [] then some { timestampNs, runUid, bsrsVersion, exitStatus } else none

def jsonCodec : RecordCodec :=
  { encode := jsonText, decode := readJson }

end Json

end Bsrs.Host
