import Bsrs.Host.Journal
import Bsrs.Library.Run

namespace Bsrs.Host

open Library

section Writing

variable {codec : RecordCodec} {store : JsonlCheckpointStore} {disk : Disk}

@[simp] private theorem Disk.run_nil : disk.run [] = disk := rfl

@[simp] private theorem Disk.run_cons (op : DiskOp) (ops : List DiskOp) :
    disk.run (op :: ops) = (disk.apply op).run ops :=
  rfl

@[simp] private theorem Disk.run_puts (bytes : List UInt8) :
    disk.run (bytes.map .put) = { disk with current := disk.current.map (· ++ bytes) } := by
  induction bytes generalizing disk with
  | nil =>
      obtain ⟨current, backup⟩ := disk
      cases current <;> simp
  | cons byte rest ih =>
      rw [List.map_cons, Disk.run_cons, ih]
      cases current : disk.current <;> simp [Disk.apply, current]

@[simp] private theorem putCount_puts (bytes : List UInt8) :
    putCount (bytes.map .put) = bytes.length := by
  rw [putCount, List.countP_eq_length.mpr, List.length_map]
  simp

@[simp] private theorem putCount_open (ops : List DiskOp) :
    putCount (.openAppend :: ops) = putCount ops := by
  simp [putCount]

@[simp] private theorem putCount_rename (ops : List DiskOp) :
    putCount (.rename :: ops) = putCount ops := by
  simp [putCount]

/-- What part of an append leaves: a beginning of the line behind the file as it was, or, after
the rename, in a file of its own with the old file for the backup. -/
def Leaves (disk : Disk) (line : List UInt8) (done : List DiskOp) : Prop :=
  (.rename ∉ done ∧
      (disk.run done).current.getD [] = disk.current.getD [] ++ line.take (putCount done) ∧
      (disk.run done).backup = disk.backup) ∨
    (.rename ∈ done ∧ (disk.run done).current.getD [] = line.take (putCount done) ∧
      (disk.run done).backup = some (disk.current.getD []))

/-- The writer's count is the length of the file its handle is of. -/
def Writer.Matches (writer : Writer) (disk : Disk) : Prop :=
  writer.file = true → ∃ text, disk.current = some text ∧ writer.bytes = text.length

private theorem ensureOpen_opens {writer : Writer} (known : writer.Matches disk) :
    ∃ opened, ensureOpen writer disk =
        ({ file := true, bytes := (disk.current.getD []).length }, opened) ∧
      (opened = [.openAppend] ∨ opened = [] ∧ disk.current.isSome = true) := by
  obtain ⟨file, bytes⟩ := writer
  cases file with
  | false => exact ⟨[.openAppend], rfl, .inl rfl⟩
  | true =>
      obtain ⟨text, current, count⟩ := known rfl
      refine ⟨[], ?_, .inr ⟨rfl, by rw [current]; rfl⟩⟩
      rw [ensureOpen, if_pos rfl, current, Option.getD_some, ← count]

/-- An append opens the file, rotates it or not, and puts the line. -/
private theorem append_ops (codec : RecordCodec) (known : store.writer.Matches disk)
    (record : CheckpointRecord) :
    ∃ opened turned base, store.append codec disk record =
        ({ store with
            writer := { file := true, bytes := base + (codec.encode record).length + 1 } },
          opened ++ turned ++ (codec.encode record ++ [newline]).map .put) ∧
      (opened = [.openAppend] ∨ opened = [] ∧ disk.current.isSome = true) ∧
      (turned = [] ∧ base = (disk.current.getD []).length ∨
        turned = [.rename, .openAppend] ∧ base = 0) := by
  obtain ⟨opened, opens, either⟩ := ensureOpen_opens known
  by_cases full : (disk.current.getD []).length ≥ store.maxBytes
  · refine ⟨opened, [.rename, .openAppend], 0, ?_, either, .inr ⟨rfl, rfl⟩⟩
    simp only [JsonlCheckpointStore.append, opens, if_pos full]
    rfl
  · refine ⟨opened, [], (disk.current.getD []).length, ?_, either, .inl ⟨rfl, rfl⟩⟩
    simp only [JsonlCheckpointStore.append, opens, if_neg full]

private theorem leaves_puts {line : List UInt8} (present : disk.current.isSome = true)
    (count : Nat) : Leaves disk line ((line.map .put).take count) := by
  obtain ⟨text, current⟩ := Option.isSome_iff_exists.mp present
  refine .inl ⟨?_, ?_, ?_⟩
  · intro member
    simpa using List.mem_of_mem_take member
  · rw [← List.map_take, Disk.run_puts, putCount_puts, current, List.length_take]
    simp
  · rw [← List.map_take, Disk.run_puts]

private theorem leaves_turned {line : List UInt8} (present : disk.current.isSome = true)
    (count : Nat) :
    Leaves disk line ((.rename :: .openAppend :: line.map .put).take count) := by
  obtain ⟨text, current⟩ := Option.isSome_iff_exists.mp present
  match count with
  | 0 => exact .inl ⟨by simp, by simp [putCount], rfl⟩
  | 1 =>
      exact .inr ⟨by simp, by simp [putCount, Disk.apply], by simp [Disk.apply, current]⟩
  | count + 2 =>
      refine .inr ⟨by simp, ?_, ?_⟩
      · simp [← List.map_take, Disk.apply]
      · simp [← List.map_take, Disk.apply, current]

/-- Opening the file first changes nothing of what an append leaves. -/
private theorem leaves_open {line : List UInt8} {ops : List DiskOp}
    (later : ∀ count, Leaves (disk.apply .openAppend) line (ops.take count)) (count : Nat) :
    Leaves disk line ((.openAppend :: ops).take count) := by
  match count with
  | 0 => exact .inl ⟨by simp, by simp [putCount], rfl⟩
  | count + 1 =>
      have rest := later count
      simp only [Leaves, Disk.apply, Option.getD_some] at rest
      simpa [Leaves, Disk.apply] using rest

private theorem append_leaves (codec : RecordCodec) (known : store.writer.Matches disk)
    (record : CheckpointRecord) (count : Nat) :
    Leaves disk (codec.encode record ++ [newline])
      ((store.append codec disk record).2.take count) := by
  obtain ⟨opened, turned, base, appended, opens, turns⟩ := append_ops codec known record
  have here : ∀ disk : Disk, disk.current.isSome = true → ∀ count,
      Leaves disk (codec.encode record ++ [newline])
        ((turned ++ (codec.encode record ++ [newline]).map DiskOp.put).take count) := by
    intro disk present count
    rcases turns with ⟨rfl, _⟩ | ⟨rfl, _⟩
    · exact leaves_puts present count
    · exact leaves_turned present count
  rw [appended]
  rcases opens with rfl | ⟨rfl, present⟩
  · exact leaves_open (here _ rfl) count
  · exact here disk present count

/-- A finished append has put the whole line, and counts the file it leaves. -/
private theorem append_returns (codec : RecordCodec) (known : store.writer.Matches disk)
    (record : CheckpointRecord) :
    putCount (store.append codec disk record).2 = (codec.encode record).length + 1 ∧
      (store.append codec disk record).1.writer.Matches
        (disk.run (store.append codec disk record).2) := by
  obtain ⟨opened, turned, base, appended, opens, turns⟩ := append_ops codec known record
  have size : (codec.encode record ++ [newline]).length = (codec.encode record).length + 1 := by
    simp
  rw [appended]
  generalize codec.encode record ++ [newline] = line at size ⊢
  rcases opens with rfl | ⟨rfl, present⟩
  · rcases turns with ⟨rfl, rfl⟩ | ⟨rfl, rfl⟩
    · refine ⟨by simp [size], fun _ => ⟨disk.current.getD [] ++ line, by simp [Disk.apply], ?_⟩⟩
      rw [List.length_append, size, Nat.add_assoc]
    · exact ⟨by simp [size], fun _ => ⟨line, by simp [Disk.apply], by simp [size]⟩⟩
  · obtain ⟨text, current⟩ := Option.isSome_iff_exists.mp present
    rcases turns with ⟨rfl, rfl⟩ | ⟨rfl, rfl⟩
    · refine ⟨by simp [size], fun _ => ⟨text ++ line, by simp [current], ?_⟩⟩
      rw [List.length_append, size, current, Option.getD_some, Nat.add_assoc]
    · exact ⟨by simp [size], fun _ => ⟨line, by simp [Disk.apply], by simp [size]⟩⟩

end Writing

/-- The newest whole record of the runs. -/
def newestWhole (runs : List RunLog) : Option CheckpointRecord :=
  ((runs.flatMap (·.records)).find? (·.whole)).map (·.record)

/-- A run's records: all but the newest are whole mid-run ones, and the oldest is mid-run. -/
structure RunLog.Orderly (run : RunLog) : Prop where
  owned : ∀ written ∈ run.records, written.record.runUid = some run.uid
  split : ∃ newest older, run.records = newest :: older ∧
    (∀ written ∈ older, written.whole = true ∧ written.record.exitStatus = none) ∧
    (older = [] → newest.record.exitStatus = none)

/-- The head of a run's records that are whole, if no whole one is a close. -/
theorem RunLog.Orderly.newest {run : RunLog} (orderly : run.Orderly) :
    ((∃ first, run.records.getLast? = some first ∧ first.whole = true) ∧
      ∀ written ∈ run.records, written.record.exitStatus.isSome → written.whole = false) ↔
    ∃ written, run.records.find? (·.whole) = some written ∧
      written.record.exitStatus = none := by
  obtain ⟨newest, older, records, plain, alone⟩ := orderly.split
  rw [records]
  constructor
  · rintro ⟨⟨first, last, whole⟩, closes⟩
    by_cases here : newest.whole = true
    · refine ⟨newest, List.find?_cons_of_pos here, ?_⟩
      cases closed : newest.record.exitStatus with
      | none => rfl
      | some status =>
          rw [closes newest (by simp) (by rw [closed]; rfl)] at here
          cases here
    · cases older with
      | nil =>
          cases last
          exact absurd whole here
      | cons second rest =>
          obtain ⟨wrote, mid⟩ := plain second (by simp)
          exact ⟨second, by rw [List.find?_cons_of_neg here, List.find?_cons_of_pos wrote], mid⟩
  · rintro ⟨written, found, mid⟩
    have still : ∀ other ∈ newest :: older, other.record.exitStatus.isSome →
        other.whole = false := by
      intro other member closed
      rcases List.mem_cons.mp member with rfl | member
      · refine Bool.eq_false_iff.mpr fun whole => ?_
        rw [List.find?_cons_of_pos whole] at found
        cases found
        rw [mid] at closed
        cases closed
      · rw [(plain other member).2] at closed
        cases closed
    refine ⟨?_, still⟩
    cases older with
    | nil =>
        refine ⟨newest, rfl, ?_⟩
        have self : written = newest := List.mem_singleton.mp (List.mem_of_find?_eq_some found)
        exact self ▸ List.find?_some found
    | cons second rest =>
        refine ⟨(second :: rest).getLast (List.cons_ne_nil _ _), ?_, ?_⟩
        · rw [List.getLast?_cons_cons, List.getLast?_eq_some_getLast]
        · exact (plain _ (List.getLast_mem _)).1

/-- Of orderly runs, the newest whole record is a mid-run one of the unfinished run. -/
theorem unfinished_iff {runs : List RunLog} (orderly : ∀ run ∈ runs, run.Orderly)
    (uid : String) :
    Unfinished runs uid ↔ ∃ record, newestWhole runs = some record ∧
      record.exitStatus = none ∧ record.runUid = some uid := by
  constructor
  · rintro ⟨later, run, earlier, rfl, rfl, first, closes, none⟩
    have known := orderly run (by simp)
    obtain ⟨written, found, mid⟩ := known.newest.mp ⟨first, closes⟩
    refine ⟨written.record, ?_, mid, known.owned written (List.mem_of_find?_eq_some found)⟩
    rw [newestWhole, List.find?_flatMap,
      List.findSome?_eq_some_iff.mpr ⟨later, run, earlier, rfl, found, ?_⟩]
    · rfl
    · intro other member
      refine List.find?_eq_none.mpr fun past there => ?_
      exact Bool.eq_false_iff.mp (none other member past there)
  · rintro ⟨record, newest, mid, owner⟩
    obtain ⟨written, found, rfl⟩ := Option.map_eq_some_iff.mp newest
    rw [List.find?_flatMap] at found
    obtain ⟨later, run, earlier, rfl, here, none⟩ := List.findSome?_eq_some_iff.mp found
    have known := orderly run (by simp)
    obtain ⟨first, closes⟩ := known.newest.mpr ⟨written, here, mid⟩
    have same := known.owned written (List.mem_of_find?_eq_some here)
    refine ⟨later, run, earlier, rfl, ?_, first, closes, ?_⟩
    · rw [owner] at same
      exact (Option.some.inj same).symm
    · intro other member past there
      exact Bool.eq_false_iff.mpr (List.find?_eq_none.mp (none other member) past there)

section Steps

variable {codec : RecordCodec} {snap : CheckpointSnapshot} {dies : Option Nat}

/-- What holds of a daemon and its journal between two calls. -/
structure Daemon.Kept (codec : RecordCodec) (daemon : Daemon) : Prop where
  matched : daemon.store.writer.Matches daemon.disk
  current : Sound codec (daemon.disk.current.getD [])
  backup : Sound codec (daemon.disk.backup.getD [])
  told : latest codec daemon.disk = newestWhole daemon.runs
  rested : daemon.running = none → daemon.store.lastMidRun = none
  following : ∀ uid, daemon.running = some uid → ∃ run earlier, daemon.runs = run :: earlier ∧
    run.uid = uid ∧ ∀ written ∈ run.records,
      written.whole = true ∧ written.record.exitStatus = none
  orderly : ∀ run ∈ daemon.runs, run.Orderly

theorem Daemon.boot_kept (codec : RecordCodec) (maxBytes : Nat) :
    (Daemon.boot maxBytes).Kept codec where
  matched := by intro opened; cases opened
  current := Sound.nil
  backup := Sound.nil
  told := by
    rw [latest, tailRecord_getD, tailRecord_getD]
    exact congrArg₂ Option.or (tailRecord_nil codec) (tailRecord_nil codec)
  rested := fun _ => rfl
  following := by intro uid running; cases running
  orderly := by intro run member; cases member

/-- What the disk reads as after a part of an append that writes within reach. -/
private theorem Daemon.Kept.written {daemon : Daemon} (kept : daemon.Kept codec)
    {record : CheckpointRecord} (faithful : codec.Faithful record) {done : List DiskOp}
    (leaves : Leaves daemon.disk (codec.encode record ++ [newline]) done)
    (most : putCount done ≤ (codec.encode record).length + 1)
    (joins : 0 < putCount done → .rename ∉ done → Ended (daemon.disk.current.getD []))
    (keeps : .rename ∈ done → putCount done < (codec.encode record).length →
      holdsRecord codec (daemon.disk.current.getD []) = true ∨
        holdsRecord codec (daemon.disk.backup.getD []) = false)
    (fits : putCount done ≤ tailScanBytes)
    (reaches : 0 < putCount done → putCount done < (codec.encode record).length →
      .rename ∉ done → daemon.disk.current.getD [] = [] ∨
        lastLine (daemon.disk.current.getD []) + putCount done ≤ tailScanBytes) :
    Sound codec ((daemon.disk.run done).current.getD []) ∧
      Sound codec ((daemon.disk.run done).backup.getD []) ∧
      latest codec (daemon.disk.run done) =
        if (codec.encode record).length ≤ putCount done then some record
        else latest codec daemon.disk := by
  have present : (codec.encode record).length ≠ 0 := by
    intro empty
    have visible := faithful.visible
    rw [List.length_eq_zero_iff.mp empty] at visible
    cases visible
  rcases leaves with ⟨stays, current, backup⟩ | ⟨moved, current, backup⟩
  · by_cases nothing : putCount done = 0
    · rw [nothing, List.take_zero, List.append_nil] at current
      have same : latest codec (daemon.disk.run done) = latest codec daemon.disk := by
        rw [latest, tailRecord_getD, current, backup, ← tailRecord_getD]
        rfl
      rw [current, backup, same, if_neg (by omega)]
      exact ⟨kept.current, kept.backup, rfl⟩
    · obtain ⟨sound, found⟩ := kept.current.put (joins (by omega) stays) faithful most fits
        (fun some short => reaches some short stays)
      rw [← current] at sound found
      refine ⟨sound, by rw [backup]; exact kept.backup, ?_⟩
      rw [latest, tailRecord_getD, found, backup]
      split
      · rfl
      · rw [latest, tailRecord_getD codec daemon.disk.current]
  · obtain ⟨sound, found⟩ := Sound.nil.put (.inl rfl) faithful most fits (fun _ _ => .inl rfl)
    rw [List.nil_append, ← current, tailRecord_nil] at found
    rw [List.nil_append, ← current] at sound
    refine ⟨sound, by rw [backup]; exact kept.current, ?_⟩
    rw [latest, tailRecord_getD, found, backup]
    split
    · rfl
    · rw [Option.none_or, latest, tailRecord_getD codec daemon.disk.current,
        tailRecord_getD codec daemon.disk.backup]
      rcases keeps moved (by omega) with held | bare
      · rw [← kept.current.held] at held
        rw [Option.or_of_isSome held]
      · rw [← kept.backup.held] at bare
        rw [Option.isSome_eq_false_iff.mp bare |> Option.isNone_iff_eq_none.mp, Option.or_none]

theorem hook_appends (codec : RecordCodec) (store : JsonlCheckpointStore) (disk : Disk)
    (snap : CheckpointSnapshot) :
    (snap.exitStatus = none ∧ coalesced store.lastMidRun snap = true ∧
        store.hook codec disk snap = (store, [])) ∨
      ∃ last, store.hook codec disk snap =
          { store with lastMidRun := last }.append codec disk (recordOf snap) ∧
        (snap.exitStatus ≠ none → last = none) := by
  cases closing : snap.exitStatus with
  | some status => exact .inr ⟨none, by simp [JsonlCheckpointStore.hook, closing], fun _ => rfl⟩
  | none =>
      cases last : coalesced store.lastMidRun snap with
      | true => exact .inl ⟨rfl, rfl, by simp [JsonlCheckpointStore.hook, closing, last]⟩
      | false =>
          refine .inr ⟨some (snap.runUid, snap.timestampNs), ?_, fun some => absurd rfl some⟩
          simp [JsonlCheckpointStore.hook, closing, last]

private theorem flatMap_note (uid : String) (entry : Option Written) (runs : List RunLog) :
    (note uid entry runs).flatMap (·.records) = entry.toList ++ runs.flatMap (·.records) := by
  cases runs with
  | nil => simp [note]
  | cons run earlier =>
      rw [note]
      split <;> simp

private theorem newestWhole_note (uid : String) (written : Written) (runs : List RunLog) :
    newestWhole (note uid (some written) runs) =
      if written.whole = true then some written.record else newestWhole runs := by
  rw [newestWhole, flatMap_note, Option.toList_some, List.singleton_append, List.find?_cons]
  cases written.whole <;> rfl

/-- A record noted for an admitted call extends the open run, or begins a new one. -/
private theorem Daemon.Kept.noted {daemon : Daemon} (kept : daemon.Kept codec) {uid : String}
    (admitted : daemon.admits uid snap = true) {written : Written}
    (owner : written.record.runUid = some uid)
    (status : written.record.exitStatus = snap.exitStatus) :
    ∃ run earlier, note uid (some written) daemon.runs = run :: earlier ∧ run.uid = uid ∧
      (∀ other ∈ run :: earlier, other.Orderly) ∧
      (written.whole = true → snap.exitStatus = none → ∀ other ∈ run.records,
        other.whole = true ∧ other.record.exitStatus = none) := by
  cases running : daemon.running with
  | some current =>
      obtain ⟨run, earlier, runs, same, plain⟩ := kept.following current running
      have current_uid : run.uid = uid := by
        simp only [Daemon.admits, running, decide_eq_true_eq] at admitted
        rw [same, admitted]
      have known := kept.orderly run (by simp [runs])
      refine ⟨{ run with records := written :: run.records }, earlier, ?_, current_uid, ?_, ?_⟩
      · rw [runs, Host.note, if_pos current_uid]
        rfl
      · intro other member
        rcases List.mem_cons.mp member with rfl | member
        · refine ⟨?_, written, run.records, rfl, plain, ?_⟩
          · intro past there
            rcases List.mem_cons.mp there with rfl | there
            · rw [owner, current_uid]
            · exact known.owned past there
          · intro empty
            obtain ⟨newest, older, records, _⟩ := known.split
            rw [empty] at records
            cases records
        · exact kept.orderly other (by simp [runs, member])
      · intro whole mid other member
        rcases List.mem_cons.mp member with rfl | member
        · exact ⟨whole, status.trans mid⟩
        · exact plain other member
  | none =>
      simp only [Daemon.admits, running, Bool.and_eq_true, Option.isNone_iff_eq_none,
        List.all_eq_true, decide_eq_true_eq] at admitted
      obtain ⟨mid, fresh⟩ := admitted
      refine ⟨{ uid := uid, records := [written] }, daemon.runs, ?_, rfl, ?_, ?_⟩
      · cases runs : daemon.runs with
        | nil => rfl
        | cons run earlier =>
            rw [Host.note, if_neg (fresh run (by simp [runs]))]
            rfl
      · intro other member
        rcases List.mem_cons.mp member with rfl | member
        · refine ⟨?_, written, [], rfl, by simp, fun _ => status.trans mid⟩
          intro past there
          rw [List.mem_singleton.mp there, owner]
        · exact kept.orderly other member
      · intro whole _ other member
        rw [List.mem_singleton.mp member]
        exact ⟨whole, status.trans mid⟩

/-- A coalesced call is of the open run, whose records stand as they are. -/
private theorem Daemon.Kept.coalesces {daemon : Daemon} (kept : daemon.Kept codec) {uid : String}
    (admitted : daemon.admits uid snap = true)
    (last : coalesced daemon.store.lastMidRun snap = true) :
    daemon.running = some uid ∧ note uid none daemon.runs = daemon.runs := by
  cases running : daemon.running with
  | none =>
      rw [kept.rested running] at last
      cases last
  | some current =>
      obtain ⟨run, earlier, runs, same, _⟩ := kept.following current running
      simp only [Daemon.admits, running, decide_eq_true_eq] at admitted
      refine ⟨by rw [admitted], ?_⟩
      rw [runs, note, if_pos (same.trans admitted.symm)]
      rfl

private theorem Daemon.Kept.coalesced {daemon : Daemon} (kept : daemon.Kept codec) {uid : String}
    (admitted : daemon.admits uid snap = true) (mid : snap.exitStatus = none)
    (last : Host.coalesced daemon.store.lastMidRun snap = true)
    (hook : daemon.store.hook codec daemon.disk snap = (daemon.store, [])) :
    Daemon.Kept codec
      { store := if dies.isSome then .withMaxBytes daemon.store.maxBytes
          else (daemon.store.hook codec daemon.disk snap).1
        disk := daemon.disk.run (daemon.performed codec snap dies)
        running := if dies.isSome || snap.exitStatus.isSome then none else some uid
        runs := note uid (daemon.entry codec snap dies) daemon.runs } := by
  obtain ⟨running, same⟩ := kept.coalesces admitted last
  have nothing : daemon.performed codec snap dies = [] := by
    cases dies <;> simp [performed, hook]
  have unwritten : daemon.entry codec snap dies = none := by
    rw [entry, hook, if_pos rfl]
  rw [nothing, unwritten, same, hook, mid]
  cases dies with
  | none => exact running ▸ kept
  | some count =>
      exact {
        matched := fun opened => Bool.noConfusion opened
        current := kept.current
        backup := kept.backup
        told := kept.told
        rested := fun _ => rfl
        following := fun _ running => nomatch running
        orderly := kept.orderly }

private theorem Daemon.Kept.appended {daemon : Daemon} (kept : daemon.Kept codec) {uid : String}
    (owner : snap.runUid = some uid) (admitted : daemon.admits uid snap = true)
    (faithful : codec.Faithful (recordOf snap)) (within : daemon.Untangled codec snap dies)
    {last : Option (Option String × Nat)}
    (hook : daemon.store.hook codec daemon.disk snap =
      { daemon.store with lastMidRun := last }.append codec daemon.disk (recordOf snap))
    (closing : snap.exitStatus ≠ none → last = none) :
    Daemon.Kept codec
      { store := if dies.isSome then .withMaxBytes daemon.store.maxBytes
          else (daemon.store.hook codec daemon.disk snap).1
        disk := daemon.disk.run (daemon.performed codec snap dies)
        running := if dies.isSome || snap.exitStatus.isSome then none else some uid
        runs := note uid (daemon.entry codec snap dies) daemon.runs } := by
  have known : ({ daemon.store with lastMidRun := last }.writer).Matches daemon.disk := kept.matched
  obtain ⟨full, matched⟩ := append_returns codec known (recordOf snap)
  rw [← hook] at full matched
  have part : ∃ count, daemon.performed codec snap dies =
      (daemon.store.hook codec daemon.disk snap).2.take count := by
    cases dies with
    | none => exact ⟨_, (List.take_length).symm⟩
    | some count => exact ⟨count, rfl⟩
  obtain ⟨count, cut⟩ := part
  have leaves := append_leaves codec known (recordOf snap) count
  rw [← hook, ← cut] at leaves
  have most : putCount (daemon.performed codec snap dies) ≤
      (codec.encode (recordOf snap)).length + 1 := by
    rw [cut, ← full]
    exact (List.take_sublist _ _).countP_le
  obtain ⟨current, backup, told⟩ := kept.written faithful leaves most within.joins within.keeps
    within.fits within.reaches
  have wrote : (daemon.store.hook codec daemon.disk snap).2 ≠ [] := by
    intro empty
    rw [empty] at full
    cases full
  obtain ⟨written, noted, record, whole⟩ : ∃ written,
      daemon.entry codec snap dies = some written ∧ written.record = recordOf snap ∧
        written.whole = decide ((codec.encode (recordOf snap)).length ≤
          putCount (daemon.performed codec snap dies)) :=
    ⟨_, if_neg wrote, rfl, rfl⟩
  obtain ⟨run, earlier, runs, same, orderly, plain⟩ := kept.noted admitted
    (by rw [record]; exact owner) (by rw [record]; rfl)
  refine { matched := ?_, current := current, backup := backup, told := ?_, rested := ?_
           following := ?_, orderly := ?_ }
  · cases dies with
    | none => exact matched
    | some count => exact fun opened => Bool.noConfusion opened
  · rw [told, noted, newestWhole_note, kept.told, record, whole]
    simp only [decide_eq_true_eq]
  · cases dies with
    | some count => exact fun _ => rfl
    | none =>
        intro ended
        cases status : snap.exitStatus with
        | none => simp [status] at ended
        | some given =>
            rw [hook]
            exact closing (by simp [status])
  · cases dies with
    | some count => exact fun _ running => nomatch running
    | none =>
        intro other running
        cases status : snap.exitStatus with
        | some given => simp [status] at running
        | none =>
            obtain rfl : uid = other := by simpa [status] using running
            have all : putCount (daemon.performed codec snap none) = _ := full
            rw [all, decide_eq_true (Nat.le_succ _)] at whole
            refine ⟨run, earlier, ?_, same, plain whole status⟩
            rw [noted]
            exact runs
  · rw [noted, runs]
    exact orderly

/-- One act within reach keeps the daemon and its journal as they should be. -/
theorem Daemon.Kept.step {daemon next : Daemon} {act : Act} (kept : daemon.Kept codec)
    (stepped : daemon.step codec act = some next) (allowed : daemon.Allowed codec act)
    (faithful : ∀ snap dies, act = .call snap dies → codec.Faithful (recordOf snap)) :
    next.Kept codec := by
  cases act with
  | restart =>
      cases stepped
      exact {
        matched := fun opened => Bool.noConfusion opened
        current := kept.current
        backup := kept.backup
        told := kept.told
        rested := fun _ => rfl
        following := fun _ running => nomatch running
        orderly := kept.orderly }
  | call snap dies =>
      cases owner : snap.runUid with
      | none =>
          simp only [Daemon.step, owner] at stepped
          cases stepped
      | some uid =>
          simp only [Daemon.step, owner] at stepped
          split at stepped
          · rename_i admitted
            cases stepped
            rcases hook_appends codec daemon.store daemon.disk snap with
              ⟨mid, last, hook⟩ | ⟨last, hook, closing⟩
            · exact kept.coalesced admitted mid last hook
            · exact kept.appended owner admitted (faithful snap dies rfl) allowed hook closing
          · cases stepped

end Steps

/-- What the reader reports of every run, after a history of the daemon. -/
def Tells (codec : RecordCodec) (daemon : Daemon) : Prop :=
  ∀ uid, (∃ record, unfinishedRun codec daemon.disk = some record ∧ record.runUid = some uid) ↔
    Unfinished daemon.runs uid

theorem Daemon.Kept.tells {codec : RecordCodec} {daemon : Daemon} (kept : daemon.Kept codec) :
    Tells codec daemon := by
  intro uid
  rw [unfinished_iff kept.orderly, unfinishedRun, kept.told]
  constructor
  · rintro ⟨record, found, owner⟩
    obtain ⟨newest, still⟩ := Option.filter_eq_some_iff.mp found
    rw [Bool.and_eq_true, Option.isNone_iff_eq_none] at still
    exact ⟨record, newest, still.1, owner⟩
  · rintro ⟨record, newest, mid, owner⟩
    refine ⟨record, ?_, owner⟩
    rw [newest]
    simp [Option.filter, mid, owner]

theorem unfinishedRun_tells {codec : RecordCodec} {maxBytes : Nat} {acts : List Act}
    {daemon : Daemon} (reached : exec (Daemon.step codec) (.boot maxBytes) acts = some daemon)
    (faithful : ∀ snap dies, .call snap dies ∈ acts → codec.Faithful (recordOf snap))
    (allowed : Throughout (Daemon.step codec) (Daemon.Allowed codec) (.boot maxBytes) acts) :
    Tells codec daemon := by
  have within := allowed.of_labels fun act member => show ∀ snap dies, act = .call snap dies →
    codec.Faithful (recordOf snap) from fun snap dies same => faithful snap dies (same ▸ member)
  have kept := exec_invariant_throughout (Daemon.Kept codec)
    (fun before act after stepped both held => held.step stepped both.1 both.2) reached within
    (Daemon.boot_kept codec maxBytes)
  exact kept.tells

private def checkpointOf (uid : String) (timestampNs : Nat) : CheckpointSnapshot :=
  { timestampNs := timestampNs, runUid := some uid, exitStatus := none }

private def faithfulCall (codec : RecordCodec) : Act → Bool
  | .call snap _ => decide (codec.Faithful (recordOf snap))
  | .restart => true

private theorem faithful_calls {codec : RecordCodec} {acts : List Act}
    (all : acts.all (faithfulCall codec) = true) (snap : CheckpointSnapshot) (dies : Option Nat)
    (member : .call snap dies ∈ acts) : codec.Faithful (recordOf snap) :=
  of_decide_eq_true (List.all_eq_true.mp all _ member)

/-- One run closed and the next one cut within its second checkpoint, just after a rotation. -/
private def cutAfterRotation : List Act :=
  [.call (checkpointOf "first" 1000) none,
    .call { timestampNs := 2000, runUid := some "first", exitStatus := some "success" } none,
    .call (checkpointOf "second" 3000) none,
    .call (checkpointOf "second" 5000000000) (some 12)]

theorem unfinishedRun_tells_rotated :
    ∃ daemon, exec (Daemon.step jsonCodec) (.boot 60) cutAfterRotation = some daemon ∧
      Tells jsonCodec daemon := by
  have runs : (exec (Daemon.step jsonCodec) (.boot 60) cutAfterRotation).isSome = true := by
    decide +kernel
  obtain ⟨daemon, reached⟩ := Option.isSome_iff_exists.mp runs
  have within : Throughout (Daemon.step jsonCodec) (Daemon.Allowed jsonCodec) (.boot 60)
      cutAfterRotation := by
    decide +kernel
  exact ⟨daemon, reached,
    unfinishedRun_tells reached (faithful_calls (by decide +kernel)) within⟩

/-- A first checkpoint torn by a death, and the checkpoint of the next process's run. -/
private def tornThenWhole : List Act :=
  [.call (checkpointOf "first" 1000) (some 30), .call (checkpointOf "second" 2000) none]

/-- The whole record joins the torn one on its line, and its run is not reported. -/
theorem torn_record_hides_next :
    (∀ snap dies, .call snap dies ∈ tornThenWhole → jsonCodec.Faithful (recordOf snap)) ∧
      ∃ daemon, exec (Daemon.step jsonCodec) (.boot defaultMaxBytes) tornThenWhole =
        some daemon ∧ ¬ Tells jsonCodec daemon := by
  refine ⟨faithful_calls (by decide +kernel), ?_⟩
  have seen : (exec (Daemon.step jsonCodec) (.boot defaultMaxBytes) tornThenWhole).map
      (fun daemon => (unfinishedRun jsonCodec daemon.disk, daemon.runs)) =
        some (none, [
          { uid := "second"
            records := [{ record := recordOf (checkpointOf "second" 2000), whole := true }] },
          { uid := "first"
            records :=
              [{ record := recordOf (checkpointOf "first" 1000), whole := false }] }]) := by
    decide +kernel
  obtain ⟨daemon, reached, read⟩ := Option.map_eq_some_iff.mp seen
  obtain ⟨unread, runs⟩ := Prod.mk.inj read
  refine ⟨daemon, reached, fun tells => ?_⟩
  have unfinished : Unfinished daemon.runs "second" := by
    rw [runs]
    exact ⟨[], _, _, rfl, rfl, ⟨_, rfl, rfl⟩, by decide, by simp⟩
  obtain ⟨record, found, _⟩ := (tells "second").mpr unfinished
  rw [unread] at found
  cases found

end Bsrs.Host
