import Bsrs.Library.Columns
import Bsrs.Zmq.Documents

namespace Bsrs.Zmq

open Bsrs.Library
open Bsrs.Library.Table (packColumns joinColumns slice Same Uniform ColumnsOf)

/-- The refusal to build a page of no rows. -/
structure EmptyPack where
  kind : String
  field : String

/-! ## Events -/

def packEventPage (events : List Event) : Except EmptyPack EventPage :=
  match events with
  | [] => .error ⟨"Event", "descriptor"⟩
  | first :: _ => .ok {
      uid := events.map Event.uid
      descriptor := first.descriptor
      time := events.map Event.time
      seqNum := events.map Event.seqNum
      data := packColumns (events.map Event.data)
      timestamps := packColumns (events.map Event.timestamps)
      filled := packColumns (events.map Event.filled) }

/-- A row of a page, given what is indexed. -/
def EventPage.row (page : EventPage) (i : Nat) (uid : String) (time : Serde.Double) (seqNum : UInt64) :
    Event where
  uid
  descriptor := page.descriptor
  time
  seqNum
  data := page.data.filterMapValues fun _ column => column[i]?
  timestamps := page.timestamps.filterMapValues fun _ column => column[i]?
  filled := page.filled.filterMapValues fun _ column => column[i]?

/-- One row of a page; a page short of a time or a sequence number has none to give. -/
def unpackEvent (page : EventPage) (i : Nat) : Option Event := do
  let uid ← page.uid[i]?
  let time ← page.time[i]?
  let seqNum ← page.seqNum[i]?
  some (page.row i uid time seqNum)

def unpackEventPage (page : EventPage) : Option (List Event) :=
  (List.range page.uid.length).mapM (unpackEvent page)

def mergeEventPages (pages : List EventPage) : EventPage :=
  match pages with
  | [page] => page
  | _ => {
      uid := pages.flatMap EventPage.uid
      descriptor := (pages.head?.map EventPage.descriptor).getD ""
      time := pages.flatMap EventPage.time
      seqNum := pages.flatMap EventPage.seqNum
      data := joinColumns (pages.map EventPage.data)
      timestamps := joinColumns (pages.map EventPage.timestamps)
      filled := joinColumns (pages.map EventPage.filled) }

/-- `slice_cols`, clamped to the length of each column. -/
def sliceCols (columns : Table String (List α)) (start stop : Nat) : Table String (List α) :=
  columns.mapValues fun _ column =>
    slice column (min start column.length) (min stop column.length)

/-- The rows of a page in a range. -/
def sliceEventPage (page : EventPage) (span : Nat × Nat) : EventPage where
  uid := slice page.uid span.1 span.2
  descriptor := page.descriptor
  time := slice page.time span.1 span.2
  seqNum := slice page.seqNum span.1 span.2
  data := sliceCols page.data span.1 span.2
  timestamps := sliceCols page.timestamps span.1 span.2
  filled := sliceCols page.filled span.1 span.2

def rechunkEventPages (pages : List EventPage) (chunkSize : Nat) : List EventPage :=
  if chunkSize = 0 then []
  else
    let merged := mergeEventPages pages
    let n := merged.uid.length
    (spans chunkSize n n 0).map (sliceEventPage merged)

/-! ## Datums -/

def packDatumPage (datums : List Datum) : Except EmptyPack DatumPage :=
  match datums with
  | [] => .error ⟨"Datum", "resource"⟩
  | first :: _ => .ok {
      datumId := datums.map Datum.datumId
      resource := first.resource
      datumKwargs := packColumns (datums.map Datum.datumKwargs) }

def DatumPage.row (page : DatumPage) (i : Nat) (datumId : String) : Datum where
  datumId
  resource := page.resource
  datumKwargs := page.datumKwargs.filterMapValues fun _ column => column[i]?

def unpackDatum (page : DatumPage) (i : Nat) : Option Datum :=
  page.datumId[i]?.map (page.row i)

def unpackDatumPage (page : DatumPage) : Option (List Datum) :=
  (List.range page.datumId.length).mapM (unpackDatum page)

def mergeDatumPages (pages : List DatumPage) : DatumPage :=
  match pages with
  | [page] => page
  | _ => {
      datumId := pages.flatMap DatumPage.datumId
      resource := (pages.head?.map DatumPage.resource).getD ""
      datumKwargs := joinColumns (pages.map DatumPage.datumKwargs) }

def sliceDatumPage (page : DatumPage) (span : Nat × Nat) : DatumPage where
  datumId := slice page.datumId span.1 span.2
  resource := page.resource
  datumKwargs := sliceCols page.datumKwargs span.1 span.2

def rechunkDatumPages (pages : List DatumPage) (chunkSize : Nat) : List DatumPage :=
  if chunkSize = 0 then []
  else
    let merged := mergeDatumPages pages
    let n := merged.datumId.length
    (spans chunkSize n n 0).map (sliceDatumPage merged)

theorem columnsOf_sliceCols {columns : Table String (List α)} {rows : List (Table String α)}
    (held : ColumnsOf columns rows) (start stop : Nat) :
    ColumnsOf (sliceCols columns start stop) (slice rows start stop) := by
  have whole := held.slice start stop
  simpa only [sliceCols, Table.slice_clamped] using whole

/-! ## What a page holds -/

/-- Two events alike, whatever the order of the keys of their tables. -/
structure Event.Same (event other : Event) : Prop where
  uid : event.uid = other.uid
  descriptor : event.descriptor = other.descriptor
  time : event.time = other.time
  seqNum : event.seqNum = other.seqNum
  data : Table.Same event.data other.data
  timestamps : Table.Same event.timestamps other.timestamps
  filled : Table.Same event.filled other.filled

structure EventPage.Same (page other : EventPage) : Prop where
  uid : page.uid = other.uid
  descriptor : page.descriptor = other.descriptor
  time : page.time = other.time
  seqNum : page.seqNum = other.seqNum
  data : Table.Same page.data other.data
  timestamps : Table.Same page.timestamps other.timestamps
  filled : Table.Same page.filled other.filled

/-- Every column of the page has one entry a row. -/
structure EventPage.Square (page : EventPage) : Prop where
  time : page.time.length = page.uid.length
  seqNum : page.seqNum.length = page.uid.length
  data : ∀ key column, page.data.lookup key = some column → column.length = page.uid.length
  timestamps : ∀ key column,
    page.timestamps.lookup key = some column → column.length = page.uid.length
  filled : ∀ key column, page.filled.lookup key = some column → column.length = page.uid.length

/-- Events of one descriptor, with the same keys throughout. -/
structure EventsAlike (rows : List Event) : Prop where
  descriptor : ∀ row ∈ rows, ∀ other ∈ rows, row.descriptor = other.descriptor
  data : Uniform (rows.map Event.data)
  timestamps : Uniform (rows.map Event.timestamps)
  filled : Uniform (rows.map Event.filled)

/-- The page of the rows. -/
structure EventPageOf (page : EventPage) (rows : List Event) : Prop where
  uid : page.uid = rows.map Event.uid
  descriptor : ∀ row ∈ rows, row.descriptor = page.descriptor
  time : page.time = rows.map Event.time
  seqNum : page.seqNum = rows.map Event.seqNum
  data : ColumnsOf page.data (rows.map Event.data)
  timestamps : ColumnsOf page.timestamps (rows.map Event.timestamps)
  filled : ColumnsOf page.filled (rows.map Event.filled)

section EventPages

variable {page other : EventPage} {pages : List EventPage} {rows : List Event}
  {runs : List (List Event)}

theorem EventsAlike.subset (alike : EventsAlike rows) {fewer : List Event} (among : fewer ⊆ rows) :
    EventsAlike fewer where
  descriptor row member other memberOther :=
    alike.descriptor row (among member) other (among memberOther)
  data := alike.data.subset (List.map_subset _ among)
  timestamps := alike.timestamps.subset (List.map_subset _ among)
  filled := alike.filled.subset (List.map_subset _ among)

theorem packEventPage_of (alike : EventsAlike rows) (nonempty : rows ≠ []) :
    ∃ page, packEventPage rows = .ok page ∧ EventPageOf page rows := by
  obtain ⟨first, rest, rfl⟩ := List.exists_cons_of_ne_nil nonempty
  exact ⟨_, rfl, {
    uid := rfl
    descriptor := fun row member => alike.descriptor row member first (by simp)
    time := rfl
    seqNum := rfl
    data := Table.columnsOf_packColumns alike.data
    timestamps := Table.columnsOf_packColumns alike.timestamps
    filled := Table.columnsOf_packColumns alike.filled }⟩

theorem EventPageOf.square (held : EventPageOf page rows) : page.Square where
  time := by simp [held.time, held.uid]
  seqNum := by simp [held.seqNum, held.uid]
  data key column found := by simpa [held.uid] using held.data.length found
  timestamps key column found := by simpa [held.uid] using held.timestamps.length found
  filled key column found := by simpa [held.uid] using held.filled.length found

theorem EventPageOf.same (held : EventPageOf page rows) (heldOther : EventPageOf other rows)
    (nonempty : rows ≠ []) : page.Same other := by
  have given {α : Type} (read : Event → α) : rows.map read ≠ [] := by simpa using nonempty
  obtain ⟨first, member⟩ := List.exists_mem_of_ne_nil rows nonempty
  exact {
    uid := held.uid.trans heldOther.uid.symm
    descriptor := (held.descriptor first member).symm.trans (heldOther.descriptor first member)
    time := held.time.trans heldOther.time.symm
    seqNum := held.seqNum.trans heldOther.seqNum.symm
    data := held.data.same heldOther.data (given _)
    timestamps := held.timestamps.same heldOther.timestamps (given _)
    filled := held.filled.same heldOther.filled (given _) }

theorem EventPageOf.unpack (held : EventPageOf page rows) :
    ∃ unpacked, unpackEventPage page = some unpacked ∧
      List.Forall₂ Event.Same unpacked rows := by
  have count : page.uid.length = rows.length := by simp [held.uid]
  rw [unpackEventPage, count]
  apply mapM_of_forall₂
  apply forall₂_range
  intro i row at_row
  have reads {α : Type} (read : Event → α) : (rows.map read)[i]? = some (read row) := by
    rw [List.getElem?_map, at_row]
    rfl
  refine ⟨page.row i row.uid row.time row.seqNum, ?_, ?_⟩
  · simp only [unpackEvent, held.uid, held.time, held.seqNum, reads]
    rfl
  · exact {
      uid := rfl
      descriptor := (held.descriptor row (List.mem_of_getElem? at_row)).symm
      time := rfl
      seqNum := rfl
      data := held.data.row (reads _)
      timestamps := held.timestamps.row (reads _)
      filled := held.filled.row (reads _) }

theorem EventPageOf.slice (held : EventPageOf page rows) (span : Nat × Nat) :
    EventPageOf (sliceEventPage page span) (slice rows span.1 span.2) where
  uid := by rw [← Table.slice_map, ← held.uid]; rfl
  descriptor row member :=
    held.descriptor row (List.mem_of_mem_take (List.mem_of_mem_drop member))
  time := by rw [← Table.slice_map, ← held.time]; rfl
  seqNum := by rw [← Table.slice_map, ← held.seqNum]; rfl
  data := by
    rw [← Table.slice_map]
    exact columnsOf_sliceCols held.data span.1 span.2
  timestamps := by
    rw [← Table.slice_map]
    exact columnsOf_sliceCols held.timestamps span.1 span.2
  filled := by
    rw [← Table.slice_map]
    exact columnsOf_sliceCols held.filled span.1 span.2

theorem EventPageOf.merge (held : List.Forall₂ EventPageOf pages runs)
    (nonempty : ∀ run ∈ runs, run ≠ []) (alike : EventsAlike runs.flatten) :
    EventPageOf (mergeEventPages pages) runs.flatten := by
  unfold mergeEventPages
  split
  · rename_i page
    cases held with
    | cons first rest =>
      cases rest
      simpa using first
  · rename_i several
    have columns {α : Type} (read : Event → Table String α)
        (column : EventPage → Table String (List α))
        (each : ∀ page rows, EventPageOf page rows → ColumnsOf (column page) (rows.map read))
        (uniform : Uniform (runs.flatten.map read)) :
        ColumnsOf (joinColumns (pages.map column)) (runs.flatten.map read) := by
      rw [List.map_flatten] at uniform ⊢
      refine ColumnsOf.join ?_ ?_ uniform
      · rw [List.forall₂_map_left_iff, List.forall₂_map_right_iff]
        exact held.imp each
      · simpa using nonempty
    have rows {α : Type} (read : Event → α) (column : EventPage → List α)
        (each : ∀ page rows, EventPageOf page rows → column page = rows.map read) :
        pages.flatMap column = runs.flatten.map read := by
      clear nonempty alike columns several
      induction held with
      | nil => rfl
      | cons first _ ih =>
        rw [List.flatMap_cons, ih, each _ _ first, List.flatten_cons, List.map_append]
    exact {
      uid := rows _ _ fun _ _ held => held.uid
      descriptor := by
        intro row member
        cases held with
        | nil => cases member
        | @cons page run _ _ first _ =>
          obtain ⟨held, among⟩ := List.exists_mem_of_ne_nil run (nonempty run (by simp))
          rw [alike.descriptor row member held (by simp [among]), first.descriptor held among]
          rfl
      time := rows _ _ fun _ _ held => held.time
      seqNum := rows _ _ fun _ _ held => held.seqNum
      data := columns _ _ (fun _ _ held => held.data) alike.data
      timestamps := columns _ _ (fun _ _ held => held.timestamps) alike.timestamps
      filled := columns _ _ (fun _ _ held => held.filled) alike.filled }

theorem rechunkEventPages_of (held : List.Forall₂ EventPageOf pages runs)
    (nonempty : ∀ run ∈ runs, run ≠ []) (alike : EventsAlike runs.flatten) {chunkSize : Nat}
    (positive : 1 ≤ chunkSize) :
    List.Forall₂ EventPageOf (rechunkEventPages pages chunkSize)
      (chunks chunkSize runs.flatten) := by
  have merged := EventPageOf.merge held nonempty alike
  have count : (mergeEventPages pages).uid.length = runs.flatten.length := by
    rw [merged.uid, List.length_map]
  rw [rechunkEventPages, if_neg (by omega)]
  simp only [count, chunks]
  rw [List.forall₂_map_left_iff, List.forall₂_map_right_iff, List.forall₂_same]
  exact fun span _ => merged.slice span

/-- Pages of one size, a shorter last one apart, with the rows in them in order. -/
structure EventChunks (pages : List EventPage) (chunkSize : Nat) (rows : List Event) : Prop where
  full : ∀ page ∈ pages.dropLast, page.uid.length = chunkSize
  bounds : ∀ page ∈ pages, 0 < page.uid.length ∧ page.uid.length ≤ chunkSize
  square : ∀ page ∈ pages, page.Square
  unpacked : ∃ unpacked, pages.mapM unpackEventPage = some unpacked ∧
    List.Forall₂ Event.Same unpacked.flatten rows

theorem EventChunks.of_pages {chunkSize : Nat} (positive : 1 ≤ chunkSize)
    (held : List.Forall₂ EventPageOf pages (chunks chunkSize rows)) :
    EventChunks pages chunkSize rows where
  full page member := by
    obtain ⟨run, cut, of_run⟩ := exists_of_forall₂ (forall₂_dropLast held) member
    rw [of_run.uid, List.length_map, chunk_full positive cut]
  bounds page member := by
    obtain ⟨run, cut, of_run⟩ := exists_of_forall₂ held member
    rw [of_run.uid, List.length_map]
    exact chunk_bounds positive cut
  square page member := by
    obtain ⟨run, cut, of_run⟩ := exists_of_forall₂ held member
    exact of_run.square
  unpacked := by
    obtain ⟨unpacked, read, fits⟩ := mapM_of_forall₂ (held.imp fun _ _ held => held.unpack)
    refine ⟨unpacked, read, ?_⟩
    have whole := List.rel_flatten fits
    rwa [chunks_flatten positive] at whole

/-- Cut anew, pages are those cut at once. -/
theorem rechunkEventPages_again (held : List.Forall₂ EventPageOf pages runs)
    (nonempty : ∀ run ∈ runs, run ≠ []) (alike : EventsAlike runs.flatten) {first last : Nat}
    (positive : 1 ≤ first) (positiveLast : 1 ≤ last) :
    List.Forall₂ EventPage.Same (rechunkEventPages (rechunkEventPages pages first) last)
      (rechunkEventPages pages last) := by
  have once := rechunkEventPages_of held nonempty alike positiveLast
  have whole := chunks_flatten positive runs.flatten
  have twice := rechunkEventPages_of (rechunkEventPages_of held nonempty alike positive)
    (chunks_nonempty positive _) (by rwa [whole]) positiveLast
  rw [whole] at twice
  have nonemptyLast := chunks_nonempty positiveLast runs.flatten
  exact forall₂_meet twice once fun run cut page other held heldOther =>
    held.same heldOther (nonemptyLast run cut)

/-- Every way to pack runs of like events, to join the pages and to cut them anew keeps the rows. -/
theorem eventPages_preserve_rows (nonempty : ∀ run ∈ runs, run ≠ [])
    (alike : EventsAlike runs.flatten) :
    ∃ pages, runs.mapM packEventPage = .ok pages ∧
      (∃ rows, unpackEventPage (mergeEventPages pages) = some rows ∧
        List.Forall₂ Event.Same rows runs.flatten) ∧
      ∀ chunkSize, 1 ≤ chunkSize →
        EventChunks (rechunkEventPages pages chunkSize) chunkSize runs.flatten ∧
          ∀ first, 1 ≤ first →
            List.Forall₂ EventPage.Same
              (rechunkEventPages (rechunkEventPages pages first) chunkSize)
              (rechunkEventPages pages chunkSize) := by
  have packs : List.Forall₂ (fun run rows => ∃ page, packEventPage run = pure page ∧
      EventPageOf page rows) runs runs := by
    rw [List.forall₂_same]
    exact fun run member => packEventPage_of
      (alike.subset fun row within => List.mem_flatten_of_mem member within) (nonempty run member)
  obtain ⟨pages, packed, held⟩ := mapM_of_forall₂ packs
  refine ⟨pages, packed, (EventPageOf.merge held nonempty alike).unpack, ?_⟩
  intro chunkSize positive
  exact ⟨.of_pages positive (rechunkEventPages_of held nonempty alike positive),
    fun first positiveFirst => rechunkEventPages_again held nonempty alike positiveFirst positive⟩

end EventPages

structure Datum.Same (datum other : Datum) : Prop where
  datumId : datum.datumId = other.datumId
  resource : datum.resource = other.resource
  datumKwargs : Table.Same datum.datumKwargs other.datumKwargs

structure DatumPage.Same (page other : DatumPage) : Prop where
  datumId : page.datumId = other.datumId
  resource : page.resource = other.resource
  datumKwargs : Table.Same page.datumKwargs other.datumKwargs

/-- Every column of the page has one entry a row. -/
def DatumPage.Square (page : DatumPage) : Prop :=
  ∀ key column, page.datumKwargs.lookup key = some column → column.length = page.datumId.length

/-- Datums of one resource, with the same keys throughout. -/
structure DatumsAlike (rows : List Datum) : Prop where
  resource : ∀ row ∈ rows, ∀ other ∈ rows, row.resource = other.resource
  datumKwargs : Uniform (rows.map Datum.datumKwargs)

/-- The page of the rows. -/
structure DatumPageOf (page : DatumPage) (rows : List Datum) : Prop where
  datumId : page.datumId = rows.map Datum.datumId
  resource : ∀ row ∈ rows, row.resource = page.resource
  datumKwargs : ColumnsOf page.datumKwargs (rows.map Datum.datumKwargs)

/-- Pages of one size, a shorter last one apart, with the rows in them in order. -/
structure DatumChunks (pages : List DatumPage) (chunkSize : Nat) (rows : List Datum) : Prop where
  full : ∀ page ∈ pages.dropLast, page.datumId.length = chunkSize
  bounds : ∀ page ∈ pages, 0 < page.datumId.length ∧ page.datumId.length ≤ chunkSize
  square : ∀ page ∈ pages, page.Square
  unpacked : ∃ unpacked, pages.mapM unpackDatumPage = some unpacked ∧
    List.Forall₂ Datum.Same unpacked.flatten rows

section DatumPages

variable {page other : DatumPage} {pages : List DatumPage} {rows : List Datum}
  {runs : List (List Datum)}

theorem DatumsAlike.subset (alike : DatumsAlike rows) {fewer : List Datum} (among : fewer ⊆ rows) :
    DatumsAlike fewer where
  resource row member other memberOther :=
    alike.resource row (among member) other (among memberOther)
  datumKwargs := alike.datumKwargs.subset (List.map_subset _ among)

theorem packDatumPage_of (alike : DatumsAlike rows) (nonempty : rows ≠ []) :
    ∃ page, packDatumPage rows = .ok page ∧ DatumPageOf page rows := by
  obtain ⟨first, rest, rfl⟩ := List.exists_cons_of_ne_nil nonempty
  exact ⟨_, rfl, {
    datumId := rfl
    resource := fun row member => alike.resource row member first (by simp)
    datumKwargs := Table.columnsOf_packColumns alike.datumKwargs }⟩

theorem DatumPageOf.same (held : DatumPageOf page rows) (heldOther : DatumPageOf other rows)
    (nonempty : rows ≠ []) : page.Same other := by
  obtain ⟨first, member⟩ := List.exists_mem_of_ne_nil rows nonempty
  exact {
    datumId := held.datumId.trans heldOther.datumId.symm
    resource := (held.resource first member).symm.trans (heldOther.resource first member)
    datumKwargs := held.datumKwargs.same heldOther.datumKwargs (by simpa using nonempty) }

theorem DatumPageOf.unpack (held : DatumPageOf page rows) :
    ∃ unpacked, unpackDatumPage page = some unpacked ∧
      List.Forall₂ Datum.Same unpacked rows := by
  have count : page.datumId.length = rows.length := by simp [held.datumId]
  rw [unpackDatumPage, count]
  apply mapM_of_forall₂
  apply forall₂_range
  intro i row at_row
  have reads {α : Type} (read : Datum → α) : (rows.map read)[i]? = some (read row) := by
    rw [List.getElem?_map, at_row]
    rfl
  refine ⟨page.row i row.datumId, ?_, ?_⟩
  · rw [unpackDatum, held.datumId, reads]
    rfl
  · exact {
      datumId := rfl
      resource := (held.resource row (List.mem_of_getElem? at_row)).symm
      datumKwargs := held.datumKwargs.row (reads _) }

theorem DatumPageOf.slice (held : DatumPageOf page rows) (span : Nat × Nat) :
    DatumPageOf (sliceDatumPage page span) (slice rows span.1 span.2) where
  datumId := by rw [← Table.slice_map, ← held.datumId]; rfl
  resource row member :=
    held.resource row (List.mem_of_mem_take (List.mem_of_mem_drop member))
  datumKwargs := by
    rw [← Table.slice_map]
    exact columnsOf_sliceCols held.datumKwargs span.1 span.2

theorem DatumPageOf.merge (held : List.Forall₂ DatumPageOf pages runs)
    (nonempty : ∀ run ∈ runs, run ≠ []) (alike : DatumsAlike runs.flatten) :
    DatumPageOf (mergeDatumPages pages) runs.flatten := by
  unfold mergeDatumPages
  split
  · rename_i page
    cases held with
    | cons first rest =>
      cases rest
      simpa using first
  · rename_i several
    have rows : pages.flatMap DatumPage.datumId = runs.flatten.map Datum.datumId := by
      clear nonempty alike several
      induction held with
      | nil => rfl
      | cons first _ ih =>
        rw [List.flatMap_cons, ih, first.datumId, List.flatten_cons, List.map_append]
    have columns : ColumnsOf (joinColumns (pages.map DatumPage.datumKwargs))
        (runs.flatten.map Datum.datumKwargs) := by
      have uniform := alike.datumKwargs
      rw [List.map_flatten] at uniform ⊢
      refine ColumnsOf.join ?_ (by simpa using nonempty) uniform
      rw [List.forall₂_map_left_iff, List.forall₂_map_right_iff]
      exact held.imp fun _ _ held => held.datumKwargs
    refine ⟨rows, fun row member => ?_, columns⟩
    cases held with
    | nil => cases member
    | @cons page run _ _ first _ =>
      obtain ⟨held, among⟩ := List.exists_mem_of_ne_nil run (nonempty run (by simp))
      rw [alike.resource row member held (by simp [among]), first.resource held among]
      rfl

theorem rechunkDatumPages_of (held : List.Forall₂ DatumPageOf pages runs)
    (nonempty : ∀ run ∈ runs, run ≠ []) (alike : DatumsAlike runs.flatten) {chunkSize : Nat}
    (positive : 1 ≤ chunkSize) :
    List.Forall₂ DatumPageOf (rechunkDatumPages pages chunkSize)
      (chunks chunkSize runs.flatten) := by
  have merged := DatumPageOf.merge held nonempty alike
  have count : (mergeDatumPages pages).datumId.length = runs.flatten.length := by
    rw [merged.datumId, List.length_map]
  rw [rechunkDatumPages, if_neg (by omega)]
  simp only [count, chunks]
  rw [List.forall₂_map_left_iff, List.forall₂_map_right_iff, List.forall₂_same]
  exact fun span _ => merged.slice span

theorem DatumChunks.of_pages {chunkSize : Nat} (positive : 1 ≤ chunkSize)
    (held : List.Forall₂ DatumPageOf pages (chunks chunkSize rows)) :
    DatumChunks pages chunkSize rows where
  full page member := by
    obtain ⟨run, cut, of_run⟩ := exists_of_forall₂ (forall₂_dropLast held) member
    rw [of_run.datumId, List.length_map, chunk_full positive cut]
  bounds page member := by
    obtain ⟨run, cut, of_run⟩ := exists_of_forall₂ held member
    rw [of_run.datumId, List.length_map]
    exact chunk_bounds positive cut
  square page member key column found := by
    obtain ⟨run, cut, of_run⟩ := exists_of_forall₂ held member
    simpa [of_run.datumId] using of_run.datumKwargs.length found
  unpacked := by
    obtain ⟨unpacked, read, fits⟩ := mapM_of_forall₂ (held.imp fun _ _ held => held.unpack)
    refine ⟨unpacked, read, ?_⟩
    have whole := List.rel_flatten fits
    rwa [chunks_flatten positive] at whole

theorem rechunkDatumPages_again (held : List.Forall₂ DatumPageOf pages runs)
    (nonempty : ∀ run ∈ runs, run ≠ []) (alike : DatumsAlike runs.flatten) {first last : Nat}
    (positive : 1 ≤ first) (positiveLast : 1 ≤ last) :
    List.Forall₂ DatumPage.Same (rechunkDatumPages (rechunkDatumPages pages first) last)
      (rechunkDatumPages pages last) := by
  have once := rechunkDatumPages_of held nonempty alike positiveLast
  have whole := chunks_flatten positive runs.flatten
  have twice := rechunkDatumPages_of (rechunkDatumPages_of held nonempty alike positive)
    (chunks_nonempty positive _) (by rwa [whole]) positiveLast
  rw [whole] at twice
  have nonemptyLast := chunks_nonempty positiveLast runs.flatten
  exact forall₂_meet twice once fun run cut page other held heldOther =>
    held.same heldOther (nonemptyLast run cut)

theorem datumPages_preserve_rows (nonempty : ∀ run ∈ runs, run ≠ [])
    (alike : DatumsAlike runs.flatten) :
    ∃ pages, runs.mapM packDatumPage = .ok pages ∧
      (∃ rows, unpackDatumPage (mergeDatumPages pages) = some rows ∧
        List.Forall₂ Datum.Same rows runs.flatten) ∧
      ∀ chunkSize, 1 ≤ chunkSize →
        DatumChunks (rechunkDatumPages pages chunkSize) chunkSize runs.flatten ∧
          ∀ first, 1 ≤ first →
            List.Forall₂ DatumPage.Same
              (rechunkDatumPages (rechunkDatumPages pages first) chunkSize)
              (rechunkDatumPages pages chunkSize) := by
  have packs : List.Forall₂ (fun run rows => ∃ page, packDatumPage run = pure page ∧
      DatumPageOf page rows) runs runs := by
    rw [List.forall₂_same]
    exact fun run member => packDatumPage_of
      (alike.subset fun row within => List.mem_flatten_of_mem member within) (nonempty run member)
  obtain ⟨pages, packed, held⟩ := mapM_of_forall₂ packs
  refine ⟨pages, packed, (DatumPageOf.merge held nonempty alike).unpack, ?_⟩
  intro chunkSize positive
  exact ⟨.of_pages positive (rechunkDatumPages_of held nonempty alike positive),
    fun first positiveFirst => rechunkDatumPages_again held nonempty alike positiveFirst positive⟩

end DatumPages

/-- Pages keep the rows of both kinds, however the rows are split, joined and cut anew. -/
theorem pages_preserve_rows (eventRuns : List (List Event)) (datumRuns : List (List Datum))
    (nonempty : (∀ run ∈ eventRuns, run ≠ []) ∧ ∀ run ∈ datumRuns, run ≠ [])
    (alike : EventsAlike eventRuns.flatten ∧ DatumsAlike datumRuns.flatten) :
    (∃ pages, eventRuns.mapM packEventPage = .ok pages ∧
      (∃ rows, unpackEventPage (mergeEventPages pages) = some rows ∧
        List.Forall₂ Event.Same rows eventRuns.flatten) ∧
      ∀ chunkSize, 1 ≤ chunkSize →
        EventChunks (rechunkEventPages pages chunkSize) chunkSize eventRuns.flatten ∧
          ∀ first, 1 ≤ first →
            List.Forall₂ EventPage.Same
              (rechunkEventPages (rechunkEventPages pages first) chunkSize)
              (rechunkEventPages pages chunkSize)) ∧
      ∃ pages, datumRuns.mapM packDatumPage = .ok pages ∧
        (∃ rows, unpackDatumPage (mergeDatumPages pages) = some rows ∧
          List.Forall₂ Datum.Same rows datumRuns.flatten) ∧
        ∀ chunkSize, 1 ≤ chunkSize →
          DatumChunks (rechunkDatumPages pages chunkSize) chunkSize datumRuns.flatten ∧
            ∀ first, 1 ≤ first →
              List.Forall₂ DatumPage.Same
                (rechunkDatumPages (rechunkDatumPages pages first) chunkSize)
                (rechunkDatumPages pages chunkSize) :=
  ⟨eventPages_preserve_rows nonempty.1 alike.1, datumPages_preserve_rows nonempty.2 alike.2⟩

/-- A reading of one field. -/
def reading (uid : String) (seqNum : UInt64) (value : Int) : Event where
  uid
  descriptor := "d-1"
  time := .ofInt 100
  seqNum
  data := AList.singleton "x" ⟨.number (.int value), rfl⟩
  timestamps := AList.singleton "x" (.ofInt 100)
  filled := ∅

/-- A frame of one file. -/
def frame (datumId : String) (index : Int) : Datum where
  datumId
  resource := "file"
  datumKwargs := AList.singleton "index" ⟨.number (.int index), rfl⟩

/-- Three readings and three frames in pages of two rows and of one, packed and cut to two rows each. -/
theorem pages_preserve_rows_readings :
    (∃ pages, [[reading "e-1" 1 5, reading "e-2" 2 7], [reading "e-3" 3 7]].mapM packEventPage =
        .ok pages ∧
      EventChunks (rechunkEventPages pages 2) 2
        [reading "e-1" 1 5, reading "e-2" 2 7, reading "e-3" 3 7]) ∧
      ∃ pages, [[frame "file/0" 0], [frame "file/1" 1, frame "file/2" 2]].mapM packDatumPage =
          .ok pages ∧
        DatumChunks (rechunkDatumPages pages 2) 2 [frame "file/0" 0, frame "file/1" 1, frame "file/2" 2] ∧
        ∃ rows, unpackDatumPage (mergeDatumPages pages) = some rows ∧
          List.Forall₂ Datum.Same rows [frame "file/0" 0, frame "file/1" 1, frame "file/2" 2] := by
  obtain ⟨⟨pages, packed, -, cut⟩, frames, filed, unpacked, divided⟩ := pages_preserve_rows
    [[reading "e-1" 1 5, reading "e-2" 2 7], [reading "e-3" 3 7]]
    [[frame "file/0" 0], [frame "file/1" 1, frame "file/2" 2]] ⟨by simp, by simp⟩
    ⟨⟨by simp [reading], by simp [reading, Uniform, AList.mem_keys],
      by simp [reading, Uniform], by simp [reading, Uniform]⟩,
      ⟨by simp [frame], by simp [frame, Uniform, AList.mem_keys]⟩⟩
  exact ⟨⟨pages, packed, (cut 2 (by decide)).1⟩, frames, filed, (divided 2 (by decide)).1, unpacked⟩

end Bsrs.Zmq
