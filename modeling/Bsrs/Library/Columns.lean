import Bsrs.Library.Table
import Mathlib.Data.List.Forall2

namespace Bsrs.Library

namespace Table

variable {κ ν ω : Type}

/-- Keep the entries `choose` gives a value. -/
def filterMapValues (table : Table κ ν) (choose : κ → ν → Option ω) : Table κ ω where
  entries := table.entries.filterMap fun entry =>
    (choose entry.1 entry.2).map fun value => ⟨entry.1, value⟩
  nodupKeys := by
    have among : ∀ entries : List (Sigma fun _ : κ => ν),
        (entries.filterMap fun entry => (choose entry.1 entry.2).map fun value =>
          (⟨entry.1, value⟩ : Sigma fun _ : κ => ω)).keys.Sublist entries.keys := by
      intro entries
      induction entries with
      | nil => exact List.Sublist.slnil
      | cons entry rest ih =>
        cases chosen : choose entry.1 entry.2 with
        | none => simpa [chosen] using ih.cons entry.1
        | some value => simpa [chosen] using ih.cons_cons entry.1
    exact (among _).nodup table.nodupKeys

/-- Two tables read alike, whatever the order of their entries. -/
def Same [DecidableEq κ] (table other : Table κ ν) : Prop :=
  ∀ key, table.lookup key = other.lookup key

variable [DecidableEq κ]

@[simp]
theorem lookup_filterMapValues (table : Table κ ν) (choose : κ → ν → Option ω) (key : κ) :
    (table.filterMapValues choose).lookup key = (table.lookup key).bind (choose key) := by
  apply Option.ext
  intro value
  rw [← Option.mem_def, AList.mem_lookup_iff, Option.bind_eq_some_iff]
  simp only [filterMapValues, List.mem_filterMap, Option.map_eq_some_iff]
  constructor
  · rintro ⟨⟨held, kept⟩, member, chosen, choice, same⟩
    cases same
    exact ⟨kept, AList.mem_lookup_iff.mpr member, choice⟩
  · rintro ⟨kept, found, choice⟩
    exact ⟨⟨key, kept⟩, AList.mem_lookup_iff.mp found, value, choice, rfl⟩

/-- Append values to the column under a key, a new one when there is none. -/
def extendColumn (columns : Table κ (List ν)) (key : κ) (more : List ν) : Table κ (List ν) :=
  columns.insert key ((columns.lookup key).getD [] ++ more)

/-- Append a table of columns to another, key by key. -/
def extendColumns (columns page : Table κ (List ν)) : Table κ (List ν) :=
  page.entries.foldl (fun columns entry => columns.extendColumn entry.1 entry.2) columns

/-- What a key holds after more is appended. -/
def appended (held more : Option (List ν)) : Option (List ν) :=
  match more with
  | none => held
  | some more => some (held.getD [] ++ more)

theorem lookup_extendColumn (columns : Table κ (List ν)) (key other : κ) (more : List ν) :
    (columns.extendColumn key more).lookup other =
      if other = key then some ((columns.lookup key).getD [] ++ more) else columns.lookup other := by
  by_cases same : other = key
  · subst same
    rw [extendColumn, AList.lookup_insert, if_pos rfl]
  · rw [extendColumn, AList.lookup_insert_ne same, if_neg same]

private theorem lookup_foldl_extendColumn {entries : List (Sigma fun _ : κ => List ν)}
    (distinct : entries.NodupKeys) (columns : Table κ (List ν)) (key : κ) :
    (entries.foldl (fun columns entry => columns.extendColumn entry.1 entry.2) columns).lookup key =
      appended (columns.lookup key) (entries.dlookup key) := by
  induction entries generalizing columns with
  | nil => rfl
  | cons entry rest ih =>
    obtain ⟨held, more⟩ := entry
    obtain ⟨fresh, distinct⟩ := List.nodupKeys_cons.mp distinct
    rw [List.foldl_cons, ih distinct, lookup_extendColumn]
    by_cases same : key = held
    · subst same
      rw [if_pos rfl, List.dlookup_cons_eq, List.dlookup_eq_none.mpr fresh]
      rfl
    · rw [if_neg same, List.dlookup_cons_ne _ _ same]

theorem lookup_extendColumns (columns page : Table κ (List ν)) (key : κ) :
    (columns.extendColumns page).lookup key = appended (columns.lookup key) (page.lookup key) :=
  lookup_foldl_extendColumn page.nodupKeys columns key

/-- The tables of columns one after the other, in one. -/
def joinColumns (pages : List (Table κ (List ν))) : Table κ (List ν) :=
  pages.foldl extendColumns ∅

private theorem lookup_foldl_extendColumns (pages : List (Table κ (List ν)))
    (columns : Table κ (List ν)) (key : κ) :
    (pages.foldl extendColumns columns).lookup key =
      (pages.map (·.lookup key)).foldl appended (columns.lookup key) := by
  induction pages generalizing columns with
  | nil => rfl
  | cons page rest ih =>
    rw [List.foldl_cons, ih, lookup_extendColumns]
    rfl

theorem lookup_joinColumns (pages : List (Table κ (List ν))) (key : κ) :
    (joinColumns pages).lookup key = (pages.map (·.lookup key)).foldl appended none :=
  lookup_foldl_extendColumns pages ∅ key

theorem foldl_appended_none {columns : List (Option (List ν))}
    (absent : ∀ column ∈ columns, column = none) (held : Option (List ν)) :
    columns.foldl appended held = held := by
  induction columns with
  | nil => rfl
  | cons column rest ih =>
    rw [List.foldl_cons, absent column (by simp)]
    exact ih fun other member => absent other (by simp [member])

theorem foldl_appended_some (columns : List (List ν)) (held : List ν) :
    (columns.map some).foldl appended (some held) = some (held ++ columns.flatten) := by
  induction columns generalizing held with
  | nil => simp
  | cons column rest ih =>
    rw [List.map_cons, List.foldl_cons]
    exact (ih (held ++ column)).trans (by rw [List.flatten_cons, List.append_assoc])

/-! ## Rows and columns -/

/-- The columns are those of the rows: a key has a column of one value a row, or no row has it. -/
def ColumnsOf (columns : Table κ (List ν)) (rows : List (Table κ ν)) : Prop :=
  ∀ key, match columns.lookup key with
    | some column => column.map some = rows.map (·.lookup key)
    | none => ∀ row ∈ rows, row.lookup key = none

/-- Rows with the same keys. -/
def Uniform (rows : List (Table κ ν)) : Prop :=
  ∀ row ∈ rows, ∀ other ∈ rows, ∀ key, key ∈ row ↔ key ∈ other

/-- A row as columns of one value each. -/
def single (row : Table κ ν) : Table κ (List ν) :=
  row.mapValues fun _ value => [value]

theorem columnsOf_single (row : Table κ ν) : ColumnsOf row.single [row] := by
  intro key
  simp only [single, lookup_mapValues]
  cases found : row.lookup key <;> simp [found]

variable {columns other : Table κ (List ν)} {rows : List (Table κ ν)}

theorem ColumnsOf.length (held : ColumnsOf columns rows) {key : κ} {column : List ν}
    (found : columns.lookup key = some column) : column.length = rows.length := by
  have read := held key
  rw [found] at read
  simpa using congrArg List.length read

theorem ColumnsOf.lookup_of_none (held : ColumnsOf columns rows) (nonempty : rows ≠ []) {key : κ}
    (absent : ∀ row ∈ rows, row.lookup key = none) : columns.lookup key = none := by
  have read := held key
  cases found : columns.lookup key with
  | none => rfl
  | some column =>
    obtain ⟨row, rest, rfl⟩ := List.exists_cons_of_ne_nil nonempty
    rw [found, List.map_cons, absent row (by simp)] at read
    cases column <;> simp at read

theorem ColumnsOf.lookup_of_some (held : ColumnsOf columns rows) (nonempty : rows ≠ []) {key : κ}
    (present : ∀ row ∈ rows, (row.lookup key).isSome) :
    ∃ column, columns.lookup key = some column ∧ column.map some = rows.map (·.lookup key) := by
  have read := held key
  cases found : columns.lookup key with
  | some column =>
    rw [found] at read
    exact ⟨column, rfl, read⟩
  | none =>
    rw [found] at read
    obtain ⟨row, rest, rfl⟩ := List.exists_cons_of_ne_nil nonempty
    have first := present row (by simp)
    rw [read row (by simp)] at first
    simp at first

/-- The columns of some rows are settled by the rows. -/
theorem ColumnsOf.same (held : ColumnsOf columns rows) (heldOther : ColumnsOf other rows)
    (nonempty : rows ≠ []) : Same columns other := by
  intro key
  have read := held key
  have readOther := heldOther key
  cases found : columns.lookup key with
  | none =>
    rw [found] at read
    rw [heldOther.lookup_of_none nonempty read]
  | some column =>
    rw [found] at read
    cases foundOther : other.lookup key with
    | none =>
      rw [foundOther] at readOther
      rw [held.lookup_of_none nonempty readOther] at found
      cases found
    | some columnOther =>
      rw [foundOther] at readOther
      rw [List.map_injective_iff.mpr (fun _ _ => Option.some.inj) (read.trans readOther.symm)]

theorem ColumnsOf.row (held : ColumnsOf columns rows) {i : Nat} {row : Table κ ν}
    (at_row : rows[i]? = some row) :
    Same (columns.filterMapValues fun _ column => column[i]?) row := by
  intro key
  have read := held key
  rw [lookup_filterMapValues]
  cases found : columns.lookup key with
  | none =>
    rw [found] at read
    exact (read row (List.mem_of_getElem? at_row)).symm
  | some column =>
    rw [found] at read
    have value := congrArg (·[i]?) read
    simp only [List.getElem?_map, at_row, Option.map_some] at value
    cases entry : column[i]? with
    | none => simp [entry] at value
    | some held =>
      rw [entry] at value
      simpa [entry] using value

theorem Uniform.cases (uniform : Uniform rows) (key : κ) :
    (∀ row ∈ rows, row.lookup key = none) ∨ ∀ row ∈ rows, (row.lookup key).isSome := by
  by_cases absent : ∀ row ∈ rows, row.lookup key = none
  · exact .inl absent
  · push Not at absent
    obtain ⟨some, among, held⟩ := absent
    refine .inr fun row member => ?_
    rw [AList.lookup_isSome, uniform row member some among, ← AList.lookup_isSome]
    exact Option.isSome_iff_ne_none.mpr held

omit [DecidableEq κ] in
theorem Uniform.subset (uniform : Uniform rows) {fewer : List (Table κ ν)} (among : fewer ⊆ rows) :
    Uniform fewer :=
  fun row member other memberOther => uniform row (among member) other (among memberOther)

/-- Columns of runs of rows, joined, are the columns of all the rows. -/
theorem ColumnsOf.join {pages : List (Table κ (List ν))} {runs : List (List (Table κ ν))}
    (held : List.Forall₂ ColumnsOf pages runs) (nonempty : ∀ run ∈ runs, run ≠ [])
    (uniform : Uniform runs.flatten) : ColumnsOf (joinColumns pages) runs.flatten := by
  intro key
  rw [lookup_joinColumns]
  rcases uniform.cases key with absent | present
  · have none : ∀ column ∈ pages.map (·.lookup key), column = none := by
      clear uniform
      induction held with
      | nil => simp
      | @cons page run pages runs first held ih =>
        simp only [List.map_cons, List.forall_mem_cons]
        refine ⟨first.lookup_of_none (nonempty run (by simp))
          fun row member => absent row (by simp [member]), ?_⟩
        exact ih (fun run member => nonempty run (by simp [member]))
          fun row member => absent row (by simp [member])
    rw [foldl_appended_none none]
    exact absent
  · have some : ∃ columns : List (List ν), pages.map (·.lookup key) = columns.map some ∧
        columns.flatten.map some = runs.flatten.map (·.lookup key) := by
      clear uniform
      induction held with
      | nil => exact ⟨[], rfl, rfl⟩
      | @cons page run pages runs first held ih =>
        obtain ⟨column, found, read⟩ := first.lookup_of_some (nonempty run (by simp))
          fun row member => present row (by simp [member])
        obtain ⟨columns, founds, reads⟩ := ih (fun run member => nonempty run (by simp [member]))
          fun row member => present row (by simp [member])
        exact ⟨column :: columns, by simp [found, founds], by simp [read, reads]⟩
    obtain ⟨columns, founds, reads⟩ := some
    rw [founds]
    cases columns with
    | nil =>
      intro row member
      rw [List.flatten_nil, List.map_nil] at reads
      rw [List.map_eq_nil_iff.mp reads.symm] at member
      cases member
    | cons column columns =>
      rw [List.map_cons, List.foldl_cons]
      simp only [appended, foldl_appended_some, Option.getD_none, List.nil_append]
      rwa [List.flatten_cons] at reads

/-- Append a row, value by value. -/
def pushRow (columns : Table κ (List ν)) (row : Table κ ν) : Table κ (List ν) :=
  row.entries.foldl (fun columns entry => columns.extendColumn entry.1 [entry.2]) columns

/-- The columns of rows pushed one by one. -/
def packColumns (rows : List (Table κ ν)) : Table κ (List ν) :=
  rows.foldl pushRow ∅

theorem pushRow_eq (columns : Table κ (List ν)) (row : Table κ ν) :
    columns.pushRow row = columns.extendColumns row.single := by
  rw [pushRow, extendColumns, single, mapValues, List.foldl_map]

theorem packColumns_eq (rows : List (Table κ ν)) :
    packColumns rows = joinColumns (rows.map single) := by
  have each : pushRow (κ := κ) (ν := ν) = fun columns row => columns.extendColumns row.single :=
    funext fun columns => funext fun row => pushRow_eq columns row
  rw [packColumns, joinColumns, List.foldl_map, each]

theorem columnsOf_packColumns (uniform : Uniform rows) : ColumnsOf (packColumns rows) rows := by
  rw [packColumns_eq]
  have singles : (rows.map fun row => [row]).flatten = rows := by simp [← List.flatMap_def]
  rw [← singles] at uniform
  have pages : List.Forall₂ ColumnsOf (rows.map single) (rows.map fun row => [row]) := by
    rw [List.forall₂_map_left_iff, List.forall₂_map_right_iff, List.forall₂_same]
    exact fun row _ => columnsOf_single row
  have joined := ColumnsOf.join pages (by simp) uniform
  rwa [singles] at joined

/-! ## Slices -/

/-- The items of a range of positions. -/
def slice (items : List α) (start stop : Nat) : List α :=
  (items.take stop).drop start

theorem slice_clamped (items : List α) (start stop : Nat) :
    slice items (min start items.length) (min stop items.length) = slice items start stop := by
  have cut : items.take (min stop items.length) = items.take stop := by
    rw [← List.take_take, List.take_length]
  unfold slice
  rw [cut]
  by_cases within : start ≤ items.length
  · rw [Nat.min_eq_left within]
  · have short : (items.take stop).length ≤ items.length := by
      rw [List.length_take]
      omega
    rw [Nat.min_eq_right (by omega : items.length ≤ start), List.drop_eq_nil_of_le short,
      List.drop_eq_nil_of_le (by omega)]

theorem slice_map (items : List α) (read : α → β) (start stop : Nat) :
    slice (items.map read) start stop = (slice items start stop).map read := by
  rw [slice, slice, List.map_drop, List.map_take]

theorem length_slice (items : List α) (start stop : Nat) :
    (slice items start stop).length = min stop items.length - start := by
  rw [slice, List.length_drop, List.length_take]

theorem ColumnsOf.slice (held : ColumnsOf columns rows) (start stop : Nat) :
    ColumnsOf (columns.mapValues fun _ column => slice column start stop)
      (slice rows start stop) := by
  intro key
  have read := held key
  rw [lookup_mapValues]
  cases found : columns.lookup key with
  | none =>
    rw [found] at read
    exact fun row member => read row (List.mem_of_mem_take (List.mem_of_mem_drop member))
  | some column =>
    rw [found] at read
    simp only [Option.map_some, Table.slice, List.map_drop, List.map_take, read]

end Table

/-! ## Chunks -/

section Chunks

open Table (slice)

variable {α : Type} {chunk n : Nat}

/-- The ranges a loop over `n` rows cuts, at most `chunk` of them a turn. -/
def spans (chunk n : Nat) : Nat → Nat → List (Nat × Nat)
  | 0, _ => []
  | fuel + 1, start =>
      if start < n then
        let stop := min (start + chunk) n
        (start, stop) :: spans chunk n fuel stop
      else []

theorem span_bounds {fuel start : Nat} (positive : 1 ≤ chunk) {span : Nat × Nat}
    (member : span ∈ spans chunk n fuel start) :
    start ≤ span.1 ∧ span.1 < span.2 ∧ span.2 ≤ n ∧ span.2 ≤ span.1 + chunk := by
  induction fuel generalizing start with
  | zero => simp [spans] at member
  | succ fuel ih =>
    rw [spans] at member
    split at member
    · rcases List.mem_cons.mp member with rfl | later
      · dsimp only
        omega
      · have := ih later
        omega
    · cases member

theorem lt_of_spans_ne_nil {fuel start : Nat} (going : spans chunk n fuel start ≠ []) :
    start < n := by
  cases fuel with
  | zero => exact absurd rfl going
  | succ fuel =>
    by_contra stopped
    rw [spans, if_neg stopped] at going
    exact going rfl

theorem span_full {fuel start : Nat} {span : Nat × Nat}
    (member : span ∈ (spans chunk n fuel start).dropLast) : span.2 = span.1 + chunk := by
  induction fuel generalizing start with
  | zero => simp [spans] at member
  | succ fuel ih =>
    rw [spans] at member
    split at member
    · by_cases last : spans chunk n fuel (min (start + chunk) n) = []
      · simp [last] at member
      · rw [List.dropLast_cons_of_ne_nil last] at member
        have more := lt_of_spans_ne_nil last
        rcases List.mem_cons.mp member with rfl | later
        · dsimp only
          omega
        · exact ih later
    · cases member

/-- The chunks put together are the rows from the start on, with fuel for a turn a row. -/
theorem spans_flatten (positive : 1 ≤ chunk) (rows : List α) {fuel start : Nat}
    (enough : rows.length ≤ start + fuel) :
    ((spans chunk rows.length fuel start).map fun span => slice rows span.1 span.2).flatten =
      rows.drop start := by
  induction fuel generalizing start with
  | zero =>
    rw [List.drop_eq_nil_of_le (by simpa using enough)]
    rfl
  | succ fuel ih =>
    rw [spans]
    split
    · rename_i going
      rw [List.map_cons, List.flatten_cons, ih (by omega), slice]
      generalize stop_eq : min (start + chunk) rows.length = stop
      have within : start ≤ (rows.take stop).length := by
        rw [List.length_take]
        omega
      rw [← List.drop_append_of_le_length within, List.take_append_drop]
    · rename_i finished
      rw [List.drop_eq_nil_of_le (by omega)]
      rfl

/-- The rows in chunks. -/
def chunks (chunk : Nat) (rows : List α) : List (List α) :=
  (spans chunk rows.length rows.length 0).map fun span => slice rows span.1 span.2

theorem chunks_flatten (positive : 1 ≤ chunk) (rows : List α) :
    (chunks chunk rows).flatten = rows := by
  rw [chunks, spans_flatten positive rows (by omega), List.drop_zero]

theorem chunk_bounds (positive : 1 ≤ chunk) {rows run : List α} (member : run ∈ chunks chunk rows) :
    0 < run.length ∧ run.length ≤ chunk := by
  obtain ⟨span, cut, rfl⟩ := List.mem_map.mp member
  have bounds := span_bounds positive cut
  rw [Table.length_slice]
  omega

theorem chunks_nonempty (positive : 1 ≤ chunk) (rows : List α) :
    ∀ run ∈ chunks chunk rows, run ≠ [] :=
  fun _ cut => List.ne_nil_of_length_pos (chunk_bounds positive cut).1

theorem chunk_full (positive : 1 ≤ chunk) {rows run : List α}
    (member : run ∈ (chunks chunk rows).dropLast) : run.length = chunk := by
  rw [chunks, ← List.map_dropLast] at member
  obtain ⟨span, cut, rfl⟩ := List.mem_map.mp member
  have bounds := span_bounds positive (List.dropLast_subset _ cut)
  have full := span_full cut
  rw [Table.length_slice]
  omega

end Chunks

/-! ## Lists read one by one -/

section Each

variable {m : Type → Type} [Monad m] [LawfulMonad m] {α β γ : Type}

/-- Where every item gives a result, the list gives the results in order. -/
theorem mapM_of_forall₂ {read : α → m β} {Fits : β → γ → Prop} {items : List α} {rows : List γ}
    (each : List.Forall₂ (fun item row => ∃ result, read item = pure result ∧ Fits result row)
      items rows) :
    ∃ results, items.mapM read = pure results ∧ List.Forall₂ Fits results rows := by
  induction each with
  | nil => exact ⟨[], by simp, .nil⟩
  | cons first _ ih =>
    obtain ⟨result, given, fits⟩ := first
    obtain ⟨results, givens, fitting⟩ := ih
    exact ⟨result :: results, by simp [given, givens], .cons fits fitting⟩

theorem exists_of_forall₂ {Fits : β → γ → Prop} {items : List β} {rows : List γ}
    (fits : List.Forall₂ Fits items rows) {item : β} (member : item ∈ items) :
    ∃ row ∈ rows, Fits item row := by
  induction fits with
  | nil => cases member
  | @cons first row _ _ fit _ ih =>
    rcases List.mem_cons.mp member with rfl | later
    · exact ⟨row, by simp, fit⟩
    · obtain ⟨row, among, fit⟩ := ih later
      exact ⟨row, by simp [among], fit⟩

/-- Two lists that fit the same rows, place by place. -/
theorem forall₂_meet {Fits : α → γ → Prop} {FitsOther : β → γ → Prop} {Alike : α → β → Prop}
    {items : List α} {others : List β} {rows : List γ} (fits : List.Forall₂ Fits items rows)
    (fitsOther : List.Forall₂ FitsOther others rows)
    (alike : ∀ row ∈ rows, ∀ item other, Fits item row → FitsOther other row → Alike item other) :
    List.Forall₂ Alike items others := by
  induction fits generalizing others with
  | nil =>
    cases fitsOther
    exact .nil
  | @cons item row _ _ fit _ ih =>
    cases fitsOther with
    | cons fitOther fitsOther =>
      exact .cons (alike row (by simp) _ _ fit fitOther)
        (ih fitsOther fun row member => alike row (by simp [member]))

theorem forall₂_dropLast {Fits : β → γ → Prop} {items : List β} {rows : List γ}
    (fits : List.Forall₂ Fits items rows) : List.Forall₂ Fits items.dropLast rows.dropLast := by
  rw [List.dropLast_eq_take, List.dropLast_eq_take, fits.length_eq]
  exact List.forall₂_take _ fits

theorem forall₂_range {Fits : Nat → γ → Prop} {rows : List γ}
    (each : ∀ i row, rows[i]? = some row → Fits i row) :
    List.Forall₂ Fits (List.range rows.length) rows := by
  rw [List.forall₂_iff_get]
  refine ⟨by simp, fun i _ within => ?_⟩
  simpa using each i rows[i] (List.getElem?_eq_getElem within)

end Each

end Bsrs.Library
