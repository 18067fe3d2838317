import Bsrs.Blop.Routing
import Bsrs.Core.Error
import Mathlib.Data.List.Sort

/-! `read_step`: one optimization step as one event, through readables a cache keeps from step to
step. -/

namespace Bsrs.Blop

open Library
open Bsrs.Core (BsrsError Json Number)

/-- `to_string`. -/
def TrialId.text : TrialId → String
  | .int index => toString index
  | .str text => text

structure Outcome where
  id : TrialId
  values : Params

/-- `Source`. -/
inductive Source where
  | outcome
  | parameter
  | suggestionId
  | acquisitionUid
  | other
  deriving Repr, DecidableEq

def Source.asStr : Source → String
  | .outcome => "optimization-outcome"
  | .parameter => "optimization-parameter"
  | .suggestionId => "optimization-suggestion-id"
  | .acquisitionUid => "optimization-acquisition-uid"
  | .other => "optimization-other"

inductive Dtype where
  | string
  | number
  | array
  | boolean
  | integer
  deriving Repr, DecidableEq

/-- The data key inferred for a tracked value; its other fields are none. -/
structure TrackedKey where
  source : String
  dtype : Dtype
  shape : List (Option Nat)
  dtypeNumpy : String
  deriving Repr, DecidableEq

/-- `TrackingReadable`, its data key once it was described. -/
structure TrackingReadable where
  source : Source
  value : Json
  dataKey : Option TrackedKey

/-- `collapse`. -/
def collapse : Json → Json
  | .array [item] => item
  | value => value

def scalarDtype : Json → Dtype
  | .number (.float _) => .number
  | .number (.int _) => .integer
  | .bool _ => .boolean
  | _ => .string

def numpyDtype : Json → String
  | .number (.float _) => "<f8"
  | .number (.int _) => "<i8"
  | .bool _ => "|b1"
  | _ => "<U36"

/-- The element whose type is an array's: the first, or where that is null the first that is not. -/
def typicalElement (items : List Json) : Json :=
  match items.head?.getD .null with
  | .null => (items.find? fun item => !item.isNull).getD .null
  | element => element

/-- `infer_data_key`. -/
def inferDataKey (source : Source) (value : Json) : TrackedKey :=
  match value with
  | .array [item] =>
      { source := source.asStr, dtype := scalarDtype item, shape := []
        dtypeNumpy := numpyDtype (typicalElement [item]) }
  | .array items =>
      { source := source.asStr, dtype := .array, shape := [some items.length]
        dtypeNumpy := numpyDtype (typicalElement items) }
  | value =>
      { source := source.asStr, dtype := scalarDtype value, shape := []
        dtypeNumpy := numpyDtype value }

namespace TrackingReadable

variable (readable : TrackingReadable)

/-- The data key of a `describe`: the one it had, or the one of its value now. -/
def key : TrackedKey :=
  readable.dataKey.getD (inferDataKey readable.source readable.value)

/-- `describe_dyn`. -/
def describe : TrackingReadable :=
  { readable with dataKey := some readable.key }

end TrackingReadable

/-- `ReadableCache`. -/
abbrev ReadableCache := Table String TrackingReadable

/-- A value for a name to be tracked under. -/
structure Tracked where
  name : String
  source : Source
  value : Json

/-- `track`. -/
def track (cache : ReadableCache) (tracked : Tracked) : ReadableCache :=
  match cache.lookup tracked.name with
  | some readable => cache.insert tracked.name { readable with value := collapse tracked.value }
  | none => cache.insert tracked.name ⟨tracked.source, collapse tracked.value, none⟩

def acquisitionUidKey : String := "acquisition_uid"

def suggestionIdsKey : String := "suggestion_ids"

/-- A step whose outcomes were ingested; `uid` is its `event_value`. -/
structure Step where
  uid : Json
  suggestions : List Suggestion
  outcomes : List Outcome

/-- What is given for each id: `by_sid` or `by_oid` before the ids are made texts. -/
abbrev Given := List (TrialId × Params)

def Step.parameters (step : Step) : Given :=
  step.suggestions.map fun suggestion => (suggestion.id, suggestion.params)

def Step.results (step : Step) : Given :=
  step.outcomes.map fun outcome => (outcome.id, outcome.values)

namespace Given

/-- The keys of the map by text, in their order. -/
def texts (given : Given) : List String :=
  ((given.map fun one => one.1.text).dedup).insertionSort (· ≤ ·)

/-- What the map holds under a text: the last given for it. -/
def under (given : Given) (text : String) : Params :=
  ((given.reverse.find? fun one => one.1.text = text).map Prod.snd).getD ∅

end Given

/-- `entry(name).or_default().push(value)`. -/
def pushColumn (columns : Table String (List Json)) (pair : String × Json) :
    Table String (List Json) :=
  columns.insert pair.1 ((columns.lookup pair.1).getD [] ++ [pair.2])

/-- The columns of what is given, text by text. -/
def flatten (texts : List String) (given : Given) : Table String (List Json) :=
  (texts.flatMap fun text => (given.under text).pairs).foldl pushColumn ∅

/-- What a step tracks, columns padded to `n_points`. -/
def Step.tracked (step : Step) (nPoints : Nat) : List Tracked :=
  let texts := step.parameters.texts
  let pad := nPoints - texts.length
  let padded := fun (source : Source) (columns : Table String (List Json)) =>
    columns.pairs.map fun column =>
      (⟨column.1, source, .array (column.2 ++ List.replicate pad .null)⟩ : Tracked)
  [⟨suggestionIdsKey, .suggestionId,
      .array (texts.map .string ++ List.replicate pad (.string ""))⟩,
    ⟨acquisitionUidKey, .acquisitionUid, step.uid⟩] ++
    padded .parameter (flatten texts step.parameters) ++
    padded .outcome (flatten texts step.results)

/-- An event of a tracking stream, with the data keys of the stream and the step it is of. -/
structure TrackingEvent where
  step : Step
  data : Table String Json
  described : Table String TrackedKey

/-- `read_step`: every readable of the cache is read and described, and the stream has the data keys
of its first event. -/
def readStep (step : Step) (nPoints : Nat) (cache : ReadableCache)
    (described : Option (Table String TrackedKey)) :
    Except BsrsError (TrackingEvent × ReadableCache) :=
  if step.parameters.texts ≠ step.results.texts then
    .error (.plan (.planFailed
      ("The suggestions and outcomes must contain the same IDs. Got suggestions: " ++
        toString (step.parameters.texts.map String.quote) ++ " and outcomes: " ++
        toString (step.results.texts.map String.quote))))
  else
    let cache := (step.tracked nPoints).foldl track cache
    let event : TrackingEvent :=
      { step
        data := cache.mapValues fun _ readable => readable.value
        described := described.getD (cache.mapValues fun _ readable => readable.key) }
    .ok (event, cache.mapValues fun _ readable => readable.describe)

/-! ## The columns -/

/-- The values of a name in a table, as a list. -/
theorem filterMap_pairs {κ ν : Type} [DecidableEq κ] (table : Table κ ν) (name : κ) :
    table.pairs.filterMap (fun pair => if pair.1 = name then some pair.2 else none) =
      (table.lookup name).toList := by
  obtain ⟨entries, distinct⟩ := table
  simp only [Table.pairs, AList.lookup]
  induction entries with
  | nil => rfl
  | cons entry rest ih =>
      obtain ⟨apart, others⟩ := List.nodupKeys_cons.mp distinct
      rw [List.map_cons, List.filterMap_cons]
      by_cases same : entry.1 = name
      · subst same
        have none := List.dlookup_eq_none.mpr apart
        have found : List.dlookup entry.1 (entry :: rest) = some entry.2 := List.dlookup_cons_eq ..
        rw [found, if_pos rfl]
        simp only [ih others, none, Option.toList_none, Option.toList_some]
      · have passed : List.dlookup name (entry :: rest) = List.dlookup name rest :=
          List.dlookup_cons_ne rest entry (Ne.symm same)
        rw [passed, if_neg same]
        exact ih others

/-- What was pushed under a name, behind what was there. -/
theorem lookup_pushed (pairs : List (String × Json)) (name : String) :
    ∀ columns : Table String (List Json), (pairs.foldl pushColumn columns).lookup name =
      match pairs.filterMap (fun pair => if pair.1 = name then some pair.2 else none) with
      | [] => columns.lookup name
      | pushed => some ((columns.lookup name).getD [] ++ pushed) := by
  induction pairs with
  | nil => exact fun _ => rfl
  | cons pair rest ih =>
      intro columns
      rw [List.foldl_cons, ih, List.filterMap_cons]
      by_cases same : pair.1 = name
      · subst same
        rw [pushColumn, AList.lookup_insert, if_pos rfl]
        cases rest.filterMap fun other => if other.1 = pair.1 then some other.2 else none <;>
          simp
      · rw [pushColumn, AList.lookup_insert_ne (Ne.symm same), if_neg same]

namespace Given

/-- The values given for a name, text by text. -/
def column (given : Given) (texts : List String) (name : String) : List Json :=
  texts.filterMap fun text => (given.under text).lookup name

theorem lookup_flatten (given : Given) (texts : List String) (name : String) :
    (flatten texts given).lookup name =
      match given.column texts name with
      | [] => none
      | values => some values := by
  have pushed : (texts.flatMap fun text => (given.under text).pairs).filterMap
      (fun pair => if pair.1 = name then some pair.2 else none) = given.column texts name := by
    induction texts with
    | nil => rfl
    | cons text rest ih =>
        rw [List.flatMap_cons, List.filterMap_append, ih, filterMap_pairs, column, column,
          List.filterMap_cons]
        cases (given.under text).lookup name <;> rfl
  rw [flatten, lookup_pushed, pushed]
  cases given.column texts name <;> simp

variable {given : Given}

theorem mem_texts {text : String} : text ∈ given.texts ↔ ∃ one ∈ given, one.1.text = text := by
  simp [texts, List.mem_insertionSort, List.mem_dedup]

/-- What is given under a text that no other id prints as. -/
theorem under_text (distinct : (given.map fun one => one.1.text).Nodup) {one : TrialId × Params}
    (member : one ∈ given) : given.under one.1.text = one.2 := by
  have found : given.reverse.find? (fun other => other.1.text = one.1.text) = some one := by
    cases found : given.reverse.find? (fun other => other.1.text = one.1.text) with
    | none =>
        have missed := List.find?_eq_none.mp found one (List.mem_reverse.mpr member)
        simp at missed
    | some other =>
        have same : other.1.text = one.1.text := by simpa using List.find?_some found
        have among : other ∈ given := List.mem_reverse.mp (List.mem_of_find?_eq_some found)
        rw [List.inj_on_of_nodup_map distinct among member same]
  rw [under, found]
  rfl

/-- Every id of the step is given the same names. -/
def Uniform (given : Given) : Prop :=
  ∀ one ∈ given, ∀ other ∈ given, ∀ name, name ∈ one.2 → name ∈ other.2

/-- The column of a name that every id is given has a value for each of them. -/
theorem column_uniform (distinct : (given.map fun one => one.1.text).Nodup)
    (uniform : given.Uniform) {texts : List String} (known : ∀ text ∈ texts, text ∈ given.texts)
    {name : String} {one : TrialId × Params} (member : one ∈ given) (named : name ∈ one.2) :
    given.column texts name =
      texts.map fun text => ((given.under text).lookup name).getD .null := by
  rw [column, ← List.filterMap_eq_map]
  refine List.filterMap_congr fun text among => ?_
  obtain ⟨other, there, rfl⟩ := mem_texts.mp (known text among)
  have has := uniform one member other there name named
  obtain ⟨value, found⟩ := Option.isSome_iff_exists.mp (AList.lookup_isSome.mpr has)
  simp [under_text distinct there, found]

end Given

/-! ## The cache -/

/-- What a step leaves of a name in the cache: the value tracked for it, with the source and the data
key it had. -/
def Tracked.left (tracked : Tracked) (cache : ReadableCache) : TrackingReadable where
  source := ((cache.lookup tracked.name).map TrackingReadable.source).getD tracked.source
  value := collapse tracked.value
  dataKey := (cache.lookup tracked.name).bind TrackingReadable.dataKey

theorem lookup_track_self (cache : ReadableCache) (tracked : Tracked) :
    (track cache tracked).lookup tracked.name = some (tracked.left cache) := by
  unfold track Tracked.left
  cases cache.lookup tracked.name <;> simp [AList.lookup_insert]

theorem lookup_track_ne (cache : ReadableCache) {tracked : Tracked} {name : String}
    (different : name ≠ tracked.name) : (track cache tracked).lookup name = cache.lookup name := by
  unfold track
  cases cache.lookup tracked.name <;> simp [AList.lookup_insert_ne different]

theorem lookup_tracks_of_notMem {all : List Tracked} {name : String} :
    ∀ {cache : ReadableCache}, name ∉ all.map Tracked.name →
      (all.foldl track cache).lookup name = cache.lookup name := by
  induction all with
  | nil => exact fun _ => rfl
  | cons tracked rest ih =>
      intro cache apart
      rw [List.map_cons, List.mem_cons, not_or] at apart
      rw [List.foldl_cons, ih apart.2, lookup_track_ne cache apart.1]

/-- Names that are told apart are all tracked. -/
theorem lookup_tracks {all : List Tracked} {tracked : Tracked} :
    ∀ {cache : ReadableCache}, (all.map Tracked.name).Nodup → tracked ∈ all →
      (all.foldl track cache).lookup tracked.name = some (tracked.left cache) := by
  induction all with
  | nil =>
      intro cache _ member
      cases member
  | cons first rest ih =>
      intro cache distinct member
      obtain ⟨apart, others⟩ := List.nodup_cons.mp distinct
      rw [List.foldl_cons]
      rcases List.mem_cons.mp member with rfl | among
      · rw [lookup_tracks_of_notMem apart, lookup_track_self]
      · have different : tracked.name ≠ first.name := fun same =>
          apart (same ▸ List.mem_map_of_mem among)
        rw [ih others among, Tracked.left, Tracked.left, lookup_track_ne cache different]

/-! ## What an event has to be -/

/-- The entries of a value that a column was collapsed to. -/
def entriesOf : Json → List Json
  | .array items => items
  | value => [value]

/-- A number, text or truth value is of a numpy type; a text has 36 characters at most. -/
def Fits (numpy : String) : Json → Prop
  | .number (.float _) => numpy = "<f8"
  | .number (.int _) => numpy = "<i8" ∨ numpy = "<f8"
  | .bool _ => numpy = "|b1"
  | .string text => numpy = "<U36" ∧ text.length ≤ 36
  | _ => False

/-- A number, text or truth value is of a data type. -/
def FitsDtype (dtype : Dtype) : Json → Prop
  | .number (.float _) => dtype = .number
  | .number (.int _) => dtype = .integer ∨ dtype = .number
  | .bool _ => dtype = .boolean
  | .string _ => dtype = .string
  | _ => False

/-- The value has the shape and the type of a data key, nulls of an array aside. -/
def TrackedKey.Describes (key : TrackedKey) (value : Json) : Prop :=
  (key.shape = [] ∧ FitsDtype key.dtype value ∧ Fits key.dtypeNumpy value) ∨
    key.dtype = .array ∧ ∃ items, value = .array items ∧ key.shape = [some items.length] ∧
      ∀ item ∈ items, item = .null ∨ Fits key.dtypeNumpy item

/-- The kinds of values that a data key tells apart. -/
inductive Kind where
  | float
  | int
  | bool
  | text

namespace Kind

def dtype : Kind → Dtype
  | .float => .number
  | .int => .integer
  | .bool => .boolean
  | .text => .string

def numpy : Kind → String
  | .float => "<f8"
  | .int => "<i8"
  | .bool => "|b1"
  | .text => "<U36"

/-- A value of the kind, or an integer among floats; a text is not too long. -/
def Holds : Kind → Json → Prop
  | .float, .number _ => True
  | .int, .number (.int _) => True
  | .bool, .bool _ => True
  | .text, .string letters => letters.length ≤ 36
  | _, _ => False

/-- The kind of a value that is no array, object or null. -/
def of : Json → Option Kind
  | .number (.float _) => some .float
  | .number (.int _) => some .int
  | .bool _ => some .bool
  | .string _ => some .text
  | _ => none

variable {kind : Kind} {value : Json}

theorem Holds.fits (holds : kind.Holds value) : Fits kind.numpy value ∧ FitsDtype kind.dtype value := by
  unfold Holds at holds
  split at holds
  · rename_i number
    cases number <;> simp [Fits, FitsDtype, numpy, dtype]
  · simp [Fits, FitsDtype, numpy, dtype]
  · simp [Fits, FitsDtype, numpy, dtype]
  · exact ⟨⟨rfl, holds⟩, rfl⟩
  · exact holds.elim

theorem types_of (same : of value = some kind) :
    scalarDtype value = kind.dtype ∧ numpyDtype value = kind.numpy ∧ value ≠ .null ∧
      ∀ items, value ≠ .array items := by
  cases value with
  | number number =>
      cases number <;> (cases same; simp [scalarDtype, numpyDtype, dtype, numpy])
  | bool => cases same; simp [scalarDtype, numpyDtype, dtype, numpy]
  | string => cases same; simp [scalarDtype, numpyDtype, dtype, numpy]
  | _ => cases same

end Kind

/-- The data key is that of so many values of a kind. -/
def TrackedKey.Of (key : TrackedKey) (kind : Kind) (count : Nat) : Prop :=
  key.dtypeNumpy = kind.numpy ∧
    if count = 1 then key.shape = [] ∧ key.dtype = kind.dtype
    else key.shape = [some count] ∧ key.dtype = .array

/-- The values are of one kind, nulls among several aside: that of the data key, where there is one,
and else that of the first. -/
def Alike (values : List Json) (described : Option TrackedKey) : Prop :=
  ∃ kind : Kind, (∀ value ∈ values, value = .null ∧ values.length ≠ 1 ∨ kind.Holds value) ∧
    match described with
    | some key => key.Of kind values.length
    | none => ∀ first ∈ values.head?, Kind.of first = some kind

theorem Alike.ne_array {values : List Json} {described : Option TrackedKey}
    (alike : Alike values described) (items : List Json) : values ≠ [.array items] := by
  rintro rfl
  obtain ⟨kind, holds, -⟩ := alike
  rcases holds _ (List.mem_singleton_self _) with ⟨null, -⟩ | held
  · cases null
  · cases kind <;> exact held.elim

/-- Values that are alike are described by the data key there is, or by the one inferred from them. -/
theorem Alike.describes {values : List Json} {described : Option TrackedKey}
    (alike : Alike values described) (source : Source) :
    (described.getD (inferDataKey source (collapse (.array values)))).Describes
      (collapse (.array values)) := by
  obtain ⟨kind, holds, keyed⟩ := alike
  have fits : ∀ value ∈ values, value = .null ∨ Fits kind.numpy value := fun value member =>
    (holds value member).imp And.left fun held => held.fits.1
  rcases single : values with _ | ⟨value, _ | ⟨second, rest⟩⟩
  · subst single
    cases described with
    | none => exact .inr ⟨rfl, [], rfl, rfl, by simp⟩
    | some key => exact .inr ⟨keyed.2.2, [], rfl, keyed.2.1, by simp⟩
  · subst single
    have held : kind.Holds value :=
      (holds value (List.mem_singleton_self _)).resolve_left fun null => null.2 rfl
    cases described with
    | none =>
        obtain ⟨dtype, numpy, -, plain⟩ := Kind.types_of (keyed value rfl)
        have inferred : inferDataKey source value =
            ⟨source.asStr, kind.dtype, [], kind.numpy⟩ := by
          rw [← dtype, ← numpy]
          cases value with
          | array items => exact absurd rfl (plain items)
          | _ => rfl
        exact .inl (inferred ▸ ⟨rfl, held.fits.2, held.fits.1⟩)
    | some key =>
        obtain ⟨numpy, shape, dtype⟩ := keyed
        exact .inl ⟨shape, dtype ▸ held.fits.2, numpy ▸ held.fits.1⟩
  · rw [← single]
    have several : values.length ≠ 1 := by simp [single]
    have array : collapse (.array values) = .array values := by rw [single]; rfl
    rw [array]
    cases described with
    | none =>
        obtain ⟨-, numpy, some, -⟩ := Kind.types_of (keyed value (by rw [single]; rfl))
        have inferred : inferDataKey source (.array values) =
            ⟨source.asStr, .array, [Option.some values.length], kind.numpy⟩ := by
          rw [← numpy, single]
          simp only [inferDataKey, typicalElement, List.head?_cons, Option.getD_some]
        exact .inr (inferred ▸ ⟨rfl, values, rfl, rfl, fits⟩)
    | some key =>
        obtain ⟨numpy, typed⟩ := keyed
        rw [if_neg several] at typed
        exact .inr ⟨typed.2, values, rfl, typed.1, numpy ▸ fits⟩

/-- A column has an entry for each id: what is given for that id, or null; and what is given for an
id is the entry of that id. -/
structure Recorded (ids entries : List Json) (given : Given) (name : String) : Prop where
  even : entries.length = ids.length
  sound : ∀ (place : Nat) entry, entries[place]? = some entry → entry = .null ∨
    ∃ one ∈ given, ids[place]? = some (.string one.1.text) ∧ one.2.lookup name = some entry
  complete : ∀ one ∈ given, ∀ value, one.2.lookup name = some value →
    ∃ place : Nat, ids[place]? = some (.string one.1.text) ∧ entries[place]? = some value

/-- A name is given for some id. -/
def Given.Names (given : Given) (name : String) : Prop :=
  ∃ one ∈ given, name ∈ one.2

/-- The names of an event of the step. -/
def Step.Names (step : Step) (name : String) : Prop :=
  name = suggestionIdsKey ∨ name = acquisitionUidKey ∨ step.parameters.Names name ∨
    step.results.Names name

namespace TrackingEvent

variable (event : TrackingEvent)

/-- The ids of an event. -/
def ids : List Json :=
  ((event.data.lookup suggestionIdsKey).map entriesOf).getD []

/-- The names given for the ids are columns of the event. -/
def Columns (given : Given) : Prop :=
  ∀ one ∈ given, ∀ name ∈ one.2, ∃ value, event.data.lookup name = some value ∧
    Recorded event.ids (entriesOf value) given name

/-- The event is of its step alone, column by column, as its stream describes it. -/
structure Faithful : Prop where
  listed : ∀ one ∈ event.step.parameters, .string one.1.text ∈ event.ids
  parameters : event.Columns event.step.parameters
  results : event.Columns event.step.results
  uid : event.data.lookup acquisitionUidKey = some (collapse event.step.uid)
  own : ∀ name ∈ event.data, event.step.Names name
  matching : ∀ name value, event.data.lookup name = some value →
    ∃ key, event.described.lookup name = some key ∧ key.Describes value
  described : ∀ name ∈ event.described, name ∈ event.data

end TrackingEvent

/-- The data key that a name has been described by. -/
def describedKey (cache : ReadableCache) (name : String) : Option TrackedKey :=
  (cache.lookup name).bind TrackingReadable.dataKey

/-- The values given for a name are of one kind, nulls among several aside: that of the data key for
so many, where there is one, and else that of the value for the first of the ids as texts. -/
def Given.Alike (given : Given) (name : String) (count : Nat) (described : Option TrackedKey) : Prop :=
  ∃ kind : Kind,
    (∀ one ∈ given, ∀ value, one.2.lookup name = some value →
      value = .null ∧ count ≠ 1 ∨ kind.Holds value) ∧
    match described with
    | some key => key.Of kind count
    | none => ∀ one ∈ given, given.texts.head? = some one.1.text →
        (one.2.lookup name).bind Kind.of = some kind

/-- The ids of a step print apart and are given the same names, which are those of the cache and the
stream and told apart; and what is given for a name is alike, and as it was when the name was first
described. -/
structure Step.Tidy (step : Step) (nPoints : Nat) (cache : ReadableCache)
    (described : Option (Table String TrackedKey)) : Prop where
  parameters : (step.parameters.map fun one => one.1.text).Nodup
  results : (step.results.map fun one => one.1.text).Nodup
  evenParameters : step.parameters.Uniform
  evenResults : step.results.Uniform
  apart : ∀ name, step.parameters.Names name → ¬ step.results.Names name
  reserved : ∀ name, step.parameters.Names name ∨ step.results.Names name →
    name ≠ suggestionIdsKey ∧ name ≠ acquisitionUidKey
  current : ∀ name ∈ cache, step.Names name
  known : ∀ keys, described = some keys → ∀ name, step.Names name → name ∈ keys
  alikeParameters : ∀ name, step.parameters.Names name → step.parameters.Alike name
    (max step.parameters.length nPoints) (describedKey cache name)
  alikeResults : ∀ name, step.results.Names name → step.results.Alike name
    (max step.parameters.length nPoints) (describedKey cache name)
  shortIds : ∀ one ∈ step.parameters, one.1.text.length ≤ 36
  asManyIds : ∀ key, describedKey cache suggestionIdsKey = some key →
    key.Of .text (max step.parameters.length nPoints)
  alikeUid : Alike (entriesOf step.uid) (describedKey cache acquisitionUidKey)

namespace Given

variable {given : Given}

theorem mem_flatten (distinct : (given.map fun one => one.1.text).Nodup) (uniform : given.Uniform)
    {name : String} : name ∈ flatten given.texts given ↔ given.Names name := by
  rw [← AList.lookup_isSome, lookup_flatten]
  constructor
  · intro there
    cases values : given.column given.texts name with
    | nil => simp [values] at there
    | cons value rest =>
        have member : value ∈ given.column given.texts name := by
          rw [values]
          exact List.mem_cons_self
        obtain ⟨text, among, found⟩ := List.mem_filterMap.mp member
        obtain ⟨one, held, rfl⟩ := mem_texts.mp among
        rw [under_text distinct held] at found
        exact ⟨one, held, AList.lookup_isSome.mp (by rw [found]; rfl)⟩
  · rintro ⟨one, held, named⟩
    rw [column_uniform distinct uniform (fun _ among => among) held named]
    cases values : given.texts.map fun text => ((given.under text).lookup name).getD .null with
    | nil =>
        have among := mem_texts.mpr ⟨one, held, rfl⟩
        rw [List.map_eq_nil_iff.mp values] at among
        cases among
    | cons value rest => rfl

/-- A padded column of a name that every id is given is recorded. -/
theorem recorded (distinct : (given.map fun one => one.1.text).Nodup) (uniform : given.Uniform)
    {name : String} (named : given.Names name) (pad : Nat) :
    ∃ values, (flatten given.texts given).lookup name = some values ∧
      values.length = given.texts.length ∧
      Recorded (given.texts.map .string ++ List.replicate pad (.string ""))
        (values ++ List.replicate pad .null) given name := by
  obtain ⟨one, held, has⟩ := named
  have column := column_uniform distinct uniform (fun _ among => among) held has
  refine ⟨given.texts.map fun text => ((given.under text).lookup name).getD .null, ?_, by simp, ?_⟩
  · rw [lookup_flatten, column]
    cases values : given.texts.map fun text => ((given.under text).lookup name).getD .null with
    | nil =>
        have among := mem_texts.mpr ⟨one, held, rfl⟩
        rw [List.map_eq_nil_iff.mp values] at among
        cases among
    | cons value rest => rfl
  · refine ⟨by simp, fun place entry found => ?_, fun other there value given => ?_⟩
    · by_cases within : place < given.texts.length
      · rw [List.getElem?_append_left (by simpa using within), List.getElem?_map] at found
        rw [List.getElem?_append_left (by simpa using within), List.getElem?_map]
        obtain ⟨text, at_place, rfl⟩ := Option.map_eq_some_iff.mp found
        obtain ⟨other, there, rfl⟩ := mem_texts.mp (List.mem_of_getElem? at_place)
        refine Or.inr ⟨other, there, by rw [at_place]; rfl, ?_⟩
        obtain ⟨value, kept⟩ := Option.isSome_iff_exists.mp
          (AList.lookup_isSome.mpr (uniform one held other there name has))
        rw [under_text distinct there, kept]
        rfl
      · rw [List.getElem?_append_right (by simpa using within)] at found
        exact Or.inl (List.eq_of_mem_replicate (List.mem_of_getElem? found))
    · obtain ⟨place, at_place⟩ := List.getElem?_of_mem (mem_texts.mpr ⟨other, there, rfl⟩)
      have within : place < _ := (List.getElem?_eq_some_iff.mp at_place).1
      refine ⟨place, ?_, ?_⟩
      · rw [List.getElem?_append_left (by simpa using within), List.getElem?_map, at_place]
        rfl
      · rw [List.getElem?_append_left (by simpa using within), List.getElem?_map, at_place,
          Option.map_some, under_text distinct there, given]
        rfl

/-- What is given for a name id by id, padded, is alike. -/
theorem Alike.padded {described : Option TrackedKey} {name : String} {pad : Nat}
    (distinct : (given.map fun one => one.1.text).Nodup) (uniform : given.Uniform)
    (named : given.Names name)
    (alike : given.Alike name (given.texts.length + pad) described) {values : List Json}
    (found : (flatten given.texts given).lookup name = some values) :
    Blop.Alike (values ++ List.replicate pad .null) described := by
  obtain ⟨one, held, has⟩ := named
  obtain ⟨kind, holds, keyed⟩ := alike
  have given_at : ∀ other ∈ given, ∃ value, other.2.lookup name = some value ∧
      ((given.under other.1.text).lookup name).getD .null = value := by
    intro other there
    obtain ⟨value, kept⟩ := Option.isSome_iff_exists.mp
      (AList.lookup_isSome.mpr (uniform one held other there name has))
    exact ⟨value, kept, by rw [under_text distinct there, kept]; rfl⟩
  have nonempty : given.texts ≠ [] := List.ne_nil_of_mem (mem_texts.mpr ⟨one, held, rfl⟩)
  have column : values = given.texts.map fun text => ((given.under text).lookup name).getD .null := by
    rw [lookup_flatten, column_uniform distinct uniform (fun _ among => among) held has] at found
    cases texts : given.texts with
    | nil => exact absurd texts nonempty
    | cons text rest =>
        simp only [texts, List.map_cons, Option.some.injEq] at found
        rw [List.map_cons]
        exact found.symm
  have total : (values ++ List.replicate pad Json.null).length = given.texts.length + pad := by
    rw [List.length_append, column, List.length_map, List.length_replicate]
  refine ⟨kind, fun value member => ?_, ?_⟩
  · rw [total]
    rcases List.mem_append.mp member with column_member | padding
    · rw [column] at column_member
      obtain ⟨text, among, rfl⟩ := List.mem_map.mp column_member
      obtain ⟨other, there, rfl⟩ := mem_texts.mp among
      obtain ⟨value, kept, same⟩ := given_at other there
      rw [same]
      exact holds other there value kept
    · refine .inl ⟨List.eq_of_mem_replicate padding, ?_⟩
      have some := List.length_pos_iff.mpr nonempty
      have padded : pad ≠ 0 := by
        rintro rfl
        simp at padding
      omega
  · cases described with
    | some key =>
        rw [total]
        exact keyed
    | none =>
        intro first leads
        obtain ⟨text, rest, texts⟩ := List.exists_cons_of_ne_nil nonempty
        obtain ⟨other, there, same⟩ := mem_texts.mp (texts ▸ List.mem_cons_self : text ∈ given.texts)
        obtain ⟨value, kept, at'⟩ := given_at other there
        have own := keyed other there (by rw [texts, same]; rfl)
        rw [kept, Option.bind_some] at own
        rw [column, texts, List.map_cons, List.cons_append, List.head?_cons, Option.mem_some_iff,
          ← same, at'] at leads
        rw [← leads]
        exact own

end Given

/-! ## The event of a step -/

theorem mem_names_pairs {table : Table String ν} {name : String} :
    name ∈ table.pairs.map Prod.fst ↔ name ∈ table := by
  rw [← AList.lookup_isSome, Option.isSome_iff_exists]
  constructor
  · intro member
    obtain ⟨pair, among, rfl⟩ := List.mem_map.mp member
    exact ⟨pair.2, Table.mem_pairs.mp among⟩
  · rintro ⟨value, found⟩
    exact List.mem_map.mpr ⟨_, Table.mem_pairs.mpr found, rfl⟩

namespace Step

variable {step : Step} {nPoints : Nat} {cache : ReadableCache}
  {described : Option (Table String TrackedKey)}

theorem names_tracked (step : Step) (nPoints : Nat) :
    (step.tracked nPoints).map Tracked.name =
      [suggestionIdsKey, acquisitionUidKey] ++
        ((flatten step.parameters.texts step.parameters).pairs.map Prod.fst ++
          (flatten step.parameters.texts step.results).pairs.map Prod.fst) := by
  simp [tracked, Function.comp_def]

theorem Tidy.mem_names (tidy : step.Tidy nPoints cache described)
    (same : step.parameters.texts = step.results.texts) {name : String} :
    name ∈ (step.tracked nPoints).map Tracked.name ↔ step.Names name := by
  have parameters : name ∈ flatten step.parameters.texts step.parameters ↔
      step.parameters.Names name := Given.mem_flatten tidy.parameters tidy.evenParameters
  have results : name ∈ flatten step.parameters.texts step.results ↔ step.results.Names name := by
    rw [same]
    exact Given.mem_flatten tidy.results tidy.evenResults
  rw [names_tracked, List.mem_append, List.mem_append, mem_names_pairs, mem_names_pairs, parameters,
    results]
  simp [Names, or_assoc]

theorem Tidy.nodup_names (tidy : step.Tidy nPoints cache described)
    (same : step.parameters.texts = step.results.texts) :
    ((step.tracked nPoints).map Tracked.name).Nodup := by
  have parameters : ∀ {name}, name ∈ (flatten step.parameters.texts step.parameters).pairs.map
      Prod.fst → step.parameters.Names name := fun member =>
    (Given.mem_flatten tidy.parameters tidy.evenParameters).mp (mem_names_pairs.mp member)
  have results : ∀ {name}, name ∈ (flatten step.parameters.texts step.results).pairs.map
      Prod.fst → step.results.Names name := by
    intro name member
    rw [same] at member
    exact (Given.mem_flatten tidy.results tidy.evenResults).mp (mem_names_pairs.mp member)
  rw [names_tracked]
  refine List.Nodup.append (by decide) ?_ fun name fixed given => ?_
  · exact List.Nodup.append (Table.nodup_pairs _) (Table.nodup_pairs _) fun name one other =>
      tidy.apart name (parameters one) (results other)
  · have either := (List.mem_append.mp given).imp parameters results
    obtain ⟨notIds, notUid⟩ := tidy.reserved name either
    rcases List.mem_cons.mp fixed with rfl | rest
    · exact notIds rfl
    · exact notUid (List.mem_singleton.mp rest)

end Step

/-- A column that is collapsed has its entries still, unless the only one is an array. -/
theorem entriesOf_collapse {entries : List Json}
    (plain : ∀ items, entries ≠ [.array items]) : entriesOf (collapse (.array entries)) = entries := by
  cases entries with
  | nil => rfl
  | cons entry rest =>
      cases rest with
      | cons other more => rfl
      | nil =>
          cases entry with
          | array items => exact absurd rfl (plain items)
          | _ => rfl

/-- Every readable of a cache was described, and the data keys of the stream are theirs. -/
structure Keyed (cache : ReadableCache) (described : Option (Table String TrackedKey)) : Prop where
  keys : ∀ name readable, cache.lookup name = some readable → readable.dataKey.isSome = true
  stream : ∀ keys, described = some keys → ∀ name,
    keys.lookup name = (cache.lookup name).bind TrackingReadable.dataKey

namespace Step

variable {step : Step} {nPoints : Nat} {cache : ReadableCache}
  {described : Option (Table String TrackedKey)}

/-- The cache a step leaves, and what of it is read. -/
def cached (step : Step) (nPoints : Nat) (cache : ReadableCache) : ReadableCache :=
  (step.tracked nPoints).foldl track cache

theorem readStep_ok {event : TrackingEvent} {next : ReadableCache}
    (done : readStep step nPoints cache described = .ok (event, next)) :
    step.parameters.texts = step.results.texts ∧
      event =
        { step
          data := (step.cached nPoints cache).mapValues fun _ readable => readable.value
          described := described.getD
            ((step.cached nPoints cache).mapValues fun _ readable => readable.key) } ∧
      next = (step.cached nPoints cache).mapValues fun _ readable => readable.describe := by
  unfold readStep at done
  split at done
  · cases done
  · rename_i same
    cases done
    exact ⟨Classical.not_not.mp same, rfl, rfl⟩

theorem Tidy.lookup_cached (tidy : step.Tidy nPoints cache described)
    (same : step.parameters.texts = step.results.texts) {tracked : Tracked}
    (member : tracked ∈ step.tracked nPoints) :
    (step.cached nPoints cache).lookup tracked.name = some (tracked.left cache) :=
  lookup_tracks (tidy.nodup_names same) member

/-- What the cache holds after a step is what the step tracked. -/
theorem Tidy.cached_tracked (tidy : step.Tidy nPoints cache described)
    (same : step.parameters.texts = step.results.texts) {name : String}
    {readable : TrackingReadable} (found : (step.cached nPoints cache).lookup name = some readable) :
    ∃ tracked ∈ step.tracked nPoints, tracked.name = name ∧ readable = tracked.left cache := by
  have among : name ∈ (step.tracked nPoints).map Tracked.name := by
    by_contra apart
    have kept := found
    rw [cached, lookup_tracks_of_notMem apart] at kept
    have there : name ∈ cache := AList.lookup_isSome.mp (by rw [kept]; rfl)
    exact apart ((tidy.mem_names same).mpr (tidy.current name there))
  obtain ⟨tracked, member, rfl⟩ := List.mem_map.mp among
  rw [tidy.lookup_cached same member] at found
  exact ⟨tracked, member, rfl, (Option.some.inj found).symm⟩

theorem Tidy.mem_cached (tidy : step.Tidy nPoints cache described)
    (same : step.parameters.texts = step.results.texts) {name : String} :
    name ∈ step.cached nPoints cache ↔ step.Names name := by
  rw [← tidy.mem_names same]
  constructor
  · intro there
    obtain ⟨readable, found⟩ := Option.isSome_iff_exists.mp (AList.lookup_isSome.mpr there)
    obtain ⟨tracked, member, rfl, _⟩ := tidy.cached_tracked same found
    exact List.mem_map_of_mem member
  · intro among
    obtain ⟨tracked, member, rfl⟩ := List.mem_map.mp among
    exact AList.lookup_isSome.mp (by rw [tidy.lookup_cached same member]; rfl)

/-- The stream has the data key of every readable that a step leaves, and of no other. -/
theorem Tidy.lookup_described (tidy : step.Tidy nPoints cache described)
    (keyed : Keyed cache described) (same : step.parameters.texts = step.results.texts)
    (name : String) :
    (described.getD ((step.cached nPoints cache).mapValues fun _ readable => readable.key)).lookup
        name = ((step.cached nPoints cache).lookup name).map TrackingReadable.key := by
  cases stream : described with
  | none => rw [Option.getD_none, Table.lookup_mapValues]
  | some keys =>
      rw [Option.getD_some]
      cases found : (step.cached nPoints cache).lookup name with
      | none =>
          have absent : name ∉ cache := by
            intro there
            have still := (tidy.mem_cached same).mpr (tidy.current name there)
            rw [← AList.lookup_isSome, found] at still
            cases still
          rw [keyed.stream keys stream name, AList.lookup_eq_none.mpr absent]
          rfl
      | some readable =>
          obtain ⟨tracked, member, rfl, rfl⟩ := tidy.cached_tracked same found
          have named := (tidy.mem_names same).mp (List.mem_map_of_mem member)
          obtain ⟨key, held⟩ := Option.isSome_iff_exists.mp
            (AList.lookup_isSome.mpr (tidy.known keys stream tracked.name named))
          have own := keyed.stream keys stream tracked.name
          rw [held] at own ⊢
          rw [Option.map_some, TrackingReadable.key, Tracked.left, ← own, Option.getD_some]

/-- The points of a step, each with an entry of its own. -/
theorem Tidy.points (tidy : step.Tidy nPoints cache described) :
    step.parameters.texts.length + (nPoints - step.parameters.texts.length) =
      max step.parameters.length nPoints := by
  have counted : step.parameters.texts.length = step.parameters.length := by
    rw [Given.texts, (List.perm_insertionSort ..).length_eq, tidy.parameters.dedup, List.length_map]
  omega

/-- A column of the event, as it was padded and collapsed. -/
theorem Tidy.column (tidy : step.Tidy nPoints cache described)
    (same : step.parameters.texts = step.results.texts) {given : Given} {source : Source}
    (texts : given.texts = step.parameters.texts)
    (distinct : (given.map fun one => one.1.text).Nodup) (uniform : given.Uniform)
    (tracks : ∀ column ∈ (flatten step.parameters.texts given).pairs,
      (⟨column.1, source, .array (column.2 ++ List.replicate
        (nPoints - step.parameters.texts.length) .null)⟩ : Tracked) ∈ step.tracked nPoints)
    {name : String} (named : given.Names name)
    (alike : given.Alike name (max step.parameters.length nPoints) (describedKey cache name)) :
    ∃ readable, (step.cached nPoints cache).lookup name = some readable ∧
      Recorded
        (step.parameters.texts.map .string ++
          List.replicate (nPoints - step.parameters.texts.length) (.string ""))
        (entriesOf readable.value) given name := by
  obtain ⟨values, found, length, recorded⟩ := Given.recorded distinct uniform named
    (nPoints - step.parameters.texts.length)
  rw [← tidy.points, ← texts] at alike
  have entries := alike.padded distinct uniform named found
  rw [texts] at found length recorded entries
  have member := tracks (name, values) (Table.mem_pairs.mpr found)
  refine ⟨_, tidy.lookup_cached same member, ?_⟩
  rw [Tracked.left, entriesOf_collapse entries.ne_array]
  exact recorded

theorem ids_tracked (step : Step) (nPoints : Nat) :
    (⟨suggestionIdsKey, .suggestionId, .array (step.parameters.texts.map .string ++
      List.replicate (nPoints - step.parameters.texts.length) (.string ""))⟩ : Tracked) ∈
        step.tracked nPoints := by
  simp [tracked]

theorem uid_tracked (step : Step) (nPoints : Nat) :
    (⟨acquisitionUidKey, .acquisitionUid, step.uid⟩ : Tracked) ∈ step.tracked nPoints := by
  simp [tracked]

/-- The ids of a step are texts, so that nothing is lost of them as they are collapsed. -/
theorem entriesOf_ids (texts : List String) (pad : Nat) :
    entriesOf (collapse (.array (texts.map .string ++ List.replicate pad (.string "")))) =
      texts.map .string ++ List.replicate pad (.string "") := by
  refine entriesOf_collapse fun items only => ?_
  have member : Json.array items ∈ texts.map .string ++ List.replicate pad (.string "") := by
    rw [only]
    exact List.mem_singleton_self _
  rcases List.mem_append.mp member with text | padding
  · obtain ⟨_, _, wrong⟩ := List.mem_map.mp text
    cases wrong
  · cases List.eq_of_mem_replicate padding

theorem collapse_entriesOf (value : Json) : collapse (.array (entriesOf value)) = collapse value := by
  cases value <;> rfl

/-- A padded column is described by the data key of its name. -/
theorem Tidy.describes_column (tidy : step.Tidy nPoints cache described) {given : Given}
    (texts : given.texts = step.parameters.texts)
    (distinct : (given.map fun one => one.1.text).Nodup) (uniform : given.Uniform)
    (alike : ∀ name, given.Names name →
      given.Alike name (max step.parameters.length nPoints) (describedKey cache name))
    {source : Source} {column : String × List Json}
    (among : column ∈ (flatten step.parameters.texts given).pairs) :
    ((describedKey cache column.1).getD (inferDataKey source (collapse (.array (column.2 ++
      List.replicate (nPoints - step.parameters.texts.length) .null))))).Describes
        (collapse (.array (column.2 ++
          List.replicate (nPoints - step.parameters.texts.length) .null))) := by
  have found := Table.mem_pairs.mp among
  rw [← texts] at found
  have named : given.Names column.1 :=
    (Given.mem_flatten distinct uniform).mp (AList.lookup_isSome.mp (by rw [found]; rfl))
  have own := alike column.1 named
  rw [← tidy.points, ← texts] at own
  rw [← texts]
  exact (own.padded distinct uniform named found).describes source

theorem Tidy.alikeIds (tidy : step.Tidy nPoints cache described) :
    Alike (step.parameters.texts.map Json.string ++
      List.replicate (nPoints - step.parameters.texts.length) (.string ""))
        (describedKey cache suggestionIdsKey) := by
  refine ⟨.text, fun value member => .inr ?_, ?_⟩
  · rcases List.mem_append.mp member with text | padding
    · obtain ⟨text, known, rfl⟩ := List.mem_map.mp text
      obtain ⟨one, held, rfl⟩ := Given.mem_texts.mp known
      exact tidy.shortIds one held
    · rw [List.eq_of_mem_replicate padding]
      exact Nat.zero_le _
  · cases known : describedKey cache suggestionIdsKey with
    | some key =>
        have own := tidy.asManyIds key known
        rw [← tidy.points] at own
        simpa using own
    | none =>
        intro first leads
        rcases List.mem_append.mp (List.mem_of_head? leads) with text | padding
        · obtain ⟨text, -, rfl⟩ := List.mem_map.mp text
          rfl
        · rw [List.eq_of_mem_replicate padding]
          rfl

/-- What a tidy step tracks has the shape and the type of its data key. -/
theorem Tidy.typed (tidy : step.Tidy nPoints cache described)
    (same : step.parameters.texts = step.results.texts) :
    ∀ tracked ∈ step.tracked nPoints,
      (tracked.left cache).key.Describes (collapse tracked.value) := by
  intro tracked member
  simp only [Step.tracked, List.mem_append, List.mem_cons, List.not_mem_nil, or_false,
    List.mem_map] at member
  rcases member with ((rfl | rfl) | ⟨column, among, rfl⟩) | ⟨column, among, rfl⟩
  · exact tidy.alikeIds.describes _
  · have described := tidy.alikeUid.describes
    rw [collapse_entriesOf] at described
    exact described _
  · exact tidy.describes_column rfl tidy.parameters tidy.evenParameters tidy.alikeParameters among
  · exact tidy.describes_column same.symm tidy.results tidy.evenResults tidy.alikeResults among

/-- A tidy step is one faithful event, and leaves every readable described as the stream is. -/
theorem Tidy.readStep (tidy : step.Tidy nPoints cache described) (keyed : Keyed cache described)
    {event : TrackingEvent} {next : ReadableCache}
    (done : readStep step nPoints cache described = .ok (event, next)) :
    event.step = step ∧ event.Faithful ∧ Keyed next (some event.described) := by
  obtain ⟨same, rfl, rfl⟩ := readStep_ok done
  have data : ∀ name, ((step.cached nPoints cache).mapValues fun _ readable =>
      readable.value).lookup name =
        ((step.cached nPoints cache).lookup name).map TrackingReadable.value :=
    fun name => Table.lookup_mapValues ..
  have member : ∀ name, name ∈ ((step.cached nPoints cache).mapValues fun _ readable =>
      readable.value) ↔ step.Names name := by
    intro name
    rw [← tidy.mem_cached same, ← AList.lookup_isSome, ← AList.lookup_isSome, data,
      Option.isSome_map]
  have ids : TrackingEvent.ids
      { step
        data := (step.cached nPoints cache).mapValues fun _ readable => readable.value
        described := described.getD
          ((step.cached nPoints cache).mapValues fun _ readable => readable.key) } =
      step.parameters.texts.map .string ++
        List.replicate (nPoints - step.parameters.texts.length) (.string "") := by
    rw [TrackingEvent.ids, data, tidy.lookup_cached same (ids_tracked step nPoints)]
    exact entriesOf_ids _ _
  refine ⟨rfl, ⟨?_, ?_, ?_, ?_, ?_, ?_, ?_⟩, ?_, ?_⟩
  · intro one there
    rw [ids]
    exact List.mem_append_left _ (List.mem_map_of_mem (Given.mem_texts.mpr ⟨one, there, rfl⟩))
  · intro one there name named
    have given : step.parameters.Names name := ⟨one, there, named⟩
    obtain ⟨readable, found, recorded⟩ := tidy.column same rfl tidy.parameters tidy.evenParameters
      (fun column among => by
        refine List.mem_append_left _ (List.mem_append_right _ ?_)
        exact List.mem_map_of_mem among)
      given (tidy.alikeParameters name given)
    exact ⟨readable.value, by rw [data, found]; rfl, ids ▸ recorded⟩
  · intro one there name named
    have given : step.results.Names name := ⟨one, there, named⟩
    obtain ⟨readable, found, recorded⟩ := tidy.column same same.symm tidy.results tidy.evenResults
      (fun column among => by
        refine List.mem_append_right _ ?_
        exact List.mem_map_of_mem among)
      given (tidy.alikeResults name given)
    exact ⟨readable.value, by rw [data, found]; rfl, ids ▸ recorded⟩
  · rw [data, tidy.lookup_cached same (uid_tracked step nPoints)]
    rfl
  · exact fun name there => (member name).mp there
  · intro name value found
    rw [data] at found
    obtain ⟨readable, held, rfl⟩ := Option.map_eq_some_iff.mp found
    obtain ⟨tracked, among, rfl, rfl⟩ := tidy.cached_tracked same held
    refine ⟨_, ?_, tidy.typed same tracked among⟩
    rw [tidy.lookup_described keyed same, held]
    rfl
  · intro name there
    rw [← AList.lookup_isSome, tidy.lookup_described keyed same, Option.isSome_map,
      AList.lookup_isSome, tidy.mem_cached same] at there
    exact (member name).mpr there
  · intro name readable found
    rw [Table.lookup_mapValues] at found
    obtain ⟨before, _, rfl⟩ := Option.map_eq_some_iff.mp found
    rfl
  · rintro keys ⟨rfl⟩ name
    rw [tidy.lookup_described keyed same, Table.lookup_mapValues]
    cases (step.cached nPoints cache).lookup name <;> rfl

end Step

end Bsrs.Blop
