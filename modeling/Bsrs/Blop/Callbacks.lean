import Bsrs.Core.Error
import Bsrs.EventModel.Documents
import Bsrs.Library.Run

/-! The router that forwards the documents of optimization runs to a list of sinks. -/

namespace Bsrs.Blop

open Bsrs.Library (Table exec Throughout exec_invariant_throughout)
open Bsrs.Core (BsrsError)
open EventModel

variable {Sink : Type}

/-- A matching run in flight: the sinks captured at its start and the uids of its `primary`
descriptors. -/
structure RoutedRun (Sink : Type) where
  sinks : List Sink
  primary : List Uid

structure RouterState (Sink : Type) where
  runs : Table Uid (RoutedRun Sink)
  descriptors : Table Uid Uid

def RouterState.new : RouterState Sink :=
  ⟨∅, ∅⟩

def optimizeRunKey : String := "optimize"

def sampleSuggestionsRunKey : String := "sample_suggestions"

/-- The JSON text of a string that nothing in is escaped. -/
def stringValue (text : String) : Value :=
  "\"" ++ text ++ "\""

/-- Whether a start document opens a run the router forwards. -/
def matchesKey (start : RunStart) : Bool :=
  start.extra.lookup "run_key" == some (stringValue optimizeRunKey) ||
    start.extra.lookup "run_key" == some (stringValue sampleSuggestionsRunKey)

/-- The sinks a document goes to, or none. -/
def targets (sinks : List Sink) (state : RouterState Sink) : Document → List Sink × RouterState Sink
  | .start start =>
      if matchesKey start then
        (sinks, { state with runs := state.runs.insert start.uid ⟨sinks, []⟩ })
      else ([], state)
  | .descriptor desc =>
      match state.runs.lookup desc.runStart with
      | none => ([], state)
      | some run =>
          if desc.name = some "primary" then
            (run.sinks,
              { runs := state.runs.insert desc.runStart
                  { run with primary := run.primary.insert desc.uid }
                descriptors := state.descriptors.insert desc.uid desc.runStart })
          else ([], state)
  | .event event =>
      (((state.descriptors.lookup event.descriptor).bind fun run => state.runs.lookup run).elim []
        RoutedRun.sinks, state)
  | .stop stop =>
      match state.runs.lookup stop.runStart with
      | none => ([], state)
      | some run =>
          (run.sinks,
            { runs := state.runs.erase stop.runStart
              descriptors := run.primary.foldl (fun table uid => table.erase uid) state.descriptors })
  | _ => ([], state)

/-- The calls that `dispatch` makes, the first at the given place, and its result: it leaves at the
first error. -/
def forward (doc : Document) (answer : Nat → Except BsrsError Unit) :
    List Sink → Nat → List (Sink × Document) × Except BsrsError Unit
  | [], _ => ([], .ok ())
  | sink :: rest, place =>
      match answer place with
      | .error err => ([(sink, doc)], .error err)
      | .ok () =>
          let later := forward doc answer rest (place + 1)
          ((sink, doc) :: later.1, later.2)

/-- The list that is edited, the router, every call of a sink, and every document with the list it
came under. -/
structure Routing (Sink : Type) where
  sinks : List Sink
  state : RouterState Sink
  calls : List (Sink × Document)
  seen : List (List Sink × Document)

def Routing.new (sinks : List Sink) : Routing Sink :=
  ⟨sinks, .new, [], []⟩

/-- An edit of the list, or a document and what the sinks it goes to answer. -/
inductive RouterAct (Sink : Type) where
  | edit (sinks : List Sink)
  | dispatch (doc : Document) (answer : Nat → Except BsrsError Unit)

/-- A document goes to its sinks in turn. -/
def Routing.dispatch (routing : Routing Sink) (doc : Document) (answer : Nat → Except BsrsError Unit) :
    Routing Sink :=
  { routing with
    state := (targets routing.sinks routing.state doc).2
    calls := routing.calls ++ (forward doc answer (targets routing.sinks routing.state doc).1 0).1
    seen := routing.seen ++ [(routing.sinks, doc)] }

def Routing.step (routing : Routing Sink) : RouterAct Sink → Option (Routing Sink)
  | .edit sinks => some { routing with sinks := sinks }
  | .dispatch doc answer => some (routing.dispatch doc answer)

namespace Routing

/-- The documents that came, in order. -/
def docs (routing : Routing Sink) : List Document :=
  routing.seen.map Prod.snd

/-- The documents a sink was called with, in order. -/
def received [DecidableEq Sink] (routing : Routing Sink) (sink : Sink) : List Document :=
  (routing.calls.filter fun call => call.1 = sink).map Prod.snd

end Routing

/-- A matching run that started under a list of sinks. -/
def Captured (seen : List (List Sink × Document)) (run : Uid) (sinks : List Sink) : Prop :=
  ∃ start, (sinks, .start start) ∈ seen ∧ matchesKey start = true ∧ start.uid = run

/-- Among documents, those a run is forwarded by: its start, its primary descriptors, the events of
these and its stop. -/
def ofRun (docs : List Document) (run : Uid) : Document → Bool
  | .start start => start.uid == run
  | .descriptor desc => desc.runStart == run && desc.name == some "primary"
  | .event event =>
      docs.any fun
        | .descriptor desc =>
            desc.uid == event.descriptor && desc.runStart == run && desc.name == some "primary"
        | _ => false
  | .stop stop => stop.runStart == run
  | _ => false

/-- A run that has started and not stopped. -/
def Open (docs : List Document) (run : Uid) : Prop :=
  (∃ start, .start start ∈ docs ∧ start.uid = run) ∧ ∀ stop, .stop stop ∈ docs → stop.runStart ≠ run

/-- A document that may come next where the documents of runs are interleaved. -/
def Joins (docs : List Document) : Document → Prop
  | .start start => ∀ earlier, .start earlier ∈ docs → earlier.uid ≠ start.uid
  | .descriptor desc => Open docs desc.runStart ∧
      ∀ earlier, .descriptor earlier ∈ docs → earlier.uid ≠ desc.uid
  | .event event => ∃ desc, .descriptor desc ∈ docs ∧ desc.uid = event.descriptor ∧
      Open docs desc.runStart
  | .stop stop => Open docs stop.runStart
  | _ => True

/-- Each sink captured at a matching start is called with exactly that run's documents, in order; a
sink is called with no other; and once all runs have stopped the router holds nothing. -/
structure Isolated [DecidableEq Sink] (routing : Routing Sink) : Prop where
  receives : ∀ run sinks, Captured routing.seen run sinks → ∀ sink ∈ sinks,
    (routing.received sink).filter (ofRun routing.docs run) =
      routing.docs.filter (ofRun routing.docs run)
  only : ∀ sink, ∀ doc ∈ routing.received sink, ∃ run sinks, Captured routing.seen run sinks ∧
    sink ∈ sinks ∧ ofRun routing.docs run doc = true
  empty : (∀ start, .start start ∈ routing.docs →
      ∃ stop, .stop stop ∈ routing.docs ∧ stop.runStart = start.uid) →
    routing.state.runs = ∅ ∧ routing.state.descriptors = ∅

/-- The documents of interleaved runs: each belongs to a run that started, and uids are used once. -/
structure Coherent (seen : List (List Sink × Document)) : Prop where
  once : ∀ sinks others start other, (sinks, .start start) ∈ seen → (others, .start other) ∈ seen →
    start.uid = other.uid → sinks = others
  alone : ∀ desc other, .descriptor desc ∈ seen.map Prod.snd → .descriptor other ∈ seen.map Prod.snd →
    desc.uid = other.uid → desc = other
  descriptor : ∀ desc, .descriptor desc ∈ seen.map Prod.snd →
    ∃ start, .start start ∈ seen.map Prod.snd ∧ start.uid = desc.runStart
  event : ∀ event, .event event ∈ seen.map Prod.snd →
    ∃ desc, .descriptor desc ∈ seen.map Prod.snd ∧ desc.uid = event.descriptor
  stop : ∀ stop, .stop stop ∈ seen.map Prod.snd →
    ∃ start, .start start ∈ seen.map Prod.snd ∧ start.uid = stop.runStart

section Documents

variable {seen : List (List Sink × Document)} {sinks : List Sink} {doc : Document}

theorem mem_docs_snoc {other : Document} :
    other ∈ (seen ++ [(sinks, doc)]).map Prod.snd ↔ other ∈ seen.map Prod.snd ∨ other = doc := by
  simp

theorem mem_docs {other : Document} (member : (sinks, other) ∈ seen) : other ∈ seen.map Prod.snd :=
  List.mem_map.mpr ⟨_, member, rfl⟩

/-- Interleaved documents stay coherent with the next. -/
theorem Coherent.snoc (coherent : Coherent seen) (joins : Joins (seen.map Prod.snd) doc) :
    Coherent (seen ++ [(sinks, doc)]) := by
  have older : ∀ start : RunStart, .start start ∈ seen.map Prod.snd →
      .start start ∈ (seen ++ [(sinks, doc)]).map Prod.snd :=
    fun start member => mem_docs_snoc.mpr (.inl member)
  constructor
  · intro first second start other one two same
    rcases List.mem_append.mp one with left | last <;> rcases List.mem_append.mp two with right | newest
    · exact coherent.once first second start other left right same
    · cases List.mem_singleton.mp newest
      exact absurd same (joins start (mem_docs left))
    · cases List.mem_singleton.mp last
      exact absurd same.symm (joins other (mem_docs right))
    · cases List.mem_singleton.mp last
      cases List.mem_singleton.mp newest
      rfl
  · intro desc other one two same
    rcases mem_docs_snoc.mp one with left | rfl <;> rcases mem_docs_snoc.mp two with right | last
    · exact coherent.alone desc other left right same
    · subst last
      exact absurd same (joins.2 desc left)
    · exact absurd same.symm (joins.2 other right)
    · cases last
      rfl
  · intro desc member
    rcases mem_docs_snoc.mp member with member | rfl
    · obtain ⟨start, begun, same⟩ := coherent.descriptor desc member
      exact ⟨start, older start begun, same⟩
    · obtain ⟨⟨start, begun, same⟩, _⟩ := joins.1
      exact ⟨start, older start begun, same⟩
  · intro event member
    rcases mem_docs_snoc.mp member with member | rfl
    · obtain ⟨desc, described, same⟩ := coherent.event event member
      exact ⟨desc, mem_docs_snoc.mpr (.inl described), same⟩
    · obtain ⟨desc, described, same, _⟩ := joins
      exact ⟨desc, mem_docs_snoc.mpr (.inl described), same⟩
  · intro stop member
    rcases mem_docs_snoc.mp member with member | rfl
    · obtain ⟨start, begun, same⟩ := coherent.stop stop member
      exact ⟨start, older start begun, same⟩
    · obtain ⟨⟨start, begun, same⟩, _⟩ := joins
      exact ⟨start, older start begun, same⟩

/-- A primary descriptor of a run. -/
def Primary (docs : List Document) (uid run : Uid) : Prop :=
  ∃ desc, .descriptor desc ∈ docs ∧ desc.uid = uid ∧ desc.runStart = run ∧ desc.name = some "primary"

theorem ofRun_event {docs : List Document} {run : Uid} {event : Event} :
    ofRun docs run (.event event) = true ↔ Primary docs event.descriptor run := by
  simp only [ofRun, List.any_eq_true]
  constructor
  · rintro ⟨other, member, described⟩
    split at described
    · rename_i desc
      simp only [Bool.and_eq_true, beq_iff_eq] at described
      exact ⟨desc, member, described.1.1, described.1.2, described.2⟩
    · cases described
  · rintro ⟨desc, member, uid, run, name⟩
    exact ⟨_, member, by simp [uid, run, name]⟩

theorem ofRun_descriptor {docs : List Document} {run : Uid} {desc : EventDescriptor} :
    ofRun docs run (.descriptor desc) = true ↔ desc.runStart = run ∧ desc.name = some "primary" := by
  simp [ofRun]

/-- A document that came belongs to the runs it belonged to, whatever comes. -/
theorem ofRun_snoc (coherent : Coherent seen) (joins : Joins (seen.map Prod.snd) doc) (run : Uid)
    {other : Document} (member : other ∈ seen.map Prod.snd) :
    ofRun ((seen ++ [(sinks, doc)]).map Prod.snd) run other = ofRun (seen.map Prod.snd) run other := by
  cases other with
  | event event =>
      rw [Bool.eq_iff_iff, ofRun_event, ofRun_event]
      constructor
      · rintro ⟨desc, among, uid, rest⟩
        rcases mem_docs_snoc.mp among with among | rfl
        · exact ⟨desc, among, uid, rest⟩
        · obtain ⟨earlier, described, same⟩ := coherent.event event member
          exact absurd (same.trans uid.symm) (joins.2 earlier described)
      · rintro ⟨desc, among, rest⟩
        exact ⟨desc, mem_docs_snoc.mpr (.inl among), rest⟩
  | _ => rfl

/-- No document of a run comes before its start. -/
theorem not_ofRun_of_new (coherent : Coherent seen) {run : Uid}
    (new : ∀ start, .start start ∈ seen.map Prod.snd → start.uid ≠ run) {other : Document}
    (member : other ∈ seen.map Prod.snd) : ofRun (seen.map Prod.snd) run other = false := by
  rw [Bool.eq_false_iff]
  intro belongs
  cases other with
  | start start => exact new start member (by simpa [ofRun] using belongs)
  | descriptor desc =>
      obtain ⟨start, begun, same⟩ := coherent.descriptor desc member
      exact new start begun (same.trans (ofRun_descriptor.mp belongs).1)
  | event event =>
      obtain ⟨desc, described, _, same, _⟩ := ofRun_event.mp belongs
      obtain ⟨start, begun, own⟩ := coherent.descriptor desc described
      exact new start begun (own.trans same)
  | stop stop =>
      obtain ⟨start, begun, same⟩ := coherent.stop stop member
      exact new start begun (same.trans (by simpa [ofRun] using belongs))
  | _ => cases belongs

/-- What the router holds of the documents that came: the matching runs that are open, under the lists
captured at their starts, and their primary descriptors. -/
structure Tracks (seen : List (List Sink × Document)) (state : RouterState Sink) : Prop where
  routed : ∀ run held, state.runs.lookup run = some held → Captured seen run held.sinks ∧
    Open (seen.map Prod.snd) run ∧ ∀ uid, uid ∈ held.primary ↔ Primary (seen.map Prod.snd) uid run
  held : ∀ run sinks, Captured seen run sinks → Open (seen.map Prod.snd) run →
    ∃ held, state.runs.lookup run = some held
  described : ∀ uid run, state.descriptors.lookup uid = some run ↔
    Primary (seen.map Prod.snd) uid run ∧ ∃ held, state.runs.lookup run = some held

/-- The run a document is forwarded for, with its sinks, or there is none and no sink. -/
def RoutedTo (seen : List (List Sink × Document)) (doc : Document) (sinks : List Sink) : Prop :=
  (sinks = [] ∧ ∀ run list, Captured seen run list → ofRun (seen.map Prod.snd) run doc = false) ∨
    ∃ run, Captured seen run sinks ∧ ofRun (seen.map Prod.snd) run doc = true ∧
      ∀ other list, Captured seen other list → ofRun (seen.map Prod.snd) other doc = true → other = run

theorem captured_snoc {run : Uid} {list : List Sink} :
    Captured (seen ++ [(sinks, doc)]) run list ↔ Captured seen run list ∨
      (list = sinks ∧ ∃ start, doc = .start start ∧ matchesKey start = true ∧ start.uid = run) := by
  constructor
  · rintro ⟨start, member, matching, same⟩
    rcases List.mem_append.mp member with earlier | last
    · exact .inl ⟨start, earlier, matching, same⟩
    · cases List.mem_singleton.mp last
      exact .inr ⟨rfl, start, rfl, matching, same⟩
  · rintro (⟨start, earlier, rest⟩ | ⟨rfl, start, rfl, rest⟩)
    · exact ⟨start, List.mem_append_left _ earlier, rest⟩
    · exact ⟨start, List.mem_append_right _ List.mem_cons_self, rest⟩

theorem captured_snoc_of_not_start {run : Uid} {list : List Sink}
    (other : ∀ start, doc ≠ .start start) :
    Captured (seen ++ [(sinks, doc)]) run list ↔ Captured seen run list := by
  rw [captured_snoc]
  refine ⟨fun either => either.resolve_right ?_, .inl⟩
  rintro ⟨_, start, same, _⟩
  exact other start same

theorem primary_snoc {uid run : Uid} :
    Primary ((seen ++ [(sinks, doc)]).map Prod.snd) uid run ↔ Primary (seen.map Prod.snd) uid run ∨
      ∃ desc, doc = .descriptor desc ∧ desc.uid = uid ∧ desc.runStart = run ∧
        desc.name = some "primary" := by
  constructor
  · rintro ⟨desc, member, rest⟩
    rcases mem_docs_snoc.mp member with earlier | last
    · exact .inl ⟨desc, earlier, rest⟩
    · exact .inr ⟨desc, last.symm, rest⟩
  · rintro (⟨desc, earlier, rest⟩ | ⟨desc, rfl, rest⟩)
    · exact ⟨desc, mem_docs_snoc.mpr (.inl earlier), rest⟩
    · exact ⟨desc, mem_docs_snoc.mpr (.inr rfl), rest⟩

/-- A primary descriptor is that of one run. -/
theorem Primary.unique (coherent : Coherent seen) {uid run other : Uid}
    (one : Primary (seen.map Prod.snd) uid run) (two : Primary (seen.map Prod.snd) uid other) :
    run = other := by
  obtain ⟨desc, member, first, rfl, _⟩ := one
  obtain ⟨last, among, second, rfl, _⟩ := two
  rw [coherent.alone desc last member among (first.trans second.symm)]

theorem Captured.unique (coherent : Coherent seen) {run : Uid} {first second : List Sink}
    (one : Captured seen run first) (two : Captured seen run second) : first = second := by
  obtain ⟨start, member, _, rfl⟩ := one
  obtain ⟨other, among, _, same⟩ := two
  exact coherent.once first second start other member among same.symm

theorem primary_snoc_of_not_descriptor {uid run : Uid} (other : ∀ desc, doc ≠ .descriptor desc) :
    Primary ((seen ++ [(sinks, doc)]).map Prod.snd) uid run ↔ Primary (seen.map Prod.snd) uid run := by
  rw [primary_snoc]
  refine ⟨fun either => either.resolve_right ?_, .inl⟩
  rintro ⟨desc, same, _⟩
  exact other desc same

/-- A run that has started stays open unless it stops. -/
theorem open_snoc {run : Uid} (begun : ∃ start, .start start ∈ seen.map Prod.snd ∧ start.uid = run)
    (unstopped : ∀ stop, doc = .stop stop → stop.runStart ≠ run) :
    Open ((seen ++ [(sinks, doc)]).map Prod.snd) run ↔ Open (seen.map Prod.snd) run := by
  constructor
  · rintro ⟨_, running⟩
    exact ⟨begun, fun stop member => running stop (mem_docs_snoc.mpr (.inl member))⟩
  · rintro ⟨⟨start, member, same⟩, running⟩
    refine ⟨⟨start, mem_docs_snoc.mpr (.inl member), same⟩, fun stop among => ?_⟩
    rcases mem_docs_snoc.mp among with earlier | last
    · exact running stop earlier
    · exact unstopped stop last.symm

theorem Captured.begun {run : Uid} {list : List Sink} (captured : Captured seen run list) :
    ∃ start, .start start ∈ seen.map Prod.snd ∧ start.uid = run := by
  obtain ⟨start, member, _, same⟩ := captured
  exact ⟨start, mem_docs member, same⟩

variable {state : RouterState Sink}

/-- What the router holds, it holds still where a document opens no matching run, stops none that it
holds, and is no primary descriptor of one. -/
theorem Tracks.kept (tracks : Tracks seen state)
    (captured : ∀ run list, Captured (seen ++ [(sinks, doc)]) run list ↔ Captured seen run list)
    (unstopped : ∀ stop, doc = .stop stop → ∀ list, ¬Captured seen stop.runStart list)
    (undescribed : ∀ desc, doc = .descriptor desc → desc.name = some "primary" →
      state.runs.lookup desc.runStart = none) :
    Tracks (seen ++ [(sinks, doc)]) state := by
  have opened : ∀ run list, Captured seen run list →
      (Open ((seen ++ [(sinks, doc)]).map Prod.snd) run ↔ Open (seen.map Prod.snd) run) := by
    intro run list member
    exact open_snoc member.begun fun stop same own => unstopped stop same list (own ▸ member)
  have primary : ∀ uid run, (∃ held, state.runs.lookup run = some held) →
      (Primary ((seen ++ [(sinks, doc)]).map Prod.snd) uid run ↔
        Primary (seen.map Prod.snd) uid run) := by
    rintro uid run ⟨held, found⟩
    rw [primary_snoc]
    refine ⟨fun either => either.resolve_right ?_, .inl⟩
    rintro ⟨desc, same, _, rfl, name⟩
    rw [undescribed desc same name] at found
    cases found
  constructor
  · intro run held found
    obtain ⟨member, running, uids⟩ := tracks.routed run held found
    exact ⟨(captured run held.sinks).mpr member, (opened run held.sinks member).mpr running,
      fun uid => (uids uid).trans (primary uid run ⟨held, found⟩).symm⟩
  · intro run list member running
    have earlier := (captured run list).mp member
    exact tracks.held run list earlier ((opened run list earlier).mp running)
  · intro uid run
    rw [tracks.described uid run]
    exact and_congr_left fun held => (primary uid run held).symm

/-- A matching start is held under the list as it is. -/
theorem Tracks.start (tracks : Tracks seen state) (coherent : Coherent seen) {start : RunStart}
    (joins : Joins (seen.map Prod.snd) (.start start)) (matching : matchesKey start = true) :
    Tracks (seen ++ [(sinks, .start start)])
      { state with runs := state.runs.insert start.uid ⟨sinks, []⟩ } := by
  have new : ∀ run list, Captured seen run list → run ≠ start.uid := by
    intro run list member same
    obtain ⟨earlier, among, own⟩ := member.begun
    exact joins earlier among (own.trans same)
  have undescribed : ∀ uid, ¬Primary (seen.map Prod.snd) uid start.uid := by
    rintro uid ⟨desc, member, _, same, _⟩
    obtain ⟨earlier, among, own⟩ := coherent.descriptor desc member
    exact joins earlier among (own.trans same)
  have primary : ∀ uid run, Primary ((seen ++ [(sinks, Document.start start)]).map Prod.snd) uid run ↔
      Primary (seen.map Prod.snd) uid run :=
    fun uid run => primary_snoc_of_not_descriptor (by simp)
  constructor
  · intro run held found
    by_cases same : run = start.uid
    · subst same
      rw [AList.lookup_insert] at found
      cases found
      refine ⟨captured_snoc.mpr (.inr ⟨rfl, start, rfl, matching, rfl⟩), ⟨⟨start, by simp, rfl⟩, ?_⟩, ?_⟩
      · intro stop among own
        rcases mem_docs_snoc.mp among with earlier | last
        · obtain ⟨other, begun, same⟩ := coherent.stop stop earlier
          exact joins other begun (same.trans own)
        · cases last
      · intro uid
        rw [primary]
        exact ⟨fun none => absurd none List.not_mem_nil,
          fun described => absurd described (undescribed uid)⟩
    · rw [AList.lookup_insert_ne same] at found
      obtain ⟨member, running, uids⟩ := tracks.routed run held found
      exact ⟨captured_snoc.mpr (.inl member), (open_snoc member.begun (by simp)).mpr running,
        fun uid => (uids uid).trans (primary uid run).symm⟩
  · intro run list member running
    by_cases same : run = start.uid
    · exact ⟨_, by rw [same, AList.lookup_insert]⟩
    · rcases captured_snoc.mp member with earlier | ⟨_, other, own, _, rfl⟩
      · have before := (open_snoc earlier.begun (by simp)).mp running
        obtain ⟨held, found⟩ := tracks.held run list earlier before
        exact ⟨held, by rw [AList.lookup_insert_ne same, found]⟩
      · cases own
        exact absurd rfl same
  · intro uid run
    rw [primary]
    by_cases same : run = start.uid
    · subst same
      rw [tracks.described]
      exact ⟨fun both => absurd both.1 (undescribed uid), fun both => absurd both.1 (undescribed uid)⟩
    · rw [AList.lookup_insert_ne same]
      exact tracks.described uid run

/-- A primary descriptor is put down for the run that is held. -/
theorem Tracks.descriptor (tracks : Tracks seen state)
    {desc : EventDescriptor} (joins : Joins (seen.map Prod.snd) (.descriptor desc))
    (name : desc.name = some "primary") {held : RoutedRun Sink}
    (found : state.runs.lookup desc.runStart = some held) :
    Tracks (seen ++ [(sinks, .descriptor desc)])
      { runs := state.runs.insert desc.runStart { held with primary := held.primary.insert desc.uid }
        descriptors := state.descriptors.insert desc.uid desc.runStart } := by
  have captured : ∀ run list,
      Captured (seen ++ [(sinks, .descriptor desc)]) run list ↔ Captured seen run list :=
    fun run list => captured_snoc_of_not_start (by simp)
  have opened : ∀ run list, Captured seen run list →
      (Open ((seen ++ [(sinks, Document.descriptor desc)]).map Prod.snd) run ↔
        Open (seen.map Prod.snd) run) :=
    fun run list member => open_snoc member.begun (by simp)
  have primary : ∀ uid run,
      Primary ((seen ++ [(sinks, Document.descriptor desc)]).map Prod.snd) uid run ↔
        Primary (seen.map Prod.snd) uid run ∨ (uid = desc.uid ∧ run = desc.runStart) := by
    intro uid run
    rw [primary_snoc]
    refine or_congr_right ⟨?_, ?_⟩
    · rintro ⟨other, same, rfl, rfl, _⟩
      cases same
      exact ⟨rfl, rfl⟩
    · rintro ⟨rfl, rfl⟩
      exact ⟨desc, rfl, rfl, rfl, name⟩
  have new : ∀ run, ¬Primary (seen.map Prod.snd) desc.uid run := by
    rintro run ⟨other, member, same, _⟩
    exact joins.2 other member same
  have same_runs : ∀ run, (∃ held, state.runs.lookup run = some held) ↔
      ∃ other, (state.runs.insert desc.runStart
        { held with primary := held.primary.insert desc.uid }).lookup run = some other := by
    intro run
    by_cases same : run = desc.runStart
    · subst same
      exact ⟨fun _ => ⟨_, AList.lookup_insert _⟩, fun _ => ⟨held, found⟩⟩
    · rw [AList.lookup_insert_ne same]
  constructor
  · intro run other lookup
    by_cases same : run = desc.runStart
    · subst same
      rw [AList.lookup_insert] at lookup
      cases lookup
      obtain ⟨member, running, uids⟩ := tracks.routed desc.runStart held found
      refine ⟨(captured _ _).mpr member, (opened _ _ member).mpr running, fun uid => ?_⟩
      rw [List.mem_insert_iff, uids uid, primary]
      simp only [and_true]
      exact or_comm
    · rw [AList.lookup_insert_ne same] at lookup
      obtain ⟨member, running, uids⟩ := tracks.routed run other lookup
      refine ⟨(captured _ _).mpr member, (opened _ _ member).mpr running, fun uid => ?_⟩
      rw [uids uid, primary]
      exact ⟨.inl, fun either => either.resolve_right fun both => same both.2⟩
  · intro run list member running
    have earlier := (captured run list).mp member
    exact (same_runs run).mp (tracks.held run list earlier ((opened run list earlier).mp running))
  · intro uid run
    rw [primary, ← same_runs]
    by_cases same : uid = desc.uid
    · subst same
      rw [AList.lookup_insert]
      constructor
      · intro own
        cases own
        exact ⟨.inr ⟨rfl, rfl⟩, held, found⟩
      · rintro ⟨earlier | ⟨_, rfl⟩, _⟩
        · exact absurd earlier (new run)
        · rfl
    · rw [AList.lookup_insert_ne same, tracks.described]
      refine and_congr_left fun _ => ⟨.inl, fun either => either.resolve_right fun both => same both.1⟩

theorem lookup_foldl_erase {κ ν : Type} [DecidableEq κ] (keys : List κ) (table : Table κ ν) (key : κ) :
    (keys.foldl (fun table key => table.erase key) table).lookup key =
      if key ∈ keys then none else table.lookup key := by
  induction keys generalizing table with
  | nil => rfl
  | cons first rest ih =>
      rw [List.foldl_cons, ih]
      by_cases later : key ∈ rest
      · rw [if_pos later, if_pos (List.mem_cons_of_mem _ later)]
      · rw [if_neg later]
        by_cases same : key = first
        · subst same
          rw [if_pos List.mem_cons_self, AList.lookup_erase]
        · rw [AList.lookup_erase_ne same, if_neg (by simp [same, later])]

theorem eq_empty_of_lookup {κ ν : Type} [DecidableEq κ] {table : Table κ ν}
    (none : ∀ key, table.lookup key = none) : table = ∅ := by
  refine AList.ext ?_
  rw [AList.empty_entries, List.eq_nil_iff_forall_not_mem]
  intro entry member
  refine AList.lookup_eq_none.mp (none entry.1) ?_
  exact List.mem_map.mpr ⟨entry, member, rfl⟩

/-- A run that stops is held no more, nor are its primary descriptors. -/
theorem Tracks.stop (tracks : Tracks seen state) (coherent : Coherent seen) {stop : RunStop}
    {held : RoutedRun Sink} (found : state.runs.lookup stop.runStart = some held) :
    Tracks (seen ++ [(sinks, .stop stop)])
      { runs := state.runs.erase stop.runStart
        descriptors := held.primary.foldl (fun table uid => table.erase uid) state.descriptors } := by
  have captured : ∀ run list,
      Captured (seen ++ [(sinks, .stop stop)]) run list ↔ Captured seen run list :=
    fun run list => captured_snoc_of_not_start (by simp)
  have primary : ∀ uid run, Primary ((seen ++ [(sinks, Document.stop stop)]).map Prod.snd) uid run ↔
      Primary (seen.map Prod.snd) uid run :=
    fun uid run => primary_snoc_of_not_descriptor (by simp)
  obtain ⟨_, _, uids⟩ := tracks.routed stop.runStart held found
  have opened : ∀ run list, Captured seen run list → run ≠ stop.runStart →
      (Open ((seen ++ [(sinks, Document.stop stop)]).map Prod.snd) run ↔
        Open (seen.map Prod.snd) run) := by
    intro run list member other
    refine open_snoc member.begun fun last same => ?_
    cases same
    exact Ne.symm other
  constructor
  · intro run other lookup
    by_cases same : run = stop.runStart
    · rw [same, AList.lookup_erase] at lookup
      cases lookup
    · rw [AList.lookup_erase_ne same] at lookup
      obtain ⟨member, running, uids⟩ := tracks.routed run other lookup
      exact ⟨(captured _ _).mpr member, (opened _ _ member same).mpr running,
        fun uid => (uids uid).trans (primary uid run).symm⟩
  · intro run list member running
    have earlier := (captured run list).mp member
    by_cases same : run = stop.runStart
    · exact absurd same.symm (running.2 stop (by simp))
    · rw [AList.lookup_erase_ne same]
      exact tracks.held run list earlier ((opened run list earlier same).mp running)
  · intro uid run
    rw [primary, lookup_foldl_erase]
    by_cases own : uid ∈ held.primary
    · rw [if_pos own]
      refine ⟨fun none => absurd none (by simp), fun both => ?_⟩
      rw [((uids uid).mp own).unique coherent both.1, AList.lookup_erase] at both
      obtain ⟨_, _, none⟩ := both
      cases none
    · rw [if_neg own, tracks.described]
      refine and_congr_right fun described => ?_
      have other : run ≠ stop.runStart := by
        rintro rfl
        exact own ((uids uid).mpr described)
      rw [AList.lookup_erase_ne other]

/-- A document that opens no matching run, belongs to none that is held and changes nothing. -/
theorem Tracks.next_unrouted (tracks : Tracks seen state)
    (captured : ∀ run list, Captured (seen ++ [(sinks, doc)]) run list ↔ Captured seen run list)
    (unstopped : ∀ stop, doc = .stop stop → ∀ list, ¬Captured seen stop.runStart list)
    (undescribed : ∀ desc, doc = .descriptor desc → desc.name = some "primary" →
      state.runs.lookup desc.runStart = none)
    (unrouted : ∀ run list, Captured seen run list →
      ¬ofRun ((seen ++ [(sinks, doc)]).map Prod.snd) run doc = true) :
    Tracks (seen ++ [(sinks, doc)]) state ∧ RoutedTo (seen ++ [(sinks, doc)]) doc [] :=
  ⟨tracks.kept captured unstopped undescribed,
    .inl ⟨rfl, fun run list member =>
      Bool.eq_false_iff.mpr (unrouted run list ((captured run list).mp member))⟩⟩

theorem Tracks.next_start (tracks : Tracks seen state) (coherent : Coherent seen) (start : RunStart)
    (joins : Joins (seen.map Prod.snd) (.start start)) :
    Tracks (seen ++ [(sinks, .start start)]) (targets sinks state (.start start)).2 ∧
      RoutedTo (seen ++ [(sinks, .start start)]) (.start start)
        (targets sinks state (.start start)).1 := by
  cases matching : matchesKey start with
  | false =>
      rw [targets, if_neg (by simp [matching])]
      refine tracks.next_unrouted (fun run list => ?_) (by simp) (by simp) fun run list member own => ?_
      · rw [captured_snoc]
        refine ⟨fun either => either.resolve_right ?_, .inl⟩
        rintro ⟨_, other, same, matched, _⟩
        cases same
        rw [matching] at matched
        cases matched
      · obtain ⟨earlier, among, same⟩ := member.begun
        exact joins earlier among (same.trans (beq_iff_eq.mp own).symm)
  | true =>
      rw [targets, if_pos matching]
      refine ⟨tracks.start coherent joins matching, .inr ⟨start.uid, ?_, by simp [ofRun], ?_⟩⟩
      · exact captured_snoc.mpr (.inr ⟨rfl, start, rfl, matching, rfl⟩)
      · exact fun other list _ own => (beq_iff_eq.mp own).symm

theorem Tracks.next_descriptor (tracks : Tracks seen state) (desc : EventDescriptor)
    (joins : Joins (seen.map Prod.snd) (.descriptor desc)) :
    Tracks (seen ++ [(sinks, .descriptor desc)]) (targets sinks state (.descriptor desc)).2 ∧
      RoutedTo (seen ++ [(sinks, .descriptor desc)]) (.descriptor desc)
        (targets sinks state (.descriptor desc)).1 := by
  have captured : ∀ run list,
      Captured (seen ++ [(sinks, .descriptor desc)]) run list ↔ Captured seen run list :=
    fun run list => captured_snoc_of_not_start (by simp)
  rw [targets]
  cases found : state.runs.lookup desc.runStart with
  | none =>
      refine tracks.next_unrouted captured (by simp) ?_ fun run list member own => ?_
      · intro other same _
        cases same
        exact found
      · obtain ⟨rfl, _⟩ := ofRun_descriptor.mp own
        obtain ⟨held, some⟩ := tracks.held _ list member joins.1
        rw [found] at some
        cases some
  | some held =>
      by_cases name : desc.name = some "primary"
      · simp only [if_pos name]
        refine ⟨tracks.descriptor joins name found, .inr ⟨desc.runStart, ?_, ?_, ?_⟩⟩
        · exact (captured _ _).mpr (tracks.routed _ _ found).1
        · exact ofRun_descriptor.mpr ⟨rfl, name⟩
        · exact fun other list _ own => (ofRun_descriptor.mp own).1.symm
      · simp only [if_neg name]
        refine tracks.next_unrouted captured (by simp) ?_ fun run list _ own =>
          name (ofRun_descriptor.mp own).2
        intro other same primary
        cases same
        exact absurd primary name

theorem Tracks.next_event (tracks : Tracks seen state) (coherent : Coherent seen) (event : Event)
    (joins : Joins (seen.map Prod.snd) (.event event)) :
    Tracks (seen ++ [(sinks, .event event)]) (targets sinks state (.event event)).2 ∧
      RoutedTo (seen ++ [(sinks, .event event)]) (.event event)
        (targets sinks state (.event event)).1 := by
  have captured : ∀ run list,
      Captured (seen ++ [(sinks, .event event)]) run list ↔ Captured seen run list :=
    fun run list => captured_snoc_of_not_start (by simp)
  have belongs : ∀ run,
      ofRun ((seen ++ [(sinks, Document.event event)]).map Prod.snd) run (.event event) = true ↔
        Primary (seen.map Prod.snd) event.descriptor run :=
    fun run => ofRun_event.trans (primary_snoc_of_not_descriptor (by simp))
  rw [targets]
  cases described : state.descriptors.lookup event.descriptor with
  | none =>
      refine tracks.next_unrouted captured (by simp) (by simp) fun run list member own => ?_
      have primary := (belongs run).mp own
      obtain ⟨desc, among, same, running⟩ := joins
      obtain ⟨other, there, uid, rfl, name⟩ := primary
      have alone := coherent.alone desc other among there (same.trans uid.symm)
      subst alone
      have some := (tracks.described event.descriptor desc.runStart).mpr
        ⟨⟨desc, there, uid, rfl, name⟩, tracks.held _ list member running⟩
      rw [described] at some
      cases some
  | some run =>
      obtain ⟨primary, held, found⟩ := (tracks.described event.descriptor run).mp described
      simp only [Option.bind_some, found, Option.elim_some]
      refine ⟨tracks.kept captured (by simp) (by simp), .inr ⟨run, ?_, (belongs run).mpr primary, ?_⟩⟩
      · exact (captured _ _).mpr (tracks.routed _ _ found).1
      · exact fun other list _ own => ((belongs other).mp own).unique coherent primary

theorem Tracks.next_stop (tracks : Tracks seen state) (coherent : Coherent seen) (stop : RunStop)
    (joins : Joins (seen.map Prod.snd) (.stop stop)) :
    Tracks (seen ++ [(sinks, .stop stop)]) (targets sinks state (.stop stop)).2 ∧
      RoutedTo (seen ++ [(sinks, .stop stop)]) (.stop stop) (targets sinks state (.stop stop)).1 := by
  have captured : ∀ run list,
      Captured (seen ++ [(sinks, .stop stop)]) run list ↔ Captured seen run list :=
    fun run list => captured_snoc_of_not_start (by simp)
  have own_run : ∀ run, ofRun ((seen ++ [(sinks, Document.stop stop)]).map Prod.snd) run (.stop stop) =
      true → run = stop.runStart :=
    fun run own => (beq_iff_eq.mp own).symm
  rw [targets]
  cases found : state.runs.lookup stop.runStart with
  | none =>
      have unheld : ∀ list, ¬Captured seen stop.runStart list := by
        intro list member
        obtain ⟨held, some⟩ := tracks.held _ list member joins
        rw [found] at some
        cases some
      refine tracks.next_unrouted captured ?_ (by simp) fun run list member own => ?_
      · intro other same
        cases same
        exact unheld
      · rw [own_run run own] at member
        exact unheld list member
  | some held =>
      refine ⟨tracks.stop coherent found, .inr ⟨stop.runStart, ?_, by simp [ofRun], ?_⟩⟩
      · exact (captured _ _).mpr (tracks.routed _ _ found).1
      · exact fun other list _ own => own_run other own

/-- What the router makes of the next document: what is held of it, and where it goes. -/
theorem Tracks.next (tracks : Tracks seen state) (coherent : Coherent seen)
    (joins : Joins (seen.map Prod.snd) doc) :
    Tracks (seen ++ [(sinks, doc)]) (targets sinks state doc).2 ∧
      RoutedTo (seen ++ [(sinks, doc)]) doc (targets sinks state doc).1 := by
  cases doc with
  | start start => exact tracks.next_start coherent start joins
  | descriptor desc => exact tracks.next_descriptor desc joins
  | event event => exact tracks.next_event coherent event joins
  | stop stop => exact tracks.next_stop coherent stop joins
  | _ =>
      exact tracks.next_unrouted (fun run list => captured_snoc_of_not_start (by simp)) (by simp)
        (by simp) fun run list _ own => by cases own

/-- Once every run that started has stopped, nothing is held. -/
theorem Tracks.empty (tracks : Tracks seen state)
    (stopped : ∀ start, .start start ∈ seen.map Prod.snd →
      ∃ stop, .stop stop ∈ seen.map Prod.snd ∧ stop.runStart = start.uid) :
    state.runs = ∅ ∧ state.descriptors = ∅ := by
  have unheld : ∀ run, state.runs.lookup run = none := by
    intro run
    cases found : state.runs.lookup run with
    | none => rfl
    | some held =>
        obtain ⟨_, ⟨⟨start, begun, rfl⟩, running⟩, _⟩ := tracks.routed run held found
        obtain ⟨stop, member, same⟩ := stopped start begun
        exact absurd same (running stop member)
  refine ⟨eq_empty_of_lookup unheld, eq_empty_of_lookup fun uid => ?_⟩
  cases found : state.descriptors.lookup uid with
  | none => rfl
  | some run =>
      obtain ⟨_, held, some⟩ := (tracks.described uid run).mp found
      rw [unheld run] at some
      cases some

end Documents

section Forwarding

variable [DecidableEq Sink]

/-- The place of a list that is a sink's and that no failing one comes before, and there is one. -/
def Served (answer : Nat → Except BsrsError Unit) (sinks : List Sink) (sink : Sink) : Prop :=
  ∃! place, sinks[place]? = some sink ∧ ∀ earlier < place, answer earlier = .ok ()

/-- What the documents must be: those of interleaved runs. -/
def Joining (routing : Routing Sink) : RouterAct Sink → Prop
  | .edit _ => True
  | .dispatch doc _ => Joins routing.docs doc

/-- At each document of a matching run, every sink captured at its start is served. -/
def Steady (routing : Routing Sink) : RouterAct Sink → Prop
  | .edit _ => True
  | .dispatch doc answer => ∀ run sinks, Captured (routing.seen ++ [(routing.sinks, doc)]) run sinks →
      ofRun (routing.docs ++ [doc]) run doc = true → ∀ sink ∈ sinks, Served answer sinks sink

variable {doc : Document} {answer : Nat → Except BsrsError Unit}

omit [DecidableEq Sink] in
/-- In a list without repeats every sink is served when none but the last fails. -/
theorem served_of_nodup {sinks : List Sink} (nodup : sinks.Nodup)
    (fine : ∀ place, place + 1 < sinks.length → answer place = .ok ()) {sink : Sink}
    (member : sink ∈ sinks) : Served answer sinks sink := by
  obtain ⟨place, bound, found⟩ := List.mem_iff_getElem.mp member
  refine ⟨place, ⟨?_, fun earlier before => fine earlier (by omega)⟩, ?_⟩
  · rw [List.getElem?_eq_getElem bound, found]
  · rintro other ⟨again, _⟩
    obtain ⟨within, same⟩ := List.getElem?_eq_some_iff.mp again
    exact (nodup.getElem_inj_iff).mp (same.trans found.symm)

omit [DecidableEq Sink] in
theorem mem_forward {sinks : List Sink} {place : Nat} {call : Sink × Document}
    (member : call ∈ (forward doc answer sinks place).1) : call.1 ∈ sinks ∧ call.2 = doc := by
  induction sinks generalizing place with
  | nil => cases member
  | cons first rest ih =>
      rw [forward] at member
      cases answered : answer place with
      | error err =>
          rw [answered] at member
          rw [List.mem_singleton.mp member]
          exact ⟨List.mem_cons_self, rfl⟩
      | ok _ =>
          rw [answered] at member
          rcases List.mem_cons.mp member with rfl | later
          · exact ⟨List.mem_cons_self, rfl⟩
          · exact ⟨List.mem_cons_of_mem _ (ih later).1, (ih later).2⟩

/-- A sink whose places all come after a failing one is not called. -/
theorem forward_unserved {sinks : List Sink} {sink : Sink} {place : Nat}
    (behind : ∀ own, sinks[own]? = some sink → ∃ earlier < own, answer (place + earlier) ≠ .ok ()) :
    (forward doc answer sinks place).1.filter (fun call => call.1 = sink) = [] := by
  induction sinks generalizing place with
  | nil => rfl
  | cons first rest ih =>
      have other : first ≠ sink := by
        rintro rfl
        obtain ⟨_, before, _⟩ := behind 0 rfl
        cases before
      rw [forward]
      cases answered : answer place with
      | error err => simp [other]
      | ok _ =>
          rw [List.filter_cons_of_neg (by simpa using other)]
          refine ih fun own found => ?_
          obtain ⟨earlier, before, failed⟩ := behind (own + 1) found
          cases earlier with
          | zero => exact absurd answered failed
          | succ earlier =>
              refine ⟨earlier, Nat.lt_of_succ_lt_succ before, ?_⟩
              rwa [Nat.add_right_comm]

/-- A sink that is served is called once. -/
theorem forward_served {sinks : List Sink} {sink : Sink} {place : Nat}
    (served : Served (fun earlier => answer (place + earlier)) sinks sink) :
    (forward doc answer sinks place).1.filter (fun call => call.1 = sink) = [(sink, doc)] := by
  induction sinks generalizing place with
  | nil =>
      obtain ⟨_, ⟨found, _⟩, _⟩ := served
      cases found
  | cons first rest ih =>
      obtain ⟨own, ⟨found, fine⟩, alone⟩ := served
      rw [forward]
      by_cases same : first = sink
      · subst same
        cases answered : answer place with
        | error err => simp
        | ok _ =>
            rw [List.filter_cons_of_pos (by simp), forward_unserved]
            intro later again
            by_contra! clear
            have zero := alone 0 ⟨rfl, by simp⟩
            have succ := alone (later + 1) ⟨again, fun earlier before => ?_⟩
            · omega
            · cases earlier with
              | zero => exact answered
              | succ earlier =>
                  change answer (place + earlier + 1) = .ok ()
                  rw [Nat.add_right_comm]
                  exact clear earlier (Nat.lt_of_succ_lt_succ before)
      · cases own with
        | zero => exact absurd (Option.some.inj found) same
        | succ own =>
            have answered : answer place = .ok () := fine 0 (Nat.succ_pos own)
            rw [answered, List.filter_cons_of_neg (by simpa using same)]
            refine ih ⟨own, ⟨found, fun earlier before => ?_⟩, ?_⟩
            · change answer (place + 1 + earlier) = .ok ()
              rw [Nat.add_right_comm]
              exact fine (earlier + 1) (Nat.succ_lt_succ before)
            · rintro other ⟨again, clear⟩
              refine Nat.succ.inj (alone (other + 1) ⟨again, fun earlier before => ?_⟩)
              cases earlier with
              | zero => exact answered
              | succ earlier =>
                  change answer (place + earlier + 1) = .ok ()
                  rw [Nat.add_right_comm]
                  exact clear earlier (Nat.lt_of_succ_lt_succ before)

/-- What holds of the router wherever it arrives. -/
structure Kept (routing : Routing Sink) : Prop where
  coherent : Coherent routing.seen
  tracks : Tracks routing.seen routing.state
  came : ∀ sink, ∀ doc ∈ routing.received sink, doc ∈ routing.docs
  receives : ∀ run sinks, Captured routing.seen run sinks → ∀ sink ∈ sinks,
    (routing.received sink).filter (ofRun routing.docs run) =
      routing.docs.filter (ofRun routing.docs run)
  only : ∀ sink, ∀ doc ∈ routing.received sink, ∃ run sinks, Captured routing.seen run sinks ∧
    sink ∈ sinks ∧ ofRun routing.docs run doc = true

theorem Kept.new (sinks : List Sink) : Kept (Routing.new sinks) where
  coherent := ⟨by simp [Routing.new], by simp [Routing.new], by simp [Routing.new],
    by simp [Routing.new], by simp [Routing.new]⟩
  tracks := by
    refine ⟨?_, ?_, ?_⟩
    · intro run held found
      cases found
    · rintro run list ⟨start, member, _⟩
      cases member
    · intro uid run
      constructor
      · intro found
        cases found
      · rintro ⟨⟨desc, member, _⟩, _⟩
        cases member
  came sink doc member := by cases member
  receives run list captured := by
    obtain ⟨start, member, _⟩ := captured
    cases member
  only sink doc member := by cases member

theorem Kept.isolated {routing : Routing Sink} (kept : Kept routing) : Isolated routing :=
  ⟨kept.receives, kept.only, kept.tracks.empty⟩

/-- What came of a run before the next document is what it was, for the sinks captured by then as for
the documents: nothing for a run that starts with it. -/
theorem Kept.older {routing : Routing Sink} (kept : Kept routing) (joins : Joins routing.docs doc)
    {run : Uid} {sinks : List Sink}
    (captured : Captured (routing.seen ++ [(routing.sinks, doc)]) run sinks) {sink : Sink} (member : sink ∈ sinks) :
    (routing.received sink).filter (ofRun ((routing.seen ++ [(routing.sinks, doc)]).map Prod.snd) run) =
      routing.docs.filter (ofRun ((routing.seen ++ [(routing.sinks, doc)]).map Prod.snd) run) := by
  have unchanged : ∀ other ∈ routing.docs,
      ofRun ((routing.seen ++ [(routing.sinks, doc)]).map Prod.snd) run other =
        ofRun routing.docs run other :=
    fun other among => ofRun_snoc kept.coherent joins run among
  rw [List.filter_congr unchanged,
    List.filter_congr fun other among => unchanged other (kept.came sink other among)]
  rcases captured_snoc.mp captured with earlier | ⟨_, start, rfl, _, rfl⟩
  · exact kept.receives run sinks earlier sink member
  · have none : ∀ other ∈ routing.docs, ¬ofRun routing.docs start.uid other = true := by
      intro other among belongs
      exact Bool.false_ne_true ((not_ofRun_of_new kept.coherent joins among).symm.trans belongs)
    rw [List.filter_eq_nil_iff.mpr none,
      List.filter_eq_nil_iff.mpr fun other among => none other (kept.came sink other among)]

/-- What the sink is called with next. -/
def Routing.sent (routing : Routing Sink) (doc : Document) (answer : Nat → Except BsrsError Unit)
    (sink : Sink) : List Document :=
  ((forward doc answer (targets routing.sinks routing.state doc).1 0).1.filter
    fun call => call.1 = sink).map Prod.snd

theorem received_dispatch (routing : Routing Sink) (sink : Sink) :
    (routing.dispatch doc answer).received sink =
      routing.received sink ++ routing.sent doc answer sink := by
  simp [Routing.received, Routing.dispatch, Routing.sent]

omit [DecidableEq Sink] in
theorem docs_dispatch (routing : Routing Sink) (doc : Document)
    (answer : Nat → Except BsrsError Unit) :
    (routing.dispatch doc answer).docs = routing.docs ++ [doc] := by
  simp [Routing.docs, Routing.dispatch]

theorem mem_sent {routing : Routing Sink} {sink : Sink} {other : Document}
    (member : other ∈ routing.sent doc answer sink) :
    other = doc ∧ sink ∈ (targets routing.sinks routing.state doc).1 := by
  obtain ⟨call, among, rfl⟩ := List.mem_map.mp member
  obtain ⟨called, own⟩ := List.mem_filter.mp among
  obtain ⟨listed, same⟩ := mem_forward called
  rw [of_decide_eq_true own] at listed
  exact ⟨same, listed⟩

/-- The next document goes to the sinks that were captured for its run, once. -/
theorem sent_of_captured {routing : Routing Sink}
    (coherent : Coherent (routing.dispatch doc answer).seen)
    (steady : Steady routing (.dispatch doc answer))
    (routed : RoutedTo (routing.dispatch doc answer).seen doc
      (targets routing.sinks routing.state doc).1)
    {run : Uid} {sinks : List Sink} (captured : Captured (routing.dispatch doc answer).seen run sinks)
    {sink : Sink} (member : sink ∈ sinks) :
    (routing.sent doc answer sink).filter (ofRun (routing.dispatch doc answer).docs run) =
      [doc].filter (ofRun (routing.dispatch doc answer).docs run) := by
  cases belongs : ofRun (routing.dispatch doc answer).docs run doc with
  | false =>
      rw [List.filter_cons_of_neg (by simp [belongs]), List.filter_nil, List.filter_eq_nil_iff]
      intro other among
      rw [(mem_sent among).1, belongs]
      exact Bool.false_ne_true
  | true =>
      rcases routed with ⟨_, none⟩ | ⟨own, held, _, alone⟩
      · exact absurd ((none run sinks captured).symm.trans belongs) Bool.false_ne_true
      · cases alone run sinks captured belongs
        have same := held.unique coherent captured
        have served := steady run sinks captured (by rwa [← docs_dispatch]) sink member
        have once : routing.sent doc answer sink = [doc] := by
          rw [Routing.sent, same, forward_served (by simpa only [Nat.zero_add] using served)]
          rfl
        rw [once]

/-- The next document goes to the sinks it is of, once, and to no other. -/
theorem Kept.step {routing after : Routing Sink} {act : RouterAct Sink} (kept : Kept routing)
    (joining : Joining routing act) (steady : Steady routing act)
    (stepped : routing.step act = some after) : Kept after := by
  cases act with
  | edit sinks =>
      cases stepped
      exact ⟨kept.coherent, kept.tracks, kept.came, kept.receives, kept.only⟩
  | dispatch doc answer =>
      cases Option.some.inj stepped
      have coherent : Coherent (routing.dispatch doc answer).seen := kept.coherent.snoc joining
      obtain ⟨tracks, routed⟩ :
          Tracks (routing.dispatch doc answer).seen (routing.dispatch doc answer).state ∧
            RoutedTo (routing.dispatch doc answer).seen doc
              (targets routing.sinks routing.state doc).1 :=
        kept.tracks.next kept.coherent joining
      refine ⟨coherent, tracks, ?_, ?_, ?_⟩
      · intro sink other member
        rw [docs_dispatch]
        rcases List.mem_append.mp (received_dispatch routing sink ▸ member) with earlier | next
        · exact List.mem_append_left _ (kept.came sink other earlier)
        · rw [(mem_sent next).1]
          exact List.mem_append_right _ List.mem_cons_self
      · intro run sinks captured sink member
        have older := kept.older joining captured member
        have newer := sent_of_captured coherent steady routed captured member
        rw [received_dispatch, List.filter_append, newer, docs_dispatch, List.filter_append,
          ← docs_dispatch routing doc answer]
        exact congrArg (· ++ _) older
      · intro sink other member
        rcases List.mem_append.mp (received_dispatch routing sink ▸ member) with earlier | next
        · obtain ⟨run, sinks, captured, listed, belongs⟩ := kept.only sink other earlier
          refine ⟨run, sinks, captured_snoc.mpr (.inl captured), listed, ?_⟩
          exact (ofRun_snoc kept.coherent joining run (kept.came sink other earlier)).trans belongs
        · obtain ⟨rfl, listed⟩ := mem_sent next
          rcases routed with ⟨none, _⟩ | ⟨run, captured, belongs, _⟩
          · rw [none] at listed
            cases listed
          · exact ⟨run, _, captured, listed, belongs⟩

/-- In every interleaving of runs, whatever edits of the list between their documents, the runs stay
isolated as long as every sink captured is served. -/
theorem isolated_of_steady {sinks : List Sink} {acts : List (RouterAct Sink)} {reached : Routing Sink}
    (trace : exec Routing.step (Routing.new sinks) acts = some reached)
    (joining : Throughout Routing.step Joining (Routing.new sinks) acts)
    (steady : Throughout Routing.step Steady (Routing.new sinks) acts) : Isolated reached :=
  (exec_invariant_throughout Kept (fun _ _ _ stepped both kept =>
    kept.step both.1 both.2 stepped) trace (joining.and steady) (Kept.new sinks)).isolated

end Forwarding

/-- The start of an optimization. -/
def optimization : RunStart :=
  ⟨1, none, (∅ : Table String Value).insert "run_key" (stringValue optimizeRunKey)⟩

theorem matchesKey_optimization : matchesKey optimization = true := by
  simp [matchesKey, optimization]

/-- What an edit gives, or what a document meets, where no list is longer than two and no first sink
fails. -/
private def InPairs : RouterAct Nat → Prop
  | .edit sinks => sinks.Nodup ∧ sinks.length ≤ 2
  | .dispatch _ answer => answer 0 = .ok ()

private theorem steady_of_pairs {acts : List (RouterAct Nat)} {routing : Routing Nat}
    (lists : ∀ sinks ∈ routing.sinks :: routing.seen.map Prod.fst, sinks.Nodup ∧ sinks.length ≤ 2)
    (pairs : ∀ act ∈ acts, InPairs act) : Throughout Routing.step Steady routing acts := by
  induction acts generalizing routing with
  | nil => trivial
  | cons act rest ih =>
      have first := pairs act List.mem_cons_self
      have later := fun act member => pairs act (List.mem_cons_of_mem _ member)
      cases act with
      | edit sinks =>
          refine ⟨trivial, fun after stepped => ih ?_ later⟩
          cases stepped
          exact List.forall_mem_cons.mpr ⟨first, fun sinks member => lists sinks
            (List.mem_cons_of_mem _ member)⟩
      | dispatch doc answer =>
          refine ⟨?_, fun after stepped => ih ?_ later⟩
          · rintro run sinks ⟨start, among, _⟩ _ sink member
            have listed : sinks ∈ routing.sinks :: routing.seen.map Prod.fst := by
              rcases List.mem_append.mp among with earlier | last
              · exact List.mem_cons_of_mem _ (List.mem_map.mpr ⟨_, earlier, rfl⟩)
              · cases List.mem_singleton.mp last
                exact List.mem_cons_self
            obtain ⟨nodup, short⟩ := lists sinks listed
            refine served_of_nodup nodup (fun place before => ?_) member
            have head : place = 0 := by omega
            exact head ▸ first
          · cases stepped
            intro sinks member
            rcases List.mem_cons.mp member with rfl | member
            · exact lists _ List.mem_cons_self
            · obtain ⟨⟨list, other⟩, among, rfl⟩ := List.mem_map.mp member
              rcases List.mem_append.mp among with earlier | last
              · exact lists _ (List.mem_cons_of_mem _ (List.mem_map.mpr ⟨_, earlier, rfl⟩))
              · cases List.mem_singleton.mp last
                exact lists _ List.mem_cons_self

/-- Run 1 starts under sinks 0 and 1, the second failing there, and run 2 after an edit under 1 and 2;
their descriptors, events and stops are interleaved. -/
private def interleavedRuns : List (RouterAct Nat) :=
  [.dispatch (.start optimization) fun place => if place = 0 then .ok () else .error .cancelled,
    .edit [1, 2],
    .dispatch (.start { optimization with uid := 2 }) fun _ => .ok (),
    .dispatch (.descriptor ⟨11, 1, ∅, ∅, some "primary", none, ∅⟩) fun _ => .ok (),
    .dispatch (.descriptor ⟨12, 2, ∅, ∅, some "primary", none, ∅⟩) fun _ => .ok (),
    .dispatch (.event ⟨21, 12, 1, ∅, ∅⟩) fun _ => .ok (),
    .dispatch (.event ⟨22, 11, 1, ∅, ∅⟩) fun _ => .ok (),
    .dispatch (.stop ⟨31, 1, .success, none, ∅⟩) fun _ => .ok (),
    .dispatch (.stop ⟨32, 2, .success, none, ∅⟩) fun _ => .ok ()]

theorem isolated_of_steady_once :
    ∃ reached, exec Routing.step (Routing.new [0, 1]) interleavedRuns = some reached ∧
      reached.docs.length = 8 ∧ Isolated reached := by
  have trace : exec Routing.step (Routing.new [0, 1]) interleavedRuns = some _ := rfl
  refine ⟨_, trace, rfl, isolated_of_steady trace ?_ (steady_of_pairs (by decide) ?_)⟩
  · simp [interleavedRuns, Throughout, Joining, Joins, Open, Routing.docs, Routing.dispatch,
      Routing.new, Routing.step, optimization, or_and_right, exists_or]
  · simp [interleavedRuns, InPairs]

/-- A sink does not get the start of a run when one before it fails there. -/
theorem cut_off_by_the_first :
    ¬∀ (sinks : List Nat) (acts : List (RouterAct Nat)) (reached : Routing Nat),
      exec Routing.step (Routing.new sinks) acts = some reached →
        Throughout Routing.step Joining (Routing.new sinks) acts → Isolated reached := by
  intro all
  have isolated := all [0, 1] [.dispatch (.start optimization) fun _ => .error .cancelled] _ rfl
    ⟨fun _ member => absurd member List.not_mem_nil, fun _ _ => trivial⟩
  have received := isolated.receives 1 [0, 1]
    ⟨optimization, List.mem_cons_self, matchesKey_optimization, rfl⟩ 1 (by decide)
  have unserved : ((Routing.new [0, 1]).dispatch (.start optimization)
      fun _ => .error .cancelled).received 1 = [] := by
    simp [Routing.received, Routing.dispatch, Routing.new, targets, forward, matchesKey_optimization]
  rw [unserved] at received
  exact List.cons_ne_nil _ _ received.symm

end Bsrs.Blop
