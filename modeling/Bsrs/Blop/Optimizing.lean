import Bsrs.Blop.Tracking
import Bsrs.Library.Run

/-! `optimize`, `optimize_in_run` and `sample_suggestions`, turn by turn over one cache, and the
record they leave of their steps. What the optimizer, the acquisition and the evaluation answer comes
with the turn. -/

namespace Bsrs.Blop

open Library
open Bsrs.Core (BsrsError Json)

/-- The order of ids: numbers before texts. -/
def TrialId.le : TrialId → TrialId → Bool
  | .int first, .int second => first ≤ second
  | .int _, .str _ => true
  | .str _, .int _ => false
  | .str first, .str second => first ≤ second

/-- How a list of ids is told in an error. -/
def tellIds (ids : List TrialId) : String :=
  toString (ids.map fun id => id.text.quote)

def sortIds (ids : List TrialId) : List TrialId :=
  ids.dedup.insertionSort fun first second => first.le second = true

def planError (reason : String) : BsrsError :=
  .plan (.planFailed reason)

/-- `validate_unique_ids`. -/
def validateUniqueIds (ids : List TrialId) (label : String) : Except BsrsError Unit :=
  if ids.Nodup then .ok ()
  else .error (planError s!"All {label} must contain unique '_id' values. Got {tellIds ids}.")

/-- `validate_suggestions`. -/
def validateSuggestions (suggestions : List Suggestion) : Except BsrsError Unit :=
  validateUniqueIds (suggestions.map Suggestion.id) "suggestions"

/-- `validate_outcomes`. -/
def validateOutcomes (outcomes : List Outcome) (suggestions : List Suggestion) :
    Except BsrsError Unit :=
  match validateUniqueIds (outcomes.map Outcome.id) "outcomes" with
  | .error error => .error error
  | .ok () =>
      let suggested := sortIds (suggestions.map Suggestion.id)
      let evaluated := sortIds (outcomes.map Outcome.id)
      if suggested = evaluated then .ok ()
      else
        .error (planError
          ("The suggestions and outcomes must contain the same IDs. Got suggestions: " ++
            tellIds suggested ++ " and outcomes: " ++ tellIds evaluated))

/-- What the parts of a problem answer in one turn of a plan: the suggestions, the uid and the
outcomes of their acquisition, the ingestion of these, `should_stop` and the optimizer's checkpoint. -/
structure Turn where
  suggested : Except BsrsError (List Suggestion)
  evaluated : Except BsrsError (Json × List Outcome)
  ingested : Option BsrsError
  shouldStop : Bool
  checkpoint : Option BsrsError

/-- A plan, with whether its optimizer has a stopping criterion. -/
inductive Driver where
  | optimize (iterations : Option Nat) (stopping : Bool)
  | optimizeInRun (iterations : Nat) (stopping : Bool)
  | sampleSuggestions (suggestions : List Suggestion)

namespace Driver

/-- The suggestions of a turn: those of the optimizer with ids of their own, or the caller's. -/
def suggestions (driver : Driver) (turn : Turn) : Except BsrsError (List Suggestion) :=
  match driver with
  | sampleSuggestions suggestions => .ok suggestions
  | optimize .. | optimizeInRun .. => do
      let suggestions ← turn.suggested
      validateSuggestions suggestions
      pure suggestions

/-- Outcomes are checked against the suggestions, except the caller's. -/
def checked (driver : Driver) (outcomes : List Outcome) (suggestions : List Suggestion) :
    Except BsrsError Unit :=
  match driver with
  | sampleSuggestions _ => .ok ()
  | optimize .. | optimizeInRun .. => validateOutcomes outcomes suggestions

/-- A turn up to the ingestion of its outcomes. -/
def attempt (driver : Driver) (turn : Turn) : Except BsrsError Step := do
  let suggestions ← driver.suggestions turn
  let (uid, outcomes) ← turn.evaluated
  driver.checked outcomes suggestions
  match turn.ingested with
  | some error => throw error
  | none => pure { uid, suggestions, outcomes }

/-- The points of a step are at least one, and as many as the caller's suggestions. -/
def points (driver : Driver) (nPoints : Nat) : Nat :=
  match driver with
  | sampleSuggestions suggestions => suggestions.length
  | optimize .. | optimizeInRun .. => max nPoints 1

/-- There is a turn to come after so many. -/
def goesOn (driver : Driver) (turns : Nat) : Bool :=
  match driver with
  | optimize none _ => true
  | optimize (some iterations) _ | optimizeInRun iterations _ => turns < iterations
  | sampleSuggestions _ => turns < 1

/-- The plan looks at the stopping criterion before it records the step. -/
def stopsBefore (driver : Driver) (turn : Turn) : Bool :=
  match driver with
  | optimize _ stopping => stopping && turn.shouldStop
  | optimizeInRun .. | sampleSuggestions _ => false

/-- The plan looks at the stopping criterion after it recorded the step. -/
def stopsAfter (driver : Driver) (turn : Turn) : Bool :=
  match driver with
  | optimizeInRun _ stopping => stopping && turn.shouldStop
  | optimize .. | sampleSuggestions _ => false

/-- The checkpoint of a turn; the caller's suggestions have none. -/
def checkpoint (driver : Driver) (turn : Turn) : Option BsrsError :=
  match driver with
  | sampleSuggestions _ => none
  | optimize .. | optimizeInRun .. => turn.checkpoint

end Driver

/-- How a plan ended: by itself, or with an error. -/
inductive Ending where
  | normal
  | failed (error : BsrsError)

/-- A plan under way over a cache, with the data keys of its stream, the steps whose outcomes were
ingested and the events. -/
structure Optimization where
  cache : ReadableCache
  driver : Option Driver
  nPoints : Nat
  turns : Nat
  described : Option (Table String TrackedKey)
  ingested : List Step
  events : List TrackingEvent
  ended : Option Ending

/-- A plan begins, or the plan under way takes a turn. -/
inductive Action where
  | start (driver : Driver) (nPoints : Nat)
  | turn (turn : Turn)

namespace Optimization

/-- Over an empty cache, before any plan. -/
def new : Optimization where
  cache := ∅
  driver := none
  nPoints := 0
  turns := 0
  described := none
  ingested := []
  events := []
  ended := none

variable (optimization : Optimization)

/-- A plan begins, whatever became of the one before. -/
def start (driver : Driver) (nPoints : Nat) : Optimization :=
  { optimization with
    driver := some driver
    nPoints := driver.points nPoints
    turns := 0
    described := none
    ingested := []
    events := []
    ended :=
      match driver with
      | .optimize none false => some (.failed (planError
          "iterations=None requires an optimizer that implements SupportsStoppingCriteria"))
      | driver => if driver.goesOn 0 then none else some .normal }

/-- A plan takes a turn. -/
def take (driver : Driver) (turn : Turn) : Optimization :=
  match driver.attempt turn with
  | .error error => { optimization with ended := some (.failed error) }
  | .ok step =>
      let ingested := { optimization with ingested := optimization.ingested ++ [step] }
      if driver.stopsBefore turn then { ingested with ended := some .normal }
      else
        match readStep step optimization.nPoints optimization.cache optimization.described with
        | .error error => { ingested with ended := some (.failed error) }
        | .ok (event, cache) =>
            { ingested with
              cache
              described := some event.described
              events := optimization.events ++ [event]
              turns := optimization.turns + 1
              ended :=
                if driver.stopsAfter turn then some .normal
                else
                  match driver.checkpoint turn with
                  | some error => some (.failed error)
                  | none => if driver.goesOn (optimization.turns + 1) then none else some .normal }

def step (optimization : Optimization) : Action → Option Optimization
  | .start driver nPoints => some (optimization.start driver nPoints)
  | .turn turn =>
      match optimization.driver, optimization.ended with
      | some driver, none => some (optimization.take driver turn)
      | _, _ => none

/-- Every event is of its step as its stream describes it, and a plan that ends by itself has left
one for each step whose outcomes were ingested. -/
structure Records : Prop where
  faithful : ∀ event ∈ optimization.events, event.Faithful
  each : optimization.ended = some .normal →
    optimization.events.map TrackingEvent.step = optimization.ingested

/-- A step that a turn comes to does not end the plan before it is recorded, and is tidy when there
is an outcome for each suggestion. -/
def Orderly (optimization : Optimization) : Action → Prop
  | .start .. => True
  | .turn turn => ∀ driver, optimization.driver = some driver → ∀ step,
      driver.attempt turn = .ok step →
        driver.stopsBefore turn = false ∧
          (step.parameters.texts = step.results.texts →
            step.Tidy optimization.nPoints optimization.cache optimization.described)

/-- The readables are described as the stream, and the events are those of the steps unless the plan
failed. -/
structure Sound (optimization : Optimization) : Prop where
  keyed : Keyed optimization.cache optimization.described
  faithful : ∀ event ∈ optimization.events, event.Faithful
  each : (∀ error, optimization.ended ≠ some (.failed error)) →
    optimization.events.map TrackingEvent.step = optimization.ingested

variable {optimization}

theorem Sound.start (sound : optimization.Sound) (driver : Driver) (nPoints : Nat) :
    (optimization.start driver nPoints).Sound where
  keyed := ⟨sound.keyed.keys, (by intros; contradiction)⟩
  faithful := (by intros; contradiction)
  each _ := rfl

theorem Sound.fail (sound : optimization.Sound) (ingested : List Step) (error : BsrsError) :
    { optimization with ingested, ended := some (.failed error) }.Sound where
  keyed := sound.keyed
  faithful := sound.faithful
  each ends := absurd rfl (ends error)

theorem Sound.take (sound : optimization.Sound) {driver : Driver} {turn : Turn}
    (going : optimization.ended = none)
    (orderly : ∀ step, driver.attempt turn = .ok step →
      driver.stopsBefore turn = false ∧
        (step.parameters.texts = step.results.texts →
          step.Tidy optimization.nPoints optimization.cache optimization.described)) :
    (optimization.take driver turn).Sound := by
  unfold Optimization.take
  cases attempted : driver.attempt turn with
  | error error => exact sound.fail optimization.ingested error
  | ok step =>
      obtain ⟨goes, tidy⟩ := orderly step attempted
      simp only [goes, Bool.false_eq_true, if_false]
      cases done : readStep step optimization.nPoints optimization.cache optimization.described with
      | error error => exact sound.fail (optimization.ingested ++ [step]) error
      | ok left =>
          obtain ⟨event, cache⟩ := left
          obtain ⟨same, faithful, keyed⟩ :=
            (tidy (Step.readStep_ok done).1).readStep sound.keyed done
          refine ⟨keyed, fun other member => ?_, fun _ => ?_⟩
          · rcases List.mem_append.mp member with before | last
            · exact sound.faithful other before
            · exact List.mem_singleton.mp last ▸ faithful
          · rw [List.map_append, List.map_singleton, same,
              sound.each fun error failed => by simp [going] at failed]

theorem Sound.step (optimization : Optimization) (action : Action) (next : Optimization)
    (stepped : optimization.step action = some next) (orderly : optimization.Orderly action)
    (sound : optimization.Sound) : next.Sound := by
  cases action with
  | start driver nPoints =>
      cases stepped
      exact sound.start driver nPoints
  | turn turn =>
      simp only [Optimization.step] at stepped
      split at stepped
      · rename_i driver held going
        cases stepped
        exact sound.take going (orderly driver held)
      · cases stepped

theorem new_sound : new.Sound where
  keyed := ⟨(by intros; contradiction), (by intros; contradiction)⟩
  faithful := (by intros; contradiction)
  each _ := rfl

end Optimization

namespace Step

/-- The turn of a step in which nothing fails. -/
def turn (step : Step) (shouldStop : Bool) : Turn where
  suggested := .ok step.suggestions
  evaluated := .ok (step.uid, step.outcomes)
  ingested := none
  shouldStop
  checkpoint := none

/-- A step with one suggestion of one parameter. -/
def single : Step where
  uid := .string "run"
  suggestions := [⟨.str "s", AList.singleton "x" (.number (.int 1))⟩]
  outcomes := [⟨.str "s", AList.singleton "y" (.number (.float "0.5"))⟩]

/-- A step with two suggestions, whose ids are of different types, and their outcomes in another
order. -/
def double (x x' : Int) (y y' : String) : Step where
  uid := .string "run"
  suggestions := [⟨.str "s", AList.singleton "x" (.number (.int x))⟩,
    ⟨.int 7, AList.singleton "x" (.number (.int x'))⟩]
  outcomes := [⟨.int 7, AList.singleton "y" (.number (.float y'))⟩,
    ⟨.str "s", AList.singleton "y" (.number (.float y))⟩]

/-- The data keys of such steps. -/
def doubleKeys : List (String × TrackedKey) :=
  [(suggestionIdsKey, ⟨"optimization-suggestion-id", .array, [some 2], "<U36"⟩),
    (acquisitionUidKey, ⟨"optimization-acquisition-uid", .string, [], "<U36"⟩),
    ("x", ⟨"optimization-parameter", .array, [some 2], "<i8"⟩),
    ("y", ⟨"optimization-outcome", .array, [some 2], "<f8"⟩)]

/-- A cache of such steps, or an empty one. -/
def HoldsDoubles (cache : ReadableCache) : Prop :=
  (∀ name ∈ cache.keys, name ∈ doubleKeys.map Prod.fst) ∧
    ∀ pair ∈ doubleKeys, describedKey cache pair.1 = none ∨ describedKey cache pair.1 = some pair.2

instance (cache : ReadableCache) : Decidable (HoldsDoubles cache) :=
  inferInstanceAs (Decidable (_ ∧ _))

variable {x x' : Int} {y y' : String}

theorem double_parameters {name : String} :
    (double x x' y y').parameters.Names name ↔ name = "x" := by
  simp [Given.Names, parameters, double, ← AList.lookup_isSome, Table.lookup_singleton]

theorem double_results {name : String} : (double x x' y y').results.Names name ↔ name = "y" := by
  simp [Given.Names, results, double, ← AList.lookup_isSome, Table.lookup_singleton]

theorem double_names {name : String} :
    (double x x' y y').Names name ↔ name ∈ doubleKeys.map Prod.fst := by
  simp [Names, double_parameters, double_results, doubleKeys]

theorem double_tidy {cache : ReadableCache} {described : Option (Table String TrackedKey)}
    (holds : HoldsDoubles cache)
    (known : ∀ keys, described = some keys → ∀ name ∈ doubleKeys.map Prod.fst, name ∈ keys) :
    (double x x' y y').Tidy 2 cache described := by
  have ids : ["s", "7"].Nodup ∧ ["7", "s"].Nodup := by decide
  have keys := holds.2
  simp only [doubleKeys, List.forall_mem_cons] at keys
  obtain ⟨keyIds, keyUid, keyX, keyY, -⟩ := keys
  refine ⟨ids.1, ids.2, ?_, ?_, ?_, ?_, fun name there => double_names.mpr (holds.1 name there),
    fun keys same name named => known keys same name (double_names.mp named), ?_, ?_, ?_, ?_, ?_⟩
  · simp [Given.Uniform, Step.parameters, double, ← AList.lookup_isSome, Table.lookup_singleton]
  · simp [Given.Uniform, Step.results, double, ← AList.lookup_isSome, Table.lookup_singleton]
  · intro name parameter result
    rw [double_parameters.mp parameter] at result
    exact absurd (double_results.mp result) (by decide)
  · rintro name (parameter | result)
    · rw [double_parameters.mp parameter]
      decide
    · rw [double_results.mp result]
      decide
  · intro name named
    rw [double_parameters.mp named]
    refine ⟨.int, ?_, ?_⟩
    · simp [Step.parameters, double, Table.lookup_singleton, Kind.Holds]
    · rcases keyX with none | some
      · rw [none]
        simp [Step.parameters, double, Table.lookup_singleton, Kind.of]
      · rw [some]
        exact ⟨rfl, rfl, rfl⟩
  · intro name named
    rw [double_results.mp named]
    refine ⟨.float, ?_, ?_⟩
    · simp [Step.results, double, Table.lookup_singleton, Kind.Holds]
    · rcases keyY with none | some
      · rw [none]
        simp [Step.results, double, Table.lookup_singleton, Kind.of]
      · rw [some]
        exact ⟨rfl, rfl, rfl⟩
  · have short : "s".length ≤ 36 ∧ "7".length ≤ 36 := by decide
    exact List.forall_mem_cons.mpr ⟨short.1, List.forall_mem_singleton.mpr short.2⟩
  · intro key same
    rcases keyIds with none | some
    · rw [none] at same
      cases same
    · rw [some] at same
      cases same
      exact ⟨rfl, rfl, rfl⟩
  · refine ⟨.text, ?_, ?_⟩
    · have short : "run".length ≤ 36 := by decide
      exact List.forall_mem_singleton.mpr (.inr short)
    · rcases keyUid with none | some
      · rw [none]
        simp [double, entriesOf, Kind.of]
      · rw [some]
        exact ⟨rfl, rfl, rfl⟩

end Step

/-- Two plans over one cache, with steps of two points. -/
def doublePlans : List Action :=
  [.start (.optimize (some 1) true) 2, .turn ((Step.double 1 2 "0.5" "0.25").turn false),
    .start (.optimizeInRun 3 true) 2, .turn ((Step.double 3 4 "1.5" "1.25").turn false),
    .turn ((Step.double 5 6 "2.5" "2.25").turn true)]

end Bsrs.Blop
