import Mathlib.Data.List.Induction
import Bsrs.Library.Record
import Bsrs.Engine.HandlerEffect

namespace Bsrs.Engine

open Bsrs.Library (Table exec exec_record Throughout)
open Bsrs.Library.Action
open Bsrs.EventModel
open Bsrs.Core

/-- The RunStart an entry sends out. -/
def Entry.start? : Entry → Option RunStart
  | .broadcast (.start start) => some start
  | _ => none

/-- The RunStart documents sent out so far, newest first. -/
def RunEngine.starts (engine : RunEngine) : List RunStart :=
  engine.log.filterMap Entry.start?

/-- The metadata with the resolved number where it holds none. -/
def withScanId (merged : Table String Value) (scanId : Nat) : Table String Value :=
  if (merged.lookup "scan_id").isSome then merged else merged.insert "scan_id" (toString scanId)

/-- An accepted `OpenRun` names one number in its RunStart, among that document's extras and in
`RE.md`; a rejected one leaves the counter and `RE.md` alone. -/
def Coherent (env : Env) (key : RunKey) (metadata : RunMetadata) (before : RunEngine) : Prop :=
  match openRun env key metadata before with
  | (.ok _, after) =>
      ∃ start scanId, after.starts = start :: before.starts ∧ start.scanId = some scanId ∧
        start.extra.lookup "scan_id" = some (toString scanId) ∧
        after.md.lookup "scan_id" = some (toString scanId)
  | (.error _, after) => after.starts = before.starts ∧ after.scanId = before.scanId ∧
      after.md = before.md

/-- A turn of the engine: an `OpenRun`, or anything else it or its user does, which never reaches
the counter. -/
inductive Turn where
  | openRun (env : Env) (key : RunKey) (metadata : RunMetadata)
  | elsewhere (next : RunEngine)

def RunEngine.turn (engine : RunEngine) : Turn → Option RunEngine
  | .openRun env key metadata => some (openRun env key metadata engine).2
  | .elsewhere next => if next.scanId = engine.scanId then some next else none

/-- The number an accepted `OpenRun` gives its run, and whether the plan supplied it. -/
def RunEngine.numbers (engine : RunEngine) : Turn → List (Bool × Nat)
  | .openRun env key metadata =>
      match openRun env key metadata engine with
      | (.ok _, after) =>
          ((after.starts.head?.bind RunStart.scanId).map fun scanId =>
            (metadata.scanId.isSome, scanId)).toList
      | (.error _, _) => []
  | .elsewhere _ => []

/-- The last number used; none is like 0. -/
def lastUsed (log : List (Bool × Nat)) : Nat :=
  (log.getLast?.map Prod.snd).getD 0

/-- A run whose plan supplies no number gets the one after the last one used. -/
def Consecutive (log : List (Bool × Nat)) : Prop :=
  ∀ earlier scanId later, log = earlier ++ (false, scanId) :: later → scanId = lastUsed earlier + 1

/-- The number comes from the plan or the counter and is a `u64`; no layer of the metadata holds
another one; and the hooks accept the metadata and leave its number alone. -/
def Numbered (env : Env) (metadata : RunMetadata) (engine : RunEngine) : Prop :=
  ∃ scanId < 2 ^ 64,
    (metadata.scanId = some scanId ∨
      metadata.scanId = none ∧ env.scanIdSource = none ∧ scanId = engine.scanId + 1) ∧
    (∀ held, (mergedMetadata engine metadata).lookup "scan_id" = some held →
      held = toString scanId) ∧
    ∃ extra, checkMetadata env (withScanId (mergedMetadata engine metadata) scanId) = .ok extra ∧
      extra.lookup "scan_id" =
        (withScanId (mergedMetadata engine metadata) scanId).lookup "scan_id"

/-- The `scan_id_source` is asked and fails. -/
def SourceFails (env : Env) (metadata : RunMetadata) (engine : RunEngine) : Prop :=
  metadata.scanId = none ∧ ∃ source failure, env.scanIdSource = some source ∧
    source (mergedMetadata engine metadata) = .error failure

def Turn.Steady (engine : RunEngine) : Turn → Prop
  | .openRun env key metadata => engine.state.runOpen key = true ∨
      SourceFails env metadata engine ∨ Numbered env metadata engine
  | .elsewhere _ => True

def Turn.Names (engine : RunEngine) : Turn → Prop
  | .openRun env key metadata => Coherent env key metadata engine
  | .elsewhere _ => True

/-- What an await, a pump or the installation of a run leaves alone. -/
structure Unnumbered (before after : RunEngine) : Prop where
  starts : after.starts = before.starts
  scanId : after.scanId = before.scanId
  md : after.md = before.md

section

variable {before middle after engine : RunEngine} {env : Env} {key : RunKey}
  {metadata : RunMetadata} {scanId : Nat}

theorem Unnumbered.refl (engine : RunEngine) : Unnumbered engine engine :=
  ⟨rfl, rfl, rfl⟩

theorem Unnumbered.trans (first : Unnumbered before middle) (second : Unnumbered middle after) :
    Unnumbered before after :=
  ⟨second.starts.trans first.starts, second.scanId.trans first.scanId, second.md.trans first.md⟩

theorem feed_unnumbered (engine : RunEngine) (key : RunKey) (stream : String) (source : Source)
    (data timestamps : Table String Value) :
    Unnumbered engine (engine.feed key stream source data timestamps) := by
  unfold RunEngine.feed
  split
  · exact .refl engine
  · split
    · exact .refl engine
    · exact ⟨rfl, rfl, rfl⟩

theorem await_unnumbered (env : Env) (engine : RunEngine) :
    Unnumbered engine (await env engine).2 := by
  have pumped : ∀ (updates : List Update) (engine : RunEngine),
      Unnumbered engine (updates.foldl RunEngine.pump engine) := by
    intro updates
    induction updates with
    | nil => exact .refl
    | cons update rest ih =>
        intro engine
        refine Unnumbered.trans ?_ (ih (engine.pump update))
        unfold RunEngine.pump
        split
        · exact feed_unnumbered ..
        · exact .refl engine
  have fresh : Unnumbered engine { engine with ticks := engine.ticks + 1 } := ⟨rfl, rfl, rfl⟩
  exact fresh.trans (pumped _ _)

theorem broadcast_unnumbered (env : Env) (doc : Document) (engine : RunEngine)
    (other : (Entry.broadcast doc).start? = none) :
    Unnumbered engine (broadcast env doc engine).2 := by
  have told : Unnumbered engine (engine.record (.broadcast doc)) :=
    ⟨List.filterMap_cons_none other, rfl, rfl⟩
  exact told.trans (await_unnumbered env (engine.record (.broadcast doc)))

theorem installRun_unnumbered (env : Env) (key : RunKey) (start : RunStart) (engine : RunEngine) :
    Unnumbered engine (installRun env key start engine).2 := by
  unfold installRun mint
  rw [advance_bind, ask_bind]
  dsimp only
  split
  · rw [modify_bind]
    refine Unnumbered.trans ?_ (broadcast_unnumbered env (.descriptor _) _ rfl)
    exact ⟨rfl, rfl, rfl⟩
  · exact ⟨rfl, rfl, rfl⟩

theorem openRun_taken (taken : engine.state.runOpen key = true) :
    openRun env key metadata engine = (.error (.plan .openRunWhileOpen), engine) := by
  unfold openRun
  rw [ask_bind, if_pos taken]
  rfl

theorem openRun_failed (closed : engine.state.runOpen key = false)
    (fails : SourceFails env metadata engine) :
    ∃ failure, openRun env key metadata engine = (.error failure, engine) := by
  obtain ⟨none, source, failure, installed, failed⟩ := fails
  refine ⟨failure, ?_⟩
  unfold openRun
  rw [ask_bind, if_neg (Bool.eq_false_iff.mp closed), ask_bind, bind_apply]
  simp only [resolveScanId, none, installed, lift_apply, failed]

/-- A numbered run goes out under one number. -/
theorem openRun_numbered (closed : engine.state.runOpen key = false)
    (numbered : Numbered env metadata engine) :
    ∃ start scanId after, openRun env key metadata engine = (.ok engine.nextUid, after) ∧
      (metadata.scanId = some scanId ∨ metadata.scanId = none ∧ scanId = engine.scanId + 1) ∧
      start.scanId = some scanId ∧ start.extra.lookup "scan_id" = some (toString scanId) ∧
      after.starts = start :: engine.starts ∧ after.scanId = scanId ∧
      after.md.lookup "scan_id" = some (toString scanId) := by
  obtain ⟨scanId, fits, supplied, same, extra, accepted, kept⟩ := numbered
  have named : extra.lookup "scan_id" = some (toString scanId) := by
    rw [kept, withScanId]
    cases held : (mergedMetadata engine metadata).lookup "scan_id" with
    | none => simp
    | some value =>
        rw [same value held] at held
        simp [held]
  have resolved : resolveScanId env metadata (mergedMetadata engine metadata) engine =
      (.ok scanId, { engine with scanId }) := by
    rcases supplied with given | ⟨none, counter, rfl⟩
    · simp only [resolveScanId, given]
      rfl
    · have next : nextScanId engine.scanId = engine.scanId + 1 := Nat.mod_eq_of_lt fits
      rw [← next]
      simp only [resolveScanId, none, counter]
      rfl
  let start : RunStart := { uid := engine.nextUid, scanId := some scanId, extra }
  let sent : RunEngine := { engine with
    scanId
    md := engine.md.insert "scan_id" (toString scanId)
    nextUid := engine.nextUid + 1 }
  let announced : RunEngine := (await env (sent.record (.broadcast (.start start)))).2
  have told : broadcast env (.start start) sent = (.ok (), announced) := rfl
  have installed : installRun env key start announced =
      (.ok (), (installRun env key start announced).2) := by
    rw [← installRun_ok env key start announced]
  have ran : openRun env key metadata engine =
      (.ok engine.nextUid, (installRun env key start announced).2) := by
    unfold openRun
    rw [ask_bind, if_neg (Bool.eq_false_iff.mp closed), ask_bind, bind_ok resolved, modify_bind]
    unfold mint
    rw [advance_bind, bind_apply, lift_apply]
    rw [withScanId] at accepted
    rw [accepted]
    dsimp only
    rw [bind_ok told, bind_ok installed]
    rfl
  have quiet := (await_unnumbered env (sent.record (.broadcast (.start start)))).trans
    (installRun_unnumbered env key start announced)
  refine ⟨start, scanId, _, ran, ?_, rfl, named, quiet.starts, quiet.scanId, ?_⟩
  · exact supplied.imp_right fun counted => ⟨counted.1, counted.2.2⟩
  · rw [quiet.md]
    exact AList.lookup_insert _

theorem Turn.names_of_steady {turn : Turn} (steady : turn.Steady engine) : turn.Names engine := by
  cases turn with
  | elsewhere => trivial
  | openRun env key metadata =>
      simp only [Turn.Names, Coherent]
      cases busy : engine.state.runOpen key with
      | true =>
          rw [openRun_taken busy]
          exact ⟨rfl, rfl, rfl⟩
      | false =>
          rcases steady with taken | fails | numbered
          · exact absurd (taken.symm.trans busy) nofun
          · obtain ⟨failure, ran⟩ := openRun_failed busy fails
            rw [ran]
            exact ⟨rfl, rfl, rfl⟩
          · obtain ⟨start, scanId, after, ran, _, named, extra, starts, _, md⟩ :=
              openRun_numbered busy numbered
            rw [ran]
            exact ⟨start, scanId, starts, named, extra, md⟩

theorem Consecutive.append {log : List (Bool × Nat)} {supplied : Bool} (before : Consecutive log)
    (next : supplied = false → scanId = lastUsed log + 1) :
    Consecutive (log ++ [(supplied, scanId)]) := by
  intro earlier number later same
  cases later using List.reverseRecOn with
  | nil =>
      obtain ⟨rfl, last⟩ := List.append_inj' same rfl
      cases last
      exact next rfl
  | append_singleton later last =>
      rw [← List.cons_append, ← List.append_assoc] at same
      exact before earlier number later (List.append_inj' same rfl).1

/-- The counter is the last number used. -/
structure Counted (engine : RunEngine) (log : List (Bool × Nat)) : Prop where
  counter : engine.scanId = lastUsed log
  consecutive : Consecutive log

theorem Counted.turn {next : RunEngine} {turn : Turn} {log : List (Bool × Nat)}
    (counted : Counted engine log) (steady : turn.Steady engine)
    (taken : engine.turn turn = some next) : Counted next (log ++ engine.numbers turn) := by
  cases turn with
  | elsewhere other =>
      simp only [RunEngine.turn, Option.ite_none_right_eq_some, Option.some.injEq] at taken
      obtain ⟨same, rfl⟩ := taken
      rw [RunEngine.numbers, List.append_nil]
      exact ⟨same.trans counted.counter, counted.consecutive⟩
  | openRun env key metadata =>
      simp only [RunEngine.turn, Option.some.injEq] at taken
      have rejected : ∀ failure, openRun env key metadata engine = (.error failure, engine) →
          Counted next (log ++ engine.numbers (.openRun env key metadata)) := by
        intro failure ran
        rw [ran] at taken
        cases taken
        rw [RunEngine.numbers, ran, List.append_nil]
        exact counted
      cases busy : engine.state.runOpen key with
      | true => exact rejected _ (openRun_taken busy)
      | false =>
          rcases steady with open_run | fails | numbered
          · exact absurd (open_run.symm.trans busy) nofun
          · obtain ⟨failure, ran⟩ := openRun_failed busy fails
            exact rejected failure ran
          · obtain ⟨start, scanId, after, ran, supplied, named, _, starts, counter, _⟩ :=
              openRun_numbered busy numbered
            rw [ran] at taken
            cases taken
            have number : engine.numbers (.openRun env key metadata) =
                [(metadata.scanId.isSome, scanId)] := by
              simp only [RunEngine.numbers, ran, starts, List.head?_cons, Option.bind_some, named,
                Option.map_some, Option.toList_some]
            rw [number]
            refine ⟨by simp [counter, lastUsed], counted.consecutive.append fun none => ?_⟩
            rcases supplied with given | ⟨_, fresh⟩
            · simp [given] at none
            · rw [fresh, counted.counter]

end

/-- In every run whose turns are steady, every accepted `OpenRun` names one number in its RunStart,
among the document's extras and in `RE.md`, every rejected one leaves the counter and `RE.md` alone,
and a run whose plan supplies no number gets the one after the last one used. -/
theorem scan_ids_coherent {turns : List Turn} {reached : RunEngine}
    (ran : exec RunEngine.turn .new turns = some reached)
    (steady : Throughout RunEngine.turn (fun engine turn => turn.Steady engine) .new turns) :
    Throughout RunEngine.turn (fun engine turn => turn.Names engine) .new turns ∧
      Consecutive (Library.record RunEngine.turn RunEngine.numbers .new turns) := by
  constructor
  · exact Throughout.of_invariant (fun _ => True) (fun _ _ _ _ _ _ => trivial)
      (fun _ _ allowed _ => Turn.names_of_steady allowed) steady trivial
  · have initial : Counted .new [] := ⟨rfl, fun earlier _ _ same => by simp at same⟩
    have preserved : ∀ before turn after past, before.turn turn = some after →
        turn.Steady before → Counted before past → Counted after (past ++ before.numbers turn) :=
      fun _ _ _ _ taken allowed counted => counted.turn allowed taken
    exact (exec_record Counted preserved ran steady initial).consecutive

/-- Two runs, the second with its own number among its extras. -/
theorem scan_ids_coherent_two :
    let turns : List Turn := [.openRun .calm none ⟨none, ∅, none⟩,
      .openRun .calm (some "b") ⟨none, AList.singleton "scan_id" "2", none⟩]
    Library.record RunEngine.turn RunEngine.numbers .new turns = [(false, 1), (false, 2)] ∧
      Consecutive (Library.record RunEngine.turn RunEngine.numbers .new turns) := by
  intro turns
  have steady : Throughout RunEngine.turn (fun engine turn => turn.Steady engine) .new turns := by
    refine ⟨Or.inr (Or.inr ⟨1, by decide, Or.inr ⟨rfl, rfl, rfl⟩, nofun, _, rfl, rfl⟩),
      fun next taken => ?_⟩
    cases taken
    refine ⟨Or.inr (Or.inr ⟨2, by decide, Or.inr ⟨rfl, rfl, by decide +kernel⟩, ?_, _, rfl, rfl⟩),
      fun _ _ => trivial⟩
    decide +kernel
  have numbers : ∃ reached ∈ exec RunEngine.turn .new turns,
      Library.record RunEngine.turn RunEngine.numbers .new turns = [(false, 1), (false, 2)] := by
    decide +kernel
  obtain ⟨reached, ran, said⟩ := numbers
  exact ⟨said, (scan_ids_coherent ran steady).2⟩

/-- Two runs in a row without a number: the second RunStart is number 2, and its extras say 1. -/
theorem scan_id_stale :
    ∃ engine ∈ exec RunEngine.turn .new [.openRun .calm none ⟨none, ∅, none⟩],
      ¬ Coherent .calm (some "b") ⟨none, ∅, none⟩ engine := by
  have stale : ∃ engine ∈ exec RunEngine.turn .new [.openRun .calm none ⟨none, ∅, none⟩],
      (openRun .calm (some "b") ⟨none, ∅, none⟩ engine).1.isOk = true ∧
        ((openRun .calm (some "b") ⟨none, ∅, none⟩ engine).2.starts.head?.map fun start =>
          (start.scanId, start.extra.lookup "scan_id")) = some (some 2, some "1") := by
    decide +kernel
  obtain ⟨engine, ran, accepted, said⟩ := stale
  refine ⟨engine, ran, fun coherent => ?_⟩
  unfold Coherent at coherent
  split at coherent
  · next uid after opened =>
      obtain ⟨start, scanId, starts, named, extra, _⟩ := coherent
      rw [opened] at said
      simp only [starts, List.head?_cons, Option.map_some, named, extra, Option.some.injEq,
        Prod.mk.injEq] at said
      obtain ⟨rfl, text⟩ := said
      exact absurd text (by decide +kernel)
  · next failure after refused =>
      rw [refused] at accepted
      cases accepted

end Bsrs.Engine
