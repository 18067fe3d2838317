import Bsrs.Engine.Registers

namespace Bsrs.Engine

open Bsrs.Library (Grows Always Throughout)
open Bsrs.Library.Action
open Bsrs.EventModel
open Bsrs.Core

/-! ## Interrupts, as the log tells them -/

/-- A halt was requested. -/
def halted : List Entry → Bool
  | [] => false
  | .asked (.halt _) :: _ => true
  | _ :: rest => halted rest

/-- The region the last abort was thrown into, since it was requested. -/
def catcher : List Entry → Option SinkId
  | [] => none
  | .asked (.abort _) :: _ => none
  | .thrown sink (.interrupt .abort _) :: _ => some sink
  | _ :: rest => catcher rest

/-- An abort was requested, and no wrapper with `auto_raise = false` has swallowed it. -/
def abortInForce : List Entry → Bool
  | [] => false
  | .asked (.abort _) :: _ => true
  | .noted (.swallowed sink) :: rest => abortInForce rest && decide (catcher rest ≠ some sink)
  | _ :: rest => abortInForce rest

/-- The reason the last abort or halt was requested with. -/
def askedReason : List Entry → Option String
  | [] => none
  | .asked (.abort reason) :: _ | .asked (.halt reason) :: _ => some reason
  | _ :: rest => askedReason rest

def Entry.isEscapedError : Entry → Bool
  | .escaped (.error _) => true
  | _ => false

def isStop : Thrown → Bool
  | .interrupt .stop _ => true
  | _ => false

/-- The plan raises a stop again. -/
def raisesStop : Msg → Bool
  | .raise thrown => isStop thrown
  | _ => false

/-- After a halt no message is taken up, and nothing else ends the run. While an abort is in force
no stop leaves the plan, and the plan does not come to its own end. -/
def Precedes : Entry → List Entry → Prop
  | .pulled _, rest | .replayed _, rest | .injected _ _, rest => halted rest = false
  | .ended, rest => halted rest = false ∧ abortInForce rest = false
  | .escaped thrown, rest =>
      halted rest = false ∧ (isStop thrown = true → abortInForce rest = false)
  | _, _ => True

instance : ∀ entry rest, Decidable (Precedes entry rest) := by
  rintro (_ | _) rest <;> dsimp only [Precedes] <;> infer_instance

/-- A reason as a RunStop gives it: an empty one is none. -/
def givenReason (reason : String) : Option String :=
  if reason = "" then none else some reason

/-- The status a run ends with and the reason it gives, once it is past the loop. -/
def Pc.ending : Pc → Option (String × Option String)
  | .closing status reason _ => some (status, reason)
  | .done result => some (result.exitStatus, givenReason result.reason)
  | _ => none

/-- Past the loop, or stopped by a panic. -/
def Pc.isOver : Pc → Bool
  | .closing _ _ _ | .done _ | .panicked => true
  | _ => false

/-- A run that ends so ends no weaker than what was asked of it: a halt ends it as a halt, an abort
in force as an abort unless a halt or an error of the plan does; and an abort or halt ends it with the
reason it was last asked with. -/
structure EndsAsAsked (ending : String × Option String) (log : List Entry) : Prop where
  halts : halted log = true → ending.1 = "halt"
  aborts : abortInForce log = true → ending.1 = "abort" ∨ ending.1 = "halt" ∨
    ending.1 = "fail" ∧ log.any Entry.isEscapedError = true
  reasons : ending.1 = "abort" ∨ ending.1 = "halt" → ∀ reason, askedReason log = some reason →
    ending.2 = givenReason reason

/-- A RunStop with which the engine ends a run carries the status (a halt's is an abort) and the
reason. -/
def Entry.closesAs (ending : String × Option String) : Entry → Bool
  | .closed _ stop =>
      decide (ExitStatus.parse (if ending.1 = "halt" then "abort" else ending.1) = some stop.exitStatus ∧
        stop.reason = ending.2)
  | _ => true

structure Precedence {σ : Type} (config : Config σ) : Prop where
  log : Always Precedes config.engine.log
  ends : ∀ ending ∈ config.pc.ending, EndsAsAsked ending config.engine.log
  closes : ∀ status reason exception, config.pc = .closing status reason exception → ∀ env,
    Grows (Entry.closesAs (status, reason)) config.engine.log
      (config.closeOut env status reason exception).engine.log

/-- Handling the message lets a value out of the plan. -/
def escapes (env : Env) (msg : Msg) (engine : RunEngine) : Bool :=
  match msg with
  | .raise _ => engine.state.contingencyStack.isEmpty
  | msg =>
      match handle env msg engine with
      | (.ok _, _) | (.error .panicked, _) | (.error .cancelled, _) => false
      | (.error _, reached) => reached.state.contingencyStack.isEmpty

/-- While the loop runs, no stop is requested with an abort in force, unless a halt was; no abort and
no halt is requested once the run is past the loop, and no halt while the next message is being
pulled. The plan does not end with an abort in force; nothing leaves it after a halt, and no stop it
raises again while an abort is in force. -/
def AsksInOrder {σ : Type} (plans : PlanStream σ) (config : Config σ) : Label → Prop
  | .request .stop => config.pc.isOver = false → abortInForce config.engine.log = true →
      config.engine.isHalting = true
  | .request (.abort _) => config.pc.ending = none
  | .request (.halt _) => config.pc.ending = none ∧ config.pc ≠ .pull
  | .loop env =>
      match config.pc with
      | .pull => config.engine.state.replayQueue = [] →
          (plans.next config.plan config.engine.sinks env.planInput).item = none →
            abortInForce config.engine.log = false
      | .handling msg _ => escapes env msg config.engine = true →
          config.engine.isHalting = false ∧
            (raisesStop msg = true → abortInForce config.engine.log = false)
      | _ => True
  | _ => True

instance {σ : Type} (plans : PlanStream σ) (config : Config σ) :
    ∀ label, Decidable (AsksInOrder plans config label) := by
  rintro (_ | _)
  case request request => rcases request with _ | _ <;> dsimp only [AsksInOrder] <;> infer_instance
  case loop env =>
    dsimp only [AsksInOrder]
    rcases config.pc with _ | _ <;> dsimp only <;> infer_instance
  all_goals
    dsimp only [AsksInOrder]
    infer_instance

/-! ## What leaves these readings alone -/

/-- Entries that say nothing about interrupts and are always in order. -/
def Entry.isCalm : Entry → Bool
  | .handled _ _ | .cut _ | .wentOn => true
  | .asked (.abort _) | .asked (.halt _) => false
  | .asked _ => true
  | entry => entry.isWork

theorem Entry.isCalm_of_isWork (entry : Entry) (work : entry.isWork = true) :
    entry.isCalm = true := by
  cases entry with
  | asked request => cases request <;> first | rfl | exact work
  | _ => first | rfl | exact work

private theorem calm_cons (entry : Entry) (rest : List Entry) (calm : entry.isCalm = true) :
    halted (entry :: rest) = halted rest ∧ catcher (entry :: rest) = catcher rest ∧
      abortInForce (entry :: rest) = abortInForce rest ∧
      askedReason (entry :: rest) = askedReason rest := by
  cases entry with
  | asked request =>
      cases request <;> first | exact ⟨rfl, rfl, rfl, rfl⟩ | cases calm
  | thrown sink value => cases calm
  | noted note => cases calm
  | _ => exact ⟨rfl, rfl, rfl, rfl⟩

private theorem precedes_calm (entry : Entry) (rest : List Entry) (calm : entry.isCalm = true) :
    Precedes entry rest := by
  cases entry <;> trivial

private theorem calm_readings {before after : List Entry} (grown : Grows Entry.isCalm before after) :
    halted after = halted before ∧ abortInForce after = abortInForce before ∧
      askedReason after = askedReason before :=
  ⟨grown.reading fun entry rest calm => (calm_cons entry rest calm).1,
    grown.reading fun entry rest calm => (calm_cons entry rest calm).2.2.1,
    grown.reading fun entry rest calm => (calm_cons entry rest calm).2.2.2⟩

private theorem any_grows {known seen : Entry → Bool} {before after : List Entry}
    (grown : Grows known before after) (was : before.any seen = true) : after.any seen = true := by
  obtain ⟨added, rfl, -⟩ := grown
  rw [List.any_append, was, Bool.or_true]

theorem EndsAsAsked.grows {ending : String × Option String} {before after : List Entry}
    (ends : EndsAsAsked ending before) (grown : Grows Entry.isCalm before after) :
    EndsAsAsked ending after := by
  obtain ⟨halted, force, reason⟩ := calm_readings grown
  refine ⟨fun asked => ends.halts (halted ▸ asked), fun asked => ?_, ?_⟩
  · rcases ends.aborts (force ▸ asked) with abort | halt | ⟨fail, escaped⟩
    · exact .inl abort
    · exact .inr (.inl halt)
    · exact .inr (.inr ⟨fail, any_grows grown escaped⟩)
  · rw [reason]
    exact ends.reasons

/-! ## The invariant -/

/-- What the loop acts on interrupts by. -/
structure Flags where
  isAborting : Bool
  isHalting : Bool
  isStopping : Bool
  interruptSeq : Nat
  interruptReason : String
  deriving DecidableEq

def RunEngine.flags (engine : RunEngine) : Flags where
  isAborting := engine.isAborting
  isHalting := engine.isHalting
  isStopping := engine.isStopping
  interruptSeq := engine.interruptSeq
  interruptReason := engine.interruptReason

theorem flags_of_registers {before after : RunEngine} (registers : after.registers = before.registers) :
    after.flags = before.flags :=
  congrArg (fun registers : Registers => Flags.mk registers.isAborting registers.isHalting
    registers.isStopping registers.interruptSeq registers.interruptReason) registers

/-- The flags are as the log tells, what was asked is in order so far, and a halt not acted on is
outstanding. -/
structure PrecedenceInvariant {σ : Type} (config : Config σ) : Prop where
  flagged : halted config.engine.log = config.engine.isHalting
  aborting : config.engine.isHalting = true → config.engine.isAborting = true
  reasoned : ∀ reason, askedReason config.engine.log = some reason → config.engine.interruptReason = reason
  log : Always Precedes config.engine.log
  bound : config.thrownSeq ≤ config.engine.interruptSeq
  stopping : config.pc.isOver = false → abortInForce config.engine.log = true →
    config.engine.isHalting = false → config.engine.isStopping = false
  halting : config.engine.isHalting = true → config.thrownSeq < config.engine.interruptSeq ∨
    config.pc.isOver = true
  pulling : config.pc = .pull → config.engine.isHalting = false
  ends : ∀ ending ∈ config.pc.ending, EndsAsAsked ending config.engine.log
  failing : ∀ status reason error, config.pc = .closing status reason (some error) → status = "fail"

section

variable {σ : Type} {config next : Config σ}

private theorem not_interrupted {status : String}
    (other : status = "fail" ∨ status = "success" ∨ status = "no-run") :
    ¬(status = "abort" ∨ status = "halt") := by
  rcases other with rfl | rfl | rfl <;> decide

/-- A step inside the loop whose entries are in order and bring no abort into force. -/
private theorem PrecedenceInvariant.carried (invariant : PrecedenceInvariant config)
    (running : config.pc.isOver = false)
    (flags : next.engine.flags = config.engine.flags)
    (thrownSeq : next.thrownSeq = config.thrownSeq) (inside : next.pc.ending = none)
    (pull : next.pc = .pull → config.engine.isHalting = false)
    (flagged : halted next.engine.log = halted config.engine.log)
    (force : abortInForce next.engine.log = true → abortInForce config.engine.log = true)
    (asked : askedReason next.engine.log = askedReason config.engine.log)
    (log : Always Precedes next.engine.log) : PrecedenceInvariant next := by
  obtain ⟨aborting, halting, stopping, counted, reason⟩ := Flags.mk.inj flags
  refine { flagged := by rw [flagged, halting, invariant.flagged],
           aborting := by rw [halting, aborting]; exact invariant.aborting,
           reasoned := by rw [asked, reason]; exact invariant.reasoned, log := log,
           bound := by rw [thrownSeq, counted]; exact invariant.bound, stopping := ?_, halting := ?_,
           pulling := by rw [halting]; exact pull, ends := by rw [inside]; exact nofun, failing := ?_ }
  · rw [halting, stopping]
    exact fun _ asked => invariant.stopping running (force asked)
  · rw [halting, thrownSeq, counted]
    exact fun asked => (invariant.halting asked).imp id fun ended =>
      absurd (ended.symm.trans running) (by simp)
  · intro status why error closing
    rw [closing] at inside
    cases inside

/-- The engine moves calmly, and the loop to a place where it goes on or to where it was. -/
private theorem PrecedenceInvariant.moved (invariant : PrecedenceInvariant config)
    (flags : next.engine.flags = config.engine.flags)
    (thrownSeq : next.thrownSeq = config.thrownSeq)
    (log : Grows Entry.isCalm config.engine.log next.engine.log)
    (pc : next.pc = config.pc ∨ config.pc.isOver = false ∧ next.pc.ending = none ∧ next.pc ≠ .pull) :
    PrecedenceInvariant next := by
  obtain ⟨flagged, force, asked⟩ := calm_readings log
  have kept : Always Precedes next.engine.log := (Always.grows precedes_calm log).mpr invariant.log
  rcases pc with same | ⟨running, inside, aside⟩
  · obtain ⟨aborting, halting, stopping, counted, reason⟩ := Flags.mk.inj flags
    constructor
    · rw [flagged, halting, invariant.flagged]
    · rw [halting, aborting]
      exact invariant.aborting
    · rw [asked, reason]
      exact invariant.reasoned
    · exact kept
    · rw [thrownSeq, counted]
      exact invariant.bound
    · rw [same, force, halting, stopping]
      exact invariant.stopping
    · rw [same, halting, thrownSeq, counted]
      exact invariant.halting
    · rw [same, halting]
      exact invariant.pulling
    · rw [same]
      exact fun ending left => (invariant.ends ending left).grows log
    · rw [same]
      exact invariant.failing
  · exact invariant.carried running flags thrownSeq inside (absurd · aside) flagged
      (by rw [force]; exact id) asked kept

/-- A value thrown while the loop runs: nothing leaves the plan after a halt, and no stop while an
abort is in force. -/
private theorem PrecedenceInvariant.throw (invariant : PrecedenceInvariant config)
    (running : config.pc.isOver = false) (thrown : Thrown)
    (leaves : config.engine.state.contingencyStack = [] →
      config.engine.isHalting = false ∧
        (isStop thrown = true → abortInForce config.engine.log = false)) :
    PrecedenceInvariant (config.throw thrown) := by
  unfold Config.throw RunEngine.throwIntoPlan
  cases stack : config.engine.state.contingencyStack with
  | cons sink rest =>
      dsimp only
      refine { flagged := invariant.flagged, aborting := invariant.aborting,
               reasoned := invariant.reasoned, log := ⟨trivial, invariant.log⟩,
               bound := invariant.bound, stopping := fun _ => invariant.stopping running,
               halting := fun asked => ?_, pulling := nofun, ends := nofun, failing := nofun }
      refine (invariant.halting asked).imp id fun ended => ?_
      exact absurd (ended.symm.trans running) (by simp)
  | nil =>
      dsimp only
      obtain ⟨calm, free⟩ := leaves stack
      have quiet : halted config.engine.log = false := invariant.flagged.trans calm
      have ended : ∀ status reason exception,
          (status = "abort" ∧ reason = config.engine.stopReason ∧ exception = none ∨
            status = "fail" ∧ ∃ error, thrown = .error error) ∨
            isStop thrown = true ∧ status = "success" ∧ exception = none →
          PrecedenceInvariant ((config.withEngine (config.engine.record (.escaped thrown))).goTo
            (.closing status reason exception)) := by
        intro status reason exception kind
        refine { flagged := invariant.flagged, aborting := invariant.aborting,
                 reasoned := invariant.reasoned, log := ⟨⟨quiet, free⟩, invariant.log⟩,
                 bound := invariant.bound, stopping := nofun, halting := fun _ => .inr rfl,
                 pulling := nofun, ends := ?_, failing := ?_ }
        · rintro ending left
          cases left
          refine ⟨fun asked => absurd (asked.symm.trans quiet) (by simp), fun asked => ?_, ?_⟩
          · rcases kind with (⟨abort, -⟩ | ⟨fail, error, rfl⟩) | ⟨stop, -⟩
            · exact .inl abort
            · exact .inr (.inr ⟨fail, rfl⟩)
            · exact absurd (asked.symm.trans (free stop)) (by simp)
          · intro ends given asked
            rcases kind with (⟨-, same, -⟩ | ⟨rfl, -⟩) | ⟨-, rfl, -⟩
            · rw [← invariant.reasoned given asked]
              exact same
            · exact absurd ends (not_interrupted (.inl rfl))
            · exact absurd ends (not_interrupted (.inr (.inl rfl)))
        · intro closed why error closing
          cases closing
          rcases kind with (⟨-, -, none⟩ | ⟨fail, -⟩) | ⟨-, -, none⟩
          · cases none
          · exact fail
          · cases none
      cases thrown with
      | error failure => exact ended _ _ _ (.inl (.inr ⟨rfl, failure, rfl⟩))
      | interrupt kind reason =>
          cases kind with
          | stop => exact ended _ _ _ (.inr ⟨rfl, rfl, rfl⟩)
          | abort => exact ended _ _ _ (.inl (.inl ⟨rfl, rfl, rfl⟩))

/-- The loop acts on the interrupt outstanding, if there is one. -/
private theorem PrecedenceInvariant.act (invariant : PrecedenceInvariant config)
    (running : config.pc.isOver = false) {otherwise : Config σ → Config σ}
    (goes : config.engine.isHalting = false → PrecedenceInvariant (otherwise config)) :
    PrecedenceInvariant (config.act otherwise) := by
  have halts : config.engine.isHalting = true → config.thrownSeq < config.engine.interruptSeq := by
    intro asked
    rcases invariant.halting asked with outstanding | ended
    · exact outstanding
    · exact absurd (ended.symm.trans running) (by simp)
  unfold Config.act Config.takeInterrupt
  by_cases same : config.engine.interruptSeq = config.thrownSeq
  · rw [if_pos same]
    refine goes ?_
    cases asked : config.engine.isHalting with
    | false => rfl
    | true => exact absurd same (halts asked).ne'
  · rw [if_neg same]
    cases halting : config.engine.isHalting with
    | true =>
        have taken : config.engine.interruptRequest = .halt := by
          simp [RunEngine.interruptRequest, halting]
        rw [taken]
        refine { flagged := invariant.flagged, aborting := invariant.aborting,
                 reasoned := invariant.reasoned, log := invariant.log, bound := le_rfl,
                 stopping := nofun, halting := fun _ => .inr rfl, pulling := nofun, ends := ?_,
                 failing := fun _ _ _ closing => by cases closing }
        rintro ending left
        cases left
        refine ⟨fun _ => rfl, fun _ => .inr (.inl rfl), fun _ given asked => ?_⟩
        rw [← invariant.reasoned given asked]
        rfl
    | false =>
        have renewed : PrecedenceInvariant config.renewed :=
          { flagged := invariant.flagged, aborting := invariant.aborting,
            reasoned := invariant.reasoned, log := invariant.log, bound := le_rfl,
            stopping := invariant.stopping,
            halting := fun asked => absurd (asked.symm.trans halting) (by simp),
            pulling := fun _ => halting, ends := invariant.ends, failing := invariant.failing }
        have stopping : config.engine.isStopping = true → abortInForce config.engine.log = false := by
          intro asked
          cases force : abortInForce config.engine.log with
          | false => rfl
          | true => exact absurd (asked.symm.trans (invariant.stopping running force halting)) (by simp)
        cases stops : config.engine.isStopping with
        | true =>
            have taken : config.engine.interruptRequest = .throw .stop := by
              simp [RunEngine.interruptRequest, halting, stops]
            rw [taken]
            exact renewed.throw running _ fun _ => ⟨halting, fun _ => stopping stops⟩
        | false =>
            have taken : config.engine.interruptRequest = .throw .abort := by
              simp [RunEngine.interruptRequest, halting, stops]
            rw [taken]
            exact renewed.throw running _ fun _ => ⟨halting, nofun⟩

private theorem PrecedenceInvariant.leaveGate (invariant : PrecedenceInvariant config)
    (running : config.pc.isOver = false) (suspension : Option Suspension) :
    PrecedenceInvariant (config.leaveGate suspension) := by
  have registers := (Config.leaveGate_proceeds config suspension).registers
  have acked : config.ackPause.engine.log = config.engine.log := rfl
  have kept : (config.leaveGate suspension).thrownSeq = config.thrownSeq ∧
      (config.leaveGate suspension).engine.log = config.engine.log ∧
      (config.leaveGate suspension).pc.ending = none ∧
      (config.leaveGate suspension).pc ≠ .pull := by
    unfold Config.leaveGate
    dsimp only
    split
    · exact ⟨rfl, acked, rfl, nofun⟩
    · exact ⟨rfl, acked, rfl, nofun⟩
  obtain ⟨thrownSeq, log, inside, aside⟩ := kept
  exact invariant.moved (flags_of_registers registers) thrownSeq (by rw [log]; exact .refl _)
    (.inr ⟨running, inside, aside⟩)

private theorem PrecedenceInvariant.goOn (invariant : PrecedenceInvariant config)
    (running : config.pc.isOver = false) : PrecedenceInvariant config.goOn :=
  invariant.act running fun calm =>
    invariant.carried running rfl rfl rfl (fun _ => calm) rfl id rfl ⟨trivial, invariant.log⟩

/-- What a plan notes between two items takes nothing up and throws nothing. -/
private theorem noted_readings (notes : List Note) (engine : RunEngine) :
    let noted := notes.foldl (fun engine note => engine.record (.noted note)) engine
    noted.registers = engine.registers ∧ halted noted.log = halted engine.log ∧
      (abortInForce noted.log = true → abortInForce engine.log = true) ∧
      askedReason noted.log = askedReason engine.log ∧
      (Always Precedes engine.log → Always Precedes noted.log) := by
  induction notes generalizing engine with
  | nil => exact ⟨rfl, rfl, id, rfl, id⟩
  | cons note rest ih =>
      obtain ⟨registers, flagged, force, asked, log⟩ := ih (engine.record (.noted note))
      have first : abortInForce (.noted note :: engine.log) = true →
          abortInForce engine.log = true := by
        intro asked
        cases note with
        | swallowed sink =>
            simp only [abortInForce, Bool.and_eq_true] at asked
            exact asked.1
      exact ⟨registers, flagged, fun asked => first (force asked), asked,
        fun always => log ⟨trivial, always⟩⟩

/-- The plan comes to its own end, with no abort in force. -/
private theorem PrecedenceInvariant.ended (invariant : PrecedenceInvariant config)
    (calm : config.engine.isHalting = false) {status : String} {noted : List Entry}
    (registers : next.engine.registers = config.engine.registers)
    (thrownSeq : next.thrownSeq = config.thrownSeq) (pc : next.pc = .closing status none none)
    (log : next.engine.log = .ended :: noted) (flagged : halted noted = halted config.engine.log)
    (free : abortInForce noted = false) (asked : askedReason noted = askedReason config.engine.log)
    (natural : status = "no-run" ∨ status = "success")
    (order : Always Precedes noted) : PrecedenceInvariant next := by
  have halting : next.engine.isHalting = false :=
    (congrArg Registers.isHalting registers).trans calm
  have quiet : halted noted = false := flagged.trans (invariant.flagged.trans calm)
  have ended : next.pc.isOver = true := by rw [pc]; rfl
  refine { flagged := ?_, aborting := by rw [halting]; exact nofun, reasoned := ?_,
           log := by rw [log]; exact ⟨⟨quiet, free⟩, order⟩, bound := ?_,
           stopping := fun running => absurd (ended.symm.trans running) (by simp),
           halting := fun _ => .inr ended, pulling := fun _ => halting, ends := ?_,
           failing := by rw [pc]; nofun }
  · rw [log, halting]
    exact quiet
  · have why : next.engine.interruptReason = config.engine.interruptReason :=
      congrArg Registers.interruptReason registers
    rw [log, why]
    exact fun reason given => invariant.reasoned reason (asked ▸ given)
  · rw [thrownSeq]
    exact invariant.bound.trans (congrArg Registers.interruptSeq registers).ge
  · rw [pc, log]
    rintro ending left
    cases left
    exact ⟨fun asked => absurd (asked.symm.trans quiet) (by simp),
      fun asked => absurd (asked.symm.trans free) (by simp),
      fun ends => absurd ends (not_interrupted (.inr natural.symm))⟩

private theorem PrecedenceInvariant.pullMsg (plans : PlanStream σ)
    (invariant : PrecedenceInvariant config) (pulling : config.pc = .pull) (input : Value)
    (settled : config.engine.state.replayQueue = [] →
      (plans.next config.plan config.engine.sinks input).item = none →
        abortInForce config.engine.log = false) :
    PrecedenceInvariant (config.pullMsg plans input) := by
  have running : config.pc.isOver = false := by rw [pulling]; rfl
  have calm := invariant.pulling pulling
  have quiet : halted config.engine.log = false := invariant.flagged.trans calm
  unfold Config.pullMsg
  split
  · exact invariant.carried running rfl rfl rfl nofun rfl id rfl ⟨quiet, invariant.log⟩
  · rename_i idle
    obtain ⟨registers, flagged, force, asked, log⟩ :=
      noted_readings (plans.next config.plan config.engine.sinks input).notes
        { config.engine with sinks := (plans.next config.plan config.engine.sinks input).sinks }
    have order := log invariant.log
    dsimp only
    split
    · rename_i none
      have free := Bool.eq_false_iff.mpr
        fun held => absurd (force held) (Bool.eq_false_iff.mp (settled idle none))
      split
      · exact invariant.ended calm registers rfl rfl rfl flagged free asked (.inl rfl) order
      · exact invariant.ended calm registers rfl rfl rfl flagged free asked (.inr rfl) order
    · exact invariant.carried running (flags_of_registers registers) rfl rfl nofun flagged force asked
        ⟨flagged.trans quiet, order⟩
    · exact invariant.carried running (flags_of_registers registers) rfl rfl nofun flagged force asked
        ⟨flagged.trans quiet, order⟩

/-- The engine works, and the loop stays where it goes on or panics. -/
private theorem PrecedenceInvariant.works (invariant : PrecedenceInvariant config)
    (running : config.pc.isOver = false) (works : Works config.engine next.engine)
    (thrownSeq : next.thrownSeq = config.thrownSeq) (inside : next.pc.ending = none)
    (aside : next.pc ≠ .pull) : PrecedenceInvariant next :=
  invariant.moved (flags_of_registers works.registers) thrownSeq (works.log.mono Entry.isCalm_of_isWork)
    (.inr ⟨running, inside, aside⟩)

private theorem PrecedenceInvariant.perform (invariant : PrecedenceInvariant config)
    (running : config.pc.isOver = false) {body : EngineAction α} (works : Keeps Works body)
    {onward : α → Pc} (inside : ∀ value, (onward value).ending = none ∧ onward value ≠ .pull) :
    PrecedenceInvariant (config.perform body onward) := by
  have pc : (config.perform body onward).pc.ending = none ∧
      (config.perform body onward).pc ≠ .pull :=
    config.perform_pc (fun pc => pc.ending = none ∧ pc ≠ .pull) ⟨rfl, nofun⟩ inside
  have thrownSeq : (config.perform body onward).thrownSeq = config.thrownSeq := by
    unfold Config.perform
    dsimp only
    split <;> rfl
  have moved : Works config.engine (config.perform body onward).engine := by
    rw [Config.perform_engine]
    exact works config.engine
  exact invariant.works running moved thrownSeq pc.1 pc.2

/-- A suspender's plan goes on only while no interrupt was requested. -/
private theorem PrecedenceInvariant.injected (invariant : PrecedenceInvariant config)
    (running : config.pc.isOver = false) (env : Env) {onward : Bool → Pc}
    (inside : ∀ value, (onward value).ending = none ∧ onward value ≠ .pull) :
    PrecedenceInvariant (config.perform (injectedStep env) onward) := by
  have pc : (config.perform (injectedStep env) onward).pc.ending = none ∧
      (config.perform (injectedStep env) onward).pc ≠ .pull :=
    config.perform_pc (fun pc => pc.ending = none ∧ pc ≠ .pull) ⟨rfl, nofun⟩ inside
  have thrownSeq : (config.perform (injectedStep env) onward).thrownSeq = config.thrownSeq := by
    unfold Config.perform
    dsimp only
    split <;> rfl
  have engine := Config.perform_engine config (injectedStep env) onward
  rcases injectedStep_cases env config.engine with same | ⟨free, reached, works, registers, log⟩
  · rw [same] at engine
    refine invariant.works running ?_ thrownSeq pc.1 pc.2
    rw [engine]
    exact refl_of Works _
  · have worked : PrecedenceInvariant (config.withEngine reached) :=
      invariant.moved (flags_of_registers works.registers) rfl (works.log.mono Entry.isCalm_of_isWork) (.inl rfl)
    have same : (config.perform (injectedStep env) onward).engine.registers =
        (config.withEngine reached).engine.registers := by
      rw [engine]
      exact registers
    rw [← engine] at log
    rcases log with silent | ⟨msg, failure, reported⟩
    · exact worked.moved (flags_of_registers same) thrownSeq (by rw [silent]; exact .refl _)
        (.inr ⟨running, pc.1, pc.2⟩)
    · have halting : config.engine.isHalting = false := by
        cases asked : config.engine.isHalting with
        | false => rfl
        | true => exact absurd ((invariant.aborting asked).symm.trans free) (by simp)
      have calm : (config.withEngine reached).engine.isHalting = false :=
        (congrArg Registers.isHalting works.registers).trans halting
      have quiet : halted reached.log = false := worked.flagged.trans calm
      exact worked.carried running (flags_of_registers same) thrownSeq pc.1 (fun pull => absurd pull pc.2)
        (by rw [reported]; rfl) (by rw [reported]; exact id) (by rw [reported]; rfl)
        (by rw [reported]; exact ⟨quiet, worked.log⟩)

private theorem dropResponder_kept (plans : PlanStream σ) (config : Config σ) (origin : Origin) :
    (config.dropResponder plans origin).engine = config.engine ∧
      (config.dropResponder plans origin).thrownSeq = config.thrownSeq ∧
      (config.dropResponder plans origin).pc = config.pc := by
  unfold Config.dropResponder
  split
  · exact ⟨rfl, rfl, rfl⟩
  · exact ⟨rfl, rfl, rfl⟩

private theorem PrecedenceInvariant.dropResponder (plans : PlanStream σ)
    (invariant : PrecedenceInvariant config) (origin : Origin) :
    PrecedenceInvariant (config.dropResponder plans origin) := by
  obtain ⟨engine, thrownSeq, pc⟩ := dropResponder_kept plans config origin
  exact invariant.moved (by rw [engine]) thrownSeq (by rw [engine]; exact .refl _) (.inl pc)

/-- An error of a handler, once it is reported: nothing leaves the plan after a halt. -/
private theorem PrecedenceInvariant.throwError (invariant : PrecedenceInvariant config)
    (running : config.pc.isOver = false) (error : BsrsError)
    (leaves : config.engine.state.contingencyStack = [] → config.engine.isHalting = false) :
    PrecedenceInvariant (config.throw (.error error)) :=
  invariant.throw running (.error error) fun stack => ⟨leaves stack, nofun⟩

private theorem PrecedenceInvariant.settle (plans : PlanStream σ)
    (invariant : PrecedenceInvariant config) (running : config.pc.isOver = false) (msg : Msg)
    (origin : Origin) (outcome : Except BsrsError (Option Uid))
    (leaves : ∀ error, outcome = .error error → error ≠ .panicked → error ≠ .cancelled →
      config.engine.state.contingencyStack = [] → config.engine.isHalting = false) :
    PrecedenceInvariant (config.settle plans msg origin outcome) := by
  have reported : ∀ failure, PrecedenceInvariant ((config.withEngine
      (config.engine.record (.handled msg failure))).dropResponder plans origin) := by
    intro failure
    have marked : PrecedenceInvariant
        (config.withEngine (config.engine.record (.handled msg failure))) :=
      invariant.moved rfl rfl (.cons rfl _) (.inl rfl)
    exact marked.dropResponder plans origin
  have still : ∀ failure, ((config.withEngine
      (config.engine.record (.handled msg failure))).dropResponder plans origin).pc.isOver = false := by
    intro failure
    rw [(dropResponder_kept plans _ origin).2.2]
    exact running
  unfold Config.settle
  split
  · unfold Config.answer
    split
    · exact invariant.moved rfl rfl (.cons rfl _) (.inr ⟨running, rfl, nofun⟩)
    · exact invariant.moved rfl rfl (.cons rfl _) (.inr ⟨running, rfl, nofun⟩)
  · exact invariant.moved rfl rfl (.refl _) (.inr ⟨running, rfl, nofun⟩)
  · refine (reported _).act (still _) fun calm => ?_
    split
    · exact (reported _).moved rfl rfl (.cons rfl _) (.inr ⟨still _, rfl, nofun⟩)
    · exact (reported _).throwError (still _) _ fun _ => calm
  · rename_i error panicked cancelled
    refine (reported _).throwError (still _) _ fun stack => ?_
    rw [(dropResponder_kept plans _ origin).1] at stack ⊢
    exact leaves error rfl (fun same => panicked (same ▸ rfl)) (fun same => cancelled (same ▸ rfl)) stack

private theorem PrecedenceInvariant.handleMsg (plans : PlanStream σ)
    (invariant : PrecedenceInvariant config) (running : config.pc.isOver = false) (env : Env)
    (msg : Msg) (origin : Origin)
    (settled : escapes env msg config.engine = true → config.engine.isHalting = false ∧
      (raisesStop msg = true → abortInForce config.engine.log = false)) :
    PrecedenceInvariant (config.handleMsg plans env msg origin) := by
  unfold Config.handleMsg
  split
  · rename_i thrown
    obtain ⟨engine, thrownSeq, pc⟩ := dropResponder_kept plans config origin
    refine (invariant.dropResponder plans origin).throw (by rw [pc]; exact running) thrown ?_
    rw [engine]
    intro stack
    exact settled (by simp [escapes, stack])
  · rename_i plain
    dsimp only
    have works := handle_works env msg config.engine
    have handled : PrecedenceInvariant (config.withEngine (handle env msg config.engine).2) :=
      invariant.moved (flags_of_registers works.registers) rfl (works.log.mono Entry.isCalm_of_isWork) (.inl rfl)
    refine handled.settle plans running msg origin _ fun error failed panicked cancelled stack => ?_
    have out : escapes env msg config.engine = true := by
      unfold escapes
      split
      · rename_i thrown
        exact absurd rfl (plain thrown)
      · rcases ran : handle env msg config.engine with ⟨outcome, reached⟩
        rw [ran] at failed stack
        dsimp only at failed
        subst failed
        cases error with
        | panicked => exact absurd rfl panicked
        | cancelled => exact absurd rfl cancelled
        | _ => exact List.isEmpty_iff.mpr stack
    have calm := (settled out).1
    exact (congrArg Registers.isHalting works.registers).trans calm

private theorem PrecedenceInvariant.closeOut (invariant : PrecedenceInvariant config) (env : Env)
    {status : String} {reason : Option String} {exception : Option BsrsError}
    (closing : config.pc = .closing status reason exception) :
    PrecedenceInvariant (config.closeOut env status reason exception) := by
  have works := drainAndClose_works env status reason config.engine
  have engine := Config.closeOut_engine config env status reason exception
  have kept : (config.closeOut env status reason exception).thrownSeq = config.thrownSeq := by
    unfold Config.closeOut Config.perform
    dsimp only
    split
    · split <;> rfl
    · split <;> rfl
  have calm := works.log.mono Entry.isCalm_of_isWork
  obtain ⟨flagged, force, asked⟩ := calm_readings calm
  have registers := works.registers
  rw [← engine] at registers flagged force asked calm
  have halting : (config.closeOut env status reason exception).engine.isHalting =
      config.engine.isHalting := congrArg Registers.isHalting registers
  have aborting : (config.closeOut env status reason exception).engine.isAborting =
      config.engine.isAborting := congrArg Registers.isAborting registers
  have why : (config.closeOut env status reason exception).engine.interruptReason =
      config.engine.interruptReason := congrArg Registers.interruptReason registers
  have pc : (config.closeOut env status reason exception).pc = .panicked ∨
      (config.closeOut env status reason exception).pc =
        .done ((config.closeOut env status reason exception).buildResult status exception) := by
    unfold Config.closeOut
    dsimp only
    split
    · exact .inl ‹_›
    · exact .inr rfl
  have ended : (config.closeOut env status reason exception).pc.isOver = true := by
    rcases pc with panicked | done
    · rw [panicked]
      rfl
    · rw [done]
      rfl
  have before := invariant.ends (status, reason) (by rw [closing]; rfl)
  refine { flagged := flagged.trans (invariant.flagged.trans halting.symm), aborting := ?_,
           reasoned := ?_, log := (Always.grows precedes_calm calm).mpr invariant.log, bound := ?_,
           stopping := fun running => absurd (ended.symm.trans running) (by simp),
           halting := fun _ => .inr ended, pulling := fun pull => ?_, ends := ?_, failing := ?_ }
  · rw [halting, aborting]
    exact invariant.aborting
  · rw [asked, why]
    exact invariant.reasoned
  · rw [kept]
    exact invariant.bound.trans (congrArg Registers.interruptSeq registers).ge
  · rw [pull] at ended
    cases ended
  · intro ending left
    rcases pc with panicked | done
    · rw [panicked] at left
      cases left
    · rw [done] at left
      cases left
      refine ⟨(before.grows calm).halts, (before.grows calm).aborts, fun ends given named => ?_⟩
      cases exception with
      | some error =>
          have failed : status = "fail" := invariant.failing status reason error closing
          exact absurd ends (not_interrupted (.inl failed))
      | none =>
          have held : config.engine.interruptReason = given := invariant.reasoned given (asked ▸ named)
          have same : (config.closeOut env status reason none).engine.interruptReason = given :=
            why.trans held
          dsimp only [Config.buildResult, RunEngine.stopReason]
          rw [same]
          unfold givenReason
          split <;> simp_all
  · rcases pc with panicked | done
    · rw [panicked]
      exact nofun
    · rw [done]
      exact nofun

private theorem PrecedenceInvariant.request {plans : PlanStream σ}
    (invariant : PrecedenceInvariant config) (request : Request)
    (order : AsksInOrder plans config (.request request)) :
    PrecedenceInvariant (config.withEngine (config.engine.receive request)) := by
  have outstanding : config.thrownSeq < config.engine.interruptSeq + 1 :=
    Nat.lt_succ_of_le invariant.bound
  cases request with
  | pause => exact invariant.moved rfl rfl (.cons rfl _) (.inl rfl)
  | deferPause => exact invariant.moved rfl rfl (.cons rfl _) (.inl rfl)
  | resume => exact invariant.moved rfl rfl (.cons rfl _) (.inl rfl)
  | suspend suspension =>
      exact invariant.moved rfl rfl (.cons rfl _) (.inl rfl)
  | release gen => exact invariant.moved rfl rfl (.cons rfl _) (.inl rfl)
  | recordInterruptions on => exact invariant.moved rfl rfl (.cons rfl _) (.inl rfl)
  | stop =>
      refine { flagged := invariant.flagged, aborting := fun _ => rfl, reasoned := invariant.reasoned,
               log := ⟨trivial, invariant.log⟩, bound := invariant.bound.trans (Nat.le_succ _),
               stopping := fun running asked calm => ?_, halting := fun _ => .inl outstanding,
               pulling := invariant.pulling,
               ends := fun ending left => (invariant.ends ending left).grows (.cons rfl _),
               failing := invariant.failing }
      have halting : config.engine.isHalting = true := order running asked
      exact absurd (halting.symm.trans calm) (by simp)
  | abort reason =>
      have inside : config.pc.ending = none := order
      refine { flagged := invariant.flagged, aborting := fun _ => rfl,
               reasoned := fun given asked => Option.some.inj asked, log := ⟨trivial, invariant.log⟩,
               bound := invariant.bound.trans (Nat.le_succ _), stopping := fun _ _ _ => rfl,
               halting := fun _ => .inl outstanding, pulling := invariant.pulling,
               ends := fun ending left => ?_, failing := invariant.failing }
      have left : ending ∈ config.pc.ending := left
      rw [inside] at left
      cases left
  | halt reason =>
      have inside : config.pc.ending = none ∧ config.pc ≠ .pull := order
      refine { flagged := rfl, aborting := fun _ => rfl,
               reasoned := fun given asked => Option.some.inj asked, log := ⟨trivial, invariant.log⟩,
               bound := invariant.bound.trans (Nat.le_succ _), stopping := fun _ _ => nofun,
               halting := fun _ => .inl outstanding, pulling := fun pull => absurd pull inside.2,
               ends := fun ending left => ?_, failing := invariant.failing }
      have left : ending ∈ config.pc.ending := left
      rw [inside.1] at left
      cases left

theorem precedenceInvariant_step {plans : PlanStream σ} {label : Label}
    (stepped : step plans config label = some next) (order : AsksInOrder plans config label)
    (invariant : PrecedenceInvariant config) : PrecedenceInvariant next := by
  cases label with
  | request request =>
      cases stepped
      exact invariant.request request order
  | update update =>
      cases stepped
      have works := pump_works config.engine update
      exact invariant.moved (flags_of_registers works.registers) rfl (works.log.mono Entry.isCalm_of_isWork) (.inl rfl)
  | loop env =>
      simp only [step, loopStep] at stepped
      split at stepped
      · rename_i top
        have running : config.pc.isOver = false := by rw [top]; rfl
        cases stepped
        split
        · obtain ⟨registers, log, pc⟩ := config.enterGate_eq
          have flags : config.enterGate.engine.flags = config.engine.flags :=
            congrArg (fun registers : Registers => Flags.mk registers.isAborting
              registers.isHalting registers.isStopping registers.interruptSeq
              registers.interruptReason) registers
          refine invariant.moved flags rfl (by rw [log]; exact .refl _) (.inr ?_)
          rw [pc]
          exact ⟨running, rfl, by rintro ⟨⟩⟩
        · exact invariant.goOn running
      · rename_i entering
        cases stepped
        refine invariant.perform (by rw [entering]; rfl) (onPauseEnter_works env _) fun _ => ?_
        split
        · exact ⟨rfl, (by rintro ⟨⟩)⟩
        · exact ⟨rfl, (by rintro ⟨⟩)⟩
      · rename_i driving
        cases stepped
        refine invariant.injected (by rw [driving]; rfl) env fun more => ?_
        cases more with
        | true => exact ⟨rfl, (by rintro ⟨⟩)⟩
        | false => exact ⟨rfl, (by rintro ⟨⟩)⟩
      · rename_i suspension checking
        have running : config.pc.isOver = false := by rw [checking]; rfl
        cases stepped
        split
        · exact invariant.moved rfl rfl (.refl _) (.inr ⟨running, rfl, by rintro ⟨⟩⟩)
        · exact invariant.leaveGate running suspension
      · rename_i suspension parked
        have running : config.pc.isOver = false := by rw [parked]; rfl
        split at stepped
        · cases stepped
          exact invariant.leaveGate running suspension
        · cases stepped
      · rename_i restoring
        cases stepped
        exact invariant.perform (by rw [restoring]; rfl) (restoreMonitors_works env)
          fun _ => ⟨rfl, (by rintro ⟨⟩)⟩
      · rename_i taking
        cases stepped
        exact invariant.goOn (by rw [taking]; rfl)
      · rename_i resuming
        cases stepped
        refine invariant.perform (by rw [resuming]; rfl) (onResume_works env) fun _ => ?_
        split
        · exact ⟨rfl, (by rintro ⟨⟩)⟩
        · exact ⟨rfl, (by rintro ⟨⟩)⟩
      · rename_i driving
        cases stepped
        refine invariant.injected (by rw [driving]; rfl) env fun more => ?_
        cases more with
        | true => exact ⟨rfl, (by rintro ⟨⟩)⟩
        | false => exact ⟨rfl, (by rintro ⟨⟩)⟩
      · rename_i pulling
        cases stepped
        refine invariant.pullMsg plans pulling _ ?_
        simpa only [AsksInOrder, pulling] using order
      · rename_i msg origin handling
        cases stepped
        refine invariant.handleMsg plans (by rw [handling]; rfl) env msg origin ?_
        simpa only [AsksInOrder, handling] using order
      · rename_i closing
        cases stepped
        exact invariant.closeOut env closing
      all_goals cases stepped

end

/-! ## The RunStops the engine ends the runs with -/

private theorem feed_closesAs (ending : String × Option String) (engine : RunEngine) (key : RunKey)
    (stream : String) (source : Source) (data timestamps : Bsrs.Library.Table String Value) :
    Grows (Entry.closesAs ending) engine.log (engine.feed key stream source data timestamps).log := by
  unfold RunEngine.feed
  split
  · exact .refl _
  · split
    · exact .refl _
    · exact .cons rfl _

/-- A message that closes no run leaves no RunStop. -/
private theorem effects_closesAs {scope : Scope} {msg : Msg} {before after : RunEngine}
    (ending : String × Option String) (other : ∀ status reason, msg ≠ .closeRun status reason)
    (effects : Effects scope msg before after) :
    Grows (Entry.closesAs ending) before.log after.log := by
  induction effects with
  | refl => exact .refl _
  | tail _ effect ih =>
      refine ih.trans ?_
      cases effect with
      | pump update =>
          unfold RunEngine.pump
          split
          · exact feed_closesAs ending _ _ _ _ _ _
          · exact .refl _
      | interrupt content key own describes => exact feed_closesAs ending _ _ _ _ _ _
      | trace entry leaves =>
          refine .cons ?_ _
          cases entry <;> first | rfl | exact leaves.elim
      | count key stream update own uses =>
          unfold RunEngine.countWith
          split
          · exact .cons rfl _
          · exact .refl _
      | closed key bundler uid status reason stop own closes found stopped =>
          obtain ⟨closed, why, same⟩ := closes
          exact absurd same (other closed why)
      | sentOut | opened | restart | clear | due => exact .cons rfl _
      | request request requests => cases request <;> exact .cons rfl _
      | _ => exact .refl _

private theorem closeRunIfOpen_closesAs (env : Env) (key : RunKey) (status : String)
    (reason : Option String) :
    Keeps (fun before after => Grows (Entry.closesAs (status, reason)) before.log after.log)
      (closeRunIfOpen env key status reason) := by
  intro before
  have sent : ∀ engine, Grows (Entry.closesAs (status, reason)) engine.log (await env engine).2.log :=
    fun engine => effects_closesAs _ (fun _ _ same => by cases same)
      (await_effects env engine : Effects .all .null engine _)
  unfold closeRunIfOpen mint
  rw [advance_bind, ask_bind]
  dsimp only
  cases found : before.state.bundler key with
  | none => exact .refl _
  | some bundler =>
      dsimp only
      cases stops : bundler.bundle.stop before.nextUid (if status = "halt" then "abort" else status) reason with
      | none => exact .refl _
      | some stop =>
          have closed : Entry.closesAs (status, reason) (.closed key stop) = true := by
            obtain ⟨exit, parsed, rfl⟩ := Option.map_eq_some_iff.mp stops
            exact decide_eq_true ⟨parsed, rfl⟩
          exact (Grows.cons closed _).trans ((Grows.cons rfl _).trans (sent _))

private theorem closeOut_closesAs (config : Config σ) (env : Env) (status : String)
    (reason : Option String) (exception : Option BsrsError) :
    Grows (Entry.closesAs (status, reason)) config.engine.log
      (config.closeOut env status reason exception).engine.log := by
  rw [Config.closeOut_engine]
  have trans : IsTrans RunEngine fun before after =>
      Grows (Entry.closesAs (status, reason)) before.log after.log :=
    ⟨fun _ _ _ head tail => head.trans tail⟩
  have refl : Std.Refl fun before after : RunEngine =>
      Grows (Entry.closesAs (status, reason)) before.log after.log :=
    ⟨fun _ => .refl _⟩
  have collects : ∀ status reason, Msg.save ≠ .closeRun status reason := fun _ _ same => by cases same
  exact Keeps.bind
    (fun engine => effects_closesAs _ collects (backstopCollect_effects describes_save env engine))
    (fun _ => Keeps.bind (Keeps.ask _) fun _ => Keeps.each fun key _ =>
      closeRunIfOpen_closesAs env key status reason) config.engine

/-- Requested one after the other while the first message is handled. -/
private def whileHandled (requests : List Request) : List Label :=
  loops .calm 2 ++ requests.map .request ++ loops .calm 3

/-- What `run_wrapper` hands out around a plan that has nothing to hand out. -/
private def emptyRun : List PlanItem :=
  [.bare (.openRun ⟨none, ∅, none⟩), .bare (.pushContingency 0), .bare .popContingency,
    .bare (.closeRun "success" none)]

/-- An abort requested while the `PushContingency` of `emptyRun` is handled. -/
private def abortedAtPush : List Label :=
  loops .calm 5 ++ .request (.abort "beam lost") :: loops .calm 11

end Bsrs.Engine
