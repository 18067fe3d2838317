import Bsrs.Engine.Flyers

namespace Bsrs.Engine

open Bsrs.Library (Table Action Grows Always Throughout)
open Bsrs.Library.Action
open Bsrs.EventModel
open Bsrs.Core

section

variable {scope : Scope} {msg : Msg} {key : RunKey} {before after engine : RunEngine}
  {among : RunKey → Obj → Prop}

/-- The flyers of the open run `key` that have the name of `obj` are `obj` itself. -/
def Sole (key : RunKey) (obj : Obj) (engine : RunEngine) : Prop :=
  ∀ slot ∈ engine.state.run key, ∀ other ∈ aloft key engine.log, other.name = obj.name → other = obj

/-! ## Kicking off and collecting -/

/-- The run's own work, with no flyer in it. -/
private def groundScope (key : RunKey) : Scope where
  own owned := owned = key
  may power := power = .configures ∨ power = .drains ∨ power = .sends

private theorem groundScope_grounds (closes : ∀ status reason, msg ≠ .closeRun status reason) :
    Grounds (groundScope key) msg where
  flies := by rintro (flies | flies | flies) <;> cases flies
  collects := by rintro (collects | collects | collects) <;> cases collects
  closes := closes

private theorem booked_of_grounded {body : EngineAction α} (grounded : Keeps Grounded body) :
    Triple Booked body (fun _ => Booked) (fun _ => Booked) :=
  .of_keeps grounded (fun _ _ _ booked move => booked.grounded move)
    fun _ _ _ booked move => booked.grounded move

/-- A slot of the run `key`, or of another run that is left as it was. -/
private theorem withSlot_among {update : RunSlot → RunSlot} {other : RunKey} {slot : RunSlot}
    (held : slot ∈ (engine.withSlot key update).state.run other) :
    (other = key ∧ ∃ earlier ∈ engine.state.run key, slot = update earlier) ∨
      other ≠ key ∧ slot ∈ engine.state.run other := by
  rw [run_withSlot] at held
  by_cases same : other = key
  · rw [if_pos same] at held
    obtain ⟨earlier, was, rfl⟩ := Option.map_eq_some_iff.mp held
    exact .inl ⟨same, earlier, same ▸ was, rfl⟩
  · rw [if_neg same] at held
    exact .inr ⟨same, held⟩

/-- A flyer is on the books as it takes off. -/
private theorem booked_flown {obj : Obj} (booked : Booked engine) (sole : Sole key obj engine) :
    Booked ((engine.withSlot key fun slot =>
      { slot with uncollected := slot.uncollected.insert obj.name obj }).record (.flown key obj)) := by
  have aloft_flown : ∀ other, aloft other (.flown key obj :: engine.log) =
      if key = other then obj :: aloft other engine.log else aloft other engine.log := fun _ => rfl
  refine ⟨fun other slot held name flyer listed => ?_, fun other slot held flyer owes => ?_,
    ⟨trivial, booked.always⟩⟩
  · rcases withSlot_among held with ⟨rfl, earlier, was, rfl⟩ | ⟨-, was⟩
    · by_cases same : name = obj.name
      · subst same
        rw [AList.lookup_insert] at listed
        obtain rfl := Option.some.inj listed
        rfl
      · rw [AList.lookup_insert_ne same] at listed
        exact booked.named other earlier was name flyer listed
    · exact booked.named other slot was name flyer listed
  · have flown : flyer ∈ aloft other (.flown key obj :: engine.log) := owes
    rw [aloft_flown] at flown
    rcases withSlot_among held with ⟨rfl, earlier, was, rfl⟩ | ⟨different, was⟩
    · rw [if_pos rfl] at flown
      by_cases same : flyer.name = obj.name
      · have itself : flyer = obj := by
          rcases List.mem_cons.mp flown with rfl | past
          · rfl
          · exact sole earlier was flyer past same
        rw [itself]
        exact AList.lookup_insert _
      · rcases List.mem_cons.mp flown with rfl | past
        · exact absurd rfl same
        · rw [AList.lookup_insert_ne same]
          exact booked.held other earlier was flyer past
    · rw [if_neg (Ne.symm different)] at flown
      exact booked.held other slot was flyer flown

theorem handleKickoff_booked (env : Env) (obj : Obj) (group : Option GroupId)
    (booked : Booked engine) (sole : obj.collectable = true → Sole key obj engine) :
    Booked (handleKickoff env key obj group engine).2 := by
  have grounds : Grounds (groundScope key) (.kickoff obj group) := groundScope_grounds fun _ _ => nofun
  have issued : Triple Booked (handleIssue env (.kickoff obj) group) (fun _ => Booked)
      (fun _ => Booked) :=
    booked_of_grounded (grounded_body grounds (handleIssue_effects env _ group))
  unfold handleKickoff
  rw [ask_bind]
  split
  · rw [modify_bind]
    have touched : Booked (engine.withState fun state =>
        { state with flyableObjsTouched := state.flyableObjsTouched.insert obj.name obj }) :=
      ⟨booked.named, booked.held, booked.always⟩
    split
    · rename_i collectable
      rw [modify_bind]
      unfold record
      rw [modify_bind]
      exact (Triple.to_keeps issued) _ (booked_flown touched (sole collectable))
    · exact (Triple.to_keeps issued) _ touched
  · exact booked

/-- What collecting one flyer keeps, from the moment it is passed to `collect_object`. -/
private structure Collecting (among : RunKey → Obj → Prop) (key : RunKey) (name : String)
    (engine : RunEngine) : Prop where
  booked : Booked engine
  only : AloftOnly among engine
  clear : ∀ slot ∈ engine.state.run key, ∀ other ∈ aloft key engine.log, other.name ≠ name

private theorem Collecting.grounded {name : String} (collecting : Collecting among key name before)
    (move : Grounded before after) : Collecting among key name after := by
  refine ⟨collecting.booked.grounded move, collecting.only.grounded move, fun slot held other owes => ?_⟩
  rcases move.slots key slot held with ⟨-, none⟩ | ⟨earlier, was, -, also⟩
  · simp [none] at owes
  · exact collecting.clear earlier was other (also owes)

private theorem collecting_of_grounded {name : String} {body : EngineAction α}
    (grounded : Keeps Grounded body) :
    Triple (Collecting among key name) body (fun _ => Collecting among key name)
      (fun _ => Collecting among key name) :=
  .of_keeps grounded (fun _ _ _ collecting move => collecting.grounded move)
    fun _ _ _ collecting move => collecting.grounded move

theorem collectObject_booked (env : Env) (key : RunKey) (obj : Obj) (streamName : Option String) :
    Triple (fun engine => Booked engine ∧ AloftOnly among engine ∧ Sole key obj engine)
      (collectObject env key obj streamName)
      (fun _ engine => Booked engine ∧
        AloftOnly (fun other flyer => among other flyer ∧ ¬ (key = other ∧ flyer = obj)) engine)
      (fun _ engine => Booked engine ∧
        AloftOnly (fun other flyer => among other flyer ∧ ¬ (key = other ∧ flyer = obj)) engine) := by
  let still (other : RunKey) (flyer : Obj) : Prop := among other flyer ∧ ¬ (key = other ∧ flyer = obj)
  let held (engine : RunEngine) : Prop := Collecting still key obj.name engine
  have ends : ∀ engine, held engine → Booked engine ∧ AloftOnly still engine :=
    fun engine collecting => ⟨collecting.booked, collecting.only⟩
  have grounds : Grounds (groundScope key) (.collect obj streamName) :=
    groundScope_grounds fun _ _ => nofun
  have ground : ∀ {α : Type} {body : EngineAction α},
      Keeps (Effects (groundScope key) (.collect obj streamName)) body →
      Triple held body (fun _ => held) (fun _ engine => Booked engine ∧ AloftOnly still engine) :=
    fun effects => (collecting_of_grounded (grounded_body grounds effects)).weaken
      (fun _ => id) (fun _ _ => id) fun _ => ends
  have marked : Triple (fun engine => Booked engine ∧ AloftOnly among engine ∧ Sole key obj engine)
      (record (.collecting key obj)) (fun _ => held)
      (fun _ engine => Booked engine ∧ AloftOnly still engine) := by
    refine Triple.modify fun engine ⟨booked, only, sole⟩ => ⟨⟨booked.named, ?_, ?_⟩, ?_, ?_⟩
    · intro other slot open_ flyer owes
      exact booked.held other slot open_ flyer (mem_aloft_collecting.mp owes).1
    · exact ⟨trivial, booked.always⟩
    · intro other slot open_ flyer owes
      obtain ⟨earlier, different⟩ := mem_aloft_collecting.mp owes
      exact ⟨only other slot open_ flyer earlier, different⟩
    · intro slot open_ flyer owes same
      obtain ⟨earlier, different⟩ := mem_aloft_collecting.mp owes
      exact different ⟨rfl, sole slot open_ flyer earlier same⟩
  have describes : Describes (.collect obj streamName) := trivial
  have configures : (groundScope key).may .configures := .inl rfl
  have drains : (groundScope key).may .drains := .inr (.inl rfl)
  have sends : (groundScope key).may .sends := .inr (.inr rfl)
  refine Triple.bind marked fun _ => Triple.ask_bind fun found => ?_
  cases found with
  | none => exact Triple.fail _ fun engine both => ends engine both.1
  | some bundler =>
      refine Triple.bind ((ground (Keeps.lift _)).weaken (fun _ both => both.1) (fun _ _ => id)
        fun _ _ => id) fun declared => ?_
      have stream : Keeps (Effects (groundScope key) (.collect obj streamName))
          (collectStream env key obj declared) := by
        cases declared with
        | none => exact declareCollected_effects rfl configures describes env obj
        | some stream => exact Keeps.pure _
      refine Triple.bind (ground stream) fun name => Triple.bind
        (ground (drainCollected_effects rfl drains env obj name)) fun _ => ?_
      refine Triple.bind (ground (await_effects env)) fun tick =>
        Triple.bind (ground (Keeps.lift _)) fun events => ?_
      have sent : Keeps (Effects (groundScope key) (.collect obj streamName))
          (each (collectEvent env key declared) events) :=
        Keeps.each fun _ _ => collectEvent_effects rfl sends describes env _ _
      refine Triple.bind (ground sent) fun _ => Triple.modify fun engine collecting =>
        ⟨⟨fun other slot open_ name flyer listed => ?_, fun other slot open_ flyer owes => ?_,
          collecting.booked.always⟩, fun other slot open_ flyer owes => ?_⟩
      · rcases withSlot_among open_ with ⟨rfl, earlier, was, rfl⟩ | ⟨-, was⟩
        · by_cases same : name = obj.name
          · subst same
            simp at listed
          · rw [AList.lookup_erase_ne same] at listed
            exact collecting.booked.named other earlier was name flyer listed
        · exact collecting.booked.named other slot was name flyer listed
      · rcases withSlot_among open_ with ⟨rfl, earlier, was, rfl⟩ | ⟨-, was⟩
        · rw [AList.lookup_erase_ne (collecting.clear earlier was flyer owes)]
          exact collecting.booked.held other earlier was flyer owes
        · exact collecting.booked.held other slot was flyer owes
      · rcases withSlot_among open_ with ⟨rfl, earlier, was, rfl⟩ | ⟨-, was⟩
        · exact collecting.only other earlier was flyer owes
        · exact collecting.only other slot was flyer owes

/-! ## Closing -/

/-- No open run owes a flyer. -/
private def Landed : RunKey → Obj → Prop :=
  fun _ _ => False

private theorem run_dropRun {other : RunKey} {slot : RunSlot}
    (held : slot ∈ (engine.dropRun key).state.run other) :
    other ≠ key ∧ slot ∈ engine.state.run other := by
  by_cases same : other = key
  · subst same
    simp [RunEngine.dropRun, RunEngine.withState, EngineState.run] at held
  · refine ⟨same, ?_⟩
    have kept : (engine.dropRun key).state.run other = engine.state.run other := by
      simp [RunEngine.dropRun, RunEngine.withState, EngineState.run, AList.lookup_erase_ne same]
    exact kept ▸ held

theorem closeRunIfOpen_booked (env : Env) (status : String) (reason : Option String)
    (booked : Booked engine) (only : AloftOnly among engine)
    (landed : isStopStatus status = true → ∀ slot ∈ engine.state.run key, aloft key engine.log = []) :
    Booked (closeRunIfOpen env key status reason engine).2 ∧
      AloftOnly among (closeRunIfOpen env key status reason engine).2 := by
  have grounds : Grounds (groundScope key) .null := groundScope_grounds fun _ _ => nofun
  have closing := closeRunIfOpen_closing env key status reason engine
  generalize (closeRunIfOpen env key status reason engine).2 = reached at closing ⊢
  generalize (closeRunIfOpen env key status reason engine).1 = outcome at closing
  cases closing with
  | absent closed => exact ⟨⟨booked.named, booked.held, booked.always⟩, only⟩
  | lost slot open_ illegal =>
      refine ⟨⟨fun other slot held => ?_, fun other slot held => ?_, booked.always⟩, ?_⟩
      · exact booked.named other slot (run_dropRun held).2
      · exact booked.held other slot (run_dropRun held).2
      · exact fun other slot held => only other slot (run_dropRun held).2
  | stopped slot exit cause stop open_ legal stops =>
      let dropped : RunEngine := (RunEngine.dropRun
        { engine with nextUid := engine.nextUid + 1 } key).record (.closed key stop)
      have closed : Booked dropped := by
        refine ⟨fun other slot held => ?_, fun other slot held => ?_, ?_⟩
        · exact booked.named other slot (run_dropRun held).2
        · exact booked.held other slot (run_dropRun held).2
        · exact ⟨landed legal slot open_, booked.always⟩
      have still : AloftOnly among dropped :=
        fun other slot held => only other slot (run_dropRun held).2
      have told : Grounded dropped (await env (dropped.record (.broadcast (.stop stop)))).2 := by
        have sent : Grounded dropped (dropped.record (.broadcast (.stop stop))) :=
          .of_log rfl (.cons rfl _)
        exact trans_of Grounded sent (grounded_body grounds (await_effects env) _)
      exact ⟨closed.grounded told, still.grounded told⟩

private theorem mem_owedFlyers {obj : Obj} : (key, obj) ∈ engine.owedFlyers ↔
    ∃ slot ∈ engine.state.run key, ∃ name, slot.uncollected.lookup name = some obj := by
  simp only [RunEngine.owedFlyers, List.mem_flatMap, List.mem_map, Prod.mk.injEq, Prod.exists]
  constructor
  · rintro ⟨other, slot, found, flyer, member, rfl, rfl⟩
    exact ⟨slot, Table.mem_pairs.mp found, Table.mem_values.mp member⟩
  · rintro ⟨slot, open_, listed⟩
    exact ⟨key, slot, Table.mem_pairs.mpr open_, obj, Table.mem_values.mpr listed, rfl, rfl⟩

/-- Flyers to be collected that are told apart by their names. -/
private def Distinct (pending : List (RunKey × Obj)) : Prop :=
  ∀ key obj other, (key, obj) ∈ pending → (key, other) ∈ pending → obj.name = other.name → obj = other

private theorem owedFlyers_distinct (booked : Booked engine) : Distinct engine.owedFlyers := by
  intro key obj other member also same
  obtain ⟨slot, open_, name, listed⟩ := mem_owedFlyers.mp member
  obtain ⟨again, open', label, found⟩ := mem_owedFlyers.mp also
  obtain rfl : slot = again := Option.some.inj (open_.symm.trans open')
  have first : obj.name = name := booked.named key slot open_ name obj listed
  have second : other.name = label := booked.named key slot open_ label other found
  rw [← first] at listed
  rw [← second, ← same] at found
  exact Option.some.inj (listed.symm.trans found)

/-- Once the backstop is through, no open run owes a flyer. -/
theorem backstopCollect_booked (env : Env) (booked : Booked engine) :
    Booked (backstopCollect env engine).2 ∧ AloftOnly Landed (backstopCollect env engine).2 := by
  let left (pending : List (RunKey × Obj)) (engine : RunEngine) : Prop :=
    Booked engine ∧ AloftOnly (fun key obj => (key, obj) ∈ pending) engine ∧ Distinct pending
  have turn : ∀ entry rest, Triple (left (entry :: rest))
      (do let _ ← attempt (collectObject env entry.1 entry.2 none) : EngineAction Unit)
      (fun _ => left rest) (fun _ => left []) := by
    rintro ⟨key, obj⟩ rest engine ⟨booked, only, distinct⟩
    have sole : Sole key obj engine := by
      intro slot open_ other owes same
      exact distinct key other obj (only key slot open_ other owes) (List.mem_cons_self ..) same
    have fewer : Distinct rest := fun owned flyer other member also =>
      distinct owned flyer other (List.mem_cons_of_mem _ member) (List.mem_cons_of_mem _ also)
    let among (owned : RunKey) (flyer : Obj) : Prop := (owned, flyer) ∈ (key, obj) :: rest
    have collected : Triple (fun engine => Booked engine ∧ AloftOnly among engine ∧ Sole key obj engine)
        (attempt (collectObject env key obj none))
        (fun _ engine => Booked engine ∧ AloftOnly (fun other flyer =>
          among other flyer ∧ ¬ (key = other ∧ flyer = obj)) engine) (fun _ => left []) :=
      Triple.attempt (collectObject_booked env key obj none)
    have ended : Triple (fun engine => Booked engine ∧ AloftOnly among engine ∧ Sole key obj engine)
        (do let _ ← attempt (collectObject env key obj none) : EngineAction Unit)
        (fun _ => left rest) (fun _ => left []) := by
      refine Triple.bind collected fun _ => Triple.pure _ fun later held =>
        ⟨held.1, fun owned slot open_ flyer owes => ?_, fewer⟩
      obtain ⟨member, different⟩ := held.2 owned slot open_ flyer owes
      rcases List.mem_cons.mp member with same | rest
      · obtain ⟨rfl, rfl⟩ := Prod.mk.inj same
        exact absurd ⟨rfl, rfl⟩ different
      · exact rest
    exact ended engine ⟨booked, only, sole⟩
  have pending : left engine.owedFlyers engine := by
    refine ⟨booked, fun key slot open_ obj owes => ?_, owedFlyers_distinct booked⟩
    exact mem_owedFlyers.mpr ⟨slot, open_, obj.name, booked.held key slot open_ obj owes⟩
  obtain ⟨ended, none, -⟩ := (Triple.to_keeps (Triple.each left turn engine.owedFlyers)) engine pending
  exact ⟨ended, fun key slot open_ obj owes => absurd (none key slot open_ obj owes) List.not_mem_nil⟩

theorem drainAndClose_booked (env : Env) (status : String) (reason : Option String)
    (booked : Booked engine) : Booked (drainAndClose env status reason engine).2 := by
  have closing : Triple (fun engine => Booked engine ∧ AloftOnly Landed engine)
      (do
        let openKeys ← ask fun engine => engine.state.runs.keys
        each (fun key => closeRunIfOpen env key status reason) openKeys : EngineAction Unit)
      (fun _ => Booked) (fun _ => Booked) := by
    refine Triple.ask_bind fun openKeys => ?_
    have each := Triple.each (fun _ engine => Booked engine ∧ AloftOnly Landed engine)
      (fun key _ => Triple.of_end fun engine both => closeRunIfOpen_booked env status reason
        both.1 both.2 fun _ slot open_ => List.eq_nil_iff_forall_not_mem.mpr fun obj owes =>
          both.2 key slot open_ obj owes) openKeys
    exact each.weaken (fun _ both => both.1) (fun _ _ both => both.1) fun _ _ both => both.1
  have drained := backstopCollect_booked env booked
  unfold drainAndClose
  rw [bind_apply]
  rcases ran : backstopCollect env engine with ⟨outcome, reached⟩
  rw [ran] at drained
  cases outcome with
  | error failure => exact drained.1
  | ok done => exact (Triple.to_keeps closing) reached drained

/-! ## Whole calls -/

/-- The flyers the open run `key` owes, of the name of `obj`, are `obj` itself. -/
def soleFlyer (key : RunKey) (obj : Obj) (engine : RunEngine) : Bool :=
  (engine.state.run key).all fun _ =>
    (aloft key engine.log).all fun other => other.name ≠ obj.name || other = obj

/-- The message closes no run that owes a flyer, and confuses no two flyers of one name. -/
def handlesGathering (msg : Msg) (engine : RunEngine) : Bool :=
  let key := (route msg).1
  match (route msg).2 with
  | .closeRun status _ => !isStopStatus status ||
      (engine.state.run key).all fun _ => (aloft key engine.log).isEmpty
  | .kickoff obj _ => !obj.collectable || soleFlyer key obj engine
  | .collect obj _ => soleFlyer key obj engine
  | _ => true

def Deed.gathering (_ : Env) (deed : Deed) (engine : RunEngine) : Bool :=
  match deed with
  | .handle msg => handlesGathering msg engine
  | _ => true

private theorem sole_of_soleFlyer {obj : Obj} (sole : soleFlyer key obj engine = true) :
    Sole key obj engine := by
  intro slot open_ other owes same
  unfold soleFlyer at sole
  rw [Option.mem_def.mp open_] at sole
  have checked := List.all_eq_true.mp sole other owes
  simpa [same] using checked

theorem handle_booked (env : Env) (msg : Msg) (booked : Booked engine)
    (gathering : handlesGathering msg engine = true) : Booked (handle env msg engine).2 := by
  have unit : ∀ {body : EngineAction Unit}, Booked (body engine).2 →
      Booked ((do body; return none : EngineAction (Option Uid)) engine).2 := by
    intro body ended
    rw [bind_pure_snd]
    exact ended
  have plain : Grounds (Scope.of (route msg).1 (route msg).2) (route msg).2 →
      Booked (handle env msg engine).2 := fun grounds =>
    booked.grounded (grounded_of_effects grounds (handle_effects env msg engine))
  unfold handlesGathering at gathering
  unfold handle at plain ⊢
  rcases routed : route msg with ⟨key, inner⟩
  rw [routed] at gathering plain
  dsimp only at gathering plain ⊢
  cases inner with
  | closeRun status reason =>
      refine unit ?_
      unfold handleCloseRun
      rw [ask_bind]
      split
      · have anyone : AloftOnly (fun _ _ => True) engine := fun _ _ _ _ _ => trivial
        have landed : isStopStatus status = true → ∀ slot ∈ engine.state.run key,
            aloft key engine.log = [] := by
          intro legal slot open_
          dsimp only at gathering
          rw [legal, Option.mem_def.mp open_] at gathering
          exact List.isEmpty_iff.mp gathering
        have closed := closeRunIfOpen_booked env status reason booked anyone landed
        rcases ran : closeRunIfOpen env key status reason engine with ⟨outcome, reached⟩
        rw [ran] at closed
        rw [bind_apply, ran]
        cases outcome with
        | ok done => exact ⟨closed.1.named, closed.1.held, closed.1.always⟩
        | error failure => exact closed.1
      · exact booked
  | kickoff obj group =>
      refine unit (handleKickoff_booked env obj group booked fun collectable => ?_)
      dsimp only at gathering
      rw [collectable] at gathering
      exact sole_of_soleFlyer gathering
  | collect obj streamName =>
      refine unit ?_
      have collected := Triple.to_keeps (collectObject_booked env key obj streamName) engine
        ⟨booked, fun _ _ _ _ _ => trivial, sole_of_soleFlyer gathering⟩
      exact collected.1
  | _ =>
      refine plain ⟨?_, ?_, fun _ _ => nofun⟩
      · simp [Scope.of, powers]
      · simp [Scope.of, powers]

private theorem gate_grounds : Grounds .gate .save where
  flies := nofun
  collects := nofun
  closes := fun _ _ => nofun

private theorem armReplay_grounded (engine : RunEngine) : Grounded engine engine.armReplay := by
  refine ⟨fun key slot held => ?_, fun always => ⟨trivial, always⟩⟩
  rcases run_armReplay engine key with same | rolled
  · exact .inr ⟨slot, same ▸ held, rfl, List.Subset.refl _⟩
  · rw [rolled] at held
    obtain ⟨earlier, was, rfl⟩ := Option.map_eq_some_iff.mp held
    exact .inr ⟨earlier, was, rfl, List.Subset.refl _⟩

private theorem booked_of_loopMove {going : Prop}
    (move : LoopMove going (fun env deed engine => deed.gathering env engine = true) before after)
    (booked : Booked before) : Booked after := by
  have describes : Describes .save := trivial
  have still : ∀ {after : RunEngine}, after.state.runs = before.state.runs →
      Grows Entry.isGrounded before.log after.log → Booked after :=
    fun same log => booked.grounded (.of_log same log)
  cases move with
  | handled env msg taken => exact handle_booked env msg booked taken
  | pauseEntered env interruption taken =>
      exact booked.grounded (grounded_body gate_grounds (onPauseEnter_effects describes env _) before)
  | restored env taken =>
      exact booked.grounded (grounded_body gate_grounds (restoreMonitors_effects describes env) before)
  | resumed env taken =>
      have armed := booked.grounded (armReplay_grounded before)
      exact armed.grounded
        (grounded_body gate_grounds (afterRearm_effects describes env) before.armReplay)
  | closed env status reason taken => exact drainAndClose_booked env status reason booked
  | pump update =>
      have pumped : Effect .gate .save before (before.pump update) := .pump before update
      exact booked.grounded (grounded_of_effects gate_grounds (.single pumped))
  | receive request => cases request <;> exact still rfl (.cons rfl _)
  | mark entry plain =>
      have grounded : entry.isGrounded = true := by
        cases entry <;> first | rfl | cases plain
      exact still rfl (.cons grounded _)
  | throw caught =>
      unfold RunEngine.throwIntoPlan at caught
      split at caught
      · cases caught
      · cases caught
        exact still rfl (.cons rfl _)
  | answered | control | share => exact still rfl (.refl _)
  | _ => exact still rfl (.cons rfl _)

end

/-- While no run is closed by a message with a flyer aloft and no two flyers of one name are
confused, every run closes with all its flyers passed to `collect_object` since their kickoff. -/
theorem gathered_of_gathering {plans : PlanStream σ} (idle : engine.Idle)
    (trace : run plans (Config.start engine plan) labels = some reached)
    (gathering : Throughout (step plans) (Config.Does Deed.gathering) (Config.start engine plan)
      labels) :
    Always Gathered reached.engine.log := by
  have initial : Booked (Config.start engine plan).engine := by
    have closed : ∀ key, ∀ slot, slot ∉ (Config.start engine plan).engine.state.run key := by
      intro key slot held
      simp [Config.start, RunEngine.begin, EngineState.run, idle.runs] at held
    exact ⟨fun key slot held => absurd held (closed key slot),
      fun key slot held => absurd held (closed key slot), trivial⟩
  have booked : Booked reached.engine := by
    refine Bsrs.Library.exec_invariant_throughout (fun config => Booked config.engine) ?_ trace
      gathering initial
    intro before label after stepped allowed held
    have moves : LoopMoves True (fun env deed engine => deed.gathering env engine = true)
        before.engine after.engine :=
      step_moves stepped fun env deed does => allowed (env, deed) does
    exact loopMoves_invariant Booked (fun _ _ => booked_of_loopMove) moves held
  exact booked.always

/-- A device that flies. -/
private def flyer : Obj :=
  { ptr := 0, name := "flyer", hintFields := none, configurable := false, collectable := true,
    writesExternalAssets := false }

/-- A plan that kicks a flyer off and leaves its run open. -/
private def flownOnly : List PlanItem :=
  [.bare (.openRun ⟨none, ∅, none⟩), .bare (.kickoff flyer (some "fly"))]

theorem gathered_flownOnly :
    ∃ reached ∈ run planItems (Config.start .new flownOnly) (loops .calm 9),
      Always Gathered reached.engine.log := by
  have gathering : Throughout (step planItems) (Config.Does Deed.gathering)
      (Config.start .new flownOnly) (loops .calm 9) := by decide +kernel
  have ends : (run planItems (Config.start .new flownOnly) (loops .calm 9)).isSome = true := by
    decide +kernel
  obtain ⟨reached, trace⟩ := Option.isSome_iff_exists.mp ends
  exact ⟨reached, trace, gathered_of_gathering new_idle trace gathering⟩

/-- The plan closes its run itself, as `run_wrapper` does, and the flyer is lost. -/
theorem gathered_fails_closed :
    ∃ reached ∈ run planItems
      (Config.start .new (flownOnly ++ [.bare (.closeRun "success" none)])) (loops .calm 9),
      ¬ Always Gathered reached.engine.log := by
  decide +kernel

end Bsrs.Engine
