import Mathlib.Data.List.Count
import Mathlib.Data.List.Nodup
import Bsrs.Library.Run
import Bsrs.Qs.TaskSlot

namespace Bsrs.Qs

open Bsrs.Library (exec exec_invariant)

/-- A worker spawned under a claim. `finished` once its future is gone, which drops the claim;
`aborted` once `abort` was called on its handle; `code` is where it stands. -/
structure Worker (κ : Type) where
  generation : Nat
  code : κ
  finished : Bool
  aborted : Bool
  deriving Repr, DecidableEq

/-- A slot among the parties that use it: starters, which claim, spawn and register; workers, by
their task ids; and revokers, which take a handle and then abort it. -/
structure Crew (κ : Type) where
  slot : QueueTaskSlot
  /-- Claims whose guard is still a starter's. -/
  held : List Nat
  workers : List (Worker κ)
  /-- Spawned workers whose handle the starter is yet to register. -/
  spawned : List TaskId
  /-- Handles that `take` gave a revoker, which is yet to abort them. -/
  taken : List TaskId
  deriving Repr, DecidableEq

namespace Crew

variable {κ : Type}

def new : Crew κ where
  slot := .new
  held := []
  workers := []
  spawned := []
  taken := []

def modify (crew : Crew κ) (task : TaskId) (update : Worker κ → Worker κ) : Crew κ :=
  { crew with workers := crew.workers.modify task update }

def claim (crew : Crew κ) : Option (Crew κ × Nat) :=
  crew.slot.claim.map fun (slot, generation) =>
    ({ crew with slot, held := generation :: crew.held }, generation)

/-- A starter drops its guard without spawning. -/
def discard (crew : Crew κ) (generation : Nat) : Crew κ :=
  { crew with slot := crew.slot.finish generation, held := crew.held.erase generation }

/-- The guard moves into a new worker, whose handle is in the starter's hands. -/
def spawn (crew : Crew κ) (generation : Nat) (code : κ) : Crew κ :=
  { crew with
    held := crew.held.erase generation
    workers := crew.workers ++ [⟨generation, code, false, false⟩]
    spawned := crew.workers.length :: crew.spawned }

/-- The starter registers the handle of `task`, under the generation it holds for it. -/
def register (crew : Crew κ) (task : TaskId) (generation : Nat) : Crew κ :=
  let registered := crew.slot.register generation task
  { crew with
    slot := registered.1
    workers := crew.workers.modify task fun worker =>
      { worker with aborted := worker.aborted || registered.2 }
    spawned := crew.spawned.erase task }

def take (crew : Crew κ) : Crew κ :=
  { crew with slot := crew.slot.take.1, taken := crew.slot.take.2.toList ++ crew.taken }

/-- A revoker calls `abort` on a handle it took. -/
def abort (crew : Crew κ) (task : TaskId) : Crew κ :=
  { crew with
    workers := crew.workers.modify task fun worker => { worker with aborted := true }
    taken := crew.taken.erase task }

/-- The worker's future ends, by its return or by an abort that landed, and drops its claim. -/
def exit (crew : Crew κ) (task : TaskId) : Crew κ :=
  match crew.workers[task]? with
  | some worker =>
      { crew with
        slot := crew.slot.finish worker.generation
        workers := crew.workers.modify task fun worker => { worker with finished := true } }
  | none => crew

/-- The claims that are alive: those of the starters and those of the workers not yet finished. -/
def claims (crew : Crew κ) : List Nat :=
  crew.held ++ (crew.workers.filter fun worker => !worker.finished).map Worker.generation

/-- One atomic step of one of the parties. -/
inductive Act (κ : Type) where
  | claim
  | discard (generation : Nat)
  | spawn (generation : Nat) (code : κ)
  | register (task : TaskId)
  | take
  | abort (task : TaskId)
  | work (task : TaskId) (code : κ)
  | exit (task : TaskId)

/-- The generation a task was spawned under. -/
def stamp (crew : Crew κ) (task : TaskId) : Option Nat :=
  (crew.workers[task]?).map Worker.generation

/-- The generation whose release or registration an act is. -/
def Act.generation? (crew : Crew κ) : Act κ → Option Nat
  | .discard generation => some generation
  | .register task | .exit task => crew.stamp task
  | _ => none

/-- The parties in any order, each act where its party can make it. -/
def step (crew : Crew κ) : Act κ → Option (Crew κ)
  | .claim => some ((crew.claim.map Prod.fst).getD crew)
  | .discard generation => if generation ∈ crew.held then some (crew.discard generation) else none
  | .spawn generation code =>
      if generation ∈ crew.held then some (crew.spawn generation code) else none
  | .register task =>
      if task ∈ crew.spawned then
        (crew.workers[task]?).map fun worker => crew.register task worker.generation
      else none
  | .take => some crew.take
  | .abort task => if task ∈ crew.taken then some (crew.abort task) else none
  | .work task code =>
      (crew.workers[task]?).bind fun worker =>
        if worker.finished then none
        else some (crew.modify task fun worker => { worker with code })
  | .exit task =>
      (crew.workers[task]?).bind fun worker =>
        if worker.finished then none else some (crew.exit task)

/-- The slot holds the worker's own handle under its own claim. -/
def Tracks (crew : Crew κ) (task : TaskId) (worker : Worker κ) : Prop :=
  crew.slot.entry = some ⟨worker.generation, some task⟩

theorem Tracks.current {crew : Crew κ} {worker : Worker κ} (tracked : crew.Tracks task worker) :
    crew.slot.current = some worker.generation := by
  rw [QueueTaskSlot.current, tracked]
  rfl

/-- What holds of a crew however its parties are interleaved. -/
structure Sound (crew : Crew κ) : Prop where
  fresh : ∀ generation, generation ∈ crew.held ∨
    generation ∈ crew.workers.map Worker.generation → generation < crew.slot.nextGen
  distinct : (crew.held ++ crew.workers.map Worker.generation).Nodup
  /-- A current claim is alive. -/
  alive : ∀ generation, crew.slot.current = some generation → generation ∈ crew.claims
  /-- Each spawned worker is looked after by somebody, has ended or is aborted. -/
  tended : ∀ task worker, crew.workers[task]? = some worker →
    crew.Tracks task worker ∨ worker.finished ∨ worker.aborted ∨ task ∈ crew.spawned ∨
      task ∈ crew.taken
  known : ∀ task ∈ crew.spawned, task < crew.workers.length
  once : crew.spawned.Nodup
  /-- A handle in the slot is that of the worker its claim moved into. -/
  handle : ∀ generation task, crew.slot.entry = some ⟨generation, some task⟩ →
    ∃ worker, crew.workers[task]? = some worker ∧ worker.generation = generation
  handed : ∀ task ∈ crew.taken, task < crew.workers.length
  /-- Only a worker whose claim was revoked is aborted, or about to be. -/
  revoked : ∀ task worker, crew.workers[task]? = some worker →
    worker.aborted ∨ task ∈ crew.taken → crew.slot.current ≠ some worker.generation

/-- An update that keeps what is read off a worker keeps what is read off all of them. -/
theorem map_modify_same {β : Type} (workers : List (Worker κ)) (task : TaskId)
    {update : Worker κ → Worker κ} {read : Worker κ → β}
    (keeps : ∀ worker, read (update worker) = read worker) :
    (workers.modify task update).map read = workers.map read := by
  apply List.ext_getElem?
  intro position
  simp only [List.getElem?_map, List.getElem?_modify]
  cases workers[position]? with
  | none => rfl
  | some worker =>
      by_cases same : task = position
      · simp [same, keeps]
      · simp [same]

theorem map_generation_modify (workers : List (Worker κ)) (task : TaskId)
    {update : Worker κ → Worker κ} (keeps : ∀ worker, (update worker).generation = worker.generation) :
    (workers.modify task update).map Worker.generation = workers.map Worker.generation :=
  map_modify_same workers task keeps

theorem mem_claims {crew : Crew κ} {generation : Nat} :
    generation ∈ crew.claims ↔ generation ∈ crew.held ∨
      ∃ (task : TaskId) (worker : Worker κ), crew.workers[task]? = some worker ∧
        worker.finished = false ∧ worker.generation = generation := by
  rw [claims, List.mem_append, List.mem_map]
  apply or_congr_right
  constructor
  · rintro ⟨worker, member, same⟩
    obtain ⟨present, unfinished⟩ := List.mem_filter.mp member
    obtain ⟨task, found⟩ := List.mem_iff_getElem?.mp present
    exact ⟨task, worker, found, by simpa using unfinished, same⟩
  · rintro ⟨task, worker, found, unfinished, same⟩
    have present := List.mem_of_getElem? found
    exact ⟨worker, List.mem_filter.mpr ⟨present, by simpa using unfinished⟩, same⟩

namespace Sound

variable {crew : Crew κ} {generation : Nat} {task peer : TaskId} {worker fellow : Worker κ}

theorem claims_nodup (sound : crew.Sound) : crew.claims.Nodup := by
  have fewer : crew.claims.Sublist (crew.held ++ crew.workers.map Worker.generation) := by
    apply List.Sublist.append (List.Sublist.refl _)
    exact List.Sublist.map _ List.filter_sublist
  exact sound.distinct.sublist fewer

/-- No two workers share a generation. -/
theorem same_task (sound : crew.Sound) (found : crew.workers[task]? = some worker)
    (other : crew.workers[peer]? = some fellow) (same : worker.generation = fellow.generation) :
    task = peer := by
  have distinct := (List.nodup_append.mp sound.distinct).2.1
  have inside : task < (crew.workers.map Worker.generation).length := by
    simpa using (List.getElem?_eq_some_iff.mp found).1
  exact (List.getElem?_inj inside distinct).mp (by simp [found, other, same])

theorem apart (sound : crew.Sound) (held : generation ∈ crew.held)
    (found : crew.workers[task]? = some worker) : worker.generation ≠ generation := by
  have disjoint := (List.nodup_append.mp sound.distinct).2.2
  intro same
  exact disjoint generation held worker.generation
    (List.mem_map.mpr ⟨worker, List.mem_of_getElem? found, rfl⟩) same.symm

theorem new : (Crew.new : Crew κ).Sound where
  fresh := by simp [Crew.new]
  distinct := by simp [Crew.new]
  alive := by simp [Crew.new, QueueTaskSlot.new, QueueTaskSlot.current]
  tended := by simp [Crew.new]
  known := by simp [Crew.new]
  once := by simp [Crew.new]
  handle := by simp [Crew.new, QueueTaskSlot.new]
  handed := by simp [Crew.new]
  revoked := by simp [Crew.new]

theorem claim (sound : crew.Sound) (claimed : crew.claim = some (next, generation)) :
    next.Sound := by
  simp only [Crew.claim, Option.map_eq_some_iff, Prod.exists, Prod.mk.injEq] at claimed
  obtain ⟨slot, stamped, taken, rfl, rfl⟩ := claimed
  obtain ⟨empty, rfl, rfl⟩ := QueueTaskSlot.claim_eq_some.mp taken
  have unused : crew.slot.nextGen ∉ crew.held ++ crew.workers.map Worker.generation := by
    intro member
    have below := sound.fresh _ (List.mem_append.mp member)
    omega
  refine ⟨?_, ?_, ?_, ?_, sound.known, sound.once, nofun, sound.handed, ?_⟩
  · intro generation member
    show generation < crew.slot.nextGen + 1
    by_cases newest : generation = crew.slot.nextGen
    · omega
    · have older := sound.fresh generation (by simpa [newest] using member)
      omega
  · exact List.nodup_cons.mpr ⟨unused, sound.distinct⟩
  · intro generation current
    have newest : crew.slot.nextGen = generation := by
      simpa [QueueTaskSlot.current] using current
    exact mem_claims.mpr (Or.inl (by simp [newest]))
  · intro task worker found
    rcases sound.tended task worker found with tracked | rest
    · simp [Tracks, empty] at tracked
    · exact Or.inr rest
  · intro task worker found _ current
    have older := sound.fresh worker.generation
      (Or.inr (List.mem_map.mpr ⟨worker, List.mem_of_getElem? found, rfl⟩))
    have newest : crew.slot.nextGen = worker.generation := by
      simpa [QueueTaskSlot.current] using current
    omega

/-- A release leaves every other claim as it was. -/
theorem finish_entry (generation : Nat) {entry : Entry}
    (other : entry.generation ≠ generation) :
    (crew.slot.finish generation).entry = some entry ↔ crew.slot.entry = some entry := by
  by_cases live : crew.slot.current = some generation
  · rw [QueueTaskSlot.finish_of_current live]
    obtain ⟨held, found, rfl⟩ := QueueTaskSlot.current_eq_some.mp live
    constructor
    · nofun
    · intro same
      rw [found] at same
      cases same
      exact absurd rfl other
  · rw [QueueTaskSlot.finish_of_stale live]

theorem entry_of_finish {entry : Entry}
    (stored : (crew.slot.finish generation).entry = some entry) : crew.slot.entry = some entry := by
  by_cases live : crew.slot.current = some generation
  · rw [QueueTaskSlot.finish_of_current live] at stored
    cases stored
  · rwa [QueueTaskSlot.finish_of_stale live] at stored

theorem finish_current {released : Nat}
    (current : (crew.slot.finish released).current = some generation) :
    crew.slot.current = some generation ∧ generation ≠ released := by
  by_cases live : crew.slot.current = some released
  · rw [QueueTaskSlot.finish_of_current live] at current
    cases current
  · rw [QueueTaskSlot.finish_of_stale live] at current
    refine ⟨current, fun same => ?_⟩
    exact live (same ▸ current)

theorem discard (sound : crew.Sound) (held : generation ∈ crew.held) :
    (crew.discard generation).Sound := by
  have kept : (crew.held.erase generation).Sublist crew.held := List.erase_sublist
  refine ⟨?_, ?_, ?_, ?_, sound.known, sound.once, ?_, sound.handed, ?_⟩
  · intro other member
    rw [Crew.discard, QueueTaskSlot.nextGen_finish]
    exact sound.fresh other (member.imp_left (kept.subset ·))
  · exact sound.distinct.sublist (kept.append (List.Sublist.refl _))
  · intro other current
    obtain ⟨before, different⟩ := finish_current current
    rcases mem_claims.mp (sound.alive other before) with mine | working
    · exact mem_claims.mpr (Or.inl ((List.mem_erase_of_ne different).mpr mine))
    · exact mem_claims.mpr (Or.inr working)
  · intro task worker found
    have different := sound.apart held found
    exact (sound.tended task worker found).imp_left (finish_entry generation different).mpr
  · intro other task stored
    exact sound.handle other task (entry_of_finish stored)
  · intro task worker found doomed current
    exact sound.revoked task worker found doomed (finish_current current).1

theorem spawn (sound : crew.Sound) (held : generation ∈ crew.held) (code : κ) :
    (crew.spawn generation code).Sound := by
  refine ⟨?_, ?_, ?_, ?_, ?_, ?_, ?_, ?_, ?_⟩
  · intro other member
    apply sound.fresh other
    rcases member with mine | spawned
    · exact Or.inl (List.mem_of_mem_erase mine)
    · rcases List.mem_append.mp (by simpa [Crew.spawn] using spawned : other ∈
        crew.workers.map Worker.generation ++ [generation]) with working | same
      · exact Or.inr working
      · exact Or.inl (List.mem_singleton.mp same ▸ held)
  · have moved : ((crew.spawn generation code).held ++
        (crew.spawn generation code).workers.map Worker.generation).Perm
          (crew.held ++ crew.workers.map Worker.generation) := by
      simp only [Crew.spawn, List.map_append, List.map_cons, List.map_nil]
      rw [← List.append_assoc]
      apply List.perm_append_singleton _ _ |>.trans
      exact (List.perm_cons_erase held).symm.append_right _
    exact moved.nodup_iff.mpr sound.distinct
  · intro other current
    rcases mem_claims.mp (sound.alive other current) with mine | ⟨task, worker, found, rest⟩
    · by_cases same : other = generation
      · refine mem_claims.mpr (Or.inr ⟨crew.workers.length, ⟨generation, code, false, false⟩, ?_⟩)
        simp [Crew.spawn, same]
      · exact mem_claims.mpr (Or.inl ((List.mem_erase_of_ne same).mpr mine))
    · refine mem_claims.mpr (Or.inr ⟨task, worker, ?_, rest⟩)
      have inside := (List.getElem?_eq_some_iff.mp found).1
      exact (List.getElem?_append_left inside).trans found
  · intro task worker found
    by_cases inside : task < crew.workers.length
    · have before : crew.workers[task]? = some worker := by
        simpa [Crew.spawn, List.getElem?_append_left inside] using found
      rcases sound.tended task worker before with tracked | finished | aborted | spawned | taken
      · exact Or.inl tracked
      · exact Or.inr (Or.inl finished)
      · exact Or.inr (Or.inr (Or.inl aborted))
      · exact Or.inr (Or.inr (Or.inr (Or.inl (List.mem_cons_of_mem _ spawned))))
      · exact Or.inr (Or.inr (Or.inr (Or.inr taken)))
    · have bound := (List.getElem?_eq_some_iff.mp found).1
      have newest : task = crew.workers.length := by
        simp only [Crew.spawn, List.length_append, List.length_cons, List.length_nil] at bound
        exact Nat.le_antisymm (Nat.le_of_lt_succ bound) (Nat.le_of_not_lt inside)
      exact Or.inr (Or.inr (Or.inr (Or.inl (by simp [Crew.spawn, newest]))))
  · intro task member
    simp only [Crew.spawn, List.length_append, List.length_cons, List.length_nil]
    rcases List.mem_cons.mp member with rfl | earlier
    · exact Nat.lt_succ_self _
    · exact Nat.lt_succ_of_lt (sound.known task earlier)
  · apply List.nodup_cons.mpr
    refine ⟨fun member => ?_, sound.once⟩
    exact Nat.lt_irrefl _ (sound.known _ member)
  · intro other task stored
    obtain ⟨worker, found, same⟩ := sound.handle other task stored
    have inside := (List.getElem?_eq_some_iff.mp found).1
    exact ⟨worker, (List.getElem?_append_left inside).trans found, same⟩
  · intro task member
    simp only [Crew.spawn, List.length_append, List.length_cons, List.length_nil]
    exact Nat.lt_succ_of_lt (sound.handed task member)
  · intro task worker found doomed
    by_cases inside : task < crew.workers.length
    · exact sound.revoked task worker ((List.getElem?_append_left inside).symm.trans found) doomed
    · have bound := (List.getElem?_eq_some_iff.mp found).1
      simp only [Crew.spawn, List.length_append, List.length_cons, List.length_nil] at bound
      have newest := Nat.le_antisymm (Nat.le_of_lt_succ bound) (Nat.le_of_not_lt inside)
      have fresh : worker.aborted = false := by
        have same : some ⟨generation, code, false, false⟩ = some worker := by
          simpa [Crew.spawn, newest] using found
        cases same
        rfl
      rcases doomed with aborted | taken
      · exact absurd (fresh.symm.trans aborted) (by decide)
      · exact absurd (sound.handed task taken) inside

/-- The worker found after an update is the one before, updated if it is the task's. -/
theorem found_modify {update : Worker κ → Worker κ} :
    (crew.workers.modify task update)[peer]? = some worker ↔
      ∃ before, crew.workers[peer]? = some before ∧
        worker = if task = peer then update before else before := by
  by_cases same : task = peer
  · subst same
    rw [List.getElem?_modify_eq, Option.map_eq_map, Option.map_eq_some_iff]
    simp only [if_true, eq_comm]
  · simp only [List.getElem?_modify_ne _ _ same, if_neg same, exists_eq_right']

theorem stamp_modify {update : Worker κ → Worker κ}
    (keeps : ∀ worker, (update worker).generation = worker.generation) :
    (crew.modify task update).stamp peer = crew.stamp peer := by
  have same := congrArg (·[peer]?) (map_generation_modify crew.workers task keeps)
  simpa [stamp, modify] using same

/-- Aborting or moving a worker ends no claim. -/
theorem mem_claims_modify {update : Worker κ → Worker κ}
    (keeps : ∀ worker, (update worker).generation = worker.generation)
    (ends : ∀ worker, (update worker).finished = worker.finished) (alive : generation ∈ crew.claims) :
    generation ∈ (crew.modify task update).claims := by
  rcases mem_claims.mp alive with held | ⟨peer, worker, found, unfinished, same⟩
  · exact mem_claims.mpr (Or.inl held)
  · refine mem_claims.mpr (Or.inr ⟨peer, _, found_modify.mpr ⟨worker, found, rfl⟩, ?_⟩)
    by_cases mine : task = peer
    · simp [mine, ends, keeps, unfinished, same]
    · simp [mine, unfinished, same]

/-- An update that keeps generations leaves a handle's worker in its place. -/
theorem kept_handle {update : Worker κ → Worker κ}
    (keeps : ∀ worker, (update worker).generation = worker.generation)
    (stored : ∃ worker, crew.workers[peer]? = some worker ∧ worker.generation = generation) :
    ∃ worker, (crew.workers.modify task update)[peer]? = some worker ∧
      worker.generation = generation := by
  obtain ⟨worker, found, same⟩ := stored
  refine ⟨_, found_modify.mpr ⟨worker, found, rfl⟩, ?_⟩
  by_cases mine : task = peer
  · simp [mine, keeps, same]
  · simp [mine, same]

theorem register (sound : crew.Sound) (found : crew.workers[task]? = some worker) :
    (crew.register task worker.generation).Sound := by
  have lengths : (crew.register task worker.generation).workers.length = crew.workers.length := by
    simp [Crew.register]
  have generations : (crew.register task worker.generation).workers.map Worker.generation =
      crew.workers.map Worker.generation :=
    map_generation_modify _ _ fun _ => rfl
  refine ⟨?_, ?_, ?_, ?_, ?_, ?_, ?_, ?_, ?_⟩
  · intro generation member
    rw [generations] at member
    exact lt_of_lt_of_eq (sound.fresh generation member) (QueueTaskSlot.nextGen_register ..).symm
  · rw [generations]
    exact sound.distinct
  · intro generation current
    have before : crew.slot.current = some generation := by
      by_cases live : crew.slot.current = some worker.generation
      · have registered := QueueTaskSlot.register_of_current live task
        simp only [Crew.register, registered] at current
        exact live.trans current
      · have registered := QueueTaskSlot.register_of_stale live task
        simpa only [Crew.register, registered] using current
    exact mem_claims_modify (fun _ => rfl) (fun _ => rfl) (sound.alive generation before)
  · intro peer fellow seen
    obtain ⟨before, held, rfl⟩ := found_modify.mp seen
    by_cases mine : task = peer
    · subst mine
      cases found.symm.trans held
      by_cases live : crew.slot.current = some worker.generation
      · have registered := QueueTaskSlot.register_of_current live task
        exact Or.inl (by simp [Tracks, Crew.register, registered])
      · have registered := QueueTaskSlot.register_of_stale live task
        refine Or.inr (Or.inr (Or.inl ?_))
        rw [registered, if_pos rfl, Bool.or_true]
    · simp only [if_neg mine]
      rcases sound.tended peer before held with tracked | finished | aborted | spawned | taken
      · have stale : crew.slot.current ≠ some worker.generation := by
          intro current
          have same := Option.some.inj (tracked.current.symm.trans current)
          exact mine (sound.same_task found held same.symm)
        have registered := QueueTaskSlot.register_of_stale stale task
        exact Or.inl (by simpa [Tracks, Crew.register, registered] using tracked)
      · exact Or.inr (Or.inl finished)
      · exact Or.inr (Or.inr (Or.inl aborted))
      · have remains := (List.mem_erase_of_ne (Ne.symm mine)).mpr spawned
        exact Or.inr (Or.inr (Or.inr (Or.inl remains)))
      · exact Or.inr (Or.inr (Or.inr (Or.inr taken)))
  · intro peer member
    rw [lengths]
    exact sound.known peer (List.mem_of_mem_erase member)
  · exact sound.once.erase task
  · intro generation peer stored
    by_cases live : crew.slot.current = some worker.generation
    · have registered := QueueTaskSlot.register_of_current live task
      simp only [Crew.register, registered, Option.some.injEq, Entry.mk.injEq] at stored
      obtain ⟨rfl, rfl⟩ := stored
      exact ⟨_, found_modify.mpr ⟨worker, found, rfl⟩, by simp⟩
    · have registered := QueueTaskSlot.register_of_stale live task
      simp only [Crew.register, registered] at stored
      exact kept_handle (fun _ => rfl) (sound.handle generation peer stored)
  · intro peer member
    rw [lengths]
    exact sound.handed peer member
  · intro peer fellow seen doomed
    obtain ⟨before, held, rfl⟩ := found_modify.mp seen
    by_cases live : crew.slot.current = some worker.generation
    · have registered := QueueTaskSlot.register_of_current live task
      have unmoved : (crew.register task worker.generation).slot.current = crew.slot.current := by
        simp only [Crew.register, registered, live]
        rfl
      have same : ∀ fellow : Worker κ, (if task = peer then
          { fellow with aborted := fellow.aborted || (crew.slot.register worker.generation task).2 }
          else fellow) = fellow := by
        intro fellow
        rw [registered]
        simp
      rw [same] at doomed ⊢
      rw [unmoved]
      exact sound.revoked peer before held doomed
    · have registered := QueueTaskSlot.register_of_stale live task
      have unmoved : (crew.register task worker.generation).slot.current = crew.slot.current := by
        simp only [Crew.register, registered]
      rw [unmoved]
      by_cases mine : task = peer
      · subst mine
        cases found.symm.trans held
        simpa using live
      · rw [if_neg mine] at doomed ⊢
        exact sound.revoked peer before held doomed

theorem take (sound : crew.Sound) : crew.take.Sound := by
  refine ⟨sound.fresh, sound.distinct, nofun, ?_, sound.known, sound.once, nofun, ?_, nofun⟩
  · intro task worker found
    rcases sound.tended task worker found with tracked | finished | aborted | spawned | taken
    · refine Or.inr (Or.inr (Or.inr (Or.inr ?_)))
      have handed : crew.slot.take.2 = some task := by
        rw [QueueTaskSlot.take, tracked]
        rfl
      simp [Crew.take, handed]
    · exact Or.inr (Or.inl finished)
    · exact Or.inr (Or.inr (Or.inl aborted))
    · exact Or.inr (Or.inr (Or.inr (Or.inl spawned)))
    · exact Or.inr (Or.inr (Or.inr (Or.inr (List.mem_append_right _ taken))))
  · intro task member
    rcases List.mem_append.mp member with handed | earlier
    · have stored : crew.slot.entry.bind Entry.handle = some task := by
        simpa [QueueTaskSlot.take] using handed
      obtain ⟨⟨generation, _⟩, found, rfl⟩ := Option.bind_eq_some_iff.mp stored
      obtain ⟨worker, present, _⟩ := sound.handle generation task found
      exact (List.getElem?_eq_some_iff.mp present).1
    · exact sound.handed task earlier

theorem abort (sound : crew.Sound) (task : TaskId)
    (stale : ∀ worker, crew.workers[task]? = some worker →
      crew.slot.current ≠ some worker.generation) : (crew.abort task).Sound := by
  have generations : (crew.abort task).workers.map Worker.generation =
      crew.workers.map Worker.generation :=
    map_generation_modify _ _ fun _ => rfl
  refine ⟨?_, ?_, ?_, ?_, ?_, sound.once, ?_, ?_, ?_⟩
  · intro generation member
    rw [generations] at member
    exact sound.fresh generation member
  · rw [generations]
    exact sound.distinct
  · intro generation current
    exact mem_claims_modify (fun _ => rfl) (fun _ => rfl) (sound.alive generation current)
  · intro peer fellow seen
    obtain ⟨before, held, rfl⟩ := found_modify.mp seen
    by_cases mine : task = peer
    · exact Or.inr (Or.inr (Or.inl (by simp [mine])))
    · simp only [if_neg mine]
      rcases sound.tended peer before held with tracked | finished | aborted | spawned | taken
      · exact Or.inl tracked
      · exact Or.inr (Or.inl finished)
      · exact Or.inr (Or.inr (Or.inl aborted))
      · exact Or.inr (Or.inr (Or.inr (Or.inl spawned)))
      · have remains := (List.mem_erase_of_ne (Ne.symm mine)).mpr taken
        exact Or.inr (Or.inr (Or.inr (Or.inr remains)))
  · intro peer member
    exact lt_of_lt_of_eq (sound.known peer member) (by simp [Crew.abort])
  · intro generation peer stored
    exact kept_handle (fun _ => rfl) (sound.handle generation peer stored)
  · intro peer member
    have earlier := List.mem_of_mem_erase member
    exact lt_of_lt_of_eq (sound.handed peer earlier) (by simp [Crew.abort])
  · intro peer fellow seen doomed
    obtain ⟨before, held, rfl⟩ := found_modify.mp seen
    by_cases mine : task = peer
    · subst mine
      rw [if_pos rfl]
      exact stale before held
    · rw [if_neg mine] at doomed ⊢
      exact sound.revoked peer before held (doomed.imp_right List.mem_of_mem_erase)

theorem work (sound : crew.Sound) (task : TaskId) (code : κ) :
    (crew.modify task fun worker => { worker with code }).Sound := by
  have generations : (crew.modify task fun worker => { worker with code }).workers.map
      Worker.generation = crew.workers.map Worker.generation :=
    map_generation_modify _ _ fun _ => rfl
  refine ⟨?_, ?_, ?_, ?_, ?_, sound.once, ?_, ?_, ?_⟩
  · intro generation member
    rw [generations] at member
    exact sound.fresh generation member
  · rw [generations]
    exact sound.distinct
  · intro generation current
    exact mem_claims_modify (fun _ => rfl) (fun _ => rfl) (sound.alive generation current)
  · intro peer fellow seen
    obtain ⟨before, held, rfl⟩ := found_modify.mp seen
    by_cases mine : task = peer <;> simpa [mine, Tracks, modify] using sound.tended peer before held
  · intro peer member
    exact lt_of_lt_of_eq (sound.known peer member) (by simp [modify])
  · intro generation peer stored
    exact kept_handle (fun _ => rfl) (sound.handle generation peer stored)
  · intro peer member
    exact lt_of_lt_of_eq (sound.handed peer member) (by simp [modify])
  · intro peer fellow seen
    obtain ⟨before, held, rfl⟩ := found_modify.mp seen
    by_cases mine : task = peer <;> simpa [mine, modify] using sound.revoked peer before held

theorem exit (sound : crew.Sound) (task : TaskId) : (crew.exit task).Sound := by
  cases found : crew.workers[task]? with
  | none =>
      rw [Crew.exit, found]
      exact sound
  | some worker =>
      have ended : crew.exit task = { crew with
          slot := crew.slot.finish worker.generation
          workers := crew.workers.modify task fun worker => { worker with finished := true } } := by
        rw [Crew.exit, found]
      have generations : (crew.exit task).workers.map Worker.generation =
          crew.workers.map Worker.generation := by
        rw [ended]
        exact map_generation_modify _ _ fun _ => rfl
      refine ⟨?_, ?_, ?_, ?_, ?_, ?_, ?_, ?_, ?_⟩
      · intro generation member
        rw [generations] at member
        rw [ended]
        have below := sound.fresh generation (by simpa [ended] using member)
        exact lt_of_lt_of_eq below (QueueTaskSlot.nextGen_finish ..).symm
      · rw [generations, ended]
        exact sound.distinct
      · intro generation current
        rw [ended] at current ⊢
        obtain ⟨before, different⟩ := finish_current current
        rcases mem_claims.mp (sound.alive generation before) with
          mine | ⟨peer, fellow, held, unfinished, same⟩
        · exact mem_claims.mpr (Or.inl mine)
        · refine mem_claims.mpr (Or.inr ⟨peer, fellow, ?_, unfinished, same⟩)
          have other : task ≠ peer := by
            rintro rfl
            cases found.symm.trans held
            exact different same.symm
          simp [other, held]
      · intro peer fellow seen
        rw [ended] at seen ⊢
        obtain ⟨before, held, rfl⟩ := found_modify.mp seen
        by_cases mine : task = peer
        · exact Or.inr (Or.inl (by simp [mine]))
        · simp only [if_neg mine]
          have different : before.generation ≠ worker.generation :=
            fun same => mine (sound.same_task found held same.symm)
          exact (sound.tended peer before held).imp_left (finish_entry _ different).mpr
      · intro peer member
        rw [ended] at member ⊢
        exact lt_of_lt_of_eq (sound.known peer member) (by simp)
      · rw [ended]
        exact sound.once
      · intro generation peer stored
        rw [ended] at stored ⊢
        exact kept_handle (fun _ => rfl) (sound.handle generation peer (entry_of_finish stored))
      · intro peer member
        rw [ended] at member ⊢
        exact lt_of_lt_of_eq (sound.handed peer member) (by simp)
      · intro peer fellow seen
        rw [ended] at seen ⊢
        obtain ⟨before, held, rfl⟩ := found_modify.mp seen
        intro doomed current
        have earlier := (finish_current current).1
        by_cases mine : task = peer
        · simp only [if_pos mine] at doomed earlier
          exact sound.revoked peer before held doomed earlier
        · rw [if_neg mine] at doomed earlier
          exact sound.revoked peer before held doomed earlier

/-- Taking the notice that a worker finished touches no claim. -/
theorem noticed (sound : crew.Sound) :
    Sound { crew with slot := crew.slot.takeWorkerFinished.1 } where
  fresh := sound.fresh
  distinct := sound.distinct
  alive := sound.alive
  tended := sound.tended
  known := sound.known
  once := sound.once
  handle := sound.handle
  handed := sound.handed
  revoked := sound.revoked

/-- Every act of any party keeps a crew sound. -/
theorem step (sound : crew.Sound) (moved : crew.step act = some next) : next.Sound := by
  cases act with
  | claim =>
      cases claimed : crew.claim with
      | none =>
          simp only [Crew.step, claimed, Option.map_none, Option.getD_none] at moved
          cases moved
          exact sound
      | some result =>
          simp only [Crew.step, claimed, Option.map_some, Option.getD_some] at moved
          cases moved
          exact sound.claim claimed
  | discard generation =>
      simp only [Crew.step, Option.ite_none_right_eq_some] at moved
      obtain ⟨held, same⟩ := moved
      cases same
      exact sound.discard held
  | spawn generation code =>
      simp only [Crew.step, Option.ite_none_right_eq_some] at moved
      obtain ⟨held, same⟩ := moved
      cases same
      exact sound.spawn held code
  | register task =>
      simp only [Crew.step, Option.ite_none_right_eq_some, Option.map_eq_some_iff] at moved
      obtain ⟨_, worker, found, rfl⟩ := moved
      exact sound.register found
  | take =>
      cases moved
      exact sound.take
  | abort task =>
      simp only [Crew.step, Option.ite_none_right_eq_some] at moved
      obtain ⟨taken, same⟩ := moved
      cases same
      exact sound.abort task fun worker found => sound.revoked task worker found (Or.inr taken)
  | work task code =>
      simp only [Crew.step, Option.bind_eq_some_iff, Option.ite_none_left_eq_some] at moved
      obtain ⟨worker, found, unfinished, same⟩ := moved
      cases same
      exact sound.work task code
  | exit task =>
      simp only [Crew.step, Option.bind_eq_some_iff, Option.ite_none_left_eq_some] at moved
      obtain ⟨worker, found, unfinished, same⟩ := moved
      cases same
      exact sound.exit task

/-- At most one claim is current. -/
theorem single (sound : crew.Sound) :
    (crew.claims.countP fun generation => crew.slot.current = some generation) ≤ 1 := by
  cases current : crew.slot.current with
  | none => simp
  | some live =>
      have counted : (crew.claims.countP fun generation => some live = some generation) =
          crew.claims.count live := by
        apply List.countP_congr
        intro other _
        rw [decide_eq_true_iff, Option.some_inj, beq_iff_eq]
        exact eq_comm
      rw [counted]
      exact List.nodup_iff_count_le_one.mp sound.claims_nodup live

end Sound

/-- Only the current generation's release or registration touches the slot. -/
theorem stale_inert {crew next : Crew κ} {act : Act κ} (moved : crew.step act = some next)
    (acts : act.generation? crew = some generation) (stale : crew.slot.current ≠ some generation) :
    next.slot = crew.slot := by
  cases act with
  | discard released =>
      cases acts
      simp only [step, Option.ite_none_right_eq_some] at moved
      obtain ⟨_, same⟩ := moved
      cases same
      exact QueueTaskSlot.finish_of_stale stale
  | register task =>
      simp only [Act.generation?, stamp, Option.map_eq_some_iff] at acts
      obtain ⟨worker, found, rfl⟩ := acts
      simp only [step, found, Option.map_some, Option.ite_none_right_eq_some] at moved
      obtain ⟨_, same⟩ := moved
      cases same
      exact congrArg Prod.fst (QueueTaskSlot.register_of_stale stale task)
  | exit task =>
      simp only [Act.generation?, stamp, Option.map_eq_some_iff] at acts
      obtain ⟨worker, found, rfl⟩ := acts
      simp only [step, found, Option.bind_some, Option.ite_none_left_eq_some] at moved
      obtain ⟨_, same⟩ := moved
      cases same
      rw [exit, found]
      exact QueueTaskSlot.finish_of_stale stale
  | claim | spawn | take | abort | work => cases acts

/-- A starter that registers a worker leaves it tracked, or aborted when its claim was revoked or
released meanwhile. -/
theorem Sound.registers {crew next : Crew κ} (sound : crew.Sound)
    (moved : crew.step (.register task) = some next) :
    ∃ worker, next.workers[task]? = some worker ∧ task ∉ next.spawned ∧
      (next.Tracks task worker ∨ worker.aborted) := by
  simp only [Crew.step, Option.ite_none_right_eq_some, Option.map_eq_some_iff] at moved
  obtain ⟨_, worker, found, rfl⟩ := moved
  refine ⟨_, found_modify.mpr ⟨worker, found, rfl⟩, sound.once.not_mem_erase, ?_⟩
  by_cases live : crew.slot.current = some worker.generation
  · have registered := QueueTaskSlot.register_of_current live task
    exact Or.inl (by simp [Tracks, Crew.register, registered])
  · have registered := QueueTaskSlot.register_of_stale live task
    refine Or.inr ?_
    rw [registered, if_pos rfl, Bool.or_true]

/-- A revoker's call leaves the worker aborted. -/
theorem Sound.aborts {crew next : Crew κ} (sound : crew.Sound)
    (moved : crew.step (.abort task) = some next) :
    ∃ worker, next.workers[task]? = some worker ∧ worker.aborted := by
  simp only [Crew.step, Option.ite_none_right_eq_some] at moved
  obtain ⟨taken, same⟩ := moved
  cases same
  have found := List.getElem?_eq_getElem (sound.handed task taken)
  exact ⟨_, found_modify.mpr ⟨_, found, rfl⟩, by simp⟩

theorem reached_sound {acts : List (Act κ)} {reached : Crew κ}
    (ran : exec step new acts = some reached) : reached.Sound :=
  exec_invariant Sound (fun _ _ _ moved sound => sound.step moved) ran Sound.new

/-- However claims, spawns, registrations, revocations and exits interleave: one claim at most is
current, no stale release or registration touches the slot, and every worker is tracked, has ended,
is aborted, or its handle is in the hands of a party whose next act registers or aborts it. -/
theorem single_worker {acts : List (Act κ)} {reached : Crew κ}
    (ran : exec step new acts = some reached) :
    (reached.claims.countP fun generation => reached.slot.current = some generation) ≤ 1 ∧
      (∀ act next generation, reached.step act = some next →
        act.generation? reached = some generation → reached.slot.current ≠ some generation →
        next.slot = reached.slot) ∧
      (∀ task worker, reached.workers[task]? = some worker →
        reached.Tracks task worker ∨ worker.finished ∨ worker.aborted ∨ task ∈ reached.spawned ∨
          task ∈ reached.taken) ∧
      (∀ task next, reached.step (.register task) = some next →
        ∃ worker, next.workers[task]? = some worker ∧ task ∉ next.spawned ∧
          (next.Tracks task worker ∨ worker.aborted)) ∧
      ∀ task next, reached.step (.abort task) = some next →
        ∃ worker, next.workers[task]? = some worker ∧ worker.aborted := by
  have sound := reached_sound ran
  refine ⟨sound.single, ?_, sound.tended, ?_, ?_⟩
  · exact fun act next generation moved acts stale => stale_inert moved acts stale
  · exact fun task next moved => sound.registers moved
  · exact fun task next moved => sound.aborts moved

/-- A worker revoked between spawn and register, with a successor claiming in between. -/
theorem single_worker_revoked :
    let acts : List (Act Unit) :=
      [.claim, .spawn 0 (), .take, .claim, .register 0, .spawn 1 (), .exit 0, .register 1]
    ∃ reached, exec step new acts = some reached ∧ reached.slot.current = some 1 ∧
      (reached.claims.countP fun generation => reached.slot.current = some generation) ≤ 1 := by
  intro acts
  have ran : exec step new acts = some (exec step new acts |>.get (by decide)) := by decide
  exact ⟨_, ran, by decide, (single_worker ran).1⟩

end Crew

end Bsrs.Qs
