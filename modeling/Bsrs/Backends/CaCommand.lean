import Bsrs.Backends.CaAnswers

namespace Bsrs.Backends

open Library

variable {ν ε δ : Type}

/-- Who has the `serial` lock: an execute before its put, or one whose put-callback, by its waiter, is
still to be answered. -/
inductive Serial where
  | free
  | locked
  | held (waiter : Nat)

/-- A CA command, alone on its channel, and the executes under way. `wire` is the execute value as the
PV's native type has it. -/
structure CaCommandBackend (ν ε δ : Type) where
  wire : δ → ν
  serial : Serial
  channel : SharedChannel ν ε

inductive CommandAction (ε δ : Type) where
  /-- An execute's turn has come. -/
  | lock
  /-- It fails to connect, or its caller gives up, before its put. -/
  | unlock
  | put (native : δ) (sent : Except ε Unit)
  /-- The task that awaits the put-callback lets the lock go. -/
  | release
  /-- The channel goes on by itself. -/
  | answered (done : Nat) (r : PutResult ε)
  | go (task : Nat) (sent : Except ε Unit)

namespace CaCommandBackend

def new (wire : δ → ν) : CaCommandBackend ν ε δ := ⟨wire, .free, .new⟩

/-- `execute`, from the lock to the answer. -/
def step (command : CaCommandBackend ν ε δ) : CommandAction ε δ → Option (CaCommandBackend ν ε δ)
  | .lock =>
      match command.serial with
      | .free => some { command with serial := .locked }
      | _ => none
  | .unlock =>
      match command.serial with
      | .locked => some { command with serial := .free }
      | _ => none
  | .put native sent =>
      match command.serial, sent with
      | .locked, .ok () =>
          some { command with
            serial := .held command.channel.written.length
            channel := command.channel.putCallback (command.wire native) (.ok ()) }
      | .locked, .error _ => some { command with serial := .free }
      | _, _ => none
  | .release =>
      match command.serial with
      | .held waiter =>
          if (command.channel.answers.map Prod.fst).contains waiter then
            some { command with serial := .free }
          else none
      | _ => none
  | .answered done r =>
      (command.channel.answered done r).map fun channel => { command with channel := channel }
  | .go task sent =>
      (command.channel.step (.go task sent)).map fun channel => { command with channel := channel }

/-- The value of an execute whose put the client takes. -/
def executed (wire : δ → ν) : CommandAction ε δ → Option ν
  | .put native (.ok _) => some (wire native)
  | _ => none

end CaCommandBackend

namespace SharedChannel

variable {channel next : SharedChannel ν ε}

/-- A channel on which each put is made only when the one before has been answered. -/
structure Serialised (channel : SharedChannel ν ε) : Prop where
  kept : channel.Kept
  puts : channel.puts = .idle ∨ channel.puts = .busy none
  whole : channel.values = channel.accepted
  notifies : ∀ write ∈ channel.circuit, write.isNotify = true
  last : ∀ place, channel.InFlight place → place + 1 = channel.circuit.length
  lone : ∀ drive ∈ channel.drives, ∀ r waiters again,
    drive = .answering r waiters again → again = none
  waits : ∀ drive ∈ channel.drives, drive.holds = 1 →
    1 ≤ drive.waits (channel.written.length - 1)

theorem Kept.free (kept : channel.Kept) (idle : channel.puts = .idle) {drive : Drive ε}
    (member : drive ∈ channel.drives) : drive.holds = 0 := by
  have driven := kept.driven
  rw [idle] at driven
  exact tally_eq_zero.mp driven drive member

theorem Kept.grounded (kept : channel.Kept) (idle : channel.puts = .idle) (place : Nat) :
    ¬ channel.InFlight place := by
  intro aloft
  obtain ⟨drive, member, done⟩ := kept.flying place aloft
  have none := kept.free idle member
  rw [Drive.holds_of_done done] at none
  cases none

theorem Serialised.put (serialised : channel.Serialised) (idle : channel.puts = .idle) (value : ν) :
    (channel.putCallback value (.ok ())).Serialised := by
  have kept := serialised.kept.putCallback value (.ok ())
  rw [putCallback_idle channel value idle] at kept ⊢
  exact {
    kept := kept
    puts := .inr rfl
    whole := by
      have whole := serialised.whole
      simp only [SharedChannel.values] at whole
      simp [SharedChannel.values, take, await, whole]
    notifies := by
      intro write member
      cases List.mem_append.mp member with
      | inl before => exact serialised.notifies write before
      | inr new =>
          obtain rfl := List.mem_singleton.mp new
          rfl
    last := by
      rintro place ⟨held, aloft⟩
      change (channel.circuit ++ [CaWrite.notify value none])[place]? = _ at aloft
      have within := (List.getElem?_eq_some_iff.mp aloft).1
      rw [List.getElem?_append] at aloft
      split at aloft
      · exact absurd ⟨held, aloft⟩ (serialised.kept.grounded idle place)
      · simp only [take, await, List.length_append, List.length_singleton] at within ⊢
        omega
    lone := by
      intro drive member r waiters again same
      cases List.mem_append.mp member with
      | inl before => exact serialised.lone drive before r waiters again same
      | inr new =>
          obtain rfl := List.mem_singleton.mp new
          cases same
    waits := by
      intro drive member holds
      cases List.mem_append.mp member with
      | inl before =>
          rw [serialised.kept.free idle before] at holds
          cases holds
      | inr new =>
          obtain rfl := List.mem_singleton.mp new
          simp [Drive.waits, Drive.due, take, await] }

theorem Serialised.answered (serialised : channel.Serialised) {done : Nat} {r : PutResult ε}
    (stepped : channel.answered done r = some next) :
    next.Serialised ∧ next.puts = channel.puts ∧ next.written = channel.written ∧
      next.accepted = channel.accepted := by
  have kept := serialised.kept.answered stepped
  unfold SharedChannel.answered at stepped
  split at stepped
  · rename_i value found
    obtain rfl := Option.some.inj stepped
    have within : done < channel.circuit.length := (List.getElem?_eq_some_iff.mp found).1
    refine ⟨?_, rfl, rfl, rfl⟩
    exact {
      kept := kept
      puts := serialised.puts
      whole := (values_answered found (some r)).trans serialised.whole
      notifies := by
        intro write member
        cases List.mem_or_eq_of_mem_set member with
        | inl before => exact serialised.notifies write before
        | inr new => exact new ▸ rfl
      last := by
        rintro place ⟨held, aloft⟩
        simp only [List.length_set]
        by_cases same : done = place
        · subst same
          cases (List.getElem?_set_self within).symm.trans aloft
        · exact serialised.last place ⟨held, (List.getElem?_set_ne same).symm.trans aloft⟩
      lone := serialised.lone
      waits := serialised.waits }
  · cases stepped

section

variable {task : Nat} {after : Drive ε}

/-- A task goes on, leaving the circuit as it is. -/
theorem Serialised.resumed (serialised : channel.Serialised)
    (kept : next.Kept) (drives : next.drives = channel.drives.set task after)
    (circuit : next.circuit = channel.circuit) (accepted : next.accepted = channel.accepted)
    (written : next.written = channel.written)
    (puts : next.puts = channel.puts ∨ next.puts = .idle)
    (lone : ∀ r waiters again, after = .answering r waiters again → again = none)
    (waits : after.holds = 1 → 1 ≤ after.waits (channel.written.length - 1)) : next.Serialised where
  kept := kept
  puts := puts.elim (fun same => same ▸ serialised.puts) .inl
  whole := by
    rw [SharedChannel.values, circuit, accepted]
    exact serialised.whole
  notifies := circuit ▸ serialised.notifies
  last place aloft := by
    rw [circuit]
    apply serialised.last place
    unfold InFlight at aloft ⊢
    rwa [circuit] at aloft
  lone drive member := by
    rw [drives] at member
    cases List.mem_or_eq_of_mem_set member with
    | inl other => exact serialised.lone drive other
    | inr same => exact same ▸ lone
  waits drive member holds := by
    rw [written]
    rw [drives] at member
    cases List.mem_or_eq_of_mem_set member with
    | inl other => exact serialised.waits drive other holds
    | inr same =>
        subst same
        exact waits holds

theorem Serialised.go (serialised : channel.Serialised) {sent : Except ε Unit}
    (stepped : channel.step (.go task sent) = some next) :
    next.Serialised ∧ (next.puts = channel.puts ∨ next.puts = .idle) ∧
      next.written = channel.written ∧ next.accepted = channel.accepted := by
  have kept := serialised.kept.step stepped
  obtain ⟨before, found, gone⟩ := Option.bind_eq_some_iff.mp stepped
  have member := List.mem_of_getElem? found
  cases before with
  | awaiting done waiters =>
      simp only [SharedChannel.go] at gone
      split at gone
      · rename_i value r answered
        obtain rfl := Option.some.inj gone
        have waits := serialised.waits _ member rfl
        refine ⟨serialised.resumed kept rfl rfl rfl rfl (.inl rfl) ?_ ?_, .inl rfl, rfl, rfl⟩
        · intro _ _ _ same
          cases same
        intro _
        simpa [Drive.waits, Drive.due, Drive.telling, Function.comp_def] using waits
      · cases gone
  | settling r waiters =>
      have settled : channel.settle task r waiters sent =
          ({ channel with puts := .idle } : SharedChannel ν ε).resume task
            (.answering r waiters none) := by
        cases serialised.puts with
        | inl idle => simp [settle, idle]
        | inr busy => simp [settle, busy]
      obtain rfl := Option.some.inj (gone.symm.trans (congrArg some settled))
      refine ⟨serialised.resumed kept rfl rfl rfl rfl (.inr rfl) ?_ ?_, .inr rfl, rfl, rfl⟩
      · intro _ _ again same
        cases same
        rfl
      · intro holds
        cases holds
  | answering r waiters again =>
      obtain rfl := serialised.lone _ member r waiters again rfl
      cases waiters with
      | nil =>
          obtain rfl := Option.some.inj gone
          refine ⟨serialised.resumed kept rfl rfl rfl rfl (.inl rfl) ?_ ?_, .inl rfl, rfl, rfl⟩
          · intro _ _ _ same
            cases same
          · intro holds
            cases holds
      | cons w rest =>
          obtain rfl := Option.some.inj gone
          refine ⟨serialised.resumed kept rfl rfl rfl rfl (.inl rfl) ?_ ?_, .inl rfl, rfl, rfl⟩
          · intro _ _ again same
            cases same
            rfl
          · intro holds
            cases holds
  | returned => cases gone

end

/-- The newest waiter being answered, no put-callback is in flight or to come. -/
theorem Serialised.idle (serialised : channel.Serialised)
    (told : channel.written.length - 1 ∈ channel.answers.map Prod.fst) : channel.puts = .idle := by
  cases puts : channel.puts with
  | idle => rfl
  | busy =>
      have driven := serialised.kept.driven
      have whole := serialised.kept.waiting (channel.written.length - 1)
      have answered := List.count_pos_iff.mpr told
      rw [puts] at driven
      obtain ⟨drive, member, holds⟩ : ∃ drive ∈ channel.drives, drive.holds ≠ 0 := by
        apply Classical.byContradiction
        intro none
        have empty : tally Drive.holds channel.drives = 0 :=
          tally_eq_zero.mpr fun drive member => Classical.byContradiction fun some =>
            none ⟨drive, member, some⟩
        rw [empty] at driven
        cases driven
      have above : drive.holds ≤ tally Drive.holds channel.drives := le_tally member
      have one : drive.holds = 1 := by
        rw [driven] at above
        simp only [PutSlot.holds] at above
        omega
      have waits := serialised.waits drive member one
      have among : drive.waits (channel.written.length - 1) ≤
          tally (Drive.waits (channel.written.length - 1)) channel.drives := le_tally member
      split at whole <;> omega

theorem serialised_new : (new : SharedChannel ν ε).Serialised where
  kept := kept_new
  puts := .inl rfl
  whole := rfl
  notifies _ member := by cases member
  last place aloft := absurd aloft (kept_new.grounded rfl place)
  lone _ member := by cases member
  waits _ member := by cases member

end SharedChannel

namespace CaCommandBackend

variable {command next : CaCommandBackend ν ε δ} {action : CommandAction ε δ}
  {labels : List (CommandAction ε δ)}

/-- The lock says whether the channel may be put to. -/
structure Sound (command : CaCommandBackend ν ε δ) : Prop where
  serialised : command.channel.Serialised
  idle : (∀ waiter, command.serial ≠ .held waiter) → command.channel.puts = .idle
  newest : ∀ waiter, command.serial = .held waiter → waiter + 1 = command.channel.written.length

theorem Sound.step (sound : command.Sound) (stepped : command.step action = some next) :
    next.Sound ∧ next.wire = command.wire ∧
      next.channel.accepted = command.channel.accepted ++ (executed command.wire action).toList := by
  have steady : command.channel.accepted = command.channel.accepted ++ [] := (List.append_nil _).symm
  cases action with
  | lock =>
      simp only [CaCommandBackend.step] at stepped
      split at stepped
      · rename_i free
        cases stepped
        exact ⟨⟨sound.serialised, fun _ => sound.idle (by simp [free]), nofun⟩, rfl, steady⟩
      · cases stepped
  | unlock =>
      simp only [CaCommandBackend.step] at stepped
      split at stepped
      · rename_i locked
        cases stepped
        exact ⟨⟨sound.serialised, fun _ => sound.idle (by simp [locked]), nofun⟩, rfl, steady⟩
      · cases stepped
  | put native sent =>
      simp only [CaCommandBackend.step] at stepped
      split at stepped
      · rename_i locked
        cases stepped
        have idle := sound.idle (by simp [locked])
        refine ⟨⟨sound.serialised.put idle _, fun free => absurd rfl (free _), ?_⟩, rfl, ?_⟩
        · intro waiter held
          obtain rfl := Serial.held.inj held
          simp [SharedChannel.putCallback, idle, SharedChannel.take, SharedChannel.await]
        · simp [SharedChannel.putCallback, idle, SharedChannel.take, executed, CaWrite.value,
            SharedChannel.await]
      · rename_i locked
        cases stepped
        exact ⟨⟨sound.serialised, fun _ => sound.idle (by simp [locked]), nofun⟩, rfl, steady⟩
      · cases stepped
  | release =>
      simp only [CaCommandBackend.step] at stepped
      split at stepped
      · rename_i waiter held
        split at stepped
        · rename_i told
          cases stepped
          refine ⟨⟨sound.serialised, fun _ => ?_, nofun⟩, rfl, steady⟩
          apply sound.serialised.idle
          rw [← sound.newest waiter held]
          exact List.contains_iff_mem.mp told
        · cases stepped
      · cases stepped
  | answered done r =>
      obtain ⟨channel, answered, rfl⟩ := Option.map_eq_some_iff.mp stepped
      obtain ⟨serialised, puts, written, accepted⟩ := sound.serialised.answered answered
      refine ⟨⟨serialised, fun free => puts.trans (sound.idle free), ?_⟩, rfl, accepted.trans steady⟩
      exact fun waiter held => (sound.newest waiter held).trans (congrArg List.length written.symm)
  | go task sent =>
      obtain ⟨channel, gone, rfl⟩ := Option.map_eq_some_iff.mp stepped
      obtain ⟨serialised, puts, written, accepted⟩ := sound.serialised.go gone
      refine ⟨⟨serialised, ?_, ?_⟩, rfl, accepted.trans steady⟩
      · exact fun free => puts.elim (fun same => same.trans (sound.idle free)) id
      · exact fun waiter held => (sound.newest waiter held).trans (congrArg List.length written.symm)

theorem run_sound {start reached : CaCommandBackend ν ε δ} (run : exec step start labels = some reached)
    (sound : start.Sound) : reached.Sound ∧ reached.channel.accepted =
      start.channel.accepted ++ labels.filterMap (executed start.wire) := by
  induction labels generalizing start with
  | nil =>
      cases run
      exact ⟨sound, (List.append_nil _).symm⟩
  | cons action rest ih =>
      obtain ⟨next, stepped, remaining⟩ := exec_cons run
      obtain ⟨later, wire, accepted⟩ := sound.step stepped
      obtain ⟨ended, whole⟩ := ih remaining later
      refine ⟨ended, ?_⟩
      rw [whole, wire, accepted, List.append_assoc]
      cases done : executed start.wire action with
      | none => simp [done]
      | some value => simp [done]

/-- However executes, give-ups, answers of the server and the channel's own tasks interleave: the
record is processed once for each execute whose put the client takes, in their order and with nothing
written besides, and none is written before the one before it has been answered. -/
theorem executes_once {wire : δ → ν} {reached : CaCommandBackend ν ε δ}
    (run : exec step (new wire) labels = some reached) :
    reached.channel.values = labels.filterMap (executed wire) ∧
      (∀ write ∈ reached.channel.circuit, write.isNotify = true) ∧
      ∀ place, reached.channel.InFlight place → place + 1 = reached.channel.circuit.length := by
  have sound : (new wire : CaCommandBackend ν ε δ).Sound :=
    ⟨SharedChannel.serialised_new, fun _ => rfl, nofun⟩
  obtain ⟨⟨serialised, _, _⟩, accepted⟩ := run_sound run sound
  exact ⟨serialised.whole.trans (accepted.trans (List.nil_append _)), serialised.notifies,
    serialised.last⟩

/-- The second execute comes while the first one's put-callback is in flight, and waits. -/
theorem executes_once_twice :
    ∃ reached : CaCommandBackend Nat Nat Nat, reached.channel.values = [1, 2] ∧
      ∀ write ∈ reached.channel.circuit, write.isNotify = true := by
  have run : exec step (new (fun native => native) : CaCommandBackend Nat Nat Nat)
      [.lock, .put 1 (.ok ()), .answered 0 (.ok ()), .go 0 (.ok ()), .go 0 (.ok ()), .go 0 (.ok ()),
        .release, .lock, .put 2 (.ok ())] =
      some ⟨fun native => native, .held 1,
        ⟨.busy none, [.notify 1 (some (.ok ())), .notify 2 none],
          [.answering (.ok ()) [] none, .awaiting 1 [1]], [1, 2], [0, 1], [(0, .ok ())], []⟩⟩ := rfl
  exact ⟨_, rfl, (executes_once run).2.1⟩

end CaCommandBackend

end Bsrs.Backends
