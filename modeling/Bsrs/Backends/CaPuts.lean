import Bsrs.Backends.SharedChannel
import Mathlib.Data.List.Basic

namespace Bsrs.Backends

open Library

variable {ν ε : Type}

/-! ## What a task still has to do -/

namespace Drive

/-- The task that the channel is busy with, from its put-callback's send until it has settled. -/
def holds : Drive ε → Nat
  | .awaiting _ _ | .settling _ _ | .answering _ _ (some (.ok _, _)) => 1
  | _ => 0

/-- The put-callback that the task awaits, or is to await. -/
def done : Drive ε → Option Nat
  | .awaiting done _ | .answering _ _ (some (.ok done, _)) => some done
  | _ => none

/-- Whom that put-callback's answer is for. -/
def due : Drive ε → List Nat
  | .awaiting _ waiters | .answering _ _ (some (.ok _, waiters)) => waiters
  | _ => []

/-- What is to be sent to whom already. -/
def telling : Drive ε → List (Nat × PutResult ε)
  | .settling r waiters => waiters.map fun w => (w, r)
  | .answering r waiters (some (.error e, others)) =>
      waiters.map (fun w => (w, r)) ++ others.map fun w => (w, .error e)
  | .answering r waiters _ => waiters.map fun w => (w, r)
  | _ => []

def waits (waiter : Nat) (drive : Drive ε) : Nat :=
  drive.due.count waiter + (drive.telling.map Prod.fst).count waiter

theorem holds_of_done {drive : Drive ε} {place : Nat} (done : drive.done = some place) :
    drive.holds = 1 := by
  cases drive with
  | awaiting | settling => rfl
  | answering r waiters next =>
      cases next with
      | none => cases done
      | some next =>
          obtain ⟨sent, others⟩ := next
          cases sent with
          | ok => rfl
          | error => cases done
  | returned => cases done

end Drive

namespace PutSlot

def holds : PutSlot ν → Nat
  | .idle => 0
  | .busy _ => 1

/-- Whom the trailing put-callback will be for. -/
def waiters : PutSlot ν → List Nat
  | .busy (some trailing) => trailing.waiters
  | _ => []

/-- Put-callbacks still to be sent. -/
def ahead : PutSlot ν → Nat
  | .busy (some _) => 1
  | _ => 0

end PutSlot

namespace CaWrite

def isNotify : CaWrite ν ε → Bool
  | .plain _ => false
  | .notify _ _ => true

end CaWrite

namespace SharedChannel

variable {channel next : SharedChannel ν ε}

/-- The values written on the circuit, in order. -/
def values (channel : SharedChannel ν ε) : List ν := channel.circuit.map CaWrite.value

/-- A put-callback in flight: sent, and not answered. -/
def InFlight (channel : SharedChannel ν ε) (place : Nat) : Prop :=
  ∃ value, channel.circuit[place]? = some (.notify value none)

/-- The waiter is sent the answer of a put-callback written with its own write or after it; or the
error with which the client refused the trailing one. -/
def Covered (channel : SharedChannel ν ε) (told : Nat × PutResult ε) : Prop :=
  ∃ own, channel.written[told.1]? = some own ∧
    ((∃ place value, own ≤ place ∧ channel.circuit[place]? = some (.notify value (some told.2))) ∨
      ∃ e ∈ channel.refused, told.2 = .error e)

/-! ## What every step keeps -/

structure Kept (channel : SharedChannel ν ε) : Prop where
  driven : tally Drive.holds channel.drives = channel.puts.holds
  flying : ∀ place, channel.InFlight place → ∃ drive ∈ channel.drives, drive.done = some place
  sent : ∀ drive ∈ channel.drives, ∀ place, drive.done = some place →
    ∃ value answer, channel.circuit[place]? = some (.notify value answer)
  due : ∀ drive ∈ channel.drives, ∀ place, drive.done = some place → ∀ waiter ∈ drive.due,
    ∃ own, channel.written[waiter]? = some own ∧ own ≤ place
  trailing : ∀ waiter ∈ channel.puts.waiters,
    ∃ own, channel.written[waiter]? = some own ∧ own ≤ channel.circuit.length
  telling : ∀ drive ∈ channel.drives, ∀ told ∈ drive.telling, channel.Covered told
  told : ∀ told ∈ channel.answers, channel.Covered told
  waiting : ∀ waiter, channel.puts.waiters.count waiter + tally (Drive.waits waiter) channel.drives +
    (channel.answers.map Prod.fst).count waiter = if waiter < channel.written.length then 1 else 0
  order : Stutters channel.accepted channel.values
  latest : ∀ trailing, channel.puts = .busy (some trailing) →
    channel.values.getLast? = some trailing.value
  fewer : channel.circuit.countP CaWrite.isNotify + channel.puts.ahead ≤ channel.written.length

/-- What was written and answered stays so. -/
structure Extends (channel next : SharedChannel ν ε) : Prop where
  written : channel.written <+: next.written
  longer : channel.circuit.length ≤ next.circuit.length
  notified : ∀ (place : Nat) value answer, channel.circuit[place]? = some (.notify value answer) →
    ∃ later, next.circuit[place]? = some (.notify value later)
  answered : ∀ (place : Nat) value r, channel.circuit[place]? = some (.notify value (some r)) →
    next.circuit[place]? = some (.notify value (some r))
  refused : channel.refused <+: next.refused

theorem Extends.own (extended : channel.Extends next) {waiter own : Nat}
    (found : channel.written[waiter]? = some own) : next.written[waiter]? = some own := by
  obtain ⟨more, whole⟩ := extended.written
  rw [← whole, List.getElem?_append_left (List.getElem?_eq_some_iff.mp found).1, found]

theorem Extends.covered (extended : channel.Extends next) {told : Nat × PutResult ε}
    (covered : channel.Covered told) : next.Covered told := by
  obtain ⟨own, found, answer⟩ := covered
  refine ⟨own, extended.own found, answer.imp ?_ ?_⟩
  · intro ⟨place, value, after, here⟩
    exact ⟨place, value, after, extended.answered place value told.2 here⟩
  · intro ⟨e, member, error⟩
    exact ⟨e, extended.refused.subset member, error⟩

/-- Writes at the end of the circuit leave those before them as they are. -/
theorem Extends.of_append (more : List (CaWrite ν ε))
    (circuit : next.circuit = channel.circuit ++ more) (written : channel.written <+: next.written)
    (refused : channel.refused <+: next.refused) : channel.Extends next where
  written := written
  longer := by simp [circuit]
  notified place value answer found := by
    refine ⟨answer, ?_⟩
    rw [circuit, List.getElem?_append_left (List.getElem?_eq_some_iff.mp found).1, found]
  answered place value r found := by
    rw [circuit, List.getElem?_append_left (List.getElem?_eq_some_iff.mp found).1, found]
  refused := refused

section

variable {task : Nat} {before after : Drive ε}

/-- The invariant after a `drive` task has gone on, from what becomes of that task. -/
theorem Kept.resumed (kept : channel.Kept) (found : channel.drives[task]? = some before)
    (drives : next.drives = channel.drives.set task after) (extended : channel.Extends next)
    (written : next.written = channel.written)
    (holds : after.holds + channel.puts.holds = before.holds + next.puts.holds)
    (flying : ∀ place, next.InFlight place →
      after.done = some place ∨ channel.InFlight place ∧ before.done ≠ some place)
    (sent : ∀ place, after.done = some place →
      ∃ value answer, next.circuit[place]? = some (.notify value answer))
    (due : ∀ place, after.done = some place → ∀ waiter ∈ after.due,
      ∃ own, next.written[waiter]? = some own ∧ own ≤ place)
    (trailing : ∀ waiter ∈ next.puts.waiters, waiter ∈ channel.puts.waiters)
    (telling : ∀ told ∈ after.telling, next.Covered told)
    (told : ∀ told ∈ next.answers, next.Covered told)
    (waiting : ∀ waiter, next.puts.waiters.count waiter + after.waits waiter +
        (next.answers.map Prod.fst).count waiter =
      channel.puts.waiters.count waiter + before.waits waiter +
        (channel.answers.map Prod.fst).count waiter)
    (order : Stutters next.accepted next.values)
    (latest : ∀ trailing, next.puts = .busy (some trailing) →
      next.values.getLast? = some trailing.value)
    (fewer : next.circuit.countP CaWrite.isNotify + next.puts.ahead ≤
      channel.circuit.countP CaWrite.isNotify + channel.puts.ahead) : next.Kept where
  driven := by
    have both : tally Drive.holds (channel.drives.set task after) + before.holds =
        tally Drive.holds channel.drives + after.holds := tally_set found after
    have whole := kept.driven
    rw [drives]
    omega
  flying place aloft := by
    rw [drives]
    have within : task < channel.drives.length := (List.getElem?_eq_some_iff.mp found).1
    cases flying place aloft with
    | inl here => exact ⟨after, List.mem_set within after, here⟩
    | inr earlier =>
        obtain ⟨drive, member, done⟩ := kept.flying place earlier.1
        refine ⟨drive, (mem_set_cases found after member).resolve_left ?_, done⟩
        intro same
        exact earlier.2 (same ▸ done)
  sent drive member place done := by
    rw [drives] at member
    cases List.mem_or_eq_of_mem_set member with
    | inl other =>
        obtain ⟨value, answer, here⟩ := kept.sent drive other place done
        exact ⟨value, extended.notified place value answer here⟩
    | inr same => exact sent place (same ▸ done)
  due drive member place done waiter among := by
    rw [drives] at member
    cases List.mem_or_eq_of_mem_set member with
    | inl other =>
        obtain ⟨own, here, before⟩ := kept.due drive other place done waiter among
        exact ⟨own, extended.own here, before⟩
    | inr same => exact due place (same ▸ done) waiter (same ▸ among)
  trailing waiter among := by
    obtain ⟨own, here, before⟩ := kept.trailing waiter (trailing waiter among)
    exact ⟨own, extended.own here, Nat.le_trans before extended.longer⟩
  telling drive member held among := by
    rw [drives] at member
    cases List.mem_or_eq_of_mem_set member with
    | inl other => exact extended.covered (kept.telling drive other held among)
    | inr same => exact telling held (same ▸ among)
  told := told
  waiting waiter := by
    have both : tally (Drive.waits waiter) (channel.drives.set task after) + before.waits waiter =
        tally (Drive.waits waiter) channel.drives + after.waits waiter := tally_set found after
    have whole := kept.waiting waiter
    have moved := waiting waiter
    rw [drives, written]
    omega
  order := order
  latest := latest
  fewer := written ▸ Nat.le_trans fewer kept.fewer

/-- A task goes on by itself, and may answer a waiter. -/
theorem Kept.passes (kept : channel.Kept) (found : channel.drives[task]? = some before)
    (answers : List (Nat × PutResult ε)) (holds : after.holds = before.holds)
    (flying : ∀ place, channel.InFlight place → before.done = some place → after.done = some place)
    (done : ∀ place, after.done = some place → before.done = some place)
    (due : ∀ waiter ∈ after.due, waiter ∈ before.due)
    (telling : ∀ told ∈ after.telling, channel.Covered told)
    (told : ∀ told ∈ answers, channel.Covered told)
    (waiting : ∀ waiter, after.waits waiter + (answers.map Prod.fst).count waiter =
      before.waits waiter + (channel.answers.map Prod.fst).count waiter) :
    ({ channel with answers := answers }.resume task after).Kept := by
  have member : before ∈ channel.drives := List.mem_of_getElem? found
  have extended : channel.Extends ({ channel with answers := answers }.resume task after) :=
    .of_append [] (by simp [resume]) (List.prefix_refl _) (List.prefix_refl _)
  apply kept.resumed found rfl extended rfl
  · rw [holds]
    rfl
  · intro place aloft
    by_cases here : before.done = some place
    · exact .inl (flying place aloft here)
    · exact .inr ⟨aloft, here⟩
  · exact fun place there => kept.sent before member place (done place there)
  · exact fun place there waiter among =>
      kept.due before member place (done place there) waiter (due waiter among)
  · exact fun waiter among => among
  · exact fun held among => extended.covered (telling held among)
  · exact fun held among => extended.covered (told held among)
  · intro waiter
    have moved := waiting waiter
    change channel.puts.waiters.count waiter + after.waits waiter +
      (answers.map Prod.fst).count waiter = _
    omega
  · exact kept.order
  · exact kept.latest
  · exact Nat.le_refl _

theorem Kept.wake (kept : channel.Kept) {done : Nat} {waiters : List Nat} {value : ν} {r : PutResult ε}
    (found : channel.drives[task]? = some (.awaiting done waiters))
    (answered : channel.circuit[done]? = some (.notify value (some r))) :
    (channel.resume task (.settling r waiters)).Kept := by
  have member := List.mem_of_getElem? found
  apply kept.passes found channel.answers
  · rfl
  · intro place ⟨value, aloft⟩ here
    obtain rfl : done = place := Option.some.inj here
    rw [answered] at aloft
    cases aloft
  · exact fun place there => nomatch there
  · exact fun waiter among => nomatch among
  · intro told among
    obtain ⟨waiter, due, rfl⟩ := List.mem_map.mp among
    obtain ⟨own, written, before⟩ := kept.due _ member done rfl waiter due
    exact ⟨own, written, .inl ⟨done, value, before, answered⟩⟩
  · exact kept.told
  · intro waiter
    simp [Drive.waits, Drive.due, Drive.telling, Function.comp_def]

theorem Kept.tell (kept : channel.Kept) {r : PutResult ε} {w : Nat} {rest : List Nat}
    {after : Option (Except ε Nat × List Nat)}
    (found : channel.drives[task]? = some (.answering r (w :: rest) after)) :
    ({ channel with answers := channel.answers ++ [(w, r)] }.resume task
      (.answering r rest after)).Kept := by
  have telling := kept.telling _ (List.mem_of_getElem? found)
  have ahead : (Drive.answering r (w :: rest) after).telling =
      (w, r) :: (Drive.answering r rest after).telling := by
    match after with
    | none | some (.ok _, _) | some (.error _, _) => rfl
  have due : (Drive.answering r rest after).due = (Drive.answering r (w :: rest) after).due := by
    match after with
    | none | some (.ok _, _) | some (.error _, _) => rfl
  have done : (Drive.answering r rest after).done = (Drive.answering r (w :: rest) after).done := by
    match after with
    | none | some (.ok _, _) | some (.error _, _) => rfl
  apply kept.passes found
  · match after with
    | none | some (.ok _, _) | some (.error _, _) => rfl
  · exact fun place _ here => done.trans here
  · exact fun place there => done.symm.trans there
  · exact fun waiter among => due ▸ among
  · exact fun told among => telling told (ahead ▸ List.mem_cons_of_mem _ among)
  · intro told among
    cases List.mem_append.mp among with
    | inl before => exact kept.told told before
    | inr last =>
        obtain rfl := List.mem_singleton.mp last
        exact telling _ (ahead ▸ List.mem_cons_self)
  · intro waiter
    simp only [Drive.waits, due, ahead, List.map_append, List.map_cons, List.map_nil,
      List.count_append, List.count_cons, List.count_nil]
    omega

/-- With everyone answered, the loop goes on with the trailing put-callback, or ends. -/
theorem Kept.finish (kept : channel.Kept) {r : PutResult ε} {again : Option (Except ε Nat × List Nat)}
    (found : channel.drives[task]? = some (.answering r [] again))
    (holds : after.holds = (Drive.answering r [] again).holds)
    (done : after.done = (Drive.answering r [] again).done)
    (due : after.due = (Drive.answering r [] again).due)
    (telling : after.telling = (Drive.answering r [] again).telling) :
    (channel.resume task after).Kept := by
  have member := List.mem_of_getElem? found
  apply kept.passes found channel.answers holds
  · exact fun place _ here => done.trans here
  · exact fun place there => done.symm.trans there
  · exact fun waiter among => due ▸ among
  · exact fun told among => kept.telling _ member told (telling ▸ among)
  · exact kept.told
  · intro waiter
    simp only [Drive.waits, due, telling]

/-- The lock section sends the trailing put-callback. -/
theorem Kept.send (kept : channel.Kept) {r : PutResult ε} {waiters : List Nat}
    {trailing : Trailing ν} (found : channel.drives[task]? = some (.settling r waiters))
    (puts : channel.puts = .busy (some trailing)) : (channel.settle task r waiters (.ok ())).Kept := by
  have member := List.mem_of_getElem? found
  have settled : channel.settle task r waiters (.ok ()) =
      ({ channel with
        puts := .busy none
        circuit := channel.circuit ++ [.notify trailing.value none] } : SharedChannel ν ε).resume task
          (.answering r waiters (some (.ok channel.circuit.length, trailing.waiters))) := by
    simp [settle, puts]
  rw [settled]
  have extended : channel.Extends (({ channel with
      puts := .busy none
      circuit := channel.circuit ++ [.notify trailing.value none] } : SharedChannel ν ε).resume task
        (.answering r waiters (some (.ok channel.circuit.length, trailing.waiters)))) :=
    .of_append _ rfl (List.prefix_refl _) (List.prefix_refl _)
  apply kept.resumed found rfl extended rfl
  · rw [puts]
    rfl
  · intro place ⟨value, aloft⟩
    change (channel.circuit ++ [CaWrite.notify trailing.value none])[place]? = _ at aloft
    rw [List.getElem?_append] at aloft
    split at aloft
    · exact .inr ⟨⟨value, aloft⟩, nofun⟩
    · apply Or.inl
      have within := (List.getElem?_eq_some_iff.mp aloft).1
      rw [List.length_singleton] at within
      change some channel.circuit.length = some place
      exact congrArg some (by omega)
  · intro place there
    obtain rfl : channel.circuit.length = place := Option.some.inj there
    exact ⟨trailing.value, none, List.getElem?_concat_length⟩
  · intro place there waiter among
    obtain rfl : channel.circuit.length = place := Option.some.inj there
    exact kept.trailing waiter (puts ▸ among)
  · exact fun waiter among => nomatch among
  · exact fun told among => extended.covered (kept.telling _ member told among)
  · exact fun told among => extended.covered (kept.told told among)
  · intro waiter
    rw [puts]
    simp only [Drive.waits, Drive.due, Drive.telling, PutSlot.waiters, resume, List.count_nil]
    omega
  · change Stutters channel.accepted
      ((channel.circuit ++ [CaWrite.notify trailing.value none]).map CaWrite.value)
    rw [List.map_append]
    exact kept.order.again (kept.latest trailing puts)
  · exact fun trailing busy => nomatch busy
  · rw [puts]
    simp [resume, PutSlot.ahead, CaWrite.isNotify]

/-- The lock section cannot send the trailing put-callback. -/
theorem Kept.refuse (kept : channel.Kept) {r : PutResult ε} {waiters : List Nat}
    {trailing : Trailing ν} {e : ε} (found : channel.drives[task]? = some (.settling r waiters))
    (puts : channel.puts = .busy (some trailing)) :
    (channel.settle task r waiters (.error e)).Kept := by
  have member := List.mem_of_getElem? found
  have settled : channel.settle task r waiters (.error e) =
      ({ channel with
        puts := .idle
        refused := channel.refused ++ [e] } : SharedChannel ν ε).resume task
          (.answering r waiters (some (.error e, trailing.waiters))) := by
    simp [settle, puts]
  rw [settled]
  have extended : channel.Extends (({ channel with
      puts := .idle
      refused := channel.refused ++ [e] } : SharedChannel ν ε).resume task
        (.answering r waiters (some (.error e, trailing.waiters)))) :=
    .of_append [] (by simp [resume]) (List.prefix_refl _) (List.prefix_append _ _)
  apply kept.resumed found rfl extended rfl
  · rw [puts]
    rfl
  · exact fun place aloft => .inr ⟨aloft, nofun⟩
  · exact fun place there => nomatch there
  · exact fun place there => nomatch there
  · exact fun waiter among => nomatch among
  · intro told among
    cases List.mem_append.mp among with
    | inl before => exact extended.covered (kept.telling _ member told before)
    | inr behind =>
        obtain ⟨waiter, due, rfl⟩ := List.mem_map.mp behind
        obtain ⟨own, written, _⟩ := kept.trailing waiter (puts ▸ due)
        exact ⟨own, written, .inr ⟨e, by simp [resume], rfl⟩⟩
  · exact fun told among => extended.covered (kept.told told among)
  · intro waiter
    rw [puts]
    simp only [Drive.waits, Drive.due, Drive.telling, PutSlot.waiters, resume, List.count_nil,
      List.map_append, List.map_map, List.count_append, Function.comp_def, List.map_id']
    omega
  · exact kept.order
  · exact fun trailing busy => nomatch busy
  · exact Nat.add_le_add_left (Nat.zero_le _) _

/-- The lock section finds nothing to send. -/
theorem Kept.rest (kept : channel.Kept) {r : PutResult ε} {waiters : List Nat}
    (found : channel.drives[task]? = some (.settling r waiters))
    (puts : ∀ trailing, channel.puts ≠ .busy (some trailing)) (sent : Except ε Unit) :
    (channel.settle task r waiters sent).Kept := by
  have member := List.mem_of_getElem? found
  have settled : channel.settle task r waiters sent =
      ({ channel with puts := .idle } : SharedChannel ν ε).resume task (.answering r waiters none) := by
    unfold settle
    split
    · rename_i trailing busy
      exact (puts trailing busy).elim
    · rename_i trailing e busy
      exact (puts trailing busy).elim
    · rfl
  rw [settled]
  have extended : channel.Extends (({ channel with puts := .idle } : SharedChannel ν ε).resume task
      (.answering r waiters none)) :=
    .of_append [] (by simp [resume]) (List.prefix_refl _) (List.prefix_refl _)
  have nobody : channel.puts.waiters = [] := by
    cases busy : channel.puts with
    | idle => rfl
    | busy next =>
        cases next with
        | none => rfl
        | some trailing => exact (puts trailing busy).elim
  have held : channel.puts.holds = 1 := by
    have here : (Drive.settling r waiters).holds ≤ tally Drive.holds channel.drives := le_tally member
    rw [kept.driven] at here
    cases busy : channel.puts with
    | idle => simp [busy, PutSlot.holds, Drive.holds] at here
    | busy => rfl
  apply kept.resumed found rfl extended rfl
  · rw [held]
    rfl
  · exact fun place aloft => .inr ⟨aloft, nofun⟩
  · exact fun place there => nomatch there
  · exact fun place there => nomatch there
  · exact fun waiter among => nomatch among
  · exact fun told among => extended.covered (kept.telling _ member told among)
  · exact fun told among => extended.covered (kept.told told among)
  · intro waiter
    rw [nobody]
    rfl
  · exact kept.order
  · exact fun trailing busy => nomatch busy
  · exact Nat.add_le_add_left (Nat.zero_le _) _

theorem Kept.settle (kept : channel.Kept) {r : PutResult ε} {waiters : List Nat}
    (found : channel.drives[task]? = some (.settling r waiters)) (sent : Except ε Unit) :
    (channel.settle task r waiters sent).Kept := by
  by_cases trailing : ∃ trailing, channel.puts = .busy (some trailing)
  · obtain ⟨trailing, puts⟩ := trailing
    cases sent with
    | ok => exact kept.send found puts
    | error e => exact kept.refuse found puts
  · exact kept.rest found (not_exists.mp trailing) sent

theorem Kept.go (kept : channel.Kept) {sent : Except ε Unit}
    (found : channel.drives[task]? = some before) (stepped : channel.go task sent before = some next) :
    next.Kept := by
  unfold SharedChannel.go at stepped
  split at stepped
  · split at stepped
    · rename_i value r answered
      cases stepped
      exact kept.wake found answered
    · cases stepped
  · cases stepped
    exact kept.settle found sent
  · cases stepped
    exact kept.tell found
  · cases stepped
    exact kept.finish found rfl rfl rfl rfl
  · cases stepped
    exact kept.finish found rfl rfl rfl rfl
  · cases stepped
    exact kept.finish found rfl rfl rfl rfl
  · cases stepped

end

/-- An answer changes no value on the circuit. -/
theorem values_answered {circuit : List (CaWrite ν ε)} {done : Nat} {value : ν}
    {answer : Option (PutResult ε)} (found : circuit[done]? = some (.notify value answer))
    (later : Option (PutResult ε)) :
    (circuit.set done (.notify value later)).map CaWrite.value = circuit.map CaWrite.value := by
  have same : (circuit.map CaWrite.value)[done]? = some value := by simp [found, CaWrite.value]
  obtain ⟨_, held⟩ := List.getElem?_eq_some_iff.mp same
  calc (circuit.set done (.notify value later)).map CaWrite.value
      = (circuit.map CaWrite.value).set done value := List.map_set
    _ = circuit.map CaWrite.value := held ▸ List.set_getElem_self _

/-- The put-callback in flight is answered. -/
theorem Kept.answered (kept : channel.Kept) {done : Nat} {r : PutResult ε}
    (stepped : channel.answered done r = some next) : next.Kept := by
  unfold SharedChannel.answered at stepped
  split at stepped
  · rename_i value found
    cases stepped
    obtain ⟨within, here⟩ := List.getElem?_eq_some_iff.mp found
    have values := values_answered found (some r)
    have count : (channel.circuit.set done (.notify value (some r))).countP CaWrite.isNotify =
        channel.circuit.countP CaWrite.isNotify := by
      have some : 0 < channel.circuit.countP CaWrite.isNotify :=
        List.countP_pos_iff.mpr ⟨_, List.mem_of_getElem? found, rfl⟩
      rw [List.countP_set within, here]
      simp only [CaWrite.isNotify, if_true]
      omega
    have extended : channel.Extends
        { channel with circuit := channel.circuit.set done (.notify value (some r)) } := by
      refine ⟨List.prefix_refl _, by simp, ?_, ?_, List.prefix_refl _⟩
      · intro place held answer there
        by_cases same : done = place
        · subst same
          obtain ⟨rfl, rfl⟩ := CaWrite.notify.inj (Option.some.inj (found.symm.trans there))
          exact ⟨some r, List.getElem?_set_self within⟩
        · exact ⟨answer, (List.getElem?_set_ne same).trans there⟩
      · intro place held answer there
        have other : done ≠ place := by
          rintro rfl
          cases found.symm.trans there
        exact (List.getElem?_set_ne other).trans there
    exact {
      driven := kept.driven
      flying := by
        intro place ⟨held, aloft⟩
        by_cases same : done = place
        · subst same
          cases (List.getElem?_set_self within).symm.trans aloft
        · exact kept.flying place ⟨held, (List.getElem?_set_ne same).symm.trans aloft⟩
      sent := by
        intro drive member place there
        obtain ⟨held, answer, before⟩ := kept.sent drive member place there
        exact ⟨held, extended.notified place held answer before⟩
      due := kept.due
      trailing := by
        intro waiter among
        obtain ⟨own, written, before⟩ := kept.trailing waiter among
        exact ⟨own, written, Nat.le_trans before extended.longer⟩
      telling := fun drive member told among => extended.covered (kept.telling drive member told among)
      told := fun told among => extended.covered (kept.told told among)
      waiting := kept.waiting
      order := Eq.mpr (congrArg (Stutters channel.accepted) values) kept.order
      latest := fun trailing puts => (congrArg List.getLast? values).trans (kept.latest trailing puts)
      fewer := count.symm ▸ kept.fewer }
  · cases stepped

/-- A write that no put-callback goes with. -/
theorem Kept.plain (kept : channel.Kept) (value : ν)
    (circuit : next.circuit = channel.circuit ++ [.plain value])
    (accepted : next.accepted = channel.accepted ++ [value]) (drives : next.drives = channel.drives)
    (answers : next.answers = channel.answers) (refused : next.refused = channel.refused)
    (written : channel.written <+: next.written) (holds : next.puts.holds = channel.puts.holds)
    (trailing : ∀ waiter ∈ next.puts.waiters,
      waiter ∈ channel.puts.waiters ∨ next.written[waiter]? = some channel.circuit.length)
    (waiting : ∀ waiter,
      next.puts.waiters.count waiter + (if waiter < channel.written.length then 1 else 0) =
        channel.puts.waiters.count waiter + if waiter < next.written.length then 1 else 0)
    (latest : ∀ trailing, next.puts = .busy (some trailing) → trailing.value = value)
    (fewer : next.puts.ahead + channel.written.length ≤ channel.puts.ahead + next.written.length) :
    next.Kept := by
  have extended : channel.Extends next :=
    .of_append _ circuit written (refused ▸ List.prefix_refl _)
  have values : next.values = channel.values ++ [value] := by
    simp [SharedChannel.values, circuit, CaWrite.value]
  exact {
    driven := by rw [drives, holds, kept.driven]
    flying := by
      intro place ⟨held, aloft⟩
      rw [drives]
      rw [circuit, List.getElem?_append] at aloft
      split at aloft
      · exact kept.flying place ⟨held, aloft⟩
      · cases List.mem_singleton.mp (List.mem_of_getElem? aloft)
    sent := by
      intro drive member place there
      obtain ⟨held, answer, before⟩ := kept.sent drive (drives ▸ member) place there
      exact ⟨held, extended.notified place held answer before⟩
    due := by
      intro drive member place there waiter among
      obtain ⟨own, here, before⟩ := kept.due drive (drives ▸ member) place there waiter among
      exact ⟨own, extended.own here, before⟩
    trailing := by
      intro waiter among
      cases trailing waiter among with
      | inl before =>
          obtain ⟨own, here, earlier⟩ := kept.trailing waiter before
          exact ⟨own, extended.own here, Nat.le_trans earlier extended.longer⟩
      | inr new => exact ⟨channel.circuit.length, new, extended.longer⟩
    telling := fun drive member told among =>
      extended.covered (kept.telling drive (drives ▸ member) told among)
    told := fun told among => extended.covered (kept.told told (answers ▸ among))
    waiting := by
      intro waiter
      have before := kept.waiting waiter
      have moved := waiting waiter
      rw [drives, answers]
      omega
    order := by
      rw [accepted, values]
      exact kept.order.next value
    latest := by
      intro trailing puts
      rw [values, List.getLast?_concat, latest trailing puts]
    fewer := by
      have before := kept.fewer
      rw [circuit, List.countP_append]
      simp only [List.countP_singleton, CaWrite.isNotify, Bool.false_eq_true, if_false]
      omega }

theorem Kept.putNoCallback (kept : channel.Kept) (value : ν) (sent : Except ε Unit) :
    (channel.putNoCallback value sent).Kept := by
  cases sent with
  | error e => exact kept
  | ok =>
      have waiters : (channel.putNoCallback value (.ok ())).puts.waiters = channel.puts.waiters := by
        match puts : channel.puts with
        | .idle | .busy none | .busy (some trailing) =>
            simp [SharedChannel.putNoCallback, puts, PutSlot.waiters]
      apply kept.plain value
      · rfl
      · rfl
      · rfl
      · rfl
      · rfl
      · exact List.prefix_refl _
      · match puts : channel.puts with
        | .idle | .busy none | .busy (some trailing) =>
            simp [SharedChannel.putNoCallback, puts, PutSlot.holds]
      · exact fun waiter among => .inl (waiters ▸ among)
      · intro waiter
        rw [waiters]
        rfl
      · intro trailing busy
        match puts : channel.puts with
        | .idle | .busy none => simp [SharedChannel.putNoCallback, puts] at busy
        | .busy (some before) =>
            simp only [SharedChannel.putNoCallback, puts, PutSlot.busy.injEq, Option.some.injEq] at busy
            rw [← busy]
      · match puts : channel.puts with
        | .idle | .busy none | .busy (some trailing) =>
            simp [SharedChannel.putNoCallback, puts, PutSlot.ahead, take]

/-- A put while a put-callback is in flight joins the trailing one, or makes it. -/
theorem putCallback_busy (channel : SharedChannel ν ε) (value : ν) {before : Option (Trailing ν)}
    (puts : channel.puts = .busy before) : channel.putCallback value (.ok ()) =
      { channel.await.take (.plain value) with
        puts := .busy (some ⟨value, channel.puts.waiters ++ [channel.written.length]⟩) } := by
  cases before with
  | none | some => simp [SharedChannel.putCallback, puts, PutSlot.waiters]

theorem Kept.trail (kept : channel.Kept) (value : ν) {before : Option (Trailing ν)}
    (puts : channel.puts = .busy before) : (channel.putCallback value (.ok ())).Kept := by
  rw [putCallback_busy channel value puts]
  have later : channel.written.length < (channel.written ++ [channel.circuit.length]).length := by simp
  apply kept.plain value
  · rfl
  · rfl
  · rfl
  · rfl
  · rfl
  · exact List.prefix_append _ _
  · rw [puts]
    rfl
  · intro waiter among
    apply (List.mem_append.mp among).imp_right
    intro new
    rw [List.mem_singleton.mp new]
    exact List.getElem?_concat_length
  · intro waiter
    simp only [PutSlot.waiters, take, await, List.count_append, List.count_singleton, List.length_append,
      List.length_singleton, beq_iff_eq]
    grind
  · intro trailing busy
    obtain rfl := Option.some.inj (PutSlot.busy.inj busy)
    rfl
  · simp only [PutSlot.ahead, take, await, List.length_append, List.length_singleton]
    omega

/-- A put while none is in flight sends its put-callback. -/
theorem putCallback_idle (channel : SharedChannel ν ε) (value : ν) (puts : channel.puts = .idle) :
    channel.putCallback value (.ok ()) =
      { channel.await.take (.notify value none) with
        puts := .busy none
        drives := channel.drives ++ [.awaiting channel.circuit.length [channel.written.length]] } := by
  simp [SharedChannel.putCallback, puts]

theorem Kept.begin (kept : channel.Kept) (value : ν) (puts : channel.puts = .idle) :
    (channel.putCallback value (.ok ())).Kept := by
  have grown : channel.Extends (channel.putCallback value (.ok ())) := by
    rw [putCallback_idle channel value puts]
    exact .of_append _ rfl (List.prefix_append _ _) (List.prefix_refl _)
  rw [putCallback_idle channel value puts] at grown ⊢
  have values : (channel.circuit ++ [CaWrite.notify value none]).map CaWrite.value =
      channel.values ++ [value] := List.map_append
  have found : (channel.circuit ++ [(.notify value none : CaWrite ν ε)])[channel.circuit.length]? =
      some (.notify value none) := List.getElem?_concat_length
  have nobody : channel.puts.waiters = [] := by
    rw [puts]
    rfl
  exact {
    driven := by
      have before := kept.driven
      rw [puts] at before
      simp only [tally_append, tally_cons, tally_nil, before, Drive.holds, PutSlot.holds]
    flying := by
      intro place ⟨held, aloft⟩
      change (channel.circuit ++ [CaWrite.notify value none])[place]? = _ at aloft
      rw [List.getElem?_append] at aloft
      split at aloft
      · obtain ⟨drive, member, done⟩ := kept.flying place ⟨held, aloft⟩
        exact ⟨drive, List.mem_append_left _ member, done⟩
      · have within := (List.getElem?_eq_some_iff.mp aloft).1
        rw [List.length_singleton] at within
        refine ⟨_, List.mem_append_right _ List.mem_cons_self, ?_⟩
        exact congrArg some (by omega : channel.circuit.length = place)
    sent := by
      intro drive member place there
      cases List.mem_append.mp member with
      | inl before =>
          obtain ⟨held, answer, earlier⟩ := kept.sent drive before place there
          exact ⟨held, grown.notified place held answer earlier⟩
      | inr new =>
          obtain rfl := List.mem_singleton.mp new
          obtain rfl : channel.circuit.length = place := Option.some.inj there
          exact ⟨value, none, found⟩
    due := by
      intro drive member place there waiter among
      cases List.mem_append.mp member with
      | inl before =>
          obtain ⟨own, here, earlier⟩ := kept.due drive before place there waiter among
          exact ⟨own, grown.own here, earlier⟩
      | inr new =>
          obtain rfl := List.mem_singleton.mp new
          obtain rfl : channel.circuit.length = place := Option.some.inj there
          obtain rfl := List.mem_singleton.mp among
          exact ⟨channel.circuit.length, List.getElem?_concat_length, Nat.le_refl _⟩
    trailing := fun waiter among => nomatch among
    telling := by
      intro drive member told among
      cases List.mem_append.mp member with
      | inl before => exact grown.covered (kept.telling drive before told among)
      | inr new =>
          obtain rfl := List.mem_singleton.mp new
          cases among
    told := fun told among => grown.covered (kept.told told among)
    waiting := by
      intro waiter
      have before := kept.waiting waiter
      rw [nobody] at before
      simp only [PutSlot.waiters, take, await, Drive.waits, Drive.due, Drive.telling, tally_append,
        tally_cons, tally_nil, List.count_singleton, List.count_nil, List.map_nil, List.length_append,
        List.length_singleton, beq_iff_eq] at before ⊢
      grind
    order := by
      change Stutters (channel.accepted ++ [value])
        ((channel.circuit ++ [CaWrite.notify value none]).map CaWrite.value)
      rw [values]
      exact kept.order.next value
    latest := fun trailing busy => nomatch busy
    fewer := by
      have before := kept.fewer
      rw [puts] at before
      simp only [PutSlot.ahead, take, await, List.countP_append, List.countP_singleton, CaWrite.isNotify,
        if_true, List.length_append, List.length_singleton] at before ⊢
      omega }

theorem Kept.putCallback (kept : channel.Kept) (value : ν) (sent : Except ε Unit) :
    (channel.putCallback value sent).Kept := by
  cases sent with
  | error e => exact kept
  | ok =>
      cases puts : channel.puts with
      | idle => exact kept.begin value puts
      | busy before => exact kept.trail value puts

theorem Kept.step (kept : channel.Kept) {action : ChannelAction ν ε}
    (stepped : channel.step action = some next) : next.Kept := by
  cases action with
  | putCallback value sent =>
      cases stepped
      exact kept.putCallback value sent
  | putNoCallback value sent =>
      cases stepped
      exact kept.putNoCallback value sent
  | answered done r => exact kept.answered stepped
  | go task sent =>
      obtain ⟨drive, found, gone⟩ := Option.bind_eq_some_iff.mp stepped
      exact kept.go found gone

theorem kept_new : (new : SharedChannel ν ε).Kept where
  driven := rfl
  flying place aloft := by simp [InFlight, new] at aloft
  sent drive member := nomatch member
  due drive member := nomatch member
  trailing waiter among := nomatch among
  telling drive member := nomatch member
  told told among := nomatch among
  waiting waiter := by simp [new, PutSlot.waiters]
  order := .nil
  latest trailing puts := nomatch puts
  fewer := Nat.le_refl 0

theorem run_kept {labels : List (ChannelAction ν ε)} (run : exec step new labels = some channel) :
    channel.Kept :=
  exec_invariant Kept (fun _ _ _ stepped kept => kept.step stepped) run kept_new

end SharedChannel

end Bsrs.Backends
