import Bsrs.Library.Run
import Mathlib.Data.List.Basic

/-! `SignalCache` and the `Fanout` behind it. The cache's calls hold its `state` lock, and go on one
hold of another lock at a time; the backend delivers its updates in between. -/

namespace Bsrs.Devices

open Library

/-! ## The fanout -/

/-- A listener's queue, with all it was sent. -/
structure FanoutQueue (R : Type) where
  listener : Nat
  closed : Bool
  received : List R

/-- `Fanout`. -/
structure Fanout (R : Type) where
  latest : Option R
  listeners : List (FanoutQueue R)

namespace Fanout

variable {R : Type} (fanout : Fanout R)

/-- The queues whose receiver is still there. -/
def heard : List (FanoutQueue R) :=
  fanout.listeners.filter fun queue => !queue.closed

def post (value : R) : Fanout R where
  latest := some value
  listeners := fanout.heard.map fun queue => { queue with received := queue.received ++ [value] }

def listen (listener : Nat) : Fanout R where
  latest := fanout.latest
  listeners := fanout.heard ++ [⟨listener, false, fanout.latest.toList⟩]

def clear : Fanout R :=
  { fanout with latest := none }

/-- The receiver of a listener is dropped. -/
def hangUp (listener : Nat) : Fanout R :=
  { fanout with
    listeners := fanout.listeners.map fun queue =>
      if queue.listener = listener then { queue with closed := true } else queue }

end Fanout

/-! ## The cache -/

/-- An update as the backend hands it to the callback. -/
structure MonitorUpdate (T : Type) where
  value : T
  timestamp : String
  alarmSeverity : Option Int

/-- `ReadingValue`. -/
structure CachedReading where
  value : String
  timestamp : String
  alarmSeverity : Option Int
  message : Option String
  deriving Repr, DecidableEq

/-- `make_callback`: an update that does not serialize is passed over. -/
def makeCallback {T : Type} (serialize : T → Option String) (update : MonitorUpdate T) :
    Option CachedReading :=
  (serialize update.value).map fun value =>
    ⟨value, update.timestamp, update.alarmSeverity, none⟩

/-- `CacheState`, the token by the monitor it keeps open. -/
structure CacheState where
  staged : Bool
  listeners : Nat
  token : Option Nat

/-- What the holder of the `state` lock has yet to do: store the token of a monitor being opened
(and then register a listener), register a listener, or clear the fanout after dropping a token. -/
inductive CacheWork where
  | opens (monitor : Nat) (listens : Bool)
  | listens
  | clears (monitor : Option Nat)
  deriving Repr, DecidableEq

/-- What is known of a listener when it registers: how many readings were posted before, the last of
them since the monitor opened, and the monitor. -/
structure CacheRegistration where
  since : Nat
  latest : Option (Nat × CachedReading)
  monitor : Nat

/-- A cache and its backend: the monitors opened so far and those open, and the deliveries begun,
each with its monitor. Every reading is kept with the monitor it came by. -/
structure MonitoredSignal (T : Type) where
  state : CacheState
  holder : Option CacheWork
  fanout : Fanout (Nat × CachedReading)
  opened : Nat
  live : List Nat
  flight : List (Nat × MonitorUpdate T)
  tokens : List Nat
  posts : List (Nat × CachedReading)
  openedAt : Nat
  registrations : List CacheRegistration

/-- A call that takes the lock, the holder going on, the backend beginning or ending a delivery, or
a listener dropping its receiver. -/
inductive CacheEvent (T : Type) where
  | setStaged (staged : Bool)
  | addListener
  | dropToken (listener : Nat)
  | goOn
  | begin (monitor : Nat) (update : MonitorUpdate T)
  | deliver (position : Nat)
  | hangUp (listener : Nat)

namespace MonitoredSignal

variable {T : Type}

/-- A cache nothing was done with. -/
def new : MonitoredSignal T where
  state := ⟨false, 0, none⟩
  holder := none
  fanout := ⟨none, []⟩
  opened := 0
  live := []
  flight := []
  tokens := []
  posts := []
  openedAt := 0
  registrations := []

variable (signal : MonitoredSignal T)

/-- `ensure_token`, up to the return of `set_callback`, before a listener registers or not. -/
def ensureToken (listens : Bool) : MonitoredSignal T :=
  match signal.state.token with
  | none =>
      { signal with
        holder := some (.opens signal.opened listens)
        opened := signal.opened + 1
        live := signal.live ++ [signal.opened]
        openedAt := signal.posts.length }
  | some _ => { signal with holder := if listens then some .listens else none }

/-- `maybe_teardown`, and the same in the drop of a listener's token, up to the clear. -/
def maybeTeardown : MonitoredSignal T :=
  if signal.state.staged = false ∧ signal.state.listeners = 0 then
    { signal with
      state := { signal.state with token := none }
      live := signal.live.filter fun monitor => signal.state.token ≠ some monitor
      holder := some (.clears signal.state.token) }
  else signal

/-- What the holder of the lock does next. -/
def work : CacheWork → MonitoredSignal T
  | .opens monitor listens =>
      { signal with
        state := { signal.state with token := some monitor }
        holder := if listens then some .listens else none }
  | .listens =>
      { signal with
        holder := none
        fanout := signal.fanout.listen signal.registrations.length
        tokens := signal.registrations.length :: signal.tokens
        registrations := signal.registrations ++
          [⟨signal.posts.length, (signal.posts.drop signal.openedAt).getLast?, signal.opened - 1⟩] }
  | .clears _ => { signal with holder := none, fanout := signal.fanout.clear }

def post (reading : Nat × CachedReading) : MonitoredSignal T :=
  { signal with fanout := signal.fanout.post reading, posts := signal.posts ++ [reading] }

def step (serialize : T → Option String) (signal : MonitoredSignal T) :
    CacheEvent T → Option (MonitoredSignal T)
  | .setStaged staged =>
      if signal.holder.isSome then none
      else
        let flagged := { signal with state := { signal.state with staged } }
        some (if staged then flagged.ensureToken false else flagged.maybeTeardown)
  | .addListener =>
      if signal.holder.isSome then none
      else
        let counted :=
          { signal with state := { signal.state with listeners := signal.state.listeners + 1 } }
        some (counted.ensureToken true)
  | .dropToken listener =>
      if signal.holder.isSome ∨ listener ∉ signal.tokens then none
      else
        let counted :=
          { signal with
            state := { signal.state with listeners := signal.state.listeners - 1 }
            tokens := signal.tokens.erase listener }
        some counted.maybeTeardown
  | .goOn => signal.holder.map signal.work
  | .begin monitor update =>
      if monitor ∈ signal.live then some { signal with flight := signal.flight ++ [(monitor, update)] }
      else none
  | .deliver position =>
      (signal.flight[position]?).map fun delivery =>
        let landed := { signal with flight := signal.flight.eraseIdx position }
        match makeCallback serialize delivery.2 with
        | none => landed
        | some reading => landed.post (delivery.1, reading)
  | .hangUp listener => some { signal with fanout := signal.fanout.hangUp listener }

/-- A monitor is open exactly while the cache is staged or a listener's token is held, and one at
most; a listener's queue is the latest reading of the open monitor when it registered and every one
posted after, none of them from a monitor torn down before; and the cache of a signal nobody holds
is empty. -/
structure Coherent (signal : MonitoredSignal T) : Prop where
  monitored : signal.holder = none →
    (signal.live ≠ [] ↔ signal.state.staged = true ∨ signal.tokens ≠ [])
  single : signal.live.length ≤ 1
  queues : ∀ queue ∈ signal.fanout.listeners, queue.closed = false →
    ∃ registration, signal.registrations[queue.listener]? = some registration ∧
      queue.received = registration.latest.toList ++ signal.posts.drop registration.since ∧
      ∀ reading ∈ queue.received, registration.monitor ≤ reading.1
  forgotten : signal.holder = none → signal.state.staged = false → signal.tokens = [] →
    signal.fanout.latest = none

/-- A delivery that posts does so before the tear-down of its monitor has cleared the fanout. -/
def Timely (serialize : T → Option String) (signal : MonitoredSignal T) : CacheEvent T → Prop
  | .deliver position => ∀ delivery ∈ signal.flight[position]?,
      (makeCallback serialize delivery.2).isSome = true →
        delivery.1 ∈ signal.live ∨ signal.holder = some (.clears (some delivery.1))
  | _ => True

/-! ## What holds between two steps -/

/-- Nobody holds the signal, and no monitor is open. -/
structure Unheld (signal : MonitoredSignal T) : Prop where
  token : signal.state.token = none
  live : signal.live = []
  staged : signal.state.staged = false
  listeners : signal.state.listeners = 0

/-- The last monitor opened is the one open, and the latest reading is the last one posted since, all
of those by that monitor. -/
structure Current (signal : MonitoredSignal T) (monitor : Nat) : Prop where
  live : signal.live = [monitor]
  last : monitor + 1 = signal.opened
  latest : signal.fanout.latest = (signal.posts.drop signal.openedAt).getLast?
  since : signal.openedAt ≤ signal.posts.length
  own : ∀ reading ∈ signal.posts.drop signal.openedAt, reading.1 = monitor

/-- Somebody holds the signal, by the current monitor. -/
structure Held (signal : MonitoredSignal T) (monitor : Nat) : Prop extends signal.Current monitor where
  held : signal.state.staged = true ∨ 0 < signal.state.listeners

/-- What the holder of the lock, if there is one, has left so far. -/
def Stands (signal : MonitoredSignal T) : Option CacheWork → Prop
  | none => signal.Unheld ∧ signal.fanout.latest = none ∨
      ∃ monitor, signal.state.token = some monitor ∧ signal.Held monitor
  | some (.opens monitor _) => signal.state.token = none ∧ signal.Held monitor
  | some .listens => ∃ monitor, signal.state.token = some monitor ∧ signal.Held monitor
  | some (.clears monitor) => signal.Unheld ∧ ∀ closed, monitor = some closed → closed + 1 = signal.opened

/-- The listeners counted but not registered yet. -/
def registering : Option CacheWork → Nat
  | some (.opens _ true) | some .listens => 1
  | _ => 0

/-- A listener's queue against what was known at its registration. -/
def Queued (signal : MonitoredSignal T) (queue : FanoutQueue (Nat × CachedReading)) : Prop :=
  queue.closed = false → ∃ registration, signal.registrations[queue.listener]? = some registration ∧
    queue.received = registration.latest.toList ++ signal.posts.drop registration.since ∧
    (∀ reading ∈ queue.received, registration.monitor ≤ reading.1) ∧
    registration.since ≤ signal.posts.length ∧ registration.monitor < signal.opened

structure Sound (signal : MonitoredSignal T) : Prop where
  stands : signal.Stands signal.holder
  counted : signal.state.listeners = signal.tokens.length + registering signal.holder
  queues : ∀ queue ∈ signal.fanout.listeners, signal.Queued queue

variable {signal}

theorem Queued.mono {next : MonitoredSignal T} {queue : FanoutQueue (Nat × CachedReading)}
    (queued : signal.Queued queue) (posts : next.posts = signal.posts)
    (registrations : signal.registrations <+: next.registrations)
    (opened : signal.opened ≤ next.opened) : next.Queued queue := by
  intro there
  obtain ⟨registration, found, received, later, since, monitor⟩ := queued there
  refine ⟨registration, ?_, posts ▸ received, later, posts ▸ since, Nat.lt_of_lt_of_le monitor opened⟩
  obtain ⟨rest, same⟩ := registrations
  rw [← same, List.getElem?_append_left (List.getElem?_eq_some_iff.mp found).1]
  exact found

theorem Sound.new : (new : MonitoredSignal T).Sound where
  stands := Or.inl ⟨⟨rfl, rfl, rfl, rfl⟩, rfl⟩
  counted := rfl
  queues := by simp [MonitoredSignal.new]

theorem Sound.coherent (sound : signal.Sound) : signal.Coherent where
  monitored free := by
    have counted := sound.counted
    have stands := sound.stands
    rw [free] at counted stands
    rcases stands with ⟨unheld, _⟩ | ⟨monitor, _, held⟩
    · have empty : signal.tokens = [] := by
        rw [unheld.listeners] at counted
        exact List.length_eq_zero_iff.mp (by simpa [registering] using counted.symm)
      simp [unheld.live, unheld.staged, empty]
    · refine iff_of_true (by simp [held.live]) (held.held.imp_right fun some => ?_)
      rw [counted] at some
      exact List.length_pos_iff.mp (by simpa [registering] using some)
  single := by
    have stands := sound.stands
    cases holder : signal.holder with
    | none =>
        rw [holder] at stands
        rcases stands with ⟨unheld, _⟩ | ⟨monitor, _, held⟩
        · simp [unheld.live]
        · simp [held.live]
    | some work =>
        rw [holder] at stands
        cases work with
        | opens monitor listens => simp [stands.2.live]
        | listens =>
            obtain ⟨monitor, _, held⟩ := stands
            simp [held.live]
        | clears monitor => simp [stands.1.live]
  queues queue member there := by
    obtain ⟨registration, found, received, later, _⟩ := sound.queues queue member there
    exact ⟨registration, found, received, later⟩
  forgotten free unstaged empty := by
    have counted := sound.counted
    have stands := sound.stands
    rw [free] at counted stands
    rcases stands with ⟨_, none⟩ | ⟨monitor, _, held⟩
    · exact none
    · rcases held.held with staged | some
      · rw [unstaged] at staged
        cases staged
      · rw [counted, empty] at some
        cases some

/-- An `ensure_token` of a held signal opens a monitor where none is. -/
theorem ensureToken_sound {listens : Bool}
    (idle : signal.state.token = none ∧ signal.live = [] ∧ signal.fanout.latest = none ∨
      ∃ monitor, signal.state.token = some monitor ∧ signal.Current monitor)
    (held : signal.state.staged = true ∨ 0 < signal.state.listeners)
    (counted : signal.state.listeners = signal.tokens.length + if listens then 1 else 0)
    (queues : ∀ queue ∈ signal.fanout.listeners, signal.Queued queue) :
    (signal.ensureToken listens).Sound := by
  rcases idle with ⟨token, live, latest⟩ | ⟨monitor, token, current⟩
  · simp only [ensureToken, token]
    refine ⟨⟨token, ⟨⟨by simp [live], rfl, by simp [latest], Nat.le_refl _, by simp⟩, held⟩⟩, ?_, ?_⟩
    · cases listens <;> exact counted
    · exact fun queue member => (queues queue member).mono rfl List.prefix_rfl (Nat.le_succ _)
  · simp only [ensureToken, token]
    refine ⟨?_, ?_, fun queue member => (queues queue member).mono rfl List.prefix_rfl (Nat.le_refl _)⟩
    · cases listens with
      | false => exact Or.inr ⟨monitor, token, { current with }, held⟩
      | true => exact ⟨monitor, token, { current with }, held⟩
    · cases listens <;> exact counted

/-- A tear-down leaves a held signal alone and begins to forget another. -/
theorem maybeTeardown_sound (free : signal.holder = none)
    (stands : signal.Unheld ∧ signal.fanout.latest = none ∨
      ∃ monitor, signal.state.token = some monitor ∧ signal.Current monitor)
    (counted : signal.state.listeners = signal.tokens.length)
    (queues : ∀ queue ∈ signal.fanout.listeners, signal.Queued queue) :
    signal.maybeTeardown.Sound := by
  unfold maybeTeardown
  split
  · next left =>
      obtain ⟨unstaged, none⟩ := left
      refine ⟨⟨⟨rfl, ?_, unstaged, none⟩, ?_⟩, counted, fun queue member =>
        (queues queue member).mono rfl List.prefix_rfl (Nat.le_refl _)⟩
      · rcases stands with ⟨unheld, _⟩ | ⟨monitor, token, current⟩
        · simp [unheld.live]
        · simp [token, current.live]
      · rcases stands with ⟨unheld, _⟩ | ⟨monitor, token, current⟩
        · simp [unheld.token]
        · simp [token, current.last]
  · next remains =>
      refine ⟨?_, by rw [free]; exact counted, queues⟩
      rw [free]
      rcases stands with ⟨unheld, _⟩ | ⟨monitor, token, current⟩
      · exact absurd ⟨unheld.staged, unheld.listeners⟩ remains
      · refine Or.inr ⟨monitor, token, current, ?_⟩
        rcases Bool.eq_false_or_eq_true signal.state.staged with staged | unstaged
        · exact Or.inl staged
        · exact Or.inr (Nat.pos_of_ne_zero fun none => remains ⟨unstaged, none⟩)

/-- The state of a signal whose lock is free, before a flag or a count is changed. -/
theorem Sound.free (sound : signal.Sound) (free : signal.holder = none) :
    (signal.Unheld ∧ signal.fanout.latest = none ∨
      ∃ monitor, signal.state.token = some monitor ∧ signal.Current monitor) ∧
    signal.state.listeners = signal.tokens.length := by
  have stands := sound.stands
  have counted := sound.counted
  rw [free] at stands counted
  exact ⟨stands.imp_right fun ⟨monitor, token, held⟩ => ⟨monitor, token, held.toCurrent⟩, counted⟩

theorem Fanout.mem_heard {R : Type} {fanout : Fanout R} {queue : FanoutQueue R} :
    queue ∈ fanout.heard ↔ queue ∈ fanout.listeners ∧ queue.closed = false := by
  simp [Fanout.heard]

/-- The holder's next piece of work. -/
theorem Sound.work (sound : signal.Sound) {work : CacheWork} (holds : signal.holder = some work) :
    (signal.work work).Sound := by
  have stands := sound.stands
  have counted := sound.counted
  rw [holds] at stands counted
  cases work with
  | opens monitor listens =>
      obtain ⟨_, held⟩ := stands
      refine ⟨?_, ?_, fun queue member =>
        (sound.queues queue member).mono rfl List.prefix_rfl (Nat.le_refl _)⟩
      · cases listens with
        | false => exact Or.inr ⟨monitor, rfl, { held with }⟩
        | true => exact ⟨monitor, rfl, { held with }⟩
      · cases listens <;> exact counted
  | listens =>
      obtain ⟨monitor, token, held⟩ := stands
      refine ⟨Or.inr ⟨monitor, token, { held with }⟩, ?_, ?_⟩
      · simpa [MonitoredSignal.work, registering] using counted
      · intro queue member
        rcases List.mem_append.mp member with before | fresh
        · exact (sound.queues queue (Fanout.mem_heard.mp before).1).mono rfl
            (List.prefix_append ..) (Nat.le_refl _)
        · obtain rfl := List.mem_singleton.mp fresh
          intro _
          have number : signal.opened - 1 = monitor := by have := held.last; omega
          refine ⟨⟨signal.posts.length, (signal.posts.drop signal.openedAt).getLast?, signal.opened - 1⟩,
            by simp [MonitoredSignal.work], by simp [MonitoredSignal.work, held.latest], ?_,
            Nat.le_refl _, ?_⟩
          · intro reading among
            simp only [number]
            have last : reading ∈ (signal.posts.drop signal.openedAt).getLast? := by
              simpa [held.latest] using among
            exact Nat.le_of_eq (held.own reading (List.mem_of_getLast? last)).symm
          · have := held.last
            simp only [MonitoredSignal.work]
            omega
  | clears monitor =>
      obtain ⟨unheld, _⟩ := stands
      exact ⟨Or.inl ⟨{ unheld with }, rfl⟩, counted, fun queue member =>
        (sound.queues queue member).mono rfl List.prefix_rfl (Nat.le_refl _)⟩

/-- A monitor that is open, or is being torn down, is the last one opened. -/
theorem Sound.last (sound : signal.Sound) {monitor : Nat}
    (timely : monitor ∈ signal.live ∨ signal.holder = some (.clears (some monitor))) :
    monitor + 1 = signal.opened := by
  have stands := sound.stands
  rcases timely with among | clears
  · have only {open_ : Nat} (current : signal.Current open_) : monitor + 1 = signal.opened := by
      have same : monitor = open_ := by simpa [current.live] using among
      rw [same, current.last]
    have never (unheld : signal.Unheld) : monitor + 1 = signal.opened := by
      rw [unheld.live] at among
      cases among
    cases holder : signal.holder with
    | none =>
        rw [holder] at stands
        rcases stands with ⟨unheld, _⟩ | ⟨_, _, held⟩
        · exact never unheld
        · exact only held.toCurrent
    | some work =>
        rw [holder] at stands
        cases work with
        | opens _ _ => exact only stands.2.toCurrent
        | listens => exact only stands.choose_spec.2.toCurrent
        | clears _ => exact never stands.1
  · rw [clears] at stands
    exact stands.2 monitor rfl

/-- A reading posted by the monitor that is open, or is being torn down. -/
theorem Sound.post (sound : signal.Sound) {reading : Nat × CachedReading}
    (timely : reading.1 ∈ signal.live ∨ signal.holder = some (.clears (some reading.1))) :
    (signal.post reading).Sound := by
  have last := sound.last timely
  have kept {monitor : Nat} (held : signal.Held monitor) : (signal.post reading).Held monitor := by
    have own : reading.1 = monitor := by
      have := held.last
      omega
    have drops : (signal.posts ++ [reading]).drop signal.openedAt =
        signal.posts.drop signal.openedAt ++ [reading] := List.drop_append_of_le_length held.since
    refine ⟨⟨held.live, held.last, ?_, ?_, ?_⟩, held.held⟩
    · simp [MonitoredSignal.post, Fanout.post, drops]
    · simpa [MonitoredSignal.post] using Nat.le_succ_of_le held.since
    · simp only [MonitoredSignal.post, drops, List.mem_append, List.mem_singleton]
      rintro other (before | rfl)
      · exact held.own other before
      · exact own
  refine ⟨?_, sound.counted, ?_⟩
  · have stands := sound.stands
    change (signal.post reading).Stands signal.holder
    cases holder : signal.holder with
    | none =>
        rw [holder] at stands
        rcases stands with ⟨unheld, _⟩ | ⟨monitor, token, held⟩
        · simp [unheld.live, holder] at timely
        · exact Or.inr ⟨monitor, token, kept held⟩
    | some work =>
        rw [holder] at stands
        cases work with
        | opens monitor listens => exact ⟨stands.1, kept stands.2⟩
        | listens =>
            obtain ⟨monitor, token, held⟩ := stands
            exact ⟨monitor, token, kept held⟩
        | clears monitor => exact ⟨{ stands.1 with }, stands.2⟩
  · intro queue member there
    obtain ⟨before, heard, rfl⟩ := List.mem_map.mp member
    obtain ⟨among, _⟩ := Fanout.mem_heard.mp heard
    obtain ⟨registration, found, received, later, since, monitor⟩ := sound.queues before among there
    refine ⟨registration, found, ?_, ?_, ?_, monitor⟩
    · simp only [MonitoredSignal.post, List.drop_append_of_le_length since, received,
        List.append_assoc]
    · intro other posted
      rcases List.mem_append.mp posted with earlier | fresh
      · exact later other earlier
      · rw [List.mem_singleton.mp fresh]
        omega
    · simpa [MonitoredSignal.post] using Nat.le_succ_of_le since

theorem Current.alike {next : MonitoredSignal T} {monitor : Nat} (current : signal.Current monitor)
    (live : next.live = signal.live) (opened : next.opened = signal.opened)
    (openedAt : next.openedAt = signal.openedAt) (posts : next.posts = signal.posts)
    (latest : next.fanout.latest = signal.fanout.latest) : next.Current monitor where
  live := live.trans current.live
  last := opened ▸ current.last
  latest := by rw [latest, posts, openedAt, current.latest]
  since := by rw [openedAt, posts]; exact current.since
  own := by rw [openedAt, posts]; exact current.own

/-- Where the cache stands has to do neither with the deliveries nor with the queues. -/
theorem Sound.aside (sound : signal.Sound) (flight : List (Nat × MonitorUpdate T))
    {listeners : List (FanoutQueue (Nat × CachedReading))}
    (queues : ∀ queue ∈ listeners, queue.closed = true ∨ queue ∈ signal.fanout.listeners) :
    { signal with flight, fanout := ⟨signal.fanout.latest, listeners⟩ }.Sound := by
  refine ⟨?_, sound.counted, fun queue member there => ?_⟩
  · have stands := sound.stands
    change MonitoredSignal.Stands _ signal.holder
    cases holder : signal.holder with
    | none =>
        rw [holder] at stands
        rcases stands with ⟨unheld, latest⟩ | ⟨monitor, token, held⟩
        · exact Or.inl ⟨{ unheld with }, latest⟩
        · exact Or.inr ⟨monitor, token, held.toCurrent.alike rfl rfl rfl rfl rfl, held.held⟩
    | some work =>
        rw [holder] at stands
        cases work with
        | opens monitor listens =>
            exact ⟨stands.1, stands.2.toCurrent.alike rfl rfl rfl rfl rfl, stands.2.held⟩
        | listens =>
            obtain ⟨monitor, token, held⟩ := stands
            exact ⟨monitor, token, held.toCurrent.alike rfl rfl rfl rfl rfl, held.held⟩
        | clears monitor => exact ⟨{ stands.1 with }, stands.2⟩
  · rcases queues queue member with closed | before
    · rw [there] at closed
      cases closed
    · exact sound.queues queue before there

/-- Every timely step keeps the signal sound. -/
theorem Sound.step (serialize : T → Option String) (signal : MonitoredSignal T) (event : CacheEvent T)
    (next : MonitoredSignal T) (stepped : signal.step serialize event = some next)
    (timely : signal.Timely serialize event) (sound : signal.Sound) : next.Sound := by
  cases event with
  | setStaged staged =>
      simp only [MonitoredSignal.step, Option.ite_none_left_eq_some, Option.not_isSome_iff_eq_none,
        Option.some.injEq] at stepped
      obtain ⟨free, rfl⟩ := stepped
      obtain ⟨stands, counted⟩ := sound.free free
      cases staged with
      | true =>
          refine ensureToken_sound ?_ (Or.inl rfl) counted sound.queues
          rcases stands with ⟨unheld, latest⟩ | ⟨monitor, token, current⟩
          · exact Or.inl ⟨unheld.token, unheld.live, latest⟩
          · exact Or.inr ⟨monitor, token, { current with }⟩
      | false =>
          refine maybeTeardown_sound free ?_ counted sound.queues
          rcases stands with ⟨unheld, latest⟩ | ⟨monitor, token, current⟩
          · exact Or.inl ⟨⟨unheld.token, unheld.live, rfl, unheld.listeners⟩, latest⟩
          · exact Or.inr ⟨monitor, token, { current with }⟩
  | addListener =>
      simp only [MonitoredSignal.step, Option.ite_none_left_eq_some, Option.not_isSome_iff_eq_none,
        Option.some.injEq] at stepped
      obtain ⟨free, rfl⟩ := stepped
      obtain ⟨stands, counted⟩ := sound.free free
      refine ensureToken_sound ?_ (Or.inr (Nat.succ_pos _)) (by simp [counted]) sound.queues
      rcases stands with ⟨unheld, latest⟩ | ⟨monitor, token, current⟩
      · exact Or.inl ⟨unheld.token, unheld.live, latest⟩
      · exact Or.inr ⟨monitor, token, { current with }⟩
  | dropToken listener =>
      simp only [MonitoredSignal.step, Option.ite_none_left_eq_some, not_or, not_not,
        Option.not_isSome_iff_eq_none, Option.some.injEq] at stepped
      obtain ⟨⟨free, there⟩, rfl⟩ := stepped
      obtain ⟨stands, counted⟩ := sound.free free
      have some := List.length_pos_of_mem there
      refine maybeTeardown_sound free ?_ ?_ sound.queues
      · rcases stands with ⟨unheld, _⟩ | ⟨monitor, token, current⟩
        · have := unheld.listeners
          omega
        · exact Or.inr ⟨monitor, token, { current with }⟩
      · simp only [List.length_erase_of_mem there, counted]
  | goOn =>
      obtain ⟨work, holds, rfl⟩ := Option.map_eq_some_iff.mp stepped
      exact sound.work holds
  | begin monitor update =>
      simp only [MonitoredSignal.step, Option.ite_none_right_eq_some, Option.some.injEq] at stepped
      obtain ⟨_, rfl⟩ := stepped
      exact sound.aside _ fun queue member => Or.inr member
  | deliver position =>
      obtain ⟨delivery, found, rfl⟩ := Option.map_eq_some_iff.mp stepped
      have landed := sound.aside (signal.flight.eraseIdx position) fun queue member => Or.inr member
      cases made : makeCallback serialize delivery.2 with
      | none => exact landed
      | some reading => exact landed.post (timely delivery found (by rw [made]; rfl))
  | hangUp listener =>
      obtain rfl := Option.some.inj stepped
      refine sound.aside _ fun queue member => ?_
      obtain ⟨before, there, rfl⟩ := List.mem_map.mp member
      split
      · exact Or.inl rfl
      · exact Or.inr there

instance (serialize : T → Option String) (signal : MonitoredSignal T) :
    ∀ event, Decidable (signal.Timely serialize event)
  | .deliver position => inferInstanceAs (Decidable (∀ delivery ∈ signal.flight[position]?,
      (makeCallback serialize delivery.2).isSome = true →
        delivery.1 ∈ signal.live ∨ signal.holder = some (.clears (some delivery.1))))
  | .setStaged _ | .addListener | .dropToken _ | .goOn | .begin _ _ | .hangUp _ => isTrue trivial

/-- A value posted at no particular time. -/
def plainUpdate (value : String) : MonitorUpdate String :=
  ⟨value, "0", none⟩

/-- A reading delivered as the monitor opens, one to a listener, and one amid the tear-down. -/
def stagedAndHeard : List (CacheEvent String) :=
  [.setStaged true, .begin 0 (plainUpdate "1"), .deliver 0, .goOn, .addListener, .goOn,
    .begin 0 (plainUpdate "2"), .deliver 0, .setStaged false, .begin 0 (plainUpdate "3"),
    .dropToken 0, .deliver 0, .goOn]

end MonitoredSignal

end Bsrs.Devices
