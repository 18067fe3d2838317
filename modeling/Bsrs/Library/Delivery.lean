import Bsrs.Library.Journal
import Bsrs.Library.Run

namespace Bsrs.Library

/-! ## What is under way while a trace is seen -/

/-- The sessions of a trace, newest entry first: what may be made in a session by others than the
author of the trace, and when a session is over, which nothing so made brings about. -/
structure Sessions (ρ α : Type) where
  belongs : ρ → α → Bool
  past : ρ → List α → Bool
  lasts : ∀ session other entry log, belongs other entry = true →
    past session (entry :: log) = past session log

/-- A trace on its way to an observer: what was sent, the sessions someone is at work in, what has
come of such work and is still in hand, and what was seen. -/
structure Delivery (ρ α : Type) where
  sent : List α
  jobs : List ρ
  hands : List (ρ × α)
  seen : List α

/-- What happens on the way. The author `sends` entries that are seen at once. Others take up work
in a session; an entry that comes of it (one that `strays` comes when the session is over, and the
trace does not have it) stays in hand until it is passed on or lost. -/
inductive Carry (ρ α : Type) where
  | sends (entry : α)
  | takes (session : ρ)
  | quits (session : ρ)
  | makes (session : ρ) (entry : α)
  | strays (session : ρ) (entry : α)
  | passes (session : ρ) (entry : α)
  | loses (session : ρ) (entry : α)

namespace Delivery

variable {ρ α : Type} [DecidableEq ρ] [DecidableEq α] {sessions : Sessions ρ α} {among : ρ → Prop}
  {before after reached : Delivery ρ α} {move : Carry ρ α} {moves : List (Carry ρ α)}

def start : Delivery ρ α := ⟨[], [], [], []⟩

def step (sessions : Sessions ρ α) (delivery : Delivery ρ α) :
    Carry ρ α → Option (Delivery ρ α)
  | .sends entry =>
      some { delivery with sent := entry :: delivery.sent, seen := entry :: delivery.seen }
  | .takes session => some { delivery with jobs := session :: delivery.jobs }
  | .quits session => some { delivery with jobs := delivery.jobs.erase session }
  | .makes session entry =>
      if session ∈ delivery.jobs ∧ sessions.belongs session entry = true then
        some { delivery with
          sent := entry :: delivery.sent
          jobs := delivery.jobs.erase session
          hands := (session, entry) :: delivery.hands }
      else
        none
  | .strays session entry =>
      if session ∈ delivery.jobs ∧ sessions.belongs session entry = true ∧
          sessions.past session delivery.sent = true then
        some { delivery with
          jobs := delivery.jobs.erase session
          hands := (session, entry) :: delivery.hands }
      else
        none
  | .passes session entry =>
      if (session, entry) ∈ delivery.hands then
        some { delivery with
          hands := delivery.hands.erase (session, entry)
          seen := entry :: delivery.seen }
      else
        none
  | .loses session entry =>
      if (session, entry) ∈ delivery.hands then
        some { delivery with hands := delivery.hands.erase (session, entry) }
      else
        none

/-- As a session of those `among` ends no one is at work in it or has anything of it in hand, and no
work is taken up in it afterwards. -/
def Timely (sessions : Sessions ρ α) (among : ρ → Prop) (delivery : Delivery ρ α) :
    Carry ρ α → Prop
  | .sends entry =>
      (∀ session ∈ delivery.jobs, among session → sessions.past session (entry :: delivery.sent) = false) ∧
        ∀ item ∈ delivery.hands, among item.1 → sessions.past item.1 (entry :: delivery.sent) = false
  | .takes session => among session → sessions.past session delivery.sent = false
  | _ => True

instance [DecidablePred among] (delivery : Delivery ρ α) :
    ∀ move, Decidable (Timely sessions among delivery move) := by
  rintro (_ | _) <;> dsimp only [Timely] <;> infer_instance

/-- What is under way is of sessions that are not over. -/
structure Current (sessions : Sessions ρ α) (among : ρ → Prop) (delivery : Delivery ρ α) : Prop where
  jobs : ∀ session ∈ delivery.jobs, among session → sessions.past session delivery.sent = false
  hands : ∀ item ∈ delivery.hands, among item.1 → sessions.past item.1 delivery.sent = false
  belongs : ∀ item ∈ delivery.hands, sessions.belongs item.1 item.2 = true

omit [DecidableEq ρ] [DecidableEq α] in
theorem current_start : Current sessions among start where
  jobs _ member := absurd member List.not_mem_nil
  hands _ member := absurd member List.not_mem_nil
  belongs _ member := absurd member List.not_mem_nil

theorem current_step (stepped : step sessions before move = some after)
    (timely : Timely sessions among before move) (current : Current sessions among before) :
    Current sessions among after := by
  have made : ∀ {session entry}, sessions.belongs session entry = true →
      ∀ item ∈ (session, entry) :: before.hands, sessions.belongs item.1 item.2 = true := by
    intro session entry belongs item member
    rcases List.mem_cons.mp member with rfl | member
    · exact belongs
    · exact current.belongs item member
  cases move with
  | sends entry =>
      cases stepped
      exact ⟨timely.1, timely.2, current.belongs⟩
  | takes session =>
      cases stepped
      refine ⟨fun other member counts => ?_, current.hands, current.belongs⟩
      rcases List.mem_cons.mp member with rfl | member
      · exact timely counts
      · exact current.jobs other member counts
  | quits session =>
      cases stepped
      exact ⟨fun other member => current.jobs other (List.mem_of_mem_erase member), current.hands,
        current.belongs⟩
  | makes session entry =>
      obtain ⟨⟨working, belongs⟩, next⟩ := Option.ite_none_right_eq_some.mp stepped
      cases next
      refine ⟨fun other member counts => ?_, fun item member counts => ?_, made belongs⟩
      · rw [sessions.lasts _ _ _ _ belongs]
        exact current.jobs other (List.mem_of_mem_erase member) counts
      · rw [sessions.lasts _ _ _ _ belongs]
        rcases List.mem_cons.mp member with rfl | member
        · exact current.jobs session working counts
        · exact current.hands item member counts
  | strays session entry =>
      obtain ⟨⟨working, belongs, -⟩, next⟩ := Option.ite_none_right_eq_some.mp stepped
      cases next
      refine ⟨fun other member => current.jobs other (List.mem_of_mem_erase member),
        fun item member counts => ?_, made belongs⟩
      rcases List.mem_cons.mp member with rfl | member
      · exact current.jobs session working counts
      · exact current.hands item member counts
  | passes session entry =>
      obtain ⟨-, next⟩ := Option.ite_none_right_eq_some.mp stepped
      cases next
      exact ⟨current.jobs, fun item member => current.hands item (List.mem_of_mem_erase member),
        fun item member => current.belongs item (List.mem_of_mem_erase member)⟩
  | loses session entry =>
      obtain ⟨-, next⟩ := Option.ite_none_right_eq_some.mp stepped
      cases next
      exact ⟨current.jobs, fun item member => current.hands item (List.mem_of_mem_erase member),
        fun item member => current.belongs item (List.mem_of_mem_erase member)⟩

/-- Nothing strays from a session that ends with no one at work in it. -/
theorem strays_none {session : ρ} {entry : α} (current : Current sessions among before)
    (counts : among session) : step sessions before (.strays session entry) = none := by
  by_contra strays
  obtain ⟨after, stepped⟩ := Option.ne_none_iff_exists'.mp strays
  obtain ⟨⟨working, -, past⟩, -⟩ := Option.ite_none_right_eq_some.mp stepped
  rw [current.jobs session working counts] at past
  cases past

/-- A run whose moves are timely makes nothing stray. -/
theorem unstrayed (trace : exec (step sessions) before moves = some reached)
    (timely : Throughout (step sessions) (Timely sessions among) before moves)
    (current : Current sessions among before) {session : ρ} (counts : among session) (entry : α) :
    .strays session entry ∉ moves := by
  induction moves generalizing before with
  | nil => exact List.not_mem_nil
  | cons move rest ih =>
      obtain ⟨next, stepped, remaining⟩ := exec_cons trace
      intro member
      rcases List.mem_cons.mp member with rfl | member
      · rw [strays_none current counts] at stepped
        cases stepped
      · exact ih remaining (timely.2 next stepped) (current_step stepped timely.1 current) member

/-- What a reading of the entries finds in hand. -/
def inHand (view : α → Option β) (delivery : Delivery ρ α) : List β :=
  delivery.hands.filterMap fun item => view item.2

section

variable {view : α → Option β} {session : ρ} {entry : α}

theorem inHand_makes (view : α → Option β)
    (stepped : step sessions before (.makes session entry) = some after) :
    after.inHand view = (view entry).toList ++ before.inHand view := by
  obtain ⟨-, next⟩ := Option.ite_none_right_eq_some.mp stepped
  cases next
  cases known : view entry <;> simp [inHand, known]

theorem inHand_strays (view : α → Option β)
    (stepped : step sessions before (.strays session entry) = some after) :
    after.inHand view = (view entry).toList ++ before.inHand view := by
  obtain ⟨-, next⟩ := Option.ite_none_right_eq_some.mp stepped
  cases next
  cases known : view entry <;> simp [inHand, known]

private theorem filterMap_erase {hands : List (ρ × α)} (held : (session, entry) ∈ hands)
    (single : (hands.filterMap fun item => view item.2).length ≤ 1) :
    (hands.filterMap fun item => view item.2) = (view entry).toList ++
      (hands.erase (session, entry)).filterMap fun item => view item.2 := by
  have parted := (List.perm_cons_erase held).filterMap fun item => view item.2
  have whole : (((session, entry) :: hands.erase (session, entry)).filterMap fun item => view item.2) =
      (view entry).toList ++ (hands.erase (session, entry)).filterMap fun item => view item.2 := by
    cases known : view entry <;> simp [known]
  rw [whole] at parted
  generalize (view entry).toList ++
    ((hands.erase (session, entry)).filterMap fun item => view item.2) = others at parted
  generalize (hands.filterMap fun item => view item.2) = first at parted single ⊢
  rcases Nat.le_one_iff_eq_zero_or_eq_one.mp single with none | one
  · obtain rfl := List.length_eq_zero_iff.mp none
    exact (List.nil_perm.mp parted).symm
  · obtain ⟨only, rfl⟩ := List.length_eq_one_iff.mp one
    exact List.singleton_perm.mp parted

/-- What is passed on was in hand, with nothing beside where there is at most one entry. -/
theorem inHand_passes (stepped : step sessions before (.passes session entry) = some after)
    (single : (before.inHand view).length ≤ 1) :
    before.inHand view = (view entry).toList ++ after.inHand view := by
  obtain ⟨held, next⟩ := Option.ite_none_right_eq_some.mp stepped
  cases next
  exact filterMap_erase held single

theorem inHand_loses (stepped : step sessions before (.loses session entry) = some after)
    (single : (before.inHand view).length ≤ 1) :
    before.inHand view = (view entry).toList ++ after.inHand view := by
  obtain ⟨held, next⟩ := Option.ite_none_right_eq_some.mp stepped
  cases next
  exact filterMap_erase held single

end

end Delivery

/-! ## Sessions that are seen to begin and end -/

/-- What a trace shows of a session: its beginning, something within it, that its end is settled,
its end. -/
inductive Mark (ρ : Type) where
  | opens (session : ρ)
  | within (session : ρ)
  | settles (session : ρ)
  | closes (session : ρ)
  deriving DecidableEq

namespace Mark

/-- A session begins once, ends once at most, and all that is within it lies between. -/
def Nested : Mark ρ → List (Mark ρ) → Prop
  | .opens session, rest => .opens session ∉ rest ∧ .closes session ∉ rest
  | .within session, rest | .closes session, rest => .opens session ∈ rest ∧ .closes session ∉ rest
  | .settles _, _ => True

variable {ρ : Type} [DecidableEq ρ]

instance : ∀ (mark : Mark ρ) (rest : List (Mark ρ)), Decidable (Nested mark rest) := by
  rintro (_ | _) rest <;> dsimp only [Nested] <;> infer_instance

/-- Others make what is within a session, until its end is settled. -/
def sessions : Sessions ρ (Mark ρ) where
  belongs session mark := mark = .within session
  past session trace := .settles session ∈ trace ∨ .closes session ∈ trace
  lasts session other mark trace belongs := by
    obtain rfl := of_decide_eq_true belongs
    simp

/-- What is known of a trace as it is seen. -/
structure Relayed (delivery : Delivery ρ (Mark ρ)) : Prop where
  current : Delivery.Current sessions (fun _ => True) delivery
  opens : ∀ session, .opens session ∈ delivery.seen ↔ .opens session ∈ delivery.sent
  closes : ∀ session, .closes session ∈ delivery.seen ↔ .closes session ∈ delivery.sent
  begun : Always Nested delivery.sent → ∀ item ∈ delivery.hands, .opens item.1 ∈ delivery.sent
  nested : Always Nested delivery.sent → Always Nested delivery.seen

variable {before after reached : Delivery ρ (Mark ρ)} {move : Carry ρ (Mark ρ)}
  {moves : List (Carry ρ (Mark ρ))}

theorem relayed_start : Relayed (Delivery.start : Delivery ρ (Mark ρ)) where
  current := Delivery.current_start
  opens _ := .rfl
  closes _ := .rfl
  begun _ _ member := absurd member List.not_mem_nil
  nested _ := trivial

theorem relayed_step (stepped : Delivery.step sessions before move = some after)
    (timely : Delivery.Timely sessions (fun _ => True) before move) (relayed : Relayed before) :
    Relayed after := by
  have current := Delivery.current_step stepped timely relayed.current
  cases move with
  | sends mark =>
      cases stepped
      refine ⟨current, fun session => ?_, fun session => ?_,
        fun always item member => List.mem_cons_of_mem _ (relayed.begun always.2 item member),
        fun always => ⟨?_, relayed.nested always.2⟩⟩
      · simp [relayed.opens session]
      · simp [relayed.closes session]
      · have known := always.1
        cases mark with
        | settles session => trivial
        | _ => simpa only [Nested, relayed.opens, relayed.closes] using known
  | takes session | quits session =>
      cases stepped
      exact ⟨current, relayed.opens, relayed.closes, relayed.begun, relayed.nested⟩
  | makes session mark =>
      obtain ⟨⟨-, belongs⟩, made⟩ := Option.ite_none_right_eq_some.mp stepped
      cases made
      obtain rfl : mark = .within session := of_decide_eq_true belongs
      refine ⟨current, fun other => ?_, fun other => ?_,
        fun always item member => List.mem_cons_of_mem _ ?_, fun always => relayed.nested always.2⟩
      · simp [relayed.opens other]
      · simp [relayed.closes other]
      · rcases List.mem_cons.mp member with rfl | member
        · exact always.1.1
        · exact relayed.begun always.2 item member
  | strays session mark =>
      rw [Delivery.strays_none relayed.current trivial] at stepped
      cases stepped
  | passes session mark =>
      obtain ⟨held, made⟩ := Option.ite_none_right_eq_some.mp stepped
      cases made
      obtain rfl : mark = .within session := of_decide_eq_true (relayed.current.belongs _ held)
      refine ⟨current, fun other => ?_, fun other => ?_,
        fun always item member => relayed.begun always item (List.mem_of_mem_erase member),
        fun always => ⟨⟨?_, ?_⟩, relayed.nested always⟩⟩
      · simp [relayed.opens other]
      · simp [relayed.closes other]
      · exact (relayed.opens session).mpr (relayed.begun always _ held)
      · intro closed
        have past : sessions.past session before.sent = true :=
          decide_eq_true (.inr ((relayed.closes session).mp closed))
        rw [relayed.current.hands _ held trivial] at past
        cases past
  | loses session mark =>
      obtain ⟨-, made⟩ := Option.ite_none_right_eq_some.mp stepped
      cases made
      exact ⟨current, relayed.opens, relayed.closes,
        fun always item member => relayed.begun always item (List.mem_of_mem_erase member),
        relayed.nested⟩

/-- Timely deliveries stay within their sessions. -/
theorem relayed_of_timely (trace : exec (Delivery.step sessions) Delivery.start moves = some reached)
    (timely : Throughout (Delivery.step sessions) (Delivery.Timely sessions fun _ => True)
      Delivery.start moves) : Relayed reached :=
  exec_invariant_throughout Relayed (fun _ _ _ => relayed_step) trace timely relayed_start

end Mark

end Bsrs.Library
