import Bsrs.Plans.Counting
import Bsrs.Qs.Queue

/-! The arguments of a queued `count`. -/

namespace Bsrs.Qs

open Bsrs.Core
open Bsrs.Plans (Beamline Clockwork count count_reads readIn)

/-! ## Parsing -/

/-- `as_u64`. -/
def asU64 : Json → Option Nat
  | .number value => value.asU64
  | _ => none

/-- The texts of an array, all else dropped. -/
def namesIn (items : List Json) : List String :=
  items.filterMap Json.asStr

/-- `parse_count_args`. -/
def parseCountArgs (args : Json) : Except String (List String × Nat) :=
  match args.asObject with
  | some _ =>
      let positional := (args.get "args").bind Json.asArray
      let keyword := (((args.get "kwargs").bind (Json.get · "detectors")).bind Json.asArray)
      let detectors := ((positional.map namesIn).or (keyword.map namesIn)).getD []
      let num := (((args.get "kwargs").bind (Json.get · "num")).bind asU64).or
        ((positional.bind List.getLast?).bind asU64)
      match num with
      | some num => .ok (detectors, num)
      | none => .error "count: missing 'num' argument"
  | none => .error ("count args must be object; got " ++ args.print)

/-- What `count` is called with. -/
structure CountCall where
  detectors : List Obj
  num : Nat
  deriving Repr, DecidableEq

/-- The detectors registered under the names, or the first name that is not. -/
def lookUp (readable : String → Option Obj) : List String → Except String (List Obj)
  | [] => .ok []
  | name :: rest =>
      match readable name with
      | none => .error ("unknown detector: " ++ name)
      | some obj => (lookUp readable rest).map (obj :: ·)

/-- The factory of `register_plan_count`, up to the call of `count`. -/
def countFactory (readable : String → Option Obj) (args : Json) : Except String CountCall :=
  match parseCountArgs args with
  | .error reason => .error reason
  | .ok (names, num) => (lookUp readable names).map (CountCall.mk · num)

/-! ## Spellings -/

/-- Keyword arguments of those names only. -/
def Only (names : List String) (kwargs : List (String × Json)) : Prop :=
  ∀ field ∈ kwargs, field.1 ∈ names

/-- The spellings of a request to count the detectors of those names so many times. -/
inductive Requests (args : List Json) (kwargs : List (String × Json)) (names : List String) (num : Nat) :
    Prop where
  | named (positional : args = names.map Json.string) (only : Only ["num"] kwargs)
      (counted : (kwargs.lookup "num").bind asU64 = some num)
  | last {value : Json} (positional : args = names.map Json.string ++ [value]) (none : kwargs = [])
      (counted : asU64 value = some num)
  | nested {value : Json} (positional : args = [.array (names.map Json.string), value])
      (none : kwargs = []) (counted : asU64 value = some num)
  | keywords (positional : args = []) (only : Only ["detectors", "num"] kwargs)
      (listed : kwargs.lookup "detectors" = some (.array (names.map Json.string)))
      (counted : (kwargs.lookup "num").bind asU64 = some num)

/-- A request is bound to the detectors it names, and all else is rejected. -/
structure Bound (readable : String → Option Obj) (args : List Json) (kwargs : List (String × Json))
    (outcome : Except String CountCall) : Prop where
  built : ∀ names num objs, Requests args kwargs names num → names.mapM readable = some objs →
    outcome = .ok ⟨objs, num⟩
  rejected : (∀ names num, Requests args kwargs names num → names.mapM readable = none) →
    ∃ reason, outcome = .error reason

/-- The number of shots, where the request may give it. -/
def givenNum (args : List Json) (kwargs : List (String × Json)) : Option Nat :=
  ((kwargs.lookup "num").bind asU64).or (args.getLast?.bind asU64)

/-- No number is given, a text among the arguments names no detector, or the texts are the names of a
request. -/
def PlainlyNamed (readable : String → Option Obj) (args : List Json) (kwargs : List (String × Json)) :
    Prop :=
  givenNum args kwargs = none ∨ (∃ name ∈ namesIn args, readable name = none) ∨
    ∃ num, Requests args kwargs (namesIn args) num

/-! ## The factory -/

theorem namesIn_map (names : List String) : namesIn (names.map Json.string) = names := by
  rw [namesIn, List.filterMap_map]
  exact List.filterMap_some

/-- The look-up finds all of the names, or misses one. -/
theorem lookUp_eq (readable : String → Option Obj) (names : List String) :
    (∃ objs, names.mapM readable = some objs ∧ lookUp readable names = .ok objs ∧
        ∀ name ∈ names, readable name ≠ none) ∨
      (∃ name ∈ names, readable name = none) ∧ names.mapM readable = none ∧
        ∃ reason, lookUp readable names = .error reason := by
  induction names with
  | nil => exact .inl ⟨[], rfl, rfl, by simp⟩
  | cons name rest ih =>
      cases found : readable name with
      | none =>
          exact .inr ⟨⟨name, List.mem_cons_self, found⟩, by simp [found], _, by rw [lookUp, found]⟩
      | some obj =>
          rcases ih with ⟨objs, all, looked, known⟩ | ⟨⟨other, member, unknown⟩, all, reason, looked⟩
          · exact .inl ⟨obj :: objs, by simp [found, all], by rw [lookUp, found, looked]; rfl,
              List.forall_mem_cons.mpr ⟨by simp [found], known⟩⟩
          · exact .inr ⟨⟨other, List.mem_cons_of_mem _ member, unknown⟩, by simp [found, all], reason,
              by rw [lookUp, found, looked]; rfl⟩

/-- What the factory makes of an array and an object. -/
theorem countFactory_eq (readable : String → Option Obj) (args : List Json)
    (kwargs : List (String × Json)) :
    countFactory readable (.object [("args", .array args), ("kwargs", .object kwargs)]) =
      match givenNum args kwargs with
      | some num => (lookUp readable (namesIn args)).map (CountCall.mk · num)
      | none => .error "count: missing 'num' argument" := by
  have read : parseCountArgs (.object [("args", .array args), ("kwargs", .object kwargs)]) =
      match givenNum args kwargs with
      | some num => .ok (namesIn args, num)
      | none => .error "count: missing 'num' argument" := rfl
  rw [countFactory, read]
  cases givenNum args kwargs <;> rfl

theorem asStr_of_counted {value : Json} {num : Nat} (counted : asU64 value = some num) :
    value.asStr = none := by
  cases value with
  | number value => rfl
  | _ => cases counted

/-- A request gives its number, and its names are the texts among the arguments unless these are in a
list or a keyword. -/
theorem Requests.given {args : List Json} {kwargs : List (String × Json)} {names : List String} {num : Nat}
    (requests : Requests args kwargs names num) :
    givenNum args kwargs = some num ∧ (namesIn args = names ∨ namesIn args = []) := by
  cases requests with
  | named positional only counted =>
      refine ⟨by rw [givenNum, counted]; rfl, .inl ?_⟩
      rw [positional, namesIn_map]
  | last positional none counted =>
      refine ⟨by simp [givenNum, positional, none, counted], .inl ?_⟩
      rw [positional, namesIn, List.filterMap_append, ← namesIn, namesIn_map]
      simp [asStr_of_counted counted]
  | @nested value positional none counted =>
      refine ⟨by simp [givenNum, positional, none, counted], .inr ?_⟩
      have listed : Json.asStr (.array (names.map Json.string)) = Option.none := rfl
      rw [positional, namesIn, List.filterMap_cons, listed, List.filterMap_cons, asStr_of_counted counted]
      rfl
  | keywords positional only listed counted =>
      refine ⟨by rw [givenNum, counted]; rfl, .inr ?_⟩
      rw [positional]
      rfl

theorem names_injective {names others : List String}
    (same : names.map Json.string = others.map Json.string) : names = others := by
  have texts := congrArg namesIn same
  rwa [namesIn_map, namesIn_map] at texts

theorem lookup_of_only {names : List String} {kwargs : List (String × Json)} {key : String} {value : Json}
    (only : Only names kwargs) (found : kwargs.lookup key = some value) : key ∈ names := by
  obtain ⟨before, after, split, _⟩ := List.lookup_eq_some_iff.mp found
  exact only (key, value) (by rw [split]; simp)

/-- Where the names of a request are: the texts among its arguments, a list ahead of the number, or a
keyword. -/
theorem Requests.place {args : List Json} {kwargs : List (String × Json)} {names : List String} {num : Nat}
    (requests : Requests args kwargs names num) :
    (namesIn args = names ∧ (∀ items rest, args ≠ .array items :: rest) ∧
        (args = [] → kwargs.lookup "detectors" = none)) ∨
      (∃ value, args = [.array (names.map Json.string), value]) ∨
      (args = [] ∧ kwargs.lookup "detectors" = some (.array (names.map Json.string))) := by
  cases requests with
  | named positional only counted =>
      refine .inl ⟨by rw [positional, namesIn_map], fun items rest same => ?_, fun _ => ?_⟩
      · rw [positional] at same
        cases names <;> cases same
      · cases found : kwargs.lookup "detectors" with
        | none => rfl
        | some value => exact absurd (lookup_of_only only found) (by decide)
  | @last value positional none counted =>
      refine .inl ⟨?_, fun items rest same => ?_, fun empty => ?_⟩
      · rw [positional, namesIn, List.filterMap_append, ← namesIn, namesIn_map]
        simp [asStr_of_counted counted]
      · rw [positional] at same
        cases names with
        | nil =>
            cases same
            cases counted
        | cons name names => cases same
      · rw [positional] at empty
        simp at empty
  | @nested value positional none counted => exact .inr (.inl ⟨value, positional⟩)
  | keywords positional only listed counted => exact .inr (.inr ⟨positional, listed⟩)

/-- Requests of the same arguments have the same names. -/
theorem Requests.names_eq {args : List Json} {kwargs : List (String × Json)} {names others : List String}
    {num other : Nat} (requests : Requests args kwargs names num)
    (also : Requests args kwargs others other) : names = others := by
  rcases requests.place with ⟨texts, unlisted, keyless⟩ | ⟨value, listed⟩ | ⟨empty, keyword⟩
  · rcases also.place with ⟨same, _⟩ | ⟨_, nested⟩ | ⟨empty, keyword⟩
    · exact texts.symm.trans same
    · exact absurd nested (unlisted _ _)
    · cases (keyless empty).symm.trans keyword
  · rcases also.place with ⟨_, unlisted, _⟩ | ⟨_, nested⟩ | ⟨empty, _⟩
    · exact absurd listed (unlisted _ _)
    · have same := listed.symm.trans nested
      simp only [List.cons.injEq, Json.array.injEq] at same
      exact names_injective same.1
    · cases listed.symm.trans empty
  · rcases also.place with ⟨_, _, keyless⟩ | ⟨_, nested⟩ | ⟨_, also⟩
    · cases (keyless empty).symm.trans keyword
    · cases nested.symm.trans empty
    · have same := keyword.symm.trans also
      simp only [Option.some.injEq, Json.array.injEq] at same
      exact names_injective same

/-- The request is bound or rejected if and only if it is plainly named. -/
theorem bound_iff (readable : String → Option Obj) (args : List Json) (kwargs : List (String × Json)) :
    Bound readable args kwargs
        (countFactory readable (.object [("args", .array args), ("kwargs", .object kwargs)])) ↔
      PlainlyNamed readable args kwargs := by
  rw [countFactory_eq]
  constructor
  · intro bound
    cases given : givenNum args kwargs with
    | none => exact .inl given
    | some num =>
        rw [given] at bound
        rcases lookUp_eq readable (namesIn args) with ⟨objs, all, looked, _⟩ | ⟨unknown, _⟩
        · rw [looked] at bound
          have named : ∃ names other, Requests args kwargs names other ∧ names.mapM readable ≠ none := by
            by_contra! unnamed
            obtain ⟨reason, failed⟩ := bound.rejected unnamed
            cases failed
          obtain ⟨names, other, requests, known⟩ := named
          obtain ⟨found, registered⟩ := Option.ne_none_iff_exists'.mp known
          have same := bound.built names other found requests registered
          refine .inr (.inr ⟨other, ?_⟩)
          cases same
          rcases requests.given.2 with texts | nothing
          · rwa [texts]
          · rw [nothing] at all ⊢
            cases all
            cases names with
            | nil => exact requests
            | cons name rest => simp [Option.bind_eq_some_iff] at registered
        · exact .inr (.inl unknown)
  · rintro (none | ⟨name, member, unknown⟩ | ⟨num, requests⟩)
    · rw [none]
      refine ⟨fun names num objs requests _ => ?_, fun _ => ⟨_, rfl⟩⟩
      cases requests.given.1.symm.trans none
    · rcases lookUp_eq readable (namesIn args) with ⟨objs, _, _, known⟩ | ⟨_, missing, reason, failed⟩
      · exact absurd unknown (known name member)
      · refine ⟨fun names num objs requests registered => ?_, fun _ => ?_⟩
        · rcases requests.given.2 with texts | nothing
          · rw [← texts, missing] at registered
            cases registered
          · rw [nothing] at member
            cases member
        · cases givenNum args kwargs with
          | none => exact ⟨_, rfl⟩
          | some num => exact ⟨reason, by rw [failed]; rfl⟩
    · rw [requests.given.1]
      rcases lookUp_eq readable (namesIn args) with ⟨objs, all, looked, _⟩ | ⟨_, missing, reason, failed⟩
      · rw [looked]
        refine ⟨fun names other found also registered => ?_, fun unregistered => ?_⟩
        · cases also.names_eq requests
          cases registered.symm.trans all
          cases also.given.1.symm.trans requests.given.1
          rfl
        · cases all.symm.trans (unregistered _ _ requests)
      · rw [failed]
        refine ⟨fun names other found also registered => ?_, fun _ => ⟨reason, rfl⟩⟩
        rw [also.names_eq requests, missing] at registered
        cases registered

/-- A queued `count` is bound or rejected if and only if it is plainly named, and a bound one reads the
detectors it names in order, as many times as it says. -/
theorem queued_count (readable : String → Option Obj) {K : Type} (beamline : Beamline K)
    (clockwork : Clockwork) :
    (∀ (item : QueuedItem) args kwargs, item.args = .array args → item.kwargs = .object kwargs →
      (Bound readable args kwargs (countFactory readable item.planArgs) ↔
        PlainlyNamed readable args kwargs)) ∧
    ∀ call : CountCall, ∃ scan, count beamline clockwork call.detectors call.num = .ok scan ∧
      scan.msgs.filterMap readIn = (List.replicate call.num call.detectors).flatten := by
  refine ⟨fun item args kwargs positional keyword => ?_, fun call => count_reads beamline clockwork _ _⟩
  rw [QueuedItem.planArgs, positional, keyword]
  exact bound_iff readable args kwargs

private def det : Obj := ⟨0, "det", none, false, false, false⟩

private def onlyDet (name : String) : Option Obj :=
  if name = "det" then some det else none

private def three : Json := .number (.int 3)

private def submitted (fields : List (String × Json)) : QueuedItem :=
  .plan "u" "count" (.object fields)

/-- A request by keywords, as advertised, and one by a list and a number each count no detector, and a
number among the names is dropped. -/
theorem queued_count_misbound :
    (Requests [] [("detectors", .array [.string "det"]), ("num", three)] ["det"] 3 ∧
      countFactory onlyDet (submitted [("kwargs", .object [("detectors", .array [.string "det"]),
        ("num", three)])]).planArgs = .ok ⟨[], 3⟩) ∧
    (Requests [.array [.string "det"], three] [] ["det"] 3 ∧
      countFactory onlyDet (submitted [("args", .array [.array [.string "det"], three])]).planArgs =
        .ok ⟨[], 3⟩) ∧
    (∀ names num, ¬ Requests [three, .string "det", three] [] names num) ∧
      countFactory onlyDet (submitted [("args", .array [three, .string "det", three])]).planArgs =
        .ok ⟨[det], 3⟩ := by
  refine ⟨⟨.keywords rfl (by simp [Only]) rfl rfl, rfl⟩, ⟨.nested rfl rfl rfl, rfl⟩,
    fun names num requests => ?_, rfl⟩
  have only : namesIn [three, .string "det", three] = ["det"] := rfl
  rcases requests.place with ⟨texts, _⟩ | ⟨_, listed⟩ | ⟨empty, _⟩
  · rw [only] at texts
    subst texts
    cases requests with
    | named positional _ _ => cases positional
    | last positional _ _ => cases positional
    | nested positional _ _ => cases positional
    | keywords positional _ _ _ => cases positional
  · cases listed
  · cases empty

end Bsrs.Qs
