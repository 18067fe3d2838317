import Bsrs.Engine.Assets

/-! Which drains of asset documents `pack_external_assets` accepts, and what it makes of them. -/

namespace Bsrs.Engine

open Bsrs.Library (Table)
open Bsrs.EventModel
open Bsrs.Core

/-! ## The documents of a drain -/

/-- What a document adds to the registry of its run. -/
def resourceEntry : Document → Option (String × String)
  | .streamResource doc => some (doc.uid, doc.dataKey)
  | _ => none

/-- The resources of a drain, each with its data key. -/
def resourceEntries (docs : List Document) : List (String × String) :=
  docs.filterMap resourceEntry

/-- The indices a datum spans. -/
def StreamDatum.width (doc : StreamDatum) : Nat :=
  doc.indices.stop - doc.indices.start

/-- The first width of a drain, by which the others go. -/
def firstWidth (docs : List Document) : Option Nat :=
  docs.findSome? fun doc =>
    match doc with
    | .streamDatum datum => some (StreamDatum.width datum)
    | _ => none

theorem firstWidth_nil : firstWidth [] = none := rfl

/-- A document as the run sends it out: a resource with the run's uid unless it has one, a datum with
its numbers. -/
def stamp (runStart : Uid) (nextSeq : Nat) : Document → Document
  | .streamResource doc => .streamResource { doc with runStart := some (doc.runStart.getD runStart) }
  | .streamDatum doc =>
      .streamDatum { doc with seqNums := ⟨nextSeq, (nextSeq + StreamDatum.width doc) % 2 ^ 64⟩ }
  | other => other

/-- A document with its run's uid and, where it is a datum, one number for each index from `nextSeq`. -/
def numbered (runStart : Uid) (nextSeq : Nat) : Document → Document
  | .streamResource doc => .streamResource { doc with runStart := some (doc.runStart.getD runStart) }
  | .streamDatum doc =>
      .streamDatum { doc with seqNums := ⟨nextSeq, nextSeq + StreamDatum.width doc⟩ }
  | other => other

/-- The numbers of every datum of the drain fit the counter. -/
def NumbersFit (nextSeq : Nat) (docs : List Document) : Prop :=
  ∀ datum, .streamDatum datum ∈ docs → nextSeq + StreamDatum.width datum < 2 ^ 64

/-- Where the numbers fit, the stamp wraps none of them. -/
theorem map_stamp {runStart : Uid} {nextSeq : Nat} {docs : List Document} (fits : NumbersFit nextSeq docs) :
    docs.map (stamp runStart nextSeq) = docs.map (numbered runStart nextSeq) := by
  apply List.map_congr_left
  intro doc among
  cases doc with
  | streamDatum datum =>
      dsimp only [stamp, numbered]
      rw [Nat.mod_eq_of_lt (fits datum among)]
  | _ => rfl

/-- The documents of a drain that the loop lets pass: new resources of the descriptor's external keys,
and unnumbered datums of one width, each behind its resource. -/
structure InOrder (external : List String) (registry : Table String String) (width : Option Nat)
    (docs : List Document) : Prop where
  resources : ∀ before resource after, docs = before ++ .streamResource resource :: after →
    resource.uid ∉ registry.insertAll (resourceEntries before) ∧ resource.dataKey ∈ external
  datums : ∀ before datum after, docs = before ++ .streamDatum datum :: after →
    datum.seqNums = ⟨0, 0⟩ ∧
      datum.streamResource ∈ registry.insertAll (resourceEntries before) ∧
        ∀ first ∈ width.or (firstWidth before), first = StreamDatum.width datum

/-- Where a drain has a datum at all, the keys of its datums' resources are the external keys. -/
def Covers (external : List String) (registry : Table String String) (docs : List Document) : Prop :=
  (∃ datum, .streamDatum datum ∈ docs) → ∀ key, key ∈ external ↔
    ∃ datum, .streamDatum datum ∈ docs ∧
      (registry.insertAll (resourceEntries docs)).lookup datum.streamResource = some key

/-! ## One document -/

namespace Packing

variable {packing next : Packing} {runStart : Uid} {nextSeq : Nat} {external : List String}
  {doc stamped : Document}

/-- The data keys of the datums so far, with the one of a datum. -/
def receivedWith (packing : Packing) : Document → List String
  | .streamDatum datum =>
      (packing.registry.lookup datum.streamResource).elim packing.received packing.received.insert
  | _ => packing.received

/-- The accounts past a document that is let pass. -/
def past (packing : Packing) (doc : Document) : Packing where
  registry := packing.registry.insertAll (resourceEntries [doc])
  received := packing.receivedWith doc
  width := packing.width.or (firstWidth [doc])

/-- What the loop checks of one document. -/
def Passes (external : List String) (packing : Packing) : Document → Prop
  | .streamResource doc => doc.uid ∉ packing.registry ∧ doc.dataKey ∈ external
  | .streamDatum doc => doc.seqNums = ⟨0, 0⟩ ∧ doc.streamResource ∈ packing.registry ∧
      ∀ first ∈ packing.width, first = StreamDatum.width doc
  | _ => True

private theorem past_resource (packing : Packing) (doc : StreamResource) :
    packing.past (.streamResource doc) =
      { packing with registry := packing.registry.insert doc.uid doc.dataKey } := by
  unfold past
  rw [show firstWidth [.streamResource doc] = none from rfl, Option.or_none]
  rfl

private theorem past_datum {packing : Packing} {doc : StreamDatum} {dataKey : String}
    (found : packing.registry.lookup doc.streamResource = some dataKey) :
    packing.past (.streamDatum doc) =
      { packing with
        received := packing.received.insert dataKey
        width := packing.width.or (some (StreamDatum.width doc)) } := by
  have received : packing.receivedWith (.streamDatum doc) = packing.received.insert dataKey := by
    unfold receivedWith
    dsimp only
    rw [found]
    rfl
  unfold past
  rw [received]
  rfl

private theorem past_plain {packing : Packing} {doc : Document} (entries : resourceEntries [doc] = [])
    (width : firstWidth [doc] = none) (received : packing.receivedWith doc = packing.received) :
    packing.past doc = packing := by
  unfold past
  rw [entries, width, received, Option.or_none]
  rfl

theorem add_iff : packing.add runStart nextSeq external doc = .ok (stamped, next) ↔
    packing.Passes external doc ∧ stamped = stamp runStart nextSeq doc ∧ next = packing.past doc := by
  cases doc with
  | streamResource doc =>
      rw [past_resource, add]
      by_cases new : doc.uid ∈ packing.registry
      · rw [if_pos (AList.lookup_isSome.mpr new)]
        exact ⟨nofun, fun passes => absurd new passes.1.1⟩
      · rw [if_neg (fun found => new (AList.lookup_isSome.mp found))]
        by_cases known : doc.dataKey ∈ external
        · rw [if_neg (not_not.mpr known), Except.ok.injEq, Prod.mk.injEq, eq_comm (b := stamped),
            eq_comm (b := next)]
          exact (and_iff_right ⟨new, known⟩).symm
        · rw [if_pos known]
          exact ⟨nofun, fun passes => absurd passes.1.2 known⟩
  | streamDatum doc =>
      by_cases unnumbered : doc.seqNums = ⟨0, 0⟩
      · have zero : ¬(doc.seqNums.start ≠ 0 ∨ doc.seqNums.stop ≠ 0) := by simp [unnumbered]
        rw [add, if_neg zero]
        cases found : packing.registry.lookup doc.streamResource with
        | none =>
            exact ⟨nofun, fun passes => absurd passes.1.2.1 (AList.lookup_eq_none.mp found)⟩
        | some dataKey =>
            have registered : doc.streamResource ∈ packing.registry := by
              rw [← AList.lookup_isSome, found]
              rfl
            rw [past_datum found]
            cases held : packing.width with
            | none =>
                dsimp only
                rw [Except.ok.injEq, Prod.mk.injEq, eq_comm (b := stamped), eq_comm (b := next)]
                exact (and_iff_right ⟨unnumbered, registered, by simp [held]⟩).symm
            | some first =>
                dsimp only
                by_cases same : first = doc.indices.stop - doc.indices.start
                · rw [if_neg (not_not.mpr same), Except.ok.injEq, Prod.mk.injEq,
                    eq_comm (b := stamped), eq_comm (b := next)]
                  exact (and_iff_right ⟨unnumbered, registered, by simp [held, same, StreamDatum.width]⟩).symm
                · rw [if_pos same]
                  exact ⟨nofun, fun passes => absurd (passes.1.2.2 first held) same⟩
      · have nonzero : doc.seqNums.start ≠ 0 ∨ doc.seqNums.stop ≠ 0 := by
          by_contra both
          cases range : doc.seqNums with
          | mk start stop =>
              simp only [range, ne_eq, not_or, not_not] at both
              rw [range, both.1, both.2] at unnumbered
              exact unnumbered rfl
        rw [add, if_pos nonzero]
        exact ⟨nofun, fun passes => absurd passes.1.1 unnumbered⟩
  | _ =>
      rw [past_plain rfl rfl rfl, add, Except.ok.injEq, Prod.mk.injEq, eq_comm (b := stamped),
        eq_comm (b := next)]
      · exact (and_iff_right trivial).symm
      all_goals nofun

theorem past_registry (packing : Packing) (doc : Document) (docs : List Document) :
    (packing.past doc).registry.insertAll (resourceEntries docs) =
      packing.registry.insertAll (resourceEntries (doc :: docs)) := by
  have split : resourceEntries ([doc] ++ docs) = resourceEntries [doc] ++ resourceEntries docs :=
    List.filterMap_append
  rw [List.singleton_append] at split
  rw [split, Table.insertAll_append]
  rfl

theorem past_width (packing : Packing) (doc : Document) (docs : List Document) :
    (packing.past doc).width.or (firstWidth docs) = packing.width.or (firstWidth (doc :: docs)) := by
  have split : firstWidth ([doc] ++ docs) = (firstWidth [doc]).or (firstWidth docs) :=
    List.findSome?_append
  rw [List.singleton_append] at split
  rw [split, ← Option.or_assoc]
  rfl

/-- A drain is in order where its first document passes and the others are in order behind it. -/
theorem inOrder_cons {docs : List Document} :
    InOrder external packing.registry packing.width (doc :: docs) ↔
      packing.Passes external doc ∧
        InOrder external (packing.past doc).registry (packing.past doc).width docs := by
  constructor
  · intro order
    refine ⟨?_, ⟨?_, ?_⟩⟩
    · cases doc with
      | streamResource doc => exact order.resources [] doc docs rfl
      | streamDatum doc =>
          obtain ⟨unnumbered, registered, width⟩ := order.datums [] doc docs rfl
          rw [firstWidth_nil, Option.or_none] at width
          exact ⟨unnumbered, registered, width⟩
      | _ => trivial
    · intro before resource after split
      rw [past_registry]
      exact order.resources (doc :: before) resource after (congrArg (List.cons doc) split)
    · intro before datum after split
      rw [past_registry, past_width]
      exact order.datums (doc :: before) datum after (congrArg (List.cons doc) split)
  · rintro ⟨passes, order⟩
    constructor
    · intro before resource after split
      cases before with
      | nil =>
          cases split
          exact passes
      | cons first before =>
          cases split
          rw [← past_registry]
          exact order.resources before resource after rfl
    · intro before datum after split
      cases before with
      | nil =>
          cases split
          obtain ⟨unnumbered, registered, width⟩ := passes
          rw [firstWidth_nil, Option.or_none]
          exact ⟨unnumbered, registered, width⟩
      | cons first before =>
          cases split
          rw [← past_registry, ← past_width]
          exact order.datums before datum after rfl

/-! ## The whole drain -/

theorem addAll_iff {docs stamped : List Document} {packing reached : Packing} :
    packing.addAll runStart nextSeq external docs = (.ok stamped, reached) ↔
      InOrder external packing.registry packing.width docs ∧
        stamped = docs.map (stamp runStart nextSeq) ∧ reached = docs.foldl past packing := by
  induction docs generalizing packing stamped with
  | nil =>
      have order : InOrder external packing.registry packing.width [] :=
        ⟨fun before => by simp, fun before => by simp⟩
      rw [addAll, Prod.mk.injEq, Except.ok.injEq, eq_comm (b := stamped), eq_comm (b := reached)]
      exact (and_iff_right order).symm
  | cons doc rest ih =>
      rw [inOrder_cons]
      constructor
      · intro ran
        unfold addAll at ran
        split at ran
        · cases ran
        · rename_i one next added
          obtain ⟨passes, rfl, rfl⟩ := add_iff.mp added
          split at ran
          · cases ran
          · rename_i others left later
            cases ran
            obtain ⟨order, rfl, rfl⟩ := ih.mp later
            exact ⟨⟨passes, order⟩, rfl, rfl⟩
      · rintro ⟨⟨passes, order⟩, rfl, rfl⟩
        have first : packing.add runStart nextSeq external doc =
            .ok (stamp runStart nextSeq doc, packing.past doc) := add_iff.mpr ⟨passes, rfl, rfl⟩
        have later := ih.mpr ⟨order, rfl, rfl⟩
        unfold addAll
        rw [first]
        dsimp only
        rw [later]
        rfl

theorem foldl_past_registry (packing : Packing) (docs : List Document) :
    (docs.foldl past packing).registry = packing.registry.insertAll (resourceEntries docs) := by
  induction docs generalizing packing with
  | nil => rfl
  | cons doc rest ih => rw [List.foldl_cons, ih, past_registry]

theorem foldl_past_width (packing : Packing) (docs : List Document) :
    (docs.foldl past packing).width = packing.width.or (firstWidth docs) := by
  induction docs generalizing packing with
  | nil => exact (Option.or_none ..).symm
  | cons doc rest ih => rw [List.foldl_cons, ih, past_width]

/-- A drain in order registers no resource again. -/
theorem notMem_of_inOrder {registry : Table String String} {width : Option Nat} {docs : List Document}
    (order : InOrder external registry width docs) {uid : String} (registered : uid ∈ registry) :
    uid ∉ (resourceEntries docs).map Prod.fst := by
  intro again
  obtain ⟨entry, among, rfl⟩ := List.mem_map.mp again
  obtain ⟨doc, member, made⟩ := List.mem_filterMap.mp among
  cases doc with
  | streamResource resource =>
      cases made
      obtain ⟨before, after, rfl⟩ := List.append_of_mem member
      exact (order.resources before resource after rfl).1 (Table.mem_insertAll.mpr (.inl registered))
  | _ => cases made

theorem received_nodup {packing : Packing} (distinct : packing.received.Nodup) (docs : List Document) :
    (docs.foldl past packing).received.Nodup := by
  induction docs generalizing packing with
  | nil => exact distinct
  | cons doc rest ih =>
      apply ih
      cases doc with
      | streamDatum datum =>
          cases found : packing.registry.lookup datum.streamResource with
          | none => simpa [past, receivedWith, found] using distinct
          | some dataKey => simpa [past, receivedWith, found] using distinct.insert
      | _ => exact distinct

/-- What the loop has received are the data keys of the resources its datums name. -/
theorem mem_received {packing : Packing} {docs : List Document} {key : String}
    (order : InOrder external packing.registry packing.width docs) :
    key ∈ (docs.foldl past packing).received ↔ key ∈ packing.received ∨
      ∃ datum, .streamDatum datum ∈ docs ∧
        (packing.registry.insertAll (resourceEntries docs)).lookup datum.streamResource = some key := by
  induction docs generalizing packing with
  | nil => simp
  | cons doc rest ih =>
      obtain ⟨passes, later⟩ := inOrder_cons.mp order
      rw [List.foldl_cons, ih later, past_registry]
      cases doc with
      | streamDatum datum =>
          obtain ⟨dataKey, found⟩ := Option.isSome_iff_exists.mp
            (AList.lookup_isSome.mpr passes.2.1)
          have stays : (packing.registry.insertAll
              (resourceEntries (.streamDatum datum :: rest))).lookup datum.streamResource =
                some dataKey :=
            (Table.lookup_insertAll_of_notMem (notMem_of_inOrder order passes.2.1)).trans found
          rw [past_datum found, List.mem_insert_iff]
          constructor
          · rintro ((rfl | before) | ⟨other, among, names⟩)
            · exact .inr ⟨datum, List.mem_cons_self .., stays⟩
            · exact .inl before
            · exact .inr ⟨other, List.mem_cons_of_mem _ among, names⟩
          · rintro (before | ⟨other, among, names⟩)
            · exact .inl (.inr before)
            · rcases List.mem_cons.mp among with same | further
              · cases same
                exact .inl (.inl (Option.some.inj (names.symm.trans stays)))
              · exact .inr ⟨other, further, names⟩
      | _ => simp [past, receivedWith]

/-- What was registered stays so, wherever the loop stops. -/
theorem mem_addAll {uid : String} {docs : List Document} :
    ∀ {packing : Packing}, uid ∈ packing.registry →
      uid ∈ (packing.addAll runStart nextSeq external docs).2.registry := by
  induction docs with
  | nil => exact fun registered => registered
  | cons doc rest ih =>
      intro packing registered
      unfold addAll
      split
      · exact registered
      · rename_i one next added
        obtain ⟨-, -, rfl⟩ := add_iff.mp added
        have kept : uid ∈ (packing.past doc).registry := Table.mem_insertAll.mpr (.inl registered)
        have later := ih kept
        split
        · rename_i ran
          rwa [ran] at later
        · rename_i ran
          rwa [ran] at later

end Packing

/-- Two lists without repeats are of one length and one inside the other where they hold the same. -/
private theorem covered_iff {external received : List String} (distinct : external.Nodup)
    (once : received.Nodup) :
    (external.length = received.length ∧ ∀ key ∈ external, key ∈ received) ↔
      ∀ key, key ∈ external ↔ key ∈ received := by
  constructor
  · rintro ⟨sized, inside⟩
    have whole : external.Perm received :=
      (List.subperm_of_subset distinct inside).perm_of_length_le sized.ge
    exact fun _ => whole.mem_iff
  · intro same
    have whole : external.Perm received := (List.perm_ext_iff_of_nodup distinct once).mpr same
    exact ⟨whole.length_eq, fun key => (same key).mp⟩

/-- `pack_external_assets` accepts the drains that are in order and cover the external keys, stamps
their documents one by one, and registers their resources; the numbers are those of the indices where
they fit the counter. -/
theorem packExternalAssets_iff {docs stamped : List Document} {runStart : Uid} {nextSeq width : Nat}
    {external : List String} {registry reached : Table String String} (distinct : external.Nodup)
    (fits : NumbersFit nextSeq docs) :
    packExternalAssets docs runStart nextSeq external registry = (.ok (stamped, width), reached) ↔
      (InOrder external registry none docs ∧ Covers external registry docs) ∧
        stamped = docs.map (numbered runStart nextSeq) ∧ width = (firstWidth docs).getD 0 ∧
          reached = registry.insertAll (resourceEntries docs) := by
  rw [← map_stamp fits]
  let fresh : Packing := ⟨registry, [], none⟩
  have gone : ∀ {out : List Document} {packing : Packing},
      fresh.addAll runStart nextSeq external docs = (.ok out, packing) ↔
        InOrder external registry none docs ∧ out = docs.map (stamp runStart nextSeq) ∧
          packing = docs.foldl Packing.past fresh := Packing.addAll_iff
  have covers : InOrder external registry none docs →
      ((docs.foldl Packing.past fresh).received ≠ [] ∧
        (external.length ≠ (docs.foldl Packing.past fresh).received.length ∨
          ¬ ∀ key ∈ external, key ∈ (docs.foldl Packing.past fresh).received) ↔
        ¬ Covers external registry docs) := by
    intro order
    have among : ∀ key, key ∈ (docs.foldl Packing.past fresh).received ↔
        ∃ datum, .streamDatum datum ∈ docs ∧
          (registry.insertAll (resourceEntries docs)).lookup datum.streamResource = some key := by
      intro key
      rw [Packing.mem_received order]
      exact or_iff_right List.not_mem_nil
    have some : (docs.foldl Packing.past fresh).received ≠ [] ↔
        ∃ datum, .streamDatum datum ∈ docs := by
      constructor
      · intro received
        obtain ⟨key, member⟩ := List.exists_mem_of_ne_nil _ received
        obtain ⟨datum, inside, -⟩ := (among key).mp member
        exact ⟨datum, inside⟩
      · rintro ⟨datum, inside⟩
        obtain ⟨before, after, rfl⟩ := List.append_of_mem inside
        have registered : datum.streamResource ∈
            registry.insertAll (resourceEntries (before ++ .streamDatum datum :: after)) := by
          have split : resourceEntries (before ++ .streamDatum datum :: after) =
              resourceEntries before ++ resourceEntries after := List.filterMap_append
          rw [split, Table.insertAll_append, Table.mem_insertAll]
          exact .inl (order.datums before datum after rfl).2.1
        obtain ⟨key, found⟩ := Option.isSome_iff_exists.mp (AList.lookup_isSome.mpr registered)
        exact List.ne_nil_of_mem ((among key).mpr ⟨datum, inside, found⟩)
    have once : (docs.foldl Packing.past fresh).received.Nodup :=
      Packing.received_nodup List.nodup_nil docs
    rw [Covers, some, Classical.not_imp, ← not_and_or, covered_iff distinct once]
    simp only [among]
  unfold packExternalAssets
  constructor
  · intro packed
    split at packed
    · cases packed
    · rename_i out packing ran
      obtain ⟨order, rfl, rfl⟩ := gone.mp ran
      split at packed
      · cases packed
      · rename_i uncovered
        rw [covers order, not_not] at uncovered
        cases packed
        refine ⟨⟨order, uncovered⟩, rfl, ?_, Packing.foldl_past_registry _ _⟩
        rw [Packing.foldl_past_width, Option.none_or]
  · rintro ⟨⟨order, covered⟩, rfl, rfl, rfl⟩
    have ran := gone.mpr ⟨order, rfl, rfl⟩
    rw [ran]
    dsimp only
    rw [if_neg (fun uncovered => (covers order).mp uncovered covered), Packing.foldl_past_width,
      Packing.foldl_past_registry, Option.none_or]

/-- Two files and three frames of each, the second file registered by an earlier drain. -/
private def frameDrain : List Document :=
  [.streamResource ⟨"file", "img", none⟩, .streamDatum ⟨"frames", "file", 0, ⟨4, 7⟩, ⟨0, 0⟩⟩,
    .streamDatum ⟨"sums", "table", 0, ⟨0, 3⟩, ⟨0, 0⟩⟩]

theorem packExternalAssets_iff_frameDrain :
    (InOrder ["img", "sum"] (.insert "table" "sum" ∅) none frameDrain ∧
        Covers ["img", "sum"] (.insert "table" "sum" ∅) frameDrain) ∧
      (packExternalAssets frameDrain 7 3 ["img", "sum"] (.insert "table" "sum" ∅)).1 = .ok
        ([.streamResource ⟨"file", "img", some 7⟩, .streamDatum ⟨"frames", "file", 0, ⟨4, 7⟩, ⟨3, 6⟩⟩,
          .streamDatum ⟨"sums", "table", 0, ⟨0, 3⟩, ⟨3, 6⟩⟩], 3) := by
  have accepted : (packExternalAssets frameDrain 7 3 ["img", "sum"] (.insert "table" "sum" ∅)).1 = .ok
      ([.streamResource ⟨"file", "img", some 7⟩, .streamDatum ⟨"frames", "file", 0, ⟨4, 7⟩, ⟨3, 6⟩⟩,
        .streamDatum ⟨"sums", "table", 0, ⟨0, 3⟩, ⟨3, 6⟩⟩], 3) := by
    decide
  have fits : NumbersFit 3 frameDrain := by
    intro datum among
    simp only [frameDrain, List.mem_cons, reduceCtorEq, Document.streamDatum.injEq, List.not_mem_nil,
      false_or, or_false] at among
    rcases among with rfl | rfl <;> decide
  exact ⟨((packExternalAssets_iff (by decide) fits).mp (Prod.ext accepted rfl)).1, accepted⟩

/-- An accepted drain is in order, whatever the external keys. -/
theorem inOrder_of_packed {docs stamped : List Document} {runStart : Uid} {nextSeq width : Nat}
    {external : List String} {registry reached : Table String String}
    (packed : packExternalAssets docs runStart nextSeq external registry =
      (.ok (stamped, width), reached)) :
    InOrder external registry none docs ∧ stamped = docs.map (stamp runStart nextSeq) ∧
      reached = registry.insertAll (resourceEntries docs) := by
  unfold packExternalAssets at packed
  split at packed
  · cases packed
  · rename_i out packing ran
    obtain ⟨order, rfl, rfl⟩ := Packing.addAll_iff.mp ran
    split at packed
    · cases packed
    · cases packed
      exact ⟨order, rfl, Packing.foldl_past_registry _ _⟩

/-- Whatever becomes of a drain, what was registered stays registered. -/
theorem mem_packed {docs : List Document} {runStart : Uid} {nextSeq : Nat} {external : List String}
    {registry : Table String String} {uid : String} (registered : uid ∈ registry) :
    uid ∈ (packExternalAssets docs runStart nextSeq external registry).2 := by
  have kept : uid ∈ (Packing.addAll ⟨registry, [], none⟩ runStart nextSeq external docs).2.registry :=
    Packing.mem_addAll registered
  unfold packExternalAssets
  split
  · rename_i ran
    rwa [ran] at kept
  · rename_i ran
    rw [ran] at kept
    split
    · exact kept
    · exact kept

end Bsrs.Engine
