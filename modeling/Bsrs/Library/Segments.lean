import Mathlib.Data.List.Basic

/-! Texts cut at a separator: at its first place, and at every place. -/

namespace Bsrs.Library

variable {α : Type u} [DecidableEq α] {sep : α} {kept : List α → Bool}

/-- The text before the first separator, and the text behind it. -/
def cut (sep : α) : List α → Option (List α × List α)
  | [] => none
  | x :: rest =>
      if x = sep then some ([], rest)
      else (cut sep rest).map fun (before, after) => (x :: before, after)

theorem cut_clean {text : List α} (clean : sep ∉ text) : cut sep text = none := by
  induction text with
  | nil => rfl
  | cons head rest ih =>
      obtain ⟨other, later⟩ := not_or.mp (mt List.mem_cons.mpr clean)
      rw [cut, if_neg (Ne.symm other), ih later]
      rfl

theorem cut_append {before : List α} (clean : sep ∉ before) (after : List α) :
    cut sep (before ++ sep :: after) = some (before, after) := by
  induction before with
  | nil => exact if_pos rfl
  | cons head rest ih =>
      obtain ⟨other, later⟩ := not_or.mp (mt List.mem_cons.mpr clean)
      rw [List.cons_append, cut, if_neg (Ne.symm other), ih later]
      rfl

/-- A text has no separator, or a first one. -/
theorem cut_cases (sep : α) (text : List α) :
    (cut sep text = none ∧ sep ∉ text) ∨
      ∃ before after, cut sep text = some (before, after) ∧ sep ∉ before ∧
        text = before ++ sep :: after := by
  by_cases present : sep ∈ text
  · obtain ⟨before, after, whole, clean⟩ := List.eq_append_cons_of_mem present
    refine .inr ⟨before, after, ?_, clean, whole⟩
    rw [whole, cut_append clean]
  · exact .inl ⟨cut_clean present, present⟩

/-- The first place of a separator is one place. -/
theorem cut_unique {before after first last : List α} (clean : sep ∉ before) (proper : sep ∉ first)
    (same : before ++ sep :: after = first ++ sep :: last) : before = first ∧ after = last := by
  have both := cut_append clean after
  rw [same, cut_append proper, Option.some.injEq, Prod.mk.injEq] at both
  exact ⟨both.1.symm, both.2.symm⟩

/-- The pieces of a text between its separators, those not kept left out. -/
def segments (sep : α) (kept : List α → Bool) (text : List α) : List (List α) :=
  (text.splitOn sep).filter kept

theorem segments_append (before after : List α) :
    segments sep kept (before ++ sep :: after) =
      segments sep kept before ++ segments sep kept after := by
  rw [segments, List.splitOn_append_cons_self, List.filter_append]
  rfl

theorem segments_clean {text : List α} (clean : sep ∉ text) :
    segments sep kept text = [text].filter kept := by
  rw [segments, List.splitOn_eq_singleton clean]

theorem segments_nil (empty : kept [] = false) : segments sep kept [] = [] := by
  rw [segments_clean List.not_mem_nil, List.filter_singleton, empty]
  rfl

/-- What leads a text up to its first separator, if it is not kept, can go. -/
theorem segments_behind {before : List α} (clean : sep ∉ before) (dropped : kept before = false)
    (after : List α) : segments sep kept (before ++ sep :: after) = segments sep kept after := by
  rw [segments_append, segments_clean clean, List.filter_singleton, dropped]
  rfl

theorem kept_of_mem_segments {text piece : List α} (member : piece ∈ segments sep kept text) :
    kept piece = true :=
  (List.mem_filter.mp member).2

/-- The entries of a piece are entries of the text, and no separators. -/
theorem mem_of_mem_splitOn {text piece : List α} {x : α} (member : piece ∈ text.splitOn sep)
    (inside : x ∈ piece) : x ∈ text ∧ x ≠ sep := by
  induction text generalizing piece with
  | nil =>
      rw [List.splitOn_nil, List.mem_singleton] at member
      rw [member] at inside
      cases inside
  | cons head rest ih =>
      rw [List.splitOn_cons_eq_if_modifyHead] at member
      by_cases same : head = sep
      · rw [if_pos (beq_iff_eq.mpr same)] at member
        rcases List.mem_cons.mp member with rfl | later
        · cases inside
        · obtain ⟨there, other⟩ := ih later inside
          exact ⟨List.mem_cons_of_mem _ there, other⟩
      · rw [if_neg (mt beq_iff_eq.mp same)] at member
        obtain ⟨first, others, pieces⟩ := List.exists_cons_of_ne_nil (List.splitOn_ne_nil sep rest)
        rw [pieces, List.modifyHead_cons] at member
        have later : ∀ piece ∈ first :: others, x ∈ piece → x ∈ head :: rest ∧ x ≠ sep := by
          intro piece member inside
          obtain ⟨there, other⟩ := ih (by rwa [pieces]) inside
          exact ⟨List.mem_cons_of_mem _ there, other⟩
        rcases List.mem_cons.mp member with rfl | member
        · rcases List.mem_cons.mp inside with rfl | inside
          · exact ⟨List.mem_cons_self, same⟩
          · exact later first List.mem_cons_self inside
        · exact later piece (List.mem_cons_of_mem _ member) inside

theorem clean_of_mem_splitOn {text piece : List α} (member : piece ∈ text.splitOn sep) :
    sep ∉ piece :=
  fun inside => (mem_of_mem_splitOn member inside).2 rfl

theorem clean_of_mem_segments {text piece : List α} (member : piece ∈ segments sep kept text) :
    sep ∉ piece :=
  clean_of_mem_splitOn (List.mem_filter.mp member).1

theorem absent_of_mem_segments {text piece : List α} {x : α} (absent : x ∉ text)
    (member : piece ∈ segments sep kept text) : x ∉ piece :=
  fun inside => absent (mem_of_mem_splitOn (List.mem_filter.mp member).1 inside).1

/-- Kept pieces, put together around separators, are the pieces of the whole. -/
theorem segments_intercalate (empty : kept [] = false) {pieces : List (List α)}
    (clean : ∀ piece ∈ pieces, sep ∉ piece) (all : ∀ piece ∈ pieces, kept piece = true) :
    segments sep kept ([sep].intercalate pieces) = pieces := by
  cases pieces with
  | nil => exact segments_nil empty
  | cons first others =>
      rw [segments, List.splitOn_intercalate sep clean (List.cons_ne_nil _ _)]
      exact List.filter_eq_self.mpr all

omit [DecidableEq α] in
/-- What is put together begins with the first piece, and a separator or nothing is behind it. -/
theorem intercalate_cons (sep : α) (first : List α) (others : List (List α)) :
    ∃ behind, [sep].intercalate (first :: others) = first ++ behind ∧
      (behind = [] ∨ ∃ rest, behind = sep :: rest) := by
  cases others with
  | nil => exact ⟨[], by rw [List.intercalate_singleton, List.append_nil], .inl rfl⟩
  | cons second others =>
      refine ⟨sep :: [sep].intercalate (second :: others), ?_, .inr ⟨_, rfl⟩⟩
      rw [List.intercalate_cons_cons, List.append_assoc]
      rfl

omit [DecidableEq α] in
/-- The end of what is put together is the end of the last piece. -/
theorem intercalate_concat (sep : α) (front : List (List α)) (last : List α) :
    ∃ ahead, [sep].intercalate (front ++ [last]) = ahead ++ last := by
  induction front with
  | nil => exact ⟨[], List.intercalate_singleton⟩
  | cons first front ih =>
      obtain ⟨ahead, whole⟩ := ih
      refine ⟨first ++ [sep] ++ ahead, ?_⟩
      rw [List.cons_append, List.intercalate_cons_of_ne_nil (by simp), whole]
      simp only [List.append_assoc]

omit [DecidableEq α] in
theorem mem_intercalate {pieces : List (List α)} {x : α} (other : x ≠ sep)
    (member : x ∈ [sep].intercalate pieces) : ∃ piece ∈ pieces, x ∈ piece := by
  induction pieces with
  | nil => cases member
  | cons first others ih =>
      cases others with
      | nil =>
          rw [List.intercalate_singleton] at member
          exact ⟨first, List.mem_cons_self, member⟩
      | cons second others =>
          rw [List.intercalate_cons_cons, List.mem_append, List.mem_append,
            List.mem_singleton] at member
          rcases member with (here | here) | later
          · exact ⟨first, List.mem_cons_self, here⟩
          · exact absurd here other
          · obtain ⟨piece, among, inside⟩ := ih later
            exact ⟨piece, List.mem_cons_of_mem _ among, inside⟩

end Bsrs.Library
