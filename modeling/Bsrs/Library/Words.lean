import Mathlib.Data.List.Basic

namespace Bsrs.Library

variable {α : Type}

/-- A maximal run of letters, or something between the runs. -/
inductive Piece (α : Type) where
  | word (letters : List α)
  | mark (item : α)
deriving DecidableEq, Repr

namespace Piece

def text : Piece α → List α
  | .word letters => letters
  | .mark item => [item]

def word? : Piece α → Option (List α)
  | .word letters => some letters
  | .mark _ => none

/-- Another word in the place of each word. -/
def rename (change : List α → List α) : Piece α → Piece α
  | .word letters => .word (change letters)
  | .mark item => .mark item

end Piece

/-- What the pieces spell. -/
def spelled (pieces : List (Piece α)) : List α := pieces.flatMap Piece.text

def wordsOf (pieces : List (Piece α)) : List (List α) := pieces.filterMap Piece.word?

@[simp]
theorem wordsOf_word (letters : List α) (rest : List (Piece α)) :
    wordsOf (.word letters :: rest) = letters :: wordsOf rest := rfl

@[simp]
theorem wordsOf_mark (item : α) (rest : List (Piece α)) :
    wordsOf (.mark item :: rest) = wordsOf rest := rfl

section

variable (letter : α → Bool)

/-- A word: letters only, and at least one. -/
def IsWord (letters : List α) : Prop := letters ≠ [] ∧ ∀ item ∈ letters, letter item = true

def pieces : List α → List (Piece α)
  | [] => []
  | item :: rest =>
      if letter item then
        match pieces rest with
        | .word letters :: others => .word (item :: letters) :: others
        | others => .word [item] :: others
      else .mark item :: pieces rest

/-- Pieces as a text falls into them: no word stands right before another. -/
def Proper : List (Piece α) → Prop
  | [] => True
  | .word letters :: rest =>
      IsWord letter letters ∧ (∀ next others, rest ≠ .word next :: others) ∧ Proper rest
  | .mark item :: rest => letter item = false ∧ Proper rest

end

variable {letter : α → Bool}

@[simp]
theorem spelled_cons (piece : Piece α) (rest : List (Piece α)) :
    spelled (piece :: rest) = piece.text ++ spelled rest := List.flatMap_cons

theorem pieces_mark {item : α} (between : letter item = false) (rest : List α) :
    pieces letter (item :: rest) = .mark item :: pieces letter rest := by
  simp [pieces, between]

/-- Letters before a text that does not go on with one are a word of their own. -/
theorem pieces_append {letters : List α} (word : IsWord letter letters) {rest : List α}
    (ends : ∀ next others, pieces letter rest ≠ .word next :: others) :
    pieces letter (letters ++ rest) = .word letters :: pieces letter rest := by
  obtain ⟨some, each⟩ := word
  induction letters with
  | nil => exact absurd rfl some
  | cons first others ih =>
      have here : letter first = true := each first List.mem_cons_self
      cases others with
      | nil =>
          rw [List.singleton_append, pieces, if_pos here]
          split
          · rename_i next more same
            exact absurd same (ends next more)
          · rfl
      | cons second more =>
          have later := ih (List.cons_ne_nil _ _) fun item member =>
            each item (List.mem_cons_of_mem _ member)
          rw [List.cons_append, pieces, if_pos here, later]

theorem pieces_word {letters : List α} (word : IsWord letter letters) :
    pieces letter letters = [.word letters] := by
  have ends : ∀ next others, pieces letter [] ≠ .word next :: others := nofun
  have whole := pieces_append word ends
  rwa [List.append_nil] at whole

theorem spelled_pieces (letter : α → Bool) (text : List α) : spelled (pieces letter text) = text := by
  induction text with
  | nil => rfl
  | cons item rest ih =>
      rw [pieces]
      split
      · split
        · rename_i letters others same
          rw [same] at ih
          simpa [Piece.text] using ih
        · simpa [Piece.text] using ih
      · simpa [Piece.text] using ih

theorem proper_pieces (letter : α → Bool) (text : List α) : Proper letter (pieces letter text) := by
  induction text with
  | nil => trivial
  | cons item rest ih =>
      rw [pieces]
      split
      · rename_i here
        split
        · rename_i letters others same
          rw [same] at ih
          obtain ⟨⟨_, each⟩, apart, later⟩ := ih
          refine ⟨⟨List.cons_ne_nil _ _, ?_⟩, apart, later⟩
          intro other member
          cases List.mem_cons.mp member with
          | inl first => exact first ▸ here
          | inr behind => exact each other behind
        · rename_i apart
          exact ⟨⟨List.cons_ne_nil _ _, by simpa using here⟩, apart, ih⟩
      · rename_i between
        exact ⟨by simpa using between, ih⟩

/-- Pieces that a text can fall into are what it falls into. -/
theorem pieces_spelled {ps : List (Piece α)} (proper : Proper letter ps) :
    pieces letter (spelled ps) = ps := by
  induction ps with
  | nil => rfl
  | cons piece rest ih =>
      cases piece with
      | word letters =>
          obtain ⟨word, apart, later⟩ := proper
          have tail := ih later
          have ends : ∀ next others, pieces letter (spelled rest) ≠ .word next :: others := by
            rw [tail]
            exact apart
          rw [spelled_cons, Piece.text, pieces_append word ends, tail]
      | mark item =>
          rw [spelled_cons, Piece.text, List.singleton_append, pieces_mark proper.1, ih proper.2]

theorem pieces_concat (text : List α) {item : α} (between : letter item = false) :
    pieces letter (text ++ [item]) = pieces letter text ++ [.mark item] := by
  induction text with
  | nil => simp [pieces, between]
  | cons first rest ih =>
      rw [List.cons_append, pieces, pieces, ih]
      cases pieces letter rest with
      | nil => split <;> rfl
      | cons piece others => cases piece <;> split <;> rfl

/-- Words for words, the pieces stay apart. -/
theorem Proper.rename {change : List α → List α} {ps : List (Piece α)} (proper : Proper letter ps)
    (words : ∀ letters ∈ wordsOf ps, IsWord letter (change letters)) :
    Proper letter (ps.map (Piece.rename change)) := by
  induction ps with
  | nil => trivial
  | cons piece rest ih =>
      cases piece with
      | word letters =>
          obtain ⟨_, apart, later⟩ := proper
          refine ⟨words letters List.mem_cons_self, ?_, ih later fun other member =>
            words other (List.mem_cons_of_mem _ member)⟩
          intro next others same
          cases rest with
          | nil => cases same
          | cons second more =>
              cases second with
              | word behind => exact apart behind more rfl
              | mark item => cases same
      | mark item => exact ⟨proper.1, ih proper.2 words⟩

theorem Proper.isWord {ps : List (Piece α)} (proper : Proper letter ps) :
    ∀ letters ∈ wordsOf ps, IsWord letter letters := by
  induction ps with
  | nil => exact fun _ member => nomatch member
  | cons piece rest ih =>
      cases piece with
      | word first =>
          obtain ⟨word, _, later⟩ := proper
          intro letters member
          cases List.mem_cons.mp member with
          | inl here => exact here ▸ word
          | inr behind => exact ih later letters behind
      | mark item => exact ih proper.2

theorem wordsOf_rename (change : List α → List α) (ps : List (Piece α)) :
    wordsOf (ps.map (Piece.rename change)) = (wordsOf ps).map change := by
  induction ps with
  | nil => rfl
  | cons piece rest ih =>
      cases piece with
      | word letters => exact congrArg (change letters :: ·) ih
      | mark item => exact ih

theorem rename_id {change : List α → List α} {ps : List (Piece α)}
    (same : ∀ letters ∈ wordsOf ps, change letters = letters) : ps.map (Piece.rename change) = ps := by
  induction ps with
  | nil => rfl
  | cons piece rest ih =>
      cases piece with
      | word first =>
          have here := same first List.mem_cons_self
          rw [List.map_cons, ih fun other member => same other (List.mem_cons_of_mem _ member),
            Piece.rename, here]
      | mark item => rw [List.map_cons, ih same, Piece.rename]

/-- Where words of the same lengths spell the same text, they are the same words. -/
theorem rename_same {change : List α → List α} {ps : List (Piece α)}
    (lengths : ∀ letters ∈ wordsOf ps, (change letters).length = letters.length)
    (same : spelled (ps.map (Piece.rename change)) = spelled ps) :
    ∀ letters ∈ wordsOf ps, change letters = letters := by
  induction ps with
  | nil => exact fun _ member => nomatch member
  | cons piece rest ih =>
      rw [List.map_cons, spelled_cons, spelled_cons] at same
      cases piece with
      | word first =>
          have here := lengths first List.mem_cons_self
          obtain ⟨equal, later⟩ := List.append_inj same here
          intro letters member
          cases List.mem_cons.mp member with
          | inl found => exact found ▸ equal
          | inr behind =>
              exact ih (fun other among => lengths other (List.mem_cons_of_mem _ among)) later letters behind
      | mark item => exact ih lengths (List.append_inj same rfl).2

theorem length_rename [DecidableEq α] (old new : List α) (ps : List (Piece α)) :
    (spelled (ps.map (Piece.rename fun letters => if letters = old then new else letters))).length +
        (wordsOf ps).count old * old.length =
      (spelled ps).length + (wordsOf ps).count old * new.length := by
  induction ps with
  | nil => simp [wordsOf]
  | cons piece rest ih =>
      rw [List.map_cons, spelled_cons, spelled_cons, List.length_append, List.length_append]
      cases piece with
      | mark item =>
          simp only [Piece.rename, Piece.text, wordsOf_mark]
          omega
      | word letters =>
          simp only [Piece.rename, Piece.text, wordsOf_word, List.count_cons, beq_iff_eq]
          split
          · rename_i found
            subst found
            rw [Nat.add_mul, Nat.add_mul]
            omega
          · rw [Nat.add_zero]
            omega

/-- Putting another word in the place of one word changes a text just when the word is in it. -/
theorem spelled_replace_iff [DecidableEq α] {old new : List α} (other : new ≠ old)
    (ps : List (Piece α)) :
    spelled (ps.map (Piece.rename fun letters => if letters = old then new else letters)) = spelled ps ↔
      old ∉ wordsOf ps := by
  constructor
  · intro same member
    have counted := length_rename old new ps
    rw [same] at counted
    have some : 0 < (wordsOf ps).count old := List.count_pos_iff.mpr member
    have lengths : new.length = old.length := by
      apply Nat.eq_of_mul_eq_mul_left some
      omega
    have equal := rename_same (fun letters _ => by split <;> simp_all) same old member
    rw [if_pos rfl] at equal
    exact other equal
  · intro absent
    congr 1
    apply rename_id
    intro letters member
    rw [if_neg]
    rintro rfl
    exact absent member

/-- The word the pieces begin with, and the pieces after it. -/
def leading : List (Piece α) → List α × List (Piece α)
  | .word letters :: rest => (letters, rest)
  | rest => ([], rest)

theorem filter_leading {ps : List (Piece α)} (proper : Proper letter ps) {tail : List (List α)}
    (words : tail.filter (fun letters => !letters.isEmpty) = wordsOf (leading ps).2) :
    ((leading ps).1 :: tail).filter (fun letters => !letters.isEmpty) = wordsOf ps := by
  cases ps with
  | nil => simpa [leading] using words
  | cons piece rest =>
      cases piece with
      | word letters =>
          have some : letters.isEmpty = false := by simpa using proper.1.1
          simpa [leading, List.filter_cons, some] using words
      | mark item => simpa [leading, List.filter_cons] using words

theorem splitOnP_leading (letter : α → Bool) (text : List α) :
    ∃ tail, (text.splitOnP fun item => !letter item) = (leading (pieces letter text)).1 :: tail ∧
      tail.filter (fun letters => !letters.isEmpty) = wordsOf (leading (pieces letter text)).2 := by
  induction text with
  | nil => exact ⟨[], rfl, rfl⟩
  | cons item rest ih =>
      obtain ⟨tail, split, words⟩ := ih
      rw [List.splitOnP_cons_eq_if_modifyHead, split, pieces]
      by_cases here : letter item = true
      · rw [if_pos here, if_neg (by simp [here])]
        refine ⟨tail, ?_⟩
        split
        · rename_i letters others same
          rw [same] at words
          simpa [leading, same] using words
        · rename_i apart
          have none : (leading (pieces letter rest)) = ([], pieces letter rest) := by
            unfold leading
            split
            · rename_i letters others same
              exact absurd same (apart letters others)
            · rfl
          rw [none] at words ⊢
          exact ⟨rfl, words⟩
      · rw [if_neg here, if_pos (by simp [here])]
        refine ⟨(leading (pieces letter rest)).1 :: tail, rfl, ?_⟩
        exact filter_leading (proper_pieces letter rest) words

/-- Splitting where there is no letter, and dropping what is empty, gives the words. -/
theorem splitOnP_words (letter : α → Bool) (text : List α) :
    (text.splitOnP fun item => !letter item).filter (fun letters => !letters.isEmpty) =
      wordsOf (pieces letter text) := by
  obtain ⟨tail, split, words⟩ := splitOnP_leading letter text
  rw [split]
  exact filter_leading (proper_pieces letter text) words

end Bsrs.Library
