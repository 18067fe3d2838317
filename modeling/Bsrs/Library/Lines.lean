import Mathlib.Data.List.Basic
import Mathlib.Data.List.TakeDrop

/-! Texts of lines: cut at their line feeds, and read from the end through a window. -/

namespace Bsrs.Library

def newline : UInt8 := 10

def carriageReturn : UInt8 := 13

/-- The lines of a text, without their line ends; a last line need not have one. -/
def lines : List UInt8 → List (List UInt8)
  | [] => []
  | byte :: rest =>
      if byte = newline then [] :: lines rest
      else if byte = carriageReturn ∧ rest.head? = some newline then lines rest
      else
        match lines rest with
        | [] => [[byte]]
        | line :: more => (byte :: line) :: more

theorem lines_cons (byte : UInt8) (rest : List UInt8) :
    lines (byte :: rest) =
      if byte = newline then [] :: lines rest
      else if byte = carriageReturn ∧ rest.head? = some newline then lines rest
      else
        match lines rest with
        | [] => [[byte]]
        | line :: more => (byte :: line) :: more := rfl

/-- The last `size` bytes of a text. -/
def lastBytes (size : Nat) (text : List UInt8) : List UInt8 :=
  text.drop (text.length - size)

/-- The length of the last line of a text that ends in a line end, the line end included. -/
def lastLine (text : List UInt8) : Nat :=
  (text.dropLast.reverse.takeWhile (· ≠ newline)).length + 1

/-- No line is begun: the text is empty or ends in a line end. -/
def Ended (text : List UInt8) : Prop :=
  text = [] ∨ text.getLast? = some newline

instance (text : List UInt8) : Decidable (Ended text) :=
  inferInstanceAs (Decidable (_ ∨ _))

/-- A text within one line. -/
def Unbroken (text : List UInt8) : Prop :=
  ∀ byte ∈ text, byte ≠ newline ∧ byte ≠ carriageReturn

instance (text : List UInt8) : Decidable (Unbroken text) :=
  inferInstanceAs (Decidable (∀ byte ∈ text, _))

namespace Ended

theorem cases {text : List UInt8} (ended : Ended text) :
    text = [] ∨ ∃ before, text = before ++ [newline] := by
  rcases ended with rfl | last
  · exact .inl rfl
  · exact .inr (List.getLast?_eq_some_iff.mp last)

theorem drop {text : List UInt8} (ended : Ended text) (count : Nat) : Ended (text.drop count) := by
  rcases ended with rfl | last
  · exact .inl (by simp)
  · by_cases beyond : text.length ≤ count
    · exact .inl (List.drop_eq_nil_of_le beyond)
    · refine .inr ?_
      rw [List.getLast?_drop, if_neg beyond, last]

theorem lastBytes {text : List UInt8} (ended : Ended text) (size : Nat) :
    Ended (lastBytes size text) :=
  ended.drop _

/-- A text that ends within a line has no line begun but the empty one. -/
theorem unbroken {before piece : List UInt8} (ended : Ended (before ++ piece))
    (whole : Unbroken piece) : piece = [] := by
  rcases List.eq_nil_or_concat piece with rfl | ⟨front, last, rfl⟩
  · rfl
  · rcases ended with empty | ends
    · simp at empty
    · have same : last = newline := by simpa using ends
      exact absurd same (whole last (by simp)).1

end Ended

namespace Unbroken

theorem take {text : List UInt8} (whole : Unbroken text) (count : Nat) :
    Unbroken (text.take count) :=
  fun byte member => whole byte (List.mem_of_mem_take member)

theorem lines_feed {text : List UInt8} (whole : Unbroken text) (rest : List UInt8) :
    lines (text ++ newline :: rest) = text :: lines rest := by
  induction text with
  | nil => rfl
  | cons byte text ih =>
      obtain ⟨feed, turn⟩ := whole byte (by simp)
      have tail := ih fun other member => whole other (List.mem_cons_of_mem _ member)
      rw [List.cons_append, lines_cons, if_neg feed, if_neg (fun both => turn both.1), tail]

theorem lines_self {text : List UInt8} (whole : Unbroken text) (present : text ≠ []) :
    lines text = [text] := by
  induction text with
  | nil => exact absurd rfl present
  | cons byte text ih =>
      obtain ⟨feed, turn⟩ := whole byte (by simp)
      rw [lines_cons, if_neg feed, if_neg (fun both => turn both.1)]
      by_cases last : text = []
      · rw [last]
        rfl
      · rw [ih (fun other member => whole other (List.mem_cons_of_mem _ member)) last]

end Unbroken

private theorem lines_snoc_ne (text : List UInt8) : lines (text ++ [newline]) ≠ [] := by
  induction text with
  | nil => exact List.cons_ne_nil _ _
  | cons byte text ih =>
      rw [List.cons_append, lines_cons]
      split
      · simp
      · split
        · exact ih
        · split <;> simp

private theorem lines_feed_append (text rest : List UInt8) :
    lines (text ++ newline :: rest) = lines (text ++ [newline]) ++ lines rest := by
  induction text with
  | nil => rfl
  | cons byte text ih =>
      have next : (text ++ newline :: rest).head? = (text ++ [newline]).head? := by
        cases text <;> rfl
      rw [List.cons_append, List.cons_append, lines_cons, lines_cons, next, ih]
      by_cases feed : byte = newline
      · rw [if_pos feed, if_pos feed, List.cons_append]
      · rw [if_neg feed, if_neg feed]
        split
        · rfl
        · cases known : lines (text ++ [newline]) with
          | nil => exact absurd known (lines_snoc_ne text)
          | cons line more => rfl

/-- The lines of two texts, where the first is cut at its line ends. -/
theorem Ended.lines_append {text : List UInt8} (ended : Ended text) (rest : List UInt8) :
    lines (text ++ rest) = lines text ++ lines rest := by
  rcases ended.cases with rfl | ⟨before, rfl⟩
  · rfl
  · rw [List.append_assoc, List.singleton_append, lines_feed_append]

/-- The window over a text with an end that fits. -/
theorem lastBytes_append {size : Nat} {text piece : List UInt8} (fits : piece.length ≤ size) :
    lastBytes size (text ++ piece) = lastBytes (size - piece.length) text ++ piece := by
  have start : (text ++ piece).length - size = text.length - (size - piece.length) := by
    rw [List.length_append]
    omega
  rw [lastBytes, start, List.drop_append_of_le_length (by omega)]
  rfl

theorem lastLine_append {before line : List UInt8} (ended : Ended before) (whole : Unbroken line) :
    lastLine (before ++ line ++ [newline]) = line.length + 1 := by
  have clear : ∀ byte ∈ line.reverse, decide (byte ≠ newline) = true := by
    intro byte member
    exact decide_eq_true (whole byte (List.mem_reverse.mp member)).1
  rw [lastLine, List.dropLast_concat, List.reverse_append,
    List.takeWhile_append_of_pos clear]
  rcases ended.cases with rfl | ⟨front, rfl⟩
  · simp
  · simp

end Bsrs.Library
