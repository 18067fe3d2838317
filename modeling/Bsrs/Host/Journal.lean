import Bsrs.Host.CheckpointStore

namespace Bsrs.Host

open Library

section Reader

variable {codec : RecordCodec} {record : CheckpointRecord}

/-- The record the last of these lines that has one reads as. -/
private def lastRecord (codec : RecordCodec) (written : List (List UInt8)) :
    Option CheckpointRecord :=
  (written.reverse.filter (!isBlank ·)).findSome? codec.decode

private theorem tailRecord_some (codec : RecordCodec) (text : List UInt8) :
    tailRecord codec (some text) = lastRecord codec (lines (lastBytes tailScanBytes text)) := by
  -- The window's size is kept apart: the subtraction of so large a literal does not unfold.
  have windowed : ∀ size, ((some text).bind fun text =>
      ((lines (readTail text size)).reverse.filter (!isBlank ·)).findSome? codec.decode) =
        lastRecord codec (lines (lastBytes size text)) := fun _ => rfl
  exact windowed tailScanBytes

theorem tailRecord_nil (codec : RecordCodec) : tailRecord codec (some []) = none := by
  rw [tailRecord_some, lastBytes, List.drop_nil]
  rfl

theorem tailRecord_getD (codec : RecordCodec) (file : Option (List UInt8)) :
    tailRecord codec file = tailRecord codec (some (file.getD [])) := by
  cases file with
  | none => exact (tailRecord_nil codec).symm
  | some text => rfl

private theorem lastRecord_record (faithful : codec.Faithful record)
    (written : List (List UInt8)) :
    lastRecord codec (written ++ [codec.encode record]) = some record := by
  rw [lastRecord, List.reverse_append, List.reverse_singleton, List.singleton_append,
    List.filter_cons_of_pos (by simp [faithful.visible]),
    List.findSome?_cons_of_isSome (by simp [faithful.roundTrip]), faithful.roundTrip]

private theorem lastRecord_torn {piece : List UInt8} (unread : codec.decode piece = none)
    (written : List (List UInt8)) :
    lastRecord codec (written ++ [piece]) = lastRecord codec written := by
  rw [lastRecord, List.reverse_append, List.reverse_singleton, List.singleton_append,
    List.filter_cons]
  split
  · rw [List.findSome?_cons_of_isNone (by simp [unread])]
    rfl
  · rfl

/-- The file's lines are written out, the last of them a record's. -/
def Closed (codec : RecordCodec) (text : List UInt8) : Prop :=
  text = [] ∨ ∃ before record, text = before ++ codec.encode record ++ [newline] ∧
    Ended before ∧ codec.Faithful record

/-- A file as the store leaves it: whole lines, then at most a piece of one, and a record within
the window if there is one at all. -/
structure Sound (codec : RecordCodec) (text : List UInt8) : Prop where
  shape : ∃ body piece, text = body ++ piece ∧ Unbroken piece ∧ Closed codec body
  held : (tailRecord codec (some text)).isSome = holdsRecord codec text

theorem Sound.nil : Sound codec [] :=
  ⟨⟨[], [], rfl, by simp [Unbroken], .inl rfl⟩, by rw [tailRecord_nil]; rfl⟩

private theorem Sound.closed {text : List UInt8} (sound : Sound codec text) (ended : Ended text) :
    Closed codec text := by
  obtain ⟨body, piece, rfl, unbroken, closed⟩ := sound.shape
  rw [ended.unbroken unbroken, List.append_nil]
  exact closed

private theorem holdsRecord_append {text : List UInt8} (ended : Ended text) (rest : List UInt8) :
    holdsRecord codec (text ++ rest) = (holdsRecord codec text || holdsRecord codec rest) := by
  rw [holdsRecord, ended.lines_append, List.any_append]
  rfl

/-- A window that covers the file's last line finds its record, or the file is empty. -/
private theorem Closed.window {text : List UInt8} (closed : Closed codec text) {size : Nat}
    (fits : text = [] ∨ lastLine text ≤ size) :
    lastRecord codec (lines (lastBytes size text)) =
      lastRecord codec (lines text) := by
  rcases closed with rfl | ⟨before, record, rfl, ended, faithful⟩
  · simp [lastBytes]
  · have room : (codec.encode record ++ [newline]).length ≤ size := by
      rcases fits with empty | fits
      · simp at empty
      · rw [lastLine_append ended faithful.oneLine] at fits
        rw [List.length_append, List.length_singleton]
        exact fits
    have last : ∀ text, Ended text →
        lastRecord codec (lines (text ++ (codec.encode record ++ [newline]))) = some record := by
      intro text cut
      rw [cut.lines_append, faithful.oneLine.lines_feed]
      exact lastRecord_record faithful _
    rw [List.append_assoc, lastBytes_append room, last _ (ended.lastBytes _), last _ ended]

/-- A torn piece at the end of the file hides no record before it. -/
private theorem Sound.torn {text piece : List UInt8} (sound : Sound codec text)
    (ended : Ended text) (unbroken : Unbroken piece) (present : piece ≠ [])
    (unread : codec.decode piece = none) (fits : piece.length ≤ tailScanBytes)
    (reaches : text = [] ∨ lastLine text + piece.length ≤ tailScanBytes) :
    Sound codec (text ++ piece) ∧
      tailRecord codec (some (text ++ piece)) = tailRecord codec (some text) := by
  have closed := sound.closed ended
  have narrow : text = [] ∨ lastLine text ≤ tailScanBytes - piece.length := by
    rcases reaches with empty | reaches
    · exact .inl empty
    · exact .inr (by omega)
  have wide : text = [] ∨ lastLine text ≤ tailScanBytes :=
    narrow.imp_right fun least => Nat.le_trans least (Nat.sub_le _ _)
  have same : tailRecord codec (some (text ++ piece)) = tailRecord codec (some text) := by
    rw [tailRecord_some, tailRecord_some, lastBytes_append fits,
      Ended.lines_append (ended.lastBytes _), unbroken.lines_self present, lastRecord_torn unread]
    exact (closed.window narrow).trans (closed.window wide).symm
  refine ⟨⟨⟨text, piece, rfl, unbroken, closed⟩, ?_⟩, same⟩
  have none : holdsRecord codec piece = false := by
    rw [holdsRecord, unbroken.lines_self present]
    simp [unread]
  rw [same, sound.held, holdsRecord_append ended, none, Bool.or_false]

/-- A whole record at the end of the file is what the reader finds. -/
private theorem Sound.whole {text : List UInt8} (stop : List UInt8) (ended : Ended text)
    (faithful : codec.Faithful record)
    (line : lines (codec.encode record ++ stop) = [codec.encode record])
    (shape : ∃ body piece, text ++ (codec.encode record ++ stop) = body ++ piece ∧
      Unbroken piece ∧ Closed codec body)
    (fits : (codec.encode record ++ stop).length ≤ tailScanBytes) :
    Sound codec (text ++ (codec.encode record ++ stop)) ∧
      tailRecord codec (some (text ++ (codec.encode record ++ stop))) = some record := by
  have found : tailRecord codec (some (text ++ (codec.encode record ++ stop))) = some record := by
    rw [tailRecord_some, lastBytes_append fits, Ended.lines_append (ended.lastBytes _), line]
    exact lastRecord_record faithful _
  refine ⟨⟨shape, ?_⟩, found⟩
  have here : holdsRecord codec (codec.encode record ++ stop) = true := by
    rw [holdsRecord, line]
    simp [faithful.visible, faithful.roundTrip]
  rw [found, holdsRecord_append ended, here, Bool.or_true]
  rfl

/-- What the reader finds after `count` bytes of a record's line were appended. -/
theorem Sound.put {text : List UInt8} (sound : Sound codec text) (ended : Ended text)
    (faithful : codec.Faithful record) {count : Nat}
    (most : count ≤ (codec.encode record).length + 1) (fits : count ≤ tailScanBytes)
    (reaches : 0 < count → count < (codec.encode record).length →
      text = [] ∨ lastLine text + count ≤ tailScanBytes) :
    Sound codec (text ++ (codec.encode record ++ [newline]).take count) ∧
      tailRecord codec (some (text ++ (codec.encode record ++ [newline]).take count)) =
        if (codec.encode record).length ≤ count then some record
        else tailRecord codec (some text) := by
  have some : codec.encode record ≠ [] := by
    intro empty
    have visible := faithful.visible
    rw [empty] at visible
    cases visible
  by_cases full : count = (codec.encode record).length + 1
  · have all : (codec.encode record ++ [newline]).take count = codec.encode record ++ [newline] :=
      List.take_of_length_le (by simp [full])
    rw [all, if_pos (by omega)]
    refine Sound.whole [newline] ended faithful (faithful.oneLine.lines_feed []) ?_
      (by simpa [← full])
    exact ⟨_, [], (List.append_nil _).symm, by simp [Unbroken],
      .inr ⟨text, record, (List.append_assoc _ _ _).symm, ended, faithful⟩⟩
  · have short : count ≤ (codec.encode record).length := by omega
    rw [List.take_append_of_le_length short]
    by_cases whole : (codec.encode record).length ≤ count
    · have same : count = (codec.encode record).length := Nat.le_antisymm short whole
      have added := Sound.whole [] ended faithful
        (by rw [List.append_nil]; exact faithful.oneLine.lines_self some)
        ⟨text, codec.encode record, by rw [List.append_nil], faithful.oneLine, sound.closed ended⟩
        (by simpa [← same] using fits)
      rw [if_pos whole, same, List.take_length]
      rwa [List.append_nil] at added
    · rw [if_neg whole]
      by_cases nothing : count = 0
      · rw [nothing, List.take_zero, List.append_nil]
        exact ⟨sound, rfl⟩
      · have length : ((codec.encode record).take count).length = count := by
          rw [List.length_take, Nat.min_eq_left short]
        refine sound.torn ended (faithful.oneLine.take count) ?_
          (faithful.cutShort count (by omega)) (by omega) ?_
        · intro empty
          rw [empty] at length
          exact nothing length.symm
        · rw [length]
          exact reaches (by omega) (by omega)

end Reader

end Bsrs.Host
