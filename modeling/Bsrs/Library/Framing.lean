import Mathlib.Algebra.Group.Nat.Defs
import Mathlib.Data.List.Basic

namespace Bsrs.Library

/-- The `width` low bytes of a number, the lowest first. -/
def littleEndian : Nat → Nat → List UInt8
  | 0, _ => []
  | width + 1, value => UInt8.ofNat value :: littleEndian width (value / 256)

def readLittleEndian : List UInt8 → Nat
  | [] => 0
  | byte :: rest => byte.toNat + 256 * readLittleEndian rest

@[simp]
theorem length_littleEndian (width value : Nat) : (littleEndian width value).length = width := by
  induction width generalizing value with
  | zero => rfl
  | succ width ih => simp [littleEndian, ih]

theorem readLittleEndian_littleEndian {width value : Nat} (fits : value < 256 ^ width) :
    readLittleEndian (littleEndian width value) = value := by
  induction width generalizing value with
  | zero => exact (Nat.lt_one_iff.mp fits).symm
  | succ width ih =>
      have higher : value / 256 < 256 ^ width := by
        rw [Nat.div_lt_iff_lt_mul (by decide), ← Nat.pow_succ]
        exact fits
      rw [littleEndian, readLittleEndian, ih higher]
      simp only [UInt8.toNat_ofNat']
      omega

/-- A payload behind its length. -/
def frame (width : Nat) (payload : List UInt8) : List UInt8 :=
  littleEndian width payload.length ++ payload

/-- One whole frame off the front, and what is left. -/
def readFrame (width : Nat) (bytes : List UInt8) : Option (List UInt8 × List UInt8) :=
  let body := bytes.drop width
  let size := readLittleEndian (bytes.take width)
  if width ≤ bytes.length ∧ size ≤ body.length then some (body.take size, body.drop size) else none

/-- The first `count` frames, all of them whole. -/
def readFrames (width : Nat) : Nat → List UInt8 → Option (List (List UInt8))
  | 0, _ => some []
  | count + 1, bytes =>
      (readFrame width bytes).bind fun first =>
        (readFrames width count first.2).map fun later => first.1 :: later

theorem readFrame_frame {width : Nat} {payload : List UInt8} (fits : payload.length < 256 ^ width)
    (rest : List UInt8) : readFrame width (frame width payload ++ rest) = some (payload, rest) := by
  have head : (frame width payload ++ rest).take width = littleEndian width payload.length := by
    rw [frame, List.append_assoc]
    exact List.take_left' (length_littleEndian ..)
  have body : (frame width payload ++ rest).drop width = payload ++ rest := by
    rw [frame, List.append_assoc]
    exact List.drop_left' (length_littleEndian ..)
  simp only [readFrame, head, body, readLittleEndian_littleEndian fits]
  rw [if_pos (by simp [frame])]
  simp

/-- Whole frames are read off whatever follows them. -/
theorem readFrames_frames {width : Nat} {payloads : List (List UInt8)}
    (fits : ∀ payload ∈ payloads, payload.length < 256 ^ width) {count : Nat}
    (within : count ≤ payloads.length) (rest : List UInt8) :
    readFrames width count (payloads.flatMap (frame width) ++ rest) = some (payloads.take count) := by
  induction count generalizing payloads with
  | zero => rfl
  | succ count ih =>
      cases payloads with
      | nil => simp at within
      | cons payload later =>
          obtain ⟨first, others⟩ := List.forall_mem_cons.mp fits
          rw [List.flatMap_cons, List.append_assoc, readFrames, readFrame_frame first, Option.bind_some,
            ih others (Nat.le_of_succ_le_succ within)]
          rfl

end Bsrs.Library
