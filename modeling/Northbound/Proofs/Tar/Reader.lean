import Northbound.Action
import Northbound.Proofs.Tar.Header
import Northbound.Tar.Archive

/-!
# Reading headers from a stream

What a reader does in front of a written header and in front of a block of zeros. Its state is told
by how many bytes it was given, what it has to skip and what comes after that.
-/

namespace Northbound

namespace Tar

/-- A reader that was given `position` bytes, has `gap` to skip and stands in front of `rest`. -/
def Archive.before (position : Nat) (gap rest : Bytes) : Archive :=
  { source := { bytes := gap ++ rest }, position, next := position + gap.length }

/-- A reader in front of `rest` with nothing to skip. -/
def Archive.at (position : Nat) (rest : Bytes) : Archive := .before position [] rest

theorem Archive.supply_append {position next : Nat} (bs rest : Bytes) :
    Archive.supply bs.length { source := { bytes := bs ++ rest }, position, next } =
      ((bs, none), { source := { bytes := rest }, position := position + bs.length, next }) := by
  simp [Archive.supply, ByteSource.supply]

namespace Reader

theorem upTo_append {n position next : Nat} {bs : Bytes} (h : bs.length = n) (rest : Bytes) :
    upTo n { source := { bytes := bs ++ rest }, position, next } =
      (.ok bs, { source := { bytes := rest }, position := position + n, next }) := by
  subst h
  simp [upTo, Archive.supply_append]

theorem skipToNext_before (position : Nat) (gap rest : Bytes) :
    skipToNext (.before position gap rest) = (.ok (), .at (position + gap.length) rest) := by
  have size : gap.length = (position + gap.length) - position := by omega
  unfold skipToNext
  rw [Action.bind_of_ok (Action.get_apply _)]
  simp only [Archive.before]
  rw [Action.bind_of_ok (upTo_append size rest)]
  simp [Action.pure_apply, Archive.at, Archive.before]

theorem block?_at {block : Block} (h : block.length = blockSize) (rest : Bytes)
    {position next : Nat} :
    block? { source := { bytes := block ++ rest }, position, next } =
      (.ok (some block),
        { source := { bytes := rest }, position := position + blockSize, next }) := by
  have nonempty : block.isEmpty = false := by
    cases block with
    | nil => simp [blockSize] at h
    | cons b bs => rfl
  unfold block?
  rw [Action.bind_of_ok (upTo_append h rest)]
  simp [nonempty, h, Action.pure_apply]

theorem number_of_ok {read : Bytes → Except NumberFault Nat} {field : Bytes} {n : Nat}
    (h : read field = .ok n) (header : Block) (name : String) (a : Archive) :
    number read header field name a = (.ok n, a) := by
  simp [number, h, Action.pure_apply]

theorem padded_ge (n : Nat) : n ≤ padded n := by
  simp only [padded, blockSize]
  omega

/-- A written header is read back, and the reader stands in front of its data. -/
theorem header?_before {h : Header} (fits : h.Fits) {d : Description}
    (own : d.records?.bind recordedSize? = none) (position : Nat) (gap rest : Bytes)
    (bounded : position + gap.length + blockSize + padded h.size ≤ Text.maxWord) :
    header? d (.before position gap (h.render ++ rest)) =
      (.ok (some (h.render, h.size)),
        { source := { bytes := rest }
          position := position + gap.length + blockSize
          next := position + gap.length + blockSize + padded h.size }) := by
  have sizes := padded_ge h.size
  have word : Text.maxWord < Nat.pow 2 64 := by decide
  have small : h.checksum ≤ Text.maxWord := by
    have := Header.checksum_lt fits
    have : Nat.pow 8 7 ≤ Text.maxWord := by decide
    omega
  have check : readOctal (Block.checksumField h.render) = .ok h.checksum := by
    rw [Header.render_checksumField fits, readOctal_octalField small]
  have size : readNumber (Block.size h.render) = .ok h.size := by
    rw [Header.render_size fits, readNumber_numberField (by omega)]
  have sum : ¬h.checksum % Nat.pow 2 32 ≠ Block.sum h.render := by
    have := Header.checksum_lt fits
    have : Nat.pow 8 7 ≤ Nat.pow 2 32 := by decide
    rw [Header.render_sum fits, Nat.mod_eq_of_lt (by omega)]
    simp
  unfold header?
  rw [Action.bind_of_ok (skipToNext_before position gap _)]
  simp only [Archive.at, Archive.before, List.nil_append, List.length_nil, Nat.add_zero]
  rw [Action.bind_of_ok (block?_at (Header.length_render fits) rest)]
  simp only [Header.render_isZero fits, Bool.false_eq_true, if_false]
  rw [Action.bind_of_ok (Action.modify_apply _ _), Action.bind_of_ok (number_of_ok check _ _ _),
    if_neg sum]
  rw [Action.bind_of_ok (number_of_ok size _ _ _)]
  simp only [own, Option.getD_none]
  rw [if_neg (by simp only [blockSize] at bounded ⊢; omega), Action.bind_of_ok (Action.get_apply _),
    if_neg (by simp only; omega), Action.bind_of_ok (Action.modify_apply _ _)]
  rfl

/-- A block of zeros ends the archive. -/
theorem header?_zeros (d : Description) (position : Nat) (gap rest : Bytes) :
    header? d (.before position gap (Bytes.zeros blockSize ++ rest)) =
      (.ok none, { source := { bytes := rest }
                   position := position + gap.length + blockSize
                   next := position + gap.length }) := by
  have zero : Block.isZero (Bytes.zeros blockSize) = true := by
    simp [Block.isZero, Bytes.zeros]
  unfold header?
  rw [Action.bind_of_ok (skipToNext_before position gap _)]
  simp only [Archive.at, Archive.before, List.nil_append, List.length_nil, Nat.add_zero]
  rw [Action.bind_of_ok (block?_at (Bytes.length_zeros _) rest)]
  simp only [zero, if_true]
  rfl

end Reader

end Tar

end Northbound
