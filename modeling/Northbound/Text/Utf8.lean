import Northbound.Bytes

/-!
# Ill-formed UTF-8

Names in archives and file systems are bytes that need not be text. `lossy` gives a text for any
bytes: each character stands for itself and each maximal ill-formed piece becomes one U+FFFD.
-/

namespace Northbound.Text

/-- A byte of the form `10xxxxxx`. -/
def isContinuation (b : UInt8) : Bool := 0x80 ≤ b && b ≤ 0xBF

/-- The continuation bytes a lead byte asks for: how many, and the bounds of the first of them. -/
def continuations (b : UInt8) : Option (Nat × UInt8 × UInt8) :=
  if 0xC2 ≤ b && b ≤ 0xDF then some (1, 0x80, 0xBF)
  else if b == 0xE0 then some (2, 0xA0, 0xBF)
  else if b == 0xED then some (2, 0x80, 0x9F)
  else if 0xE1 ≤ b && b ≤ 0xEF then some (2, 0x80, 0xBF)
  else if b == 0xF0 then some (3, 0x90, 0xBF)
  else if 0xF1 ≤ b && b ≤ 0xF3 then some (3, 0x80, 0xBF)
  else if b == 0xF4 then some (3, 0x80, 0x8F)
  else none

/-- The data bits of a lead byte that `n` continuation bytes follow. -/
def leadBits (n : Nat) (b : UInt8) : Nat :=
  if n = 1 then b.toNat % 32 else if n = 2 then b.toNat % 16 else b.toNat % 8

/-- Reads `n` more continuation bytes onto the bits collected so far. A piece that breaks off is
ill-formed up to, and without, the byte that does not continue it. -/
def readContinuations : Nat → Nat → Bytes → Option Char × Bytes
  | 0, code, rest => (some (Char.ofNat code), rest)
  | _ + 1, _, [] => (none, [])
  | n + 1, code, b :: rest =>
    if isContinuation b then readContinuations n (code * 64 + b.toNat % 64) rest
    else (none, b :: rest)

/-- The piece that a byte string with first byte `lead` opens with, a character or (`none`) a
maximal ill-formed piece, and the bytes after it. -/
def utf8Step (lead : UInt8) (rest : Bytes) : Option Char × Bytes :=
  if lead < 0x80 then (some (Char.ofNat lead.toNat), rest)
  else match continuations lead, rest with
    | none, _ => (none, rest)
    | some _, [] => (none, [])
    | some (n, lo, hi), b :: more =>
      if lo ≤ b && b ≤ hi then
        readContinuations (n - 1) (leadBits n lead * 64 + b.toNat % 64) more
      else (none, b :: more)

theorem readContinuations_length_le (n code : Nat) (bs : Bytes) :
    (readContinuations n code bs).2.length ≤ bs.length := by
  induction n generalizing code bs with
  | zero => simp [readContinuations]
  | succ n ih =>
    cases bs with
    | nil => simp [readContinuations]
    | cons b rest =>
      simp only [readContinuations]
      split
      · exact Nat.le_trans (ih _ rest) (by simp)
      · simp

theorem utf8Step_length_le (lead : UInt8) (rest : Bytes) :
    (utf8Step lead rest).2.length ≤ rest.length := by
  unfold utf8Step
  split
  · simp
  · split
    · simp
    · simp
    · split
      · exact Nat.le_trans (readContinuations_length_le _ _ _) (by simp)
      · simp

/-- The characters of a byte string, `none` for each maximal ill-formed piece. -/
def utf8Pieces : Bytes → List (Option Char)
  | [] => []
  | lead :: rest => (utf8Step lead rest).1 :: utf8Pieces (utf8Step lead rest).2
termination_by bs => bs.length
decreasing_by
  exact Nat.lt_succ_of_le (utf8Step_length_le lead rest)

/-- The text of any byte string, with U+FFFD for each ill-formed piece. -/
def lossy (bs : Bytes) : String :=
  match utf8Decode? bs with
  | some s => s
  | none => String.ofList ((utf8Pieces bs).map fun c? => c?.getD (Char.ofNat 0xFFFD))

/-- How many bytes stand before the first ill-formed piece. -/
def wellFormedLength (bs : Bytes) : Nat :=
  ((utf8Pieces bs).takeWhile Option.isSome).foldr (fun c? n => (c?.getD 'x').utf8Size + n) 0

end Northbound.Text
