import Northbound.Bytes

/-!
# Byte sources

A finite supply of bytes that either ends or, when one reads past its last byte, fails: a file, the
body of a response, a decompressed stream.
-/

namespace Northbound

/-- Bytes still to come, and the reason why reading past them fails, if it does. -/
structure ByteSource where
  bytes : Bytes
  failure? : Option String := none
deriving Inhabited, DecidableEq, Repr

namespace ByteSource

/-- All bytes to come, or the failure that reading on meets. Either way none are left. -/
def readAll (s : ByteSource) : Except String Bytes × ByteSource :=
  let spent := { s with bytes := [] }
  match s.failure? with
  | none => (.ok s.bytes, spent)
  | some reason => (.error reason, spent)

/-- At most `n` of the bytes to come, at least one if there are any and `n` is positive. Only a read
that finds no byte fails. -/
def readSome (n : Nat) (s : ByteSource) : Except String Bytes × ByteSource :=
  if s.bytes.isEmpty ∧ n ≠ 0 then
    match s.failure? with
    | none => (.ok [], s)
    | some reason => (.error reason, s)
  else (.ok (s.bytes.take n), { s with bytes := s.bytes.drop n })

/-- The next `n` bytes, or what there is before the source ends. Needing more than there is makes a
failing source fail after its last byte. -/
def supply (n : Nat) (s : ByteSource) : (Bytes × Option String) × ByteSource :=
  let front := s.bytes.take n
  ((front, if front.length < n then s.failure? else none), { s with bytes := s.bytes.drop n })

end ByteSource

end Northbound
