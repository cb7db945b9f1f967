import Northbound.ByteSource
import Northbound.Deflate

/-!
# Gzip streams

A gzip stream is a header with optional fields, a compressed stream, and a trailer with
the checksum and the length of the content. `gunzip` decodes lazily: the content is supplied as far
as it could be decoded, and a fault shows only to a reader that goes on past it. The checksum is the
remainder of the content, as a polynomial over the two-element field, modulo the reversed polynomial
`0xEDB88320`.
-/

namespace Northbound.Checksum.Crc32

/-- Divides out one bit. -/
def shift (c : UInt32) : UInt32 := if c % 2 = 1 then (c >>> 1) ^^^ 0xEDB88320 else c >>> 1

/-- Takes in one byte. -/
def absorb (c : UInt32) (b : UInt8) : UInt32 :=
  Nat.repeat shift 8 (c ^^^ b.toUInt32)

/-- The check value of a message. -/
def checksum (message : Bytes) : UInt32 :=
  message.foldl absorb 0xFFFFFFFF ^^^ 0xFFFFFFFF

end Northbound.Checksum.Crc32

namespace Northbound.Gzip

/-- Why a stream is refused. -/
inductive Fault where
  | badHeader
  | fieldTooLong
  | cut
  | cutBody
  | corruptBody
  | wrongChecksum
deriving DecidableEq, Repr

/-- The wording of a fault. -/
def Fault.message : Fault → String
  | .badHeader => "invalid gzip header"
  | .fieldTooLong => "gzip header field too long"
  | .cut => "unexpected end of file"
  | .cutBody => "incomplete deflate stream"
  | .corruptBody => "corrupt deflate stream"
  | .wrongChecksum => "corrupt gzip stream does not have a matching checksum"

/-- Splits off the first `n` bytes, if there are as many. -/
def splitFirst (n : Nat) (bs : Bytes) : Except Fault (Bytes × Bytes) :=
  if bs.length < n then .error .cut else .ok (bs.take n, bs.drop n)

/-- The longest text a header field may hold. -/
def maxField : Nat := 65535

/-- Passes over a text ended by NUL. -/
def dropText (bs : Bytes) : Except Fault Bytes :=
  let text := bs.untilNul
  if maxField < text.length then .error .fieldTooLong
  else if text.length = bs.length then .error .cut
  else .ok (bs.drop (text.length + 1))

/-- Whether a bit of a flag byte is set. -/
def flag (flags : UInt8) (bit : Nat) : Bool := flags.toNat / Nat.pow 2 bit % 2 = 1

/-- Passes over the header. -/
def dropHeader (stream : Bytes) : Except Fault Bytes := do
  let (fixed, rest) ← splitFirst 10 stream
  let flags := fixed.getD 3 0
  if fixed.take 3 ≠ [0x1f, 0x8b, 8] ∨ 32 ≤ flags.toNat then throw .badHeader
  let rest ← if flag flags 2 then do
      let (size, rest) ← splitFirst 2 rest
      pure (← splitFirst (Bytes.toNatLE size) rest).2
    else pure rest
  let rest ← if flag flags 3 then dropText rest else pure rest
  let rest ← if flag flags 4 then dropText rest else pure rest
  if flag flags 1 then do
    let (check, after) ← splitFirst 2 rest
    let header := stream.take (stream.length - rest.length)
    if Bytes.toNatLE check ≠ (Checksum.Crc32.checksum header).toNat % 65536 then
      throw .wrongChecksum
    else pure after
  else pure rest

/-- Checks the trailer of a stream with the given content. -/
def checkTrailer (content trailer : Bytes) : Except Fault Unit := do
  let (fixed, _) ← splitFirst 8 trailer
  if fixed = Bytes.ofNatLE 4 (Checksum.Crc32.checksum content).toNat ++
      Bytes.ofNatLE 4 content.length then return ()
  else throw .wrongChecksum

/-- The window of a decoder: output reaches its reader a window at a time, or when the input is used
up. -/
def window : Nat := 32768

/-- The content of a stream, as a source that fails where the stream does. Once the input proves
corrupt, the window it is found in is not supplied. What follows the first stream is not looked
at. -/
def gunzip (stream : Bytes) : ByteSource :=
  match dropHeader stream with
  | .error f => { bytes := [], failure? := some f.message }
  | .ok body =>
    match Deflate.inflate body with
    | (content, .complete trailer) =>
      match checkTrailer content trailer with
      | .ok () => { bytes := content }
      | .error f => { bytes := content, failure? := some f.message }
    | (content, .cut) => { bytes := content, failure? := some Fault.cutBody.message }
    | (content, .corrupt) =>
      { bytes := content.take (content.length / window * window)
        failure? := some Fault.corruptBody.message }

/-- The header of the streams written here: no optional field, no time, an unknown system. -/
def header : Bytes := [0x1f, 0x8b, 8, 0, 0, 0, 0, 0, 0, 255]

/-- The trailer of a stream with the given content. -/
def trailer (content : Bytes) : Bytes :=
  Bytes.ofNatLE 4 (Checksum.Crc32.checksum content).toNat ++ Bytes.ofNatLE 4 content.length

/-- A stream with the given content. -/
def gzip (content : Bytes) : Bytes := header ++ Deflate.store content ++ trailer content

end Northbound.Gzip
