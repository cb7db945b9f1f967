import Northbound.Action
import Northbound.Gzip

/-!
# Decoding stored blocks

A compressed stream of stored blocks decodes to the content it was made from, and what follows the
stream is left as it is. Main statement: `gunzip` undoes `gzip`.
-/

namespace Northbound

namespace Deflate

/-- A decoder that stands at the start of a byte. -/
def atByte (rest : Bytes) (output : Array UInt8) : Progress := { rest, output }

theorem bits_one (b : UInt8) (rest : Bytes) (output : Array UInt8) :
    bits 1 (atByte (b :: rest) output) =
      (.ok (b.toNat % 2), { rest, held := b.toNat / 2, count := 7, output }) := by
  simp [bits, hold, atByte, Action.bind_apply, Action.get_apply, Action.set_apply,
    Action.map_apply, Action.pure_apply, Except.map]

theorem bits_two (held : Nat) (rest : Bytes) (output : Array UInt8) :
    bits 2 { rest, held, count := 7, output } =
      (.ok (held % 4), { rest, held := held / 4, count := 5, output }) := by
  simp [bits, hold, Action.bind_apply, Action.get_apply, Action.set_apply, Action.map_apply,
    Action.pure_apply, Except.map]

theorem bits_sixteen {n : Nat} (h : n < 65536) (rest : Bytes) (output : Array UInt8) :
    bits 16 (atByte (Bytes.ofNatLE 2 n ++ rest) output) = (.ok n, atByte rest output) := by
  have low : (n % 256 + n / 256 % 256 * 256) % 65536 = n := by omega
  have high : (n % 256 + n / 256 % 256 * 256) / 65536 = 0 := by omega
  simp [bits, hold, atByte, Bytes.ofNatLE, Action.bind_apply, Action.get_apply, Action.set_apply,
    Action.map_apply, Action.pure_apply, Except.map, low, high]

/-- Fewer than eight bits held are dropped. -/
theorem alignToByte_apply (rest : Bytes) (held : Nat) {count : Nat} (h : count < 8)
    (output : Array UInt8) :
    alignToByte { rest, held, count, output } = (.ok (), atByte rest output) := by
  have none_whole : count / 8 = 0 := Nat.div_eq_of_lt h
  simp [alignToByte, atByte, Bytes.ofNatLE, none_whole, Action.bind_apply, Action.get_apply,
    Action.set_apply]

theorem storedBlock_apply {content : Bytes} (h : content.length ≤ maxStored) (rest : Bytes)
    (held : Nat) {count : Nat} (hc : count < 8) (output : Array UInt8) :
    storedBlock
        { rest := Bytes.ofNatLE 2 content.length ++
            (Bytes.ofNatLE 2 (65535 - content.length) ++ (content ++ rest)),
          held, count, output } =
      (.ok (), atByte rest (output ++ content.toArray)) := by
  have bound : content.length ≤ 65535 := h
  unfold storedBlock
  rw [Action.bind_of_ok (alignToByte_apply _ held hc output),
    Action.bind_of_ok (bits_sixteen (by omega) _ output),
    Action.bind_of_ok (bits_sixteen (by omega) _ output), if_neg (by omega)]
  have enough : ¬content.length + rest.length < content.length := by omega
  change (alignToByte >>= _) _ = _
  rw [Action.bind_of_ok (s := atByte (content ++ rest) output)
    (alignToByte_apply (content ++ rest) 0 (by decide) output)]
  simp [atByte, Action.bind_apply, Action.get_apply, Action.set_apply, enough, Action.pure_apply]

/-- One stored block. The bits of its first byte after the kind are dropped. -/
theorem blocks_storedBlockBytes (fuel : Nat) (last : Bool) {content : Bytes}
    (h : content.length ≤ maxStored) (rest : Bytes) (output : Array UInt8) :
    blocks (fuel + 1) (atByte (storedBlockBytes last content ++ rest) output) =
      if last then (.ok (), atByte rest (output ++ content.toArray))
      else blocks fuel (atByte rest (output ++ content.toArray)) := by
  have split : storedBlockBytes last content ++ rest =
      (if last then 1 else 0) :: (Bytes.ofNatLE 2 content.length ++
        (Bytes.ofNatLE 2 (65535 - content.length) ++ (content ++ rest))) := by
    simp [storedBlockBytes]
  rw [split, blocks]
  cases last with
  | true =>
    rw [Action.bind_of_ok (bits_one _ _ _), Action.bind_of_ok (bits_two _ _ _)]
    change (storedBlock >>= _) _ = _
    rw [Action.bind_of_ok (storedBlock_apply h rest _ (by decide) output)]
    exact alignToByte_apply rest 0 (by decide) _
  | false =>
    rw [Action.bind_of_ok (bits_one _ _ _), Action.bind_of_ok (bits_two _ _ _)]
    change (storedBlock >>= _) _ = _
    rw [Action.bind_of_ok (storedBlock_apply h rest _ (by decide) output)]
    rfl

theorem blocks_storeBlocks (n : Nat) {fuel : Nat} (hf : n < fuel) {content : Bytes}
    (h : content.length ≤ n * maxStored + maxStored) (rest : Bytes) (output : Array UInt8) :
    blocks fuel (atByte (storeBlocks n content ++ rest) output) =
      (.ok (), atByte rest (output ++ content.toArray)) := by
  induction n generalizing fuel content output with
  | zero =>
    obtain ⟨fuel, rfl⟩ : ∃ m, fuel = m + 1 := ⟨fuel - 1, by omega⟩
    exact blocks_storedBlockBytes fuel true (by omega) rest output
  | succ n ih =>
    obtain ⟨fuel, rfl⟩ : ∃ m, fuel = m + 1 := ⟨fuel - 1, by omega⟩
    have first : (content.take maxStored).length ≤ maxStored := by
      rw [List.length_take]
      exact Nat.min_le_left _ _
    have others : (content.drop maxStored).length ≤ n * maxStored + maxStored := by
      rw [List.length_drop]
      rw [Nat.succ_mul] at h
      omega
    rw [storeBlocks, List.append_assoc, blocks_storedBlockBytes fuel false first, if_neg (by simp),
      ih (by omega) others]
    rw [Array.append_assoc, List.append_toArray (content.take maxStored), List.take_append_drop]

/-- Every block takes five bytes more than what it stores. -/
theorem length_storeBlocks (n : Nat) (content : Bytes) :
    (storeBlocks n content).length = content.length + 5 * (n + 1) := by
  have single (last : Bool) (stored : Bytes) :
      (storedBlockBytes last stored).length = stored.length + 5 := by
    simp [storedBlockBytes]
    omega
  induction n generalizing content with
  | zero => exact single true content
  | succ n ih =>
    rw [storeBlocks, List.length_append, single, ih, List.length_take, List.length_drop]
    omega

/-- Stored content is decoded up to the end of its last block. -/
theorem inflate_store (content rest : Bytes) :
    inflate (store content ++ rest) = (content, .complete rest) := by
  have fits : content.length ≤ content.length / maxStored * maxStored + maxStored := by
    have := Nat.div_add_mod' content.length maxStored
    have := Nat.mod_lt content.length (show maxStored > 0 by decide)
    omega
  have enough : content.length / maxStored < 8 * (store content ++ rest).length + 1 := by
    have := length_storeBlocks (content.length / maxStored) content
    rw [List.length_append, store]
    omega
  have run := blocks_storeBlocks _ enough fits rest #[]
  have start :
      ({ rest := store content ++ rest } : Progress) = atByte (store content ++ rest) #[] := rfl
  rw [inflate, start]
  unfold store at run ⊢
  rw [run]
  simp [atByte]

end Deflate

namespace Gzip

theorem dropHeader_header (rest : Bytes) : dropHeader (header ++ rest) = .ok rest := by
  have split : splitFirst 10 (header ++ rest) = .ok (header, rest) := by
    simp [splitFirst, header]
  have flags : header.getD 3 0 = 0 := rfl
  have no_flag (bit : Nat) : flag 0 bit = false := by simp [flag]
  have magic : ¬(header.take 3 ≠ [0x1f, 0x8b, 8] ∨ 32 ≤ (0 : UInt8).toNat) := by decide
  simp only [dropHeader, split, Bind.bind, Except.bind, flags, no_flag, if_neg magic]
  rfl

theorem checkTrailer_trailer (content : Bytes) :
    checkTrailer content (trailer content) = .ok () := by
  have split : splitFirst 8 (trailer content) = .ok (trailer content, []) := by
    rw [splitFirst, if_neg (by simp [trailer]), List.take_of_length_le (by simp [trailer]),
      List.drop_of_length_le (by simp [trailer])]
  simp only [checkTrailer, split]
  exact if_pos rfl

theorem length_gzip (content : Bytes) :
    (gzip content).length = content.length + 5 * (content.length / Deflate.maxStored + 1) + 18 := by
  have ends (stored : Bytes) :
      (header ++ stored ++ trailer content).length = stored.length + 18 := by
    simp [header, trailer]
  rw [gzip, ends, Deflate.store, Deflate.length_storeBlocks]

/-- Unpacking undoes packing. -/
theorem gunzip_gzip (content : Bytes) : gunzip (gzip content) = { bytes := content } := by
  rw [gzip, List.append_assoc, gunzip, dropHeader_header]
  simp only [Deflate.inflate_store, checkTrailer_trailer]

end Gzip

end Northbound
