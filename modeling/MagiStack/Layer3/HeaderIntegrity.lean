import MagiStack.Layer3.Ipv4

/-!
# HeaderIntegrity — what `ipv4_validate_checksum` checks of a received header

`ipv4_validate_checksum` does not look at the bytes that arrived: it serializes the parsed packet
again and sums that header.  The parsed packet keeps neither TOS, nor identification, nor flags
and fragment offset, nor options, and the serializer writes `IHL = 5` with a total length to match.
The word sums of the two headers therefore differ by `ipv4DroppedSum`, and the two verdicts agree
exactly when that difference does not matter modulo `65535`.
-/

namespace MagiStack

open OnesComplement

/-! ## The received header and the rebuilt one -/

/-- `IHL` in 32-bit words, as `ipv4_from_bytes` reads it. -/
def ipv4Ihl (raw : List UInt8) : Nat :=
  (raw.getD 0 0 &&& (0x0F : UInt8)).toNat

/-- The received header `raw[0 .. 4 * IHL)`. -/
def ipv4ReceivedHeader (raw : List UInt8) : List UInt8 :=
  raw.take (4 * ipv4Ihl raw)

/-- The words of the received header that the rebuilt one lacks: TOS, identification, flags and
fragment offset, the options, and the excess of `IHL` with the total length it shifts. -/
def ipv4DroppedSum (raw : List UInt8) : Nat :=
  (raw.getD 1 0).toNat + 260 * (ipv4Ihl raw - 5) + (readU16Be raw 4).toNat +
    (readU16Be raw 6).toNat + wordSum ((ipv4ReceivedHeader raw).drop ipv4HeaderSize)

/-- What acceptance by `ipv4_from_bytes` says about the bytes and the packet. -/
theorem ipv4FromBytes_eq_some {raw : List UInt8} {packet : Ipv4Packet}
    (h : ipv4FromBytes raw = some packet) :
    raw.length ≥ ipv4HeaderSize ∧ raw.getD 0 0 >>> 4 = 4 ∧ 5 ≤ ipv4Ihl raw ∧
      4 * ipv4Ihl raw ≤ (readU16Be raw 2).toNat ∧ (readU16Be raw 2).toNat ≤ raw.length ∧
      (readU16Be raw 2).toNat - 4 * ipv4Ihl raw ≤ ipv4MaxPayload ∧
      packet =
        { version := raw.getD 0 0 >>> 4
          ihl := raw.getD 0 0 &&& (0x0F : UInt8)
          totalLength := readU16Be raw 2
          ttl := raw.getD 8 0
          protocol := raw.getD 9 0
          checksum := readU16Be raw 10
          srcIp := IpAddress.read raw 12
          dstIp := IpAddress.read raw 16
          payload := (raw.drop (4 * ipv4Ihl raw)).take
            ((readU16Be raw 2).toNat - 4 * ipv4Ihl raw) } := by
  unfold ipv4FromBytes at h
  simp only [Nat.mul_comm _ 4] at h
  -- Each check that turns the packet away is one that has not failed here.
  split at h
  · cases h
  · rename_i hlen
    split at h
    · cases h
    · rename_i hver
      split at h
      · cases h
      · rename_i htotal
        split at h
        · cases h
        · rename_i hpay
          have hihl : 5 ≤ ipv4Ihl raw := by
            have hlt : ¬ (raw.getD 0 0 &&& (0x0F : UInt8)) < 5 := fun hlt => hver (.inr (.inl hlt))
            rw [UInt8.lt_iff_toNat_lt] at hlt
            change ¬ ipv4Ihl raw < 5 at hlt
            omega
          have hpacket := (Option.some.inj h).symm
          refine ⟨by omega, ?_, hihl, ?_, ?_, ?_, hpacket⟩
          · by_contra hne
            exact hver (.inl hne)
          · exact Nat.le_of_not_lt fun hlt => htotal (.inl hlt)
          · exact Nat.le_of_not_lt fun hlt => htotal (.inr hlt)
          · exact Nat.le_of_not_lt hpay

/-! ## Comparing the two word sums -/

/-- A byte whose high nibble is `4` is `64` plus its low nibble. -/
theorem version_four_toNat {b : UInt8} (h : b >>> 4 = 4) :
    b.toNat = 64 + (b &&& (0x0F : UInt8)).toNat := by
  have hb := b.toNat_lt
  have hhi : b.toNat / 16 = 4 := by
    have hnat := congrArg UInt8.toNat h
    rw [UInt8.toNat_shiftRight] at hnat
    simpa [Nat.shiftRight_eq_div_pow] using hnat
  have hlo : (b &&& (0x0F : UInt8)).toNat = b.toNat % 16 := by
    rw [UInt8.toNat_and]
    exact Nat.and_two_pow_sub_one_eq_mod b.toNat 4
  omega

/-- The word sum of the rebuilt header, field by field. -/
theorem wordSum_rebuiltHeader (packet : Ipv4Packet)
    (h : packet.payload.length ≤ ipv4MaxPayload) :
    wordSum (ipv4RebuiltHeader packet) =
      256 * 69 + (20 + packet.payload.length) + (256 * packet.ttl.toNat + packet.protocol.toNat) +
        packet.checksum.toNat + wordSum packet.srcIp.octets + wordSum packet.dstIp.octets := by
  have hword : ∀ value : UInt16,
      256 * (value >>> 8).toUInt8.toNat + value.toUInt8.toNat = value.toNat := by
    intro value
    rw [← beWord_toNat, beWord_bytes]
  have htotal := ipv4TotalLength_toNat h
  have h1 := hword (ipv4TotalLength packet.payload.length)
  have h2 := hword packet.checksum
  rw [htotal] at h1
  simp only [ipv4RebuiltHeader, ipv4HeaderBytes, setU16Be, writeU16Be,
    IpAddress.octets, loByte_eq, List.cons_append, List.nil_append, List.set_cons_succ,
    List.set_cons_zero, wordSum_cons_cons, wordSum_nil]
  have e0 : UInt8.toNat 0x45 = 69 := rfl
  have e1 : UInt8.toNat 0 = 0 := rfl
  have e2 : ((0 : UInt16) >>> 8).toUInt8.toNat = 0 := rfl
  have e3 : (0 : UInt16).toUInt8.toNat = 0 := rfl
  omega

/-- The received header sums to the rebuilt one plus the dropped words. -/
theorem wordSum_receivedHeader {raw : List UInt8} {packet : Ipv4Packet}
    (h : ipv4FromBytes raw = some packet) :
    wordSum (ipv4ReceivedHeader raw) =
      wordSum (ipv4RebuiltHeader packet) + ipv4DroppedSum raw := by
  obtain ⟨hlen, hver, hihl, htotal, htotal', hpay, hpacket⟩ := ipv4FromBytes_eq_some h
  have hpayload : packet.payload.length = (readU16Be raw 2).toNat - 4 * ipv4Ihl raw := by
    rw [hpacket, List.length_take, List.length_drop]
    omega
  have hfirst := version_four_toNat hver
  have hrebuilt := wordSum_rebuiltHeader packet (by omega)
  have hheader : (ipv4ReceivedHeader raw).length = 4 * ipv4Ihl raw := by
    rw [ipv4ReceivedHeader, List.length_take]
    omega
  have hread : ∀ i, i < 10 →
      readU16Be (ipv4ReceivedHeader raw) (2 * i) = readU16Be raw (2 * i) :=
    fun i hi => readU16Be_take raw (by omega)
  -- Peel the ten fixed words off the received header; the options remain.
  have hwords := wordSum_eq_sum_read (ipv4ReceivedHeader raw) 10 (by omega)
  rw [Finset.sum_congr rfl fun i hi => by rw [hread i (Finset.mem_range.1 hi)]] at hwords
  simp only [Finset.sum_range_succ, Finset.sum_range_zero, Nat.reduceMul] at hwords
  have h0 : (readU16Be raw 0).toNat = 256 * (64 + ipv4Ihl raw) + (raw.getD 1 0).toNat := by
    rw [readU16Be, beWord_toNat, hfirst]
    rfl
  have h8 : (readU16Be raw 8).toNat = 256 * packet.ttl.toNat + packet.protocol.toNat := by
    rw [readU16Be, beWord_toNat, hpacket]
  have h10 : packet.checksum = readU16Be raw 10 := by rw [hpacket]
  have h12 : wordSum packet.srcIp.octets = (readU16Be raw 12).toNat + (readU16Be raw 14).toNat := by
    rw [hpacket, IpAddress.wordSum_octets_read]
  have h16 : wordSum packet.dstIp.octets = (readU16Be raw 16).toNat + (readU16Be raw 18).toNat := by
    rw [hpacket, IpAddress.wordSum_octets_read]
  rw [hwords, hrebuilt, hpayload, h0, h8, h10, h12, h16, ipv4DroppedSum, ipv4HeaderSize]
  omega

/-! ## When the two verdicts agree -/

/-- The received header passes the RFC 1071 check. -/
def ipv4HeaderVerifies (raw : List UInt8) : Prop :=
  ipv4ComputeChecksum (ipv4ReceivedHeader raw) = 0

/-- `ipv4_validate_checksum` decides the check of the received header exactly when the dropped words
sum to zero modulo `65535`, or the received sum is neither zero nor the dropped sum. -/
theorem ipv4ValidateChecksum_agrees_iff {raw : List UInt8} {packet : Ipv4Packet}
    (h : ipv4FromBytes raw = some packet) :
    (ipv4ValidateChecksum packet = true ↔ ipv4HeaderVerifies raw) ↔
      (ipv4DroppedSum raw % 65535 = 0 ∨
        (wordSum (ipv4ReceivedHeader raw) % 65535 ≠ 0 ∧
          wordSum (ipv4ReceivedHeader raw) % 65535 ≠ ipv4DroppedSum raw % 65535)) := by
  obtain ⟨hlen, -, hihl, htotal, htotal', hpay, hpacket⟩ := ipv4FromBytes_eq_some h
  have hpayload : packet.payload.length ≤ ipv4MaxPayload := by
    rw [hpacket, List.length_take]
    omega
  have hne : ipv4ReceivedHeader raw ≠ [] := by
    rw [ipv4HeaderSize] at hlen
    simp only [ipv4ReceivedHeader, ne_eq, List.take_eq_nil_iff, not_or]
    constructor
    · omega
    · rintro rfl
      simp at hlen
  have hsum := wordSum_receivedHeader h
  have hrebuilt := wordSum_rebuiltHeader packet hpayload
  rw [ipv4ValidateChecksum_iff hpayload, ipv4HeaderVerifies, ipv4ComputeChecksum_eq_zero_iff hne,
    verifies_iff, verifies_iff]
  -- Both sums are positive, so each verdict is divisibility by `65535`.
  omega

/-- An undamaged header with TOS `0x10`: checksum `0x66D2`, no options, no payload. -/
def tosHeader : List UInt8 :=
  [0x45, 0x10, 0x00, 0x14, 0x00, 0x00, 0x00, 0x00, 0x40, 0x06, 0x66, 0xD2,
    0x0A, 0x00, 0x00, 0x01, 0x0A, 0x00, 0x00, 0x02]

/-- The header is accepted by the parser and verifies as received, yet it is rejected. -/
theorem tosHeader_rejected :
    (ipv4FromBytes tosHeader).map ipv4ValidateChecksum = some false ∧
      ipv4HeaderVerifies tosHeader := by
  unfold ipv4HeaderVerifies
  decide +kernel

/-- The agreement criterion at the same bytes: the dropped sum is `0x10` and the received sum `0`. -/
theorem tosHeader_disagrees :
    ∃ packet, ipv4FromBytes tosHeader = some packet ∧
      ¬ (ipv4ValidateChecksum packet = true ↔ ipv4HeaderVerifies tosHeader) := by
  have hsome : (ipv4FromBytes tosHeader).isSome = true := by decide +kernel
  obtain ⟨packet, hpacket⟩ := Option.isSome_iff_exists.1 hsome
  refine ⟨packet, hpacket, ?_⟩
  rw [ipv4ValidateChecksum_agrees_iff hpacket]
  decide +kernel

end MagiStack
