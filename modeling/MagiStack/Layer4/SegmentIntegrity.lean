import MagiStack.Layer4.Tcp

/-!
# SegmentIntegrity — what `tcp_validate_checksum` checks of a received segment

`tcp_validate_checksum` serializes the parsed segment again and sums these bytes.  The parsed segment
keeps neither the reserved bits nor the options, and the serializer puts the payload after twenty bytes.
The two sums differ by `tcpDroppedSum`.
-/

namespace MagiStack

open OnesComplement

/-! ## The received segment and the rebuilt one -/

/-- The length of the received header. -/
def tcpHeaderLength (raw : List UInt8) : Nat :=
  4 * (raw.getD 12 0 >>> 4).toNat

/-- What the rebuilt segment lacks: the reserved bits, the length of the options and the options. -/
def tcpDroppedSum (raw : List UInt8) : Nat :=
  256 * (raw.getD 12 0 &&& (0x0F : UInt8)).toNat + (tcpHeaderLength raw - tcpHeaderSize) +
    wordSum ((raw.take (tcpHeaderLength raw)).drop tcpHeaderSize)

/-- The sum of the words of the received segment and of its pseudo-header. -/
def tcpReceivedSum (raw : List UInt8) (srcIp dstIp : IpAddress) : Nat :=
  pseudoHeaderSum ipv4ProtocolTcp raw.length srcIp dstIp + wordSum raw

/-- What acceptance by `tcp_from_bytes` says about the bytes and the segment. -/
theorem tcpFromBytes_eq_some {raw : List UInt8} {segment : TcpSegment}
    (h : tcpFromBytes raw = some segment) :
    tcpHeaderSize ≤ tcpHeaderLength raw ∧ tcpHeaderLength raw ≤ raw.length ∧
      raw.length - tcpHeaderLength raw ≤ tcpMaxPayload ∧
      segment =
        { srcPort := readU16Be raw 0
          dstPort := readU16Be raw 2
          seqNum := readU32Be raw 4
          ackNum := readU32Be raw 8
          dataOffset := raw.getD 12 0 >>> 4
          flags := raw.getD 13 0
          window := readU16Be raw 14
          checksum := readU16Be raw 16
          urgentPtr := readU16Be raw 18
          payload := raw.drop (tcpHeaderLength raw) } := by
  rw [tcpFromBytes] at h
  simp only [Nat.mul_comm _ 4] at h
  split at h
  · cases h
  · split at h
    · cases h
    · rename_i hheader
      split at h
      · cases h
      · rename_i hpayload
        simp only [not_or, Nat.not_lt] at hheader
        exact ⟨hheader.1, hheader.2, Nat.not_lt.mp hpayload, (Option.some.inj h).symm⟩

/-- A byte is its high nibble and its low one. -/
theorem nibbles_toNat (b : UInt8) : b.toNat = (b >>> 4 <<< 4).toNat + (b &&& (0x0F : UInt8)).toNat := by
  have hb := b.toNat_lt
  have hlow : (b &&& (0x0F : UInt8)).toNat = b.toNat % 16 := by
    rw [UInt8.toNat_and]
    exact Nat.and_two_pow_sub_one_eq_mod b.toNat 4
  have hshift : (b >>> 4).toNat = b.toNat / 16 := by
    rw [UInt8.toNat_shiftRight]
    exact Nat.shiftRight_eq_div_pow b.toNat 4
  have hhigh : (b >>> 4 <<< 4).toNat = b.toNat / 16 * 16 := by
    rw [UInt8.toNat_shiftLeft, hshift]
    change (b.toNat / 16) <<< 4 % 2 ^ 8 = _
    rw [Nat.shiftLeft_eq]
    omega
  omega

/-- The rebuilt segment: twenty bytes of the received header, without the reserved bits, and the payload. -/
theorem tcpBytes_received {raw : List UInt8} {segment : TcpSegment}
    (h : tcpFromBytes raw = some segment) :
    tcpBytes segment =
      [raw.getD 0 0, raw.getD 1 0, raw.getD 2 0, raw.getD 3 0, raw.getD 4 0, raw.getD 5 0,
        raw.getD 6 0, raw.getD 7 0, raw.getD 8 0, raw.getD 9 0, raw.getD 10 0, raw.getD 11 0,
        raw.getD 12 0 >>> 4 <<< 4, raw.getD 13 0, raw.getD 14 0, raw.getD 15 0, raw.getD 16 0,
        raw.getD 17 0, raw.getD 18 0, raw.getD 19 0] ++ raw.drop (tcpHeaderLength raw) := by
  rcases tcpFromBytes_eq_some h with ⟨-, -, -, hsegment⟩
  rw [hsegment, tcpBytes]
  simp only [writeU16Be_read, writeU32Be_read]
  rfl

/-- The received segment sums to the rebuilt one and the dropped words. -/
theorem tcpReceivedSum_eq {raw : List UInt8} {segment : TcpSegment} (srcIp dstIp : IpAddress)
    (h : tcpFromBytes raw = some segment) :
    tcpReceivedSum raw srcIp dstIp =
      tcpReceivedSum (tcpBytes segment) srcIp dstIp + tcpDroppedSum raw := by
  rcases tcpFromBytes_eq_some h with ⟨hheader, hraw, hpayload, -⟩
  have hoffset : (raw.getD 12 0 >>> 4).toNat ≤ 15 := by
    rw [UInt8.toNat_shiftRight]
    have hlt := (raw.getD 12 0).toNat_lt
    change (raw.getD 12 0).toNat >>> 4 ≤ 15
    rw [Nat.shiftRight_eq_div_pow]
    omega
  have hsize : tcpHeaderSize = 20 := rfl
  have hmax : tcpMaxPayload = 1460 := rfl
  have hlength : tcpHeaderLength raw = 4 * (raw.getD 12 0 >>> 4).toNat := rfl
  -- The words before the payload, and those of the payload, which starts at an even place.
  have hsplit : wordSum raw = wordSum (raw.take (tcpHeaderLength raw)) +
      wordSum (raw.drop (tcpHeaderLength raw)) := by
    calc
      wordSum raw = wordSum (raw.take (tcpHeaderLength raw) ++ raw.drop (tcpHeaderLength raw)) := by
        rw [List.take_append_drop]
      _ = _ := wordSum_append _ _ (by rw [List.length_take]; omega)
  have hread : ∀ i, i < 10 →
      readU16Be (raw.take (tcpHeaderLength raw)) (2 * i) = readU16Be raw (2 * i) :=
    fun i hi => readU16Be_take raw (by omega)
  have hwords := wordSum_eq_sum_read (raw.take (tcpHeaderLength raw)) 10
    (by rw [List.length_take]; omega)
  rw [Finset.sum_congr rfl fun i hi => by rw [hread i (Finset.mem_range.1 hi)]] at hwords
  simp only [Finset.sum_range_succ, Finset.sum_range_zero, Nat.reduceMul, Nat.reduceAdd, readU16Be,
    beWord_toNat] at hwords
  have hnibbles := nibbles_toNat (raw.getD 12 0)
  have hbytes := tcpBytes_length segment
  rw [tcpBytes_received h] at hbytes ⊢
  rw [tcpReceivedSum, tcpReceivedSum, pseudoHeaderSum, pseudoHeaderSum, tcpDroppedSum, hsize,
    hsplit, hwords]
  simp only [List.cons_append, List.nil_append, wordSum_cons_cons, List.length_cons,
    List.length_drop]
  omega

/-! ## When the two verdicts agree -/

theorem tcpComputeChecksum_eq_zero_iff {raw : List UInt8} {srcIp dstIp : IpAddress} :
    tcpComputeChecksum raw srcIp dstIp = 0 ↔ tcpReceivedSum raw srcIp dstIp % 65535 = 0 := by
  rw [tcpComputeChecksum, transportComputeChecksum_eq_zero_iff, verifies_iff]
  have hpos : 0 < tcpReceivedSum raw srcIp dstIp := by
    have hprotocol : ipv4ProtocolTcp.toNat = 6 := rfl
    rw [tcpReceivedSum, pseudoHeaderSum]
    omega
  exact and_iff_right hpos

/-- `tcp_validate_checksum` decides the check of the received bytes exactly when the dropped words sum to
zero modulo `65535`, or the received sum is neither zero nor the dropped sum. -/
theorem tcpValidateChecksum_agrees_iff {raw : List UInt8} {segment : TcpSegment}
    (srcIp dstIp : IpAddress) (h : tcpFromBytes raw = some segment) :
    (tcpValidateChecksum segment srcIp dstIp = true ↔ tcpComputeChecksum raw srcIp dstIp = 0) ↔
      (tcpDroppedSum raw % 65535 = 0 ∨
        (tcpReceivedSum raw srcIp dstIp % 65535 ≠ 0 ∧
          tcpReceivedSum raw srcIp dstIp % 65535 ≠ tcpDroppedSum raw % 65535)) := by
  rcases tcpFromBytes_eq_some h with ⟨-, -, hpayload, hsegment⟩
  have hlength : segment.payload.length ≤ tcpMaxPayload := by
    rw [hsegment, List.length_drop]
    exact hpayload
  have hsum := tcpReceivedSum_eq srcIp dstIp h
  rw [tcpValidateChecksum_iff hlength, tcpComputeChecksum_eq_zero_iff,
    tcpComputeChecksum_eq_zero_iff]
  omega

/-- A SYN with a maximum segment size option, with its checksum between `10.0.0.1` and `10.0.0.2`. -/
def mssSegment : List UInt8 :=
  [0xC0, 0x00, 0x00, 0x50, 0x00, 0x00, 0x00, 0x01, 0x00, 0x00, 0x00, 0x00, 0x60, 0x02, 0xFF, 0xFF,
    0xC3, 0xD2, 0x00, 0x00, 0x02, 0x04, 0x05, 0xB4]

def mssSource : IpAddress :=
  { octet0 := 10, octet1 := 0, octet2 := 0, octet3 := 1, prefixLen := 24 }

def mssDestination : IpAddress :=
  { octet0 := 10, octet1 := 0, octet2 := 0, octet3 := 2, prefixLen := 24 }

/-- The segment is accepted by the parser and verifies as received, yet it is rejected. -/
theorem mssSegment_rejected :
    (tcpFromBytes mssSegment).map (tcpValidateChecksum · mssSource mssDestination) = some false ∧
      tcpComputeChecksum mssSegment mssSource mssDestination = 0 := by
  decide +kernel

/-- The agreement criterion at the same bytes. -/
theorem mssSegment_disagrees :
    ∃ segment, tcpFromBytes mssSegment = some segment ∧
      ¬ (tcpValidateChecksum segment mssSource mssDestination = true ↔
        tcpComputeChecksum mssSegment mssSource mssDestination = 0) := by
  have hsome : (tcpFromBytes mssSegment).isSome = true := by decide +kernel
  rcases Option.isSome_iff_exists.1 hsome with ⟨segment, hsegment⟩
  refine ⟨segment, hsegment, ?_⟩
  rw [tcpValidateChecksum_agrees_iff mssSource mssDestination hsegment]
  decide +kernel

end MagiStack
