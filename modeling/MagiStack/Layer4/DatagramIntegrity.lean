import MagiStack.Layer3.Icmp
import MagiStack.Layer4.Udp

/-!
# DatagramIntegrity — what the UDP and ICMP validators check of received bytes

`udp_validate_checksum` and `icmp_validate_checksum` serialize the parsed message again, put the received
checksum back and sum these bytes.  Unlike IPv4 and TCP, nothing of the two headers is lost on the way:
the rebuilt bytes are the received ones, for UDP up to the declared length.
-/

namespace MagiStack

/-- A header of eight bytes, read byte by byte. -/
theorem eightBytes_append_drop {raw : List UInt8} (h : 8 ≤ raw.length) :
    [raw.getD 0 0, raw.getD 1 0, raw.getD 2 0, raw.getD 3 0, raw.getD 4 0, raw.getD 5 0,
      raw.getD 6 0, raw.getD 7 0] ++ raw.drop 8 = raw := by
  match raw, h with
  | _ :: _ :: _ :: _ :: _ :: _ :: _ :: _ :: _, _ => rfl

/-! ## UDP -/

/-- What acceptance by `udp_from_bytes` says about the bytes and the datagram. -/
theorem udpFromBytes_eq_some {raw : List UInt8} {datagram : UdpDatagram}
    (h : udpFromBytes raw = some datagram) :
    udpHeaderSize ≤ raw.length ∧ udpHeaderSize ≤ (readU16Be raw 4).toNat ∧
      (readU16Be raw 4).toNat - udpHeaderSize ≤ udpMaxPayload ∧
      datagram =
        { srcPort := readU16Be raw 0
          dstPort := readU16Be raw 2
          length := readU16Be raw 4
          checksum := readU16Be raw 6
          payload := (raw.drop udpHeaderSize).take ((readU16Be raw 4).toNat - udpHeaderSize) } := by
  rw [udpFromBytes] at h
  split at h
  · cases h
  · rename_i hheader
    dsimp only at h
    split at h
    · cases h
    · rename_i hlength
      split at h
      · cases h
      · rename_i hpayload
        rw [not_or, Nat.not_lt, Nat.not_lt] at hlength
        exact ⟨Nat.not_lt.mp hheader, hlength.1, Nat.not_lt.mp hpayload, (Option.some.inj h).symm⟩

/-- The rebuilt datagram is the received one, without the bytes after its length. -/
theorem udpBytes_received {raw : List UInt8} {datagram : UdpDatagram}
    (h : udpFromBytes raw = some datagram) :
    udpBytes datagram = raw.take (readU16Be raw 4).toNat := by
  obtain ⟨hheader, hlength, -, rfl⟩ := udpFromBytes_eq_some h
  generalize (readU16Be raw 4).toNat = length at hlength
  have hsplit := eightBytes_append_drop hheader
  calc
    udpBytes _ = [raw.getD 0 0, raw.getD 1 0, raw.getD 2 0, raw.getD 3 0, raw.getD 4 0, raw.getD 5 0,
        raw.getD 6 0, raw.getD 7 0] ++ (raw.drop 8).take (length - 8) := by
      simp only [udpBytes, writeU16Be_read]
      rfl
    _ = ([raw.getD 0 0, raw.getD 1 0, raw.getD 2 0, raw.getD 3 0, raw.getD 4 0, raw.getD 5 0,
        raw.getD 6 0, raw.getD 7 0] ++ raw.drop 8).take length := by
      rw [List.take_append, List.take_of_length_le (l := [_, _, _, _, _, _, _, _]) hlength]
      rfl
    _ = raw.take length := by rw [hsplit]

theorem udpValidateChecksum_received {raw : List UInt8} {datagram : UdpDatagram}
    (srcIp dstIp : IpAddress) (h : udpFromBytes raw = some datagram) :
    udpValidateChecksum datagram srcIp dstIp = true ↔
      udpComputeChecksum (raw.take (readU16Be raw 4).toNat) srcIp dstIp = 0 := by
  have hpayload : datagram.payload.length ≤ udpMaxPayload := by
    obtain ⟨-, -, hmax, rfl⟩ := udpFromBytes_eq_some h
    exact (List.length_take_le _ _).trans hmax
  rw [udpValidateChecksum_iff hpayload, udpBytes_received h]

/-! ## ICMP -/

/-- What acceptance by `icmp_from_bytes` says about the bytes and the message. -/
theorem icmpFromBytes_eq_some {raw : List UInt8} {message : IcmpMessage}
    (h : icmpFromBytes raw = some message) :
    icmpHeaderSize ≤ raw.length ∧ raw.length - icmpHeaderSize ≤ icmpMaxPayload ∧
      message =
        { type := raw.getD 0 0
          code := raw.getD 1 0
          checksum := readU16Be raw 2
          identifier := readU16Be raw 4
          sequence := readU16Be raw 6
          payload := raw.drop icmpHeaderSize } := by
  rw [icmpFromBytes] at h
  split at h
  · cases h
  · rename_i hheader
    split at h
    · cases h
    · rename_i hpayload
      exact ⟨Nat.not_lt.mp hheader, Nat.not_lt.mp hpayload, (Option.some.inj h).symm⟩

/-- The rebuilt message with the received checksum put back is the received one. -/
theorem icmpBytesWith_received {raw : List UInt8} {message : IcmpMessage}
    (h : icmpFromBytes raw = some message) : icmpBytesWith message message.checksum = raw := by
  obtain ⟨hheader, -, rfl⟩ := icmpFromBytes_eq_some h
  have hsplit := eightBytes_append_drop hheader
  simp only [icmpBytesWith, writeU16Be_read]
  exact hsplit

theorem icmpValidateChecksum_received {raw : List UInt8} {message : IcmpMessage}
    (h : icmpFromBytes raw = some message) :
    icmpValidateChecksum message = true ↔ icmpComputeChecksum raw = 0 := by
  have hpayload : message.payload.length ≤ icmpMaxPayload := by
    obtain ⟨-, hmax, rfl⟩ := icmpFromBytes_eq_some h
    rw [List.length_drop]
    exact hmax
  rw [icmpValidateChecksum_iff hpayload, icmpBytesWith_received h]

/-! ## Both -/

/-- `udp_validate_checksum` and `icmp_validate_checksum` decide the check of the bytes that arrived. -/
theorem datagram_validation_exact :
    (∀ (raw : List UInt8) (datagram : UdpDatagram) (srcIp dstIp : IpAddress),
      udpFromBytes raw = some datagram →
        (udpValidateChecksum datagram srcIp dstIp = true ↔
          udpComputeChecksum (raw.take (readU16Be raw 4).toNat) srcIp dstIp = 0)) ∧
    ∀ (raw : List UInt8) (message : IcmpMessage), icmpFromBytes raw = some message →
      (icmpValidateChecksum message = true ↔ icmpComputeChecksum raw = 0) :=
  ⟨fun _ _ srcIp dstIp h => udpValidateChecksum_received srcIp dstIp h,
    fun _ _ h => icmpValidateChecksum_received h⟩

/-- A datagram with one byte of data, three bytes after its end, and a wrong checksum. -/
def trailingDatagram : List UInt8 :=
  [0x00, 0x35, 0x13, 0x88, 0x00, 0x09, 0x00, 0x01, 0x61, 0x62, 0x63, 0x64]

/-- An echo request with one byte of data, and its checksum. -/
def oddEcho : List UInt8 :=
  [0x08, 0x00, 0x96, 0xFE, 0x00, 0x00, 0x00, 0x01, 0x61]

/-- The same message with its data damaged. -/
def damagedEcho : List UInt8 :=
  [0x08, 0x00, 0x96, 0xFE, 0x00, 0x00, 0x00, 0x01, 0x62]

/-- The datagram fails the check of its nine bytes, the message passes that of its own, and fails it when a byte is
damaged. -/
theorem datagram_validation_exact_odd :
    (∃ datagram, udpFromBytes trailingDatagram = some datagram ∧
      ¬ udpValidateChecksum datagram ipZero ipZero = true) ∧
    (∃ message, icmpFromBytes oddEcho = some message ∧ icmpValidateChecksum message = true) ∧
    ∃ message, icmpFromBytes damagedEcho = some message ∧ ¬ icmpValidateChecksum message = true := by
  have hdatagram : (udpFromBytes trailingDatagram).isSome = true := by decide +kernel
  have hmessage : (icmpFromBytes oddEcho).isSome = true := by decide +kernel
  have hdamaged : (icmpFromBytes damagedEcho).isSome = true := by decide +kernel
  obtain ⟨datagram, hdatagram⟩ := Option.isSome_iff_exists.mp hdatagram
  obtain ⟨message, hmessage⟩ := Option.isSome_iff_exists.mp hmessage
  obtain ⟨damaged, hdamaged⟩ := Option.isSome_iff_exists.mp hdamaged
  refine ⟨⟨datagram, hdatagram, ?_⟩, ⟨message, hmessage, ?_⟩, damaged, hdamaged, ?_⟩
  · rw [datagram_validation_exact.1 _ _ ipZero ipZero hdatagram]
    decide +kernel
  · rw [datagram_validation_exact.2 _ _ hmessage]
    decide +kernel
  · rw [datagram_validation_exact.2 _ _ hdamaged]
    decide +kernel

end MagiStack
