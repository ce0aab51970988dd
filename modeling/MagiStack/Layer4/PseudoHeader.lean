import MagiStack.Layer3.Ipv4

/-!
# PseudoHeader — the checksum of TCP and UDP

`tcp_compute_checksum` and `udp_compute_checksum` are one loop with two protocol numbers: the words
of both addresses, the protocol, the length truncated to 16 bits, then the words of the message.
-/

namespace MagiStack

open OnesComplement

/-- `tcp_compute_checksum` and `udp_compute_checksum`, for the protocol number of either. -/
def transportComputeChecksum (protocol : UInt8) (raw : List UInt8) (srcIp dstIp : IpAddress) :
    UInt16 :=
  let sum := sumWords 0 srcIp.octets
  let sum := sumWords sum dstIp.octets
  let sum := foldCarry (sum + protocol.toUInt16.toUInt32)
  let sum := foldCarry (sum + (UInt16.ofNat raw.length).toUInt32)
  complement16 (sumWords sum raw)

/-- The ordinary sum of the pseudo-header words of a message of `len` bytes. -/
def pseudoHeaderSum (protocol : UInt8) (len : Nat) (srcIp dstIp : IpAddress) : Nat :=
  wordSum srcIp.octets + wordSum dstIp.octets + protocol.toNat + len % 65536

theorem transportSum_toNat (protocol : UInt8) (raw : List UInt8) (srcIp dstIp : IpAddress) :
    (sumWords (foldCarry (foldCarry (sumWords (sumWords 0 srcIp.octets) dstIp.octets +
      protocol.toUInt16.toUInt32) + (UInt16.ofNat raw.length).toUInt32)) raw).toNat =
      ocNorm (pseudoHeaderSum protocol raw.length srcIp dstIp + wordSum raw) := by
  have hsrc : (sumWords 0 srcIp.octets).toNat = ocNorm (wordSum srcIp.octets) := by
    simpa using @sumWords_toNat 0 0 rfl srcIp.octets
  have hdst := sumWords_toNat hsrc dstIp.octets
  have hprotocol := foldCarry_add_toNat hdst protocol.toUInt16
  have hlen := foldCarry_add_toNat hprotocol (UInt16.ofNat raw.length)
  rw [sumWords_toNat hlen, UInt8.toNat_toUInt16, UInt16.toNat_ofNat', pseudoHeaderSum]

/-- A message verifies when the pseudo-header and the message words together sum to all ones. -/
theorem transportComputeChecksum_eq_zero_iff {protocol : UInt8} {raw : List UInt8}
    {srcIp dstIp : IpAddress} :
    transportComputeChecksum protocol raw srcIp dstIp = 0 ↔
      Verifies (pseudoHeaderSum protocol raw.length srcIp dstIp + wordSum raw) :=
  complement16_eq_zero_iff (transportSum_toNat protocol raw srcIp dstIp)

theorem transportComputeChecksum_toNat (protocol : UInt8) (raw : List UInt8)
    (srcIp dstIp : IpAddress) :
    (transportComputeChecksum protocol raw srcIp dstIp).toNat =
      65535 - ocNorm (pseudoHeaderSum protocol raw.length srcIp dstIp + wordSum raw) :=
  complement16_of_ocNorm (transportSum_toNat protocol raw srcIp dstIp)

/-- The senders store the checksum of the message with a zero checksum word; the stored message
verifies, for whatever length and content. -/
theorem transportComputeChecksum_stored (protocol : UInt8) {raw : List UInt8} {k : Nat}
    (srcIp dstIp : IpAddress) (h : 2 * k + 1 < raw.length) (hzero : readU16Be raw (2 * k) = 0) :
    transportComputeChecksum protocol
      (setU16Be raw (2 * k) (transportComputeChecksum protocol raw srcIp dstIp)) srcIp dstIp = 0 := by
  rw [transportComputeChecksum_eq_zero_iff, setU16Be_length]
  exact verifies_setU16Be h hzero (transportComputeChecksum_toNat protocol raw srcIp dstIp)

/-- The checksum does not see the prefix lengths of the addresses. -/
@[simp] theorem transportComputeChecksum_withoutPrefix (protocol : UInt8) (raw : List UInt8)
    (srcIp dstIp : IpAddress) :
    transportComputeChecksum protocol raw srcIp.withoutPrefix dstIp.withoutPrefix =
      transportComputeChecksum protocol raw srcIp dstIp := rfl

end MagiStack
