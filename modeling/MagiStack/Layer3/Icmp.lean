import MagiStack.Core.Checksum

/-!
# Icmp — messages and their checksum

Embedding of `layer3/icmp.c`.  Unlike the TCP and UDP serializers, `icmp_to_bytes` computes the
checksum itself and ignores the checksum field of the message.
-/

namespace MagiStack

open OnesComplement

def icmpHeaderSize : Nat := 8
def icmpMaxPayload : Nat := 1472
def icmpEchoReply : UInt8 := 0
def icmpDestUnreachable : UInt8 := 3
def icmpEchoRequest : UInt8 := 8
def icmpTimeExceeded : UInt8 := 11

/-- `ICMPMessage`; the payload is the list of its `payload_len` bytes. -/
structure IcmpMessage where
  type : UInt8
  code : UInt8
  checksum : UInt16
  identifier : UInt16
  sequence : UInt16
  payload : List UInt8
  deriving DecidableEq, Repr

/-- `icmp_create`. -/
def icmpCreate (type code : UInt8) (identifier sequence : UInt16) (payload : List UInt8) :
    Option IcmpMessage :=
  if icmpMaxPayload < payload.length then
    none
  else
    some
      { type := type
        code := code
        checksum := 0
        identifier := identifier
        sequence := sequence
        payload := payload }

/-- `icmp_compute_checksum`. -/
def icmpComputeChecksum (raw : List UInt8) : UInt16 :=
  if raw.length = 0 then 0 else complement16 (sumWords 0 raw)

/-- The bytes of a message with the given checksum word. -/
def icmpBytesWith (message : IcmpMessage) (checksum : UInt16) : List UInt8 :=
  [message.type, message.code] ++ writeU16Be checksum ++ writeU16Be message.identifier ++
    writeU16Be message.sequence ++ message.payload

/-- The bytes `icmp_to_bytes` writes: the message over a zero checksum word, then its checksum. -/
def icmpBytes (message : IcmpMessage) : List UInt8 :=
  let out := icmpBytesWith message 0
  setU16Be out 2 (icmpComputeChecksum out)

/-- `icmp_to_bytes` into a buffer of `outSize` bytes. -/
def icmpToBytes (message : IcmpMessage) (outSize : Nat) : Option (List UInt8) :=
  if icmpMaxPayload < message.payload.length then
    none
  else if outSize < icmpHeaderSize + message.payload.length then
    none
  else
    some (icmpBytes message)

/-- `icmp_from_bytes`. -/
def icmpFromBytes (raw : List UInt8) : Option IcmpMessage :=
  if raw.length < icmpHeaderSize then
    none
  else if icmpMaxPayload < raw.length - icmpHeaderSize then
    none
  else
    some
      { type := raw.getD 0 0
        code := raw.getD 1 0
        checksum := readU16Be raw 2
        identifier := readU16Be raw 4
        sequence := readU16Be raw 6
        payload := raw.drop icmpHeaderSize }

/-- `icmp_validate_checksum`. -/
def icmpValidateChecksum (message : IcmpMessage) : Bool :=
  match icmpToBytes message (icmpHeaderSize + icmpMaxPayload) with
  | none => false
  | some raw => icmpComputeChecksum (setU16Be raw 2 message.checksum) = 0

/-! ## Serialization -/

theorem icmpBytesWith_length (message : IcmpMessage) (checksum : UInt16) :
    (icmpBytesWith message checksum).length = icmpHeaderSize + message.payload.length := by
  simp [icmpBytesWith, icmpHeaderSize]
  omega

theorem setU16Be_icmpBytesWith (message : IcmpMessage) (old value : UInt16) :
    setU16Be (icmpBytesWith message old) 2 value = icmpBytesWith message value := by
  simp [setU16Be, icmpBytesWith, writeU16Be]

theorem icmpBytes_eq (message : IcmpMessage) :
    icmpBytes message =
      icmpBytesWith message (icmpComputeChecksum (icmpBytesWith message 0)) :=
  setU16Be_icmpBytesWith message 0 _

/-- The serializer succeeds into the 1480-byte buffers of the senders. -/
theorem icmpToBytes_eq {message : IcmpMessage} (h : message.payload.length ≤ icmpMaxPayload) :
    icmpToBytes message (icmpHeaderSize + icmpMaxPayload) = some (icmpBytes message) := by
  rw [icmpToBytes, if_neg (by omega), if_neg (by omega)]

theorem icmpValidateChecksum_iff {message : IcmpMessage}
    (h : message.payload.length ≤ icmpMaxPayload) :
    icmpValidateChecksum message = true ↔
      icmpComputeChecksum (icmpBytesWith message message.checksum) = 0 := by
  simp [icmpValidateChecksum, icmpToBytes_eq h, icmpBytes_eq, setU16Be_icmpBytesWith]

/-- Parsing serialized bytes gives the message back, its checksum field being the word on the
wire. -/
theorem icmpFromBytes_bytesWith {message : IcmpMessage} (checksum : UInt16)
    (h : message.payload.length ≤ icmpMaxPayload) :
    icmpFromBytes (icmpBytesWith message checksum) =
      some { message with checksum := checksum } := by
  simp only [icmpMaxPayload] at h
  simp [icmpFromBytes, icmpBytesWith, writeU16Be, readU16Be, icmpHeaderSize, icmpMaxPayload,
    Nat.not_lt.2 h]

/-- A message whose checksum field holds the checksum of its zeroed serialization is valid. -/
theorem icmpValidateChecksum_stored {message : IcmpMessage}
    (h : message.payload.length ≤ icmpMaxPayload)
    (hstored : message.checksum = icmpComputeChecksum (icmpBytesWith message 0)) :
    icmpValidateChecksum message = true := by
  have hlen := icmpBytesWith_length message 0
  have hlen' := icmpBytesWith_length message message.checksum
  have hne : (icmpBytesWith message 0).length ≠ 0 := by
    rw [hlen, icmpHeaderSize]
    omega
  have hne' : (icmpBytesWith message message.checksum).length ≠ 0 := by
    rw [hlen', icmpHeaderSize]
    omega
  have hzero : readU16Be (icmpBytesWith message 0) 2 = 0 := by
    simp [readU16Be, icmpBytesWith, writeU16Be]
  have hsum : ∀ raw : List UInt8, (sumWords 0 raw).toNat = ocNorm (0 + wordSum raw) :=
    fun raw => sumWords_toNat (n := 0) rfl raw
  have hvalue : message.checksum.toNat = 65535 - ocNorm (0 + wordSum (icmpBytesWith message 0)) := by
    rw [hstored, icmpComputeChecksum, if_neg hne, complement16_of_ocNorm (hsum _)]
  have hverifies := verifies_setU16Be (k := 1) (by rw [hlen, icmpHeaderSize]; omega) hzero hvalue
  rw [setU16Be_icmpBytesWith] at hverifies
  rw [icmpValidateChecksum_iff h, icmpComputeChecksum, if_neg hne',
    complement16_eq_zero_iff (hsum _)]
  exact hverifies

end MagiStack
