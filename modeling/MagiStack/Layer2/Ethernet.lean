import MagiStack.Core.Bytes
import Mathlib.Data.List.GetD

/-!
# Ethernet — frames, their serialization and the 802.1Q tag

Embedding of `layer2/ethernet.c` and of the address type of `core/mac.h`.  The serializer writes the
tag `0x8100`, then the VLAN id masked to twelve bits; the parser reads a tag exactly when the type
field is `0x8100`.  `ethernetFromBytes_bytes` is the round trip the switches and hosts rely on.
-/

namespace MagiStack

/-! ## MAC addresses -/

/-- `MacAddress`: six bytes. -/
structure MacAddress where
  byte0 : UInt8
  byte1 : UInt8
  byte2 : UInt8
  byte3 : UInt8
  byte4 : UInt8
  byte5 : UInt8
  deriving DecidableEq, Repr

namespace MacAddress

/-- `mac.bytes`. -/
def bytes (mac : MacAddress) : List UInt8 :=
  [mac.byte0, mac.byte1, mac.byte2, mac.byte3, mac.byte4, mac.byte5]

/-- The address at `raw + i`. -/
def read (raw : List UInt8) (i : Nat) : MacAddress :=
  { byte0 := raw.getD i 0
    byte1 := raw.getD (i + 1) 0
    byte2 := raw.getD (i + 2) 0
    byte3 := raw.getD (i + 3) 0
    byte4 := raw.getD (i + 4) 0
    byte5 := raw.getD (i + 5) 0 }

/-- `mac_broadcast`. -/
def broadcast : MacAddress := ⟨0xFF, 0xFF, 0xFF, 0xFF, 0xFF, 0xFF⟩

/-- The group bit of the first byte is clear. -/
def IsUnicast (mac : MacAddress) : Prop :=
  mac.byte0 &&& (1 : UInt8) = 0

instance (mac : MacAddress) : Decidable mac.IsUnicast :=
  inferInstanceAs (Decidable (mac.byte0 &&& (1 : UInt8) = 0))

@[simp] theorem bytes_length (mac : MacAddress) : mac.bytes.length = 6 := rfl

theorem bytes_injective {a b : MacAddress} (h : a.bytes = b.bytes) : a = b := by
  cases a
  cases b
  simpa [bytes] using h

end MacAddress

/-- `mac_equal`. -/
def macEqual (a b : MacAddress) : Bool :=
  a.bytes == b.bytes

@[simp] theorem macEqual_iff {a b : MacAddress} : macEqual a b = true ↔ a = b := by
  constructor
  · intro h
    exact MacAddress.bytes_injective (beq_iff_eq.1 h)
  · rintro rfl
    simp [macEqual]

/-- `ethernet_is_broadcast`. -/
def ethernetIsBroadcast (mac : MacAddress) : Bool :=
  mac.bytes.all (· == 0xFF)

/-! ## Frames -/

def ethernetMaxPayload : Nat := 1500
def ethernetHeaderSize : Nat := 14
def ethernetVlanHeaderSize : Nat := 18
def ethernetTypeIpv4 : UInt16 := 0x0800
def ethernetTypeArp : UInt16 := 0x0806
def ethernetTypeVlan : UInt16 := 0x8100
def ethernetVlanIdMask : UInt16 := 0x0FFF

/-- `EthernetFrame`; the payload is the list of its `payload_len` bytes. -/
structure EthernetFrame where
  dstMac : MacAddress
  srcMac : MacAddress
  hasVlan : Bool
  vlanId : UInt16
  ethertype : UInt16
  payload : List UInt8
  deriving DecidableEq, Repr

/-- `ethernet_create`. -/
def ethernetCreate (dstMac srcMac : MacAddress) (ethertype : UInt16) (payload : List UInt8) :
    Option EthernetFrame :=
  if ethernetMaxPayload < payload.length then
    none
  else
    some
      { dstMac := dstMac
        srcMac := srcMac
        hasVlan := false
        vlanId := 0
        ethertype := ethertype
        payload := payload }

/-- `ethernet_set_vlan`. -/
def ethernetSetVlan (frame : EthernetFrame) (vlanId : UInt16) : Option EthernetFrame :=
  if vlanId = 0 ∨ ethernetVlanIdMask < vlanId then
    none
  else
    some { frame with hasVlan := true, vlanId := vlanId }

/-- `ethernet_clear_vlan`. -/
def ethernetClearVlan (frame : EthernetFrame) : EthernetFrame :=
  { frame with hasVlan := false, vlanId := 0 }

/-- The size of the header `ethernet_to_bytes` writes. -/
def ethernetFrameHeaderSize (frame : EthernetFrame) : Nat :=
  if frame.hasVlan then ethernetVlanHeaderSize else ethernetHeaderSize

/-- The bytes `ethernet_to_bytes` writes. -/
def ethernetBytes (frame : EthernetFrame) : List UInt8 :=
  frame.dstMac.bytes ++ frame.srcMac.bytes ++
    (if frame.hasVlan then
      writeU16Be ethernetTypeVlan ++ writeU16Be (frame.vlanId &&& ethernetVlanIdMask)
    else
      []) ++
    writeU16Be frame.ethertype ++ frame.payload

/-- `ethernet_to_bytes` into a buffer of `outSize` bytes. -/
def ethernetToBytes (frame : EthernetFrame) (outSize : Nat) : Option (List UInt8) :=
  if ethernetMaxPayload < frame.payload.length ∨
      outSize < ethernetFrameHeaderSize frame + frame.payload.length then
    none
  else
    some (ethernetBytes frame)

/-- `ethernet_from_bytes`. -/
def ethernetFromBytes (raw : List UInt8) : Option EthernetFrame :=
  if raw.length < ethernetHeaderSize then
    none
  else if readU16Be raw 12 = ethernetTypeVlan then
    if raw.length < ethernetVlanHeaderSize then
      none
    else if ethernetMaxPayload < raw.length - ethernetVlanHeaderSize then
      none
    else
      some
        { dstMac := MacAddress.read raw 0
          srcMac := MacAddress.read raw 6
          hasVlan := true
          vlanId := readU16Be raw 14 &&& ethernetVlanIdMask
          ethertype := readU16Be raw 16
          payload := raw.drop ethernetVlanHeaderSize }
  else if ethernetMaxPayload < raw.length - ethernetHeaderSize then
    none
  else
    some
      { dstMac := MacAddress.read raw 0
        srcMac := MacAddress.read raw 6
        hasVlan := false
        vlanId := 0
        ethertype := readU16Be raw 12
        payload := raw.drop ethernetHeaderSize }

/-! ## Round trip -/

/-- A frame whose serialization parses back to itself: the payload fits, a tag is a twelve-bit id,
and an untagged frame has no stale id and no type field that reads as a tag. -/
structure EthernetFrame.Serializable (frame : EthernetFrame) : Prop where
  payload_le : frame.payload.length ≤ ethernetMaxPayload
  vlanId_masked : frame.hasVlan = true → frame.vlanId &&& ethernetVlanIdMask = frame.vlanId
  vlanId_zero : frame.hasVlan = false → frame.vlanId = 0
  ethertype_ne : frame.hasVlan = false → frame.ethertype ≠ ethernetTypeVlan

/-- The serializer succeeds into the 1518-byte buffers of the senders. -/
theorem ethernetToBytes_eq {frame : EthernetFrame}
    (h : frame.payload.length ≤ ethernetMaxPayload) :
    ethernetToBytes frame (ethernetVlanHeaderSize + ethernetMaxPayload) =
      some (ethernetBytes frame) := by
  have hfit : ¬ (ethernetMaxPayload < frame.payload.length ∨
      ethernetVlanHeaderSize + ethernetMaxPayload <
        ethernetFrameHeaderSize frame + frame.payload.length) := by
    unfold ethernetFrameHeaderSize
    simp only [ethernetMaxPayload, ethernetVlanHeaderSize, ethernetHeaderSize] at h ⊢
    split <;> omega
  rw [ethernetToBytes, if_neg hfit]

/-- A parsed frame is serializable. -/
theorem ethernetFromBytes_serializable {raw : List UInt8} {frame : EthernetFrame}
    (h : ethernetFromBytes raw = some frame) : frame.Serializable := by
  unfold ethernetFromBytes at h
  split at h
  · cases h
  · split at h
    · split at h
      · cases h
      · split at h
        · cases h
        · rename_i hpay
          cases h
          refine ⟨?_, ?_, ?_, ?_⟩
          · simpa using Nat.le_of_not_lt hpay
          · intro _
            simp [UInt16.and_assoc]
          · intro hno
            cases hno
          · intro hno
            cases hno
    · rename_i htag
      split at h
      · cases h
      · rename_i hpay
        cases h
        refine ⟨?_, ?_, fun _ => rfl, fun _ => htag⟩
        · simpa using Nat.le_of_not_lt hpay
        · intro hno
          cases hno

theorem ethernetVlanIdMask_and_toNat (vlanId : UInt16) :
    (vlanId &&& ethernetVlanIdMask).toNat = vlanId.toNat % 4096 := by
  rw [UInt16.toNat_and]
  exact Nat.and_two_pow_sub_one_eq_mod vlanId.toNat 12

/-- A tagged frame is serializable, and has the type and the payload it had before. -/
theorem ethernetSetVlan_serializable {frame tagged : EthernetFrame} (h : frame.Serializable)
    {vlanId : UInt16} (hset : ethernetSetVlan frame vlanId = some tagged) :
    tagged.Serializable ∧ tagged.ethertype = frame.ethertype ∧ tagged.payload = frame.payload := by
  rw [ethernetSetVlan] at hset
  split at hset
  · cases hset
  · rename_i hvalid
    cases hset
    refine ⟨⟨h.payload_le, fun _ => ?_, fun hno => ?_, fun hno => ?_⟩, rfl, rfl⟩
    · have hle : ¬ ethernetVlanIdMask < vlanId := fun hlt => hvalid (Or.inr hlt)
      have hmask : ethernetVlanIdMask.toNat = 4095 := rfl
      rw [UInt16.lt_iff_toNat_lt] at hle
      apply UInt16.toNat_inj.mp
      rw [ethernetVlanIdMask_and_toNat]
      dsimp only
      omega
    · cases hno
    · cases hno

/-- Parsing the bytes of a serializable frame gives the frame back. -/
theorem ethernetFromBytes_bytes {frame : EthernetFrame} (h : frame.Serializable) :
    ethernetFromBytes (ethernetBytes frame) = some frame := by
  obtain ⟨dstMac, srcMac, hasVlan, vlanId, ethertype, payload⟩ := frame
  obtain ⟨hpay, hmask, hzero, htype⟩ := h
  simp only [ethernetMaxPayload] at hpay
  cases hasVlan with
  | true =>
      have hmask' : vlanId &&& ethernetVlanIdMask = vlanId := hmask rfl
      simp [ethernetFromBytes, ethernetBytes, writeU16Be, MacAddress.bytes, MacAddress.read,
        readU16Be, ethernetHeaderSize, ethernetVlanHeaderSize, ethernetMaxPayload, hmask',
        Nat.not_lt.2 hpay]
  | false =>
      have htype' : ethertype ≠ ethernetTypeVlan := htype rfl
      have hzero' : vlanId = 0 := hzero rfl
      simp [ethernetFromBytes, ethernetBytes, writeU16Be, MacAddress.bytes, MacAddress.read,
        readU16Be, ethernetHeaderSize, ethernetMaxPayload, hzero', htype',
        Nat.not_lt.2 hpay]

end MagiStack
