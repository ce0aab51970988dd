import MagiStack.Layer2.Ethernet
import MagiStack.Layer3.Ipv4

/-!
# Arp — messages and the address table

Embedding of `layer2/arp.c`: `ARPMessage` with its two serializers, and the table of at most
`ARP_TABLE_MAX_ENTRIES` addresses.
-/

namespace MagiStack

def arpTableMaxEntries : Nat := 100
def arpSerializedSize : Nat := 28
def arpHardwareEthernet : UInt16 := 1
def arpProtocolIpv4 : UInt16 := 0x0800
def arpHardwareLen : UInt8 := 6
def arpProtocolLen : UInt8 := 4

/-! ## Messages -/

/-- `ArpOpcode`. -/
inductive ArpOpcode
  | request
  | reply
  deriving DecidableEq, Repr

/-- The value of an `ArpOpcode`. -/
def ArpOpcode.value : ArpOpcode → UInt16
  | .request => 1
  | .reply => 2

/-- The opcodes `arp_message_from_bytes` accepts. -/
def ArpOpcode.ofValue (value : UInt16) : Option ArpOpcode :=
  if value = 1 then some .request else if value = 2 then some .reply else none

/-- `ARPMessage`. -/
structure ArpMessage where
  opcode : ArpOpcode
  senderMac : MacAddress
  senderIp : IpAddress
  targetMac : MacAddress
  targetIp : IpAddress
  deriving DecidableEq, Repr

/-- `arp_message_init_request`. -/
def arpMessageInitRequest (senderMac : MacAddress) (senderIp targetIp : IpAddress) : ArpMessage :=
  { opcode := .request
    senderMac := senderMac
    senderIp := senderIp
    targetMac := ⟨0, 0, 0, 0, 0, 0⟩
    targetIp := targetIp }

/-- `arp_message_init_reply`. -/
def arpMessageInitReply (senderMac : MacAddress) (senderIp : IpAddress) (targetMac : MacAddress)
    (targetIp : IpAddress) : ArpMessage :=
  { opcode := .reply
    senderMac := senderMac
    senderIp := senderIp
    targetMac := targetMac
    targetIp := targetIp }

/-- The bytes `arp_message_to_bytes` writes. -/
def arpMessageBytes (message : ArpMessage) : List UInt8 :=
  writeU16Be arpHardwareEthernet ++ writeU16Be arpProtocolIpv4 ++
    [arpHardwareLen, arpProtocolLen] ++ writeU16Be message.opcode.value ++
    message.senderMac.bytes ++ message.senderIp.octets ++ message.targetMac.bytes ++
    message.targetIp.octets

/-- `arp_message_to_bytes`; `none` when it returns `0`. -/
def arpMessageToBytes (message : ArpMessage) (outSize : Nat) : Option (List UInt8) :=
  if outSize < arpSerializedSize then none else some (arpMessageBytes message)

/-- `arp_message_from_bytes`. -/
def arpMessageFromBytes (raw : List UInt8) : Option ArpMessage :=
  if raw.length < arpSerializedSize then
    none
  else if readU16Be raw 0 ≠ arpHardwareEthernet ∨ readU16Be raw 2 ≠ arpProtocolIpv4 ∨
      raw.getD 4 0 ≠ arpHardwareLen ∨ raw.getD 5 0 ≠ arpProtocolLen then
    none
  else
    (ArpOpcode.ofValue (readU16Be raw 6)).map fun opcode =>
      { opcode := opcode
        senderMac := MacAddress.read raw 8
        senderIp := IpAddress.read raw 14
        targetMac := MacAddress.read raw 18
        targetIp := IpAddress.read raw 24 }

@[simp] theorem arpMessageBytes_length (message : ArpMessage) :
    (arpMessageBytes message).length = arpSerializedSize := rfl

/-- A message survives its serialization, up to the prefixes of its addresses. -/
theorem arpMessageFromBytes_bytes (message : ArpMessage) :
    arpMessageFromBytes (arpMessageBytes message) =
      some
        { message with
          senderIp := message.senderIp.withoutPrefix
          targetIp := message.targetIp.withoutPrefix } := by
  have hhardware : readU16Be (arpMessageBytes message) 0 = arpHardwareEthernet :=
    readU16Be_append [] ((arpMessageBytes message).drop 2) arpHardwareEthernet
  have hprotocol : readU16Be (arpMessageBytes message) 2 = arpProtocolIpv4 :=
    readU16Be_append (writeU16Be arpHardwareEthernet) ((arpMessageBytes message).drop 4)
      arpProtocolIpv4
  have hhardwareLen : (arpMessageBytes message).getD 4 0 = arpHardwareLen := rfl
  have hprotocolLen : (arpMessageBytes message).getD 5 0 = arpProtocolLen := rfl
  have hvalue : readU16Be (arpMessageBytes message) 6 = message.opcode.value :=
    readU16Be_append ((arpMessageBytes message).take 6) ((arpMessageBytes message).drop 8)
      message.opcode.value
  have hopcode : ArpOpcode.ofValue (readU16Be (arpMessageBytes message) 6) = some message.opcode := by
    rw [hvalue]
    cases message.opcode
    all_goals rfl
  have hheader : ¬ (readU16Be (arpMessageBytes message) 0 ≠ arpHardwareEthernet ∨
      readU16Be (arpMessageBytes message) 2 ≠ arpProtocolIpv4 ∨
      (arpMessageBytes message).getD 4 0 ≠ arpHardwareLen ∨
      (arpMessageBytes message).getD 5 0 ≠ arpProtocolLen) := by
    rw [hhardware, hprotocol, hhardwareLen, hprotocolLen]
    decide
  rw [arpMessageFromBytes, if_neg (by simp), if_neg hheader, hopcode]
  rfl

/-! ## The table -/

/-- `ArpTableEntry`. -/
structure ArpTableEntry where
  ip : IpAddress
  mac : MacAddress
  deriving DecidableEq, Repr

/-- `ArpTable`; the list holds the `size` entries in use. -/
structure ArpTable where
  entries : List ArpTableEntry
  size_le : entries.length ≤ arpTableMaxEntries

/-- `arp_table_init`. -/
def arpTableInit : ArpTable :=
  { entries := [], size_le := Nat.zero_le _ }

/-- `arp_table_find_index`. -/
def arpTableFindIndex (table : ArpTable) (ip : IpAddress) : Option Nat :=
  table.entries.findIdx? fun entry => ipOctetsEqualPublic entry.ip ip

/-- `arp_table_set`; `none` when it returns `0`. -/
def arpTableSet (table : ArpTable) (ip : IpAddress) (mac : MacAddress) : Option ArpTable :=
  match arpTableFindIndex table ip with
  | some index =>
      some
        { entries := table.entries.modify index fun entry => { entry with mac := mac }
          size_le := by simpa using table.size_le }
  | none =>
      if h : table.entries.length < arpTableMaxEntries then
        some
          { entries := table.entries ++ [{ ip := ip, mac := mac }]
            size_le := by
              rw [List.length_append]
              exact h }
      else
        none

/-- `arp_table_get_const`. -/
def arpTableGetConst (table : ArpTable) (ip : IpAddress) : Option MacAddress :=
  (arpTableFindIndex table ip).bind fun index => table.entries[index]?.map ArpTableEntry.mac

/-- What has been set is found. -/
theorem arpTableGetConst_set {table table' : ArpTable} {ip : IpAddress} {mac : MacAddress}
    (h : arpTableSet table ip mac = some table') : arpTableGetConst table' ip = some mac := by
  rw [arpTableSet] at h
  cases hindex : arpTableFindIndex table ip with
  | some index =>
      rw [hindex] at h
      cases h
      rcases List.findIdx?_eq_some_iff_getElem.mp hindex with ⟨hlt, hfound, hbefore⟩
      -- The entry keeps its address, so that it is still the first one found.
      have hmodified : (table.entries.modify index fun entry => { entry with mac := mac }).findIdx?
          (fun entry => ipOctetsEqualPublic entry.ip ip) = some index := by
        refine List.findIdx?_eq_some_iff_getElem.mpr ⟨by simpa using hlt, ?_, ?_⟩
        · simpa using hfound
        · intro j hj
          have hne : index ≠ j := by omega
          simpa [List.getElem_modify, hne] using hbefore j hj
      rw [arpTableGetConst, arpTableFindIndex]
      simp only [hmodified, Option.bind_some]
      simp [hlt]
  | none =>
      rw [hindex] at h
      dsimp only at h
      split at h
      · cases h
        have hnone : ∀ entry ∈ table.entries, ipOctetsEqualPublic entry.ip ip = false :=
          List.findIdx?_eq_none_iff.mp hindex
        have happended : (table.entries ++ [ArpTableEntry.mk ip mac]).findIdx?
            (fun entry => ipOctetsEqualPublic entry.ip ip) = some table.entries.length := by
          rw [List.findIdx?_append, List.findIdx?_eq_none_iff.mpr hnone]
          simp [List.findIdx?_cons, ipOctetsEqualPublic]
        rw [arpTableGetConst, arpTableFindIndex]
        simp only [happended, Option.bind_some]
        simp
      · cases h

end MagiStack
