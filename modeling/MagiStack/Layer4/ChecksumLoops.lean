import MagiStack.Layer3.Icmp
import MagiStack.Layer4.Tcp
import MagiStack.Layer4.Udp

/-!
# ChecksumLoops — the four checksum functions and RFC 1071

The functions fold the carry back after every word.  A second embedding runs their loops with every 32-bit
addition checked and the inner loop cut off after one round; it always returns, and the same value.  That
value is the complement of the one's-complement sum of the words, so a replaced word is noticed unless it
is one zero of this arithmetic put for the other.  The functions for IPv4 and ICMP return `0` for an empty
buffer before they come to their loop.
-/

namespace MagiStack

open OnesComplement

/-! ## The loops with their additions checked -/

/-- `a + b`; `none` when it overflows. -/
def checkedAdd (a b : UInt32) : Option UInt32 :=
  if a.toNat + b.toNat < 2 ^ 32 then some (a + b) else none

/-- The carry-folding loop in at most `rounds` rounds; `none` when it would go on. -/
def foldCarryChecked : Nat → UInt32 → Option UInt32
  | 0, sum => if sum >>> 16 ≠ 0 then none else some sum
  | rounds + 1, sum =>
      if sum >>> 16 ≠ 0 then
        (checkedAdd (sum &&& (0xFFFF : UInt32)) (sum >>> 16)).bind (foldCarryChecked rounds)
      else
        some sum

/-- `sum += word` and the carry-folding loop. -/
def addWordChecked (rounds : Nat) (sum : UInt32) (word : UInt16) : Option UInt32 :=
  (checkedAdd sum word.toUInt32).bind (foldCarryChecked rounds)

/-- The word loop. -/
def sumWordsChecked (rounds : Nat) (sum : UInt32) : List UInt8 → Option UInt32
  | [] => some sum
  | [a] => addWordChecked rounds sum (a.toUInt16 <<< 8)
  | a :: b :: rest =>
      (addWordChecked rounds sum (beWord a b)).bind fun sum => sumWordsChecked rounds sum rest

/-- `ipv4_compute_checksum`, checked. -/
def ipv4ComputeChecksumChecked (rounds : Nat) (header : List UInt8) : Option UInt16 :=
  if header.length = 0 then some 0 else (sumWordsChecked rounds 0 header).map complement16

/-- `icmp_compute_checksum`, checked. -/
def icmpComputeChecksumChecked (rounds : Nat) (raw : List UInt8) : Option UInt16 :=
  if raw.length = 0 then some 0 else (sumWordsChecked rounds 0 raw).map complement16

/-- `tcp_compute_checksum` and `udp_compute_checksum`, checked. -/
def transportComputeChecksumChecked (rounds : Nat) (protocol : UInt8) (raw : List UInt8)
    (srcIp dstIp : IpAddress) : Option UInt16 := do
  let sum ← sumWordsChecked rounds 0 srcIp.octets
  let sum ← sumWordsChecked rounds sum dstIp.octets
  let sum ← addWordChecked rounds sum protocol.toUInt16
  let sum ← addWordChecked rounds sum (UInt16.ofNat raw.length)
  let sum ← sumWordsChecked rounds sum raw
  return complement16 sum

theorem checkedAdd_eq {a b : UInt32} (h : a.toNat + b.toNat < 2 ^ 32) :
    checkedAdd a b = some (a + b) :=
  if_pos h

/-- One round is enough for the sum of two words. -/
theorem foldCarryChecked_eq {sum : UInt32} (h : sum.toNat ≤ 131070) :
    foldCarryChecked 1 sum = some (foldCarry sum) := by
  rw [foldCarryChecked, foldCarry]
  by_cases hcarry : sum >>> 16 ≠ 0
  · have hadd : (sum &&& (0xFFFF : UInt32)).toNat + (sum >>> 16).toNat < 2 ^ 32 := by
      rw [shift16_toNat, mask16_toNat]
      omega
    have hdone : ¬ ((sum &&& (0xFFFF : UInt32)) + (sum >>> 16)) >>> 16 ≠ 0 := by
      rw [shift16_ne_zero, fold_toNat]
      omega
    rw [if_pos hcarry, if_pos hcarry, checkedAdd_eq hadd, Option.bind_some, foldCarryChecked, foldCarry,
      if_neg hdone, if_neg hdone]
  · rw [if_neg hcarry, if_neg hcarry]

theorem addWordChecked_eq {sum : UInt32} (h : sum.toNat ≤ 65535) (word : UInt16) :
    addWordChecked 1 sum word = some (foldCarry (sum + word.toUInt32)) ∧
      (foldCarry (sum + word.toUInt32)).toNat ≤ 65535 := by
  have hword := word.toNat_lt
  have hlt : sum.toNat + word.toUInt32.toNat < 2 ^ 32 := by
    rw [UInt16.toNat_toUInt32]
    omega
  have hadd : (sum + word.toUInt32).toNat = sum.toNat + word.toNat := by
    rw [UInt32.toNat_add, Nat.mod_eq_of_lt hlt, UInt16.toNat_toUInt32]
  constructor
  · rw [addWordChecked, checkedAdd_eq hlt, Option.bind_some, foldCarryChecked_eq (by omega)]
  · rw [foldCarry_toNat]
    exact ocNorm_le _

theorem sumWordsChecked_eq {sum : UInt32} (h : sum.toNat ≤ 65535) (raw : List UInt8) :
    sumWordsChecked 1 sum raw = some (sumWords sum raw) ∧ (sumWords sum raw).toNat ≤ 65535 := by
  induction sum, raw using sumWords.induct with
  | case1 sum => exact ⟨rfl, h⟩
  | case2 sum a =>
      rw [sumWordsChecked, sumWords]
      exact addWordChecked_eq h _
  | case3 sum a b rest ih =>
      obtain ⟨hadd, hle⟩ := addWordChecked_eq h (beWord a b)
      rw [sumWordsChecked, sumWords, hadd, Option.bind_some]
      exact ih hle

theorem ipv4ComputeChecksumChecked_eq (header : List UInt8) :
    ipv4ComputeChecksumChecked 1 header = some (ipv4ComputeChecksum header) := by
  rw [ipv4ComputeChecksumChecked, ipv4ComputeChecksum]
  split
  · rfl
  · rw [(sumWordsChecked_eq (Nat.zero_le _) header).1]
    rfl

theorem icmpComputeChecksumChecked_eq (raw : List UInt8) :
    icmpComputeChecksumChecked 1 raw = some (icmpComputeChecksum raw) :=
  ipv4ComputeChecksumChecked_eq raw

theorem transportComputeChecksumChecked_eq (protocol : UInt8) (raw : List UInt8)
    (srcIp dstIp : IpAddress) :
    transportComputeChecksumChecked 1 protocol raw srcIp dstIp =
      some (transportComputeChecksum protocol raw srcIp dstIp) := by
  obtain ⟨hsrc, hle⟩ := sumWordsChecked_eq (UInt32.toNat_zero ▸ Nat.zero_le _) srcIp.octets
  obtain ⟨hdst, hle⟩ := sumWordsChecked_eq hle dstIp.octets
  obtain ⟨hprotocol, hle⟩ := addWordChecked_eq hle protocol.toUInt16
  obtain ⟨hlength, hle⟩ := addWordChecked_eq hle (UInt16.ofNat raw.length)
  obtain ⟨hraw, -⟩ := sumWordsChecked_eq hle raw
  simp only [transportComputeChecksumChecked, Option.bind_eq_bind, hsrc, hdst, hprotocol, hlength, hraw,
    Option.bind_some]
  rfl

/-! ## The sum of RFC 1071 -/

/-- The complement of the one's-complement sum of words. -/
def rfc1071 (ws : List Nat) : Nat :=
  65535 - ocSum ws

/-- The words of the pseudo-header of a message of `len` bytes. -/
def pseudoHeaderWords (protocol : UInt8) (len : Nat) (srcIp dstIp : IpAddress) : List Nat :=
  words srcIp.octets ++ words dstIp.octets ++ [protocol.toNat, len % 65536]

theorem rfc1071_words (raw : List UInt8) : rfc1071 (words raw) = 65535 - ocNorm (wordSum raw) := by
  rw [rfc1071, ocSum_eq (words_le raw), sum_words]

theorem rfc1071_pseudoHeaderWords (protocol : UInt8) (raw : List UInt8) (srcIp dstIp : IpAddress) :
    rfc1071 (pseudoHeaderWords protocol raw.length srcIp dstIp ++ words raw) =
      65535 - ocNorm (pseudoHeaderSum protocol raw.length srcIp dstIp + wordSum raw) := by
  have hprotocol := protocol.toNat_lt
  have hle : ∀ w ∈ pseudoHeaderWords protocol raw.length srcIp dstIp ++ words raw, w ≤ 65535 := by
    intro w hw
    simp only [pseudoHeaderWords, List.mem_append, List.mem_cons, List.not_mem_nil, or_false] at hw
    rcases hw with ((hsrc | hdst) | rfl | rfl) | hraw
    · exact words_le _ w hsrc
    · exact words_le _ w hdst
    · omega
    · omega
    · exact words_le _ w hraw
  rw [rfc1071, ocSum_eq hle, pseudoHeaderWords, pseudoHeaderSum]
  simp only [List.sum_append, List.sum_cons, List.sum_nil, sum_words, Nat.add_zero, Nat.add_assoc]

theorem ipv4ComputeChecksum_rfc1071 {header : List UInt8} (h : header ≠ []) :
    (ipv4ComputeChecksum header).toNat = rfc1071 (words header) := by
  rw [ipv4ComputeChecksum_toNat h, rfc1071_words]

theorem transportComputeChecksum_rfc1071 (protocol : UInt8) (raw : List UInt8)
    (srcIp dstIp : IpAddress) :
    (transportComputeChecksum protocol raw srcIp dstIp).toNat =
      rfc1071 (pseudoHeaderWords protocol raw.length srcIp dstIp ++ words raw) := by
  rw [transportComputeChecksum_toNat, rfc1071_pseudoHeaderWords]

/-! ## Replaced words -/

/-- Bytes that verify no longer do with one word replaced, unless the old word and the new one are the two
zeros.  An odd last byte has only one zero. -/
structure DetectsWordErrors (compute : List UInt8 → UInt16) : Prop where
  word : ∀ (raw : List UInt8) (k : Nat) (value : UInt16), 2 * k + 1 < raw.length → compute raw = 0 →
    compute (setU16Be raw (2 * k) value) = 0 →
      readU16Be raw (2 * k) = value ∨ readU16Be raw (2 * k) = 0 ∧ value = 0xFFFF ∨
        readU16Be raw (2 * k) = 0xFFFF ∧ value = 0
  lastByte : ∀ (raw : List UInt8) (k : Nat) (value : UInt8), raw.length = 2 * k + 1 → compute raw = 0 →
    compute (raw.set (2 * k) value) = 0 → raw.getD (2 * k) 0 = value

/-- A function that verifies words over a total that depends on the length alone. -/
theorem detectsWordErrors_of_verifies {compute : List UInt8 → UInt16} (base : Nat → Nat)
    (h : ∀ raw, raw ≠ [] → (compute raw = 0 ↔ Verifies (base raw.length + wordSum raw))) :
    DetectsWordErrors compute := by
  constructor
  · intro raw k value hk hraw hset
    have hne : raw ≠ [] := List.ne_nil_of_length_pos (by omega)
    have hne' : setU16Be raw (2 * k) value ≠ [] :=
      List.ne_nil_of_length_pos (by rw [setU16Be_length]; omega)
    rw [h _ hne] at hraw
    rw [h _ hne', setU16Be_length] at hset
    have hsum := wordSum_setU16Be raw k value hk
    have hold := (readU16Be raw (2 * k)).toNat_lt
    have hnew := value.toNat_lt
    simp only [← UInt16.toNat_inj]
    exact hraw.replace (by omega) (by omega) (by omega) hset
  · intro raw k value hk hraw hset
    have hne : raw ≠ [] := List.ne_nil_of_length_pos (by omega)
    have hne' : raw.set (2 * k) value ≠ [] := List.ne_nil_of_length_pos (by rw [List.length_set]; omega)
    rw [h _ hne] at hraw
    rw [h _ hne', List.length_set] at hset
    have hsum := wordSum_set_last raw k value hk
    have hold := (raw.getD (2 * k) 0).toNat_lt
    have hnew := value.toNat_lt
    have hold' : 256 * (raw.getD (2 * k) 0).toNat ≤ 65535 := by omega
    have hnew' : 256 * value.toNat ≤ 65535 := by omega
    have hwords := hraw.replace hold' hnew' (by omega) hset
    rw [← UInt8.toNat_inj]
    omega

theorem transportComputeChecksum_detects (protocol : UInt8) (srcIp dstIp : IpAddress) :
    DetectsWordErrors fun raw => transportComputeChecksum protocol raw srcIp dstIp :=
  detectsWordErrors_of_verifies (fun len => pseudoHeaderSum protocol len srcIp dstIp)
    fun _ _ => transportComputeChecksum_eq_zero_iff

theorem ipv4ComputeChecksum_detects : DetectsWordErrors ipv4ComputeChecksum := by
  refine detectsWordErrors_of_verifies (fun _ => 0) fun raw h => ?_
  rw [Nat.zero_add]
  exact ipv4ComputeChecksum_eq_zero_iff h

/-- The loops of the four checksum functions end after one fold for each word and add without overflow;
they return the complement of the one's-complement sum of the words, behind those of the pseudo-header for
TCP and UDP, and they notice a replaced word.  For IPv4 and ICMP the buffer is not empty. -/
theorem checksum_loops_rfc1071 :
    (∀ raw, ipv4ComputeChecksumChecked 1 raw = some (ipv4ComputeChecksum raw) ∧
      icmpComputeChecksumChecked 1 raw = some (icmpComputeChecksum raw)) ∧
    (∀ raw, raw ≠ [] → (ipv4ComputeChecksum raw).toNat = rfc1071 (words raw) ∧
      (icmpComputeChecksum raw).toNat = rfc1071 (words raw)) ∧
    (∀ (raw : List UInt8) (srcIp dstIp : IpAddress),
      transportComputeChecksumChecked 1 ipv4ProtocolTcp raw srcIp dstIp =
          some (tcpComputeChecksum raw srcIp dstIp) ∧
        transportComputeChecksumChecked 1 ipv4ProtocolUdp raw srcIp dstIp =
          some (udpComputeChecksum raw srcIp dstIp) ∧
        (tcpComputeChecksum raw srcIp dstIp).toNat =
          rfc1071 (pseudoHeaderWords ipv4ProtocolTcp raw.length srcIp dstIp ++ words raw) ∧
        (udpComputeChecksum raw srcIp dstIp).toNat =
          rfc1071 (pseudoHeaderWords ipv4ProtocolUdp raw.length srcIp dstIp ++ words raw)) ∧
    DetectsWordErrors ipv4ComputeChecksum ∧ DetectsWordErrors icmpComputeChecksum ∧
    ∀ srcIp dstIp : IpAddress, (DetectsWordErrors fun raw => tcpComputeChecksum raw srcIp dstIp) ∧
      DetectsWordErrors fun raw => udpComputeChecksum raw srcIp dstIp := by
  refine ⟨fun raw => ⟨ipv4ComputeChecksumChecked_eq raw, icmpComputeChecksumChecked_eq raw⟩,
    fun raw h => ⟨ipv4ComputeChecksum_rfc1071 h, ipv4ComputeChecksum_rfc1071 h⟩, ?_,
    ipv4ComputeChecksum_detects, ipv4ComputeChecksum_detects, ?_⟩
  · intro raw srcIp dstIp
    exact ⟨transportComputeChecksumChecked_eq _ raw srcIp dstIp,
      transportComputeChecksumChecked_eq _ raw srcIp dstIp,
      transportComputeChecksum_rfc1071 _ raw srcIp dstIp, transportComputeChecksum_rfc1071 _ raw srcIp dstIp⟩
  · intro srcIp dstIp
    exact ⟨transportComputeChecksum_detects _ srcIp dstIp, transportComputeChecksum_detects _ srcIp dstIp⟩

theorem checksum_loops_rfc1071_three :
    (ipv4ComputeChecksum [0x12, 0x34, 0x56]).toNat = rfc1071 (words [0x12, 0x34, 0x56]) :=
  (checksum_loops_rfc1071.2.1 [0x12, 0x34, 0x56] (by decide)).1

/-- Without a byte there is nothing to add, and the complement of the sum is not `0`. -/
theorem checksum_loops_rfc1071_empty :
    ¬ ∀ raw, (ipv4ComputeChecksum raw).toNat = rfc1071 (words raw) := by
  intro h
  have hempty := h []
  revert hempty
  decide

end MagiStack
