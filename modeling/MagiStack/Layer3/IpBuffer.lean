import MagiStack.Layer3.IpText
import MagiStack.Library.TextBuffer

/-!
# IpBuffer — addresses written into buffers and read from them

`ip_to_string` with the buffer it writes into, and the two helpers of `utils/loader.c` on top of it.  An
address with at most 32 network bits takes eighteen bytes and the terminating zero, so that nothing is cut
in a buffer of nineteen.
-/

namespace MagiStack

open TextBuffer

variable {outSize : Nat}

/-- `ip_to_string`. -/
def ipToStringInto (ip : Option IpAddress) (out : Vector UInt8 outSize) (includePrefix : Bool) :
    Vector UInt8 outSize :=
  match ip with
  | none => print out (text "?.?.?.?")
  | some ip => print out (ipToString ip includePrefix)

/-- `parse_ip_address` of the loader. -/
def parseIpAddress (str : Text) (ip : IpAddress) : Bool × IpAddress :=
  ipParse str ip

/-- `ip_address_to_string` of the loader. -/
def ipAddressToString (ip : IpAddress) (out : Vector UInt8 outSize) : Vector UInt8 outSize :=
  ipToStringInto (some ip) out (0 < ip.prefixLen)

/-- The network bits have two digits at most. -/
theorem ipToString_length_le {ip : IpAddress} (h : ip.prefixLen.toNat ≤ 32) (includePrefix : Bool) :
    (ipToString ip includePrefix).length ≤ 18 := by
  have hbits : (printNat ip.prefixLen.toNat).length ≤ 2 := printNat_length (by decide) (by omega)
  exact ipToString_length_of hbits includePrefix

/-- In a buffer of nineteen bytes nothing of an address is cut. -/
theorem read_ipToStringInto {ip : IpAddress} (h : ip.prefixLen.toNat ≤ 32) (hsize : 19 ≤ outSize)
    (out : Vector UInt8 outSize) (includePrefix : Bool) :
    read (ipToStringInto (some ip) out includePrefix) = ipToString ip includePrefix :=
  read_print out (by
    have := ipToString_length_le h includePrefix
    omega) (zero_notMem_ipToString ip includePrefix)

/-- What `ip_to_string` writes is parsed to the same octets, with the network bits if they are written and
none if not; and what the loader saves is what it loads. -/
theorem ipParse_inverts_ipToString {ip : IpAddress} (h : ip.prefixLen.toNat ≤ 32) (hsize : 19 ≤ outSize)
    (out : Vector UInt8 outSize) (outIp : IpAddress) :
    ipParse (read (ipToStringInto (some ip) out true)) outIp = (true, ip) ∧
      ipParse (read (ipToStringInto (some ip) out false)) outIp = (true, { ip with prefixLen := 0 }) ∧
      parseIpAddress (read (ipAddressToString ip out)) outIp = (true, ip) := by
  have hwritten := read_ipToStringInto h hsize out
  refine ⟨?_, ?_, ?_⟩
  · rw [hwritten, ipParse_ipToString ip outIp true h]
    rfl
  · rw [hwritten, ipParse_ipToString ip outIp false h]
    rfl
  · rw [parseIpAddress, ipAddressToString, hwritten, ipParse_ipToString ip outIp _ h]
    rcases Nat.eq_zero_or_pos ip.prefixLen.toNat with hzero | hpos
    · have hbits : ip.prefixLen = 0 := UInt8.toNat_inj.mp hzero
      rw [hbits]
      simp [← hbits]
    · have hbits : 0 < ip.prefixLen := UInt8.lt_iff_toNat_lt.mpr hpos
      simp [hbits]

theorem ipParse_inverts_ipToString_host :
    ipParse (read (ipToStringInto (some ⟨192, 168, 1, 10, 24⟩) (Vector.replicate 19 0) true)) ipZero =
      (true, ⟨192, 168, 1, 10, 24⟩) :=
  (ipParse_inverts_ipToString (by decide) (le_refl 19) (Vector.replicate 19 0) ipZero).1

end MagiStack
