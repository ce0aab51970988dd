import MagiStack.Layer7.DhcpClient
import MagiStack.Library.CheckedBuffer

/-!
# DhcpOptions — messages with all their fields, and the scan of their options

`DHCPMessage` as it lies in memory, with the functions of `layer7/dhcp_server.c` that build, write, parse and
scan it.  A message the rest of the stack works with is such a record without the fields it never sets.

`dhcp_get_msg_type` looks at the offset of a tag only, so that it reads past the options that were received
when these end with a tag, or with the header of a message type.
-/

namespace MagiStack

open CheckedBuffer

/-! ## Records -/

/-- The fields of a `DHCPMessage` before its options. -/
structure DhcpHeader where
  op : UInt8
  htype : UInt8
  hlen : UInt8
  hops : UInt8
  xid : UInt32
  secs : UInt16
  flags : UInt16
  ciaddr : IpAddress
  yiaddr : IpAddress
  siaddr : IpAddress
  giaddr : IpAddress
  chaddr : Vector UInt8 16
  sname : Vector UInt8 64
  file : Vector UInt8 128
  magicCookie : UInt32
  deriving DecidableEq

/-- `DHCPMessage`: the array of options is in use up to `options_len`. -/
structure DhcpRecord extends DhcpHeader where
  options : Vector UInt8 dhcpOptionsSize
  optionsLen : Nat
  optionsLen_le : optionsLen ≤ dhcpOptionsSize

/-- The options in use. -/
def DhcpRecord.usedOptions (message : DhcpRecord) : List UInt8 :=
  message.options.toList.take message.optionsLen

@[simp] theorem DhcpRecord.usedOptions_length (message : DhcpRecord) :
    message.usedOptions.length = message.optionsLen := by
  rw [usedOptions, List.length_take, Vector.length_toList]
  exact Nat.min_eq_left message.optionsLen_le

/-- The message without the fields that are only cleared. -/
def DhcpRecord.message (message : DhcpRecord) : DhcpMessage :=
  { op := message.op
    htype := message.htype
    hlen := message.hlen
    hops := message.hops
    xid := message.xid
    ciaddr := message.ciaddr
    yiaddr := message.yiaddr
    siaddr := message.siaddr
    chaddr := message.chaddr
    magicCookie := message.magicCookie
    options := message.usedOptions }

/-! ## Writing and parsing -/

/-- `memcpy(array, raw + offset, n)`. -/
def readVector (n : Nat) (raw : List UInt8) (offset : Nat) : Vector UInt8 n :=
  Vector.ofFn fun i => raw.getD (offset + i.val) 0

/-- The bytes of the header that `dhcp_message_to_bytes` writes. -/
def dhcpHeaderBytes (header : DhcpHeader) : List UInt8 :=
  [header.op, header.htype, header.hlen, header.hops] ++ writeU32Be header.xid ++
    writeU16Be header.secs ++ writeU16Be header.flags ++ header.ciaddr.octets ++
    header.yiaddr.octets ++ header.siaddr.octets ++ header.giaddr.octets ++
    header.chaddr.toList ++ header.sname.toList ++ header.file.toList ++ writeU32Be dhcpMagicCookie

/-- `dhcp_message_to_bytes` into a buffer of `outSize` bytes; `none` when it returns `0`. -/
def dhcpRecordToBytes (message : DhcpRecord) (outSize : Nat) : Option (List UInt8) :=
  if outSize < dhcpHeaderSize + message.optionsLen then none
  else some (dhcpHeaderBytes message.toDhcpHeader ++ message.usedOptions)

/-- The header that `dhcp_message_from_bytes` reads. -/
def dhcpReadHeader (raw : List UInt8) : DhcpHeader :=
  { op := raw.getD 0 0
    htype := raw.getD 1 0
    hlen := raw.getD 2 0
    hops := raw.getD 3 0
    xid := readU32Be raw 4
    secs := readU16Be raw 8
    flags := readU16Be raw 10
    ciaddr := IpAddress.read raw 12
    yiaddr := IpAddress.read raw 16
    siaddr := IpAddress.read raw 20
    giaddr := IpAddress.read raw 24
    chaddr := readVector 16 raw 28
    sname := readVector 64 raw 44
    file := readVector 128 raw 108
    magicCookie := readU32Be raw 236 }

/-- `dhcp_message_from_bytes`; the options behind those received are cleared. -/
def dhcpRecordFromBytes (raw : List UInt8) : Option DhcpRecord :=
  if raw.length < dhcpHeaderSize then
    none
  else
    some
      { dhcpReadHeader raw with
        options := Vector.ofFn fun i => raw.getD (dhcpHeaderSize + i.val) 0
        optionsLen := min (raw.length - dhcpHeaderSize) dhcpOptionsSize
        optionsLen_le := Nat.min_le_right _ _ }

/-! ## Adding options -/

/-- The arguments of a call of `dhcp_add_option`; the length is a `uint8_t`. -/
structure DhcpOption where
  tag : UInt8
  data : List UInt8
  short : data.length < 256

/-- The bytes of an option. -/
def DhcpOption.bytes (option : DhcpOption) : List UInt8 :=
  option.tag :: UInt8.ofNat option.data.length :: option.data

@[simp] theorem DhcpOption.bytes_length (option : DhcpOption) :
    option.bytes.length = option.data.length + 2 := rfl

/-- The array with bytes stored from an offset on. -/
def storeBytes {n : Nat} (array : Vector UInt8 n) (offset : Nat) (bytes : List UInt8)
    (h : offset + bytes.length ≤ n) : Vector UInt8 n :=
  ⟨(array.toList.take offset ++ bytes ++ array.toList.drop (offset + bytes.length)).toArray, by
    simp only [List.size_toArray, List.length_append, List.length_take, List.length_drop,
      Vector.length_toList]
    omega⟩

/-- `dhcp_add_option`: what it returns, and the message after it. -/
def dhcpRecordAddOption (message : DhcpRecord) (option : DhcpOption) : Bool × DhcpRecord :=
  if h : dhcpOptionsSize < message.optionsLen + 2 + option.data.length then
    (false, message)
  else
    (true,
      { message with
        options := storeBytes message.options message.optionsLen option.bytes (by
          rw [DhcpOption.bytes_length]
          omega)
        optionsLen := message.optionsLen + 2 + option.data.length
        optionsLen_le := not_lt.mp h })

/-- `dhcp_finish_options`. -/
def dhcpRecordFinishOptions (message : DhcpRecord) : DhcpRecord :=
  if h : message.optionsLen < dhcpOptionsSize then
    { message with
      options := storeBytes message.options message.optionsLen [dhcpOptionEnd] h
      optionsLen := message.optionsLen + 1
      optionsLen_le := h }
  else
    message

/-- A series of calls of `dhcp_add_option`. -/
def dhcpRecordAddOptions (message : DhcpRecord) (options : List DhcpOption) : DhcpRecord :=
  options.foldl (fun message option => (dhcpRecordAddOption message option).2) message

/-- The options of a series whose calls return `1`. -/
def dhcpAdded : DhcpRecord → List DhcpOption → List DhcpOption
  | _, [] => []
  | message, option :: rest =>
      if (dhcpRecordAddOption message option).1 then
        option :: dhcpAdded (dhcpRecordAddOption message option).2 rest
      else
        dhcpAdded (dhcpRecordAddOption message option).2 rest

/-! ## The scan -/

/-- The loop of `dhcp_get_msg_type` from an offset on, for at most so many rounds; `none` when it still goes
on. -/
def dhcpMsgTypeLoop (read : Nat → Access UInt8) (optionsLen : Nat) :
    Nat → Nat → Access (Option Int)
  | 0, _ => .ok none
  | rounds + 1, offset =>
      if offset < optionsLen then do
        let tag ← read offset
        if tag = dhcpOptionEnd then
          return some (-1)
        else if tag = 0 then
          dhcpMsgTypeLoop read optionsLen rounds (offset + 1)
        else
          let len ← read (offset + 1)
          if tag = dhcpOptionMsgType ∧ len = 1 then
            let type ← read (offset + 2)
            return some type.toNat
          else
            dhcpMsgTypeLoop read optionsLen rounds (offset + 2 + len.toNat)
      else
        return some (-1)

/-- The byte at an index of the array of options, or of the memory behind it. -/
def DhcpRecord.memory (message : DhcpRecord) (beyond : Nat → UInt8) (i : Nat) : UInt8 :=
  if h : i < dhcpOptionsSize then message.options[i] else beyond (i - dhcpOptionsSize)

/-- `dhcp_get_msg_type`, which reads whatever memory holds at its indices. -/
def dhcpRecordMsgType (message : DhcpRecord) (beyond : Nat → UInt8) : Access (Option Int) :=
  dhcpMsgTypeLoop (fun i => .ok (message.memory beyond i)) message.optionsLen (message.optionsLen + 1) 0

/-- `dhcp_get_msg_type`, which faults when it reads anything but the options in use. -/
def dhcpRecordMsgTypeChecked (message : DhcpRecord) : Access (Option Int) :=
  dhcpMsgTypeLoop (readByte message.usedOptions) message.optionsLen (message.optionsLen + 1) 0

/-! ## What is written is parsed -/

/-- An array that was written is read back. -/
theorem readVector_append {n : Nat} (before after : List UInt8) (array : Vector UInt8 n) :
    readVector n (before ++ (array.toList ++ after)) before.length = array := by
  apply Vector.ext
  intro i hi
  have hlength : i < array.toList.length := by rwa [Vector.length_toList]
  rw [readVector, Vector.getElem_ofFn, List.getD_eq_getElem?_getD,
    List.getElem?_append_right (Nat.le_add_right _ _), Nat.add_sub_cancel_left,
    List.getElem?_append_left hlength, List.getElem?_eq_getElem hlength]
  simp

@[simp] theorem dhcpHeaderBytes_length (header : DhcpHeader) :
    (dhcpHeaderBytes header).length = dhcpHeaderSize := by
  simp [dhcpHeaderBytes, dhcpHeaderSize]

/-- The header as the other side reads it. -/
def DhcpHeader.received (header : DhcpHeader) : DhcpHeader :=
  { header with
    ciaddr := header.ciaddr.withoutPrefix
    yiaddr := header.yiaddr.withoutPrefix
    siaddr := header.siaddr.withoutPrefix
    giaddr := header.giaddr.withoutPrefix
    magicCookie := dhcpMagicCookie }

theorem IpAddress.withoutPrefix_eq {ip : IpAddress} (h : ip.prefixLen = 0) : ip.withoutPrefix = ip := by
  rw [withoutPrefix, ← h]

/-- Without prefixes, and with the cookie of the format, the header is received as it is. -/
theorem DhcpHeader.received_eq (header : DhcpHeader) (hcookie : header.magicCookie = dhcpMagicCookie)
    (hciaddr : header.ciaddr.prefixLen = 0) (hyiaddr : header.yiaddr.prefixLen = 0)
    (hsiaddr : header.siaddr.prefixLen = 0) (hgiaddr : header.giaddr.prefixLen = 0) :
    header.received = header := by
  rw [received, IpAddress.withoutPrefix_eq hciaddr, IpAddress.withoutPrefix_eq hyiaddr,
    IpAddress.withoutPrefix_eq hsiaddr, IpAddress.withoutPrefix_eq hgiaddr, ← hcookie]

/-- The fields up to `chaddr`, which all have a fixed place among the first 28 bytes. -/
def dhcpFixedBytes (header : DhcpHeader) : List UInt8 :=
  [header.op, header.htype, header.hlen, header.hops] ++ writeU32Be header.xid ++
    writeU16Be header.secs ++ writeU16Be header.flags ++ header.ciaddr.octets ++
    header.yiaddr.octets ++ header.siaddr.octets ++ header.giaddr.octets

theorem dhcpHeaderBytes_eq (header : DhcpHeader) (rest : List UInt8) :
    dhcpHeaderBytes header ++ rest =
      dhcpFixedBytes header ++ (header.chaddr.toList ++ (header.sname.toList ++
        (header.file.toList ++ (writeU32Be dhcpMagicCookie ++ rest)))) := by
  simp only [dhcpHeaderBytes, dhcpFixedBytes, List.append_assoc]

@[simp] theorem dhcpFixedBytes_length (header : DhcpHeader) : (dhcpFixedBytes header).length = 28 := rfl

/-- The fields with a fixed place are read back, whatever follows them. -/
theorem dhcpFixedBytes_read (header : DhcpHeader) (rest : List UInt8) :
    readU32Be (dhcpFixedBytes header ++ rest) 4 = header.xid ∧
      readU16Be (dhcpFixedBytes header ++ rest) 8 = header.secs ∧
      readU16Be (dhcpFixedBytes header ++ rest) 10 = header.flags ∧
      IpAddress.read (dhcpFixedBytes header ++ rest) 12 = header.ciaddr.withoutPrefix ∧
      IpAddress.read (dhcpFixedBytes header ++ rest) 16 = header.yiaddr.withoutPrefix ∧
      IpAddress.read (dhcpFixedBytes header ++ rest) 20 = header.siaddr.withoutPrefix ∧
      IpAddress.read (dhcpFixedBytes header ++ rest) 24 = header.giaddr.withoutPrefix :=
  ⟨readU32Be_append ((dhcpFixedBytes header).take 4) ((dhcpFixedBytes header).drop 8 ++ rest) header.xid,
    readU16Be_append ((dhcpFixedBytes header).take 8) ((dhcpFixedBytes header).drop 10 ++ rest)
      header.secs,
    readU16Be_append ((dhcpFixedBytes header).take 10) ((dhcpFixedBytes header).drop 12 ++ rest)
      header.flags,
    rfl, rfl, rfl, rfl⟩

/-- Each field of the header is read where it was written. -/
theorem dhcpReadHeader_bytes (header : DhcpHeader) (rest : List UInt8) :
    dhcpReadHeader (dhcpHeaderBytes header ++ rest) = header.received := by
  rw [dhcpHeaderBytes_eq]
  have hchaddr := readVector_append (dhcpFixedBytes header)
    (header.sname.toList ++ (header.file.toList ++ (writeU32Be dhcpMagicCookie ++ rest)))
    header.chaddr
  have hsname := readVector_append (dhcpFixedBytes header ++ header.chaddr.toList)
    (header.file.toList ++ (writeU32Be dhcpMagicCookie ++ rest)) header.sname
  have hfile := readVector_append
    (dhcpFixedBytes header ++ header.chaddr.toList ++ header.sname.toList)
    (writeU32Be dhcpMagicCookie ++ rest) header.file
  have hcookie := readU32Be_append
    (dhcpFixedBytes header ++ header.chaddr.toList ++ header.sname.toList ++ header.file.toList) rest
    dhcpMagicCookie
  simp only [List.length_append, Vector.length_toList, List.append_assoc, dhcpFixedBytes_length,
    Nat.reduceAdd] at hchaddr hsname hfile hcookie
  generalize header.chaddr.toList ++ (header.sname.toList ++ (header.file.toList ++
    (writeU32Be dhcpMagicCookie ++ rest))) = tail at hchaddr hsname hfile hcookie ⊢
  obtain ⟨hxid, hsecs, hflags, hciaddr, hyiaddr, hsiaddr, hgiaddr⟩ := dhcpFixedBytes_read header tail
  simp only [dhcpReadHeader, DhcpHeader.received, DhcpHeader.mk.injEq]
  exact ⟨rfl, rfl, rfl, rfl, hxid, hsecs, hflags, hciaddr, hyiaddr, hsiaddr, hgiaddr, hchaddr, hsname,
    hfile, hcookie⟩

/-- The options in use of a message that was parsed are the bytes behind the header. -/
theorem dhcpRecordFromBytes_usedOptions {raw : List UInt8} {message : DhcpRecord}
    (h : dhcpRecordFromBytes raw = some message) :
    message.toDhcpHeader = dhcpReadHeader raw ∧
      message.usedOptions = (raw.drop dhcpHeaderSize).take dhcpOptionsSize := by
  rw [dhcpRecordFromBytes] at h
  split at h
  · cases h
  · rename_i hlength
    cases h
    refine ⟨rfl, ?_⟩
    apply List.ext_getElem
    · simp only [DhcpRecord.usedOptions, List.length_take, Vector.length_toList, List.length_drop]
      omega
    · intro i hi hi'
      simp only [DhcpRecord.usedOptions, List.length_take, Vector.length_toList] at hi
      simp only [DhcpRecord.usedOptions, List.getElem_take, Vector.getElem_toList, Vector.getElem_ofFn,
        List.getElem_drop]
      exact List.getD_eq_getElem _ _ _

/-- Parsing a record parses the message. -/
theorem dhcpRecordFromBytes_message (raw : List UInt8) :
    (dhcpRecordFromBytes raw).map DhcpRecord.message = dhcpMessageFromBytes raw := by
  cases h : dhcpRecordFromBytes raw with
  | none =>
      rw [dhcpRecordFromBytes] at h
      split at h
      · rename_i hshort
        rw [dhcpMessageFromBytes, if_pos hshort, Option.map_none]
      · cases h
  | some message =>
      have hlong : ¬ raw.length < dhcpHeaderSize := by
        intro hshort
        rw [dhcpRecordFromBytes, if_pos hshort] at h
        cases h
      obtain ⟨hheader, hused⟩ := dhcpRecordFromBytes_usedOptions h
      rw [dhcpMessageFromBytes, if_neg hlong, Option.map_some, DhcpRecord.message, hheader, hused]
      rfl

/-- Where only the message's own fields are set, its bytes are written. -/
theorem dhcpRecordToBytes_message {message : DhcpRecord} (hsecs : message.secs = 0)
    (hflags : message.flags = 0) (hgiaddr : message.giaddr = ipZero)
    (hnames : message.sname.toList ++ message.file.toList = dhcpNames) (outSize : Nat) :
    dhcpRecordToBytes message outSize = dhcpMessageToBytes message.message outSize := by
  have hbytes : dhcpHeaderBytes message.toDhcpHeader ++ message.usedOptions =
      dhcpMessageBytes message.message := by
    rw [dhcpHeaderBytes, dhcpMessageBytes, ← hnames, hsecs, hflags, hgiaddr]
    simp only [List.append_assoc]
    rfl
  rw [dhcpRecordToBytes, dhcpMessageToBytes, hbytes, DhcpRecord.message, DhcpRecord.usedOptions_length]

/-- A message whose options fit is written into 300 bytes and read again, with its header and the options in
use. -/
theorem dhcpRecord_roundTrip (message : DhcpRecord) :
    ∃ raw parsed, dhcpRecordToBytes message (dhcpHeaderSize + dhcpOptionsSize) = some raw ∧
      dhcpRecordFromBytes raw = some parsed ∧
      parsed.toDhcpHeader = message.toDhcpHeader.received ∧
      parsed.optionsLen = message.optionsLen ∧ parsed.usedOptions = message.usedOptions := by
  have hfits := message.optionsLen_le
  obtain ⟨parsed, hparsed⟩ : ∃ parsed,
      dhcpRecordFromBytes (dhcpHeaderBytes message.toDhcpHeader ++ message.usedOptions) = some parsed :=
    ⟨_, if_neg (by simp)⟩
  obtain ⟨hheader, hoptions⟩ := dhcpRecordFromBytes_usedOptions hparsed
  have hused : parsed.usedOptions = message.usedOptions := by
    rw [hoptions, List.drop_left' (dhcpHeaderBytes_length _)]
    exact List.take_of_length_le (by rwa [DhcpRecord.usedOptions_length])
  refine ⟨_, parsed, if_neg (by omega), hparsed, ?_, ?_, hused⟩
  · rw [hheader]
    exact dhcpReadHeader_bytes _ _
  · rw [← parsed.usedOptions_length, hused, DhcpRecord.usedOptions_length]

/-! ## What adding does to the options -/

theorem storeBytes_take {n : Nat} (array : Vector UInt8 n) (offset : Nat) (bytes : List UInt8)
    (h : offset + bytes.length ≤ n) :
    (storeBytes array offset bytes h).toList.take (offset + bytes.length) =
      array.toList.take offset ++ bytes := by
  refine List.take_left' ?_
  rw [List.length_append, List.length_take, Vector.length_toList]
  omega

/-- An option that fits comes after those in use; any other leaves the message unchanged. -/
theorem dhcpRecordAddOption_cases (message : DhcpRecord) (option : DhcpOption) :
    (dhcpRecordAddOption message option = (false, message) ∧
        dhcpOptionsSize < message.optionsLen + 2 + option.data.length) ∨
      ((dhcpRecordAddOption message option).1 = true ∧
        message.optionsLen + 2 + option.data.length ≤ dhcpOptionsSize ∧
        (dhcpRecordAddOption message option).2.toDhcpHeader = message.toDhcpHeader ∧
        (dhcpRecordAddOption message option).2.usedOptions = message.usedOptions ++ option.bytes) := by
  rw [dhcpRecordAddOption]
  split
  · rename_i hfull
    exact Or.inl ⟨rfl, hfull⟩
  · rename_i hfits
    refine Or.inr ⟨rfl, not_lt.mp hfits, rfl, ?_⟩
    have hlength : message.optionsLen + 2 + option.data.length =
        message.optionsLen + option.bytes.length := by
      rw [DhcpOption.bytes_length]
      omega
    rw [DhcpRecord.usedOptions, DhcpRecord.usedOptions, ← storeBytes_take message.options
      message.optionsLen option.bytes (by omega)]
    exact congrArg (List.take · _) hlength

/-- Adding an option to a record adds it to the message. -/
theorem dhcpRecordAddOption_message (message : DhcpRecord) (option : DhcpOption) :
    (dhcpRecordAddOption message option).2.message =
      { message.message with
        options := dhcpAddOption message.message.options option.tag option.data } := by
  obtain ⟨hadd, hfull⟩ | ⟨-, hfits, hheader, hused⟩ := dhcpRecordAddOption_cases message option
  · rw [hadd, dhcpAddOption, if_pos (by rwa [DhcpRecord.message, DhcpRecord.usedOptions_length])]
  · rw [dhcpAddOption, if_neg (by rw [DhcpRecord.message, DhcpRecord.usedOptions_length]; omega)]
    rw [DhcpRecord.message, hused, hheader, DhcpRecord.message, List.append_assoc]
    rfl

theorem dhcpRecordFinishOptions_usedOptions (message : DhcpRecord) :
    (dhcpRecordFinishOptions message).usedOptions =
      dhcpFinishOptions message.usedOptions := by
  rw [dhcpRecordFinishOptions, dhcpFinishOptions, DhcpRecord.usedOptions_length]
  split
  · rename_i hroom
    exact storeBytes_take message.options message.optionsLen [dhcpOptionEnd] hroom
  · rfl

/-- The options in use after a series of calls are those before it and the ones that were added. -/
theorem dhcpRecordAddOptions_usedOptions (message : DhcpRecord) (options : List DhcpOption) :
    (dhcpRecordAddOptions message options).usedOptions =
      message.usedOptions ++ (dhcpAdded message options).flatMap DhcpOption.bytes := by
  induction options generalizing message with
  | nil => simp [dhcpRecordAddOptions, dhcpAdded]
  | cons option rest ih =>
      rw [dhcpRecordAddOptions, List.foldl_cons, ← dhcpRecordAddOptions, ih, dhcpAdded]
      obtain ⟨hadd, -⟩ | ⟨hadded, -, -, hused⟩ := dhcpRecordAddOption_cases message option
      · rw [hadd]
        rfl
      · rw [hused, hadded, if_pos rfl, List.flatMap_cons, List.append_assoc]

theorem dhcpAdded_subset (message : DhcpRecord) (options : List DhcpOption) :
    dhcpAdded message options ⊆ options := by
  induction options generalizing message with
  | nil => exact List.Subset.refl []
  | cons option rest ih =>
      rw [dhcpAdded]
      split
      · exact List.cons_subset_cons option (ih _)
      · exact List.Subset.trans (ih _) (List.subset_cons_self option rest)

/-! ## What a round of the scan does -/

section Rounds

variable {read : Nat → Access UInt8} {optionsLen rounds offset : Nat} {tag len : UInt8}

theorem dhcpMsgTypeLoop_end (h : optionsLen ≤ offset) :
    dhcpMsgTypeLoop read optionsLen (rounds + 1) offset = .ok (some (-1)) := by
  rw [dhcpMsgTypeLoop, if_neg (not_lt.mpr h)]
  rfl

theorem dhcpMsgTypeLoop_marker (h : offset < optionsLen) (htag : read offset = .ok dhcpOptionEnd) :
    dhcpMsgTypeLoop read optionsLen (rounds + 1) offset = .ok (some (-1)) := by
  rw [dhcpMsgTypeLoop, if_pos h, htag]
  rfl

theorem dhcpMsgTypeLoop_padding (h : offset < optionsLen) (htag : read offset = .ok 0) :
    dhcpMsgTypeLoop read optionsLen (rounds + 1) offset =
      dhcpMsgTypeLoop read optionsLen rounds (offset + 1) := by
  rw [dhcpMsgTypeLoop, if_pos h, htag]
  rfl

/-- The round at the tag of an option. -/
theorem dhcpMsgTypeLoop_option (h : offset < optionsLen) (htag : read offset = .ok tag)
    (hend : tag ≠ dhcpOptionEnd) (hpadding : tag ≠ 0) :
    dhcpMsgTypeLoop read optionsLen (rounds + 1) offset =
      (read (offset + 1)).bind fun len =>
        if tag = dhcpOptionMsgType ∧ len = 1 then
          (read (offset + 2)).bind fun type => .ok (some (type.toNat : Int))
        else
          dhcpMsgTypeLoop read optionsLen rounds (offset + 2 + len.toNat) := by
  rw [dhcpMsgTypeLoop, if_pos h, htag]
  change (if tag = dhcpOptionEnd then _ else if tag = 0 then _ else _) = _
  rw [if_neg hend, if_neg hpadding]
  rfl

/-- The scan ends, whatever memory holds. -/
theorem dhcpMsgTypeLoop_ends (hread : ∀ i, ∃ b, read i = .ok b) (hrounds : optionsLen ≤ rounds + offset) :
    ∃ type, dhcpMsgTypeLoop read optionsLen (rounds + 1) offset = .ok (some type) := by
  -- A round moves the offset on, so that the rounds left are enough for the bytes left.
  induction rounds generalizing offset with
  | zero => exact ⟨-1, dhcpMsgTypeLoop_end (by omega)⟩
  | succ rounds ih =>
      by_cases hin : offset < optionsLen
      · obtain ⟨tag, htag⟩ := hread offset
        by_cases hend : tag = dhcpOptionEnd
        · exact ⟨-1, dhcpMsgTypeLoop_marker hin (hend ▸ htag)⟩
        · by_cases hpadding : tag = 0
          · rw [dhcpMsgTypeLoop_padding hin (hpadding ▸ htag)]
            exact ih (by omega)
          · obtain ⟨len, hlen⟩ := hread (offset + 1)
            obtain ⟨type, htype⟩ := hread (offset + 2)
            rw [dhcpMsgTypeLoop_option hin htag hend hpadding, hlen, htype]
            dsimp only [Except.bind]
            split
            · exact ⟨type.toNat, rfl⟩
            · exact ih (by omega)
      · exact ⟨-1, dhcpMsgTypeLoop_end (not_lt.mp hin)⟩

end Rounds

/-! ## Options as a list -/

/-- A tag that an option follows. -/
def DhcpOpens (tag : UInt8) : Prop :=
  tag ≠ dhcpOptionEnd ∧ tag ≠ 0

instance (tag : UInt8) : Decidable (DhcpOpens tag) :=
  inferInstanceAs (Decidable (_ ∧ _))

/-- The scan of some options comes to a part of them, over padding and over complete options that are no
message type of one byte. -/
inductive DhcpComesTo : List UInt8 → List UInt8 → Prop
  | start (options : List UInt8) : DhcpComesTo options options
  | padding {rest left : List UInt8} (h : DhcpComesTo rest left) : DhcpComesTo (0 :: rest) left
  | option {tag len : UInt8} {data rest left : List UInt8} (htag : DhcpOpens tag)
      (hother : ¬ (tag = dhcpOptionMsgType ∧ len = 1)) (hlen : data.length = len.toNat)
      (h : DhcpComesTo rest left) : DhcpComesTo (tag :: len :: (data ++ rest)) left

/-- The scan comes to a tag, or to the header of a message type, that nothing follows. -/
def DhcpTruncated (options : List UInt8) : Prop :=
  (∃ tag, DhcpOpens tag ∧ DhcpComesTo options [tag]) ∨ DhcpComesTo options [dhcpOptionMsgType, 1]

/-- The scan comes to an option whose length or value would extend past the end. -/
def DhcpOverruns (options : List UInt8) : Prop :=
  ∃ tag rest, DhcpOpens tag ∧ DhcpComesTo options (tag :: rest) ∧
    (rest = [] ∨ ∃ len data, rest = len :: data ∧ data.length < len.toNat)

/-- What `dhcp_get_msg_type` returns for options with a message type of one byte, or without. -/
def dhcpTypeOf (data : Option (List UInt8)) : Int :=
  data.elim (-1) fun data => (data.headD 0).toNat

/-- The reads give the bytes of a list at its indices. -/
def ReadsList (read : Nat → Access UInt8) (bytes : List UInt8) : Prop :=
  ∀ i (h : i < bytes.length), read i = .ok bytes[i]

theorem readsList_readByte (bytes : List UInt8) : ReadsList (readByte bytes) bytes := by
  intro i h
  rw [readByte_eq h, List.getD_eq_getElem _ _ h]

theorem ReadsList.at {read : Nat → Access UInt8} {before rest : List UInt8} {b : UInt8}
    (h : ReadsList read (before ++ b :: rest)) : read before.length = .ok b := by
  have hlength : before.length < (before ++ b :: rest).length := by simp
  rw [h before.length hlength]
  simp

theorem ReadsList.at_second {read : Nat → Access UInt8} {before rest : List UInt8} {a b : UInt8}
    (h : ReadsList read (before ++ a :: b :: rest)) : read (before.length + 1) = .ok b := by
  have hnext := @ReadsList.at read (before ++ [a]) rest b (by simpa using h)
  rwa [List.length_append, List.length_singleton] at hnext

theorem ReadsList.at_third {read : Nat → Access UInt8} {before rest : List UInt8} {a b c : UInt8}
    (h : ReadsList read (before ++ a :: b :: c :: rest)) : read (before.length + 2) = .ok c := by
  have hnext := @ReadsList.at read (before ++ [a, b]) rest c (by simpa using h)
  rwa [List.length_append, List.length_cons, List.length_singleton] at hnext

theorem DhcpRecord.readsList_memory (message : DhcpRecord) (beyond : Nat → UInt8) :
    ReadsList (fun i => .ok (message.memory beyond i)) message.usedOptions := by
  intro i h
  rw [usedOptions_length] at h
  have hfits := message.optionsLen_le
  simp [memory, usedOptions, show i < dhcpOptionsSize by omega]

/-- The loop goes on from whatever part of the options the scan comes to. -/
theorem DhcpComesTo.loop {options left : List UInt8} (h : DhcpComesTo options left) :
    ∀ (before : List UInt8) (rounds : Nat), options.length ≤ rounds →
      ∃ (before' : List UInt8) (rounds' : Nat), before' ++ left = before ++ options ∧
        left.length ≤ rounds' ∧
        ∀ read, ReadsList read (before ++ options) →
          dhcpMsgTypeLoop read (before ++ options).length (rounds + 1) before.length =
            dhcpMsgTypeLoop read (before ++ options).length (rounds' + 1) before'.length := by
  -- Along the scan: `before` is what it has passed, and it always has a round for every byte left.
  induction h with
  | start options =>
      intro before rounds hrounds
      exact ⟨before, rounds, rfl, hrounds, fun _ _ => rfl⟩
  | @padding rest left h ih =>
      intro before rounds hrounds
      obtain ⟨rounds, rfl⟩ : ∃ n, rounds = n + 1 := ⟨rounds - 1, by
        rw [List.length_cons] at hrounds
        omega⟩
      obtain ⟨before', rounds', heq, hleft, hloop⟩ := ih (before ++ [0]) rounds
        (Nat.le_of_succ_le_succ hrounds)
      rw [List.append_assoc, List.singleton_append] at heq hloop
      refine ⟨before', rounds', heq, hleft, fun read hread => ?_⟩
      have hnext : (before ++ [0]).length = before.length + 1 := List.length_append
      rw [dhcpMsgTypeLoop_padding (by simp) hread.at, ← hnext]
      exact hloop read hread
  | @option tag len data rest left htag hother hlen h ih =>
      intro before rounds hrounds
      rw [List.length_cons, List.length_cons, List.length_append] at hrounds
      obtain ⟨rounds, rfl⟩ : ∃ n, rounds = n + 1 := ⟨rounds - 1, by omega⟩
      obtain ⟨before', rounds', heq, hleft, hloop⟩ := ih (before ++ tag :: len :: data) rounds
        (by omega)
      rw [List.append_assoc, List.cons_append, List.cons_append] at heq hloop
      refine ⟨before', rounds', heq, hleft, fun read hread => ?_⟩
      have hnext : (before ++ tag :: len :: data).length = before.length + 2 + len.toNat := by
        rw [List.length_append, List.length_cons, List.length_cons, hlen]
        omega
      rw [dhcpMsgTypeLoop_option (by simp) hread.at htag.1 htag.2, hread.at_second]
      dsimp only [Except.bind]
      rw [if_neg hother, ← hnext]
      exact hloop read hread

/-! ## The rounds at the end of a scan -/

section Ends

variable {options : List UInt8} {read : Nat → Access UInt8}

/-- What the scan returns is decided where it comes to. -/
theorem DhcpComesTo.decides {left : List UInt8} {result : Access (Option Int)} (h : DhcpComesTo options left)
    (hread : ReadsList read options)
    (hleft : ∀ before rounds, before ++ left = options → left.length ≤ rounds →
      dhcpMsgTypeLoop read options.length (rounds + 1) before.length = result) :
    dhcpMsgTypeLoop read options.length (options.length + 1) 0 = result := by
  obtain ⟨before, rounds, heq, hrounds, hloop⟩ := h.loop [] options.length (le_refl _)
  rw [List.nil_append] at heq hloop
  exact (hloop read hread).trans (hleft before rounds heq hrounds)

/-- A message type of one byte is returned. -/
theorem DhcpComesTo.returns {type : UInt8} {rest : List UInt8} (hread : ReadsList read options)
    (h : DhcpComesTo options (dhcpOptionMsgType :: 1 :: type :: rest)) :
    dhcpMsgTypeLoop read options.length (options.length + 1) 0 = .ok (some (type.toNat : Int)) := by
  refine h.decides hread fun before rounds heq _ => ?_
  rw [← heq] at hread ⊢
  rw [dhcpMsgTypeLoop_option (by simp) hread.at (by decide) (by decide), hread.at_second,
    hread.at_third]
  rfl

/-- Nothing is found up to the end of the options. -/
theorem DhcpComesTo.ends (hread : ReadsList read options) (h : DhcpComesTo options []) :
    dhcpMsgTypeLoop read options.length (options.length + 1) 0 = .ok (some (-1)) := by
  refine h.decides hread fun before rounds heq _ => dhcpMsgTypeLoop_end ?_
  rw [← heq, List.append_nil]

/-- Nothing is found up to the END marker. -/
theorem DhcpComesTo.endsAt {rest : List UInt8} (hread : ReadsList read options)
    (h : DhcpComesTo options (dhcpOptionEnd :: rest)) :
    dhcpMsgTypeLoop read options.length (options.length + 1) 0 = .ok (some (-1)) := by
  refine h.decides hread fun before rounds heq _ => ?_
  rw [← heq] at hread ⊢
  exact dhcpMsgTypeLoop_marker (by simp) hread.at

/-- An option that is longer than what is left ends the scan. -/
theorem DhcpComesTo.overruns {tag len : UInt8} {data : List UInt8} (hread : ReadsList read options)
    (h : DhcpComesTo options (tag :: len :: data)) (htag : DhcpOpens tag)
    (hother : ¬ (tag = dhcpOptionMsgType ∧ len = 1)) (hlen : data.length < len.toNat) :
    dhcpMsgTypeLoop read options.length (options.length + 1) 0 = .ok (some (-1)) := by
  refine h.decides hread fun before rounds heq hrounds => ?_
  obtain ⟨rounds, rfl⟩ : ∃ n, rounds = n + 1 := ⟨rounds - 1, by
    rw [List.length_cons] at hrounds
    omega⟩
  rw [← heq] at hread ⊢
  rw [dhcpMsgTypeLoop_option (by simp) hread.at htag.1 htag.2, hread.at_second]
  dsimp only [Except.bind]
  rw [if_neg hother]
  refine dhcpMsgTypeLoop_end ?_
  rw [List.length_append, List.length_cons, List.length_cons]
  omega

theorem readByte_end {bytes : List UInt8} {i : Nat} (h : i = bytes.length) :
    readByte bytes i = .error (.read bytes.length) := by
  rw [readByte, h, List.getElem?_eq_none (le_refl _)]

/-- A tag that nothing follows makes the scan read past the options. -/
theorem DhcpTruncated.faults (h : DhcpTruncated options) :
    ∃ fault, dhcpMsgTypeLoop (readByte options) options.length (options.length + 1) 0 = .error fault := by
  have hread := readsList_readByte options
  obtain ⟨tag, htag, h⟩ | h := h
  · refine ⟨.read options.length, h.decides hread fun before rounds heq _ => ?_⟩
    rw [← heq] at hread ⊢
    rw [dhcpMsgTypeLoop_option (by simp) hread.at htag.1 htag.2, readByte_end (by simp)]
    rfl
  · refine ⟨.read options.length, h.decides hread fun before rounds heq _ => ?_⟩
    rw [← heq] at hread ⊢
    rw [dhcpMsgTypeLoop_option (by simp) hread.at (by decide) (by decide), hread.at_second,
      readByte_end (by simp)]
    rfl

end Ends

/-- Where a scan cannot go on. -/
inductive DhcpScanEnd : List UInt8 → Prop
  | type (type : UInt8) (rest : List UInt8) : DhcpScanEnd (dhcpOptionMsgType :: 1 :: type :: rest)
  | nothing : DhcpScanEnd []
  | marker (rest : List UInt8) : DhcpScanEnd (dhcpOptionEnd :: rest)
  | overrun {tag len : UInt8} {data : List UInt8} (htag : DhcpOpens tag)
      (hother : ¬ (tag = dhcpOptionMsgType ∧ len = 1)) (hlen : data.length < len.toNat) :
      DhcpScanEnd (tag :: len :: data)
  | tag {tag : UInt8} (htag : DhcpOpens tag) : DhcpScanEnd [tag]
  | header : DhcpScanEnd [dhcpOptionMsgType, 1]

/-- The scan of any options comes to such a place. -/
theorem dhcpComesTo_end (options : List UInt8) :
    ∃ left, DhcpComesTo options left ∧ DhcpScanEnd left := by
  -- On the length: a complete option is taken off at once.
  induction hn : options.length using Nat.strong_induction_on generalizing options with
  | _ n ih =>
      subst hn
      cases options with
      | nil => exact ⟨[], .start [], .nothing⟩
      | cons tag rest =>
          by_cases hend : tag = dhcpOptionEnd
          · exact ⟨_, .start _, hend ▸ .marker rest⟩
          by_cases hpadding : tag = 0
          · obtain ⟨left, hleft, hstops⟩ := ih rest.length (Nat.lt_succ_self _) rest rfl
            exact ⟨left, hpadding ▸ hleft.padding, hstops⟩
          have htag : DhcpOpens tag := ⟨hend, hpadding⟩
          cases rest with
          | nil => exact ⟨_, .start _, .tag htag⟩
          | cons len data =>
              by_cases htype : tag = dhcpOptionMsgType ∧ len = 1
              · obtain ⟨rfl, rfl⟩ := htype
                cases data with
                | nil => exact ⟨_, .start _, .header⟩
                | cons type rest => exact ⟨_, .start _, .type type rest⟩
              · by_cases hlen : data.length < len.toNat
                · exact ⟨_, .start _, .overrun htag htype hlen⟩
                · -- The option is complete, and the scan goes on behind it.
                  have hshort : (data.drop len.toNat).length < (tag :: len :: data).length := by
                    rw [List.length_drop, List.length_cons, List.length_cons]
                    omega
                  obtain ⟨left, hleft, hstops⟩ := ih _ hshort (data.drop len.toNat) rfl
                  have hdata : (data.take len.toNat).length = len.toNat := by
                    rw [List.length_take]
                    omega
                  have hcomes := hleft.option htag htype hdata
                  rw [List.take_append_drop] at hcomes
                  exact ⟨left, hcomes, hstops⟩

/-! ## The scan of a received message -/

/-- The options do not end with a tag or a header: whatever is read behind them, the scan returns the same,
and it does not read there. -/
theorem dhcpMsgType_complete {options : List UInt8} (h : ¬ DhcpTruncated options) :
    ∃ type, ∀ read, ReadsList read options →
      dhcpMsgTypeLoop read options.length (options.length + 1) 0 = .ok (some type) := by
  obtain ⟨left, hleft, hend⟩ := dhcpComesTo_end options
  cases hend with
  | type type rest => exact ⟨type.toNat, fun read hread => hleft.returns hread⟩
  | nothing => exact ⟨-1, fun read hread => hleft.ends hread⟩
  | marker rest => exact ⟨-1, fun read hread => hleft.endsAt hread⟩
  | overrun htag hother hlen => exact ⟨-1, fun read hread => hleft.overruns hread htag hother hlen⟩
  | tag htag => exact absurd (Or.inl ⟨_, htag, hleft⟩) h
  | header => exact absurd (Or.inr hleft) h

/-- An option that would extend past the end gives `-1`. -/
theorem DhcpOverruns.returns {options : List UInt8} (h : DhcpOverruns options)
    (hcomplete : ¬ DhcpTruncated options) {read : Nat → Access UInt8} (hread : ReadsList read options) :
    dhcpMsgTypeLoop read options.length (options.length + 1) 0 = .ok (some (-1)) := by
  obtain ⟨tag, rest, htag, hcomes, rfl | ⟨len, data, rfl, hlen⟩⟩ := h
  · exact absurd (Or.inl ⟨tag, htag, hcomes⟩) hcomplete
  · refine hcomes.overruns hread htag (fun htype => hcomplete (Or.inr ?_)) hlen
    -- The one byte of a message type is missing.
    obtain ⟨rfl, rfl⟩ := htype
    have hnil : data = [] := List.length_eq_zero_iff.mp (Nat.lt_one_iff.mp hlen)
    rwa [hnil] at hcomes

/-- The scan of the message goes on where that of its record comes to. -/
theorem DhcpComesTo.findOption {options left : List UInt8} (h : DhcpComesTo options left) :
    ∀ rounds, options.length ≤ rounds → ∃ rounds', left.length ≤ rounds' ∧
      dhcpFindOption dhcpOptionMsgType 1 rounds options =
        dhcpFindOption dhcpOptionMsgType 1 rounds' left := by
  induction h with
  | start options => exact fun rounds hrounds => ⟨rounds, hrounds, rfl⟩
  | padding h ih =>
      intro rounds hrounds
      rw [List.length_cons] at hrounds
      obtain ⟨rounds, rfl⟩ : ∃ n, rounds = n + 1 := ⟨rounds - 1, by omega⟩
      obtain ⟨rounds', hleft, heq⟩ := ih rounds (by omega)
      refine ⟨rounds', hleft, ?_⟩
      rw [← heq, dhcpFindOption, if_neg (by decide), if_pos rfl]
  | @option tag len data rest left htag hother hlen h ih =>
      intro rounds hrounds
      rw [List.length_cons, List.length_cons, List.length_append] at hrounds
      obtain ⟨rounds, rfl⟩ : ∃ n, rounds = n + 1 := ⟨rounds - 1, by omega⟩
      obtain ⟨rounds', hleft, heq⟩ := ih rounds (by omega)
      have hnot : ¬ (tag = dhcpOptionMsgType ∧ ((len :: (data ++ rest)).headD 0).toNat = 1) :=
        fun htype => hother ⟨htype.1, UInt8.toNat_inj.mp htype.2⟩
      have hdrop : (len :: (data ++ rest)).drop (1 + ((len :: (data ++ rest)).headD 0).toNat) = rest := by
        rw [List.headD_cons, Nat.add_comm, List.drop_succ_cons]
        exact List.drop_left' hlen
      refine ⟨rounds', hleft, ?_⟩
      rw [← heq, dhcpFindOption, if_neg htag.1, if_neg htag.2, if_neg hnot, hdrop]

/-- The message type of a record whose options are complete is that of its message. -/
theorem dhcpRecordMsgType_message {record : DhcpRecord} (h : ¬ DhcpTruncated record.usedOptions)
    (beyond : Nat → UInt8) :
    dhcpRecordMsgType record beyond =
      .ok (some ((dhcpGetMsgType record.message).elim (-1) fun type => (type.toNat : Int))) := by
  have hread := record.readsList_memory beyond
  rw [dhcpRecordMsgType, ← record.usedOptions_length, dhcpGetMsgType, DhcpMessage.option]
  obtain ⟨left, hleft, hend⟩ := dhcpComesTo_end record.usedOptions
  obtain ⟨rounds, hrounds, hfind⟩ := hleft.findOption record.usedOptions.length (le_refl _)
  rw [show record.message.options = record.usedOptions from rfl, hfind]
  cases hend with
  | type type rest =>
      obtain ⟨rounds, rfl⟩ : ∃ n, rounds = n + 1 := ⟨rounds - 1, by
        rw [List.length_cons] at hrounds
        omega⟩
      exact hleft.returns hread
  | nothing =>
      rw [hleft.ends hread]
      cases rounds with
      | zero => rfl
      | succ rounds => rfl
  | marker rest =>
      rw [hleft.endsAt hread]
      cases rounds with
      | zero => rfl
      | succ rounds => rfl
  | @overrun tag len data htag hother hlen =>
      rw [hleft.overruns hread htag hother hlen]
      obtain ⟨rounds, rfl⟩ : ∃ n, rounds = n + 2 := ⟨rounds - 2, by
        rw [List.length_cons, List.length_cons] at hrounds
        omega⟩
      have hnot : ¬ (tag = dhcpOptionMsgType ∧ ((len :: data).headD 0).toNat = 1) :=
        fun htype => hother ⟨htype.1, UInt8.toNat_inj.mp htype.2⟩
      have hdrop : (len :: data).drop (1 + ((len :: data).headD 0).toNat) = [] := by
        rw [List.headD_cons, Nat.add_comm, List.drop_succ_cons]
        exact List.drop_eq_nil_of_le hlen.le
      rw [dhcpFindOption, if_neg htag.1, if_neg htag.2, if_neg hnot, hdrop]
      rfl
  | tag htag => exact absurd (Or.inl ⟨_, htag, hleft⟩) h
  | header => exact absurd (Or.inr hleft) h

/-- `dhcp_get_msg_type` ends on every message that was parsed.  It reads the options received and no others,
and returns `-1` when an option would extend past them, exactly if they do not end with a tag or with the
header of a message type. -/
theorem dhcpGetMsgType_inBounds_iff {raw : List UInt8} {message : DhcpRecord}
    (h : dhcpRecordFromBytes raw = some message) (beyond : Nat → UInt8) :
    (∃ type, dhcpRecordMsgType message beyond = .ok (some type)) ∧
      (((∃ type, dhcpRecordMsgTypeChecked message = .ok (some type)) ∧
          (DhcpOverruns message.usedOptions → dhcpRecordMsgType message beyond = .ok (some (-1)))) ↔
        ¬ DhcpTruncated ((raw.drop dhcpHeaderSize).take dhcpOptionsSize)) := by
  rw [← (dhcpRecordFromBytes_usedOptions h).2]
  have hmemory := message.readsList_memory beyond
  rw [dhcpRecordMsgType, dhcpRecordMsgTypeChecked, ← message.usedOptions_length]
  refine ⟨dhcpMsgTypeLoop_ends (fun i => ⟨_, rfl⟩) (Nat.le_add_right _ _), ?_⟩
  constructor
  · rintro ⟨⟨type, htype⟩, -⟩ htruncated
    obtain ⟨fault, hfault⟩ := htruncated.faults
    cases htype.symm.trans hfault
  · intro hcomplete
    obtain ⟨type, htype⟩ := dhcpMsgType_complete hcomplete
    exact ⟨⟨type, htype _ (readsList_readByte _)⟩, fun hoverruns => hoverruns.returns hcomplete hmemory⟩

/-- A message without options but padding, a message type and the END marker. -/
def dhcpWholeRaw : List UInt8 :=
  List.replicate dhcpHeaderSize 0 ++ [0, dhcpOptionMsgType, 1, dhcpDiscoverType, dhcpOptionEnd]

/-- 60 bytes of options, of which the last two are the header of a message type. -/
def dhcpCutRaw : List UInt8 :=
  List.replicate dhcpHeaderSize 0 ++ (List.replicate 58 0 ++ [dhcpOptionMsgType, 1])

/-- No scan goes past the header of a message type of one byte. -/
theorem DhcpComesTo.eq_of_msgType {rest left : List UInt8}
    (h : DhcpComesTo (dhcpOptionMsgType :: 1 :: rest) left) : left = dhcpOptionMsgType :: 1 :: rest := by
  generalize hoptions : dhcpOptionMsgType :: 1 :: rest = options at h
  cases h with
  | start _ => rfl
  | padding _ => cases hoptions
  | option _ hother _ _ =>
      cases hoptions
      exact absurd ⟨rfl, rfl⟩ hother

theorem dhcpWholeRaw_not_truncated :
    ¬ DhcpTruncated ((dhcpWholeRaw.drop dhcpHeaderSize).take dhcpOptionsSize) := by
  have hoptions : (dhcpWholeRaw.drop dhcpHeaderSize).take dhcpOptionsSize =
      0 :: dhcpOptionMsgType :: 1 :: [dhcpDiscoverType, dhcpOptionEnd] := by
    rw [dhcpWholeRaw, List.drop_left' List.length_replicate]
    rfl
  have hleft : ∀ left, DhcpComesTo (0 :: dhcpOptionMsgType :: 1 :: [dhcpDiscoverType, dhcpOptionEnd]) left →
      4 ≤ left.length := by
    intro left hcomes
    generalize hwhole : 0 :: dhcpOptionMsgType :: 1 :: [dhcpDiscoverType, dhcpOptionEnd] = options at hcomes
    cases hcomes with
    | start _ =>
        rw [← hwhole]
        decide
    | padding h =>
        cases hwhole
        rw [h.eq_of_msgType]
        decide
    | option htag _ _ _ =>
        obtain ⟨rfl, -⟩ := List.cons.inj hwhole
        exact absurd htag (by decide)
  rw [hoptions]
  rintro (⟨tag, -, hcomes⟩ | hcomes)
  · exact absurd (hleft _ hcomes) (by simp)
  · exact absurd (hleft _ hcomes) (by simp)

/-- A message whose options are complete: no read leaves them, and the scan ends. -/
theorem dhcpGetMsgType_inBounds_iff_whole :
    ∃ message, dhcpRecordFromBytes dhcpWholeRaw = some message ∧
      (∃ type, dhcpRecordMsgType message (fun _ => 0) = .ok (some type)) ∧
      ∃ type, dhcpRecordMsgTypeChecked message = .ok (some type) := by
  obtain ⟨message, hmessage⟩ : ∃ message, dhcpRecordFromBytes dhcpWholeRaw = some message :=
    ⟨_, if_neg (by simp [dhcpWholeRaw])⟩
  obtain ⟨hends, hiff⟩ := dhcpGetMsgType_inBounds_iff hmessage fun _ => 0
  exact ⟨message, hmessage, hends, (hiff.mpr dhcpWholeRaw_not_truncated).1⟩

theorem dhcpComesTo_padding (n : Nat) (left : List UInt8) :
    DhcpComesTo (List.replicate n 0 ++ left) left := by
  induction n with
  | zero => exact .start left
  | succ n ih => exact ih.padding

/-- The byte behind the array of options is read, and returned as the type. -/
theorem dhcpGetMsgType_inBounds_iff_cut :
    ∃ message, dhcpRecordFromBytes dhcpCutRaw = some message ∧ DhcpOverruns message.usedOptions ∧
      (∃ fault, dhcpRecordMsgTypeChecked message = .error fault) ∧
      dhcpRecordMsgType message (fun _ => 7) = .ok (some 7) := by
  obtain ⟨message, hmessage⟩ : ∃ message, dhcpRecordFromBytes dhcpCutRaw = some message :=
    ⟨_, if_neg (by simp [dhcpCutRaw])⟩
  have hused : message.usedOptions = List.replicate 58 0 ++ [dhcpOptionMsgType, 1] := by
    rw [(dhcpRecordFromBytes_usedOptions hmessage).2, dhcpCutRaw, List.drop_left' List.length_replicate]
    exact List.take_of_length_le (by simp [dhcpOptionsSize])
  have hcomes : DhcpComesTo message.usedOptions [dhcpOptionMsgType, 1] :=
    hused ▸ dhcpComesTo_padding 58 _
  have hlength : message.usedOptions.length = dhcpOptionsSize := by
    rw [hused]
    decide
  have hread := message.readsList_memory fun _ => 7
  refine ⟨message, hmessage, ⟨dhcpOptionMsgType, [1], by decide, hcomes, Or.inr ⟨1, [], rfl, by decide⟩⟩,
    ?_, ?_⟩
  · rw [dhcpRecordMsgTypeChecked, ← message.usedOptions_length]
    exact DhcpTruncated.faults (Or.inr hcomes)
  · rw [dhcpRecordMsgType, ← message.usedOptions_length]
    refine hcomes.decides hread fun before rounds heq _ => ?_
    have hbehind : ¬ before.length + 2 < dhcpOptionsSize := by
      rw [← hlength, ← heq, List.length_append]
      exact lt_irrefl _
    rw [← heq] at hread ⊢
    rw [dhcpMsgTypeLoop_option (by simp) hread.at (by decide) (by decide), hread.at_second]
    simp [Except.bind, DhcpRecord.memory, hbehind]

/-! ## Options that were added -/

/-- The type in the first message type of one byte. -/
def dhcpFirstMsgType (options : List DhcpOption) : Int :=
  dhcpTypeOf ((options.find? fun option =>
    option.tag == dhcpOptionMsgType && option.data.length == 1).map DhcpOption.data)

/-- The scan of options that were added comes to the first message type of one byte, or to what follows
them. -/
theorem dhcpComesTo_added {options : List DhcpOption} (h : ∀ option ∈ options, DhcpOpens option.tag)
    (tail : List UInt8) :
    (∃ type rest, DhcpComesTo (options.flatMap DhcpOption.bytes ++ tail)
        (dhcpOptionMsgType :: 1 :: type :: rest) ∧ dhcpFirstMsgType options = type.toNat) ∨
      (DhcpComesTo (options.flatMap DhcpOption.bytes ++ tail) tail ∧ dhcpFirstMsgType options = -1) := by
  induction options with
  | nil => exact Or.inr ⟨.start tail, rfl⟩
  | cons option rest ih =>
      rcases option with ⟨tag, data, hshort⟩
      have htag := h _ List.mem_cons_self
      rw [List.flatMap_cons, List.append_assoc, DhcpOption.bytes, List.cons_append, List.cons_append]
      by_cases htype : tag = dhcpOptionMsgType ∧ data.length = 1
      · obtain ⟨rfl, hlength⟩ := htype
        obtain ⟨type, rfl⟩ := List.length_eq_one_iff.mp hlength
        exact Or.inl ⟨type, rest.flatMap DhcpOption.bytes ++ tail, .start _, rfl⟩
      · have hlen : data.length = (UInt8.ofNat data.length).toNat :=
          (UInt8.toNat_ofNat_of_lt' hshort).symm
        have hother : ¬ (tag = dhcpOptionMsgType ∧ UInt8.ofNat data.length = 1) := by
          rintro ⟨rfl, hone⟩
          rw [hone] at hlen
          exact htype ⟨rfl, hlen⟩
        have hfirst : dhcpFirstMsgType (⟨tag, data, hshort⟩ :: rest) = dhcpFirstMsgType rest := by
          rw [dhcpFirstMsgType, List.find?_cons_of_neg (by simpa using htype)]
          rfl
        rw [hfirst]
        obtain ⟨type, left, hcomes, heq⟩ | ⟨hcomes, heq⟩ :=
          ih fun option hoption => h option (List.mem_cons_of_mem _ hoption)
        · exact Or.inl ⟨type, left, hcomes.option htag hother hlen, heq⟩
        · exact Or.inr ⟨hcomes.option htag hother hlen, heq⟩

/-- A message that was built up from one without options. -/
def dhcpRecordBuilt (message : DhcpRecord) (options : List DhcpOption) : DhcpRecord :=
  dhcpRecordFinishOptions (dhcpRecordAddOptions message options)

/-- The scan finds the first message type that was added, in the message and in any other with its options. -/
theorem dhcpRecordMsgType_built {message : DhcpRecord} {options : List DhcpOption}
    (hempty : message.optionsLen = 0) (h : ∀ option ∈ options, DhcpOpens option.tag)
    {record : DhcpRecord}
    (hsame : record.usedOptions = (dhcpRecordBuilt message options).usedOptions)
    (beyond : Nat → UInt8) :
    dhcpRecordMsgType record beyond = .ok (some (dhcpFirstMsgType (dhcpAdded message options))) := by
  have hmemory := record.readsList_memory beyond
  rw [dhcpRecordMsgType, ← record.usedOptions_length]
  have hnone : message.usedOptions = [] := List.length_eq_zero_iff.mp (by simpa using hempty)
  rw [dhcpRecordBuilt, dhcpRecordFinishOptions_usedOptions, dhcpRecordAddOptions_usedOptions, hnone,
    List.nil_append] at hsame
  have hadded : ∀ option ∈ dhcpAdded message options, DhcpOpens option.tag := fun option hoption =>
    h option (dhcpAdded_subset message options hoption)
  -- END follows where it fits.
  obtain ⟨tail, htail, hoptions⟩ : ∃ tail, (tail = [] ∨ tail = [dhcpOptionEnd]) ∧
      record.usedOptions = (dhcpAdded message options).flatMap DhcpOption.bytes ++ tail := by
    rw [hsame, dhcpFinishOptions]
    split
    · exact ⟨_, Or.inr rfl, rfl⟩
    · exact ⟨[], Or.inl rfl, (List.append_nil _).symm⟩
  obtain ⟨type, rest, hcomes, hfirst⟩ | ⟨hcomes, hfirst⟩ := dhcpComesTo_added hadded tail
  · rw [← hoptions] at hcomes
    rw [hfirst]
    exact hcomes.returns hmemory
  · rw [← hoptions] at hcomes
    rw [hfirst]
    obtain rfl | rfl := htail
    · exact hcomes.ends hmemory
    · exact hcomes.endsAt hmemory

/-- Every message is written into 300 bytes and read again, with its header and its options; the message
type of one that was built is the first that was added to it, before and after that; and an option that does
not fit changes nothing. -/
theorem dhcpMessage_roundTrip :
    (∀ message : DhcpRecord, message.magicCookie = dhcpMagicCookie → message.ciaddr.prefixLen = 0 →
      message.yiaddr.prefixLen = 0 → message.siaddr.prefixLen = 0 → message.giaddr.prefixLen = 0 →
      ∃ raw parsed, dhcpRecordToBytes message 300 = some raw ∧ dhcpRecordFromBytes raw = some parsed ∧
        parsed.toDhcpHeader = message.toDhcpHeader ∧ parsed.optionsLen = message.optionsLen ∧
        parsed.usedOptions = message.usedOptions) ∧
    (∀ (message : DhcpRecord) (options : List DhcpOption) (beyond : Nat → UInt8),
      message.optionsLen = 0 → (∀ option ∈ options, option.tag ≠ 0 ∧ option.tag ≠ 255) →
      dhcpRecordMsgType (dhcpRecordBuilt message options) beyond =
          .ok (some (dhcpFirstMsgType (dhcpAdded message options))) ∧
        ∃ raw parsed, dhcpRecordToBytes (dhcpRecordBuilt message options) 300 = some raw ∧
          dhcpRecordFromBytes raw = some parsed ∧
          dhcpRecordMsgType parsed beyond =
            .ok (some (dhcpFirstMsgType (dhcpAdded message options)))) ∧
    ∀ (message : DhcpRecord) (option : DhcpOption),
      60 < message.optionsLen + 2 + option.data.length →
      dhcpRecordAddOption message option = (false, message) := by
  refine ⟨fun message hcookie hciaddr hyiaddr hsiaddr hgiaddr => ?_,
    fun message options beyond hempty hopens => ?_, fun message option hfull => dif_pos hfull⟩
  · obtain ⟨raw, parsed, hraw, hparsed, hheader, hlen, hused⟩ := dhcpRecord_roundTrip message
    refine ⟨raw, parsed, hraw, hparsed, ?_, hlen, hused⟩
    rw [hheader]
    exact message.toDhcpHeader.received_eq hcookie hciaddr hyiaddr hsiaddr hgiaddr
  · have htags : ∀ option ∈ options, DhcpOpens option.tag := fun option hoption =>
      (hopens option hoption).symm
    obtain ⟨raw, parsed, hraw, hparsed, -, -, hused⟩ :=
      dhcpRecord_roundTrip (dhcpRecordBuilt message options)
    exact ⟨dhcpRecordMsgType_built hempty htags rfl beyond, raw, parsed, hraw, hparsed,
      dhcpRecordMsgType_built hempty htags hused beyond⟩

/-- A cleared message with the cookie, to which nothing was added. -/
def dhcpClearedRecord : DhcpRecord :=
  { op := 0
    htype := 0
    hlen := 0
    hops := 0
    xid := 0
    secs := 0
    flags := 0
    ciaddr := ipZero
    yiaddr := ipZero
    siaddr := ipZero
    giaddr := ipZero
    chaddr := Vector.replicate 16 0
    sname := Vector.replicate 64 0
    file := Vector.replicate 128 0
    magicCookie := dhcpMagicCookie
    options := Vector.replicate dhcpOptionsSize 0
    optionsLen := 0
    optionsLen_le := Nat.zero_le _ }

/-- A message type, and an option that is too long to be added. -/
def dhcpLongOptions : List DhcpOption :=
  [{ tag := 12, data := List.replicate 100 53, short := by decide },
    { tag := dhcpOptionMsgType, data := [dhcpDiscoverType], short := by decide }]

/-- The option that is too long is passed over, and the type is found. -/
theorem dhcpMessage_roundTrip_discover :
    (∃ raw, dhcpRecordToBytes dhcpClearedRecord 300 = some raw) ∧
      dhcpRecordMsgType (dhcpRecordBuilt dhcpClearedRecord dhcpLongOptions) (fun _ => 0) =
        .ok (some 1) ∧
      ∀ option ∈ dhcpLongOptions.take 1,
        dhcpRecordAddOption dhcpClearedRecord option = (false, dhcpClearedRecord) := by
  obtain ⟨hheader, hbuilt, hfull⟩ := dhcpMessage_roundTrip
  refine ⟨?_, ?_, fun option hoption => hfull _ _ ?_⟩
  · obtain ⟨raw, -, hraw, -⟩ := hheader dhcpClearedRecord rfl rfl rfl rfl rfl
    exact ⟨raw, hraw⟩
  · exact (hbuilt dhcpClearedRecord dhcpLongOptions (fun _ => 0) rfl (by decide)).1
  · rw [List.mem_singleton.mp hoption]
    decide

end MagiStack
