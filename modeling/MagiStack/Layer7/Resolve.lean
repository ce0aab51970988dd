import MagiStack.Layer3.IpGrammar
import MagiStack.Layer7.DnsServer

/-!
# Resolve — names and addresses

`magi_resolve` takes for an address what `ip_parse` accepts and looks up the rest.  `ip_parse` accepts every
dotted quad, and exactly one more kind of string: those that `sscanf` reads as one although a number has
whitespace or a sign before it or is larger than its octet, or although something follows.
-/

namespace MagiStack

/-- `magi_resolve`, and what it leaves in `out_ip`. -/
def magiResolve (table : DnsTable) (hostname : Text) (outIp : IpAddress) : Bool × IpAddress :=
  let (parsed, ip) := ipParse hostname outIp
  if parsed then
    (true, ip)
  else
    match dnsServerResolve table hostname with
    | some found => (true, found)
    | none => (false, ip)

/-! ## Dotted quads -/

/-- Digits, and the number they are. -/
def IsDecimal (digits : Text) (value : Nat) : Prop :=
  digits ≠ [] ∧ (∀ c ∈ digits, isDigit c = true) ∧ digitsValue digits = value

/-- `d1.d2.d3.d4` or `d1.d2.d3.d4/p`, and the address it is. -/
def DottedQuad (s : Text) (ip : IpAddress) : Prop :=
  ∃ a b c d tail, s = a ++ 46 :: (b ++ 46 :: (c ++ 46 :: (d ++ tail))) ∧
    IsDecimal a ip.octet0.toNat ∧ IsDecimal b ip.octet1.toNat ∧ IsDecimal c ip.octet2.toNat ∧
    IsDecimal d ip.octet3.toNat ∧
    (tail = [] ∧ ip.prefixLen = 0 ∨
      ∃ p, tail = 47 :: p ∧ IsDecimal p ip.prefixLen.toNat ∧ ip.prefixLen.toNat ≤ 32)

/-- The string is taken for an address exactly when it is one, and for the right one. -/
structure ParsesExactly (s : Text) : Prop where
  accepts : ∀ ip outIp, DottedQuad s ip → ipParse s outIp = (true, ip)
  refuses : (¬ ∃ ip, DottedQuad s ip) → ∀ outIp, (ipParse s outIp).1 = false
  resolves : (¬ ∃ ip, DottedQuad s ip) → ∀ table outIp,
    match dnsServerResolve table s with
    | some found => magiResolve table s outIp = (true, found)
    | none => (magiResolve table s outIp).1 = false

/-- Plain numbers no larger than an octet, and no more than a plain prefix behind them. -/
structure Quad.Exact (q : Quad) : Prop where
  a : q.a.Plain ∧ q.a.value ≤ 255
  b : q.b.Plain ∧ q.b.value ≤ 255
  c : q.c.Plain ∧ q.c.value ≤ 255
  d : q.d.Plain ∧ q.d.value ≤ 255
  tail : q.tail = [] ∨ ∃ n : Numeral, q.tail = 47 :: n.text ∧ n.Plain ∧ n.value ≤ 32

/-- The string is read as four numbers and a prefix in range, but there is a blank, a sign or an overflow in
it or something behind it. -/
def Slack (s : Text) : Prop :=
  ∃ q : Quad, q.text = s ∧ q.InRange ∧ q.PrefixInRange ∧ ¬ q.Exact

/-! ## What is accepted -/

namespace Quad

variable {q q' : Quad}

/-- The octet of a number. -/
def octet (n : Numeral) : UInt8 :=
  UInt8.ofNat n.value

theorem octet_toNat {n : Numeral} (h : n.value ≤ 255) : (octet n).toNat = n.value := by
  rw [octet, UInt8.toNat_ofNat']
  omega

/-- The address that four numbers and a prefix are. -/
def address (q : Quad) (bits : Nat) : IpAddress :=
  { octet0 := octet q.a, octet1 := octet q.b, octet2 := octet q.c, octet3 := octet q.d
    prefixLen := UInt8.ofNat bits }

/-- A dotted quad is scanned as it stands. -/
theorem Exact.ipParse_eq (h : q.Exact) {bits : Nat} (hbits : scanPrefix q.tail = bits) (hle : bits ≤ 32)
    (outIp : IpAddress) : ipParse q.text outIp = (true, q.address bits) := by
  rw [ipParse, q.scanOctets_text, h.a.1.unsigned_eq h.a.2, h.b.1.unsigned_eq h.b.2,
    h.c.1.unsigned_eq h.c.2, h.d.1.unsigned_eq h.d.2]
  simp only [hbits]
  rw [if_neg (by omega), if_neg (by have := h.a.2; omega), if_neg (by have := h.b.2; omega),
    if_neg (by have := h.c.2; omega), if_neg (by have := h.d.2; omega)]
  rfl

theorem Exact.exists_dottedQuad (h : q.Exact) : ∃ ip, DottedQuad q.text ip := by
  have hnumber : ∀ n : Numeral, n.Plain ∧ n.value ≤ 255 → IsDecimal n.text (octet n).toNat := by
    intro n hn
    rw [hn.1.text_eq, octet_toNat hn.2]
    exact ⟨n.digits_ne_nil, n.digits_isDigit, rfl⟩
  rcases h.tail with hnil | ⟨n, htail, hplain, hrange⟩
  · exact ⟨q.address 0, _, _, _, _, _, rfl, hnumber _ h.a, hnumber _ h.b, hnumber _ h.c, hnumber _ h.d,
      Or.inl ⟨hnil, rfl⟩⟩
  · have hbits : (q.address n.value).prefixLen.toNat = n.value := by
      rw [address, UInt8.toNat_ofNat']
      omega
    refine ⟨q.address n.value, _, _, _, _, _, rfl, hnumber _ h.a, hnumber _ h.b, hnumber _ h.c, hnumber _ h.d,
      Or.inr ⟨n.text, htail, ?_⟩⟩
    rw [hbits, hplain.text_eq]
    exact ⟨⟨n.digits_ne_nil, n.digits_isDigit, rfl⟩, hrange⟩

/-- A dotted quad is scanned in one way. -/
theorem Exact.unique (h : q.Exact) (htext : q.text = q'.text) : q'.Exact := by
  have hstep : ∀ {n n' : Numeral} {rest rest' : Text}, n.Plain ∧ n.value ≤ 255 → DigitsEnd rest →
      DigitsEnd rest' → n.text ++ rest = n'.text ++ rest' → (n'.Plain ∧ n'.value ≤ 255) ∧ rest = rest' := by
    intro n n' rest rest' hn hrest hrest' heq
    obtain ⟨hplain, hvalue, hsame⟩ := hn.1.unique hrest hrest' heq
    exact ⟨⟨hplain, hvalue ▸ hn.2⟩, hsame.symm⟩
  obtain ⟨ha, hrest⟩ := hstep h.a (digitsEnd_dot _) (digitsEnd_dot _) htext
  obtain ⟨hb, hrest⟩ := hstep h.b (digitsEnd_dot _) (digitsEnd_dot _) (List.cons.inj hrest).2
  obtain ⟨hc, hrest⟩ := hstep h.c (digitsEnd_dot _) (digitsEnd_dot _) (List.cons.inj hrest).2
  obtain ⟨hd, htail⟩ := hstep h.d q.tail_digitsEnd q'.tail_digitsEnd (List.cons.inj hrest).2
  exact ⟨ha, hb, hc, hd, htail ▸ h.tail⟩

end Quad

/-- The prefix of a dotted quad, with a number for it. -/
theorem exists_exact_tail {tail : Text} {bits : Nat}
    (h : tail = [] ∧ bits = 0 ∨ ∃ p, tail = 47 :: p ∧ IsDecimal p bits ∧ bits ≤ 32) :
    DigitsEnd tail ∧ (tail = [] ∨ ∃ n : Numeral, tail = 47 :: n.text ∧ n.Plain ∧ n.value ≤ 32) ∧
      scanPrefix tail = bits := by
  rcases h with ⟨rfl, rfl⟩ | ⟨p, rfl, ⟨hne, hdigits, rfl⟩, hrange⟩
  · exact ⟨DigitsEnd.nil, Or.inl rfl, rfl⟩
  · have hplain := Numeral.ofDigits_plain p hne hdigits
    refine ⟨DigitsEnd.cons (by decide) _, Or.inr ⟨_, ?_, hplain, hrange⟩, ?_⟩
    · rw [hplain.text_eq]
      rfl
    · have hscan := scanPrefix_eq
        (.number _ [] DigitsEnd.nil : TailPrefix _ (Numeral.ofDigits p hne hdigits).int)
      rw [List.append_nil, hplain.text_eq, hplain.int_eq hrange] at hscan
      exact hscan

/-- The number that digits are. -/
def IsDecimal.numeral {digits : Text} {value : Nat} (h : IsDecimal digits value) : Numeral :=
  .ofDigits digits h.1 h.2.1

theorem IsDecimal.octet {digits : Text} {octet : UInt8} (h : IsDecimal digits octet.toNat) :
    (h.numeral.Plain ∧ h.numeral.value ≤ 255) ∧ Quad.octet h.numeral = octet := by
  have hvalue : h.numeral.value = octet.toNat := h.2.2
  refine ⟨⟨Numeral.ofDigits_plain _ _ _, ?_⟩, ?_⟩
  · rw [hvalue]
    exact Nat.le_of_lt_succ octet.toNat_lt
  · rw [Quad.octet, hvalue, UInt8.ofNat_toNat]

/-- A dotted quad is read as what it is. -/
theorem DottedQuad.exists_exact {s : Text} {ip : IpAddress} (h : DottedQuad s ip) :
    ∃ q : Quad, q.text = s ∧ q.Exact ∧ ∀ outIp, ipParse s outIp = (true, ip) := by
  obtain ⟨a, b, c, d, tail, rfl, ha, hb, hc, hd, htail⟩ := h
  obtain ⟨hend, hexact, hbits⟩ := exists_exact_tail (htail.imp (And.imp_right (congrArg UInt8.toNat)) id)
  have hrange : ip.prefixLen.toNat ≤ 32 := by
    rcases htail with ⟨-, hzero⟩ | ⟨p, -, -, hrange⟩
    · rw [hzero]
      decide
    · exact hrange
  -- The numbers are the parts of the string.
  let q : Quad :=
    { a := ha.numeral, b := hb.numeral, c := hc.numeral, d := hd.numeral
      tail := tail, tail_digitsEnd := hend }
  have hq : q.Exact := ⟨ha.octet.1, hb.octet.1, hc.octet.1, hd.octet.1, hexact⟩
  have haddress : q.address ip.prefixLen.toNat = ip :=
    (IpAddress.mk.injEq ..).mpr ⟨ha.octet.2, hb.octet.2, hc.octet.2, hd.octet.2, UInt8.ofNat_toNat⟩
  refine ⟨q, rfl, hq, fun outIp => ?_⟩
  rw [← haddress]
  exact hq.ipParse_eq hbits hrange outIp

/-- A dotted quad is digits, points and slashes. -/
theorem DottedQuad.chars {s : Text} {ip : IpAddress} (h : DottedQuad s ip) :
    ∀ c ∈ s, isDigit c = true ∨ c = 46 ∨ c = 47 := by
  obtain ⟨a, b, c, d, tail, rfl, ⟨-, ha, -⟩, ⟨-, hb, -⟩, ⟨-, hc, -⟩, ⟨-, hd, -⟩, htail⟩ := h
  have hbehind : ∀ x ∈ tail, isDigit x = true ∨ x = 47 := by
    rcases htail with ⟨rfl, -⟩ | ⟨p, rfl, ⟨-, hp, -⟩, -⟩
    · exact fun _ hx => nomatch hx
    · intro x hx
      rcases List.mem_cons.mp hx with rfl | hx
      · exact Or.inr rfl
      · exact Or.inl (hp x hx)
  intro x hx
  simp only [List.mem_append, List.mem_cons] at hx
  rcases hx with hx | rfl | hx | rfl | hx | rfl | hx | hx
  · exact Or.inl (ha x hx)
  · exact Or.inr (Or.inl rfl)
  · exact Or.inl (hb x hx)
  · exact Or.inr (Or.inl rfl)
  · exact Or.inl (hc x hx)
  · exact Or.inr (Or.inl rfl)
  · exact Or.inl (hd x hx)
  · exact (hbehind x hx).imp_right Or.inr

/-- A string is taken for an address exactly when it is one, unless `sscanf` makes an address of it that it is
not. -/
theorem ipParse_exact_iff (s : Text) : ParsesExactly s ↔ ¬ Slack s := by
  constructor
  · rintro h ⟨q, rfl, hrange, hprefix, hslack⟩
    have haccepted := (ipParse_accepts_iff q.text ipZero).mpr ⟨q, rfl, hrange, hprefix⟩
    rw [h.refuses ?_ ipZero] at haccepted
    · cases haccepted
    · rintro ⟨ip, hdotted⟩
      obtain ⟨q', htext, hexact, -⟩ := hdotted.exists_exact
      exact hslack (hexact.unique htext)
  · intro hslack
    have hrefuses : (¬ ∃ ip, DottedQuad s ip) → ∀ outIp, (ipParse s outIp).1 = false := by
      intro hnone outIp
      rw [Bool.eq_false_iff]
      intro haccepted
      obtain ⟨q, rfl, hrange, hprefix⟩ := (ipParse_accepts_iff s outIp).mp haccepted
      have hexact : q.Exact := by_contra fun hnot => hslack ⟨q, rfl, hrange, hprefix, hnot⟩
      exact hnone hexact.exists_dottedQuad
    refine ⟨fun ip outIp hdotted => ?_, hrefuses, fun hnone table outIp => ?_⟩
    · obtain ⟨-, -, -, hparse⟩ := hdotted.exists_exact
      exact hparse outIp
    · have hparse := hrefuses hnone outIp
      rw [magiResolve]
      cases hfound : dnsServerResolve table s with
      | some found => simp [hparse]
      | none => simp [hparse]

/-- A host name that begins with an address is taken for it. -/
theorem ipParse_exact_hostname :
    (¬ ∃ ip, DottedQuad (text "1.2.3.4.example.com") ip) ∧
      magiResolve .empty (text "1.2.3.4.example.com") ipZero = (true, ⟨1, 2, 3, 4, 0⟩) ∧
      ¬ ParsesExactly (text "1.2.3.4.example.com") := by
  have hnot : ¬ ∃ ip, DottedQuad (text "1.2.3.4.example.com") ip := by
    rintro ⟨ip, hdotted⟩
    exact absurd (hdotted.chars 101 (by decide)) (by decide)
  refine ⟨hnot, by decide, fun h => ?_⟩
  have hrefused := h.refuses hnot ipZero
  revert hrefused
  decide

end MagiStack
