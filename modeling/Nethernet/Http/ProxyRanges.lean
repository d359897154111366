import Nethernet.Http.Advertised

/-! The ranges that trusted proxies are listed by. A range of IPv4 addresses can be written as one of
IPv6 addresses; it is brought to IPv4 when it is parsed, as an address is when it is looked up.

`ipnet` and the standard library's reader of addresses enter as `IpText`. -/

set_option autoImplicit false

namespace Nethernet
open Foundation

structure IpText where
  parseNet : String → Option IpNet
  parseIp : String → Option IpAddr

namespace IpNet

-- `Ipv4Net::new`, which refuses a prefix longer than the address
def newV4 (ip : BitVec 32) (prefixLen : Nat) : Option IpNet :=
  if prefixLen ≤ 32 then some (.v4 ip prefixLen) else none

-- `IpNet::from`: the range of one address
def ofAddr : IpAddr → IpNet
  | .v4 ip => .v4 ip 32
  | .v6 ip => .v6 ip 128

end IpNet

namespace Endpoint

def toIpv4Mapped (ip : BitVec 128) : Option (BitVec 32) :=
  if ip >>> 32 = 0xffff then some (ip.setWidth 32) else none

theorem toIpv4Mapped_mapped (ip : BitVec 32) : toIpv4Mapped (mapped ip) = some ip := by
  have normal := normalize_mapped ip
  rw [normalize] at normal
  unfold toIpv4Mapped
  split at normal
  · rename_i marked
    rw [if_pos marked, IpAddr.v4.inj normal]
  · cases normal

theorem toNat_mapped (ip : BitVec 32) : (mapped ip).toNat = 0xffff * 2 ^ 32 + ip.toNat := by
  have small := ip.isLt
  rw [mapped, BitVec.toNat_add, BitVec.toNat_setWidth]
  simp only [BitVec.ofNat_eq_ofNat, BitVec.toNat_ofNat]
  omega

end Endpoint

namespace IpRangeSet

def intoIpv4WhenMapped (range : IpNet) : Option IpNet :=
  match range with
  | .v4 _ _ => some range
  | .v6 addr prefixLen =>
    match Endpoint.toIpv4Mapped addr with
    | none => some range
    | some ip => if 96 ≤ prefixLen then IpNet.newV4 ip (prefixLen - 96) else none

section
variable (text : IpText)

def range (entry : String) : Option IpNet :=
  match text.parseNet entry with
  | some range => intoIpv4WhenMapped range
  | none => (text.parseIp entry).map fun address => .ofAddr (Endpoint.normalize address)

/-- Skips malformed entries. -/
def parse (entries : List String) : IpRangeSet :=
  ⟨entries.filterMap fun entry => range text (String.ofList (trim entry.toList))⟩

/-! ## Sets and their entries -/

theorem contains_append (first second : List IpNet) (address : IpAddr) :
    (IpRangeSet.mk (first ++ second)).contains address =
      ((IpRangeSet.mk first).contains address || (IpRangeSet.mk second).contains address) := List.any_append

theorem parse_append (before after : List String) :
    parse text (before ++ after) = ⟨(parse text before).ranges ++ (parse text after).ranges⟩ := by
  rw [parse, List.filterMap_append]
  rfl

theorem contains_parse (entries : List String) (address : IpAddr) :
    (parse text entries).contains address = entries.any fun entry => (parse text [entry]).contains address := by
  induction entries with
  | nil => rfl
  | cons entry entries ih =>
    rw [List.any_cons, ← ih, ← contains_append, ← parse_append]
    rfl

-- an IPv4 address is looked up in the same way in both of its spellings
theorem contains_mapped (set : IpRangeSet) (ip : BitVec 32) :
    set.contains (.v6 (Endpoint.mapped ip)) = set.contains (.v4 ip) := by
  unfold contains
  rw [Endpoint.normalize_mapped]
  rfl

end

end IpRangeSet

/-! ## Mapped ranges -/

variable {prefixLen : Nat}

/-- Below the marker the bits of a mapped address are those of the address. -/
theorem IpNet.contains_mapped (long : 96 ≤ prefixLen) (fits : prefixLen ≤ 128) (base ip : BitVec 32) :
    (IpNet.v6 (Endpoint.mapped base) prefixLen).contains (.v6 (Endpoint.mapped ip)) =
      (IpNet.v4 base (prefixLen - 96)).contains (.v4 ip) := by
  obtain ⟨kept, rfl⟩ := Nat.exists_eq_add_of_le long
  have width : 2 ^ 32 = 2 ^ (32 - kept) * 2 ^ kept := by
    rw [← Nat.pow_add]
    congr 1
    omega
  have shifted (ip : BitVec 32) : (Endpoint.mapped ip).toNat / 2 ^ (32 - kept) =
      0xffff * 2 ^ kept + ip.toNat / 2 ^ (32 - kept) := by
    rw [Endpoint.toNat_mapped, width, Nat.mul_left_comm, Nat.mul_add_div (Nat.two_pow_pos _)]
  have amount : 128 - (96 + kept) = 32 - kept := by omega
  have rest : 96 + kept - 96 = kept := by omega
  simp only [IpNet.contains, amount, rest, ← BitVec.toNat_inj, BitVec.toNat_ushiftRight, Nat.shiftRight_eq_div_pow, shifted, Nat.add_left_cancel_iff]

namespace IpText

/-- An entry is read as this network. -/
def Spells (text : IpText) (entry : String) (net : IpNet) : Prop :=
  text.parseNet (String.ofList (trim entry.toList)) = some net

-- either reader accepts the entry
def WellFormed (text : IpText) (entry : String) : Prop :=
  (text.parseNet (String.ofList (trim entry.toList))).isSome ∨ (text.parseIp (String.ofList (trim entry.toList))).isSome

/-- The text `::ffff:b/p` of a mapped network. -/
def mappedText (base : BitVec 32) (prefixLen : Nat) : String :=
  String.ofList ("::ffff:".toList ++ IpAddr.displayV4 base ++ '/' :: (toString prefixLen).toList)

/-- What is assumed of `ipnet`: it reads the mapped networks, and prefixes are not longer than addresses. -/
structure ReadsMapped (text : IpText) : Prop where
  reads : ∀ base prefixLen, prefixLen ≤ 128 →
    text.parseNet (mappedText base prefixLen) = some (.v6 (Endpoint.mapped base) prefixLen)
  bounded : ∀ entry addr prefixLen, text.parseNet entry = some (.v6 addr prefixLen) → prefixLen ≤ 128

end IpText

variable (base : BitVec 32)

namespace IpRangeSet
variable {text : IpText}

theorem parse_of_spells {entry : String} {net : IpNet} (spells : text.Spells entry net) :
    parse text [entry] = ⟨(intoIpv4WhenMapped net).toList⟩ := by
  have read : range text (String.ofList (trim entry.toList)) = intoIpv4WhenMapped net := by
    rw [range, spells]
  rw [parse, List.filterMap_cons, read]
  cases intoIpv4WhenMapped net <;> rfl

theorem intoIpv4WhenMapped_of_long (long : 96 ≤ prefixLen) (fits : prefixLen ≤ 128) :
    intoIpv4WhenMapped (.v6 (Endpoint.mapped base) prefixLen) = some (.v4 base (prefixLen - 96)) := by
  have room : prefixLen - 96 ≤ 32 := by omega
  simp only [intoIpv4WhenMapped, Endpoint.toIpv4Mapped_mapped, if_pos long, IpNet.newV4, if_pos room]

theorem intoIpv4WhenMapped_of_short (short : prefixLen < 96) :
    intoIpv4WhenMapped (.v6 (Endpoint.mapped base) prefixLen) = none := by
  simp only [intoIpv4WhenMapped, Endpoint.toIpv4Mapped_mapped, if_neg (Nat.not_le.mpr short)]

/-- What the parsed sets have to do with the ranges written. -/
structure MappedRanges (text : IpText) : Prop where
  written : ∀ base prefixLen, prefixLen ≤ 128 →
    text.Spells (IpText.mappedText base prefixLen) (.v6 (Endpoint.mapped base) prefixLen)
  covers : ∀ entry base prefixLen, text.Spells entry (.v6 (Endpoint.mapped base) prefixLen) → 96 ≤ prefixLen →
    ∀ ip, (parse text [entry]).contains (.v4 ip) =
      (IpNet.v6 (Endpoint.mapped base) prefixLen).contains (.v6 (Endpoint.mapped ip))
  skips : ∀ entry base prefixLen, text.Spells entry (.v6 (Endpoint.mapped base) prefixLen) → prefixLen < 96 →
    ∀ before after, parse text (before ++ entry :: after) = parse text (before ++ after)
  bothSpellings : ∀ entries ip,
    (parse text entries).contains (.v4 ip) = (parse text entries).contains (.v6 (Endpoint.mapped ip))
  entryWise : ∀ entries address, (parse text entries).contains address = true ↔
    ∃ entry ∈ entries, text.WellFormed entry ∧ (parse text [entry]).contains address = true

theorem contains_single (range : IpNet) (address : IpAddr) :
    (IpRangeSet.mk [range]).contains address = range.contains (Endpoint.normalize address) := by
  simp [contains]

theorem wellFormed_of_contains {entry : String} {address : IpAddr}
    (contained : (parse text [entry]).contains address = true) : text.WellFormed entry := by
  unfold IpText.WellFormed
  cases net : text.parseNet (String.ofList (trim entry.toList)) with
  | some _ => exact .inl rfl
  | none =>
    cases single : text.parseIp (String.ofList (trim entry.toList)) with
    | some _ => exact .inr rfl
    | none =>
      have malformed : range text (String.ofList (trim entry.toList)) = none := by
        rw [range, net, single]
        rfl
      rw [parse, List.filterMap_cons, malformed] at contained
      cases contained

end IpRangeSet

namespace IpText

theorem toList_mappedText (prefixLen : Nat) : (mappedText base prefixLen).toList =
    "::ffff:".toList ++ IpAddr.displayV4 base ++ '/' :: (toString prefixLen).toList := String.toList_ofList

theorem trim_mappedText (prefixLen : Nat) :
    String.ofList (trim (mappedText base prefixLen).toList) = mappedText base prefixLen := by
  have ink : ∀ c ∈ (mappedText base prefixLen).toList, isWhitespace c = false := by
    have start : ∀ c ∈ "::ffff:".toList, isWhitespace c = false := by decide
    have address := IpAddr.forall_displayV4 (fun c => ink_of_isDigit) (by decide) base
    have digits : ∀ c ∈ prefixLen.repr.toList, isWhitespace c = false :=
      fun c member => ink_of_isDigit (isDigit_of_mem_repr member)
    rw [toList_mappedText, List.forall_mem_append, List.forall_mem_append, List.forall_mem_cons]
    exact ⟨⟨start, address⟩, by decide, digits⟩
  rw [trim_eq_self ink]
  exact String.ofList_toList

end IpText

/-! ## A reader of mapped networks -/

namespace IpText

def parseMapped (entry : String) : Option IpNet := do
  let rest ← stripPrefix "::ffff:".toList entry.toList
  let (address, digits) ← splitOnce '/' rest
  match Candidates.parseDotted (String.ofList address), Candidates.octetOf digits with
  | some (.v4 ip), some prefixLen => if prefixLen ≤ 128 then some (.v6 (Endpoint.mapped ip) prefixLen) else none
  | _, _ => none

def dotted : IpText := ⟨parseMapped, Candidates.parseDotted⟩

theorem parseMapped_mappedText (fits : prefixLen ≤ 128) :
    parseMapped (mappedText base prefixLen) = some (.v6 (Endpoint.mapped base) prefixLen) := by
  have slashless : '/' ∉ IpAddr.displayV4 base := by
    have other : ∀ c ∈ IpAddr.displayV4 base, c ≠ '/' := by
      apply IpAddr.forall_displayV4
      · rintro c digit rfl
        cases digit
      · decide
    exact fun member => other '/' member rfl
  unfold parseMapped
  rw [toList_mappedText, List.append_assoc, stripPrefix_append]
  simp only [Option.bind_eq_bind, Option.bind_some, splitOnce_append _ slashless, Candidates.parseDotted_displayV4,
    Candidates.octetOf_toString (Nat.lt_of_le_of_lt fits (by decide)), if_pos fits]

theorem dotted_readsMapped : dotted.ReadsMapped where
  reads base _ fits := parseMapped_mappedText base fits
  bounded entry addr prefixLen read := by
    change parseMapped entry = _ at read
    unfold parseMapped at read
    obtain ⟨rest, -, read⟩ := Option.bind_eq_some_iff.mp read
    obtain ⟨parts, -, read⟩ := Option.bind_eq_some_iff.mp read
    dsimp only at read
    split at read
    · split at read
      · rename_i fits
        cases read
        exact fits
      · cases read
    · cases read

end IpText

/-! ## What the sets contain -/

namespace IpRangeSet

/-- Ranges of mapped addresses are ranges of IPv4 addresses, and a set is the union of its entries. -/
theorem mapped_ranges_faithful (text : IpText) (ipnet : text.ReadsMapped) : MappedRanges text := by
  constructor
  · intro base prefixLen fits
    rw [IpText.Spells, IpText.trim_mappedText]
    exact ipnet.reads base prefixLen fits
  · intro entry base prefixLen spells long ip
    have fits := ipnet.bounded _ _ _ spells
    rw [parse_of_spells spells, intoIpv4WhenMapped_of_long base long fits, IpNet.contains_mapped long fits]
    exact contains_single _ _
  · intro entry base prefixLen spells short before after
    have skipped : (parse text [entry]).ranges = [] := by
      rw [parse_of_spells spells, intoIpv4WhenMapped_of_short base short]
      rfl
    rw [List.append_cons, parse_append, parse_append, skipped, List.append_nil, ← parse_append]
  · intro entries ip
    exact (contains_mapped (parse text entries) ip).symm
  · intro entries address
    rw [contains_parse, List.any_eq_true]
    constructor
    · intro found
      obtain ⟨entry, member, contained⟩ := found
      exact ⟨entry, member, wellFormed_of_contains contained, contained⟩
    · intro found
      obtain ⟨entry, member, -, contained⟩ := found
      exact ⟨entry, member, contained⟩

/-- `::ffff:10.0.0.0/104` covers 10.1.2.3 and not 11.0.0.1; with 64 bits it covers nothing. -/
theorem mapped_ten_faithful :
    IpText.dotted.ReadsMapped ∧
      (parse IpText.dotted [IpText.mappedText 0x0a000000 104]).contains (.v4 0x0a010203) = true ∧
      (parse IpText.dotted [IpText.mappedText 0x0a000000 104]).contains (.v4 0x0b000001) = false ∧
      parse IpText.dotted [IpText.mappedText 0x0a000000 64] = .empty := by
  have faithful := mapped_ranges_faithful IpText.dotted IpText.dotted_readsMapped
  have written := faithful.written 0x0a000000 104 (by decide)
  have short := faithful.written 0x0a000000 64 (by decide)
  refine ⟨IpText.dotted_readsMapped, ?_, ?_, ?_⟩
  · rw [faithful.covers _ _ _ written (by decide)]
    decide
  · rw [faithful.covers _ _ _ written (by decide)]
    decide
  · exact faithful.skips _ _ _ short (by decide) [] []

end IpRangeSet

end Nethernet
