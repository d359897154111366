import Nethernet.Foundation.Utf8

/-! Socket addresses, and the address ranges that trusted proxies are listed by. -/

set_option autoImplicit false

namespace Nethernet

inductive IpAddr where
  | v4 (bits : BitVec 32)
  | v6 (bits : BitVec 128)
  deriving DecidableEq, Repr

-- an IPv6 address also carries a flow label and a scope, which take part in equality
inductive SocketAddr where
  | v4 (ip : BitVec 32) (port : UInt16)
  | v6 (ip : BitVec 128) (port : UInt16) (flowinfo scopeId : UInt32)
  deriving DecidableEq, Repr

namespace SocketAddr

def ip : SocketAddr → IpAddr
  | .v4 ip _ => .v4 ip
  | .v6 ip _ _ _ => .v6 ip

def port : SocketAddr → UInt16
  | .v4 _ port => port
  | .v6 _ port _ _ => port

-- `SocketAddr::new(Ipv4Addr::LOCALHOST.into(), port)`
def loopback (port : UInt16) : SocketAddr := .v4 0x7f000001 port

def new : IpAddr → UInt16 → SocketAddr
  | .v4 ip, port => .v4 ip port
  | .v6 ip, port => .v6 ip port 0 0

end SocketAddr

namespace Endpoint

/-- Maps IPv4-mapped IPv6 addresses to IPv4. -/
def normalize : IpAddr → IpAddr
  | .v4 ip => .v4 ip
  | .v6 ip => if ip >>> 32 = 0xffff then .v4 (ip.setWidth 32) else .v6 ip

-- an IPv4 address in its IPv4-mapped IPv6 form
def mapped (ip : BitVec 32) : BitVec 128 := 0xffff00000000 + ip.setWidth 128

theorem normalize_mapped (ip : BitVec 32) : normalize (.v6 (mapped ip)) = .v4 ip := by
  have small := ip.isLt
  have marker : mapped ip >>> 32 = 0xffff := by
    apply BitVec.eq_of_toNat_eq
    simp only [mapped, BitVec.ofNat_eq_ofNat, BitVec.toNat_ushiftRight, BitVec.toNat_add, BitVec.toNat_ofNat,
      Nat.reducePow, Nat.reduceMod, BitVec.toNat_setWidth, Nat.add_mod_mod, Nat.shiftRight_eq_div_pow]
    omega
  have address : (mapped ip).setWidth 32 = ip := by
    apply BitVec.eq_of_toNat_eq
    simp only [mapped, BitVec.ofNat_eq_ofNat, BitVec.toNat_setWidth, BitVec.toNat_add, BitVec.toNat_ofNat,
      Nat.reducePow, Nat.reduceMod, Nat.add_mod_mod, Nat.reduceDvd, Nat.mod_mod_of_dvd]
    omega
  rw [normalize, if_pos marker, address]

-- the bytes an address literal may have
def isLiteral (byte : UInt8) : Bool :=
  (0x30 ≤ byte && byte ≤ 0x39) || (0x41 ≤ byte && byte ≤ 0x46) || (0x61 ≤ byte && byte ≤ 0x66)
    || byte = 0x3a || byte = 0x2e

/-- Accepts only address literals up to 45 characters; `parseIp` is the standard library's reader. -/
def parse (parseIp : String → Option IpAddr) (value : String) : Option IpAddr :=
  let bytes := Foundation.utf8 value
  if bytes.isEmpty || 45 < bytes.length || !bytes.all isLiteral then none
  else (parseIp value).map normalize

end Endpoint

inductive IpNet where
  | v4 (addr : BitVec 32) (prefixLen : Nat)
  | v6 (addr : BitVec 128) (prefixLen : Nat)
  deriving DecidableEq, Repr

def IpNet.contains : IpNet → IpAddr → Bool
  | .v4 addr prefixLen, .v4 ip => addr >>> (32 - prefixLen) = ip >>> (32 - prefixLen)
  | .v6 addr prefixLen, .v6 ip => addr >>> (128 - prefixLen) = ip >>> (128 - prefixLen)
  | _, _ => false

structure IpRangeSet where
  ranges : List IpNet
  deriving DecidableEq, Repr

namespace IpRangeSet

def empty : IpRangeSet := ⟨[]⟩

def contains (set : IpRangeSet) (address : IpAddr) : Bool :=
  set.ranges.any fun range => range.contains (Endpoint.normalize address)

end IpRangeSet

end Nethernet
