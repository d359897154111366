import Nethernet.Net

/-! Classification of addresses by routability, and how an address is displayed. -/

set_option autoImplicit false

namespace Nethernet

inductive Scope where
  | publicScope
  -- RFC 1918, carrier-grade NAT and unique local addresses
  | privateScope
  | loopback
  -- reserved, documentation, link-local, multicast and similar ranges
  | unusable
  deriving DecidableEq, Repr

namespace Endpoint

def octet (ip : BitVec 32) (index : Nat) : Nat := (ip >>> (8 * (3 - index))).toNat % 256

def segment (ip : BitVec 128) (index : Nat) : Nat := (ip >>> (16 * (7 - index))).toNat % 65536

def scopeV4 (ip : BitVec 32) : Scope :=
  let a := octet ip 0
  let b := octet ip 1
  let c := octet ip 2
  let d := octet ip 3
  if a = 10 ∨ (a = 172 ∧ 16 ≤ b ∧ b ≤ 31) ∨ (a = 192 ∧ b = 168) ∨ (a = 100 ∧ 64 ≤ b ∧ b ≤ 127) then .privateScope
  else if a = 127 then .loopback
  else if a = 0 ∨ 224 ≤ a ∨ (a = 169 ∧ b = 254) ∨ (a = 203 ∧ b = 0 ∧ c = 113) ∨
      (a = 198 ∧ (b = 18 ∨ b = 19 ∨ (b = 51 ∧ c = 100))) ∨
      (a = 192 ∧ ((b = 88 ∧ c = 99) ∨ (b = 0 ∧ (c = 2 ∨ (c = 0 ∧ d ≠ 9 ∧ d ≠ 10))))) then .unusable
  else .publicScope

def scopeV6 (ip : BitVec 128) : Scope :=
  let a := segment ip 0
  let b := segment ip 1
  if a &&& 0xfe00 = 0xfc00 then .privateScope
  else if ip = 1 then .loopback
  else if a &&& 0xe000 ≠ 0x2000 ∨ a = 0x2002 ∨ (a = 0x2001 ∧ (b < 0x200 ∨ b = 0xdb8)) ∨
      (a = 0x3fff ∧ b < 0x1000) then .unusable
  else .publicScope

def scope (address : IpAddr) : Scope :=
  match normalize address with
  | .v4 ip => scopeV4 ip
  | .v6 ip => scopeV6 ip

/-- True for public and private scopes, false for loopback and unusable ones. -/
def routable (address : IpAddr) : Bool := scope address = .publicScope || scope address = .privateScope

end Endpoint

/-! ## Display -/

namespace IpAddr

def displayV4 (ip : BitVec 32) : List Char :=
  (toString (Endpoint.octet ip 0)).toList ++ '.' :: (toString (Endpoint.octet ip 1)).toList ++
    '.' :: (toString (Endpoint.octet ip 2)).toList ++ '.' :: (toString (Endpoint.octet ip 3)).toList

-- `{:x}` of a sixteen-bit number
def lowerHex (value : Nat) : List Char :=
  ([value / 4096 % 16, value / 256 % 16, value / 16 % 16].map Nat.digitChar).dropWhile (· == '0') ++
    [Nat.digitChar (value % 16)]

def displaySegments : List Nat → List Char
  | [] => []
  | [last] => lowerHex last
  | first :: rest => lowerHex first ++ ':' :: displaySegments rest

structure Span where
  start : Nat := 0
  len : Nat := 0

-- the first longest run of zero segments
def zeroes (segments : List Nat) : Span :=
  (segments.zipIdx.foldl (fun (spans : Span × Span) entry =>
    let (longest, current) := spans
    if entry.1 = 0 then
      let current := if current.len = 0 then ⟨entry.2, 1⟩ else { current with len := current.len + 1 }
      (if longest.len < current.len then current else longest, current)
    else (longest, {})) ({}, {})).1

def displayV6 (ip : BitVec 128) : List Char :=
  if ip >>> 32 = 0xffff then "::ffff:".toList ++ displayV4 (ip.setWidth 32)
  else
    let segments := (List.range 8).map (Endpoint.segment ip)
    let zeroes := zeroes segments
    if 1 < zeroes.len then
      displaySegments (segments.take zeroes.start) ++ "::".toList ++
        displaySegments (segments.drop (zeroes.start + zeroes.len))
    else displaySegments segments

/-- The standard library's text of an address. -/
def display : IpAddr → List Char
  | .v4 ip => displayV4 ip
  | .v6 ip => displayV6 ip

example : String.ofList (display (.v6 0x20010db8000000000000ff0000428329)) = "2001:db8::ff00:42:8329" := by decide

end IpAddr

end Nethernet
