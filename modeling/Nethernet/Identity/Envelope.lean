import Nethernet.Identity.Token

/-! The identity envelope and the canonical JSON that a fingerprint signature covers. -/

set_option autoImplicit false

namespace Nethernet
open Foundation

/-- A decoded `a=identity` value: base64 JSON whose `assertion` field is itself JSON text. -/
structure Identity where
  idp : Identity.Idp
  assertion : Identity.Assertion

/-! ## Lines of a description -/

-- `sdp.split(['\r', '\n'])`
def sdpLines (sdp : String) : List (List Char) :=
  sdp.toList.splitOnP fun c => c == '\r' || c == '\n'

/-- The values of the lines that start with `start`, in order. -/
def sdpValues (start : String) (sdp : String) : List (List Char) :=
  (sdpLines sdp).filterMap (stripPrefix start.toList)

namespace Identity
variable (crates : IdentityCrates)

def fromJson (json : String) : Except IdentityError Identity := do
  let raw ← (crates.rawFromStr json).mapError fun e =>
    IdentityError.malformed ("invalid identity: " ++ e)
  let assertion ← (crates.assertionFromStr raw.assertion).mapError fun e =>
    IdentityError.malformed ("invalid assertion: " ++ e)
  return ⟨raw.idp, assertion⟩

def fromBase64 (value : List Char) : Except IdentityError Identity := do
  let bytes ← (crates.standardDecode (String.ofList (trim value))).mapError fun e =>
    IdentityError.malformed ("invalid base64: " ++ e)
  let json ← (fromUtf8 bytes).mapError fun e => IdentityError.malformed ("invalid UTF-8: " ++ e)
  fromJson crates json

/-- Reads the first `a=identity` line, failing with `missing` when there is none. -/
def fromSdp (sdp : String) : Except IdentityError Identity :=
  match (sdpValues "a=identity:" sdp).head? with
  | none => .error .missing
  | some value => fromBase64 crates value

end Identity

/-! ## Fingerprints -/

def fingerprintPair (line : List Char) : Except IdentityError (String × String) :=
  match splitOnce ' ' (trim line) with
  | none => .error (.malformed ("invalid fingerprint line: " ++ String.ofList line))
  | some (algorithm, digest) => .ok (String.ofList algorithm, String.ofList digest)

/-- A pair is read back from its line, whatever whitespace ends the line. -/
theorem fingerprintPair_eq {algorithm digest pad : List Char}
    (algorithmInk : ∀ c ∈ algorithm, isWhitespace c = false) (named : algorithm ≠ [])
    (digestInk : ∀ c ∈ digest, isWhitespace c = false) (nonempty : digest ≠ [])
    (blank : ∀ c ∈ pad, isWhitespace c = true) :
    fingerprintPair ((algorithm ++ ' ' :: digest) ++ pad) =
      .ok (String.ofList algorithm, String.ofList digest) := by
  have head : (algorithm ++ ' ' :: digest).head? = some (algorithm.head named) := by
    rw [List.head?_append_of_ne_nil _ named, List.head?_eq_some_head named]
  have tail : (algorithm ++ ' ' :: digest).getLast? = some (digest.getLast nonempty) := by
    rw [List.getLast?_append_of_ne_nil _ (by simp), List.getLast?_cons_of_ne_nil nonempty,
      List.getLast?_eq_some_getLast nonempty]
  have trimmed := trim_append_whitespace head (algorithmInk _ (List.head_mem named)) tail
    (digestInk _ (List.getLast_mem nonempty)) blank
  have absent : ' ' ∉ algorithm := by
    intro member
    exact absurd (algorithmInk ' ' member) (by decide)
  rw [fingerprintPair, trimmed, splitOnce_append _ absent]

/-- The `(algorithm, digest)` pairs of the `a=fingerprint` lines, in order. -/
def sdpFingerprints (sdp : String) : Except IdentityError (List (String × String)) :=
  (sdpValues "a=fingerprint:" sdp).mapM fingerprintPair

-- `serde_json`'s string escapes
def jsonEscape (c : Char) : List Char :=
  if c = '"' then ['\\', '"']
  else if c = '\\' then ['\\', '\\']
  else if c = '\n' then ['\\', 'n']
  else if c = '\r' then ['\\', 'r']
  else if c = '\t' then ['\\', 't']
  else if c.toNat = 0x8 then ['\\', 'b']
  else if c.toNat = 0xc then ['\\', 'f']
  else if c.toNat < 0x20 then
    ['\\', 'u', '0', '0', Nat.digitChar (c.toNat / 16), Nat.digitChar (c.toNat % 16)]
  else [c]

def jsonString (text : String) : String := "\"" ++ String.ofList (text.toList.flatMap jsonEscape) ++ "\""

/-- The signed payload for a list of pairs, with keys in sorted order. -/
def fingerprintPayload (fingerprints : List (String × String)) : String :=
  let entries := fingerprints.map fun pair =>
    "\x7b\"algorithm\":" ++ jsonString pair.1 ++ ",\"digest\":" ++ jsonString pair.2 ++ "\x7d"
  "\x7b\"fingerprint\":[" ++ String.intercalate "," entries ++ "]\x7d"

def canonicalFingerprintJson (sdp : String) : Except IdentityError String :=
  (sdpFingerprints sdp).map fingerprintPayload

def emptyFingerprints : String := "\x7b\"fingerprint\":[]\x7d"

-- the code tells an empty list by its serialization
theorem fingerprintPayload_ne_empty (pair : String × String) (rest : List (String × String)) :
    fingerprintPayload (pair :: rest) ≠ emptyFingerprints := by
  intro same
  have split : emptyFingerprints = "\x7b\"fingerprint\":[" ++ "" ++ "]\x7d" := by rfl
  unfold fingerprintPayload at same
  rw [split, String.append_left_inj, String.append_right_inj] at same
  have letters := congrArg String.toList same
  rw [String.toList_intercalate, List.map_cons, List.map_cons] at letters
  cases rest with
  | nil => simp at letters
  | cons next rest => simp [List.intercalate_cons_cons] at letters

example : fingerprintPayload [("sha-256", "AB:CD"), ("sha-1", "EF")] =
    "\x7b\"fingerprint\":[\x7b\"algorithm\":\"sha-256\",\"digest\":\"AB:CD\"\x7d,\x7b\"algorithm\":\"sha-1\",\"digest\":\"EF\"\x7d]\x7d" := by
  decide

end Nethernet
