import Mathlib.Data.Nat.Digits.Defs

/-! LEB128 numbers: seven bits to a byte, the lowest first. A byte with its top bit set is
followed by another one. -/

set_option autoImplicit false

namespace Nethernet.Foundation.Leb128

/-- The low seven bits of byte `i` times `128 ^ i`, summed up. -/
def value (bytes : List UInt8) : Nat := Nat.ofDigits 128 (bytes.map (·.toNat % 128))

/-- Every byte but the last has its top bit set. -/
inductive Number : List UInt8 → Prop where
  | last {byte : UInt8} : byte.toNat < 128 → Number [byte]
  | more {byte : UInt8} {rest : List UInt8} : 128 ≤ byte.toNat → Number rest → Number (byte :: rest)

@[simp] theorem value_nil : value [] = 0 := rfl

@[simp] theorem value_cons (byte : UInt8) (rest : List UInt8) :
    value (byte :: rest) = byte.toNat % 128 + 128 * value rest := Nat.ofDigits_cons

theorem value_lt (bytes : List UInt8) : value bytes < 128 ^ bytes.length := by
  have digits : ∀ digit ∈ bytes.map (·.toNat % 128), digit < 128 := by
    intro digit member
    obtain ⟨byte, -, rfl⟩ := List.mem_map.mp member
    exact Nat.mod_lt _ (by decide)
  have bound := Nat.ofDigits_lt_base_pow_length (by decide : 1 < 128) digits
  rwa [List.length_map] at bound

variable {bytes more : List UInt8} {byte : UInt8}

theorem Number.length_pos (number : Number bytes) : 0 < bytes.length := by
  cases number <;> exact Nat.succ_pos _

theorem number_cons_of_lt (ends : byte.toNat < 128) : Number (byte :: bytes) ↔ bytes = [] := by
  constructor
  · intro number
    cases number with
    | last _ => rfl
    | more continues _ => omega
  · rintro rfl
    exact .last ends

theorem number_cons_of_ge (continues : 128 ≤ byte.toNat) : Number (byte :: bytes) ↔ Number bytes := by
  constructor
  · intro number
    cases number with
    | last ends => omega
    | more _ number => exact number
  · exact .more continues

instance decidableNumber : (bytes : List UInt8) → Decidable (Number bytes)
  | [] => .isFalse fun number => nomatch number
  | byte :: rest =>
    if ends : byte.toNat < 128 then decidable_of_iff (rest = []) (number_cons_of_lt ends).symm
    else
      have := decidableNumber rest
      decidable_of_iff (Number rest) (number_cons_of_ge (Nat.not_lt.mp ends)).symm

/-! ## The number at the front of a stream -/

section Front

variable {rest : List UInt8} {P : List UInt8 → Prop}

theorem front_of_lt (ends : byte.toNat < 128) :
    (∃ taken, byte :: bytes = taken ++ rest ∧ Number taken ∧ P taken) ↔ bytes = rest ∧ P [byte] := by
  constructor
  · rintro ⟨taken, same, number, holds⟩
    obtain ⟨head, tail, rfl⟩ := List.exists_cons_of_length_pos number.length_pos
    obtain ⟨rfl, rfl⟩ := List.cons.inj same
    obtain rfl := (number_cons_of_lt ends).mp number
    exact ⟨rfl, holds⟩
  · rintro ⟨rfl, holds⟩
    exact ⟨[byte], rfl, .last ends, holds⟩

theorem front_of_ge (continues : 128 ≤ byte.toNat) :
    (∃ taken, byte :: bytes = taken ++ rest ∧ Number taken ∧ P taken) ↔
      ∃ taken, bytes = taken ++ rest ∧ Number taken ∧ P (byte :: taken) := by
  constructor
  · rintro ⟨taken, same, number, holds⟩
    obtain ⟨head, tail, rfl⟩ := List.exists_cons_of_length_pos number.length_pos
    obtain ⟨rfl, rfl⟩ := List.cons.inj same
    exact ⟨tail, rfl, (number_cons_of_ge continues).mp number, holds⟩
  · rintro ⟨taken, rfl, number, holds⟩
    exact ⟨byte :: taken, rfl, .more continues number, holds⟩

end Front

/-- The numbers are prefix-free: a stream starts with at most one of them. -/
theorem Number.eq_of_append {rest other : List UInt8} (first : Number bytes) (second : Number more)
    (same : bytes ++ rest = more ++ other) : bytes = more := by
  induction first generalizing more with
  | @last byte ends =>
    cases second with
    | last _ => simp_all
    | more continues _ =>
      obtain ⟨rfl, -⟩ := List.cons.inj same
      omega
  | @more byte bytes continues _ ih =>
    cases second with
    | last ends =>
      obtain ⟨rfl, -⟩ := List.cons.inj same
      omega
    | more _ second =>
      obtain ⟨rfl, tails⟩ := List.cons.inj same
      rw [ih second tails]

end Nethernet.Foundation.Leb128
