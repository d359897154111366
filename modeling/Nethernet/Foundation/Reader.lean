import Mathlib.Algebra.Group.Nat.Defs
import Mathlib.Data.List.Basic

/-! Readers of byte streams and little-endian integers.

`Reads reader bytes value` says that the reader takes exactly `bytes` off the
front of any stream and returns `value`: it is the read side of a round trip, and
it composes along `bind`. `Local` says the same of every stream the reader accepts. -/

set_option autoImplicit false

namespace Nethernet.Foundation

abbrev Reader (E A : Type) := StateT (List UInt8) (Except E) A

variable {bytes : List UInt8}

namespace Reader

variable {E A B : Type}

def Reads (reader : Reader E A) (bytes : List UInt8) (value : A) : Prop :=
  ∀ rest, reader (bytes ++ rest) = .ok (value, rest)

theorem Reads.pure (value : A) : Reads (Pure.pure value : Reader E A) [] value := by
  intro rest
  rfl

variable {next : A → Reader E B} {value : A} {first : Reader E A}

theorem Reads.bind {more : List UInt8} {result : B} (start : Reads first bytes value)
    (finish : Reads (next value) more result) : Reads (first >>= next) (bytes ++ more) result := by
  intro rest
  change (first (bytes ++ more ++ rest) >>= fun pair => next pair.1 pair.2) = _
  rw [List.append_assoc, start]
  exact finish rest

-- `bind` after a reader that takes nothing
theorem Reads.skip {result : B} (start : Reads first [] value) (finish : Reads (next value) bytes result) :
    Reads (first >>= next) bytes result := start.bind finish

variable {reader : Reader E A}

theorem Reads.map (transform : A → B) (reads : Reads reader bytes value) :
    Reads (transform <$> reader) bytes (transform value) := by
  intro rest
  change (reader (bytes ++ rest) >>= fun pair => Except.ok (transform pair.1, pair.2)) = _
  rw [reads]
  rfl

/-- A reader that accepts a whole stream. -/
theorem Reads.whole (reads : Reads reader bytes value) : reader bytes = .ok (value, []) := by
  have exact := reads []
  rwa [List.append_nil] at exact

-- stops with an error without looking at the stream
def fail (error : E) : Reader E A := fun _ => .error error

def ofExcept (result : Except E A) : Reader E A := fun bytes => result.map fun value => (value, bytes)

theorem Reads.ofExcept (value : A) : Reads (Reader.ofExcept (.ok value : Except E A)) [] value := by
  intro rest
  rfl

/-! ## Readers that look only at what they take -/

/-- Whenever the reader succeeds, what it took off the front reads the same before any other rest. -/
def Local (reader : Reader E A) : Prop :=
  ∀ bytes value rest, reader bytes = .ok (value, rest) → ∃ taken, bytes = taken ++ rest ∧ Reads reader taken value

theorem Local.pure (value : A) : Local (Pure.pure value : Reader E A) := by
  rintro bytes _ _ ⟨⟩
  exact ⟨[], rfl, Reads.pure value⟩

theorem Local.bind (start : Local first) (finish : ∀ value, Local (next value)) : Local (first >>= next) := by
  intro bytes result rest ran
  change (first bytes >>= fun pair => next pair.1 pair.2) = _ at ran
  cases begun : first bytes with
  | error e =>
    rw [begun] at ran
    cases ran
  | ok pair =>
    obtain ⟨value, middle⟩ := pair
    rw [begun] at ran
    obtain ⟨taken, rfl, reads⟩ := start bytes value middle begun
    obtain ⟨more, rfl, ends⟩ := finish value middle result rest ran
    exact ⟨taken ++ more, by rw [List.append_assoc], reads.bind ends⟩

theorem Local.map (transform : A → B) (look : Local reader) : Local (transform <$> reader) := by
  intro bytes result rest ran
  change (reader bytes >>= fun pair => Except.ok (transform pair.1, pair.2)) = _ at ran
  cases begun : reader bytes with
  | error e =>
    rw [begun] at ran
    cases ran
  | ok pair =>
    obtain ⟨value, after⟩ := pair
    rw [begun] at ran
    cases ran
    obtain ⟨taken, same, reads⟩ := look bytes value after begun
    exact ⟨taken, same, reads.map transform⟩

theorem Local.fail (error : E) : Local (Reader.fail error : Reader E A) := by
  rintro bytes value rest ⟨⟩

theorem Local.ofExcept (result : Except E A) : Local (Reader.ofExcept result) := by
  intro bytes value rest ran
  cases result with
  | error e => cases ran
  | ok found =>
    cases ran
    exact ⟨[], rfl, Reads.ofExcept value⟩

/-- The streams that such a reader takes whole are prefix-free. -/
theorem Local.eq_nil_of_whole (look : Local reader) {more : List UInt8} {other : A}
    (whole : reader bytes = .ok (value, [])) (longer : reader (bytes ++ more) = .ok (other, [])) : more = [] := by
  obtain ⟨taken, same, reads⟩ := look bytes value [] whole
  rw [List.append_nil] at same
  rw [same, reads more] at longer
  cases longer
  rfl

variable (eof : E)

/-- The next `count` bytes, or `eof` when the stream is shorter. -/
def takeExact (count : Nat) : Reader E (List UInt8) := fun bytes =>
  if count ≤ bytes.length then .ok (bytes.take count, bytes.drop count) else .error eof

theorem reads_takeExact (bytes : List UInt8) : Reads (takeExact eof bytes.length) bytes bytes := by
  intro rest
  simp [takeExact]

theorem local_takeExact (count : Nat) : Local (takeExact eof count) := by
  intro bytes value rest ran
  unfold takeExact at ran
  split at ran
  · rename_i enough
    cases ran
    refine ⟨bytes.take count, (List.take_append_drop count bytes).symm, ?_⟩
    have reads := reads_takeExact eof (bytes.take count)
    rwa [List.length_take, Nat.min_eq_left enough] at reads
  · cases ran

def readByte : Reader E UInt8 := fun bytes =>
  match bytes with
  | [] => .error eof
  | byte :: rest => .ok (byte, rest)

theorem local_readByte : Local (readByte eof) := by
  intro bytes value rest ran
  cases bytes with
  | nil => cases ran
  | cons byte bytes =>
    cases ran
    exact ⟨[value], rfl, fun _ => rfl⟩

/-! ## Little-endian integers -/

def littleEndian : Nat → Nat → List UInt8
  | 0, _ => []
  | width + 1, value => UInt8.ofNat (value % 256) :: littleEndian width (value / 256)

def ofLittleEndian : List UInt8 → Nat
  | [] => 0
  | byte :: rest => byte.toNat + 256 * ofLittleEndian rest

@[simp] theorem length_littleEndian (width value : Nat) : (littleEndian width value).length = width := by
  induction width generalizing value with
  | zero => rfl
  | succ width ih => rw [littleEndian, List.length_cons, ih]

theorem ofLittleEndian_littleEndian {width value : Nat} (fits : value < 256 ^ width) :
    ofLittleEndian (littleEndian width value) = value := by
  induction width generalizing value with
  | zero =>
    rw [Nat.pow_zero, Nat.lt_one_iff] at fits
    rw [fits]
    rfl
  | succ width ih =>
    have smaller : value / 256 < 256 ^ width := by
      apply Nat.div_lt_of_lt_mul
      rwa [Nat.pow_succ, Nat.mul_comm] at fits
    have low : (UInt8.ofNat (value % 256)).toNat = value % 256 :=
      UInt8.toNat_ofNat_of_lt' (Nat.mod_lt _ (by decide))
    rw [littleEndian, ofLittleEndian, ih smaller, low, Nat.mod_add_div]

def readLittleEndian (width : Nat) : Reader E Nat := ofLittleEndian <$> takeExact eof width

theorem reads_readLittleEndian {width value : Nat} (fits : value < 256 ^ width) :
    Reads (readLittleEndian eof width) (littleEndian width value) value := by
  have reads := (reads_takeExact eof (littleEndian width value)).map ofLittleEndian
  rwa [length_littleEndian, ofLittleEndian_littleEndian fits] at reads

theorem local_readLittleEndian (width : Nat) : Local (readLittleEndian eof width) :=
  (local_takeExact eof width).map ofLittleEndian

end Reader

end Nethernet.Foundation
