import Mathlib.Algebra.Group.Int.Defs
import Mathlib.Algebra.Group.Nat.Defs
import Mathlib.Data.List.Basic

/-! Clock types. `Instant` and `Duration` count nanoseconds; `SystemTime` is the
one clock whose range matters, because its values come from received tokens. -/

set_option autoImplicit false

namespace Nethernet

abbrev Duration := Nat
abbrev Instant := Nat

def Duration.fromSecs (seconds : Nat) : Duration := seconds * 10 ^ 9
def Duration.fromMillis (millis : Nat) : Duration := millis * 10 ^ 6

-- `Instant::saturating_duration_since`
def Instant.since (later earlier : Instant) : Duration := later - earlier

namespace Instant

variable {time : Nat}

-- a timer ahead is not reached by waiting less than it is away
theorem lt_of_wait {now next wait : Nat} (ahead : now ≤ next) (short : wait ≤ Instant.since next now)
    (early : time < now + wait) : time < next := by
  have short : wait ≤ next - now := short
  omega

theorem since_lt {last interval : Nat} (positive : 0 < interval) (early : time < last + interval) :
    Instant.since time last < interval := by
  show time - last < interval
  omega

theorem lt_of_since_lt {last interval : Nat} (recent : Instant.since time last < interval) :
    time < last + interval := by
  have recent : time - last < interval := recent
  omega

end Instant

-- one past the largest second count of a signed 64-bit clock, in nanoseconds
def clockLimit : Int := 2 ^ 63 * 10 ^ 9

/-- A signed 64-bit count of seconds and a nanosecond part, held as the
nanoseconds since the epoch. -/
structure SystemTime where
  nanos : Int
  lower : -clockLimit ≤ nanos
  upper : nanos < clockLimit

variable {time : SystemTime} {added : Duration}

namespace SystemTime

def unixEpoch : SystemTime := ⟨0, by decide, by decide⟩

def checkedAdd (time : SystemTime) (added : Duration) : Option SystemTime :=
  if fits : time.nanos + added < clockLimit then
    some ⟨time.nanos + added, by have := time.lower; omega, fits⟩
  else none

theorem checkedAdd_eq_none : time.checkedAdd added = none ↔ clockLimit ≤ time.nanos + added := by
  unfold checkedAdd
  split <;> simp_all

theorem exists_checkedAdd (fits : time.nanos + added < clockLimit) :
    ∃ later, time.checkedAdd added = some later := ⟨_, dif_pos fits⟩

theorem checkedAdd_nanos {later : SystemTime} (added_eq : time.checkedAdd added = some later) :
    later.nanos = time.nanos + added := by
  unfold checkedAdd at added_eq
  split at added_eq
  · cases added_eq
    rfl
  · cases added_eq

end SystemTime

end Nethernet
