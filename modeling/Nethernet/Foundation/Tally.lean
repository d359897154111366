import Mathlib.Algebra.BigOperators.Group.List.Lemmas
import Mathlib.Algebra.GroupWithZero.Nat
import Nethernet.Foundation.Table

/-! A table that counts items by key, with an entry only for the keys that have some. -/

set_option autoImplicit false

namespace Nethernet.Foundation

abbrev Tally (K : Type) := Table K Nat

namespace Tally

variable {K : Type}

/-- All that is counted. -/
def total (tally : Tally K) : Nat := (tally.entries.map Sigma.snd).sum

variable [DecidableEq K]

def held (tally : Tally K) (key : K) : Nat := (tally.lookup key).getD 0

def add (tally : Tally K) (key : K) : Tally K := tally.insert key (tally.held key + 1)

-- a key without an entry is left alone; an entry of zero has nothing to give back
def take (tally : Tally K) (key : K) : Option (Tally K) :=
  match tally.lookup key with
  | none => some tally
  | some 0 => none
  | some 1 => some (tally.erase key)
  | some (rest + 2) => some (tally.insert key (rest + 1))

/-- The tally is that of the items: every key has the number of its items, and no entry is zero. -/
def Counts (tally : Tally K) (items : List K) : Prop :=
  ∀ key, tally.lookup key = if items.count key = 0 then none else some (items.count key)

theorem counts_nil : Counts (∅ : Tally K) [] := fun _ => rfl

section
variable {tally : Tally K} {items : List K}

theorem Counts.held (counts : Counts tally items) (key : K) : tally.held key = items.count key := by
  rw [Tally.held, counts key]
  split
  · rename_i none
    exact none.symm
  · rfl

theorem Counts.perm (counts : Counts tally items) {others : List K} (same : items.Perm others) :
    Counts tally others := by
  intro key
  rw [← same.count_eq]
  exact counts key

theorem Counts.add (counts : Counts tally items) (key : K) : Counts (tally.add key) (key :: items) := by
  intro other
  by_cases same : other = key
  · subst same
    rw [Tally.add, AList.lookup_insert, counts.held, List.count_cons_self]
    rfl
  · rw [Tally.add, AList.lookup_insert_ne same, List.count_cons_of_ne (Ne.symm same)]
    exact counts other

/-- An item that is counted can be taken, and the others stay counted. -/
theorem Counts.take {key : K} (counts : Counts tally (key :: items)) :
    ∃ rest, tally.take key = some rest ∧ Counts rest items := by
  have stored := counts key
  rw [List.count_cons_self, if_neg (Nat.succ_ne_zero _)] at stored
  have others : ∀ other, other ≠ key → tally.lookup other =
      if items.count other = 0 then none else some (items.count other) := fun other apart => by
    rw [counts other, List.count_cons_of_ne (Ne.symm apart)]
  unfold Tally.take
  rw [stored]
  cases left : items.count key with
  | zero =>
    refine ⟨tally.erase key, rfl, fun other => ?_⟩
    by_cases same : other = key
    · rw [same, AList.lookup_erase, if_pos left]
    · rw [AList.lookup_erase_ne same, others other same]
  | succ rest =>
    refine ⟨tally.insert key (rest + 1), rfl, fun other => ?_⟩
    by_cases same : other = key
    · rw [same, AList.lookup_insert, left, if_neg (Nat.succ_ne_zero _)]
    · rw [AList.lookup_insert_ne same, others other same]

theorem Counts.mem (counts : Counts tally items) {key : K} : key ∈ tally ↔ key ∈ items := by
  rw [← AList.lookup_isSome, counts key, ← List.count_pos_iff]
  by_cases absent : items.count key = 0
  · rw [if_pos absent, absent]
    simp
  · rw [if_neg absent]
    exact ⟨fun _ => Nat.pos_of_ne_zero absent, fun _ => rfl⟩

theorem Counts.total (counts : Counts tally items) : tally.total = items.length := by
  -- the keys are the items without repetition, and each entry is the count of its key
  have keys : tally.keys.Perm items.dedup :=
    (List.perm_ext_iff_of_nodup tally.keys_nodup items.nodup_dedup).mpr fun key => by
      rw [← AList.mem_keys, counts.mem, List.mem_dedup]
  have values : tally.entries.map Sigma.snd = tally.keys.map fun key => items.count key := by
    rw [AList.keys, List.keys, List.map_map]
    refine List.map_congr_left fun entry member => ?_
    have stored : tally.lookup entry.1 = some entry.2 := AList.mem_lookup_iff.mpr member
    rw [counts entry.1] at stored
    split at stored
    · cases stored
    · exact (Option.some.inj stored).symm
  rw [Tally.total, values, (keys.map _).sum_eq, List.sum_map_count_dedup_eq_length]

end

end Tally

end Nethernet.Foundation
