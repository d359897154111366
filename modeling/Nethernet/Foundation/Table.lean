import Mathlib.Data.List.AList

/-! Finite maps with distinct keys, the retention of the entries that pass a test,
and the orders in which a map's keys may be visited. -/

set_option autoImplicit false

namespace Nethernet.Foundation

abbrev Table (K V : Type) := AList fun _ : K => V

namespace Table

variable {K V : Type}

def retain (table : Table K V) (keep : K → V → Bool) : Table K V where
  entries := table.entries.filter fun entry => keep entry.1 entry.2
  nodupKeys := List.NodupKeys.sublist List.filter_sublist table.nodupKeys

def size (table : Table K V) : Nat := table.entries.length

def map (table : Table K V) (change : K → V → V) : Table K V where
  entries := table.entries.map (.map id change)
  nodupKeys := .map₂ change _ table.nodupKeys

variable {table : Table K V} {key : K}

theorem mem_map {change : K → V → V} : key ∈ table.map change ↔ key ∈ table := by
  rw [AList.mem_keys, AList.mem_keys, AList.keys, map, List.map₂_keys]
  rfl

theorem mem_entries_erase {K V : Type} [DecidableEq K] {table : Table K V} {key : K} {entry : (_ : K) × V}
    (member : entry ∈ (table.erase key).entries) : entry ∈ table.entries :=
  (List.kerase_sublist key table.entries).subset member

theorem size_retain_le (table : Table K V) (keep : K → V → Bool) : (table.retain keep).size ≤ table.size :=
  List.length_filter_le ..

variable [DecidableEq K]

theorem size_insert_le (table : Table K V) (key : K) (value : V) : size (table.insert key value) ≤ table.size + 1 := by
  rw [size, AList.entries_insert, List.length_cons]
  exact Nat.succ_le_succ (List.kerase_sublist key table.entries).length_le

theorem size_insert_of_mem (member : key ∈ table) (value : V) : size (table.insert key value) = table.size := by
  have count (other : Table K V) : other.size = other.keys.length := (List.length_map _).symm
  rw [count, count, AList.keys_insert, List.length_cons, List.length_erase_add_one member]

theorem mem_of_lookup {value : V} (stored : table.lookup key = some value) : key ∈ table :=
  AList.lookup_isSome.mp (by rw [stored]; rfl)

-- a new value under a key that is there brings no new key
theorem mem_insert_of_mem (member : key ∈ table) (value : V) {other : K} :
    other ∈ table.insert key value ↔ other ∈ table := by
  rw [AList.mem_insert]
  constructor
  · rintro (rfl | old)
    · exact member
    · exact old
  · exact .inr

theorem isSome_insert (table : Table K V) (key : K) (value : V) (other : K) :
    ((table.insert key value).lookup other).isSome = ((table.lookup other).isSome || key = other) := by
  by_cases same : other = key
  · subst same
    simp [AList.lookup_insert]
  · rw [AList.lookup_insert_ne same]
    simp [Ne.symm same]

-- a value that is changed and put back
theorem isSome_insert_of_lookup {old : V} (stored : table.lookup key = some old) (value : V) (other : K) :
    ((table.insert key value).lookup other).isSome = (table.lookup other).isSome := by
  rw [isSome_insert]
  by_cases same : key = other
  · subst same
    simp [stored]
  · simp [same]

/-- A key that is erased only while it holds the value. -/
theorem lookup_erase_if [DecidableEq V] (table : Table K V) (key : K) (value : V) (other : K) :
    (if table.lookup key = some value then table.erase key else table).lookup other =
      if other = key ∧ table.lookup other = some value then none else table.lookup other := by
  by_cases same : other = key
  · subst same
    by_cases held : table.lookup other = some value
    · rw [if_pos held, AList.lookup_erase, if_pos ⟨rfl, held⟩]
    · rw [if_neg held, if_neg fun both => held both.2]
  · rw [if_neg (c := other = key ∧ _) fun both => same both.1]
    split
    · rw [AList.lookup_erase_ne same]
    · rfl

theorem lookup_retain (table : Table K V) (keep : K → V → Bool) (key : K) :
    (table.retain keep).lookup key = (table.lookup key).filter (keep key) := by
  apply Option.ext
  intro value
  have kept := AList.mem_lookup_iff (a := key) (b := value) (s := table.retain keep)
  have stored := AList.mem_lookup_iff (a := key) (b := value) (s := table)
  rw [Option.mem_def] at kept stored
  rw [kept, Option.filter_eq_some_iff, stored]
  exact List.mem_filter

theorem mem_retain {keep : K → V → Bool} :
    key ∈ table.retain keep ↔ ∃ value, table.lookup key = some value ∧ keep key value = true := by
  rw [← AList.lookup_isSome, lookup_retain, Option.isSome_iff_exists]
  exact exists_congr fun value => Option.filter_eq_some_iff

theorem lookup_map (table : Table K V) (change : K → V → V) (key : K) :
    (table.map change).lookup key = (table.lookup key).map (change key) := by
  apply Option.ext
  intro value
  have changed := AList.mem_lookup_iff (a := key) (b := value) (s := table.map change)
  rw [Option.mem_def] at changed
  rw [changed, Option.map_eq_some_iff]
  constructor
  · intro member
    obtain ⟨⟨other, old⟩, stored, same⟩ := List.mem_map.mp member
    cases same
    exact ⟨old, AList.mem_lookup_iff.mpr stored, rfl⟩
  · rintro ⟨old, stored, rfl⟩
    exact List.mem_map.mpr ⟨⟨key, old⟩, AList.mem_lookup_iff.mp stored, rfl⟩

theorem eq_empty (none : ∀ key, table.lookup key = none) : table = ∅ := by
  apply AList.ext
  refine List.eq_nil_iff_forall_not_mem.mpr fun entry member => ?_
  have stored : table.lookup entry.1 = some entry.2 := AList.mem_lookup_iff.mpr member
  rw [none] at stored
  cases stored

/-- A stored entry is one of the entries, and the others are what is left without it. -/
theorem entries_perm_erase {value : V} (stored : table.lookup key = some value) :
    table.entries.Perm (⟨key, value⟩ :: (table.erase key).entries) := by
  have member : key ∈ table.entries.keys := AList.lookup_isSome.mp (by rw [stored]; rfl)
  obtain ⟨held, before, after, -, entries, erased⟩ := List.exists_of_kerase member
  have same : value = held := by
    have present : ⟨key, held⟩ ∈ table.entries := by simp [entries]
    exact Option.some.inj (stored.symm.trans (AList.mem_lookup_iff.mpr present))
  have left : (table.erase key).entries = before ++ after := erased
  rw [entries, left, same]
  exact List.perm_middle

theorem entries_erase (table : Table K V) (key : K) :
    (table.erase key).entries = table.entries.filter fun entry => entry.1 ≠ key := by
  show table.entries.kerase key = _
  have distinct := table.nodupKeys
  generalize table.entries = entries at distinct ⊢
  induction entries with
  | nil => rfl
  | cons entry rest ih =>
    have fresh : entry.1 ∉ rest.keys := (List.nodupKeys_cons.mp distinct).1
    by_cases same : key = entry.1
    · subst same
      rw [List.kerase_cons_eq rfl, List.filter_cons_of_neg (by simp)]
      refine (List.filter_eq_self.mpr fun other member => ?_).symm
      exact decide_eq_true fun same => fresh (same ▸ List.mem_keys_of_mem member)
    · rw [List.kerase_cons_ne same, List.filter_cons_of_pos (by simpa using Ne.symm same),
        ih (List.nodupKeys_cons.mp distinct).2]

end Table

/-- An order in which a map with no order of its own is visited. -/
structure Visit (A : Type) where
  arrange : List A → List A
  perm : ∀ keys, (arrange keys).Perm keys

namespace Visit

variable {A : Type}

def inOrder : Visit A := ⟨id, fun _ => .refl _⟩

theorem mem_arrange (visit : Visit A) {keys : List A} {key : A} : key ∈ visit.arrange keys ↔ key ∈ keys :=
  (visit.perm keys).mem_iff

end Visit

end Nethernet.Foundation
