import Nethernet.Foundation.Machine
import Nethernet.Foundation.Table
import Nethernet.Identity.Trust

/-! The cached signing keys of the async crate: validations mark a key they miss,
and refreshers take the mark and fetch the keys again, at most once an interval.

Every step is one thing a task does between two points where another task can
run: the flag is taken, the lock of the refresh is taken, a fetch ends. -/

set_option autoImplicit false

namespace Nethernet.Tokio
open Foundation Identity

/-- Whether the validation of the token reaches the lookup and finds no key for it. -/
def missesKey (crates : IdentityCrates) (keys : JwkSet) (identity : Identity) (now : SystemTime) : Bool :=
  match TokenTrust.readToken crates identity now with
  | .ok (jws, _) => jws.header.alg = "RS256" && (keys.candidates jws.header.kid).isEmpty
  | _ => false

variable (crates : IdentityCrates)

/-- A validation that nothing interrupts marks the set exactly if it misses a key. -/
theorem claims_minecraft (keys : MinecraftKeys) (identity : Identity) (now : SystemTime) :
    (TokenTrust.claims crates (.minecraft keys) identity now).1 =
      .minecraft (if missesKey crates keys.keys identity now then keys.markMissed else keys) := by
  unfold TokenTrust.claims missesKey
  cases TokenTrust.readToken crates identity now with
  | err _ => rfl
  | aborted => rfl
  | ok read =>
    obtain ⟨jws, claims⟩ := read
    by_cases algorithm : jws.header.alg = "RS256"
    · by_cases missing : (keys.keys.candidates jws.header.kid).isEmpty
      · simp [TokenTrust.checkIssuer, algorithm, missing, MinecraftKeys.markMissed]
      · simp only [TokenTrust.checkIssuer, algorithm, missing]
        split_ifs <;> first | rfl | contradiction
    · simp [TokenTrust.checkIssuer, algorithm]

inductive RefreshPhase where
  -- waits to read the age of the keys
  | checking
  -- waits for the lock of the refresh
  | waiting
  -- holds that lock; `marks` is how often the set was marked when the fetch began
  | fetching (marks : Nat)
  -- waits to read the age of the keys for its log line
  | reporting
  deriving DecidableEq, Repr

/-- A call of `refresh_if_needed`, or of `refresh` alone, that has not returned. -/
structure RefreshCall where
  took : Bool
  minInterval : Duration
  maxAge : Duration
  phase : RefreshPhase
  deriving DecidableEq, Repr

structure Jwks where
  keys : MinecraftKeys
  fetchedAt : Option Instant
  calls : Table Nat RefreshCall
  -- the validations that found no key and have not marked the set yet
  unmarked : List Nat
  -- how often the set was marked, now and at the start of the last successful fetch; nothing reads them
  marks : Nat
  covered : Nat

inductive JwksStep where
  | validate (id : Nat) (identity : Identity) (now : SystemTime)
  | mark (id : Nat)
  | replace (keys : JwkSet)
  | refresh (id : Nat) (minInterval : Duration)
  | refreshIfNeeded (id : Nat) (minInterval maxAge : Duration)
  | checkAge (id : Nat) (now : Instant)
  | enter (id : Nat) (now : Instant)
  | fetched (id : Nat) (result : Option JwkSet) (now : Instant)
  | report (id : Nat)

variable (call : RefreshCall) {jwks : Jwks} {started : Nat}

namespace Jwks

-- `Jwks::fetch` returns once the first fetch succeeded
def start (keys : JwkSet) (fetchedAt : Instant) : Jwks := ⟨⟨keys, false⟩, some fetchedAt, ∅, [], 0, 0⟩

def isDue (jwks : Jwks) (age : Duration) (now : Instant) : Bool :=
  match jwks.fetchedAt with
  | none => true
  | some fetched => age ≤ now.since fetched

/-- A call is fetching, since the given number of marks. -/
def FetchingSince (jwks : Jwks) (id marks : Nat) : Prop :=
  ∃ call, jwks.calls.lookup id = some call ∧ call.phase = .fetching marks

-- the lock is held across a fetch and nowhere else
def locked (jwks : Jwks) : Bool :=
  jwks.calls.entries.any fun entry => match entry.2.phase with | .fetching _ => true | _ => false

def setPhase (jwks : Jwks) (id : Nat) (call : RefreshCall) (phase : RefreshPhase) : Jwks :=
  { jwks with calls := jwks.calls.insert id { call with phase := phase } }

def leave (jwks : Jwks) (id : Nat) : Jwks := { jwks with calls := jwks.calls.erase id }

-- a call that took the flag reads the age once more for its log line
def returned (jwks : Jwks) (id : Nat) (call : RefreshCall) : Jwks :=
  if call.took then jwks.setPhase id call .reporting else jwks.leave id

def beginCall (jwks : Jwks) (id : Nat) (call : RefreshCall) : Jwks :=
  { jwks with calls := jwks.calls.insert id call }

/-- One step. A step of a call that is not there, or that waits for the lock, does nothing. -/
def step (crates : IdentityCrates) (jwks : Jwks) : JwksStep → Jwks × Unit
  | .validate id identity now =>
    if missesKey crates jwks.keys.keys identity now then ({ jwks with unmarked := id :: jwks.unmarked }, ())
    else (jwks, ())
  | .mark id =>
    if id ∈ jwks.unmarked then
      ({ jwks with keys := jwks.keys.markMissed, unmarked := jwks.unmarked.erase id, marks := jwks.marks + 1 }, ())
    else (jwks, ())
  | .replace keys => ({ jwks with keys := jwks.keys.replace keys }, ())
  | .refresh id minInterval =>
    if id ∈ jwks.calls then (jwks, ()) else (jwks.beginCall id ⟨false, minInterval, 0, .waiting⟩, ())
  | .refreshIfNeeded id minInterval maxAge =>
    if id ∈ jwks.calls then (jwks, ())
    else
      let (keys, missed) := jwks.keys.takeMissed
      ({ jwks with keys := keys }.beginCall id ⟨missed, minInterval, maxAge, if missed then .waiting else .checking⟩, ())
  | .checkAge id now =>
    match jwks.calls.lookup id with
    | some call =>
      if call.phase = .checking ∧ jwks.locked = false then
        if jwks.isDue call.maxAge now then (jwks.setPhase id call .waiting, ()) else (jwks.leave id, ())
      else (jwks, ())
    | none => (jwks, ())
  | .enter id now =>
    match jwks.calls.lookup id with
    | some call =>
      if call.phase = .waiting ∧ jwks.locked = false then
        if jwks.isDue call.minInterval now then (jwks.setPhase id call (.fetching jwks.marks), ())
        else (jwks.returned id call, ())
      else (jwks, ())
    | none => (jwks, ())
  | .fetched id result now =>
    match jwks.calls.lookup id with
    | some call =>
      match call.phase, result with
      | .fetching started, some keys =>
        ({ jwks with keys := jwks.keys.replace keys, fetchedAt := some now, covered := started }.returned id call, ())
      | .fetching _, none => (jwks.leave id, ())
      | _, _ => (jwks, ())
    | none => (jwks, ())
  | .report id =>
    match jwks.calls.lookup id with
    | some call => if call.phase = .reporting ∧ jwks.locked = false then (jwks.leave id, ()) else (jwks, ())
    | none => (jwks, ())

/-- The call took the flag and its refresh has not come to an end. -/
def Bears (jwks : Jwks) (id : Nat) : Prop :=
  ∃ call, jwks.calls.lookup id = some call ∧ call.took = true ∧ (call.phase = .waiting ∨ ∃ marks, call.phase = .fetching marks)

/-- The flag is up, or a call other than this one took it and is still to refresh. -/
def CarriedBeside (jwks : Jwks) (id : Nat) : Prop :=
  jwks.keys.missed = true ∨ ∃ other, other ≠ id ∧ jwks.Bears other

/-- Some validation missed a key since the last successful fetch began, and nothing is left that says so. -/
def Forgotten (jwks : Jwks) : Prop :=
  jwks.covered < jwks.marks ∧ jwks.keys.missed = false ∧ ∀ id, ¬jwks.Bears id

/-- With no refresh in progress, a key missed since the last successful fetch began has raised the flag. -/
def Remembered (jwks : Jwks) : Prop := jwks.calls = ∅ → jwks.covered < jwks.marks → jwks.keys.missed = true

/-- The last call that knows of a missed key ends its refresh without new keys: the keys are too
young for another fetch, or the fetch fails. -/
def Wastes (jwks : Jwks) : JwksStep → Prop
  | .enter id now => ∃ call, jwks.calls.lookup id = some call ∧ call.took = true ∧ call.phase = .waiting ∧
      jwks.locked = false ∧ jwks.isDue call.minInterval now = false ∧
      jwks.covered < jwks.marks ∧ ¬jwks.CarriedBeside id
  | .fetched id none _ => ∃ call started, jwks.calls.lookup id = some call ∧ call.took = true ∧
      call.phase = .fetching started ∧ jwks.covered < jwks.marks ∧ ¬jwks.CarriedBeside id
  | _ => False

/-- The other calls stand as they did. -/
def Apart (before : Jwks) (id : Nat) (after : Jwks) : Prop :=
  ∀ other, other ≠ id → after.calls.lookup other = before.calls.lookup other

section
variable {id : Nat}

theorem apart_beginCall : jwks.Apart id (jwks.beginCall id call) :=
  fun _ other => AList.lookup_insert_ne other

theorem apart_setPhase (phase : RefreshPhase) : jwks.Apart id (jwks.setPhase id call phase) :=
  fun _ other => AList.lookup_insert_ne other

theorem apart_leave : jwks.Apart id (jwks.leave id) := fun _ other => AList.lookup_erase_ne other

theorem apart_returned : jwks.Apart id (jwks.returned id call) := by
  unfold returned
  split
  · exact apart_setPhase call .reporting
  · exact apart_leave

-- a call that has returned neither refreshes nor will
theorem lookup_returned :
    (jwks.returned id call).calls.lookup id = if call.took then some { call with phase := .reporting } else none := by
  unfold returned
  split
  · exact AList.lookup_insert ..
  · exact AList.lookup_erase ..

@[simp] theorem returned_keys (call : RefreshCall) : (jwks.returned id call).keys = jwks.keys := by
  unfold returned
  split <;> rfl

@[simp] theorem returned_marks (call : RefreshCall) : (jwks.returned id call).marks = jwks.marks := by
  unfold returned
  split <;> rfl

@[simp] theorem returned_covered (call : RefreshCall) : (jwks.returned id call).covered = jwks.covered := by
  unfold returned
  split <;> rfl

theorem not_bears_returned : ¬(jwks.returned id call).Bears id := by
  rintro ⟨found, stored, -, phase⟩
  rw [lookup_returned] at stored
  split at stored
  · cases stored
    simp at phase
  · cases stored

theorem not_fetching_returned (marks : Nat) : ¬(jwks.returned id call).FetchingSince id marks := by
  rintro ⟨found, stored, phase⟩
  rw [lookup_returned] at stored
  split at stored
  · cases stored
    simp at phase
  · cases stored

theorem not_bears_leave : ¬(jwks.leave id).Bears id := by
  rintro ⟨found, stored, -⟩
  rw [leave, AList.lookup_erase] at stored
  cases stored

theorem not_fetching_leave (marks : Nat) : ¬(jwks.leave id).FetchingSince id marks := by
  rintro ⟨found, stored, -⟩
  rw [leave, AList.lookup_erase] at stored
  cases stored

variable {after : Jwks} {other marks : Nat}

theorem Apart.bears (apart : jwks.Apart id after) (differs : other ≠ id) : after.Bears other ↔ jwks.Bears other := by
  unfold Bears
  rw [apart other differs]

theorem Apart.fetchingSince (apart : jwks.Apart id after) (differs : other ≠ id) :
    after.FetchingSince other marks ↔ jwks.FetchingSince other marks := by
  unfold FetchingSince
  rw [apart other differs]

theorem Apart.carriedBeside (apart : jwks.Apart id after) (flag : after.keys.missed = jwks.keys.missed) :
    after.CarriedBeside id ↔ jwks.CarriedBeside id := by
  unfold CarriedBeside
  rw [flag]
  exact or_congr_right (exists_congr fun _ => and_congr_right apart.bears)

theorem not_fetching_of_unlocked (free : jwks.locked = false) (id marks : Nat) : ¬jwks.FetchingSince id marks := by
  rintro ⟨call, stored, phase⟩
  have none := List.any_eq_false.mp free ⟨id, call⟩ (AList.mem_lookup_iff.mp stored)
  simp [phase] at none

end

/-- What keeps a missed key from being forgotten: one fetch at a time, and a key missed during it
is carried by somebody else. -/
structure Kept (jwks : Jwks) : Prop where
  alone : ∀ {id other marks marks'}, jwks.FetchingSince id marks → jwks.FetchingSince other marks' → id = other
  owed : ¬jwks.Forgotten
  during : ∀ {id started}, jwks.FetchingSince id started → started < jwks.marks → jwks.CarriedBeside id

theorem kept_start (keys : JwkSet) (fetchedAt : Instant) : Kept (start keys fetchedAt) where
  alone := nofun
  owed := fun forgotten => absurd forgotten.1 (Nat.lt_irrefl 0)
  during := nofun

section
variable {after : Jwks} {id : Nat}

/-- Nothing but the published keys or the unfinished validations changes. -/
theorem Kept.of_same (kept : Kept jwks) (calls : after.calls = jwks.calls) (flag : after.keys.missed = jwks.keys.missed)
    (marks : after.marks = jwks.marks) (covered : after.covered = jwks.covered) : Kept after := by
  have fetching : ∀ id started, after.FetchingSince id started ↔ jwks.FetchingSince id started := by
    intro id started
    rw [FetchingSince, calls, FetchingSince]
  have bears : ∀ id, after.Bears id ↔ jwks.Bears id := by
    intro id
    rw [Bears, calls, Bears]
  refine ⟨fun one two => kept.alone ((fetching _ _).mp one) ((fetching _ _).mp two), fun forgotten => kept.owed ?_, ?_⟩
  · rw [Forgotten, covered, marks, flag] at forgotten
    exact ⟨forgotten.1, forgotten.2.1, fun id => (bears id).not.mp (forgotten.2.2 id)⟩
  · intro id started one late
    rw [marks] at late
    rw [CarriedBeside, flag]
    exact (kept.during ((fetching _ _).mp one) late).imp_right fun ⟨other, differs, bearer⟩ => ⟨other, differs, (bears other).mpr bearer⟩

/-- The flag goes up. -/
theorem Kept.of_marked (kept : Kept jwks) (calls : after.calls = jwks.calls) (flag : after.keys.missed = true) : Kept after where
  alone := by
    unfold FetchingSince
    rw [calls]
    exact kept.alone
  owed := fun forgotten => nomatch flag.symm.trans forgotten.2.1
  during := fun _ _ => .inl flag

/-- A call that bears nothing changes its phase or leaves, and does not fetch. -/
theorem Kept.of_apart (kept : Kept jwks) (apart : jwks.Apart id after) (flag : after.keys.missed = jwks.keys.missed)
    (marks : after.marks = jwks.marks) (covered : after.covered = jwks.covered) (idle : ¬jwks.Bears id)
    (still : ∀ started, ¬after.FetchingSince id started) : Kept after := by
  have differs : ∀ {other started}, after.FetchingSince other started → other ≠ id := by
    rintro other started fetching rfl
    exact still started fetching
  have bears : ∀ {other}, jwks.Bears other → after.Bears other := by
    intro other bearer
    exact (apart.bears fun same => idle (same ▸ bearer)).mpr bearer
  refine ⟨fun one two => kept.alone ((apart.fetchingSince (differs one)).mp one) ((apart.fetchingSince (differs two)).mp two),
    fun forgotten => kept.owed ?_, ?_⟩
  · rw [Forgotten, covered, marks, flag] at forgotten
    exact ⟨forgotten.1, forgotten.2.1, fun other bearer => forgotten.2.2 other (bears bearer)⟩
  · intro other started fetching late
    rw [marks] at late
    rw [CarriedBeside, flag]
    exact (kept.during ((apart.fetchingSince (differs fetching)).mp fetching) late).imp_right
      fun ⟨third, apart, bearer⟩ => ⟨third, apart, bears bearer⟩

/-- Nobody fetches and the missed keys are carried. -/
theorem Kept.of_quiet (id : Nat) (quiet : ∀ other started, ¬after.FetchingSince other started)
    (carried : after.covered < after.marks → after.CarriedBeside id) : Kept after where
  alone := fun fetching => absurd fetching (quiet _ _)
  owed := by
    rintro ⟨late, down, nobody⟩
    rcases carried late with up | ⟨other, -, bearer⟩
    · simp [up] at down
    · exact nobody other bearer
  during := fun fetching => absurd fetching (quiet _ _)

/-- A call that opens takes the flag over. -/
theorem Kept.of_taken (kept : Kept jwks) {call : RefreshCall} (took : call.took = true)
    (waits : call.phase = .waiting) (apart : jwks.Apart id after) (stored : after.calls.lookup id = some call) : Kept after := by
  have bearer : after.Bears id := ⟨call, stored, took, .inl waits⟩
  have differs : ∀ {other started}, after.FetchingSince other started → other ≠ id := by
    rintro other started ⟨found, here, phase⟩ rfl
    rw [stored] at here
    cases here
    simp [waits] at phase
  exact {
    alone := fun one two => kept.alone ((apart.fetchingSince (differs one)).mp one) ((apart.fetchingSince (differs two)).mp two)
    owed := fun forgotten => forgotten.2.2 id bearer
    during := fun fetching _ => .inr ⟨id, (differs fetching).symm, bearer⟩ }

/-- A call takes the free lock to fetch. -/
theorem Kept.of_entered (kept : Kept jwks) (free : jwks.locked = false) {call : RefreshCall}
    (stored : jwks.calls.lookup id = some call) : Kept (jwks.setPhase id call (.fetching jwks.marks)) := by
  have apart : jwks.Apart id (jwks.setPhase id call (.fetching jwks.marks)) := apart_setPhase _ _
  have here : (jwks.setPhase id call (.fetching jwks.marks)).calls.lookup id = some { call with phase := .fetching jwks.marks } :=
    AList.lookup_insert ..
  have only : ∀ {other started}, (jwks.setPhase id call (.fetching jwks.marks)).FetchingSince other started → other = id := by
    intro other started fetching
    by_contra differs
    exact not_fetching_of_unlocked free other started ((apart.fetchingSince differs).mp fetching)
  refine ⟨fun one two => (only one).trans (only two).symm, ?_, ?_⟩
  · rintro ⟨late, down, nobody⟩
    refine kept.owed ⟨late, down, fun other bearer => ?_⟩
    by_cases differs : other = id
    · subst differs
      obtain ⟨found, same, took, -⟩ := bearer
      cases stored.symm.trans same
      exact nobody other ⟨_, here, took, .inr ⟨_, rfl⟩⟩
    · exact nobody other ((apart.bears differs).mpr bearer)
  · intro other started fetching late
    obtain rfl := only fetching
    obtain ⟨found, same, phase⟩ := fetching
    cases here.symm.trans same
    cases phase
    exact absurd late (Nat.lt_irrefl _)

end

theorem not_bears_of_phase {id : Nat} {call : RefreshCall} (stored : jwks.calls.lookup id = some call)
    (idle : call.took = false ∨ call.phase = .checking ∨ call.phase = .reporting) : ¬jwks.Bears id := by
  rintro ⟨found, same, took, busy⟩
  cases stored.symm.trans same
  rcases idle with none | checking | reporting
  · simp [none] at took
  · simp [checking] at busy
  · simp [reporting] at busy

section
variable {id : Nat} {call : RefreshCall}

-- a call that starts with nothing to bear
theorem Kept.beginCall (kept : Kept jwks) (fresh : id ∉ jwks.calls) (still : ∀ marks, call.phase ≠ .fetching marks) :
    Kept (jwks.beginCall id call) := by
  refine kept.of_apart (apart_beginCall call) rfl rfl rfl ?_ ?_
  · exact fun ⟨_, stored, _⟩ => fresh (Table.mem_of_lookup stored)
  · rintro started ⟨found, stored, phase⟩
    rw [Jwks.beginCall, AList.lookup_insert] at stored
    cases stored
    exact still started phase

theorem Kept.refreshIfNeeded (kept : Kept jwks) (fresh : id ∉ jwks.calls) (minInterval maxAge : Duration) :
    Kept ({ jwks with keys := jwks.keys.takeMissed.1 }.beginCall id
      ⟨jwks.keys.missed, minInterval, maxAge, if jwks.keys.missed then .waiting else .checking⟩) := by
  cases flag : jwks.keys.missed with
  | true =>
    exact kept.of_taken rfl rfl (fun _ other => AList.lookup_insert_ne other) (AList.lookup_insert ..)
  | false =>
    have same : Kept { jwks with keys := jwks.keys.takeMissed.1 } := kept.of_same rfl flag.symm rfl rfl
    exact same.beginCall fresh nofun

/-- A call that finds the keys too young returns; if it took the flag, somebody else still carries it. -/
theorem Kept.skip (kept : Kept jwks) (free : jwks.locked = false) (stored : jwks.calls.lookup id = some call)
    (carried : call.took = true → jwks.covered < jwks.marks → jwks.CarriedBeside id) : Kept (jwks.returned id call) := by
  cases took : call.took with
  | false =>
    exact kept.of_apart (apart_returned call) (by simp) (by simp) (by simp) (not_bears_of_phase stored (.inl took))
      (not_fetching_returned call)
  | true =>
    refine Kept.of_quiet id ?_ ?_
    · intro other started fetching
      by_cases same : other = id
      · exact not_fetching_returned call started (same ▸ fetching)
      · exact not_fetching_of_unlocked free other started (((apart_returned call).fetchingSince same).mp fetching)
    · intro late
      rw [returned_covered, returned_marks] at late
      exact ((apart_returned call).carriedBeside (by simp)).mpr (carried took late)

-- the lock keeps the other calls from fetching
theorem Kept.not_fetching (kept : Kept jwks) (fetching : jwks.FetchingSince id started) {other : Nat}
    (differs : other ≠ id) (marks : Nat) : ¬jwks.FetchingSince other marks :=
  fun second => differs (kept.alone second fetching)

/-- New keys arrive: whatever was missed before the fetch began is covered. -/
theorem Kept.succeed (kept : Kept jwks) (stored : jwks.calls.lookup id = some call)
    (phase : call.phase = .fetching started) (keys : JwkSet) (now : Instant) :
    Kept ({ jwks with keys := jwks.keys.replace keys, fetchedAt := some now, covered := started }.returned id call) := by
  have fetching : jwks.FetchingSince id started := ⟨call, stored, phase⟩
  have apart : jwks.Apart id
      ({ jwks with keys := jwks.keys.replace keys, fetchedAt := some now, covered := started }.returned id call) :=
    fun other differs => apart_returned call other differs
  refine Kept.of_quiet id ?_ ?_
  · intro other marks second
    by_cases same : other = id
    · exact not_fetching_returned call marks (same ▸ second)
    · exact kept.not_fetching fetching same marks ((apart.fetchingSince same).mp second)
  · intro late
    rw [returned_covered, returned_marks] at late
    exact (apart.carriedBeside (by simp [MinecraftKeys.replace])).mpr (kept.during fetching late)

/-- The fetch fails; if the call took the flag, somebody else still carries it. -/
theorem Kept.fail (kept : Kept jwks) (stored : jwks.calls.lookup id = some call)
    (phase : call.phase = .fetching started)
    (carried : call.took = true → jwks.covered < jwks.marks → jwks.CarriedBeside id) : Kept (jwks.leave id) := by
  cases took : call.took with
  | false =>
    exact kept.of_apart apart_leave rfl rfl rfl (not_bears_of_phase stored (.inl took)) not_fetching_leave
  | true =>
    refine Kept.of_quiet id ?_ ?_
    · intro other marks second
      by_cases same : other = id
      · exact not_fetching_leave marks (same ▸ second)
      · exact kept.not_fetching ⟨call, stored, phase⟩ same marks ((apart_leave.fetchingSince same).mp second)
    · exact fun late => (apart_leave.carriedBeside rfl).mpr (carried took late)

end

/-- A step that wastes no missed key keeps the rules. -/
theorem kept_step (jwks : Jwks) (input : JwksStep) (kept : Kept jwks) (careful : ¬jwks.Wastes input) :
    Kept (step crates jwks input).1 := by
  cases input with
  | validate id identity now =>
    rw [step]
    split
    · exact kept.of_same rfl rfl rfl rfl
    · exact kept
  | mark id =>
    rw [step]
    split
    · exact kept.of_marked rfl rfl
    · exact kept
  | replace keys => exact kept.of_same rfl rfl rfl rfl
  | refresh id minInterval =>
    rw [step]
    split
    · exact kept
    · rename_i fresh
      exact kept.beginCall fresh nofun
  | refreshIfNeeded id minInterval maxAge =>
    rw [step]
    split
    · exact kept
    · rename_i fresh
      exact kept.refreshIfNeeded fresh minInterval maxAge
  | checkAge id now =>
    rw [step]
    split
    · rename_i call stored
      split
      · rename_i checking
        have idle := not_bears_of_phase stored (.inr (.inl checking.1))
        split
        · refine kept.of_apart (apart_setPhase call .waiting) rfl rfl rfl idle ?_
          rintro started ⟨found, here, phase⟩
          rw [setPhase, AList.lookup_insert] at here
          cases here
          cases phase
        · exact kept.of_apart apart_leave rfl rfl rfl idle not_fetching_leave
      · exact kept
    · exact kept
  | enter id now =>
    rw [step]
    split
    · rename_i call stored
      split
      · rename_i waiting
        split
        · exact kept.of_entered waiting.2 stored
        · rename_i young
          refine kept.skip waiting.2 stored fun took late => ?_
          by_contra nobody
          exact careful ⟨call, stored, took, waiting.1, waiting.2, Bool.eq_false_iff.mpr young, late, nobody⟩
      · exact kept
    · exact kept
  | fetched id result now =>
    rw [step]
    split
    · rename_i call stored
      split
      · rename_i started keys phase
        exact kept.succeed stored phase keys now
      · rename_i started phase
        refine kept.fail stored phase fun took late => ?_
        by_contra nobody
        exact careful ⟨call, started, stored, took, phase, late, nobody⟩
      · exact kept
    · exact kept
  | report id =>
    rw [step]
    split
    · rename_i call stored
      split
      · rename_i reporting
        exact kept.of_apart apart_leave rfl rfl rfl (not_bears_of_phase stored (.inr (.inr reporting.1))) not_fetching_leave
      · exact kept
    · exact kept

/-- Nobody but the call knew, and it knows no more. -/
theorem forgotten_of_apart {after : Jwks} {id : Nat} (apart : jwks.Apart id after)
    (flag : after.keys.missed = jwks.keys.missed) (late : after.covered < after.marks) (gone : ¬after.Bears id)
    (nobody : ¬jwks.CarriedBeside id) : after.Forgotten := by
  obtain ⟨down, alone⟩ := not_or.mp nobody
  refine ⟨late, flag.trans (Bool.eq_false_iff.mpr down), fun other bearer => ?_⟩
  by_cases same : other = id
  · exact gone (same ▸ bearer)
  · exact alone ⟨other, same, (apart.bears same).mp bearer⟩

theorem forgotten_of_wastes {input : JwksStep} (wastes : jwks.Wastes input) : (step crates jwks input).1.Forgotten := by
  unfold Wastes at wastes
  split at wastes
  · obtain ⟨call, stored, took, waits, free, young, late, nobody⟩ := wastes
    simp only [step, stored, waits, free, young, and_self, if_true, Bool.false_eq_true, if_false]
    exact forgotten_of_apart (apart_returned call) (by simp) (by simpa using late) (not_bears_returned call) nobody
  · obtain ⟨call, started, stored, took, phase, late, nobody⟩ := wastes
    simp only [step, stored, phase]
    exact forgotten_of_apart apart_leave rfl late not_bears_leave nobody
  · exact wastes.elim

theorem remembered_of_not_forgotten (recalled : ¬jwks.Forgotten) : jwks.Remembered := by
  intro idle late
  by_contra down
  refine recalled ⟨late, Bool.eq_false_iff.mpr down, fun id ⟨call, stored, _⟩ => ?_⟩
  rw [idle] at stored
  cases stored

theorem remembered_iff (idle : jwks.calls = ∅) : jwks.Remembered ↔ ¬jwks.Forgotten := by
  refine ⟨?_, remembered_of_not_forgotten⟩
  rintro recalled ⟨late, down, -⟩
  simp [recalled idle late] at down

/-- With the flag up and no refresh in progress, the next call after the interval fetches. -/
theorem fetching_of_missed (idle : jwks.calls = ∅) (up : jwks.keys.missed = true) {minInterval : Duration}
    {now : Instant} (due : jwks.isDue minInterval now = true) (id : Nat) (maxAge : Duration) :
    (run (step crates) jwks [.refreshIfNeeded id minInterval maxAge, .enter id now]).1.FetchingSince id jwks.marks := by
  let call : RefreshCall := ⟨true, minInterval, maxAge, .waiting⟩
  let taken : Jwks := { jwks with keys := jwks.keys.takeMissed.1 }.beginCall id call
  have fresh : id ∉ jwks.calls := by
    rw [idle]
    exact AList.notMem_empty id
  have first : (step crates jwks (.refreshIfNeeded id minInterval maxAge)).1 = taken := by
    rw [step, if_neg fresh]
    simp only [MinecraftKeys.takeMissed, up, if_true, taken, call]
  have stored : taken.calls.lookup id = some call := AList.lookup_insert ..
  have free : taken.locked = false := by
    simp [taken, call, locked, beginCall, idle]
  have second : (step crates taken (.enter id now)).1 = taken.setPhase id call (.fetching jwks.marks) := by
    have still : taken.isDue minInterval now = true := due
    simp only [step, stored, free, and_self, if_true, call, still]
    rfl
  show (step crates (step crates jwks (.refreshIfNeeded id minInterval maxAge)).1 (.enter id now)).1.FetchingSince id jwks.marks
  rw [first, second]
  exact ⟨_, AList.lookup_insert .., rfl⟩

/-- A missed key stays remembered through every run in which no call wastes it, and a step forgets
it exactly if it wastes it. Where the flag is up with no refresh in progress, the next call after the
interval fetches. -/
theorem missed_key_remembered_iff (crates : IdentityCrates) (keys : JwkSet) (fetchedAt : Instant) (steps : List JwksStep) :
    (Along (step crates) (fun jwks input => ¬(step crates jwks input).1.Forgotten) (start keys fetchedAt) steps ↔
      Along (step crates) (fun jwks input => ¬jwks.Wastes input) (start keys fetchedAt) steps) ∧
    (Along (step crates) (fun jwks input => ¬jwks.Wastes input) (start keys fetchedAt) steps →
      (run (step crates) (start keys fetchedAt) steps).1.Remembered) ∧
    (∀ jwks : Jwks, jwks.calls = ∅ → (jwks.Remembered ↔ ¬jwks.Forgotten)) ∧
    ∀ (jwks : Jwks) (id : Nat) (minInterval maxAge : Duration) (now : Instant), jwks.calls = ∅ → jwks.keys.missed = true →
      jwks.isDue minInterval now = true →
      (run (step crates) jwks [.refreshIfNeeded id minInterval maxAge, .enter id now]).1.FetchingSince id jwks.marks := by
  have keeps := kept_step crates
  refine ⟨?_, ?_, fun _ => remembered_iff, ?_⟩
  · refine along_congr (step crates) ?_ keeps (kept_start keys fetchedAt) steps
    intro jwks input kept
    exact ⟨fun recalled wastes => recalled (forgotten_of_wastes crates wastes), fun careful => (keeps jwks input kept careful).owed⟩
  · intro along
    exact remembered_of_not_forgotten (along.invariant (step crates) keeps (kept_start keys fetchedAt)).owed
  · intro jwks id minInterval maxAge now idle up due
    exact fetching_of_missed crates idle up due id maxAge

/-! ## A key missed within a minute of the last fetch -/

def unknownKidHeader : String := "\x7b\"alg\":\"RS256\",\"kid\":\"key-9\"\x7d"
def unknownKidClaims : String := "\x7b\"exp\":4102444800\x7d"

def unknownKid : Identity :=
  ⟨⟨"self", "default"⟩, ⟨"eyJhbGciOiJSUzI1NiIsImtpZCI6ImtleS05In0.eyJleHAiOjQxMDI0NDQ4MDB9.AA", ""⟩⟩

-- what base64 and JSON decoding return on the parts of this token
def unknownKidCrates : IdentityCrates :=
  { lastExpCrates with
    urlSafeDecode := fun text =>
      if text = "eyJhbGciOiJSUzI1NiIsImtpZCI6ImtleS05In0" then .ok (utf8 unknownKidHeader)
      else if text = "eyJleHAiOjQxMDI0NDQ4MDB9" then .ok (utf8 unknownKidClaims)
      else if text = "AA" then .ok [0]
      else .error "Invalid padding"
    headerFromSlice := fun bytes =>
      if bytes = utf8 unknownKidHeader then .ok ⟨"RS256", some "key-9"⟩ else .error "expected value"
    claimsFromSlice := fun bytes =>
      if bytes = utf8 unknownKidClaims then .ok [("exp", .number (.posInt 4102444800))] else .error "expected value" }

theorem missesKey_unknownKid : missesKey unknownKidCrates [] unknownKid .unixEpoch = true := by
  decide +kernel

-- the set once the validation has missed the key
def missedJwks : Jwks := { start [] 0 with keys := ⟨[], true⟩, marks := 1 }

theorem run_missed :
    (run (step unknownKidCrates) (start [] 0) [.validate 0 unknownKid .unixEpoch, .mark 0]).1 = missedJwks := by
  simp only [run_cons, run_nil, step, start, missesKey_unknownKid, if_true]
  rfl

/-- The miss is remembered until the watcher's next call, which fetches a minute after the first fetch. -/
theorem missed_key_fetched :
    let jwks := (run (step unknownKidCrates) (start [] 0) [.validate 0 unknownKid .unixEpoch, .mark 0]).1
    (jwks.keys.missed = true ∧ jwks.isDue (.fromSecs 60) (Duration.fromSecs 60) = true) ∧ jwks.Remembered ∧
      (run (step unknownKidCrates) jwks
        [.refreshIfNeeded 1 (.fromSecs 60) (.fromSecs 3600), .enter 1 (Duration.fromSecs 60)]).1.FetchingSince 1 jwks.marks := by
  obtain ⟨-, remembered, -, next⟩ :=
    missed_key_remembered_iff unknownKidCrates [] 0 [.validate 0 unknownKid .unixEpoch, .mark 0]
  have recalled := remembered ⟨id, id, trivial⟩
  rw [run_missed] at recalled ⊢
  exact ⟨⟨rfl, by decide⟩, recalled, next missedJwks 1 _ _ _ rfl rfl (by decide)⟩

/-- The watcher takes the flag five seconds after the first fetch, finds the keys too young and returns:
the key is forgotten, and a minute later the watcher does not fetch. -/
theorem early_miss_forgotten :
    let minute := Duration.fromSecs 60
    let hour := Duration.fromSecs 3600
    let steps : List JwksStep := [.validate 0 unknownKid .unixEpoch, .mark 0, .refreshIfNeeded 1 minute hour,
      .enter 1 (Duration.fromSecs 5), .report 1]
    let jwks := (run (step unknownKidCrates) (start [] 0) steps).1
    (jwks.calls = ∅ ∧ jwks.covered < jwks.marks ∧ jwks.keys.missed = false) ∧ ¬jwks.Remembered ∧
      (run (step unknownKidCrates) jwks [.refreshIfNeeded 2 minute hour, .checkAge 2 (Duration.fromSecs 65)]).1.calls = ∅ := by
  intro minute hour steps jwks
  have split : jwks = (run (step unknownKidCrates) missedJwks
      [.refreshIfNeeded 1 minute hour, .enter 1 (Duration.fromSecs 5), .report 1]).1 := by
    rw [← run_missed]
    rfl
  have idle : jwks.calls = ∅ := by
    rw [split]
    exact AList.ext (by decide +kernel)
  have late : jwks.covered < jwks.marks := by
    rw [split]
    decide +kernel
  have down : jwks.keys.missed = false := by
    rw [split]
    decide +kernel
  refine ⟨⟨idle, late, down⟩, fun recalled => ?_, ?_⟩
  · simp [recalled idle late] at down
  · rw [split]
    exact AList.ext (by decide +kernel)

end Jwks
end Nethernet.Tokio
