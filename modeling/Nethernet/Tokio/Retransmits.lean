import Nethernet.Tokio.Server

/-! What the async server makes of an offer that comes again while the session
or the slot of the first one is still there. -/

set_option autoImplicit false

namespace Nethernet.Tokio
open Foundation

variable {job : Job} {input : ServerInput} {number : Nat}

namespace ServerWorld
variable {host : ServerHost} {config : ConnectionConfig host.ServerIdentity} {signaling : ServerSignaling}
  {world after : ServerWorld host}

/-! ## One session and one slot for each key -/

/-- No two of the sessions that meet the test have one key. -/
def Unique (test : Spawned host → Bool) (sessions : List (Spawned host)) : Prop :=
  ∀ (m n : Nat) (first second : Spawned host), sessions[m]? = some first → sessions[n]? = some second →
    test first = true → test second = true → first.key = second.key → m = n

/-- A slot of the key is held by the task that waits for a session of the key. -/
def Holds (world : ServerWorld host) (key : ConnectionKey) : Prop :=
  ∃ (number : Nat) (session : Spawned host), world.sessions[number]? = some session ∧ session.waiting = true ∧
    session.key = key

/-- No key has two live sessions or two slots. -/
structure Single (world : ServerWorld host) : Prop where
  sessions : Unique Spawned.alive world.sessions
  slots : Unique Spawned.waiting world.sessions
  job : ∀ job, world.handler.job? = some job → ¬world.Holds job.key

/-- The offer that is being answered came while a session of its key was alive. -/
def Again (world : ServerWorld host) : Prop := ∃ job, world.handler.job? = some job ∧ job.again = true

theorem not_again_of_idle (idle : world.handler = .idle) : ¬world.Again := by
  rintro ⟨job, busy, -⟩
  simp [idle, Handler.job?] at busy

theorem not_again_of_job (busy : world.handler.job? = some job) (first : job.again = false) : ¬world.Again := by
  rintro ⟨other, same, came⟩
  rw [busy] at same
  cases same
  simp [first] at came

/-- What a step must not do: bring a key a second session or slot, go on with the answer of an offer that came again,
or keep a candidate from the live session of its key. -/
structure Harmless (config : ConnectionConfig host.ServerIdentity) (signaling : ServerSignaling)
    (world : ServerWorld host) (input : ServerInput) : Prop where
  single : (world.next config signaling input).Single
  unanswered : world.Again → (world.next config signaling input).answers = world.answers ∧
    (world.next config signaling input).sessions.length = world.sessions.length ∧
    (world.next config signaling input).dispatchers = world.dispatchers
  reached : ∀ signal, input = .signal signal → signal.signalType = .candidate → world.handler = .idle →
    ∀ (number : Nat) (session : Spawned host), world.sessions[number]? = some session → session.alive = true →
      session.key = keyOf signal →
      (world.next config signaling input).delivered = world.delivered ++ [(number, signal)]

/-- An offer that comes while its slot is held gets no slot, and one that came while its session was alive gets no
answer. -/
def Refused (config : ConnectionConfig host.ServerIdentity) (signaling : ServerSignaling) (world : ServerWorld host) :
    ServerInput → Prop
  | .signal signal => world.handler = .idle → signal.signalType = .offer → world.Holds (keyOf signal) →
      (world.pending.tryAdmit signal.networkId config.maxPending config.maxPendingPerNetworkId).2 = none
  | .found found => ∀ job offer trust, world.handler = .admitted job offer trust → job.again = true →
      ∀ answered, answerTo config signaling offer trust found = .ok answered → answered.signals ≠ []
  | .signaled sent => ∀ job answered player hostName next rest,
      world.handler = .sending job answered player hostName next rest → job.again = true → sent = false
  | _ => True

/-! ## What holds between the steps -/

/-- The dispatchers of the live sessions lead to them. -/
def Reaches (world : ServerWorld host) : Prop :=
  ∀ (number : Nat) (session : Spawned host), world.sessions[number]? = some session → session.alive = true →
    world.dispatchers.lookup session.key = some number ∧ session.listening = true

structure Orderly (world : ServerWorld host) : Prop where
  single : world.Single
  reached : world.handler ≠ .stopped → world.Reaches
  fresh : ∀ job, world.handler.job? = some job → job.again = false →
    ∀ (number : Nat) (session : Spawned host), world.sessions[number]? = some session → session.alive = true →
      session.key ≠ job.key

/-- Sessions end and slots are given back. -/
def Fades (before after : List (Spawned host)) : Prop :=
  ∀ (number : Nat) (later : Spawned host), after[number]? = some later → ∃ earlier, before[number]? = some earlier ∧
    later.key = earlier.key ∧ (later.alive = true → earlier.alive = true) ∧ (later.waiting = true → earlier.waiting = true)

theorem Fades.refl (sessions : List (Spawned host)) : Fades sessions sessions :=
  fun _ later there => ⟨later, there, rfl, id, id⟩

theorem fades_modify (sessions : List (Spawned host)) (number : Nat) {change : Spawned host → Spawned host}
    (key : ∀ session, (change session).key = session.key)
    (alive : ∀ session, (change session).alive = true → session.alive = true)
    (waiting : ∀ session, (change session).waiting = true → session.waiting = true) :
    Fades sessions (sessions.modify number change) := by
  intro other later there
  rw [List.getElem?_modify] at there
  obtain ⟨earlier, stored, rfl⟩ := Option.map_eq_some_iff.mp there
  refine ⟨earlier, stored, ?_⟩
  split
  · exact ⟨key earlier, alive earlier, waiting earlier⟩
  · exact ⟨rfl, id, id⟩

variable {test : Spawned host → Bool}

theorem Unique.fades {before later : List (Spawned host)} (unique : Unique test before)
    (pairs : ∀ (number : Nat) (session : Spawned host), later[number]? = some session → test session = true →
      ∃ earlier, before[number]? = some earlier ∧ session.key = earlier.key ∧ test earlier = true) :
    Unique test later := by
  intro m n first second firstThere secondThere firstMeets secondMeets same
  obtain ⟨before1, there1, key1, meets1⟩ := pairs m first firstThere firstMeets
  obtain ⟨before2, there2, key2, meets2⟩ := pairs n second secondThere secondMeets
  exact unique m n before1 before2 there1 there2 meets1 meets2 (key1 ▸ key2 ▸ same)

/-- The task is where it was, or has no offer; sessions end; and the dispatchers of those that live are kept. -/
theorem Orderly.fades (orderly : world.Orderly) (handler : after.handler.job? = none ∨ after.handler.job? = world.handler.job?)
    (sessions : Fades world.sessions after.sessions) (reached : after.handler ≠ .stopped → after.Reaches) : after.Orderly where
  single := by
    refine ⟨orderly.single.sessions.fades ?_, orderly.single.slots.fades ?_, ?_⟩
    · intro number session there alive
      obtain ⟨earlier, stored, key, living, -⟩ := sessions number session there
      exact ⟨earlier, stored, key, living alive⟩
    · intro number session there waiting
      obtain ⟨earlier, stored, key, -, held⟩ := sessions number session there
      exact ⟨earlier, stored, key, held waiting⟩
    · rintro job busy ⟨number, session, there, waiting, key⟩
      rcases handler with none | same
      · simp [none] at busy
      · obtain ⟨earlier, stored, sameKey, -, held⟩ := sessions number session there
        exact orderly.single.job job (same ▸ busy) ⟨number, earlier, stored, held waiting, sameKey ▸ key⟩
  reached := reached
  fresh := by
    intro job busy first number session there alive
    rcases handler with none | same
    · simp [none] at busy
    · obtain ⟨earlier, stored, sameKey, living, -⟩ := sessions number session there
      rw [sameKey]
      exact orderly.fresh job (same ▸ busy) first number earlier stored (living alive)

-- nothing changes for the sessions and their dispatchers
theorem Orderly.frame (orderly : world.Orderly) (handler : after.handler = world.handler)
    (sessions : after.sessions = world.sessions) (dispatchers : after.dispatchers = world.dispatchers) : after.Orderly := by
  refine orderly.fades (.inr (by rw [handler])) (sessions ▸ .refl _) fun running number session there alive => ?_
  rw [dispatchers]
  exact orderly.reached (handler ▸ running) number session (sessions ▸ there) alive

theorem running_of_job (busy : world.handler.job? = some job) : world.handler ≠ .stopped := by
  intro stopped
  rw [stopped] at busy
  cases busy

-- the task goes on with its offer or leaves it
theorem Orderly.answering (orderly : world.Orderly) (busy : world.handler.job? = some job)
    (handler : after.handler.job? = none ∨ after.handler.job? = some job) (sessions : after.sessions = world.sessions)
    (dispatchers : after.dispatchers = world.dispatchers) : after.Orderly := by
  refine orderly.fades (busy ▸ handler) (sessions ▸ .refl _) fun _ number session there alive => ?_
  rw [dispatchers]
  exact orderly.reached (running_of_job busy) number session (sessions ▸ there) alive

variable {session : Spawned host}

theorem of_getElem?_concat {sessions : List (Spawned host)} {last : Spawned host}
    (there : (sessions ++ [last])[number]? = some session) :
    sessions[number]? = some session ∨ number = sessions.length ∧ session = last := by
  rcases Nat.lt_trichotomy number sessions.length with less | same | more
  · exact .inl (by rwa [List.getElem?_append_left less] at there)
  · subst same
    rw [List.getElem?_concat_length, Option.some.injEq] at there
    exact .inr ⟨rfl, there.symm⟩
  · rw [List.getElem?_eq_none (by simp; omega)] at there
    cases there

/-- A session of a new key is added. -/
theorem Unique.concat {sessions : List (Spawned host)} {last : Spawned host} (unique : Unique test sessions)
    (apart : ∀ (number : Nat) (session : Spawned host), sessions[number]? = some session → test session = true →
      session.key ≠ last.key) : Unique test (sessions ++ [last]) := by
  intro m n first second firstThere secondThere firstMeets secondMeets same
  rcases of_getElem?_concat firstThere with old1 | ⟨rfl, rfl⟩
  · rcases of_getElem?_concat secondThere with old2 | ⟨rfl, rfl⟩
    · exact unique m n first second old1 old2 firstMeets secondMeets same
    · exact absurd same (apart m first old1 firstMeets)
  · rcases of_getElem?_concat secondThere with old2 | ⟨rfl, -⟩
    · exact absurd same.symm (apart n second old2 secondMeets)
    · rfl

/-- The session of an offer that did not come again is the only one of its key. -/
theorem Orderly.spawn (orderly : world.Orderly) (busy : world.handler.job? = some job) (first : job.again = false)
    (answers : List Signal) (answered : Answered host.Link) (player : Option PlayerInfo) (hostName : Option String) :
    (ServerWorld.spawn { world with answers := answers } job answered player hostName).Orderly := by
  have alone := orderly.fresh job busy first
  refine ⟨⟨orderly.single.sessions.concat alone, orderly.single.slots.concat ?_, nofun⟩, fun _ => ?_, nofun⟩
  · intro number session there waiting key
    exact orderly.single.job job busy ⟨number, session, there, waiting, key⟩
  · intro number session there alive
    show (world.dispatchers.insert job.key world.sessions.length).lookup session.key = some number ∧ _
    rcases of_getElem?_concat there with old | ⟨rfl, rfl⟩
    · obtain ⟨leads, listening⟩ := orderly.reached (running_of_job busy) number session old alive
      rw [AList.lookup_insert_ne (alone number session old alive)]
      exact ⟨leads, listening⟩
    · exact ⟨AList.lookup_insert _, rfl⟩

/-! ## The steps -/

/-- A step that is refused what it must not get harms nothing, and any other does harm. -/
def Judged (config : ConnectionConfig host.ServerIdentity) (signaling : ServerSignaling) (world : ServerWorld host)
    (input : ServerInput) : Prop :=
  (world.Refused config signaling input ∧ world.Harmless config signaling input ∧
    (world.next config signaling input).Orderly) ∨
  (¬world.Refused config signaling input ∧ ¬world.Harmless config signaling input)

-- a step that sends nothing and spawns nothing
theorem Judged.silent (becomes : world.next config signaling input = after) (orderly : after.Orderly)
    (refused : world.Refused config signaling input) (answers : after.answers = world.answers)
    (sessions : after.sessions.length = world.sessions.length)
    (dispatchers : world.Again → after.dispatchers = world.dispatchers)
    (other : ∀ signal, input = .signal signal → signal.signalType = .candidate → world.handler ≠ .idle) :
    world.Judged config signaling input := by
  subst becomes
  exact .inl ⟨refused, ⟨orderly.single, fun again => ⟨answers, sessions, dispatchers again⟩,
    fun signal same kind idle => absurd idle (other signal same kind)⟩, orderly⟩

theorem Judged.nothing (becomes : world.next config signaling input = world) (orderly : world.Orderly)
    (refused : world.Refused config signaling input)
    (other : ∀ signal, input = .signal signal → signal.signalType = .candidate → world.handler ≠ .idle) :
    world.Judged config signaling input :=
  .silent becomes orderly refused rfl rfl (fun _ => rfl) other

/-- A change to one session by which nothing begins. -/
theorem Orderly.change (orderly : world.Orderly) (number : Nat) (change : Spawned host → Spawned host)
    (key : ∀ session, (change session).key = session.key)
    (alive : ∀ session, (change session).alive = true → session.alive = true)
    (waiting : ∀ session, (change session).waiting = true → session.waiting = true)
    (listening : ∀ session, world.sessions[number]? = some session → (change session).alive = true →
      world.handler ≠ .stopped → session.listening = true → (change session).listening = true) :
    (world.change number change).Orderly := by
  refine orderly.fades (.inr rfl) (fades_modify world.sessions number key alive waiting) ?_
  intro running other session there living
  have modified : (world.sessions.modify number change)[other]? = some session := there
  rw [List.getElem?_modify] at modified
  obtain ⟨earlier, stored, changed⟩ := Option.map_eq_some_iff.mp modified
  by_cases same : number = other
  · subst same
    rw [if_pos rfl] at changed
    subst changed
    obtain ⟨leads, open'⟩ := orderly.reached running number earlier stored (alive earlier living)
    rw [key]
    exact ⟨leads, listening earlier stored living running open'⟩
  · rw [if_neg same] at changed
    subst changed
    exact orderly.reached running other earlier stored living

theorem judged_closed (orderly : world.Orderly) (number : Nat) : world.Judged config signaling (.closed number) := by
  have closed : (world.change number fun session => { session with alive := false }).Orderly :=
    orderly.change number _ (fun _ => rfl) (fun _ alive => by cases alive) (fun _ waiting => waiting)
      fun _ _ alive => by cases alive
  exact .silent rfl closed trivial rfl (List.length_modify ..) (fun _ => rfl) nofun

theorem judged_forwarderEnds (orderly : world.Orderly) (number : Nat) :
    world.Judged config signaling (.forwarderEnds number) := by
  cases ends : world.mayEnd number with
  | false => exact .nothing (by simp [next, forwarderEnds, ends]) orderly trivial nofun
  | true =>
    have ended : (world.change number fun session => { session with listening := false }).Orderly := by
      refine orderly.change number _ (fun _ => rfl) (fun _ alive => alive) (fun _ waiting => waiting) ?_
      -- the forwarder of a live session has its dispatcher
      intro session there alive running _
      have alive : session.alive = true := alive
      have leads := (orderly.reached running number session there alive).1
      simp [mayEnd, there, alive, leads] at ends
    exact .silent (by simp [next, forwarderEnds, ends]) ended trivial rfl (List.length_modify ..) (fun _ => rfl) nofun

theorem judged_resolved (orderly : world.Orderly) (number : Nat) (result : Except (Option SignalErrorCode) Unit) :
    world.Judged config signaling (.resolved number result) := by
  cases there : world.sessions[number]? with
  | none => exact .nothing (by simp [next, resolve, there]) orderly trivial nofun
  | some session =>
    cases waiting : session.waiting with
    | false => exact .nothing (by simp [next, resolve, there, waiting]) orderly trivial nofun
    | true =>
      have dropped : (world.dropSlot ⟨session.key.1⟩).Orderly := orderly.frame rfl rfl rfl
      cases result with
      | ok ready =>
        have ready := dropped.change number (fun session => { session with waiting := false }) (fun _ => rfl)
          (fun _ alive => alive) (fun _ waiting => by cases waiting) (fun _ _ _ _ listening => listening)
        exact .silent (by simp [next, resolve, there, waiting]) ready trivial rfl (List.length_modify ..) (fun _ => rfl) nofun
      | error code =>
        have closed := dropped.change number (fun session => { session with waiting := false, alive := false }) (fun _ => rfl)
          (fun _ alive => by cases alive) (fun _ waiting => by cases waiting) (fun _ _ alive => by cases alive)
        cases code with
        | none =>
          exact .silent (by simp [next, resolve, there, waiting]) closed trivial rfl (List.length_modify ..) (fun _ => rfl) nofun
        | some code =>
          have told : (((world.dropSlot ⟨session.key.1⟩).change number
              fun session => { session with waiting := false, alive := false }).signalError session.key code).Orderly :=
            closed.frame rfl rfl rfl
          exact .silent (by simp [next, resolve, there, waiting]) told trivial rfl (List.length_modify ..) (fun _ => rfl) nofun

theorem judged_cancelled (orderly : world.Orderly) : world.Judged config signaling .cancelled := by
  cases busy : world.handler.job? with
  | none => exact .nothing (by simp [next, cancel, busy]) orderly trivial nofun
  | some job =>
    have left : ({ world with handler := .idle }.dropSlot job.slot).Orderly := orderly.answering busy (.inl rfl) rfl rfl
    exact .silent (by simp [next, cancel, busy]) left trivial rfl rfl (fun _ => rfl) nofun

theorem judged_close (orderly : world.Orderly) : world.Judged config signaling .close := by
  cases at' : world.handler with
  | idle =>
    have stopped : { world with handler := .stopped, dispatchers := ∅ }.Orderly :=
      orderly.fades (.inl rfl) (.refl _) fun running => absurd rfl running
    exact .silent (by simp [next, close, at']) stopped trivial rfl rfl
      (fun again => absurd again (not_again_of_idle at')) nofun
  | admitted | sending | stopped => exact .nothing (by simp [next, close, at']) orderly trivial nofun

/-! ## The signals -/

theorem lives_iff {key : ConnectionKey} : world.lives key = true ↔
    ∃ (number : Nat) (session : Spawned host), world.sessions[number]? = some session ∧ session.alive = true ∧
      session.key = key := by
  simp only [lives, List.any_eq_true, Bool.and_eq_true, decide_eq_true_eq]
  constructor
  · rintro ⟨session, member, meets⟩
    obtain ⟨number, there⟩ := List.getElem?_of_mem member
    exact ⟨number, session, there, meets⟩
  · rintro ⟨number, session, there, meets⟩
    exact ⟨session, List.mem_of_getElem? there, meets⟩

theorem Reaches.listens (reaches : world.Reaches) (there : world.sessions[number]? = some session)
    (alive : session.alive = true) : world.listens number = true := by
  simp [ServerWorld.listens, there, (reaches number session there alive).2]

-- what is thrown out of the dispatchers is not that of a live session
theorem Orderly.prune (orderly : world.Orderly) (running : world.handler ≠ .stopped) :
    Orderly { world with dispatchers := world.dispatchers.retain fun _ number => world.listens number } := by
  refine orderly.fades (.inr rfl) (.refl _) fun _ number session there alive => ?_
  obtain ⟨leads, listening⟩ := orderly.reached running number session there alive
  refine ⟨?_, listening⟩
  rw [Table.lookup_retain, leads]
  simp [(orderly.reached running).listens there alive]

section
variable {offer : Signal} {pending : PendingOffers} {slot : PendingSlot}

theorem takeOffer_refused
    (verdict : world.pending.tryAdmit offer.networkId config.maxPending config.maxPendingPerNetworkId = (pending, none)) :
    world.takeOffer config offer = { world with
      dispatchers := world.dispatchers.retain fun _ number => world.listens number, pending := pending }.signalError
        (keyOf offer) .incomingConnectionIgnored := by
  simp only [takeOffer, verdict]

theorem takeOffer_admitted
    (verdict : world.pending.tryAdmit offer.networkId config.maxPending config.maxPendingPerNetworkId =
      (pending, some slot)) :
    world.takeOffer config offer = { world with
      dispatchers := world.dispatchers.retain fun _ number => world.listens number
      pending := pending
      handler := .admitted ⟨keyOf offer, slot, world.lives (keyOf offer)⟩ offer world.tokenTrust } := by
  simp only [takeOffer, verdict]
  rfl

/-- An offer gets a slot for a key that holds none. -/
theorem Orderly.admitted (orderly : world.Orderly) (running : world.handler ≠ .stopped)
    (verdict : world.pending.tryAdmit offer.networkId config.maxPending config.maxPendingPerNetworkId =
      (pending, some slot)) (free : ¬world.Holds (keyOf offer)) : (world.takeOffer config offer).Orderly := by
  rw [takeOffer_admitted verdict]
  have pruned := orderly.prune running
  refine ⟨⟨pruned.single.sessions, pruned.single.slots, ?_⟩, fun _ => pruned.reached running, ?_⟩
  · intro job busy
    cases busy
    exact free
  · intro job busy first number session there alive same
    cases busy
    have lives : world.lives (keyOf offer) = true := lives_iff.mpr ⟨number, session, there, alive, same⟩
    simp [lives] at first

end

theorem judged_offer (orderly : world.Orderly) (idle : world.handler = .idle) {offer : Signal} (kind : offer.signalType = .offer) :
    world.Judged config signaling (.signal offer) := by
  have heard : world.next config signaling (.signal offer) = world.takeOffer config offer := by simp [next, hear, idle, kind]
  have running : world.handler ≠ .stopped := by simp [idle]
  have unbusy := not_again_of_idle idle
  have uncandidate : ∀ signal, ServerInput.signal offer = .signal signal → signal.signalType = .candidate →
      world.handler ≠ .idle := by
    rintro signal same candidate
    cases same
    simp [kind] at candidate
  cases verdict : world.pending.tryAdmit offer.networkId config.maxPending config.maxPendingPerNetworkId with
  | mk pending slot =>
    cases slot with
    | none =>
      have after := takeOffer_refused verdict
      have told : (world.takeOffer config offer).Orderly := by
        rw [after]
        exact (orderly.prune running).frame rfl rfl rfl
      refine .silent heard told (fun _ _ _ => by rw [verdict]) ?_ ?_ (fun again => absurd again unbusy) uncandidate
      · rw [after]
        rfl
      · rw [after]
        rfl
    | some slot =>
      have after := takeOffer_admitted verdict
      by_cases held : world.Holds (keyOf offer)
      · -- the key has a second slot
        refine .inr ⟨fun refused => ?_, fun harmless => ?_⟩
        · have none := refused idle kind held
          rw [verdict] at none
          cases none
        · have single := harmless.single
          rw [heard, after] at single
          exact single.job _ rfl held
      · refine .silent heard (orderly.admitted running verdict held) (fun _ _ holds => absurd holds held) ?_ ?_
          (fun again => absurd again unbusy) uncandidate
        · rw [after]
        · rw [after]

/-- The dispatcher of a live session hands a candidate on to it. -/
theorem Orderly.delivered_dispatch (orderly : world.Orderly) (running : world.handler ≠ .stopped) {signal : Signal}
    (candidate : signal.signalType = .candidate) (there : world.sessions[number]? = some session)
    (alive : session.alive = true) (key : session.key = keyOf signal) :
    (world.dispatch signal).delivered = world.delivered ++ [(number, signal)] := by
  have leads := (orderly.reached running number session there alive).1
  have listens := (orderly.reached running).listens there alive
  rw [key] at leads
  simp [ServerWorld.dispatch, leads, listens, candidate]

-- a dispatcher that nobody listens to is dropped
theorem Orderly.dispatch (orderly : world.Orderly) (running : world.handler ≠ .stopped) (signal : Signal) :
    (world.dispatch signal).Orderly := by
  unfold ServerWorld.dispatch
  split
  · exact orderly
  · rename_i number leads
    split
    · split
      · exact orderly.frame rfl rfl rfl
      · exact orderly
    · rename_i deaf
      refine orderly.fades (.inr rfl) (.refl _) fun _ other session there alive => ?_
      obtain ⟨found, listening⟩ := orderly.reached running other session there alive
      refine ⟨?_, listening⟩
      have apart : session.key ≠ keyOf signal := by
        intro same
        rw [same, leads, Option.some.injEq] at found
        subst found
        exact deaf ((orderly.reached running).listens there alive)
      rw [AList.lookup_erase_ne apart]
      exact found

theorem judged_dispatched (orderly : world.Orderly) (idle : world.handler = .idle) {signal : Signal}
    (kind : signal.signalType ≠ .offer) : world.Judged config signaling (.signal signal) := by
  have heard : world.next config signaling (.signal signal) = world.dispatch signal := by simp [next, hear, idle, kind]
  have running : world.handler ≠ .stopped := by simp [idle]
  have unbusy := not_again_of_idle idle
  have refused : world.Refused config signaling (.signal signal) := fun _ offer => absurd offer kind
  have next := orderly.dispatch running signal
  refine .inl ⟨refused, ⟨heard ▸ next.single, fun again => absurd again unbusy, ?_⟩, heard ▸ next⟩
  rintro other same candidate - number session there alive key
  cases same
  rw [heard]
  exact orderly.delivered_dispatch running candidate there alive key

theorem judged_signal (orderly : world.Orderly) (signal : Signal) : world.Judged config signaling (.signal signal) := by
  by_cases idle : world.handler = .idle
  · by_cases kind : signal.signalType = .offer
    · exact judged_offer orderly idle kind
    · exact judged_dispatched orderly idle kind
  · have nothing : world.next config signaling (.signal signal) = world := by
      simp only [next, hear]
    exact .nothing nothing orderly (fun same => absurd same idle) fun _ _ _ => idle

/-! ## The answer -/

-- a session is spawned for an offer that came again
theorem not_harmless_of_spawn (busy : world.handler.job? = some job) (again : job.again = true)
    (spawned : (world.next config signaling input).sessions.length = world.sessions.length + 1) :
    ¬world.Harmless config signaling input := by
  intro harmless
  have same := (harmless.unanswered ⟨job, busy, again⟩).2.1
  omega

theorem judged_found (orderly : world.Orderly) (found : Found) : world.Judged config signaling (.found found) := by
  by_cases waits : ∃ job offer trust, world.handler = .admitted job offer trust
  · obtain ⟨job, offer, trust, admitted⟩ := waits
    have busy : world.handler.job? = some job := by rw [admitted]; rfl
    cases answer : answerTo config signaling offer trust found with
    | error code =>
      have left : (({ world with handler := .idle }.dropSlot job.slot).signalError job.key code).Orderly :=
        orderly.answering busy (.inl rfl) rfl rfl
      refine .silent (by simp [next, answerOffer, admitted, answer]) left ?_ rfl rfl (fun _ => rfl) nofun
      intro job offer trust same _ answered fine
      rw [admitted] at same
      cases same
      simp [answer] at fine
    | ok answered =>
      cases signals : answered.signals with
      | cons first rest =>
        have sending : Orderly { world with
            handler := .sending job answered (answered.player.or found.player) found.hostName first rest } :=
          orderly.answering busy (.inr rfl) rfl rfl
        refine .silent (by simp [next, answerOffer, admitted, answer, signals]) sending ?_ rfl rfl (fun _ => rfl) nofun
        intro job offer trust same _ other fine none
        rw [admitted] at same
        cases same
        rw [answer] at fine
        cases fine
        simp [signals] at none
      | nil =>
        have after : world.next config signaling (.found found) =
            world.spawn job answered (answered.player.or found.player) found.hostName := by
          simp [next, answerOffer, admitted, answer, signals]
        cases again : job.again with
        | true =>
          refine .inr ⟨fun refused => refused job offer trust admitted again answered answer signals,
            not_harmless_of_spawn busy again ?_⟩
          rw [after]
          exact List.length_append
        | false =>
          have first := not_again_of_job busy again
          have spawned := orderly.spawn busy again world.answers answered (answered.player.or found.player) found.hostName
          refine .inl ⟨?_, ⟨after ▸ spawned.single, fun again => absurd again first, nofun⟩, after ▸ spawned⟩
          intro other offer trust same came
          exact absurd ⟨other, by rw [same]; rfl, came⟩ first
  · have nothing : world.next config signaling (.found found) = world := by
      simp only [next, answerOffer]
      split
      · rename_i job offer trust admitted
        exact absurd ⟨job, offer, trust, admitted⟩ waits
      · rfl
    exact .nothing nothing orderly (fun job offer trust admitted => absurd ⟨job, offer, trust, admitted⟩ waits) nofun

theorem judged_signaled (orderly : world.Orderly) (sent : Bool) : world.Judged config signaling (.signaled sent) := by
  by_cases waits : ∃ job answered player hostName first rest, world.handler = .sending job answered player hostName first rest
  · obtain ⟨job, answered, player, hostName, first, rest, sending⟩ := waits
    have busy : world.handler.job? = some job := by rw [sending]; rfl
    cases sent with
    | false =>
      have left : ({ world with handler := .idle }.dropSlot job.slot).Orderly := orderly.answering busy (.inl rfl) rfl rfl
      exact .silent (by simp [next, signaled, sending]) left (fun _ _ _ _ _ _ _ _ => rfl) rfl rfl (fun _ => rfl) nofun
    | true =>
      have wrote : (world.next config signaling (.signaled true)).answers = world.answers ++ [first] := by
        cases rest <;> simp [next, signaled, sending, spawn]
      cases again : job.again with
      | true =>
        refine .inr ⟨fun refused => ?_, fun harmless => ?_⟩
        · exact absurd (refused job answered player hostName first rest sending again) (by decide)
        · have same := (harmless.unanswered ⟨job, busy, again⟩).1
          simp [wrote] at same
      | false =>
        have next : (world.next config signaling (.signaled true)).Orderly := by
          cases rest with
          | nil =>
            simp only [ServerWorld.next, signaled, sending, if_true]
            exact orderly.spawn busy again (world.answers ++ [first]) answered player hostName
          | cons second rest =>
            simp only [ServerWorld.next, signaled, sending, if_true]
            exact orderly.answering busy (.inr rfl) rfl rfl
        have once := not_again_of_job busy again
        refine .inl ⟨?_, ⟨next.single, fun again => absurd again once, nofun⟩, next⟩
        intro other _ _ _ _ _ same came
        exact absurd ⟨other, by rw [same]; rfl, came⟩ once
  · have nothing : world.next config signaling (.signaled sent) = world := by
      simp only [next, signaled]
      split
      · rename_i job answered player hostName first rest sending
        exact absurd ⟨job, answered, player, hostName, first, rest, sending⟩ waits
      · rfl
    refine .nothing nothing orderly ?_ nofun
    intro job answered player hostName first rest sending
    exact absurd ⟨job, answered, player, hostName, first, rest, sending⟩ waits

theorem judged (orderly : world.Orderly) (input : ServerInput) : world.Judged config signaling input := by
  cases input with
  | signal signal => exact judged_signal orderly signal
  | found found => exact judged_found orderly found
  | signaled sent => exact judged_signaled orderly sent
  | cancelled => exact judged_cancelled orderly
  | resolved number result => exact judged_resolved orderly number result
  | closed number => exact judged_closed orderly number
  | forwarderEnds number => exact judged_forwarderEnds orderly number
  | setTokenTrust trust =>
    have trusting : Orderly { world with tokenTrust := trust } := orderly.frame rfl rfl rfl
    exact .silent rfl trusting trivial rfl rfl (fun _ => rfl) nofun
  | close => exact judged_close orderly

def anOffer : Signal := ⟨.offer, 1, "v=0", "7"⟩

-- one offer from the signal to its session
def answering : List ServerInput :=
  [.signal anOffer, .found ⟨none, none, none, .unixEpoch, some (.v4 0x7f000001 8, []), 0⟩, .signaled true]

end ServerWorld

end Nethernet.Tokio
