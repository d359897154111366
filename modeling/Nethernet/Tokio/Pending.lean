import Nethernet.Admission
import Nethernet.Foundation.Machine
import Nethernet.Foundation.Tally

/-! The async server's count of the offers it answered and that are not yet
established. A slot is held while an offer is pending and gives its count back
when it is dropped, from whichever task. -/

set_option autoImplicit false

namespace Nethernet.Tokio
open Foundation

structure PendingOffers where
  counts : Tally String

structure PendingSlot where
  networkId : String
  deriving DecidableEq, Repr

namespace PendingOffers

def new : PendingOffers := ⟨∅⟩

def tryAdmit (offers : PendingOffers) (networkId : String) (maxPending maxPerNetworkId : Nat) :
    PendingOffers × Option PendingSlot :=
  if maxPending ≤ offers.counts.total ∨ maxPerNetworkId ≤ offers.counts.held networkId then (offers, none)
  else (⟨offers.counts.add networkId⟩, some ⟨networkId⟩)

-- `Drop for PendingSlot`; none when the decrement underflows
def dropSlot (offers : PendingOffers) (slot : PendingSlot) : Option PendingOffers :=
  (offers.counts.take slot.networkId).map PendingOffers.mk

end PendingOffers

/-- The shared counts and the slots that are alive, in whatever task. -/
structure PendingWorld where
  offers : PendingOffers
  live : List PendingSlot

-- a live slot is dropped once, by its place among the live ones
inductive PendingCall where
  | tryAdmit (networkId : String) (limits : PendingLimits)
  | drop (index : Nat)

inductive PendingResult where
  | admitted (slot : Option PendingSlot)
  | dropped
  | underflow
  deriving DecidableEq, Repr

variable {world : PendingWorld} {limits : PendingLimits}

namespace PendingWorld

def start : PendingWorld := ⟨.new, []⟩

/-- The network id of each live slot. -/
def networkIds (world : PendingWorld) : List String := world.live.map (·.networkId)

def step (world : PendingWorld) (call : PendingCall) : PendingWorld × PendingResult :=
  match call with
  | .tryAdmit networkId limits =>
    match world.offers.tryAdmit networkId limits.maxPending limits.maxPendingPerNetworkId with
    | (offers, none) => ({ world with offers := offers }, .admitted none)
    | (offers, some slot) => (⟨offers, slot :: world.live⟩, .admitted (some slot))
  | .drop index =>
    match world.live[index]? with
    | none => (world, .dropped)
    | some slot =>
      match world.offers.dropSlot slot with
      | none => (world, .underflow)
      | some offers => (⟨offers, world.live.eraseIdx index⟩, .dropped)

/-- The counts are those of the live slots. -/
def Exact (world : PendingWorld) : Prop := world.offers.counts.Counts world.networkIds

theorem exact_start : Exact start := Tally.counts_nil

/-- The rule of the counts is the rule of the other server over the live slots, in any order. -/
theorem Exact.tryAdmit (exact : Exact world) {pending : List String} (same : pending.Perm world.networkIds)
    (networkId : String) (limits : PendingLimits) :
    world.offers.tryAdmit networkId limits.maxPending limits.maxPendingPerNetworkId =
      if admitsOffer pending networkId limits then (⟨world.offers.counts.add networkId⟩, some ⟨networkId⟩)
      else (world.offers, none) := by
  have total : world.offers.counts.total = pending.length := (exact.perm same.symm).total
  have held : world.offers.counts.held networkId = pending.count networkId := (exact.perm same.symm).held networkId
  unfold PendingOffers.tryAdmit admitsOffer
  rw [total, held]
  by_cases room : pending.length < limits.maxPending ∧ pending.count networkId < limits.maxPendingPerNetworkId
  · rw [if_neg (by omega), if_pos (by simpa using room)]
  · rw [if_pos (by omega), if_neg (by simpa using room)]

/-- A live slot gives its count back. -/
theorem Exact.dropSlot (exact : Exact world) {index : Nat} {slot : PendingSlot} (live : world.live[index]? = some slot) :
    ∃ offers, world.offers.dropSlot slot = some offers ∧ Exact ⟨offers, world.live.eraseIdx index⟩ := by
  obtain ⟨within, value⟩ := List.getElem?_eq_some_iff.mp live
  have first : world.live.Perm (slot :: world.live.eraseIdx index) := by
    rw [← value]
    exact (List.getElem_cons_eraseIdx_perm within).symm
  have ids : world.networkIds.Perm (slot.networkId :: (world.live.eraseIdx index).map (·.networkId)) :=
    first.map PendingSlot.networkId
  obtain ⟨rest, taken, counts⟩ := (exact.perm ids).take
  exact ⟨⟨rest⟩, by rw [PendingOffers.dropSlot, taken]; rfl, counts⟩

/-- What a call does: it admits, refuses, drops or names no live slot. -/
theorem Exact.step_cases (exact : Exact world) (call : PendingCall) :
    (∃ networkId limits, call = .tryAdmit networkId limits ∧ admitsOffer world.networkIds networkId limits = true ∧
      step world call = (⟨⟨world.offers.counts.add networkId⟩, ⟨networkId⟩ :: world.live⟩, .admitted (some ⟨networkId⟩))) ∨
    (∃ result, result ≠ .underflow ∧ step world call = (world, result)) ∨
    (∃ index offers, Exact ⟨offers, world.live.eraseIdx index⟩ ∧
      step world call = (⟨offers, world.live.eraseIdx index⟩, .dropped)) := by
  cases call with
  | tryAdmit networkId limits =>
    have rule := exact.tryAdmit (.refl _) networkId limits
    cases verdict : admitsOffer world.networkIds networkId limits with
    | true =>
      refine .inl ⟨networkId, limits, rfl, verdict, ?_⟩
      simp only [PendingWorld.step, rule, verdict, if_true]
    | false =>
      refine .inr (.inl ⟨.admitted none, nofun, ?_⟩)
      simp only [PendingWorld.step, rule, verdict, Bool.false_eq_true, if_false]
  | drop index =>
    right
    cases live : world.live[index]? with
    | none => exact .inl ⟨.dropped, nofun, by simp only [PendingWorld.step, live]⟩
    | some slot =>
      obtain ⟨offers, dropped, kept⟩ := exact.dropSlot live
      exact .inr ⟨index, offers, kept, by simp only [PendingWorld.step, live, dropped]⟩

theorem exact_step (world : PendingWorld) (call : PendingCall) (exact : Exact world) : Exact (step world call).1 := by
  rcases exact.step_cases call with ⟨networkId, limits, -, -, after⟩ | ⟨result, -, after⟩ | ⟨index, offers, kept, after⟩
  · rw [after]
    exact exact.add networkId
  · rw [after]
    exact exact
  · rw [after]
    exact kept

theorem exact_run (calls : List PendingCall) : Exact (run step start calls).1 :=
  run_invariant step exact_step exact_start calls

theorem underflow_not_mem_run (exact : Exact world) (calls : List PendingCall) :
    PendingResult.underflow ∉ (run step world calls).2 := by
  induction calls generalizing world with
  | nil => simp
  | cons call rest ih =>
    rw [run_cons, List.mem_cons, not_or]
    refine ⟨?_, ih (exact_step world call exact)⟩
    rcases exact.step_cases call with ⟨networkId, limits, -, -, after⟩ | ⟨result, other, after⟩ | ⟨index, offers, -, after⟩
    · rw [after]
      nofun
    · rw [after]
      exact other.symm
    · rw [after]
      nofun

/-- The slots are within the limits. -/
def Within (limits : PendingLimits) (world : PendingWorld) : Prop :=
  world.networkIds.length ≤ limits.maxPending ∧
    ∀ networkId, world.networkIds.count networkId ≤ limits.maxPendingPerNetworkId

/-- An admission is tried under these limits. -/
def Under (limits : PendingLimits) : PendingCall → Prop
  | .tryAdmit _ given => given = limits
  | .drop _ => True

theorem within_step {call : PendingCall} (exact : Exact world) (within : Within limits world)
    (under : Under limits call) : Within limits (step world call).1 := by
  rcases exact.step_cases call with ⟨networkId, given, rfl, room, after⟩ | ⟨result, -, after⟩ | ⟨index, offers, -, after⟩
  · cases under
    simp only [admitsOffer, Bool.and_eq_true, decide_eq_true_eq] at room
    rw [after]
    refine ⟨room.1, fun other => ?_⟩
    show (networkId :: world.networkIds).count other ≤ _
    by_cases same : other = networkId
    · rw [same, List.count_cons_self]
      exact room.2
    · rw [List.count_cons_of_ne (Ne.symm same)]
      exact within.2 other
  · rw [after]
    exact within
  · have fewer : (world.live.eraseIdx index).map (·.networkId) |>.Sublist world.networkIds :=
      (List.eraseIdx_sublist world.live index).map _
    rw [after]
    exact ⟨fewer.length_le.trans within.1, fun other => (fewer.count_le other).trans (within.2 other)⟩

theorem within_run {calls : List PendingCall} (under : ∀ call ∈ calls, Under limits call) (exact : Exact world)
    (within : Within limits world) : Within limits (run step world calls).1 := by
  induction calls generalizing world with
  | nil => exact within
  | cons call rest ih =>
    obtain ⟨first, later⟩ := List.forall_mem_cons.mp under
    exact ih later (exact_step world call exact) (within_step exact within first)

/-- The counts are those of the live slots through every run, no decrement underflows, an offer is
admitted as the other server would admit it, and slots taken under fixed limits stay within them. -/
theorem pending_counts_exact (calls : List PendingCall) :
    (∀ networkId, (run step start calls).1.offers.counts.lookup networkId =
      if (run step start calls).1.networkIds.count networkId = 0 then none
      else some ((run step start calls).1.networkIds.count networkId)) ∧
    PendingResult.underflow ∉ (run step start calls).2 ∧
    (∀ networkId limits pending, pending.Perm (run step start calls).1.networkIds →
      ((run step start calls).1.offers.tryAdmit networkId limits.maxPending limits.maxPendingPerNetworkId).2.isSome =
        admitsOffer pending networkId limits) ∧
    ∀ limits, (∀ call ∈ calls, Under limits call) →
      (run step start calls).1.live.length ≤ limits.maxPending ∧
        ∀ networkId, (run step start calls).1.networkIds.count networkId ≤ limits.maxPendingPerNetworkId := by
  refine ⟨exact_run calls, underflow_not_mem_run exact_start calls, ?_, ?_⟩
  · intro networkId limits pending same
    rw [(exact_run calls).tryAdmit same]
    cases admitsOffer pending networkId limits <;> rfl
  · intro limits under
    have kept := within_run under exact_start ⟨Nat.zero_le _, fun _ => Nat.zero_le _⟩
    exact ⟨(List.length_map ..).symm.trans_le kept.1, kept.2⟩

/-- Two offers of one peer and one of another under the limits 3 and 2, the first one over. -/
theorem third_offer_refused :
    let calls : List PendingCall := [.tryAdmit "1" ⟨3, 2⟩, .tryAdmit "1" ⟨3, 2⟩, .tryAdmit "2" ⟨3, 2⟩, .drop 2]
    ((run step start calls).1.networkIds = ["2", "1"] ∧
      ((run step start calls).1.offers.tryAdmit "1" 3 2).2.isSome = admitsOffer ["1", "2"] "1" ⟨3, 2⟩) ∧
      (run step start calls).1.live.length ≤ 3 := by
  intro calls
  have ids : (run step start calls).1.networkIds = ["2", "1"] := by decide
  obtain ⟨-, -, rule, bound⟩ := pending_counts_exact calls
  refine ⟨⟨ids, rule "1" ⟨3, 2⟩ ["1", "2"] ?_⟩, (bound ⟨3, 2⟩ ?_).1⟩
  · rw [ids]
    exact .swap ..
  · simp [calls, Under]

end PendingWorld

end Nethernet.Tokio
