import Mathlib.Data.List.Pairwise
import Nethernet.Bevy.Driven

/-! The order of a pool's reports: once it has reported that its session failed, it
reports nothing else about it. -/

set_option autoImplicit false

namespace Nethernet
open Foundation

-- only further failures follow a failure
def Orderly (events : List (Unit × ConnectionEvent)) : Prop :=
  events.Pairwise fun earlier later => earlier.2 = .failed → later.2 = .failed

-- the reports say nothing of a failure
def Sane {K : Type} (events : List (K × ConnectionEvent)) : Prop := ∀ event ∈ events, event.2 ≠ .failed

variable {event : ConnectionEvent}

theorem sane_append {K : Type} {events : List (K × ConnectionEvent)} {id : K} (sane : Sane events)
    (other : event ≠ .failed) : Sane (events ++ [(id, event)]) := by
  intro listed member
  exact (PoolThread.mem_reports other listed member).elim (sane listed) fun unfailed => unfailed

theorem Sane.orderly {events failed : List (Unit × ConnectionEvent)} (sane : Sane events)
    (failures : ∀ event ∈ failed, event.2 = .failed) : Orderly (events ++ failed) := by
  apply List.pairwise_append.mpr
  refine ⟨?_, ?_, ?_⟩
  · exact List.Pairwise.imp_of_mem (fun earlier _ _ isFailure => absurd isFailure (sane _ earlier))
      (List.pairwise_of_forall fun _ _ => trivial)
  · exact List.Pairwise.imp_of_mem (fun _ later _ _ => failures _ later)
      (List.pairwise_of_forall fun _ _ => trivial)
  · intro earlier member later _ isFailure
    exact absurd isFailure (sane earlier member)

namespace PoolThread
variable {crates : WebrtcCrates} {rtc : Rtc crates.Candidate} {K : Type} [DecidableEq K]

theorem sane_visit (now : Instant) (id : K) {round : Round rtc K} (sane : Sane round.events) :
    Sane (visit now round id).events := by
  cases stored : round.thread.entries.lookup id with
  | none => rwa [visit_none stored]
  | some entry =>
    obtain ⟨left, visits⟩ := visit_eq now stored
    intro event member
    exact (visits.events event member).elim (sane event) fun unfailed => unfailed

theorem fails_events (failed : List K) (round : Round rtc K) :
    (failed.foldl fail round).events = round.events ++ failed.map fun id => (id, .failed) := by
  induction failed generalizing round with
  | nil => exact (List.append_nil _).symm
  | cons id rest ih =>
    rw [List.foldl_cons, ih, List.map_cons]
    exact List.append_assoc ..

theorem fails_undriven {failed : List K} {round : Round rtc K} {id : K} (member : id ∈ failed) :
    (failed.foldl fail round).thread.drives id = false := by
  -- the session is gone after its own failure, and no failure brings it back
  have stays : ∀ (failed : List K) (round : Round rtc K), round.thread.drives id = false →
      (failed.foldl fail round).thread.drives id = false := by
    intro failed round gone
    refine List.foldlRecOn (motive := fun after : Round rtc K => after.thread.drives id = false) _ _ gone ?_
    intro after undriven key _
    show (after.thread.remove key).drives id = false
    rw [drives_remove, undriven, Bool.false_and]
  obtain ⟨before, after, rfl⟩ := List.append_of_mem member
  rw [List.foldl_append, List.foldl_cons]
  apply stays
  show ((before.foldl fail round).thread.remove id).drives id = false
  rw [drives_remove]
  simp

/-- The failures a round reports come last, and their sessions are gone. -/
theorem round_reports (thread : PoolThread rtc K) (now : Instant) (order : Visit K) : ∃ (reports : List (K × ConnectionEvent)) (failed : List K),
    (thread.round now order).2 = reports ++ failed.map (fun id => (id, ConnectionEvent.failed)) ∧ Sane reports ∧
      ∀ id ∈ failed, (thread.round now order).1.drives id = false := by
  have none : Sane (⟨thread, [], []⟩ : Round rtc K).events := by simp [Sane]
  refine ⟨_, _, fails_events _ _, ?_, fun id member => fails_undriven member⟩
  refine List.foldlRecOn (motive := fun round : Round rtc K => Sane round.events) _ _ none ?_
  intro round sane id _
  exact sane_visit now id sane

end PoolThread

namespace SessionPool
variable {crates : WebrtcCrates} {rtc : Rtc crates.Candidate} {pool : SessionPool rtc Unit}

/-- The reports that wait are in order, no session is still to be taken up, and after a failure none is left. -/
structure Sequenced (pool : SessionPool rtc Unit) : Prop where
  orderly : Orderly pool.events
  settled : ∀ command ∈ pool.commands, command.adds = false
  ended : ¬ Sane pool.events → pool.thread.drives () = false

theorem Sequenced.quiet (none : pool.events = []) (settled : ∀ command ∈ pool.commands, command.adds = false) :
    pool.Sequenced := by
  refine ⟨?_, settled, ?_⟩
  · rw [none]
    exact List.Pairwise.nil
  · intro insane
    rw [none] at insane
    exact absurd (by simp [Sane]) insane

theorem Sequenced.add (connection : Connection rtc) (localUfrag : String) (now : Instant) :
    (SessionPool.new.add () connection localUfrag now).Sequenced :=
  .quiet rfl (fun _ member => absurd member List.not_mem_nil)

theorem Sequenced.push (sequenced : pool.Sequenced) {command : PoolCommand Unit (Connection rtc)}
    (adds : command.adds = false) : (pool.push command).Sequenced := by
  refine ⟨sequenced.orderly, ?_, sequenced.ended⟩
  intro queued member
  rcases List.mem_append.mp member with earlier | last
  · exact sequenced.settled queued earlier
  · rw [List.mem_singleton.mp last]
    exact adds

theorem Sequenced.drive (sequenced : pool.Sequenced) : pool.drive.1.Sequenced := .quiet rfl sequenced.settled

theorem Sequenced.takeCommand (sequenced : pool.Sequenced) (now : Instant) : (pool.takeCommand now).Sequenced := by
  unfold SessionPool.takeCommand
  split
  · exact sequenced
  · rename_i command rest queued
    have settled := sequenced.settled
    rw [queued] at settled
    refine ⟨sequenced.orderly, fun later member => settled later (List.mem_cons_of_mem _ member), ?_⟩
    intro insane
    have undriven := sequenced.ended insane
    rw [← Bool.not_eq_true] at undriven ⊢
    rw [PoolThread.drives_command]
    exact fun still => undriven (PoolCommand.driven_of_drives (settled command List.mem_cons_self) still)

theorem Sequenced.round (sequenced : pool.Sequenced) (now : Instant) (order : Visit Unit) :
    (pool.round now order).Sequenced := by
  obtain ⟨reports, failed, reported, sane, gone⟩ := pool.thread.round_reports now order
  have joined : (pool.round now order).events = pool.events ++ (pool.thread.round now order).2 := rfl
  by_cases unfailed : Sane pool.events
  · have allSane : Sane (pool.events ++ reports) := by
      intro event member
      exact (List.mem_append.mp member).elim (unfailed event) (sane event)
    rw [reported, ← List.append_assoc] at joined
    refine ⟨?_, sequenced.settled, ?_⟩
    · rw [joined]
      apply allSane.orderly
      intro event member
      obtain ⟨id, -, rfl⟩ := List.mem_map.mp member
      rfl
    · intro insane
      rw [joined] at insane
      -- the failure is one of this round, which ended the session
      cases failed with
      | nil => exact absurd (by rwa [List.map_nil, List.append_nil]) insane
      | cons id rest => exact gone () List.mem_cons_self
  · -- the session is gone, so the round finds none
    have undriven := sequenced.ended unfailed
    have silent : (pool.thread.round now order).2 = [] := by
      by_contra spoken
      rw [PoolThread.drives_of_reported pool.thread now order spoken] at undriven
      cases undriven
    rw [silent, List.append_nil] at joined
    refine ⟨joined ▸ sequenced.orderly, sequenced.settled, fun _ => ?_⟩
    exact Bool.eq_false_iff.mpr fun still =>
      Bool.eq_false_iff.mp undriven (PoolThread.drives_of_round pool.thread () still)

theorem Sequenced.report (sequenced : pool.Sequenced) (other : event ≠ .failed)
    (driven : pool.thread.drives () = true) : Sequenced { pool with events := pool.events ++ [((), event)] } := by
  have sane : Sane pool.events := by
    by_contra insane
    rw [sequenced.ended insane] at driven
    cases driven
  have more : Sane (pool.events ++ [((), event)]) := sane_append sane other
  refine ⟨?_, sequenced.settled, fun insane => absurd more insane⟩
  have ordered : Orderly (pool.events ++ [((), event)] ++ []) := more.orderly (by simp)
  rwa [List.append_nil] at ordered

end SessionPool

/-- A failure is reported only by the round that ends the session. -/
def PoolStep.Regular : PoolStep Unit → Prop
  | .report _ event => event ≠ .failed
  | _ => True

/-- The thread keeps its reports in order. -/
theorem SessionPool.Sequenced.advance {crates : WebrtcCrates} {rtc : Rtc crates.Candidate} {pool : SessionPool rtc Unit}
    (sequenced : pool.Sequenced) (stunUsername : Bytes → Option String) {step : PoolStep Unit} (regular : step.Regular) :
    (pool.advance stunUsername step).Sequenced := by
  cases step with
  | receive source datagram now =>
    refine ⟨sequenced.orderly, sequenced.settled, fun insane => ?_⟩
    exact (PoolThread.drives_receive ..).trans (sequenced.ended insane)
  | command now => exact sequenced.takeCommand now
  | round now order => exact sequenced.round now order
  | report id event =>
    unfold SessionPool.advance
    dsimp only
    split
    · rename_i driven
      exact sequenced.report regular driven
    · exact sequenced

end Nethernet
