import Mathlib.Data.List.Basic

/-! A bounded queue from senders to one receiver, which may hang up.

`given` is what the senders put into it, as far as the receiver has it or can still have it. -/

set_option autoImplicit false

namespace Nethernet.Foundation

structure Mailbox (capacity : Nat) (A : Type) where
  taken : List A
  queue : List A
  listening : Bool
  bounded : queue.length ≤ capacity

namespace Mailbox
variable {capacity : Nat} {A : Type}

def empty : Mailbox capacity A := ⟨[], [], true, Nat.zero_le capacity⟩

def given (mailbox : Mailbox capacity A) : List A := mailbox.taken ++ mailbox.queue

inductive Posting (capacity : Nat) (A : Type) where
  | posted (mailbox : Mailbox capacity A)
  | full
  | closed

-- without waiting for room
def post (mailbox : Mailbox capacity A) (item : A) : Posting capacity A :=
  if mailbox.listening then
    if room : mailbox.queue.length < capacity then
      .posted
        { mailbox with
          queue := mailbox.queue ++ [item]
          bounded := by
            rw [List.length_append]
            exact room }
    else .full
  else .closed

def take (mailbox : Mailbox capacity A) : Mailbox capacity A :=
  match queued : mailbox.queue with
  | [] => mailbox
  | item :: rest =>
    { mailbox with
      taken := mailbox.taken ++ [item]
      queue := rest
      bounded := by
        have bounded := mailbox.bounded
        rw [queued, List.length_cons] at bounded
        exact Nat.le_of_succ_le bounded }

-- what was queued is dropped
def hangUp (mailbox : Mailbox capacity A) : Mailbox capacity A :=
  { mailbox with queue := [], listening := false, bounded := Nat.zero_le capacity }

theorem post_eq_posted {mailbox after : Mailbox capacity A} {item : A} (sent : mailbox.post item = .posted after) :
    (mailbox.listening = true ∧ after.listening = true) ∧ mailbox.queue.length < capacity ∧
      after.given = mailbox.given ++ [item] := by
  unfold post at sent
  split at sent
  · rename_i listening
    split at sent
    · rename_i room
      cases sent
      exact ⟨⟨listening, listening⟩, room, (List.append_assoc ..).symm⟩
    · cases sent
  · cases sent

theorem post_eq_full {mailbox : Mailbox capacity A} {item : A} (refused : mailbox.post item = .full) :
    mailbox.listening = true ∧ capacity ≤ mailbox.queue.length := by
  unfold post at refused
  split at refused
  · rename_i listening
    split at refused
    · cases refused
    · rename_i room
      exact ⟨listening, Nat.le_of_not_lt room⟩
  · cases refused

theorem post_eq_closed {mailbox : Mailbox capacity A} {item : A} (refused : mailbox.post item = .closed) :
    mailbox.listening = false := by
  unfold post at refused
  split at refused
  · split at refused <;> cases refused
  · rename_i silent
    exact Bool.eq_false_iff.mpr silent

variable (mailbox : Mailbox capacity A)

theorem given_take : mailbox.take.given = mailbox.given := by
  unfold take
  split
  · rfl
  · rename_i item rest queued
    simp [given, queued]

theorem listening_take : mailbox.take.listening = mailbox.listening := by
  unfold take
  split <;> rfl

theorem taken_prefix_given : mailbox.taken <+: mailbox.given :=
  List.prefix_append ..

theorem given_hangUp : mailbox.hangUp.given = mailbox.taken := List.append_nil _

end Mailbox

end Nethernet.Foundation
