import Mathlib.Data.List.Basic

/-! A queue that remembers what was taken from it. -/

set_option autoImplicit false

namespace Nethernet.Foundation

structure Feed (A : Type) where
  past : List A
  waiting : List A
  deriving DecidableEq, Repr

namespace Feed

variable {A : Type}

def empty : Feed A := ⟨[], []⟩

/-- Everything that ever came, in order. -/
def items (feed : Feed A) : List A := feed.past ++ feed.waiting

def push (feed : Feed A) (item : A) : Feed A := { feed with waiting := feed.waiting ++ [item] }

def next (feed : Feed A) : Feed A × Option A :=
  match feed.waiting with
  | [] => (feed, none)
  | item :: rest => (⟨feed.past ++ [item], rest⟩, some item)

def drain (feed : Feed A) : Feed A := ⟨feed.items, []⟩

variable (feed : Feed A)

theorem items_push (item : A) : (feed.push item).items = feed.items ++ [item] :=
  (List.append_assoc ..).symm

theorem items_next : feed.next.1.items = feed.items := by
  unfold next
  cases queued : feed.waiting with
  | nil => rfl
  | cons item rest => simp [items, queued]

theorem items_drain : feed.drain.items = feed.items :=
  List.append_nil _

end Feed

end Nethernet.Foundation
