import Nethernet.Session.Layers

/-! The streams of an association: how they are announced, accepted and read. -/

set_option autoImplicit false

namespace Nethernet
open Foundation

namespace Association
variable {Rest : Type}

/-- Streams are announced once, have no messages before that, and are not read before they are accepted. -/
structure Tidy (assoc : Association Rest) : Prop where
  once : assoc.announced.items.Nodup
  silent : ∀ stream, stream ∉ assoc.streams → assoc.messages stream = .empty
  unread : ∀ stream ∈ assoc.announced.waiting, (assoc.messages stream).past = []

-- the first message that ever became readable on a stream
def firstMessage (assoc : Association Rest) (stream : StreamId) : Option Chunks :=
  (assoc.messages stream).items.head?

/-- Every accepted stream has a first message. -/
def Heard (assoc : Association Rest) : Prop :=
  ∀ stream ∈ assoc.announced.past, (assoc.firstMessage stream).isSome = true

theorem tidy_new (rest : Rest) : (new rest).Tidy where
  once := List.nodup_nil
  silent _ _ := rfl
  unread _ member := absurd member List.not_mem_nil

/-! ### Arrivals -/

theorem past_arrive (assoc : Association Rest) (arrival : Arrival) :
    (assoc.arrive arrival).announced.past = assoc.announced.past := by
  unfold arrive
  cases arrival with
  | announce stream => dsimp only; split <;> rfl
  | message stream chunks => dsimp only; split <;> rfl
  | event event => rfl

variable {assoc : Association Rest}

-- a first message stays the first
theorem firstMessage_arrive (arrival : Arrival) {stream : StreamId} {chunks : Chunks}
    (first : assoc.firstMessage stream = some chunks) : (assoc.arrive arrival).firstMessage stream = some chunks := by
  unfold arrive
  cases arrival with
  | announce other => dsimp only; split <;> exact first
  | event event => exact first
  | message other arrived =>
    dsimp only
    split
    · unfold firstMessage
      dsimp only
      by_cases same : stream = other
      · subst same
        rw [Function.update_self, Feed.items_push, List.head?_append]
        unfold firstMessage at first
        rw [first]
        rfl
      · rw [Function.update_of_ne same]
        exact first
    · exact first

theorem Tidy.arrive (tidy : assoc.Tidy) (arrival : Arrival) : (assoc.arrive arrival).Tidy := by
  unfold Association.arrive
  cases arrival with
  | event event => exact ⟨tidy.once, tidy.silent, tidy.unread⟩
  | announce stream =>
    dsimp only
    split
    · exact tidy
    · rename_i fresh
      have unknown : stream ∉ assoc.announced.items := fun member => fresh (List.mem_append_left _ member)
      constructor
      case once =>
        dsimp only
        rw [Feed.items_push]
        refine List.nodup_append.mpr ⟨tidy.once, List.pairwise_singleton _ _, ?_⟩
        intro old member new isNew same
        rw [List.mem_singleton] at isNew
        exact unknown (isNew ▸ same ▸ member)
      case silent =>
        intro other absent
        apply tidy.silent
        intro member
        apply absent
        rw [streams, Feed.items_push]
        rcases List.mem_append.mp member with old | opened
        · exact List.mem_append_left _ (List.mem_append_left _ old)
        · exact List.mem_append_right _ opened
      case unread =>
        intro other member
        rcases List.mem_append.mp member with old | new
        · exact tidy.unread other old
        · rw [List.mem_singleton] at new
          subst new
          show (assoc.messages other).past = []
          rw [tidy.silent other fresh]
          rfl
  | message stream chunks =>
    dsimp only
    split
    · rename_i known
      refine ⟨tidy.once, ?_, ?_⟩
      · intro other absent
        have different : other ≠ stream := fun same => absent (same ▸ known)
        dsimp only
        rw [Function.update_of_ne different]
        exact tidy.silent other absent
      · intro other member
        dsimp only
        by_cases same : other = stream
        · subst same
          rw [Function.update_self]
          exact tidy.unread other member
        · rw [Function.update_of_ne same]
          exact tidy.unread other member
    · exact tidy

theorem Heard.arrive (heard : assoc.Heard) (arrival : Arrival) : (assoc.arrive arrival).Heard := by
  intro stream member
  rw [past_arrive] at member
  obtain ⟨chunks, first⟩ := Option.isSome_iff_exists.mp (heard stream member)
  rw [firstMessage_arrive arrival first]
  rfl

/-! ### Accepting and reading -/

section
variable {stream : StreamId} {waiting : List StreamId}

-- the association once the next stream is accepted and its first message is read
def looked (assoc : Association Rest) (stream : StreamId) : Association Rest :=
  (assoc.acceptStream.1.read stream).1

theorem acceptStream_cons (queued : assoc.announced.waiting = stream :: waiting) :
    assoc.acceptStream =
      ({ assoc with announced := ⟨assoc.announced.past ++ [stream], waiting⟩ }, some stream) := by
  unfold acceptStream Feed.next
  rw [queued]

theorem firstMessage_read (other : StreamId) :
    (assoc.read stream).1.firstMessage other = assoc.firstMessage other := by
  unfold firstMessage read
  dsimp only
  by_cases same : other = stream
  · subst same
    rw [Function.update_self, Feed.items_next]
  · rw [Function.update_of_ne same]

theorem firstMessage_readAll (other : StreamId) :
    (assoc.readAll stream).1.firstMessage other = assoc.firstMessage other := by
  unfold firstMessage readAll
  dsimp only
  by_cases same : other = stream
  · subst same
    rw [Function.update_self, Feed.items_drain]
  · rw [Function.update_of_ne same]

theorem Tidy.looked (tidy : assoc.Tidy) (queued : assoc.announced.waiting = stream :: waiting) :
    (assoc.looked stream).Tidy := by
  have items : (assoc.looked stream).announced.items = assoc.announced.items := Feed.items_next _
  have known : stream ∈ assoc.streams := by
    apply List.mem_append_left
    rw [Feed.items, queued]
    exact List.mem_append_right _ List.mem_cons_self
  have rest : (assoc.looked stream).announced.waiting = waiting := by
    unfold Association.looked
    rw [acceptStream_cons queued]
    rfl
  have others : ∀ other, other ≠ stream → (assoc.looked stream).messages other = assoc.messages other := by
    intro other different
    exact Function.update_of_ne different ..
  constructor
  case once =>
    rw [items]
    exact tidy.once
  case silent =>
    intro other absent
    have unknown : other ∉ assoc.streams := by
      rw [streams, ← items]
      exact absent
    rw [others other fun same => unknown (same ▸ known)]
    exact tidy.silent other unknown
  case unread =>
    intro other member
    rw [rest] at member
    -- a stream waits only once, so the one just read is not among the others
    have different : other ≠ stream := by
      intro same
      have unique := tidy.once
      rw [Feed.items, queued] at unique
      exact (List.nodup_cons.mp (List.nodup_append.mp unique).2.1).1 (same ▸ member)
    rw [others other different]
    apply tidy.unread
    rw [queued]
    exact List.mem_cons_of_mem _ member

-- the first look at a stream finds its first message, if that is readable
theorem read_first (tidy : assoc.Tidy) (queued : assoc.announced.waiting = stream :: waiting) :
    (assoc.acceptStream.1.read stream).2 = assoc.firstMessage stream := by
  have fresh : (assoc.messages stream).past = [] := by
    apply tidy.unread
    rw [queued]
    exact List.mem_cons_self
  show (assoc.messages stream).next.2 = (assoc.messages stream).items.head?
  unfold Feed.next Feed.items
  rw [fresh]
  cases (assoc.messages stream).waiting <;> rfl

theorem Tidy.readAll (tidy : assoc.Tidy) (known : stream ∈ assoc.streams) (accepted : assoc.announced.waiting = []) :
    (assoc.readAll stream).1.Tidy := by
  refine ⟨tidy.once, ?_, ?_⟩
  · intro other absent
    have different : other ≠ stream := fun same => absent (same ▸ known)
    show Function.update _ _ _ _ = _
    rw [Function.update_of_ne different]
    exact tidy.silent other absent
  · intro other member
    have none : other ∈ assoc.announced.waiting := member
    rw [accepted] at none
    cases none

end

end Association

end Nethernet
