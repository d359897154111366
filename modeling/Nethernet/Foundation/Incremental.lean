import Mathlib.Data.List.Basic

/-! Reading a stream piece by piece: a judge looks at all that was read so far,
after every piece, and its first verdict counts.

A reader settles if it never changes its mind once it has seen enough; a limit on
what may be read while it waits is added by `limited`. It reads a word if it waits
for all of it and then does not look at what comes behind. -/

set_option autoImplicit false

namespace Nethernet.Foundation

section
variable {A R : Type}

/-- An answer other than `waiting` stays the same whatever comes behind. -/
def Settles (parse : List A → R) (waiting : R) : Prop :=
  ∀ seen more, parse seen ≠ waiting → parse (seen ++ more) = parse seen

variable {H : Type} {parse : List A → R} {waiting : R}

theorem Settles.eq (settles : Settles parse waiting) {seen : List A} {result : R} (answered : parse seen = result)
    (known : result ≠ waiting) (more : List A) : parse (seen ++ more) = result := by
  rw [settles seen more (answered ▸ known), answered]

-- a result that does not depend on the stream
theorem Settles.const (result : R) : Settles (fun _ : List A => result) waiting := fun _ _ _ => rfl

theorem Settles.map (settles : Settles parse waiting) (change : R → H) :
    Settles (fun seen => change (parse seen)) (change waiting) := by
  intro seen more answered
  have known : parse seen ≠ waiting := by
    intro same
    apply answered
    show change (parse seen) = change waiting
    rw [same]
  show change (parse (seen ++ more)) = change (parse seen)
  rw [settles seen more known]

-- what comes behind a suffix is a suffix of what comes behind
theorem Settles.drop (settles : Settles parse waiting) (start : Nat) :
    Settles (fun seen => parse (seen.drop start)) waiting := by
  intro seen more answered
  show parse ((seen ++ more).drop start) = _
  rw [List.drop_append]
  exact settles _ _ answered

/-- A reader that goes on once its head is there. -/
theorem Settles.after {head : List A → H} {open' : H} (settles : Settles head open') (next : H → List A → R)
    (undecided : ∀ seen, next open' seen = waiting) (each : ∀ found, Settles (next found) waiting) :
    Settles (fun seen => next (head seen) seen) waiting := by
  intro seen more answered
  have known : head seen ≠ open' := by
    intro same
    apply answered
    show next (head seen) seen = waiting
    rw [same, undecided]
  show next (head (seen ++ more)) (seen ++ more) = next (head seen) seen
  rw [settles seen more known]
  exact each (head seen) seen more answered

end

/-! ## Words that are read -/

section
variable {A R H : Type}

/-- The beginning of a word without its end. -/
def Part (part word : List A) : Prop := part <+: word ∧ part ≠ word

theorem Part.length_lt {part word : List A} (cut : Part part word) : part.length < word.length :=
  Nat.lt_of_le_of_ne cut.1.length_le fun same => cut.2 (cut.1.eq_of_length same)

/-- A part of two words is a part of the first, or all of it and a part of the second. -/
theorem Part.append_cases {part first second : List A} (cut : Part part (first ++ second)) :
    Part part first ∨ ∃ rest, part = first ++ rest ∧ Part rest second := by
  by_cases short : part.length < first.length
  · left
    have within := List.prefix_of_prefix_length_le cut.1 (List.prefix_append first second) (Nat.le_of_lt short)
    exact ⟨within, fun same => Nat.lt_irrefl _ (same ▸ short)⟩
  · right
    obtain ⟨rest, rfl⟩ := List.prefix_of_prefix_length_le (List.prefix_append first second) cut.1 (Nat.le_of_not_lt short)
    exact ⟨rest, rfl, (List.prefix_append_right_inj first).mp cut.1, fun same => cut.2 (by rw [same])⟩

/-- The reader answers with `result` once the whole word is there, and waits until then. -/
structure ReadsWord (parse : List A → R) (waiting : R) (word : List A) (result : R) : Prop where
  whole : ∀ rest, parse (word ++ rest) = result
  part : ∀ cut, Part cut word → parse cut = waiting

variable {waiting result : R} {word : List A}

theorem ReadsWord.map {parse : List A → R} (reads : ReadsWord parse waiting word result) (change : R → H) :
    ReadsWord (fun seen => change (parse seen)) (change waiting) word (change result) :=
  ⟨fun rest => congrArg change (reads.whole rest), fun cut part => congrArg change (reads.part cut part)⟩

/-- A reader that waits for the first word and is then like one that reads the second. -/
theorem ReadsWord.after {first second : List A → R} {head tail : List A}
    (waits : ∀ cut, Part cut head → first cut = waiting)
    (passes : ∀ rest, first (head ++ rest) = second rest) (reads : ReadsWord second waiting tail result) :
    ReadsWord first waiting (head ++ tail) result := by
  constructor
  · intro rest
    rw [List.append_assoc, passes, reads.whole]
  · intro cut part
    rcases part.append_cases with short | ⟨rest, rfl, within⟩
    · exact waits cut short
    · rw [passes, reads.part rest within]

end

/-! ## Verdicts on a stream -/

section
variable {A V : Type}

/-- The first verdict, after each of the pieces. -/
def firstVerdict (judge : List A → Option V) (seen : List A) : List (List A) → Option V
  | [] => none
  | read :: rest =>
    match judge (seen ++ read) with
    | some verdict => some verdict
    | none => firstVerdict judge (seen ++ read) rest

variable {seen : List A}

theorem firstVerdict_of_some {judge : List A → Option V} {read : List A} {verdict : V}
    (judged : judge (seen ++ read) = some verdict) (rest : List (List A)) :
    firstVerdict judge seen (read :: rest) = some verdict := by
  rw [firstVerdict, judged]

theorem firstVerdict_of_none {judge : List A → Option V} {read : List A} (judged : judge (seen ++ read) = none)
    (rest : List (List A)) : firstVerdict judge seen (read :: rest) = firstVerdict judge (seen ++ read) rest := by
  rw [firstVerdict, judged]

theorem firstVerdict_whole (judge : List A → Option V) (stream : List A) : firstVerdict judge [] [stream] = judge stream := by
  cases judged : judge stream with
  | some verdict => exact firstVerdict_of_some judged []
  | none => exact firstVerdict_of_none judged []

structure IsCut (stream : List A) (reads : List (List A)) : Prop where
  joined : reads.flatten = stream
  nonempty : ∀ read ∈ reads, read ≠ []

theorem isCut_whole {stream : List A} (present : stream ≠ []) : IsCut stream [stream] :=
  ⟨by simp, by simpa using present⟩

theorem isCut_two {more : List A} (first : seen ≠ []) (second : more ≠ []) : IsCut (seen ++ more) [seen, more] :=
  ⟨by simp, by simp [first, second]⟩

/-- How the stream is cut does not change the verdict. -/
def CutBlind (judge : List A → Option V) (stream : List A) : Prop :=
  ∀ reads reads', IsCut stream reads → IsCut stream reads' → firstVerdict judge [] reads = firstVerdict judge [] reads'

/-- Every verdict on a part of the stream is the verdict on the whole. -/
def Foresees (judge : List A → Option V) (stream : List A) : Prop :=
  ∀ seen more, seen ++ more = stream → seen ≠ [] → judge seen = none ∨ judge seen = judge stream

variable {judge : List A → Option V} {stream : List A}

theorem Foresees.firstVerdict_eq (foresees : Foresees judge stream) {reads : List (List A)}
    (joined : seen ++ reads.flatten = stream) (nonempty : ∀ read ∈ reads, read ≠ []) (pieces : reads ≠ []) :
    firstVerdict judge seen reads = judge stream := by
  induction reads generalizing seen with
  | nil => exact absurd rfl pieces
  | cons read rest ih =>
    have joined : (seen ++ read) ++ rest.flatten = stream := by simpa using joined
    have piece : seen ++ read ≠ [] := by simp [nonempty read List.mem_cons_self]
    cases judged : judge (seen ++ read) with
    | some verdict =>
      rw [firstVerdict_of_some judged]
      rcases foresees _ _ joined piece with silent | same
      · simp [judged] at silent
      · rw [← same, judged]
    | none =>
      rw [firstVerdict_of_none judged]
      cases rest with
      | nil =>
        -- the last piece completes the stream
        have whole : seen ++ read = stream := by simpa using joined
        rw [firstVerdict, ← whole, judged]
      | cons next later => exact ih joined (fun piece member => nonempty piece (List.mem_cons_of_mem _ member)) nofun

theorem cutBlind_iff_foresees : CutBlind judge stream ↔ Foresees judge stream := by
  constructor
  · intro blind seen more joined present
    by_cases rest : more = []
    · right
      rw [← joined, rest, List.append_nil]
    · have whole : stream ≠ [] := by
        rw [← joined]
        simp [present]
      have same := blind [seen, more] [stream] (joined ▸ isCut_two present rest) (isCut_whole whole)
      cases judged : judge seen with
      | none => exact .inl rfl
      | some verdict =>
        right
        rw [firstVerdict_of_some judged, firstVerdict_whole] at same
        exact same
  · intro foresees reads reads' cut cut'
    by_cases empty : stream = []
    · have nothing : ∀ {pieces : List (List A)}, IsCut stream pieces → pieces = [] := by
        rintro (_ | ⟨piece, rest⟩) ⟨joined, nonempty⟩
        · rfl
        · rw [empty, List.flatten_cons, List.append_eq_nil_iff] at joined
          exact absurd joined.1 (nonempty piece List.mem_cons_self)
      rw [nothing cut, nothing cut']
    · have something : ∀ {pieces : List (List A)}, IsCut stream pieces → pieces ≠ [] := by
        rintro pieces ⟨joined, -⟩ rfl
        exact empty joined.symm
      rw [foresees.firstVerdict_eq (by simpa using cut.joined) cut.nonempty (something cut),
        foresees.firstVerdict_eq (by simpa using cut'.joined) cut'.nonempty (something cut')]

/-- The reader's verdict, or `excess` where it still waits with more than `limit` read. -/
def limited (parse : List A → Option V) (limit : Nat) (excess : V) (seen : List A) : Option V :=
  match parse seen with
  | some verdict => some verdict
  | none => if limit < seen.length then some excess else none

variable {parse : List A → Option V} {limit : Nat} {excess : V}

theorem limited_of_some {verdict : V} (parsed : parse seen = some verdict) :
    limited parse limit excess seen = some verdict := by
  rw [limited, parsed]

theorem limited_of_none (waits : parse seen = none) :
    limited parse limit excess seen = if limit < seen.length then some excess else none := by
  rw [limited, waits]

/-- A limited reader does not see how its stream is cut exactly if it waits to the end, or has its
verdict by the first item over the limit, or its verdict is that of the limit. -/
theorem Settles.cutBlind_limited_iff (settles : Settles parse none) (stream : List A) :
    CutBlind (limited parse limit excess) stream ↔
      parse stream = none ∨ (parse (stream.take (limit + 1))).isSome ∨ parse stream = some excess := by
  rw [cutBlind_iff_foresees]
  constructor
  · intro foresees
    by_contra apart
    obtain ⟨waits, late, other⟩ : parse stream ≠ none ∧ parse (stream.take (limit + 1)) = none ∧
        parse stream ≠ some excess := by
      simpa [not_or] using apart
    obtain ⟨verdict, parsed⟩ := Option.ne_none_iff_exists'.mp waits
    have beyond : limit < stream.length := by
      by_contra within
      rw [List.take_of_length_le (by omega), parsed] at late
      cases late
    have long : (stream.take (limit + 1)).length = limit + 1 := by
      rw [List.length_take]
      omega
    have judged := foresees (stream.take (limit + 1)) (stream.drop (limit + 1)) (List.take_append_drop ..)
      (by intro empty; simp [empty] at long)
    rw [limited_of_none late, long, if_pos (Nat.lt_succ_self limit), limited_of_some parsed] at judged
    rcases judged with silent | same
    · cases silent
    · exact other (parsed.trans same.symm)
  · rintro condition seen more rfl -
    cases parsed : parse seen with
    | some verdict =>
      right
      rw [limited_of_some parsed, limited_of_some (settles.eq parsed nofun more)]
    | none =>
      rw [limited_of_none parsed]
      by_cases beyond : limit < seen.length
      · right
        rw [if_pos beyond]
        rcases condition with waits | early | refused
        · rw [limited_of_none waits, if_pos (by rw [List.length_append]; omega)]
        · -- by now the reader would have had its verdict
          rw [List.take_append_of_le_length (by omega)] at early
          obtain ⟨verdict, early⟩ := Option.isSome_iff_exists.mp early
          have later := settles.eq early nofun (seen.drop (limit + 1))
          rw [List.take_append_drop, parsed] at later
          cases later
        · rw [limited_of_some refused]
      · left
        rw [if_neg beyond]

end

end Nethernet.Foundation
