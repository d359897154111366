import Mathlib.Data.List.DropRight

/-! Text scanning on character lists: trimming, splitting, case folding, decimal numbers.

The operations follow the string methods of the Rust standard library. -/

set_option autoImplicit false

namespace Nethernet.Foundation

-- looks at the characters of the text, not at all characters there are
instance (priority := 2000) decidableForallMem {test : Char → Prop} [DecidablePred test] (text : List Char) :
    Decidable (∀ c ∈ text, test c) := List.decidableBAll test text

-- the Unicode White_Space property
def isWhitespace (c : Char) : Bool :=
  (0x9 ≤ c.toNat && c.toNat ≤ 0xd) || c.toNat == 0x20 || c.toNat == 0x85 || c.toNat == 0xa0 ||
    c.toNat == 0x1680 || (0x2000 ≤ c.toNat && c.toNat ≤ 0x200a) || c.toNat == 0x2028 ||
    c.toNat == 0x2029 || c.toNat == 0x202f || c.toNat == 0x205f || c.toNat == 0x3000

def trim (text : List Char) : List Char :=
  (text.dropWhile isWhitespace).rdropWhile isWhitespace

/-- Text that starts and ends outside whitespace is its own trimming, whatever
whitespace follows it. -/
theorem trim_append_whitespace {text pad : List Char} {first last : Char}
    (head : text.head? = some first) (firstInk : isWhitespace first = false)
    (tail : text.getLast? = some last) (lastInk : isWhitespace last = false)
    (blank : ∀ c ∈ pad, isWhitespace c = true) : trim (text ++ pad) = text := by
  cases text with
  | nil => cases head
  | cons c rest =>
    simp only [List.head?_cons, Option.some.injEq] at head
    subst head
    rw [trim, List.cons_append, List.dropWhile_cons_of_neg (by simp [firstInk]), ← List.cons_append]
    induction pad using List.reverseRecOn with
    | nil =>
      rw [List.append_nil, List.rdropWhile_eq_self_iff]
      intro nonempty
      rw [List.getLast?_eq_some_getLast nonempty, Option.some.injEq] at tail
      simp [tail, lastInk]
    | append_singleton pad space ih =>
      rw [← List.append_assoc, List.rdropWhile_concat_pos _ _ _ (blank space (by simp))]
      exact ih fun c member => blank c (by simp [member])

theorem trim_eq_self {text : List Char} (ink : ∀ c ∈ text, isWhitespace c = false) : trim text = text := by
  have kept : text.dropWhile isWhitespace = text :=
    List.dropWhile_eq_self_iff.mpr fun nonempty => by simp [ink _ (List.getElem_mem nonempty)]
  rw [trim, kept, List.rdropWhile_eq_self_iff]
  exact fun nonempty => by simp [ink _ (List.getLast_mem nonempty)]

/-- What trimming removes on the right is whitespace; on the left it removes
nothing from text whose first character is ink. -/
theorem eq_trim_append {text : List Char} (ink : ∀ c ∈ text.head?, isWhitespace c = false) :
    ∃ pad, text = trim text ++ pad ∧ ∀ c ∈ pad, isWhitespace c = true := by
  have kept : text.dropWhile isWhitespace = text := by
    cases text with
    | nil => rfl
    | cons c rest => exact List.dropWhile_cons_of_neg (by simp [ink c rfl])
  refine ⟨text.rtakeWhile isWhitespace, ?_, fun c member => List.mem_rtakeWhile_imp member⟩
  rw [trim, kept, List.rdropWhile_append_rtakeWhile]

section
variable {A : Type} [DecidableEq A]

/-- The parts before and after the first separator. -/
def splitOnce (separator : A) : List A → Option (List A × List A)
  | [] => none
  | c :: rest =>
    if c = separator then some ([], rest)
    else (splitOnce separator rest).map fun parts => (c :: parts.1, parts.2)

variable {before : List A} {separator : A}

theorem splitOnce_append (after : List A) (absent : separator ∉ before) :
    splitOnce separator (before ++ separator :: after) = some (before, after) := by
  induction before with
  | nil => simp [splitOnce]
  | cons c rest ih =>
    simp only [List.mem_cons, not_or] at absent
    simp [splitOnce, Ne.symm absent.1, ih absent.2]

variable {text after : List A}

theorem splitOnce_eq_some (found : splitOnce separator text = some (before, after)) :
    text = before ++ separator :: after ∧ separator ∉ before := by
  induction text generalizing before with
  | nil => cases found
  | cons c rest ih =>
    by_cases same : c = separator
    · simp only [splitOnce, if_pos same, Option.some.injEq, Prod.mk.injEq] at found
      obtain ⟨rfl, rfl⟩ := found
      simp [same]
    · simp only [splitOnce, if_neg same, Option.map_eq_some_iff, Prod.mk.injEq] at found
      obtain ⟨⟨inner, tail⟩, found, rfl, rfl⟩ := found
      obtain ⟨shape, absent⟩ := ih found
      exact ⟨by rw [shape]; rfl, by simp [Ne.symm same, absent]⟩

/-- The parts before and after the last separator. -/
def rsplitOnce (separator : A) (text : List A) : Option (List A × List A) :=
  (splitOnce separator text.reverse).map fun parts => (parts.2.reverse, parts.1.reverse)

/-- At most `limit` parts; the last one keeps every further separator. -/
def splitN (separator : A) : Nat → List A → List (List A)
  | 0, _ => []
  | 1, text => [text]
  | limit + 2, text =>
    match splitOnce separator text with
    | none => [text]
    | some (before, after) => before :: splitN separator (limit + 1) after

/-- The text after a literal prefix. -/
def stripPrefix (start : List A) (text : List A) : Option (List A) :=
  if start <+: text then some (text.drop start.length) else none

/-- The parts before and after the first occurrence of a literal. -/
def splitOnceText (literal : List A) : List A → Option (List A × List A)
  | [] => if literal = [] then some ([], []) else none
  | c :: rest =>
    match stripPrefix literal (c :: rest) with
    | some after => some ([], after)
    | none => (splitOnceText literal rest).map fun parts => (c :: parts.1, parts.2)

@[simp] theorem stripPrefix_append (start rest : List A) :
    stripPrefix start (start ++ rest) = some rest := by
  simp [stripPrefix]

/-- Whether a literal occurs in the text. -/
def containsText (literal text : List A) : Bool := text.tails.any literal.isPrefixOf

variable {start : List A}

theorem stripPrefix_nil (named : start ≠ []) : stripPrefix start [] = none := by
  simp [stripPrefix, named]

theorem stripPrefix_eq_some {rest : List A} (stripped : stripPrefix start text = some rest) : text = start ++ rest := by
  unfold stripPrefix at stripped
  split at stripped
  · rename_i starts
    obtain ⟨tail, rfl⟩ := starts
    simpa using stripped
  · cases stripped

theorem stripPrefix_of_short (short : text.length < start.length) : stripPrefix start text = none :=
  if_neg fun starts => absurd starts.length_le (Nat.not_le_of_lt short)

variable {literal : List A}

theorem splitOnceText_of_short (short : text.length < literal.length) : splitOnceText literal text = none := by
  induction text with
  | nil => simp [splitOnceText, List.ne_nil_of_length_pos short]
  | cons c rest ih =>
    have shorter : rest.length < literal.length := Nat.lt_trans (Nat.lt_succ_self _) short
    simp [splitOnceText, stripPrefix_of_short short, ih shorter]

theorem splitOnceText_eq_some (found : splitOnceText literal text = some (before, after)) :
    text = before ++ (literal ++ after) := by
  induction text generalizing before with
  | nil =>
    simp only [splitOnceText, Option.ite_none_right_eq_some, Option.some.injEq, Prod.mk.injEq] at found
    obtain ⟨rfl, rfl, rfl⟩ := found
    rfl
  | cons c rest ih =>
    rw [splitOnceText] at found
    split at found
    · rename_i stripped
      cases found
      rw [List.nil_append]
      exact stripPrefix_eq_some stripped
    · simp only [Option.map_eq_some_iff, Prod.mk.injEq] at found
      obtain ⟨⟨inner, tail⟩, found, rfl, rfl⟩ := found
      rw [ih found]
      rfl

/-- What comes behind a text in which the literal occurs stays behind it. -/
theorem splitOnceText_more (named : literal ≠ []) (found : splitOnceText literal text = some (before, after))
    (more : List A) : splitOnceText literal (text ++ more) = some (before, after ++ more) := by
  induction text generalizing before with
  | nil => simp [splitOnceText, named] at found
  | cons c rest ih =>
    rw [splitOnceText] at found
    split at found
    · rename_i stripped
      cases found
      have later : stripPrefix literal (c :: rest ++ more) = some (after ++ more) := by
        rw [stripPrefix_eq_some stripped, List.append_assoc, stripPrefix_append]
      rw [List.cons_append] at later ⊢
      rw [splitOnceText, later]
    · rename_i unstripped
      simp only [Option.map_eq_some_iff, Prod.mk.injEq] at found
      obtain ⟨⟨inner, tail⟩, found, rfl, rfl⟩ := found
      -- the literal fits into the rest, so it would have started here before
      have long : literal.length ≤ (c :: rest).length := by
        rw [splitOnceText_eq_some found]
        simp only [List.length_cons, List.length_append]
        omega
      have later : stripPrefix literal (c :: rest ++ more) = none := by
        refine if_neg fun starts => ?_
        have within := List.prefix_of_prefix_length_le starts (List.prefix_append (c :: rest) more) long
        simp [stripPrefix, within] at unstripped
      rw [List.cons_append] at later ⊢
      rw [splitOnceText, later, ih found]
      rfl

section
variable {first : A} (absent : first ∉ before)
include absent

theorem splitOnceText_append (after : List A) :
    splitOnceText (first :: literal) (before ++ (first :: literal ++ after)) = some (before, after) := by
  induction before with
  | nil =>
    show (match stripPrefix (first :: literal) (first :: literal ++ after) with
      | some after => some ([], after)
      | none => _) = _
    rw [stripPrefix_append]
  | cons c rest ih =>
    simp only [List.mem_cons, not_or] at absent
    have other : stripPrefix (first :: literal) (c :: (rest ++ (first :: literal ++ after))) = none := by
      simp [stripPrefix, absent.1]
    rw [List.cons_append, splitOnceText, other, ih absent.2]
    rfl

-- the literal is not there before its last character is
theorem splitOnceText_part {part : List A} (starts : part <+: before ++ first :: literal)
    (short : part.length < (before ++ first :: literal).length) : splitOnceText (first :: literal) part = none := by
  induction before generalizing part with
  | nil => exact splitOnceText_of_short short
  | cons c rest ih =>
    cases part with
    | nil => rfl
    | cons d part =>
      simp only [List.mem_cons, not_or] at absent
      obtain ⟨rfl, within⟩ := List.cons_prefix_cons.mp starts
      have other : stripPrefix (first :: literal) (d :: part) = none := by
        simp [stripPrefix, absent.1]
      rw [splitOnceText, other, ih absent.2 within (Nat.lt_of_succ_lt_succ short)]
      rfl

end

/-! ## Pieces that keep their separator -/

/-- The pieces of a text that end at a separator, each with its separator; only
the last piece can be without one. -/
def splitInclusive (separator : A) : List A → List (List A)
  | [] => []
  | c :: rest =>
    if c = separator then [c] :: splitInclusive separator rest
    else
      match splitInclusive separator rest with
      | [] => [[c]]
      | piece :: pieces => (c :: piece) :: pieces

@[simp] theorem flatten_splitInclusive (separator : A) (text : List A) :
    (splitInclusive separator text).flatten = text := by
  induction text with
  | nil => rfl
  | cons c rest ih =>
    unfold splitInclusive
    split
    · simp [ih]
    · split <;> simp_all

/-- Whatever comes before a piece is empty or ends with the separator. -/
theorem getLast?_splitInclusive {piece : List A} {before after : List (List A)}
    (split : splitInclusive separator text = before ++ piece :: after) (nonempty : before ≠ []) :
    before.flatten.getLast? = some separator := by
  induction text generalizing before with
  | nil => simp [splitInclusive] at split
  | cons c rest ih =>
    obtain ⟨first, before, rfl⟩ := List.exists_cons_of_ne_nil nonempty
    unfold splitInclusive at split
    split at split
    · rename_i ends
      obtain ⟨rfl, others⟩ := List.cons.inj split
      cases before with
      | nil => simp [ends]
      | cons second before =>
        have inner : (second :: before).flatten.getLast? = some separator := ih others (by simp)
        rw [List.flatten_cons, List.getLast?_append, inner]
        rfl
    · split at split
      · simp at split
      · rename_i head tail pieces
        obtain ⟨rfl, tail_eq⟩ := List.cons.inj split
        -- the first piece without its first element is the first piece of the rest
        have inner : (head :: before).flatten.getLast? = some separator :=
          ih (by rw [pieces, tail_eq]; rfl) (by simp)
        rw [List.flatten_cons] at inner ⊢
        rw [List.cons_append, List.getLast?_cons, inner]
        rfl

theorem splitInclusive_append (closed : before = [] ∨ before.getLast? = some separator) (after : List A) :
    splitInclusive separator (before ++ after) =
      splitInclusive separator before ++ splitInclusive separator after := by
  induction before with
  | nil => rfl
  | cons c rest ih =>
    have last : (c :: rest).getLast? = some separator := closed.resolve_left (by simp)
    by_cases ends : c = separator
    · have inner : rest = [] ∨ rest.getLast? = some separator := by
        cases rest with
        | nil => exact .inl rfl
        | cons next rest => exact .inr (by rwa [List.getLast?_cons_cons] at last)
      simp [splitInclusive, ends, ih inner]
    · cases rest with
      | nil => simp_all
      | cons next rest =>
        rw [List.getLast?_cons_cons] at last
        have pieces := ih (.inr last)
        obtain ⟨piece, tail, split⟩ : ∃ piece tail, splitInclusive separator (next :: rest) = piece :: tail := by
          refine List.exists_cons_of_ne_nil fun none => ?_
          have text := flatten_splitInclusive separator (next :: rest)
          simp [none] at text
        rw [split] at pieces
        rw [List.cons_append, splitInclusive, if_neg ends, pieces, splitInclusive, if_neg ends, split]
        rfl

end

section
variable {A : Type}

-- separating at two kinds of separator is separating at one, then each part at the other
theorem splitOnP_or (first second : A → Bool) (text : List A) :
    text.splitOnP (fun c => first c || second c) =
      (text.splitOnP second).flatMap (List.splitOnP first) := by
  induction text with
  | nil => simp
  | cons c rest ih =>
    obtain ⟨line, lines, split⟩ := List.exists_cons_of_ne_nil (List.splitOnP_ne_nil second rest)
    rw [split, List.flatMap_cons] at ih
    obtain ⟨piece, pieces, cut⟩ := List.exists_cons_of_ne_nil (List.splitOnP_ne_nil first line)
    by_cases ends : second c
    · simp [List.splitOnP_cons_eq_if_modifyHead, ends, split, ih]
    · by_cases breaks : first c <;>
        simp [List.splitOnP_cons_eq_if_modifyHead, ends, breaks, split, ih, cut]

theorem head?_splitOnP (ends : A → Bool) (text : List A) :
    (text.splitOnP ends).head? = some (text.takeWhile fun c => !ends c) := by
  induction text with
  | nil => simp
  | cons c rest ih =>
    rw [List.splitOnP_cons_eq_if_modifyHead]
    by_cases stop : ends c
    · simp [stop]
    · simp [stop, List.head?_modifyHead, ih]

variable {ends : A → Bool}

/-- The parts are made of characters of the text, and of no separator. -/
theorem of_mem_splitOnP {text part : List A} (member : part ∈ text.splitOnP ends) :
    ∀ c ∈ part, c ∈ text ∧ ends c = false := by
  induction text generalizing part with
  | nil =>
    rw [List.splitOnP_nil, List.mem_singleton] at member
    subst member
    simp
  | cons first rest ih =>
    have wider {part : List A} (inner : part ∈ rest.splitOnP ends) : ∀ c ∈ part, c ∈ first :: rest ∧ ends c = false :=
      fun c inside => ⟨List.mem_cons_of_mem _ (ih inner c inside).1, (ih inner c inside).2⟩
    rw [List.splitOnP_cons_eq_if_modifyHead] at member
    split at member
    · rcases List.mem_cons.mp member with rfl | inner
      · simp
      · exact wider inner
    · rename_i ink
      obtain ⟨head, tail, parts⟩ := List.exists_cons_of_ne_nil (List.splitOnP_ne_nil ends rest)
      rw [parts] at member wider
      rcases List.mem_cons.mp member with rfl | inner
      · intro c inside
        rcases List.mem_cons.mp inside with rfl | inside
        · exact ⟨List.mem_cons_self, (Bool.not_eq_true _).mp ink⟩
        · exact wider List.mem_cons_self c inside
      · exact wider (List.mem_cons_of_mem _ inner)

/-- After a text that is empty or ends at a separator, the parts of what follows
are the last parts of the whole. -/
theorem exists_splitOnP_append {before : List A} (closed : before = [] ∨ ∃ c ∈ before.getLast?, ends c = true) :
    ∃ earlier, ∀ rest, (before ++ rest).splitOnP ends = earlier ++ rest.splitOnP ends := by
  rcases closed with rfl | ⟨c, last, stop⟩
  · exact ⟨[], fun rest => rfl⟩
  · obtain ⟨start, rfl⟩ := List.getLast?_eq_some_iff.mp last
    refine ⟨start.splitOnP ends, fun rest => ?_⟩
    rw [List.append_assoc, List.singleton_append, List.splitOnP_append_cons start rest stop]

/-- Reading back lines that were written with two separators after each. -/
theorem splitOnP_terminated {first second : A} (firstEnds : ends first = true) (secondEnds : ends second = true)
    {lines : List (List A)} (plain : ∀ line ∈ lines, ∀ c ∈ line, ends c = false) :
    (lines.flatMap fun line => line ++ [first, second]).splitOnP ends =
      (lines.flatMap fun line => [line, []]) ++ [[]] := by
  induction lines with
  | nil => rfl
  | cons line rest ih =>
    have shape : ((line :: rest).flatMap fun line => line ++ [first, second]) =
        line ++ first :: ([] ++ second :: rest.flatMap fun line => line ++ [first, second]) := by simp
    rw [shape, List.splitOnP_append_cons_of_forall_mem (plain line List.mem_cons_self) _ firstEnds,
      List.splitOnP_append_cons_of_forall_mem (by simp) _ secondEnds,
      ih fun other member => plain other (List.mem_cons_of_mem _ member)]
    rfl

end

def eqIgnoreAsciiCase (left right : List Char) : Bool :=
  left.map Char.toLower == right.map Char.toLower

variable {right left : List Char}

theorem eqIgnoreAsciiCase_iff :
    eqIgnoreAsciiCase left right = true ↔ left.map Char.toLower = right.map Char.toLower := by
  simp [eqIgnoreAsciiCase]

theorem eqIgnoreAsciiCase_comm (left right : List Char) :
    eqIgnoreAsciiCase left right = eqIgnoreAsciiCase right left := by
  rw [Bool.eq_iff_iff, eqIgnoreAsciiCase_iff, eqIgnoreAsciiCase_iff, eq_comm]

variable {c : Char}

-- no ASCII letter is whitespace
theorem ink_of_letter (lower : 0x41 ≤ c.toNat) (upper : c.toNat ≤ 0x7a) : isWhitespace c = false := by
  simp only [isWhitespace, Bool.or_eq_false_iff, Bool.and_eq_false_iff, decide_eq_false_iff_not,
    beq_eq_false_iff_ne]
  omega

theorem ink_of_isDigit (digit : c.isDigit = true) : isWhitespace c = false := by
  rw [Char.isDigit, Bool.and_eq_true, decide_eq_true_iff, decide_eq_true_iff] at digit
  have lower : 48 ≤ c.toNat := digit.1
  have upper : c.toNat ≤ 57 := digit.2
  simp only [isWhitespace, Bool.or_eq_false_iff, Bool.and_eq_false_iff, decide_eq_false_iff_not,
    beq_eq_false_iff_ne]
  omega

theorem isWhitespace_toLower (c : Char) : isWhitespace c.toLower = isWhitespace c := by
  by_cases upper : c.val ≥ 'A'.val ∧ c.val ≤ 'Z'.val
  · have bounds : 65 ≤ c.toNat ∧ c.toNat ≤ 90 := by
      simpa [UInt32.le_iff_toNat_le] using upper
    have value : c.toLower.val = c.val + ('a'.val - 'A'.val) := congrArg Char.val (dif_pos upper)
    have shifted : c.toLower.toNat = c.toNat + 32 := by
      have top := bounds.2
      simp only [Char.toNat] at top
      simp only [Char.toNat, value, UInt32.toNat_add]
      simp only [Char.reduceVal, UInt32.reduceSub, UInt32.reduceToNat]
      omega
    rw [ink_of_letter (by omega) (by omega), ink_of_letter (by omega) (by omega)]
  · have kept : c.toLower = c := dif_neg upper
    rw [kept]

-- the case of a text says nothing about its whitespace
theorem ink_of_eqIgnoreAsciiCase (same : eqIgnoreAsciiCase left right = true)
    (ink : ∀ c ∈ left, isWhitespace c = false) : ∀ c ∈ right, isWhitespace c = false := by
  rw [eqIgnoreAsciiCase_iff] at same
  intro c member
  have lowered : c.toLower ∈ left.map Char.toLower := same ▸ List.mem_map_of_mem member
  obtain ⟨d, inLeft, lower⟩ := List.mem_map.mp lowered
  rw [← isWhitespace_toLower, ← lower, isWhitespace_toLower]
  exact ink d inLeft

theorem ne_nil_of_eqIgnoreAsciiCase (same : eqIgnoreAsciiCase left right = true) (nonempty : left ≠ []) :
    right ≠ [] := by
  rintro rfl
  rw [eqIgnoreAsciiCase_iff] at same
  exact nonempty (List.map_eq_nil_iff.mp same)

/-! ## Decimal numbers -/

inductive ParseIntError where
  | empty
  | invalidDigit
  | posOverflow
  deriving DecidableEq, Repr

-- the texts of `ParseIntError`'s Display
def ParseIntError.text : ParseIntError → String
  | .empty => "cannot parse integer from empty string"
  | .invalidDigit => "invalid digit found in string"
  | .posOverflow => "number too large to fit in target type"

def parseDigits (limit : Nat) (value : Nat) : List Char → Except ParseIntError Nat
  | [] => .ok value
  | c :: rest =>
    if c.isDigit then
      let next := 10 * value + (c.toNat - '0'.toNat)
      if next < limit then parseDigits limit next rest else .error .posOverflow
    else .error .invalidDigit

/-- `str::parse` at an unsigned type with `limit` values: one leading `+` is allowed. -/
def parseUnsigned (limit : Nat) (text : List Char) : Except ParseIntError Nat :=
  match text with
  | [] => .error .empty
  | ['+'] => .error .invalidDigit
  | '+' :: rest => parseDigits limit 0 rest
  | digits => parseDigits limit 0 digits

theorem le_ofDigitChars (digits : List Char) (value : Nat) :
    value ≤ Nat.ofDigitChars 10 digits value := by
  induction digits generalizing value with
  | nil => simp
  | cons c rest ih =>
    rw [Nat.ofDigitChars_cons]
    exact Nat.le_trans (by omega) (ih _)

variable {limit : Nat}

theorem parseDigits_eq {value : Nat} {digits : List Char} (all : ∀ c ∈ digits, c.isDigit = true)
    (fits : Nat.ofDigitChars 10 digits value < limit) :
    parseDigits limit value digits = .ok (Nat.ofDigitChars 10 digits value) := by
  induction digits generalizing value with
  | nil => simp [parseDigits]
  | cons c rest ih =>
    rw [Nat.ofDigitChars_cons] at fits ⊢
    have bound := Nat.lt_of_le_of_lt (le_ofDigitChars rest _) fits
    simp only [parseDigits, all c (by simp), if_true, bound]
    exact ih (fun d member => all d (by simp [member])) fits

theorem parseUnsigned_digits {digits : List Char} (nonempty : digits ≠ []) (all : ∀ c ∈ digits, c.isDigit = true) :
    parseUnsigned limit digits = parseDigits limit 0 digits := by
  unfold parseUnsigned
  split
  · exact absurd rfl nonempty
  · exact absurd (all '+' (by simp)) (by decide)
  · exact absurd (all '+' (by simp)) (by decide)
  · rfl

/-- One or more digits that denote the number. -/
structure Decimal (text : List Char) (number : Nat) : Prop where
  nonempty : text ≠ []
  digits : ∀ c ∈ text, c.isDigit = true
  denotes : Nat.ofDigitChars 10 text 0 = number

variable {number : Nat} {text : List Char}

theorem parseDigits_eq_ok {value : Nat} (read : parseDigits limit value text = .ok number) :
    (∀ c ∈ text, c.isDigit = true) ∧ Nat.ofDigitChars 10 text value = number := by
  induction text generalizing value with
  | nil =>
    simp only [parseDigits, Except.ok.injEq] at read
    simp [read]
  | cons c rest ih =>
    simp only [parseDigits] at read
    split at read
    · rename_i digit
      split at read
      · obtain ⟨digits, denotes⟩ := ih read
        rw [Nat.ofDigitChars_cons]
        exact ⟨List.forall_mem_cons.mpr ⟨digit, digits⟩, denotes⟩
      · cases read
    · cases read

/-- A text that reads as a number is its digits, or a plus sign and digits. -/
theorem parseUnsigned_eq_ok (read : parseUnsigned limit text = .ok number) :
    Decimal text number ∨ ∃ rest, text = '+' :: rest ∧ Decimal rest number := by
  unfold parseUnsigned at read
  split at read
  · cases read
  · cases read
  · rename_i rest alone
    obtain ⟨digits, denotes⟩ := parseDigits_eq_ok read
    exact .inr ⟨rest, rfl, fun empty => alone (by rw [empty]), digits, denotes⟩
  · rename_i empty _ _
    obtain ⟨digits, denotes⟩ := parseDigits_eq_ok read
    exact .inl ⟨empty, digits, denotes⟩

theorem Decimal.unsigned {rest : List Char} (decimal : Decimal text number) : text ≠ '+' :: rest := by
  rintro rfl
  exact absurd (decimal.digits '+' List.mem_cons_self) (by decide)

theorem isDigit_of_mem_repr (member : c ∈ number.repr.toList) : c.isDigit = true := by
  rw [Nat.toList_repr] at member
  exact Nat.isDigit_of_mem_toDigits (by decide) (by decide) member

theorem not_mem_repr (other : c.isDigit = false) (number : Nat) : c ∉ number.repr.toList := by
  intro member
  rw [isDigit_of_mem_repr member] at other
  cases other

/-- Reading back the decimal text of a number. -/
theorem parseUnsigned_repr (fits : number < limit) : parseUnsigned limit number.repr.toList = .ok number := by
  have all : ∀ c ∈ number.repr.toList, c.isDigit = true := fun c => isDigit_of_mem_repr
  have nonempty : number.repr.toList ≠ [] := by
    rw [Nat.toList_repr]
    exact Nat.toDigits_ne_nil
  rw [parseUnsigned_digits nonempty all]
  rw [Nat.toList_repr] at all ⊢
  rw [parseDigits_eq all (by simpa using fits), Nat.ofDigitChars_ten_toDigits]

end Nethernet.Foundation
