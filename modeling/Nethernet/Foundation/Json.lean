import Mathlib.Data.List.Basic

/-! JSON texts: the grammar of RFC 8259 as a relation between a text and the value it denotes,
and a reader that finds the value of every text of the grammar.

A number is kept as it is written. A string whose escapes do not spell characters denotes nothing. -/

set_option autoImplicit false

namespace Nethernet.Foundation

inductive JsonValue where
  | null
  | bool (value : Bool)
  | number (literal : List Char)
  | string (text : List Char)
  | array (items : List JsonValue)
  | object (members : List (List Char × JsonValue))

variable {text : List Char} {json : JsonValue} {rest literal body key after : List Char}
  {list : List (List Char × JsonValue)} {more : List Char} {first : Char} {items : List JsonValue}

namespace JsonText

/-! ## Blanks and numbers -/

def isBlank (c : Char) : Bool := c == ' ' || c == '\t' || c == '\n' || c == '\r'

def Blank (pad : List Char) : Prop := ∀ c ∈ pad, isBlank c = true

def skipBlanks (text : List Char) : List Char := text.dropWhile isBlank

def isDigits (text : List Char) : Bool := !text.isEmpty && text.all Char.isDigit

def isExponent : List Char → Bool
  | [] => true
  | mark :: '+' :: digits | mark :: '-' :: digits | mark :: digits => (mark == 'e' || mark == 'E') && isDigits digits

def isFraction : List Char → Bool
  | '.' :: rest => isDigits (rest.takeWhile Char.isDigit) && isExponent (rest.dropWhile Char.isDigit)
  | rest => isExponent rest

-- no zero stands in front of other digits
def isUnsigned : List Char → Bool
  | '0' :: rest => isFraction rest
  | first :: rest => first.isDigit && isFraction (rest.dropWhile Char.isDigit)
  | [] => false

def isNumber : List Char → Bool
  | '-' :: rest => isUnsigned rest
  | literal => isUnsigned literal

/-! ## Strings -/

def shortEscape : Char → Option Char
  | '"' => some '"'
  | '\\' => some '\\'
  | '/' => some '/'
  | 'b' => some '\x08'
  | 'f' => some '\x0c'
  | 'n' => some '\n'
  | 'r' => some '\r'
  | 't' => some '\t'
  | _ => none

def hexValue (c : Char) : Option Nat :=
  if c.isDigit then some (c.toNat - 0x30)
  else if 'a' ≤ c ∧ c ≤ 'f' then some (c.toNat - 0x57)
  else if 'A' ≤ c ∧ c ≤ 'F' then some (c.toNat - 0x37)
  else none

def codeUnit (a b c d : Char) : Option Nat := do
  return ((← hexValue a) * 16 + (← hexValue b)) * 256 + ((← hexValue c) * 16 + (← hexValue d))

-- the character of a surrogate pair
def pairChar (high low : Nat) : Char := Char.ofNat (0x10000 + (high - 0xd800) * 0x400 + (low - 0xdc00))

def IsPair (high low : Nat) : Prop := (0xd800 ≤ high ∧ high < 0xdc00) ∧ (0xdc00 ≤ low ∧ low < 0xe000)

instance (high low : Nat) : Decidable (IsPair high low) := inferInstanceAs (Decidable (_ ∧ _))

/-- The ways to write one character of a string. -/
inductive Spells : List Char → Char → Prop
  | plain {c : Char} (printable : 0x20 ≤ c.toNat) (unquoted : c ≠ '"') (unescaped : c ≠ '\\') : Spells [c] c
  | short {code c : Char} (named : shortEscape code = some c) : Spells ['\\', code] c
  | unit {a b c d : Char} {unit : Nat} (read : codeUnit a b c d = some unit) (valid : unit.isValidChar) :
      Spells ['\\', 'u', a, b, c, d] (Char.ofNat unit)
  | pair {a b c d e f g h : Char} {high low : Nat} (first : codeUnit a b c d = some high)
      (second : codeUnit e f g h = some low) (pairs : IsPair high low) :
      Spells ['\\', 'u', a, b, c, d, '\\', 'u', e, f, g, h] (pairChar high low)

inductive StringBody : List Char → List Char → Prop
  | nil : StringBody [] []
  | cons {spelling body text : List Char} {c : Char} (spells : Spells spelling c) (rest : StringBody body text) :
      StringBody (spelling ++ body) (c :: text)

/-! ## The grammar -/

inductive Node where
  | value (json : JsonValue)
  | element (json : JsonValue)
  | elements (items : List JsonValue)
  | member (key : List Char) (json : JsonValue)
  | members (list : List (List Char × JsonValue))

/-- What a text denotes, as a value, as a value between blanks, or as what stands between brackets. -/
inductive Denotes : List Char → Node → Prop
  | null : Denotes ['n', 'u', 'l', 'l'] (.value .null)
  | yes : Denotes ['t', 'r', 'u', 'e'] (.value (.bool true))
  | no : Denotes ['f', 'a', 'l', 's', 'e'] (.value (.bool false))
  | number {literal : List Char} (valid : isNumber literal = true) : Denotes literal (.value (.number literal))
  | string {body text : List Char} (spelt : StringBody body text) : Denotes ('"' :: body ++ ['"']) (.value (.string text))
  | emptyArray {pad : List Char} (blank : Blank pad) : Denotes ('[' :: pad ++ [']']) (.value (.array []))
  | array {text : List Char} {items : List JsonValue} (inner : Denotes text (.elements items)) :
      Denotes ('[' :: text ++ [']']) (.value (.array items))
  | emptyObject {pad : List Char} (blank : Blank pad) : Denotes ('\x7b' :: pad ++ ['\x7d']) (.value (.object []))
  | object {text : List Char} {list : List (List Char × JsonValue)} (inner : Denotes text (.members list)) :
      Denotes ('\x7b' :: text ++ ['\x7d']) (.value (.object list))
  | element {before text after : List Char} {json : JsonValue} (leads : Blank before)
      (inner : Denotes text (.value json)) (trails : Blank after) : Denotes (before ++ text ++ after) (.element json)
  | lastElement {text : List Char} {json : JsonValue} (last : Denotes text (.element json)) :
      Denotes text (.elements [json])
  | elements {text more : List Char} {json : JsonValue} {items : List JsonValue} (first : Denotes text (.element json))
      (rest : Denotes more (.elements items)) : Denotes (text ++ ',' :: more) (.elements (json :: items))
  | member {before body key after text : List Char} {json : JsonValue} (leads : Blank before)
      (spelt : StringBody body key) (trails : Blank after) (inner : Denotes text (.element json)) :
      Denotes (before ++ '"' :: body ++ '"' :: after ++ ':' :: text) (.member key json)
  | lastMember {text key : List Char} {json : JsonValue} (last : Denotes text (.member key json)) :
      Denotes text (.members [(key, json)])
  | members {text more key : List Char} {json : JsonValue} {list : List (List Char × JsonValue)}
      (first : Denotes text (.member key json)) (rest : Denotes more (.members list)) :
      Denotes (text ++ ',' :: more) (.members ((key, json) :: list))

/-! ## Reading -/

def isNumberChar (c : Char) : Bool := c.isDigit || c == '+' || c == '-' || c == '.' || c == 'e' || c == 'E'

def readNumber (text : List Char) : Option (JsonValue × List Char) :=
  let literal := text.takeWhile isNumberChar
  if isNumber literal then some (.number literal, text.dropWhile isNumberChar) else none

def readLow (high : Nat) : List Char → Option (Char × List Char)
  | '\\' :: 'u' :: a :: b :: c :: d :: rest =>
    (codeUnit a b c d).bind fun low => if IsPair high low then some (pairChar high low, rest) else none
  | _ => none

def readChar : List Char → Option (Char × List Char)
  | '\\' :: 'u' :: a :: b :: c :: d :: rest =>
    (codeUnit a b c d).bind fun unit => if unit.isValidChar then some (Char.ofNat unit, rest) else readLow unit rest
  | '\\' :: code :: rest => (shortEscape code).map (·, rest)
  | c :: rest => if c = '"' ∨ c = '\\' ∨ c.toNat < 0x20 then none else some (c, rest)
  | [] => none

def readString : Nat → List Char → Option (List Char × List Char)
  | 0, _ => none
  | _ + 1, '"' :: rest => some ([], rest)
  | fuel + 1, text =>
    (readChar text).bind fun (c, rest) => (readString fuel rest).map fun (text, rest) => (c :: text, rest)

mutual

def readValue : Nat → List Char → Option (JsonValue × List Char)
  | 0, _ => none
  | fuel + 1, text =>
    match text with
    | 'n' :: 'u' :: 'l' :: 'l' :: rest => some (.null, rest)
    | 't' :: 'r' :: 'u' :: 'e' :: rest => some (.bool true, rest)
    | 'f' :: 'a' :: 'l' :: 's' :: 'e' :: rest => some (.bool false, rest)
    | '"' :: rest => (readString (rest.length + 1) rest).map fun (text, rest) => (.string text, rest)
    | '[' :: rest =>
      match skipBlanks rest with
      | ']' :: rest => some (.array [], rest)
      | _ => (readElements fuel rest).map fun (items, rest) => (.array items, rest)
    | '\x7b' :: rest =>
      match skipBlanks rest with
      | '\x7d' :: rest => some (.object [], rest)
      | _ => (readMembers fuel rest).map fun (list, rest) => (.object list, rest)
    | _ => readNumber text

def readElement : Nat → List Char → Option (JsonValue × List Char)
  | 0, _ => none
  | fuel + 1, text => (readValue fuel (skipBlanks text)).map fun (json, rest) => (json, skipBlanks rest)

def readElements : Nat → List Char → Option (List JsonValue × List Char)
  | 0, _ => none
  | fuel + 1, text => (readElement fuel text).bind fun (json, rest) =>
    match rest with
    | ',' :: rest => (readElements fuel rest).map fun (items, rest) => (json :: items, rest)
    | ']' :: rest => some ([json], rest)
    | _ => none

def readMember : Nat → List Char → Option ((List Char × JsonValue) × List Char)
  | 0, _ => none
  | fuel + 1, text =>
    match skipBlanks text with
    | '"' :: rest => (readString (rest.length + 1) rest).bind fun (key, rest) =>
      match skipBlanks rest with
      | ':' :: rest => (readElement fuel rest).map fun (json, rest) => ((key, json), rest)
      | _ => none
    | _ => none

def readMembers : Nat → List Char → Option (List (List Char × JsonValue) × List Char)
  | 0, _ => none
  | fuel + 1, text => (readMember fuel text).bind fun (member, rest) =>
    match rest with
    | ',' :: rest => (readMembers fuel rest).map fun (list, rest) => (member :: list, rest)
    | '\x7d' :: rest => some ([member], rest)
    | _ => none

end

def read (text : List Char) : Option JsonValue :=
  match readElement (4 * text.length + 2) text with
  | some (json, []) => some json
  | _ => none

/-! ## Every text is read -/

theorem skipBlanks_append {pad : List Char} (blank : Blank pad) (stops : ∀ c ∈ rest.head?, isBlank c = false) :
    skipBlanks (pad ++ rest) = rest := by
  rw [skipBlanks, List.dropWhile_append_of_pos blank]
  cases rest with
  | nil => rfl
  | cons c rest => simp [stops c rfl]

theorem numberChars_digits (digits : ∀ c ∈ text, c.isDigit = true) : ∀ c ∈ text, isNumberChar c = true := by
  intro c member
  simp [isNumberChar, digits c member]

theorem numberChars_run (rest : ∀ c ∈ text.dropWhile Char.isDigit, isNumberChar c = true) :
    ∀ c ∈ text, isNumberChar c = true := by
  rw [← List.takeWhile_append_dropWhile (p := Char.isDigit) (l := text), List.forall_mem_append]
  exact ⟨numberChars_digits (List.all_eq_true.mp List.all_takeWhile), rest⟩

theorem numberChars_exponent (valid : isExponent text = true) : ∀ c ∈ text, isNumberChar c = true := by
  have marked {mark : Char} {digits : List Char} (valid : ((mark == 'e' || mark == 'E') && isDigits digits) = true) :
      isNumberChar mark = true ∧ ∀ c ∈ digits, isNumberChar c = true := by
    simp only [isDigits, Bool.and_eq_true, Bool.or_eq_true, beq_iff_eq, List.all_eq_true] at valid
    obtain ⟨mark, -, digits⟩ := valid
    refine ⟨?_, numberChars_digits digits⟩
    rcases mark with rfl | rfl <;> decide
  unfold isExponent at valid
  split at valid
  · exact nofun
  · obtain ⟨mark, digits⟩ := marked valid
    exact List.forall_mem_cons.mpr ⟨mark, List.forall_mem_cons.mpr ⟨by decide, digits⟩⟩
  · obtain ⟨mark, digits⟩ := marked valid
    exact List.forall_mem_cons.mpr ⟨mark, List.forall_mem_cons.mpr ⟨by decide, digits⟩⟩
  · exact List.forall_mem_cons.mpr (marked valid)

theorem numberChars_fraction (valid : isFraction text = true) : ∀ c ∈ text, isNumberChar c = true := by
  unfold isFraction at valid
  split at valid
  · rw [Bool.and_eq_true] at valid
    exact List.forall_mem_cons.mpr ⟨by decide, numberChars_run (numberChars_exponent valid.2)⟩
  · exact numberChars_exponent valid

theorem numberChars_unsigned (valid : isUnsigned text = true) : ∀ c ∈ text, isNumberChar c = true := by
  unfold isUnsigned at valid
  split at valid
  · exact List.forall_mem_cons.mpr ⟨by decide, numberChars_fraction valid⟩
  · rw [Bool.and_eq_true] at valid
    refine List.forall_mem_cons.mpr ⟨?_, numberChars_run (numberChars_fraction valid.2)⟩
    simp [isNumberChar, valid.1]
  · cases valid

theorem numberChars_number (valid : isNumber literal = true) : ∀ c ∈ literal, isNumberChar c = true := by
  unfold isNumber at valid
  split at valid
  · exact List.forall_mem_cons.mpr ⟨by decide, numberChars_unsigned valid⟩
  · exact numberChars_unsigned valid

theorem readNumber_append (valid : isNumber literal = true) (stops : ∀ c ∈ rest.head?, isNumberChar c = false) :
    readNumber (literal ++ rest) = some (.number literal, rest) := by
  have chars := numberChars_number valid
  have taken : (literal ++ rest).takeWhile isNumberChar = literal := by
    rw [List.takeWhile_append_of_pos chars]
    cases rest with
    | nil => simp
    | cons c rest => simp [stops c rfl]
  have dropped : (literal ++ rest).dropWhile isNumberChar = rest := by
    rw [List.dropWhile_append_of_pos chars]
    cases rest with
    | nil => rfl
    | cons c rest => simp [stops c rfl]
  rw [readNumber, taken, dropped, if_pos valid]

theorem readChar_append {spelling : List Char} {c : Char} (spells : Spells spelling c) (rest : List Char) :
    readChar (spelling ++ rest) = some (c, rest) := by
  cases spells with
  | plain printable unquoted unescaped =>
    rw [List.singleton_append]
    unfold readChar
    split
    · rename_i same
      exact absurd (List.cons.inj same).1 unescaped
    · rename_i same
      exact absurd (List.cons.inj same).1 unescaped
    · rename_i same
      cases same
      rw [if_neg]
      simp [unquoted, unescaped, printable]
    · rename_i same
      cases same
  | @short code c named =>
    have other : code ≠ 'u' := by
      rintro rfl
      cases named
    rw [List.cons_append, List.singleton_append]
    unfold readChar
    split
    · rename_i same
      exact absurd (List.cons.inj (List.cons.inj same).2).1 other
    · rename_i same
      cases same
      rw [named]
      rfl
    · rename_i unmatched same
      cases same
      exact (unmatched code rest rfl rfl).elim
    · rename_i same
      cases same
  | unit read valid => simp [readChar, read, valid]
  | @pair _ _ _ _ _ _ _ _ high low first second pairs =>
    have surrogate : ¬ high.isValidChar := by
      unfold IsPair at pairs
      unfold Nat.isValidChar
      omega
    simp [readChar, first, surrogate, readLow, second, pairs]

theorem Spells.length_pos {spelling : List Char} {c : Char} (spells : Spells spelling c) : 0 < spelling.length := by
  cases spells <;> simp

theorem readString_of_char {c : Char} (read : readChar text = some (c, rest)) (fuel : Nat) :
    readString (fuel + 1) text = (readString fuel rest).map fun (text, rest) => (c :: text, rest) := by
  have unquoted : ∀ more, text = '"' :: more → False := by
    rintro more rfl
    simp [readChar] at read
  rw [readString.eq_3 text fuel unquoted, read, Option.bind_some]

theorem readString_append (spelt : StringBody body text) {fuel : Nat} (enough : body.length < fuel) (rest : List Char) :
    readString fuel (body ++ '"' :: rest) = some (text, rest) := by
  induction spelt generalizing fuel with
  | nil =>
    obtain ⟨fuel, rfl⟩ := Nat.exists_eq_succ_of_ne_zero (Nat.ne_of_gt enough)
    rfl
  | @cons spelling body text c spells spelt ih =>
    obtain ⟨fuel, rfl⟩ := Nat.exists_eq_succ_of_ne_zero (Nat.ne_of_gt (Nat.lt_of_le_of_lt (Nat.zero_le _) enough))
    have shorter : body.length < fuel := by
      have some := spells.length_pos
      rw [List.length_append] at enough
      omega
    rw [List.append_assoc, readString_of_char (readChar_append spells _), ih shorter]
    rfl

/-! ### How texts open -/

theorem unsigned_head (valid : isUnsigned text = true) : ∃ first more, text = first :: more ∧ first.isDigit = true := by
  unfold isUnsigned at valid
  split at valid
  · exact ⟨_, _, rfl, by decide⟩
  · rw [Bool.and_eq_true] at valid
    exact ⟨_, _, rfl, valid.1⟩
  · cases valid

theorem number_head (valid : isNumber literal = true) :
    ∃ first more, literal = first :: more ∧ (first = '-' ∨ first.isDigit = true) := by
  unfold isNumber at valid
  split at valid
  · exact ⟨_, _, rfl, .inl rfl⟩
  · obtain ⟨first, more, rfl, digit⟩ := unsigned_head valid
    exact ⟨first, more, rfl, .inr digit⟩

/-- A character that is no blank and closes nothing. -/
def isInk (c : Char) : Bool := !isBlank c && c != ']' && c != '\x7d'

theorem number_ink (head : first = '-' ∨ first.isDigit = true) : isInk first = true := by
  rcases head with rfl | digit
  · decide
  · by_contra other
    simp only [isInk, isBlank, Bool.not_eq_true, Bool.and_eq_false_iff, Bool.not_eq_false', Bool.or_eq_true, beq_iff_eq,
      bne_eq_false_iff_eq] at other
    rcases other with ((((rfl | rfl) | rfl) | rfl) | rfl) | rfl <;> exact absurd digit (by decide)

theorem value_head (denotes : Denotes text (.value json)) :
    ∃ first more, text = first :: more ∧ isInk first = true := by
  cases denotes with
  | number valid =>
    obtain ⟨first, more, rfl, head⟩ := number_head valid
    exact ⟨first, more, rfl, number_ink head⟩
  | _ => exact ⟨_, _, rfl, by decide⟩

def Opens (text : List Char) : Prop := ∃ pad first more, text = pad ++ first :: more ∧ Blank pad ∧ isInk first = true

theorem Opens.append (opens : Opens text) (rest : List Char) : Opens (text ++ rest) := by
  obtain ⟨pad, first, more, rfl, blank, ink⟩ := opens
  exact ⟨pad, first, more ++ rest, by simp, blank, ink⟩

/-- Behind its blanks the text of a node opens with ink. -/
theorem Denotes.opens {node : Node} (denotes : Denotes text node) : Opens text := by
  induction denotes with
  | @element before text after json leads inner trails =>
    obtain ⟨first, more, rfl, ink⟩ := value_head inner
    have opens : Opens (before ++ first :: more) := ⟨before, first, more, rfl, leads, ink⟩
    exact opens.append after
  | lastElement last ih => exact ih
  | lastMember last ih => exact ih
  | elements head tail ih => exact ih.append _
  | members head tail ih => exact ih.append _
  | @member before body key after text json leads spelt trails inner =>
    have opens : Opens (before ++ '"' :: body) := ⟨before, '"', body, rfl, leads, by decide⟩
    exact (opens.append _).append _
  | number valid =>
    obtain ⟨first, more, rfl, ink⟩ := value_head (.number valid)
    exact ⟨[], first, more, rfl, nofun, ink⟩
  | _ => exact ⟨[], _, _, rfl, nofun, by decide⟩

theorem skipBlanks_opens (opens : Opens text) :
    ∃ first more, skipBlanks text = first :: more ∧ first ≠ ']' ∧ first ≠ '\x7d' := by
  obtain ⟨pad, first, more, rfl, blank, ink⟩ := opens
  simp only [isInk, Bool.and_eq_true, Bool.not_eq_true', bne_iff_ne, ne_eq] at ink
  refine ⟨first, more, skipBlanks_append blank ?_, ink.1.2, ink.2⟩
  rintro c ⟨⟩
  exact ink.1.1

/-- Nothing that would be part of a number follows. -/
def Stops (rest : List Char) : Prop := ∀ c ∈ rest.head?, isNumberChar c = false

/-- What may follow a value and its blanks. -/
def Closes (rest : List Char) : Prop := ∀ c ∈ rest.head?, c = ',' ∨ c = ']' ∨ c = '\x7d'

def Complete (text : List Char) : Node → Prop
  | .value json => ∀ fuel rest, 4 * text.length < fuel → Stops rest → readValue fuel (text ++ rest) = some (json, rest)
  | .element json =>
    ∀ fuel rest, 4 * text.length + 1 < fuel → Closes rest → readElement fuel (text ++ rest) = some (json, rest)
  | .elements items =>
    ∀ fuel rest, 4 * text.length + 2 < fuel → readElements fuel (text ++ ']' :: rest) = some (items, rest)
  | .member key json =>
    ∀ fuel rest, 4 * text.length + 2 < fuel → Closes rest → readMember fuel (text ++ rest) = some ((key, json), rest)
  | .members list =>
    ∀ fuel rest, 4 * text.length + 3 < fuel → readMembers fuel (text ++ '\x7d' :: rest) = some (list, rest)

theorem readValue_number (head : first = '-' ∨ first.isDigit = true) (fuel : Nat) (more : List Char) :
    readValue (fuel + 1) (first :: more) = readNumber (first :: more) := by
  have other {c : Char} (plain : c ≠ '-') (letter : c.isDigit = false) : first ≠ c := by
    rintro rfl
    rcases head with same | digit
    · exact plain same
    · rw [letter] at digit
      cases digit
  have differs {c : Char} {rest : List Char} (plain : c ≠ '-') (letter : c.isDigit = false) :
      first :: more ≠ c :: rest := fun same => other plain letter (List.cons.inj same).1
  -- none of the other openings applies
  rw [readValue]
  all_goals exact fun _ => differs (by decide) (by decide)

theorem complete_number (valid : isNumber literal = true) : Complete literal (.value (.number literal)) := by
  intro fuel rest enough stops
  obtain _ | fuel := fuel
  · cases enough
  have read := readNumber_append valid stops
  obtain ⟨first, more, rfl, head⟩ := number_head valid
  rw [List.cons_append] at read ⊢
  rw [readValue_number head, read]

theorem complete_string (spelt : StringBody body text) : Complete ('"' :: body ++ ['"']) (.value (.string text)) := by
  intro fuel rest enough _
  obtain _ | fuel := fuel
  · cases enough
  have long : body.length < (body ++ '"' :: rest).length + 1 := by
    rw [List.length_append]
    omega
  rw [List.cons_append, List.cons_append, List.append_assoc, List.singleton_append, readValue,
    readString_append spelt long]
  rfl

theorem complete_array (denotes : Denotes text (.elements items)) (inner : Complete text (.elements items)) :
    Complete ('[' :: text ++ [']']) (.value (.array items)) := by
  intro fuel rest enough _
  obtain _ | fuel := fuel
  · cases enough
  obtain ⟨first, more, skipped, inside, -⟩ := skipBlanks_opens (denotes.opens.append (']' :: rest))
  have long : 4 * text.length + 2 < fuel := by
    simp only [List.length_append, List.length_cons] at enough
    omega
  rw [List.cons_append, List.cons_append, List.append_assoc, List.singleton_append, readValue, skipped]
  split
  · rename_i same
    exact absurd (List.cons.inj same).1 inside
  · rw [inner fuel rest long]
    rfl

theorem complete_object (denotes : Denotes text (.members list)) (inner : Complete text (.members list)) :
    Complete ('\x7b' :: text ++ ['\x7d']) (.value (.object list)) := by
  intro fuel rest enough _
  obtain _ | fuel := fuel
  · cases enough
  obtain ⟨first, more, skipped, -, inside⟩ := skipBlanks_opens (denotes.opens.append ('\x7d' :: rest))
  have long : 4 * text.length + 3 < fuel := by
    simp only [List.length_append, List.length_cons] at enough
    omega
  rw [List.cons_append, List.cons_append, List.append_assoc, List.singleton_append, readValue, skipped]
  split
  · rename_i same
    exact absurd (List.cons.inj same).1 inside
  · rw [inner fuel rest long]
    rfl

theorem Closes.unblank (closes : Closes rest) : ∀ c ∈ rest.head?, isBlank c = false := by
  intro c head
  rcases closes c head with rfl | rfl | rfl <;> decide

theorem Closes.stops (blank : Blank after) (closes : Closes rest) : Stops (after ++ rest) := by
  intro c head
  cases after with
  | nil => rcases closes c head with rfl | rfl | rfl <;> decide
  | cons first more =>
    obtain rfl : first = c := Option.some.inj head
    have space := blank first List.mem_cons_self
    simp only [isBlank, Bool.or_eq_true, beq_iff_eq] at space
    rcases space with ((rfl | rfl) | rfl) | rfl <;> decide

theorem complete_element {before : List Char} (leads : Blank before) (denotes : Denotes text (.value json))
    (trails : Blank after) (inner : Complete text (.value json)) :
    Complete (before ++ text ++ after) (.element json) := by
  intro fuel rest enough closes
  obtain _ | fuel := fuel
  · cases enough
  have long : 4 * text.length < fuel := by
    simp only [List.length_append] at enough
    omega
  have skipped : skipBlanks (before ++ (text ++ (after ++ rest))) = text ++ (after ++ rest) := by
    apply skipBlanks_append leads
    obtain ⟨first, more, rfl, ink⟩ := value_head denotes
    rintro c ⟨⟩
    simp only [isInk, Bool.and_eq_true, Bool.not_eq_true'] at ink
    exact ink.1.1
  rw [List.append_assoc, List.append_assoc, readElement, skipped, inner fuel _ long (closes.stops trails)]
  exact congrArg (fun rest => some (json, rest)) (skipBlanks_append trails closes.unblank)

theorem complete_lastElement (inner : Complete text (.element json)) : Complete text (.elements [json]) := by
  intro fuel rest enough
  obtain _ | fuel := fuel
  · cases enough
  rw [readElements, inner fuel _ (Nat.lt_of_succ_lt_succ enough) (by rintro c ⟨⟩; simp)]
  rfl

theorem complete_elements (first : Complete text (.element json)) (rest : Complete more (.elements items)) :
    Complete (text ++ ',' :: more) (.elements (json :: items)) := by
  intro fuel after enough
  obtain _ | fuel := fuel
  · cases enough
  simp only [List.length_append, List.length_cons] at enough
  have one := first fuel (',' :: (more ++ ']' :: after)) (by omega) (by rintro c ⟨⟩; simp)
  have others := rest fuel after (by omega)
  rw [List.append_assoc, List.cons_append]
  simp only [readElements, one, others, Option.bind_some, Option.map_some]

theorem complete_lastMember (inner : Complete text (.member key json)) : Complete text (.members [(key, json)]) := by
  intro fuel rest enough
  obtain _ | fuel := fuel
  · cases enough
  rw [readMembers, inner fuel _ (Nat.lt_of_succ_lt_succ enough) (by rintro c ⟨⟩; simp)]
  rfl

theorem complete_members (first : Complete text (.member key json)) (rest : Complete more (.members list)) :
    Complete (text ++ ',' :: more) (.members ((key, json) :: list)) := by
  intro fuel after enough
  obtain _ | fuel := fuel
  · cases enough
  simp only [List.length_append, List.length_cons] at enough
  have one := first fuel (',' :: (more ++ '\x7d' :: after)) (by omega) (by rintro c ⟨⟩; simp)
  have others := rest fuel after (by omega)
  rw [List.append_assoc, List.cons_append]
  simp only [readMembers, one, others, Option.bind_some, Option.map_some]

theorem complete_member {before : List Char} (leads : Blank before) (spelt : StringBody body key)
    (trails : Blank after) (inner : Complete text (.element json)) :
    Complete (before ++ '"' :: body ++ '"' :: after ++ ':' :: text) (.member key json) := by
  intro fuel rest enough closes
  obtain _ | fuel := fuel
  · cases enough
  simp only [List.length_append, List.length_cons] at enough
  simp only [List.append_assoc, List.cons_append]
  have opened : skipBlanks (before ++ '"' :: (body ++ '"' :: (after ++ ':' :: (text ++ rest)))) =
      '"' :: (body ++ '"' :: (after ++ ':' :: (text ++ rest))) := skipBlanks_append leads (by rintro c ⟨⟩; decide)
  have named : skipBlanks (after ++ ':' :: (text ++ rest)) = ':' :: (text ++ rest) :=
    skipBlanks_append trails (by rintro c ⟨⟩; decide)
  have long : body.length < (body ++ '"' :: (after ++ ':' :: (text ++ rest))).length + 1 := by
    rw [List.length_append]
    omega
  have value := inner fuel rest (by omega) closes
  simp only [readMember, opened, readString_append spelt long, named, value, Option.bind_some, Option.map_some]

theorem Denotes.complete {text : List Char} {node : Node} (denotes : Denotes text node) : Complete text node := by
  induction denotes with
  | null =>
    intro fuel rest enough _
    obtain _ | fuel := fuel
    · cases enough
    simp [readValue]
  | yes =>
    intro fuel rest enough _
    obtain _ | fuel := fuel
    · cases enough
    simp [readValue]
  | no =>
    intro fuel rest enough _
    obtain _ | fuel := fuel
    · cases enough
    simp [readValue]
  | number valid => exact complete_number valid
  | string spelt => exact complete_string spelt
  | @emptyArray pad blank =>
    intro fuel rest enough _
    obtain _ | fuel := fuel
    · cases enough
    have skipped : skipBlanks (pad ++ ']' :: rest) = ']' :: rest := skipBlanks_append blank (by rintro c ⟨⟩; decide)
    simp [readValue, skipped]
  | array inner ih => exact complete_array inner ih
  | @emptyObject pad blank =>
    intro fuel rest enough _
    obtain _ | fuel := fuel
    · cases enough
    have skipped : skipBlanks (pad ++ '\x7d' :: rest) = '\x7d' :: rest := skipBlanks_append blank (by rintro c ⟨⟩; decide)
    simp [readValue, skipped]
  | object inner ih => exact complete_object inner ih
  | element leads inner trails ih => exact complete_element leads inner trails ih
  | lastElement last ih => exact complete_lastElement ih
  | elements first rest ihFirst ihRest => exact complete_elements ihFirst ihRest
  | member leads spelt trails inner ih => exact complete_member leads spelt trails ih
  | lastMember last ih => exact complete_lastMember ih
  | members first rest ihFirst ihRest => exact complete_members ihFirst ihRest

theorem read_of_denotes (denotes : Denotes text (.element json)) : read text = some json := by
  have complete := denotes.complete (4 * text.length + 2) [] (Nat.lt_succ_self _) nofun
  rw [List.append_nil] at complete
  rw [read, complete]

/-! ## Texts without blanks -/

theorem Denotes.alone (inner : Denotes text (.value json)) : Denotes text (.element json) := by
  have padded : Denotes ([] ++ text ++ []) (.element json) := .element nofun inner nofun
  simpa using padded

theorem Denotes.named (spelt : StringBody body key) (inner : Denotes text (.value json)) :
    Denotes ('"' :: body ++ '"' :: ':' :: text) (.member key json) := by
  have padded : Denotes ([] ++ '"' :: body ++ '"' :: [] ++ ':' :: text) (.member key json) :=
    .member nofun spelt nofun inner.alone
  simpa using padded

theorem StringBody.of_plain (plain : ∀ c ∈ text, 0x20 ≤ c.toNat ∧ c ≠ '"' ∧ c ≠ '\\') : StringBody text text := by
  induction text with
  | nil => exact .nil
  | cons c rest ih =>
    rw [List.forall_mem_cons] at plain
    obtain ⟨⟨printable, unquoted, unescaped⟩, plain⟩ := plain
    exact .cons (.plain printable unquoted unescaped) (ih plain)

-- the digits of a positive number do not start with a zero
theorem toDigits_head {number : Nat} (positive : 0 < number) :
    ∃ first more, Nat.toDigits 10 number = first :: more ∧ first ≠ '0' := by
  induction number using Nat.strongRecOn with
  | ind number ih =>
    by_cases small : number < 10
    · have digit : ∀ digit < 10, 0 < digit → Nat.digitChar digit ≠ '0' := by decide
      exact ⟨_, [], Nat.toDigits_of_lt_base small, digit number small positive⟩
    · obtain ⟨first, more, digits, leads⟩ := ih (number / 10) (by omega) (by omega)
      rw [Nat.toDigits_of_base_le (by decide) (Nat.le_of_not_lt small), digits]
      exact ⟨first, _, rfl, leads⟩

theorem isUnsigned_toDigits (number : Nat) : isUnsigned (Nat.toDigits 10 number) = true := by
  have digits : ∀ c ∈ Nat.toDigits 10 number, c.isDigit = true :=
    fun c member => Nat.isDigit_of_mem_toDigits (by decide) (by decide) member
  rcases Nat.eq_zero_or_pos number with rfl | positive
  · decide
  · obtain ⟨first, more, split, leads⟩ := toDigits_head positive
    rw [split, List.forall_mem_cons] at digits
    have run : (more ++ []).dropWhile Char.isDigit = [] := List.dropWhile_append_of_pos digits.2
    rw [List.append_nil] at run
    rw [split, isUnsigned.eq_2 first more leads, digits.1, run]
    rfl

theorem isNumber_of_digit (digit : first.isDigit = true) : isNumber (first :: more) = isUnsigned (first :: more) := by
  unfold isNumber
  split
  · rename_i same
    rw [(List.cons.inj same).1] at digit
    cases digit
  · rfl

theorem denotes_repr (number : Nat) : Denotes number.repr.toList (.value (.number number.repr.toList)) := by
  apply Denotes.number
  have valid := isUnsigned_toDigits number
  rw [Nat.toList_repr]
  obtain ⟨first, more, split, digit⟩ := unsigned_head valid
  rw [split, isNumber_of_digit digit, ← split, valid]

theorem denotes_int (number : Int) : Denotes (toString number).toList (.value (.number (toString number).toList)) := by
  cases number with
  | ofNat number => exact denotes_repr number
  | negSucc number =>
    have text : (toString (Int.negSucc number)).toList = '-' :: Nat.toDigits 10 (number + 1) := by
      rw [← Nat.toList_repr]
      exact String.toList_append
    rw [text]
    exact .number (isUnsigned_toDigits (number + 1))

end JsonText

end Nethernet.Foundation
