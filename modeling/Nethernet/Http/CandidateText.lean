import Nethernet.Http.Candidates
import Nethernet.Scope

/-! Reading printed candidate lines back: a line is its tokens with one space between two of them. -/

set_option autoImplicit false

namespace Nethernet
open Foundation

-- one token of a line
abbrev Token (text : List Char) : Prop := ∀ c ∈ text, c ≠ ' '

theorem Token.append {first second : List Char} (left : Token first) (right : Token second) :
    Token (first ++ second) := by
  intro c member
  rcases List.mem_append.mp member with member | member
  · exact left c member
  · exact right c member

theorem token_toString (number : Nat) : Token (toString number).toList := by
  rintro c member rfl
  exact not_mem_repr (by decide) number member

theorem splitOn_token {first : List Char} (token : Token first) (rest : List Char) :
    (first ++ ' ' :: rest).splitOn ' ' = first :: rest.splitOn ' ' := by
  apply List.splitOnP_append_cons_of_forall_mem
  · exact fun c member => beq_eq_false_iff_ne.mpr (token c member)
  · rfl

namespace IpAddr

theorem forall_displayV4 {P : Char → Prop} (digit : ∀ c, c.isDigit = true → P c) (dot : P '.') (ip : BitVec 32) :
    ∀ c ∈ displayV4 ip, P c := by
  have octet (number : Nat) : ∀ c ∈ (toString number).toList, P c :=
    fun c member => digit c (isDigit_of_mem_repr member)
  simp only [displayV4, List.forall_mem_append, List.forall_mem_cons]
  exact ⟨⟨⟨octet _, dot, octet _⟩, dot, octet _⟩, dot, octet _⟩

theorem token_displayV4 (ip : BitVec 32) : Token (displayV4 ip) := by
  apply forall_displayV4
  · rintro c digit rfl
    cases digit
  · decide

theorem token_lowerHex (value : Nat) : Token (lowerHex value) := by
  have digit (number : Nat) : Nat.digitChar (number % 16) ≠ ' ' := by
    have all : ∀ number : Fin 16, Nat.digitChar number ≠ ' ' := by decide
    exact all ⟨number % 16, Nat.mod_lt _ (by decide)⟩
  intro c member
  rcases List.mem_append.mp member with high | low
  · have inside := (List.dropWhile_sublist _).subset high
    simp only [List.map_cons, List.map_nil, List.mem_cons, List.not_mem_nil, or_false] at inside
    rcases inside with rfl | rfl | rfl
    · exact digit _
    · exact digit _
    · exact digit _
  · rw [List.mem_singleton.mp low]
    exact digit _

theorem token_displaySegments (segments : List Nat) : Token (displaySegments segments) := by
  have colon : Token [':'] := by decide
  fun_induction displaySegments segments with
  | case1 => exact fun _ member => absurd member List.not_mem_nil
  | case2 last => exact token_lowerHex last
  | case3 first rest _ ih => exact (token_lowerHex first).append (colon.append ih)

theorem token_displayV6 (ip : BitVec 128) : Token (displayV6 ip) := by
  unfold displayV6
  split
  · have start : Token "::ffff:".toList := by decide
    exact start.append (token_displayV4 _)
  · have gap : Token "::".toList := by decide
    dsimp only
    split
    · exact (token_displaySegments _).append gap |>.append (token_displaySegments _)
    · exact token_displaySegments _

theorem token_display (address : IpAddr) : Token address.display := by
  cases address with
  | v4 ip => exact token_displayV4 ip
  | v6 ip => exact token_displayV6 ip

end IpAddr

namespace CandidateLine

/-- A line with these eight tokens first. -/
def tokenLine (foundation component transport priority address port kind rest : List Char) : List Char :=
  foundation ++ ' ' :: (component ++ ' ' :: (transport ++ ' ' :: (priority ++ ' ' :: (address ++
    ' ' :: (port ++ ' ' :: ("typ".toList ++ ' ' :: (kind ++ ' ' :: rest)))))))

theorem tryFrom_tokenLine {foundation component transport priority address kind : List Char}
    (tokens : Token foundation ∧ Token component ∧ Token transport ∧ Token priority ∧ Token address ∧ Token kind)
    {found : CandidateKind} (known : CandidateKind.fromToken kind = some found) (port : UInt16) (rest : List Char) :
    tryFrom (tokenLine foundation component transport priority address (toString port.toNat).toList kind rest) =
      .ok ⟨transport, String.ofList address, port, found⟩ := by
  obtain ⟨foundationToken, componentToken, transportToken, priorityToken, addressToken, kindToken⟩ := tokens
  have typ : Token "typ".toList := by decide
  have number : parseUnsigned (2 ^ 16) (toString port.toNat).toList = .ok port.toNat :=
    parseUnsigned_repr port.toNat_lt
  unfold tryFrom tokenLine
  rw [splitOn_token foundationToken, splitOn_token componentToken, splitOn_token transportToken,
    splitOn_token priorityToken, splitOn_token addressToken, splitOn_token (token_toString port.toNat),
    splitOn_token typ, splitOn_token kindToken]
  simp only [ne_eq, not_true_eq_false, if_false, known, number, UInt16.ofNat_toNat]

end CandidateLine

end Nethernet
