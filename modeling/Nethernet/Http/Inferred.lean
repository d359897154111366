import Nethernet.Http.CandidateText

/-! Candidates inferred from the address that a join was signaled from. -/

set_option autoImplicit false

namespace Nethernet
open Foundation

namespace CandidateLine

def maxInferred : Nat := 8
def inferredPriority : Nat := 1677721855
def inferredFoundation : UInt32 := 90000000

def inferred (index : Nat) (source : IpAddr) (port : UInt16) : String :=
  "candidate:" ++ toString (inferredFoundation + UInt32.ofNat index).toNat ++ " 1 UDP " ++
    toString inferredPriority ++ " " ++ String.ofList source.display ++ " " ++ toString port.toNat ++
    " typ srflx raddr 0.0.0.0 rport 0"

-- the loop over the candidates; a reflexive or relayed one ends it with nothing
def inferredPorts : List UInt16 → List CandidateLine → Option (List UInt16)
  | ports, [] => some ports
  | ports, candidate :: rest =>
    if candidate.kind.isReflexiveOrRelayed then none
    else if candidate.isUdp ∧ ports.length < maxInferred ∧ candidate.port ∉ ports then
      inferredPorts (ports ++ [candidate.port]) rest
    else inferredPorts ports rest

/-- Reflexive candidates pairing the signaling source address with the offer's host UDP ports, at
most eight. Empty when the source is not routable or the offer already has reflexive or relayed
candidates. -/
def inferredPeerCandidates (sdp : String) (signaledFrom : Option SocketAddr) : List String :=
  match signaledFrom.map fun address => Endpoint.normalize address.ip with
  | none => []
  | some source =>
    if Endpoint.routable source = false then []
    else
      match inferredPorts [] (candidates sdp) with
      | none => []
      | some ports => ports.zipIdx.map fun entry => inferred entry.2 source entry.1

/-! ## The ports -/

-- the ports of the UDP host candidates, in order
def udpHostPorts (candidates : List CandidateLine) : List UInt16 :=
  (candidates.filter fun candidate => candidate.kind = .host && candidate.isUdp).map (·.port)

theorem eraseDups_snoc (ports : List UInt16) (port : UInt16) :
    (ports ++ [port]).eraseDups = if port ∈ ports then ports.eraseDups else ports.eraseDups ++ [port] := by
  rw [List.eraseDups_append]
  by_cases known : port ∈ ports
  · simp [List.removeAll, known]
  · simp [List.removeAll, known, List.eraseDups_cons]

/-- What the loop does with one more UDP port. -/
theorem take_eraseDups_snoc (ports : List UInt16) (port : UInt16) :
    (ports ++ [port]).eraseDups.take maxInferred =
      if (ports.eraseDups.take maxInferred).length < maxInferred ∧ port ∉ ports.eraseDups.take maxInferred then
        ports.eraseDups.take maxInferred ++ [port]
      else ports.eraseDups.take maxInferred := by
  rw [eraseDups_snoc]
  by_cases room : ports.eraseDups.length < maxInferred
  · rw [List.take_of_length_le (Nat.le_of_lt room)]
    by_cases known : port ∈ ports
    · rw [if_pos known, if_neg fun fresh => fresh.2 (List.mem_eraseDups.mpr known),
        List.take_of_length_le (Nat.le_of_lt room)]
    · have fresh : port ∉ ports.eraseDups := fun member => known (List.mem_eraseDups.mp member)
      rw [if_neg known, if_pos ⟨room, fresh⟩, List.take_of_length_le]
      rwa [List.length_append]
  · have full : (ports.eraseDups.take maxInferred).length = maxInferred := by
      rw [List.length_take, Nat.min_eq_left (Nat.not_lt.mp room)]
    have settled : ¬ ((ports.eraseDups.take maxInferred).length < maxInferred ∧
        port ∉ ports.eraseDups.take maxInferred) := fun fresh => absurd fresh.1 (by omega)
    rw [if_neg settled]
    split
    · rfl
    · rw [List.take_append_of_le_length (Nat.not_lt.mp room)]

theorem udpHostPorts_cons (candidate : CandidateLine) (rest : List CandidateLine) :
    udpHostPorts (candidate :: rest) =
      (if candidate.kind = .host ∧ candidate.isUdp then [candidate.port] else []) ++ udpHostPorts rest := by
  unfold udpHostPorts
  by_cases host : candidate.kind = .host ∧ candidate.isUdp
  · rw [List.filter_cons_of_pos (by simpa using host), if_pos host]
    rfl
  · rw [List.filter_cons_of_neg (by simpa using host), if_neg host]
    rfl

/-- The loop keeps the first eight distinct UDP host ports, and nothing at all
if a candidate is reflexive or relayed, wherever it stands. -/
theorem inferredPorts_eq (ports : List UInt16) (candidates : List CandidateLine) :
    inferredPorts (ports.eraseDups.take maxInferred) candidates =
      if ∃ candidate ∈ candidates, candidate.kind ≠ .host then none
      else some ((ports ++ udpHostPorts candidates).eraseDups.take maxInferred) := by
  induction candidates generalizing ports with
  | nil => simp [inferredPorts, udpHostPorts]
  | cons candidate rest ih =>
    unfold inferredPorts
    by_cases host : candidate.kind = .host
    case neg =>
      have reflexive : candidate.kind.isReflexiveOrRelayed = true := by simpa [CandidateKind.isReflexiveOrRelayed] using host
      rw [if_pos reflexive, if_pos ⟨candidate, by simp, host⟩]
    have kept : candidate.kind.isReflexiveOrRelayed = false := by simp [CandidateKind.isReflexiveOrRelayed, host]
    have others : (∃ other ∈ candidate :: rest, other.kind ≠ .host) ↔ ∃ other ∈ rest, other.kind ≠ .host := by
      simp [host]
    rw [kept, if_neg Bool.false_ne_true, udpHostPorts_cons]
    simp only [others, host, true_and]
    by_cases udp : candidate.isUdp = true
    · have next := ih (ports ++ [candidate.port])
      rw [take_eraseDups_snoc] at next
      simp only [udp, true_and, if_true]
      rw [← List.append_assoc, ← next]
      split <;> rfl
    · simp only [udp, false_and, if_false, Bool.false_eq_true]
      rw [ih ports, List.nil_append]

/-! ## The lines -/

theorem toString_foundation {index : Nat} (small : index < 8) :
    (inferredFoundation + UInt32.ofNat index).toNat = 90000000 + index := by
  have start : inferredFoundation.toNat = 90000000 := rfl
  rw [UInt32.toNat_add, UInt32.toNat_ofNat_of_lt' (by simp only [UInt32.size]; omega), start]
  omega

theorem inferred_toList (index : Nat) (source : IpAddr) (port : UInt16) :
    ("a=" ++ inferred index source port).toList =
      tokenLine (attributePrefix.toList ++ (toString (inferredFoundation + UInt32.ofNat index).toNat).toList) ['1']
        "UDP".toList (toString inferredPriority).toList source.display (toString port.toNat).toList "srflx".toList
        "raddr 0.0.0.0 rport 0".toList := by
  have start : attributePrefix.toList = "a=".toList ++ "candidate:".toList := by decide
  have one : " 1 UDP ".toList = ' ' :: (['1'] ++ ' ' :: ("UDP".toList ++ [' '])) := by decide
  have space : " ".toList = [' '] := by decide
  have typ : " typ srflx raddr 0.0.0.0 rport 0".toList =
      ' ' :: ("typ".toList ++ ' ' :: ("srflx".toList ++ ' ' :: "raddr 0.0.0.0 rport 0".toList)) := by decide
  unfold inferred tokenLine
  generalize toString (inferredFoundation + UInt32.ofNat index).toNat = foundation
  generalize toString inferredPriority = priority
  generalize toString port.toNat = number
  simp only [String.toList_append, String.toList_ofList, start, one, space, typ,
    List.append_assoc, List.cons_append, List.nil_append]

theorem tryFrom_inferred (index : Nat) (source : IpAddr) (port : UInt16) :
    tryFrom ("a=" ++ inferred index source port).toList =
      .ok ⟨"UDP".toList, String.ofList source.display, port, .srflx⟩ := by
  have start : Token attributePrefix.toList := by decide
  rw [inferred_toList]
  apply tryFrom_tokenLine
  · exact ⟨start.append (token_toString _), by decide, by decide, token_toString _, source.token_display, by decide⟩
  · rfl

theorem inferredPeerCandidates_eq (sdp : String) (signaledFrom : Option SocketAddr) :
    inferredPeerCandidates sdp signaledFrom =
      match signaledFrom with
      | none => []
      | some address =>
        if Endpoint.routable (Endpoint.normalize address.ip) = false ∨
            ∃ candidate ∈ candidates sdp, candidate.kind ≠ .host then []
        else ((udpHostPorts (candidates sdp)).eraseDups.take maxInferred).zipIdx.map fun entry =>
          inferred entry.2 (Endpoint.normalize address.ip) entry.1 := by
  cases signaledFrom with
  | none => rfl
  | some address =>
    have ports := inferredPorts_eq [] (candidates sdp)
    rw [List.eraseDups_nil, List.take_nil, List.nil_append] at ports
    simp only [inferredPeerCandidates, Option.map_some, ports]
    by_cases reachable : Endpoint.routable (Endpoint.normalize address.ip) = false
    · simp only [reachable, true_or, if_true]
    · by_cases reflexive : ∃ candidate ∈ candidates sdp, candidate.kind ≠ .host
      · simp only [reachable, reflexive, or_true, if_true]
        split <;> rfl
      · simp only [reachable, reflexive, or_false, if_false]

theorem foundation_isPrefix {index : Nat} (small : index < maxInferred) (source : IpAddr) (port : UInt16) :
    ("candidate:" ++ toString (90000000 + index) ++ " ").toList <+: (inferred index source port).toList := by
  have one : " 1 UDP ".toList = " ".toList ++ "1 UDP ".toList := by decide
  unfold inferred
  rw [toString_foundation small]
  simp only [String.toList_append, one, List.append_assoc]
  simp only [← List.append_assoc]
  simp only [List.append_assoc, List.prefix_append_right_inj]
  exact List.prefix_append _ _

theorem firstPorts_eq_nil (candidates : List CandidateLine) :
    (udpHostPorts candidates).eraseDups.take maxInferred = [] ↔
      ∀ candidate ∈ candidates, ¬ (candidate.kind = .host ∧ candidate.isUdp = true) := by
  have erased (ports : List UInt16) : ports.eraseDups = [] ↔ ports = [] := by
    cases ports with
    | nil => simp
    | cons port rest => simp [List.eraseDups_cons]
  rw [List.take_eq_nil_iff, erased, udpHostPorts, List.map_eq_nil_iff, List.filter_eq_nil_iff]
  simp [maxInferred]

/-- The result is empty exactly without a routable source, with a reflexive or relayed candidate or
without a UDP host candidate. Otherwise it has one candidate for each of the first eight distinct
ports, each on the source address and with a foundation of its own. -/
theorem inferred_candidates_exact (sdp : String) (signaledFrom : Option SocketAddr) :
    (inferredPeerCandidates sdp signaledFrom = [] ↔
      signaledFrom = none ∨
      (∃ address, signaledFrom = some address ∧ Endpoint.routable (Endpoint.normalize address.ip) = false) ∨
      (∃ candidate ∈ candidates sdp, candidate.kind.isReflexiveOrRelayed = true) ∨
      ∀ candidate ∈ candidates sdp, ¬ (candidate.kind = .host ∧ candidate.isUdp = true)) ∧
    ∀ address, signaledFrom = some address → inferredPeerCandidates sdp signaledFrom ≠ [] →
      let ports := (udpHostPorts (candidates sdp)).eraseDups.take maxInferred
      (inferredPeerCandidates sdp signaledFrom).length = ports.length ∧
      ∀ index line, (inferredPeerCandidates sdp signaledFrom)[index]? = some line →
        ("candidate:" ++ toString (90000000 + index) ++ " ").toList <+: line.toList ∧
        ∃ port, ports[index]? = some port ∧ tryFrom ("a=" ++ line).toList =
          .ok ⟨"UDP".toList, String.ofList (Endpoint.normalize address.ip).display, port, .srflx⟩ := by
  have reflexive : (∃ candidate ∈ candidates sdp, candidate.kind ≠ .host) ↔
      ∃ candidate ∈ candidates sdp, candidate.kind.isReflexiveOrRelayed = true := by
    simp [CandidateKind.isReflexiveOrRelayed]
  rw [inferredPeerCandidates_eq]
  cases signaledFrom with
  | none => simp
  | some address =>
    dsimp only
    split
    · rename_i nothing
      rw [reflexive] at nothing
      refine ⟨⟨fun _ => ?_, fun _ => rfl⟩, fun _ _ some => absurd rfl some⟩
      rcases nothing with unreachable | relayed
      · exact .inr (.inl ⟨address, rfl, unreachable⟩)
      · exact .inr (.inr (.inl relayed))
    · rename_i usable
      obtain ⟨reachable, direct⟩ := not_or.mp usable
      rw [reflexive] at direct
      constructor
      · rw [List.map_eq_nil_iff, List.zipIdx_eq_nil_iff, firstPorts_eq_nil]
        constructor
        · exact fun none => .inr (.inr (.inr none))
        · rintro (absent | ⟨other, same, unreachable⟩ | relayed | none)
          · cases absent
          · cases same
            exact absurd unreachable reachable
          · exact absurd relayed direct
          · exact none
      · rintro _ ⟨⟩ -
        refine ⟨by simp, fun index line found => ?_⟩
        rw [List.getElem?_map, List.getElem?_zipIdx, Option.map_map, Option.map_eq_some_iff] at found
        obtain ⟨port, listed, rfl⟩ := found
        have inside : index < maxInferred := by
          obtain ⟨bound, -⟩ := List.getElem?_eq_some_iff.mp listed
          rw [List.length_take] at bound
          omega
        simp only [Function.comp, Nat.zero_add]
        exact ⟨foundation_isPrefix inside _ _, port, listed, tryFrom_inferred _ _ _⟩

theorem inferred_candidates_of_offer :
    let sdp := "a=candidate:1 1 udp 9 ::2 7 typ host\na=candidate:2 1 UDP 9 ::3 8 typ host"
    (udpHostPorts (candidates sdp)).eraseDups.take maxInferred = [7, 8] ∧
    ∀ index line, (inferredPeerCandidates sdp (some (.v4 0x01010101 5)))[index]? = some line →
      ("candidate:" ++ toString (90000000 + index) ++ " ").toList <+: line.toList ∧
      ∃ port, ((udpHostPorts (candidates sdp)).eraseDups.take maxInferred)[index]? = some port ∧
        tryFrom ("a=" ++ line).toList =
          .ok ⟨"UDP".toList, String.ofList (Endpoint.normalize (.v4 0x01010101)).display, port, .srflx⟩ := by
  intro sdp
  have ports : (udpHostPorts (candidates sdp)).eraseDups.take maxInferred = [7, 8] := by decide +kernel
  have some : inferredPeerCandidates sdp (.some (.v4 0x01010101 5)) ≠ [] := by decide +kernel
  exact ⟨ports, ((inferred_candidates_exact sdp (.some (.v4 0x01010101 5))).2 _ rfl some).2⟩

end CandidateLine

end Nethernet
