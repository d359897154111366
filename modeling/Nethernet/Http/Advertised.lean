import Mathlib.Data.List.Dedup
import Mathlib.Data.List.ProdSigma
import Nethernet.Http.CandidateText

/-! What the rewriting of candidates does to a description: which lines stay, and which are added. -/

set_option autoImplicit false

namespace Nethernet
open Foundation

variable {host : CandidateLine} {address : String}

namespace CandidateLine

theorem translated_toList (host : CandidateLine) (foundation : UInt32) (address : String) :
    (host.translated foundation address).toList =
      tokenLine (attributePrefix.toList ++ (toString foundation.toNat).toList) ['1'] host.transport
        (toString translatedPriority).toList address.toList (toString host.port.toNat).toList "srflx".toList
        ("raddr ".toList ++ host.address.toList ++ " rport ".toList ++ (toString host.port.toNat).toList) := by
  have one : " 1 ".toList = ' ' :: (['1'] ++ [' ']) := by decide
  have space : " ".toList = [' '] := by decide
  have typ : " typ srflx raddr ".toList =
      ' ' :: ("typ".toList ++ ' ' :: ("srflx".toList ++ ' ' :: "raddr ".toList)) := by decide
  unfold translated tokenLine
  generalize toString foundation.toNat = number
  generalize toString translatedPriority = priority
  generalize toString host.port.toNat = port
  generalize attributePrefix = start
  simp only [String.toList_append, String.toList_ofList, one, space, typ, List.append_assoc, List.cons_append,
    List.nil_append]

theorem tryFrom_translated (transport : Token host.transport) (literal : Token address.toList) (foundation : UInt32) :
    tryFrom (host.translated foundation address).toList = .ok ⟨host.transport, address, host.port, .srflx⟩ := by
  have start : Token attributePrefix.toList := by decide
  have tokens : Token (attributePrefix.toList ++ (toString foundation.toNat).toList) ∧ Token ['1'] ∧
      Token host.transport ∧ Token (toString translatedPriority).toList ∧ Token address.toList ∧
      Token "srflx".toList :=
    ⟨start.append (token_toString _), by decide, transport, token_toString _, literal, by decide⟩
  rw [translated_toList, tryFrom_tokenLine tokens rfl, String.ofList_toList]

theorem foundation_isPrefix_translated (host : CandidateLine) (foundation : UInt32) (address : String) :
    (attributePrefix ++ toString foundation.toNat ++ " ").toList <+: (host.translated foundation address).toList := by
  have space : " ".toList = [' '] := by decide
  rw [translated_toList, tokenLine, String.toList_append, String.toList_append, space]
  exact ⟨_, (List.append_cons _ _ _).symm⟩

end CandidateLine

variable (ip : BitVec 32) {number index : Nat}

namespace Candidates
variable (std : AddressText)

/-! ## The added candidates -/

/-- An address literal and a host of the same family. -/
def translates (address : String) (host : CandidateLine) : Bool :=
  match Endpoint.parse std.parseIp address with
  | none => false
  | some target => sameFamily target (Endpoint.parse std.parseIp host.address)

theorem token_of_translates (fits : translates std address host = true) : Token address.toList := by
  unfold translates at fits
  split at fits
  · cases fits
  · rename_i target parsed
    rintro c member rfl
    exact absurd (isLiteral_of_parse std parsed member 32 (by decide)) (by decide)

namespace Translation

def pairOf (item : CandidateLine × String) : String × UInt16 := (item.2, item.1.port)

def render (items : List (CandidateLine × String)) : List String :=
  items.zipIdx.map fun entry =>
    entry.1.1.translated (CandidateLine.translatedFoundation + UInt32.ofNat entry.2) entry.1.2

theorem render_append_singleton (items : List (CandidateLine × String)) (item : CandidateLine × String) :
    render (items ++ [item]) =
      render items ++ [item.1.translated (CandidateLine.translatedFoundation + UInt32.ofNat items.length) item.2] := by
  simp [render, List.zipIdx_append]

/-- The candidates so far are one for each wanted pair. -/
structure Collects (hosts : List CandidateLine) (wanted : String × UInt16 → Prop)
    (items : List (CandidateLine × String)) (state : Translation) : Prop where
  candidates : state.candidates = render items
  emitted : state.emitted = (items.map pairOf).reverse
  foundation : state.foundation = CandidateLine.translatedFoundation + UInt32.ofNat items.length
  sound : ∀ item ∈ items, item.1 ∈ hosts ∧ translates std item.2 item.1 = true
  unique : (items.map pairOf).Nodup
  exact : ∀ pair, pair ∈ items.map pairOf ↔ wanted pair

variable {std} {hosts : List CandidateLine} {wanted : String × UInt16 → Prop} {items : List (CandidateLine × String)}
  {state : Translation}

theorem Collects.congr (collects : Collects std hosts wanted items state) {other : String × UInt16 → Prop}
    (same : ∀ pair, wanted pair ↔ other pair) : Collects std hosts other items state :=
  { collects with exact := fun pair => (collects.exact pair).trans (same pair) }

theorem Collects.add (collects : Collects std hosts wanted items state) {target : IpAddr}
    (parsed : Endpoint.parse std.parseIp address = some target) (member : host ∈ hosts) :
    ∃ items, Collects std hosts
      (fun pair => wanted pair ∨ translates std address host = true ∧ pair = (address, host.port)) items
      (state.add std target address host) := by
  have family : translates std address host = sameFamily target (Endpoint.parse std.parseIp host.address) := by
    rw [translates, parsed]
  unfold Translation.add
  split
  · rename_i fresh
    rw [← family, collects.emitted, List.mem_reverse] at fresh
    obtain ⟨fits, fresh⟩ := fresh
    refine ⟨items ++ [(host, address)], ?_, ?_, ?_, ?_, ?_, ?_⟩
    · rw [render_append_singleton, collects.candidates, collects.foundation]
    · rw [collects.emitted]
      simp [pairOf]
    · rw [collects.foundation, List.length_append, List.length_singleton, UInt32.add_assoc]
      simp
    · intro item inside
      rcases List.mem_append.mp inside with old | new
      · exact collects.sound item old
      · rw [List.mem_singleton.mp new]
        exact ⟨member, fits⟩
    · rw [List.map_append, List.nodup_append]
      refine ⟨collects.unique, by simp, ?_⟩
      rintro pair old _ new rfl
      rw [List.map_singleton, List.mem_singleton] at new
      rw [new] at old
      exact fresh old
    · intro pair
      rw [List.map_append, List.mem_append, collects.exact pair]
      simp [pairOf, fits]
  · rename_i known
    refine ⟨items, collects.congr fun pair => ?_⟩
    constructor
    · exact .inl
    · rintro (old | ⟨fits, rfl⟩)
      · exact old
      · rw [← family, collects.emitted, List.mem_reverse, not_and, not_not] at known
        exact (collects.exact _).mp (known fits)

theorem Collects.addHosts (collects : Collects std hosts wanted items state) {target : IpAddr}
    (parsed : Endpoint.parse std.parseIp address = some target) {more : List CandidateLine} (among : more ⊆ hosts) :
    ∃ items, Collects std hosts
      (fun pair => wanted pair ∨ ∃ host ∈ more, translates std address host = true ∧ pair = (address, host.port)) items
      (more.foldl (Translation.add std target address) state) := by
  induction more generalizing wanted items state with
  | nil => exact ⟨items, collects.congr fun pair => by simp⟩
  | cons host rest ih =>
    obtain ⟨items, first⟩ := collects.add parsed (among List.mem_cons_self)
    obtain ⟨items, all⟩ := ih first fun other member => among (List.mem_cons_of_mem _ member)
    exact ⟨items, all.congr fun pair => by simp [or_assoc]⟩

theorem Collects.addAddress (collects : Collects std hosts wanted items state) (address : String) :
    ∃ items, Collects std hosts
      (fun pair => wanted pair ∨ ∃ host ∈ hosts, translates std address host = true ∧ pair = (address, host.port)) items
      (state.addAddress std hosts address) := by
  unfold Translation.addAddress
  split
  · rename_i named
    refine ⟨items, collects.congr fun pair => ?_⟩
    have none : ∀ host, translates std address host = false := by
      intro host
      rw [translates, named]
    simp [none]
  · rename_i target parsed
    exact collects.addHosts parsed fun _ member => member

theorem Collects.addresses (collects : Collects std hosts wanted items state) (foreign : List String) :
    ∃ items, Collects std hosts
      (fun pair => wanted pair ∨ ∃ address ∈ foreign, ∃ host ∈ hosts,
        translates std address host = true ∧ pair = (address, host.port)) items
      (foreign.foldl (Translation.addAddress std hosts) state) := by
  induction foreign generalizing wanted items state with
  | nil => exact ⟨items, collects.congr fun pair => by simp⟩
  | cons address rest ih =>
    obtain ⟨items, first⟩ := collects.addAddress address
    obtain ⟨items, all⟩ := ih first
    exact ⟨items, all.congr fun pair => by simp [or_assoc]⟩

end Translation

/-- One candidate for each pair of a literal and a host's port of its family, numbered in their order. -/
theorem translatedCandidates_spec (hosts : List CandidateLine) (foreign : List String) :
    ∃ items : List (CandidateLine × String),
      translatedCandidates std hosts foreign = Translation.render items ∧
      (∀ item ∈ items, item.1 ∈ hosts ∧ translates std item.2 item.1 = true) ∧
      (items.map Translation.pairOf).Nodup ∧
      ∀ pair, pair ∈ items.map Translation.pairOf ↔
        ∃ address ∈ foreign, ∃ host ∈ hosts, translates std address host = true ∧ pair = (address, host.port) := by
  have start : Translation.Collects std hosts (fun _ => False) [] {} :=
    ⟨rfl, rfl, rfl, by simp, by simp, by simp⟩
  obtain ⟨items, all⟩ := start.addresses foreign
  refine ⟨items, all.candidates, all.sound, all.unique, fun pair => ?_⟩
  rw [all.exact pair, false_or]

/-! ## The lines that stay -/

/-- All lines that are no candidates; when an allowed address is held, of the candidates the reflexive
and relayed ones and the hosts on a held address, otherwise all. -/
def stays (held : List String) (line : List Char) : Bool :=
  if CandidateLine.attributePrefix.toList <+: line ∧ held ≠ [] then
    match CandidateLine.tryFrom line with
    | .error _ => false
    | .ok candidate => decide (candidate.kind ≠ .host) || decide (normalized std candidate.address ∈ held)
  else true

def text (lines : List (List Char)) : List Char := lines.flatMap (· ++ ['\r', '\n'])

namespace Rewriting

/-- The lines written so far, with the block of added ones among them or still to come. -/
def Lays (added : List String) (done : List (List Char)) (state : Rewriting) : Prop :=
  (state.translated = added ∧ state.out.toList = text done) ∨
    (state.translated = [] ∧ ∃ before after, done = before ++ after ∧
      state.out.toList = text (before ++ added.map String.toList ++ after))

theorem out_push (state : Rewriting) (line : String) :
    (state.push line).out.toList = state.out.toList ++ text [line.toList] := by
  simp [push, text]

theorem out_pushes (state : Rewriting) (lines : List String) :
    (lines.foldl push state).out.toList = state.out.toList ++ text (lines.map String.toList) := by
  induction lines generalizing state with
  | nil => simp [text]
  | cons line rest ih =>
    rw [List.foldl_cons, ih, out_push]
    simp [text]

variable {added : List String} {done : List (List Char)} {state : Rewriting}

theorem Lays.push (lays : Lays added done state) (line : List Char) :
    Lays added (done ++ [line]) (state.push (String.ofList line)) := by
  have written : ∀ lines, state.out.toList = text lines →
      (state.push (String.ofList line)).out.toList = text (lines ++ [line]) := by
    intro lines out
    rw [out_push, out, String.toList_ofList]
    simp [text]
  rcases lays with ⟨waiting, out⟩ | ⟨drained, before, after, rfl, out⟩
  · exact .inl ⟨waiting, written _ out⟩
  · refine .inr ⟨drained, before, after ++ [line], by rw [List.append_assoc], ?_⟩
    rw [written _ out, List.append_assoc _ after]

theorem Lays.drain (lays : Lays added done state) :
    ∃ before after, done = before ++ after ∧
      state.drain.out.toList = text (before ++ added.map String.toList ++ after) := by
  have out : state.drain.out.toList = state.out.toList ++ text (state.translated.map String.toList) :=
    out_pushes state state.translated
  rcases lays with ⟨waiting, written⟩ | ⟨drained, before, after, rfl, written⟩
  · refine ⟨done, [], (List.append_nil _).symm, ?_⟩
    rw [out, written, waiting]
    simp [text]
  · refine ⟨before, after, rfl, ?_⟩
    rw [out, drained, written]
    simp [text]

theorem Lays.line (lays : Lays added done state) (held : List String) (line : List Char) :
    Lays added (done ++ [line].filter (stays std held)) (state.line std held line) := by
  unfold Rewriting.line
  split
  · rename_i candidate
    have seen : Lays added done { state with seenCandidates := true } := lays
    dsimp only
    have same : stays std held line = !decide (held ≠ [] ∧ keeps std held line = false) := by
      unfold stays keeps
      by_cases some : held = []
      · simp [some]
      · rw [if_pos ⟨candidate, some⟩]
        cases CandidateLine.tryFrom line <;> simp [some, CandidateKind.isReflexiveOrRelayed]
    split
    · rename_i dropped
      rw [List.filter_singleton, same]
      simpa [dropped] using seen
    · rename_i kept
      rw [List.filter_singleton, same]
      simpa [kept] using seen.push line
  · rename_i other
    have kept : stays std held line = true := by
      rw [stays, if_neg fun both => other both.1]
    rw [List.filter_singleton, kept]
    dsimp only
    split
    · have drained : Lays added done state.drain := .inr ⟨rfl, lays.drain⟩
      exact drained.push line
    · exact lays.push line

theorem Lays.fold (lays : Lays added done state) (held : List String) (lines : List (List Char)) :
    Lays added (done ++ lines.filter (stays std held)) (lines.foldl (Rewriting.line std held) state) := by
  induction lines generalizing done state with
  | nil => simpa using lays
  | cons line rest ih =>
    have next := ih (lays.line std held line)
    rw [List.append_assoc, ← List.filter_append] at next
    exact next

end Rewriting

/-! ## The whole rewriting -/

/-- The pairs of a foreign address literal and a port of a UDP host candidate of its family. -/
def pairs (sdp : String) (allowed : List String) : List (String × UInt16) :=
  (((allowed.map (normalized std)).filter fun address => address ∉ gathered std sdp).flatMap fun address =>
    ((CandidateLine.candidates sdp).filter fun host =>
      host.kind = .host && host.isUdp && translates std address host).map fun host => (address, host.port)).dedup

-- the lines that the rewriting adds
def added (sdp : String) (allowed : List String) : List String :=
  translatedCandidates std (hosts std sdp allowed) (foreign std sdp allowed)

/-- What the rewriting is meant to do. -/
structure Advertised (sdp : String) (allowed : List String) : Prop where
  untouched : allowed = [] ∨ held std sdp allowed = [] ∧ pairs std sdp allowed = [] →
    withAdvertisedCandidates std sdp allowed = sdp
  rewritten : ¬ (allowed = [] ∨ held std sdp allowed = [] ∧ pairs std sdp allowed = []) →
    ∃ before after,
      before ++ after =
        ((sdpLines sdp).filter fun line => !line.isEmpty).filter (stays std (held std sdp allowed)) ∧
      (withAdvertisedCandidates std sdp allowed).toList =
        text (before ++ (added std sdp allowed).map String.toList ++ after)
  translated : ∃ targets : List (String × UInt16), targets.Nodup ∧
    (∀ pair, pair ∈ targets ↔ pair ∈ pairs std sdp allowed) ∧
    (added std sdp allowed).length = targets.length ∧
    ∀ (index : Nat) (line : String), (added std sdp allowed)[index]? = some line →
      ∃ transport address port, targets[index]? = some (address, port) ∧
        CandidateLine.tryFrom line.toList = .ok ⟨transport, address, port, .srflx⟩
  counted : ∀ (index : Nat) (line : String), (added std sdp allowed)[index]? = some line →
    (CandidateLine.attributePrefix ++ toString (80000000 + index) ++ " ").toList <+: line.toList

variable (sdp : String) (allowed : List String)

theorem mem_pairs (pair : String × UInt16) :
    pair ∈ pairs std sdp allowed ↔ ∃ address ∈ foreign std sdp allowed, ∃ host ∈ hosts std sdp allowed,
      translates std address host = true ∧ pair = (address, host.port) := by
  simp only [pairs, List.mem_dedup, List.mem_flatMap, List.mem_map, List.mem_filter, foreign, hosts,
    List.mem_insertionSort, Bool.and_eq_true]
  constructor
  · rintro ⟨address, apart, host, ⟨member, usable, fits⟩, rfl⟩
    exact ⟨address, apart, host, ⟨member, usable⟩, fits, rfl⟩
  · rintro ⟨address, apart, host, ⟨member, usable⟩, fits, rfl⟩
    exact ⟨address, apart, host, ⟨member, usable, fits⟩, rfl⟩

theorem nodup_pairs : (pairs std sdp allowed).Nodup := List.nodup_dedup _

-- the transport of a UDP candidate is one token
theorem token_of_mem_hosts {sdp : String} {allowed : List String} (member : host ∈ hosts std sdp allowed) :
    Token host.transport := by
  unfold hosts at member
  rw [List.mem_insertionSort] at member
  obtain ⟨line, -, parsed⟩ := exists_line_of_mem_candidates (List.mem_filter.mp member).1
  rintro c inside rfl
  exact absurd (of_mem_splitOnP (tokens_of_tryFrom parsed).1 ' ' inside).2 (by decide)

/-- The added lines, their pairs and their numbers. -/
theorem added_spec :
    ∃ items : List (CandidateLine × String), added std sdp allowed = Translation.render items ∧
      (items.map Translation.pairOf).Nodup ∧
      (∀ pair, pair ∈ items.map Translation.pairOf ↔ pair ∈ pairs std sdp allowed) ∧
      items.length = (pairs std sdp allowed).length ∧
      ∀ item ∈ items, Token item.1.transport ∧ Token item.2.toList := by
  obtain ⟨items, rendered, sound, unique, exact⟩ :=
    translatedCandidates_spec std (hosts std sdp allowed) (foreign std sdp allowed)
  have same : ∀ pair, pair ∈ items.map Translation.pairOf ↔ pair ∈ pairs std sdp allowed :=
    fun pair => (exact pair).trans (mem_pairs std sdp allowed pair).symm
  refine ⟨items, rendered, unique, same, ?_, ?_⟩
  · have permuted := (List.perm_ext_iff_of_nodup unique (nodup_pairs std sdp allowed)).mpr same
    rw [← permuted.length_eq, List.length_map]
  · intro item member
    obtain ⟨host, fits⟩ := sound item member
    exact ⟨token_of_mem_hosts std host, token_of_translates std fits⟩

theorem getElem?_render {items : List (CandidateLine × String)} {line : String}
    (found : (Translation.render items)[index]? = some line) :
    ∃ item, items[index]? = some item ∧
      line = item.1.translated (CandidateLine.translatedFoundation + UInt32.ofNat index) item.2 := by
  rw [Translation.render, List.getElem?_map, List.getElem?_zipIdx, Option.map_map, Option.map_eq_some_iff] at found
  obtain ⟨item, listed, rfl⟩ := found
  exact ⟨item, listed, by simp⟩

theorem toNat_foundation (small : index < 2 ^ 32 - 80000000) :
    (CandidateLine.translatedFoundation + UInt32.ofNat index).toNat = 80000000 + index := by
  have start : CandidateLine.translatedFoundation.toNat = 80000000 := rfl
  rw [UInt32.toNat_add, UInt32.toNat_ofNat_of_lt' (by simp only [UInt32.size]; omega), start]
  omega

theorem counted_of_le {sdp : String} {allowed : List String}
    (few : (pairs std sdp allowed).length ≤ 2 ^ 32 - 80000000) {line : String}
    (found : (added std sdp allowed)[index]? = some line) :
    (CandidateLine.attributePrefix ++ toString (80000000 + index) ++ " ").toList <+: line.toList := by
  obtain ⟨items, rendered, -, -, count, -⟩ := added_spec std sdp allowed
  rw [rendered] at found
  obtain ⟨item, listed, rfl⟩ := getElem?_render found
  obtain ⟨bound, -⟩ := List.getElem?_eq_some_iff.mp listed
  have number := toNat_foundation (show index < 2 ^ 32 - 80000000 by omega)
  have start := item.1.foundation_isPrefix_translated (CandidateLine.translatedFoundation + UInt32.ofNat index) item.2
  rwa [number] at start

/-- One candidate more than there are numbers gets the number 0. -/
theorem not_counted_of_gt {sdp : String} {allowed : List String}
    (many : 2 ^ 32 - 80000000 < (pairs std sdp allowed).length) :
    ∃ line, (added std sdp allowed)[2 ^ 32 - 80000000]? = some line ∧
      ¬ (CandidateLine.attributePrefix ++ toString (80000000 + (2 ^ 32 - 80000000)) ++ " ").toList <+: line.toList := by
  obtain ⟨items, rendered, -, -, count, -⟩ := added_spec std sdp allowed
  have inside : 2 ^ 32 - 80000000 < (Translation.render items).length := by
    rwa [Translation.render, List.length_map, List.length_zipIdx, count]
  rw [rendered]
  refine ⟨_, List.getElem?_eq_getElem inside, fun counted => ?_⟩
  obtain ⟨item, -, shape⟩ := getElem?_render (List.getElem?_eq_getElem inside)
  have wrapped : (CandidateLine.translatedFoundation + UInt32.ofNat (2 ^ 32 - 80000000)).toNat = 0 := by decide
  have start := item.1.foundation_isPrefix_translated
    (CandidateLine.translatedFoundation + UInt32.ofNat (2 ^ 32 - 80000000)) item.2
  rw [← shape, wrapped] at start
  have both := List.prefix_of_prefix_length_le start counted (by decide)
  exact absurd both (by decide)

theorem length_added : (added std sdp allowed).length = (pairs std sdp allowed).length := by
  obtain ⟨items, rendered, -, -, count, -⟩ := added_spec std sdp allowed
  rw [rendered, ← count]
  simp [Translation.render]

theorem rewritten_spec (some : ¬ (allowed = [] ∨ held std sdp allowed = [] ∧ pairs std sdp allowed = [])) :
    ∃ before after,
      before ++ after =
        ((sdpLines sdp).filter fun line => !line.isEmpty).filter (stays std (held std sdp allowed)) ∧
      (withAdvertisedCandidates std sdp allowed).toList =
        text (before ++ (added std sdp allowed).map String.toList ++ after) := by
  obtain ⟨given, useful⟩ := not_or.mp some
  have nonempty : allowed.isEmpty = false := by simpa using given
  have useful : ((held std sdp allowed).isEmpty && (added std sdp allowed).isEmpty) = false := by
    rw [Bool.and_eq_false_iff]
    by_cases holds : held std sdp allowed = []
    · right
      have pair : pairs std sdp allowed ≠ [] := fun none => useful ⟨holds, none⟩
      rw [List.isEmpty_eq_false_iff, ← List.length_pos_iff, length_added]
      exact List.length_pos_iff.mpr pair
    · left
      simpa using holds
  have start : Rewriting.Lays (added std sdp allowed) [] { translated := added std sdp allowed } := .inl ⟨rfl, rfl⟩
  have lays := start.fold std (held std sdp allowed) ((sdpLines sdp).filter fun line => !line.isEmpty)
  obtain ⟨before, after, lines, out⟩ := lays.drain
  refine ⟨before, after, lines.symm, ?_⟩
  unfold withAdvertisedCandidates
  rw [nonempty, if_neg Bool.false_ne_true]
  dsimp only
  unfold added at useful out
  rw [useful, if_neg Bool.false_ne_true]
  exact out

theorem untouched_spec (none : allowed = [] ∨ held std sdp allowed = [] ∧ pairs std sdp allowed = []) :
    withAdvertisedCandidates std sdp allowed = sdp := by
  unfold withAdvertisedCandidates
  rcases none with rfl | ⟨free, apart⟩
  · rfl
  · have nothing : added std sdp allowed = [] := by
      rw [← List.length_eq_zero_iff, length_added, apart, List.length_nil]
    unfold added at nothing
    dsimp only
    rw [free, nothing]
    split
    · rfl
    · rfl

/-- The rewriting does what it is meant to exactly if the added candidates can be numbered. -/
theorem advertised_iff (sdp : String) (allowed : List String) :
    Advertised std sdp allowed ↔ (pairs std sdp allowed).length ≤ 2 ^ 32 - 80000000 := by
  constructor
  · intro advertised
    by_contra many
    obtain ⟨line, found, other⟩ := not_counted_of_gt std (Nat.not_le.mp many)
    exact other (advertised.counted _ line found)
  · intro few
    obtain ⟨items, rendered, unique, exact, count, tokens⟩ := added_spec std sdp allowed
    refine ⟨untouched_spec std sdp allowed, rewritten_spec std sdp allowed,
      ⟨items.map Translation.pairOf, unique, exact, ?_, ?_⟩, fun index line found => counted_of_le std few found⟩
    · rw [length_added, List.length_map, count]
    · intro index line found
      rw [rendered] at found
      obtain ⟨item, listed, rfl⟩ := getElem?_render found
      obtain ⟨transport, address⟩ := tokens item (List.mem_of_getElem? listed)
      refine ⟨_, _, _, ?_, CandidateLine.tryFrom_translated transport address _⟩
      rw [List.getElem?_map, listed]
      rfl

/-! ## More candidates than numbers -/

/-- Dotted addresses, as the standard library reads them. -/
def octetOf (part : List Char) : Option Nat :=
  match parseUnsigned 256 part with
  | .error _ => none
  | .ok number => if (toString number).toList = part then some number else none

def parseDotted (value : String) : Option IpAddr :=
  match (value.toList.splitOn '.').map octetOf with
  | [some a, some b, some c, some d] => some (.v4 (BitVec.ofNat 32 (((a * 256 + b) * 256 + c) * 256 + d)))
  | _ => none

def dotted : AddressText := ⟨parseDotted, fun address => String.ofList address.display⟩

theorem octetOf_toString (small : number < 256) : octetOf (toString number).toList = some number := by
  have parsed : parseUnsigned 256 (toString number).toList = .ok number := parseUnsigned_repr small
  rw [octetOf, parsed]
  exact if_pos rfl

theorem octet_lt (index : Nat) : Endpoint.octet ip index < 256 := Nat.mod_lt _ (by decide)

theorem dotless (number : Nat) : ∀ c ∈ (toString number).toList, (c == '.') = false := by
  intro c member
  rw [beq_eq_false_iff_ne]
  rintro rfl
  exact not_mem_repr (by decide) number member

theorem splitOn_dot (number : Nat) (rest : List Char) :
    ((toString number).toList ++ '.' :: rest).splitOn '.' = (toString number).toList :: rest.splitOn '.' :=
  List.splitOnP_append_cons_of_forall_mem (dotless number) '.' rfl rest

theorem parseDotted_displayV4 : parseDotted (String.ofList (IpAddr.displayV4 ip)) = some (.v4 ip) := by
  have last : (toString (Endpoint.octet ip 3)).toList.splitOn '.' = [(toString (Endpoint.octet ip 3)).toList] :=
    List.splitOnP_eq_singleton (dotless _)
  have bits : ((Endpoint.octet ip 0 * 256 + Endpoint.octet ip 1) * 256 + Endpoint.octet ip 2) * 256 +
      Endpoint.octet ip 3 = ip.toNat := by
    have bound := ip.isLt
    simp only [Endpoint.octet, BitVec.toNat_ushiftRight, Nat.shiftRight_eq_div_pow]
    omega
  unfold parseDotted IpAddr.displayV4
  rw [String.toList_ofList]
  simp only [List.append_assoc, List.cons_append]
  rw [splitOn_dot, splitOn_dot, splitOn_dot, last]
  simp only [List.map_cons, List.map_nil, octetOf_toString (octet_lt ip _), bits, BitVec.ofNat_toNat]
  simp

-- what a byte is written with
theorem octet_text (number : Nat) (small : number < 256) :
    ((toString number).toList.flatMap String.utf8EncodeChar).length ≤ 3 ∧
      ((toString number).toList.flatMap String.utf8EncodeChar).all Endpoint.isLiteral = true := by
  have all : ∀ number : Fin 256, ((Nat.toDigits 10 number.val).flatMap String.utf8EncodeChar).length ≤ 3 ∧
      ((Nat.toDigits 10 number.val).flatMap String.utf8EncodeChar).all Endpoint.isLiteral = true := by decide +kernel
  have digits : (toString number).toList = Nat.toDigits 10 number := Nat.toList_repr
  rw [digits]
  exact all ⟨number, small⟩

theorem parse_displayV4 : Endpoint.parse parseDotted (String.ofList (IpAddr.displayV4 ip)) = some (.v4 ip) := by
  obtain ⟨shortA, literalA⟩ := octet_text _ (octet_lt ip 0)
  obtain ⟨shortB, literalB⟩ := octet_text _ (octet_lt ip 1)
  obtain ⟨shortC, literalC⟩ := octet_text _ (octet_lt ip 2)
  obtain ⟨shortD, literalD⟩ := octet_text _ (octet_lt ip 3)
  have dot : String.utf8EncodeChar '.' = [0x2e] := by decide
  have bytes : utf8 (String.ofList (IpAddr.displayV4 ip)) = (IpAddr.displayV4 ip).flatMap String.utf8EncodeChar := by
    rw [utf8_eq_flatMap, String.toList_ofList]
  have some : (utf8 (String.ofList (IpAddr.displayV4 ip))).isEmpty = false := by
    rw [bytes, IpAddr.displayV4]
    simp only [List.flatMap_append, List.flatMap_cons, dot]
    simp
  have short : ¬ 45 < (utf8 (String.ofList (IpAddr.displayV4 ip))).length := by
    rw [bytes, IpAddr.displayV4]
    simp only [List.flatMap_append, List.flatMap_cons, dot, List.length_append, List.length_singleton]
    omega
  have literal : (utf8 (String.ofList (IpAddr.displayV4 ip))).all Endpoint.isLiteral = true := by
    rw [bytes, IpAddr.displayV4]
    simp only [List.flatMap_append, List.flatMap_cons, dot, List.all_append, literalA, literalB, literalC, literalD]
    decide
  unfold Endpoint.parse
  simp only [some, short, literal, decide_false, Bool.or_false, Bool.not_true, Bool.false_eq_true, if_false]
  rw [parseDotted_displayV4]
  rfl

theorem normalized_displayV4 :
    normalized dotted (String.ofList (IpAddr.displayV4 ip)) = String.ofList (IpAddr.displayV4 ip) := by
  have parsed : Endpoint.parse dotted.parseIp (String.ofList (IpAddr.displayV4 ip)) = some (.v4 ip) :=
    parse_displayV4 ip
  rw [normalized, parsed]
  rfl

-- 10.0.0.0 to 10.0.255.255
def manyAddress (number : Nat) : String := String.ofList (IpAddr.displayV4 (BitVec.ofNat 32 (0x0a000000 + number)))

def manyAddresses : List String := (List.range 65536).map manyAddress

-- a host candidate on 192.168.1.10
def hostLine (port : UInt16) : List Char :=
  CandidateLine.tokenLine "a=candidate:1".toList ['1'] "udp".toList "2130706431".toList
    (IpAddr.displayV4 0xc0a8010a) (toString port.toNat).toList "host".toList "generation 0".toList

def hostCandidate (port : UInt16) : CandidateLine :=
  ⟨"udp".toList, String.ofList (IpAddr.displayV4 0xc0a8010a), port, .host⟩

def manyLines : List (List Char) := (List.range 65536).map fun port => hostLine (UInt16.ofNat port)

def manyPorts : String := String.ofList (text manyLines)

theorem tryFrom_hostLine (port : UInt16) : CandidateLine.tryFrom (hostLine port) = .ok (hostCandidate port) := by
  apply CandidateLine.tryFrom_tokenLine
  · exact ⟨by decide, by decide, by decide, by decide, IpAddr.token_displayV4 _, by decide⟩
  · rfl

theorem plain_hostLine (port : UInt16) : Plain (hostLine port) := by
  have address := plain_of_parse dotted (parse_displayV4 0xc0a8010a)
  rw [String.toList_ofList] at address
  have join {first rest : List Char} (left : Plain first) (right : Plain rest) : Plain (first ++ ' ' :: rest) := by
    apply left.append
    intro c member
    rcases List.mem_cons.mp member with rfl | member
    · rfl
    · exact right c member
  have literal : Plain "a=candidate:1".toList ∧ Plain ['1'] ∧ Plain "udp".toList ∧ Plain "2130706431".toList ∧
      Plain "typ".toList ∧ Plain "host".toList ∧ Plain "generation 0".toList := by decide
  obtain ⟨start, one, udp, priority, typ, host, rest⟩ := literal
  exact join start <| join one <| join udp <| join priority <| join address <| join (plain_repr _) <| join typ <|
    join host rest

theorem sdpLines_manyPorts : sdpLines manyPorts = (manyLines.flatMap fun line => [line, []]) ++ [[]] := by
  have plain : ∀ line ∈ manyLines, Plain line := by
    intro line member
    obtain ⟨port, -, rfl⟩ := List.mem_map.mp member
    exact plain_hostLine _
  change manyPorts.toList.splitOnP isBreak = _
  rw [manyPorts, String.toList_ofList]
  exact splitOnP_terminated rfl rfl plain

theorem mem_candidates_manyPorts {candidate : CandidateLine} :
    candidate ∈ CandidateLine.candidates manyPorts ↔ ∃ port, candidate = hostCandidate port := by
  constructor
  · intro member
    obtain ⟨line, among, parsed⟩ := exists_line_of_mem_candidates member
    have blank : CandidateLine.tryFrom [] = .error .tooFewTokens := rfl
    rw [sdpLines_manyPorts] at among
    simp only [List.mem_append, List.mem_flatMap, List.mem_cons, List.not_mem_nil, or_false] at among
    rcases among with ⟨_, written, rfl | rfl⟩ | rfl
    · obtain ⟨port, -, rfl⟩ := List.mem_map.mp written
      rw [tryFrom_hostLine] at parsed
      exact ⟨_, (Except.ok.inj parsed).symm⟩
    · rw [blank] at parsed
      cases parsed
    · rw [blank] at parsed
      cases parsed
  · rintro ⟨port, rfl⟩
    have written : hostLine port ∈ manyLines :=
      List.mem_map.mpr ⟨port.toNat, List.mem_range.mpr port.toNat_lt, by rw [UInt16.ofNat_toNat]⟩
    have start : CandidateLine.attributePrefix.toList <+: hostLine port := by
      have first : CandidateLine.attributePrefix.toList <+: "a=candidate:1".toList := by decide
      exact first.trans (List.prefix_append _ _)
    refine List.mem_filterMap.mpr ⟨hostLine port, List.mem_filter.mpr ⟨?_, by simpa using start⟩, ?_⟩
    · rw [sdpLines_manyPorts]
      exact List.mem_append_left _ (List.mem_flatMap.mpr ⟨_, written, by simp⟩)
    · rw [tryFrom_hostLine]
      rfl

theorem manyAddress_injective {first second : Nat} (small : first < 65536) (other : second < 65536)
    (same : manyAddress first = manyAddress second) : first = second := by
  have parsed : ∀ number, parseDotted (manyAddress number) = some (.v4 (BitVec.ofNat 32 (0x0a000000 + number))) :=
    fun number => parseDotted_displayV4 _
  have both := parsed first
  rw [same, parsed second] at both
  have bits := congrArg BitVec.toNat (IpAddr.v4.inj (Option.some.inj both))
  simp only [BitVec.toNat_ofNat] at bits
  omega

theorem manyAddress_foreign (small : number < 65536) : manyAddress number ∉ gathered dotted manyPorts := by
  intro member
  obtain ⟨candidate, among, same⟩ := List.mem_map.mp member
  obtain ⟨port, rfl⟩ := mem_candidates_manyPorts.mp among
  rw [hostCandidate, normalized_displayV4] at same
  have parsed : parseDotted (manyAddress number) = some (.v4 (BitVec.ofNat 32 (0x0a000000 + number))) :=
    parseDotted_displayV4 _
  rw [← same, parseDotted_displayV4] at parsed
  have bits := congrArg BitVec.toNat (IpAddr.v4.inj (Option.some.inj parsed))
  simp only [BitVec.ofNat_eq_ofNat, BitVec.toNat_ofNat] at bits
  omega

theorem mem_pairs_many (small : number < 65536) (port : UInt16) :
    (manyAddress number, port) ∈ pairs dotted manyPorts manyAddresses := by
  rw [mem_pairs]
  refine ⟨manyAddress number, ?_, hostCandidate port, ?_, ?_, rfl⟩
  · rw [foreign, List.mem_insertionSort, List.mem_filter]
    refine ⟨List.mem_map.mpr ⟨manyAddress number, ?_, normalized_displayV4 _⟩, ?_⟩
    · exact List.mem_map.mpr ⟨number, List.mem_range.mpr small, rfl⟩
    · simpa using manyAddress_foreign small
  · rw [hosts, List.mem_insertionSort, List.mem_filter]
    refine ⟨mem_candidates_manyPorts.mpr ⟨port, rfl⟩, ?_⟩
    have udp : eqIgnoreAsciiCase "udp".toList "udp".toList = true := by decide
    rw [CandidateLine.isUdp, hostCandidate, udp]
    rfl
  · have target : Endpoint.parse dotted.parseIp (manyAddress number) = some (.v4 (BitVec.ofNat 32 (0x0a000000 + number))) :=
      parse_displayV4 _
    have host : Endpoint.parse dotted.parseIp (hostCandidate port).address = some (.v4 0xc0a8010a) := parse_displayV4 _
    rw [translates, target, host]
    rfl

/-- All pairs of 65536 addresses and 65536 ports: the candidates number past the end of a u32. -/
theorem many_candidates_not_counted : ¬ Advertised dotted manyPorts manyAddresses := by
  let all := (List.range 65536 ×ˢ List.range 65536).map fun entry =>
    (manyAddress entry.1, UInt16.ofNat entry.2)
  have unique : all.Nodup := by
    apply List.Nodup.map_on _ (List.nodup_range.product List.nodup_range)
    rintro ⟨first, port⟩ member ⟨second, other⟩ also same
    obtain ⟨small, low⟩ := List.mem_product.mp member
    obtain ⟨otherSmall, otherLow⟩ := List.mem_product.mp also
    rw [List.mem_range] at small low otherSmall otherLow
    obtain ⟨address, number⟩ := Prod.mk.inj same
    have ports := congrArg UInt16.toNat number
    rw [UInt16.toNat_ofNat_of_lt' low, UInt16.toNat_ofNat_of_lt' otherLow] at ports
    rw [manyAddress_injective small otherSmall address, ports]
  have inside : all ⊆ pairs dotted manyPorts manyAddresses := by
    intro pair member
    obtain ⟨⟨number, port⟩, among, rfl⟩ := List.mem_map.mp member
    exact mem_pairs_many (List.mem_range.mp (List.mem_product.mp among).1) _
  have count : all.length = 65536 * 65536 := by
    rw [List.length_map, List.length_product, List.length_range]
  have many := (List.subperm_of_subset unique inside).length_le
  intro advertised
  obtain ⟨line, found, other⟩ := not_counted_of_gt dotted (lt_of_lt_of_le (by rw [count]; decide) many)
  exact other (advertised.counted _ line found)

end Candidates

end Nethernet
