import Mt7612u.Library.TaggedElements
import Mt7612u.Mlme.BeaconBounds

/-! The bytes that `PeerBeaconAndProbeRspSanity` leaves in `pVIE`: the elements it retains, and
behind them the WPS element put together from its fragments. -/

namespace Mt7612u.Mlme
open Receive
open Library.TaggedElements

/-- The scan, with the contents of `pVIE` and of the WPS buffer. -/
structure VieState where
  scan : ScanState
  pVIE : Memory
  pPeerWscIe : Memory

/-- A `memmove` of the reassembly; there is no return from one of a negative length. -/
def copyWsc (mem : Memory) (pEid : Nat) (pPeerWscIe : Memory) (copy : WscCopy) : Option Memory :=
  if copy.count < 0 then none
  else some (pPeerWscIe.write copy.offset.toNat (mem.bytes (pEid + 6) copy.count.toNat))

/-- The element at `pEid` takes effect. -/
def VieState.element (c : BeaconContext) (mem : Memory) (pEid : Nat) (s : VieState) :
    Option (VieState × Exit) :=
  let effect := elementEffect c mem pEid (s.scan.sanity.getLsbD 0) s.scan.htCapability
  let handled := s.scan.element c mem pEid
  let copies := if effect.wps then (wscReassemble c mem pEid s.scan.wsc).2 else []
  (copies.foldlM (copyWsc mem pEid) s.pPeerWscIe).map fun pPeerWscIe =>
    ({ scan := handled.1
       pVIE :=
        if effect.reported then
          s.pVIE.write s.scan.lengthVIE (mem.bytes pEid (lenAt mem pEid + 2))
        else s.pVIE
       pPeerWscIe := pPeerWscIe }, handled.2)

def VieState.readLen (pEid : Nat) (s : VieState) : VieState :=
  { s with scan := s.scan.readLen pEid }

/-- The loop over the elements. -/
def writeElements (c : BeaconContext) (mem : Memory) (msgLen length : Nat) (s : VieState) :
    Option (VieState × Exit) :=
  let s := s.readLen length
  if length + 2 + lenAt mem length ≤ msgLen then
    if maxVieLen ≤ s.scan.lengthVIE + lenAt mem length + 2 then some (s, .next)
    else
      match s.element c mem length with
      | none => none
      | some handled =>
          if handled.2 = .next then
            writeElements c mem msgLen (length + 2 + lenAt mem length) handled.1
          else some handled
  else some (s, .next)
termination_by msgLen - length

/-- `WscIe`, with its length byte. -/
def wscIe (peerWscIeLen : Nat) : List UInt8 :=
  [0xdd, UInt8.ofNat (peerWscIeLen + 4), 0x00, 0x50, 0xf2, 0x04]

def VieState.appendWsc (c : BeaconContext) (s : VieState) : VieState :=
  if c.wscAllocated && decide (0 < s.scan.wsc.peerWscIeLen) &&
      decide (s.scan.wsc.peerWscIeLen ≤ wscBufferLen) && s.scan.wsc.bWscCheck then
    { s with
      scan := s.scan.appendWsc c
      pVIE := (s.pVIE.write s.scan.lengthVIE (wscIe s.scan.wsc.peerWscIeLen.toNat)).write
        (s.scan.lengthVIE + 6) (s.pPeerWscIe.bytes 0 s.scan.wsc.peerWscIeLen.toNat) }
  else s

structure VieOutcome where
  accepted : Bool
  state : VieState

/-- `PeerBeaconAndProbeRspSanity` with the buffers it is given and allocates. -/
def reportBeacon (c : BeaconContext) (mem : Memory) (msgLen : Nat) (pVIE pPeerWscIe : Memory) :
    Option VieOutcome :=
  match writeElements c mem msgLen 36 ⟨scanStart, pVIE, pPeerWscIe⟩ with
  | none => none
  | some (s, .failed) => some ⟨false, s⟩
  | some (s, .sanityCheck) => some ⟨decide (s.scan.sanity = 7) && s.scan.wsc.bWscCheck, s⟩
  | some (s, .next) =>
      let s := s.appendWsc c
      let sanity := if 14 < c.latchRfChannel then s.scan.sanity ||| 4 else s.scan.sanity
      some ⟨decide (sanity = 7) && s.scan.wsc.bWscCheck,
        { s with scan := { s.scan with sanity := sanity } }⟩

/-- The `LengthVIE` bytes of `pVIE`. -/
def VieOutcome.reported (outcome : VieOutcome) : List UInt8 :=
  outcome.state.pVIE.bytes 0 outcome.state.scan.lengthVIE

/-- The element at an address of the frame. -/
def elementAt (mem : Memory) (pEid : Nat) : Element where
  id := mem pEid
  octets := mem.bytes (pEid + 2) (lenAt mem pEid)
  short := by
    rw [Memory.length_bytes]
    exact lenAt_lt mem pEid

section payload
variable (c : BeaconContext) (mem : Memory) (visited : List Visit)

def retained : List Element :=
  (visited.filter fun visit => (visit.effect c mem).reported).map fun visit =>
    elementAt mem visit.pEid

def wpsElements : List Visit := visited.filter fun visit => (visit.effect c mem).wps

/-- What follows the OUI of a WPS element. -/
def wpsBody (visit : Visit) : List UInt8 := mem.bytes (visit.pEid + 6) (lenAt mem visit.pEid - 4)

def startsVersion (visit : Visit) : Bool := mem (visit.pEid + 6) == 0x10

/-- The elements since the last one that starts with the version, or all, if none does. -/
def sinceVersion : List Visit :=
  visited.foldl (fun since visit => if startsVersion mem visit then [visit] else since ++ [visit]) []

/-- The bodies of all the WPS elements. -/
def wpsBodies : List UInt8 := (wpsElements c mem visited).flatMap (wpsBody mem)

/-- The bodies that the WPS buffer holds in the end. -/
def wpsPayload : List UInt8 := (sinceVersion mem (wpsElements c mem visited)).flatMap (wpsBody mem)

/-- The payload that is appended: none when the loop is left for the label behind that. -/
def carriedPayload (stop : Stop) : List UInt8 :=
  if stop = .left then [] else wpsPayload c mem visited

end payload

/-- What is reported are the retained elements, and behind them one WPS element with the payload
if there is any. -/
def VieOutcome.Carries (c : BeaconContext) (mem : Memory) (visited : List Visit)
    (payload : List UInt8) (outcome : VieOutcome) : Prop :=
  ∃ wps : List Element,
    wps.map (fun element => (element.id, element.octets)) =
      (if payload = [] then [] else [(0xdd, wpsOui ++ payload)]) ∧
    outcome.reported = encode (retained c mem visited ++ wps) ∧
    decode outcome.reported = some (retained c mem visited ++ wps)

theorem encode_elementAt (mem : Memory) (pEid : Nat) :
    (elementAt mem pEid).encode = mem.bytes pEid (lenAt mem pEid + 2) := by
  have length : UInt8.ofNat (lenAt mem pEid) = mem (pEid + 1) := UInt8.ofNat_toNat
  rw [Nat.add_comm, Memory.bytes_append, Element.encode]
  simp only [elementAt, Memory.length_bytes, length]
  rfl

theorem retained_snoc (c : BeaconContext) (mem : Memory) (visited : List Visit) (visit : Visit) :
    encode (retained c mem (visited ++ [visit])) =
      encode (retained c mem visited) ++
        if (visit.effect c mem).reported then mem.bytes visit.pEid (lenAt mem visit.pEid + 2)
        else [] := by
  unfold retained
  rw [List.filter_append, List.map_append, encode_append]
  congr 1
  split_ifs with reported
  · rw [List.filter_cons, if_pos reported, List.filter_nil, List.map_singleton, encode_cons,
      encode_elementAt, encode_nil, List.append_nil]
  · rw [List.filter_cons, if_neg reported]
    rfl

theorem wpsPayload_snoc (c : BeaconContext) (mem : Memory) (visited : List Visit) (visit : Visit) :
    wpsPayload c mem (visited ++ [visit]) =
      if (visit.effect c mem).wps then
        if startsVersion mem visit then wpsBody mem visit
        else wpsPayload c mem visited ++ wpsBody mem visit
      else wpsPayload c mem visited := by
  unfold wpsPayload wpsElements
  rw [List.filter_append]
  split_ifs with wps starts
  · rw [List.filter_cons, if_pos wps, List.filter_nil, sinceVersion, List.foldl_append,
      List.foldl_cons, List.foldl_nil, if_pos starts, List.flatMap_singleton]
  · rw [List.filter_cons, if_pos wps, List.filter_nil, sinceVersion, List.foldl_append,
      List.foldl_cons, List.foldl_nil, if_neg starts, List.flatMap_append, List.flatMap_singleton]
    rfl
  · rw [List.filter_cons, if_neg wps, List.filter_nil, List.append_nil]

/-- The WPS buffer holds a payload. -/
structure WscHolds (c : BeaconContext) (payload : List UInt8) (wsc : WscState)
    (pPeerWscIe : Memory) : Prop where
  peerWscIeLen : wsc.peerWscIeLen = payload.length
  pPeerWscIe : pPeerWscIe.Holds 0 payload
  bounded : payload.length ≤ wscBufferLen
  allocated : payload ≠ [] → c.wscAllocated = true

theorem copyWsc_some {mem : Memory} {pEid : Nat} {buffer buffer' : Memory} {copy : WscCopy}
    (run : [copy].foldlM (copyWsc mem pEid) buffer = some buffer') :
    0 ≤ copy.count ∧
      buffer' = buffer.write copy.offset.toNat (mem.bytes (pEid + 6) copy.count.toNat) := by
  rw [List.foldlM_cons] at run
  obtain ⟨copied, written, rest⟩ := Option.bind_eq_some_iff.mp run
  cases rest
  unfold copyWsc at written
  split_ifs at written with negative
  exact ⟨not_lt.mp negative, (Option.some.inj written).symm⟩

/-- One more WPS element comes into the buffer, in place of the others or behind them. -/
theorem wscReassemble_holds {c : BeaconContext} {mem : Memory} (visit : Visit) {wsc : WscState}
    {payload : List UInt8} {buffer buffer' : Memory}
    (held : wsc.bWscCheck = true → WscHolds c payload wsc buffer)
    (run : (wscReassemble c mem visit.pEid wsc).2.foldlM (copyWsc mem visit.pEid) buffer =
      some buffer')
    (check : (wscReassemble c mem visit.pEid wsc).1.bWscCheck = true) :
    WscHolds c (if startsVersion mem visit then wpsBody mem visit
        else payload ++ wpsBody mem visit)
      (wscReassemble c mem visit.pEid wsc).1 buffer' := by
  have byte := lenAt_lt mem visit.pEid
  have bodyLength : (wpsBody mem visit).length = lenAt mem visit.pEid - 4 :=
    Memory.length_bytes _ _ _
  have count : ((lenAt mem visit.pEid : Int) - 4).toNat = lenAt mem visit.pEid - 4 := by omega
  unfold wscReassemble at run check ⊢
  dsimp only at run check ⊢
  by_cases allocated : c.wscAllocated = true
  · rw [if_pos allocated] at run check ⊢
    by_cases first : mem (visit.pEid + 6) = 0x10
    · rw [if_pos first] at run check ⊢
      have starts : startsVersion mem visit = true := beq_iff_eq.mpr first
      rw [if_pos starts]
      obtain ⟨counted, rfl⟩ := copyWsc_some run
      refine ⟨?_, ?_, ?_, fun _ => allocated⟩
      · dsimp only at counted ⊢
        omega
      · rw [count]
        exact Memory.write_holds _ 0 (wpsBody mem visit)
      · rw [bodyLength, wscBufferLen]
        omega
    · rw [if_neg first] at run check ⊢
      have goesOn : ¬startsVersion mem visit = true := mt beq_iff_eq.mp first
      rw [if_neg goesOn]
      by_cases room : wsc.peerWscIeLen + ((lenAt mem visit.pEid : Int) - 4) ≤ wscBufferLen
      · rw [if_pos room] at run check ⊢
        obtain ⟨length, holds, -, -⟩ := held check
        obtain ⟨counted, rfl⟩ := copyWsc_some run
        dsimp only at counted
        refine ⟨?_, ?_, ?_, fun _ => allocated⟩
        · rw [List.length_append]
          dsimp only
          omega
        · have behind := Memory.holds_write_behind holds (wpsBody mem visit)
          rw [Nat.zero_add] at behind
          rw [length, Int.toNat_natCast, count]
          exact behind
        · rw [List.length_append]
          omega
      · rw [if_neg room] at check
        cases check
  · rw [if_neg allocated] at check
    cases check

/-- The state of the scan after the elements visited so far. -/
structure VieState.Gathers (c : BeaconContext) (mem : Memory) (visited : List Visit)
    (s : VieState) : Prop where
  lengthVIE : s.scan.lengthVIE = (encode (retained c mem visited)).length
  pVIE : s.pVIE.Holds 0 (encode (retained c mem visited))
  wsc : s.scan.wsc.bWscCheck = true →
    WscHolds c (wpsPayload c mem visited) s.scan.wsc s.pPeerWscIe

theorem gathers_start (c : BeaconContext) (mem pVIE pPeerWscIe : Memory) :
    VieState.Gathers c mem [] ⟨scanStart, pVIE, pPeerWscIe⟩ :=
  ⟨rfl, rfl, fun _ => ⟨rfl, rfl, Nat.zero_le _, fun some => absurd rfl some⟩⟩

theorem VieState.Gathers.readLen {c : BeaconContext} {mem : Memory} {visited : List Visit}
    {s : VieState} (gathers : s.Gathers c mem visited) (pEid : Nat) :
    (s.readLen pEid).Gathers c mem visited :=
  ⟨gathers.lengthVIE, gathers.pVIE, gathers.wsc⟩

theorem element_scan {c : BeaconContext} {mem : Memory} {pEid : Nat} {s : VieState}
    {handled : VieState × Exit} (run : s.element c mem pEid = some handled) :
    (handled.1.scan, handled.2) = s.scan.element c mem pEid := by
  obtain ⟨pPeerWscIe, -, rfl⟩ := Option.map_eq_some_iff.mp run
  rfl

/-- What one element does to the two buffers. -/
theorem element_gathers {c : BeaconContext} {mem : Memory} {visited : List Visit} {pEid : Nat}
    {s : VieState} {handled : VieState × Exit} (gathers : s.Gathers c mem visited)
    (run : s.element c mem pEid = some handled) :
    handled.1.Gathers c mem (visited ++ [s.scan.visit pEid]) := by
  unfold VieState.element at run
  obtain ⟨pPeerWscIe, copied, rfl⟩ := Option.map_eq_some_iff.mp run
  refine ⟨?_, ?_, ?_⟩
  · rw [retained_snoc, List.length_append, ← gathers.lengthVIE]
    change (if ((s.scan.visit pEid).effect c mem).reported then
      s.scan.lengthVIE + (lenAt mem pEid + 2) else s.scan.lengthVIE) = _
    split_ifs
    · rw [Memory.length_bytes]
      rfl
    · rfl
  · rw [retained_snoc]
    change (if ((s.scan.visit pEid).effect c mem).reported then
      s.pVIE.write s.scan.lengthVIE (mem.bytes pEid (lenAt mem pEid + 2)) else s.pVIE).Holds 0 _
    split_ifs
    · have behind := Memory.holds_write_behind gathers.pVIE (mem.bytes pEid (lenAt mem pEid + 2))
      rw [Nat.zero_add, ← gathers.lengthVIE] at behind
      exact behind
    · rw [List.append_nil]
      exact gathers.pVIE
  · have same : (s.scan.element c mem pEid).1.wsc =
        (if ((s.scan.visit pEid).effect c mem).wps then wscReassemble c mem pEid s.scan.wsc
          else (s.scan.wsc, [])).1 := rfl
    rw [wpsPayload_snoc]
    dsimp only
    rw [same]
    change List.foldlM (copyWsc mem pEid) s.pPeerWscIe
      (if ((s.scan.visit pEid).effect c mem).wps then (wscReassemble c mem pEid s.scan.wsc).2
        else []) = some pPeerWscIe at copied
    intro check
    by_cases wps : ((s.scan.visit pEid).effect c mem).wps = true
    · rw [if_pos wps] at copied check ⊢
      rw [if_pos wps]
      exact wscReassemble_holds (s.scan.visit pEid) gathers.wsc copied check
    · rw [if_neg wps] at copied check ⊢
      rw [if_neg wps]
      cases copied
      exact gathers.wsc check

section run
variable {c : BeaconContext} {mem : Memory} {msgLen : Nat}

theorem write_before {length : Nat} {s : VieState}
    (ended : length + 2 + lenAt mem length ≤ msgLen →
      maxVieLen ≤ s.scan.lengthVIE + lenAt mem length + 2) :
    writeElements c mem msgLen length s = some (s.readLen length, .next) := by
  rw [writeElements]
  by_cases complete : length + 2 + lenAt mem length ≤ msgLen
  · simp only [if_pos complete]
    exact if_pos (ended complete)
  · simp only [if_neg complete]

theorem write_element {length : Nat} {s : VieState}
    (complete : length + 2 + lenAt mem length ≤ msgLen)
    (room : s.scan.lengthVIE + lenAt mem length + 2 < maxVieLen) :
    writeElements c mem msgLen length s =
      ((s.readLen length).element c mem length).bind fun handled =>
        if handled.2 = .next then
          writeElements c mem msgLen (length + 2 + lenAt mem length) handled.1
        else some handled := by
  rw [writeElements]
  simp only [if_pos complete]
  refine (if_neg (not_le.mpr room)).trans ?_
  cases (s.readLen length).element c mem length with
  | none => rfl
  | some handled => rfl

/-- Where the scan goes on behind an element, so does the loop, with the state of the scan. -/
theorem element_goesOn {length : Nat} {s : VieState} {handled : VieState × Exit}
    (goesOn : GoesOn c mem msgLen length s.scan)
    (element : (s.readLen length).element c mem length = some handled) :
    handled.2 = .next ∧ handled.1.scan = ((s.scan.readLen length).element c mem length).1 := by
  have same := element_scan element
  exact ⟨(congrArg Prod.snd same).trans goesOn.exit, congrArg Prod.fst same⟩

/-- The loop gathers what it visits, and goes the way of the scan. -/
theorem writeElements_gathers (length : Nat) (scan : ScanState) {visited : List Visit}
    {pVIE pPeerWscIe : Memory} {handled : VieState × Exit}
    (gathers : VieState.Gathers c mem visited ⟨scan, pVIE, pPeerWscIe⟩)
    (run : writeElements c mem msgLen length ⟨scan, pVIE, pPeerWscIe⟩ = some handled) :
    handled.1.Gathers c mem (visited ++ (visitsFrom c mem msgLen length scan).1) ∧
      (handled.1.scan, handled.2) = scanElements c mem msgLen length scan := by
  induction length, scan using scan_induction c mem msgLen generalizing visited pVIE pPeerWscIe with
  | before length scan ended =>
      rw [write_before ended] at run
      cases run
      obtain ⟨scanned, visits⟩ := scan_before (c := c) ended
      rw [scanned, visits, List.append_nil]
      exact ⟨gathers.readLen length, rfl⟩
  | within length scan complete room exit =>
      rw [write_element complete room] at run
      obtain ⟨next, element, rest⟩ := Option.bind_eq_some_iff.mp run
      obtain ⟨scanned, visits⟩ := scan_within complete room exit
      have gathered := element_gathers (gathers.readLen length) element
      have same := element_scan element
      have left : next.2 = ((scan.visit length).effect c mem).exit := congrArg Prod.snd same
      rw [if_neg (left ▸ exit)] at rest
      cases rest
      rw [scanned, visits]
      exact ⟨gathered, same⟩
  | behind length scan goesOn ih =>
      rw [write_element goesOn.complete goesOn.room] at run
      obtain ⟨⟨next, exit⟩, element, rest⟩ := Option.bind_eq_some_iff.mp run
      obtain ⟨scanned, visits⟩ := scan_behind goesOn
      have gathered := element_gathers (gathers.readLen length) element
      obtain ⟨stays, scan'⟩ := element_goesOn goesOn element
      rw [if_pos stays] at rest
      obtain ⟨nextScan, nextVIE, nextWsc⟩ := next
      cases scan'
      rw [scanned, visits, List.append_cons]
      exact ih gathered rest

theorem element_some {length : Nat} {s : VieState}
    (long : ((s.scan.visit length).effect c mem).wps = true → c.wscAllocated = true →
      4 ≤ lenAt mem length) : ∃ handled, s.element c mem length = some handled := by
  have copied : ∃ buffer, (if ((s.scan.visit length).effect c mem).wps then
      (wscReassemble c mem length s.scan.wsc).2 else []).foldlM (copyWsc mem length)
        s.pPeerWscIe = some buffer := by
    have single (copy : WscCopy) (counted : ¬copy.count < 0) :
        ∃ buffer, [copy].foldlM (copyWsc mem length) s.pPeerWscIe = some buffer := by
      simp [copyWsc, counted]
    split_ifs with wps
    · unfold wscReassemble
      dsimp only
      split_ifs with allocated first room
      · have enough := long wps allocated
        apply single
        dsimp only
        omega
      · have enough := long wps allocated
        apply single
        dsimp only
        omega
      · exact ⟨_, rfl⟩
      · exact ⟨_, rfl⟩
    · exact ⟨_, rfl⟩
  obtain ⟨buffer, copied⟩ := copied
  exact ⟨_, Option.map_eq_some_iff.mpr ⟨buffer, copied, rfl⟩⟩

/-- There is a return from the loop unless a WPS element has less than four octets. -/
theorem writeElements_some (length : Nat) (scan : ScanState)
    (long : ∀ visit ∈ (visitsFrom c mem msgLen length scan).1, (visit.effect c mem).wps = true →
      c.wscAllocated = true → 4 ≤ lenAt mem visit.pEid) (pVIE pPeerWscIe : Memory) :
    ∃ handled, writeElements c mem msgLen length ⟨scan, pVIE, pPeerWscIe⟩ = some handled := by
  induction length, scan using scan_induction c mem msgLen generalizing pVIE pPeerWscIe with
  | before length scan ended => exact ⟨_, write_before ended⟩
  | within length scan complete room exit =>
      rw [(scan_within complete room exit).2] at long
      obtain ⟨next, element⟩ := element_some (s := ⟨scan.readLen length, pVIE, pPeerWscIe⟩)
        (long _ (List.mem_singleton.mpr rfl))
      have same := element_scan element
      have left : next.2 ≠ .next := (congrArg Prod.snd same).trans_ne exit
      refine ⟨next, ?_⟩
      rw [write_element complete room, Option.bind_eq_some_iff]
      exact ⟨next, element, if_neg left⟩
  | behind length scan goesOn ih =>
      rw [(scan_behind goesOn).2] at long
      obtain ⟨first, others⟩ := List.forall_mem_cons.mp long
      let s : VieState := ⟨scan, pVIE, pPeerWscIe⟩
      obtain ⟨⟨next, exit⟩, element⟩ := @element_some c mem length (s.readLen length) first
      obtain ⟨stays, scan'⟩ := @element_goesOn c mem msgLen length s _ goesOn element
      obtain ⟨nextScan, nextVIE, nextWsc⟩ := next
      cases scan'
      obtain ⟨handled, rest⟩ := ih others nextVIE nextWsc
      refine ⟨handled, ?_⟩
      rw [write_element goesOn.complete goesOn.room, Option.bind_eq_some_iff]
      exact ⟨_, element, (if_pos stays).trans rest⟩

end run

/-- The function returns unless a WPS element has less than four octets. -/
theorem reportBeacon_some {c : BeaconContext} {mem : Memory} {msgLen : Nat}
    (long : ∀ visit ∈ (visits c mem msgLen 36 0 false false).1, (visit.effect c mem).wps = true →
      c.wscAllocated = true → 4 ≤ lenAt mem visit.pEid) (pVIE pPeerWscIe : Memory) :
    ∃ outcome, reportBeacon c mem msgLen pVIE pPeerWscIe = some outcome := by
  obtain ⟨⟨s, exit⟩, walk⟩ := writeElements_some 36 scanStart long pVIE pPeerWscIe
  unfold reportBeacon
  rw [walk]
  cases exit with
  | next => exact ⟨_, rfl⟩
  | sanityCheck => exact ⟨_, rfl⟩
  | failed => exact ⟨_, rfl⟩

theorem appendWsc_scan (c : BeaconContext) (s : VieState) :
    (s.appendWsc c).scan = s.scan.appendWsc c := by
  unfold VieState.appendWsc
  split_ifs with appended
  · rfl
  · rw [ScanState.appendWsc, if_neg appended]

theorem appendWsc_wsc (c : BeaconContext) (s : VieState) :
    (s.appendWsc c).scan.wsc = s.scan.wsc := by
  rw [appendWsc_scan]
  unfold ScanState.appendWsc
  split_ifs
  · rfl
  · rfl

/-- The run over the buffers takes the decisions of the scan. -/
theorem reportBeacon_scan {c : BeaconContext} {mem : Memory} {msgLen : Nat}
    {pVIE pPeerWscIe : Memory} {outcome : VieOutcome}
    (run : reportBeacon c mem msgLen pVIE pPeerWscIe = some outcome) :
    (⟨outcome.accepted, outcome.state.scan⟩ : BeaconOutcome) =
      peerBeaconAndProbeRspSanity c mem msgLen := by
  unfold reportBeacon at run
  cases walk : writeElements c mem msgLen 36 ⟨scanStart, pVIE, pPeerWscIe⟩ with
  | none =>
      rw [walk] at run
      cases run
  | some handled =>
      obtain ⟨-, scanned⟩ := writeElements_gathers 36 scanStart
        (gathers_start c mem pVIE pPeerWscIe) walk
      obtain ⟨s, exit⟩ := handled
      rw [walk] at run
      unfold peerBeaconAndProbeRspSanity
      rw [← scanned]
      cases exit with
      | next =>
          cases run
          simp only [appendWsc_scan]
      | sanityCheck =>
          cases run
          rfl
      | failed =>
          cases run
          rfl

/-- The WPS element behind the others, if there is a payload. -/
def wpsTail (payload : List UInt8) : List UInt8 :=
  if payload = [] then [] else wscIe payload.length ++ payload

theorem appendWsc_bytes {c : BeaconContext} {mem : Memory} {visited : List Visit} {s : VieState}
    (gathers : s.Gathers c mem visited) (check : s.scan.wsc.bWscCheck = true) :
    (s.appendWsc c).pVIE.bytes 0 (s.appendWsc c).scan.lengthVIE =
      encode (retained c mem visited) ++ wpsTail (wpsPayload c mem visited) := by
  obtain ⟨length, holds, bounded, allocated⟩ := gathers.wsc check
  have retainedHolds := gathers.pVIE
  have lengthVIE := gathers.lengthVIE
  have count : s.scan.wsc.peerWscIeLen.toNat = (wpsPayload c mem visited).length := by omega
  by_cases empty : wpsPayload c mem visited = []
  · have nothing : ¬(c.wscAllocated && decide (0 < s.scan.wsc.peerWscIeLen) &&
        decide (s.scan.wsc.peerWscIeLen ≤ wscBufferLen) && s.scan.wsc.bWscCheck) = true := by
      rw [length, empty]
      simp
    rw [VieState.appendWsc, if_neg nothing, wpsTail, if_pos empty, List.append_nil, lengthVIE]
    exact retainedHolds
  · have positive := List.length_pos_iff.mpr empty
    have appended : (c.wscAllocated && decide (0 < s.scan.wsc.peerWscIeLen) &&
        decide (s.scan.wsc.peerWscIeLen ≤ wscBufferLen) && s.scan.wsc.bWscCheck) = true := by
      simp only [allocated empty, check, length, Bool.true_and, Bool.and_true, Bool.and_eq_true,
        decide_eq_true_eq]
      omega
    have total : (s.appendWsc c).scan.lengthVIE =
        (encode (retained c mem visited) ++
          (wscIe (wpsPayload c mem visited).length ++ wpsPayload c mem visited)).length := by
      rw [appendWsc_scan, ScanState.appendWsc, if_pos appended]
      simp only [List.length_append, wscIe, List.length_cons, List.length_nil]
      omega
    have front := Memory.holds_write_behind retainedHolds
      (wscIe (wpsPayload c mem visited).length)
    have back := Memory.holds_write_behind front (wpsPayload c mem visited)
    rw [wpsTail, if_neg empty, total, VieState.appendWsc, if_pos appended]
    dsimp only
    rw [count, holds, lengthVIE, ← List.append_assoc]
    rw [List.length_append, ← Nat.add_assoc, Nat.zero_add] at back
    exact back

/-- The bytes an accepted beacon or probe response leaves in `pVIE`. -/
theorem reported_eq {c : BeaconContext} {mem : Memory} {msgLen : Nat} {pVIE pPeerWscIe : Memory}
    {outcome : VieOutcome} (run : reportBeacon c mem msgLen pVIE pPeerWscIe = some outcome)
    (accepted : outcome.accepted = true) :
    outcome.reported = encode (retained c mem (visits c mem msgLen 36 0 false false).1) ++
      wpsTail (carriedPayload c mem (visits c mem msgLen 36 0 false false).1
        (visits c mem msgLen 36 0 false false).2) := by
  unfold reportBeacon at run
  cases walk : writeElements c mem msgLen 36 ⟨scanStart, pVIE, pPeerWscIe⟩ with
  | none =>
      rw [walk] at run
      cases run
  | some handled =>
      obtain ⟨gathers, scanned⟩ := writeElements_gathers 36 scanStart
        (gathers_start c mem pVIE pPeerWscIe) walk
      obtain ⟨exits, -⟩ := scan_result c mem msgLen 36 scanStart (by decide)
      have same : visitsFrom c mem msgLen 36 scanStart = visits c mem msgLen 36 0 false false := rfl
      rw [← scanned, same] at exits
      rw [same, List.nil_append] at gathers
      obtain ⟨s, exit⟩ := handled
      rw [walk] at run
      cases exit with
      | next =>
          cases run
          have check : s.scan.wsc.bWscCheck = true := by
            rw [← appendWsc_wsc c s]
            exact (Bool.and_eq_true_iff.mp accepted).2
          have stays := exits.mp rfl
          rw [carriedPayload, if_neg stays]
          exact appendWsc_bytes gathers check
      | sanityCheck =>
          cases run
          have left : (visits c mem msgLen 36 0 false false).2 = .left := by
            by_contra stays
            cases exits.mpr stays
          rw [carriedPayload, if_pos left, wpsTail, if_pos rfl, List.append_nil, VieOutcome.reported,
            gathers.lengthVIE]
          exact gathers.pVIE
      | failed =>
          cases run
          cases accepted

theorem wscIe_append {payload : List UInt8} (short : payload.length ≤ 251) :
    ∃ wps : Element, wps.encode = wscIe payload.length ++ payload ∧ wps.id = 0xdd ∧
      wps.octets = wpsOui ++ payload := by
  have length : (wpsOui ++ payload).length = payload.length + 4 := by
    rw [List.length_append, Nat.add_comm]
    rfl
  refine ⟨⟨0xdd, wpsOui ++ payload, by omega⟩, ?_, rfl, rfl⟩
  change 0xdd :: UInt8.ofNat (wpsOui ++ payload).length :: (wpsOui ++ payload) = _
  rw [length]
  rfl

/-- The one WPS element the tail is, if it is not empty. -/
theorem wpsTail_element {payload : List UInt8} (short : payload.length ≤ 251) :
    ∃ wps : List Element, encode wps = wpsTail payload ∧
      wps.map (fun element => (element.id, element.octets)) =
        if payload = [] then [] else [(0xdd, wpsOui ++ payload)] := by
  unfold wpsTail
  split_ifs
  · exact ⟨[], rfl, rfl⟩
  · obtain ⟨wps, encoded, id, octets⟩ := wscIe_append short
    refine ⟨[wps], ?_, ?_⟩
    · rw [encode_cons, encoded, encode_nil, List.append_nil]
    · rw [List.map_singleton, id, octets]

theorem sinceVersion_continued (mem : Memory) (first : Visit) (rest : List Visit)
    (continued : ∀ visit ∈ rest, startsVersion mem visit = false) :
    sinceVersion mem (first :: rest) = first :: rest := by
  have kept (since : List Visit) : rest.foldl (fun since visit =>
      if startsVersion mem visit then [visit] else since ++ [visit]) since = since ++ rest := by
    induction rest generalizing since with
    | nil => exact (List.append_nil since).symm
    | cons visit rest ih =>
        obtain ⟨own, others⟩ := List.forall_mem_cons.mp continued
        rw [List.foldl_cons, own, if_neg Bool.false_ne_true, ih others, List.append_assoc]
        rfl
  rw [sinceVersion, List.foldl_cons, kept]
  split_ifs
  · rfl
  · rfl

/-- With the version in the first WPS element only, the payload is that of them all. -/
theorem wpsPayload_continued {c : BeaconContext} {mem : Memory} {visited : List Visit}
    (continued : ∀ visit ∈ (wpsElements c mem visited).tail, startsVersion mem visit = false) :
    wpsPayload c mem visited = wpsBodies c mem visited := by
  unfold wpsPayload wpsBodies
  cases found : wpsElements c mem visited with
  | nil => rfl
  | cons first rest =>
      rw [found] at continued
      rw [sinceVersion_continued mem first rest continued]

/-- An accepted beacon or probe response leaves its retained elements in `pVIE`, and behind them
the WPS element with the bodies since the last version, as long as its length byte can count
them. -/
theorem reportBeacon_carries {c : BeaconContext} {mem : Memory} {msgLen : Nat}
    {pVIE pPeerWscIe : Memory} {outcome : VieOutcome}
    (run : reportBeacon c mem msgLen pVIE pPeerWscIe = some outcome)
    (accepted : outcome.accepted = true)
    (short : (carriedPayload c mem (visits c mem msgLen 36 0 false false).1
      (visits c mem msgLen 36 0 false false).2).length ≤ 251) :
    outcome.Carries c mem (visits c mem msgLen 36 0 false false).1
        (carriedPayload c mem (visits c mem msgLen 36 0 false false).1
          (visits c mem msgLen 36 0 false false).2) ∧
      ((visits c mem msgLen 36 0 false false).2 ≠ .left →
        (∀ visit ∈ (wpsElements c mem (visits c mem msgLen 36 0 false false).1).tail,
          startsVersion mem visit = false) →
        outcome.Carries c mem (visits c mem msgLen 36 0 false false).1
          (wpsBodies c mem (visits c mem msgLen 36 0 false false).1)) := by
  have carries : outcome.Carries c mem (visits c mem msgLen 36 0 false false).1
      (carriedPayload c mem (visits c mem msgLen 36 0 false false).1
        (visits c mem msgLen 36 0 false false).2) := by
    obtain ⟨wps, encoded, content⟩ := wpsTail_element short
    have bytes : outcome.reported = encode
        (retained c mem (visits c mem msgLen 36 0 false false).1 ++ wps) := by
      rw [reported_eq run accepted, encode_append, encoded]
    refine ⟨wps, content, bytes, ?_⟩
    rw [bytes, decode_encode]
  refine ⟨carries, fun stays continued => ?_⟩
  rw [carriedPayload, if_neg stays, wpsPayload_continued continued] at carries
  exact carries

/-- A beacon with two WPS elements that both start with the version 0x10. -/
def restartBeacon : Memory := fun address =>
  [0x00, 0, 0x01, 0, 0xdd, 5, 0x00, 0x50, 0xf2, 0x04, 0x10, 0xdd, 5, 0x00, 0x50, 0xf2, 0x04,
    0x10].getD (address - 36) 0

/-- An access point on channel 36. -/
def restartContext : BeaconContext := { apBeaconContext with latchRfChannel := 36 }

/-- The scan behind some elements of the beacon. -/
def restartScan (behind : List Nat) : ScanState :=
  behind.foldl (fun s pEid => ((s.readLen pEid).element restartContext restartBeacon pEid).1)
    scanStart

theorem restartBeacon_walk :
    scanElements restartContext restartBeacon 54 36 scanStart =
        ((restartScan [36, 38, 40, 47]).readLen 54, .next) ∧
      visits restartContext restartBeacon 54 36 0 false false =
        ([⟨36, false, false⟩, ⟨38, true, false⟩, ⟨40, true, false⟩, ⟨47, true, false⟩],
          .ranOut 54) := by
  have ssid : GoesOn restartContext restartBeacon 54 36 (restartScan []) :=
    ⟨by decide, by decide, by decide⟩
  have rates : GoesOn restartContext restartBeacon 54 38 (restartScan [36]) :=
    ⟨by decide, by decide, by decide⟩
  have first : GoesOn restartContext restartBeacon 54 40 (restartScan [36, 38]) :=
    ⟨by decide, by decide, by decide⟩
  have second : GoesOn restartContext restartBeacon 54 47 (restartScan [36, 38, 40]) :=
    ⟨by decide, by decide, by decide⟩
  have ends : ¬54 + 2 + lenAt restartBeacon 54 ≤ 54 := by decide
  have last := scan_before (c := restartContext) (s := restartScan [36, 38, 40, 47])
    fun complete => absurd complete ends
  constructor
  · exact (scan_behind ssid).1.trans ((scan_behind rates).1.trans
      ((scan_behind first).1.trans ((scan_behind second).1.trans last.1)))
  · have step {length : Nat} {s : ScanState}
        (goesOn : GoesOn restartContext restartBeacon 54 length s) {rest : List Visit} {stop : Stop}
        (walked : visitsFrom restartContext restartBeacon 54 (length + 2 + lenAt restartBeacon length)
          ((s.readLen length).element restartContext restartBeacon length).1 = (rest, stop)) :
        visitsFrom restartContext restartBeacon 54 length s = (s.visit length :: rest, stop) := by
      rw [(scan_behind goesOn).2, walked]
    exact step ssid (step rates (step first (step second last.2)))

theorem restartBeacon_accepted :
    ∃ outcome, reportBeacon restartContext restartBeacon 54 (fun _ => 0) (fun _ => 0) =
      some outcome ∧ outcome.accepted = true := by
  obtain ⟨scanned, visited⟩ := restartBeacon_walk
  have long : ∀ visit ∈ (visits restartContext restartBeacon 54 36 0 false false).1,
      (visit.effect restartContext restartBeacon).wps = true →
        restartContext.wscAllocated = true → 4 ≤ lenAt restartBeacon visit.pEid := by
    rw [visited]
    decide
  obtain ⟨outcome, run⟩ := reportBeacon_some long (fun _ => 0) (fun _ => 0)
  refine ⟨outcome, run, ?_⟩
  refine (congrArg BeaconOutcome.accepted (reportBeacon_scan run)).trans ?_
  unfold peerBeaconAndProbeRspSanity
  rw [scanned]
  decide

/-- The body of the first of the two is not carried. -/
theorem restartBeacon_not_whole :
    ∃ outcome, reportBeacon restartContext restartBeacon 54 (fun _ => 0) (fun _ => 0) =
        some outcome ∧ outcome.accepted = true ∧
      ¬outcome.Carries restartContext restartBeacon
        (visits restartContext restartBeacon 54 36 0 false false).1
        (wpsBodies restartContext restartBeacon
          (visits restartContext restartBeacon 54 36 0 false false).1) := by
  obtain ⟨outcome, run, accepted⟩ := restartBeacon_accepted
  have visited := restartBeacon_walk.2
  refine ⟨outcome, run, accepted, ?_⟩
  rintro ⟨wps, content, bytes, -⟩
  rw [reported_eq run accepted, visited] at bytes
  rw [visited] at content
  have whole : wps.map (fun element => (element.id, element.octets)) =
      [(0xdd, wpsOui ++ [0x10, 0x10])] := content
  have cut : wscIe 1 ++ [0x10] = encode wps := bytes
  obtain ⟨element, rfl, same⟩ := List.map_eq_singleton_iff.mp whole
  have octets : element.octets = wpsOui ++ [0x10, 0x10] := congrArg Prod.snd same
  have lengths := congrArg List.length cut
  rw [encode_cons, encode_nil, List.append_nil, Element.encode, octets] at lengths
  exact absurd lengths (by simp [wscIe, wpsOui])

/-- What the second one carries is reported in full. -/
theorem reportBeacon_carries_restart :
    ∃ outcome, reportBeacon restartContext restartBeacon 54 (fun _ => 0) (fun _ => 0) =
        some outcome ∧
      outcome.Carries restartContext restartBeacon
        (visits restartContext restartBeacon 54 36 0 false false).1 [0x10] := by
  obtain ⟨outcome, run, accepted⟩ := restartBeacon_accepted
  have visited := restartBeacon_walk.2
  have payload : carriedPayload restartContext restartBeacon
      (visits restartContext restartBeacon 54 36 0 false false).1
      (visits restartContext restartBeacon 54 36 0 false false).2 = [0x10] := by
    rw [visited]
    decide
  have carries := (reportBeacon_carries run accepted (by rw [payload]; decide)).1
  rw [payload] at carries
  exact ⟨outcome, run, carries⟩

end Mt7612u.Mlme
