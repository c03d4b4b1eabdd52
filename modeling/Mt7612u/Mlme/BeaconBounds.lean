import Mt7612u.Mlme.BeaconSanity

/-! When `PeerBeaconAndProbeRspSanity` stays inside the frame, inside `pVIE` and inside its WPS
buffer. -/

namespace Mt7612u.Mlme
open Receive

/-- Nothing beyond the frame is read, nothing past a buffer's end is written, and no copy has a
negative length. -/
structure Trace.Inside (msgLen : Nat) (trace : Trace) : Prop where
  reads : ∀ span ∈ trace.reads, span.start + span.count ≤ msgLen
  vieWrites : ∀ span ∈ trace.vieWrites, span.start + span.count ≤ maxVieLen
  wscCopies : ∀ copy ∈ trace.wscCopies,
    0 ≤ copy.offset ∧ 0 ≤ copy.count ∧ copy.offset + copy.count ≤ wscBufferLen

/-- An element the loop comes to, and what it knows of the elements before. -/
structure Visit where
  pEid : Nat
  ssidSeen : Bool
  htCapability : Bool

/-- How the loop ends: where no further element fits, for want of room in `pVIE`, or from inside
the `switch`. -/
inductive Stop where
  | ranOut (pEid : Nat)
  | outOfResource
  | left
  deriving DecidableEq

def Visit.effect (c : BeaconContext) (mem : Memory) (visit : Visit) : Effect :=
  elementEffect c mem visit.pEid visit.ssidSeen visit.htCapability

/-- The elements that a frame makes the loop visit. -/
def visits (c : BeaconContext) (mem : Memory) (msgLen length vie : Nat)
    (ssidSeen htCapability : Bool) : List Visit × Stop :=
  if length + 2 + lenAt mem length ≤ msgLen then
    if maxVieLen ≤ vie + lenAt mem length + 2 then ([], .outOfResource)
    else
      let visit : Visit := ⟨length, ssidSeen, htCapability⟩
      let effect := visit.effect c mem
      if effect.exit = .next then
        let rest := visits c mem msgLen (length + 2 + lenAt mem length)
          (if effect.reported then vie + (lenAt mem length + 2) else vie)
          (ssidSeen || effect.sanity.getLsbD 0) (htCapability || effect.htCapability)
        (visit :: rest.1, rest.2)
      else ([visit], .left)
  else ([], .ranOut length)
termination_by msgLen - length

/-- How many octets of a vendor specific element the comparisons with the OUIs look at. -/
def vendorLook (c : BeaconContext) (mem : Memory) (pEid : Nat) (htCapability : Bool) : Nat :=
  if mem.equal (pEid + 2) ralinkOui && lenAt mem pEid == 7 then 3
  else if !htCapability && mem.equal (pEid + 2) broadcomOui && decide (4 ≤ lenAt mem pEid) &&
      isSta c then 3
  else if mem.equal (pEid + 2) wpaOui then 4
  else 6

/-- What the three cases without a length test of their own look at is in the frame. -/
def Visit.ReadsFit (c : BeaconContext) (mem : Memory) (msgLen : Nat) (visit : Visit) : Prop :=
  match (mem visit.pEid).toNat with
  | 5 => isOwnBeacon c mem = true → visit.pEid + 5 ≤ msgLen ∧
      ∀ myByte ∈ timBitmapByte c mem visit.pEid, visit.pEid + 5 + myByte < msgLen
  | 48 => visit.pEid + 7 ≤ msgLen
  | 221 => visit.pEid + 2 + vendorLook c mem visit.pEid visit.htCapability ≤ msgLen
  | _ => True

/-- The element is long enough for what its case does with it. -/
def Visit.Fits (c : BeaconContext) (mem : Memory) (msgLen : Nat) (visit : Visit) : Prop :=
  visit.ReadsFit c mem msgLen ∧
    ((visit.effect c mem).wps = true → c.wscAllocated = true → 4 ≤ lenAt mem visit.pEid)

/-- The elements copied to `pVIE`. -/
def reportedLength (c : BeaconContext) (mem : Memory) (visited : List Visit) : Nat :=
  (visited.map fun visit =>
    if (visit.effect c mem).reported then lenAt mem visit.pEid + 2 else 0).sum

/-- The WPS payload of the visited elements, put together. -/
def wscPayload (c : BeaconContext) (mem : Memory) (wsc : WscState) (visited : List Visit) :
    WscState :=
  visited.foldl (fun wsc visit =>
    if (visit.effect c mem).wps then (wscReassemble c mem visit.pEid wsc).1 else wsc) wsc

/-- The frames the function is made for: the elements it visits are long enough, the byte behind
the last of them is still a length byte of the frame, and the WPS payload fits behind the reported
elements. -/
structure Digestible (c : BeaconContext) (mem : Memory) (msgLen : Nat) : Prop where
  elements : ∀ visit ∈ (visits c mem msgLen 36 0 false false).1, visit.Fits c mem msgLen
  lastHeader : ∀ pEid, (visits c mem msgLen 36 0 false false).2 = .ranOut pEid → pEid + 2 ≤ msgLen
  append : (visits c mem msgLen 36 0 false false).2 ≠ .left → c.wscAllocated = true →
    (wscPayload c mem ⟨0, true⟩ (visits c mem msgLen 36 0 false false).1).bWscCheck = true →
    (wscPayload c mem ⟨0, true⟩ (visits c mem msgLen 36 0 false false).1).peerWscIeLen ≤
      wscBufferLen →
    0 < (wscPayload c mem ⟨0, true⟩ (visits c mem msgLen 36 0 false false).1).peerWscIeLen →
    (reportedLength c mem (visits c mem msgLen 36 0 false false).1 : Int) +
      (wscPayload c mem ⟨0, true⟩ (visits c mem msgLen 36 0 false false).1).peerWscIeLen + 6 ≤
        maxVieLen

section cases
variable (c : BeaconContext) (mem : Memory) (pEid : Nat)

/-- All that is read belongs to the element. -/
def Effect.Contained (effect : Effect) : Prop :=
  ∀ span ∈ effect.reads, span.start + span.count ≤ pEid + 2 + lenAt mem pEid

theorem ssidEffect_contained (seen : Bool) : (ssidEffect mem pEid seen).Contained mem pEid := by
  unfold ssidEffect
  split_ifs <;> simp_all [Effect.Contained, octets]

theorem suppRatesEffect_contained : (suppRatesEffect mem pEid).Contained mem pEid := by
  unfold suppRatesEffect
  split_ifs <;> simp_all [Effect.Contained, octets]

theorem htCapEffect_contained : (htCapEffect c mem pEid).Contained mem pEid := by
  unfold htCapEffect
  split_ifs <;> simp_all [Effect.Contained, octets, wholeElement]
  omega

theorem addHtEffect_contained : (addHtEffect c mem pEid).Contained mem pEid := by
  unfold addHtEffect
  split_ifs <;> simp_all [Effect.Contained, octets, wholeElement]
  omega

theorem exactEffect_contained (length : Nat) : (exactEffect mem pEid length).Contained mem pEid := by
  unfold exactEffect
  split_ifs <;> simp_all [Effect.Contained, octets]

theorem dsParmEffect_contained : (dsParmEffect c mem pEid).Contained mem pEid := by
  unfold dsParmEffect
  split_ifs <;> simp_all [Effect.Contained, octets]

theorem cfParmEffect_contained : (cfParmEffect mem pEid).Contained mem pEid := by
  unfold cfParmEffect
  split_ifs <;> simp_all [Effect.Contained, octets]

theorem ibssParmEffect_contained : (ibssParmEffect mem pEid).Contained mem pEid := by
  unfold ibssParmEffect
  split_ifs <;> simp_all [Effect.Contained, octets]

theorem extSuppRatesEffect_contained : (extSuppRatesEffect mem pEid).Contained mem pEid := by
  unfold extSuppRatesEffect
  split_ifs <;> simp_all [Effect.Contained, octets]

theorem aironetCkipEffect_contained : (aironetCkipEffect mem pEid).Contained mem pEid := by
  unfold aironetCkipEffect
  split_ifs <;> simp_all [Effect.Contained, ckipNegotiationLength]
  omega

theorem countryEffect_contained : (countryEffect mem pEid).Contained mem pEid := by
  simp [countryEffect, Effect.Contained, wholeElement]
  omega

theorem qbssLoadEffect_contained : (qbssLoadEffect mem pEid).Contained mem pEid := by
  unfold qbssLoadEffect
  split_ifs <;> simp_all [Effect.Contained, octets, wholeElement]

theorem extCapabilityEffect_contained : (extCapabilityEffect mem pEid).Contained mem pEid := by
  unfold extCapabilityEffect
  split_ifs <;> simp_all [Effect.Contained, octets]

theorem fieldEffect_contained (size : Nat) : (fieldEffect mem pEid size).Contained mem pEid := by
  unfold fieldEffect
  split_ifs <;> simp_all [Effect.Contained, octets]

theorem contained_empty : Effect.Contained mem pEid {} :=
  fun _ member => absurd member List.not_mem_nil

/-- But for the TIM, RSN and vendor specific elements, no case reads past its element. -/
theorem elementEffect_contained (ssidSeen htCapability : Bool) (tim : (mem pEid).toNat ≠ 5)
    (rsn : (mem pEid).toNat ≠ 48) (vendor : (mem pEid).toNat ≠ 221) :
    (elementEffect c mem pEid ssidSeen htCapability).Contained mem pEid := by
  unfold elementEffect
  split
  · exact ssidEffect_contained mem pEid ssidSeen
  · exact suppRatesEffect_contained mem pEid
  · exact htCapEffect_contained c mem pEid
  · exact addHtEffect_contained c mem pEid
  · exact exactEffect_contained mem pEid 1
  · exact dsParmEffect_contained c mem pEid
  · exact cfParmEffect_contained mem pEid
  · exact ibssParmEffect_contained mem pEid
  · contradiction
  · exact exactEffect_contained mem pEid 3
  · contradiction
  · exact extSuppRatesEffect_contained mem pEid
  · exact exactEffect_contained mem pEid 1
  · exact aironetCkipEffect_contained mem pEid
  · exact exactEffect_contained mem pEid 6
  · contradiction
  · exact countryEffect_contained mem pEid
  · exact qbssLoadEffect_contained mem pEid
  · exact extCapabilityEffect_contained mem pEid
  · exact fieldEffect_contained mem pEid _
  · exact fieldEffect_contained mem pEid _
  · exact fieldEffect_contained mem pEid _
  · exact contained_empty mem pEid

variable {mem pEid}

theorem timEffect_reads (msgLen : Nat) :
    (∀ span ∈ (timEffect c mem pEid).reads, span.start + span.count ≤ msgLen) ↔
      (isOwnBeacon c mem = true → pEid + 5 ≤ msgLen ∧
        ∀ myByte ∈ timBitmapByte c mem pEid, pEid + 5 + myByte < msgLen) := by
  unfold timEffect
  split_ifs with own
  · cases found : timBitmapByte c mem pEid <;> simp [octets, own]
  · simp [own]

theorem rsnEffect_reads {msgLen : Nat} (complete : pEid + 2 + lenAt mem pEid ≤ msgLen) :
    (∀ span ∈ (rsnEffect mem pEid).reads, span.start + span.count ≤ msgLen) ↔
      pEid + 7 ≤ msgLen := by
  unfold rsnEffect
  split_ifs
  · simp [wholeElement]
    omega
  · simp

/-- Only the comparisons of a vendor specific element may look past it. -/
theorem vendorEffect_reads {msgLen : Nat} (htCapability : Bool)
    (complete : pEid + 2 + lenAt mem pEid ≤ msgLen) :
    (∀ span ∈ (vendorEffect c mem pEid htCapability).reads, span.start + span.count ≤ msgLen) ↔
      pEid + 2 + vendorLook c mem pEid htCapability ≤ msgLen := by
  unfold vendorEffect vendorLook
  dsimp only
  by_cases ralink : (mem.equal (pEid + 2) ralinkOui && lenAt mem pEid == 7) = true
  · have seven : lenAt mem pEid = 7 := by simp_all
    rw [if_pos ralink, if_pos ralink]
    simp [octets]
    omega
  · rw [if_neg ralink, if_neg ralink]
    by_cases broadcom : (!htCapability && mem.equal (pEid + 2) broadcomOui &&
        decide (4 ≤ lenAt mem pEid) && isSta c) = true
    · have four : 4 ≤ lenAt mem pEid := by simp_all
      rw [if_pos broadcom, if_pos broadcom]
      constructor
      · intro all
        exact all (octets pEid 3) (by simp)
      · intro look span member
        simp only [List.mem_append, List.mem_cons, List.not_mem_nil, or_false,
          List.mem_ite_nil_right] at member
        obtain ((rfl | rfl) | ⟨⟨-, long⟩, rfl⟩) | ⟨⟨-, long⟩, rfl⟩ := member
        · exact look
        · simp only [octets]
          omega
        · simp only [sizeHtCapIe]
          omega
        · simp only [sizeAddHtInfoIe]
          omega
    · rw [if_neg broadcom, if_neg broadcom]
      split_ifs with wpa parm info
      · simp [octets, wholeElement]
        omega
      · have whole : lenAt mem pEid = 24 := by simp_all
        simp [octets]
        omega
      · have whole : lenAt mem pEid = 7 := by simp_all
        simp [octets]
        omega
      · simp [octets]
        omega

end cases

theorem Visit.reads_iff (c : BeaconContext) {mem : Memory} {msgLen : Nat} {visit : Visit}
    (complete : visit.pEid + 2 + lenAt mem visit.pEid ≤ msgLen) :
    (∀ span ∈ (visit.effect c mem).reads, span.start + span.count ≤ msgLen) ↔
      visit.ReadsFit c mem msgLen := by
  unfold Visit.effect Visit.ReadsFit
  split
  · rename_i tim
    have case : elementEffect c mem visit.pEid visit.ssidSeen visit.htCapability =
        timEffect c mem visit.pEid := by
      simp only [elementEffect, tim]
    rw [case]
    exact timEffect_reads c msgLen
  · rename_i rsn
    have case : elementEffect c mem visit.pEid visit.ssidSeen visit.htCapability =
        rsnEffect mem visit.pEid := by
      simp only [elementEffect, rsn]
    rw [case]
    exact rsnEffect_reads complete
  · rename_i vendor
    have case : elementEffect c mem visit.pEid visit.ssidSeen visit.htCapability =
        vendorEffect c mem visit.pEid visit.htCapability := by
      simp only [elementEffect, vendor]
    rw [case]
    exact vendorEffect_reads c visit.htCapability complete
  · rename_i tim rsn vendor
    have contained := elementEffect_contained c mem visit.pEid visit.ssidSeen visit.htCapability
      tim rsn vendor
    simp only [iff_true]
    intro span member
    exact (contained span member).trans complete

theorem Trace.inside_start (msgLen : Nat) : Trace.Inside msgLen {} :=
  ⟨fun _ member => absurd member List.not_mem_nil, fun _ member => absurd member List.not_mem_nil,
    fun _ member => absurd member List.not_mem_nil⟩

theorem readLen_inside_iff (msgLen pEid : Nat) (s : ScanState) :
    (s.readLen pEid).trace.Inside msgLen ↔ s.trace.Inside msgLen ∧ pEid + 2 ≤ msgLen := by
  constructor
  · rintro ⟨reads, vieWrites, wscCopies⟩
    obtain ⟨before, own⟩ := List.forall_mem_append.mp reads
    exact ⟨⟨before, vieWrites, wscCopies⟩, own ⟨pEid + 1, 1⟩ (by simp)⟩
  · rintro ⟨⟨reads, vieWrites, wscCopies⟩, own⟩
    refine ⟨List.forall_mem_append.mpr ⟨reads, ?_⟩, vieWrites, wscCopies⟩
    intro span member
    rw [List.mem_singleton.mp member]
    exact own

/-- `PeerWscIeLen` as the reassembly keeps it. -/
def WscState.Sound (wsc : WscState) : Prop :=
  0 ≤ wsc.peerWscIeLen ∧ wsc.peerWscIeLen ≤ wscBufferLen

theorem lenAt_lt (mem : Memory) (pEid : Nat) : lenAt mem pEid < 256 := (mem (pEid + 1)).toNat_lt

theorem wscReassemble_sound {c : BeaconContext} {mem : Memory} {pEid : Nat} {wsc : WscState}
    (sound : wsc.Sound) (long : c.wscAllocated = true → 4 ≤ lenAt mem pEid) :
    (wscReassemble c mem pEid wsc).1.Sound ∧
      ∀ copy ∈ (wscReassemble c mem pEid wsc).2,
        0 ≤ copy.offset ∧ 0 ≤ copy.count ∧ copy.offset + copy.count ≤ wscBufferLen := by
  have byte := lenAt_lt mem pEid
  obtain ⟨low, high⟩ := sound
  unfold wscReassemble WscState.Sound
  dsimp only
  split_ifs with allocated first room
  · have enough := long allocated
    simp only [List.mem_singleton, forall_eq, wscBufferLen]
    omega
  · have enough := long allocated
    simp only [List.mem_singleton, forall_eq, wscBufferLen] at *
    omega
  · exact ⟨⟨low, high⟩, fun _ member => absurd member List.not_mem_nil⟩
  · exact ⟨⟨low, high⟩, fun _ member => absurd member List.not_mem_nil⟩

/-- A WPS element of less than four octets is copied with a negative length. -/
theorem wscReassemble_short {c : BeaconContext} {mem : Memory} {pEid : Nat} {wsc : WscState}
    (sound : wsc.Sound) (allocated : c.wscAllocated = true) (short : lenAt mem pEid < 4) :
    ∃ copy ∈ (wscReassemble c mem pEid wsc).2, copy.count < 0 := by
  obtain ⟨low, high⟩ := sound
  have fits : wsc.peerWscIeLen + ((lenAt mem pEid : Int) - 4) ≤ wscBufferLen := by omega
  unfold wscReassemble
  dsimp only
  rw [if_pos allocated]
  split_ifs with first
  · exact ⟨_, List.mem_singleton.mpr rfl, by dsimp only; omega⟩
  · exact ⟨_, List.mem_singleton.mpr rfl, by dsimp only; omega⟩

theorem wscReassemble_count {c : BeaconContext} {mem : Memory} {pEid : Nat} {wsc : WscState}
    {copy : WscCopy} (member : copy ∈ (wscReassemble c mem pEid wsc).2) :
    copy.count = (lenAt mem pEid : Int) - 4 := by
  unfold wscReassemble at member
  dsimp only at member
  split_ifs at member
  · rw [List.mem_singleton.mp member]
  · rw [List.mem_singleton.mp member]
  · exact absurd member List.not_mem_nil
  · exact absurd member List.not_mem_nil

theorem vendorEffect_wps {c : BeaconContext} {mem : Memory} {pEid : Nat} {htCapability : Bool}
    (wps : (vendorEffect c mem pEid htCapability).wps = true) :
    vendorLook c mem pEid htCapability = 6 := by
  unfold vendorEffect at wps
  unfold vendorLook
  dsimp only at wps
  split_ifs at wps ⊢
  rfl

/-- Where a WPS element is, its version byte has been read before. -/
theorem Visit.version_inside {c : BeaconContext} {mem : Memory} {msgLen : Nat} {visit : Visit}
    (reads : visit.ReadsFit c mem msgLen) (wps : (visit.effect c mem).wps = true) :
    visit.pEid + 8 ≤ msgLen := by
  by_cases vendor : (mem visit.pEid).toNat = 221
  · simp only [Visit.effect, elementEffect, vendor] at wps
    have look := vendorEffect_wps wps
    simp only [Visit.ReadsFit, vendor, look] at reads
    exact reads
  · exfalso
    revert wps
    unfold Visit.effect elementEffect
    split
    all_goals first | contradiction | skip
    all_goals simp only [ssidEffect, suppRatesEffect, htCapEffect, addHtEffect, exactEffect,
      dsParmEffect, cfParmEffect, ibssParmEffect, timEffect, extSuppRatesEffect, aironetCkipEffect,
      rsnEffect, countryEffect, qbssLoadEffect, extCapabilityEffect, fieldEffect]
    all_goals (try split_ifs) <;> simp

/-- The element at `pEid`, with what the loop knows of those before. -/
def ScanState.visit (s : ScanState) (pEid : Nat) : Visit :=
  ⟨pEid, s.sanity.getLsbD 0, s.htCapability⟩

theorem forall_mem_ite_singleton {α : Type*} {p : α → Prop} {b : Bool} {x : α} :
    (∀ y ∈ (if b then [x] else []), p y) ↔ (b = true → p x) := by
  cases b <;> simp

/-- The element's own accesses, for one that is whole and has room in `pVIE`. -/
theorem element_inside_iff (c : BeaconContext) (mem : Memory) {msgLen pEid : Nat} {s : ScanState}
    (complete : pEid + 2 + lenAt mem pEid ≤ msgLen)
    (room : s.lengthVIE + lenAt mem pEid + 2 < maxVieLen) (sound : s.wsc.Sound) :
    (s.element c mem pEid).1.trace.Inside msgLen ↔
      s.trace.Inside msgLen ∧ (s.visit pEid).Fits c mem msgLen := by
  have readsIff : (∀ span ∈ ((s.visit pEid).effect c mem).reads, span.start + span.count ≤ msgLen) ↔
      (s.visit pEid).ReadsFit c mem msgLen := Visit.reads_iff c complete
  constructor
  · rintro ⟨reads, vieWrites, wscCopies⟩
    simp only [ScanState.element, List.append_assoc, List.forall_mem_append, List.cons_append,
      List.forall_mem_cons] at reads vieWrites wscCopies
    obtain ⟨before, -, effect, -⟩ := reads
    refine ⟨⟨before, vieWrites.1, wscCopies.1⟩, readsIff.mp effect, fun wps allocated => ?_⟩
    by_contra short
    obtain ⟨copy, member, negative⟩ :=
      wscReassemble_short sound allocated (not_le.mp short)
    have copied := wscCopies.2
    rw [show (elementEffect c mem pEid (s.sanity.getLsbD 0) s.htCapability).wps = true from wps,
      if_pos rfl] at copied
    have count := (copied copy member).2.1
    omega
  · rintro ⟨⟨reads, vieWrites, wscCopies⟩, readsFit, long⟩
    have copies : ∀ copy ∈ (if (elementEffect c mem pEid (s.sanity.getLsbD 0) s.htCapability).wps then
        wscReassemble c mem pEid s.wsc else (s.wsc, [])).2,
        0 ≤ copy.offset ∧ 0 ≤ copy.count ∧ copy.offset + copy.count ≤ wscBufferLen := by
      split_ifs with wps
      · exact (wscReassemble_sound sound (long wps)).2
      · exact fun _ member => absurd member List.not_mem_nil
    refine ⟨?_, ?_, ?_⟩
    · simp only [ScanState.element, List.append_assoc, List.forall_mem_append, List.cons_append,
        List.forall_mem_cons, forall_mem_ite_singleton, List.forall_mem_map]
      refine ⟨reads, by omega, readsIff.mpr readsFit, ?_, ?_⟩
      · intro wps
        have version := Visit.version_inside readsFit (Bool.and_eq_true_iff.mp wps).1
        simp only [ScanState.visit] at version
        omega
      · intro copy member
        split_ifs at member with wps
        · have version := Visit.version_inside readsFit wps
          have count := wscReassemble_count member
          simp only [ScanState.visit] at version
          omega
        · exact absurd member List.not_mem_nil
    · simp only [ScanState.element, List.forall_mem_append, forall_mem_ite_singleton]
      exact ⟨vieWrites, fun _ => by omega⟩
    · simp only [ScanState.element, List.forall_mem_append]
      exact ⟨wscCopies, copies⟩

theorem element_sound {c : BeaconContext} {mem : Memory} {msgLen pEid : Nat} {s : ScanState}
    (sound : s.wsc.Sound) (fits : (s.visit pEid).Fits c mem msgLen) :
    (s.element c mem pEid).1.wsc.Sound := by
  simp only [ScanState.element]
  split_ifs with wps
  · exact (wscReassemble_sound sound (fits.2 wps)).1
  · exact sound

section loop
variable {c : BeaconContext} {mem : Memory} {msgLen : Nat}

/-- The visits from a state of the loop on. -/
def visitsFrom (c : BeaconContext) (mem : Memory) (msgLen length : Nat) (s : ScanState) :
    List Visit × Stop :=
  visits c mem msgLen length s.lengthVIE (s.sanity.getLsbD 0) s.htCapability

/-- The loop goes on behind the element at `length`. -/
structure GoesOn (c : BeaconContext) (mem : Memory) (msgLen length : Nat) (s : ScanState) :
    Prop where
  complete : length + 2 + lenAt mem length ≤ msgLen
  room : s.lengthVIE + lenAt mem length + 2 < maxVieLen
  exit : ((s.visit length).effect c mem).exit = .next

/-- Induction along the loop: it ends before an element, ends in one, or goes on behind it. -/
theorem scan_induction (c : BeaconContext) (mem : Memory) (msgLen : Nat)
    {motive : Nat → ScanState → Prop}
    (before : ∀ length s, (length + 2 + lenAt mem length ≤ msgLen →
      maxVieLen ≤ s.lengthVIE + lenAt mem length + 2) → motive length s)
    (within : ∀ length s, length + 2 + lenAt mem length ≤ msgLen →
      s.lengthVIE + lenAt mem length + 2 < maxVieLen →
      ((s.visit length).effect c mem).exit ≠ .next → motive length s)
    (behind : ∀ length s, GoesOn c mem msgLen length s →
      motive (length + 2 + lenAt mem length) ((s.readLen length).element c mem length).1 →
      motive length s) (length : Nat) (s : ScanState) : motive length s := by
  induction left : msgLen - length using Nat.strong_induction_on generalizing length s with
  | _ n ih =>
    by_cases complete : length + 2 + lenAt mem length ≤ msgLen
    · by_cases room : s.lengthVIE + lenAt mem length + 2 < maxVieLen
      · by_cases exit : ((s.visit length).effect c mem).exit = .next
        · exact behind length s ⟨complete, room, exit⟩ (ih _ (by omega) _ _ rfl)
        · exact within length s complete room exit
      · exact before length s fun _ => not_lt.mp room
    · exact before length s fun whole => absurd whole complete

theorem scan_before {length : Nat} {s : ScanState}
    (ended : length + 2 + lenAt mem length ≤ msgLen →
      maxVieLen ≤ s.lengthVIE + lenAt mem length + 2) :
    scanElements c mem msgLen length s = (s.readLen length, .next) ∧
      visitsFrom c mem msgLen length s = ([], if length + 2 + lenAt mem length ≤ msgLen then
        .outOfResource else .ranOut length) := by
  unfold visitsFrom
  rw [scanElements, visits]
  by_cases complete : length + 2 + lenAt mem length ≤ msgLen
  · have full := ended complete
    simp only [if_pos complete]
    exact ⟨if_pos full, if_pos full⟩
  · simp only [if_neg complete]
    trivial

theorem scan_within {length : Nat} {s : ScanState}
    (complete : length + 2 + lenAt mem length ≤ msgLen)
    (room : s.lengthVIE + lenAt mem length + 2 < maxVieLen)
    (exit : ((s.visit length).effect c mem).exit ≠ .next) :
    scanElements c mem msgLen length s = (s.readLen length).element c mem length ∧
      visitsFrom c mem msgLen length s = ([s.visit length], .left) := by
  unfold visitsFrom
  rw [scanElements, visits]
  simp only [if_pos complete]
  exact ⟨(if_neg (not_le.mpr room)).trans (if_neg exit),
    (if_neg (not_le.mpr room)).trans (if_neg exit)⟩

theorem scan_behind {length : Nat} {s : ScanState} (goesOn : GoesOn c mem msgLen length s) :
    scanElements c mem msgLen length s =
        scanElements c mem msgLen (length + 2 + lenAt mem length)
          ((s.readLen length).element c mem length).1 ∧
      visitsFrom c mem msgLen length s =
        (s.visit length :: (visitsFrom c mem msgLen (length + 2 + lenAt mem length)
            ((s.readLen length).element c mem length).1).1,
          (visitsFrom c mem msgLen (length + 2 + lenAt mem length)
            ((s.readLen length).element c mem length).1).2) := by
  obtain ⟨complete, room, exit⟩ := goesOn
  unfold visitsFrom
  constructor
  · rw [scanElements]
    simp only [if_pos complete]
    exact (if_neg (not_le.mpr room)).trans (if_pos exit)
  · rw [visits]
    simp only [if_pos complete]
    refine ((if_neg (not_le.mpr room)).trans (if_pos exit)).trans ?_
    simp only [ScanState.element, ScanState.readLen, BitVec.getLsbD_or]
    rfl

theorem element_lengthVIE (c : BeaconContext) (mem : Memory) (length : Nat) (s : ScanState) :
    ((s.readLen length).element c mem length).1.lengthVIE =
      s.lengthVIE + reportedLength c mem [s.visit length] := by
  have effect : ((s.readLen length).element c mem length).1.lengthVIE =
      if ((s.visit length).effect c mem).reported then s.lengthVIE + (lenAt mem length + 2)
      else s.lengthVIE := rfl
  rw [effect]
  simp only [reportedLength, List.map_singleton, List.sum_singleton]
  split_ifs
  · rfl
  · rfl

theorem element_wsc (c : BeaconContext) (mem : Memory) (length : Nat) (s : ScanState) :
    ((s.readLen length).element c mem length).1.wsc = wscPayload c mem s.wsc [s.visit length] := by
  have effect : ((s.readLen length).element c mem length).1.wsc =
      (if ((s.visit length).effect c mem).wps then wscReassemble c mem length s.wsc
        else (s.wsc, [])).1 := rfl
  rw [effect]
  simp only [wscPayload, List.foldl_cons, List.foldl_nil]
  split_ifs
  · rfl
  · rfl

theorem reportedLength_cons (c : BeaconContext) (mem : Memory) (visit : Visit) (rest : List Visit) :
    reportedLength c mem (visit :: rest) =
      reportedLength c mem [visit] + reportedLength c mem rest := by
  simp [reportedLength]

theorem reportedLength_le (c : BeaconContext) (mem : Memory) (visit : Visit) :
    reportedLength c mem [visit] ≤ lenAt mem visit.pEid + 2 := by
  simp only [reportedLength, List.map_singleton, List.sum_singleton]
  split_ifs
  · exact le_rfl
  · exact Nat.zero_le _

/-- The variables of the loop at its end, from the elements visited. -/
theorem scan_result (c : BeaconContext) (mem : Memory) (msgLen length : Nat) (s : ScanState) (room : s.lengthVIE < maxVieLen) :
    ((scanElements c mem msgLen length s).2 = .next ↔
        (visitsFrom c mem msgLen length s).2 ≠ .left) ∧
      (scanElements c mem msgLen length s).1.lengthVIE =
        s.lengthVIE + reportedLength c mem (visitsFrom c mem msgLen length s).1 ∧
      (scanElements c mem msgLen length s).1.lengthVIE < maxVieLen ∧
      (scanElements c mem msgLen length s).1.wsc =
        wscPayload c mem s.wsc (visitsFrom c mem msgLen length s).1 := by
  induction length, s using scan_induction c mem msgLen with
  | before length s ended =>
      obtain ⟨scan, visited⟩ := scan_before (c := c) ended
      rw [scan, visited]
      refine ⟨?_, rfl, room, rfl⟩
      split_ifs <;> simp
  | within length s complete fits exit =>
      obtain ⟨scan, visited⟩ := scan_within complete fits exit
      have total := element_lengthVIE c mem length s
      have bound : reportedLength c mem [s.visit length] ≤ lenAt mem length + 2 :=
        reportedLength_le c mem (s.visit length)
      rw [scan, visited]
      refine ⟨?_, total, ?_, element_wsc c mem length s⟩
      · simp only [ne_eq, not_true_eq_false, iff_false]
        exact exit
      · rw [total]
        omega
  | behind length s goesOn ih =>
      obtain ⟨scan, visited⟩ := scan_behind goesOn
      have total := element_lengthVIE c mem length s
      have bound : reportedLength c mem [s.visit length] ≤ lenAt mem length + 2 :=
        reportedLength_le c mem (s.visit length)
      have fits := goesOn.room
      obtain ⟨exits, reported, less, wsc⟩ := ih (by
        rw [total]
        omega)
      rw [scan, visited]
      refine ⟨exits, ?_, less, ?_⟩
      · rw [reported, total, reportedLength_cons c mem (s.visit length) (visitsFrom c mem msgLen _ _).1,
          Nat.add_assoc]
      · rw [wsc, element_wsc]
        rfl

theorem element_inside_mono {length : Nat} {s : ScanState}
    (inside : (s.element c mem length).1.trace.Inside msgLen) : s.trace.Inside msgLen := by
  obtain ⟨reads, vieWrites, wscCopies⟩ := inside
  simp only [ScanState.element, List.append_assoc, List.forall_mem_append]
    at reads vieWrites wscCopies
  exact ⟨reads.1, vieWrites.1, wscCopies.1⟩

/-- What was outside before stays outside. -/
theorem scan_inside_mono (length : Nat) (s : ScanState)
    (inside : (scanElements c mem msgLen length s).1.trace.Inside msgLen) :
    (s.readLen length).trace.Inside msgLen := by
  induction length, s using scan_induction c mem msgLen with
  | before length s ended =>
      rw [(scan_before (c := c) ended).1] at inside
      exact inside
  | within length s complete fits exit =>
      rw [(scan_within complete fits exit).1] at inside
      exact element_inside_mono inside
  | behind length s goesOn ih =>
      rw [(scan_behind goesOn).1] at inside
      exact element_inside_mono ((readLen_inside_iff _ _ _).mp (ih inside)).1

/-- The accesses of the loop, from a sound state on. -/
theorem scan_inside_iff (c : BeaconContext) (mem : Memory) (msgLen length : Nat) (s : ScanState)
    (sound : s.wsc.Sound) :
    (scanElements c mem msgLen length s).1.trace.Inside msgLen ↔ s.trace.Inside msgLen ∧
      (∀ visit ∈ (visitsFrom c mem msgLen length s).1, visit.Fits c mem msgLen) ∧
      ∀ pEid, (visitsFrom c mem msgLen length s).2 = .ranOut pEid → pEid + 2 ≤ msgLen := by
  induction length, s using scan_induction c mem msgLen with
  | before length s ended =>
      obtain ⟨scan, visited⟩ := scan_before (c := c) ended
      rw [scan, visited, readLen_inside_iff]
      by_cases complete : length + 2 + lenAt mem length ≤ msgLen
      · have header : length + 2 ≤ msgLen := by omega
        simp [complete, header]
      · simp [complete]
  | within length s complete fits exit =>
      obtain ⟨scan, visited⟩ := scan_within complete fits exit
      have own := element_inside_iff c mem (s := s.readLen length) complete fits sound
      have header : length + 2 ≤ msgLen := by omega
      rw [scan, visited, own, readLen_inside_iff]
      simp only [header, and_true, List.mem_singleton, forall_eq, reduceCtorEq, false_implies,
        implies_true]
      rfl
  | behind length s goesOn ih =>
      obtain ⟨scan, visited⟩ := scan_behind goesOn
      have own := element_inside_iff c mem (s := s.readLen length) goesOn.complete goesOn.room sound
      have complete := goesOn.complete
      have header : length + 2 ≤ msgLen := by omega
      rw [scan, visited, List.forall_mem_cons]
      constructor
      · intro inside
        have first := ((readLen_inside_iff _ _ _).mp (scan_inside_mono _ _ inside)).1
        obtain ⟨start, visit⟩ := own.mp first
        have kept : ((s.readLen length).element c mem length).1.wsc.Sound :=
          element_sound sound visit
        obtain ⟨-, rest, last⟩ := (ih kept).mp inside
        exact ⟨((readLen_inside_iff _ _ _).mp start).1, ⟨visit, rest⟩, last⟩
      · rintro ⟨start, ⟨visit, rest⟩, last⟩
        have kept : ((s.readLen length).element c mem length).1.wsc.Sound :=
          element_sound sound visit
        have first := own.mpr ⟨(readLen_inside_iff _ _ _).mpr ⟨start, header⟩, visit⟩
        exact (ih kept).mpr ⟨first, rest, last⟩

end loop

/-- The frame, `pVIE` and the WPS buffer are never left. -/
def BeaconOutcome.Inside (msgLen : Nat) (outcome : BeaconOutcome) : Prop :=
  outcome.state.trace.Inside msgLen ∧ outcome.state.lengthVIE ≤ maxVieLen

theorem scanStart_sound : scanStart.wsc.Sound := ⟨le_rfl, by decide⟩

/-- The WPS element fits behind the others exactly when the sum of their lengths does. -/
theorem appendWsc_inside_iff (c : BeaconContext) {msgLen : Nat} {s : ScanState}
    (less : s.lengthVIE < maxVieLen) :
    ((s.appendWsc c).trace.Inside msgLen ∧ (s.appendWsc c).lengthVIE ≤ maxVieLen) ↔
      s.trace.Inside msgLen ∧
        (c.wscAllocated = true → s.wsc.bWscCheck = true → s.wsc.peerWscIeLen ≤ wscBufferLen →
          0 < s.wsc.peerWscIeLen → (s.lengthVIE : Int) + s.wsc.peerWscIeLen + 6 ≤ maxVieLen) := by
  unfold ScanState.appendWsc
  by_cases appended : (c.wscAllocated && decide (0 < s.wsc.peerWscIeLen) &&
      decide (s.wsc.peerWscIeLen ≤ wscBufferLen) && s.wsc.bWscCheck) = true
  · rw [if_pos appended]
    simp only [Bool.and_eq_true, decide_eq_true_eq] at appended
    obtain ⟨⟨⟨allocated, some⟩, bounded⟩, check⟩ := appended
    simp only [allocated, check, bounded, some, true_implies]
    constructor
    · rintro ⟨⟨reads, vieWrites, wscCopies⟩, total⟩
      exact ⟨⟨reads, (List.forall_mem_append.mp vieWrites).1, wscCopies⟩, by omega⟩
    · rintro ⟨⟨reads, vieWrites, wscCopies⟩, room⟩
      refine ⟨⟨reads, List.forall_mem_append.mpr ⟨vieWrites, ?_⟩, wscCopies⟩, by omega⟩
      simp only [List.mem_cons, List.not_mem_nil, or_false, forall_eq_or_imp, forall_eq]
      omega
  · rw [if_neg appended]
    apply and_congr_right
    intro _
    simp only [Bool.and_eq_true, decide_eq_true_eq] at appended
    apply iff_of_true less.le
    intro allocated check bounded some
    exact absurd ⟨⟨⟨allocated, some⟩, bounded⟩, check⟩ appended

/-- What has to hold after the loop for the WPS element to be appended. -/
def AppendFits (c : BeaconContext) (scan : ScanState × Exit) : Prop :=
  scan.2 = .next → c.wscAllocated = true → scan.1.wsc.bWscCheck = true →
    scan.1.wsc.peerWscIeLen ≤ wscBufferLen → 0 < scan.1.wsc.peerWscIeLen →
      (scan.1.lengthVIE : Int) + scan.1.wsc.peerWscIeLen + 6 ≤ maxVieLen

theorem outcome_inside_iff (c : BeaconContext) (mem : Memory) (msgLen : Nat) :
    (peerBeaconAndProbeRspSanity c mem msgLen).Inside msgLen ↔
      (scanElements c mem msgLen 36 scanStart).1.trace.Inside msgLen ∧
        AppendFits c (scanElements c mem msgLen 36 scanStart) := by
  obtain ⟨-, -, less, -⟩ := scan_result c mem msgLen 36 scanStart (by decide)
  unfold peerBeaconAndProbeRspSanity BeaconOutcome.Inside AppendFits
  dsimp only
  cases exit : (scanElements c mem msgLen 36 scanStart).2 with
  | next =>
      simp only [true_implies]
      exact appendWsc_inside_iff c less
  | sanityCheck => simp [less.le]
  | failed => simp [less.le]

theorem digestible_iff (c : BeaconContext) (mem : Memory) (msgLen : Nat) :
    Digestible c mem msgLen ↔
      (scanElements c mem msgLen 36 scanStart).1.trace.Inside msgLen ∧
        AppendFits c (scanElements c mem msgLen 36 scanStart) := by
  have walk := scan_inside_iff c mem msgLen 36 scanStart scanStart_sound
  obtain ⟨exits, length, -, wsc⟩ := scan_result c mem msgLen 36 scanStart (by decide)
  have same : visitsFrom c mem msgLen 36 scanStart = visits c mem msgLen 36 0 false false := rfl
  have origin : scanStart.lengthVIE = 0 := rfl
  rw [same] at walk exits length wsc
  rw [origin, zero_add] at length
  unfold AppendFits
  rw [walk, exits, wsc, length]
  constructor
  · rintro ⟨elements, lastHeader, append⟩
    exact ⟨⟨Trace.inside_start msgLen, elements, lastHeader⟩, append⟩
  · rintro ⟨⟨-, elements, lastHeader⟩, append⟩
    exact ⟨elements, lastHeader, append⟩

/-- For every received beacon or probe response the function ends, and it stays inside the frame
and its buffers exactly when the frame is digestible. -/
theorem peerBeaconAndProbeRspSanity_inside_iff (c : BeaconContext) (mem : Memory) (msgLen : Nat) :
    (peerBeaconAndProbeRspSanity c mem msgLen).Inside msgLen ↔ Digestible c mem msgLen :=
  (outcome_inside_iff c mem msgLen).trans (digestible_iff c mem msgLen).symm

/-- A beacon whose one whole element is a vendor specific one of three octets, 00 50 f2, with the
bytes 04 and 10 behind it. -/
def shortWpsBeacon : Memory := fun address =>
  [0xdd, 3, 0x00, 0x50, 0xf2, 0x04, 0x10, 0, 0, 0, 0].getD (address - 36) 0

def apBeaconContext : BeaconContext where
  opMode := .ap
  infraOn := false
  bssid := []
  aid := 0
  channelSanity _ := true
  latchRfChannel := 1
  wscAllocated := true

/-- It passes for the start of a WPS element, and -1 bytes are copied. -/
theorem shortWpsBeacon_outside :
    ¬(peerBeaconAndProbeRspSanity apBeaconContext shortWpsBeacon 47).Inside 47 := by
  intro inside
  have digestible := (digestible_iff _ _ _).mpr ((outcome_inside_iff _ _ _).mp inside)
  have goesOn : GoesOn apBeaconContext shortWpsBeacon 47 36 scanStart :=
    ⟨by decide, by decide, by decide⟩
  have visited : scanStart.visit 36 ∈
      (visits apBeaconContext shortWpsBeacon 47 36 0 false false).1 := by
    have walk := (scan_behind goesOn).2
    have same : visitsFrom apBeaconContext shortWpsBeacon 47 36 scanStart =
      visits apBeaconContext shortWpsBeacon 47 36 0 false false := rfl
    rw [← same, walk]
    exact List.mem_cons_self
  have long := (digestible.elements _ visited).2 (by decide) rfl
  exact absurd long (by decide)

end Mt7612u.Mlme
