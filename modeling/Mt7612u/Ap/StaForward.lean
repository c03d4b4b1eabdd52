import Mt7612u.Receive.PortControl

/-! `APFowardWirelessStaToWirelessSta` with the control blocks of the packet and of its copy. -/

namespace Mt7612u.Ap
open Receive (RxAdapter Destination apForward macAddrLen hwBeaconMaxNum)

/-- `PACKET_CB`: the bytes of a packet's control block by their offset. -/
abbrev PacketCb := Nat → UInt8

def cbWcid : Nat := 2
def cbNetDevice : Nat := 3
def cbMoreData : Nat := 5
def cbWdev : Nat := 7

def mcastWcid : UInt8 := 0
def mainMbssid : UInt8 := 0

/-- What is read of the destination's `MAC_TABLE_ENTRY`. -/
structure ForwardEntry where
  destination : Destination
  wcid : UInt8
  wdevIdx : UInt8

/-- The adapter with the entries themselves, and the interface of each BSS. -/
structure ForwardAp where
  pAd : RxAdapter
  macTableLookup : List UInt8 → Option ForwardEntry
  mbssWdevIdx : Nat → UInt8
  lookup_agrees : ∀ address, pAd.ap.forward.macTableLookup address =
    (macTableLookup address).map ForwardEntry.destination

namespace ForwardAp
variable (ap : ForwardAp)

def fromWhichBSSID : Nat := ap.pAd.deagg.fromWhichBSSID

/-- `pEntry`: group addresses are not looked up. -/
def pEntry (header : List UInt8) : Option ForwardEntry :=
  if (header.getD 0 0).toBitVec.getLsbD 0 then none
  else ap.macTableLookup (header.take macAddrLen)

end ForwardAp

/-- What becomes of a packet: whether it is announced, its own control block, and that of the copy
which goes to `APSendPacket`. -/
structure Forwarded where
  bAnnounce : Bool
  original : PacketCb
  copy : Option PacketCb

/-- The attributes of a packet for one station; the interface is set on the packet itself. -/
def tagUnicast (pEntry : ForwardEntry) (cb : PacketCb) : PacketCb × PacketCb :=
  let copy := Function.update cb cbNetDevice mainMbssid
  let (original, copy) :=
    if pEntry.destination.apidx ≠ 0 then
      (if pEntry.wcid ≠ mcastWcid then Function.update cb cbWdev pEntry.wdevIdx else cb,
        Function.update copy cbNetDevice (UInt8.ofNat pEntry.destination.apidx))
    else (cb, copy)
  (original, Function.update (Function.update copy cbWcid pEntry.wcid) cbMoreData 0)

/-- "send bc/mc frame back to the same bss". -/
def tagGroup (ap : ForwardAp) (cb : PacketCb) : PacketCb :=
  let bss := ap.fromWhichBSSID
  let copy := Function.update (Function.update cb cbNetDevice mainMbssid) cbNetDevice
    (UInt8.ofNat bss)
  let copy :=
    if bss < ap.pAd.deagg.apCfg.bssidNum ∧ bss < ap.pAd.ap.forward.maxMbssidNum ∧
        bss < hwBeaconMaxNum then
      Function.update copy cbWdev (ap.mbssWdevIdx bss)
    else copy
  Function.update (Function.update copy cbWcid mcastWcid) cbMoreData 0

/-- `APFowardWirelessStaToWirelessSta`; a clone has the control block of its packet. -/
def apFowardWirelessStaToWirelessSta (ap : ForwardAp) (header : List UInt8) (cb : PacketCb) :
    Forwarded :=
  let (bDirectForward, bAnnounce) := apForward ap.pAd header
  if bDirectForward && ap.pAd.ap.forward.duplicated then
    match ap.pEntry header with
    | some pEntry =>
        let (original, copy) := tagUnicast pEntry cb
        ⟨bAnnounce, original, some copy⟩
    | none => ⟨bAnnounce, cb, some (tagGroup ap cb)⟩
  else ⟨bAnnounce, cb, none⟩

/-- A group address. -/
def toGroup (header : List UInt8) : Bool := (header.getD 0 0).toBitVec.getLsbD 0

/-- The isolation flags allow this destination. -/
def Allowed (ap : ForwardAp) (pEntry : ForwardEntry) : Prop :=
  if ap.fromWhichBSSID = pEntry.destination.apidx then
    ap.pAd.ap.forward.isolateInterStaTraffic pEntry.destination.apidx = false
  else ap.pAd.ap.forward.isolateInterStaTrafficBTNBSSID = false

/-- The control block carries a station, a BSS and an interface. -/
structure Tagged (cb : PacketCb) (wcid : UInt8) (bss : Nat) (wdevIdx : UInt8) : Prop where
  wcid : cb cbWcid = wcid
  bss : cb cbNetDevice = UInt8.ofNat bss
  wdev : cb cbWdev = wdevIdx

/-- One way for a packet to one station, and that as the flags allow it; group packets announced
and sent back at most once; and the copy tagged, with the packet left alone. -/
structure ForwardsRight (ap : ForwardAp) (header : List UInt8) (out : Forwarded) (cb : PacketCb) :
    Prop where
  unicast : toGroup header = false → out.copy.isSome = true → out.bAnnounce = false ∧
    ∃ pEntry, ap.macTableLookup (header.take macAddrLen) = some pEntry ∧
      pEntry.destination.associated = true ∧ pEntry.destination.client = true ∧ Allowed ap pEntry
  group : toGroup header = true → out.bAnnounce = true ∧
    (out.copy.isSome = true →
      ap.pAd.ap.forward.isolateInterStaMBCast ap.fromWhichBSSID = false)
  copyTagged : ∀ copy, out.copy = some copy →
    (toGroup header = true →
      Tagged copy mcastWcid ap.fromWhichBSSID (ap.mbssWdevIdx ap.fromWhichBSSID)) ∧
    ∀ pEntry, toGroup header = false →
      ap.macTableLookup (header.take macAddrLen) = some pEntry →
        Tagged copy pEntry.wcid pEntry.destination.apidx pEntry.wdevIdx
  originalKept : out.original = cb

/-- The packet is sent on to this station of the same or of another BSS. -/
def GoesTo (ap : ForwardAp) (pEntry : ForwardEntry) : Prop :=
  pEntry.destination.associated = true ∧ pEntry.destination.client = true ∧ Allowed ap pEntry ∧
    (ap.fromWhichBSSID ≠ pEntry.destination.apidx →
      ap.fromWhichBSSID < ap.pAd.ap.forward.maxMbssidNum →
      ap.fromWhichBSSID < hwBeaconMaxNum →
        ap.pAd.deagg.apCfg.vlanVID pEntry.destination.apidx =
          ap.pAd.deagg.apCfg.vlanVID ap.fromWhichBSSID)

/-- The packet goes back to the stations of its BSS. -/
def GoesBack (ap : ForwardAp) : Prop :=
  ap.fromWhichBSSID < ap.pAd.ap.forward.maxMbssidNum ∧ ap.fromWhichBSSID < hwBeaconMaxNum ∧
    1 < ap.pAd.ap.forward.staCount ap.fromWhichBSSID ∧
    ap.pAd.ap.forward.isolateInterStaMBCast ap.fromWhichBSSID = false

/-- Where a copy is made, the packet came with the interface of its destination in its control
block; for a group packet a BSS that is in use will do. -/
def CarriesWdev (ap : ForwardAp) (header : List UInt8) (cb : PacketCb) : Prop :=
  ap.pAd.ap.forward.duplicated = true →
    if toGroup header then
      GoesBack ap → ap.fromWhichBSSID < ap.pAd.deagg.apCfg.bssidNum ∨
        cb cbWdev = ap.mbssWdevIdx ap.fromWhichBSSID
    else
      ∀ pEntry, ap.macTableLookup (header.take macAddrLen) = some pEntry → GoesTo ap pEntry →
        cb cbWdev = pEntry.wdevIdx

section Decision

variable {ap : ForwardAp} {header : List UInt8}

theorem apForward_group (group : toGroup header = true) :
    (apForward ap.pAd header).2 = true ∧
      ((apForward ap.pAd header).1 = true ↔ GoesBack ap) := by
  have bit : (header.getD 0 0).toBitVec.getLsbD 0 = true := group
  simp only [apForward, bit, if_true, GoesBack, ForwardAp.fromWhichBSSID, Bool.and_eq_true,
    decide_eq_true_eq, Bool.not_eq_true', true_and]
  tauto

theorem apForward_unicast (single : toGroup header = false) :
    ((apForward ap.pAd header).1 = true ↔
      ∃ pEntry, ap.macTableLookup (header.take macAddrLen) = some pEntry ∧ GoesTo ap pEntry) ∧
      ((apForward ap.pAd header).1 = true → (apForward ap.pAd header).2 = false) := by
  have bit : (header.getD 0 0).toBitVec.getLsbD 0 = false := single
  have agrees := ap.lookup_agrees (header.take macAddrLen)
  cases found : ap.macTableLookup (header.take macAddrLen) with
  | none =>
    rw [found, Option.map_none] at agrees
    simp only [apForward, bit, agrees, Bool.false_eq_true, if_false, reduceCtorEq, false_and,
      exists_false, false_implies, and_true]
  | some pEntry =>
    rw [found, Option.map_some] at agrees
    simp only [apForward, bit, agrees, Bool.false_eq_true, if_false, Option.some.injEq,
      exists_eq_left', GoesTo, Allowed, ForwardAp.fromWhichBSSID]
    by_cases client : pEntry.destination.associated = true ∧ pEntry.destination.client = true
    · by_cases same : ap.pAd.deagg.fromWhichBSSID = pEntry.destination.apidx
      · simp [client, same]
      · simp only [client, same, Bool.and_true, if_true, if_false]
        refine ⟨?_, fun _ => trivial⟩
        simp only [Bool.not_eq_true', Bool.or_eq_false_iff, Bool.and_eq_false_iff,
          decide_eq_false_iff_not, bne_eq_false_iff_eq, true_and, ne_eq]
        tauto
    · have refused : (pEntry.destination.associated && pEntry.destination.client) = false := by
        rwa [← Bool.not_eq_true, Bool.and_eq_true]
      simp only [refused, Bool.false_eq_true, if_false, false_iff, false_implies, and_true]
      tauto

end Decision

section Tags

variable {ap : ForwardAp} {cb : PacketCb}

/-- The copy for a station has its interface only if the packet came with it. -/
theorem tagUnicast_tagged_iff (pEntry : ForwardEntry) :
    Tagged (tagUnicast pEntry cb).2 pEntry.wcid pEntry.destination.apidx pEntry.wdevIdx ↔
      cb cbWdev = pEntry.wdevIdx := by
  have fields : (tagUnicast pEntry cb).2 cbWcid = pEntry.wcid ∧
      (tagUnicast pEntry cb).2 cbNetDevice = UInt8.ofNat pEntry.destination.apidx ∧
      (tagUnicast pEntry cb).2 cbWdev = cb cbWdev := by
    unfold tagUnicast
    by_cases main : pEntry.destination.apidx = 0
    · simp [main, cbWcid, cbNetDevice, cbMoreData, cbWdev, mainMbssid]
    · simp [main, cbWcid, cbNetDevice, cbMoreData, cbWdev]
  constructor
  · intro tagged
    exact fields.2.2.symm.trans tagged.wdev
  · intro carried
    exact ⟨fields.1, fields.2.1, fields.2.2.trans carried⟩

theorem tagUnicast_original {pEntry : ForwardEntry} (carried : cb cbWdev = pEntry.wdevIdx) :
    (tagUnicast pEntry cb).1 = cb := by
  unfold tagUnicast
  dsimp only
  split
  · dsimp only
    split
    · rw [← carried]
      exact Function.update_eq_self cbWdev cb
    · rfl
  · rfl

theorem tagGroup_tagged_iff (mbss : ap.fromWhichBSSID < ap.pAd.ap.forward.maxMbssidNum)
    (beacon : ap.fromWhichBSSID < hwBeaconMaxNum) :
    Tagged (tagGroup ap cb) mcastWcid ap.fromWhichBSSID (ap.mbssWdevIdx ap.fromWhichBSSID) ↔
      ap.fromWhichBSSID < ap.pAd.deagg.apCfg.bssidNum ∨
        cb cbWdev = ap.mbssWdevIdx ap.fromWhichBSSID := by
  have fields : tagGroup ap cb cbWcid = mcastWcid ∧
      tagGroup ap cb cbNetDevice = UInt8.ofNat ap.fromWhichBSSID ∧
      tagGroup ap cb cbWdev = if ap.fromWhichBSSID < ap.pAd.deagg.apCfg.bssidNum then
        ap.mbssWdevIdx ap.fromWhichBSSID else cb cbWdev := by
    unfold tagGroup
    by_cases used : ap.fromWhichBSSID < ap.pAd.deagg.apCfg.bssidNum
    · simp [used, mbss, beacon, cbWcid, cbNetDevice, cbMoreData, cbWdev]
    · simp [used, cbWcid, cbNetDevice, cbMoreData, cbWdev]
  constructor
  · intro tagged
    have wdev := fields.2.2.symm.trans tagged.wdev
    split at wdev
    · next used => exact Or.inl used
    · exact Or.inr wdev
  · intro carried
    refine ⟨fields.1, fields.2.1, fields.2.2.trans ?_⟩
    split
    · rfl
    · next unused => exact carried.resolve_left unused

end Tags

section Outcomes

variable {ap : ForwardAp} {header : List UInt8} {cb : PacketCb}

theorem pEntry_group (group : toGroup header = true) : ap.pEntry header = none := if_pos group

theorem pEntry_unicast (single : toGroup header = false) :
    ap.pEntry header = ap.macTableLookup (header.take macAddrLen) := by
  have bit : (header.getD 0 0).toBitVec.getLsbD 0 = false := single
  rw [ForwardAp.pEntry, bit, if_neg Bool.false_ne_true]

theorem forwarded_not (stays : ¬ ((apForward ap.pAd header).1 = true ∧
    ap.pAd.ap.forward.duplicated = true)) : apFowardWirelessStaToWirelessSta ap header cb =
      ⟨(apForward ap.pAd header).2, cb, none⟩ := by
  have refused : ((apForward ap.pAd header).1 && ap.pAd.ap.forward.duplicated) = false := by
    rwa [← Bool.not_eq_true, Bool.and_eq_true]
  simp only [apFowardWirelessStaToWirelessSta, refused, Bool.false_eq_true, if_false]

theorem forwarded_group (group : toGroup header = true)
    (goes : (apForward ap.pAd header).1 = true) (room : ap.pAd.ap.forward.duplicated = true) :
    apFowardWirelessStaToWirelessSta ap header cb =
      ⟨(apForward ap.pAd header).2, cb, some (tagGroup ap cb)⟩ := by
  simp only [apFowardWirelessStaToWirelessSta, goes, room, Bool.and_self, if_true,
    pEntry_group group]

theorem forwarded_unicast (single : toGroup header = false) {pEntry : ForwardEntry}
    (found : ap.macTableLookup (header.take macAddrLen) = some pEntry)
    (goes : (apForward ap.pAd header).1 = true) (room : ap.pAd.ap.forward.duplicated = true) :
    apFowardWirelessStaToWirelessSta ap header cb =
      ⟨(apForward ap.pAd header).2, (tagUnicast pEntry cb).1, some (tagUnicast pEntry cb).2⟩ := by
  simp only [apFowardWirelessStaToWirelessSta, goes, room, Bool.and_self, if_true,
    pEntry_unicast single, found]

/-- A packet of which no copy is made is right as it is. -/
theorem forwardsRight_kept :
    ForwardsRight ap header ⟨(apForward ap.pAd header).2, cb, none⟩ cb where
  unicast _ sent := nomatch sent
  group multi := ⟨(apForward_group multi).1, fun sent => nomatch sent⟩
  copyTagged _ same := nomatch same
  originalKept := rfl

end Outcomes

/-- Everything about the forwarding is right exactly when the packet carries the interface that its
copy would need. -/
theorem forwardsRight_iff (ap : ForwardAp) (header : List UInt8) (cb : PacketCb) :
    ForwardsRight ap header (apFowardWirelessStaToWirelessSta ap header cb) cb ↔
      CarriesWdev ap header cb := by
  by_cases sent : (apForward ap.pAd header).1 = true ∧ ap.pAd.ap.forward.duplicated = true
  · obtain ⟨goes, room⟩ := sent
    cases group : toGroup header
    · obtain ⟨⟨pEntry, found, goesTo⟩, quiet⟩ := (apForward_unicast group).imp_left fun iff =>
        iff.mp goes
      rw [forwarded_unicast group found goes room]
      constructor
      · intro right _
        rw [group, if_neg Bool.false_ne_true]
        intro other same _
        obtain rfl := Option.some.inj (found.symm.trans same)
        exact (tagUnicast_tagged_iff pEntry).mp ((right.copyTagged _ rfl).2 pEntry group found)
      · intro carries
        have wdev : cb cbWdev = pEntry.wdevIdx := by
          have carried := carries room
          rw [group, if_neg Bool.false_ne_true] at carried
          exact carried pEntry found goesTo
        refine ⟨fun _ _ => ⟨quiet goes, pEntry, found, goesTo.1, goesTo.2.1, goesTo.2.2.1⟩,
          fun multi => absurd (group.symm.trans multi) Bool.false_ne_true, ?_,
          tagUnicast_original wdev⟩
        intro copy same
        obtain rfl := Option.some.inj same
        refine ⟨fun multi => absurd (group.symm.trans multi) Bool.false_ne_true, ?_⟩
        intro other _ same
        obtain rfl := Option.some.inj (found.symm.trans same)
        exact (tagUnicast_tagged_iff pEntry).mpr wdev
    · obtain ⟨announced, back⟩ := @apForward_group ap header group
      have goesBack := back.mp goes
      rw [forwarded_group group goes room]
      have tagged := @tagGroup_tagged_iff ap cb goesBack.1 goesBack.2.1
      constructor
      · intro right _
        rw [group, if_pos rfl]
        exact fun _ => tagged.mp ((right.copyTagged _ rfl).1 group)
      · intro carries
        have carried := carries room
        rw [group, if_pos rfl] at carried
        refine ⟨fun single => absurd (group.symm.trans single) (by decide),
          fun _ => ⟨announced, fun _ => goesBack.2.2.2⟩, ?_, rfl⟩
        intro copy same
        obtain rfl := Option.some.inj same
        exact ⟨fun _ => tagged.mpr (carried goesBack),
          fun _ single => absurd (group.symm.trans single) (by decide)⟩
  · rw [forwarded_not sent]
    apply iff_of_true forwardsRight_kept
    intro room
    have stays : ¬ (apForward ap.pAd header).1 = true := fun goes => sent ⟨goes, room⟩
    cases group : toGroup header
    · rw [if_neg Bool.false_ne_true]
      intro pEntry found goesTo
      exact absurd ((apForward_unicast group).1.mpr ⟨pEntry, found, goesTo⟩) stays
    · rw [if_pos rfl]
      exact fun back => absurd ((apForward_group group).2.mpr back) stays

/-- An access point with one station behind its second BSS, whose interface is 1. -/
def secondBss : ForwardAp where
  pAd := { Receive.closedAp with
    ap := { Receive.closedAp.ap with
      forward := ⟨8, fun _ => 2, fun _ => false, fun _ => false, false,
        fun _ => some ⟨true, true, 1⟩, true⟩ } }
  macTableLookup _ := some ⟨⟨true, true, 1⟩, 3, 1⟩
  mbssWdevIdx bss := UInt8.ofNat bss
  lookup_agrees _ := rfl

/-- The copy goes out without the interface, which the packet gets instead. -/
theorem secondBss_not_right : ¬ ForwardsRight secondBss [2, 0, 0, 0, 0, 7]
    (apFowardWirelessStaToWirelessSta secondBss [2, 0, 0, 0, 0, 7] fun _ => 0) fun _ => 0 := by
  intro right
  have wdev := congrFun right.originalKept cbWdev
  exact absurd wdev (by decide)

end Mt7612u.Ap
