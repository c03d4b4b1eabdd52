import Mt7612u.Receive.DataFrame

/-! 802.1X port control on receive: what passes while the port of the station is closed. -/

namespace Mt7612u.Receive
open BlockAck (maxLenOfMacTable)

/-- An EAPOL payload behind one of the two SNAP prefixes. -/
def carriesEapol (mem : Memory) (pData : Nat) : Bool :=
  hasSnap mem pData && mem.equal (pData + 6) eapol

theorem isEapolHeader_make8023Header (mem : Memory) (pMac1 pMac2 : Nat) (pType : List UInt8) :
    isEapolHeader (make8023Header mem pMac1 pMac2 pType) = (pType == eapol) := by
  unfold isEapolHeader make8023Header
  rw [List.drop_left' (by simp only [List.length_append, Memory.length_bytes]; rfl)]

/-- A length of a payload that is handed up is no EAPOL type. -/
theorem llcLen_ne_eapol {n : Nat} (small : n ≤ maxRxPktLen) : (llcLen n == eapol) = false := by
  rw [beq_eq_false_iff_ne]
  intro same
  obtain ⟨high, -⟩ := List.cons.inj same
  have value := congrArg UInt8.toNat high
  have bound : n >>> 8 < 256 := by
    rw [Nat.shiftRight_eq_div_pow]
    unfold maxRxPktLen at small
    omega
  rw [UInt8.toNat_ofNat_of_lt' bound, Nat.shiftRight_eq_div_pow] at value
  unfold maxRxPktLen at small
  have code : (0x88 : UInt8).toNat = 136 := rfl
  omega

theorem not_eapol_of_keepsSnap {mem : Memory} {pData : Nat} (keeps : keepsSnap mem pData = true) :
    mem.equal (pData + 6) eapol = false := by
  unfold keepsSnap Memory.equal at keeps
  unfold Memory.equal
  rw [Bool.and_eq_true, Bool.or_eq_true, beq_iff_eq, beq_iff_eq] at keeps
  rw [beq_eq_false_iff_ne]
  rcases keeps.1 with type | type
  · exact fun other => absurd (type.symm.trans other) (by decide)
  · exact fun other => absurd (type.symm.trans other) (by decide)

/-- The header conversion writes the EAPOL type exactly for an EAPOL payload. -/
theorem convertTo8023_isEapol {mem : Memory} {pData dataSize : Nat} (pDA pSA : Nat)
    (small : removesSnap mem pData = false → dataSize ≤ maxRxPktLen) :
    isEapolHeader (convertTo8023 mem pDA pSA pData dataSize).p8023hdr = carriesEapol mem pData := by
  unfold convertTo8023 carriesEapol
  unfold removesSnap at small
  cases snap : hasSnap mem pData with
  | false =>
    rw [snap, Bool.false_and] at small
    simp only [Bool.false_eq_true, ↓reduceIte]
    rw [isEapolHeader_make8023Header, llcLen_ne_eapol (small rfl), Bool.false_and]
  | true =>
    cases keeps : keepsSnap mem pData with
    | true =>
      rw [keeps, Bool.not_true, Bool.and_false] at small
      simp only [↓reduceIte]
      rw [isEapolHeader_make8023Header, llcLen_ne_eapol (small rfl), not_eapol_of_keepsSnap keeps,
        Bool.and_false]
    | false =>
      simp only [Bool.false_eq_true, ↓reduceIte]
      rw [isEapolHeader_make8023Header, Bool.true_and]
      rfl

theorem removeLLC_isEapol {pAd : RxAdapter} {mem : Memory} {pData dataSize : Nat}
    (small : (removeLLC pAd mem pData dataSize).dataSize ≤ maxRxPktLen) :
    isEapolHeader (removeLLC pAd mem pData dataSize).p8023hdr = carriesEapol mem pData := by
  unfold removeLLC at *
  cases mode : pAd.deagg.opMode with
  | ap =>
    simp only [mode, convertTo8023_dataSize] at small ⊢
    apply convertTo8023_isEapol
    intro kept
    simpa only [kept, Bool.false_eq_true, ↓reduceIte] using small
  | sta =>
    simp only [mode, convertTo8023_dataSize] at small ⊢
    apply convertTo8023_isEapol
    intro kept
    simpa only [kept, Bool.false_eq_true, ↓reduceIte] using small

theorem Memory.bytes_congr {mem mem' : Memory} {start : Nat}
    (agree : ∀ address, start ≤ address → mem' address = mem address) (count : Nat) :
    mem'.bytes start count = mem.bytes start count := by
  unfold Memory.bytes
  apply List.map_congr_left
  intro i _
  exact agree _ (Nat.le_add_right start i)

/-- The conversion of a sub-frame reads nothing in front of it. -/
theorem convertSubFrame_congr {mem mem' : Memory} {start : Nat}
    (agree : ∀ address, start ≤ address → mem' address = mem address) :
    convertSubFrame mem' start = convertSubFrame mem start := by
  have behind : ∀ offset address, start + offset ≤ address → mem' address = mem address :=
    fun offset address above => agree address ((Nat.le_add_right start offset).trans above)
  have payload : ∀ offset, ∀ address, start + length8023 + offset ≤ address →
      mem' address = mem address := fun offset address above =>
    behind (length8023 + offset) address (by omega)
  have snap : hasSnap mem' (start + length8023) = hasSnap mem (start + length8023) := by
    unfold hasSnap
    simp only [Memory.equal_congr (behind length8023)]
  have keeps : keepsSnap mem' (start + length8023) = keepsSnap mem (start + length8023) := by
    unfold keepsSnap
    simp only [Memory.equal_congr (behind length8023), Memory.equal_congr (payload 6)]
  have header : ∀ type, make8023Header mem' start (start + macAddrLen) type =
      make8023Header mem start (start + macAddrLen) type := by
    intro type
    unfold make8023Header
    rw [Memory.bytes_congr agree, Memory.bytes_congr (behind macAddrLen)]
  unfold convertSubFrame convertTo8023
  rw [snap, keeps, be16_congr (behind length8023NoType), Memory.bytes_congr (payload 6)]
  simp only [header]

/-- The frame announced for a sub-frame. -/
def announcedFrame (c : DeaggContext) (mem : Memory) (start : Nat) : List UInt8 :=
  let span := announcedSpan c (convertSubFrame mem start)
  (storeHeader c mem start).bytes span.start span.count

theorem announcedFrame_congr (c : DeaggContext) {mem mem' : Memory} {start : Nat}
    (agree : ∀ address, start ≤ address → mem' address = mem address) :
    announcedFrame c mem' start = announcedFrame c mem start := by
  unfold announcedFrame storeHeader
  rw [convertSubFrame_congr agree]
  dsimp only
  apply Memory.bytes_congr
  intro address above
  have front := (storedHeader_end c mem start).1.trans above
  unfold Memory.write
  rw [agree address front]

/-- A stored header does not reach a sub-frame that the walk goes on to. -/
theorem storeHeader_next (c : DeaggContext) (mem : Memory) {pData address : Nat}
    (next : pData + 32 ≤ address) : storeHeader c mem pData address = mem address := by
  apply Memory.write_after
  rw [(storedHeader_end c mem pData).2]
  split_ifs
  · omega
  · omega
  · unfold length8023
    omega

/-- What the walk announces are the sub-frames it clones, each read from what was received. -/
theorem announced_eq (c : DeaggContext) (mem : Memory) (pData dataSize nMSDU : Nat) :
    (deaggregateAMSDUAnnounce c mem pData dataSize nMSDU).announced =
      (((subFrames mem pData dataSize).zipIdx nMSDU).filter fun subFrame =>
        c.cloned subFrame.2).map fun subFrame => announcedFrame c mem subFrame.1 := by
  have one : ∀ mem pData nMSDU, announcedFrames c mem pData nMSDU =
      (([(pData, nMSDU)] : List (Nat × Nat)).filter fun subFrame => c.cloned subFrame.2).map
        fun subFrame => announcedFrame c mem subFrame.1 := by
    intro mem pData nMSDU
    unfold announcedFrames announcedFrame
    cases cloned : c.cloned nMSDU <;> simp [cloned]
  induction dataSize using Nat.strong_induction_on generalizing mem pData nMSDU with
  | _ dataSize ih =>
    rw [deaggregateAMSDUAnnounce, subFrames]
    dsimp only
    split_ifs with more broken odd next
    · rfl
    · simpa [Deaggregated.after] using one mem pData nMSDU
    · have agree : ∀ address,
          pData + align4 (u16 ((be16 mem (pData + length8023NoType) : Int) + length8023)) ≤
            address → storeHeader c mem pData address = mem address := by
        intro address above
        exact storeHeader_next c mem (by omega)
      have rest := ih (dataSize - align4 (u16
        ((be16 mem (pData + length8023NoType) : Int) + length8023))) (by omega)
        (storeHeader c mem pData)
        (pData + align4 (u16 ((be16 mem (pData + length8023NoType) : Int) + length8023)))
        (nMSDU + 1)
      rw [subFrames_congr _ agree] at rest
      have same : ∀ subFrame ∈ ((subFrames mem
          (pData + align4 (u16 ((be16 mem (pData + length8023NoType) : Int) + length8023)))
          (dataSize - align4 (u16 ((be16 mem (pData + length8023NoType) : Int) +
            length8023)))).zipIdx (nMSDU + 1)).filter fun subFrame => c.cloned subFrame.2,
          announcedFrame c (storeHeader c mem pData) subFrame.1 =
            announcedFrame c mem subFrame.1 := by
        intro subFrame member
        have later := le_of_mem_subFrames
          (List.fst_mem_of_mem_zipIdx (List.mem_of_mem_filter member))
        exact announcedFrame_congr c fun address above => agree address (later.trans above)
      rw [List.map_congr_left same] at rest
      change announcedFrames c mem pData nMSDU ++ Deaggregated.announced _ = _
      rw [rest, one, List.zipIdx_cons, ← List.map_append, ← List.filter_append]
      rfl
    · simpa [Deaggregated.after] using one mem pData nMSDU
    · rfl

theorem payload_le_of_mem_subFrames {mem : Memory} {pData dataSize start : Nat}
    (visited : start ∈ subFrames mem pData dataSize) :
    be16 mem (start + length8023NoType) ≤ 1518 := by
  induction dataSize using Nat.strong_induction_on generalizing pData with
  | _ dataSize ih =>
    rw [subFrames] at visited
    dsimp only at visited
    split_ifs at visited with more broken last next
    · exact absurd visited List.not_mem_nil
    · obtain rfl := List.mem_singleton.mp visited
      omega
    · rcases List.mem_cons.mp visited with rfl | later
      · omega
      · exact ih _ (by omega) later
    · obtain rfl := List.mem_singleton.mp visited
      omega
    · exact absurd visited List.not_mem_nil

theorem convertSubFrame_isEapol {mem : Memory} {pData dataSize start : Nat}
    (visited : start ∈ subFrames mem pData dataSize) :
    isEapolHeader (convertSubFrame mem start).p8023hdr =
      carriesEapol mem (start + length8023) := by
  apply convertTo8023_isEapol
  intro _
  exact (payload_le_of_mem_subFrames visited).trans (by decide)

theorem forall_announceOrForward {pAd : RxAdapter} {header : List UInt8} :
    (∀ msdu ∈ announceOrForward pAd header, isEapolHeader msdu.header = true) ↔
      (passesOn pAd header = true → isEapolHeader header = true) := by
  unfold announceOrForward
  split
  next passes => simp [passes, Delivery.header]
  next held => simp [held]

/-- `Indicate_AMSDU_Packet` passes on one MSDU for each frame the walk announces. -/
theorem announced_eq_cloned (c : DeaggContext) (mem : Memory) (pData dataSize : Nat) :
    (deaggregateAMSDUAnnounce c mem pData dataSize 0).announced =
      (clonedSubFrames c mem pData dataSize).map (announcedFrame c mem) := by
  rw [announced_eq, clonedSubFrames, List.map_map]
  rfl

/-- The frame passes as one MSDU only if it is EAPOL. -/
def LegacyEapol (pAd : RxAdapter) (blk : RxData) : Prop :=
  (removeLLC pAd blk.mem blk.pData blk.dataSize.toNat).dataSize ≤ maxRxPktLen →
    passesOn pAd (removeLLC pAd blk.mem blk.pData blk.dataSize.toNat).p8023hdr = true →
      carriesEapol blk.mem blk.pData = true

/-- The sub-frames that pass are EAPOL. -/
def AmsduEapol (pAd : RxAdapter) (blk : RxData) : Prop :=
  ∀ start ∈ clonedSubFrames pAd.deagg blk.mem blk.pData blk.dataSize.toNat,
    passesOn pAd (convertSubFrame blk.mem start).p8023hdr = true →
      carriesEapol blk.mem (start + length8023) = true

/-- The MSDUs that go to the reorder list are EAPOL. -/
def ReorderedEapol (pAd : RxAdapter) (blk : RxData) : Prop :=
  let converted := removeLLC pAd blk.mem blk.pData blk.dataSize.toNat
  if blk.fRXAMSDU then
    ∀ start ∈ subFrames blk.mem converted.pData converted.dataSize,
      carriesEapol blk.mem (start + length8023) = true
  else carriesEapol blk.mem blk.pData = true

/-- Both packets of a Ralink aggregate are EAPOL, as far as they pass. -/
def RalinkEapol (pAd : RxAdapter) (blk : RxData) : Prop :=
  ∀ header ∈ ralinkHeaders pAd blk, passesOn pAd header = true → isEapolHeader header = true

theorem indicateLegacyPacket_eapol_iff (pAd : RxAdapter) (blk : RxData) :
    (∀ msdu ∈ indicateLegacyPacket pAd blk, isEapolHeader msdu.header = true) ↔
      LegacyEapol pAd blk := by
  unfold indicateLegacyPacket LegacyEapol
  dsimp only
  split
  next large =>
    constructor
    · exact fun _ small => absurd small (not_le.mpr large)
    · exact fun _ msdu member => absurd member List.not_mem_nil
  next fits =>
    rw [forall_announceOrForward, removeLLC_isEapol (not_lt.mp fits)]
    exact ⟨fun eapol _ => eapol, fun eapol => eapol (not_lt.mp fits)⟩

theorem mem_subFrames_of_cloned {c : DeaggContext} {mem : Memory} {pData dataSize start : Nat}
    (cloned : start ∈ clonedSubFrames c mem pData dataSize) :
    start ∈ subFrames mem pData dataSize := by
  obtain ⟨⟨first, index⟩, kept, rfl⟩ := List.mem_map.mp cloned
  exact List.fst_mem_of_mem_zipIdx (List.mem_of_mem_filter kept)

theorem indicateAMSDUPacket_eapol_iff (pAd : RxAdapter) (blk : RxData) :
    (∀ msdu ∈ indicateAMSDUPacket pAd blk, isEapolHeader msdu.header = true) ↔
      AmsduEapol pAd blk := by
  unfold indicateAMSDUPacket AmsduEapol
  rw [List.forall_mem_flatMap]
  apply forall_congr'
  intro start
  apply forall_congr'
  intro cloned
  rw [forall_announceOrForward, convertSubFrame_isEapol (mem_subFrames_of_cloned cloned)]

theorem cmmRxRalinkFrameIndicate_eapol_iff (pAd : RxAdapter) (blk : RxData) :
    (∀ msdu ∈ cmmRxRalinkFrameIndicate pAd blk, isEapolHeader msdu.header = true) ↔
      RalinkEapol pAd blk := by
  unfold cmmRxRalinkFrameIndicate RalinkEapol
  rw [List.forall_mem_flatMap]
  apply forall_congr'
  intro header
  exact forall_congr' fun _ => forall_announceOrForward

theorem ampduFate_kept {env : BlockAck.Env} {s : BlockAck.Session} {pRxBlk : BlockAck.RxBlk}
    {now32 : BitVec 64} (kept : ampduFate env s pRxBlk now32 ≠ .dropped) :
    (pRxBlk.fRXAMSDU = false → pRxBlk.dataSize.toNat ≤ maxRxPktLen) ∧
      pRxBlk.wcid.toNat < maxLenOfMacTable := by
  unfold ampduFate at kept
  split at kept
  next => exact absurd rfl kept
  next size =>
    split at kept
    next => exact absurd rfl kept
    next known =>
      refine ⟨fun single => ?_, not_le.mp known⟩
      by_contra large
      exact size ⟨by rw [single]; rfl, not_le.mp large⟩

theorem enqueueFate_eapol {s : BlockAck.Session} {pRxBlk : BlockAck.RxBlk}
    (eap : pRxBlk.fRXEAP = true) : enqueueFate s pRxBlk = .indicated := by
  unfold enqueueFate
  split
  next => rw [eap, if_neg (by decide)]
  next => rfl

/-- An EAPOL frame is never put on the reorder list. -/
theorem ampduFate_eapol {env : BlockAck.Env} {s : BlockAck.Session} {pRxBlk : BlockAck.RxBlk}
    {now32 : BitVec 64} (eap : pRxBlk.fRXEAP = true) :
    ampduFate env s pRxBlk now32 ≠ .reordered := by
  unfold ampduFate
  split_ifs
  · exact nofun
  · exact nofun
  · exact nofun
  · dsimp only
    cases BlockAck.arrival (BlockAck.meetFrame env s pRxBlk now32).entry pRxBlk.sequence.toNat with
    | first => exact nofun
    | inOrder => exact nofun
    | duplicated => exact nofun
    | old => exact nofun
    | withinWindow => simp only [enqueueFate_eapol eap]; exact nofun
    | surpasses => simp only [enqueueFate_eapol eap]; exact nofun

theorem reorderedMsdus_eapol_iff {pAd : RxAdapter} {blk : RxData}
    (small : blk.fRXAMSDU = false → blk.dataSize.toNat ≤ maxRxPktLen) :
    (∀ msdu ∈ reorderedMsdus pAd blk, isEapolHeader msdu.header = true) ↔
      ReorderedEapol pAd blk := by
  unfold reorderedMsdus ReorderedEapol
  dsimp only
  cases several : blk.fRXAMSDU with
  | true =>
    simp only [↓reduceIte, List.forall_mem_map, Delivery.header]
    apply forall_congr'
    intro start
    apply forall_congr'
    intro visited
    rw [convertSubFrame_isEapol visited]
  | false =>
    simp only [Bool.false_eq_true, ↓reduceIte, List.mem_singleton, forall_eq, Delivery.header]
    have header : isEapolHeader (removeLLC pAd blk.mem blk.pData blk.dataSize.toNat).p8023hdr =
        carriesEapol blk.mem blk.pData := by
      unfold removeLLC
      cases pAd.deagg.opMode with
      | ap => exact convertTo8023_isEapol _ _ fun _ => small several
      | sta => exact convertTo8023_isEapol _ _ fun _ => small several
    rw [header]

/-- What `Indicate_Legacy_Packet` or `Indicate_AMSDU_Packet` lets pass of a frame is EAPOL. -/
def IndicatedEapol (pAd : RxAdapter) (blk : RxData) : Prop :=
  if blk.fRXAMSDU then AmsduEapol pAd blk else LegacyEapol pAd blk

/-- The MSDUs of a frame without the EAP flag are EAPOL wherever they pass. -/
def AdmittedEapol (pAd : RxAdapter) (st : RxState rxwiSize) (blk : RxData) : Prop :=
  if blk.fRXARALINK then RalinkEapol pAd blk
  else if blk.reorders pAd then
    match ampduFate pAd.env st.session (blk.toRxBlk pAd false) st.now32 with
    | .dropped => True
    | .indicated => IndicatedEapol pAd blk
    | .reordered => ReorderedEapol pAd blk
  else IndicatedEapol pAd blk

theorem indicated_eapol_iff (pAd : RxAdapter) (blk : RxData) :
    (∀ msdu ∈ (if blk.fRXAMSDU then indicateAMSDUPacket pAd blk else indicateLegacyPacket pAd blk),
      isEapolHeader msdu.header = true) ↔ IndicatedEapol pAd blk := by
  unfold IndicatedEapol
  cases blk.fRXAMSDU with
  | true => exact indicateAMSDUPacket_eapol_iff pAd blk
  | false => exact indicateLegacyPacket_eapol_iff pAd blk

theorem cmmRxFrameIndicate_eapol_iff (pAd : RxAdapter) (st : RxState rxwiSize) (blk : RxData) :
    (∀ msdu ∈ cmmRxFrameIndicate pAd st blk, isEapolHeader msdu.header = true) ↔
      AdmittedEapol pAd st blk := by
  unfold cmmRxFrameIndicate AdmittedEapol
  cases blk.fRXARALINK with
  | true => exact cmmRxRalinkFrameIndicate_eapol_iff pAd blk
  | false =>
    simp only [Bool.false_eq_true, ↓reduceIte]
    unfold cmmRxnonRalinkFrameIndicate
    cases blk.reorders pAd with
    | false => exact indicated_eapol_iff pAd blk
    | true =>
      simp only [↓reduceIte]
      unfold indicateAMPDUPacket
      cases fate : ampduFate pAd.env st.session (blk.toRxBlk pAd false) st.now32 with
      | dropped => simp
      | indicated => exact indicated_eapol_iff pAd blk
      | reordered =>
        apply reorderedMsdus_eapol_iff
        exact (ampduFate_kept (by rw [fate]; exact nofun)).1

/-- An access point's own look at an EAPOL frame lets nothing else pass. -/
theorem apRxEAPOLFrameIndicate_eapol (pAd : RxAdapter) (blk : RxData) :
    ∀ msdu ∈ apRxEAPOLFrameIndicate pAd blk, isEapolHeader msdu.header = true := by
  unfold apRxEAPOLFrameIndicate
  split_ifs with short snap type unknown
  · exact fun msdu member => absurd member List.not_mem_nil
  · exact fun msdu member => absurd member List.not_mem_nil
  · exact fun msdu member => absurd member List.not_mem_nil
  · exact fun msdu member => absurd member List.not_mem_nil
  · rw [indicateLegacyPacket_eapol_iff]
    intro _ _
    rw [Bool.not_eq_true, Bool.not_eq_false'] at snap type
    unfold carriesEapol hasSnap
    rw [snap, type, Bool.true_or, Bool.true_and]

/-- A frame with the EAP flag passes the reorder code as EAPOL, or its sub-frames do. -/
theorem indicateAMPDUPacket_eapol_iff (pAd : RxAdapter) (st : RxState rxwiSize) (blk : RxData) :
    (∀ msdu ∈ indicateAMPDUPacket pAd st blk true, isEapolHeader msdu.header = true) ↔
      (ampduFate pAd.env st.session (blk.toRxBlk pAd true) st.now32 = .indicated →
        if blk.fRXAMSDU then AmsduEapol pAd blk
        else ∀ msdu ∈ rxEAPOLFrameIndicate pAd blk, isEapolHeader msdu.header = true) := by
  unfold indicateAMPDUPacket
  cases fate : ampduFate pAd.env st.session (blk.toRxBlk pAd true) st.now32 with
  | dropped => simp
  | reordered => exact absurd fate (ampduFate_eapol rfl)
  | indicated =>
    have known := (ampduFate_kept (by rw [fate]; exact nofun) :
      _ ∧ (blk.toRxBlk pAd true).wcid.toNat < maxLenOfMacTable).2
    unfold indicateLegacyOrAMSDU
    cases blk.fRXAMSDU with
    | true =>
      simp only [↓reduceIte, forall_const]
      exact indicateAMSDUPacket_eapol_iff pAd blk
    | false =>
      simp only [Bool.false_eq_true, ↓reduceIte, forall_const]
      unfold indicateEAPOLPacket
      rw [if_neg (show ¬maxLenOfMacTable ≤ blk.wcid.toNat from not_le.mpr known)]

theorem apRxDataFrameAnnounce_eapol_iff (pAd : RxAdapter) (st : RxState rxwiSize) (blk : RxData)
    (ap : pAd.deagg.opMode = .ap) (closed : pAd.ap.privacyFilter = .filter8021xWEP) :
    (∀ msdu ∈ apRxDataFrameAnnounce pAd st blk, isEapolHeader msdu.header = true) ↔
      (rtmpCheckWPAframe blk.mem blk.pData blk.dataSize.toNat = true → blk.reorders pAd = true →
        ampduFate pAd.env st.session (blk.toRxBlk pAd true) st.now32 = .indicated →
        blk.fRXAMSDU = true → AmsduEapol pAd blk) := by
  have own : rxEAPOLFrameIndicate pAd blk = apRxEAPOLFrameIndicate pAd blk := by
    unfold rxEAPOLFrameIndicate
    rw [ap]
  unfold apRxDataFrameAnnounce
  cases rtmpCheckWPAframe blk.mem blk.pData blk.dataSize.toNat with
  | false => simp [closed]
  | true =>
    simp only [↓reduceIte, forall_const]
    unfold announceEapol
    cases blk.reorders pAd with
    | false =>
      simp only [Bool.false_eq_true, ↓reduceIte, false_implies, iff_true, own]
      exact apRxEAPOLFrameIndicate_eapol pAd blk
    | true =>
      simp only [↓reduceIte, forall_const, indicateAMPDUPacket_eapol_iff]
      apply forall_congr'
      intro _
      cases blk.fRXAMSDU with
      | true => simp
      | false =>
        simp only [Bool.false_eq_true, ↓reduceIte, false_implies, iff_true, own]
        exact apRxEAPOLFrameIndicate_eapol pAd blk

/-- A frame that a station takes for EAPOL carries only EAPOL where it passes. -/
def StaCheckedEapol (pAd : RxAdapter) (st : RxState rxwiSize) (blk : RxData) : Prop :=
  if blk.reorders pAd then
    ampduFate pAd.env st.session (blk.toRxBlk pAd true) st.now32 = .indicated →
      if blk.fRXAMSDU then AmsduEapol pAd blk
      else pAd.sta.wpaSupplicantUP = true → LegacyEapol pAd blk
  else pAd.sta.wpaSupplicantUP = true → LegacyEapol pAd blk

theorem staRxDataFrameAnnounce_eapol_iff (pAd : RxAdapter) (st : RxState rxwiSize) (blk : RxData)
    (sta : pAd.deagg.opMode = .sta) :
    (∀ msdu ∈ staRxDataFrameAnnounce pAd st blk, isEapolHeader msdu.header = true) ↔
      if rtmpCheckWPAframe blk.mem blk.pData blk.dataSize.toNat then StaCheckedEapol pAd st blk
      else staAdmits pAd blk = true → AdmittedEapol pAd st blk := by
  have own : (∀ msdu ∈ rxEAPOLFrameIndicate pAd blk, isEapolHeader msdu.header = true) ↔
      (pAd.sta.wpaSupplicantUP = true → LegacyEapol pAd blk) := by
    unfold rxEAPOLFrameIndicate staRxEAPOLFrameIndicate
    rw [sta]
    cases pAd.sta.wpaSupplicantUP with
    | true => simp only [↓reduceIte, forall_const, indicateLegacyPacket_eapol_iff]
    | false => simp
  unfold staRxDataFrameAnnounce StaCheckedEapol
  cases rtmpCheckWPAframe blk.mem blk.pData blk.dataSize.toNat with
  | true =>
    simp only [↓reduceIte]
    unfold announceEapol
    cases blk.reorders pAd with
    | true =>
      simp only [↓reduceIte, indicateAMPDUPacket_eapol_iff, own]
    | false =>
      simp only [Bool.false_eq_true, ↓reduceIte, own]
  | false =>
    simp only [Bool.false_eq_true, ↓reduceIte]
    cases staAdmits pAd blk with
    | true => simp only [↓reduceIte, forall_const, cmmRxFrameIndicate_eapol_iff]
    | false => simp

/-- The port of the station the frame comes from is closed. -/
def PortClosed (pAd : RxAdapter) : Prop :=
  match pAd.deagg.opMode with
  | .ap => pAd.ap.privacyFilter = .filter8021xWEP
  | .sta => pAd.sta.portSecured = false

/-- No branch past the port check is taken with an MSDU that is not EAPOL. For an access point
that branch is the hand-off of an A-MSDU whose first bytes look like EAPOL, out of an A-MPDU; for
a station also a group frame, a frame that `staAdmits` lets in, and EAPOL without SNAP. -/
def Guarded (pAd : RxAdapter) (st : RxState rxwiSize) (rx : RxMpdu rxwiSize) : Prop :=
  match pAd.deagg.opMode with
  | .ap => ∀ blk, apCompleteFrame pAd st rx = some blk →
      rtmpCheckWPAframe blk.mem blk.pData blk.dataSize.toNat = true → blk.reorders pAd = true →
        ampduFate pAd.env st.session (blk.toRxBlk pAd true) st.now32 = .indicated →
        blk.fRXAMSDU = true → AmsduEapol pAd blk
  | .sta => (∀ blk, staGroupFrame pAd rx = some blk → LegacyEapol pAd blk) ∧
      ∀ blk, staCompleteFrame pAd st rx = some blk →
        if rtmpCheckWPAframe blk.mem blk.pData blk.dataSize.toNat then StaCheckedEapol pAd st blk
        else staAdmits pAd blk = true → AdmittedEapol pAd st blk

/-- A frame is a group frame or a frame of its own, not both. -/
theorem staCompleteFrame_of_group {pAd : RxAdapter} {st : RxState rxwiSize} {rx : RxMpdu rxwiSize}
    {blk : RxData} (group : staGroupFrame pAd rx = some blk) :
    staCompleteFrame pAd st rx = none := by
  unfold staGroupFrame at group
  split at group
  next tests =>
    unfold staCompleteFrame
    rw [if_neg]
    rintro ⟨-, alone, -⟩
    rw [tests.2.1] at alone
    exact absurd alone (by decide)
  next => cases group

/-- While the port is closed nothing but EAPOL passes exactly when the frame is guarded. -/
theorem handleRxDataFrame_eapol_iff (pAd : RxAdapter) (st : RxState rxwiSize)
    (rx : RxMpdu rxwiSize) (closed : PortClosed pAd) :
    (∀ msdu ∈ handleRxDataFrame pAd st rx, isEapolHeader msdu.header = true) ↔
      Guarded pAd st rx := by
  unfold handleRxDataFrame Guarded
  unfold PortClosed at closed
  cases mode : pAd.deagg.opMode with
  | ap =>
    rw [mode] at closed
    dsimp only at closed ⊢
    unfold apHandleRxDataFrame
    cases complete : apCompleteFrame pAd st rx with
    | none => simp
    | some blk =>
      simp only [Option.some.injEq, forall_eq']
      exact apRxDataFrameAnnounce_eapol_iff pAd st blk mode closed
  | sta =>
    dsimp only
    unfold staHandleRxDataFrame
    cases group : staGroupFrame pAd rx with
    | some blk =>
      rw [staCompleteFrame_of_group group]
      simp only [Option.some.injEq, forall_eq', reduceCtorEq, false_implies, implies_true, and_true]
      exact indicateLegacyPacket_eapol_iff pAd blk
    | none =>
      cases complete : staCompleteFrame pAd st rx with
      | none => simp
      | some blk =>
        simp only [Option.some.injEq, forall_eq', reduceCtorEq, false_implies, implies_true,
          true_and]
        exact staRxDataFrameAnnounce_eapol_iff pAd st blk mode

/-- An access point whose station has not finished its 802.1X exchange. -/
def closedAp : RxAdapter where
  deagg :=
    { opMode := .ap
      apCfg := ⟨1, by decide, fun _ => 0, fun _ => 0⟩
      fromWhichBSSID := 0
      tpid := (0x81, 0)
      elemAllocated := fun _ => true
      cloned := fun _ => true }
  ap :=
    { banClass3Data := false
      associated := true
      aggregationCapable := false
      wepStatus := .aesEnable
      privacyFilter := .filter8021xWEP
      forward := ⟨8, fun _ => 1, fun _ => false, fun _ => false, false, fun _ => none, true⟩ }
  sta :=
    { infra := true
      bssid := [2, 0, 0, 0, 0, 1]
      currentAddress := [2, 0, 0, 0, 0, 2]
      macTableLookup := fun _ => false
      aggregationInUsed := false
      mediaStateConnected := true
      entryWepStatus := .aesEnable
      wepStatus := .aesEnable
      portSecured := false
      wpaSupplicantUP := true }
  osHz := 100
  bDisableReordering := false
  pPacket2 := true

/-- A station whose port is not secured. -/
def closedSta : RxAdapter := { closedAp with deagg := { closedAp.deagg with opMode := .sta } }

/-- No fragments, and no reorder session. -/
def idleState : RxState 28 where
  fragFrame := ⟨fun _ => 0, 0, 0, 0⟩
  session :=
    { idx := 0
      entry := ⟨⟨0, BlockAck.maxLenOfMacTable_pos⟩, ⟨0, BlockAck.numOfTid_pos⟩, 0, 0, 0, 0, 0, 0, .none, .empty⟩
      freelist := .empty
      log := [] }
  now32 := 0
  pNewFragPacket := none
  compareMICValue := fun _ => true

theorem length_zeroRxwi : (List.replicate 28 (0 : UInt8)).length = 28 := rfl

def rxMpdu (bytes : List UInt8) (group ba : Bool) : RxMpdu 28 where
  rxWI := List.replicate 28 0
  mem := fun i => bytes.getD i 0
  mpduTotalByteCnt := BitVec.ofNat 16 bytes.length
  pRxPacket := 0
  wcid := 1
  tid := ⟨0, BlockAck.numOfTid_pos⟩
  u2m := !group
  bcast := group
  mcast := false
  myBss := true
  l2Pad := false
  ba := ba
  decrypted := false
  legacyRate := false
  rxWI_length := length_zeroRxwi

/-- A QoS data frame to the access point. -/
def toApHeader (qos : UInt8) : List UInt8 :=
  [0x88, 0x01, 0, 0] ++ [2, 0, 0, 0, 0, 1] ++ [2, 0, 0, 0, 0, 2] ++ [2, 0, 0, 0, 0, 1] ++ [0, 0] ++
    [qos, 0]

def ipPayload : List UInt8 := snap8021H ++ [0x08, 0x00] ++ List.replicate 12 0

/-- An A-MSDU with one IP packet, its sub-frame header made up to look like EAPOL. -/
def maskedAmsdu : RxMpdu 28 :=
  rxMpdu (toApHeader 0x80 ++ snap8021H ++ eapol ++ [1, 0, 0, 0] ++ [0, 20] ++ ipPayload) false true

/-- A broadcast IP packet from the access point. -/
def groupFrame : RxMpdu 28 :=
  rxMpdu ([0x08, 0x02, 0, 0] ++ List.replicate 6 0xff ++ [2, 0, 0, 0, 0, 1] ++ [2, 0, 0, 0, 0, 3] ++
    [0, 0] ++ ipPayload) true false

/-- An EAPOL-Start. -/
def eapolStart : RxMpdu 28 :=
  rxMpdu (toApHeader 0 ++ snap8021H ++ eapol ++ [1, 1, 0, 0]) false false

theorem maskedAmsdu_walk : subFrames maskedAmsdu.mem 26 34 = [26] := by
  have field : be16 maskedAmsdu.mem (26 + length8023NoType) = 20 := by decide
  have size : align4 (u16 (((20 : Nat) : Int) + length8023)) = 36 := by decide
  rw [subFrames]
  dsimp only
  rw [field, size, if_pos (by decide), if_neg (by decide), if_neg (by decide), if_neg (by decide)]

/-- While the port is closed, an access point passes on the IP packet of the masked A-MSDU, and
a station the broadcast one. -/
theorem ipPacket_passes :
    PortClosed closedAp ∧ PortClosed closedSta ∧
      ¬(∀ msdu ∈ handleRxDataFrame closedAp idleState maskedAmsdu,
        isEapolHeader msdu.header = true) ∧
      ¬∀ msdu ∈ handleRxDataFrame closedSta idleState groupFrame,
        isEapolHeader msdu.header = true := by
  refine ⟨rfl, rfl, ?_, by decide⟩
  have handed : handleRxDataFrame closedAp idleState maskedAmsdu =
      indicateAMSDUPacket closedAp (skipHeader maskedAmsdu false) := rfl
  rw [handed, indicateAMSDUPacket_eapol_iff]
  intro eapol
  have member : 26 ∈ clonedSubFrames closedAp.deagg maskedAmsdu.mem 26 34 := by
    unfold clonedSubFrames
    rw [maskedAmsdu_walk]
    decide
  exact absurd (eapol 26 member (by decide)) (by decide)

/-- An EAPOL-Start is guarded. -/
theorem eapolStart_guarded : Guarded closedAp idleState eapolStart :=
  (handleRxDataFrame_eapol_iff closedAp idleState eapolStart rfl).mp (by decide)

end Mt7612u.Receive
