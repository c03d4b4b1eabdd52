import Mt7612u.BlockAck.AdapterRun

/-! The block-ack action frames from the air: the sanity functions of `cmm_sanity.c`, the
handlers of `ba_action.c`, and which of them index a station's arrays with the TID. -/

namespace Mt7612u.BlockAck
open Receive

/-- The fields of `MLME_QUEUE_ELEM` that the handlers read. -/
structure MlmeQueueElem where
  msg : Memory
  msgLen : Nat
  wcid : BitVec 8

/-- A little-endian 16-bit field. -/
def le16 (msg : Memory) (offset : Nat) : BitVec 16 :=
  (msg (offset + 1)).toBitVec ++ (msg offset).toBitVec

def length80211 : Nat := 24
def sizeofFrameAddbaReq : Nat := 33
def sizeofFrameAddbaRsp : Nat := 33
def sizeofFrameDelbaReq : Nat := 30

/-- `BA_PARM`. -/
structure BaParm where
  amsduSupported : Bool
  baPolicy : BitVec 1
  tid : BitVec 4
  bufSize : BitVec 10

def baParmAt (msg : Memory) (offset : Nat) : BaParm :=
  let word := le16 msg offset
  ⟨word.getLsbD 0, word.extractLsb' 1 1, word.extractLsb' 2 4, word.extractLsb' 6 10⟩

/-- `DELBA_PARM`, less the bits nobody reads. -/
structure DelbaParm where
  initiator : BitVec 1
  tid : BitVec 4

def delbaParmAt (msg : Memory) (offset : Nat) : DelbaParm :=
  let word := le16 msg offset
  ⟨word.extractLsb' 11 1, word.extractLsb' 12 4⟩

namespace MlmeQueueElem

def action (elem : MlmeQueueElem) : UInt8 := elem.msg (length80211 + 1)
def addbaReqParm (elem : MlmeQueueElem) : BaParm := baParmAt elem.msg 27
def addbaReqTimeOut (elem : MlmeQueueElem) : BitVec 16 := le16 elem.msg 29
def addbaRspStatus (elem : MlmeQueueElem) : BitVec 16 := le16 elem.msg 27
def addbaRspParm (elem : MlmeQueueElem) : BaParm := baParmAt elem.msg 29
def delbaParm (elem : MlmeQueueElem) : DelbaParm := delbaParmAt elem.msg 26

end MlmeQueueElem

def addbaReq : UInt8 := 0
def addbaResp : UInt8 := 1
def delba : UInt8 := 2
def immedBa : BitVec 1 := 1
def originator : BitVec 1 := 1

/-- `PeerAddBAReqActionSanity`. -/
def peerAddBAReqActionSanity (elem : MlmeQueueElem) : Bool :=
  if elem.msgLen < sizeofFrameAddbaReq then false
  else elem.addbaReqParm.baPolicy == immedBa

/-- `PeerAddBARspActionSanity`. -/
def peerAddBARspActionSanity (elem : MlmeQueueElem) : Bool :=
  if elem.msgLen < sizeofFrameAddbaRsp then false
  else elem.addbaRspParm.baPolicy == immedBa

/-- `PeerDelBAActionSanity`. -/
def peerDelBAActionSanity (elem : MlmeQueueElem) : Bool :=
  if elem.msgLen ≠ sizeofFrameDelbaReq then false
  else decide (elem.wcid.toNat < maxLenOfMacTable)

/-- What the handlers read of the configuration and of the station. -/
structure PeerConfig where
  bBADecline : Bool
  isHtSta : Bool
  staTgnWifi : Bool

/-- The element of a station's array that a TID from the air names; past the array's end
there is none. -/
def tidElement (tid : BitVec 4) : Option Tid :=
  if within : tid.toNat < numOfTid then some ⟨tid.toNat, within⟩ else none

/-- `PeerAddBAReqAction`, less the response it sends. The result is `none` where the driver
would reach past the array of the station; so it is below. -/
def peerAddBAReqAction (config : PeerConfig) (pAd : RtmpAdapter) (elem : MlmeQueueElem) :
    Option RtmpAdapter :=
  if known : elem.wcid.toNat < maxLenOfMacTable then
    if peerAddBAReqActionSanity elem then
      if !config.bBADecline && config.isHtSta then
        -- `BARecSessionAdd` first of all reads `BARecWcidArray[TID]`
        (tidElement elem.addbaReqParm.tid).map fun tid =>
          (baRecSessionAdd pAd ⟨elem.wcid.toNat, known⟩
            ⟨tid, elem.addbaReqParm.bufSize, elem.addbaReqTimeOut⟩).2
      else some pAd
    else some pAd
  else some pAd

/-- `PeerAddBARspAction`. Both functions it may call read `BAOriWcidArray[TID]`. -/
def peerAddBARspAction (config : PeerConfig) (pAd : RtmpAdapter) (elem : MlmeQueueElem) :
    Option RtmpAdapter :=
  if known : elem.wcid.toNat < maxLenOfMacTable then
    if peerAddBARspActionSanity elem then
      (tidElement elem.addbaRspParm.tid).map fun tid =>
        let pAd := if elem.addbaRspStatus = 0 then baOriSessionAdd pAd ⟨elem.wcid.toNat, known⟩ tid
          else baOriSessionTearDown pAd elem.wcid tid true true
        if elem.addbaRspStatus = 37 ∨ (config.staTgnWifi = true ∧ elem.addbaRspStatus ≠ 0) then
          pAd.onStation ⟨elem.wcid.toNat, known⟩ fun station =>
            { station with baDeclineBitmap := station.baDeclineBitmap ||| tidBit tid }
        else pAd
    else some pAd
  else some pAd

/-- `PeerDelBAAction`. -/
def peerDelBAAction (pAd : RtmpAdapter) (elem : MlmeQueueElem) : Option RtmpAdapter :=
  if peerDelBAActionSanity elem then
    (tidElement elem.delbaParm.tid).map fun tid =>
      if elem.delbaParm.initiator = originator then baRecSessionTearDown pAd elem.wcid tid true true
      else baOriSessionTearDown pAd elem.wcid tid true true
  else some pAd

/-- `PeerBAAction`. -/
def peerBAAction (config : PeerConfig) (pAd : RtmpAdapter) (elem : MlmeQueueElem) :
    Option RtmpAdapter :=
  if elem.action = addbaReq then peerAddBAReqAction config pAd elem
  else if elem.action = addbaResp then peerAddBARspAction config pAd elem
  else if elem.action = delba then peerDelBAAction pAd elem
  else some pAd

/-- The sanity function for the frame's kind accepts it. -/
def actionSanity (elem : MlmeQueueElem) : Bool :=
  if elem.action = addbaReq then peerAddBAReqActionSanity elem
  else if elem.action = addbaResp then peerAddBARspActionSanity elem
  else if elem.action = delba then peerDelBAActionSanity elem
  else false

/-- The TID the frame carries, where its kind has it. -/
def actionTid (elem : MlmeQueueElem) : BitVec 4 :=
  if elem.action = addbaReq then elem.addbaReqParm.tid
  else if elem.action = addbaResp then elem.addbaRspParm.tid
  else elem.delbaParm.tid

/-- The frame is an ADDBA request, and the driver is to decline it. -/
def declines (config : PeerConfig) (elem : MlmeQueueElem) : Bool :=
  decide (elem.action = addbaReq) && (config.bBADecline || !config.isHtSta)

theorem tidElement_isSome (tid : BitVec 4) :
    (tidElement tid).isSome = true ↔ tid.toNat < numOfTid := by
  unfold tidElement
  split_ifs with within
  · exact ⟨fun _ => within, fun _ => rfl⟩
  · exact ⟨fun impossible => absurd impossible (by simp), fun fits => absurd fits within⟩

theorem peerAddBAReqAction_isSome (config : PeerConfig) (pAd : RtmpAdapter) (elem : MlmeQueueElem) :
    (peerAddBAReqAction config pAd elem).isSome = true ↔
      (elem.wcid.toNat < maxLenOfMacTable → peerAddBAReqActionSanity elem = true →
        (config.bBADecline || !config.isHtSta) = false →
          elem.addbaReqParm.tid.toNat < numOfTid) := by
  unfold peerAddBAReqAction
  rw [← tidElement_isSome]
  cases config.bBADecline <;> cases config.isHtSta <;> split_ifs with known accepted <;>
    simp_all

theorem peerAddBARspAction_isSome (config : PeerConfig) (pAd : RtmpAdapter) (elem : MlmeQueueElem) :
    (peerAddBARspAction config pAd elem).isSome = true ↔
      (elem.wcid.toNat < maxLenOfMacTable → peerAddBARspActionSanity elem = true →
        elem.addbaRspParm.tid.toNat < numOfTid) := by
  unfold peerAddBARspAction
  rw [← tidElement_isSome]
  split_ifs with known accepted <;> simp_all

theorem peerDelBAAction_isSome (pAd : RtmpAdapter) (elem : MlmeQueueElem) :
    (peerDelBAAction pAd elem).isSome = true ↔
      (peerDelBAActionSanity elem = true → elem.delbaParm.tid.toNat < numOfTid) := by
  unfold peerDelBAAction
  rw [← tidElement_isSome]
  split_ifs with accepted <;> simp_all

/-- The sanity functions let every TID pass: the handlers stay inside the arrays exactly when
the station is unknown, the frame not accepted, the request declined, or the TID below 8. -/
theorem peerBAAction_inBounds_iff (config : PeerConfig) (pAd : RtmpAdapter) (elem : MlmeQueueElem) :
    (peerBAAction config pAd elem).isSome = true ↔
      (elem.wcid.toNat < maxLenOfMacTable → actionSanity elem = true →
        declines config elem = false → (actionTid elem).toNat < numOfTid) := by
  unfold peerBAAction actionSanity actionTid declines
  by_cases request : elem.action = addbaReq
  · simp only [request, ↓reduceIte, decide_true, Bool.true_and]
    exact peerAddBAReqAction_isSome config pAd elem
  · simp only [request, ↓reduceIte, decide_false, Bool.false_and, true_implies]
    by_cases response : elem.action = addbaResp
    · simp only [response, ↓reduceIte]
      exact peerAddBARspAction_isSome config pAd elem
    · simp only [response, ↓reduceIte]
      by_cases teardown : elem.action = delba
      · simp only [teardown, ↓reduceIte]
        rw [peerDelBAAction_isSome]
        unfold peerDelBAActionSanity
        split_ifs <;> simp_all
      · simp [teardown]

/-- A DELBA of the right length for TID 15 of station 1. -/
def delbaTid15 : MlmeQueueElem where
  msg offset := if offset = 25 then 2 else if offset = 27 then 0xf8 else 0
  msgLen := 30
  wcid := 1

/-- It is accepted, and the handler reaches past the array. -/
theorem delba_outOfBounds :
    ¬∀ (config : PeerConfig) (pAd : RtmpAdapter) (elem : MlmeQueueElem),
      actionSanity elem = true → (peerBAAction config pAd elem).isSome = true := by
  intro always
  have accepted : actionSanity delbaTid15 = true := by decide
  have inside := always ⟨false, true, false⟩ zeroedAdapter delbaTid15 accepted
  have outside : tidElement delbaTid15.delbaParm.tid = none := by decide
  have none : peerBAAction ⟨false, true, false⟩ zeroedAdapter delbaTid15 = none := by
    have sane : peerDelBAActionSanity delbaTid15 = true := by decide
    have kind : delbaTid15.action = delba := by decide
    have other : delba ≠ addbaReq ∧ delba ≠ addbaResp := by decide
    simp only [peerBAAction, peerDelBAAction, kind, other.1, other.2, sane, outside, ↓reduceIte,
      Option.map_none]
  rw [none] at inside
  exact absurd inside (by decide)

end Mt7612u.BlockAck
