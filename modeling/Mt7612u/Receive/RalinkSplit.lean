import Mt7612u.Receive.AmsduRoundTrip
import Mt7612u.Receive.DataFrame

/-! `CmmRxRalinkFrameIndicate` with the bytes of the two packets it passes on, and the layout that
it takes apart. -/

namespace Mt7612u.Receive

/-- The 802.3 headers and the payloads of the two packets. -/
structure RalinkSplit where
  header1 : List UInt8
  payload1 : List UInt8
  header2 : List UInt8
  payload2 : List UInt8

/-- `CmmRxRalinkFrameIndicate`; `none` when the length field does not fit or the second packet
cannot be had. -/
def ralinkSplit (pAd : RxAdapter) (blk : RxData) : Option RalinkSplit :=
  let msdu2Size := (blk.mem blk.pData).toNat + (blk.mem (blk.pData + 1)).toNat * 256
  if msdu2Size ≤ 1536 ∧ msdu2Size < blk.dataSize.toNat ∧ pAd.pPacket2 then
    let converted := removeLLC pAd blk.mem (blk.pData + 2) (u16 ((blk.dataSize.toNat : Int) - 2))
    let payload1Size := u16 ((converted.dataSize : Int) - msdu2Size)
    let payload2Size := u16 ((msdu2Size : Int) - length8023)
    let pData2 := converted.pData + payload1Size + length8023
    some
      { header1 := converted.p8023hdr
        payload1 := blk.mem.bytes converted.pData payload1Size
        header2 := blk.mem.bytes (pData2 - length8023) length8023
        payload2 := blk.mem.bytes pData2 payload2Size }
  else none

/-- The 802.3 frame that is passed on, with the VLAN tag of its BSS where an access point has
one. -/
def frame8023 (c : DeaggContext) (header payload : List UInt8) : List UInt8 :=
  (match c.opMode with
    | .ap => vlan8023HeaderCopy c.mbssVlanInfo.1 c.mbssVlanInfo.2 header c.tpid
    | .sta => header) ++ payload

/-- The two frames that `CmmRxRalinkFrameIndicate` passes on. -/
def ralinkFrames (pAd : RxAdapter) (blk : RxData) : List (List UInt8) :=
  match ralinkSplit pAd blk with
  | none => []
  | some split =>
      [frame8023 pAd.deagg split.header1 split.payload1,
        frame8023 pAd.deagg split.header2 split.payload2]

/-- What stands behind the header of a Ralink aggregate: the length of the second packet, the
first one with its encapsulation, the second one as it is. -/
def ralinkBody (first second : Msdu) : List UInt8 :=
  [UInt8.ofNat (length8023 + second.payload.length),
    UInt8.ofNat ((length8023 + second.payload.length) / 256)] ++
    first.body ++ (second.header ++ second.payload)

theorem length_ralinkBody (first second : Msdu) :
    (ralinkBody first second).length =
      2 + first.body.length + (length8023 + second.payload.length) := by
  simp only [ralinkBody, List.length_append, List.length_cons, List.length_nil, length_header]

/-- An aggregate whose first packet has a type is split where it was put together. The addresses
of the first packet are those of the 802.11 header. -/
theorem ralinkSplit_body {pAd : RxAdapter} {blk : RxData} {first second : Msdu}
    (typed : first.isEtherType = true) (allocated : pAd.pPacket2 = true)
    (holds : blk.mem.Holds blk.pData (ralinkBody first second))
    (size : blk.dataSize.toNat = (ralinkBody first second).length) {da sa : Nat}
    (addresses : ∀ pData dataSize,
      removeLLC pAd blk.mem pData dataSize = convertTo8023 blk.mem da sa pData dataSize) :
    ralinkSplit pAd blk =
      some ⟨blk.mem.bytes da macAddrLen ++ blk.mem.bytes sa macAddrLen ++ first.octets,
        first.payload, second.header, second.payload⟩ := by
  have short1 := first.payload_le
  have short2 := second.payload_le
  rw [length_ralinkBody, length_body, if_pos typed] at size
  unfold ralinkBody at holds
  rw [Memory.holds_append, Memory.holds_append, Memory.holds_append, List.length_append] at holds
  obtain ⟨⟨field, body⟩, header2, payload2⟩ := holds
  rw [length_body, if_pos typed] at header2 payload2
  rw [length_header] at payload2
  simp only [List.length_cons, List.length_nil, Nat.zero_add, Nat.reduceAdd] at body header2 payload2
  have msdu2Size : (blk.mem blk.pData).toNat + (blk.mem (blk.pData + 1)).toNat * 256 =
      length8023 + second.payload.length := by
    obtain ⟨low, high⟩ := Memory.holds_pair field
    rw [low, high, UInt8.toNat_ofNat', UInt8.toNat_ofNat']
    simp only [length8023]
    omega
  obtain ⟨removed, octets, payload1⟩ := removesSnap_of_body body typed
  obtain ⟨snap, kept⟩ := Bool.and_eq_true_iff.mp removed
  have sizes : u16 ((u16 ((blk.dataSize.toNat : Int) - 2) : Int) - length8021H) =
      first.payload.length + (length8023 + second.payload.length) := by
    rw [size]
    unfold u16
    simp only [length8023, length8021H]
    omega
  have payload1Size : u16 ((first.payload.length + (length8023 + second.payload.length) : Nat) -
      (length8023 + second.payload.length : Nat) : Int) = first.payload.length := by
    unfold u16
    omega
  have payload2Size : u16 (((length8023 + second.payload.length : Nat) : Int) - length8023) =
      second.payload.length := by
    unfold u16
    omega
  have converted : removeLLC pAd blk.mem (blk.pData + 2) (u16 ((blk.dataSize.toNat : Int) - 2)) =
      { p8023hdr := make8023Header blk.mem da sa (blk.mem.bytes (blk.pData + 2 + 6) 2)
        pData := blk.pData + 2 + length8021H
        dataSize := first.payload.length + (length8023 + second.payload.length)
        pRemovedLLCSNAP := some (blk.pData + 2) } := by
    rw [addresses, convertTo8023, if_pos snap, if_neg (by simpa using kept), sizes]
  unfold ralinkSplit
  rw [msdu2Size, converted,
    if_pos ⟨by simp only [length8023]; omega, by rw [size]; simp only [length8023]; omega,
      allocated⟩]
  dsimp only
  rw [payload1Size, payload2Size]
  have front : blk.pData + 2 + length8021H + first.payload.length + length8023 - length8023 =
      blk.pData + (2 + (8 + first.payload.length)) := by
    simp only [length8021H]
    omega
  have back : blk.pData + 2 + length8021H + first.payload.length + length8023 =
      blk.pData + (2 + (8 + first.payload.length)) + length8023 := by
    simp only [length8021H]
    omega
  unfold Memory.Holds at octets payload1 header2 payload2
  rw [length_header] at header2
  have type : blk.mem.bytes (blk.pData + 2 + 6) 2 = first.octets := octets
  have data : blk.mem.bytes (blk.pData + 2 + length8021H) first.payload.length = first.payload :=
    payload1
  rw [front, back, header2, payload2, type, data]
  rfl

end Mt7612u.Receive
