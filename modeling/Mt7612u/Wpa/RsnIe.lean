import Mt7612u.Mlme.BeaconSanity
import Mt7612u.Wpa.HandshakeRun

/-! `RTMPCheckRSNIE`, and what becomes of a handshake whose key data it would not have let pass. -/

namespace Mt7612u.Wpa
open BlockAck (Wcid)
open Mlme (wpaOui rsnOui)
open Receive (Memory)

section Check

/-- `sizeof(RSNIE2)`. -/
def sizeofRsnIe2 : Nat := 12

/-- An element of WPA is the one of the entry. -/
def wpaIeMatches (entry : WpaEntry) (pData : Memory) (pVie : Nat) : Bool :=
  (entry.authMode == .wpa || entry.authMode == .wpaPsk) &&
    pData.bytes pVie entry.rsnIe.len.toNat == entry.rsnIe.octets.bytes 0 entry.rsnIe.len.toNat &&
    entry.rsnIe.len.toNat == (pData (pVie + 1)).toNat + 2

/-- How many octets of an element of WPA2 are compared, a `size_t`. -/
def comparedLen (entry : WpaEntry) : Nat := (BitVec.ofNat 64 entry.rsnIe.len.toNat - 4).toNat

/-- "WPA2 RSN IE, doesn't need to check RSNIE Capabilities field". -/
def wpa2IeMatches (entry : WpaEntry) (pData : Memory) (pVie : Nat) : Bool :=
  entry.wpa2 && pData pVie == entry.rsnIe.octets 0 &&
    decide (entry.rsnIe.len.toNat ≤ (pData (pVie + 1)).toNat + 2) &&
    pData.bytes (pVie + 2) (comparedLen entry) == entry.rsnIe.octets.bytes 2 (comparedLen entry)

/-- The loop of `RTMPCheckRSNIE`, with its result and `Offset`; `none` where the fuel does not last.
The length left over is a byte, and may wrap around. -/
def rtmpCheckRsnIe (entry : WpaEntry) (pData : Memory) :
    Nat → Nat → UInt8 → Bool → UInt8 → Option (Bool × UInt8)
  | 0, _, _, _, _ => none
  | fuel + 1, pVie, len, result, offset =>
    let size := pData (pVie + 1) + 2
    let next := pVie + (pData (pVie + 1)).toNat + 2
    if len.toNat ≤ sizeofRsnIe2 then some (result, offset)
    else if pData pVie = ieWpa ∧ pData.bytes (pVie + 2) 4 = wpaOui then
      rtmpCheckRsnIe entry pData fuel next (len - size) (result || wpaIeMatches entry pData pVie)
        (offset + size)
    else if pData pVie = ieRsn ∧ pData.bytes (pVie + 4) 3 = rsnOui then
      rtmpCheckRsnIe entry pData fuel next (len - size) (result || wpa2IeMatches entry pData pVie)
        (offset + size)
    else some (result, offset)

/-- `KEYDATA` and its length as the message leaves them to be parsed. -/
def carriedKeyData (crypto : KeyCrypto) (env : HandleEnv) (entry : WpaEntry)
    (packet : EapolPacket) (msgType : MsgType) : KeyData :=
  if packet.keyDataLen = 0 then ⟨fun _ => 0, 0⟩
  else (keyDataOf crypto env entry packet msgType).getD ⟨fun _ => 0, 0⟩

/-- The key data of the message has the element that was negotiated with the peer. -/
def BringsRsnIe (crypto : KeyCrypto) (env : HandleEnv) (entry : WpaEntry) (packet : EapolPacket)
    (msgType : MsgType) : Prop :=
  let keyData := carriedKeyData crypto env entry packet msgType
  ∃ fuel offset, rtmpCheckRsnIe entry keyData.keyData fuel 0 (UInt8.ofNat keyData.length) false 0 =
    some (true, offset)

/-- Key data of zero length matches nothing. -/
theorem not_bringsRsnIe_of_empty {crypto : KeyCrypto} {env : HandleEnv} {entry : WpaEntry}
    {packet : EapolPacket} {msgType : MsgType} (empty : packet.keyDataLen = 0) :
    ¬ BringsRsnIe crypto env entry packet msgType := by
  rintro ⟨fuel, offset, found⟩
  unfold carriedKeyData at found
  rw [if_pos empty] at found
  cases fuel with
  | zero => cases found
  | succ fuel => cases found

end Check

section Goes

variable {crypto : KeyCrypto} {env : HandleEnv} {pAd pAd' : WpaAdapter} {wcid : Wcid}
  {elem : EapolElem} {events : List WpaEvent}

/-- The peer has been sent a message, message 4 or message 3. -/
def GoesOn (wcid : Wcid) (pAd pAd' : WpaAdapter) : Prop :=
  (framesTo wcid pAd.log).length < (framesTo wcid pAd'.log).length

theorem not_goesOn (log : pAd'.log = pAd.log ++ events)
    (quiet : ∀ event ∈ events, event.frameTo wcid = none) : ¬ GoesOn wcid pAd pAd' := by
  unfold GoesOn
  rw [log, framesTo_quiet _ quiet]
  exact lt_irrefl _

theorem not_goesOn_self : ¬ GoesOn wcid pAd pAd := lt_irrefl _

theorem goesOn_of_sent {p : EapolPacket} (log : pAd'.log = pAd.log ++ events ++ [.sent wcid p]) :
    GoesOn wcid pAd pAd' := by
  have sent : framesTo wcid [.sent wcid p] = [p] := List.filterMap_cons_some (if_pos rfl)
  unfold GoesOn
  rw [log, framesTo_append, framesTo_append, sent, List.length_append, List.length_append,
    List.length_singleton]
  omega

/-- What is asked of a message 3. -/
structure PassesMsg3 (crypto : KeyCrypto) (env : HandleEnv) (pAd : WpaAdapter) (wcid : Wcid)
    (elem : EapolElem) : Prop where
  side : (pAd.content wcid).isClient = true ∨ (pAd.content wcid).isApcli = true
  long : minKeyFrameLen ≤ elem.msgLen.toNat
  opMode : pAd.opMode = .sta
  accepted : (verdict crypto env (pAd.content wcid) elem.packet .pairMsg3).isSome = true
  nonce : (pAd.content wcid).aNonce = elem.packet.keyNonce
  memory : (env.build wcid).txEapolBuffer = true

theorem taken_quiet (pAd : WpaAdapter) (key : Option GroupKey) (msgType : MsgType)
    (packet : EapolPacket) :
    ∀ event ∈ (takenKey pAd key).toList.map (WpaEvent.sharedKey 0 (keyIdxOf key)) ++
      [.accepted wcid msgType packet], event.frameTo wcid = none := by
  intro event among
  rcases List.mem_append.mp among with installed | accepted
  · obtain ⟨_, _, rfl⟩ := List.mem_map.mp installed
    rfl
  · obtain rfl := List.mem_singleton.mp accepted
    rfl

/-- The element has no part in what becomes of a message 3. -/
theorem goesOn_msg3 (stepped : peerPairMsg3Action crypto env pAd wcid elem = some pAd') :
    GoesOn wcid pAd pAd' ↔ PassesMsg3 crypto env pAd wcid elem := by
  unfold peerPairMsg3Action at stepped
  dsimp only at stepped
  by_cases side : (!(pAd.content wcid).isClient) = true ∧ (!(pAd.content wcid).isApcli) = true
  · rw [if_pos side] at stepped
    obtain rfl := Option.some.inj stepped
    refine iff_of_false not_goesOn_self ?_
    intro passes
    rw [Bool.not_eq_true', Bool.not_eq_true'] at side
    rcases passes.side with client | apcli
    · rw [side.1] at client
      cases client
    · rw [side.2] at apcli
      cases apcli
  rw [if_neg side] at stepped
  by_cases short : elem.msgLen.toNat < minKeyFrameLen
  · rw [if_pos short] at stepped
    obtain rfl := Option.some.inj stepped
    exact iff_of_false not_goesOn_self fun passes => absurd passes.long (not_le.mpr short)
  rw [if_neg short] at stepped
  by_cases opMode : pAd.opMode ≠ .sta
  · rw [if_pos opMode] at stepped
    obtain rfl := Option.some.inj stepped
    exact iff_of_false not_goesOn_self fun passes => opMode passes.opMode
  rw [if_neg opMode, peerWpaMessageSanity_eq] at stepped
  cases found : verdict crypto env (pAd.content wcid) elem.packet .pairMsg3 with
  | none =>
    rw [found] at stepped
    obtain rfl := Option.some.inj stepped
    refine iff_of_false not_goesOn_self ?_
    intro passes
    have accepted := passes.accepted
    rw [found] at accepted
    cases accepted
  | some key =>
    simp only [found, Bool.not_true, Bool.false_eq_true, if_false] at stepped
    have log (change : WpaEntry → WpaEntry) :
        (((takeKey pAd key).record (.accepted wcid .pairMsg3 elem.packet)).modify wcid change).log =
          pAd.log ++ ((takenKey pAd key).toList.map (.sharedKey 0 (keyIdxOf key)) ++
            [.accepted wcid .pairMsg3 elem.packet]) := by
      rw [WpaAdapter.modify_log, WpaAdapter.record_log, takeKey_log, List.append_assoc]
    by_cases nonce : (pAd.content wcid).aNonce ≠ elem.packet.keyNonce
    · rw [if_pos nonce] at stepped
      obtain rfl := Option.some.inj stepped
      exact iff_of_false (not_goesOn (log _) (taken_quiet pAd key .pairMsg3 elem.packet))
        fun passes => nonce passes.nonce
    rw [if_neg nonce] at stepped
    by_cases memory : (!(env.build wcid).txEapolBuffer) = true
    · rw [if_pos memory] at stepped
      obtain rfl := Option.some.inj stepped
      refine iff_of_false (not_goesOn (log _) (taken_quiet pAd key .pairMsg3 elem.packet)) ?_
      intro passes
      rw [passes.memory] at memory
      cases memory
    rw [if_neg memory] at stepped
    obtain ⟨p, _, rfl⟩ := Option.map_eq_some_iff.mp stepped
    rw [Bool.not_eq_true', Bool.not_eq_false] at memory
    apply iff_of_true
    · apply goesOn_of_sent
      rw [WpaAdapter.record_log, finishMsg3_log, log, List.append_assoc pAd.log]
    · refine ⟨?_, not_lt.mp short, not_not.mp opMode, ?_, not_not.mp nonce, memory⟩
      · simpa [or_iff_not_imp_left] using side
      · rw [found]
        rfl

/-- What is asked of a message 2. -/
structure PassesMsg2 (crypto : KeyCrypto) (env : HandleEnv) (pAd : WpaAdapter) (wcid : Wcid)
    (elem : EapolElem) : Prop where
  client : (pAd.content wcid).isClient = true
  long : minKeyFrameLen ≤ elem.msgLen.toNat
  state : WpaState.asPtkStart.toNat ≤ (pAd.content wcid).wpaState.toNat
  bss : (pAd.content wcid).apidx < pAd.bssidNum
  opMode : pAd.opMode = .ap
  accepted : (verdict crypto env (storeSNonce crypto pAd elem.packet (pAd.content wcid)) elem.packet
    .pairMsg2).isSome = true
  memory : (env.build wcid).txEapolBuffer = true

/-- Nor in what becomes of a message 2. -/
theorem goesOn_msg2 (stepped : peerPairMsg2Action crypto env pAd wcid elem = some pAd') :
    GoesOn wcid pAd pAd' ↔ PassesMsg2 crypto env pAd wcid elem := by
  have silent (change : WpaEntry → WpaEntry) : ¬ GoesOn wcid pAd (pAd.modify wcid change) :=
    not_goesOn_self
  unfold peerPairMsg2Action at stepped
  dsimp only at stepped
  by_cases side : (!(pAd.content wcid).isClient) = true
  · rw [if_pos side] at stepped
    obtain rfl := Option.some.inj stepped
    refine iff_of_false not_goesOn_self ?_
    intro passes
    rw [passes.client] at side
    cases side
  rw [if_neg side] at stepped
  by_cases short : elem.msgLen.toNat < minKeyFrameLen
  · rw [if_pos short] at stepped
    obtain rfl := Option.some.inj stepped
    exact iff_of_false not_goesOn_self fun passes => absurd passes.long (not_le.mpr short)
  rw [if_neg short] at stepped
  by_cases early : (pAd.content wcid).wpaState.toNat < WpaState.asPtkStart.toNat
  · rw [if_pos early] at stepped
    obtain rfl := Option.some.inj stepped
    exact iff_of_false not_goesOn_self fun passes => absurd passes.state (not_le.mpr early)
  rw [if_neg early] at stepped
  by_cases outside : pAd.opMode = .ap ∧ pAd.bssidNum ≤ (pAd.content wcid).apidx
  · rw [if_pos outside] at stepped
    obtain rfl := Option.some.inj stepped
    exact iff_of_false not_goesOn_self fun passes => absurd passes.bss (not_lt.mpr outside.2)
  rw [if_neg outside] at stepped
  by_cases opMode : pAd.opMode ≠ .ap
  · rw [if_pos opMode] at stepped
    obtain rfl := Option.some.inj stepped
    exact iff_of_false (silent _) fun passes => opMode passes.opMode
  rw [if_neg opMode, peerWpaMessageSanity_eq, WpaAdapter.modify_content] at stepped
  have within : (pAd.content wcid).apidx < pAd.bssidNum := by
    by_contra wide
    exact outside ⟨not_not.mp opMode, not_lt.mp wide⟩
  cases found : verdict crypto env (storeSNonce crypto pAd elem.packet (pAd.content wcid))
    elem.packet .pairMsg2 with
  | none =>
    rw [found] at stepped
    obtain rfl := Option.some.inj stepped
    refine iff_of_false (silent _) ?_
    intro passes
    have accepted := passes.accepted
    rw [found] at accepted
    cases accepted
  | some key =>
    obtain rfl := verdict_of_not_gtkIncluded rfl found
    simp only [found, Bool.not_true, Bool.false_eq_true, if_false, takeKey] at stepped
    by_cases memory : (!(env.build wcid).txEapolBuffer) = true
    · rw [if_pos memory] at stepped
      obtain rfl := Option.some.inj stepped
      apply iff_of_false
      · exact not_goesOn rfl (taken_quiet pAd none .pairMsg2 elem.packet)
      · intro passes
        rw [passes.memory] at memory
        cases memory
    rw [if_neg memory] at stepped
    obtain ⟨p, _, rfl⟩ := Option.map_eq_some_iff.mp stepped
    rw [Bool.not_eq_true', Bool.not_eq_false] at side memory
    apply iff_of_true
    · exact goesOn_of_sent rfl
    · refine ⟨side, not_lt.mp short, not_lt.mp early, within, not_not.mp opMode, ?_, memory⟩
      rw [found]
      rfl

/-- A handshake goes on with the element that was negotiated exactly where no frame without it
passes the other checks. -/
theorem goesOn_bringsRsnIe_iff (crypto : KeyCrypto) (env : HandleEnv) (pAd pAd' : WpaAdapter)
    (wcid : Wcid) (elem : EapolElem) :
    (peerPairMsg3Action crypto env pAd wcid elem = some pAd' →
      (pAd.content wcid).wpa2 = true →
      ((GoesOn wcid pAd pAd' →
          BringsRsnIe crypto env (pAd.content wcid) elem.packet .pairMsg3) ↔
        (PassesMsg3 crypto env pAd wcid elem →
          BringsRsnIe crypto env (pAd.content wcid) elem.packet .pairMsg3))) ∧
    (peerPairMsg2Action crypto env pAd wcid elem = some pAd' →
      ((GoesOn wcid pAd pAd' →
          BringsRsnIe crypto env (pAd.content wcid) elem.packet .pairMsg2) ↔
        (PassesMsg2 crypto env pAd wcid elem →
          BringsRsnIe crypto env (pAd.content wcid) elem.packet .pairMsg2))) := by
  constructor
  · intro stepped _
    rw [goesOn_msg3 stepped]
  · intro stepped
    rw [goesOn_msg2 stepped]

end Goes

section Example

/-- A peer with whose association an element was stored. -/
def negotiatedEntry : WpaEntry :=
  { WpaEntry.ready with
    rsnIe := ⟨fun i => ([48, 20, 1, 0, 0, 0x0f, 0xac, 4, 1, 0, 0, 0x0f, 0xac, 4, 1, 0, 0, 0x0f, 0xac,
      2, 0, 0] : List UInt8).getD i 0, 22⟩ }

def negotiatedStation : WpaAdapter := { newStation with content := fun _ => negotiatedEntry }

/-- Message 3 without key data is answered, and its pairwise key is installed. -/
theorem emptyMsg3_goesOn :
    ∃ pAd', peerPairMsg3Action zeroCrypto fullEnv negotiatedStation Transmit.bssidWcid
        ((plainMsg3 1).elem fun _ => 0) = some pAd' ∧
      (negotiatedStation.content Transmit.bssidWcid).wpa2 = true ∧
      GoesOn Transmit.bssidWcid negotiatedStation pAd' ∧
      keysOf (.pairwise Transmit.bssidWcid) pAd'.log = [zeroAesKey] ∧
      ¬ BringsRsnIe zeroCrypto fullEnv (negotiatedStation.content Transmit.bssidWcid)
        (plainMsg3 1).packet .pairMsg3 := by
  have answered : (peerPairMsg3Action zeroCrypto fullEnv negotiatedStation Transmit.bssidWcid
      ((plainMsg3 1).elem fun _ => 0)).map (fun pAd' =>
        decide ((framesTo Transmit.bssidWcid negotiatedStation.log).length <
            (framesTo Transmit.bssidWcid pAd'.log).length ∧
          keysOf (.pairwise Transmit.bssidWcid) pAd'.log = [zeroAesKey])) = some true := by
    decide +kernel
  obtain ⟨pAd', ends, holds⟩ := Option.map_eq_some_iff.mp answered
  obtain ⟨goesOn, installed⟩ := of_decide_eq_true holds
  exact ⟨pAd', ends, rfl, goesOn, installed, not_bringsRsnIe_of_empty rfl⟩

def negotiatedAp : WpaAdapter :=
  { negotiatedStation with
    opMode := .ap
    content := fun _ => { negotiatedEntry with wpaState := .asPtkStart } }

/-- Message 2 with the element of its sender. -/
def negotiatedMsg2 : EapolElem where
  addr2 _ := 0
  packet := { initialMsg .ready .aesEnable .pairMsg2 0 with
    keyDataLen := 22, keyData := negotiatedEntry.rsnIe.octets }
  msgLen := 153

example : BringsRsnIe zeroCrypto fullEnv (negotiatedAp.content Transmit.bssidWcid)
    negotiatedMsg2.packet .pairMsg2 :=
  ⟨3, 22, by decide +kernel⟩

theorem goesOn_bringsRsnIe_iff_negotiated :
    (∃ pAd', peerPairMsg3Action zeroCrypto fullEnv negotiatedStation Transmit.bssidWcid
        ((plainMsg3 1).elem fun _ => 0) = some pAd' ∧
      ((GoesOn Transmit.bssidWcid negotiatedStation pAd' →
          BringsRsnIe zeroCrypto fullEnv (negotiatedStation.content Transmit.bssidWcid)
            (plainMsg3 1).packet .pairMsg3) ↔
        (PassesMsg3 zeroCrypto fullEnv negotiatedStation Transmit.bssidWcid
            ((plainMsg3 1).elem fun _ => 0) →
          BringsRsnIe zeroCrypto fullEnv (negotiatedStation.content Transmit.bssidWcid)
            (plainMsg3 1).packet .pairMsg3))) ∧
    ∃ pAd', peerPairMsg2Action zeroCrypto fullEnv negotiatedAp Transmit.bssidWcid negotiatedMsg2 =
        some pAd' ∧
      ((GoesOn Transmit.bssidWcid negotiatedAp pAd' →
          BringsRsnIe zeroCrypto fullEnv (negotiatedAp.content Transmit.bssidWcid)
            negotiatedMsg2.packet .pairMsg2) ↔
        (PassesMsg2 zeroCrypto fullEnv negotiatedAp Transmit.bssidWcid negotiatedMsg2 →
          BringsRsnIe zeroCrypto fullEnv (negotiatedAp.content Transmit.bssidWcid)
            negotiatedMsg2.packet .pairMsg2)) := by
  have runs : (peerPairMsg3Action zeroCrypto fullEnv negotiatedStation Transmit.bssidWcid
      ((plainMsg3 1).elem fun _ => 0)).isSome = true := by decide +kernel
  have answers : (peerPairMsg2Action zeroCrypto fullEnv negotiatedAp Transmit.bssidWcid
      negotiatedMsg2).isSome = true := by decide +kernel
  obtain ⟨sta, ends⟩ := Option.isSome_iff_exists.mp runs
  obtain ⟨ap, answered⟩ := Option.isSome_iff_exists.mp answers
  constructor
  · exact ⟨sta, ends, (goesOn_bringsRsnIe_iff zeroCrypto fullEnv negotiatedStation sta
      Transmit.bssidWcid ((plainMsg3 1).elem fun _ => 0)).1 ends rfl⟩
  · exact ⟨ap, answered, (goesOn_bringsRsnIe_iff zeroCrypto fullEnv negotiatedAp ap
      Transmit.bssidWcid negotiatedMsg2).2 answered⟩

end Example

end Mt7612u.Wpa
