import Mt7612u.Wpa.Replay

/-! Which frames change something, and whether their MIC is one of the peer's. -/

namespace Mt7612u.Wpa
open BlockAck (Wcid)

/-- One of the three versions of the key descriptor. -/
def knownDescVer (keyDescVer : BitVec 3) : Bool :=
  keyDescVer == keyDescTkip || keyDescVer == keyDescAes || keyDescVer == keyDescExt

/-- The MIC of the frame is one of the three under a KCK. -/
def Authentic (crypto : KeyCrypto) (kck : List UInt8) (packet : EapolPacket) : Prop :=
  packet.keyMic = crypto.hmacMd5 kck packet.micText ∨
  packet.keyMic = Bytes.ofList 16 (crypto.hmacSha1 kck packet.micText).val ∨
  packet.keyMic = crypto.aesCmac kck packet.micText

/-- Nothing of the adapter is changed but the SNonce and the PTK of one entry. -/
def OnlyNonce (wcid : Wcid) (pAd pAd' : WpaAdapter) : Prop :=
  ∃ sNonce ptk, pAd' = pAd.modify wcid fun entry => { entry with sNonce := sNonce, ptk := ptk }

section Check

variable {crypto : KeyCrypto} {env : HandleEnv} {entry : WpaEntry} {packet : EapolPacket}
  {msgType : MsgType} {key : Option GroupKey}

theorem authentic_of_micOf {kck : List UInt8} (version : knownDescVer packet.keyInfo.keyDescVer)
    (mic : packet.keyMic = micOf crypto packet.keyInfo.keyDescVer kck packet.micText) :
    Authentic crypto kck packet := by
  unfold micOf at mic
  split_ifs at mic with tkip aes ext
  · exact .inl mic
  · exact .inr (.inl mic)
  · exact .inr (.inr mic)
  · simp [knownDescVer, tkip, aes, ext] at version

/-- A frame that is accepted, message 1 apart, has a MIC of the entry. -/
theorem authentic_of_verdict (version : knownDescVer packet.keyInfo.keyDescVer)
    (checked : msgType ≠ .pairMsg1)
    (accepted : verdict crypto env entry packet msgType = some key) :
    Authentic crypto entry.kck packet := by
  obtain ⟨_, _, mic⟩ := verdict_eq_some accepted
  unfold micAccepted at mic
  rw [Bool.or_eq_true, beq_iff_eq, beq_iff_eq] at mic
  rcases mic with first | mic
  · exact absurd first checked
  · exact authentic_of_micOf version mic

end Check

section Step

variable {crypto : KeyCrypto} {env : HandleEnv} {pAd pAd' : WpaAdapter} {wcid : Wcid}
  {elem : EapolElem}

/-- The messages whose handler changes nothing before the frame is checked. -/
def KeyBranch.checkedFirst : KeyBranch → Option MsgType
  | pairMsg1 => some .pairMsg1
  | pairMsg3 => some .pairMsg3
  | pairMsg4 => some .pairMsg4
  | groupMsg1 => some .groupMsg1
  | groupMsg2 => some .groupMsg2
  | _ => none

/-- Such a handler changes nothing unless the frame is accepted. -/
theorem perform_of_checkedFirst {branch : KeyBranch} {msgType : MsgType}
    (checked : branch.checkedFirst = some msgType)
    (stepped : branch.perform crypto env pAd wcid elem = some pAd') :
    pAd' = pAd ∨ ∃ key, verdict crypto env (pAd.content wcid) elem.packet msgType = some key := by
  cases branch with
  | pairMsg1 =>
    obtain rfl := Option.some.inj checked
    obtain same | ⟨_, accepted, _⟩ := peerPairMsg1Action_cases stepped
    · exact .inl same
    · exact .inr ⟨none, accepted⟩
  | pairMsg3 =>
    obtain rfl := Option.some.inj checked
    obtain same | ⟨_, key, accepted, _⟩ := peerPairMsg3Action_cases stepped
    · exact .inl same
    · exact .inr ⟨key, accepted⟩
  | pairMsg4 =>
    obtain rfl := Option.some.inj checked
    obtain same | ⟨_, _, accepted, _⟩ := peerPairMsg4Action_cases stepped
    · exact .inl same
    · exact .inr ⟨none, accepted⟩
  | groupMsg1 =>
    obtain rfl := Option.some.inj checked
    obtain same | ⟨_, key, accepted, _⟩ := peerGroupMsg1Action_cases stepped
    · exact .inl same
    · exact .inr ⟨key, accepted⟩
  | groupMsg2 =>
    obtain rfl := Option.some.inj checked
    obtain same | ⟨accepted, _⟩ := peerGroupMsg2Action_cases stepped
    · exact .inl same
    · exact .inr ⟨none, accepted⟩
  | pairMsg2 => cases checked
  | counterMeasure => cases checked
  | groupRequest => cases checked
  | pairwiseRequest => cases checked
  | ignored => cases checked

theorem verdict_eq_none {msgType : MsgType} {packet : EapolPacket}
    (failed : (peerWpaMessageSanity crypto env pAd wcid packet msgType).1 = false) :
    verdict crypto env (pAd.content wcid) packet msgType = none := by
  rw [peerWpaMessageSanity_eq] at failed
  cases found : verdict crypto env (pAd.content wcid) packet msgType with
  | none => rfl
  | some key =>
    rw [found] at failed
    cases failed

theorem eapolKeyAction_cases (found : pAd.macTableLookup elem.addr2 = some wcid)
    (stepped : wpaEapolKeyAction crypto env pAd elem = some pAd') :
    pAd' = pAd ∨ admits (pAd.content wcid) elem = true ∧
      elem.packet.branch.perform crypto env pAd wcid elem = some pAd' := by
  unfold wpaEapolKeyAction at stepped
  rw [found] at stepped
  dsimp only at stepped
  split_ifs at stepped with admitted
  · exact .inr ⟨admitted, stepped⟩
  · exact .inl (Option.some.inj stepped).symm

/-- An entry with TKIP or AES lets only the known versions in. -/
theorem knownDescVer_of_admits {entry : WpaEntry}
    (cipher : entry.wepStatus = .tkipEnable ∨ entry.wepStatus = .aesEnable)
    (admitted : admits entry elem = true) : knownDescVer elem.packet.keyInfo.keyDescVer := by
  have fits : descVerFits entry.wepStatus elem.packet.keyInfo.keyDescVer = true := by
    unfold admits at admitted
    simp only [Bool.and_eq_true] at admitted
    exact admitted.1.1.2
  unfold descVerFits at fits
  unfold knownDescVer
  rcases cipher with tkip | aes
  · rw [if_pos tkip] at fits
    rw [fits]
    rfl
  · rw [if_neg (by rw [aes]; decide), if_pos aes] at fits
    rw [Bool.or_assoc, fits, Bool.or_true]

/-- Messages 1, 3 and 4 and the group messages change nothing if they fail the check, and all of
them but message 1 are authentic if they change anything. Message 2 may change the SNonce and the PTK
before it is checked; it is authentic, under the PTK of its own SNonce, if anything else changes. -/
theorem keyAction_authentic (crypto : KeyCrypto) (env : HandleEnv) (pAd pAd' : WpaAdapter)
    (wcid : Wcid) (elem : EapolElem) (found : pAd.macTableLookup elem.addr2 = some wcid)
    (cipher : ((pAd.content wcid).wepStatus = .tkipEnable ∨
      (pAd.content wcid).wepStatus = .aesEnable) ∨
      knownDescVer elem.packet.keyInfo.keyDescVer)
    (stepped : wpaEapolKeyAction crypto env pAd elem = some pAd') :
    (∀ msgType, elem.packet.branch.checkedFirst = some msgType →
      ((peerWpaMessageSanity crypto env pAd wcid elem.packet msgType).1 = false → pAd' = pAd) ∧
      (pAd' ≠ pAd →
        msgType = .pairMsg1 ∨ Authentic crypto (pAd.content wcid).kck elem.packet)) ∧
    (elem.packet.branch = .pairMsg2 → ¬ OnlyNonce wcid pAd pAd' →
      Authentic crypto (storeSNonce crypto pAd elem.packet (pAd.content wcid)).kck elem.packet) ∧
    (elem.packet.branch = .ignored → pAd' = pAd) := by
  have performed := eapolKeyAction_cases found stepped
  refine ⟨?_, ?_, ?_⟩
  · intro msgType checked
    rcases performed with same | ⟨admitted, performed⟩
    · exact ⟨fun _ => same, fun changed => absurd same changed⟩
    rcases perform_of_checkedFirst checked performed with same | ⟨key, accepted⟩
    · exact ⟨fun _ => same, fun changed => absurd same changed⟩
    constructor
    · intro failed
      rw [verdict_eq_none failed] at accepted
      cases accepted
    · intro _
      by_cases first : msgType = .pairMsg1
      · exact .inl first
      · have version := cipher.elim (knownDescVer_of_admits · admitted) id
        exact .inr (authentic_of_verdict version first accepted)
  · intro branch changed
    have untouched : OnlyNonce wcid pAd pAd := by
      refine ⟨(pAd.content wcid).sNonce, (pAd.content wcid).ptk, ?_⟩
      exact congrArg (fun content => { pAd with content := content })
        (Function.update_eq_self wcid pAd.content).symm
    rcases performed with rfl | ⟨admitted, performed⟩
    · exact absurd untouched changed
    rw [branch] at performed
    obtain rfl | ⟨_, _, rfl | ⟨_, accepted, _⟩⟩ := peerPairMsg2Action_cases performed
    · exact absurd untouched changed
    · exact absurd ⟨_, _, rfl⟩ changed
    · have version := cipher.elim (knownDescVer_of_admits · admitted) id
      exact authentic_of_verdict version (by decide) accepted
  · intro branch
    rcases performed with same | ⟨_, performed⟩
    · exact same
    · rw [branch] at performed
      exact (Option.some.inj performed).symm

end Step

section Example

/-- Functions that all give ones. -/
def oneCrypto : KeyCrypto where
  hmacMd5 _ _ := Bytes.ofList 16 (List.replicate 16 1)
  hmacSha1 _ _ := Bytes.ofList 20 (List.replicate 20 1)
  aesCmac _ _ := Bytes.ofList 16 (List.replicate 16 1)
  aes := ⟨fun _ block => block, fun _ block => block⟩
  wpaDerivePtk _ _ _ _ _ := Bytes.ofList 64 (List.replicate 64 1)
  wpaDeriveGtk _ _ _ := Bytes.ofList 32 (List.replicate 32 1)

/-- The end of a handshake with a PTK of twos. -/
def securedEntry : WpaEntry :=
  { WpaEntry.ready with
    wpaState := .asPtkInitDone
    portSecured := true
    ptk := Bytes.ofList 64 (List.replicate 64 2) }

def securedStation : WpaAdapter := { newStation with content := fun _ => securedEntry }

/-- Message 1 has no MIC, and still changes the PTK of a station that has one. -/
theorem message1_changes_ptk :
    ∃ pAd', wpaEapolKeyAction oneCrypto silentEnv securedStation
        ⟨fun _ => 0, plainMsg1 1, 131⟩ = some pAd' ∧
      securedEntry.ptk ≠ Bytes.zero 64 ∧
      (pAd'.content Transmit.bssidWcid).ptk ≠ securedEntry.ptk ∧
      ¬ Authentic oneCrypto securedEntry.kck (plainMsg1 1) ∧
      ¬ Authentic oneCrypto (pAd'.content Transmit.bssidWcid).kck (plainMsg1 1) := by
  have stored : (wpaEapolKeyAction oneCrypto silentEnv securedStation
      ⟨fun _ => 0, plainMsg1 1, 131⟩).map (fun pAd => (pAd.content Transmit.bssidWcid).ptk) =
        some (Bytes.ofList 64 (List.replicate 64 1)) := by decide +kernel
  obtain ⟨pAd', ends, ptk⟩ := Option.map_eq_some_iff.mp stored
  have forged (kck : List UInt8) : ¬ Authentic oneCrypto kck (plainMsg1 1) := by
    have other : Bytes.zero 16 ≠ Bytes.ofList 16 (List.replicate 16 1) := by decide
    have cut : Bytes.zero 16 ≠ Bytes.ofList 16 (Bytes.ofList 20 (List.replicate 20 1)).val := by
      decide
    rintro (mic | mic | mic)
    · exact other mic
    · exact cut mic
    · exact other mic
  exact ⟨pAd', ends, by decide, by rw [ptk]; decide, forged _, forged _⟩

/-- A message 3 with a wrong MIC leaves the station as it is. -/
theorem keyAction_authentic_message3 :
    wpaEapolKeyAction oneCrypto silentEnv securedStation
      ⟨fun _ => 0, initialMsg .ready .aesEnable .pairMsg3 0, 131⟩ = some securedStation := by
  have runs : (wpaEapolKeyAction oneCrypto silentEnv securedStation
      ⟨fun _ => 0, initialMsg .ready .aesEnable .pairMsg3 0, 131⟩).isSome = true := by
    decide +kernel
  obtain ⟨pAd', ends⟩ := Option.isSome_iff_exists.mp runs
  have authentic := keyAction_authentic oneCrypto silentEnv securedStation pAd'
    Transmit.bssidWcid ⟨fun _ => 0, initialMsg .ready .aesEnable .pairMsg3 0, 131⟩ rfl
    (.inl (.inr rfl)) ends
  have same : pAd' = securedStation := (authentic.1 .pairMsg3 rfl).1 (by decide +kernel)
  rw [ends, same]

end Example

end Mt7612u.Wpa
