import Mt7612u.Wpa.Verdict

/-! What each handler can do with a frame: it leaves the adapter as it is, or it goes through one of
a few ends that are said here in full. -/

namespace Mt7612u.Wpa
open BlockAck (Wcid)
open Receive (WepStatus)

namespace WpaAdapter

/-- The messages that a step sends to a station. -/
def recordSent (pAd : WpaAdapter) (wcid : Wcid) (sent : Option EapolPacket) : WpaAdapter :=
  { pAd with log := pAd.log ++ sent.toList.map (.sent wcid) }

variable (pAd : WpaAdapter) (wcid : Wcid)

@[simp] theorem recordSent_none : pAd.recordSent wcid none = pAd :=
  congrArg (fun log => { pAd with log := log }) (List.append_nil pAd.log)

@[simp] theorem recordSent_some (p : EapolPacket) :
    pAd.recordSent wcid (some p) = pAd.record (.sent wcid p) := rfl

variable (sent : Option EapolPacket)

@[simp] theorem recordSent_content : (pAd.recordSent wcid sent).content = pAd.content := rfl
@[simp] theorem recordSent_opMode : (pAd.recordSent wcid sent).opMode = pAd.opMode := rfl
@[simp] theorem recordSent_staCfg : (pAd.recordSent wcid sent).staCfg = pAd.staCfg := rfl
@[simp] theorem recordSent_mbssid : (pAd.recordSent wcid sent).mbssid = pAd.mbssid := rfl
@[simp] theorem recordSent_lookup :
    (pAd.recordSent wcid sent).macTableLookup = pAd.macTableLookup := rfl
@[simp] theorem recordSent_log :
    (pAd.recordSent wcid sent).log = pAd.log ++ sent.toList.map (.sent wcid) := rfl

end WpaAdapter

section PairwiseKey

variable (pAd : WpaAdapter) (wcid : Wcid) (bAE : Bool)

/-- The entry with the pairwise key that its PTK makes. -/
def WpaEntry.install (bAE : Bool) (entry : WpaEntry) : WpaEntry :=
  { entry with pairwiseKey := (pairwiseKeyOf entry.wepStatus entry.ptk bAE).getD .zero }

theorem wpaInstallPairwiseKey_eq :
    wpaInstallPairwiseKey pAd wcid bAE =
      { pAd.modify wcid (WpaEntry.install bAE) with
        log := pAd.log ++ (pairwiseKeyOf (pAd.content wcid).wepStatus (pAd.content wcid).ptk
          bAE).toList.map (.pairwiseKey wcid) } := by
  unfold wpaInstallPairwiseKey WpaAdapter.modify WpaEntry.install
  dsimp only
  cases pairwiseKeyOf (pAd.content wcid).wepStatus (pAd.content wcid).ptk bAE with
  | none =>
    rw [Option.toList_none, List.map_nil, List.append_nil]
    rfl
  | some key => rfl

@[simp] theorem wpaInstallPairwiseKey_content :
    (wpaInstallPairwiseKey pAd wcid bAE).content wcid = (pAd.content wcid).install bAE := by
  rw [wpaInstallPairwiseKey_eq]
  exact WpaAdapter.modify_content ..

theorem wpaInstallPairwiseKey_log : (wpaInstallPairwiseKey pAd wcid bAE).log =
    pAd.log ++ (pairwiseKeyOf (pAd.content wcid).wepStatus (pAd.content wcid).ptk
      bAE).toList.map (.pairwiseKey wcid) := by
  rw [wpaInstallPairwiseKey_eq]

/-- An installation changes the entry and the log, and nothing else. -/
theorem wpaInstallPairwiseKey_frame :
    wpaInstallPairwiseKey pAd wcid bAE =
      { pAd with
        content := (wpaInstallPairwiseKey pAd wcid bAE).content
        log := (wpaInstallPairwiseKey pAd wcid bAE).log } := by
  rw [wpaInstallPairwiseKey_eq]
  rfl

end PairwiseKey

section Port

variable (pAd : WpaAdapter) (wcid : Wcid)

/-- The port of the entry is opened once or twice, which is the same. -/
@[simp] theorem openPort_content :
    (openPort pAd wcid).content wcid = (pAd.content wcid).openPort := by
  change ((pAd.modify wcid WpaEntry.openPort).modify Transmit.bssidWcid
    WpaEntry.openPort).content wcid = _
  by_cases same : wcid = Transmit.bssidWcid
  · subst same
    rw [WpaAdapter.modify_content, WpaAdapter.modify_content]
    rfl
  · rw [WpaAdapter.modify_other _ _ same, WpaAdapter.modify_content]

/-- The entry once message 3 is accepted. -/
def WpaEntry.finish (entry : WpaEntry) : WpaEntry :=
  let installed := { entry with wpaState := .asPtkInitDone }.install false
  if entry.wpa2 then installed.openPort else installed

theorem finishing_content :
    (pAd.modify wcid fun entry => { entry with wpaState := .asPtkInitDone }).content wcid =
      { pAd.content wcid with wpaState := .asPtkInitDone } :=
  WpaAdapter.modify_content ..

@[simp] theorem finishMsg3_content :
    (finishMsg3 pAd wcid).content wcid = (pAd.content wcid).finish := by
  unfold finishMsg3 WpaEntry.finish
  dsimp only
  cases (pAd.content wcid).wpa2 with
  | false =>
    rw [if_neg Bool.false_ne_true, if_neg Bool.false_ne_true, wpaInstallPairwiseKey_content]
    exact congrArg (WpaEntry.install false) (finishing_content pAd wcid)
  | true =>
    rw [if_pos rfl, if_pos rfl, openPort_content, wpaInstallPairwiseKey_content]
    exact congrArg (fun entry => (WpaEntry.install false entry).openPort)
      (finishing_content pAd wcid)

theorem finishMsg3_log : (finishMsg3 pAd wcid).log =
    pAd.log ++ (pairwiseKeyOf (pAd.content wcid).wepStatus (pAd.content wcid).ptk
      false).toList.map (.pairwiseKey wcid) := by
  have same : (finishMsg3 pAd wcid).log = (wpaInstallPairwiseKey
      { pAd.modify wcid fun entry => { entry with wpaState := .asPtkInitDone } with
        staCfg := { pAd.staCfg with ptk := (pAd.content wcid).ptk } } wcid false).log := by
    unfold finishMsg3
    dsimp only
    split_ifs <;> rfl
  rw [same, wpaInstallPairwiseKey_log]
  dsimp only
  rw [finishing_content]
  rfl

/-- The end of the handshake changes entries, the station's PTK and port, and the log. -/
theorem finishMsg3_frame :
    finishMsg3 pAd wcid =
      { pAd with
        content := (finishMsg3 pAd wcid).content
        staCfg := { pAd.staCfg with
          ptk := (finishMsg3 pAd wcid).staCfg.ptk
          portSecured := (finishMsg3 pAd wcid).staCfg.portSecured }
        log := (finishMsg3 pAd wcid).log } := by
  unfold finishMsg3
  dsimp only
  rw [wpaInstallPairwiseKey_eq]
  split_ifs <;> rfl

end Port

section Authenticator

variable {crypto : KeyCrypto} {env : HandleEnv} {build : BuildEnv} {random : Bytes 32}
  {pAd pAd' : WpaAdapter} {wcid : Wcid} {elem : EapolElem}

/-- A check that ends a handler early. -/
theorem dropped_or {check : Prop} [Decidable check] {rest : Option WpaAdapter}
    (stepped : (if check then some pAd else rest) = some pAd') :
    pAd' = pAd ∨ ¬ check ∧ rest = some pAd' := by
  split_ifs at stepped with drop
  · exact .inl (Option.some.inj stepped).symm
  · exact .inr ⟨drop, stepped⟩

/-- The PMKID may change the PMK of the BSS, and nothing else. -/
theorem addPmkid_frame (entry : WpaEntry) (p : EapolPacket) :
    (addPmkid pAd entry p).1 = { pAd with mbssid := (addPmkid pAd entry p).1.mbssid } := by
  unfold addPmkid
  split <;> rfl

@[simp] theorem addPmkid_content (entry : WpaEntry) (p : EapolPacket) :
    (addPmkid pAd entry p).1.content = pAd.content := by rw [addPmkid_frame]
@[simp] theorem addPmkid_log (entry : WpaEntry) (p : EapolPacket) :
    (addPmkid pAd entry p).1.log = pAd.log := by rw [addPmkid_frame]

/-- Message 1, with the PMKID where there is one. -/
theorem wpaStart4WayHs_cases (stepped : wpaStart4WayHs crypto build random pAd wcid = some pAd') :
    pAd' = pAd ∨
    (pAd.opMode = .ap ∧ (pAd.content wcid).isClient = true ∧
      (pAd.content wcid).wpaState.toNat ≤ WpaState.asPtkStart.toNat ∧
      (pAd' = pAd.modify wcid (·.restart random) ∨
        ∃ p, constructEapolMsg crypto build ((pAd.content wcid).restart random)
            (pAd.mbssid (pAd.content wcid).apidx).groupKeyWepStatus .pairMsg1
            ⟨0, some random, none, none, noRsnIe⟩ = some p ∧
          pAd' =
            ((addPmkid (pAd.modify wcid (·.restart random)) (pAd.content wcid) p).1.modify wcid
              fun entry => { entry with wpaState := .asPtkStart }).record
                (.sent wcid
                  (addPmkid (pAd.modify wcid (·.restart random)) (pAd.content wcid) p).2))) := by
  unfold wpaStart4WayHs at stepped
  dsimp only at stepped
  obtain same | ⟨_, stepped⟩ := dropped_or stepped
  · exact .inl same
  obtain same | ⟨side, stepped⟩ := dropped_or stepped
  · exact .inl same
  obtain same | ⟨state, stepped⟩ := dropped_or stepped
  · exact .inl same
  push Not at side state
  have client : (pAd.content wcid).isClient = true := by simpa using side.2
  refine .inr ⟨side.1, client, state.1, ?_⟩
  split_ifs at stepped with memory
  · exact .inl (Option.some.inj stepped).symm
  · obtain ⟨p, built, result⟩ := Option.map_eq_some_iff.mp stepped
    exact .inr ⟨p, built, result.symm⟩

/-- A group message goes out, or its counter at least is taken. -/
theorem wpaStart2WayGroupHs_cases (stepped : wpaStart2WayGroupHs crypto build pAd wcid = some pAd') :
    pAd' = pAd ∨
    ((pAd.content wcid).isClient = true ∧ ∃ sent : Option EapolPacket,
      (∀ p ∈ sent, pAd.opMode = .ap ∧
        constructEapolMsg crypto build (pAd.content wcid).countUp
          (pAd.mbssid (pAd.content wcid).apidx).groupKeyWepStatus .groupMsg1
          ⟨(pAd.mbssid (pAd.content wcid).apidx).defaultKeyId,
            some (pAd.mbssid (pAd.content wcid).apidx).gNonce, some build.txTsc,
            some (pAd.mbssid (pAd.content wcid).apidx).gtk, noRsnIe⟩ = some p) ∧
      pAd' = (pAd.modify wcid WpaEntry.countUp).recordSent wcid sent) := by
  unfold wpaStart2WayGroupHs at stepped
  dsimp only at stepped
  obtain same | ⟨client, stepped⟩ := dropped_or stepped
  · exact .inl same
  obtain same | ⟨_, stepped⟩ := dropped_or stepped
  · exact .inl same
  obtain same | ⟨_, stepped⟩ := dropped_or stepped
  · exact .inl same
  rw [Bool.not_eq_true', Bool.not_eq_false] at client
  refine .inr ⟨client, ?_⟩
  split_ifs at stepped with station
  · obtain ⟨p, built, result⟩ := Option.map_eq_some_iff.mp stepped
    rw [WpaAdapter.modify_content] at built
    apply Exists.intro (some p)
    apply And.intro _ result.symm
    rintro _ ⟨⟩
    exact ⟨station, built⟩
  · obtain ⟨p, built, result⟩ := Option.map_eq_some_iff.mp stepped
    apply Exists.intro none
    apply And.intro
    · rintro p ⟨⟩
    · rw [WpaAdapter.recordSent_none]
      exact result.symm

/-- A station has no nonce to send in a group message of WPA. -/
theorem wpaStart2WayGroupHs_station (station : pAd.opMode = .sta)
    (version : (pAd.content wcid).wpa2 = false)
    (stepped : wpaStart2WayGroupHs crypto build pAd wcid = some pAd') : pAd' = pAd := by
  unfold wpaStart2WayGroupHs at stepped
  dsimp only at stepped
  obtain same | ⟨_, stepped⟩ := dropped_or stepped
  · exact same
  obtain same | ⟨_, stepped⟩ := dropped_or stepped
  · exact same
  obtain same | ⟨_, stepped⟩ := dropped_or stepped
  · exact same
  have notAp : pAd.opMode ≠ .ap := by rw [station]; decide
  rw [if_neg notAp, WpaAdapter.modify_content] at stepped
  obtain ⟨p, built, _⟩ := Option.map_eq_some_iff.mp stepped
  have noNonce (p : EapolPacket) :
      fillNonce (pAd.content wcid).countUp .groupMsg1 none p = none := by
    apply if_pos
    exact .inr ⟨by change (!(pAd.content wcid).wpa2) = true; rw [version]; rfl, rfl⟩
  unfold constructEapolMsg at built
  rw [noNonce] at built
  cases built

/-- A message 2 that is not dropped at once is stored; then it may be rejected, or it is answered. -/
theorem peerPairMsg2Action_cases
    (stepped : peerPairMsg2Action crypto env pAd wcid elem = some pAd') :
    pAd' = pAd ∨
    ((pAd.content wcid).isClient = true ∧
      WpaState.asPtkStart.toNat ≤ (pAd.content wcid).wpaState.toNat ∧
      (pAd' = pAd.modify wcid (storeSNonce crypto pAd elem.packet) ∨
        pAd.opMode = .ap ∧
        verdict crypto env (storeSNonce crypto pAd elem.packet (pAd.content wcid)) elem.packet
          .pairMsg2 = some none ∧
        (pAd' = (pAd.modify wcid (storeSNonce crypto pAd elem.packet)).record
            (.accepted wcid .pairMsg2 elem.packet) ∨
          ∃ p, constructEapolMsg crypto (env.build wcid)
              (storeSNonce crypto pAd elem.packet (pAd.content wcid)).startMsg3
              (pAd.mbssid (pAd.content wcid).apidx).groupKeyWepStatus .pairMsg3
              ⟨(pAd.mbssid (pAd.content wcid).apidx).defaultKeyId,
                some (pAd.content wcid).aNonce, some (env.build wcid).txTsc,
                some (pAd.mbssid (pAd.content wcid).apidx).gtk,
                apRsnIe (pAd.mbssid (pAd.content wcid).apidx) (pAd.content wcid)⟩ = some p ∧
            pAd' = (((pAd.modify wcid (storeSNonce crypto pAd elem.packet)).record
              (.accepted wcid .pairMsg2 elem.packet)).modify wcid WpaEntry.startMsg3).record
                (.sent wcid p)))) := by
  unfold peerPairMsg2Action at stepped
  dsimp only at stepped
  obtain same | ⟨client, stepped⟩ := dropped_or stepped
  · exact .inl same
  obtain same | ⟨_, stepped⟩ := dropped_or stepped
  · exact .inl same
  obtain same | ⟨state, stepped⟩ := dropped_or stepped
  · exact .inl same
  obtain same | ⟨_, stepped⟩ := dropped_or stepped
  · exact .inl same
  rw [Bool.not_eq_true', Bool.not_eq_false] at client
  refine .inr ⟨client, not_lt.mp state, ?_⟩
  by_cases station : pAd.opMode ≠ .ap
  · rw [if_pos station] at stepped
    exact .inl (Option.some.inj stepped).symm
  rw [if_neg station, peerWpaMessageSanity_eq, WpaAdapter.modify_content] at stepped
  cases found : verdict crypto env (storeSNonce crypto pAd elem.packet (pAd.content wcid))
    elem.packet .pairMsg2 with
  | none =>
    rw [found] at stepped
    exact .inl (Option.some.inj stepped).symm
  | some key =>
    obtain rfl := verdict_of_not_gtkIncluded rfl found
    simp only [found, Bool.not_true, Bool.false_eq_true, if_false, takeKey] at stepped
    refine .inr ⟨not_not.mp station, rfl, ?_⟩
    split_ifs at stepped with memory
    · exact .inl (Option.some.inj stepped).symm
    · obtain ⟨p, built, result⟩ := Option.map_eq_some_iff.mp stepped
      rw [WpaAdapter.modify_content, WpaAdapter.record_content, WpaAdapter.modify_content] at built
      exact .inr ⟨p, built, result.symm⟩

/-- Message 4 installs the key; after it WPA goes on with the group handshake. -/
theorem peerPairMsg4Action_cases
    (stepped : peerPairMsg4Action crypto env pAd wcid elem = some pAd') :
    pAd' = pAd ∨
    ((pAd.content wcid).isClient = true ∧
      WpaState.asPtkInitNegotiating.toNat ≤ (pAd.content wcid).wpaState.toNat ∧
      verdict crypto env (pAd.content wcid) elem.packet .pairMsg4 = some none ∧
      ((pAd.content wcid).wpa2 = true ∧
        pAd' = ((wpaInstallPairwiseKey (pAd.record (.accepted wcid .pairMsg4 elem.packet)) wcid
          true).modify wcid WpaEntry.upgrade).modify wcid WpaEntry.establish ∨
      (pAd.content wcid).wpa2 = false ∧ ∃ started,
        wpaStart2WayGroupHs crypto (env.build wcid)
          ((wpaInstallPairwiseKey (pAd.record (.accepted wcid .pairMsg4 elem.packet)) wcid
            true).modify wcid WpaEntry.upgrade) wcid = some started ∧
        pAd' = started.modify wcid WpaEntry.retryGroup)) := by
  unfold peerPairMsg4Action at stepped
  dsimp only at stepped
  obtain same | ⟨client, stepped⟩ := dropped_or stepped
  · exact .inl same
  obtain same | ⟨_, stepped⟩ := dropped_or stepped
  · exact .inl same
  obtain same | ⟨state, stepped⟩ := dropped_or stepped
  · exact .inl same
  obtain same | ⟨_, stepped⟩ := dropped_or stepped
  · exact .inl same
  rw [Bool.not_eq_true', Bool.not_eq_false] at client
  rw [peerWpaMessageSanity_eq] at stepped
  cases found : verdict crypto env (pAd.content wcid) elem.packet .pairMsg4 with
  | none =>
    rw [found] at stepped
    exact .inl (Option.some.inj stepped).symm
  | some key =>
    obtain rfl := verdict_of_not_gtkIncluded rfl found
    simp only [found, Bool.not_true, Bool.false_eq_true, if_false, takeKey] at stepped
    refine .inr ⟨client, not_lt.mp state, rfl, ?_⟩
    cases version : (pAd.content wcid).wpa2 with
    | true =>
      rw [version] at stepped
      exact .inl ⟨rfl, (Option.some.inj stepped).symm⟩
    | false =>
      rw [version] at stepped
      obtain ⟨started, run, result⟩ := Option.map_eq_some_iff.mp stepped
      exact .inr ⟨rfl, started, run, result.symm⟩

theorem peerGroupMsg2Action_cases
    (stepped : peerGroupMsg2Action crypto env pAd wcid elem = some pAd') :
    pAd' = pAd ∨
    (verdict crypto env (pAd.content wcid) elem.packet .groupMsg2 = some none ∧
      pAd' = (pAd.record (.accepted wcid .groupMsg2 elem.packet)).modify wcid
        WpaEntry.establish) := by
  unfold peerGroupMsg2Action at stepped
  dsimp only at stepped
  obtain same | ⟨_, stepped⟩ := dropped_or stepped
  · exact .inl same
  obtain same | ⟨_, stepped⟩ := dropped_or stepped
  · exact .inl same
  obtain same | ⟨_, stepped⟩ := dropped_or stepped
  · exact .inl same
  obtain same | ⟨_, stepped⟩ := dropped_or stepped
  · exact .inl same
  rw [peerWpaMessageSanity_eq] at stepped
  cases found : verdict crypto env (pAd.content wcid) elem.packet .groupMsg2 with
  | none =>
    rw [found] at stepped
    exact .inl (Option.some.inj stepped).symm
  | some key =>
    obtain rfl := verdict_of_not_gtkIncluded rfl found
    rw [found] at stepped
    exact .inr ⟨rfl, (Option.some.inj stepped).symm⟩

end Authenticator

section Supplicant

variable {crypto : KeyCrypto} {env : HandleEnv} {pAd pAd' : WpaAdapter} {wcid : Wcid}
  {elem : EapolElem}

/-- A message 1 that is accepted is answered if there is memory. -/
theorem peerPairMsg1Action_cases
    (stepped : peerPairMsg1Action crypto env pAd wcid elem = some pAd') :
    pAd' = pAd ∨
    (pAd.opMode = .sta ∧
      verdict crypto env (pAd.content wcid) elem.packet .pairMsg1 = some none ∧
      ∃ sent : Option EapolPacket,
        (∀ p ∈ sent, constructEapolMsg crypto (env.build wcid)
          (storeMsg1 crypto pAd env.random elem.packet (pAd.content wcid)) pAd.staCfg.groupCipher
          .pairMsg2 ⟨0, some env.random, none, none, pAd.staCfg.rsnIe⟩ = some p) ∧
        pAd' = ((pAd.record (.accepted wcid .pairMsg1 elem.packet)).modify wcid
          (storeMsg1 crypto pAd env.random elem.packet)).recordSent wcid sent) := by
  unfold peerPairMsg1Action at stepped
  dsimp only at stepped
  obtain same | ⟨_, stepped⟩ := dropped_or stepped
  · exact .inl same
  obtain same | ⟨_, stepped⟩ := dropped_or stepped
  · exact .inl same
  obtain same | ⟨station, stepped⟩ := dropped_or stepped
  · exact .inl same
  rw [peerWpaMessageSanity_eq] at stepped
  cases found : verdict crypto env (pAd.content wcid) elem.packet .pairMsg1 with
  | none =>
    rw [found] at stepped
    exact .inl (Option.some.inj stepped).symm
  | some key =>
    obtain rfl := verdict_of_not_gtkIncluded rfl found
    simp only [found, Bool.not_true, Bool.false_eq_true, if_false, takeKey] at stepped
    refine .inr ⟨not_not.mp station, rfl, ?_⟩
    split_ifs at stepped with memory
    · refine ⟨none, ?_, ?_⟩
      · rintro p ⟨⟩
      · rw [WpaAdapter.recordSent_none]
        exact (Option.some.inj stepped).symm
    · obtain ⟨p, built, result⟩ := Option.map_eq_some_iff.mp stepped
      rw [WpaAdapter.modify_content, WpaAdapter.record_content] at built
      refine ⟨some p, ?_, result.symm⟩
      rintro _ ⟨⟩
      exact built

/-- A message 3 that is accepted counts; with the nonce of message 1 it ends the handshake. -/
theorem peerPairMsg3Action_cases
    (stepped : peerPairMsg3Action crypto env pAd wcid elem = some pAd') :
    pAd' = pAd ∨
    (pAd.opMode = .sta ∧ ∃ key,
      verdict crypto env (pAd.content wcid) elem.packet .pairMsg3 = some key ∧
      (pAd' = ((takeKey pAd key).record (.accepted wcid .pairMsg3 elem.packet)).modify wcid
          (WpaEntry.count elem.packet) ∨
        (pAd.content wcid).aNonce = elem.packet.keyNonce ∧ ∃ p,
          constructEapolMsg crypto (env.build wcid) ((pAd.content wcid).count elem.packet)
            pAd.staCfg.groupCipher .pairMsg4 ⟨0, none, none, none, noRsnIe⟩ = some p ∧
          pAd' = (finishMsg3 (((takeKey pAd key).record
            (.accepted wcid .pairMsg3 elem.packet)).modify wcid (WpaEntry.count elem.packet))
              wcid).record (.sent wcid p))) := by
  unfold peerPairMsg3Action at stepped
  dsimp only at stepped
  obtain same | ⟨_, stepped⟩ := dropped_or stepped
  · exact .inl same
  obtain same | ⟨_, stepped⟩ := dropped_or stepped
  · exact .inl same
  obtain same | ⟨station, stepped⟩ := dropped_or stepped
  · exact .inl same
  rw [peerWpaMessageSanity_eq] at stepped
  cases found : verdict crypto env (pAd.content wcid) elem.packet .pairMsg3 with
  | none =>
    rw [found] at stepped
    exact .inl (Option.some.inj stepped).symm
  | some key =>
    simp only [found, Bool.not_true, Bool.false_eq_true, if_false] at stepped
    refine .inr ⟨not_not.mp station, key, rfl, ?_⟩
    obtain same | ⟨nonce, stepped⟩ := dropped_or stepped
    · exact .inl same
    obtain same | ⟨_, stepped⟩ := dropped_or stepped
    · exact .inl same
    obtain ⟨p, built, result⟩ := Option.map_eq_some_iff.mp stepped
    exact .inr ⟨not_not.mp nonce, p, built, result.symm⟩

theorem peerGroupMsg1Action_cases
    (stepped : peerGroupMsg1Action crypto env pAd wcid elem = some pAd') :
    pAd' = pAd ∨
    (pAd.opMode = .sta ∧ ∃ key,
      verdict crypto env (pAd.content wcid) elem.packet .groupMsg1 = some key ∧
      (pAd' = ((takeKey pAd key).record (.accepted wcid .groupMsg1 elem.packet)).modify wcid
          (WpaEntry.count elem.packet) ∨
        ∃ p,
          constructEapolMsg crypto (env.build wcid) ((pAd.content wcid).count elem.packet)
            pAd.staCfg.groupCipher .groupMsg2
            ⟨pAd.staCfg.defaultKeyId, none, none, none, noRsnIe⟩ = some p ∧
          pAd' = (openPort (((takeKey pAd key).record
            (.accepted wcid .groupMsg1 elem.packet)).modify wcid (WpaEntry.count elem.packet))
              wcid).record (.sent wcid p))) := by
  unfold peerGroupMsg1Action at stepped
  dsimp only at stepped
  obtain same | ⟨_, stepped⟩ := dropped_or stepped
  · exact .inl same
  obtain same | ⟨station, stepped⟩ := dropped_or stepped
  · exact .inl same
  rw [peerWpaMessageSanity_eq] at stepped
  cases found : verdict crypto env (pAd.content wcid) elem.packet .groupMsg1 with
  | none =>
    rw [found] at stepped
    exact .inl (Option.some.inj stepped).symm
  | some key =>
    simp only [found, Bool.not_true, Bool.false_eq_true, if_false] at stepped
    refine .inr ⟨not_not.mp station, key, rfl, ?_⟩
    obtain same | ⟨_, stepped⟩ := dropped_or stepped
    · exact .inl same
    obtain ⟨p, built, result⟩ := Option.map_eq_some_iff.mp stepped
    exact .inr ⟨p, built, result.symm⟩

end Supplicant

section Request

variable {crypto : KeyCrypto} {env : HandleEnv} {pAd pAd' : WpaAdapter} {wcid : Wcid}

/-- What a request for a new group key may do to an entry. -/
def Rekeyed (entry entry' : WpaEntry) : Prop :=
  entry' = entry ∨
  entry' = { entry with gtkState := .rekeyNegotiating }.retryGroup ∨
  entry' = { entry with gtkState := .rekeyNegotiating }.countUp.retryGroup

/-- Entries may be rekeyed and messages be sent, and nothing else. -/
structure Rekeys (pAd pAd' : WpaAdapter) : Prop where
  frame : pAd' = { pAd with content := pAd'.content, log := pAd'.log }
  entries : ∀ wcid, Rekeyed (pAd.content wcid) (pAd'.content wcid)
  log : ∃ events, pAd'.log = pAd.log ++ events ∧
    ∀ event ∈ events, pAd.opMode = .ap ∧ ∃ wcid p, event = .sent wcid p

theorem Rekeys.refl (pAd : WpaAdapter) : Rekeys pAd pAd where
  frame := rfl
  entries wcid := .inl rfl
  log := ⟨[], (List.append_nil _).symm, by simp⟩

/-- One entry of the table is rekeyed, and the others are as they were. -/
theorem rekeyEntry_cases {apidx : Nat} (stepped : rekeyEntry crypto env apidx pAd wcid = some pAd') :
    Rekeys pAd pAd' ∧ ∀ other, other ≠ wcid → pAd'.content other = pAd.content other := by
  unfold rekeyEntry at stepped
  dsimp only at stepped
  split_ifs at stepped with part
  · obtain ⟨started, run, rfl⟩ := Option.map_eq_some_iff.mp stepped
    have negotiating {other : Wcid} (apart : other ≠ wcid) :
        (pAd.modify wcid fun entry => { entry with gtkState := .rekeyNegotiating }).content other =
          pAd.content other := WpaAdapter.modify_other _ _ apart
    obtain rfl | ⟨_, sent, sentBy, rfl⟩ := wpaStart2WayGroupHs_cases run
    · have elsewhere : ∀ other, other ≠ wcid → (((pAd.modify wcid fun entry =>
          { entry with gtkState := .rekeyNegotiating }).modify wcid
            WpaEntry.retryGroup).content other) = pAd.content other := by
        intro other apart
        rw [WpaAdapter.modify_other _ _ apart, negotiating apart]
      refine ⟨⟨rfl, ?_, [], (List.append_nil _).symm, by simp⟩, elsewhere⟩
      intro other
      by_cases same : other = wcid
      · subst same
        rw [WpaAdapter.modify_content, WpaAdapter.modify_content]
        exact .inr (.inl rfl)
      · exact .inl (elsewhere other same)
    · have elsewhere : ∀ other, other ≠ wcid → ((((pAd.modify wcid fun entry =>
          { entry with gtkState := .rekeyNegotiating }).modify wcid
            WpaEntry.countUp).recordSent wcid sent).modify wcid
              WpaEntry.retryGroup).content other = pAd.content other := by
        intro other apart
        rw [WpaAdapter.modify_other _ _ apart, WpaAdapter.recordSent_content,
          WpaAdapter.modify_other _ _ apart, negotiating apart]
      refine ⟨⟨rfl, ?_, sent.toList.map (.sent wcid), rfl, ?_⟩, elsewhere⟩
      · intro other
        by_cases same : other = wcid
        · subst same
          rw [WpaAdapter.modify_content, WpaAdapter.recordSent_content, WpaAdapter.modify_content,
            WpaAdapter.modify_content]
          exact .inr (.inr rfl)
        · exact .inl (elsewhere other same)
      · intro event among
        obtain ⟨p, member, rfl⟩ := List.mem_map.mp among
        exact ⟨(sentBy p (Option.mem_toList.mp member)).1, wcid, p, rfl⟩
  · obtain rfl := Option.some.inj stepped
    exact ⟨.refl pAd, fun _ _ => rfl⟩

/-- The entries of a list without repetition are rekeyed each for itself. -/
theorem foldlM_rekeyEntry {apidx : Nat} (wcids : List Wcid) (once : wcids.Nodup)
    (stepped : wcids.foldlM (rekeyEntry crypto env apidx) pAd = some pAd') :
    Rekeys pAd pAd' ∧ ∀ other, other ∉ wcids → pAd'.content other = pAd.content other := by
  induction wcids generalizing pAd with
  | nil =>
    obtain rfl := Option.some.inj stepped
    exact ⟨.refl pAd, fun _ _ => rfl⟩
  | cons wcid rest ih =>
    rw [List.foldlM_cons] at stepped
    obtain ⟨next, first, stepped⟩ := Option.bind_eq_some_iff.mp stepped
    obtain ⟨fresh, once⟩ := List.nodup_cons.mp once
    obtain ⟨step, elsewhere⟩ := rekeyEntry_cases first
    obtain ⟨later, kept⟩ := ih once stepped
    obtain ⟨events, log, sent⟩ := step.log
    obtain ⟨moreEvents, moreLog, moreSent⟩ := later.log
    have opMode : next.opMode = pAd.opMode := by rw [step.frame]
    constructor
    · refine ⟨?_, ?_, events ++ moreEvents, by rw [moreLog, log, List.append_assoc], ?_⟩
      · rw [later.frame, step.frame]
      · intro other
        by_cases same : other = wcid
        · subst same
          rw [kept other fresh]
          exact step.entries other
        · rw [← elsewhere other same]
          exact later.entries other
      · intro event among
        rcases List.mem_append.mp among with first | second
        · exact sent event first
        · rw [← opMode]
          exact moreSent event second
    · intro other outside
      rw [List.mem_cons, not_or] at outside
      rw [kept other outside.2, elsewhere other outside.1]

/-- A request for a new group key rekeys the entries and installs the key of the BSS. -/
theorem groupRequest_cases {apidx : Nat} (stepped : groupRequest crypto env pAd apidx = some pAd') :
    ∃ rekeyed,
      Rekeys (pAd.setMbss apidx (renewGroupKey crypto env.random (pAd.mbssid apidx))) rekeyed ∧
      pAd' = wpaInstallSharedKey rekeyed
        (renewGroupKey crypto env.random (pAd.mbssid apidx)).groupKeyWepStatus apidx
        (renewGroupKey crypto env.random (pAd.mbssid apidx)).defaultKeyId true
        (fun i => (renewGroupKey crypto env.random (pAd.mbssid apidx)).gtk.val.getD i 0)
        lenTkipGtk := by
  obtain ⟨rekeyed, run, result⟩ := Option.map_eq_some_iff.mp stepped
  exact ⟨rekeyed, (foldlM_rekeyEntry _ (List.nodup_finRange _) run).1, result.symm⟩

end Request

section Config

/-- What no handler changes. -/
structure Config where
  opMode : BlockAck.OpMode
  closed : Bool
  currentAddress : Mgmt.MacAddr
  pmk : Bytes 32
  groupCipher : WepStatus
  rsnIe : RsnIe
  bssidNum : Nat
  maxMbssidNum : Nat
  macTableLookup : Mgmt.MacAddr → Option Wcid

def WpaAdapter.config (pAd : WpaAdapter) : Config where
  opMode := pAd.opMode
  closed := pAd.closed
  currentAddress := pAd.currentAddress
  pmk := pAd.staCfg.pmk
  groupCipher := pAd.staCfg.groupCipher
  rsnIe := pAd.staCfg.rsnIe
  bssidNum := pAd.bssidNum
  maxMbssidNum := pAd.maxMbssidNum
  macTableLookup := pAd.macTableLookup

variable {crypto : KeyCrypto} {env : HandleEnv} {build : BuildEnv} {random : Bytes 32}
  {pAd pAd' : WpaAdapter} {wcid : Wcid} {elem : EapolElem}

@[simp] theorem config_modify (change : WpaEntry → WpaEntry) :
    (pAd.modify wcid change).config = pAd.config := rfl
@[simp] theorem config_record (event : WpaEvent) : (pAd.record event).config = pAd.config := rfl
@[simp] theorem config_recordSent (sent : Option EapolPacket) :
    (pAd.recordSent wcid sent).config = pAd.config := rfl
@[simp] theorem config_setMbss (apidx : Nat) (mbss : Mbss) :
    (pAd.setMbss apidx mbss).config = pAd.config := rfl
@[simp] theorem config_openPort : (openPort pAd wcid).config = pAd.config := rfl

@[simp] theorem config_takeKey (key : Option GroupKey) :
    (takeKey pAd key).config = pAd.config := by
  rw [takeKey_eq]
  rfl

@[simp] theorem config_pairwiseKey (bAE : Bool) :
    (wpaInstallPairwiseKey pAd wcid bAE).config = pAd.config := by
  rw [wpaInstallPairwiseKey_frame]
  rfl

@[simp] theorem config_finishMsg3 : (finishMsg3 pAd wcid).config = pAd.config := by
  rw [finishMsg3_frame]
  rfl

@[simp] theorem config_addPmkid (entry : WpaEntry) (p : EapolPacket) :
    (addPmkid pAd entry p).1.config = pAd.config := by
  rw [addPmkid_frame]
  rfl

theorem config_start4Way (stepped : wpaStart4WayHs crypto build random pAd wcid = some pAd') :
    pAd'.config = pAd.config := by
  obtain rfl | ⟨_, _, _, rfl | ⟨p, _, rfl⟩⟩ := wpaStart4WayHs_cases stepped
  · rfl
  · rfl
  · rw [config_record, config_modify, config_addPmkid, config_modify]

theorem config_start2Way (stepped : wpaStart2WayGroupHs crypto build pAd wcid = some pAd') :
    pAd'.config = pAd.config := by
  obtain rfl | ⟨_, sent, _, rfl⟩ := wpaStart2WayGroupHs_cases stepped <;> rfl

theorem config_perform (branch : KeyBranch)
    (stepped : branch.perform crypto env pAd wcid elem = some pAd') :
    pAd'.config = pAd.config := by
  cases branch with
  | pairMsg1 => obtain rfl | ⟨_, _, sent, _, rfl⟩ := peerPairMsg1Action_cases stepped <;> rfl
  | pairMsg3 =>
    obtain rfl | ⟨_, key, _, rfl | ⟨_, p, _, rfl⟩⟩ := peerPairMsg3Action_cases stepped <;> simp
  | groupMsg1 =>
    obtain rfl | ⟨_, key, _, rfl | ⟨p, _, rfl⟩⟩ := peerGroupMsg1Action_cases stepped <;> simp
  | counterMeasure =>
    obtain rfl := Option.some.inj stepped
    rfl
  | pairMsg2 =>
    obtain rfl | ⟨_, _, rfl | ⟨_, _, rfl | ⟨p, _, rfl⟩⟩⟩ := peerPairMsg2Action_cases stepped <;> rfl
  | pairMsg4 =>
    obtain rfl | ⟨_, _, _, ⟨_, rfl⟩ | ⟨_, started, run, rfl⟩⟩ := peerPairMsg4Action_cases stepped
    · rfl
    · simp
    · rw [config_modify, config_start2Way run]
      simp
  | groupMsg2 => obtain rfl | ⟨_, rfl⟩ := peerGroupMsg2Action_cases stepped <;> rfl
  | groupRequest =>
    obtain ⟨rekeyed, rekeys, rfl⟩ := groupRequest_cases stepped
    rw [wpaInstallSharedKey_eq]
    change rekeyed.config = pAd.config
    rw [rekeys.frame]
    rfl
  | pairwiseRequest => exact (config_start4Way stepped).trans rfl
  | ignored =>
    obtain rfl := Option.some.inj stepped
    rfl

theorem config_eapolKeyAction (stepped : wpaEapolKeyAction crypto env pAd elem = some pAd') :
    pAd'.config = pAd.config := by
  unfold wpaEapolKeyAction at stepped
  split at stepped
  · obtain rfl := Option.some.inj stepped
    rfl
  · split_ifs at stepped
    · exact config_perform _ stepped
    · obtain rfl := Option.some.inj stepped
      rfl

end Config

end Mt7612u.Wpa
