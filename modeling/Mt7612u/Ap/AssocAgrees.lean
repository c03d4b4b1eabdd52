import Mt7612u.Ap.AssocAction

/-! When the answer to an association request, the entry of its station and the buffers agree. -/

namespace Mt7612u.Ap
open Receive (Memory)
open Security (AuthMode rank)
open Wpa (WpaState GtkState)

/-- The request that is acted on: the entry before it, its BSS and the lists. -/
def requested (c : AssocApConfig) (prior : Option AssocEntry) (elem : AssocElem) :
    Option (AssocEntry × AssocBss × IeLists) :=
  if elem.listsKmalloc = false then none
  else
    prior.bind fun before => (c.mbssid before.apidx).bind fun bss =>
      (peerAssocReqCmmSanity ⟨true, isWpaMode bss.rsn.authMode⟩ elem.isReassoc elem.frame
        elem.msgLen).lists.map fun lists => (before, bss, lists)

/-- The port and the state of the key handshake are those for a new association with a mode. -/
structure PortFields (bss : AssocBss) (mode : AuthMode) (entry : AssocEntry) : Prop where
  port : entry.portSecured = if isWpaMode mode || bss.ieee8021X then .notSecured else .secured
  psk : mode = .wpaPsk ∨ mode = .wpa2Psk →
    entry.privacyFilter = .filter8021xWep ∧ entry.wpaState = .asInitPsk
  eap : ¬ (mode = .wpaPsk ∨ mode = .wpa2Psk) →
    mode = .wpa ∨ mode = .wpa2 ∨ bss.ieee8021X = true →
      entry.privacyFilter = .filter8021xWep ∧ entry.wpaState = .asAuthentication

/-- The entry is set for the association that the response grants. -/
structure Associated (bss : AssocBss) (lists : IeLists) (behind : Memory)
    (before after : AssocEntry) (rsp : AssocRsp) : Prop where
  sst : after.sst = .assoc
  aid : after.aid ≠ 0 ∧ rsp.aid = after.aid ||| 0xc000
  security : after.security = (validated bss lists behind before.security).entry
  rsnIe : after.rsnIe = lists.rsnIe.take lists.rsnieLen.toNat
  port : PortFields bss after.security.authMode after

/-- A response of success comes with an entry that is set for the association, every other outcome
with one that is as before or not associated, and each buffer is freed once. -/
structure AssocAgrees (c : AssocApConfig) (prior : Option AssocEntry) (elem : AssocElem)
    (out : AssocOutcome) : Prop where
  associates : ∀ rsp, out.response = some rsp → rsp.status = .success →
    ∃ before bss lists after, requested c prior elem = some (before, bss, lists) ∧
      out.entry = some after ∧ Associated bss lists elem.behind before after rsp
  refuses : (∀ rsp, out.response = some rsp → rsp.status ≠ .success) →
    out.entry = prior ∨ ∀ after, out.entry = some after → after.sst ≠ .assoc
  buffers : ∀ buffer, out.buffers.count (.alloc buffer) ≤ 1 ∧
    out.buffers.count (.free buffer) = out.buffers.count (.alloc buffer)

/-- There is no key to be cleared. -/
def KeyCleared (bss : AssocBss) (entry : AssocEntry) : Prop :=
  entry.aid ≠ 0 ∧
      (rank .tkipEnable ≤ rank entry.security.wepStatus ∨ bss.ieee8021X = true) →
    entry.gtkState = .rekeyNegotiating ∧ entry.pairwiseKey = none ∧ entry.asicKey = false

section fits
variable (c : AssocApConfig) (bss : AssocBss) (lists : IeLists)

/-- The request passes all checks of `APBuildAssociation`. -/
structure Grants (behind : Memory) (entry : AssocEntry) : Prop where
  rates : rejectsRate c lists = false
  sst : entry.sst ≠ .notAuth
  rsn : (validated bss lists behind entry.security).status = .success
  aid : entry.aid ≠ 0
  scope : lacksRsnie c bss lists = true → c.cfg80211 = true

/-- The entry is associated already, and has all that this request sets on its way. -/
structure Renews (behind : Memory) (entry : AssocEntry) : Prop where
  key : KeyCleared bss entry
  rateLen : lists.supportedRates.length = entry.rateLen
  modes : rejectsRate c lists = false →
    (validated bss lists behind entry.security).entry = entry.security
  rsnIe : rejectsRate c lists = false →
    (validated bss lists behind entry.security).status = .success →
      lists.rsnIe.take lists.rsnieLen.toNat = entry.rsnIe
  associated : Grants c bss lists behind entry → entry.sst = .assoc ∧
    (lacksRsnie c bss lists = false → entry.capabilityInfo = lists.capabilityInfo ∧
      PortFields bss entry.security.authMode entry)

/-- Nothing but the checks of `APBuildAssociation` stands between the request and its answer. -/
structure Answered (elem : AssocElem) : Prop where
  kmalloc : elem.outKmalloc = true
  strong : weakSignal bss.assocReqFailRssiThreshold elem.rssi = false
  responds : noResponse bss elem.rssi = false
  allowed : bss.allows lists.addr2 = true

/-- The request is turned down, and the entry deleted. -/
def Deleted (elem : AssocElem) : Prop :=
  elem.outKmalloc = true ∧ weakSignal bss.assocReqFailRssiThreshold elem.rssi = true

/-- A request for another SSID, or one that is turned down without the entry being deleted, finds
nothing to change; none is turned down without a response while there is a buffer for it; and one
without an element for a BSS with security finds the port fields as they are to be. -/
structure AssocFits (elem : AssocElem) (entry : AssocEntry) : Prop where
  otherSsid : lists.ssid ≠ bss.ssid → entry.sst = .assoc → KeyCleared bss entry
  responds : lists.ssid = bss.ssid → elem.outKmalloc = true → noResponse bss elem.rssi = false
  granted : lists.ssid = bss.ssid → Answered bss lists elem →
    Grants c bss lists elem.behind entry → lacksRsnie c bss lists = true →
      PortFields bss (validated bss lists elem.behind entry.security).entry.authMode entry
  turnedDown : lists.ssid = bss.ssid → ¬ Deleted bss elem → ¬ Answered bss lists elem →
    Grants c bss lists elem.behind entry → Renews c bss lists elem.behind entry
  refused : lists.ssid = bss.ssid → ¬ Deleted bss elem →
    ¬ Grants c bss lists elem.behind entry → entry.sst = .assoc →
      Renews c bss lists elem.behind entry

end fits

section stages
variable {c : AssocApConfig} {bss : AssocBss} {lists : IeLists} {behind : Memory}
  {entry : AssocEntry}

theorem keyCleared_iff : KeyCleared bss entry ↔
    (clearPairwiseKey bss entry).gtkState = entry.gtkState ∧
      (clearPairwiseKey bss entry).pairwiseKey = entry.pairwiseKey ∧
      (clearPairwiseKey bss entry).asicKey = entry.asicKey := by
  unfold clearPairwiseKey KeyCleared
  by_cases keyed : entry.aid ≠ 0 ∧
      (rank .tkipEnable ≤ rank entry.security.wepStatus ∨ bss.ieee8021X = true)
  · rw [if_pos keyed]
    constructor
    · intro cleared
      obtain ⟨gtk, key, asic⟩ := cleared keyed
      exact ⟨gtk.symm, key.symm, asic.symm⟩
    · rintro ⟨gtk, key, asic⟩ _
      exact ⟨gtk.symm, key.symm, asic.symm⟩
  · rw [if_neg keyed]
    exact iff_of_true (fun is => absurd is keyed) ⟨rfl, rfl, rfl⟩

theorem clearPairwiseKey_eq_iff : clearPairwiseKey bss entry = entry ↔ KeyCleared bss entry := by
  constructor
  · intro same
    rw [keyCleared_iff, same]
    exact ⟨rfl, rfl, rfl⟩
  · intro cleared
    obtain ⟨gtk, key, asic⟩ := keyCleared_iff.mp cleared
    revert gtk key asic
    unfold clearPairwiseKey
    split_ifs
    · intro gtk key asic
      exact AssocEntry.ext rfl rfl rfl rfl rfl rfl rfl gtk key asic rfl rfl rfl
    · exact fun _ _ _ => rfl

/-- The part of an entry that the clearing of the key leaves alone. -/
theorem clearPairwiseKey_other : (clearPairwiseKey bss entry).sst = entry.sst ∧
    (clearPairwiseKey bss entry).aid = entry.aid ∧
    (clearPairwiseKey bss entry).security = entry.security := by
  unfold clearPairwiseKey
  split_ifs <;> exact ⟨rfl, rfl, rfl⟩

theorem update_port : PortFields bss (updateAssociatedMacEntry bss lists entry).security.authMode
    (updateAssociatedMacEntry bss lists entry) := by
  unfold updateAssociatedMacEntry
  dsimp only
  by_cases psk : entry.security.authMode = .wpaPsk ∨ entry.security.authMode = .wpa2Psk
  · rw [if_pos psk]
    exact ⟨rfl, fun _ => ⟨rfl, rfl⟩, fun not => absurd psk not⟩
  · rw [if_neg psk]
    by_cases eap : entry.security.authMode = .wpa ∨ entry.security.authMode = .wpa2 ∨
        bss.ieee8021X = true
    · rw [if_pos eap]
      exact ⟨rfl, fun is => absurd is psk, fun _ _ => ⟨rfl, rfl⟩⟩
    · rw [if_neg eap]
      exact ⟨rfl, fun is => absurd is psk, fun _ is => absurd is eap⟩

/-- An entry that has it all is left as it is. -/
theorem update_fixed (sst : entry.sst = .assoc)
    (capability : entry.capabilityInfo = lists.capabilityInfo)
    (fields : PortFields bss entry.security.authMode entry) :
    updateAssociatedMacEntry bss lists entry = entry := by
  unfold updateAssociatedMacEntry
  dsimp only
  by_cases psk : entry.security.authMode = .wpaPsk ∨ entry.security.authMode = .wpa2Psk
  · rw [if_pos psk]
    obtain ⟨filter, state⟩ := fields.psk psk
    exact AssocEntry.ext rfl sst.symm rfl rfl fields.port.symm filter.symm state.symm rfl rfl rfl
      rfl capability.symm rfl
  · rw [if_neg psk]
    by_cases eap : entry.security.authMode = .wpa ∨ entry.security.authMode = .wpa2 ∨
        bss.ieee8021X = true
    · rw [if_pos eap]
      obtain ⟨filter, state⟩ := fields.eap psk eap
      exact AssocEntry.ext rfl sst.symm rfl rfl fields.port.symm filter.symm state.symm rfl rfl rfl
        rfl capability.symm rfl
    · rw [if_neg eap]
      exact AssocEntry.ext rfl sst.symm rfl rfl fields.port.symm rfl rfl rfl rfl rfl rfl
        capability.symm rfl

/-- What `update_associated_mac_entry` sets, and what it leaves alone. -/
theorem update_fields : (updateAssociatedMacEntry bss lists entry).sst = .assoc ∧
    (updateAssociatedMacEntry bss lists entry).capabilityInfo = lists.capabilityInfo ∧
    (updateAssociatedMacEntry bss lists entry).aid = entry.aid ∧
    (updateAssociatedMacEntry bss lists entry).security = entry.security ∧
    (updateAssociatedMacEntry bss lists entry).gtkState = entry.gtkState ∧
    (updateAssociatedMacEntry bss lists entry).pairwiseKey = entry.pairwiseKey ∧
    (updateAssociatedMacEntry bss lists entry).asicKey = entry.asicKey ∧
    (updateAssociatedMacEntry bss lists entry).rsnIe = entry.rsnIe ∧
    (updateAssociatedMacEntry bss lists entry).rateLen = entry.rateLen := by
  unfold updateAssociatedMacEntry
  dsimp only
  split_ifs <;> exact ⟨rfl, rfl, rfl, rfl, rfl, rfl, rfl, rfl, rfl⟩

/-- The entry when `APBuildAssociation` is called. -/
def readied (bss : AssocBss) (lists : IeLists) (entry : AssocEntry) : AssocEntry :=
  { clearPairwiseKey bss entry with rateLen := lists.supportedRates.length }

theorem readied_other : (readied bss lists entry).sst = entry.sst ∧
    (readied bss lists entry).aid = entry.aid ∧
    (readied bss lists entry).security = entry.security :=
  clearPairwiseKey_other

theorem readied_fixed (key : KeyCleared bss entry)
    (rates : lists.supportedRates.length = entry.rateLen) : readied bss lists entry = entry := by
  unfold readied
  rw [clearPairwiseKey_eq_iff.mpr key, rates]

/-- What is made of an entry on the way to a verdict, beside the verdict. -/
inductive Built (c : AssocApConfig) (bss : AssocBss) (lists : IeLists) (behind : Memory)
    (entry : AssocEntry) : MlmeStatus → AssocEntry → Prop where
  | early {status : MlmeStatus} (other : status ≠ .success)
      (stops : rejectsRate c lists = true ∨ entry.sst = .notAuth) :
      Built c bss lists behind entry status (readied bss lists entry)
  | invalid (rates : rejectsRate c lists = false) (sst : entry.sst ≠ .notAuth)
      {status : MlmeStatus} (other : status ≠ .success)
      (rsn : (validated bss lists behind entry.security).status ≠ .success) :
      Built c bss lists behind entry status { readied bss lists entry with
        security := (validated bss lists behind entry.security).entry }
  | denied (rates : rejectsRate c lists = false) (sst : entry.sst ≠ .notAuth)
      (rsn : (validated bss lists behind entry.security).status = .success)
      {status : MlmeStatus} (other : status ≠ .success) (fails : ¬ Grants c bss lists behind entry) :
      Built c bss lists behind entry status { readied bss lists entry with
        security := (validated bss lists behind entry.security).entry
        rsnIe := lists.rsnIe.take lists.rsnieLen.toNat }
  | unsecured (grants : Grants c bss lists behind entry) (lacks : lacksRsnie c bss lists = true) :
      Built c bss lists behind entry .success { readied bss lists entry with
        security := (validated bss lists behind entry.security).entry
        rsnIe := lists.rsnIe.take lists.rsnieLen.toNat
        sst := .assoc }
  | updated (grants : Grants c bss lists behind entry) (has : lacksRsnie c bss lists = false) :
      Built c bss lists behind entry .success (updateAssociatedMacEntry bss lists
        { readied bss lists entry with
          security := (validated bss lists behind entry.security).entry
          rsnIe := lists.rsnIe.take lists.rsnieLen.toNat })

theorem apBuildAssociation_built (c : AssocApConfig) (bss : AssocBss) (lists : IeLists)
    (behind : Memory) (entry : AssocEntry) :
    Built c bss lists behind entry
      (apBuildAssociation c bss lists behind (readied bss lists entry)).1
      (apBuildAssociation c bss lists behind (readied bss lists entry)).2 := by
  obtain ⟨sameSst, sameAid, sameSecurity⟩ := @readied_other bss lists entry
  unfold apBuildAssociation
  dsimp only
  rw [sameSecurity]
  by_cases rates : rejectsRate c lists = true
  · rw [if_pos rates]
    exact .early MlmeStatus.noConfusion (.inl rates)
  · rw [if_neg rates]
    have accepted := Bool.eq_false_iff.mpr rates
    by_cases out : (readied bss lists entry).sst = .notAuth
    · rw [if_pos out]
      exact .early MlmeStatus.noConfusion (.inr (sameSst.symm.trans out))
    · rw [if_neg out]
      have sst : entry.sst ≠ .notAuth := fun is => out (sameSst.trans is)
      by_cases rsn : (validated bss lists behind entry.security).status ≠ .success
      · rw [if_pos rsn]
        exact .invalid accepted sst rsn rsn
      · rw [if_neg rsn]
        have passes := not_not.mp rsn
        have denied {status : MlmeStatus} (other : status ≠ .success)
            (fails : ¬ Grants c bss lists behind entry) :=
          Built.denied accepted sst passes other fails
        by_cases none : (readied bss lists entry).aid = 0
        · rw [if_pos none]
          exact denied MlmeStatus.noConfusion fun grants => grants.aid (sameAid.symm.trans none)
        · rw [if_neg none]
          have aid : entry.aid ≠ 0 := fun is => none (sameAid.trans is)
          by_cases lacks : lacksRsnie c bss lists = true
          · rw [if_pos lacks]
            by_cases cfg : c.cfg80211 = true
            · rw [if_pos cfg]
              exact .unsecured ⟨accepted, sst, passes, aid, fun _ => cfg⟩ lacks
            · rw [if_neg cfg]
              exact denied MlmeStatus.noConfusion fun grants => cfg (grants.scope lacks)
          · rw [if_neg lacks]
            exact .updated ⟨accepted, sst, passes, aid, fun is => absurd is lacks⟩
              (Bool.eq_false_iff.mpr lacks)

theorem readied_port {mode : AuthMode} {after : AssocEntry}
    (port : after.portSecured = (readied bss lists entry).portSecured)
    (filter : after.privacyFilter = (readied bss lists entry).privacyFilter)
    (state : after.wpaState = (readied bss lists entry).wpaState) :
    PortFields bss mode after ↔ PortFields bss mode entry := by
  have same : (readied bss lists entry).portSecured = entry.portSecured ∧
      (readied bss lists entry).privacyFilter = entry.privacyFilter ∧
      (readied bss lists entry).wpaState = entry.wpaState := by
    unfold readied clearPairwiseKey
    split_ifs <;> exact ⟨rfl, rfl, rfl⟩
  have port' := port.trans same.1
  have filter' := filter.trans same.2.1
  have state' := state.trans same.2.2
  constructor
  · intro fields
    exact ⟨port'.symm.trans fields.port, by rw [← filter', ← state']; exact fields.psk,
      by rw [← filter', ← state']; exact fields.eap⟩
  · intro fields
    exact ⟨port'.trans fields.port, by rw [filter', state']; exact fields.psk,
      by rw [filter', state']; exact fields.eap⟩

/-- What is left as it was by an entry that has been readied. -/
theorem readied_same {after : AssocEntry} (same : after = entry)
    (gtk : after.gtkState = (readied bss lists entry).gtkState)
    (key : after.pairwiseKey = (readied bss lists entry).pairwiseKey)
    (asic : after.asicKey = (readied bss lists entry).asicKey)
    (rates : after.rateLen = (readied bss lists entry).rateLen) :
    KeyCleared bss entry ∧ lists.supportedRates.length = entry.rateLen := by
  rw [same] at gtk key asic rates
  exact ⟨keyCleared_iff.mpr ⟨gtk.symm, key.symm, asic.symm⟩, rates.symm⟩

variable {status : MlmeStatus} {after : AssocEntry}

theorem Built.success_iff (built : Built c bss lists behind entry status after) :
    status = .success ↔ Grants c bss lists behind entry := by
  cases built with
  | early other stops =>
    apply iff_of_false other
    intro grants
    rcases stops with rates | sst
    · exact absurd (grants.rates.symm.trans rates) Bool.false_ne_true
    · exact grants.sst sst
  | invalid _ _ other rsn => exact iff_of_false other fun grants => rsn grants.rsn
  | denied _ _ _ other fails => exact iff_of_false other fails
  | unsecured grants _ => exact iff_of_true rfl grants
  | updated grants _ => exact iff_of_true rfl grants

theorem Built.sst (built : Built c bss lists behind entry status after) :
    after.sst = if status = .success then .assoc else entry.sst := by
  cases built with
  | early other _ =>
    rw [if_neg other]
    exact (@readied_other bss lists entry).1
  | invalid _ _ other _ =>
    rw [if_neg other]
    exact (@readied_other bss lists entry).1
  | denied _ _ _ other _ =>
    rw [if_neg other]
    exact (@readied_other bss lists entry).1
  | unsecured _ _ => rfl
  | updated _ _ =>
    rw [if_pos rfl]
    exact update_fields.1

/-- The entry of a request that is granted. -/
theorem Built.associated_iff (built : Built c bss lists behind entry status after)
    (grants : Grants c bss lists behind entry) :
    Associated bss lists behind entry after ⟨status, after.aid ||| 0xc000⟩ ↔
      (lacksRsnie c bss lists = true →
        PortFields bss (validated bss lists behind entry.security).entry.authMode entry) := by
  have passes := built.success_iff.mpr grants
  cases built with
  | early other _ => exact absurd passes other
  | invalid _ _ other _ => exact absurd passes other
  | denied _ _ _ other _ => exact absurd passes other
  | unsecured _ lacks =>
    have aid : (readied bss lists entry).aid ≠ 0 := by
      rw [readied_other.2.1]
      exact grants.aid
    have port := @readied_port bss lists entry
      (validated bss lists behind entry.security).entry.authMode { readied bss lists entry with
        security := (validated bss lists behind entry.security).entry
        rsnIe := lists.rsnIe.take lists.rsnieLen.toNat
        sst := .assoc } rfl rfl rfl
    constructor
    · intro associated _
      exact port.mp associated.port
    · intro fields
      exact ⟨rfl, ⟨aid, rfl⟩, rfl, rfl, port.mpr (fields lacks)⟩
  | updated _ has =>
    apply iff_of_true
    · have fields := @update_fields bss lists { readied bss lists entry with
        security := (validated bss lists behind entry.security).entry
        rsnIe := lists.rsnIe.take lists.rsnieLen.toNat }
      obtain ⟨sst, _, aid, security, _, _, _, rsnIe, _⟩ := fields
      have some : (readied bss lists entry).aid ≠ 0 := by
        rw [readied_other.2.1]
        exact grants.aid
      exact ⟨sst, ⟨by rw [aid]; exact some, rfl⟩, security, rsnIe, update_port⟩
    · intro lacks
      rw [has] at lacks
      cases lacks

/-- An entry that takes part comes out as it was when the request renews it. -/
theorem Built.renews_iff (built : Built c bss lists behind entry status after)
    (sst : entry.sst ≠ .notAuth) :
    after = entry ↔ Renews c bss lists behind entry := by
  cases built with
  | early _ stops =>
    have rates := stops.resolve_right sst
    have fails : rejectsRate c lists ≠ false := by
      rw [rates]
      decide
    constructor
    · intro same
      obtain ⟨key, rateLen⟩ := readied_same same rfl rfl rfl rfl
      exact ⟨key, rateLen, fun is => absurd is fails, fun is => absurd is fails,
        fun grants => absurd grants.rates fails⟩
    · intro renews
      exact readied_fixed renews.key renews.rateLen
  | invalid rates _ _ rsn =>
    constructor
    · intro same
      obtain ⟨key, rateLen⟩ := readied_same same rfl rfl rfl rfl
      exact ⟨key, rateLen, fun _ => congrArg AssocEntry.security same,
        fun _ is => absurd is rsn, fun grants => absurd grants.rsn rsn⟩
    · intro renews
      rw [readied_fixed renews.key renews.rateLen, renews.modes rates]
  | denied rates _ rsn _ fails =>
    constructor
    · intro same
      obtain ⟨key, rateLen⟩ := readied_same same rfl rfl rfl rfl
      exact ⟨key, rateLen, fun _ => congrArg AssocEntry.security same,
        fun _ _ => congrArg AssocEntry.rsnIe same, fun grants => absurd grants fails⟩
    · intro renews
      rw [readied_fixed renews.key renews.rateLen, renews.modes rates, renews.rsnIe rates rsn]
  | unsecured grants lacks =>
    constructor
    · intro same
      obtain ⟨key, rateLen⟩ := readied_same same rfl rfl rfl rfl
      refine ⟨key, rateLen, fun _ => congrArg AssocEntry.security same,
        fun _ _ => congrArg AssocEntry.rsnIe same, fun _ => ⟨?_, fun has => ?_⟩⟩
      · exact (congrArg AssocEntry.sst same).symm
      · rw [lacks] at has
        cases has
    · intro renews
      rw [readied_fixed renews.key renews.rateLen, renews.modes grants.rates,
        renews.rsnIe grants.rates grants.rsn, ← (renews.associated grants).1]
  | updated grants has =>
    constructor
    · intro same
      have fields := @update_fields bss lists { readied bss lists entry with
        security := (validated bss lists behind entry.security).entry
        rsnIe := lists.rsnIe.take lists.rsnieLen.toNat }
      have port := @update_port bss lists { readied bss lists entry with
        security := (validated bss lists behind entry.security).entry
        rsnIe := lists.rsnIe.take lists.rsnieLen.toNat }
      obtain ⟨assoc, capability, _, security, gtk, key, asic, rsnIe, rateLen⟩ := fields
      obtain ⟨cleared, rates⟩ := readied_same same gtk key asic rateLen
      rw [same] at assoc capability security rsnIe port
      exact ⟨cleared, rates, fun _ => security.symm, fun _ _ => rsnIe.symm,
        fun _ => ⟨assoc, fun _ => ⟨capability, port⟩⟩⟩
    · intro renews
      obtain ⟨assoc, rest⟩ := renews.associated grants
      obtain ⟨capability, port⟩ := rest has
      rw [readied_fixed renews.key renews.rateLen, renews.modes grants.rates,
        renews.rsnIe grants.rates grants.rsn]
      exact update_fixed assoc capability port

end stages

section answer
variable {c : AssocApConfig} {bss : AssocBss} {lists : IeLists} {elem : AssocElem}
  {before after : AssocEntry} {status : MlmeStatus}

/-- Each buffer that is allocated is freed once. -/
def Freed (buffers : List BufferEvent) : Prop :=
  ∀ buffer, buffers.count (.alloc buffer) ≤ 1 ∧
    buffers.count (.free buffer) = buffers.count (.alloc buffer)

theorem freed_nil : Freed [] := by
  intro buffer
  cases buffer <;> decide

theorem freed_lists : Freed [.alloc .ieList, .free .ieList] := by
  intro buffer
  cases buffer <;> decide

theorem freed_both :
    Freed [.alloc .ieList, .alloc .outBuffer, .free .outBuffer, .free .ieList] := by
  intro buffer
  cases buffer <;> decide

theorem not_freed : ¬ Freed [.alloc .ieList, .alloc .outBuffer, .free .ieList] := by
  intro freed
  exact absurd (freed .outBuffer).2 (by decide)

/-- The property for a request that is acted on. -/
structure AgreesAt (bss : AssocBss) (lists : IeLists) (behind : Memory) (before : AssocEntry)
    (out : AssocOutcome) : Prop where
  associates : ∀ rsp, out.response = some rsp → rsp.status = .success →
    ∃ after, out.entry = some after ∧ Associated bss lists behind before after rsp
  refuses : (∀ rsp, out.response = some rsp → rsp.status ≠ .success) →
    out.entry = some before ∨ ∀ after, out.entry = some after → after.sst ≠ .assoc
  buffers : Freed out.buffers

/-- Without success in a response, only the entry and the buffers count. -/
theorem agreesAt_unanswered {behind : Memory} {entry : AssocEntry} {response : Option AssocRsp}
    {buffers : List BufferEvent} (none : ∀ rsp, response = some rsp → rsp.status ≠ .success)
    (freed : Freed buffers) :
    AgreesAt bss lists behind before ⟨some entry, response, buffers⟩ ↔
      entry = before ∨ entry.sst ≠ .assoc := by
  constructor
  · intro agrees
    rcases agrees.refuses none with same | apart
    · exact .inl (Option.some.inj same)
    · exact .inr (apart entry rfl)
  · intro kept
    refine ⟨fun rsp is success => absurd success (none rsp is), fun _ => ?_, freed⟩
    rcases kept with rfl | apart
    · exact .inl rfl
    · refine .inr fun after is => ?_
      rw [← Option.some.inj is]
      exact apart

theorem failed_of_ne {failure : MlmeStatus} (other : failure ≠ .success) (aid : BitVec 16)
    (rsp : AssocRsp) (is : some (⟨failure, aid⟩ : AssocRsp) = some rsp) :
    rsp.status ≠ .success := by
  rw [← Option.some.inj is]
  exact other

theorem answer_dropped (kmalloc : elem.outKmalloc = false) :
    answerAssoc c bss lists elem status after =
      ⟨some after, none, [.alloc .ieList, .free .ieList]⟩ := by
  unfold answerAssoc
  exact if_pos kmalloc

theorem answer_deleted (deleted : Deleted bss elem) :
    AgreesAt bss lists elem.behind before (answerAssoc c bss lists elem status after) := by
  have has : ¬ elem.outKmalloc = false := by
    rw [deleted.1]
    decide
  unfold answerAssoc
  dsimp only
  rw [if_neg has, if_pos deleted.2]
  exact {
    associates := fun rsp is success =>
      absurd success (failed_of_ne MlmeStatus.noConfusion _ rsp is)
    refuses := fun _ => Or.inr fun after is => nomatch is
    buffers := freed_both }

theorem answer_silent (kmalloc : elem.outKmalloc = true)
    (silent : noResponse bss elem.rssi = true) :
    ¬ AgreesAt bss lists elem.behind before (answerAssoc c bss lists elem status after) := by
  have has : ¬ elem.outKmalloc = false := by
    rw [kmalloc]
    decide
  have strong : ¬ weakSignal bss.assocReqFailRssiThreshold elem.rssi = true := by
    intro weak
    unfold noResponse at silent
    rw [weak] at silent
    cases silent
  unfold answerAssoc
  dsimp only
  rw [if_neg has, if_neg strong, if_pos silent]
  exact fun agrees => not_freed agrees.buffers

/-- With a buffer, and a signal that is strong enough. -/
theorem answer_heard (kmalloc : elem.outKmalloc = true)
    (strong : weakSignal bss.assocReqFailRssiThreshold elem.rssi = false)
    (responds : noResponse bss elem.rssi = false) :
    answerAssoc c bss lists elem status after = ⟨some after,
      some ⟨if bss.allows lists.addr2 = false then .unspecifyFail else status,
        (if rejectsRate c lists ∨ after.sst = .notAuth then elem.stackAid else after.aid) |||
          0xc000⟩,
      [.alloc .ieList, .alloc .outBuffer, .free .outBuffer, .free .ieList]⟩ := by
  have has : ¬ elem.outKmalloc = false := by
    rw [kmalloc]
    decide
  unfold answerAssoc
  dsimp only
  rw [if_neg has, if_neg (Bool.eq_false_iff.mp strong), if_neg (Bool.eq_false_iff.mp responds)]
  split_ifs <;> rfl

/-- The rest of what is asked of the outcome, when there is a response for whom one is due. -/
structure Keeps (c : AssocApConfig) (bss : AssocBss) (lists : IeLists) (elem : AssocElem)
    (before after : AssocEntry) (status : MlmeStatus) : Prop where
  responds : elem.outKmalloc = true → noResponse bss elem.rssi = false
  associates : Answered bss lists elem → status = .success →
    Associated bss lists elem.behind before after ⟨status, after.aid ||| 0xc000⟩
  refuses : ¬ Deleted bss elem → ¬ (Answered bss lists elem ∧ status = .success) →
    after = before ∨ after.sst ≠ .assoc

theorem answerAssoc_agrees_iff (rates : status = .success → rejectsRate c lists = false)
    (sst : status = .success → after.sst = .assoc) :
    AgreesAt bss lists elem.behind before (answerAssoc c bss lists elem status after) ↔
      Keeps c bss lists elem before after status := by
  cases kmalloc : elem.outKmalloc with
  | false =>
    have none : elem.outKmalloc ≠ true := by
      rw [kmalloc]
      decide
    have silent : ∀ rsp, (Option.none : Option AssocRsp) = some rsp → rsp.status ≠ .success := nofun
    rw [answer_dropped kmalloc, agreesAt_unanswered silent freed_lists]
    constructor
    · intro kept
      exact ⟨fun is => absurd is none, fun answered => absurd answered.kmalloc none,
        fun _ _ => kept⟩
    · intro keeps
      exact keeps.refuses (fun deleted => none deleted.1) fun both => none both.1.kmalloc
  | true =>
    cases weak : weakSignal bss.assocReqFailRssiThreshold elem.rssi with
    | true =>
      have responds : noResponse bss elem.rssi = false := by
        unfold noResponse
        rw [weak]
        rfl
      apply iff_of_true (answer_deleted ⟨kmalloc, weak⟩)
      exact ⟨fun _ => responds,
        fun answered => absurd (weak.symm.trans answered.strong) (by decide),
        fun stays => absurd ⟨kmalloc, weak⟩ stays⟩
    | false =>
      have stays : ¬ Deleted bss elem := fun deleted =>
        absurd (weak.symm.trans deleted.2) (by decide)
      cases silent : noResponse bss elem.rssi with
      | true =>
        apply iff_of_false (answer_silent kmalloc silent)
        exact fun keeps => absurd (silent.symm.trans (keeps.responds kmalloc)) (by decide)
      | false =>
        rw [answer_heard kmalloc weak silent]
        cases allowed : bss.allows lists.addr2 with
        | false =>
          rw [if_pos rfl, agreesAt_unanswered (failed_of_ne MlmeStatus.noConfusion _) freed_both]
          have lacks : ¬ Answered bss lists elem := fun answered =>
            absurd (allowed.symm.trans answered.allowed) (by decide)
          constructor
          · intro kept
            exact ⟨fun _ => silent, fun answered => absurd answered lacks, fun _ _ => kept⟩
          · intro keeps
            exact keeps.refuses stays fun both => lacks both.1
        | true =>
          have answered : Answered bss lists elem := ⟨kmalloc, weak, silent, allowed⟩
          rw [if_neg Bool.noConfusion]
          by_cases success : status = .success
          · have same : (if rejectsRate c lists = true ∨ after.sst = .notAuth then elem.stackAid
                else after.aid) = after.aid := by
              apply if_neg
              rintro (rejects | out)
              · exact absurd (rejects.symm.trans (rates success)) (by decide)
              · exact absurd (out.symm.trans (sst success)) (by decide)
            rw [same]
            constructor
            · intro agrees
              refine ⟨fun _ => silent, fun _ _ => ?_, fun _ not => absurd ⟨answered, success⟩ not⟩
              obtain ⟨entry, is, associated⟩ := agrees.associates _ rfl success
              rw [← Option.some.inj is] at associated
              exact associated
            · intro keeps
              refine ⟨fun rsp is _ => ?_, fun none => absurd success (none _ rfl), freed_both⟩
              rw [← Option.some.inj is]
              exact ⟨after, rfl, keeps.associates answered success⟩
          · rw [agreesAt_unanswered (failed_of_ne success _) freed_both]
            constructor
            · intro kept
              exact ⟨fun _ => silent, fun _ is => absurd is success, fun _ _ => kept⟩
            · intro keeps
              exact keeps.refuses stays fun both => success both.2

/-- A request of a station with an entry of a valid BSS. -/
theorem assocReqAction_agrees_iff :
    AgreesAt bss lists elem.behind before (assocReqAction c bss lists elem before) ↔
      AssocFits c bss lists elem before := by
  unfold assocReqAction
  dsimp only
  by_cases ssid : lists.ssid = bss.ssid
  · rw [if_neg (not_not.mpr ssid)]
    have built := apBuildAssociation_built c bss lists elem.behind before
    unfold readied at built
    generalize apBuildAssociation c bss lists elem.behind
      { clearPairwiseKey bss before with rateLen := lists.supportedRates.length } = result at built
    obtain ⟨status, after⟩ := result
    have sst := built.sst
    have granted := built.success_iff
    rw [answerAssoc_agrees_iff (fun success => (granted.mp success).rates)
      (fun success => by rw [sst]; exact if_pos success)]
    have same (taken : before.sst ≠ .notAuth) := built.renews_iff taken
    constructor
    · intro keeps
      exact {
        otherSsid := fun other => absurd ssid other
        responds := fun _ => keeps.responds
        granted := fun _ answered grants =>
          (built.associated_iff grants).mp (keeps.associates answered (granted.mpr grants))
        turnedDown := fun _ stays lacks grants => by
          have kept := keeps.refuses stays fun both => lacks both.1
          rw [sst, if_pos (granted.mpr grants)] at kept
          exact (same grants.sst).mp (kept.resolve_right (not_not.mpr rfl))
        refused := fun _ stays fails assoc => by
          have kept := keeps.refuses stays fun both => fails (granted.mp both.2)
          rw [sst, if_neg fun success => fails (granted.mp success)] at kept
          have taken : before.sst ≠ .notAuth := by
            rw [assoc]
            decide
          exact (same taken).mp (kept.resolve_right (not_not.mpr assoc)) }
    · intro fits
      exact {
        responds := fits.responds ssid
        associates := fun answered success =>
          (built.associated_iff (granted.mp success)).mpr
            (fits.granted ssid answered (granted.mp success))
        refuses := by
          intro stays unanswered
          by_cases grants : Grants c bss lists elem.behind before
          · have lacks : ¬ Answered bss lists elem := fun answered =>
              unanswered ⟨answered, granted.mpr grants⟩
            exact .inl ((same grants.sst).mpr (fits.turnedDown ssid stays lacks grants))
          · by_cases assoc : before.sst = .assoc
            · have taken : before.sst ≠ .notAuth := by
                rw [assoc]
                decide
              exact .inl ((same taken).mpr (fits.refused ssid stays grants assoc))
            · right
              rw [sst, if_neg fun success => grants (granted.mp success)]
              exact assoc }
  · have silent : ∀ rsp, (none : Option AssocRsp) = some rsp → rsp.status ≠ .success := nofun
    rw [if_pos ssid, agreesAt_unanswered silent freed_lists, clearPairwiseKey_eq_iff,
      clearPairwiseKey_other.1]
    constructor
    · intro kept
      exact {
        otherSsid := fun _ assoc => kept.resolve_right (not_not.mpr assoc)
        responds := fun is => absurd is ssid
        granted := fun is => absurd is ssid
        turnedDown := fun is => absurd is ssid
        refused := fun is => absurd is ssid }
    · intro fits
      by_cases assoc : before.sst = .assoc
      · exact .inl (fits.otherSsid ssid assoc)
      · exact .inr assoc

end answer

/-- An outcome that leaves everything as it was. -/
theorem agrees_untouched (c : AssocApConfig) (prior : Option AssocEntry) (elem : AssocElem)
    {buffers : List BufferEvent} (freed : Freed buffers) :
    AssocAgrees c prior elem ⟨prior, none, buffers⟩ where
  associates := fun _ is => nomatch is
  refuses := fun _ => .inl rfl
  buffers := freed

/-- The answer, the entry and the buffers agree exactly for the requests that fit, whatever the
entry was. -/
theorem apCmmPeerAssocReqAction_agrees_iff (c : AssocApConfig) (prior : Option AssocEntry)
    (elem : AssocElem) :
    AssocAgrees c prior elem (apCmmPeerAssocReqAction c prior elem) ↔
      ∀ before bss lists, requested c prior elem = some (before, bss, lists) →
        AssocFits c bss lists elem before := by
  unfold apCmmPeerAssocReqAction
  dsimp only
  by_cases kmalloc : elem.listsKmalloc = false
  · have none : requested c prior elem = none := if_pos kmalloc
    rw [if_pos kmalloc]
    apply iff_of_true (agrees_untouched c prior elem freed_nil)
    intro before bss lists is
    rw [none] at is
    cases is
  · rw [if_neg kmalloc]
    have asked : requested c prior elem = prior.bind fun before =>
        (c.mbssid before.apidx).bind fun bss =>
          (peerAssocReqCmmSanity ⟨true, isWpaMode bss.rsn.authMode⟩ elem.isReassoc elem.frame
            elem.msgLen).lists.map fun lists => (before, bss, lists) := if_neg kmalloc
    cases prior with
    | none =>
      apply iff_of_true (agrees_untouched c none elem freed_lists)
      intro before bss lists is
      rw [asked] at is
      cases is
    | some entry =>
      rw [Option.bind_some] at asked
      dsimp only
      cases known : c.mbssid entry.apidx with
      | none =>
        rw [known, Option.bind_none] at asked
        have untouched := agrees_untouched c (some entry) elem freed_lists
        apply iff_of_true
        · split
          · contradiction
          · exact untouched
        · intro before bss lists is
          rw [asked] at is
          cases is
      | some bss =>
        rw [known, Option.bind_some] at asked
        have context : Option.any (fun bss => isWpaMode bss.rsn.authMode) (some bss) =
            isWpaMode bss.rsn.authMode := rfl
        rw [context]
        cases sane : (peerAssocReqCmmSanity ⟨true, isWpaMode bss.rsn.authMode⟩ elem.isReassoc
            elem.frame elem.msgLen).lists with
        | none =>
          rw [sane, Option.map_none] at asked
          apply iff_of_true (agrees_untouched c (some entry) elem freed_lists)
          intro before bss lists is
          rw [asked] at is
          cases is
        | some lists =>
          rw [sane, Option.map_some] at asked
          dsimp only
          have at_iff := @assocReqAction_agrees_iff c bss lists elem entry
          constructor
          · intro agrees before' bss' lists' is
            rw [asked] at is
            cases is
            apply at_iff.mp
            refine ⟨fun rsp answered success => ?_, agrees.refuses, agrees.buffers⟩
            obtain ⟨_, _, _, after, same, is, associated⟩ := agrees.associates rsp answered success
            rw [asked] at same
            cases same
            exact ⟨after, is, associated⟩
          · intro fits
            have agrees := at_iff.mpr (fits entry bss lists asked)
            refine ⟨fun rsp answered success => ?_, agrees.refuses, agrees.buffers⟩
            obtain ⟨after, is, associated⟩ := agrees.associates rsp answered success
            exact ⟨entry, bss, lists, after, asked, is, associated⟩

/-- An open BSS that lets nobody in. -/
def closedBss : AssocBss where
  ssid := [97]
  rsn := ⟨.open, .wepDisabled, 0, fun _ _ => 0⟩
  ieee8021X := false
  hostapdCfg := false
  allows := fun _ => false
  assocReqFailRssiThreshold := 0
  assocReqNoRspRssiThreshold := 0

def closedConfig : AssocApConfig := ⟨false, false, false, false, fun _ => some closedBss⟩

/-- A station that has been authenticated. -/
def authenticatedEntry : AssocEntry where
  apidx := 0
  sst := .auth
  aid := 1
  security := ⟨.open, .wepDisabled⟩
  portSecured := .notSecured
  privacyFilter := .acceptAll
  wpaState := .asNotUse
  gtkState := .rekeyNegotiating
  pairwiseKey := none
  asicKey := false
  rsnIe := []
  capabilityInfo := 0
  rateLen := 0

/-- A request with the SSID and one rate. -/
def plainRequest : AssocElem where
  frame := fun address => ([0, 1, 97, 1, 1, 2] : List UInt8).getD (address - 28) 0
  msgLen := 34
  isReassoc := false
  rssi := 0
  listsKmalloc := true
  outKmalloc := true
  behind := fun _ => 0
  stackAid := 0

/-- The access control list refuses the station, whose entry is associated all the same. -/
theorem plainRequest_not_agrees : ¬ ∀ (c : AssocApConfig) (prior : Option AssocEntry)
    (elem : AssocElem), AssocAgrees c prior elem (apCmmPeerAssocReqAction c prior elem) := by
  intro always
  have agrees := always closedConfig (some authenticatedEntry) plainRequest
  have view : (apCmmPeerAssocReqAction closedConfig (some authenticatedEntry)
      plainRequest).entry.map AssocEntry.sst = some .assoc ∧
      (apCmmPeerAssocReqAction closedConfig (some authenticatedEntry)
        plainRequest).response.map AssocRsp.status = some .unspecifyFail := by
    decide +kernel
  obtain ⟨after, entry, assoc⟩ := Option.map_eq_some_iff.mp view.1
  obtain ⟨rsp, response, status⟩ := Option.map_eq_some_iff.mp view.2
  have refused : ∀ rsp, (apCmmPeerAssocReqAction closedConfig (some authenticatedEntry)
      plainRequest).response = some rsp → rsp.status ≠ .success := by
    intro other is
    rw [← Option.some.inj (response.symm.trans is), status]
    decide
  rcases agrees.refuses refused with same | apart
  · rw [entry] at same
    rw [Option.some.inj same] at assoc
    exact absurd assoc (by decide)
  · exact apart after entry assoc

end Mt7612u.Ap
