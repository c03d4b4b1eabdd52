import Mt7612u.Wpa.GroupRekey

/-! What each step does to the group key of a BSS: it is kept, renewed or installed. -/

namespace Mt7612u.Wpa
open BlockAck (Wcid maxLenOfMacTable)

section Kept

/-- What of a BSS its group key hangs on. -/
def groupPart (mbss : Mbss) : Nat × Bytes 32 × Receive.WepStatus × Transmit.AuthMode :=
  (mbss.defaultKeyId, mbss.gtk, mbss.groupKeyWepStatus, mbss.authMode)

/-- A BSS keeps its group key and the key in the chip, and no station of it is new or becomes
established, except for the ones that are said to. -/
structure KeepsBss (fresh : Wcid → Prop) (apidx : Nat) (pAd pAd' : WpaAdapter) : Prop where
  opMode : pAd'.opMode = pAd.opMode
  bssidNum : pAd'.bssidNum = pAd.bssidNum
  maxMbssidNum : pAd'.maxMbssidNum = pAd.maxMbssidNum
  group : groupPart (pAd'.mbssid apidx) = groupPart (pAd.mbssid apidx)
  sharedKey : pAd'.sharedKey apidx = pAd.sharedKey apidx
  client : ∀ wcid, (pAd'.content wcid).isClient = true → (pAd'.content wcid).apidx = apidx →
    (pAd.content wcid).isClient = true ∧ (pAd.content wcid).apidx = apidx
  state : ∀ wcid, (pAd'.content wcid).isClient = true → (pAd'.content wcid).apidx = apidx →
    (pAd'.content wcid).gtkState = .rekeyEstablished →
      (pAd.content wcid).gtkState = .rekeyEstablished ∨ fresh wcid

/-- No station is said to become established. -/
abbrev noneFresh : Wcid → Prop := fun _ => False

variable {fresh : Wcid → Prop} {apidx : Nat} {pAd mid pAd' : WpaAdapter} {wcid : Wcid}

theorem KeepsBss.refl (fresh : Wcid → Prop) (apidx : Nat) (pAd : WpaAdapter) :
    KeepsBss fresh apidx pAd pAd where
  opMode := rfl
  bssidNum := rfl
  maxMbssidNum := rfl
  group := rfl
  sharedKey := rfl
  client _ client own := ⟨client, own⟩
  state _ _ _ established := .inl established

theorem KeepsBss.trans (first : KeepsBss fresh apidx pAd mid)
    (second : KeepsBss fresh apidx mid pAd') : KeepsBss fresh apidx pAd pAd' where
  opMode := second.opMode.trans first.opMode
  bssidNum := second.bssidNum.trans first.bssidNum
  maxMbssidNum := second.maxMbssidNum.trans first.maxMbssidNum
  group := second.group.trans first.group
  sharedKey := second.sharedKey.trans first.sharedKey
  client wcid client own := by
    obtain ⟨midClient, midOwn⟩ := second.client wcid client own
    exact first.client wcid midClient midOwn
  state wcid client own established := by
    obtain ⟨midClient, midOwn⟩ := second.client wcid client own
    rcases second.state wcid client own established with before | new
    · exact first.state wcid midClient midOwn before
    · exact .inr new

theorem KeepsBss.log (log : List WpaEvent) : KeepsBss fresh apidx pAd { pAd with log := log } :=
  ⟨rfl, rfl, rfl, rfl, rfl, fun _ client own => ⟨client, own⟩, fun _ _ _ => .inl⟩

/-- An entry is changed in place. -/
theorem KeepsBss.modify {change : WpaEntry → WpaEntry}
    (client : (change (pAd.content wcid)).isClient = true →
      (pAd.content wcid).isClient = true ∧
        (change (pAd.content wcid)).apidx = (pAd.content wcid).apidx)
    (state : (change (pAd.content wcid)).gtkState = .rekeyEstablished →
      (pAd.content wcid).gtkState = .rekeyEstablished ∨ fresh wcid) :
    KeepsBss fresh apidx pAd (pAd.modify wcid change) where
  opMode := rfl
  bssidNum := rfl
  maxMbssidNum := rfl
  group := rfl
  sharedKey := rfl
  client other isClient own := by
    by_cases same : other = wcid
    · subst same
      rw [WpaAdapter.modify_content] at isClient own
      obtain ⟨before, kept⟩ := client isClient
      exact ⟨before, kept.symm.trans own⟩
    · rw [WpaAdapter.modify_other _ _ same] at isClient own
      exact ⟨isClient, own⟩
  state other isClient own established := by
    by_cases same : other = wcid
    · subst same
      rw [WpaAdapter.modify_content] at established
      exact state established
    · rw [WpaAdapter.modify_other _ _ same] at established
      exact .inl established

/-- A change that leaves the group state alone. -/
theorem KeepsBss.modify_same {change : WpaEntry → WpaEntry}
    (entryType : (change (pAd.content wcid)).entryType = (pAd.content wcid).entryType)
    (own : (change (pAd.content wcid)).apidx = (pAd.content wcid).apidx)
    (state : (change (pAd.content wcid)).gtkState = (pAd.content wcid).gtkState) :
    KeepsBss fresh apidx pAd (pAd.modify wcid change) := by
  apply KeepsBss.modify
  · intro client
    unfold WpaEntry.isClient at client ⊢
    rw [entryType] at client
    exact ⟨client, own⟩
  · intro established
    rw [state] at established
    exact .inl established

end Kept

section Handlers

variable {crypto : KeyCrypto} {env : HandleEnv} {build : BuildEnv} {random : Bytes 32}
  {fresh : Wcid → Prop} {apidx : Nat} {pAd pAd' : WpaAdapter} {wcid : Wcid} {elem : EapolElem}

theorem keepsBss_addPmkid (entry : WpaEntry) (p : EapolPacket) :
    KeepsBss fresh apidx pAd (addPmkid pAd entry p).1 := by
  have group : groupPart ((addPmkid pAd entry p).1.mbssid apidx) =
      groupPart (pAd.mbssid apidx) := by
    unfold addPmkid
    split
    · by_cases own : apidx = entry.apidx
      · subst own
        change groupPart (Function.update pAd.mbssid entry.apidx _ entry.apidx) = _
        rw [Function.update_self]
        rfl
      · exact congrArg groupPart (Function.update_of_ne own ..)
    · rfl
  rw [addPmkid_frame]
  exact ⟨rfl, rfl, rfl, group, rfl, fun _ client own => ⟨client, own⟩, fun _ _ _ => .inl⟩

theorem keepsBss_start4Way (stepped : wpaStart4WayHs crypto build random pAd wcid = some pAd') :
    KeepsBss fresh apidx pAd pAd' := by
  obtain rfl | ⟨_, _, _, rfl | ⟨p, _, rfl⟩⟩ := wpaStart4WayHs_cases stepped
  · exact .refl ..
  · exact .modify_same rfl rfl rfl
  · have restarted : KeepsBss fresh apidx pAd (pAd.modify wcid (·.restart random)) :=
      .modify_same rfl rfl rfl
    have filled := restarted.trans (keepsBss_addPmkid (pAd.content wcid) p)
    exact (filled.trans (.modify_same rfl rfl rfl)).trans (.log _)

theorem keepsBss_start2Way (stepped : wpaStart2WayGroupHs crypto build pAd wcid = some pAd') :
    KeepsBss fresh apidx pAd pAd' := by
  obtain rfl | ⟨_, sent, _, rfl⟩ := wpaStart2WayGroupHs_cases stepped
  · exact .refl ..
  · have counted : KeepsBss fresh apidx pAd (pAd.modify wcid WpaEntry.countUp) :=
      .modify_same rfl rfl rfl
    exact counted.trans (.log _)

theorem keepsBss_pairwiseKey (bAE : Bool) :
    KeepsBss fresh apidx pAd (wpaInstallPairwiseKey pAd wcid bAE) := by
  rw [wpaInstallPairwiseKey_eq]
  have installed : KeepsBss fresh apidx pAd (pAd.modify wcid (WpaEntry.install bAE)) :=
    .modify_same rfl rfl rfl
  exact installed.trans (.log _)

theorem keepsBss_deAuth (memory : Bool) :
    KeepsBss fresh apidx pAd (mlmeDeAuthAction pAd wcid memory) := by
  unfold mlmeDeAuthAction
  split_ifs with memory
  · have cleared : KeepsBss fresh apidx pAd (pAd.modify wcid fun _ => WpaEntry.cleared) :=
      .modify nofun nofun
    exact ⟨rfl, rfl, rfl, rfl, rfl, cleared.client, cleared.state⟩
  · exact .refl ..

theorem keepsBss_retry {memory : Bool}
    (stepped : wpaRetryExec crypto build random memory pAd wcid = some pAd') :
    KeepsBss fresh apidx pAd pAd' := by
  have tried : KeepsBss fresh apidx pAd (pAd.modify wcid fun entry =>
      { entry with reTryCounter := entry.reTryCounter + 1 }) := .modify_same rfl rfl rfl
  unfold wpaRetryExec at stepped
  dsimp only at stepped
  split_ifs at stepped
  · obtain rfl := Option.some.inj stepped
    exact .refl ..
  · obtain rfl := Option.some.inj stepped
    exact tried
  · obtain rfl := Option.some.inj stepped
    exact tried.trans (keepsBss_deAuth memory)
  · exact tried.trans (keepsBss_start2Way stepped)
  · obtain rfl := Option.some.inj stepped
    exact tried
  · obtain rfl := Option.some.inj stepped
    exact tried.trans (keepsBss_deAuth memory)
  · exact tried.trans (keepsBss_start4Way stepped)
  · exact tried.trans (keepsBss_start4Way stepped)
  · obtain rfl := Option.some.inj stepped
    exact tried

theorem keepsBss_eapolStart {addr2 : Mgmt.MacAddr}
    (stepped : wpaEapolStartAction crypto build random pAd addr2 = some pAd') :
    KeepsBss fresh apidx pAd pAd' := by
  unfold wpaEapolStartAction at stepped
  split at stepped
  · obtain rfl := Option.some.inj stepped
    exact .refl ..
  next wcid found =>
    dsimp only at stepped
    split_ifs at stepped
    · have begun : KeepsBss fresh apidx pAd (pAd.modify wcid WpaEntry.initPsk) :=
        .modify_same rfl rfl rfl
      exact begun.trans (keepsBss_start4Way stepped)
    · obtain rfl := Option.some.inj stepped
      exact .refl ..

theorem keepsBss_pairMsg2 (stepped : peerPairMsg2Action crypto env pAd wcid elem = some pAd') :
    KeepsBss fresh apidx pAd pAd' := by
  have stored : KeepsBss fresh apidx pAd (pAd.modify wcid (storeSNonce crypto pAd elem.packet)) :=
    .modify_same rfl rfl rfl
  obtain rfl | ⟨_, _, rfl | ⟨_, _, rfl | ⟨p, _, rfl⟩⟩⟩ := peerPairMsg2Action_cases stepped
  · exact .refl ..
  · exact stored
  · exact stored.trans (.log _)
  · exact ((stored.trans (.log _)).trans (.modify_same rfl rfl rfl)).trans (.log _)

/-- With message 4 a station of WPA2 becomes established, and no other one. -/
theorem keepsBss_pairMsg4 (stepped : peerPairMsg4Action crypto env pAd wcid elem = some pAd')
    (establishes : (pAd.content wcid).wpa2 = true →
      (verdict crypto env (pAd.content wcid) elem.packet .pairMsg4).isSome = true → fresh wcid) :
    KeepsBss fresh apidx pAd pAd' := by
  have accepted : KeepsBss fresh apidx pAd (pAd.record (.accepted wcid .pairMsg4 elem.packet)) :=
    .log _
  have upgraded : KeepsBss fresh apidx pAd ((wpaInstallPairwiseKey
      (pAd.record (.accepted wcid .pairMsg4 elem.packet)) wcid true).modify wcid
        WpaEntry.upgrade) :=
    (accepted.trans (keepsBss_pairwiseKey true)).trans (.modify_same rfl rfl rfl)
  obtain rfl | ⟨_, _, passed, ⟨version, rfl⟩ | ⟨_, started, run, rfl⟩⟩ :=
    peerPairMsg4Action_cases stepped
  · exact .refl ..
  · have new : fresh wcid := by
      apply establishes version
      rw [passed]
      rfl
    apply upgraded.trans
    exact .modify (fun client => ⟨client, rfl⟩) (fun _ => .inr new)
  · exact (upgraded.trans (keepsBss_start2Way run)).trans (.modify_same rfl rfl rfl)

theorem keepsBss_groupMsg2 (stepped : peerGroupMsg2Action crypto env pAd wcid elem = some pAd')
    (establishes : (verdict crypto env (pAd.content wcid) elem.packet .groupMsg2).isSome = true →
      fresh wcid) : KeepsBss fresh apidx pAd pAd' := by
  have accepted : KeepsBss fresh apidx pAd (pAd.record (.accepted wcid .groupMsg2 elem.packet)) :=
    .log _
  obtain rfl | ⟨passed, rfl⟩ := peerGroupMsg2Action_cases stepped
  · exact .refl ..
  · have new : fresh wcid := by
      apply establishes
      rw [passed]
      rfl
    exact accepted.trans (.modify (fun client => ⟨client, rfl⟩) (fun _ => .inr new))

theorem keepsBss_pairwiseRequest (stepped : pairwiseRequest crypto env pAd wcid = some pAd') :
    KeepsBss fresh apidx pAd pAd' := by
  have restarted : KeepsBss fresh apidx pAd (pAd.modify wcid restartEntry) :=
    .modify (fun client => ⟨client, rfl⟩) nofun
  exact (restarted.trans (.log _)).trans (keepsBss_start4Way stepped)

end Handlers

section Renewal

variable {crypto : KeyCrypto} {env : HandleEnv} {fresh : Wcid → Prop} {apidx : Nat}
  {pAd pAd' : WpaAdapter} {wcid : Wcid}

/-- The stations that take part in a rekey of the BSS. -/
def takesPart (apidx : Nat) (entry : WpaEntry) : Prop :=
  entry.isClient = true ∧ entry.wpaState = .asPtkInitDone ∧ entry.apidx = apidx

/-- One entry may start to negotiate, which it does if it takes part. -/
structure Negotiates (apidx : Nat) (pAd : WpaAdapter) (wcid : Wcid) (pAd' : WpaAdapter) : Prop where
  kept : ∀ bss, KeepsBss noneFresh bss pAd pAd'
  others : ∀ other, other ≠ wcid → pAd'.content other = pAd.content other
  state : takesPart apidx (pAd.content wcid) → (pAd'.content wcid).gtkState = .rekeyNegotiating

theorem negotiateEntry_negotiates
    (stepped : negotiateEntry crypto env apidx pAd wcid = some pAd') :
    Negotiates apidx pAd wcid pAd' := by
  unfold negotiateEntry at stepped
  dsimp only at stepped
  split_ifs at stepped with part
  · have negotiating (bss : Nat) : KeepsBss noneFresh bss pAd
        (pAd.modify wcid fun entry => { entry with gtkState := .rekeyNegotiating }) :=
      .modify (fun client => ⟨client, rfl⟩) nofun
    refine ⟨fun bss => (negotiating bss).trans (keepsBss_start2Way stepped), ?_, ?_⟩
    · intro other apart
      obtain rfl | ⟨_, sent, _, rfl⟩ := wpaStart2WayGroupHs_cases stepped
      · exact WpaAdapter.modify_other _ _ apart
      · rw [WpaAdapter.recordSent_content, WpaAdapter.modify_other _ _ apart,
          WpaAdapter.modify_other _ _ apart]
    · intro _
      obtain rfl | ⟨_, sent, _, rfl⟩ := wpaStart2WayGroupHs_cases stepped
      · rw [WpaAdapter.modify_content]
      · rw [WpaAdapter.recordSent_content, WpaAdapter.modify_content, WpaAdapter.modify_content]
        rfl
  · obtain rfl := Option.some.inj stepped
    exact ⟨fun bss => .refl .., fun _ _ => rfl, fun takes => absurd takes part⟩

/-- A request starts the handshake of an entry as the timer does, and its retries with it. -/
theorem rekeyEntry_negotiates (stepped : rekeyEntry crypto env apidx pAd wcid = some pAd') :
    Negotiates apidx pAd wcid pAd' := by
  unfold rekeyEntry at stepped
  dsimp only at stepped
  split_ifs at stepped with part
  · obtain ⟨started, run, rfl⟩ := Option.map_eq_some_iff.mp stepped
    have began : negotiateEntry crypto env apidx pAd wcid = some started := by
      unfold negotiateEntry
      dsimp only
      rw [if_pos part]
      exact run
    have negotiates := negotiateEntry_negotiates began
    refine ⟨fun bss => (negotiates.kept bss).trans (.modify_same rfl rfl rfl), ?_, ?_⟩
    · intro other apart
      rw [WpaAdapter.modify_other _ _ apart]
      exact negotiates.others other apart
    · intro takes
      rw [WpaAdapter.modify_content]
      exact negotiates.state takes
  · obtain rfl := Option.some.inj stepped
    exact ⟨fun bss => .refl .., fun _ _ => rfl, fun takes => absurd takes part⟩

/-- All entries of a list that take part negotiate. -/
theorem foldlM_negotiates {start : WpaAdapter → Wcid → Option WpaAdapter}
    (one : ∀ pAd wcid pAd', start pAd wcid = some pAd' → Negotiates apidx pAd wcid pAd')
    (wcids : List Wcid) (once : wcids.Nodup) (stepped : wcids.foldlM start pAd = some pAd') :
    (∀ bss, KeepsBss noneFresh bss pAd pAd') ∧
      (∀ other, other ∉ wcids → pAd'.content other = pAd.content other) ∧
      ∀ wcid ∈ wcids, takesPart apidx (pAd.content wcid) →
        (pAd'.content wcid).gtkState = .rekeyNegotiating := by
  induction wcids generalizing pAd with
  | nil =>
    obtain rfl := Option.some.inj stepped
    exact ⟨fun bss => .refl .., fun _ _ => rfl, nofun⟩
  | cons first rest ih =>
    rw [List.foldlM_cons] at stepped
    obtain ⟨next, began, stepped⟩ := Option.bind_eq_some_iff.mp stepped
    obtain ⟨apart, once⟩ := List.nodup_cons.mp once
    have negotiates := one pAd first next began
    obtain ⟨kept, others, negotiating⟩ := ih once stepped
    refine ⟨fun bss => (negotiates.kept bss).trans (kept bss), ?_, ?_⟩
    · intro other outside
      rw [List.mem_cons, not_or] at outside
      rw [others other outside.2, negotiates.others other outside.1]
    · intro wcid among takes
      by_cases same : wcid = first
      · subst same
        rw [others wcid apart]
        exact negotiates.state takes
      · apply negotiating wcid ((List.mem_cons.mp among).resolve_left same)
        rw [negotiates.others wcid same]
        exact takes

end Renewal

section Invariant

variable {fresh : Wcid → Prop} {apidx : Nat} {pAd pAd' : WpaAdapter} {wcid : Wcid}
  {countDown next : Nat} {given : Wcid → Option (Nat × Bytes 32)}

/-- The key of a BSS is installed when no rekey is on its way, and its established stations have it.
-/
structure BssAgreed (pAd : WpaAdapter) (countDown : Nat) (given : Wcid → Option (Nat × Bytes 32))
    (apidx : Nat) : Prop where
  keyed : keysGroup (pAd.mbssid apidx) = true → ∀ gtk, (gtkKey pAd apidx gtk).isSome = true
  installed : keysGroup (pAd.mbssid apidx) = true → countDown = 0 →
    gtkKey pAd apidx (pAd.mbssid apidx).gtk = some (multicastKey pAd apidx)
  stations : ∀ wcid, Established pAd wcid → (pAd.content wcid).apidx = apidx →
    given wcid = some (bssGroupKey pAd apidx) ∧
      gtkKey pAd apidx (pAd.mbssid apidx).gtk = some (multicastKey pAd apidx)

namespace KeepsBss

variable (kept : KeepsBss fresh apidx pAd pAd')
include kept

theorem bssGroupKey_eq : bssGroupKey pAd' apidx = bssGroupKey pAd apidx :=
  congrArg (fun part => (part.1, part.2.1)) kept.group

theorem gtk_eq : (pAd'.mbssid apidx).gtk = (pAd.mbssid apidx).gtk :=
  congrArg (fun part => part.2.1) kept.group

theorem keysGroup_eq : keysGroup (pAd'.mbssid apidx) = keysGroup (pAd.mbssid apidx) := by
  have mode : (pAd'.mbssid apidx).authMode = (pAd.mbssid apidx).authMode :=
    congrArg (fun part => part.2.2.2) kept.group
  unfold keysGroup
  rw [mode]

theorem gtkKey_eq (gtk : Bytes 32) : gtkKey pAd' apidx gtk = gtkKey pAd apidx gtk := by
  have cipher : (pAd'.mbssid apidx).groupKeyWepStatus = (pAd.mbssid apidx).groupKeyWepStatus :=
    congrArg (fun part => part.2.2.1) kept.group
  unfold gtkKey installedSharedKey
  rw [cipher, kept.maxMbssidNum]

theorem multicastKey_eq : multicastKey pAd' apidx = multicastKey pAd apidx := by
  have index : (pAd'.mbssid apidx).defaultKeyId = (pAd.mbssid apidx).defaultKeyId :=
    congrArg Prod.fst kept.group
  unfold multicastKey
  rw [index, kept.sharedKey]

theorem established (now : Established pAd' wcid) (own : (pAd'.content wcid).apidx = apidx) :
    (pAd.content wcid).apidx = apidx ∧ keysGroup (pAd.mbssid apidx) = true ∧
      (Established pAd wcid ∨ fresh wcid) := by
  obtain ⟨client, state, among, keys⟩ := now
  obtain ⟨before, same⟩ := kept.client wcid client own
  rw [own, kept.keysGroup_eq] at keys
  rw [own, kept.bssidNum] at among
  refine ⟨same, keys, ?_⟩
  apply (kept.state wcid client own state).imp_left
  intro stateBefore
  refine ⟨before, stateBefore, ?_, ?_⟩
  · rw [same]
    exact among
  · rw [same]
    exact keys

/-- The invariant outlives a step that keeps the BSS, if the new stations are up to date. -/
theorem agreed (before : BssAgreed pAd countDown given apidx)
    (upToDate : ∀ wcid, fresh wcid → (pAd.content wcid).apidx = apidx →
      countDown = 0 ∧ given wcid = some (bssGroupKey pAd apidx)) :
    BssAgreed pAd' countDown given apidx where
  keyed keys gtk := by
    rw [kept.keysGroup_eq] at keys
    rw [kept.gtkKey_eq]
    exact before.keyed keys gtk
  installed keys quiet := by
    rw [kept.keysGroup_eq] at keys
    rw [kept.gtkKey_eq, kept.gtk_eq, kept.multicastKey_eq]
    exact before.installed keys quiet
  stations wcid now own := by
    obtain ⟨same, keys, old | new⟩ := kept.established now own
    · rw [kept.gtkKey_eq, kept.gtk_eq, kept.multicastKey_eq, kept.bssGroupKey_eq]
      exact before.stations wcid old same
    · obtain ⟨quiet, sent⟩ := upToDate wcid new same
      rw [kept.gtkKey_eq, kept.gtk_eq, kept.multicastKey_eq, kept.bssGroupKey_eq]
      exact ⟨sent, before.installed keys quiet⟩

end KeepsBss

theorem KeepsBss.agreed_noneFresh (kept : KeepsBss noneFresh apidx pAd pAd')
    (before : BssAgreed pAd countDown given apidx) : BssAgreed pAd' countDown given apidx :=
  kept.agreed before nofun

/-- A message with a group key gives the one that the BSS has. -/
theorem BssAgreed.give (agreed : BssAgreed pAd' countDown given apidx) :
    BssAgreed pAd' countDown (giveKeys pAd pAd' given) apidx where
  keyed := agreed.keyed
  installed := agreed.installed
  stations wcid now own := by
    obtain ⟨sent, installed⟩ := agreed.stations wcid now own
    refine ⟨?_, installed⟩
    unfold giveKeys
    split_ifs
    · rw [own]
    · exact sent

/-- A station that is not established may be forgotten. -/
theorem BssAgreed.forget (agreed : BssAgreed pAd countDown given apidx)
    (gone : ¬ Established pAd wcid) :
    BssAgreed pAd countDown (Function.update given wcid none) apidx where
  keyed := agreed.keyed
  installed := agreed.installed
  stations other now own := by
    have apart : other ≠ wcid := by
      rintro rfl
      exact gone now
    rw [Function.update_of_ne apart]
    exact agreed.stations other now own

section Install

/-- The slots of the other BSSs are left alone. -/
theorem keepsBss_install {bss : Nat} (apart : bss ≠ apidx) :
    KeepsBss noneFresh bss pAd (installGtk pAd apidx) := by
  have slot : (installGtk pAd apidx).sharedKey bss = pAd.sharedKey bss := by
    unfold installGtk wpaInstallSharedKey
    dsimp only
    split_ifs
    · rfl
    · split
      · exact Function.update_of_ne apart ..
      · split
        · exact Function.update_of_ne apart ..
        · exact Function.update_of_ne apart ..
  have frame := wpaInstallSharedKey_eq pAd (pAd.mbssid apidx).groupKeyWepStatus apidx
    (pAd.mbssid apidx).defaultKeyId true (fun i => (pAd.mbssid apidx).gtk.val.getD i 0) lenTkipGtk
  unfold installGtk at slot ⊢
  dsimp only at slot ⊢
  rw [frame] at slot ⊢
  exact ⟨rfl, rfl, rfl, rfl, slot, fun _ client own => ⟨client, own⟩, fun _ _ _ => .inl⟩

/-- The key of the BSS becomes the one in use. -/
theorem multicastKey_install {key : CipherKey}
    (made : gtkKey pAd apidx (pAd.mbssid apidx).gtk = some key) :
    multicastKey (installGtk pAd apidx) apidx = key := by
  unfold gtkKey installedSharedKey at made
  unfold multicastKey installGtk wpaInstallSharedKey
  dsimp only
  split_ifs at made ⊢
  obtain ⟨cipherAlg, cipher, built⟩ := Option.bind_eq_some_iff.mp made
  rw [cipher]
  dsimp only
  rw [built]
  dsimp only [WpaAdapter.record, WpaAdapter.setSharedKey]
  rw [Function.update_self, Function.update_self]

/-- With the installation the rekey is over. -/
theorem BssAgreed.install (agreed : BssAgreed pAd countDown given apidx) :
    BssAgreed (installGtk pAd apidx) next given apidx := by
  have frame := wpaInstallSharedKey_eq pAd (pAd.mbssid apidx).groupKeyWepStatus apidx
    (pAd.mbssid apidx).defaultKeyId true (fun i => (pAd.mbssid apidx).gtk.val.getD i 0) lenTkipGtk
  have frame : installGtk pAd apidx = { pAd with
      sharedKey := (installGtk pAd apidx).sharedKey, log := (installGtk pAd apidx).log } := by
    unfold installGtk
    dsimp only
    rw [frame]
  have same (gtk : Bytes 32) : gtkKey (installGtk pAd apidx) apidx gtk = gtkKey pAd apidx gtk := by
    rw [frame]
    rfl
  have mbssid : (installGtk pAd apidx).mbssid = pAd.mbssid := by rw [frame]
  have content : (installGtk pAd apidx).content = pAd.content := by rw [frame]
  have bssidNum : (installGtk pAd apidx).bssidNum = pAd.bssidNum := by rw [frame]
  have installed (keys : keysGroup (pAd.mbssid apidx) = true) :
      gtkKey pAd apidx (pAd.mbssid apidx).gtk = some (multicastKey (installGtk pAd apidx) apidx) := by
    obtain ⟨key, made⟩ := Option.isSome_iff_exists.mp (agreed.keyed keys (pAd.mbssid apidx).gtk)
    rw [multicastKey_install made]
    exact made
  constructor
  · intro keys gtk
    rw [mbssid] at keys
    rw [same]
    exact agreed.keyed keys gtk
  · intro keys _
    rw [mbssid] at keys ⊢
    rw [same]
    exact installed keys
  · intro wcid now own
    unfold Established at now
    rw [mbssid, content, bssidNum] at now
    rw [content] at own
    unfold bssGroupKey
    rw [mbssid, same]
    refine ⟨(agreed.stations wcid now own).1, installed ?_⟩
    rw [← own]
    exact now.2.2.2

theorem BssAgreed.countedDown {rekey : Rekey}
    (agreed : BssAgreed pAd rekey.rekeyCountDown given apidx) :
    BssAgreed (countDownRekey pAd rekey apidx).1
      (countDownRekey pAd rekey apidx).2.rekeyCountDown given apidx := by
  unfold countDownRekey
  split_ifs with running last
  · exact agreed.install
  · refine ⟨agreed.keyed, ?_, agreed.stations⟩
    intro _ ended
    change rekey.rekeyCountDown - 1 = 0 at ended
    omega
  · exact agreed

theorem keepsBss_countDown {bss : Nat} {rekey : Rekey} (apart : bss ≠ apidx) :
    KeepsBss noneFresh bss pAd (countDownRekey pAd rekey apidx).1 := by
  unfold countDownRekey
  split_ifs
  · exact keepsBss_install apart
  · exact .refl ..
  · exact .refl ..

end Install

section Renewed

variable {crypto : KeyCrypto} {env : HandleEnv}
  {start : WpaAdapter → Wcid → Option WpaAdapter}

/-- A BSS with a new key has no established stations left, if they all took part. -/
theorem BssAgreed.renew (agreed : BssAgreed pAd countDown given apidx)
    (one : ∀ pAd wcid pAd', start pAd wcid = some pAd' → Negotiates apidx pAd wcid pAd')
    (done : AllDone pAd apidx) {random : Bytes 32}
    (stepped : (List.finRange maxLenOfMacTable).foldlM start
      (pAd.setMbss apidx (renewGroupKey crypto random (pAd.mbssid apidx))) = some pAd') :
    BssAgreed pAd' 3 given apidx := by
  have own : (pAd.setMbss apidx (renewGroupKey crypto random (pAd.mbssid apidx))).mbssid apidx =
      renewGroupKey crypto random (pAd.mbssid apidx) := Function.update_self ..
  have renewed : ∀ gtk, gtkKey (pAd.setMbss apidx
      (renewGroupKey crypto random (pAd.mbssid apidx))) apidx gtk = gtkKey pAd apidx gtk := by
    intro gtk
    unfold gtkKey
    rw [own]
    rfl
  obtain ⟨kept, _, negotiating⟩ := foldlM_negotiates one _ (List.nodup_finRange _) stepped
  have keys : keysGroup (pAd'.mbssid apidx) = keysGroup (pAd.mbssid apidx) := by
    rw [(kept apidx).keysGroup_eq, own]
    rfl
  refine ⟨?_, nofun, ?_⟩
  · intro group gtk
    rw [keys] at group
    rw [(kept apidx).gtkKey_eq, renewed]
    exact agreed.keyed group gtk
  · intro wcid now inBss
    obtain ⟨same, group, old | new⟩ := (kept apidx).established now inBss
    · obtain ⟨client, state, among, _⟩ := old
      have before : Established pAd wcid := by
        refine ⟨client, state, among, ?_⟩
        rw [show (pAd.content wcid).apidx = apidx from same]
        rw [own] at group
        exact group
      have took : takesPart apidx (pAd.content wcid) := ⟨client, done wcid before same, same⟩
      have state := negotiating wcid (List.mem_finRange wcid) took
      rw [now.2.1] at state
      cases state
    · exact new.elim

/-- The key that the BSS has then is the new one. -/
theorem groupPart_renew
    (one : ∀ pAd wcid pAd', start pAd wcid = some pAd' → Negotiates apidx pAd wcid pAd')
    {mbss : Mbss} (stepped : (List.finRange maxLenOfMacTable).foldlM start
      (pAd.setMbss apidx mbss) = some pAd') :
    groupPart (pAd'.mbssid apidx) = groupPart mbss := by
  have own : (pAd.setMbss apidx mbss).mbssid apidx = mbss := Function.update_self ..
  rw [((foldlM_negotiates one _ (List.nodup_finRange _) stepped).1 apidx).group, own]

/-- The other BSSs do not notice a rekey. -/
theorem keepsBss_renew {bss : Nat} (apart : bss ≠ apidx)
    (one : ∀ pAd wcid pAd', start pAd wcid = some pAd' → Negotiates apidx pAd wcid pAd')
    {mbss : Mbss}
    (stepped : (List.finRange maxLenOfMacTable).foldlM start (pAd.setMbss apidx mbss) =
      some pAd') : KeepsBss noneFresh bss pAd pAd' := by
  have other : groupPart ((pAd.setMbss apidx mbss).mbssid bss) = groupPart (pAd.mbssid bss) :=
    congrArg groupPart (Function.update_of_ne apart ..)
  have set : KeepsBss noneFresh bss pAd (pAd.setMbss apidx mbss) :=
    ⟨rfl, rfl, rfl, other, rfl, fun _ client own => ⟨client, own⟩, fun _ _ _ => .inl⟩
  exact set.trans ((foldlM_negotiates one _ (List.nodup_finRange _) stepped).1 bss)

end Renewed

end Invariant

end Mt7612u.Wpa
