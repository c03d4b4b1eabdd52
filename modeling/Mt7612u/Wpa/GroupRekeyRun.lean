import Mt7612u.Wpa.GroupKept

/-! What the group key of a BSS is under every order of rekeys, handshakes, joins and departures. -/

namespace Mt7612u.Wpa
open BlockAck (Wcid maxLenOfMacTable)
open Library.Run

section Run

variable {crypto : KeyCrypto} {env : HandleEnv} {apidx : Nat} {pAd pAd' : WpaAdapter}
  {ap ap' : GroupAp}

/-- Every BSS is as it should be. -/
structure Agreed (ap : GroupAp) : Prop where
  opMode : ap.pAd.opMode = .ap
  bss : ∀ apidx, apidx < ap.pAd.bssidNum →
    BssAgreed ap.pAd (ap.rekey apidx).rekeyCountDown ap.given apidx

theorem Agreed.groupKeyAgreed (agreed : Agreed ap) : GroupKeyAgreed ap := by
  intro wcid established _
  obtain ⟨sent, installed⟩ := (agreed.bss _ established.2.2.1).stations wcid established rfl
  exact ⟨_, sent, installed⟩

/-- A cipher that makes one group key makes any. -/
theorem gtkKey_isSome (gtk other : Bytes 32) :
    (gtkKey pAd apidx gtk).isSome = (gtkKey pAd apidx other).isSome := by
  unfold gtkKey installedSharedKey
  split_ifs
  · rfl
  · cases (pAd.mbssid apidx).groupKeyWepStatus <;> rfl

theorem Started.agreed (started : Started ap) : Agreed ap where
  opMode := started.opMode
  bss apidx among := by
    constructor
    · intro keys gtk
      rw [gtkKey_isSome gtk (ap.pAd.mbssid apidx).gtk, started.installed apidx among keys]
      rfl
    · intro keys _
      exact started.installed apidx among keys
    · intro wcid established _
      exact absurd established (started.quiet wcid)

/-- An AP none of whose stations becomes established but those that are up to date. -/
theorem Agreed.move {fresh : Wcid → Prop} (agreed : Agreed ap)
    (kept : ∀ bss, KeepsBss fresh bss ap.pAd pAd') (upToDate : ∀ wcid, fresh wcid → UpToDate ap wcid) :
    Agreed (ap.move pAd') where
  opMode := (kept 0).opMode.trans agreed.opMode
  bss apidx among := by
    change apidx < pAd'.bssidNum at among
    rw [(kept apidx).bssidNum] at among
    apply BssAgreed.give
    apply (kept apidx).agreed (agreed.bss apidx among)
    rintro wcid new rfl
    exact upToDate wcid new

section Tick

variable {rekey rekey' : Rekey}

/-- When the timer goes off, the countdown goes on, with a new key before it where one is due. -/
theorem greKeyPeriodicExec_cases
    (stepped : greKeyPeriodicExec crypto env pAd rekey apidx = some (pAd', rekey')) :
    (pAd', rekey') = (pAd, rekey) ∨ ∃ counted updated,
      (pAd', rekey') = countDownRekey updated counted apidx ∧
      (updated = pAd ∧ counted.rekeyCountDown = rekey.rekeyCountDown ∨
        rekeyDue rekey = true ∧ counted.rekeyCountDown = 3 ∧
          updateGroupKey crypto env pAd apidx = some updated) := by
  have kept : ∀ counted ∈ rekey.count, counted.2.rekeyCountDown = rekey.rekeyCountDown := by
    unfold Rekey.count
    split_ifs <;> rintro _ ⟨⟩ <;> rfl
  unfold greKeyPeriodicExec at stepped
  split_ifs at stepped
  · exact .inl (Option.some.inj stepped).symm
  · exact .inl (Option.some.inj stepped).symm
  · cases found : rekey.count with
    | none =>
      rw [found] at stepped
      exact .inl (Option.some.inj stepped).symm
    | some counted =>
      rw [found] at stepped
      dsimp only at stepped
      split_ifs at stepped with due
      · obtain ⟨updated, run, result⟩ := Option.map_eq_some_iff.mp stepped
        refine .inr ⟨_, updated, result.symm, .inr ⟨?_, rfl, run⟩⟩
        unfold rekeyDue
        rw [found]
        exact decide_eq_true due
      · exact .inr ⟨counted.2, pAd, (Option.some.inj stepped).symm, .inl ⟨rfl, kept counted found⟩⟩

/-- A new group key, if there are stations to take it. -/
theorem BssAgreed.update {countDown : Nat} {given : Wcid → Option (Nat × Bytes 32)}
    (agreed : BssAgreed pAd countDown given apidx) (done : AllDone pAd apidx)
    (stepped : updateGroupKey crypto env pAd apidx = some pAd') :
    BssAgreed pAd' 3 given apidx := by
  unfold updateGroupKey at stepped
  split_ifs at stepped
  · exact agreed.renew (fun _ _ _ => negotiateEntry_negotiates) done stepped
  · obtain rfl := Option.some.inj stepped
    exact ⟨agreed.keyed, nofun, agreed.stations⟩

theorem keepsBss_update {bss : Nat} (apart : bss ≠ apidx)
    (stepped : updateGroupKey crypto env pAd apidx = some pAd') :
    KeepsBss noneFresh bss pAd pAd' := by
  unfold updateGroupKey at stepped
  split_ifs at stepped
  · exact keepsBss_renew apart (fun _ _ _ => negotiateEntry_negotiates) stepped
  · obtain rfl := Option.some.inj stepped
    exact .refl ..

theorem BssAgreed.tick {given : Wcid → Option (Nat × Bytes 32)}
    (agreed : BssAgreed pAd rekey.rekeyCountDown given apidx)
    (done : rekeyDue rekey = true → AllDone pAd apidx)
    (stepped : greKeyPeriodicExec crypto env pAd rekey apidx = some (pAd', rekey')) :
    BssAgreed pAd' rekey'.rekeyCountDown given apidx := by
  obtain same | ⟨counted, updated, result, step⟩ := greKeyPeriodicExec_cases stepped
  · obtain ⟨rfl, rfl⟩ := Prod.mk.inj same
    exact agreed
  · have before : BssAgreed updated counted.rekeyCountDown given apidx := by
      obtain ⟨rfl, countDown⟩ | ⟨due, countDown, run⟩ := step
      · rw [countDown]
        exact agreed
      · rw [countDown]
        exact agreed.update (done due) run
    have after := before.countedDown
    rw [← result] at after
    exact after

theorem keepsBss_tick {bss : Nat} (apart : bss ≠ apidx)
    (stepped : greKeyPeriodicExec crypto env pAd rekey apidx = some (pAd', rekey')) :
    KeepsBss noneFresh bss pAd pAd' := by
  obtain same | ⟨counted, updated, result, step⟩ := greKeyPeriodicExec_cases stepped
  · obtain ⟨rfl, rfl⟩ := Prod.mk.inj same
    exact .refl ..
  · have before : KeepsBss noneFresh bss pAd updated := by
      obtain ⟨rfl, _⟩ | ⟨_, _, run⟩ := step
      · exact .refl ..
      · exact keepsBss_update apart run
    have last : KeepsBss noneFresh bss updated (countDownRekey updated counted apidx).1 :=
      keepsBss_countDown apart
    rw [← result] at last
    exact before.trans last

end Tick

section Frame

variable {elem : EapolElem} {wcid : Wcid}

/-- The station that becomes established with a frame. -/
def BecomesEstablished (crypto : KeyCrypto) (env : HandleEnv) (pAd : WpaAdapter)
    (elem : EapolElem) (wcid : Wcid) : Prop :=
  wcid ∈ pAd.macTableLookup elem.addr2 ∧ admits (pAd.content wcid) elem = true ∧
    ∃ msgType ∈ establishingMsg (pAd.content wcid) elem.packet.branch,
      (verdict crypto env (pAd.content wcid) elem.packet msgType).isSome = true

/-- A frame keeps every BSS, unless it is a request for a new group key. -/
theorem eapolKeyAction_keeps (authenticator : pAd.opMode = .ap)
    (stepped : wpaEapolKeyAction crypto env pAd elem = some pAd') :
    (∃ wcid ∈ pAd.macTableLookup elem.addr2, admits (pAd.content wcid) elem = true ∧
      elem.packet.branch = .groupRequest ∧
      groupRequest crypto env pAd (pAd.content wcid).apidx = some pAd') ∨
    ∀ bss, KeepsBss (BecomesEstablished crypto env pAd elem) bss pAd pAd' := by
  have notStation : pAd.opMode ≠ .sta := by
    rw [authenticator]
    decide
  unfold wpaEapolKeyAction at stepped
  cases found : pAd.macTableLookup elem.addr2 with
  | none =>
    rw [found] at stepped
    obtain rfl := Option.some.inj stepped
    exact .inr fun bss => .refl ..
  | some wcid =>
    rw [found] at stepped
    dsimp only at stepped
    split_ifs at stepped with admitted
    · cases branch : elem.packet.branch with
      | groupRequest =>
        rw [branch] at stepped
        exact .inl ⟨wcid, rfl, admitted, rfl, stepped⟩
      | pairMsg1 =>
        rw [branch] at stepped
        obtain rfl | ⟨station, _⟩ := peerPairMsg1Action_cases stepped
        · exact .inr fun bss => .refl ..
        · exact absurd station notStation
      | pairMsg3 =>
        rw [branch] at stepped
        obtain rfl | ⟨station, _⟩ := peerPairMsg3Action_cases stepped
        · exact .inr fun bss => .refl ..
        · exact absurd station notStation
      | groupMsg1 =>
        rw [branch] at stepped
        obtain rfl | ⟨station, _⟩ := peerGroupMsg1Action_cases stepped
        · exact .inr fun bss => .refl ..
        · exact absurd station notStation
      | counterMeasure =>
        rw [branch] at stepped
        obtain rfl := Option.some.inj stepped
        exact .inr fun bss => .log _
      | pairMsg2 =>
        rw [branch] at stepped
        exact .inr fun bss => keepsBss_pairMsg2 stepped
      | pairMsg4 =>
        rw [branch] at stepped
        refine .inr fun bss => keepsBss_pairMsg4 stepped ?_
        intro version passed
        refine ⟨found, admitted, .pairMsg4, ?_, passed⟩
        rw [branch]
        exact if_pos version
      | groupMsg2 =>
        rw [branch] at stepped
        refine .inr fun bss => keepsBss_groupMsg2 stepped ?_
        intro passed
        refine ⟨found, admitted, .groupMsg2, ?_, passed⟩
        rw [branch]
        rfl
      | pairwiseRequest =>
        rw [branch] at stepped
        exact .inr fun bss => keepsBss_pairwiseRequest stepped
      | ignored =>
        rw [branch] at stepped
        obtain rfl := Option.some.inj stepped
        exact .inr fun bss => .refl ..
    · obtain rfl := Option.some.inj stepped
      exact .inr fun bss => .refl ..

/-- A request is a rekey whose key is installed at once. -/
theorem groupRequest_rekeys (stepped : groupRequest crypto env pAd apidx = some pAd') :
    ∃ rekeyed, (List.finRange maxLenOfMacTable).foldlM (rekeyEntry crypto env apidx)
        (pAd.setMbss apidx (renewGroupKey crypto env.random (pAd.mbssid apidx))) = some rekeyed ∧
      pAd' = installGtk rekeyed apidx := by
  obtain ⟨rekeyed, run, result⟩ := Option.map_eq_some_iff.mp stepped
  have same := groupPart_renew (fun _ _ _ => rekeyEntry_negotiates) run
  have index := congrArg (fun part => part.1) same
  have gtk := congrArg (fun part => part.2.1) same
  have cipher := congrArg (fun part => part.2.2.1) same
  dsimp only [groupPart] at index gtk cipher
  refine ⟨rekeyed, run, ?_⟩
  unfold installGtk
  dsimp only
  rw [index, gtk, cipher]
  exact result.symm

/-- A station may ask for a new group key when all established ones are done. -/
theorem Agreed.request (agreed : Agreed ap) (done : AllDone ap.pAd apidx)
    (stepped : groupRequest crypto env ap.pAd apidx = some pAd') : Agreed (ap.move pAd') := by
  obtain ⟨rekeyed, run, rfl⟩ := groupRequest_rekeys stepped
  have keeps (bss : Nat) (apart : bss ≠ apidx) :
      KeepsBss noneFresh bss ap.pAd (installGtk rekeyed apidx) :=
    (keepsBss_renew apart (fun _ _ _ => rekeyEntry_negotiates) run).trans (keepsBss_install apart)
  have elsewhere := keeps (apidx + 1) (by omega)
  constructor
  · exact elsewhere.opMode.trans agreed.opMode
  · intro bss among
    change bss < (installGtk rekeyed apidx).bssidNum at among
    rw [elsewhere.bssidNum] at among
    apply BssAgreed.give
    by_cases own : bss = apidx
    · subst own
      exact ((agreed.bss bss among).renew (fun _ _ _ => rekeyEntry_negotiates) done run).install
    · exact (keeps bss own).agreed_noneFresh (agreed.bss bss among)

end Frame

section Stations

variable {wcid : Wcid} {entry : WpaEntry}

/-- A station that joins is not established. -/
theorem Agreed.join (agreed : Agreed ap) : Agreed { ap with
    pAd := insertStation ap.pAd wcid entry, given := Function.update ap.given wcid none } := by
  have joined : ¬ Established (insertStation ap.pAd wcid entry) wcid := by
    intro established
    have state := established.2.1
    dsimp only [insertStation] at state
    rw [WpaAdapter.setEntry_content] at state
    cases state
  refine ⟨agreed.opMode, ?_⟩
  intro apidx among
  have before := agreed.bss apidx among
  apply BssAgreed.forget _ joined
  refine ⟨before.keyed, before.installed, ?_⟩
  intro other established own
  have apart : other ≠ wcid := by
    rintro rfl
    exact joined established
  have same : (insertStation ap.pAd wcid entry).content other = ap.pAd.content other :=
    WpaAdapter.setEntry_other _ _ apart
  unfold Established at established
  rw [same] at established own
  exact before.stations other established own

theorem Agreed.depart (agreed : Agreed ap) : Agreed { ap with
    pAd := mlmeDeAuthAction ap.pAd wcid true, given := Function.update ap.given wcid none } := by
  have kept (bss : Nat) : KeepsBss noneFresh bss ap.pAd (mlmeDeAuthAction ap.pAd wcid true) :=
    keepsBss_deAuth true
  have gone : ¬ Established (mlmeDeAuthAction ap.pAd wcid true) wcid := by
    intro established
    have client := established.1
    unfold mlmeDeAuthAction at client
    rw [if_pos rfl] at client
    dsimp only at client
    rw [WpaAdapter.setEntry_content] at client
    cases client
  refine ⟨(kept 0).opMode.trans agreed.opMode, ?_⟩
  intro apidx among
  apply BssAgreed.forget _ gone
  exact (kept apidx).agreed_noneFresh (agreed.bss apidx among)

theorem Agreed.multicast (agreed : Agreed ap) (srcBufLen : Nat) : Agreed { ap with
    rekey := countMulticast ap.pAd.bssidNum srcBufLen ap.rekey } where
  opMode := agreed.opMode
  bss apidx among := by
    have same : (countMulticast ap.pAd.bssidNum srcBufLen ap.rekey apidx).rekeyCountDown =
        (ap.rekey apidx).rekeyCountDown := by
      unfold countMulticast
      split_ifs <;> rfl
    change BssAgreed ap.pAd (countMulticast _ _ _ apidx).rekeyCountDown ap.given apidx
    rw [same]
    exact agreed.bss apidx among

end Stations

/-- One event keeps every BSS as it should be. -/
theorem Agreed.step (agreed : Agreed ap) (event : GroupEvent)
    (keeps : KeepsUpToDate crypto ap event) (stepped : groupStep crypto ap event = some ap') :
    Agreed ap' := by
  cases event with
  | tick apidx env =>
    obtain ⟨next, run, rfl⟩ := Option.map_eq_some_iff.mp stepped
    have elsewhere : KeepsBss noneFresh (apidx + 1) ap.pAd next.1 :=
      keepsBss_tick (by omega) run
    constructor
    · exact elsewhere.opMode.trans agreed.opMode
    · intro bss among
      change bss < next.1.bssidNum at among
      rw [elsewhere.bssidNum] at among
      apply BssAgreed.give
      dsimp only
      by_cases own : bss = apidx
      · subst own
        rw [Function.update_self]
        exact (agreed.bss bss among).tick keeps run
      · rw [Function.update_of_ne own]
        exact (keepsBss_tick own run).agreed_noneFresh (agreed.bss bss among)
  | frame elem env =>
    obtain ⟨pAd', run, rfl⟩ := Option.map_eq_some_iff.mp stepped
    obtain ⟨wcid, found, admitted, branch, request⟩ | kept :=
      eapolKeyAction_keeps agreed.opMode run
    · exact agreed.request ((keeps wcid found admitted).1 branch) request
    · apply agreed.move kept
      rintro wcid ⟨found, admitted, msgType, establishing, passed⟩
      exact (keeps wcid found admitted).2 msgType establishing passed
  | retry wcid env random memory =>
    obtain ⟨pAd', run, rfl⟩ := Option.map_eq_some_iff.mp stepped
    have kept (bss : Nat) : KeepsBss noneFresh bss ap.pAd pAd' := keepsBss_retry run
    exact agreed.move kept nofun
  | eapolStart addr2 env random =>
    obtain ⟨pAd', run, rfl⟩ := Option.map_eq_some_iff.mp stepped
    have kept (bss : Nat) : KeepsBss noneFresh bss ap.pAd pAd' := keepsBss_eapolStart run
    exact agreed.move kept nofun
  | join wcid entry =>
    obtain rfl := Option.some.inj stepped
    exact agreed.join
  | depart wcid =>
    obtain rfl := Option.some.inj stepped
    exact agreed.depart
  | multicast srcBufLen =>
    obtain rfl := Option.some.inj stepped
    exact agreed.multicast srcBufLen

/-- Along a run in which a rekey finds each established station done, and a station becomes
established only when it is up to date, no established station hears frames to the group under a
key that it was not given. -/
theorem groupKeyAgreed_run (crypto : KeyCrypto) (ap ap' : GroupAp) (events : List GroupEvent)
    (started : Started ap)
    (keeps : ThroughoutOption (groupStep crypto) (KeepsUpToDate crypto) ap events)
    (ends : runOption (groupStep crypto) ap events = some ap') : GroupKeyAgreed ap' := by
  have agreed : Agreed ap' :=
    runOption_invariant Agreed (fun _ event _ agreed keeps stepped => agreed.step event keeps stepped)
      started.agreed events keeps ends
  exact agreed.groupKeyAgreed

end Run

section Example

instance (crypto : KeyCrypto) (ap : GroupAp) (event : GroupEvent) :
    Decidable (KeepsUpToDate crypto ap event) :=
  match event with
  | .tick .. => inferInstanceAs (Decidable (_ → _))
  | .frame elem env => inferInstanceAs (Decidable (∀ wcid ∈ ap.pAd.macTableLookup elem.addr2,
      admits (ap.pAd.content wcid) elem = true →
      (elem.packet.branch = .groupRequest → AllDone ap.pAd (ap.pAd.content wcid).apidx) ∧
      ∀ msgType ∈ establishingMsg (ap.pAd.content wcid) elem.packet.branch,
        (verdict crypto env (ap.pAd.content wcid) elem.packet msgType).isSome = true →
          UpToDate ap wcid))
  | .retry .. => inferInstanceAs (Decidable True)
  | .eapolStart .. => inferInstanceAs (Decidable True)
  | .join .. => inferInstanceAs (Decidable True)
  | .depart .. => inferInstanceAs (Decidable True)
  | .multicast .. => inferInstanceAs (Decidable True)

/-- Functions that all give zeros, but for a GTK that is its nonce. -/
def nonceCrypto : KeyCrypto := { zeroCrypto with wpaDeriveGtk := fun _ gNonce _ => gNonce }

/-- An AP with no stations, that rekeys every eleventh time its timer goes off. -/
def startedAp : GroupAp where
  pAd := { newStation with
    opMode := .ap
    content := fun _ => .cleared
    macTableLookup := fun _ => none
    sharedKey := fun _ keyIdx => if keyIdx = 1 then zeroAesKey else .zero }
  rekey _ := ⟨timeRekey, 10, 0, 0, true⟩
  given _ := none

/-- A frame of a station with nothing but a counter. -/
def keyFrame (msgType : MsgType) (counter : UInt8) : GroupEvent :=
  .frame ⟨fun _ => 0,
    { initialMsg .ready .aesEnable msgType 0 with
      replayCounter := Bytes.ofList 8 [0, 0, 0, 0, 0, 0, 0, counter]
      keyDataLen := if msgType = .pairMsg2 then 22 else 0 }, 153⟩ fullEnv

def ticks (count : Nat) (env : HandleEnv) : List GroupEvent := List.replicate count (.tick 0 env)

/-- A station joins and goes through its handshake. -/
def oneStation : List GroupEvent :=
  [.join Transmit.bssidWcid .ready,
    .eapolStart (fun _ => 0) (fullEnv.build Transmit.bssidWcid) (Bytes.zero 32),
    keyFrame .pairMsg2 1, keyFrame .pairMsg4 2]

def onesEnv : HandleEnv := { fullEnv with random := Bytes.ofList 32 (List.replicate 32 1) }

theorem started_startedAp : Started startedAp where
  opMode := rfl
  installed apidx among _ := by
    obtain rfl : apidx = 0 := Nat.lt_one_iff.mp among
    decide +kernel
  quiet _ established := by
    have client := established.1
    cases client

/-- The station answers a rekey once its key is installed. -/
theorem groupKeyAgreed_run_oneRekey :
    ∃ ap', runOption (groupStep nonceCrypto) startedAp
        (oneStation ++ ticks 13 onesEnv ++ [keyFrame .groupMsg2 3]) = some ap' ∧
      GroupKeyAgreed ap' := by
  have runs : (runOption (groupStep nonceCrypto) startedAp
      (oneStation ++ ticks 13 onesEnv ++ [keyFrame .groupMsg2 3])).isSome = true := by
    decide +kernel
  obtain ⟨ap', ends⟩ := Option.isSome_iff_exists.mp runs
  exact ⟨ap', ends, groupKeyAgreed_run nonceCrypto startedAp ap' _ started_startedAp
    (by decide +kernel) ends⟩

/-- Two rekeys, of which the station answers the second one before its key is installed. -/
def earlyAnswer : List GroupEvent :=
  oneStation ++ ticks 11 fullEnv ++ ticks 11 onesEnv ++ [keyFrame .groupMsg2 4]

/-- Frames to the group are encrypted under the key that the AP was started with, and the station was
given another one under the same index. -/
theorem earlyAnswer_disagrees :
    ∃ ap', Started startedAp ∧
      runOption (groupStep nonceCrypto) startedAp earlyAnswer = some ap' ∧
      ¬ GroupKeyAgreed ap' := by
  have ended : (runOption (groupStep nonceCrypto) startedAp earlyAnswer).map (fun ap' =>
      decide (Established ap'.pAd Transmit.bssidWcid ∧
        multicastKey ap'.pAd (ap'.pAd.content Transmit.bssidWcid).apidx = zeroAesKey ∧
        ((ap'.given Transmit.bssidWcid).all fun given =>
          gtkKey ap'.pAd (ap'.pAd.content Transmit.bssidWcid).apidx given.2 ≠
            some zeroAesKey) = true)) = some true := by
    decide +kernel
  obtain ⟨ap', ends, holds⟩ := Option.map_eq_some_iff.mp ended
  obtain ⟨established, inUse, other⟩ := of_decide_eq_true holds
  refine ⟨ap', started_startedAp, ends, ?_⟩
  intro agreed
  have encrypted : (multicastKey ap'.pAd
      (ap'.pAd.content Transmit.bssidWcid).apidx).cipherAlg ≠ .none := by
    rw [inUse]
    decide
  obtain ⟨gtk, given, made⟩ := agreed Transmit.bssidWcid established encrypted
  rw [given, Option.all_some] at other
  rw [inUse] at made
  exact of_decide_eq_true other made

end Example

end Mt7612u.Wpa
