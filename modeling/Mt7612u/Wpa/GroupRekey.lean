import Mt7612u.Wpa.Reinstall

/-! The rekeying of the group key of a BSS: `GREKEYPeriodicExec`, beside the group handshakes and the
stations that come and go. -/

namespace Mt7612u.Wpa
open BlockAck (Wcid maxLenOfMacTable)
open Library.Run
open Mgmt (MacAddr)
open Transmit (AuthMode)

/-- `TIME_REKEY` and `PKT_REKEY`. -/
def timeRekey : Nat := 0
def pktRekey : Nat := 1

/-- What a `MULTISSID_STRUCT` holds for the timer. -/
structure Rekey where
  reKeyMethod : Nat
  reKeyInterval : Nat
  rekeyCounter : Nat
  rekeyCountDown : Nat
  rekeyTimerRunning : Bool

/-- An AP, and the index and the GTK of the last message with a group key that each station was
sent. -/
structure GroupAp where
  pAd : WpaAdapter
  rekey : Nat → Rekey
  given : Wcid → Option (Nat × Bytes 32)

section Periodic

/-- `temp_counter`; `none` where the timer does nothing. -/
def Rekey.count (rekey : Rekey) : Option (Nat × Rekey) :=
  if rekey.reKeyMethod = timeRekey ∧ rekey.rekeyCounter < 0xffffffff then
    some (rekey.rekeyCounter + 1, { rekey with rekeyCounter := rekey.rekeyCounter + 1 })
  else if rekey.reKeyMethod = pktRekey then some (rekey.rekeyCounter / 1000, rekey)
  else none

/-- The modes with a group key handshake. -/
def keysGroup (mbss : Mbss) : Bool :=
  decide (AuthMode.wpa.toNat ≤ mbss.authMode.toNat) &&
    decide (mbss.authMode.toNat ≤ AuthMode.wpa1PskWpa2Psk.toNat)

/-- `StaCount`, which is counted up and down with the entries of the BSS. -/
def staCount (pAd : WpaAdapter) (apidx : Nat) : Nat :=
  (List.finRange maxLenOfMacTable).countP fun wcid =>
    (pAd.content wcid).isClient && (pAd.content wcid).apidx == apidx

/-- "Process 2-way handshaking", with one entry of the table. -/
def negotiateEntry (crypto : KeyCrypto) (env : HandleEnv) (apidx : Nat) (pAd : WpaAdapter)
    (wcid : Wcid) : Option WpaAdapter :=
  let entry := pAd.content wcid
  if entry.isClient ∧ entry.wpaState = .asPtkInitDone ∧ entry.apidx = apidx then
    wpaStart2WayGroupHs crypto (env.build wcid)
      (pAd.modify wcid fun entry => { entry with gtkState := .rekeyNegotiating }) wcid
  else some pAd

/-- "take turn updating different groupkey index": a new GTK, and a handshake with each station that
has a pairwise key. -/
def updateGroupKey (crypto : KeyCrypto) (env : HandleEnv) (pAd : WpaAdapter) (apidx : Nat) :
    Option WpaAdapter :=
  if 0 < staCount pAd apidx then
    (List.finRange maxLenOfMacTable).foldlM (negotiateEntry crypto env apidx)
      (pAd.setMbss apidx (renewGroupKey crypto env.random (pAd.mbssid apidx)))
  else some pAd

/-- The key of a BSS goes to the chip. -/
def installGtk (pAd : WpaAdapter) (apidx : Nat) : WpaAdapter :=
  let mbss := pAd.mbssid apidx
  wpaInstallSharedKey pAd mbss.groupKeyWepStatus apidx mbss.defaultKeyId true
    (fun i => mbss.gtk.val.getD i 0) lenTkipGtk

/-- "Use countdown to ensure the 2-way handshaking had completed". -/
def countDownRekey (pAd : WpaAdapter) (rekey : Rekey) (apidx : Nat) : WpaAdapter × Rekey :=
  if 0 < rekey.rekeyCountDown then
    (if rekey.rekeyCountDown = 1 then installGtk pAd apidx else pAd,
      { rekey with rekeyCountDown := rekey.rekeyCountDown - 1 })
  else (pAd, rekey)

/-- `GREKEYPeriodicExec`, when the timer of a BSS goes off. -/
def greKeyPeriodicExec (crypto : KeyCrypto) (env : HandleEnv) (pAd : WpaAdapter) (rekey : Rekey)
    (apidx : Nat) : Option (WpaAdapter × Rekey) :=
  if pAd.bssidNum ≤ apidx then some (pAd, rekey)
  else if !keysGroup (pAd.mbssid apidx) then some (pAd, rekey)
  else match rekey.count with
    | none => some (pAd, rekey)
    | some (tempCounter, counted) =>
      if counted.reKeyInterval < tempCounter then
        (updateGroupKey crypto env pAd apidx).map fun updated =>
          countDownRekey updated { counted with rekeyCounter := 0, rekeyCountDown := 3 } apidx
      else some (countDownRekey pAd counted apidx)

end Periodic

section Stations

/-- The entry with which `WpaEAPOLStartAction` starts a handshake. -/
def WpaEntry.initPsk (entry : WpaEntry) : WpaEntry :=
  { entry with
    privacyFilter := .filter8021xWEP
    wpaState := .asInitPsk
    portSecured := false
    rCounter := Bytes.zero 8
    reTryCounter := 0 }

/-- `WpaEAPOLStartAction`. -/
def wpaEapolStartAction (crypto : KeyCrypto) (env : BuildEnv) (random : Bytes 32)
    (pAd : WpaAdapter) (addr2 : MacAddr) : Option WpaAdapter :=
  match pAd.macTableLookup addr2 with
  | none => some pAd
  | some wcid =>
    let entry := pAd.content wcid
    if entry.portSecured = false ∧ entry.wpaState.toNat < WpaState.asPtkStart.toNat ∧
        (entry.authMode = .wpaPsk ∨ entry.authMode = .wpa2Psk ∨
          entry.authMode = .wpa2 ∧ entry.pmkidCache.isSome) then
      wpaStart4WayHs crypto env random (pAd.modify wcid WpaEntry.initPsk) wcid
    else some pAd

/-- An entry as an association leaves it: `MacTableInsertEntry` and `APBuildAssociation` clear its
group state. -/
def insertStation (pAd : WpaAdapter) (wcid : Wcid) (entry : WpaEntry) : WpaAdapter :=
  { pAd.setEntry wcid { entry with gtkState := .rekeyNegotiating } with
    macTableLookup := Function.update pAd.macTableLookup entry.addr (some wcid) }

/-- The bytes of a frame to a group count for every BSS that goes by them. -/
def countMulticast (bssidNum srcBufLen : Nat) (rekey : Nat → Rekey) : Nat → Rekey := fun apidx =>
  if apidx < bssidNum ∧ (rekey apidx).rekeyTimerRunning ∧ (rekey apidx).reKeyMethod = pktRekey then
    { rekey apidx with rekeyCounter := ((rekey apidx).rekeyCounter + srcBufLen) % 2 ^ 64 }
  else rekey apidx

end Stations

section Step

/-- A message with a GTK: a group message 1, or a message 3 of WPA2. -/
def EapolPacket.bringsGtk (p : EapolPacket) : Bool :=
  p.branch == .groupMsg1 || p.branch == .pairMsg3 && p.keyInfo.ekdDl

def WpaEvent.givesGtk (wcid : Wcid) : WpaEvent → Bool
  | .sent station p => station == wcid && p.bringsGtk
  | _ => false

/-- The index and the GTK of a BSS, from which the messages to its stations are built. -/
def bssGroupKey (pAd : WpaAdapter) (apidx : Nat) : Nat × Bytes 32 :=
  ((pAd.mbssid apidx).defaultKeyId, (pAd.mbssid apidx).gtk)

/-- The group keys given when the adapter has gone from one state to the next. -/
def giveKeys (pAd pAd' : WpaAdapter) (given : Wcid → Option (Nat × Bytes 32)) :
    Wcid → Option (Nat × Bytes 32) := fun wcid =>
  if (pAd'.log.drop pAd.log.length).any (WpaEvent.givesGtk wcid) then
    some (bssGroupKey pAd' (pAd'.content wcid).apidx)
  else given wcid

def GroupAp.move (ap : GroupAp) (pAd : WpaAdapter) : GroupAp :=
  { ap with pAd := pAd, given := giveKeys ap.pAd pAd ap.given }

inductive GroupEvent where
  /-- The timer of a BSS goes off. -/
  | tick (apidx : Nat) (env : HandleEnv)
  /-- An EAPOL-Key frame comes in, late, twice or forged. -/
  | frame (elem : EapolElem) (env : HandleEnv)
  /-- The retry timer of a station goes off. -/
  | retry (wcid : Wcid) (env : BuildEnv) (random : Bytes 32) (memory : Bool)
  | eapolStart (addr2 : MacAddr) (env : BuildEnv) (random : Bytes 32)
  | join (wcid : Wcid) (entry : WpaEntry)
  | depart (wcid : Wcid)
  | multicast (srcBufLen : Nat)

def groupStep (crypto : KeyCrypto) (ap : GroupAp) : GroupEvent → Option GroupAp
  | .tick apidx env =>
    (greKeyPeriodicExec crypto env ap.pAd (ap.rekey apidx) apidx).map fun next =>
      { ap.move next.1 with rekey := Function.update ap.rekey apidx next.2 }
  | .frame elem env => (wpaEapolKeyAction crypto env ap.pAd elem).map ap.move
  | .retry wcid env random memory =>
    (wpaRetryExec crypto env random memory ap.pAd wcid).map ap.move
  | .eapolStart addr2 env random =>
    (wpaEapolStartAction crypto env random ap.pAd addr2).map ap.move
  | .join wcid entry =>
    some { ap with
      pAd := insertStation ap.pAd wcid entry, given := Function.update ap.given wcid none }
  | .depart wcid =>
    some { ap with
      pAd := mlmeDeAuthAction ap.pAd wcid true, given := Function.update ap.given wcid none }
  | .multicast srcBufLen =>
    some { ap with rekey := countMulticast ap.pAd.bssidNum srcBufLen ap.rekey }

end Step

section Agreement

/-- A station of a BSS with a group key, whose group state is `REKEY_ESTABLISHED`. -/
def Established (pAd : WpaAdapter) (wcid : Wcid) : Prop :=
  (pAd.content wcid).isClient = true ∧ (pAd.content wcid).gtkState = .rekeyEstablished ∧
    (pAd.content wcid).apidx < pAd.bssidNum ∧
    keysGroup (pAd.mbssid (pAd.content wcid).apidx) = true

instance (pAd : WpaAdapter) (wcid : Wcid) : Decidable (Established pAd wcid) :=
  inferInstanceAs (Decidable (_ ∧ _))

/-- The key that a GTK of the BSS makes for the chip. -/
def gtkKey (pAd : WpaAdapter) (apidx : Nat) (gtk : Bytes 32) : Option CipherKey :=
  installedSharedKey pAd (pAd.mbssid apidx).groupKeyWepStatus apidx true
    (fun i => gtk.val.getD i 0) lenTkipGtk

/-- `SharedKey[DefaultKeyId]`, under which the frames to the group are encrypted. -/
def multicastKey (pAd : WpaAdapter) (apidx : Nat) : CipherKey :=
  pAd.sharedKey apidx (pAd.mbssid apidx).defaultKeyId

/-- Where the frames to the group are encrypted, each established station was last given the GTK of
the key in use, under the index in use. -/
def GroupKeyAgreed (ap : GroupAp) : Prop :=
  ∀ wcid, Established ap.pAd wcid →
    (multicastKey ap.pAd (ap.pAd.content wcid).apidx).cipherAlg ≠ .none →
    ∃ gtk, ap.given wcid =
        some ((ap.pAd.mbssid (ap.pAd.content wcid).apidx).defaultKeyId, gtk) ∧
      gtkKey ap.pAd (ap.pAd.content wcid).apidx gtk =
        some (multicastKey ap.pAd (ap.pAd.content wcid).apidx)

/-- An AP that has been started: each BSS with a group key has it installed, no rekey is on its way
and no station is established. -/
structure Started (ap : GroupAp) : Prop where
  opMode : ap.pAd.opMode = .ap
  installed : ∀ apidx, apidx < ap.pAd.bssidNum → keysGroup (ap.pAd.mbssid apidx) = true →
    gtkKey ap.pAd apidx (ap.pAd.mbssid apidx).gtk = some (multicastKey ap.pAd apidx)
  quiet : ∀ wcid, ¬ Established ap.pAd wcid

/-- No established station of the BSS is in another handshake. -/
def AllDone (pAd : WpaAdapter) (apidx : Nat) : Prop :=
  ∀ wcid, Established pAd wcid → (pAd.content wcid).apidx = apidx →
    (pAd.content wcid).wpaState = .asPtkInitDone

instance (pAd : WpaAdapter) (apidx : Nat) : Decidable (AllDone pAd apidx) :=
  inferInstanceAs (Decidable (∀ wcid, Established pAd wcid → _ → _))

/-- The timer of the BSS starts a rekey when it goes off. -/
def rekeyDue (rekey : Rekey) : Bool :=
  rekey.count.any fun counted => counted.2.reKeyInterval < counted.1

/-- The frame with which a station becomes established, if it is accepted. -/
def establishingMsg (entry : WpaEntry) : KeyBranch → Option MsgType
  | .pairMsg4 => if entry.wpa2 then some .pairMsg4 else none
  | .groupMsg2 => some .groupMsg2
  | _ => none

/-- The station has been sent the group key that its BSS has now, and no rekey is on its way. -/
def UpToDate (ap : GroupAp) (wcid : Wcid) : Prop :=
  (ap.rekey (ap.pAd.content wcid).apidx).rekeyCountDown = 0 ∧
    ap.given wcid = some (bssGroupKey ap.pAd (ap.pAd.content wcid).apidx)

instance (ap : GroupAp) (wcid : Wcid) : Decidable (UpToDate ap wcid) :=
  inferInstanceAs (Decidable (_ ∧ _))

/-- A rekey finds each established station done with its handshake, and a station becomes
established only when it is up to date. -/
def KeepsUpToDate (crypto : KeyCrypto) (ap : GroupAp) : GroupEvent → Prop
  | .tick apidx _ => rekeyDue (ap.rekey apidx) = true → AllDone ap.pAd apidx
  | .frame elem env => ∀ wcid ∈ ap.pAd.macTableLookup elem.addr2,
      admits (ap.pAd.content wcid) elem = true →
      (elem.packet.branch = .groupRequest → AllDone ap.pAd (ap.pAd.content wcid).apidx) ∧
      ∀ msgType ∈ establishingMsg (ap.pAd.content wcid) elem.packet.branch,
        (verdict crypto env (ap.pAd.content wcid) elem.packet msgType).isSome = true →
          UpToDate ap wcid
  | _ => True

end Agreement

end Mt7612u.Wpa
