import Mt7612u.Library.Run
import Mt7612u.Wpa.Message
import Mt7612u.Wpa.Reinstall

/-! The four-way handshake between an AP and a station that both run this driver, over a network
that loses, repeats, delays and reorders their frames. -/

namespace Mt7612u.Wpa
open BlockAck (Wcid)
open Library.Run
open Mgmt (MacAddr)
open Receive (Memory WepStatus)

/-- Where each of the two has the entry of the other, and under which address it hears from it. -/
structure Link where
  apWcid : Wcid
  staWcid : Wcid
  apAddr : MacAddr
  staAddr : MacAddr

structure Peers where
  ap : WpaAdapter
  sta : WpaAdapter

/-- The entries that the handshake is about. -/
def Peers.apEntry (link : Link) (peers : Peers) : WpaEntry := peers.ap.content link.apWcid
def Peers.staEntry (link : Link) (peers : Peers) : WpaEntry := peers.sta.content link.staWcid

section Log

/-- All frames sent to a peer, each with the pairwise key installed last before it. -/
def sentUnder (wcid : Wcid) : Option CipherKey → List WpaEvent → List (EapolPacket × Option CipherKey)
  | _, [] => []
  | installed, .pairwiseKey peer key :: rest =>
    sentUnder wcid (if peer = wcid then some key else installed) rest
  | installed, .sent peer p :: rest =>
    if peer = wcid then (p, installed) :: sentUnder wcid installed rest
    else sentUnder wcid installed rest
  | installed, _ :: rest => sentUnder wcid installed rest

def WpaEvent.frameTo (wcid : Wcid) : WpaEvent → Option EapolPacket
  | sent peer p => if peer = wcid then some p else none
  | _ => none

/-- The frames alone, in the order in which they were sent. -/
def framesTo (wcid : Wcid) (log : List WpaEvent) : List EapolPacket :=
  log.filterMap (WpaEvent.frameTo wcid)

/-- The message 4 that was accepted last. -/
def WpaEvent.message4 (wcid : Wcid) : WpaEvent → Option EapolPacket
  | accepted peer .pairMsg4 packet => if peer = wcid then some packet else none
  | _ => none

def lastMessage4 (wcid : Wcid) (log : List WpaEvent) : Option EapolPacket :=
  (log.filterMap (WpaEvent.message4 wcid)).getLast?

variable {wcid : Wcid}

theorem framesTo_append (log more : List WpaEvent) :
    framesTo wcid (log ++ more) = framesTo wcid log ++ framesTo wcid more :=
  List.filterMap_append

theorem sentUnder_map_fst (installed : Option CipherKey) (log : List WpaEvent) :
    (sentUnder wcid installed log).map Prod.fst = framesTo wcid log := by
  induction log generalizing installed with
  | nil => rfl
  | cons event rest ih =>
    cases event with
    | sent peer p =>
      by_cases same : peer = wcid
      · rw [sentUnder, if_pos same, List.map_cons, ih]
        have first : (WpaEvent.sent peer p).frameTo wcid = some p := if_pos same
        exact (List.filterMap_cons_some first).symm
      · rw [sentUnder, if_neg same, ih]
        have none : (WpaEvent.sent peer p).frameTo wcid = none := if_neg same
        exact (List.filterMap_cons_none none).symm
    | accepted peer msgType packet => exact ih installed
    | pairwiseKey peer key => exact ih _
    | pairwiseKeyRemoved peer => exact ih installed
    | sharedKey bssIdx keyIdx key => exact ih installed
    | counterMeasure peer => exact ih installed

/-- What comes later is sent under the key that was installed last before. -/
theorem sentUnder_append (installed : Option CipherKey) (log more : List WpaEvent) :
    sentUnder wcid installed (log ++ more) =
      sentUnder wcid installed log ++
        sentUnder wcid ((keysOf (.pairwise wcid) log).getLast?.or installed) more := by
  induction log generalizing installed with
  | nil => rfl
  | cons event rest ih =>
    cases event with
    | sent peer p =>
      have none : keysOf (.pairwise wcid) (.sent peer p :: rest) =
        keysOf (.pairwise wcid) rest := List.filterMap_cons_none rfl
      by_cases same : peer = wcid
      · rw [List.cons_append, sentUnder, if_pos same, sentUnder, if_pos same, ih, none,
          List.cons_append]
      · rw [List.cons_append, sentUnder, if_neg same, sentUnder, if_neg same, ih, none]
    | pairwiseKey peer key =>
      rw [List.cons_append, sentUnder, sentUnder, ih]
      by_cases same : peer = wcid
      · have first : keysOf (.pairwise wcid) (.pairwiseKey peer key :: rest) =
            key :: keysOf (.pairwise wcid) rest :=
          List.filterMap_cons_some (if_pos (congrArg KeySlot.pairwise same.symm))
        rw [if_pos same, first, List.getLast?_cons]
        cases (keysOf (.pairwise wcid) rest).getLast? <;> rfl
      · have skipped : keysOf (.pairwise wcid) (.pairwiseKey peer key :: rest) =
            keysOf (.pairwise wcid) rest := by
          apply List.filterMap_cons_none
          apply if_neg
          rintro ⟨⟩
          exact same rfl
        rw [if_neg same, skipped]
    | accepted peer msgType packet => exact ih installed
    | pairwiseKeyRemoved peer => exact ih installed
    | sharedKey bssIdx keyIdx key => exact ih installed
    | counterMeasure peer => exact ih installed

end Log

section Network

/-- A frame as it comes in: behind its key data lies what was in the buffer. -/
def EapolPacket.arrived (p : EapolPacket) (tail : Memory) : EapolPacket :=
  { p with keyData := tail.write 0 (p.keyData.bytes 0
      (p.eapolLen - (lengthEapolH + minLenOfEapolKeyMsg))) }

/-- The element that is put on the queue for it. -/
def EapolPacket.elem (p : EapolPacket) (addr : MacAddr) (tail : Memory) : EapolElem where
  addr2 := addr
  packet := p.arrived tail
  msgLen := BitVec.ofNat 64 (eapolOffset + p.eapolLen)

/-- A frame is delivered by its place among those that were sent. -/
inductive HandshakeEvent where
  /-- The authenticator is started. -/
  | start (env : BuildEnv) (random : Bytes 32)
  /-- Its retry timer goes off. -/
  | retry (env : BuildEnv) (random : Bytes 32) (memory : Bool)
  | toStation (index : Nat) (env : HandleEnv) (tail : Memory)
  | toAp (index : Nat) (env : HandleEnv) (tail : Memory)

/-- `none` for a frame that was never sent, or a null pointer that is followed. -/
def handshakeStep (crypto : KeyCrypto) (link : Link) (peers : Peers) : HandshakeEvent → Option Peers
  | .start env random =>
    (wpaStart4WayHs crypto env random peers.ap link.apWcid).map fun ap => { peers with ap := ap }
  | .retry env random memory =>
    (wpaRetryExec crypto env random memory peers.ap link.apWcid).map fun ap =>
      { peers with ap := ap }
  | .toStation index env tail =>
    (framesTo link.apWcid peers.ap.log)[index]?.bind fun p =>
      (wpaEapolKeyAction crypto env peers.sta (p.elem link.apAddr tail)).map fun sta =>
        { peers with sta := sta }
  | .toAp index env tail =>
    (framesTo link.staWcid peers.sta.log)[index]?.bind fun p =>
      (wpaEapolKeyAction crypto env peers.ap (p.elem link.staAddr tail)).map fun ap =>
        { peers with ap := ap }

/-- The counter of the authenticator has room, and a message 2 that comes in when message 3 is out
has the SNonce of the one that was answered. -/
def KeepsNonce (link : Link) (peers : Peers) (event : HandshakeEvent) : Prop :=
  Counter.value (peers.apEntry link).rCounter + 1 < 2 ^ 64 ∧
  match event with
  | .toAp index _ _ => ∀ p ∈ (framesTo link.staWcid peers.sta.log)[index]?,
      p.branch = .pairMsg2 →
      WpaState.asPtkInitNegotiating.toNat ≤ (peers.apEntry link).wpaState.toNat →
        p.keyNonce = (peers.apEntry link).sNonce
  | _ => True

instance (link : Link) (peers : Peers) (event : HandshakeEvent) :
    Decidable (KeepsNonce link peers event) :=
  match event with
  | .start .. => inferInstanceAs (Decidable (_ ∧ True))
  | .retry .. => inferInstanceAs (Decidable (_ ∧ True))
  | .toStation .. => inferInstanceAs (Decidable (_ ∧ True))
  | .toAp index _ _ => inferInstanceAs (Decidable (_ ∧
      ∀ p ∈ (framesTo link.staWcid peers.sta.log)[index]?, p.branch = .pairMsg2 →
        WpaState.asPtkInitNegotiating.toNat ≤ (peers.apEntry link).wpaState.toNat →
          p.keyNonce = (peers.apEntry link).sNonce))

end Network

section Agreement

/-- The same key at the other side, which sends under the Michael key that this one receives
under. -/
def CipherKey.mirrored (key : CipherKey) : CipherKey :=
  { key with txMic := key.rxMic, rxMic := key.txMic }

/-- Both have the same PMK, the same addresses and the same cipher, and the handshake has not
started. -/
structure Associated (link : Link) (peers : Peers) : Prop where
  ap : peers.ap.opMode = .ap
  sta : peers.sta.opMode = .sta
  apKnows : peers.ap.macTableLookup link.staAddr = some link.apWcid
  staKnows : peers.sta.macTableLookup link.apAddr = some link.staWcid
  fresh : peers.ap.log = [] ∧ peers.sta.log = []
  waiting : (peers.apEntry link).wpaState.toNat < WpaState.asPtkStart.toNat
  client : (peers.apEntry link).isClient = true
  pmk : (peers.ap.mbssid (peers.apEntry link).apidx).pmk = peers.sta.staCfg.pmk
  cached : ∀ pmkid ∈ (peers.apEntry link).pmkidCache, pmkid.2 = peers.sta.staCfg.pmk
  bssid : (peers.ap.mbssid (peers.apEntry link).apidx).bssid = (peers.staEntry link).addr
  addr : (peers.apEntry link).addr = peers.sta.currentAddress
  cipher : (peers.apEntry link).wepStatus = (peers.staEntry link).wepStatus
  paired : (peers.apEntry link).wepStatus = .tkipEnable ∨ (peers.apEntry link).wepStatus = .aesEnable

/-- Once the handshake is done, the authenticator has installed a key that its PTK still makes; its
last message 4 was sent by the supplicant, and whenever the supplicant sent that frame, the key it
had installed last was the same one. -/
def Agreement (link : Link) (peers : Peers) : Prop :=
  (peers.apEntry link).wpaState = .asPtkInitDone →
  ∃ key message4,
    (keysOf (.pairwise link.apWcid) peers.ap.log).getLast? = some key ∧
    pairwiseKeyOf (peers.apEntry link).wepStatus (peers.apEntry link).ptk true = some key ∧
    lastMessage4 link.apWcid peers.ap.log = some message4 ∧
    (∃ sent ∈ sentUnder link.staWcid none peers.sta.log, ∃ tail, message4 = sent.1.arrived tail) ∧
    ∀ sent ∈ sentUnder link.staWcid none peers.sta.log,
      (∃ tail, message4 = sent.1.arrived tail) → sent.2 = some key.mirrored

end Agreement

end Mt7612u.Wpa
