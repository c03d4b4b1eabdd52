import Mt7612u.Wpa.Authentic
import Mt7612u.Wpa.Handshake

/-! The invariant of the four-way handshake. A replay counter is used for one frame of the
authenticator, and the answers to it carry the same one; with that the counters alone tell which
nonces belong to which PTK. -/

namespace Mt7612u.Wpa
open BlockAck (Wcid)
open Library.Run
open Mgmt (MacAddr)
open Receive (Memory WepStatus)

/-- A frame sent to a peer, with the pairwise key that was installed then. -/
abbrev Sent := EapolPacket × Option CipherKey

section Invariant

variable (crypto : KeyCrypto) (link : Link) (peers : Peers)

def Peers.apFrames : List EapolPacket := framesTo link.apWcid peers.ap.log
def Peers.answers : List Sent := sentUnder link.staWcid none peers.sta.log

/-- The PTK of a message 1 and the message 2 that answers it. -/
def Peers.derived (message1 message2 : EapolPacket) : Bytes 64 :=
  crypto.wpaDerivePtk peers.sta.staCfg.pmk message1.keyNonce (peers.staEntry link).addr
    message2.keyNonce peers.sta.currentAddress

/-- A frame of the supplicant, and the frame of the authenticator that it answers. While no later
frame is accepted, the PTK is that of the last message 2; with message 4 the installed key is that of
the message 2 one counter before. -/
structure Answers (sent : Sent) (frame : EapolPacket) : Prop where
  known : frame ∈ peers.apFrames link
  counter : frame.replayCounter = sent.1.replayCounter
  counted : Counter.value frame.replayCounter ≤ Counter.value (peers.staEntry link).rCounter
  message2 : frame.branch = .pairMsg1 →
    (sent.1.branch = .pairMsg2 ∨ sent.1.branch = .pairMsg4) ∧
    (frame.replayCounter = (peers.staEntry link).rCounter →
      (peers.staEntry link).ptk = peers.derived crypto link frame sent.1)
  message4 : frame.branch = .pairMsg3 → sent.1.branch = .pairMsg4 ∧
    ∀ other ∈ peers.answers link, ∀ first ∈ peers.apFrames link, first.branch = .pairMsg1 →
      first.replayCounter = other.1.replayCounter →
      Counter.value first.replayCounter + 1 = Counter.value frame.replayCounter →
        sent.2 = pairwiseKeyOf (peers.staEntry link).wepStatus
          (peers.derived crypto link first other.1) false
  groupMessage2 : frame.branch = .groupMsg1 → sent.1.branch = .groupMsg2

/-- Message 2 is accepted: the PTK is that of `message1` and `message2`, and message 3 is the only
frame with the next counter. -/
structure Negotiated (message1 : EapolPacket) (message2 : Sent) : Prop where
  known : message1 ∈ peers.apFrames link
  branch : message1.branch = .pairMsg1
  sent : message2 ∈ peers.answers link
  counter : message1.replayCounter = message2.1.replayCounter
  aNonce : message1.keyNonce = (peers.apEntry link).aNonce
  sNonce : message2.1.keyNonce = (peers.apEntry link).sNonce
  ptk : (peers.apEntry link).ptk = peers.derived crypto link message1 message2.1
  below : Counter.value message1.replayCounter + 1 ≤ Counter.value (peers.apEntry link).rCounter
  lastMessage1 : ∀ frame ∈ peers.apFrames link, frame.branch = .pairMsg1 →
    Counter.value frame.replayCounter ≤ Counter.value message1.replayCounter
  lastMessage3 : ∀ frame ∈ peers.apFrames link, frame.branch = .pairMsg3 →
    Counter.value frame.replayCounter ≤ Counter.value message1.replayCounter + 1
  onlyMessage3 : ∀ frame ∈ peers.apFrames link,
    Counter.value frame.replayCounter = Counter.value message1.replayCounter + 1 →
      frame.branch = .pairMsg3
  done : (peers.apEntry link).wpaState = .asPtkInitDone →
    (keysOf (.pairwise link.apWcid) peers.ap.log).getLast? =
      pairwiseKeyOf (peers.apEntry link).wepStatus (peers.apEntry link).ptk true ∧
    ∃ sent ∈ peers.answers link, ∃ tail,
      lastMessage4 link.apWcid peers.ap.log = some (sent.1.arrived tail) ∧
      Counter.value sent.1.replayCounter = Counter.value message1.replayCounter + 1

/-- What both sides have in common, as long as the authenticator has the entry. -/
structure Matched : Prop where
  pmk : (peers.ap.mbssid (peers.apEntry link).apidx).pmk = peers.sta.staCfg.pmk
  cached : ∀ pmkid ∈ (peers.apEntry link).pmkidCache, pmkid.2 = peers.sta.staCfg.pmk
  bssid : (peers.ap.mbssid (peers.apEntry link).apidx).bssid = (peers.staEntry link).addr
  addr : (peers.apEntry link).addr = peers.sta.currentAddress
  cipher : (peers.apEntry link).wepStatus = (peers.staEntry link).wepStatus

/-- The counters of the frames that are out, as long as the authenticator has the entry. -/
structure Counting : Prop where
  bounded : ∀ frame ∈ peers.apFrames link,
    Counter.value frame.replayCounter ≤ Counter.value (peers.apEntry link).rCounter
  nonce : ∀ frame ∈ peers.apFrames link, frame.branch = .pairMsg1 →
    frame.replayCounter = (peers.apEntry link).rCounter →
      frame.keyNonce = (peers.apEntry link).aNonce

/-- An entry that is in use no more. -/
def WpaEntry.gone (entry : WpaEntry) : Prop :=
  entry.isClient = false ∧ entry.isApcli = false ∧ entry.wpaState = .asNotUse

structure Linked : Prop where
  ap : peers.ap.opMode = .ap
  sta : peers.sta.opMode = .sta
  apKnows : ∀ wcid, peers.ap.macTableLookup link.staAddr = some wcid → wcid = link.apWcid
  staKnows : peers.sta.macTableLookup link.apAddr = some link.staWcid
  paired : (peers.staEntry link).wepStatus = .tkipEnable ∨
    (peers.staEntry link).wepStatus = .aesEnable
  life : (peers.apEntry link).isClient = true ∧ Matched link peers ∧ Counting link peers ∨
    (peers.apEntry link).gone
  ordered : ((peers.apFrames link).map fun frame => Counter.value frame.replayCounter).Pairwise
    (· < ·)
  positive : ∀ frame ∈ peers.apFrames link, 0 < Counter.value frame.replayCounter
  kinds : ∀ frame ∈ peers.apFrames link, frame.branch = .pairMsg1 ∨ frame.branch = .pairMsg3 ∨
    frame.branch = .groupMsg1
  answered : ∀ sent ∈ peers.answers link, ∃ frame, Answers crypto link peers sent frame
  negotiated : WpaState.asPtkInitNegotiating.toNat ≤ (peers.apEntry link).wpaState.toNat →
    ∃ message1 message2, Negotiated crypto link peers message1 message2

end Invariant

section Facts

variable {crypto : KeyCrypto} {link : Link} {peers : Peers}

/-- A counter is used for one frame. -/
theorem Linked.unique (linked : Linked crypto link peers) {first second : EapolPacket}
    (knownFirst : first ∈ peers.apFrames link) (knownSecond : second ∈ peers.apFrames link)
    (same : Counter.value first.replayCounter = Counter.value second.replayCounter) :
    first = second :=
  List.inj_on_of_nodup_map (linked.ordered.imp fun less => less.ne) knownFirst knownSecond same

theorem pairwiseKeyOf_mirrored (wepStatus : WepStatus) (ptk : Bytes 64) :
    pairwiseKeyOf wepStatus ptk false = (pairwiseKeyOf wepStatus ptk true).map CipherKey.mirrored := by
  cases wepStatus <;> rfl

theorem pairwiseKeyOf_isSome {wepStatus : WepStatus} (ptk : Bytes 64)
    (paired : wepStatus = .tkipEnable ∨ wepStatus = .aesEnable) (bAE : Bool) :
    ∃ key, pairwiseKeyOf wepStatus ptk bAE = some key := by
  apply Option.isSome_iff_exists.mp
  rcases paired with rfl | rfl <;> cases bAE <;> rfl

/-- The invariant implies the agreement. -/
theorem Linked.agreement (linked : Linked crypto link peers) : Agreement link peers := by
  intro finished
  obtain ⟨message1, message2, negotiated⟩ :=
    linked.negotiated (by rw [finished]; decide)
  have matched : Matched link peers := by
    rcases linked.life with ⟨_, matched, _⟩ | ⟨_, _, gone⟩
    · exact matched
    · rw [finished] at gone
      cases gone
  obtain ⟨key, made⟩ := pairwiseKeyOf_isSome (peers.apEntry link).ptk
    (matched.cipher ▸ linked.paired) true
  obtain ⟨installed, sent, among, tail, last, counter⟩ := negotiated.done finished
  refine ⟨key, sent.1.arrived tail, installed.trans made, made, last, ⟨sent, among, tail, rfl⟩, ?_⟩
  rintro other otherAmong ⟨otherTail, same⟩
  obtain ⟨frame, answers⟩ := linked.answered other otherAmong
  have sameCounter : sent.1.replayCounter = other.1.replayCounter := by
    have fields := congrArg EapolPacket.replayCounter same
    exact fields
  have next : Counter.value frame.replayCounter = Counter.value message1.replayCounter + 1 := by
    rw [answers.counter, ← sameCounter, counter]
  have message3 := negotiated.onlyMessage3 frame answers.known next
  rw [(answers.message4 message3).2 message2 negotiated.sent message1 negotiated.known
    negotiated.branch negotiated.counter next.symm, ← negotiated.ptk, ← matched.cipher,
    pairwiseKeyOf_mirrored, made, Option.map_some]

end Facts

section Supplicant

variable {crypto : KeyCrypto} {link : Link} {peers : Peers}

/-- What the supplicant sends when it accepts a frame. -/
structure Answering (crypto : KeyCrypto) (link : Link) (peers : Peers) (frame : EapolPacket)
    (sta : WpaAdapter) (sent : Sent) : Prop where
  counter : sent.1.replayCounter = frame.replayCounter
  message2 : frame.branch = .pairMsg1 →
    (sent.1.branch = .pairMsg2 ∨ sent.1.branch = .pairMsg4) ∧
    (sta.content link.staWcid).ptk = peers.derived crypto link frame sent.1
  message4 : frame.branch = .pairMsg3 → sent.1.branch = .pairMsg4 ∧
    sent.2 = pairwiseKeyOf (peers.staEntry link).wepStatus (peers.staEntry link).ptk false
  groupMessage2 : frame.branch = .groupMsg1 → sent.1.branch = .groupMsg2

/-- A frame that the supplicant accepts, as far as the handshake is concerned. -/
structure Accepts (crypto : KeyCrypto) (link : Link) (peers : Peers) (frame : EapolPacket)
    (sta : WpaAdapter) : Prop where
  known : frame ∈ peers.apFrames link
  config : sta.config = peers.sta.config
  addr : (sta.content link.staWcid).addr = (peers.staEntry link).addr
  cipher : (sta.content link.staWcid).wepStatus = (peers.staEntry link).wepStatus
  larger : Counter.value (peers.staEntry link).rCounter < Counter.value frame.replayCounter
  counter : (sta.content link.staWcid).rCounter = frame.replayCounter
  answers : ∃ new, sentUnder link.staWcid none sta.log = peers.answers link ++ new ∧
    ∀ sent ∈ new, Answering crypto link peers frame sta sent

variable {frame : EapolPacket} {sta : WpaAdapter}

theorem Accepts.derived (accepts : Accepts crypto link peers frame sta)
    (message1 message2 : EapolPacket) :
    ({ peers with sta := sta } : Peers).derived crypto link message1 message2 =
      peers.derived crypto link message1 message2 := by
  have pmk : sta.staCfg.pmk = peers.sta.staCfg.pmk := congrArg Config.pmk accepts.config
  have address : sta.currentAddress = peers.sta.currentAddress :=
    congrArg Config.currentAddress accepts.config
  unfold Peers.derived
  change crypto.wpaDerivePtk sta.staCfg.pmk _ (sta.content link.staWcid).addr _
    sta.currentAddress = _
  rw [pmk, address, accepts.addr]

/-- The answers to the frames before stay what they were. -/
theorem Accepts.earlier (accepts : Accepts crypto link peers frame sta) {sent : Sent}
    {earlier : EapolPacket} (answers : Answers crypto link peers sent earlier) :
    Answers crypto link { peers with sta := sta } sent earlier := by
  obtain ⟨new, appended, answering⟩ := accepts.answers
  have below : Counter.value earlier.replayCounter < Counter.value frame.replayCounter :=
    answers.counted.trans_lt accepts.larger
  refine ⟨answers.known, answers.counter, ?_, ?_, ?_, answers.groupMessage2⟩
  · change _ ≤ Counter.value (sta.content link.staWcid).rCounter
    rw [accepts.counter]
    exact below.le
  · intro branch
    apply And.intro (answers.message2 branch).1
    intro current
    rw [current] at below
    change Counter.value (sta.content link.staWcid).rCounter < _ at below
    rw [accepts.counter] at below
    exact absurd below (lt_irrefl _)
  · intro branch
    apply And.intro (answers.message4 branch).1
    intro other among first known isFirst same next
    rw [accepts.derived]
    change other ∈ sentUnder link.staWcid none sta.log at among
    rw [appended] at among
    rcases List.mem_append.mp among with old | fresh
    · have installed := (answers.message4 branch).2 other old first known isFirst same next
      rw [← accepts.cipher] at installed
      exact installed
    · rw [same, (answering other fresh).counter] at next
      omega

/-- The answer to the frame itself. -/
theorem Accepts.now (linked : Linked crypto link peers)
    (accepts : Accepts crypto link peers frame sta) {sent : Sent}
    (answering : Answering crypto link peers frame sta sent) :
    Answers crypto link { peers with sta := sta } sent frame := by
  obtain ⟨new, appended, fresh⟩ := accepts.answers
  refine ⟨accepts.known, answering.counter.symm, ?_, ?_, ?_, answering.groupMessage2⟩
  · change _ ≤ Counter.value (sta.content link.staWcid).rCounter
    rw [accepts.counter]
  · intro branch
    refine ⟨(answering.message2 branch).1, fun _ => ?_⟩
    rw [accepts.derived]
    exact (answering.message2 branch).2
  · intro branch
    apply And.intro (answering.message4 branch).1
    intro other among first known isFirst same next
    rw [accepts.derived, (answering.message4 branch).2]
    change other ∈ sentUnder link.staWcid none sta.log at among
    rw [appended] at among
    rcases List.mem_append.mp among with old | new
    · obtain ⟨asked, answers⟩ := linked.answered other old
      obtain rfl : asked = first :=
        linked.unique answers.known known (congrArg Counter.value (answers.counter.trans same.symm))
      -- no frame came between the message 1 one counter before and this one
      have current : asked.replayCounter = (peers.staEntry link).rCounter := by
        apply Counter.value_injective
        have counted := answers.counted
        have larger := accepts.larger
        omega
      rw [(answers.message2 isFirst).2 current]
      change _ = pairwiseKeyOf (sta.content link.staWcid).wepStatus _ false
      rw [accepts.cipher]
    · rw [same, (fresh other new).counter] at next
      omega

theorem Accepts.linked (linked : Linked crypto link peers)
    (accepts : Accepts crypto link peers frame sta) :
    Linked crypto link { peers with sta := sta } := by
  obtain ⟨new, appended, answering⟩ := accepts.answers
  have pmk : sta.staCfg.pmk = peers.sta.staCfg.pmk := congrArg Config.pmk accepts.config
  have address : sta.currentAddress = peers.sta.currentAddress :=
    congrArg Config.currentAddress accepts.config
  have kept {sent : Sent} (among : sent ∈ peers.answers link) :
      sent ∈ ({ peers with sta := sta } : Peers).answers link := by
    change sent ∈ sentUnder link.staWcid none sta.log
    rw [appended]
    exact List.mem_append_left new among
  refine ⟨linked.ap, (congrArg Config.opMode accepts.config).trans linked.sta, linked.apKnows,
    (congrArg (Config.macTableLookup · link.apAddr) accepts.config).trans linked.staKnows, ?_, ?_,
    linked.ordered, linked.positive, linked.kinds, ?_, ?_⟩
  · change (sta.content link.staWcid).wepStatus = _ ∨ (sta.content link.staWcid).wepStatus = _
    rw [accepts.cipher]
    exact linked.paired
  · rcases linked.life with ⟨client, matched, counting⟩ | gone
    · refine .inl ⟨client, ⟨matched.pmk.trans pmk.symm, ?_, matched.bssid.trans accepts.addr.symm,
        matched.addr.trans address.symm, matched.cipher.trans accepts.cipher.symm⟩,
        ⟨counting.bounded, counting.nonce⟩⟩
      intro pmkid among
      exact (matched.cached pmkid among).trans pmk.symm
    · exact .inr gone
  · intro sent among
    change sent ∈ sentUnder link.staWcid none sta.log at among
    rw [appended] at among
    rcases List.mem_append.mp among with old | fresh
    · obtain ⟨earlier, answers⟩ := linked.answered sent old
      exact ⟨earlier, accepts.earlier answers⟩
    · exact ⟨frame, accepts.now linked (answering sent fresh)⟩
  · intro late
    obtain ⟨message1, message2, negotiated⟩ := linked.negotiated late
    refine ⟨message1, message2, negotiated.known, negotiated.branch, kept negotiated.sent,
      negotiated.counter, negotiated.aNonce, negotiated.sNonce, ?_, negotiated.below,
      negotiated.lastMessage1, negotiated.lastMessage3, negotiated.onlyMessage3, ?_⟩
    · rw [accepts.derived]
      exact negotiated.ptk
    · intro finished
      obtain ⟨installed, sent, among, rest⟩ := negotiated.done finished
      exact ⟨installed, sent, kept among, rest⟩

/-- Events that are no frames to the peer. -/
theorem sentUnder_quiet {wcid : Wcid} (log : List WpaEvent) {events : List WpaEvent}
    (quiet : ∀ event ∈ events, event.frameTo wcid = none) :
    sentUnder wcid none (log ++ events) = sentUnder wcid none log := by
  have empty (installed : Option CipherKey) : sentUnder wcid installed events = [] := by
    apply List.map_eq_nil_iff.mp
    rw [sentUnder_map_fst]
    exact List.filterMap_eq_nil_iff.mpr quiet
  rw [sentUnder_append, empty, List.append_nil]

/-- Frames are sent under the key that was installed last. -/
theorem sentUnder_sent (wcid : Wcid) (log : List WpaEvent) (sent : Option EapolPacket) :
    sentUnder wcid none (log ++ sent.toList.map (.sent wcid)) = sentUnder wcid none log ++
      sent.toList.map fun p => (p, (keysOf (.pairwise wcid) log).getLast?) := by
  rw [sentUnder_append, Option.or_none]
  apply congrArg (sentUnder wcid none log ++ ·)
  cases sent with
  | none => rfl
  | some p => exact if_pos rfl

variable {env : HandleEnv} {tail : Memory}

/-- Every frame of the authenticator counts from one on. -/
theorem Linked.larger (linked : Linked crypto link peers) (known : frame ∈ peers.apFrames link)
    {msgType : MsgType} {key : Option GroupKey} (toSupplicant : msgType.toSupplicant = true)
    (accepted : verdict crypto env (peers.staEntry link) (frame.arrived tail) msgType = some key) :
    Counter.value (peers.staEntry link).rCounter < Counter.value frame.replayCounter := by
  have replay := (verdict_eq_some accepted).2.1
  rcases lt_or_zero_of_replayAccepted toSupplicant replay with larger | zero
  · exact larger
  · have positive := linked.positive frame known
    have fields : frame.replayCounter = Bytes.zero 8 := zero
    rw [fields, Counter.value_zero] at positive
    exact absurd positive (lt_irrefl 0)

theorem message1_accepts (linked : Linked crypto link peers) (known : frame ∈ peers.apFrames link)
    (branch : frame.branch = .pairMsg1)
    (stepped : peerPairMsg1Action crypto env peers.sta link.staWcid (frame.elem link.apAddr tail) =
      some sta) :
    sta = peers.sta ∨ Accepts crypto link peers frame sta := by
  obtain same | ⟨_, accepted, sent, built, rfl⟩ := peerPairMsg1Action_cases stepped
  · exact .inl same
  right
  refine ⟨known, rfl, ?_, ?_, linked.larger known rfl accepted, ?_, ?_⟩
  · rw [WpaAdapter.recordSent_content, WpaAdapter.modify_content]
    rfl
  · rw [WpaAdapter.recordSent_content, WpaAdapter.modify_content]
    rfl
  · rw [WpaAdapter.recordSent_content, WpaAdapter.modify_content]
    rfl
  · refine ⟨sent.toList.map fun p =>
      (p, (keysOf (.pairwise link.staWcid) peers.sta.log).getLast?), ?_, ?_⟩
    · rw [WpaAdapter.recordSent_log, sentUnder_sent, WpaAdapter.modify_log, WpaAdapter.record_log,
        sentUnder_quiet _ (by simp [WpaEvent.frameTo]), keysOf_others _ _ (by simp [WpaEvent.keyAt])]
      rfl
    · intro answer among
      obtain ⟨p, member, rfl⟩ := List.mem_map.mp among
      have fields := constructEapolMsg_builtFrom (built p (Option.mem_toList.mp member))
      refine ⟨fields.replayCounter, fun _ => ⟨fields.branch_pairMsg2, ?_⟩, ?_, ?_⟩
      · rw [WpaAdapter.recordSent_content, WpaAdapter.modify_content]
        unfold Peers.derived
        rw [fields.keyNonce env.random rfl (by decide)]
        rfl
      · intro later
        rw [branch] at later
        cases later
      · intro group
        rw [branch] at group
        cases group

/-- What the log of the supplicant is after a group key and the acceptance of its frame. -/
theorem sentUnder_taken (key : Option GroupKey) (msgType : MsgType) (packet : EapolPacket) :
    sentUnder link.staWcid none ((takeKey peers.sta key).record
      (.accepted link.staWcid msgType packet)).log = peers.answers link := by
  have quiet : ∀ event ∈ (takenKey peers.sta key).toList.map
      (WpaEvent.sharedKey 0 (keyIdxOf key)), event.frameTo link.staWcid = none := by
    intro event among
    obtain ⟨made, _, rfl⟩ := List.mem_map.mp among
    rfl
  rw [WpaAdapter.record_log, sentUnder_quiet _ (by simp [WpaEvent.frameTo]), takeKey_log,
    sentUnder_quiet _ quiet]
  rfl

/-- What the log of the supplicant is when message 4 goes out. -/
theorem message3_log (packet : EapolPacket) (key : Option GroupKey) :
    (finishMsg3 (((takeKey peers.sta key).record
      (.accepted link.staWcid .pairMsg3 packet)).modify link.staWcid
        (WpaEntry.count packet)) link.staWcid).log =
      ((takeKey peers.sta key).record (.accepted link.staWcid .pairMsg3 packet)).log ++
        (pairwiseKeyOf (peers.staEntry link).wepStatus (peers.staEntry link).ptk
          false).toList.map (.pairwiseKey link.staWcid) := by
  rw [finishMsg3_log, WpaAdapter.modify_content, WpaAdapter.record_content, takeKey_content]
  rfl

theorem message3_accepts (linked : Linked crypto link peers) (known : frame ∈ peers.apFrames link)
    (branch : frame.branch = .pairMsg3)
    (stepped : peerPairMsg3Action crypto env peers.sta link.staWcid (frame.elem link.apAddr tail) =
      some sta) :
    sta = peers.sta ∨ Accepts crypto link peers frame sta := by
  obtain same | ⟨_, key, accepted, ending⟩ := peerPairMsg3Action_cases stepped
  · exact .inl same
  right
  have larger := linked.larger known rfl accepted
  obtain rfl | ⟨_, p, built, rfl⟩ := ending
  · refine ⟨known, by simp, ?_, ?_, larger, ?_, [], ?_, by simp⟩
    · rw [WpaAdapter.modify_content, WpaAdapter.record_content, takeKey_content]
      rfl
    · rw [WpaAdapter.modify_content, WpaAdapter.record_content, takeKey_content]
      rfl
    · rw [WpaAdapter.modify_content]
      rfl
    · rw [WpaAdapter.modify_log, sentUnder_taken, List.append_nil]
  · have finished : (finishMsg3 (((takeKey peers.sta key).record (.accepted link.staWcid .pairMsg3
        (frame.elem link.apAddr tail).packet)).modify link.staWcid
          (WpaEntry.count (frame.elem link.apAddr tail).packet)) link.staWcid).content
            link.staWcid =
        (((peers.staEntry link).count (frame.elem link.apAddr tail).packet)).finish := by
      rw [finishMsg3_content, WpaAdapter.modify_content, WpaAdapter.record_content, takeKey_content]
      rfl
    have untouched (entry : WpaEntry) : entry.finish.addr = entry.addr ∧
        entry.finish.wepStatus = entry.wepStatus ∧ entry.finish.rCounter = entry.rCounter := by
      unfold WpaEntry.finish
      dsimp only
      split_ifs <;> exact ⟨rfl, rfl, rfl⟩
    refine ⟨known, by simp, ?_, ?_, larger, ?_, [(p, (pairwiseKeyOf (peers.staEntry link).wepStatus
      (peers.staEntry link).ptk false))], ?_, ?_⟩
    · rw [WpaAdapter.record_content, finished, (untouched _).1]
      rfl
    · rw [WpaAdapter.record_content, finished, (untouched _).2.1]
      rfl
    · rw [WpaAdapter.record_content, finished, (untouched _).2.2]
      rfl
    · refine (sentUnder_sent link.staWcid _ (some p)).trans ?_
      have quiet : ∀ event ∈ (pairwiseKeyOf (peers.staEntry link).wepStatus
          (peers.staEntry link).ptk false).toList.map (WpaEvent.pairwiseKey link.staWcid),
            event.frameTo link.staWcid = none := by
        intro event among
        obtain ⟨made, _, rfl⟩ := List.mem_map.mp among
        rfl
      obtain ⟨made, same⟩ := pairwiseKeyOf_isSome (peers.staEntry link).ptk linked.paired false
      rw [message3_log, sentUnder_quiet _ quiet, sentUnder_taken, keysOf_pairwise, if_pos rfl, same,
        Option.toList_some, Option.toList_some, List.getLast?_concat]
      rfl
    · intro answer among
      obtain rfl := List.mem_singleton.mp among
      have fields := constructEapolMsg_builtFrom built
      refine ⟨fields.replayCounter, ?_, fun _ => ⟨fields.branch_pairMsg4, rfl⟩, ?_⟩
      · intro first
        rw [branch] at first
        cases first
      · intro group
        rw [branch] at group
        cases group

theorem groupMessage1_accepts (linked : Linked crypto link peers)
    (known : frame ∈ peers.apFrames link) (branch : frame.branch = .groupMsg1)
    (stepped : peerGroupMsg1Action crypto env peers.sta link.staWcid (frame.elem link.apAddr tail) =
      some sta) :
    sta = peers.sta ∨ Accepts crypto link peers frame sta := by
  obtain same | ⟨_, key, accepted, ending⟩ := peerGroupMsg1Action_cases stepped
  · exact .inl same
  right
  have larger := linked.larger known rfl accepted
  obtain rfl | ⟨p, built, rfl⟩ := ending
  · refine ⟨known, by simp, ?_, ?_, larger, ?_, [], ?_, by simp⟩
    · rw [WpaAdapter.modify_content, WpaAdapter.record_content, takeKey_content]
      rfl
    · rw [WpaAdapter.modify_content, WpaAdapter.record_content, takeKey_content]
      rfl
    · rw [WpaAdapter.modify_content]
      rfl
    · rw [WpaAdapter.modify_log, sentUnder_taken, List.append_nil]
  · refine ⟨known, by simp, ?_, ?_, larger, ?_,
      [(p, ((keysOf (.pairwise link.staWcid) ((takeKey peers.sta key).record
        (.accepted link.staWcid .groupMsg1 (frame.elem link.apAddr tail).packet)).log).getLast?))],
      ?_, ?_⟩
    · rw [WpaAdapter.record_content, openPort_content, WpaAdapter.modify_content,
        WpaAdapter.record_content, takeKey_content]
      rfl
    · rw [WpaAdapter.record_content, openPort_content, WpaAdapter.modify_content,
        WpaAdapter.record_content, takeKey_content]
      rfl
    · rw [WpaAdapter.record_content, openPort_content, WpaAdapter.modify_content]
      rfl
    · refine (sentUnder_sent link.staWcid _ (some p)).trans ?_
      change sentUnder link.staWcid none ((takeKey peers.sta key).record _).log ++ _ = _
      rw [sentUnder_taken]
      rfl
    · intro answer among
      obtain rfl := List.mem_singleton.mp among
      have fields := constructEapolMsg_builtFrom built
      refine ⟨fields.replayCounter, ?_, ?_, fun _ => fields.branch_groupMsg2⟩
      · intro first
        rw [branch] at first
        cases first
      · intro third
        rw [branch] at third
        cases third

/-- A frame of the authenticator is accepted, or it changes nothing. -/
theorem Linked.toStation (linked : Linked crypto link peers) (known : frame ∈ peers.apFrames link)
    (stepped : wpaEapolKeyAction crypto env peers.sta (frame.elem link.apAddr tail) = some sta) :
    Linked crypto link { peers with sta := sta } := by
  have outcome : sta = peers.sta ∨ Accepts crypto link peers frame sta := by
    rcases eapolKeyAction_cases linked.staKnows stepped with same | ⟨_, performed⟩
    · exact .inl same
    have branch : (frame.elem link.apAddr tail).packet.branch = frame.branch := rfl
    rw [branch] at performed
    rcases linked.kinds frame known with first | third | group
    · rw [first] at performed
      exact message1_accepts linked known first performed
    · rw [third] at performed
      exact message3_accepts linked known third performed
    · rw [group] at performed
      exact groupMessage1_accepts linked known group performed
  rcases outcome with rfl | accepts
  · exact linked
  · exact accepts.linked linked

end Supplicant

section Authenticator

variable {crypto : KeyCrypto} {link : Link} {peers : Peers}

/-- What an entry keeps as long as it is in use. -/
def WpaEntry.identity (entry : WpaEntry) :
    Transmit.EntryType × MacAddr × Nat × WepStatus × Option (Bytes 16 × Bytes 32) :=
  (entry.entryType, entry.addr, entry.apidx, entry.wepStatus, entry.pmkidCache)

/-- A step of the authenticator: the counter stays, or it goes up by one and may be sent in a
frame. -/
structure ApMoves (link : Link) (peers : Peers) (ap : WpaAdapter) (new : Option EapolPacket) :
    Prop where
  config : ap.config = peers.ap.config
  frames : framesTo link.apWcid ap.log = peers.apFrames link ++ new.toList
  identity : (ap.content link.apWcid).identity = (peers.apEntry link).identity
  pmk : (ap.mbssid (peers.apEntry link).apidx).pmk = peers.sta.staCfg.pmk
  bssid : (ap.mbssid (peers.apEntry link).apidx).bssid = (peers.staEntry link).addr
  counts :
    new = none ∧ (ap.content link.apWcid).rCounter = (peers.apEntry link).rCounter ∧
      (ap.content link.apWcid).aNonce = (peers.apEntry link).aNonce ∨
    Counter.value (peers.apEntry link).rCounter + 1 < 2 ^ 64 ∧
      (ap.content link.apWcid).rCounter = Counter.addOne (peers.apEntry link).rCounter ∧
      ∀ p ∈ new, p.replayCounter = Counter.addOne (peers.apEntry link).rCounter ∧
        (p.branch = .pairMsg1 ∨ p.branch = .pairMsg3 ∨ p.branch = .groupMsg1) ∧
        (p.branch = .pairMsg1 → p.keyNonce = (ap.content link.apWcid).aNonce)

variable {ap : WpaAdapter} {new : Option EapolPacket}

theorem ApMoves.known (moves : ApMoves link peers ap new) {frame : EapolPacket} :
    frame ∈ ({ peers with ap := ap } : Peers).apFrames link ↔
      frame ∈ peers.apFrames link ∨ frame ∈ new := by
  change frame ∈ framesTo link.apWcid ap.log ↔ _
  rw [moves.frames, List.mem_append, Option.mem_toList]
  exact Iff.rfl

/-- A new frame counts one up from the entry, and is thus above all others. -/
theorem ApMoves.newCounter (moves : ApMoves link peers ap new) {frame : EapolPacket}
    (fresh : frame ∈ new) :
    Counter.value frame.replayCounter = Counter.value (peers.apEntry link).rCounter + 1 := by
  rcases moves.counts with ⟨rfl, _⟩ | ⟨room, _, sent⟩
  · cases fresh
  · rw [(sent frame fresh).1, Counter.value_addOne_of_lt room]

theorem ApMoves.matched (moves : ApMoves link peers ap new) (matched : Matched link peers) :
    Matched link { peers with ap := ap } := by
  have apidx : (ap.content link.apWcid).apidx = (peers.apEntry link).apidx :=
    congrArg (·.2.2.1) moves.identity
  refine ⟨?_, ?_, ?_, ?_, ?_⟩
  · change (ap.mbssid (ap.content link.apWcid).apidx).pmk = _
    rw [apidx]
    exact moves.pmk
  · have cached : (ap.content link.apWcid).pmkidCache = (peers.apEntry link).pmkidCache :=
      congrArg (·.2.2.2.2) moves.identity
    intro pmkid among
    exact matched.cached pmkid (cached ▸ among)
  · change (ap.mbssid (ap.content link.apWcid).apidx).bssid = _
    rw [apidx]
    exact moves.bssid
  · exact (congrArg (·.2.1) moves.identity : _ = (peers.apEntry link).addr).trans matched.addr
  · exact (congrArg (·.2.2.2.1) moves.identity : _ = (peers.apEntry link).wepStatus).trans
      matched.cipher

theorem ApMoves.counting (moves : ApMoves link peers ap new) (counting : Counting link peers) :
    Counting link { peers with ap := ap } := by
  have old {frame : EapolPacket} (among : frame ∈ peers.apFrames link) :=
    counting.bounded frame among
  constructor
  · intro frame among
    change _ ≤ Counter.value (ap.content link.apWcid).rCounter
    rcases moves.known.mp among with known | fresh
    · rcases moves.counts with ⟨_, same, _⟩ | ⟨room, up, _⟩
      · rw [same]
        exact old known
      · rw [up, Counter.value_addOne_of_lt room]
        exact (old known).trans (Nat.le_succ _)
    · rcases moves.counts with ⟨rfl, _⟩ | ⟨_, up, sent⟩
      · cases fresh
      · rw [up, (sent frame fresh).1]
  · intro frame among branch current
    change frame.replayCounter = (ap.content link.apWcid).rCounter at current
    change frame.keyNonce = (ap.content link.apWcid).aNonce
    rcases moves.known.mp among with known | fresh
    · rcases moves.counts with ⟨_, same, nonce⟩ | ⟨room, up, _⟩
      · rw [nonce]
        exact counting.nonce frame known branch (current.trans same)
      · have bound := old known
        rw [current, up, Counter.value_addOne_of_lt room] at bound
        exact absurd bound (Nat.not_succ_le_self _)
    · rcases moves.counts with ⟨rfl, _⟩ | ⟨_, _, sent⟩
      · cases fresh
      · exact (sent frame fresh).2.2 branch

/-- The invariant after a step of the authenticator, but for what is negotiated. -/
theorem ApMoves.linked (moves : ApMoves link peers ap new) (linked : Linked crypto link peers)
    (client : (peers.apEntry link).isClient = true) (matched : Matched link peers)
    (counting : Counting link peers)
    (negotiated : WpaState.asPtkInitNegotiating.toNat ≤ (ap.content link.apWcid).wpaState.toNat →
      ∃ message1 message2,
        Negotiated crypto link { peers with ap := ap } message1 message2) :
    Linked crypto link { peers with ap := ap } := by
  have entryType : (ap.content link.apWcid).entryType = (peers.apEntry link).entryType :=
    congrArg (·.1) moves.identity
  have alive : (ap.content link.apWcid).isClient = true := by
    unfold WpaEntry.isClient
    rw [entryType]
    exact client
  have lookup : ap.macTableLookup = peers.ap.macTableLookup :=
    congrArg Config.macTableLookup moves.config
  refine ⟨(congrArg Config.opMode moves.config).trans linked.ap, linked.sta, ?_, linked.staKnows,
    linked.paired, .inl ⟨alive, moves.matched matched, moves.counting counting⟩, ?_, ?_, ?_, ?_,
    negotiated⟩
  · intro wcid found
    exact linked.apKnows wcid (lookup ▸ found)
  · change ((framesTo link.apWcid ap.log).map _).Pairwise _
    rw [moves.frames, List.map_append, List.pairwise_append]
    refine ⟨linked.ordered, ?_, ?_⟩
    · cases new with
      | none => exact List.Pairwise.nil
      | some p => exact List.pairwise_singleton _ _
    · intro earlier among later fresh
      obtain ⟨frame, known, rfl⟩ := List.mem_map.mp among
      obtain ⟨p, sent, rfl⟩ := List.mem_map.mp fresh
      rw [moves.newCounter (Option.mem_toList.mp sent)]
      exact Nat.lt_succ_of_le (counting.bounded frame known)
  · intro frame among
    rcases moves.known.mp among with known | fresh
    · exact linked.positive frame known
    · rw [moves.newCounter fresh]
      exact Nat.succ_pos _
  · intro frame among
    rcases moves.known.mp among with known | fresh
    · exact linked.kinds frame known
    · rcases moves.counts with ⟨rfl, _⟩ | ⟨_, _, sent⟩
      · cases fresh
      · exact (sent frame fresh).2.1
  · intro sent among
    obtain ⟨frame, answers⟩ := linked.answered sent among
    refine ⟨frame, moves.known.mpr (.inl answers.known), answers.counter, answers.counted,
      answers.message2, ?_, answers.groupMessage2⟩
    intro branch
    apply And.intro (answers.message4 branch).1
    intro other otherAmong first firstAmong isFirst same next
    rcases moves.known.mp firstAmong with known | fresh
    · exact (answers.message4 branch).2 other otherAmong first known isFirst same next
    · have bound := counting.bounded frame answers.known
      rw [moves.newCounter fresh] at next
      omega

/-- What is negotiated stays so while nonces and PTK do, whatever group messages go out. -/
theorem Negotiated.kept {message1 : EapolPacket} {message2 : Sent}
    (negotiated : Negotiated crypto link peers message1 message2)
    (moves : ApMoves link peers ap new)
    (aNonce : (ap.content link.apWcid).aNonce = (peers.apEntry link).aNonce)
    (sNonce : (ap.content link.apWcid).sNonce = (peers.apEntry link).sNonce)
    (ptk : (ap.content link.apWcid).ptk = (peers.apEntry link).ptk)
    (group : ∀ p ∈ new, p.branch = .groupMsg1)
    (done : (ap.content link.apWcid).wpaState = .asPtkInitDone →
      (keysOf (.pairwise link.apWcid) ap.log).getLast? =
        pairwiseKeyOf (peers.apEntry link).wepStatus (peers.apEntry link).ptk true ∧
      ∃ sent ∈ peers.answers link, ∃ tail,
        lastMessage4 link.apWcid ap.log = some (sent.1.arrived tail) ∧
        Counter.value sent.1.replayCounter = Counter.value message1.replayCounter + 1) :
    Negotiated crypto link { peers with ap := ap } message1 message2 := by
  have cipher : (ap.content link.apWcid).wepStatus = (peers.apEntry link).wepStatus :=
    congrArg (·.2.2.2.1) moves.identity
  refine ⟨moves.known.mpr (.inl negotiated.known), negotiated.branch, negotiated.sent,
    negotiated.counter, negotiated.aNonce.trans aNonce.symm, negotiated.sNonce.trans sNonce.symm,
    ptk.trans negotiated.ptk, ?_, ?_, ?_, ?_, ?_⟩
  · change _ ≤ Counter.value (ap.content link.apWcid).rCounter
    have below := negotiated.below
    rcases moves.counts with ⟨_, same, _⟩ | ⟨room, up, _⟩
    · rw [same]
      exact below
    · rw [up, Counter.value_addOne_of_lt room]
      omega
  · intro frame among branch
    rcases moves.known.mp among with known | fresh
    · exact negotiated.lastMessage1 frame known branch
    · rw [group frame fresh] at branch
      cases branch
  · intro frame among branch
    rcases moves.known.mp among with known | fresh
    · exact negotiated.lastMessage3 frame known branch
    · rw [group frame fresh] at branch
      cases branch
  · intro frame among next
    rcases moves.known.mp among with known | fresh
    · exact negotiated.onlyMessage3 frame known next
    · rw [moves.newCounter fresh] at next
      have below := negotiated.below
      omega
  · intro finished
    change (keysOf (.pairwise link.apWcid) ap.log).getLast? =
      pairwiseKeyOf (ap.content link.apWcid).wepStatus (ap.content link.apWcid).ptk true ∧ _
    rw [cipher, ptk]
    exact done finished

/-- A step of the authenticator that the handshake does not see. -/
structure Quiet (link : Link) (before after : WpaAdapter) : Prop where
  config : after.config = before.config
  mbssid : after.mbssid = before.mbssid
  identity : (after.content link.apWcid).identity = (before.content link.apWcid).identity
  rCounter : (after.content link.apWcid).rCounter = (before.content link.apWcid).rCounter
  aNonce : (after.content link.apWcid).aNonce = (before.content link.apWcid).aNonce
  sNonce : (after.content link.apWcid).sNonce = (before.content link.apWcid).sNonce
  ptk : (after.content link.apWcid).ptk = (before.content link.apWcid).ptk
  wpaState : (after.content link.apWcid).wpaState = (before.content link.apWcid).wpaState
  frames : framesTo link.apWcid after.log = framesTo link.apWcid before.log
  keys : keysOf (.pairwise link.apWcid) after.log = keysOf (.pairwise link.apWcid) before.log
  message4 : lastMessage4 link.apWcid after.log = lastMessage4 link.apWcid before.log

theorem Quiet.linked (quiet : Quiet link peers.ap ap) (linked : Linked crypto link peers) :
    Linked crypto link { peers with ap := ap } := by
  rcases linked.life with ⟨client, matched, counting⟩ | ⟨noClient, noApcli, unused⟩
  · have moves : ApMoves link peers ap none := by
      refine ⟨quiet.config, quiet.frames.trans (List.append_nil _).symm, quiet.identity, ?_, ?_,
        .inl ⟨rfl, quiet.rCounter, quiet.aNonce⟩⟩
      · rw [quiet.mbssid]
        exact matched.pmk
      · rw [quiet.mbssid]
        exact matched.bssid
    apply moves.linked linked client matched counting
    intro late
    rw [quiet.wpaState] at late
    obtain ⟨message1, message2, negotiated⟩ := linked.negotiated late
    refine ⟨message1, message2, negotiated.kept moves quiet.aNonce quiet.sNonce quiet.ptk
      (by simp) ?_⟩
    intro finished
    rw [quiet.keys, quiet.message4]
    exact negotiated.done (quiet.wpaState.symm.trans finished)
  · have entryType : (ap.content link.apWcid).entryType = (peers.apEntry link).entryType :=
      congrArg (·.1) quiet.identity
    have lookup : ap.macTableLookup = peers.ap.macTableLookup :=
      congrArg Config.macTableLookup quiet.config
    have frames {frame : EapolPacket} :
        frame ∈ ({ peers with ap := ap } : Peers).apFrames link ↔ frame ∈ peers.apFrames link := by
      change frame ∈ framesTo link.apWcid ap.log ↔ _
      rw [quiet.frames]
      exact Iff.rfl
    refine ⟨(congrArg Config.opMode quiet.config).trans linked.ap, linked.sta, ?_, linked.staKnows,
      linked.paired, .inr ⟨?_, ?_, quiet.wpaState.trans unused⟩, ?_, ?_, ?_, ?_, ?_⟩
    · intro wcid found
      exact linked.apKnows wcid (lookup ▸ found)
    · exact (congrArg (· == Transmit.EntryType.client) entryType).trans noClient
    · exact (congrArg (· == Transmit.EntryType.apcli) entryType).trans noApcli
    · change ((framesTo link.apWcid ap.log).map _).Pairwise _
      rw [quiet.frames]
      exact linked.ordered
    · exact fun frame among => linked.positive frame (frames.mp among)
    · exact fun frame among => linked.kinds frame (frames.mp among)
    · intro sent among
      obtain ⟨frame, answers⟩ := linked.answered sent among
      refine ⟨frame, frames.mpr answers.known, answers.counter, answers.counted, answers.message2,
        ?_, answers.groupMessage2⟩
      intro branch
      exact ⟨(answers.message4 branch).1, fun other otherAmong first firstAmong =>
        (answers.message4 branch).2 other otherAmong first (frames.mp firstAmong)⟩
    · intro late
      change _ ≤ (ap.content link.apWcid).wpaState.toNat at late
      rw [quiet.wpaState] at late
      change _ ≤ (peers.apEntry link).wpaState.toNat at late
      rw [unused] at late
      exact absurd late (by decide)

end Authenticator

end Mt7612u.Wpa
