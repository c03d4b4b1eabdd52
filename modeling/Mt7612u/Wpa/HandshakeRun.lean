import Mt7612u.Wpa.HandshakeInvariant

/-! The steps of the authenticator, and the runs of the handshake. -/

namespace Mt7612u.Wpa
open BlockAck (Wcid)
open Library.Run
open Receive (Memory WepStatus)

section Quiet

variable {wcid : Wcid} (log : List WpaEvent) {events : List WpaEvent}

theorem framesTo_quiet (quiet : ∀ event ∈ events, event.frameTo wcid = none) :
    framesTo wcid (log ++ events) = framesTo wcid log := by
  rw [framesTo_append]
  have empty : framesTo wcid events = [] := List.filterMap_eq_nil_iff.mpr quiet
  rw [empty, List.append_nil]

theorem lastMessage4_quiet (quiet : ∀ event ∈ events, event.message4 wcid = none) :
    lastMessage4 wcid (log ++ events) = lastMessage4 wcid log := by
  unfold lastMessage4
  rw [List.filterMap_append, List.filterMap_eq_nil_iff.mpr quiet, List.append_nil]

variable (pAd : WpaAdapter) (link : Link)

/-- A change of other fields of the entry is not seen. -/
theorem quiet_modify (change : WpaEntry → WpaEntry)
    (identity : ∀ entry, (change entry).identity = entry.identity)
    (rCounter : ∀ entry, (change entry).rCounter = entry.rCounter)
    (nonces : ∀ entry, (change entry).aNonce = entry.aNonce ∧ (change entry).sNonce = entry.sNonce)
    (ptk : ∀ entry, (change entry).ptk = entry.ptk)
    (wpaState : ∀ entry, (change entry).wpaState = entry.wpaState) :
    Quiet link pAd (pAd.modify link.apWcid change) := by
  refine ⟨rfl, rfl, ?_, ?_, ?_, ?_, ?_, ?_, rfl, rfl, rfl⟩
  all_goals rw [WpaAdapter.modify_content]
  · exact identity _
  · exact rCounter _
  · exact (nonces _).1
  · exact (nonces _).2
  · exact ptk _
  · exact wpaState _

theorem quiet_establish : Quiet link pAd (pAd.modify link.apWcid WpaEntry.establish) :=
  quiet_modify pAd link _ (fun _ => rfl) (fun _ => rfl) (fun _ => ⟨rfl, rfl⟩) (fun _ => rfl)
    (fun _ => rfl)

theorem quiet_retryGroup : Quiet link pAd (pAd.modify link.apWcid WpaEntry.retryGroup) :=
  quiet_modify pAd link _ (fun _ => rfl) (fun _ => rfl) (fun _ => ⟨rfl, rfl⟩) (fun _ => rfl)
    (fun _ => rfl)

/-- Nor is an accepted frame but for message 4. -/
theorem quiet_accepted (msgType : MsgType) (packet : EapolPacket) (other : msgType ≠ .pairMsg4) :
    Quiet link pAd (pAd.record (.accepted link.apWcid msgType packet)) := by
  refine ⟨rfl, rfl, rfl, rfl, rfl, rfl, rfl, rfl, ?_, ?_, ?_⟩
  · exact framesTo_quiet _ (by simp [WpaEvent.frameTo])
  · exact keysOf_others _ _ (by simp [WpaEvent.keyAt])
  · apply lastMessage4_quiet
    intro event among
    obtain rfl := List.mem_singleton.mp among
    cases msgType with
    | pairMsg4 => exact absurd rfl other
    | _ => rfl

end Quiet

section Start

variable {crypto : KeyCrypto} {link : Link} {peers : Peers} {ap : WpaAdapter} {build : BuildEnv}
  {random : Bytes 32}

theorem addPmkid_packet (pAd : WpaAdapter) (entry : WpaEntry) (p : EapolPacket) :
    (addPmkid pAd entry p).2.replayCounter = p.replayCounter ∧
    (addPmkid pAd entry p).2.keyInfo = p.keyInfo ∧
    (addPmkid pAd entry p).2.keyNonce = p.keyNonce := by
  unfold addPmkid
  split <;> exact ⟨rfl, rfl, rfl⟩

/-- The PMK of the BSS stays the one of the station. -/
theorem addPmkid_mbss (pAd : WpaAdapter) (entry : WpaEntry) (p : EapolPacket) {pmk : Bytes 32}
    (stored : (pAd.mbssid entry.apidx).pmk = pmk)
    (cached : ∀ pmkid ∈ entry.pmkidCache, pmkid.2 = pmk) :
    ((addPmkid pAd entry p).1.mbssid entry.apidx).pmk = pmk ∧
    ((addPmkid pAd entry p).1.mbssid entry.apidx).bssid = (pAd.mbssid entry.apidx).bssid := by
  unfold addPmkid
  split
  · next found =>
    rw [WpaAdapter.setMbss]
    dsimp only
    rw [Function.update_self]
    exact ⟨cached _ found, rfl⟩
  · exact ⟨stored, rfl⟩

/-- Message 1 looks like one whatever its key data. -/
theorem keyBranch_message1 {p : EapolPacket} {entry : WpaEntry} {groupCipher : WepStatus}
    (info : p.keyInfo = keyInfoOf entry groupCipher .pairMsg1 0) : p.branch = .pairMsg1 := by
  unfold EapolPacket.branch
  rw [info]
  unfold keyBranch keyInfoOf
  cases entry.wpa2 <;> rfl

/-- The entry of a peer that takes part is in use. -/
theorem Linked.alive (linked : Linked crypto link peers)
    (client : (peers.apEntry link).isClient = true) :
    Matched link peers ∧ Counting link peers := by
  rcases linked.life with ⟨_, both⟩ | ⟨gone, _⟩
  · exact both
  · rw [client] at gone
    cases gone

theorem Linked.start4Way (linked : Linked crypto link peers)
    (room : Counter.value (peers.apEntry link).rCounter + 1 < 2 ^ 64)
    (stepped : wpaStart4WayHs crypto build random peers.ap link.apWcid = some ap) :
    Linked crypto link { peers with ap := ap } := by
  have config := config_start4Way stepped
  obtain rfl | ⟨_, client, early, ending⟩ := wpaStart4WayHs_cases stepped
  · exact linked
  obtain ⟨matched, counting⟩ := linked.alive client
  obtain rfl | ⟨p, built, result⟩ := ending
  · have moves : ApMoves link peers (peers.ap.modify link.apWcid (·.restart random)) none := by
      refine ⟨config, (List.append_nil _).symm, ?_, matched.pmk, matched.bssid,
        .inr ⟨room, ?_, by simp⟩⟩
      · rw [WpaAdapter.modify_content]
        rfl
      · rw [WpaAdapter.modify_content]
        rfl
    apply moves.linked linked client matched counting
    intro late
    rw [WpaAdapter.modify_content] at late
    have after : WpaState.asPtkInitNegotiating.toNat ≤ WpaState.asPtkStart.toNat := late.trans early
    exact absurd after (by decide)
  · have fields := constructEapolMsg_builtFrom built
    obtain ⟨counter, info, nonce⟩ := addPmkid_packet
      (peers.ap.modify link.apWcid (·.restart random)) (peers.ap.content link.apWcid) p
    obtain ⟨pmk, bssid⟩ := addPmkid_mbss (peers.ap.modify link.apWcid (·.restart random))
      (peers.ap.content link.apWcid) p matched.pmk matched.cached
    have entry : ap.content link.apWcid =
        { (peers.apEntry link).restart random with wpaState := .asPtkStart } := by
      rw [result, WpaAdapter.record_content, WpaAdapter.modify_content, addPmkid_content,
        WpaAdapter.modify_content]
      rfl
    have frames : framesTo link.apWcid ap.log = peers.apFrames link ++
        [(addPmkid (peers.ap.modify link.apWcid (·.restart random))
          (peers.ap.content link.apWcid) p).2] := by
      rw [result, WpaAdapter.record_log, framesTo_append, WpaAdapter.modify_log, addPmkid_log]
      apply congrArg (peers.apFrames link ++ ·)
      exact List.filterMap_cons_some (if_pos rfl)
    have mbssid : ap.mbssid = (addPmkid (peers.ap.modify link.apWcid (·.restart random))
        (peers.ap.content link.apWcid) p).1.mbssid := by rw [result]; rfl
    have moves : ApMoves link peers ap (some (addPmkid (peers.ap.modify link.apWcid
        (·.restart random)) (peers.ap.content link.apWcid) p).2) := by
      refine ⟨config, frames, by rw [entry]; rfl, ?_, ?_, .inr ⟨room, by rw [entry]; rfl, ?_⟩⟩
      · rw [mbssid]
        exact pmk
      · rw [mbssid]
        exact bssid.trans matched.bssid
      · rintro _ ⟨⟩
        refine ⟨counter.trans fields.replayCounter, .inl ?_, fun _ => ?_⟩
        · exact keyBranch_message1 (info.trans fields.keyInfo)
        · rw [entry, nonce]
          exact fields.keyNonce random rfl (by decide)
    apply moves.linked linked client matched counting
    intro late
    rw [entry] at late
    have after : WpaState.asPtkInitNegotiating.toNat ≤ WpaState.asPtkStart.toNat := late
    exact absurd after (by decide)

theorem Linked.start2Way (linked : Linked crypto link peers)
    (room : Counter.value (peers.apEntry link).rCounter + 1 < 2 ^ 64)
    (stepped : wpaStart2WayGroupHs crypto build peers.ap link.apWcid = some ap) :
    Linked crypto link { peers with ap := ap } := by
  have config := config_start2Way stepped
  obtain rfl | ⟨client, sent, built, result⟩ := wpaStart2WayGroupHs_cases stepped
  · exact linked
  obtain ⟨matched, counting⟩ := linked.alive client
  have entry : ap.content link.apWcid = (peers.apEntry link).countUp := by
    rw [result, WpaAdapter.recordSent_content, WpaAdapter.modify_content]
    rfl
  have group : ∀ p ∈ sent, p.branch = .groupMsg1 := by
    intro p member
    exact (constructEapolMsg_builtFrom (built p member).2).branch_groupMsg1
  have log : ap.log = peers.ap.log ++ sent.toList.map (.sent link.apWcid) := by rw [result]; rfl
  have frames : framesTo link.apWcid ap.log = peers.apFrames link ++ sent.toList := by
    rw [log, framesTo_append]
    apply congrArg (peers.apFrames link ++ ·)
    cases sent with
    | none => rfl
    | some p => exact List.filterMap_cons_some (if_pos rfl)
  have mbssid : ap.mbssid = peers.ap.mbssid := by rw [result]; rfl
  have moves : ApMoves link peers ap sent := by
    refine ⟨config, frames, by rw [entry]; rfl, ?_, ?_, .inr ⟨room, by rw [entry]; rfl, ?_⟩⟩
    · rw [mbssid]
      exact matched.pmk
    · rw [mbssid]
      exact matched.bssid
    · intro p member
      refine ⟨(constructEapolMsg_builtFrom (built p member).2).replayCounter,
        .inr (.inr (group p member)), ?_⟩
      intro first
      rw [group p member] at first
      cases first
  apply moves.linked linked client matched counting
  intro late
  rw [entry] at late
  obtain ⟨message1, message2, negotiated⟩ := linked.negotiated late
  refine ⟨message1, message2, negotiated.kept moves (by rw [entry]; rfl) (by rw [entry]; rfl)
    (by rw [entry]; rfl) group ?_⟩
  intro finished
  rw [entry] at finished
  have keys : keysOf (.pairwise link.apWcid) ap.log =
      keysOf (.pairwise link.apWcid) peers.ap.log := by
    rw [log, keysOf_others _ _ (sent_keyAt _ sent)]
  have message4 : lastMessage4 link.apWcid ap.log = lastMessage4 link.apWcid peers.ap.log := by
    rw [log]
    apply lastMessage4_quiet
    intro event among
    obtain ⟨p, _, rfl⟩ := List.mem_map.mp among
    rfl
  rw [keys, message4]
  exact negotiated.done finished

end Start

section Retry

variable {crypto : KeyCrypto} {link : Link} {peers : Peers} {ap : WpaAdapter}

/-- When the entry is deleted, nothing goes on with it. -/
theorem Linked.gone (linked : Linked crypto link peers) (config : ap.opMode = peers.ap.opMode)
    (log : ap.log = peers.ap.log)
    (lookup : ∀ wcid, ap.macTableLookup link.staAddr = some wcid → wcid = link.apWcid)
    (gone : (ap.content link.apWcid).gone) : Linked crypto link { peers with ap := ap } := by
  have frames : ({ peers with ap := ap } : Peers).apFrames link = peers.apFrames link :=
    congrArg (framesTo link.apWcid) log
  refine ⟨config.trans linked.ap, linked.sta, lookup, linked.staKnows, linked.paired, .inr gone, ?_,
    ?_, ?_, ?_, ?_⟩
  · rw [frames]
    exact linked.ordered
  · rw [frames]
    exact linked.positive
  · rw [frames]
    exact linked.kinds
  · intro sent among
    obtain ⟨frame, answers⟩ := linked.answered sent among
    refine ⟨frame, ?_, answers.counter, answers.counted, answers.message2, ?_,
      answers.groupMessage2⟩
    · rw [frames]
      exact answers.known
    · rw [frames]
      exact answers.message4
  · intro late
    have unused : (ap.content link.apWcid).wpaState = .asNotUse := gone.2.2
    change _ ≤ (ap.content link.apWcid).wpaState.toNat at late
    rw [unused] at late
    exact absurd late (by decide)

theorem Linked.deAuth (linked : Linked crypto link peers) (memory : Bool) :
    Linked crypto link { peers with ap := mlmeDeAuthAction peers.ap link.apWcid memory } := by
  cases memory with
  | false => exact linked
  | true =>
    have opMode : (mlmeDeAuthAction peers.ap link.apWcid true).opMode = peers.ap.opMode := rfl
    apply linked.gone opMode rfl
    · intro wcid found
      change Function.update peers.ap.macTableLookup (peers.ap.content link.apWcid).addr none
        link.staAddr = some wcid at found
      by_cases same : link.staAddr = (peers.ap.content link.apWcid).addr
      · rw [same, Function.update_self] at found
        cases found
      · rw [Function.update_of_ne same] at found
        exact linked.apKnows wcid found
    · change ((peers.ap.setEntry link.apWcid .cleared).content link.apWcid).gone
      rw [WpaAdapter.setEntry_content]
      exact ⟨rfl, rfl, rfl⟩

theorem Linked.retry {build : BuildEnv} {random : Bytes 32} {memory : Bool}
    (linked : Linked crypto link peers)
    (room : Counter.value (peers.apEntry link).rCounter + 1 < 2 ^ 64)
    (stepped : wpaRetryExec crypto build random memory peers.ap link.apWcid = some ap) :
    Linked crypto link { peers with ap := ap } := by
  unfold wpaRetryExec at stepped
  dsimp only at stepped
  have quiet : Quiet link peers.ap (peers.ap.modify link.apWcid fun entry =>
      { entry with reTryCounter := entry.reTryCounter + 1 }) :=
    quiet_modify peers.ap link _ (fun _ => rfl) (fun _ => rfl) (fun _ => ⟨rfl, rfl⟩)
      (fun _ => rfl) (fun _ => rfl)
  generalize peers.ap.modify link.apWcid (fun entry : WpaEntry =>
    { entry with reTryCounter := entry.reTryCounter + 1 }) = tried at quiet stepped
  have linkedTried := quiet.linked linked
  have roomTried : Counter.value (tried.content link.apWcid).rCounter + 1 < 2 ^ 64 := by
    rw [quiet.rCounter]
    exact room
  split_ifs at stepped
  · exact Option.some.inj stepped ▸ linked
  · exact Option.some.inj stepped ▸ linkedTried
  · exact Option.some.inj stepped ▸ linkedTried.deAuth memory
  · exact linkedTried.start2Way roomTried stepped
  · exact Option.some.inj stepped ▸ linkedTried
  · exact Option.some.inj stepped ▸ linkedTried.deAuth memory
  · exact linkedTried.start4Way roomTried stepped
  · exact linkedTried.start4Way roomTried stepped
  · exact Option.some.inj stepped ▸ linkedTried

end Retry

section ToAp

variable {crypto : KeyCrypto} {link : Link} {peers : Peers} {ap : WpaAdapter} {env : HandleEnv}
  {tail : Memory} {sent : Sent} {frame : EapolPacket}

/-- The answer to a message has the counter that the authenticator has. -/
theorem counter_of_verdict {entry : WpaEntry} {packet : EapolPacket} {msgType : MsgType}
    {key : Option GroupKey} (toAuthenticator : msgType.toSupplicant = false)
    (accepted : verdict crypto env entry packet msgType = some key) :
    packet.replayCounter = entry.rCounter := by
  have replay := (verdict_eq_some accepted).2.1
  unfold replayAccepted at replay
  rw [toAuthenticator, if_neg Bool.false_ne_true] at replay
  exact eq_of_beq replay

/-- The SNonce that is there makes the PTK that is there. -/
theorem Negotiated.storeSNonce {message1 : EapolPacket} {message2 : Sent}
    (negotiated : Negotiated crypto link peers message1 message2) (matched : Matched link peers)
    (opMode : peers.ap.opMode = .ap) {packet : EapolPacket}
    (same : packet.keyNonce = (peers.apEntry link).sNonce) :
    Wpa.storeSNonce crypto peers.ap packet (peers.apEntry link) = peers.apEntry link := by
  have ptk : crypto.wpaDerivePtk (peers.ap.mbssid (peers.apEntry link).apidx).pmk
      (peers.apEntry link).aNonce (peers.ap.mbssid (peers.apEntry link).apidx).bssid
      (peers.apEntry link).sNonce (peers.apEntry link).addr = (peers.apEntry link).ptk := by
    rw [matched.pmk, matched.bssid, matched.addr, negotiated.ptk, ← negotiated.aNonce,
      ← negotiated.sNonce]
    rfl
  unfold Wpa.storeSNonce
  dsimp only
  rw [opMode, if_pos rfl, same, ptk]

theorem modify_self {pAd : WpaAdapter} {wcid : Wcid} {change : WpaEntry → WpaEntry}
    (same : change (pAd.content wcid) = pAd.content wcid) : pAd.modify wcid change = pAd := by
  unfold WpaAdapter.modify WpaAdapter.setEntry
  rw [same, Function.update_eq_self]

/-- Once message 3 is out, a counter of a message 1 is accepted no more. -/
theorem Negotiated.past {message1 : EapolPacket} {message2 : Sent}
    (negotiated : Negotiated crypto link peers message1 message2)
    (known : frame ∈ peers.apFrames link) (first : frame.branch = .pairMsg1) :
    frame.replayCounter ≠ (peers.apEntry link).rCounter := by
  intro current
  have bound := negotiated.lastMessage1 frame known first
  have below := negotiated.below
  rw [current] at bound
  omega

/-- A message 2 that is stored and no more. -/
theorem Linked.store (linked : Linked crypto link peers)
    (client : (peers.apEntry link).isClient = true) (packet : EapolPacket)
    (keeps : WpaState.asPtkInitNegotiating.toNat ≤ (peers.apEntry link).wpaState.toNat →
      packet.keyNonce = (peers.apEntry link).sNonce) :
    Linked crypto link
      { peers with ap := peers.ap.modify link.apWcid (storeSNonce crypto peers.ap packet) } := by
  obtain ⟨matched, counting⟩ := linked.alive client
  by_cases late : WpaState.asPtkInitNegotiating.toNat ≤ (peers.apEntry link).wpaState.toNat
  · obtain ⟨message1, message2, negotiated⟩ := linked.negotiated late
    rw [modify_self (negotiated.storeSNonce matched linked.ap (keeps late))]
    exact linked
  · have moves : ApMoves link peers (peers.ap.modify link.apWcid
        (storeSNonce crypto peers.ap packet)) none := by
      refine ⟨rfl, (List.append_nil _).symm, ?_, matched.pmk, matched.bssid, .inl ⟨rfl, ?_, ?_⟩⟩
      all_goals
        rw [WpaAdapter.modify_content]
        rfl
    apply moves.linked linked client matched counting
    intro after
    rw [WpaAdapter.modify_content] at after
    exact absurd after late

/-- A frame that is answered by what looks like a message 2 is a message 1. -/
theorem Answers.isMessage1 (answers : Answers crypto link peers sent frame)
    (kinds : frame.branch = .pairMsg1 ∨ frame.branch = .pairMsg3 ∨ frame.branch = .groupMsg1)
    (branch : sent.1.branch = .pairMsg2) : frame.branch = .pairMsg1 := by
  rcases kinds with first | third | group
  · exact first
  · have fourth := (answers.message4 third).1
    rw [branch] at fourth
    cases fourth
  · have second := answers.groupMessage2 group
    rw [branch] at second
    cases second

/-- Message 3 goes out with the counter after that of the message 1 that was answered. -/
theorem ApMoves.negotiated {p packet : EapolPacket} (moves : ApMoves link peers ap (some p))
    (matched : Matched link peers) (counting : Counting link peers) (opMode : peers.ap.opMode = .ap)
    (among : sent ∈ peers.answers link) (answers : Answers crypto link peers sent frame)
    (first : frame.branch = .pairMsg1) (current : frame.replayCounter = (peers.apEntry link).rCounter)
    (third : p.branch = .pairMsg3) (nonce : packet.keyNonce = sent.1.keyNonce)
    (entry : ap.content link.apWcid =
      (storeSNonce crypto peers.ap packet (peers.apEntry link)).startMsg3)
    (room : Counter.value (peers.apEntry link).rCounter + 1 < 2 ^ 64) :
    Negotiated crypto link { peers with ap := ap } frame sent := by
  have counted : Counter.value p.replayCounter = Counter.value frame.replayCounter + 1 := by
    rw [moves.newCounter rfl, current]
  have old {other : EapolPacket} (known : other ∈ peers.apFrames link) :
      Counter.value other.replayCounter ≤ Counter.value frame.replayCounter := by
    rw [current]
    exact counting.bounded other known
  have sender := counting.nonce frame answers.known first current
  refine ⟨moves.known.mpr (.inl answers.known), first, among, answers.counter, ?_, ?_, ?_, ?_, ?_,
    ?_, ?_, ?_⟩
  · exact sender.trans (congrArg WpaEntry.aNonce entry).symm
  · exact nonce.symm.trans (congrArg WpaEntry.sNonce entry).symm
  · apply (congrArg WpaEntry.ptk entry).trans
    change (storeSNonce crypto peers.ap packet (peers.apEntry link)).ptk = _
    unfold storeSNonce
    dsimp only
    rw [opMode, if_pos rfl, matched.pmk, matched.bssid, matched.addr, ← sender, nonce]
    rfl
  · have counter : (ap.content link.apWcid).rCounter = Counter.addOne (peers.apEntry link).rCounter :=
      congrArg WpaEntry.rCounter entry
    change _ ≤ Counter.value (ap.content link.apWcid).rCounter
    rw [counter, Counter.value_addOne_of_lt room, current]
  · intro other known isFirst
    rcases moves.known.mp known with earlier | new
    · exact old earlier
    · obtain rfl := Option.some.inj new
      rw [third] at isFirst
      cases isFirst
  · intro other known _
    rcases moves.known.mp known with earlier | new
    · exact (old earlier).trans (Nat.le_succ _)
    · obtain rfl := Option.some.inj new
      exact counted.le
  · intro other known next
    rcases moves.known.mp known with earlier | new
    · have bound := old earlier
      omega
    · obtain rfl := Option.some.inj new
      exact third
  · intro finished
    have state : (ap.content link.apWcid).wpaState = .asPtkInitNegotiating :=
      congrArg WpaEntry.wpaState entry
    change (ap.content link.apWcid).wpaState = .asPtkInitDone at finished
    rw [state] at finished
    cases finished

/-- The authenticator after message 3. -/
def sentMsg3 (crypto : KeyCrypto) (pAd : WpaAdapter) (wcid : Wcid) (packet p : EapolPacket) :
    WpaAdapter :=
  (((pAd.modify wcid (storeSNonce crypto pAd packet)).record (.accepted wcid .pairMsg2
    packet)).modify wcid WpaEntry.startMsg3).record (.sent wcid p)

theorem sentMsg3_content (pAd : WpaAdapter) (wcid : Wcid) (packet p : EapolPacket) :
    (sentMsg3 crypto pAd wcid packet p).content wcid =
      (storeSNonce crypto pAd packet (pAd.content wcid)).startMsg3 := by
  unfold sentMsg3
  rw [WpaAdapter.record_content, WpaAdapter.modify_content, WpaAdapter.record_content,
    WpaAdapter.modify_content]

theorem framesTo_sentMsg3 (pAd : WpaAdapter) (wcid : Wcid) (packet p : EapolPacket) :
    framesTo wcid (sentMsg3 crypto pAd wcid packet p).log = framesTo wcid pAd.log ++ [p] := by
  unfold sentMsg3
  rw [WpaAdapter.record_log, WpaAdapter.modify_log, WpaAdapter.record_log, WpaAdapter.modify_log,
    framesTo_append, framesTo_quiet _ (by simp [WpaEvent.frameTo])]
  apply congrArg (framesTo wcid pAd.log ++ ·)
  exact List.filterMap_cons_some (if_pos rfl)

theorem sentMsg3_moves (matched : Matched link peers)
    (room : Counter.value (peers.apEntry link).rCounter + 1 < 2 ^ 64) {packet p : EapolPacket}
    (counter : p.replayCounter = Counter.addOne (peers.apEntry link).rCounter)
    (third : p.branch = .pairMsg3) :
    ApMoves link peers (sentMsg3 crypto peers.ap link.apWcid packet p) (some p) := by
  refine ⟨rfl, framesTo_sentMsg3 _ _ _ _, ?_, matched.pmk, matched.bssid, .inr ⟨room, ?_, ?_⟩⟩
  · rw [sentMsg3_content]
    rfl
  · rw [sentMsg3_content]
    rfl
  · rintro _ ⟨⟩
    refine ⟨counter, .inr (.inl third), ?_⟩
    intro isFirst
    rw [third] at isFirst
    cases isFirst

theorem Linked.message2 (linked : Linked crypto link peers)
    (room : Counter.value (peers.apEntry link).rCounter + 1 < 2 ^ 64)
    (among : sent ∈ peers.answers link) (answers : Answers crypto link peers sent frame)
    (branch : sent.1.branch = .pairMsg2)
    (keeps : WpaState.asPtkInitNegotiating.toNat ≤ (peers.apEntry link).wpaState.toNat →
      sent.1.keyNonce = (peers.apEntry link).sNonce)
    (stepped : peerPairMsg2Action crypto env peers.ap link.apWcid (sent.1.elem link.staAddr tail) =
      some ap) :
    Linked crypto link { peers with ap := ap } := by
  obtain rfl | ⟨client, _, ending⟩ := peerPairMsg2Action_cases stepped
  · exact linked
  have stored := linked.store client (sent.1.elem link.staAddr tail).packet keeps
  obtain rfl | ⟨_, accepted, ending⟩ := ending
  · exact stored
  obtain rfl | ⟨p, built, result⟩ := ending
  · exact (quiet_accepted _ link .pairMsg2 _ (by decide)).linked stored
  obtain ⟨matched, counting⟩ := linked.alive client
  have fields := constructEapolMsg_builtFrom built
  have moves : ApMoves link peers ap (some p) := by
    rw [result]
    exact sentMsg3_moves matched room fields.replayCounter fields.branch_pairMsg3
  apply moves.linked linked client matched counting
  intro _
  have entry : ap.content link.apWcid = (storeSNonce crypto peers.ap
      (sent.1.elem link.staAddr tail).packet (peers.apEntry link)).startMsg3 := by
    rw [result]
    exact sentMsg3_content _ _ _ _
  have nonce : (sent.1.elem link.staAddr tail).packet.keyNonce = sent.1.keyNonce := rfl
  have counter : (sent.1.elem link.staAddr tail).packet.replayCounter = (storeSNonce crypto peers.ap
      (sent.1.elem link.staAddr tail).packet (peers.apEntry link)).rCounter :=
    counter_of_verdict rfl accepted
  have current : frame.replayCounter = (peers.apEntry link).rCounter := answers.counter.trans counter
  exact ⟨frame, sent, moves.negotiated matched counting linked.ap among answers
    (answers.isMessage1 (linked.kinds frame answers.known) branch) current fields.branch_pairMsg3
    nonce entry room⟩

/-- The authenticator when message 4 is accepted. -/
def upgraded (pAd : WpaAdapter) (wcid : Wcid) (packet : EapolPacket) : WpaAdapter :=
  (wpaInstallPairwiseKey (pAd.record (.accepted wcid .pairMsg4 packet)) wcid true).modify wcid
    WpaEntry.upgrade

theorem upgraded_content (pAd : WpaAdapter) (wcid : Wcid) (packet : EapolPacket) :
    (upgraded pAd wcid packet).content wcid = ((pAd.content wcid).install true).upgrade := by
  unfold upgraded
  rw [WpaAdapter.modify_content, wpaInstallPairwiseKey_content, WpaAdapter.record_content]

theorem upgraded_log (pAd : WpaAdapter) (wcid : Wcid) (packet : EapolPacket) :
    (upgraded pAd wcid packet).log = pAd.log ++ [.accepted wcid .pairMsg4 packet] ++
      (pairwiseKeyOf (pAd.content wcid).wepStatus (pAd.content wcid).ptk true).toList.map
        (.pairwiseKey wcid) := by
  unfold upgraded
  rw [WpaAdapter.modify_log, wpaInstallPairwiseKey_log, WpaAdapter.record_log,
    WpaAdapter.record_content]

theorem upgraded_frame (pAd : WpaAdapter) (wcid : Wcid) (packet : EapolPacket) :
    (upgraded pAd wcid packet).config = pAd.config ∧ (upgraded pAd wcid packet).mbssid = pAd.mbssid := by
  unfold upgraded
  rw [wpaInstallPairwiseKey_frame]
  exact ⟨rfl, rfl⟩

theorem upgraded_moves (matched : Matched link peers) (packet : EapolPacket) :
    ApMoves link peers (upgraded peers.ap link.apWcid packet) none := by
  obtain ⟨config, mbssid⟩ := upgraded_frame peers.ap link.apWcid packet
  refine ⟨config, ?_, ?_, ?_, ?_, .inl ⟨rfl, ?_, ?_⟩⟩
  · rw [upgraded_log, framesTo_quiet, framesTo_quiet _ (by simp [WpaEvent.frameTo])]
    · exact (List.append_nil _).symm
    · intro event among
      obtain ⟨made, _, rfl⟩ := List.mem_map.mp among
      rfl
  · rw [upgraded_content]
    rfl
  · rw [mbssid]
    exact matched.pmk
  · rw [mbssid]
    exact matched.bssid
  · rw [upgraded_content]
    rfl
  · rw [upgraded_content]
    rfl

/-- What the log tells of the key and of message 4. -/
theorem upgraded_keys (pAd : WpaAdapter) (wcid : Wcid) (packet : EapolPacket) {key : CipherKey}
    (made : pairwiseKeyOf (pAd.content wcid).wepStatus (pAd.content wcid).ptk true = some key) :
    (keysOf (.pairwise wcid) (upgraded pAd wcid packet).log).getLast? = some key ∧
    lastMessage4 wcid (upgraded pAd wcid packet).log = some packet := by
  rw [upgraded_log, made]
  constructor
  · rw [keysOf_append]
    have last : keysOf (.pairwise wcid) ((some key).toList.map (.pairwiseKey wcid)) = [key] :=
      List.filterMap_cons_some (if_pos rfl)
    rw [last, List.getLast?_concat]
  · rw [lastMessage4_quiet]
    · unfold lastMessage4
      have last : [WpaEvent.accepted wcid .pairMsg4 packet].filterMap (WpaEvent.message4 wcid) =
          [packet] := List.filterMap_cons_some (if_pos rfl)
      rw [List.filterMap_append, last, List.getLast?_concat]
    · intro event among
      obtain ⟨_, _, rfl⟩ := List.mem_map.mp among
      rfl

/-- What looks like a message 4 and is accepted answers message 3. -/
theorem Negotiated.isMessage3 {message1 : EapolPacket} {message2 : Sent}
    (negotiated : Negotiated crypto link peers message1 message2)
    (answers : Answers crypto link peers sent frame)
    (kinds : frame.branch = .pairMsg1 ∨ frame.branch = .pairMsg3 ∨ frame.branch = .groupMsg1)
    (branch : sent.1.branch = .pairMsg4)
    (current : frame.replayCounter = (peers.apEntry link).rCounter) :
    Counter.value frame.replayCounter = Counter.value message1.replayCounter + 1 := by
  rcases kinds with first | third | group
  · exact absurd current (negotiated.past answers.known first)
  · have bound := negotiated.lastMessage3 frame answers.known third
    have below := negotiated.below
    rw [current] at bound ⊢
    omega
  · have second := answers.groupMessage2 group
    rw [branch] at second
    cases second

/-- The key is installed and the state is upgraded. -/
theorem Linked.upgrade (linked : Linked crypto link peers)
    (client : (peers.apEntry link).isClient = true) (among : sent ∈ peers.answers link)
    (answers : Answers crypto link peers sent frame) (branch : sent.1.branch = .pairMsg4)
    (current : frame.replayCounter = (peers.apEntry link).rCounter)
    (late : WpaState.asPtkInitNegotiating.toNat ≤ (peers.apEntry link).wpaState.toNat) :
    Linked crypto link { peers with ap := upgraded peers.ap link.apWcid (sent.1.arrived tail) } := by
  obtain ⟨matched, counting⟩ := linked.alive client
  obtain ⟨message1, message2, negotiated⟩ := linked.negotiated late
  have moves := upgraded_moves matched (sent.1.arrived tail)
  obtain ⟨key, made⟩ := pairwiseKeyOf_isSome (peers.apEntry link).ptk
    (matched.cipher ▸ linked.paired) true
  obtain ⟨installed, accepted⟩ := upgraded_keys peers.ap link.apWcid (sent.1.arrived tail) made
  have content := upgraded_content peers.ap link.apWcid (sent.1.arrived tail)
  apply moves.linked linked client matched counting
  intro _
  refine ⟨message1, message2, negotiated.kept moves (by rw [content]; rfl) (by rw [content]; rfl)
    (by rw [content]; rfl) (by simp) ?_⟩
  intro _
  refine ⟨installed.trans made.symm, sent, among, tail, accepted, ?_⟩
  rw [← answers.counter]
  exact negotiated.isMessage3 answers (linked.kinds frame answers.known) branch current

theorem Linked.message4 (linked : Linked crypto link peers)
    (room : Counter.value (peers.apEntry link).rCounter + 1 < 2 ^ 64)
    (among : sent ∈ peers.answers link) (answers : Answers crypto link peers sent frame)
    (branch : sent.1.branch = .pairMsg4)
    (stepped : peerPairMsg4Action crypto env peers.ap link.apWcid (sent.1.elem link.staAddr tail) =
      some ap) :
    Linked crypto link { peers with ap := ap } := by
  obtain rfl | ⟨client, late, accepted, ending⟩ := peerPairMsg4Action_cases stepped
  · exact linked
  have counter : (sent.1.elem link.staAddr tail).packet.replayCounter =
      (peers.apEntry link).rCounter := counter_of_verdict rfl accepted
  have done : Linked crypto link
      { peers with ap := upgraded peers.ap link.apWcid (sent.1.arrived tail) } :=
    linked.upgrade client among answers branch (answers.counter.trans counter) late
  rcases ending with ⟨_, result⟩ | ⟨_, started, run, result⟩
  · rw [result]
    exact (quiet_establish _ link).linked done
  · have content := upgraded_content peers.ap link.apWcid (sent.1.arrived tail)
    have roomDone : Counter.value
        ((upgraded peers.ap link.apWcid (sent.1.arrived tail)).content link.apWcid).rCounter + 1 <
          2 ^ 64 := by
      rw [content]
      exact room
    have begun : Linked crypto link { peers with ap := started } := done.start2Way roomDone run
    have waiting := (quiet_retryGroup started link).linked begun
    rw [result]
    exact waiting

/-- A frame of the supplicant is answered, or it is stored, or it changes nothing. -/
theorem Linked.toAp (linked : Linked crypto link peers)
    (room : Counter.value (peers.apEntry link).rCounter + 1 < 2 ^ 64)
    (among : sent ∈ peers.answers link)
    (keeps : sent.1.branch = .pairMsg2 →
      WpaState.asPtkInitNegotiating.toNat ≤ (peers.apEntry link).wpaState.toNat →
        sent.1.keyNonce = (peers.apEntry link).sNonce)
    (stepped : wpaEapolKeyAction crypto env peers.ap (sent.1.elem link.staAddr tail) = some ap) :
    Linked crypto link { peers with ap := ap } := by
  obtain ⟨frame, answers⟩ := linked.answered sent among
  cases found : peers.ap.macTableLookup link.staAddr with
  | none =>
    unfold wpaEapolKeyAction at stepped
    have lost : peers.ap.macTableLookup (sent.1.elem link.staAddr tail).addr2 = none := found
    rw [lost] at stepped
    exact Option.some.inj stepped ▸ linked
  | some wcid =>
    obtain rfl := linked.apKnows wcid found
    obtain rfl | ⟨_, performed⟩ := eapolKeyAction_cases found stepped
    · exact linked
    have branch : (sent.1.elem link.staAddr tail).packet.branch = sent.1.branch := rfl
    rw [branch] at performed
    have kinds : sent.1.branch = .pairMsg2 ∨ sent.1.branch = .pairMsg4 ∨
        sent.1.branch = .groupMsg2 := by
      rcases linked.kinds frame answers.known with first | third | group
      · rcases (answers.message2 first).1 with second | fourth
        · exact .inl second
        · exact .inr (.inl fourth)
      · exact .inr (.inl (answers.message4 third).1)
      · exact .inr (.inr (answers.groupMessage2 group))
    rcases kinds with second | fourth | group
    · rw [second] at performed
      exact linked.message2 room among answers second (keeps second) performed
    · rw [fourth] at performed
      exact linked.message4 room among answers fourth performed
    · rw [group] at performed
      obtain rfl | ⟨_, result⟩ := peerGroupMsg2Action_cases performed
      · exact linked
      · have accepted := (quiet_accepted peers.ap link .groupMsg2
          (sent.1.elem link.staAddr tail).packet (by decide)).linked linked
        rw [result]
        exact (quiet_establish _ link).linked accepted

end ToAp

section Run

variable {crypto : KeyCrypto} {link : Link} {peers peers' : Peers}

/-- Before the handshake. -/
theorem Associated.linked (associated : Associated link peers) : Linked crypto link peers := by
  have noFrames : peers.apFrames link = [] := by
    unfold Peers.apFrames
    rw [associated.fresh.1]
    rfl
  have noAnswers : peers.answers link = [] := by
    unfold Peers.answers
    rw [associated.fresh.2]
    rfl
  have matched : Matched link peers := ⟨associated.pmk, associated.cached, associated.bssid,
    associated.addr, associated.cipher⟩
  have counting : Counting link peers := by
    constructor
    all_goals
      intro frame among
      rw [noFrames] at among
      cases among
  refine ⟨associated.ap, associated.sta, ?_, associated.staKnows, ?_,
    .inl ⟨associated.client, matched, counting⟩, ?_, ?_, ?_, ?_, ?_⟩
  · intro wcid found
    rw [associated.apKnows] at found
    exact (Option.some.inj found).symm
  · rw [← associated.cipher]
    exact associated.paired
  · rw [noFrames]
    exact List.Pairwise.nil
  · intro frame among
    rw [noFrames] at among
    cases among
  · intro frame among
    rw [noFrames] at among
    cases among
  · intro sent among
    rw [noAnswers] at among
    cases among
  · intro late
    have before := associated.waiting
    have order : WpaState.asPtkStart.toNat < WpaState.asPtkInitNegotiating.toNat := by decide
    omega

theorem Linked.step (linked : Linked crypto link peers) (event : HandshakeEvent)
    (keeps : KeepsNonce link peers event)
    (stepped : handshakeStep crypto link peers event = some peers') :
    Linked crypto link peers' := by
  obtain ⟨room, keeps⟩ := keeps
  cases event with
  | start env random =>
    obtain ⟨ap, started, rfl⟩ := Option.map_eq_some_iff.mp stepped
    exact linked.start4Way room started
  | retry env random memory =>
    obtain ⟨ap, retried, rfl⟩ := Option.map_eq_some_iff.mp stepped
    exact linked.retry room retried
  | toStation index env tail =>
    obtain ⟨frame, found, handled⟩ := Option.bind_eq_some_iff.mp stepped
    obtain ⟨sta, received, rfl⟩ := Option.map_eq_some_iff.mp handled
    exact linked.toStation (List.mem_of_getElem? found) received
  | toAp index env tail =>
    obtain ⟨p, found, handled⟩ := Option.bind_eq_some_iff.mp stepped
    obtain ⟨ap, received, rfl⟩ := Option.map_eq_some_iff.mp handled
    have among := List.mem_of_getElem? found
    rw [← sentUnder_map_fst none] at among
    obtain ⟨sent, answered, rfl⟩ := List.mem_map.mp among
    exact linked.toAp room answered (keeps sent.1 found) received

/-- The two sides agree on the key in every state of a run in which no message 2 changes the SNonce
once message 3 is out. -/
theorem handshake_agreement (associated : Associated link peers) (events : List HandshakeEvent)
    (keeps : ThroughoutOption (handshakeStep crypto link) (KeepsNonce link) peers events)
    (ends : runOption (handshakeStep crypto link) peers events = some peers') :
    Agreement link peers' := by
  have linked : Linked crypto link peers' :=
    runOption_invariant (Linked crypto link)
      (fun _ event _ linked keeps stepped => linked.step event keeps stepped)
      associated.linked events keeps ends
  exact linked.agreement

end Run

section Example

/-- A PTK of the two nonces, so that it changes with each of them. -/
def echoCrypto : KeyCrypto :=
  { zeroCrypto with
    wpaDerivePtk := fun _ aNonce _ sNonce _ => Bytes.ofList 64 (aNonce.val ++ sNonce.val) }

def shortRsnIe : RsnIe := ⟨fun i => [1, 0, 0x00, 0x0f, 0xac, 4].getD i 0, 6⟩

def newPeers : Peers where
  ap := { newStation with
    opMode := .ap
    mbssid := fun _ => { emptyMbss with rsnIe := (shortRsnIe, noRsnIe) } }
  sta := { newStation with staCfg := { newStation.staCfg with rsnIe := shortRsnIe } }

def newLink : Link := ⟨Transmit.bssidWcid, Transmit.bssidWcid, fun _ => 0, fun _ => 0⟩

def repeated (byte : UInt8) : Bytes 32 := Bytes.ofList 32 (List.replicate 32 byte)

def drawing (byte : UInt8) : HandleEnv := { fullEnv with random := repeated byte }

/-- The four messages, none of them lost. -/
def fourMessages : List HandshakeEvent :=
  [.start (fullEnv.build Transmit.bssidWcid) (repeated 3), .toStation 0 (drawing 1) (fun _ => 0),
    .toAp 0 fullEnv (fun _ => 0), .toStation 1 fullEnv (fun _ => 0), .toAp 1 fullEnv (fun _ => 0)]

/-- Message 1 is sent twice and answered twice, and the first answer comes in last. -/
def lateMessage2 : List HandshakeEvent :=
  [.start (fullEnv.build Transmit.bssidWcid) (repeated 3), .toStation 0 (drawing 1) (fun _ => 0),
    .retry (fullEnv.build Transmit.bssidWcid) (repeated 3) true,
    .toStation 1 (drawing 2) (fun _ => 0), .toAp 1 fullEnv (fun _ => 0),
    .toStation 2 fullEnv (fun _ => 0), .toAp 2 fullEnv (fun _ => 0), .toAp 0 fullEnv (fun _ => 0)]

theorem associated_newPeers : Associated newLink newPeers := by
  refine ⟨rfl, rfl, rfl, rfl, ⟨rfl, rfl⟩, by decide, rfl, rfl, ?_, rfl, rfl, rfl, .inr rfl⟩
  intro pmkid among
  cases among

theorem handshake_agreement_fourMessages :
    ∃ peers', runOption (handshakeStep echoCrypto newLink) newPeers fourMessages = some peers' ∧
      (peers'.apEntry newLink).wpaState = .asPtkInitDone ∧ Agreement newLink peers' := by
  have done : ((runOption (handshakeStep echoCrypto newLink) newPeers fourMessages).map
      fun peers' => (peers'.apEntry newLink).wpaState) = some .asPtkInitDone := by decide +kernel
  obtain ⟨peers', ends, state⟩ := Option.map_eq_some_iff.mp done
  exact ⟨peers', ends, state,
    handshake_agreement associated_newPeers fourMessages (by decide +kernel) ends⟩

/-- The authenticator is done, and its PTK is no more the one of the key that it has installed. -/
theorem agreement_lateMessage2 :
    ∃ peers', Associated newLink newPeers ∧
      runOption (handshakeStep echoCrypto newLink) newPeers lateMessage2 = some peers' ∧
      ¬ Agreement newLink peers' := by
  have done : ((runOption (handshakeStep echoCrypto newLink) newPeers lateMessage2).map
      fun peers' => decide ((peers'.apEntry newLink).wpaState = .asPtkInitDone ∧
        (keysOf (.pairwise newLink.apWcid) peers'.ap.log).getLast? ≠
          pairwiseKeyOf (peers'.apEntry newLink).wepStatus (peers'.apEntry newLink).ptk true)) =
      some true := by decide +kernel
  obtain ⟨peers', ends, holds⟩ := Option.map_eq_some_iff.mp done
  obtain ⟨state, differ⟩ := of_decide_eq_true holds
  refine ⟨peers', associated_newPeers, ends, ?_⟩
  intro agreement
  obtain ⟨key, message4, installed, made, _⟩ := agreement state
  exact differ (installed.trans made.symm)

end Example

end Mt7612u.Wpa
