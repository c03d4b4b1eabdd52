import Mt7612u.Transmit.FrameDisposal

/-! The fragment functions free the packet with the last fragment, or whenever a write is refused,
and go on with the next fragment all the same. From this and the other kinds of frames follows
when the transmit functions dispose of what they are given. -/

namespace Mt7612u.Transmit
open BlockAck (Packet Wcid OpMode)
open Library.Ownership

/-- The fragments of a packet are written one behind the other, or one is refused, and then the
packet is freed. -/
def FragmentsLife (skb : Packet) (offset len : Nat) (life : List TxEvent) : Prop :=
  PacketLife skb [] life ∧ (∀ event ∈ life, ∀ newskb, event ≠ .copied skb newskb) ∧
    (.refused skb ∈ life ∨ writtenBytes life skb = List.range' offset len)

section fragments

variable {setting : FrameSetting} {skb : Packet}

theorem fragmentsLife_last (n offset len : Nat) :
    FragmentsLife skb offset len
      (.read skb :: writeFragTxResource setting skb n (BitVec.ofNat 8 n) offset len) := by
  unfold writeFragTxResource
  cases fragmentAccepted setting skb n with
  | true =>
    refine ⟨⟨[.read skb, .written skb offset len], by simp, ?_⟩, by simp, Or.inr ?_⟩
    · simp [TxEvent.packet]
    · simp [TxEvent.bytesOf]
  | false =>
    refine ⟨⟨[.read skb, .refused skb], by simp, ?_⟩, by simp, Or.inl (by simp)⟩
    simp [TxEvent.packet]

theorem fragmentsLife_more {offset room len : Nat} {life : List TxEvent}
    (later : FragmentsLife skb (offset + room) len life) :
    FragmentsLife skb offset (room + len) (.read skb :: .written skb offset room :: life) := by
  obtain ⟨⟨body, rfl, theirs⟩, uncopied, outcome⟩ := later
  refine ⟨⟨.read skb :: .written skb offset room :: body, by simp, ?_⟩, ?_, ?_⟩
  · intro event inside
    rcases List.mem_cons.mp inside with rfl | inside
    · exact ⟨List.mem_cons_self, fun _ => nofun⟩
    · rcases List.mem_cons.mp inside with rfl | behind
      · exact ⟨List.mem_cons_self, fun _ => nofun⟩
      · exact theirs event behind
  · simpa using uncopied
  · rcases outcome with refused | whole
    · left
      simpa using refused
    · right
      rw [writtenBytes_cons, writtenBytes_cons, whole]
      simp [TxEvent.bytesOf, List.range'_append_1]

/-- `fragNum` counts up to 255. -/
theorem fragNum_eq_iff {n m : Nat} (small : n ≤ 255) (bound : m ≤ 255) :
    BitVec.ofNat 8 n = BitVec.ofNat 8 m ↔ n = m := by
  rw [BitVec.toNat_eq, BitVec.toNat_ofNat, BitVec.toNat_ofNat, Nat.mod_eq_of_lt (by omega),
    Nat.mod_eq_of_lt (by omega)]

/-- A write that is not the last one frees the packet when the ring is not ready, and it takes
fragment 255 for the last one in any case. -/
theorem writeFragTxResource_more {n offset room : Nat} (small : n ≤ 255) :
    writeFragTxResource setting skb n 0xff offset room =
      if n < 255 ∧ fragmentAccepted setting skb n then [.written skb offset room]
      else if fragmentAccepted setting skb n then [.written skb offset room, .freed skb]
      else [.refused skb, .freed skb] := by
  have last : BitVec.ofNat 8 n = 0xff ↔ n = 255 := fragNum_eq_iff small le_rfl
  unfold writeFragTxResource
  by_cases accepted : fragmentAccepted setting skb n = true
  · by_cases inside : n < 255
    · rw [if_pos accepted, if_neg (mt last.mp (by omega)), if_pos ⟨inside, accepted⟩]
    · rw [if_pos accepted, if_pos (last.mpr (by omega)), if_neg (fun both => inside both.1),
        if_pos accepted]
  · rw [if_neg accepted, if_neg (fun both => accepted both.2), if_neg accepted]

theorem fragmentLoop_last {encap : Bool} {turns n mpduHeaderLen offset len : Nat}
    (fits : len ≤ freeMpduSize setting mpduHeaderLen) :
    fragmentLoop setting skb encap (turns + 1) n mpduHeaderLen offset len =
      .read skb :: writeFragTxResource setting skb n (BitVec.ofNat 8 n) offset len := by
  simp only [fragmentLoop, if_pos fits]

/-- `MpduHeaderLen` behind fragment `n`. -/
def nextHeaderLen (encap : Bool) (n mpduHeaderLen : Nat) : Nat :=
  if BitVec.ofNat 8 n = 0 ∧ encap then mpduHeaderLen - length8021H else mpduHeaderLen

theorem nextHeaderLen_later {encap : Bool} {n : Nat} (later : 1 ≤ n) (small : n ≤ 255)
    (mpduHeaderLen : Nat) : nextHeaderLen encap n mpduHeaderLen = mpduHeaderLen := by
  apply if_neg
  rintro ⟨first, -⟩
  have zero : n = 0 := (fragNum_eq_iff small (Nat.zero_le 255)).mp first
  omega

theorem fragmentLoop_more {encap : Bool} {turns n mpduHeaderLen offset len room : Nat}
    (size : freeMpduSize setting mpduHeaderLen = room) (more : room < len) :
    fragmentLoop setting skb encap (turns + 1) n mpduHeaderLen offset len =
      .read skb :: (writeFragTxResource setting skb n 0xff offset room ++
        fragmentLoop setting skb encap turns (n + 1) (nextHeaderLen encap n mpduHeaderLen)
          (offset + room) (len - room)) := by
  subst size
  simp only [fragmentLoop, if_neg (not_le.mpr more), nextHeaderLen]

/-- Every turn begins with a look at the packet. -/
theorem fragmentLoop_reads {encap : Bool} {turns n mpduHeaderLen offset len : Nat}
    (enough : 0 < turns) :
    ∃ rest, fragmentLoop setting skb encap turns n mpduHeaderLen offset len =
      .read skb :: rest := by
  cases turns with
  | zero => exact absurd enough (lt_irrefl 0)
  | succ turns =>
    by_cases fits : len ≤ freeMpduSize setting mpduHeaderLen
    · exact ⟨_, fragmentLoop_last fits⟩
    · exact ⟨_, fragmentLoop_more rfl (not_le.mp fits)⟩

/-- When the loop goes on after the packet was freed, the packet is used again. -/
theorem fragmentLoop_unsafe {encap : Bool} {turns n mpduHeaderLen offset len room : Nat}
    (size : freeMpduSize setting mpduHeaderLen = room) (more : room < len) (enough : 0 < turns)
    (small : n ≤ 255) (broken : ¬ (n < 255 ∧ fragmentAccepted setting skb n)) :
    ¬ Safe TxEvent.packet TxEvent.freed
      (fragmentLoop setting skb encap (turns + 1) n mpduHeaderLen offset len) := by
  rw [fragmentLoop_more size more, writeFragTxResource_more small, if_neg broken]
  obtain ⟨rest, goesOn⟩ := @fragmentLoop_reads setting skb encap turns (n + 1)
    (nextHeaderLen encap n mpduHeaderLen) (offset + room) (len - room) enough
  rw [goesOn]
  cases fragmentAccepted setting skb n with
  | true =>
    simpa using @not_safe _ _ TxEvent.packet TxEvent.freed skb (.read skb) rfl
      [.read skb, .written skb offset room] [] rest
  | false =>
    simpa using @not_safe _ _ TxEvent.packet TxEvent.freed skb (.read skb) rfl
      [.read skb, .refused skb] [] rest

/-- One turn that is not the last one, with the ring ready. -/
theorem fragmentLoop_turn {encap : Bool} {turns n mpduHeaderLen offset len room : Nat}
    (size : freeMpduSize setting mpduHeaderLen = room) (more : room < len)
    (accepted : n < 255 ∧ fragmentAccepted setting skb n) :
    fragmentLoop setting skb encap (turns + 1) n mpduHeaderLen offset len =
      .read skb :: .written skb offset room ::
        fragmentLoop setting skb encap turns (n + 1) (nextHeaderLen encap n mpduHeaderLen)
          (offset + room) (len - room) := by
  rw [fragmentLoop_more size more, writeFragTxResource_more (by omega), if_pos accepted]
  rfl

/-- The fragments behind the first one, which all have the same room. -/
theorem laterFragments_life {encap : Bool} {turns n mpduHeaderLen offset len room : Nat}
    (later : 1 ≤ n) (small : n ≤ 255) (enough : len < turns) (positive : 0 < room)
    (size : freeMpduSize setting mpduHeaderLen = room)
    (accepted : ∀ j, room + j * room < len →
      n + j < 255 ∧ fragmentAccepted setting skb (n + j)) :
    FragmentsLife skb offset len
      (fragmentLoop setting skb encap turns n mpduHeaderLen offset len) := by
  induction turns generalizing n offset len with
  | zero => exact absurd enough (Nat.not_lt_zero len)
  | succ turns ih =>
    by_cases fits : len ≤ room
    · rw [fragmentLoop_last (size ▸ fits)]
      exact fragmentsLife_last n offset len
    · have more := not_le.mp fits
      have first : n < 255 ∧ fragmentAccepted setting skb n := accepted 0 (by omega)
      rw [fragmentLoop_turn size more first, nextHeaderLen_later later small]
      have split : len = room + (len - room) := by omega
      rw [split, Nat.add_sub_cancel_left]
      apply fragmentsLife_more
      apply ih (by omega) (by omega) (by omega)
      intro j behind
      have next := accepted (j + 1) (by rw [Nat.add_mul]; omega)
      rwa [Nat.add_comm j 1, ← Nat.add_assoc] at next

theorem laterFragments_accepted {encap : Bool} {turns n mpduHeaderLen offset len room : Nat}
    (later : 1 ≤ n) (small : n ≤ 255) (enough : len < turns) (positive : 0 < room)
    (size : freeMpduSize setting mpduHeaderLen = room)
    (safe : Safe TxEvent.packet TxEvent.freed
      (fragmentLoop setting skb encap turns n mpduHeaderLen offset len)) (j : Nat)
    (behind : room + j * room < len) :
    n + j < 255 ∧ fragmentAccepted setting skb (n + j) := by
  induction turns generalizing n offset len j with
  | zero => exact absurd enough (Nat.not_lt_zero len)
  | succ turns ih =>
    have more : room < len := by omega
    have first : n < 255 ∧ fragmentAccepted setting skb n := by
      by_contra broken
      exact fragmentLoop_unsafe size more (by omega) small broken safe
    cases j with
    | zero => exact first
    | succ j =>
      rw [fragmentLoop_turn size more first, nextHeaderLen_later later small] at safe
      have rest := safe.part ((List.suffix_cons _ _).isInfix.trans (List.suffix_cons _ _).isInfix)
      rw [Nat.add_mul, Nat.one_mul] at behind
      have next := ih (by omega) (by omega) (by omega) rest j (by omega)
      rwa [Nat.add_assoc, Nat.add_comm 1 j] at next

theorem freeMpduSize_pos (setting : FrameSetting) (bWMM encap : Bool) :
    0 < freeMpduSize setting (fragmentHeaderLen bWMM encap) := by
  have bound := setting.threshold_ge
  unfold freeMpduSize fragmentHeaderLen lengthCrc sizeofHeader80211 length8021H
  unfold minFragThreshold at bound
  split_ifs <;> omega

theorem nextHeaderLen_first (bWMM encap : Bool) :
    nextHeaderLen encap 0 (fragmentHeaderLen bWMM encap) = fragmentHeaderLen bWMM false := by
  cases encap with
  | true => exact Nat.add_sub_cancel _ _
  | false => exact if_neg (fun both => Bool.false_ne_true both.2)

theorem sendFragments_life {pTxBlk : TxBlkInfo} {pPacket : Packet}
    (accepted : FragmentsAccepted setting pTxBlk pPacket skb) :
    FragmentsLife skb 0 (fragmentedLen setting pPacket)
      (sendFragments setting pTxBlk pPacket skb) := by
  simp only [FragmentsAccepted] at accepted
  simp only [sendFragments]
  generalize (setting.packet pPacket).extraLlcSnapEncap = encap at accepted ⊢
  generalize fragmentedLen setting pPacket = len at accepted ⊢
  have positive := freeMpduSize_pos setting pTxBlk.bWMM encap
  obtain ⟨first, size⟩ : ∃ first, freeMpduSize setting (fragmentHeaderLen pTxBlk.bWMM encap) =
    first := ⟨_, rfl⟩
  rw [size] at accepted positive
  by_cases fits : len ≤ first
  · rw [fragmentLoop_last (size ▸ fits)]
    exact fragmentsLife_last 0 0 len
  · have more := not_le.mp fits
    have ready := accepted 0 (by rwa [Nat.zero_mul, Nat.add_zero])
    rw [fragmentLoop_turn size more ready, nextHeaderLen_first]
    obtain ⟨behind, rfl⟩ : ∃ behind, len = first + behind := ⟨len - first, by omega⟩
    rw [Nat.add_sub_cancel_left]
    apply fragmentsLife_more
    apply laterFragments_life le_rfl (by omega) (by omega)
      (freeMpduSize_pos setting pTxBlk.bWMM false) rfl
    intro j inside
    have there := accepted (j + 1) (by rw [Nat.add_mul]; omega)
    rwa [Nat.add_comm j 1] at there

theorem sendFragments_accepted {pTxBlk : TxBlkInfo} {pPacket : Packet}
    (safe : Safe TxEvent.packet TxEvent.freed (sendFragments setting pTxBlk pPacket skb)) :
    FragmentsAccepted setting pTxBlk pPacket skb := by
  simp only [FragmentsAccepted]
  simp only [sendFragments] at safe
  generalize (setting.packet pPacket).extraLlcSnapEncap = encap at safe ⊢
  generalize fragmentedLen setting pPacket = len at safe ⊢
  have positive := freeMpduSize_pos setting pTxBlk.bWMM encap
  obtain ⟨first, size⟩ : ∃ first, freeMpduSize setting (fragmentHeaderLen pTxBlk.bWMM encap) =
    first := ⟨_, rfl⟩
  rw [size] at positive ⊢
  intro n behind
  have more : first < len := by omega
  have ready : 0 < 255 ∧ fragmentAccepted setting skb 0 := by
    by_contra broken
    exact fragmentLoop_unsafe size more (by omega) (Nat.zero_le 255) broken safe
  cases n with
  | zero => exact ready
  | succ j =>
    rw [fragmentLoop_turn size more ready, nextHeaderLen_first] at safe
    have rest := safe.part ((List.suffix_cons _ _).isInfix.trans (List.suffix_cons _ _).isInfix)
    rw [Nat.add_mul, Nat.one_mul] at behind
    have later := laterFragments_accepted le_rfl (by omega) (by omega)
      (freeMpduSize_pos setting pTxBlk.bWMM false) rfl rest j (by omega)
    rwa [Nat.add_comm 1 j] at later

end fragments

section fragmentKind

variable {setting : FrameSetting} {len : Packet → Nat} {pPacket skb : Packet}
  {life : List TxEvent}

theorem FragmentsLife.packet_eq {offset n : Nat} (fragments : FragmentsLife skb offset n life)
    {event : TxEvent} (inside : event ∈ life) : event.packet = skb := by
  have about := fragments.1.about_mem (fun _ => rfl) inside
  rwa [List.mem_singleton] at about

/-- A packet that is sent in fragments itself. -/
theorem FragmentsLife.life_fate (fragments : FragmentsLife skb 0 (len skb) life) :
    PacketLife skb [] (.read skb :: life) ∧ Fate len skb (.read skb :: life) := by
  obtain ⟨body, split, theirs⟩ := fragments.1
  refine ⟨⟨.read skb :: body, by rw [split, List.cons_append], ?_⟩, ?_, ?_, ?_⟩
  · intro event inside
    rcases List.mem_cons.mp inside with rfl | behind
    · exact ⟨List.mem_cons_self, fun _ => nofun⟩
    · exact theirs event behind
  · intro other apart
    apply writtenBytes_of_packet_ne
    intro event inside same
    rcases List.mem_cons.mp inside with rfl | behind
    · exact apart same.symm
    · exact apart (same.symm.trans (fragments.packet_eq behind))
  · intro copied newskb inside
    rcases List.mem_cons.mp inside with same | behind
    · cases same
    · have same : copied = skb := fragments.packet_eq behind
      subst same
      exact fragments.2.1 _ behind newskb rfl
  · rcases fragments.2.2 with refused | whole
    · exact Or.inl (List.mem_cons_of_mem _ refused)
    · right
      rw [writtenBytes_cons, whole, List.range_eq_range']
      rfl

/-- A packet is freed when its copy was made, and the copy is sent in fragments. -/
theorem copied_disposed (fresh : skb ≠ pPacket)
    (fragments : FragmentsLife skb 0 (len pPacket) life) :
    Disposed len [pPacket]
      (.read pPacket :: ([.copied pPacket skb, .freed pPacket] ++ life)) := by
  have first : PacketLife pPacket [skb] [.read pPacket, .copied pPacket skb, .freed pPacket] :=
    ⟨[.read pPacket, .copied pPacket skb], rfl, by simp [TxEvent.packet]⟩
  have lives : Lives TxEvent.packet TxEvent.freed (fun _ _ => True) [pPacket, skb]
      (.read pPacket :: ([.copied pPacket skb, .freed pPacket] ++ life)) :=
    Lives.cons first trivial (Lives.single fragments.1 trivial)
  have distinct : [pPacket, skb].Nodup := by simp [fresh.symm]
  have copies : ∀ other newskb,
      .copied other newskb ∈ .read pPacket :: ([.copied pPacket skb, .freed pPacket] ++ life) →
        newskb = skb := by
    intro other newskb inside
    simp only [List.cons_append, List.nil_append, List.mem_cons, reduceCtorEq, false_or,
      TxEvent.copied.injEq] at inside
    rcases inside with ⟨-, rfl⟩ | behind
    · rfl
    · have same : other = skb := fragments.packet_eq behind
      subst same
      exact absurd rfl (fragments.2.1 _ behind newskb)
  constructor
  · exact lives.safe (fun _ => rfl) freed_injective distinct
  · rintro other (only | ⟨copied, inside⟩)
    · rw [lives.count_release freed_injective, List.mem_singleton.mp only]
      exact List.count_eq_one_of_mem distinct List.mem_cons_self
    · rw [lives.count_release freed_injective, copies copied other inside]
      exact List.count_eq_one_of_mem distinct (by simp)
  · intro other only
    rw [List.mem_singleton.mp only]
    refine ⟨skb, Or.inr (by simp), ?_⟩
    rcases fragments.2.2 with refused | whole
    · left
      simp [refused]
    · right
      simp [TxEvent.bytesOf, whole, List.range_eq_range']

theorem duplicatePktWithTkipMic_cases (setting : FrameSetting) (pPacket : Packet) :
    duplicatePktWithTkipMic setting pPacket = ([.refused pPacket, .freed pPacket], none) ∨
      duplicatePktWithTkipMic setting pPacket = ([], some pPacket) ∨
      ∃ newskb, newskb ≠ pPacket ∧ duplicatePktWithTkipMic setting pPacket =
        ([.copied pPacket newskb, .freed pPacket], some newskb) := by
  unfold duplicatePktWithTkipMic
  by_cases tight : (setting.packet pPacket).tailroom < tkipTxMicSize
  · rw [if_pos tight]
    cases copied : setting.copyExpand pPacket with
    | none => exact Or.inl rfl
    | some newskb =>
      refine Or.inr (Or.inr ⟨newskb, ?_, rfl⟩)
      rintro rfl
      exact setting.copy_fresh newskb copied
  · rw [if_neg tight]
    exact Or.inr (Or.inl rfl)

theorem fragmentFrame_accepted {opMode : OpMode} {events : List TxEvent}
    (done : fragmentFrame opMode setting pPacket = some events)
    (safe : Safe TxEvent.packet TxEvent.freed events) {pTxBlk : TxBlkInfo}
    (filled : rtmpFillTxBlkInfo opMode setting pPacket = some pTxBlk)
    (sends : skbToSend setting pPacket = some skb) :
    FragmentsAccepted setting pTxBlk pPacket skb := by
  apply sendFragments_accepted
  simp only [fragmentFrame, filled] at done
  unfold skbToSend at sends
  by_cases tkip : setting.cipherAlg pPacket = cipherTkip
  · simp only [tkip, ↓reduceIte] at done sends
    obtain ⟨early, taken⟩ : ∃ early, duplicatePktWithTkipMic setting pPacket = (early, some skb) :=
      ⟨_, Prod.ext rfl sends⟩
    simp only [taken, Option.some.injEq] at done
    subst done
    exact safe.part ((List.suffix_append early _).isInfix.trans (List.suffix_cons _ _).isInfix)
  · simp only [tkip, ↓reduceIte, Option.some.injEq] at done sends
    subst done sends
    exact safe.part (List.suffix_cons _ _).isInfix

theorem fragmentFrame_disposed {opMode : OpMode}
    (accepted : ∀ pTxBlk skb, rtmpFillTxBlkInfo opMode setting pPacket = some pTxBlk →
      skbToSend setting pPacket = some skb → FragmentsAccepted setting pTxBlk pPacket skb) :
    ∃ events, fragmentFrame opMode setting pPacket = some events ∧
      Disposed (fragmentedLen setting) [pPacket] events := by
  cases filled : rtmpFillTxBlkInfo opMode setting pPacket with
  | none =>
    refine ⟨_, ?_, life_disposed (dropFrame_life _ pPacket [])⟩
    simp only [fragmentFrame, filled]
  | some pTxBlk =>
    by_cases tkip : setting.cipherAlg pPacket = cipherTkip
    · rcases duplicatePktWithTkipMic_cases setting pPacket with
        failed | roomy | ⟨newskb, fresh, copied⟩
      · refine ⟨_, ?_, life_disposed (dropFrame_life _ pPacket [])⟩
        simp only [fragmentFrame, filled, tkip, ↓reduceIte, failed]
        rfl
      · have ready := accepted pTxBlk pPacket filled (by simp [skbToSend, tkip, roomy])
        refine ⟨_, ?_, life_disposed (sendFragments_life ready).life_fate⟩
        simp only [fragmentFrame, filled, tkip, ↓reduceIte, roomy, List.nil_append]
      · have ready := accepted pTxBlk newskb filled (by simp [skbToSend, tkip, copied])
        refine ⟨_, ?_, copied_disposed fresh (sendFragments_life ready)⟩
        simp only [fragmentFrame, filled, tkip, ↓reduceIte, copied]
    · have ready := accepted pTxBlk pPacket filled (by simp [skbToSend, tkip])
      refine ⟨_, ?_, life_disposed (sendFragments_life ready).life_fate⟩
      simp only [fragmentFrame, filled, tkip, ↓reduceIte]

theorem fragment_disposes_iff (opMode : OpMode) {packets : List Packet} :
    (∃ events, headFrame (fragmentFrame opMode setting) packets = some (events, []) ∧
      Disposed (fragmentedLen setting) packets events) ↔
      ∃ pPacket, packets = [pPacket] ∧ ∀ pTxBlk skb,
        rtmpFillTxBlkInfo opMode setting pPacket = some pTxBlk →
          skbToSend setting pPacket = some skb →
            FragmentsAccepted setting pTxBlk pPacket skb := by
  apply Iff.trans headFrame_disposes_iff
  constructor
  · rintro ⟨pPacket, events, only, done, disposed⟩
    exact ⟨pPacket, only, fun _ _ => fragmentFrame_accepted done disposed.safe⟩
  · rintro ⟨pPacket, only, accepted⟩
    obtain ⟨events, done, disposed⟩ := fragmentFrame_disposed accepted
    exact ⟨pPacket, events, only, done, disposed⟩

end fragmentKind

/-- `TxPacketList`: a packet is linked into it once. -/
structure TxPacketList where
  entries : List Packet
  distinct : entries.Nodup

/-- The transmit functions dispose of every packet exactly once, its bytes in the ring unless it
was refused, when and only when: `AP_AMPDU_Frame_Tx` is given one packet that it drops; no packet
that the A-MSDU and Ralink functions of the access point send has counters of a BSS; the other
functions for one packet are given one; the first packet a Ralink function sends has another one
behind it; and of a packet in fragments all writes but the last one find the ring ready. -/
theorem frameTx_disposes_iff (opMode : OpMode) (kind : FrameKind) (setting : FrameSetting)
    (packets : TxPacketList) :
    DisposesOfAll opMode kind setting packets.entries ↔
      DisposesWhen setting packets.entries opMode kind := by
  cases opMode with
  | ap =>
    cases kind with
    | ampdu => exact apAmpdu_disposes_iff
    | amsdu => exact apAmsdu_disposes_iff packets.distinct
    | legacy => exact legacy_disposes_iff .ap
    | ralink => exact apARalink_disposes_iff packets.distinct
    | fragment => exact fragment_disposes_iff .ap
  | sta =>
    cases kind with
    | ampdu => exact staAmpdu_disposes_iff packets.distinct
    | amsdu => exact iff_of_true (staAmsdu_disposes packets.distinct) trivial
    | legacy => exact legacy_disposes_iff .sta
    | ralink => exact staARalink_disposes_iff packets.distinct
    | fragment => exact fragment_disposes_iff .sta

/-- An associated client of an access point, and a bulk ring with room. -/
def clientFrames : FrameSetting where
  packet _ := ⟨fun _ => 0, 60, bssidWcid, false, 64, by decide⟩
  content _ := ⟨.client, some 0, true⟩
  -- The batch that packet 1 begins is still being written when the next packet comes.
  ring pPacket _ := ⟨pPacket != 1, 4096, 4096, 4096⟩
  wmmInUsed := true
  fragmentThreshold := 2346
  threshold_ge := by decide
  cipherAlg _ := cipherNone
  copyExpand _ := none
  copy_fresh _ := nofun

/-- The access point forgets the packet of an A-MPDU frame, and looks at a packet of an A-MSDU
frame that is already freed. -/
theorem apFrames_not_disposed :
    apAmpduFrameTx clientFrames [1] = some ([.read 1], []) ∧
      ¬ DisposesOfAll .ap .ampdu clientFrames [1] ∧
      apAmsduFrameTx clientFrames [1, 2] = some ([.read 1, .written 1 0 46, .freed 1, .read 1,
        .read 2, .written 2 0 46, .freed 2, .read 2], []) ∧
      ¬ DisposesOfAll .ap .amsdu clientFrames [1, 2] := by
  refine ⟨by decide, ?_, by decide, ?_⟩
  · rw [apAmpdu_disposes_iff]
    rintro ⟨pPacket, -, refused⟩
    cases refused
  · rw [apAmsdu_disposes_iff (by decide)]
    intro uncounted
    have unbound := (uncounted 1 (by decide) _ rfl).2
    cases unbound

end Mt7612u.Transmit
