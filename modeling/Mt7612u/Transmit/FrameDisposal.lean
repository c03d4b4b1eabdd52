import Mt7612u.Transmit.FrameTx

/-! When a frame transmit function disposes of all the packets it is given: each is freed once
and not used after that, and its bytes are in the bulk ring unless somebody refused it. -/

namespace Mt7612u.Transmit
open BlockAck (Packet Wcid OpMode)
open Library.Ownership

/-- The bytes of a packet that an event copies into the bulk ring. -/
def TxEvent.bytesOf (pPacket : Packet) : TxEvent → List Nat
  | .written other offset len => if other = pPacket then List.range' offset len else []
  | _ => []

def writtenBytes (events : List TxEvent) (pPacket : Packet) : List Nat :=
  events.flatMap (TxEvent.bytesOf pPacket)

/-- Every packet, and every copy made of one, is freed once and not used any more after that. Of
each packet all `len` bytes are written into the ring, from it or from its copy, unless it was
refused. -/
structure Disposed (len : Packet → Nat) (packets : List Packet) (events : List TxEvent) : Prop where
  safe : Safe TxEvent.packet TxEvent.freed events
  freedOnce : ∀ pPacket, (pPacket ∈ packets ∨ ∃ skb, .copied skb pPacket ∈ events) →
    events.count (.freed pPacket) = 1
  sent : ∀ pPacket ∈ packets, ∃ skb, (skb = pPacket ∨ .copied pPacket skb ∈ events) ∧
    (.refused skb ∈ events ∨ writtenBytes events skb = List.range (len pPacket))

/-- The bytes behind the header that a kind of frame has for a packet. -/
def frameLen : FrameKind → FrameSetting → Packet → Nat
  | .fragment => fragmentedLen
  | _ => srcBufLen

/-- A transmit function follows no null pointer, leaves no packet in `TxPacketList`, and disposes
of them all. -/
def DisposesOfAll (opMode : OpMode) (kind : FrameKind) (setting : FrameSetting)
    (packets : List Packet) : Prop :=
  ∃ events, frameTx opMode kind setting packets = some (events, []) ∧
    Disposed (frameLen kind setting) packets events

/-- What is to happen to a packet in its part of the trace. -/
def Fate (len : Packet → Nat) (pPacket : Packet) (life : List TxEvent) : Prop :=
  (∀ other, other ≠ pPacket → writtenBytes life other = []) ∧
    (∀ skb newskb, .copied skb newskb ∉ life) ∧
    (.refused pPacket ∈ life ∨ writtenBytes life pPacket = List.range (len pPacket))

abbrev PacketLife := Life TxEvent.packet TxEvent.freed
abbrev PacketLives (len : Packet → Nat) := Lives TxEvent.packet TxEvent.freed (Fate len)

theorem freed_injective : Function.Injective TxEvent.freed := fun _ _ => TxEvent.freed.inj

@[simp] theorem writtenBytes_nil (pPacket : Packet) : writtenBytes [] pPacket = [] := rfl

@[simp] theorem writtenBytes_cons (event : TxEvent) (events : List TxEvent) (pPacket : Packet) :
    writtenBytes (event :: events) pPacket =
      event.bytesOf pPacket ++ writtenBytes events pPacket := rfl

@[simp] theorem writtenBytes_append (early late : List TxEvent) (pPacket : Packet) :
    writtenBytes (early ++ late) pPacket =
      writtenBytes early pPacket ++ writtenBytes late pPacket := List.flatMap_append

theorem writtenBytes_of_packet_ne {events : List TxEvent} {pPacket : Packet}
    (others : ∀ event ∈ events, event.packet ≠ pPacket) : writtenBytes events pPacket = [] := by
  apply List.flatMap_eq_nil_iff.mpr
  intro event inside
  cases event with
  | written other offset len => exact if_neg (others _ inside)
  | read | refused | copied | freed => rfl

section lives

variable {len : Packet → Nat} {packets : List Packet} {events : List TxEvent}

theorem lives_not_copied (lives : PacketLives len packets events) (skb newskb : Packet) :
    .copied skb newskb ∉ events := by
  induction lives with
  | nil => exact List.not_mem_nil
  | cons first fated later ih =>
    intro inside
    rcases List.mem_append.mp inside with early | late
    · exact fated.2.1 skb newskb early
    · exact ih late

theorem lives_writtenBytes_other (lives : PacketLives len packets events) {pPacket : Packet}
    (other : pPacket ∉ packets) : writtenBytes events pPacket = [] := by
  induction lives with
  | nil => rfl
  | cons first fated later ih =>
    obtain ⟨apart, outside⟩ := not_or.mp (mt List.mem_cons.mpr other)
    rw [writtenBytes_append, fated.1 pPacket apart, ih outside, List.nil_append]

theorem lives_sent (lives : PacketLives len packets events) (distinct : packets.Nodup)
    {pPacket : Packet} (inside : pPacket ∈ packets) :
    .refused pPacket ∈ events ∨ writtenBytes events pPacket = List.range (len pPacket) := by
  induction lives with
  | nil => cases inside
  | @cons head rest life trace first fated later ih =>
    obtain ⟨fresh, distinct⟩ := List.nodup_cons.mp distinct
    rcases List.mem_cons.mp inside with rfl | behind
    · rcases fated.2.2 with refused | whole
      · exact Or.inl (List.mem_append_left _ refused)
      · right
        rw [writtenBytes_append, whole, lives_writtenBytes_other later fresh, List.append_nil]
    · have apart : pPacket ≠ head := by
        rintro rfl
        exact fresh behind
      rcases ih distinct behind with refused | whole
      · exact Or.inl (List.mem_append_right _ refused)
      · right
        rw [writtenBytes_append, fated.1 pPacket apart, whole, List.nil_append]

/-- Distinct packets that live one after the other are disposed of. -/
theorem lives_disposed (lives : PacketLives len packets events) (distinct : packets.Nodup) :
    Disposed len packets events := by
  constructor
  · exact lives.safe (fun _ => rfl) freed_injective distinct
  · rintro pPacket (inside | ⟨skb, copied⟩)
    · rw [lives.count_release freed_injective]
      exact List.count_eq_one_of_mem distinct inside
    · exact absurd copied (lives_not_copied lives skb pPacket)
  · intro pPacket inside
    exact ⟨pPacket, Or.inl rfl, lives_sent lives distinct inside⟩

end lives

/-- A packet is read, together with others that are still there, then written or refused, and
freed. -/
theorem life_fate {len : Packet → Nat} {pPacket : Packet} {alive : List Packet}
    {early : List TxEvent} {decided : TxEvent}
    (reads : ∀ event ∈ early, ∃ other ∈ pPacket :: alive, event = .read other)
    (outcome : decided = .written pPacket 0 (len pPacket) ∨ decided = .refused pPacket) :
    PacketLife pPacket alive (early ++ [decided, .freed pPacket]) ∧
      Fate len pPacket (early ++ [decided, .freed pPacket]) := by
  have quiet : ∀ other, writtenBytes early other = [] := by
    intro other
    apply List.flatMap_eq_nil_iff.mpr
    intro event inside
    obtain ⟨_, -, rfl⟩ := reads event inside
    rfl
  have uncopied : ∀ skb newskb, TxEvent.copied skb newskb ∉ early := by
    intro skb newskb inside
    obtain ⟨_, -, read⟩ := reads _ inside
    cases read
  constructor
  · refine ⟨early ++ [decided], by simp, ?_⟩
    intro event inside
    rcases List.mem_append.mp inside with before | last
    · obtain ⟨other, known, rfl⟩ := reads event before
      exact ⟨known, fun _ => nofun⟩
    · rw [List.mem_singleton.mp last]
      rcases outcome with rfl | rfl
      · exact ⟨List.mem_cons_self, fun _ => nofun⟩
      · exact ⟨List.mem_cons_self, fun _ => nofun⟩
  · refine ⟨?_, ?_, ?_⟩
    · intro other apart
      rcases outcome with rfl | rfl
      · simp [quiet, TxEvent.bytesOf, apart.symm]
      · simp [quiet, TxEvent.bytesOf]
    · intro skb newskb inside
      rcases List.mem_append.mp inside with before | last
      · exact uncopied skb newskb before
      · rcases outcome with rfl | rfl <;> simp at last
    · rcases outcome with rfl | rfl
      · right
        simp [quiet, TxEvent.bytesOf, List.range_eq_range']
      · left
        simp

theorem dropFrame_life (len : Packet → Nat) (pPacket : Packet) (alive : List Packet) :
    PacketLife pPacket alive (dropFrame pPacket) ∧ Fate len pPacket (dropFrame pPacket) := by
  apply @life_fate len pPacket alive [.read pPacket]
  · intro event inside
    exact ⟨pPacket, List.mem_cons_self, List.mem_singleton.mp inside⟩
  · exact Or.inr rfl

/-- What the ring writes that take a whole packet do with it. -/
theorem writeSingleTxResource_eq (setting : FrameSetting) (pPacket : Packet) :
    ∃ decided, writeSingleTxResource setting pPacket = [decided, .freed pPacket] ∧
      (decided = .written pPacket 0 (srcBufLen setting pPacket) ∨ decided = .refused pPacket) := by
  unfold writeSingleTxResource
  split
  next => exact ⟨_, rfl, Or.inl rfl⟩
  next => exact ⟨_, rfl, Or.inr rfl⟩

theorem writeMultiTxResource_eq (setting : FrameSetting) (pPacket : Packet) (frmNum : Nat) :
    ∃ decided, writeMultiTxResource setting pPacket frmNum = [decided, .freed pPacket] ∧
      (decided = .written pPacket 0 (srcBufLen setting pPacket) ∨ decided = .refused pPacket) := by
  unfold writeMultiTxResource
  extract_lets pHTTXContext
  generalize (if frmNum = 0 then pHTTXContext.canDoWrite else pHTTXContext.bCurWriting) = ready
  cases ready with
  | true => exact ⟨_, rfl, Or.inl rfl⟩
  | false => exact ⟨_, rfl, Or.inr rfl⟩

/-- A loop whose turns are lives of the packets they take. -/
theorem frameLoop_lives {frame : Nat → Packet → List Packet → Option (List TxEvent × Nat)}
    {len : Packet → Nat} (ready : Nat → List Packet → Prop)
    (turn : ∀ frameNum pPacket rest, ready frameNum (pPacket :: rest) →
      ∃ life frameNum', frame frameNum pPacket rest = some (life, frameNum') ∧
        (PacketLife pPacket rest life ∧ Fate len pPacket life) ∧ ready frameNum' rest)
    {frameNum : Nat} {packets : List Packet} (start : ready frameNum packets) :
    ∃ events, frameLoop frame frameNum packets = some events ∧ PacketLives len packets events := by
  induction packets generalizing frameNum with
  | nil => exact ⟨[], rfl, Lives.nil⟩
  | cons pPacket rest ih =>
    obtain ⟨life, frameNum', done, ⟨lives, fated⟩, next⟩ := turn frameNum pPacket rest start
    obtain ⟨later, finished, others⟩ := ih next
    refine ⟨life ++ later, ?_, Lives.cons lives fated others⟩
    simp only [frameLoop, done, finished, Option.map_some]

/-- What a loop has done when it ends contains what it did in each turn. -/
theorem frameLoop_turn {frame : Nat → Packet → List Packet → Option (List TxEvent × Nat)}
    {frameNum : Nat} {packets : List Packet} {events : List TxEvent}
    (done : frameLoop frame frameNum packets = some events) {pPacket : Packet}
    (inside : pPacket ∈ packets) :
    ∃ n rest life n', frame n pPacket rest = some (life, n') ∧ life <:+: events := by
  induction packets generalizing frameNum events with
  | nil => cases inside
  | cons head rest ih =>
    simp only [frameLoop] at done
    cases turn : frame frameNum head rest with
    | none => simp [turn] at done
    | some taken =>
      obtain ⟨life, frameNum'⟩ := taken
      simp only [turn] at done
      obtain ⟨later, finished, rfl⟩ := Option.map_eq_some_iff.mp done
      rcases List.mem_cons.mp inside with rfl | behind
      · exact ⟨frameNum, rest, life, frameNum', turn, (List.prefix_append life later).isInfix⟩
      · obtain ⟨n, others, part, n', theirs, within⟩ := ih finished behind
        exact ⟨n, others, part, n', theirs, within.trans (List.suffix_append life later).isInfix⟩

theorem loopFrames_disposed {frame : Nat → Packet → List Packet → Option (List TxEvent × Nat)}
    {len : Packet → Nat} {packets : List Packet} {events : List TxEvent}
    (done : frameLoop frame 0 packets = some events) (lives : PacketLives len packets events)
    (distinct : packets.Nodup) :
    ∃ events, loopFrames frame packets = some (events, []) ∧ Disposed len packets events := by
  refine ⟨events, ?_, lives_disposed lives distinct⟩
  simp only [loopFrames, done, Option.map_some]

/-- What the end of a loop says of its turns. -/
theorem loopFrames_turn {frame : Nat → Packet → List Packet → Option (List TxEvent × Nat)}
    {len : Packet → Nat} {packets : List Packet}
    (done : ∃ events, loopFrames frame packets = some (events, []) ∧ Disposed len packets events)
    {pPacket : Packet} (inside : pPacket ∈ packets) :
    ∃ n rest life n', frame n pPacket rest = some (life, n') ∧
      Safe TxEvent.packet TxEvent.freed life := by
  obtain ⟨events, ended, disposed⟩ := done
  obtain ⟨all, finished, same⟩ := Option.map_eq_some_iff.mp ended
  obtain ⟨n, rest, life, n', turn, within⟩ := frameLoop_turn finished inside
  cases same
  exact ⟨n, rest, life, n', turn, disposed.safe.part within⟩

/-- A function that takes one packet only disposes of all when there is one, whose life it is. -/
theorem headFrame_disposes_iff {frame : Packet → Option (List TxEvent)} {len : Packet → Nat}
    {packets : List Packet} :
    (∃ events, headFrame frame packets = some (events, []) ∧ Disposed len packets events) ↔
      ∃ pPacket events, packets = [pPacket] ∧ frame pPacket = some events ∧
        Disposed len [pPacket] events := by
  constructor
  · rintro ⟨events, done, disposed⟩
    cases packets with
    | nil => cases done
    | cons pPacket rest =>
      obtain ⟨life, taken, same⟩ := Option.map_eq_some_iff.mp done
      cases same
      exact ⟨pPacket, events, rfl, taken, disposed⟩
  · rintro ⟨pPacket, events, rfl, taken, disposed⟩
    refine ⟨events, ?_, disposed⟩
    simp only [headFrame, taken, Option.map_some]

theorem life_disposed {len : Packet → Nat} {pPacket : Packet} {events : List TxEvent}
    (life : PacketLife pPacket [] events ∧ Fate len pPacket events) :
    Disposed len [pPacket] events :=
  lives_disposed (Lives.single life.1 life.2) (List.nodup_singleton pPacket)

/-- The packet the fragments are taken from. -/
def skbToSend (setting : FrameSetting) (pPacket : Packet) : Option Packet :=
  if setting.cipherAlg pPacket = cipherTkip then (duplicatePktWithTkipMic setting pPacket).2
  else some pPacket

/-- There are at most 256 fragments, and each but the last one finds the ring ready for it. -/
def FragmentsAccepted (setting : FrameSetting) (pTxBlk : TxBlkInfo) (pPacket skb : Packet) :
    Prop :=
  let encap := (setting.packet pPacket).extraLlcSnapEncap
  let first := freeMpduSize setting (fragmentHeaderLen pTxBlk.bWMM encap)
  let next := freeMpduSize setting (fragmentHeaderLen pTxBlk.bWMM false)
  ∀ n, first + n * next < fragmentedLen setting pPacket →
    n < 255 ∧ fragmentAccepted setting skb n

/-- The first packet that is not dropped has another one behind it. -/
def SecondThere (opMode : OpMode) (setting : FrameSetting) (packets : List Packet) : Prop :=
  ∀ front pPacket, packets = front ++ [pPacket] →
    (∀ dropped ∈ front, rtmpFillTxBlkInfo opMode setting dropped = none) →
    rtmpFillTxBlkInfo opMode setting pPacket = none

/-- No packet to send in an A-MSDU has counters of a BSS, and none goes to the group entry. -/
def Uncounted (setting : FrameSetting) (packets : List Packet) : Prop :=
  ∀ pPacket ∈ packets, ∀ pTxBlk, rtmpFillTxBlkInfo .ap setting pPacket = some pTxBlk →
    pTxBlk.pMacEntry ≠ none ∧ pTxBlk.pMbss = none

/-- No packet to send in a Ralink aggregate has counters of a BSS. -/
def Unbound (setting : FrameSetting) (packets : List Packet) : Prop :=
  ∀ pPacket ∈ packets, ∀ pTxBlk, rtmpFillTxBlkInfo .ap setting pPacket = some pTxBlk →
    pTxBlk.pMbss = none

/-- When a transmit function disposes of the packets it is given. -/
def DisposesWhen (setting : FrameSetting) (packets : List Packet) : OpMode → FrameKind → Prop
  | .ap, .ampdu => ∃ pPacket, packets = [pPacket] ∧ rtmpFillTxBlkInfo .ap setting pPacket = none
  | .sta, .ampdu => ∀ pPacket ∈ packets, (setting.packet pPacket).wcid ≠ mcastWcid
  | .ap, .amsdu => Uncounted setting packets
  | .sta, .amsdu => True
  | _, .legacy => ∃ pPacket, packets = [pPacket]
  | .ap, .ralink => Unbound setting packets ∧ SecondThere .ap setting packets
  | .sta, .ralink => SecondThere .sta setting packets
  | opMode, .fragment => ∃ pPacket, packets = [pPacket] ∧ ∀ pTxBlk skb,
      rtmpFillTxBlkInfo opMode setting pPacket = some pTxBlk →
        skbToSend setting pPacket = some skb → FragmentsAccepted setting pTxBlk pPacket skb

section kinds

variable {setting : FrameSetting} {packets : List Packet}

theorem apAmpdu_disposes_iff :
    DisposesOfAll .ap .ampdu setting packets ↔ DisposesWhen setting packets .ap .ampdu := by
  apply Iff.trans headFrame_disposes_iff
  constructor
  · rintro ⟨pPacket, events, only, taken, disposed⟩
    refine ⟨pPacket, only, ?_⟩
    unfold apAmpduFrame at taken
    split at taken
    next refused => exact refused
    next pTxBlk filled =>
      split at taken
      next => cases taken
      next =>
        -- `RtmpUSB_WriteSubTxResource` does nothing, so the packet stays behind.
        obtain rfl := Option.some.inj taken
        have kept := disposed.freedOnce pPacket (Or.inl List.mem_cons_self)
        cases kept
  · rintro ⟨pPacket, only, refused⟩
    refine ⟨pPacket, dropFrame pPacket, only, ?_, life_disposed (dropFrame_life _ pPacket [])⟩
    simp only [apAmpduFrame, refused]

theorem written_life (len : Packet → Nat) (pPacket : Packet) (alive : List Packet)
    {events : List TxEvent} (wrote : ∃ decided, events = [decided, .freed pPacket] ∧
      (decided = .written pPacket 0 (len pPacket) ∨ decided = .refused pPacket)) :
    PacketLife pPacket alive (.read pPacket :: events) ∧
      Fate len pPacket (.read pPacket :: events) := by
  obtain ⟨decided, rfl, outcome⟩ := wrote
  apply @life_fate len pPacket alive [.read pPacket] decided
  · intro event inside
    exact ⟨pPacket, List.mem_cons_self, List.mem_singleton.mp inside⟩
  · exact outcome

theorem rtmpFillTxBlkInfo_sta (setting : FrameSetting) (pPacket : Packet) :
    ∃ pTxBlk, rtmpFillTxBlkInfo .sta setting pPacket = some pTxBlk ∧
      (pTxBlk.pMacEntry = none ↔ (setting.packet pPacket).wcid = mcastWcid) := by
  unfold rtmpFillTxBlkInfo
  by_cases group : (setting.packet pPacket).wcid = mcastWcid
  · simp [group]
  · simp [group]

theorem staAmpduFrame_life (setting : FrameSetting) (frameNum : Nat) (pPacket : Packet)
    (rest : List Packet)
    (unicast : ∀ other ∈ pPacket :: rest, (setting.packet other).wcid ≠ mcastWcid) :
    ∃ life frameNum', staAmpduFrame setting frameNum pPacket rest = some (life, frameNum') ∧
      (PacketLife pPacket rest life ∧ Fate (srcBufLen setting) pPacket life) ∧
      ∀ other ∈ rest, (setting.packet other).wcid ≠ mcastWcid := by
  obtain ⟨pTxBlk, filled, entry⟩ := rtmpFillTxBlkInfo_sta setting pPacket
  have known := mt entry.mp (unicast pPacket List.mem_cons_self)
  obtain ⟨pMacEntry, there⟩ := Option.ne_none_iff_exists'.mp known
  refine ⟨_, frameNum, ?_, written_life _ pPacket rest (writeSingleTxResource_eq setting pPacket),
    fun other behind => unicast other (List.mem_cons_of_mem _ behind)⟩
  simp only [staAmpduFrame, filled, there]

theorem staAmpdu_disposes_iff (distinct : packets.Nodup) :
    DisposesOfAll .sta .ampdu setting packets ↔ DisposesWhen setting packets .sta .ampdu := by
  constructor
  · intro done pPacket inside group
    obtain ⟨n, rest, life, n', turn, -⟩ := loopFrames_turn done inside
    obtain ⟨pTxBlk, filled, entry⟩ := rtmpFillTxBlkInfo_sta setting pPacket
    simp [staAmpduFrame, filled, entry.mpr group] at turn
  · intro unicast
    obtain ⟨events, finished, lives⟩ := frameLoop_lives
      (fun _ rest => ∀ other ∈ rest, (setting.packet other).wcid ≠ mcastWcid)
      (staAmpduFrame_life setting) unicast
    exact loopFrames_disposed finished lives distinct

theorem legacy_disposes_iff (opMode : OpMode) :
    (∃ events, headFrame (legacyFrame opMode setting) packets = some (events, []) ∧
      Disposed (srcBufLen setting) packets events) ↔ ∃ pPacket, packets = [pPacket] := by
  apply Iff.trans headFrame_disposes_iff
  constructor
  · rintro ⟨pPacket, -, only, -⟩
    exact ⟨pPacket, only⟩
  · rintro ⟨pPacket, only⟩
    cases filled : rtmpFillTxBlkInfo opMode setting pPacket with
    | none =>
      refine ⟨pPacket, dropFrame pPacket, only, ?_, life_disposed (dropFrame_life _ pPacket [])⟩
      simp only [legacyFrame, filled]
    | some pTxBlk =>
      refine ⟨pPacket, _, only, ?_,
        life_disposed (written_life _ pPacket [] (writeSingleTxResource_eq setting pPacket))⟩
      simp only [legacyFrame, filled]

theorem staAmsduFrame_life (setting : FrameSetting) (frameNum : Nat) (pPacket : Packet)
    (rest : List Packet) (_ : True) :
    ∃ life frameNum', staAmsduFrame setting frameNum pPacket rest = some (life, frameNum') ∧
      (PacketLife pPacket rest life ∧ Fate (srcBufLen setting) pPacket life) ∧ True := by
  obtain ⟨pTxBlk, filled, -⟩ := rtmpFillTxBlkInfo_sta setting pPacket
  refine ⟨_, frameNum + 1, ?_,
    written_life _ pPacket rest (writeMultiTxResource_eq setting pPacket frameNum), trivial⟩
  simp only [staAmsduFrame, filled]

theorem staAmsdu_disposes (distinct : packets.Nodup) :
    DisposesOfAll .sta .amsdu setting packets := by
  obtain ⟨events, finished, lives⟩ :=
    frameLoop_lives (fun _ _ => True) (staAmsduFrame_life setting) trivial
  exact loopFrames_disposed finished lives distinct

/-- The counters of a BSS read the packet after it was freed. -/
theorem not_safe_countPerBss {pTxBlk : TxBlkInfo} (counted : pTxBlk.pMbss ≠ none)
    (setting : FrameSetting) (pPacket : Packet) (frmNum : Nat) (early : List TxEvent) :
    ¬ Safe TxEvent.packet TxEvent.freed
      (early ++ (writeMultiTxResource setting pPacket frmNum ++ countPerBss pTxBlk pPacket)) := by
  obtain ⟨decided, wrote, -⟩ := writeMultiTxResource_eq setting pPacket frmNum
  rw [wrote, countPerBss, if_neg counted]
  have late := @not_safe _ _ TxEvent.packet TxEvent.freed pPacket (.read pPacket) rfl
    (early ++ [decided]) [] []
  simpa using late

theorem apAmsduFrame_life (setting : FrameSetting) (frameNum : Nat) (pPacket : Packet)
    (rest : List Packet) (uncounted : Uncounted setting (pPacket :: rest)) :
    ∃ life frameNum', apAmsduFrame setting frameNum pPacket rest = some (life, frameNum') ∧
      (PacketLife pPacket rest life ∧ Fate (srcBufLen setting) pPacket life) ∧
      Uncounted setting rest := by
  have next : Uncounted setting rest :=
    fun other behind => uncounted other (List.mem_cons_of_mem pPacket behind)
  cases filled : rtmpFillTxBlkInfo .ap setting pPacket with
  | none =>
    refine ⟨_, frameNum, ?_, dropFrame_life _ pPacket rest, next⟩
    simp only [apAmsduFrame, filled]
  | some pTxBlk =>
    obtain ⟨known, unbound⟩ := uncounted pPacket List.mem_cons_self pTxBlk filled
    obtain ⟨pMacEntry, there⟩ := Option.ne_none_iff_exists'.mp known
    refine ⟨_, frameNum + 1, ?_,
      written_life _ pPacket rest (writeMultiTxResource_eq setting pPacket frameNum), next⟩
    simp only [apAmsduFrame, filled, there, countPerBss, unbound, ↓reduceIte, List.append_nil]

theorem apAmsdu_disposes_iff (distinct : packets.Nodup) :
    DisposesOfAll .ap .amsdu setting packets ↔ DisposesWhen setting packets .ap .amsdu := by
  constructor
  · intro done pPacket inside pTxBlk filled
    obtain ⟨n, rest, life, n', turn, safe⟩ := loopFrames_turn done inside
    simp only [apAmsduFrame, filled] at turn
    cases there : pTxBlk.pMacEntry with
    | none => simp [there] at turn
    | some pMacEntry =>
      simp only [there] at turn
      cases turn
      refine ⟨Option.some_ne_none pMacEntry, ?_⟩
      by_contra counted
      exact not_safe_countPerBss counted setting pPacket n [.read pPacket] safe
  · intro uncounted
    obtain ⟨events, finished, lives⟩ :=
      frameLoop_lives (fun _ => Uncounted setting) (apAmsduFrame_life setting) uncounted
    exact loopFrames_disposed finished lives distinct

theorem SecondThere.tail {opMode : OpMode} {pPacket : Packet} {rest : List Packet}
    (second : SecondThere opMode setting (pPacket :: rest))
    (dropped : rtmpFillTxBlkInfo opMode setting pPacket = none) :
    SecondThere opMode setting rest := by
  intro front last split others
  apply second (pPacket :: front) last
  · rw [split, List.cons_append]
  · intro other inside
    rcases List.mem_cons.mp inside with rfl | behind
    · exact dropped
    · exact others other behind

theorem SecondThere.ne_nil {opMode : OpMode} {pPacket : Packet} {rest : List Packet}
    (second : SecondThere opMode setting (pPacket :: rest)) {pTxBlk : TxBlkInfo}
    (filled : rtmpFillTxBlkInfo opMode setting pPacket = some pTxBlk) : rest ≠ [] := by
  rintro rfl
  have dropped := second [] pPacket rfl (by simp)
  rw [filled] at dropped
  cases dropped

theorem nextBufLenRead_some {frameNum : Nat} {rest : List Packet}
    (there : frameNum = 0 → rest ≠ []) :
    ∃ next, nextBufLenRead frameNum rest = some next ∧
      ∀ event ∈ next, ∃ other ∈ rest, event = .read other := by
  unfold nextBufLenRead
  by_cases first : frameNum = 0
  · rw [if_pos first]
    cases rest with
    | nil => exact absurd rfl (there first)
    | cons pNextPacket behind =>
      refine ⟨_, rfl, ?_⟩
      intro event inside
      exact ⟨pNextPacket, List.mem_cons_self, List.mem_singleton.mp inside⟩
  · rw [if_neg first]
    exact ⟨[], rfl, fun _ => nofun⟩

/-- The life of a packet in an aggregate whose first header looks at the next packet. -/
theorem aggregated_life (len : Packet → Nat) (pPacket : Packet) (rest : List Packet)
    {next events : List TxEvent} (reads : ∀ event ∈ next, ∃ other ∈ rest, event = .read other)
    (wrote : ∃ decided, events = [decided, .freed pPacket] ∧
      (decided = .written pPacket 0 (len pPacket) ∨ decided = .refused pPacket)) :
    PacketLife pPacket rest (.read pPacket :: (next ++ events)) ∧
      Fate len pPacket (.read pPacket :: (next ++ events)) := by
  obtain ⟨decided, rfl, outcome⟩ := wrote
  apply @life_fate len pPacket rest (.read pPacket :: next) decided
  · intro event inside
    rcases List.mem_cons.mp inside with rfl | ahead
    · exact ⟨pPacket, List.mem_cons_self, rfl⟩
    · obtain ⟨other, behind, read⟩ := reads event ahead
      exact ⟨other, List.mem_cons_of_mem _ behind, read⟩
  · exact outcome

/-- A loop that drops all packets but the last one, and cannot do with that. -/
theorem frameLoop_stuck {frame : Nat → Packet → List Packet → Option (List TxEvent × Nat)}
    {front : List Packet} {pPacket : Packet} {frameNum : Nat}
    (dropped : ∀ other ∈ front, ∀ rest, ∃ life, frame frameNum other rest = some (life, frameNum))
    (stuck : frame frameNum pPacket [] = none) :
    frameLoop frame frameNum (front ++ [pPacket]) = none := by
  induction front with
  | nil => simp only [List.nil_append, frameLoop, stuck]
  | cons head rest ih =>
    obtain ⟨life, done⟩ := dropped head List.mem_cons_self (rest ++ [pPacket])
    have behind := ih fun other inside => dropped other (List.mem_cons_of_mem _ inside)
    simp only [List.cons_append, frameLoop, done, behind, Option.map_none]

theorem staARalinkFrame_life (setting : FrameSetting) (frameNum : Nat) (pPacket : Packet)
    (rest : List Packet) (second : frameNum = 0 → SecondThere .sta setting (pPacket :: rest)) :
    ∃ life frameNum', staARalinkFrame setting frameNum pPacket rest = some (life, frameNum') ∧
      (PacketLife pPacket rest life ∧ Fate (srcBufLen setting) pPacket life) ∧
      (frameNum' = 0 → SecondThere .sta setting rest) := by
  obtain ⟨pTxBlk, filled, -⟩ := rtmpFillTxBlkInfo_sta setting pPacket
  obtain ⟨next, looked, reads⟩ := nextBufLenRead_some fun first => (second first).ne_nil filled
  refine ⟨_, frameNum + 1, ?_, aggregated_life _ pPacket rest reads
    (writeMultiTxResource_eq setting pPacket frameNum), nofun⟩
  simp only [staARalinkFrame, filled, looked]

theorem staARalink_disposes_iff (distinct : packets.Nodup) :
    DisposesOfAll .sta .ralink setting packets ↔ DisposesWhen setting packets .sta .ralink := by
  constructor
  · rintro ⟨events, ended, -⟩ front pPacket rfl dropped
    by_contra filled
    obtain ⟨pTxBlk, filled⟩ := Option.ne_none_iff_exists'.mp filled
    obtain ⟨all, finished, -⟩ := Option.map_eq_some_iff.mp ended
    rw [frameLoop_stuck] at finished
    · cases finished
    · intro other inside rest
      refine ⟨dropFrame other, ?_⟩
      simp only [staARalinkFrame, dropped other inside]
    · simp only [staARalinkFrame, filled, nextBufLenRead, ↓reduceIte]
  · intro second
    obtain ⟨events, finished, lives⟩ := frameLoop_lives
      (fun frameNum rest => frameNum = 0 → SecondThere .sta setting rest)
      (staARalinkFrame_life setting) fun _ => second
    exact loopFrames_disposed finished lives distinct

theorem apARalinkFrame_life (setting : FrameSetting) (frameNum : Nat) (pPacket : Packet)
    (rest : List Packet) (ready : Unbound setting (pPacket :: rest) ∧
      (frameNum = 0 → SecondThere .ap setting (pPacket :: rest))) :
    ∃ life frameNum', apARalinkFrame setting frameNum pPacket rest = some (life, frameNum') ∧
      (PacketLife pPacket rest life ∧ Fate (srcBufLen setting) pPacket life) ∧
      Unbound setting rest ∧ (frameNum' = 0 → SecondThere .ap setting rest) := by
  obtain ⟨unbound, second⟩ := ready
  have others : Unbound setting rest :=
    fun other behind => unbound other (List.mem_cons_of_mem pPacket behind)
  cases filled : rtmpFillTxBlkInfo .ap setting pPacket with
  | none =>
    refine ⟨_, frameNum, ?_, dropFrame_life _ pPacket rest, others,
      fun first => (second first).tail filled⟩
    simp only [apARalinkFrame, filled]
  | some pTxBlk =>
    obtain ⟨next, looked, reads⟩ := nextBufLenRead_some fun first => (second first).ne_nil filled
    refine ⟨_, frameNum + 1, ?_, aggregated_life _ pPacket rest reads
      (writeMultiTxResource_eq setting pPacket frameNum), others, nofun⟩
    simp only [apARalinkFrame, filled, looked, countPerBss,
      unbound pPacket List.mem_cons_self pTxBlk filled, ↓reduceIte, List.append_nil]

theorem apARalink_disposes_iff (distinct : packets.Nodup) :
    DisposesOfAll .ap .ralink setting packets ↔ DisposesWhen setting packets .ap .ralink := by
  constructor
  · intro done
    constructor
    · intro pPacket inside pTxBlk filled
      obtain ⟨n, rest, life, n', turn, safe⟩ := loopFrames_turn done inside
      simp only [apARalinkFrame, filled] at turn
      cases looked : nextBufLenRead n rest with
      | none => simp [looked] at turn
      | some next =>
        simp only [looked] at turn
        cases turn
        by_contra counted
        exact not_safe_countPerBss counted setting pPacket n (.read pPacket :: next) safe
    · rintro front pPacket rfl dropped
      obtain ⟨events, ended, -⟩ := done
      by_contra filled
      obtain ⟨pTxBlk, filled⟩ := Option.ne_none_iff_exists'.mp filled
      obtain ⟨all, finished, -⟩ := Option.map_eq_some_iff.mp ended
      rw [frameLoop_stuck] at finished
      · cases finished
      · intro other inside rest
        refine ⟨dropFrame other, ?_⟩
        simp only [apARalinkFrame, dropped other inside]
      · simp only [apARalinkFrame, filled, nextBufLenRead, ↓reduceIte]
  · rintro ⟨unbound, second⟩
    obtain ⟨events, finished, lives⟩ := frameLoop_lives
      (fun frameNum rest => Unbound setting rest ∧ (frameNum = 0 → SecondThere .ap setting rest))
      (apARalinkFrame_life setting) ⟨unbound, fun _ => second⟩
    exact loopFrames_disposed finished lives distinct

end kinds

end Mt7612u.Transmit
