import Mt7612u.Receive.Deaggregate

/-! The loop of `rtmp_rx_done_handle` over `GetPacketFromRxRing`, which cuts a bulk-in buffer into
packets. -/

namespace Mt7612u.Receive

def rxdmaFieldSize : Nat := 4
def rxinfoSize : Nat := 4
def rxfceInfoSize : Nat := 4
/-- `chipCap.RXWISize`. -/
def rxwiSize : Nat := 28
/-- `HEADER_802_11` and its frame control field. -/
def headerSize : Nat := 24
def frameControlSize : Nat := 2
def maxAggregationSize : Nat := 3840

/-- `RX_CONTEXT`, with the bytes of its `TransferBuffer`. -/
structure RxContext where
  transferBuffer : Memory
  bulkInOffset : Nat
  readable : Bool
  inUse : Bool

/-- What is read of `mt7612u_rxinfo`. -/
structure RxInfo where
  u2m : Bool
  crc : Bool
  cipherErr : BitVec 2

def rxInfoAt (mem : Memory) (start : Nat) : RxInfo where
  u2m := (mem start).toBitVec.getLsbD 4
  crc := (mem (start + 1)).toBitVec.getLsbD 0
  cipherErr := (mem (start + 1)).toBitVec.extractLsb' 1 2

/-- `MPDUtotalByteCnt`, fourteen bits of the first word of the RXWI. -/
def mpduTotalByteCntAt (mem : Memory) (start : Nat) : Nat :=
  ((mem (start + 2)).toNat + (mem (start + 3)).toNat * 256) % 2 ^ 14

/-- The DMA length. -/
def thisFrameLen (mem : Memory) (pos : Nat) : Nat := (mem pos).toNat + (mem (pos + 1)).toNat * 256

/-- The packet that is built, and what `RX_BLK` keeps of the descriptors. -/
structure RxSkb where
  data : Memory
  len : Nat
  mpduTotalByteCnt : Nat
  wcid : UInt8
  rxInfo : RxInfo

/-- `FC.Type` and `FC.ToDs` behind the RXWI. -/
def RxSkb.fcType (packet : RxSkb) : BitVec 2 :=
  (packet.data rxwiSize).toBitVec.extractLsb' 2 2
def RxSkb.toDs (packet : RxSkb) : Bool :=
  (packet.data (rxwiSize + 1)).toBitVec.getLsbD 0

/-- One call of `GetPacketFromRxRing`: the ranges of the transfer buffer that it touches, the packet and
the new `ReadPosition`. -/
structure RxPass where
  touched : List Span
  packet : Option RxSkb
  readPosition : Nat

def validLen : Nat := rxdmaFieldSize + rxwiSize + rxinfoSize + rxfceInfoSize

/-- `skb` is what `dev_alloc_skb` answers, with whatever its bytes are. -/
def getPacketFromRxRing (ctx : RxContext) (pos : Nat) (skb : Option Memory) : RxPass :=
  if !ctx.readable || ctx.inUse then ⟨[], none, pos⟩
  else
    let mem := ctx.transferBuffer
    let rxBufferLength := ctx.bulkInOffset - pos
    if rxBufferLength < validLen then ⟨[], none, pos⟩
    else
      let len := thisFrameLen mem pos
      let dma : Span := ⟨pos, 2⟩
      if len = 0 then ⟨[dma], none, pos⟩
      else if len % 4 ≠ 0 then ⟨[dma], none, pos⟩
      else if len + 8 > rxBufferLength then ⟨[dma], none, pos⟩
      else
        let pRxInfo := pos + rxdmaFieldSize
        let pRxFceInfo := pRxInfo + len
        let pRxWI := pRxInfo + rxinfoSize
        let rxwi : Span := ⟨pRxWI, rxwiSize⟩
        let total := mpduTotalByteCntAt mem pRxWI
        if total > len then ⟨[dma, rxwi], none, pos⟩
        else
          match skb with
          | none => ⟨[dma, rxwi], none, pos⟩
          | some skb =>
              { touched := [dma, rxwi, ⟨pRxWI, len⟩, ⟨pRxFceInfo, rxfceInfoSize⟩,
                  ⟨pRxInfo, rxinfoSize⟩]
                packet := some
                  { data := skb.write 0 (mem.bytes pRxWI len)
                    len := len
                    mpduTotalByteCnt := total
                    wcid := mem pRxWI
                    rxInfo := rxInfoAt mem pRxInfo }
                readPosition := pos + (len + rxdmaFieldSize + rxinfoSize) }

/-- `RTMPCheckRxError` fails. -/
def rtmpCheckRxError (info : RxInfo) (toDs : Bool) (total : Nat) : Bool :=
  info.crc || toDs || total > maxAggregationSize

/-- `APCheckRxError` fails. -/
def apCheckRxError (info : RxInfo) (wcid : UInt8) : Bool :=
  if info.crc || info.cipherErr != 0 then
    !(info.u2m && info.cipherErr != 0 && wcid == 255)
  else false

def checkRxError (opMode : OpMode) (info : RxInfo) (wcid : UInt8) (toDs : Bool) (total : Nat) :
    Bool :=
  match opMode with
  | .ap => apCheckRxError info wcid
  | .sta => rtmpCheckRxError info toDs total

/-- The packet goes to the handler of data, management or control frames. -/
def RxSkb.handedOn (opMode : OpMode) (packet : RxSkb) : Bool :=
  !checkRxError opMode packet.rxInfo packet.wcid packet.toDs packet.mpduTotalByteCnt &&
    packet.fcType != 3

/-- What a turn of the loop meets: flags that end it, and the answer of `dev_alloc_skb`. -/
structure RxEnv where
  stopped : Bool
  skb : Option Memory

/-- A turn of the loop that calls `GetPacketFromRxRing`. -/
structure RxTurn where
  readPosition : Nat
  touched : List Span
  packet : Option RxSkb

/-- A frame stands at the position: the length fields agree with the received bytes as far as they are
tested. -/
def Packed (ctx : RxContext) (pos : Nat) : Prop :=
  ctx.readable = true ∧ ctx.inUse = false ∧ validLen ≤ ctx.bulkInOffset - pos ∧
    thisFrameLen ctx.transferBuffer pos ≠ 0 ∧ thisFrameLen ctx.transferBuffer pos % 4 = 0 ∧
    thisFrameLen ctx.transferBuffer pos + 8 ≤ ctx.bulkInOffset - pos ∧
    mpduTotalByteCntAt ctx.transferBuffer (pos + 8) ≤ thisFrameLen ctx.transferBuffer pos

instance (ctx : RxContext) (pos : Nat) : Decidable (Packed ctx pos) := by
  unfold Packed
  infer_instance

/-- The packet of the frame at a position. -/
def packetAt (mem : Memory) (pos : Nat) (skb : Memory) : RxSkb where
  data := skb.write 0 (mem.bytes (pos + 8) (thisFrameLen mem pos))
  len := thisFrameLen mem pos
  mpduTotalByteCnt := mpduTotalByteCntAt mem (pos + 8)
  wcid := mem (pos + 8)
  rxInfo := rxInfoAt mem (pos + 4)

/-- The ranges touched for it. -/
def touchedAt (mem : Memory) (pos : Nat) : List Span :=
  [⟨pos, 2⟩, ⟨pos + 8, rxwiSize⟩, ⟨pos + 8, thisFrameLen mem pos⟩,
    ⟨pos + 4 + thisFrameLen mem pos, rxfceInfoSize⟩, ⟨pos + 4, rxinfoSize⟩]

theorem getPacketFromRxRing_packed {ctx : RxContext} {pos : Nat} (packed : Packed ctx pos)
    (skb : Memory) :
    getPacketFromRxRing ctx pos (some skb) =
      { touched := touchedAt ctx.transferBuffer pos
        packet := some (packetAt ctx.transferBuffer pos skb)
        readPosition := pos + (thisFrameLen ctx.transferBuffer pos + 8) } := by
  obtain ⟨readable, free, long, filled, aligned, inside, total⟩ := packed
  unfold getPacketFromRxRing
  rw [if_neg (by simp [readable, free])]
  dsimp only
  have covered : ¬ mpduTotalByteCntAt ctx.transferBuffer (pos + rxdmaFieldSize + rxinfoSize) >
      thisFrameLen ctx.transferBuffer pos := not_lt.mpr total
  rw [if_neg (by omega), if_neg filled, if_neg (by omega), if_neg (by omega), if_neg covered]
  rfl

/-- Without a frame or without memory for it nothing is built, and what was touched was received. -/
theorem getPacketFromRxRing_unbuilt {ctx : RxContext} {pos : Nat} {skb : Option Memory}
    (unbuilt : Packed ctx pos → skb = none) :
    (getPacketFromRxRing ctx pos skb).packet = none ∧
      (getPacketFromRxRing ctx pos skb).readPosition = pos ∧
      ∀ span ∈ (getPacketFromRxRing ctx pos skb).touched, span.Within ⟨0, ctx.bulkInOffset⟩ := by
  unfold getPacketFromRxRing
  dsimp only
  split_ifs with closed short empty odd outranged wrong
  · simp
  · simp
  · simp [Span.Within, validLen, rxdmaFieldSize, rxwiSize] at short ⊢
    omega
  · simp [Span.Within, validLen, rxdmaFieldSize, rxwiSize] at short ⊢
    omega
  · simp [Span.Within, validLen, rxdmaFieldSize, rxwiSize] at short ⊢
    omega
  · simp [Span.Within, validLen, rxdmaFieldSize, rxwiSize] at short ⊢
    omega
  · -- The length fields agree, so it is the memory that is missing.
    have none : skb = none := by
      apply unbuilt
      simp only [Bool.not_eq_true', Bool.or_eq_true, not_or, Bool.not_eq_false,
        Bool.not_eq_true] at closed
      exact ⟨closed.1, closed.2, by omega, empty, by omega, by omega, not_lt.mp wrong⟩
    rw [none]
    simp [Span.Within, validLen, rxdmaFieldSize, rxinfoSize, rxwiSize] at short ⊢
    omega

theorem getPacketFromRxRing_advances {ctx : RxContext} {pos : Nat} {skb : Option Memory}
    {packet : RxSkb} (built : (getPacketFromRxRing ctx pos skb).packet = some packet) :
    pos < (getPacketFromRxRing ctx pos skb).readPosition ∧ pos < ctx.bulkInOffset := by
  by_cases packed : Packed ctx pos
  · cases skb with
    | none =>
      rw [(getPacketFromRxRing_unbuilt fun _ => rfl).1] at built
      cases built
    | some skb =>
      rw [getPacketFromRxRing_packed packed]
      obtain ⟨_, _, _, _, _, inside, _⟩ := packed
      dsimp only
      omega
  · rw [(getPacketFromRxRing_unbuilt fun within => absurd within packed).1] at built
    cases built

/-- The turns of the loop, and the `ReadPosition` it ends with. -/
def rtmpRxDoneHandle (ctx : RxContext) (env : Nat → RxEnv) (turn pos : Nat) :
    List RxTurn × Nat :=
  if (env turn).stopped then ([], pos)
  else
    let pass := getPacketFromRxRing ctx pos (env turn).skb
    match built : pass.packet with
    | none => ([⟨pos, pass.touched, none⟩], pass.readPosition)
    | some packet =>
        let rest := rtmpRxDoneHandle ctx env (turn + 1) pass.readPosition
        (⟨pos, pass.touched, some packet⟩ :: rest.1, rest.2)
termination_by ctx.bulkInOffset - pos
decreasing_by
  have advances := getPacketFromRxRing_advances built
  omega

/-- The positions of the frames of the buffer that the loop reaches. -/
def rxFrames (ctx : RxContext) (env : Nat → RxEnv) (turn pos : Nat) : List Nat :=
  if (env turn).stopped = true ∨ (env turn).skb = none then []
  else if packed : Packed ctx pos then
    pos :: rxFrames ctx env (turn + 1) (pos + (thisFrameLen ctx.transferBuffer pos + 8))
  else []
termination_by ctx.bulkInOffset - pos
decreasing_by
  obtain ⟨_, _, _, _, _, inside, _⟩ := packed
  omega

/-- A turn stays in what was received: the bytes it touches, the frame control field it reads in the
packet, and all of a frame that it hands on. -/
structure RxTurn.Sound (opMode : OpMode) (ctx : RxContext) (turn : RxTurn) : Prop where
  position : turn.readPosition ≤ ctx.bulkInOffset
  touched : ∀ span ∈ turn.touched, span.Within ⟨0, ctx.bulkInOffset⟩
  header : ∀ packet ∈ turn.packet, rxwiSize + frameControlSize ≤ packet.len
  frame : ∀ packet ∈ turn.packet, packet.handedOn opMode = true →
    rxwiSize + headerSize ≤ packet.len ∧ rxwiSize + packet.mpduTotalByteCnt ≤ packet.len

/-- `FC.Type` and `FC.ToDs` of the frame at a position. -/
def fcTypeAt (mem : Memory) (pos : Nat) : BitVec 2 :=
  (mem (pos + 8 + rxwiSize)).toBitVec.extractLsb' 2 2
def toDsAt (mem : Memory) (pos : Nat) : Bool :=
  (mem (pos + 8 + (rxwiSize + 1))).toBitVec.getLsbD 0

/-- The frame at a position is discarded: its descriptors tell of an error, or its type is the
reserved one. -/
def Discarded (opMode : OpMode) (mem : Memory) (pos : Nat) : Prop :=
  checkRxError opMode (rxInfoAt mem (pos + 4)) (mem (pos + 8)) (toDsAt mem pos)
      (mpduTotalByteCntAt mem (pos + 8)) = true ∨ fcTypeAt mem pos = 3

/-- The DMA length covers the RXWI with the frame control field, and the RXWI with the frame unless that
is discarded. -/
def Covers (opMode : OpMode) (mem : Memory) (pos : Nat) : Prop :=
  rxwiSize + frameControlSize ≤ thisFrameLen mem pos ∧
    (¬ Discarded opMode mem pos →
      rxwiSize + headerSize ≤ thisFrameLen mem pos ∧
        rxwiSize + mpduTotalByteCntAt mem (pos + 8) ≤ thisFrameLen mem pos)

theorem Memory.write_inside (mem : Memory) (start : Nat) {data : List UInt8} {i : Nat}
    (inside : i < data.length) : mem.write start data (start + i) = data[i] := by
  unfold Memory.write
  rw [if_pos (Nat.le_add_right _ _), Nat.add_sub_cancel_left, List.getD_eq_getElem _ _ inside]

theorem packetAt_data (mem skb : Memory) {pos i : Nat} (inside : i < thisFrameLen mem pos) :
    (packetAt mem pos skb).data i = mem (pos + 8 + i) := by
  have stored : i < (mem.bytes (pos + 8) (thisFrameLen mem pos)).length := by
    rw [Memory.length_bytes]
    exact inside
  have read := skb.write_inside 0 stored
  rw [Nat.zero_add] at read
  change skb.write 0 (mem.bytes (pos + 8) (thisFrameLen mem pos)) i = _
  rw [read]
  simp only [Memory.bytes, List.getElem_map, List.getElem_range]

theorem packetAt_handedOn (opMode : OpMode) (mem skb : Memory) {pos : Nat}
    (header : rxwiSize + frameControlSize ≤ thisFrameLen mem pos) :
    (packetAt mem pos skb).handedOn opMode = true ↔ ¬ Discarded opMode mem pos := by
  have type : (packetAt mem pos skb).fcType = fcTypeAt mem pos := by
    unfold RxSkb.fcType fcTypeAt
    rw [packetAt_data mem skb (by unfold frameControlSize at header; omega)]
  have toDs : (packetAt mem pos skb).toDs = toDsAt mem pos := by
    unfold RxSkb.toDs toDsAt
    rw [packetAt_data mem skb (by unfold frameControlSize at header; omega)]
  unfold RxSkb.handedOn Discarded
  rw [type, toDs]
  simp [packetAt]

theorem sound_packed_iff (opMode : OpMode) {ctx : RxContext} {pos : Nat} (packed : Packed ctx pos)
    (skb : Memory) :
    RxTurn.Sound opMode ctx ⟨pos, touchedAt ctx.transferBuffer pos,
        some (packetAt ctx.transferBuffer pos skb)⟩ ↔
      Covers opMode ctx.transferBuffer pos := by
  constructor
  · intro sound
    have header := sound.header _ rfl
    apply And.intro header
    intro kept
    exact sound.frame _ rfl ((packetAt_handedOn opMode _ skb header).mpr kept)
  · rintro ⟨header, frame⟩
    obtain ⟨_, _, long, _, _, inside, _⟩ := packed
    constructor
    · dsimp only
      omega
    · intro span member
      simp only [touchedAt, List.mem_cons, List.not_mem_nil, or_false] at member
      unfold validLen rxdmaFieldSize rxinfoSize rxfceInfoSize at long
      rcases member with rfl | rfl | rfl | rfl | rfl <;>
        simp only [Span.Within, rxinfoSize, rxfceInfoSize] <;> omega
    · rintro packet ⟨⟩
      exact header
    · rintro packet ⟨⟩ kept
      exact frame ((packetAt_handedOn opMode _ skb header).mp kept)

section Loop
variable {ctx : RxContext} {env : Nat → RxEnv} {turn pos : Nat}

theorem rtmpRxDoneHandle_packed (runs : (env turn).stopped = false) {skb : Memory}
    (allocated : (env turn).skb = some skb) (packed : Packed ctx pos) :
    rtmpRxDoneHandle ctx env turn pos =
      let rest := rtmpRxDoneHandle ctx env (turn + 1)
        (pos + (thisFrameLen ctx.transferBuffer pos + 8))
      (⟨pos, touchedAt ctx.transferBuffer pos,
        some (packetAt ctx.transferBuffer pos skb)⟩ :: rest.1, rest.2) := by
  have pass := getPacketFromRxRing_packed packed skb
  rw [rtmpRxDoneHandle, if_neg (by simp [runs])]
  dsimp only
  rw [allocated]
  split
  next built =>
    rw [pass] at built
    cases built
  next packet built =>
    rw [pass] at built
    obtain rfl := Option.some.inj built
    rw [pass]

theorem rtmpRxDoneHandle_unbuilt (runs : (env turn).stopped = false)
    (unbuilt : Packed ctx pos → (env turn).skb = none) :
    rtmpRxDoneHandle ctx env turn pos =
      ([⟨pos, (getPacketFromRxRing ctx pos (env turn).skb).touched, none⟩], pos) := by
  obtain ⟨absent, stays, _⟩ := getPacketFromRxRing_unbuilt unbuilt
  rw [rtmpRxDoneHandle, if_neg (by simp [runs])]
  dsimp only
  split
  next =>
    rw [stays]
  next packet built =>
    rw [absent] at built
    cases built

/-- A turn that builds nothing ends the loop, and is sound. -/
theorem unbuilt_sound (opMode : OpMode) (start : pos ≤ ctx.bulkInOffset)
    (unbuilt : Packed ctx pos → (env turn).skb = none) :
    (∀ step ∈ (rtmpRxDoneHandle ctx env turn pos).1, step.Sound opMode ctx) ∧
      (rtmpRxDoneHandle ctx env turn pos).2 ≤ ctx.bulkInOffset := by
  cases stops : (env turn).stopped with
  | true =>
    rw [rtmpRxDoneHandle, if_pos stops]
    exact ⟨fun step member => (List.not_mem_nil member).elim, start⟩
  | false =>
    rw [rtmpRxDoneHandle_unbuilt stops unbuilt]
    refine ⟨?_, start⟩
    intro step member
    obtain rfl := List.mem_singleton.mp member
    refine ⟨start, (getPacketFromRxRing_unbuilt unbuilt).2.2, ?_, ?_⟩
    · intro packet built
      cases built
    · intro packet built
      cases built

/-- The loop from a position on. -/
theorem rtmpRxDoneHandle_sound_iff (opMode : OpMode) (start : pos ≤ ctx.bulkInOffset) :
    ((∀ step ∈ (rtmpRxDoneHandle ctx env turn pos).1, step.Sound opMode ctx) ∧
        (rtmpRxDoneHandle ctx env turn pos).2 ≤ ctx.bulkInOffset) ↔
      ∀ frame ∈ rxFrames ctx env turn pos, Covers opMode ctx.transferBuffer frame := by
  induction turn, pos using rxFrames.induct ctx env with
  | case1 turn pos ends =>
    rw [rxFrames, if_pos ends]
    apply iff_of_true _ (fun frame member => (List.not_mem_nil member).elim)
    rcases ends with stops | missing
    · rw [rtmpRxDoneHandle, if_pos stops]
      exact ⟨fun step member => (List.not_mem_nil member).elim, start⟩
    · exact unbuilt_sound opMode start fun _ => missing
  | case2 turn pos goes packed ih =>
    simp only [not_or, Bool.not_eq_true] at goes
    obtain ⟨skb, allocated⟩ := Option.ne_none_iff_exists'.mp goes.2
    have next : pos + (thisFrameLen ctx.transferBuffer pos + 8) ≤ ctx.bulkInOffset := by
      obtain ⟨_, _, _, _, _, inside, _⟩ := packed
      omega
    rw [rxFrames, if_neg (by simp [goes]), dif_pos packed,
      rtmpRxDoneHandle_packed goes.1 allocated packed]
    simp only [List.forall_mem_cons, and_assoc, sound_packed_iff opMode packed skb, ih next]
  | case3 turn pos goes unpacked =>
    rw [rxFrames, if_neg goes, dif_neg unpacked]
    apply iff_of_true _ (fun frame member => (List.not_mem_nil member).elim)
    exact unbuilt_sound opMode start fun packed => absurd packed unpacked

end Loop

section Uncovered

/-- One frame of a DMA length of 52 octets and an `MPDUtotalByteCnt` of 52: with the RXWI it would take
80. -/
def uncoveredBuffer : RxContext where
  transferBuffer address := [52, 0, 0, 0, 0, 0, 0, 0, 0, 0, 52].getD address 0
  bulkInOffset := 60
  readable := true
  inUse := false

def readyEnv (_ : Nat) : RxEnv where
  stopped := false
  skb := some fun _ => 0

end Uncovered

end Mt7612u.Receive
