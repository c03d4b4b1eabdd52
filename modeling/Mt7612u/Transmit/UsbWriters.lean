import Mt7612u.Transmit.UsbInvariant

/-! The writers keep the invariant of the bulk ring. -/

namespace Mt7612u.Transmit
open Receive (Memory Span align4)

theorem holds_bytes_zero (mem : Memory) {count i : Nat} (rest : List UInt8) (below : i < count) :
    ofBytes (mem.bytes 0 count ++ rest) i = mem i := by
  unfold ofBytes
  rw [List.getD_append _ _ _ _ (by rw [Memory.length_bytes]; exact below),
    List.getD_eq_getElem _ _ (by rw [Memory.length_bytes]; exact below)]
  simp [Memory.bytes]

/-- A frame whose header is copied from memory with a TXINFO at its start. -/
theorem framed_of_header {mem : Memory} {count len : Nat} {rest : List UInt8} {last : Bool}
    (header : mtDmaHdrLen + txwiSize ≤ count) (length : pktLen mem 0 = len)
    (qsel : mem 3 = 0x04) (ends : swLstRnd mem 0 = last)
    (total : count + rest.length = mtDmaHdrLen + len) (short : mtDmaHdrLen + len ≤ maxFrameLen) :
    Framed last (mem.bytes 0 count ++ rest) := by
  simp only [mtDmaHdrLen, txwiSize] at header total short
  have whole : (mem.bytes 0 count ++ rest).length = count + rest.length := by
    rw [List.length_append, Memory.length_bytes]
  constructor
  · rw [whole]
    simp only [mtDmaHdrLen, txwiSize]
    omega
  · rw [whole]
    omega
  · unfold pktLen at length ⊢
    rw [holds_bytes_zero mem rest (by omega), holds_bytes_zero mem rest (by omega), length, whole]
    omega
  · rw [holds_bytes_zero mem rest (by omega), qsel]
  · unfold swLstRnd at ends ⊢
    rw [holds_bytes_zero mem rest (by omega), ends]

section Txinfo

variable (mem : Memory) (len : Nat)

theorem rltUsbWriteTxinfo_two :
    rltUsbWriteTxinfo mem len 2 = mem 2 &&& 0xc0 ||| 0x08 := rfl

theorem rltUsbWriteTxinfo_qsel : rltUsbWriteTxinfo mem len 3 = 0x04 := rfl

theorem pktLen_rltUsbWriteTxinfo {len : Nat} (small : len < 65536) :
    pktLen (rltUsbWriteTxinfo mem len) 0 = len :=
  lowByte_highByte small

theorem swLstRnd_rltUsbWriteTxinfo : swLstRnd (rltUsbWriteTxinfo mem len) 0 = false := by
  unfold swLstRnd
  rw [rltUsbWriteTxinfo_two]
  exact forall_byte (fun byte => ((byte &&& 0xc0 ||| 0x08) &&& 0x04 == 0x04) = false)
    (by decide +kernel) (mem 2)

end Txinfo

/-- The flags of a TXINFO are in its third byte. -/
theorem txinfo_flag (mem : Memory) (byte : UInt8) :
    pktLen (mem.write (0 + 2) [byte]) 0 = pktLen mem 0 ∧ mem.write (0 + 2) [byte] 3 = mem 3 ∧
      mem.write (0 + 2) [byte] 2 = byte :=
  ⟨pktLen_write _ le_rfl, Memory.write_after _ (by simp), rfl⟩

theorem swLstRnd_set (mem : Memory) : swLstRnd (setSwLstRnd mem 0) 0 = true := by
  unfold swLstRnd setSwLstRnd
  rw [(txinfo_flag mem _).2.2]
  exact forall_byte (fun byte => ((byte ||| 0x04) &&& 0x04 == 0x04) = true) (by decide +kernel) _

theorem swLstRnd_burst {mem : Memory} (closed : swLstRnd mem 0 = false) :
    swLstRnd (setTxBurst mem 0) 0 = false := by
  unfold swLstRnd setTxBurst at *
  rw [(txinfo_flag mem _).2.2]
  exact forall_byte (fun byte => (byte &&& 0x04 == 0x04) = false →
    ((byte ||| 0x02) &&& 0x04 == 0x04) = false) (by decide +kernel) _ closed

variable {pTxBlk : TxBlk} {srcBuf : List UInt8}

/-- What a call of `WriteSingle` or `WriteFrag` puts behind the header. -/
def paddingOf (pTxBlk : TxBlk) (srcBuf : List UInt8) : Nat :=
  align4 (dmaLen pTxBlk srcBuf) - dmaLen pTxBlk srcBuf

theorem length_frame (pTxBlk : TxBlk) (srcBuf : List UInt8) :
    hdrCopyLen pTxBlk + (srcBuf ++ List.replicate (paddingOf pTxBlk srcBuf) (0 : UInt8)).length =
      mtDmaHdrLen + align4 (dmaLen pTxBlk srcBuf) := by
  have up := align4_le (dmaLen pTxBlk srcBuf)
  rw [List.length_append, List.length_replicate]
  unfold paddingOf
  unfold dmaLen at *
  unfold hdrCopyLen
  omega

theorem framed_bytes {mem : Memory} {last : Bool} (short : privLen pTxBlk srcBuf ≤ maxFrameLen)
    (length : pktLen mem 0 = align4 (dmaLen pTxBlk srcBuf)) (qsel : mem 3 = 0x04)
    (ends : swLstRnd mem 0 = last) :
    Framed last (mem.bytes 0 (hdrCopyLen pTxBlk) ++ srcBuf ++
      List.replicate (paddingOf pTxBlk srcBuf) 0) := by
  rw [List.append_assoc]
  apply framed_of_header _ length qsel ends (length_frame pTxBlk srcBuf) short
  unfold hdrCopyLen
  omega

theorem framed_single (short : privLen pTxBlk srcBuf ≤ maxFrameLen) (last : Bool) :
    Framed last (singleHeader pTxBlk srcBuf last ++ srcBuf ++
      List.replicate (paddingOf pTxBlk srcBuf) 0) := by
  have longest : maxFrameLen = 3868 := by decide
  have small : align4 (dmaLen pTxBlk srcBuf) < 65536 := by
    unfold privLen at short
    omega
  cases last with
  | false =>
    exact framed_bytes short (pktLen_rltUsbWriteTxinfo _ small) rfl (swLstRnd_rltUsbWriteTxinfo _ _)
  | true =>
    apply framed_bytes short _ _ (swLstRnd_set _)
    · exact (txinfo_flag _ _).1.trans (pktLen_rltUsbWriteTxinfo _ small)
    · exact (txinfo_flag _ _).2.1

theorem framed_frag (short : privLen pTxBlk srcBuf ≤ maxFrameLen) (more last : Bool) :
    Framed (!more && last) (fragHeader pTxBlk srcBuf more last ++ srcBuf ++
      List.replicate (paddingOf pTxBlk srcBuf) 0) := by
  have longest : maxFrameLen = 3868 := by decide
  have small : align4 (dmaLen pTxBlk srcBuf) < 65536 := by
    unfold privLen at short
    omega
  cases more with
  | false =>
    exact @framed_single
      { pTxBlk with headerBuf := pTxBlk.headerBuf.write 0 (List.replicate mtDmaHdrLen 0) } srcBuf
      short last
  | true =>
    apply framed_bytes short _ _ (swLstRnd_burst (swLstRnd_rltUsbWriteTxinfo _ _))
    · exact (txinfo_flag _ _).1.trans (pktLen_rltUsbWriteTxinfo _ small)
    · exact (txinfo_flag _ _).2.1

theorem Rounds.single {last : Bool} {frame : List UInt8} (framed : Framed last frame) :
    Rounds last [frame] := by
  cases last with
  | false => exact Rounds.more framed Rounds.nil
  | true => exact Rounds.last framed

theorem ending_eq (more last : Bool) :
    ((if more = true then none else some last) == some true) = (!more && last) := by
  cases more <;> cases last <;> rfl

namespace UsbRing

variable {ring : UsbRing} {wraps : Bool} {upper lower flight : List (List UInt8)} {base : Nat}

/-- What a step stores is apart from what must stay. -/
def Adds (ring next : UsbRing) : Prop :=
  ∀ span ∈ next.stored, span ∈ ring.stored ∨ ring.Apart span

theorem adds_same (ring : UsbRing) : ring.Adds ring := fun _ member => Or.inl member

theorem adds_put {next : UsbRing} {span : Span} (stored : next.stored = ring.stored ++ [span])
    (apart : ring.Apart span) : ring.Adds next := by
  intro other member
  rw [stored] at member
  rcases List.mem_append.mp member with old | new
  · exact Or.inl old
  · rw [List.mem_singleton.mp new]
    exact Or.inr apart

theorem Adds.of_enter {next : UsbRing} (adds : ring.enter.Adds next) : ring.Adds next :=
  fun span member => (adds span member).imp_right Apart.of_enter

/-- A header goes to the ring behind what the writer has there. -/
theorem Held.layHeader (held : ring.Held wraps upper lower flight base)
    (writing : ring.bCurWriting = true) {reqCnt total : Nat} (header : List UInt8)
    (room : Room ring.toHtTxContext wraps reqCnt) (fits : Fits ring.toHtTxContext reqCnt total)
    {old : List UInt8}
    (holds : ring.view.Holds ring.curWritePosition old)
    (pad : old = [] → ring.eNextBulkOutPosition = ring.curWritePosition →
      ring.bCopySavePad = false)
    (long : old ≠ [] → 8 ≤ old.length) (ends : old.length + header.length ≤ total + 8) :
    (ring.put (ring.curWritePosition + old.length) header).Held wraps upper lower flight base ∧
      (ring.put (ring.curWritePosition + old.length) header).view.Holds ring.curWritePosition
        (old ++ header) ∧
      ring.Apart ⟨ring.curWritePosition + old.length, header.length⟩ := by
  have free : ring.Free wraps (ring.curWritePosition + old.length) header.length := by
    apply held.free writing room fits (Nat.le_add_right _ _) _ (by omega)
    intro same saved
    by_cases empty : old = []
    · rw [pad empty same] at saved
      exact absurd saved Bool.false_ne_true
    · have eight := long empty
      omega
  refine ⟨held.put free, ?_, held.apart free⟩
  rw [held.layout.view_put free]
  exact Memory.holds_write_behind holds header

/-- The call for a frame, or for a fragment of one, up to where it leaves the lock. -/
theorem Held.layFrame (held : ring.Held wraps upper lower flight base)
    (writing : ring.bCurWriting = true) {reqCnt : Nat} {frames : List (List UInt8)}
    (rounds : Rounds false frames)
    (room : Room ring.toHtTxContext wraps reqCnt)
    (fits : Fits ring.toHtTxContext reqCnt (frames.flatten.length + privLen pTxBlk srcBuf))
    (holds : ring.view.Holds ring.curWritePosition frames.flatten)
    (pad : frames = [] → ring.eNextBulkOutPosition = ring.curWritePosition →
      ring.bCopySavePad = false)
    (ahead : ring.curWritePosition ≤ ring.curWriteRealPos) (header : Bool → List UInt8)
    (more : Bool) (starts : ∀ placed ∈ placesFrom ring.curWritePosition frames, StartsIn placed)
    (start : ring.curWritePosition + frames.flatten.length + 3898 ≤ maxTxbulkLimit)
    (framed : ∀ last, Framed (!more && last) (header last ++ srcBuf ++
      List.replicate (paddingOf pTxBlk srcBuf) 0))
    (length : ∀ last, (header last).length = hdrCopyLen pTxBlk) :
    (ring.layFrame ⟨reqCnt, frames.flatten.length, frames, [], none, none⟩ pTxBlk srcBuf header
        more).Inv wraps upper lower flight base ∧
      ring.Adds (ring.layFrame ⟨reqCnt, frames.flatten.length, frames, [], none, none⟩ pTxBlk
        srcBuf header more) := by
  have whole := length_frame pTxBlk srcBuf
  rw [List.length_append] at whole
  let last := decide (maxTxbulkLimit <
    ring.curWritePosition + (frames.flatten.length + privLen pTxBlk srcBuf) + 3906)
  have copied := length last
  have empty : frames.flatten = [] → frames = [] := by
    intro none
    by_contra some_
    have long := rounds.flatten_pos some_
    rw [none] at long
    exact absurd long (by decide)
  obtain ⟨laid, seen, apart⟩ := held.layHeader writing (header last) room fits holds
    (fun none => pad (empty none))
    (fun some_ => (rounds.flatten_pos fun none => some_ (by rw [none]; rfl)).trans' (by decide))
    (show frames.flatten.length + (header last).length ≤ _ by rw [copied]; unfold privLen; omega)
  have total : (frames ++ [header last ++ srcBuf ++
      List.replicate (paddingOf pTxBlk srcBuf) 0]).flatten.length =
        frames.flatten.length + privLen pTxBlk srcBuf := by
    simp only [List.flatten_append, List.flatten_singleton, List.length_append, copied]
    unfold privLen
    omega
  refine ⟨?_, adds_put rfl apart⟩
  constructor
  · exact laid.writer _ _ _
  · exact writing
  · exact fun none => absurd none (Option.some_ne_none _)
  · intro writer found
    cases found
    refine ⟨frames.flatten.length + privLen pTxBlk srcBuf, ?_, room, fits, seen, ?_, ?_, starts,
      fun _ => start⟩
    · apply Writer.Phase.copying
      · apply rounds.append
        rw [ending_eq]
        exact Rounds.single (framed last)
      · change mtDmaHdrLen + txwiSize ≤ (header last).length
        rw [copied]
        unfold hdrCopyLen
        omega
      · exact total.symm
      · rw [List.length_append]
        exact Nat.add_assoc _ _ _
    · change ring.curWritePosition < ring.curWriteRealPos + hdrCopyLen pTxBlk
      unfold hdrCopyLen mtDmaHdrLen
      omega
    · intro ended closing
      cases more with
      | false => exact (Option.some.inj closing).symm
      | true => exact absurd closing.symm (Option.some_ne_none _)

/-- The invariant, whatever stands in the ring. -/
def Good (ring : UsbRing) : Prop :=
  ∃ wraps upper lower flight base, ring.Inv wraps upper lower flight base

/-- A step of a writer keeps the invariant and stores nothing where it must not. -/
structure Kept (ring next : UsbRing) : Prop where
  good : next.Good
  adds : ring.Adds next

theorem Good.kept (good : ring.Good) : ring.Kept ring := ⟨good, adds_same ring⟩

theorem Inv.good (inv : ring.Inv wraps upper lower flight base) : ring.Good :=
  ⟨wraps, upper, lower, flight, base, inv⟩

/-- A write that is admitted starts in a ring with room for it. -/
theorem Inv.entered (inv : ring.Inv wraps upper lower flight base) {reqCnt : Nat}
    (can : ring.canDoWrite = true) (asked : ring.freeDescRequest reqCnt = true) :
    (∃ base, ring.enter.Held wraps upper lower flight base) ∧ ring.enter.bCurWriting = true ∧
      Room ring.enter.toHtTxContext wraps reqCnt ∧
      (ring.enter.eNextBulkOutPosition = ring.enter.curWritePosition →
        ring.enter.bCopySavePad = false) ∧
      ring.enter.curWriteRealPos = ring.enter.curWritePosition := by
  obtain ⟨idle, _⟩ := HtTxContext.canDoWrite_spec can
  obtain ⟨_, writing, pad, _, real, moved⟩ := enter_positions ring
  refine ⟨inv.held.enter can, writing, inv.held.layout.room can asked, ?_, real⟩
  intro same
  rw [pad]
  exact (inv.held.layout.reserved idle (by omega)).2.2.2

theorem Good.writeSingle (good : ring.Good) {reqCnt : Nat}
    (asked : ring.freeDescRequest reqCnt = true)
    (fits : Fits ring.enter.toHtTxContext reqCnt (privLen pTxBlk srcBuf)) :
    ring.Kept (ring.writeSingleTxResource reqCnt pTxBlk srcBuf) := by
  unfold writeSingleTxResource
  split_ifs with can
  · obtain ⟨wraps, upper, lower, flight, base, inv⟩ := good
    obtain ⟨⟨base, held⟩, writing, room, pad, real⟩ := inv.entered can asked
    obtain ⟨laid, adds⟩ := held.layFrame writing Rounds.nil room
      (show Fits _ _ (0 + privLen pTxBlk srcBuf) by rwa [Nat.zero_add]) rfl
      (fun _ => pad) real.ge _ false (fun _ none => absurd none List.not_mem_nil)
      held.layout.cur_le (framed_single fits.short) (fun _ => Memory.length_bytes _ _ _)
    exact ⟨laid.good, adds.of_enter⟩
  · exact good.kept

theorem Good.writeFragFirst (good : ring.Good) {reqCnt : Nat} {totalFragNum : UInt8}
    (asked : ring.freeDescRequest reqCnt = true)
    (fits : Fits ring.enter.toHtTxContext reqCnt (privLen pTxBlk srcBuf)) :
    ring.Kept (ring.writeFragTxResource reqCnt pTxBlk 0 totalFragNum srcBuf) := by
  unfold writeFragTxResource
  rw [if_pos rfl]
  split_ifs with can
  · obtain ⟨wraps, upper, lower, flight, base, inv⟩ := good
    obtain ⟨⟨base, held⟩, writing, room, pad, real⟩ := inv.entered can asked
    obtain ⟨laid, adds⟩ := held.layFrame writing Rounds.nil room
      (show Fits _ _ (0 + privLen pTxBlk srcBuf) by rwa [Nat.zero_add]) rfl
      (fun _ => pad) real.ge _ _ (fun _ none => absurd none List.not_mem_nil)
      held.layout.cur_le (framed_frag fits.short _) (fun _ => Memory.length_bytes _ _ _)
    exact ⟨laid.good, adds.of_enter⟩
  · exact good.kept

/-- A fragment goes behind those that are complete. -/
theorem Good.writeFragNext (good : ring.Good) {reqCnt : Nat} {fragNum totalFragNum : UInt8}
    (later : fragNum ≠ 0) {writer : Writer} (found : ring.writer = some writer)
    (copied : writer.copy = none) (whole : writer.laid = []) (ongoing : writer.ending = none)
    (fits : Fits ring.toHtTxContext writer.reqCnt (writer.priv + privLen pTxBlk srcBuf))
    (start : ring.curWritePosition + writer.priv + 3898 ≤ maxTxbulkLimit) :
    ring.Kept (ring.writeFragTxResource reqCnt pTxBlk fragNum totalFragNum srcBuf) := by
  obtain ⟨wraps, upper, lower, flight, base, inv⟩ := good
  obtain ⟨total, phase, room, _, holds, ahead, _, starts, begin_⟩ := inv.writing writer found
  have writing : ring.bCurWriting = true := by
    rw [inv.bCurWriting, found]
    rfl
  unfold writeFragTxResource
  rw [if_neg later, found]
  cases phase with
  | aggregate long _ _ _ =>
    have none := congrArg List.length whole
    exact absurd (long.trans_eq none) (by decide)
  | copying _ _ _ _ => exact absurd copied (Option.some_ne_none _)
  | aggregating _ _ _ _ _ => exact absurd copied (Option.some_ne_none _)
  | @fragment _ frames _ rounds some_ =>
    cases ongoing
    have short : privLen pTxBlk srcBuf ≤ maxFrameLen :=
      (Nat.le_add_left _ _).trans fits.short
    have seen : ring.view.Holds ring.curWritePosition frames.flatten := by
      have all := holds
      unfold Writer.bytes at all
      rwa [List.append_nil] at all
    obtain ⟨laid, adds⟩ := inv.held.layFrame writing rounds room fits seen
      (fun none => absurd none some_) ahead.le _ _ starts start (framed_frag short _)
      (fun _ => Memory.length_bytes _ _ _)
    exact ⟨laid.good, adds⟩

/-- What `WriteMulti` keeps of the TXINFO while the length of the frame is not known. -/
structure Headed (laid : List UInt8) : Prop where
  long : mtDmaHdrLen + txwiSize ≤ laid.length
  qsel : ofBytes laid 3 = 0x04
  swLstRnd : swLstRnd (ofBytes laid) 0 = false

theorem ofBytes_append {front : List UInt8} (back : List UInt8) {i : Nat}
    (below : i < front.length) : ofBytes (front ++ back) i = ofBytes front i := by
  unfold ofBytes
  exact List.getD_append _ _ _ _ below

theorem Headed.append {front : List UInt8} (headed : Headed front) (back : List UInt8) :
    Headed (front ++ back) := by
  have long := headed.long
  simp only [mtDmaHdrLen, txwiSize] at long
  constructor
  · rw [List.length_append]
    exact headed.long.trans (Nat.le_add_right _ _)
  · rw [ofBytes_append _ (by omega)]
    exact headed.qsel
  · have closed := headed.swLstRnd
    unfold Transmit.swLstRnd at closed ⊢
    rwa [ofBytes_append _ (by omega)]

/-- A part of an aggregate goes to the ring. -/
theorem Held.layPart (held : ring.Held wraps upper lower flight base)
    (writing : ring.bCurWriting = true) {reqCnt : Nat} (old header srcBuf : List UInt8)
    (headed : Headed (old ++ header))
    (room : Room ring.toHtTxContext wraps reqCnt)
    (fits : Fits ring.toHtTxContext reqCnt
      (mtDmaHdrLen + align4 (old.length + header.length + srcBuf.length - mtDmaHdrLen)))
    (holds : ring.view.Holds ring.curWritePosition old)
    (pad : old = [] → ring.eNextBulkOutPosition = ring.curWritePosition →
      ring.bCopySavePad = false)
    (long : old ≠ [] → 8 ≤ old.length) (curWriteRealPos : Nat)
    (ahead : ring.curWritePosition < curWriteRealPos) :
    { ring.lay ⟨reqCnt, old.length, [], old, none, none⟩ (old.length + header.length) header srcBuf
        none none with curWriteRealPos := curWriteRealPos }.Inv wraps upper lower flight base ∧
      ring.Adds { ring.lay ⟨reqCnt, old.length, [], old, none, none⟩ (old.length + header.length)
        header srcBuf none none with curWriteRealPos := curWriteRealPos } := by
  have up := (align4_le (old.length + header.length + srcBuf.length - mtDmaHdrLen)).1
  obtain ⟨laid, seen, apart⟩ := held.layHeader writing header room fits holds pad long
    (show old.length + header.length ≤ _ by omega)
  refine ⟨?_, adds_put rfl apart⟩
  constructor
  · exact laid.writer _ _ _
  · exact writing
  · exact fun none => absurd none (Option.some_ne_none _)
  · intro writer found
    cases found
    refine ⟨_, ?_, room, fits, seen, ahead, fun last none => absurd none.symm
      (Option.some_ne_none _), fun _ none => absurd none List.not_mem_nil,
      fun _ => held.layout.cur_le⟩
    apply Writer.Phase.aggregating headed.long headed.qsel headed.swLstRnd
    · exact (List.length_append).symm
    · change ring.curWritePosition + old.length + header.length =
        ring.curWritePosition + (old ++ header).length
      rw [List.length_append, Nat.add_assoc]

theorem Good.writeMultiFirst (good : ring.Good) {reqCnt : Nat}
    (asked : ring.freeDescRequest reqCnt = true)
    (fits : Fits ring.enter.toHtTxContext reqCnt
      (mtDmaHdrLen + align4 (hdrCopyLen pTxBlk + srcBuf.length - mtDmaHdrLen))) :
    ring.Kept (ring.writeMultiTxResource reqCnt pTxBlk 0 srcBuf) := by
  unfold writeMultiTxResource
  rw [if_pos rfl]
  split_ifs with can
  · obtain ⟨wraps, upper, lower, flight, base, inv⟩ := good
    obtain ⟨⟨base, held⟩, writing, room, pad, real⟩ := inv.entered can asked
    let header := (rltUsbWriteTxinfo pTxBlk.headerBuf (hdrCopyLen pTxBlk)).bytes 0
      (hdrCopyLen pTxBlk)
    have length : header.length = hdrCopyLen pTxBlk := Memory.length_bytes _ _ _
    have long : mtDmaHdrLen + txwiSize ≤ hdrCopyLen pTxBlk := by
      unfold hdrCopyLen
      omega
    have three : 3 < hdrCopyLen pTxBlk := Nat.lt_of_lt_of_le (by decide) long
    have headed : Headed header := by
      have bytes : ∀ i < hdrCopyLen pTxBlk, ofBytes header i =
          rltUsbWriteTxinfo pTxBlk.headerBuf (hdrCopyLen pTxBlk) i := by
        intro i below
        have found := holds_bytes_zero
          (rltUsbWriteTxinfo pTxBlk.headerBuf (hdrCopyLen pTxBlk)) [] below
        rwa [List.append_nil] at found
      constructor
      · rw [length]
        exact long
      · rw [bytes 3 three]
        rfl
      · unfold swLstRnd
        rw [bytes 2 (by omega)]
        exact swLstRnd_rltUsbWriteTxinfo _ _
    obtain ⟨laid, adds⟩ := held.layPart writing [] header srcBuf headed room
      (by rw [List.length_nil, length, Nat.zero_add]; exact fits) rfl (fun _ => pad)
      (fun some_ => absurd rfl some_)
      (ring.enter.curWriteRealPos + hdrCopyLen pTxBlk) (by omega)
    rw [List.length_nil, length, Nat.zero_add] at laid adds
    exact ⟨laid.good, adds.of_enter⟩
  · exact good.kept

theorem Good.writeMultiNext (good : ring.Good) {reqCnt : Nat} {frmNum : UInt8}
    (later : frmNum ≠ 0) {writer : Writer} (found : ring.writer = some writer)
    (copied : writer.copy = none) (single : writer.frames = [])
    (fits : Fits ring.toHtTxContext writer.reqCnt (mtDmaHdrLen +
      align4 (writer.priv + pTxBlk.mpduHeaderLen + srcBuf.length - mtDmaHdrLen))) :
    ring.Kept (ring.writeMultiTxResource reqCnt pTxBlk frmNum srcBuf) := by
  obtain ⟨wraps, upper, lower, flight, base, inv⟩ := good
  obtain ⟨total, phase, room, _, holds, ahead, _, starts, begin_⟩ := inv.writing writer found
  have writing : ring.bCurWriting = true := by
    rw [inv.bCurWriting, found]
    rfl
  unfold writeMultiTxResource
  rw [if_neg later, found]
  cases phase with
  | fragment _ some_ => exact absurd single some_
  | copying _ _ _ _ => exact absurd copied (Option.some_ne_none _)
  | aggregating _ _ _ _ _ => exact absurd copied (Option.some_ne_none _)
  | @aggregate reqCnt priv old long qsel ends same =>
    subst same
    have header := Memory.length_bytes pTxBlk.headerBuf 0 pTxBlk.mpduHeaderLen
    have headed : Headed old := ⟨long, qsel, ends⟩
    have eight : 8 ≤ old.length := long.trans' (by decide)
    obtain ⟨laid, adds⟩ := inv.held.layPart writing old _ srcBuf (headed.append _) room
      (by rw [header]; exact fits) holds (fun none => absurd eight (by rw [none]; decide))
      (fun _ => eight) _ ahead
    rw [header] at laid adds
    exact ⟨laid.good, adds⟩

end UsbRing

end Mt7612u.Transmit
