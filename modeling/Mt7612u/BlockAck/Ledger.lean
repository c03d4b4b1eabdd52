import Mt7612u.BlockAck.Drain

/-! The ledger of one session: where its packets and the blocks of the pool are. Each
operation of the reorder buffer moves them about and says what it takes in and what it loses. -/

namespace Mt7612u.BlockAck
open Receive

def indicatedPackets (log : List Outcome) : List Packet :=
  log.filterMap fun
    | .indicate packet _ => some packet
    | _ => none

def freedPackets (log : List Outcome) : List Packet :=
  log.filterMap fun
    | .kfree packet => some packet
    | _ => none

/-- The packets the log is done with. -/
def settled (log : List Outcome) : Multiset Packet :=
  ↑(indicatedPackets log) + ↑(freedPackets log)

def ReorderingList.packets (list : ReorderingList) : Multiset Packet :=
  ↑(list.next.map fun mpdu => mpdu.pPacket)

def ReorderingList.blocks (list : ReorderingList) : Multiset Nat :=
  ↑(list.next.map fun mpdu => mpdu.addr)

theorem settled_append (log outcomes : List Outcome) :
    settled (log ++ outcomes) = settled log + settled outcomes := by
  simp only [settled, indicatedPackets, freedPackets, List.filterMap_append, ← Multiset.coe_add]
  exact add_add_add_comm _ _ _ _

theorem settled_indications (mpdus : List ReorderingMpdu) :
    settled (indications mpdus) = ↑(mpdus.map fun mpdu => mpdu.pPacket) := by
  have freed : freedPackets (indications mpdus) = [] := by
    simp [freedPackets, indications]
  have indicated : indicatedPackets (indications mpdus) = mpdus.map fun mpdu => mpdu.pPacket := by
    simp [indicatedPackets, indications, List.filterMap_map]
  rw [settled, freed, indicated, Multiset.coe_nil, add_zero]

/-- The log of a refresh settles what the buffer held. -/
theorem settled_refresh (mpdus : List ReorderingMpdu) :
    settled (mpdus.flatMap fun mpdu =>
      [.indicate mpdu.pPacket mpdu.sequence, .lastIndSeq mpdu.sequence]) =
        ↑(mpdus.map fun mpdu => mpdu.pPacket) := by
  induction mpdus with
  | nil => rfl
  | cons mpdu rest ih =>
    rw [List.flatMap_cons, settled_append, ih, List.map_cons, ← Multiset.cons_coe]
    rfl

theorem HandOff.settled {pRxBlk : RxBlk} {outcomes : List Outcome}
    (handed : HandOff pRxBlk outcomes) : settled outcomes = {pRxBlk.pRxPacket} := by
  cases handed <;> rfl

namespace Session

def packets (s : Session) : Multiset Packet := settled s.log + s.entry.list.packets

def blocks (s : Session) : Multiset Nat := s.freelist.blocks + s.entry.list.blocks

/-- Both counters agree with their chains. -/
structure Counted (s : Session) : Prop where
  list : s.entry.list.Counted
  pool : s.freelist.Counted

end Session

/-- From `s` to `t` the packets `handed` came in and the blocks `leaked` were lost. -/
structure Balanced (s t : Session) (handed : Multiset Packet) (leaked : Multiset Nat) : Prop where
  counted : t.Counted
  packets : t.packets = s.packets + handed
  blocks : t.blocks + leaked = s.blocks

/-- The same for work that leaves the entry to its station and TID. -/
structure Ledger (s t : Session) (handed : Multiset Packet) (leaked : Multiset Nat) : Prop where
  idx : t.idx = s.idx
  wcid : t.entry.wcid = s.entry.wcid
  tid : t.entry.tid = s.entry.tid
  recBAStatus : t.entry.recBAStatus = s.entry.recBAStatus
  counted : t.Counted
  packets : t.packets = s.packets + handed
  blocks : t.blocks + leaked = s.blocks

theorem Ledger.balanced {s t : Session} {handed : Multiset Packet} {leaked : Multiset Nat}
    (ledger : Ledger s t handed leaked) : Balanced s t handed leaked :=
  ⟨ledger.counted, ledger.packets, ledger.blocks⟩

theorem Ledger.trans {s t u : Session} {handed handed' : Multiset Packet}
    {leaked leaked' : Multiset Nat} (first : Ledger s t handed leaked)
    (second : Ledger t u handed' leaked') : Ledger s u (handed + handed') (leaked + leaked') where
  idx := second.idx.trans first.idx
  wcid := second.wcid.trans first.wcid
  tid := second.tid.trans first.tid
  recBAStatus := second.recBAStatus.trans first.recBAStatus
  counted := second.counted
  packets := by rw [second.packets, first.packets, add_assoc]
  blocks := by rw [← first.blocks, ← second.blocks, add_assoc, add_comm leaked']

/-- Work that loses no block and leaves an empty list empty. -/
structure Settles (s t : Session) (handed : Multiset Packet) : Prop where
  ledger : Ledger s t handed 0
  drained : s.entry.list.next = [] → t.entry.list.next = []

theorem Settles.trans {s t u : Session} {handed handed' : Multiset Packet}
    (first : Settles s t handed) (second : Settles t u handed') :
    Settles s u (handed + handed') where
  ledger := by simpa using first.ledger.trans second.ledger
  drained := fun empty => second.drained (first.drained empty)

theorem Settles.then {s t u : Session} {handed : Multiset Packet} (first : Settles s t 0)
    (second : Settles t u handed) : Settles s u handed := by
  simpa using first.trans second

theorem Settles.counted {s t : Session} {handed : Multiset Packet} (work : Settles s t handed) :
    t.Counted :=
  work.ledger.counted

section
variable {s : Session} (counted : s.Counted)
include counted

theorem settles_refl : Settles s s 0 :=
  ⟨⟨rfl, rfl, rfl, rfl, counted, (add_zero _).symm, add_zero _⟩, id⟩

theorem settles_append (outcomes : List Outcome) :
    Settles s (s.append outcomes) (settled outcomes) := by
  refine ⟨⟨rfl, rfl, rfl, rfl, ⟨counted.list, counted.pool⟩, ?_, add_zero _⟩, id⟩
  simp only [Session.packets, Session.append, settled_append]
  exact add_right_comm _ _ _

theorem settles_record (outcome : Outcome) : Settles s (s.record outcome) (settled [outcome]) :=
  settles_append counted [outcome]

theorem settles_assert (holds : Bool) : Settles s (s.assert holds) 0 := by
  cases holds with
  | true => exact settles_refl counted
  | false => exact settles_record counted .assertFailed

theorem settles_setTimer (now32 : BitVec 64) : Settles s (s.setTimer now32) 0 :=
  ⟨⟨rfl, rfl, rfl, rfl, ⟨counted.list, counted.pool⟩, (add_zero _).symm, add_zero _⟩, id⟩

theorem settles_setLastIndSeq (value : Nat) : Settles s (s.setLastIndSeq value) 0 := by
  refine ⟨⟨rfl, rfl, rfl, rfl, ⟨counted.list, counted.pool⟩, ?_, add_zero _⟩, id⟩
  simp only [Session.packets, Session.setLastIndSeq, settled_append]
  exact add_right_comm _ _ _

theorem settles_dropPacket (packet : Packet) : Settles s (s.dropPacket packet) {packet} := by
  refine ⟨⟨rfl, rfl, rfl, rfl, ⟨counted.list, counted.pool⟩, ?_, add_zero _⟩, id⟩
  simp only [Session.packets, Session.dropPacket, settled_append]
  exact add_right_comm _ _ _

theorem settles_drain (count : Nat) (present : count ≤ s.entry.list.next.length) :
    Settles s (s.drain count) 0 := by
  have split := List.take_append_drop count s.entry.list.next
  refine ⟨⟨rfl, rfl, rfl, rfl, ⟨Session.drain_counted counted.list count, ?_⟩, ?_, ?_⟩, ?_⟩
  · have pool := counted.pool
    simp only [ReorderingList.Counted, Session.drain, List.length_append, List.length_reverse,
      List.length_take] at pool ⊢
    omega
  · simp only [Session.packets, Session.drain, settled_append, settled_indications,
      ReorderingList.packets, add_zero, add_assoc, Multiset.coe_add, ← List.map_append, split]
  · have returned : ((s.entry.list.next.take count).reverse.map fun mpdu => mpdu.addr).Perm
        ((s.entry.list.next.take count).map fun mpdu => mpdu.addr) :=
      (List.reverse_perm _).map _
    have whole := congrArg (List.map fun mpdu => mpdu.addr) split
    rw [List.map_append] at whole
    simp only [Session.blocks, Session.drain, ReorderingList.blocks, List.map_append, add_zero,
      ← Multiset.coe_add, Multiset.coe_eq_coe.mpr returned]
    rw [← whole, ← Multiset.coe_add]
    abel
  · intro empty
    simp [empty]

theorem settles_refreshed : Settles s s.refreshed 0 := by
  refine ⟨⟨rfl, rfl, rfl, rfl, ⟨ReorderingList.counted_empty, ?_⟩, ?_, ?_⟩, fun _ => rfl⟩
  · have pool := counted.pool
    simp only [ReorderingList.Counted, Session.refreshed, List.length_append,
      List.length_reverse] at pool ⊢
    omega
  · have none : settled [.lastIndSeq resetRcvSeq] = 0 := rfl
    simp only [Session.packets, Session.refreshed, settled_append, settled_refresh, none,
      add_zero, ReorderingList.packets, ReorderingList.empty, List.map_nil, Multiset.coe_nil]
  · have returned : (s.entry.list.next.reverse.map fun mpdu => mpdu.addr).Perm
        (s.entry.list.next.map fun mpdu => mpdu.addr) :=
      (List.reverse_perm _).map _
    simp only [Session.blocks, Session.refreshed, add_zero, ReorderingList.blocks,
      ReorderingList.empty, List.map_nil, Multiset.coe_nil, List.map_append, ← Multiset.coe_add,
      Multiset.coe_eq_coe.mpr returned]
    exact add_comm _ _

end

theorem leSeqCount_le (sequence : Nat) (mpdus : List ReorderingMpdu) :
    leSeqCount sequence mpdus ≤ mpdus.length := by
  induction mpdus with
  | nil => exact le_rfl
  | cons mpdu rest ih =>
    simp only [leSeqCount, List.length_cons]
    split_ifs <;> omega

theorem inOrderCount_le (startSeq : Nat) (mpdus : List ReorderingMpdu) :
    inOrderCount startSeq mpdus ≤ mpdus.length := by
  induction mpdus generalizing startSeq with
  | nil => exact le_rfl
  | cons mpdu rest ih =>
    have tail := ih mpdu.sequence
    simp only [inOrderCount, List.length_cons]
    split_ifs <;> omega

section
variable {s : Session} (counted : s.Counted)
include counted

theorem settles_leSeq (sequence : Nat) :
    Settles s (baIndicateReorderingMpdusLeSeq s sequence) 0 := by
  rw [baIndicateReorderingMpdusLeSeq_eq s sequence counted.list]
  exact settles_drain counted _ (leSeqCount_le sequence _)

theorem settles_inOrderMpdus (startSeq : Nat) :
    Settles s (baIndicateReorderingMpdusInOrder s startSeq).1 0 := by
  unfold baIndicateReorderingMpdusInOrder
  rw [inOrderLoop_eq _ s _ _ counted.list le_rfl]
  exact settles_drain counted _ (inOrderCount_le startSeq _)

theorem settles_indicateInOrder : Settles s (indicateInOrder s) 0 := by
  have drained := settles_inOrderMpdus counted s.entry.lastIndSeq
  unfold indicateInOrder
  dsimp only
  split_ifs
  · exact drained.then (settles_setLastIndSeq drained.counted _)
  · exact drained

theorem settles_refresh : Settles s (baRefreshReorderingMpdus s) 0 := by
  rw [baRefreshReorderingMpdus_eq s counted.list]
  exact settles_refreshed counted

theorem settles_flush (env : Env) (now32 : BitVec 64) :
    Settles s (baFlushReorderingTimeoutMpdus env s now32) 0 := by
  unfold baFlushReorderingTimeoutMpdus
  split_ifs
  · exact settles_refl counted
  · have all := settles_refresh counted
    exact all.then (settles_setTimer all.counted now32)
  · have passed := settles_leSeq counted ((s.entry.lastIndSeq + 1) &&& maxSeq)
    have timed := passed.then (settles_setTimer passed.counted now32)
    have forced := timed.then
      (settles_setLastIndSeq timed.counted ((s.entry.lastIndSeq + 1) &&& maxSeq))
    exact forced.then (settles_indicateInOrder forced.counted)
  · exact settles_refl counted

theorem settles_idleTimeout (now32 : BitVec 64) :
    Settles s (baRecSessionIdleTimeout s now32) 0 := by
  unfold baRecSessionIdleTimeout
  split_ifs
  · exact settles_refresh counted
  · exact settles_refl counted

theorem settles_handOff (env : Env) (pRxBlk : RxBlk) (now32 : BitVec 64) :
    Settles s (indicateLegacyOrAMSDU env s pRxBlk now32) {pRxBlk.pRxPacket} := by
  rcases indicateLegacyOrAMSDU_cases env s pRxBlk now32 with ⟨outcomes, handed, whole⟩ | ⟨-, whole⟩
  · rw [whole, ← handed.settled]
    exact settles_append counted outcomes
  · have flushed := settles_flush counted env now32
    rw [whole]
    exact flushed.then (settles_append flushed.counted _)

theorem settles_indicateThrough (env : Env) (pRxBlk : RxBlk) (now32 : BitVec 64) :
    Settles s (indicateThrough env s pRxBlk now32) {pRxBlk.pRxPacket} := by
  have passed := settles_leSeq counted pRxBlk.sequence.toNat
  have moved := passed.then (settles_setLastIndSeq passed.counted pRxBlk.sequence.toNat)
  exact moved.then (settles_handOff moved.counted env pRxBlk now32)

theorem settles_bar (startSeq : BitVec 12) : Settles s (barReorderingMpdus s startSeq) 0 := by
  unfold barReorderingMpdus
  dsimp only
  split_ifs
  all_goals first
    | exact settles_refl counted
    | have passed := settles_leSeq counted startSeq.toNat
      have logged := passed.then (settles_record passed.counted (.bar startSeq.toNat))
      exact logged.then (settles_setLastIndSeq logged.counted _)

theorem settles_meetFrame (env : Env) (pRxBlk : RxBlk) (now32 : BitVec 64) :
    Settles s (meetFrame env s pRxBlk now32) 0 := by
  have seen : Settles s { s with entry := { s.entry with rcvSeq := pRxBlk.sequence.toNat } } 0 :=
    ⟨⟨rfl, rfl, rfl, rfl, ⟨counted.list, counted.pool⟩, (add_zero _).symm, add_zero _⟩, id⟩
  have flushed := seen.then (settles_flush seen.counted env now32)
  exact flushed.then (settles_setTimer flushed.counted now32)

theorem settles_shiftWindow (sequence : Nat) (now32 : BitVec 64) :
    Settles s (shiftWindow s sequence now32) 0 := by
  have passed := settles_leSeq counted (winStartSeq s.entry sequence)
  have moved := passed.then (settles_setLastIndSeq passed.counted (winStartSeq s.entry sequence))
  exact moved.then (settles_setTimer moved.counted now32)

/-- An empty pool gives no block and stays as it is. -/
theorem baMpduBlkAlloc_empty (empty : s.freelist.next = []) : baMpduBlkAlloc s = (none, s) := by
  simp only [baMpduBlkAlloc, baDequeue_nil s.freelist counted.pool empty, Option.map_none]

/-- Otherwise the first block leaves it. -/
theorem baMpduBlkAlloc_takes (block : ReorderingMpdu) (rest : List ReorderingMpdu)
    (chain : s.freelist.next = block :: rest) :
    baMpduBlkAlloc s = (some ⟨block.addr, 0, 0, false, .sta⟩,
      { s with freelist := ⟨rest, s.freelist.qlen - 1⟩ }) ∧
    Ledger s { s with freelist := ⟨rest, s.freelist.qlen - 1⟩ } 0 {block.addr} := by
  constructor
  · simp only [baMpduBlkAlloc, baDequeue_cons s.freelist counted.pool block rest chain,
      Option.map_some]
  · refine ⟨rfl, rfl, rfl, rfl, ⟨counted.list, counted.pool.tail chain⟩, (add_zero _).symm, ?_⟩
    simp only [Session.blocks, ReorderingList.blocks, chain, List.map_cons]
    rw [add_comm, Multiset.singleton_add, ← Multiset.cons_coe, Multiset.cons_add]

/-- A filled block ends up in the list or, with its packet freed, back in the pool. -/
theorem insertMpdu_ledger (mpdu : ReorderingMpdu) :
    (insertMpdu s mpdu).idx = s.idx ∧ (insertMpdu s mpdu).entry.wcid = s.entry.wcid ∧
    (insertMpdu s mpdu).entry.tid = s.entry.tid ∧
    (insertMpdu s mpdu).entry.recBAStatus = s.entry.recBAStatus ∧
    (insertMpdu s mpdu).Counted ∧ (insertMpdu s mpdu).packets = s.packets + {mpdu.pPacket} ∧
    (insertMpdu s mpdu).blocks = s.blocks + {mpdu.addr} := by
  cases found : insertScan mpdu s.entry.list.next with
  | none =>
    rw [insertMpdu_none s mpdu found]
    refine ⟨rfl, rfl, rfl, rfl, ⟨counted.list, baEnqueue_counted _ counted.pool mpdu⟩, ?_, ?_⟩
    · simp only [baMpduBlkFree, Session.packets, Session.record, settled_append]
      exact add_right_comm _ _ _
    · simp only [baMpduBlkFree, Session.blocks, Session.record, baEnqueue, ReorderingList.blocks,
        List.map_cons, ← Multiset.cons_coe, ← Multiset.singleton_add]
      abel
  | some next =>
    have placed := insertScan_perm mpdu s.entry.list.next next found
    have longer := insertScan_length mpdu s.entry.list.next next found
    rw [insertMpdu_some s mpdu next found]
    refine ⟨rfl, rfl, rfl, rfl, ⟨?_, counted.pool⟩, ?_, ?_⟩
    · have list := counted.list
      simp only [ReorderingList.Counted, Session.setList] at list ⊢
      omega
    · have packets := Multiset.coe_eq_coe.mpr (placed.map fun mpdu => mpdu.pPacket)
      simp only [Session.packets, Session.setList, ReorderingList.packets, packets, List.map_cons,
        ← Multiset.cons_coe, ← Multiset.singleton_add]
      abel
    · have blocks := Multiset.coe_eq_coe.mpr (placed.map fun mpdu => mpdu.addr)
      simp only [Session.blocks, Session.setList, ReorderingList.blocks, blocks, List.map_cons,
        ← Multiset.cons_coe, ← Multiset.singleton_add]
      abel

end

/-- What `ba_enqueue_reordering_packet` loses: an EAPOL frame is not buffered, but the block
taken for it does not come back. -/
def lostBlocks (s : Session) (pRxBlk : RxBlk) : Multiset Nat :=
  if pRxBlk.fRXEAP then ↑((s.freelist.next.take 1).map fun mpdu => mpdu.addr) else 0

section
variable {s : Session} (counted : s.Counted)
include counted

theorem baEnqueueReorderingPacket_ledger (env : Env) (pRxBlk : RxBlk) (now32 : BitVec 64) :
    Ledger s (baEnqueueReorderingPacket env s pRxBlk now32) {pRxBlk.pRxPacket}
      (lostBlocks s pRxBlk) := by
  unfold baEnqueueReorderingPacket lostBlocks
  cases chain : s.freelist.next with
  | nil =>
    rw [baMpduBlkAlloc_empty counted chain]
    have handed := (settles_indicateThrough counted env pRxBlk now32).ledger
    simpa using handed
  | cons block rest =>
    obtain ⟨taken, without⟩ := baMpduBlkAlloc_takes counted block rest chain
    rw [taken]
    by_cases eap : pRxBlk.fRXEAP = true
    · have handed := (settles_indicateThrough without.counted env pRxBlk now32).ledger
      simpa [eap] using without.trans handed
    · obtain ⟨idx, wcid, tid, status, whole, packets, blocks⟩ := insertMpdu_ledger without.counted
        (pRxBlk.toMpdu ⟨block.addr, 0, 0, false, .sta⟩)
      have placed : Ledger s (insertMpdu { s with freelist := ⟨rest, s.freelist.qlen - 1⟩ }
          (pRxBlk.toMpdu ⟨block.addr, 0, 0, false, .sta⟩)) {pRxBlk.pRxPacket} 0 := by
        refine ⟨idx, wcid, tid, status, whole, packets, ?_⟩
        rw [blocks, add_zero]
        exact without.blocks
      have checked := fun holds => placed.trans (settles_assert whole holds).ledger
      simpa [eap] using checked _

theorem reorderAMPDUPacket_ledger (env : Env) (pRxBlk : RxBlk) (now32 legacyNow32 : BitVec 64) :
    ∃ leaked, Ledger s (reorderAMPDUPacket env s pRxBlk now32 legacyNow32)
      {pRxBlk.pRxPacket} leaked := by
  have met := settles_meetFrame counted env pRxBlk now32
  unfold reorderAMPDUPacket
  dsimp only
  cases arrival (meetFrame env s pRxBlk now32).entry pRxBlk.sequence.toNat with
  | first =>
    have checked := met.then (settles_assert met.counted
      ((meetFrame env s pRxBlk now32).entry.list.qlen == 0 &&
        (meetFrame env s pRxBlk now32).entry.list.next.isEmpty))
    have started := checked.then (settles_setLastIndSeq checked.counted pRxBlk.sequence.toNat)
    have timed := started.then (settles_setTimer started.counted now32)
    exact ⟨0, (timed.then (settles_handOff timed.counted env pRxBlk legacyNow32)).ledger⟩
  | inOrder =>
    have moved := met.then (settles_setLastIndSeq met.counted pRxBlk.sequence.toNat)
    have handed := moved.then (settles_handOff moved.counted env pRxBlk legacyNow32)
    have drained := handed.trans (settles_indicateInOrder handed.counted)
    have timed := drained.trans (settles_setTimer drained.counted now32)
    exact ⟨0, by simpa using timed.ledger⟩
  | duplicated => exact ⟨0, (met.then (settles_dropPacket met.counted pRxBlk.pRxPacket)).ledger⟩
  | old => exact ⟨0, (met.then (settles_dropPacket met.counted pRxBlk.pRxPacket)).ledger⟩
  | withinWindow =>
    have placed := met.ledger.trans
      (baEnqueueReorderingPacket_ledger met.counted env pRxBlk legacyNow32)
    exact ⟨_, by simpa using placed⟩
  | surpasses =>
    have shifted := met.then (settles_shiftWindow met.counted pRxBlk.sequence.toNat now32)
    have placed := shifted.ledger.trans
      (baEnqueueReorderingPacket_ledger shifted.counted env pRxBlk legacyNow32)
    have drained := placed.trans (settles_indicateInOrder placed.counted).ledger
    exact ⟨_, by simpa using drained⟩

/-- Without a session the frame goes straight up. -/
theorem settles_unordered (env : Env) (pRxBlk : RxBlk) (now32 legacyNow32 : BitVec 64)
    (unordered : s.idx = 0) :
    Settles s (indicateAMPDUPacket env s pRxBlk now32 legacyNow32) {pRxBlk.pRxPacket} := by
  unfold indicateAMPDUPacket
  split_ifs
  · exact settles_record counted (.kfree pRxBlk.pRxPacket)
  · exact settles_handOff counted env pRxBlk legacyNow32
  · have failed := settles_record counted .assertFailed
    exact failed.then (settles_record failed.counted (.kfree pRxBlk.pRxPacket))

theorem indicateAMPDUPacket_ledger (env : Env) (pRxBlk : RxBlk) (now32 legacyNow32 : BitVec 64) :
    ∃ leaked, Ledger s (indicateAMPDUPacket env s pRxBlk now32 legacyNow32)
      {pRxBlk.pRxPacket} leaked := by
  by_cases unordered : s.idx = 0
  · exact ⟨0, (settles_unordered counted env pRxBlk now32 legacyNow32 unordered).ledger⟩
  · unfold indicateAMPDUPacket
    rw [if_neg unordered]
    split_ifs
    · exact ⟨0, (settles_record counted (.kfree pRxBlk.pRxPacket)).ledger⟩
    · exact reorderAMPDUPacket_ledger counted env pRxBlk now32 legacyNow32
    · have failed := settles_record counted .assertFailed
      exact ⟨0, (failed.then (settles_record failed.counted (.kfree pRxBlk.pRxPacket))).ledger⟩

end

end Mt7612u.BlockAck
