import Mt7612u.BlockAck.AdapterRun

/-! No packet is lost and none is used twice: whatever goes into `Indicate_AMPDU_Packet` is
handed up, freed or buffered. -/

namespace Mt7612u.BlockAck
open Receive
open Library.Run

/-- The packets of a run's frames, in their order. -/
def handedPackets (events : List AdapterEvent) : List Packet :=
  events.filterMap fun
    | .frame _ pRxBlk _ _ => some pRxBlk.pRxPacket
    | _ => none

/-- Where the packet is: how often it was indicated, freed, and is buffered. -/
def RtmpAdapter.places (pAd : RtmpAdapter) (packet : Packet) : Nat :=
  (indicatedPackets pAd.log).count packet + (freedPackets pAd.log).count packet +
    ∑ idx, (pAd.baRecEntry idx).list.packets.count packet

/-- A list that holds a frame is the list of a session: its entry is accepted, and the
station it records finds it. -/
def RtmpAdapter.BuffersInSessions (pAd : RtmpAdapter) : Prop :=
  ∀ idx, (pAd.baRecEntry idx).list.next ≠ [] →
    (pAd.baRecEntry idx).recBAStatus = .accept ∧
      (pAd.content (pAd.baRecEntry idx).wcid).baRecWcidArray (pAd.baRecEntry idx).tid = idx

theorem sum_handed (events : List AdapterEvent) :
    (events.map AdapterEvent.handed).sum = ↑(handedPackets events) := by
  induction events with
  | nil => rfl
  | cons event rest ih =>
    rw [List.map_cons, List.sum_cons, ih]
    cases event <;> rfl

theorem count_packets (pAd : RtmpAdapter) (packet : Packet) :
    pAd.packets.count packet = pAd.places packet := by
  simp only [RtmpAdapter.packets, RtmpAdapter.bufferedPackets, settled, RtmpAdapter.places,
    Multiset.count_add, Multiset.coe_count, Multiset.count_sum']

theorem RecInvariant.buffersInSessions {pAd : RtmpAdapter} (invariant : RecInvariant pAd) :
    pAd.BuffersInSessions := by
  intro idx holds
  have accepted : (recTable pAd).stage idx = .accept := by
    by_contra free
    exact holds (invariant.idle idx free)
  refine ⟨accepted, invariant.consistent.slotOf_holder ?_⟩
  rw [accepted]
  decide

theorem places_start {pAd : RtmpAdapter} (blank : pAd.Blank) (num : Nat) (mem : Bool) :
    (baReorderingResourceInit pAd num mem).2.packets = 0 := by
  have log : (baReorderingResourceInit pAd num mem).2.log = [] := by
    cases mem <;> exact blank.log
  have entries : (baReorderingResourceInit pAd num mem).2.baRecEntry = pAd.baRecEntry := by
    cases mem <;> rfl
  have buffered : (baReorderingResourceInit pAd num mem).2.bufferedPackets = 0 := by
    apply Finset.sum_eq_zero
    intro idx _
    rw [entries, (blank.baRecEntry idx).2]
    rfl
  rw [RtmpAdapter.packets, log, buffered]
  rfl

/-- At the end of every run each packet is in as many places as it was handed in, once and in
one place if it came once; and after the release none is buffered. -/
theorem run_packetsConserved (pAd : RtmpAdapter) (blank : pAd.Blank) (num : Nat) (mem : Bool)
    (events : List AdapterEvent) :
    let final := run adapterStep (baReorderingResourceInit pAd num mem).2 events
    (∀ packet, final.places packet = (handedPackets events).count packet) ∧
      final.BuffersInSessions ∧ (baReorderingResourceRelease final).bufferedPackets = 0 := by
  have kept := run_kept (blank.invariant num mem) events
  refine ⟨fun packet => ?_, kept.invariant.recipient.buffersInSessions,
    kept.invariant.recipient.resourceRelease.2⟩
  rw [← count_packets, kept.packets, places_start blank, zero_add, sum_handed, Multiset.coe_count]

theorem run_packetsConserved_released :
    let events : List AdapterEvent :=
      [.recSessionAdd ⟨1, by decide⟩ ⟨⟨0, by decide⟩, 64, 0⟩,
        .frame ⟨250, .sta, true, false⟩ (zeroFrame 7 1 false) 0 0,
        .frame ⟨250, .sta, true, false⟩ (zeroFrame 8 3 false) 0 0, .resourceRelease]
    let final := run adapterStep (baReorderingResourceInit zeroedAdapter 4 true).2 events
    (∀ packet, final.places packet = (handedPackets events).count packet) ∧
      final.BuffersInSessions ∧ (baReorderingResourceRelease final).bufferedPackets = 0 :=
  run_packetsConserved zeroedAdapter zeroedAdapter_blank 4 true _

end Mt7612u.BlockAck
