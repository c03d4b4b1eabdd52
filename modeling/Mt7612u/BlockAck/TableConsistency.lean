import Mt7612u.BlockAck.AdapterRun

/-! In every run the five places that say which sessions there are say the same. -/

namespace Mt7612u.BlockAck
open Receive
open Library.Directory
open Library.Run

/-- An allocator answers with an entry and its index exactly when one is free. -/
structure Allocates (free : BaIdx → Prop) (answer : Option BaIdx) (idx : BaIdx) : Prop where
  isSome : answer.isSome = true ↔ ∃ i, i ≠ 0 ∧ free i
  written : ∀ i, answer = some i → i ≠ 0 ∧ free i ∧ idx = i

/-- The statuses of the entries, the stations' arrays and bitmaps, and the three counters of
the two tables agree. -/
structure TableConsistent (pAd : RtmpAdapter) : Prop where
  numAsRecipient : pAd.numAsRecipient =
    (Finset.univ.filter fun i => i ≠ 0 ∧ (pAd.baRecEntry i).recBAStatus ≠ .none).card
  numAsOriginator : pAd.numAsOriginator =
    (Finset.univ.filter fun i => i ≠ 0 ∧ (pAd.baOriEntry i).oriBAStatus ≠ .none).card
  numDoneOriginator : pAd.numDoneOriginator =
    (Finset.univ.filter fun i => (pAd.baOriEntry i).oriBAStatus = .done).card
  baRecWcidArray : ∀ i, i ≠ 0 → ∀ wcid tid,
    ((pAd.baRecEntry i).recBAStatus ≠ .none ∧ (pAd.baRecEntry i).wcid = wcid ∧
      (pAd.baRecEntry i).tid = tid) ↔ (pAd.content wcid).baRecWcidArray tid = i
  baOriWcidArray : ∀ i, i ≠ 0 → ∀ wcid tid,
    ((pAd.baOriEntry i).oriBAStatus ≠ .none ∧ (pAd.baOriEntry i).wcid = wcid ∧
      (pAd.baOriEntry i).tid = tid) ↔ (pAd.content wcid).baOriWcidArray tid = i
  rxBAbitmap : ∀ wcid (tid : Tid), (pAd.content wcid).rxBAbitmap.getLsbD tid.val = true ↔
    (pAd.baRecEntry ((pAd.content wcid).baRecWcidArray tid)).recBAStatus = .accept
  txBAbitmap : ∀ wcid (tid : Tid), (pAd.content wcid).txBAbitmap.getLsbD tid.val = true ↔
    (pAd.baOriEntry ((pAd.content wcid).baOriWcidArray tid)).oriBAStatus = .done
  allocRec : ∀ idx, Allocates (fun i => (pAd.baRecEntry i).recBAStatus = .none)
    (baTableAllocRecEntry pAd idx).1 (baTableAllocRecEntry pAd idx).2.1
  allocOri : ∀ idx, Allocates (fun i => (pAd.baOriEntry i).oriBAStatus = .none)
    (baTableAllocOriEntry pAd idx).1 (baTableAllocOriEntry pAd idx).2.1

/-- The count of a consistent table leaves out the reserved entry. -/
theorem used_eq_card {Stage : Type*} [DecidableEq Stage]
    {d : SlotTable BaIdx (Wcid × Tid) Stage} {vacant live : Stage}
    (consistent : d.Consistent 0 vacant live) :
    d.used = (Finset.univ.filter fun i => i ≠ 0 ∧ d.stage i ≠ vacant).card := by
  rw [consistent.counted, tally_eq_card]
  congr 1
  ext i
  have reserved : d.stage i ≠ vacant → i ≠ 0 := by
    rintro taken rfl
    exact taken consistent.reserved
  simp only [ne_eq, decide_not, Bool.not_eq_true', decide_eq_false_iff_not, Finset.mem_filter,
    Finset.mem_univ, true_and]
  exact ⟨fun taken => ⟨reserved taken, taken⟩, And.right⟩

theorem allocates_of_cases {free : BaIdx → Prop} {answer : Option BaIdx} {idx : BaIdx}
    (cases : ((∀ i, i ≠ 0 → ¬free i) ∧ answer = none) ∨
      ∃ i, i ≠ 0 ∧ free i ∧ answer = some i ∧ idx = i) : Allocates free answer idx := by
  rcases cases with ⟨taken, rfl⟩ | ⟨found, inside, vacant, rfl, rfl⟩
  · refine ⟨⟨fun some => absurd some (by simp), ?_⟩, fun i equal => by simp at equal⟩
    rintro ⟨i, real, vacant⟩
    exact absurd vacant (taken i real)
  · refine ⟨⟨fun _ => ⟨idx, inside, vacant⟩, fun _ => rfl⟩, fun i equal => ?_⟩
    obtain rfl := Option.some.inj equal
    exact ⟨inside, vacant, rfl⟩

theorem AdapterInvariant.tableConsistent {pAd : RtmpAdapter} (invariant : AdapterInvariant pAd) :
    TableConsistent pAd where
  numAsRecipient := used_eq_card invariant.recipient.consistent
  numAsOriginator := used_eq_card invariant.originator.consistent
  numDoneOriginator := by
    rw [invariant.originator.done, tally_eq_card]
    simp only [decide_eq_true_eq]
    rfl
  baRecWcidArray := by
    intro i inside wcid tid
    have agrees := invariant.recipient.consistent.agrees i inside (wcid, tid)
    simpa only [recTable, Prod.mk.injEq] using agrees
  baOriWcidArray := by
    intro i inside wcid tid
    have agrees := invariant.originator.consistent.agrees i inside (wcid, tid)
    simpa only [oriTable, Prod.mk.injEq] using agrees
  rxBAbitmap wcid tid := invariant.recipient.consistent.flagged (wcid, tid)
  txBAbitmap wcid tid := invariant.originator.consistent.flagged (wcid, tid)
  allocRec := by
    intro idx
    apply allocates_of_cases
    rcases baTableAllocRecEntry_cases invariant.recipient idx with
      ⟨taken, allocated⟩ | ⟨found, inside, free, allocated⟩
    · exact Or.inl ⟨taken, by rw [allocated]⟩
    · exact Or.inr ⟨found, inside, free, by rw [allocated], by rw [allocated]⟩
  allocOri := by
    intro idx
    apply allocates_of_cases
    rcases baTableAllocOriEntry_cases invariant.originator idx with
      ⟨taken, allocated⟩ | ⟨found, inside, free, allocated⟩
    · exact Or.inl ⟨taken, by rw [allocated]⟩
    · exact Or.inr ⟨found, inside, free, by rw [allocated], by rw [allocated]⟩

/-- The session tables stay consistent in every run, whether or not memory can be had for
the DELBA messages. -/
theorem run_tableConsistent (pAd : RtmpAdapter) (blank : pAd.Blank) (num : Nat) (mem : Bool)
    (events : List AdapterEvent) :
    TableConsistent (run adapterStep (baReorderingResourceInit pAd num mem).2 events) :=
  (run_kept (blank.invariant num mem) events).invariant.tableConsistent

theorem run_tableConsistent_tornDown :
    TableConsistent (run adapterStep (baReorderingResourceInit zeroedAdapter 4 true).2
      [.recSessionAdd ⟨1, by decide⟩ ⟨⟨0, by decide⟩, 64, 0⟩,
        .oriSessionSetUp ⟨1, by decide⟩ ⟨2, by decide⟩ true true,
        .oriSessionAdd ⟨1, by decide⟩ ⟨2, by decide⟩,
        .sessionTearDownALL 1 fun _ => (true, true)]) :=
  run_tableConsistent zeroedAdapter zeroedAdapter_blank 4 true _

end Mt7612u.BlockAck
