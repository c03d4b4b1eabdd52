import Mt7612u.Sta.Connect

/-! Every attempt of the control machine to connect: which candidates it tries and in which order,
when it gives up, and that it comes to an end. -/

namespace Mt7612u.Sta
open Library.Run

/-- The candidate that an event joins. -/
def CntlEvent.candidate : CntlEvent → Option Nat
  | .joined bssIdx _ _ => some bssIdx.toNat
  | _ => none

/-- The candidates that have been joined. -/
def CntlMachine.tried (s : CntlMachine) : List Nat := s.trace.filterMap CntlEvent.candidate

/-- The pairwise and the group cipher for a suite of an AP: the configured pairwise cipher when the
AP has it, else its second one, else TKIP. -/
def suiteCiphers (wepStatus : WepStatus) (suite : CipherSuite) : WepStatus × WepStatus :=
  if wepStatus = suite.pairCipher then (wepStatus, suite.groupCipher)
  else if suite.pairCipherAux = .wepDisabled then (.tkipEnable, suite.groupCipher)
  else (suite.pairCipherAux, suite.groupCipher)

/-- The ciphers of a candidate. Only WPA and WPA2 ask the AP; the other modes use the configured
cipher, and the group cipher that the supplicant has set. -/
def chosenCiphers (cfg : StaCfg) (configured : WepStatus) (entry : BssEntry) :
    WepStatus × WepStatus :=
  if cfg.bssType = .infra ∧ cfg.authMode.isWpa then suiteCiphers cfg.wepStatus entry.wpa
  else if cfg.bssType = .infra ∧ cfg.authMode.isWpa2 then suiteCiphers cfg.wepStatus entry.wpa2
  else if cfg.wpaSupplicantUp = wpaSupplicantDisable then (cfg.wepStatus, cfg.wepStatus)
  else (cfg.wepStatus, configured)

/-- The states in which a candidate is tried. -/
def CntlState.trying : CntlState → Bool
  | .waitJoin => true
  | .waitAuth => true
  | .waitAuth2 => true
  | .waitAssoc => true
  | _ => false

/-- The station joins networks of one of the two kinds. -/
def StaCfg.joinsBss (cfg : StaCfg) : Prop := cfg.bssType = .infra ∨ cfg.bssType = .adhoc

/-- The candidates from `first` on are tried in the order of the table, each once and with its own
ciphers, and none is left when the machine gives up. -/
structure CntlMachine.TriesFrom (cfg : StaCfg) (configured : WepStatus) (first : Nat)
    (s : CntlMachine) : Prop where
  inOrder : s.tried = List.range' first s.tried.length
  inside : ∀ candidate ∈ s.tried, candidate < s.matched
  exhausted : cfg.joinsBss → .noMoreBss ∈ s.trace →
    ∀ candidate, first ≤ candidate → candidate < s.matched → candidate ∈ s.tried
  ciphers : ∀ bssIdx pairCipher groupCipher, .joined bssIdx pairCipher groupCipher ∈ s.trace →
    (pairCipher, groupCipher) =
      chosenCiphers cfg configured (s.ssidBssTab.bssEntry bssIdx.toNat)
  current : s.currState.trying = true →
    s.bssIdx.toNat < s.ssidBssTab.bssNr.toNat ∧
      (s.pairCipher, s.groupCipher) =
        chosenCiphers cfg configured (s.ssidBssTab.bssEntry s.bssIdx.toNat)

/-- Where an attempt begins: after a disassociation with the candidate that follows the one the last
attempt has stopped at, else with the first. -/
def CntlMachine.firstCandidate (s : CntlMachine) : Nat :=
  if s.infraOn then (s.bssIdx + 1).toNat else 0

/-- AUTH does not fail the open system that auto switch tries after the shared key without having
recorded the algorithm. -/
def AlgRecorded (cfg : StaCfg) (s : CntlMachine) (conf : Confirmation) : Prop :=
  s.currState = .waitAuth2 → s.outstanding = some (.authReq .open) → conf.status ≠ mlmeSuccess →
    cfg.authMode = .autoSwitch → s.alg = .key → conf.algRecorded = true

/-- The machine before an attempt. -/
structure CntlMachine.AtRest (s : CntlMachine) : Prop where
  quiet : s.outstanding = none
  fresh : s.trace = []

def maxBssNr : Nat := 255

/-- Five confirmations for each candidate, one for the IBSS that is started in the end, and one for
the disassociation or the scan before all of them. -/
def confirmationBound : Nat := 5 * maxBssNr + 2

section invariant
variable {cfg : StaCfg} {configured : WepStatus} {first : Nat} {s t : CntlMachine}

/-- What holds of the trace; without a suite to match, a supplicant's group cipher stays. -/
structure Joins (cfg : StaCfg) (configured : WepStatus) (first : Nat) (s : CntlMachine) : Prop where
  inOrder : s.tried = List.range' first s.tried.length
  inside : ∀ candidate ∈ s.tried, candidate < s.matched
  exhausted : cfg.joinsBss → .noMoreBss ∈ s.trace → s.matched ≤ first + s.tried.length
  ciphers : ∀ bssIdx pairCipher groupCipher, .joined bssIdx pairCipher groupCipher ∈ s.trace →
    (pairCipher, groupCipher) =
      chosenCiphers cfg configured (s.ssidBssTab.bssEntry bssIdx.toNat)
  group : cfg.wpaSupplicantUp ≠ wpaSupplicantDisable →
    ¬ (cfg.bssType = .infra ∧ (cfg.authMode.isWpa ∨ cfg.authMode.isWpa2)) →
      s.groupCipher = configured

/-- Before the first candidate. -/
structure Before (s : CntlMachine) : Prop where
  nothingTried : s.tried = []
  notExhausted : .noMoreBss ∉ s.trace
  full : s.ssidBssTab.bssNr.toNat = s.matched

/-- While the candidate at `BssIdx` is tried. -/
structure Trying (cfg : StaCfg) (configured : WepStatus) (first : Nat) (s : CntlMachine) :
    Prop where
  last : s.bssIdx.toNat + 1 = first + s.tried.length
  inside : s.bssIdx.toNat < s.matched
  notExhausted : .noMoreBss ∉ s.trace
  full : s.ssidBssTab.bssNr.toNat = s.matched
  ciphers : (s.pairCipher, s.groupCipher) =
    chosenCiphers cfg configured (s.ssidBssTab.bssEntry s.bssIdx.toNat)

/-- The request that each state waits for, and where the attempt is. -/
def Stage (cfg : StaCfg) (configured : WepStatus) (first : Nat) (s : CntlMachine) : Prop :=
  match s.currState with
  | .idle => s.outstanding = none
  | .waitStart => s.outstanding = some .startReq
  | .waitDisassoc =>
      s.outstanding = some .disassocReq ∧ Before s ∧ first = (s.bssIdx + 1).toNat
  | .waitOidListScan => s.outstanding = some .scanReq ∧ Before s ∧ first = 0
  | .waitScanForConnect => s.outstanding = some .forceScanReq ∧ Before s ∧ first = 0
  | .waitJoin => s.outstanding = some (.joinReq s.bssIdx) ∧ Trying cfg configured first s
  | .waitAuth => s.outstanding = some (.authReq (firstAlg cfg)) ∧ Trying cfg configured first s
  | .waitAuth2 => (∃ alg, s.outstanding = some (.authReq alg)) ∧ Trying cfg configured first s
  | .waitAssoc => s.outstanding = some .assocReq ∧ Trying cfg configured first s

structure Progress (cfg : StaCfg) (configured : WepStatus) (first : Nat) (s : CntlMachine) :
    Prop where
  joins : Joins cfg configured first s
  stage : Stage cfg configured first s

/-- About to look at `BssEntry[BssIdx]`. -/
structure Ready (cfg : StaCfg) (configured : WepStatus) (first : Nat) (s : CntlMachine) :
    Prop where
  joins : Joins cfg configured first s
  next : s.bssIdx.toNat = first + s.tried.length
  quiet : s.outstanding = none
  notExhausted : .noMoreBss ∉ s.trace
  full : s.ssidBssTab.bssNr.toNat = s.matched

/-- `Joins` is about these fields. -/
theorem Joins.transfer (joins : Joins cfg configured first s) (trace : t.trace = s.trace)
    (matched : t.matched = s.matched) (entries : t.ssidBssTab.bssEntry = s.ssidBssTab.bssEntry)
    (group : t.groupCipher = s.groupCipher) : Joins cfg configured first t := by
  have tried : t.tried = s.tried := congrArg (List.filterMap CntlEvent.candidate) trace
  constructor
  · rw [tried]
    exact joins.inOrder
  · rw [tried, matched]
    exact joins.inside
  · rw [trace, tried, matched]
    exact joins.exhausted
  · rw [trace, entries]
    exact joins.ciphers
  · rw [group]
    exact joins.group

theorem Trying.transfer (trying : Trying cfg configured first s) (trace : t.trace = s.trace)
    (bssIdx : t.bssIdx = s.bssIdx) (matched : t.matched = s.matched)
    (tab : t.ssidBssTab = s.ssidBssTab) (pair : t.pairCipher = s.pairCipher)
    (group : t.groupCipher = s.groupCipher) : Trying cfg configured first t := by
  have tried : t.tried = s.tried := congrArg (List.filterMap CntlEvent.candidate) trace
  constructor
  · rw [bssIdx, tried]
    exact trying.last
  · rw [bssIdx, matched]
    exact trying.inside
  · rw [trace]
    exact trying.notExhausted
  · rw [tab, matched]
    exact trying.full
  · rw [pair, group, bssIdx, tab]
    exact trying.ciphers

/-- An event that joins nothing. -/
theorem Joins.note (joins : Joins cfg configured first s) {event : CntlEvent}
    (noJoin : event.candidate = none)
    (last : cfg.joinsBss → event = .noMoreBss → s.matched ≤ first + s.tried.length) :
    Joins cfg configured first (s.note event) := by
  have tried : (s.note event).tried = s.tried := by
    unfold CntlMachine.tried CntlMachine.note
    rw [List.filterMap_append, List.filterMap_cons_none noJoin, List.filterMap_nil,
      List.append_nil]
  constructor
  · rw [tried]
    exact joins.inOrder
  · rw [tried]
    exact joins.inside
  · rw [tried]
    intro kind member
    rcases List.mem_append.mp member with before | now
    · exact joins.exhausted kind before
    · exact last kind (List.mem_singleton.mp now).symm
  · intro bssIdx pairCipher groupCipher member
    rcases List.mem_append.mp member with before | now
    · exact joins.ciphers bssIdx pairCipher groupCipher before
    · rw [← List.mem_singleton.mp now] at noJoin
      cases noJoin
  · exact joins.group

theorem ready_originalCiphers (ready : Ready cfg configured first s) :
    Ready cfg configured first (originalCiphers cfg s) := by
  obtain ⟨⟨inOrder, inside, exhausted, ciphers, group⟩, next, quiet, notExhausted, full⟩ := ready
  unfold originalCiphers
  split
  next disabled =>
    exact ⟨⟨inOrder, inside, exhausted, ciphers, fun enabled => absurd disabled enabled⟩, next, quiet,
      notExhausted, full⟩
  next => exact ⟨⟨inOrder, inside, exhausted, ciphers, group⟩, next, quiet, notExhausted, full⟩

/-- Without a suite to match, the original ciphers are the chosen ones. -/
theorem ciphers_originalCiphers (ready : Ready cfg configured first s)
    (unmatched : ¬ (cfg.bssType = .infra ∧ (cfg.authMode.isWpa ∨ cfg.authMode.isWpa2)))
    (entry : BssEntry) :
    ((originalCiphers cfg s).pairCipher, (originalCiphers cfg s).groupCipher) =
      chosenCiphers cfg configured entry := by
  have noWpa : ¬ (cfg.bssType = .infra ∧ cfg.authMode.isWpa) := fun both =>
    unmatched ⟨both.1, Or.inl both.2⟩
  have noWpa2 : ¬ (cfg.bssType = .infra ∧ cfg.authMode.isWpa2) := fun both =>
    unmatched ⟨both.1, Or.inr both.2⟩
  unfold chosenCiphers originalCiphers
  rw [if_neg noWpa, if_neg noWpa2]
  split
  next => rfl
  next enabled => rw [ready.joins.group enabled unmatched]

theorem ciphers_takeCiphers (wepStatus : WepStatus) (suite : CipherSuite) :
    ((s.takeCiphers wepStatus suite).pairCipher, (s.takeCiphers wepStatus suite).groupCipher) =
      suiteCiphers wepStatus suite := by
  unfold CntlMachine.takeCiphers suiteCiphers
  dsimp only
  by_cases same : wepStatus = suite.pairCipher
  · rw [if_pos same, if_pos same, same]
  · by_cases single : suite.pairCipherAux = .wepDisabled
    · rw [if_neg same, if_neg same, if_neg (not_not.mpr single), if_pos single]
    · rw [if_neg same, if_neg same, if_pos single, if_neg single]

/-- The fields that `matchCiphers` leaves. -/
theorem matchCiphers_keeps (entry : BssEntry) :
    (matchCiphers cfg entry s).trace = s.trace ∧ (matchCiphers cfg entry s).matched = s.matched ∧
      (matchCiphers cfg entry s).ssidBssTab = s.ssidBssTab ∧
      (matchCiphers cfg entry s).bssIdx = s.bssIdx ∧
      (matchCiphers cfg entry s).outstanding = s.outstanding := by
  unfold matchCiphers
  dsimp only
  split_ifs <;> exact ⟨rfl, rfl, rfl, rfl, rfl⟩

theorem ready_matchCiphers (entry : BssEntry) (infra : cfg.bssType = .infra)
    (ready : Ready cfg configured first s) :
    Ready cfg configured first (matchCiphers cfg entry s) := by
  obtain ⟨trace, matched, tab, bssIdx, quiet⟩ := @matchCiphers_keeps cfg s entry
  have tried : (matchCiphers cfg entry s).tried = s.tried :=
    congrArg (List.filterMap CntlEvent.candidate) trace
  constructor
  · constructor
    · rw [tried]
      exact ready.joins.inOrder
    · rw [tried, matched]
      exact ready.joins.inside
    · rw [trace, tried, matched]
      exact ready.joins.exhausted
    · rw [trace, tab]
      exact ready.joins.ciphers
    · intro enabled unmatched
      have same : (matchCiphers cfg entry s).groupCipher = s.groupCipher := by
        unfold matchCiphers
        dsimp only
        rw [if_neg fun wpa => unmatched ⟨infra, Or.inl wpa⟩,
          if_neg fun wpa2 => unmatched ⟨infra, Or.inr wpa2⟩]
      rw [same]
      exact ready.joins.group enabled unmatched
  · rw [bssIdx, tried]
    exact ready.next
  · rw [quiet]
    exact ready.quiet
  · rw [trace]
    exact ready.notExhausted
  · rw [tab, matched]
    exact ready.full

/-- The ciphers with which an AP is joined. -/
theorem ciphers_matchCiphers (entry : BssEntry) (infra : cfg.bssType = .infra)
    (ready : Ready cfg configured first s) :
    ((matchCiphers cfg entry (originalCiphers cfg s)).pairCipher,
        (matchCiphers cfg entry (originalCiphers cfg s)).groupCipher) =
      chosenCiphers cfg configured entry := by
  by_cases wpa : cfg.authMode.isWpa = true
  · unfold matchCiphers chosenCiphers
    dsimp only
    rw [if_pos wpa, if_pos ⟨infra, wpa⟩]
    exact ciphers_takeCiphers cfg.wepStatus entry.wpa
  · by_cases wpa2 : cfg.authMode.isWpa2 = true
    · unfold matchCiphers chosenCiphers
      dsimp only
      rw [if_neg wpa, if_pos wpa2, if_neg fun both => wpa both.2, if_pos ⟨infra, wpa2⟩]
      exact ciphers_takeCiphers (s := originalCiphers cfg s) cfg.wepStatus entry.wpa2
    · have unmatched : ¬ (cfg.bssType = .infra ∧ (cfg.authMode.isWpa ∨ cfg.authMode.isWpa2)) := by
        intro both
        exact both.2.elim wpa wpa2
      rw [← ciphers_originalCiphers ready unmatched entry]
      unfold matchCiphers
      dsimp only
      rw [if_neg wpa, if_neg wpa2]

/-- The candidate at `BssIdx` is joined. -/
theorem progress_joinBss (ready : Ready cfg configured first s)
    (below : s.bssIdx.toNat < s.ssidBssTab.bssNr.toNat)
    (ciphers : (s.pairCipher, s.groupCipher) =
      chosenCiphers cfg configured (s.ssidBssTab.bssEntry s.bssIdx.toNat)) :
    Progress cfg configured first (joinBss s) := by
  have joined : (joinBss s).tried = s.tried ++ [s.bssIdx.toNat] := List.filterMap_append
  have length : (joinBss s).tried.length = s.tried.length + 1 := by
    rw [joined, List.length_append, List.length_singleton]
  have matched : s.bssIdx.toNat < s.matched := ready.full ▸ below
  have going : CntlEvent.noMoreBss ∉ (joinBss s).trace := by
    intro member
    rcases List.mem_append.mp member with before | now
    · exact ready.notExhausted before
    · cases List.mem_singleton.mp now
  constructor
  · constructor
    · rw [length, List.range'_concat, ← ready.joins.inOrder, joined, Nat.one_mul, ready.next]
    · rw [joined]
      intro candidate member
      rcases List.mem_append.mp member with before | now
      · exact ready.joins.inside candidate before
      · exact List.mem_singleton.mp now ▸ matched
    · exact fun _ member => absurd member going
    · intro bssIdx pairCipher groupCipher member
      rcases List.mem_append.mp member with before | now
      · exact ready.joins.ciphers bssIdx pairCipher groupCipher before
      · cases List.mem_singleton.mp now
        exact ciphers
    · exact ready.joins.group
  · refine ⟨rfl, ?_, matched, going, ready.full, ciphers⟩
    rw [length, ← Nat.add_assoc, ← ready.next]
    rfl

theorem progress_iterateOnBssTab (ready : Ready cfg configured first s) :
    Progress cfg configured first (iterateOnBssTab cfg s) := by
  have original := ready_originalCiphers ready
  unfold iterateOnBssTab
  dsimp only
  split_ifs with adhoc below atBss
  · apply progress_joinBss original below
    apply ciphers_originalCiphers ready
    rintro ⟨infra, -⟩
    rw [adhoc] at infra
    cases infra
  · constructor
    · have noted : Joins cfg configured first ((originalCiphers cfg s).note .noMoreBss) := by
        apply original.joins.note rfl
        intro _ _
        rw [← original.next, ← original.full]
        exact not_lt.mp below
      exact noted.transfer rfl rfl rfl rfl
    · rfl
  · have keeps := @matchCiphers_keeps cfg (originalCiphers cfg s)
      ((originalCiphers cfg s).ssidBssTab.bssEntry (originalCiphers cfg s).bssIdx.toNat)
    apply progress_joinBss (ready_matchCiphers _ atBss.2 original)
    · rw [keeps.2.2.1, keeps.2.2.2.1]
      exact atBss.1
    · rw [keeps.2.2.1, keeps.2.2.2.1]
      exact ciphers_matchCiphers _ atBss.2 ready
  · constructor
    · have noted : Joins cfg configured first ((originalCiphers cfg s).note .noMoreBss) := by
        apply original.joins.note rfl
        intro kind _
        rw [← original.next, ← original.full]
        apply not_lt.mp
        intro below
        exact atBss ⟨below, kind.resolve_right adhoc⟩
      exact noted.transfer rfl rfl rfl rfl
    · exact original.quiet

/-- `BssIdx` does not wrap while it is inside the table. -/
theorem Trying.toNat_succ (trying : Trying cfg configured first s) :
    (s.bssIdx + 1).toNat = s.bssIdx.toNat + 1 := by
  have inside := trying.inside
  have small := s.ssidBssTab.bssNr.toNat_lt
  rw [trying.full] at small
  apply BitVec.toNat_add_of_lt
  exact lt_trans (Nat.succ_lt_succ (inside.trans small)) (by decide)

theorem progress_tryNextBss (joins : Joins cfg configured first s)
    (trying : Trying cfg configured first s) (quiet : s.outstanding = none) :
    Progress cfg configured first (tryNextBss cfg s) := by
  apply progress_iterateOnBssTab
  constructor
  · exact joins.transfer rfl rfl rfl rfl
  · exact trying.toNat_succ.trans trying.last
  · exact quiet
  · exact trying.notExhausted
  · exact trying.full

theorem progress_cntlWaitDisassocProc (joins : Joins cfg configured first s) (before : Before s)
    (from_next : first = (s.bssIdx + 1).toNat) (quiet : s.outstanding = none) :
    Progress cfg configured first (cntlWaitDisassocProc cfg s) := by
  have none_tried : s.tried.length = 0 := by rw [before.nothingTried, List.length_nil]
  unfold cntlWaitDisassocProc
  dsimp only
  split_ifs with startsNew
  · constructor
    · have noted : Joins cfg configured first (s.note .noMoreBss) := by
        apply joins.note rfl
        intro _ _
        have noBss : s.ssidBssTab.bssNr = 0 := startsNew.1
        have empty : s.matched = 0 := by
          rw [← before.full, noBss]
          rfl
        rw [empty]
        exact Nat.zero_le _
      exact noted.transfer rfl rfl rfl rfl
    · rfl
  · apply progress_iterateOnBssTab
    constructor
    · exact joins.transfer rfl rfl rfl rfl
    · calc
        (s.bssIdx + 1).toNat = first := from_next.symm
        _ = first + s.tried.length := by rw [none_tried, Nat.add_zero]
    · exact quiet
    · exact before.notExhausted
    · exact before.full

theorem progress_cntlWaitJoinProc (conf : Confirmation) (joins : Joins cfg configured first s)
    (trying : Trying cfg configured first s) (quiet : s.outstanding = none) :
    Progress cfg configured first (cntlWaitJoinProc cfg conf s) := by
  unfold cntlWaitJoinProc
  split_ifs
  · constructor
    · have noted : Joins cfg configured first (s.note .refused) := joins.note rfl nofun
      exact noted.transfer rfl rfl rfl rfl
    · exact quiet
  · exact ⟨joins.transfer rfl rfl rfl rfl, quiet⟩
  · exact ⟨joins.transfer rfl rfl rfl rfl, rfl, trying.transfer rfl rfl rfl rfl rfl rfl⟩
  · exact progress_tryNextBss joins trying quiet

theorem progress_cntlWaitStartProc (conf : Confirmation) (joins : Joins cfg configured first s)
    (quiet : s.outstanding = none) : Progress cfg configured first (cntlWaitStartProc conf s) := by
  unfold cntlWaitStartProc
  split_ifs
  · exact ⟨joins.transfer rfl rfl rfl rfl, quiet⟩
  · exact ⟨joins.transfer rfl rfl rfl rfl, quiet⟩
  · exact ⟨joins.transfer rfl rfl rfl rfl, quiet⟩

theorem progress_cntlWaitAuthProc (conf : Confirmation) (joins : Joins cfg configured first s)
    (trying : Trying cfg configured first s) :
    Progress cfg configured first (cntlWaitAuthProc cfg conf s) := by
  unfold cntlWaitAuthProc
  split_ifs
  · exact ⟨joins.transfer rfl rfl rfl rfl, rfl, trying.transfer rfl rfl rfl rfl rfl rfl⟩
  · exact ⟨joins.transfer rfl rfl rfl rfl, ⟨_, rfl⟩, trying.transfer rfl rfl rfl rfl rfl rfl⟩

theorem progress_cntlWaitAuthProc2 (conf : Confirmation) (joins : Joins cfg configured first s)
    (trying : Trying cfg configured first s) (quiet : s.outstanding = none) :
    Progress cfg configured first (cntlWaitAuthProc2 cfg conf s) := by
  unfold cntlWaitAuthProc2
  split_ifs
  · exact ⟨joins.transfer rfl rfl rfl rfl, rfl, trying.transfer rfl rfl rfl rfl rfl rfl⟩
  · exact ⟨joins.transfer rfl rfl rfl rfl, ⟨_, rfl⟩, trying.transfer rfl rfl rfl rfl rfl rfl⟩
  · exact progress_tryNextBss (joins.transfer rfl rfl rfl rfl)
      (trying.transfer rfl rfl rfl rfl rfl rfl) quiet

theorem progress_cntlWaitAssocProc (conf : Confirmation) (joins : Joins cfg configured first s)
    (trying : Trying cfg configured first s) (quiet : s.outstanding = none) :
    Progress cfg configured first (cntlWaitAssocProc cfg conf s) := by
  unfold cntlWaitAssocProc
  split_ifs
  · exact ⟨joins.transfer rfl rfl rfl rfl, quiet⟩
  · exact progress_tryNextBss joins trying quiet

/-- Nothing has been tried, so any table and any number of candidates will do. -/
theorem Before.joins_sort (before : Before s) (joins : Joins cfg configured first s)
    (tab : BssTable) : Joins cfg configured first (s.sort tab) where
  inOrder := joins.inOrder
  inside candidate member := by
    have nothing : (s.sort tab).tried = [] := before.nothingTried
    rw [nothing] at member
    cases member
  exhausted _ member := absurd member before.notExhausted
  ciphers bssIdx pairCipher groupCipher member := by
    cases List.filterMap_eq_nil_iff.mp before.nothingTried _ member
  group := joins.group

theorem progress_connectAfterScan (conf : Confirmation) (joins : Joins cfg configured 0 s)
    (before : Before s) (quiet : s.outstanding = none) :
    Progress cfg configured 0 (connectAfterScan cfg conf s) := by
  apply progress_iterateOnBssTab
  constructor
  · exact (before.joins_sort joins conf.sorted).transfer rfl rfl rfl rfl
  · have none_tried : s.tried.length = 0 := by rw [before.nothingTried, List.length_nil]
    exact ((Nat.zero_add _).trans none_tried).symm
  · exact quiet
  · exact before.notExhausted
  · rfl

theorem progress_cntlWaitOidListScan (conf : Confirmation) (joins : Joins cfg configured 0 s)
    (before : Before s) (quiet : s.outstanding = none) :
    Progress cfg configured 0 (cntlWaitOidListScan cfg conf s) := by
  unfold cntlWaitOidListScan
  dsimp only
  split_ifs
  · exact progress_connectAfterScan conf (joins.transfer rfl rfl rfl rfl)
      ⟨before.nothingTried, before.notExhausted, before.full⟩ quiet
  · exact ⟨joins.transfer rfl rfl rfl rfl, quiet⟩

/-- What the asked machine writes is not part of the progress. -/
theorem carriedOut_keeps (conf : Confirmation) (request : CntlRequest) :
    (carriedOut conf s request).trace = s.trace ∧ (carriedOut conf s request).matched = s.matched ∧
      (carriedOut conf s request).ssidBssTab = s.ssidBssTab ∧
      (carriedOut conf s request).bssIdx = s.bssIdx ∧
      (carriedOut conf s request).pairCipher = s.pairCipher ∧
      (carriedOut conf s request).groupCipher = s.groupCipher ∧
      (carriedOut conf s request).outstanding = s.outstanding ∧
      (carriedOut conf s request).currState = s.currState := by
  unfold carriedOut
  split
  · exact ⟨rfl, rfl, rfl, rfl, rfl, rfl, rfl, rfl⟩
  · split <;> exact ⟨rfl, rfl, rfl, rfl, rfl, rfl, rfl, rfl⟩
  · exact ⟨rfl, rfl, rfl, rfl, rfl, rfl, rfl, rfl⟩

/-- The state in which the machine handles a confirmation. -/
def confirmed (conf : Confirmation) (request : CntlRequest) (s : CntlMachine) : CntlMachine :=
  carriedOut conf { s with outstanding := none } request

section confirmed
variable {conf : Confirmation} {request : CntlRequest}

theorem cntlStep_eq (asked : s.outstanding = some request) :
    cntlStep cfg s conf = cntlPerformAction cfg request.conf conf (confirmed conf request s) := by
  unfold cntlStep confirmed
  rw [asked]

theorem confirmed_quiet : (confirmed conf request s).outstanding = none :=
  (carriedOut_keeps conf request).2.2.2.2.2.2.1

theorem confirmed_currState : (confirmed conf request s).currState = s.currState :=
  (carriedOut_keeps conf request).2.2.2.2.2.2.2

theorem Joins.confirmed (joins : Joins cfg configured first s) :
    Joins cfg configured first (confirmed conf request s) := by
  obtain ⟨trace, matched, tab, -, -, group, -, -⟩ :=
    carriedOut_keeps (s := { s with outstanding := none }) conf request
  exact joins.transfer trace matched (congrArg BssTable.bssEntry tab) group

theorem Trying.confirmed (trying : Trying cfg configured first s) :
    Trying cfg configured first (confirmed conf request s) := by
  obtain ⟨trace, matched, tab, bssIdx, pair, group, -, -⟩ :=
    carriedOut_keeps (s := { s with outstanding := none }) conf request
  exact trying.transfer trace bssIdx matched tab pair group

/-- AUTH writes the algorithm, or leaves the one of an earlier request. -/
theorem confirmed_alg (alg : AuthAlg) :
    (confirmed conf (.authReq alg) s).alg = if conf.algRecorded then alg else s.alg := by
  unfold confirmed
  dsimp only [carriedOut]
  split
  · rfl
  · rfl

end confirmed

/-- A confirmation is handled by the state that waits for it. -/
theorem progress_cntlStep (conf : Confirmation) (progress : Progress cfg configured first s) :
    Progress cfg configured first (cntlStep cfg s conf) := by
  obtain ⟨joins, stage⟩ := progress
  unfold Stage at stage
  cases state : s.currState with
  | idle =>
    rw [state] at stage
    have ignored : cntlStep cfg s conf = s := by
      unfold cntlStep
      rw [stage]
    rw [ignored]
    constructor
    · exact joins
    · unfold Stage
      rw [state]
      exact stage
  | waitDisassoc =>
    rw [state] at stage
    obtain ⟨asked, before, from_next⟩ := stage
    rw [cntlStep_eq asked]
    unfold cntlPerformAction
    rw [confirmed_currState, state]
    exact progress_cntlWaitDisassocProc joins.confirmed
      ⟨before.nothingTried, before.notExhausted, before.full⟩ from_next confirmed_quiet
  | waitJoin =>
    rw [state] at stage
    obtain ⟨asked, trying⟩ := stage
    rw [cntlStep_eq asked]
    unfold cntlPerformAction
    rw [confirmed_currState, state]
    exact progress_cntlWaitJoinProc conf joins.confirmed trying.confirmed confirmed_quiet
  | waitStart =>
    rw [state] at stage
    rw [cntlStep_eq stage]
    unfold cntlPerformAction
    rw [confirmed_currState, state]
    exact progress_cntlWaitStartProc conf joins.confirmed confirmed_quiet
  | waitAuth =>
    rw [state] at stage
    obtain ⟨asked, trying⟩ := stage
    rw [cntlStep_eq asked]
    unfold cntlPerformAction
    rw [confirmed_currState, state]
    exact progress_cntlWaitAuthProc conf joins.confirmed trying.confirmed
  | waitAuth2 =>
    rw [state] at stage
    obtain ⟨⟨alg, asked⟩, trying⟩ := stage
    rw [cntlStep_eq asked]
    unfold cntlPerformAction
    rw [confirmed_currState, state]
    exact progress_cntlWaitAuthProc2 conf joins.confirmed trying.confirmed confirmed_quiet
  | waitAssoc =>
    rw [state] at stage
    obtain ⟨asked, trying⟩ := stage
    rw [cntlStep_eq asked]
    unfold cntlPerformAction
    rw [confirmed_currState, state]
    exact progress_cntlWaitAssocProc conf joins.confirmed trying.confirmed confirmed_quiet
  | waitOidListScan =>
    rw [state] at stage
    obtain ⟨asked, before, rfl⟩ := stage
    rw [cntlStep_eq asked]
    unfold cntlPerformAction
    rw [confirmed_currState, state]
    exact progress_cntlWaitOidListScan conf joins.confirmed
      ⟨before.nothingTried, before.notExhausted, before.full⟩ confirmed_quiet
  | waitScanForConnect =>
    rw [state] at stage
    obtain ⟨asked, before, rfl⟩ := stage
    rw [cntlStep_eq asked]
    unfold cntlPerformAction
    rw [confirmed_currState, state]
    have entered : Joins cfg _ _ (confirmed conf .forceScanReq s) :=
      joins.confirmed
    exact progress_connectAfterScan conf (entered.transfer rfl rfl rfl rfl)
      ⟨before.nothingTried, before.notExhausted, before.full⟩ confirmed_quiet

/-- Before the first event nothing is wrong. -/
theorem joins_of_fresh (fresh : s.trace = []) : Joins cfg s.groupCipher first s := by
  have tried : s.tried = [] := congrArg (List.filterMap CntlEvent.candidate) fresh
  constructor
  · rw [tried]
    rfl
  · rw [tried]
    exact nofun
  · rw [fresh]
    exact nofun
  · rw [fresh]
    exact nofun
  · exact fun _ _ => rfl

theorem before_of_fresh (fresh : s.trace = []) (full : s.ssidBssTab.bssNr.toNat = s.matched) :
    Before s where
  nothingTried := congrArg (List.filterMap CntlEvent.candidate) fresh
  notExhausted := by
    rw [fresh]
    exact nofun
  full := full

/-- Looking at the channel joins nothing. -/
theorem ready_examineChannel (quiet : s.outstanding = none) (fresh : s.trace = [])
    (full : s.ssidBssTab.bssNr.toNat = s.matched) :
    Ready cfg s.groupCipher 0 { examineChannel cfg s with bssIdx := 0 } := by
  have joins : Joins cfg s.groupCipher 0 s := joins_of_fresh fresh
  have before := before_of_fresh fresh full
  have none_tried : s.tried.length = 0 := by rw [before.nothingTried, List.length_nil]
  unfold examineChannel
  split
  · have noted : Joins cfg s.groupCipher 0 (s.note (.examined s.bssIdx)) := joins.note rfl nofun
    have tried : (s.note (.examined s.bssIdx)).tried.length = 0 := by
      unfold CntlMachine.tried CntlMachine.note
      rw [fresh]
      rfl
    constructor
    · exact noted.transfer rfl rfl rfl rfl
    · exact ((Nat.zero_add _).trans tried).symm
    · exact quiet
    · intro member
      rcases List.mem_append.mp member with earlier | now
      · exact before.notExhausted earlier
      · cases List.mem_singleton.mp now
    · exact full
  · constructor
    · exact joins.transfer rfl rfl rfl rfl
    · exact ((Nat.zero_add _).trans none_tried).symm
    · exact quiet
    · exact before.notExhausted
    · exact full

theorem progress_connectOrScan (ssid : List UInt8) (quiet : s.outstanding = none)
    (fresh : s.trace = []) (full : s.ssidBssTab.bssNr.toNat = s.matched) :
    Progress cfg s.groupCipher 0 (connectOrScan cfg ssid s) := by
  have joins : Joins cfg s.groupCipher 0 s := joins_of_fresh fresh
  have before := before_of_fresh fresh full
  unfold connectOrScan
  split_ifs
  · exact ⟨joins.transfer rfl rfl rfl rfl, rfl,
      ⟨before.nothingTried, before.notExhausted, before.full⟩, rfl⟩
  · exact ⟨joins.transfer rfl rfl rfl rfl, rfl,
      ⟨before.nothingTried, before.notExhausted, before.full⟩, rfl⟩
  · exact progress_iterateOnBssTab (ready_examineChannel quiet fresh full)

/-- The attempt for a new SSID begins. -/
theorem progress_cntlOidSsidProc (ssid : List UInt8) (tab : BssTable) (rest : s.AtRest) :
    Progress cfg s.groupCipher s.firstCandidate (cntlOidSsidProc cfg ssid tab s) := by
  obtain ⟨quiet, fresh⟩ := rest
  let sorted : CntlMachine := { s with auxBssType := cfg.bssType }.sort tab
  have joins : Joins cfg s.groupCipher s.firstCandidate sorted :=
    joins_of_fresh (s := sorted) fresh
  have before : Before sorted := before_of_fresh fresh rfl
  have disassociates (infra : s.infraOn = true) :
      Progress cfg s.groupCipher s.firstCandidate (sorted.ask .disassocReq .waitDisassoc) :=
    ⟨joins.transfer rfl rfl rfl rfl, rfl,
      ⟨before.nothingTried, before.notExhausted, before.full⟩, if_pos infra⟩
  unfold cntlOidSsidProc
  by_cases connected : sorted.connectedToFirst = true
  · have infra : s.infraOn = true := by
      unfold CntlMachine.connectedToFirst at connected
      simp only [Bool.and_eq_true] at connected
      exact connected.1.1.1
    rw [if_pos connected]
    split_ifs
    · exact disassociates infra
    · exact disassociates infra
    · exact ⟨joins.transfer rfl rfl rfl rfl, quiet⟩
  · rw [if_neg connected]
    by_cases infra : sorted.infraOn = true
    · rw [if_pos infra]
      exact disassociates infra
    · have start : s.firstCandidate = 0 := if_neg infra
      rw [if_neg infra, start]
      by_cases adhoc : sorted.adhocOn = true
      · rw [if_pos adhoc]
        exact progress_connectOrScan (s := sorted.linkDown) ssid quiet fresh rfl
      · rw [if_neg adhoc]
        exact progress_connectOrScan (s := sorted) ssid quiet fresh rfl

/-- Confirmations that the candidates after `BssIdx` can take, and that of the IBSS. -/
def CntlMachine.left (s : CntlMachine) : Nat :=
  5 * (s.ssidBssTab.bssNr.toNat - 1 - s.bssIdx.toNat) + 1

/-- How many confirmations an attempt can take from here. -/
def CntlMachine.rank (s : CntlMachine) : Nat :=
  match s.currState with
  | .idle => 0
  | .waitStart => 1
  | .waitAssoc => s.left + 1
  | .waitAuth2 => if s.outstanding = some (.authReq .open) then s.left + 2 else s.left + 3
  | .waitAuth => s.left + 4
  | .waitJoin => s.left + 5
  | _ => confirmationBound

theorem rank_joinBss (below : s.bssIdx.toNat < s.ssidBssTab.bssNr.toNat) :
    (joinBss s).rank ≤ 5 * (s.ssidBssTab.bssNr.toNat - s.bssIdx.toNat) + 1 := by
  have rank : (joinBss s).rank =
      5 * (s.ssidBssTab.bssNr.toNat - 1 - s.bssIdx.toNat) + 1 + 5 := rfl
  rw [rank]
  omega

theorem originalCiphers_keeps :
    (originalCiphers cfg s).ssidBssTab = s.ssidBssTab ∧
      (originalCiphers cfg s).bssIdx = s.bssIdx := by
  unfold originalCiphers
  split
  · exact ⟨rfl, rfl⟩
  · exact ⟨rfl, rfl⟩

/-- An iteration is as long as the rest of the table. -/
theorem rank_iterateOnBssTab :
    (iterateOnBssTab cfg s).rank ≤ 5 * (s.ssidBssTab.bssNr.toNat - s.bssIdx.toNat) + 1 := by
  obtain ⟨tab, bssIdx⟩ := @originalCiphers_keeps cfg s
  have keeps := @matchCiphers_keeps cfg (originalCiphers cfg s)
    ((originalCiphers cfg s).ssidBssTab.bssEntry (originalCiphers cfg s).bssIdx.toNat)
  unfold iterateOnBssTab
  dsimp only
  split_ifs with adhoc below atBss
  · have bound := rank_joinBss below
    rwa [tab, bssIdx] at bound
  · exact Nat.le_add_left 1 _
  · apply (rank_joinBss (by rw [keeps.2.2.1, keeps.2.2.2.1]; exact atBss.1)).trans_eq
    rw [keeps.2.2.1, keeps.2.2.2.1, tab, bssIdx]
  · exact Nat.zero_le _

theorem rank_tryNextBss (trying : Trying cfg configured first s) :
    (tryNextBss cfg s).rank ≤ s.left := by
  have bound : (tryNextBss cfg s).rank ≤
      5 * (s.ssidBssTab.bssNr.toNat - (s.bssIdx + 1).toNat) + 1 := rank_iterateOnBssTab
  rw [trying.toNat_succ] at bound
  unfold CntlMachine.left
  omega

/-- A table is not longer than its counter can say. -/
theorem rank_iterateOnBssTab_le : (iterateOnBssTab cfg s).rank ≤ confirmationBound - 1 := by
  have bound := @rank_iterateOnBssTab cfg s
  have small := s.ssidBssTab.bssNr.toNat_lt
  unfold confirmationBound maxBssNr
  omega

section steps
variable (conf : Confirmation)

theorem rank_cntlWaitDisassocProc :
    (cntlWaitDisassocProc cfg s).rank ≤ confirmationBound - 1 := by
  unfold cntlWaitDisassocProc
  dsimp only
  split_ifs
  · exact (by decide : 1 ≤ confirmationBound - 1)
  · exact rank_iterateOnBssTab_le

theorem rank_cntlWaitJoinProc (trying : Trying cfg configured first s) :
    (cntlWaitJoinProc cfg conf s).rank ≤ s.left + 4 := by
  unfold cntlWaitJoinProc
  split_ifs
  · exact Nat.zero_le _
  · exact Nat.zero_le _
  · exact le_refl (s.left + 4)
  · exact (rank_tryNextBss trying).trans (Nat.le_add_right s.left 4)

theorem rank_cntlWaitStartProc : (cntlWaitStartProc conf s).rank = 0 := by
  unfold cntlWaitStartProc
  split_ifs
  · rfl
  · rfl
  · rfl

theorem rank_ask_authReq (alg : AuthAlg) :
    (s.ask (.authReq alg) .waitAuth2).rank ≤ s.left + 3 := by
  cases alg with
  | «open» => exact Nat.le_succ (s.left + 2)
  | key => exact le_refl (s.left + 3)

theorem rank_cntlWaitAuthProc : (cntlWaitAuthProc cfg conf s).rank ≤ s.left + 3 := by
  unfold cntlWaitAuthProc
  split_ifs
  · exact Nat.add_le_add_left (by decide : 1 ≤ 3) s.left
  · exact rank_ask_authReq (firstAlg cfg)

theorem rank_cntlWaitAuthProc2 (trying : Trying cfg configured first s) :
    (cntlWaitAuthProc2 cfg conf s).rank ≤ s.left + 2 := by
  unfold cntlWaitAuthProc2
  split_ifs
  · exact Nat.le_succ (s.left + 1)
  · exact le_refl (s.left + 2)
  · have next : (tryNextBss cfg (s.enter .idle)).rank ≤ s.left :=
      rank_tryNextBss (trying.transfer rfl rfl rfl rfl rfl rfl)
    exact next.trans (Nat.le_add_right s.left 2)

/-- Without another try with the open system. -/
theorem rank_cntlWaitAuthProc2_last (trying : Trying cfg configured first s)
    (last : conf.status ≠ mlmeSuccess → ¬ (cfg.authMode = .autoSwitch ∧ s.alg = .key)) :
    (cntlWaitAuthProc2 cfg conf s).rank ≤ s.left + 1 := by
  unfold cntlWaitAuthProc2
  split_ifs with success again
  · exact le_refl (s.left + 1)
  · exact absurd again (last success)
  · have next : (tryNextBss cfg (s.enter .idle)).rank ≤ s.left :=
      rank_tryNextBss (trying.transfer rfl rfl rfl rfl rfl rfl)
    exact next.trans (Nat.le_succ s.left)

theorem rank_cntlWaitAssocProc (trying : Trying cfg configured first s) :
    (cntlWaitAssocProc cfg conf s).rank ≤ s.left := by
  unfold cntlWaitAssocProc
  split_ifs
  · exact Nat.zero_le _
  · exact rank_tryNextBss trying

theorem rank_cntlWaitOidListScan :
    (cntlWaitOidListScan cfg conf s).rank ≤ confirmationBound - 1 := by
  unfold cntlWaitOidListScan
  dsimp only
  split_ifs
  · exact rank_iterateOnBssTab_le
  · exact Nat.zero_le _

end steps

theorem left_confirmed {conf : Confirmation} {request : CntlRequest} :
    (confirmed conf request s).left = s.left := by
  obtain ⟨-, -, tab, bssIdx, -⟩ :=
    carriedOut_keeps (s := { s with outstanding := none }) conf request
  unfold CntlMachine.left confirmed
  rw [tab, bssIdx]

/-- Each confirmation brings the attempt closer to its end. -/
theorem rank_cntlStep {conf : Confirmation} (progress : Progress cfg configured first s)
    (recorded : AlgRecorded cfg s conf) : (cntlStep cfg s conf).rank ≤ s.rank - 1 := by
  have stage := progress.stage
  unfold Stage at stage
  cases state : s.currState with
  | idle =>
    rw [state] at stage
    have ignored : cntlStep cfg s conf = s := by
      unfold cntlStep
      rw [stage]
    have zero : s.rank = 0 := by
      unfold CntlMachine.rank
      rw [state]
    rw [ignored, zero]
  | waitDisassoc =>
    rw [state] at stage
    have bound : s.rank = confirmationBound := by
      unfold CntlMachine.rank
      rw [state]
    rw [cntlStep_eq stage.1, bound]
    unfold cntlPerformAction
    rw [confirmed_currState, state]
    exact rank_cntlWaitDisassocProc
  | waitJoin =>
    rw [state] at stage
    obtain ⟨asked, trying⟩ := stage
    have bound : s.rank = s.left + 5 := by
      unfold CntlMachine.rank
      rw [state]
    rw [cntlStep_eq asked, bound]
    unfold cntlPerformAction
    rw [confirmed_currState, state]
    exact (rank_cntlWaitJoinProc conf trying.confirmed).trans_eq
      (congrArg (fun left => left + 4) left_confirmed)
  | waitStart =>
    rw [state] at stage
    rw [cntlStep_eq stage]
    unfold cntlPerformAction
    rw [confirmed_currState, state]
    exact (rank_cntlWaitStartProc conf).trans_le (Nat.zero_le _)
  | waitAuth =>
    rw [state] at stage
    have bound : s.rank = s.left + 4 := by
      unfold CntlMachine.rank
      rw [state]
    rw [cntlStep_eq stage.1, bound]
    unfold cntlPerformAction
    rw [confirmed_currState, state]
    exact (rank_cntlWaitAuthProc conf).trans_eq (congrArg (fun left => left + 3) left_confirmed)
  | waitAuth2 =>
    rw [state] at stage
    obtain ⟨⟨alg, asked⟩, trying⟩ := stage
    rw [cntlStep_eq asked]
    unfold cntlPerformAction
    rw [confirmed_currState, state]
    cases alg with
    | key =>
      have bound : s.rank = s.left + 3 := by
        unfold CntlMachine.rank
        rw [state, asked]
        rfl
      rw [bound]
      exact (rank_cntlWaitAuthProc2 conf trying.confirmed).trans_eq
        (congrArg (fun left => left + 2) left_confirmed)
    | «open» =>
      have bound : s.rank = s.left + 2 := by
        unfold CntlMachine.rank
        rw [state, asked]
        rfl
      rw [bound]
      apply (rank_cntlWaitAuthProc2_last conf trying.confirmed _).trans_eq
        (congrArg (fun left => left + 1) left_confirmed)
      rintro failed ⟨autoSwitch, stillKey⟩
      have written := recorded state asked failed autoSwitch
      rw [confirmed_alg] at stillKey
      split at stillKey
      next => cases stillKey
      next unwritten => exact unwritten (written stillKey)
  | waitAssoc =>
    rw [state] at stage
    obtain ⟨asked, trying⟩ := stage
    have bound : s.rank = s.left + 1 := by
      unfold CntlMachine.rank
      rw [state]
    rw [cntlStep_eq asked, bound]
    unfold cntlPerformAction
    rw [confirmed_currState, state]
    exact (rank_cntlWaitAssocProc conf trying.confirmed).trans_eq left_confirmed
  | waitOidListScan =>
    rw [state] at stage
    have bound : s.rank = confirmationBound := by
      unfold CntlMachine.rank
      rw [state]
    rw [cntlStep_eq stage.1, bound]
    unfold cntlPerformAction
    rw [confirmed_currState, state]
    exact rank_cntlWaitOidListScan conf
  | waitScanForConnect =>
    rw [state] at stage
    have bound : s.rank = confirmationBound := by
      unfold CntlMachine.rank
      rw [state]
    rw [cntlStep_eq stage.1, bound]
    unfold cntlPerformAction
    rw [confirmed_currState, state]
    exact rank_iterateOnBssTab_le

theorem rank_pos_of_busy (busy : s.currState ≠ .idle) : 0 < s.rank := by
  unfold CntlMachine.rank
  cases state : s.currState with
  | idle => exact absurd state busy
  | waitAuth2 =>
    dsimp only
    split_ifs
    · exact Nat.succ_pos _
    · exact Nat.succ_pos _
  | _ => exact Nat.succ_pos _

theorem rank_cntlOidSsidProc (ssid : List UInt8) (tab : BssTable) :
    (cntlOidSsidProc cfg ssid tab s).rank ≤ confirmationBound := by
  have start : ∀ t : CntlMachine, (connectOrScan cfg ssid t).rank ≤ confirmationBound := by
    intro t
    unfold connectOrScan
    split_ifs
    · exact le_refl confirmationBound
    · exact le_refl confirmationBound
    · exact rank_iterateOnBssTab_le.trans (Nat.sub_le confirmationBound 1)
  unfold cntlOidSsidProc
  dsimp only
  split_ifs
  · exact le_refl confirmationBound
  · exact le_refl confirmationBound
  · exact Nat.zero_le confirmationBound
  · exact le_refl confirmationBound
  · exact start _
  · exact start _

/-- The invariant says what the attempt has done. -/
theorem Progress.triesFrom (progress : Progress cfg configured first s) :
    s.TriesFrom cfg configured first := by
  obtain ⟨joins, stage⟩ := progress
  constructor
  · exact joins.inOrder
  · exact joins.inside
  · intro kind member candidate from_first inTable
    have all := joins.exhausted kind member
    rw [joins.inOrder]
    exact List.mem_range'_1.mpr ⟨from_first, inTable.trans_le all⟩
  · exact joins.ciphers
  · intro tries
    have trying : Trying cfg configured first s := by
      unfold Stage at stage
      cases state : s.currState with
      | waitJoin =>
        rw [state] at stage
        exact stage.2
      | waitAuth =>
        rw [state] at stage
        exact stage.2
      | waitAuth2 =>
        rw [state] at stage
        exact stage.2
      | waitAssoc =>
        rw [state] at stage
        exact stage.2
      | _ =>
        rw [state] at tries
        cases tries
    exact ⟨trying.full ▸ trying.inside, trying.ciphers⟩

end invariant

/-- An open network, and a station that joins such networks. -/
def openBss : BssEntry where
  bssid := fun _ => 2
  bssType := .infra
  channel := 6
  ssid := [0x61]
  wpa := ⟨.wepDisabled, .wepDisabled, .wepDisabled, 0⟩
  wpa2 := ⟨.wepDisabled, .wepDisabled, .wepDisabled, 0⟩

def openCfg : StaCfg where
  bssType := .infra
  authMode := .open
  wepStatus := .wepDisabled
  wpaSupplicantUp := wpaSupplicantDisable
  bAutoReconnect := true
  portSecured := true
  bConfigChanged := false
  connectinfo := false
  region33 := false
  scanInProgress := false

def oneBss : BssTable := ⟨1, fun _ => openBss⟩

/-- The station after an attempt that has ended with the first candidate. -/
def station (infraOn : Bool) : CntlMachine where
  currState := .idle
  outstanding := none
  bssIdx := 0
  ssidBssTab := oneBss
  auxBssType := .infra
  alg := .open
  pairCipher := .wepDisabled
  groupCipher := .wepDisabled
  rsnCapability := 0
  bMixCipher := false
  infraOn := infraOn
  adhocOn := false
  mediaConnected := infraOn
  ssid := [0x62]
  bssid := fun _ => 4
  bNotFirstScan := false
  matched := 1
  trace := []

/-- A confirmation with this status. -/
def confirmation (status : BitVec 16) : Confirmation where
  status := status
  algRecorded := true
  radarChannel := false
  indicateConnected := false
  sorted := oneBss

end Mt7612u.Sta
