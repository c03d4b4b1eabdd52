import Mt7612u.Mlme.BeaconBounds
import Mt7612u.Sta.AssocSanity

/-! When `PeerAssocRspSanity` stays inside the frame, and the walk of `AssocPostProc` inside the
elements of the scan table. -/

namespace Mt7612u.Sta
open Receive (Memory Span)
open Mlme

/-- The elements from a place on: the vendor specific ones are long enough for the comparison
with the WME element, and behind the last one there is another length byte. -/
inductive ElementsFit (frame : Memory) (msgLen : Nat) : Nat → Prop where
  | ranOut {length : Nat} (short : msgLen < length + 2 + lenAt frame length)
      (header : length + 2 ≤ msgLen) : ElementsFit frame msgLen length
  | element {length : Nat} (whole : length + 2 + lenAt frame length ≤ msgLen)
      (vendor : (frame length).toNat = 221 → length + 8 ≤ msgLen)
      (rest : ElementsFit frame msgLen (length + 2 + lenAt frame length)) :
      ElementsFit frame msgLen length

/-- The frame has its status, and when the status is success, its rates and its elements. -/
structure AssocRspFits (frame : Memory) (msgLen : Nat) : Prop where
  status : 28 ≤ msgLen
  rates : octets16 frame 2 = mlmeSuccess → 32 ≤ msgLen
  elements : octets16 frame 2 = mlmeSuccess → (frame 30).toNat = ieSuppRates →
    (frame 31).toNat ≤ maxLenOfSupportedRates →
    32 + (frame 31).toNat ≤ msgLen ∧ ElementsFit frame msgLen (32 + (frame 31).toNat)

section frame
variable {frame : Memory} {msgLen : Nat}

theorem inside_append {length : Nat} {first second : List Span} {stores stores' : List Store} :
    Accesses.Inside length ⟨first ++ second, stores ++ stores'⟩ ↔
      Accesses.Inside length ⟨first, stores⟩ ∧ Accesses.Inside length ⟨second, stores'⟩ := by
  unfold Accesses.Inside
  simp only [List.mem_append, or_imp, forall_and]
  tauto

theorem inside_reads_append {length : Nat} {first second : List Span} {stores : List Store} :
    Accesses.Inside length ⟨first ++ second, stores⟩ ↔
      Accesses.Inside length ⟨first, []⟩ ∧ Accesses.Inside length ⟨second, stores⟩ :=
  @inside_append length first second [] stores

theorem inside_cons {length : Nat} {span : Span} {rest : List Span} {stores : List Store} :
    Accesses.Inside length ⟨span :: rest, stores⟩ ↔
      span.start + span.count ≤ length ∧ Accesses.Inside length ⟨rest, stores⟩ := by
  unfold Accesses.Inside
  rw [List.forall_mem_cons, and_assoc]

/-- A copy between two lists of accesses. -/
theorem inside_copy {length : Nat} {first rest : List Span} {span : Span} {store : Store}
    {stores : List Store} :
    Accesses.Inside length ⟨first ++ span :: rest, store :: stores⟩ ↔
      Accesses.Inside length ⟨first, []⟩ ∧
        (span.start + span.count ≤ length ∧ store.count ≤ store.capacity) ∧
          Accesses.Inside length ⟨rest, stores⟩ := by
  rw [inside_reads_append, inside_cons]
  unfold Accesses.Inside
  rw [List.forall_mem_cons]
  tauto

theorem inside_nil (length : Nat) : Accesses.Inside length ⟨[], []⟩ :=
  ⟨nofun, nofun⟩

theorem assocHtCapEffect_contained (pEid : Nat) :
    (assocHtCapEffect frame pEid).Contained frame pEid := by
  unfold assocHtCapEffect
  split_ifs <;> simp_all [Effect.Contained, octets]

theorem assocAddHtEffect_contained (pEid : Nat) :
    (assocAddHtEffect frame pEid).Contained frame pEid := by
  unfold assocAddHtEffect
  split_ifs <;> simp_all [Effect.Contained, octets]

/-- Every element but a vendor specific one reads what belongs to it. -/
theorem assocElementEffect_contained (pEid : Nat) (other : (frame pEid).toNat ≠ 221) :
    (assocElementEffect frame pEid).Contained frame pEid := by
  unfold assocElementEffect
  split
  · exact extSuppRatesEffect_contained frame pEid
  · exact assocHtCapEffect_contained pEid
  · exact assocHtCapEffect_contained pEid
  · exact assocAddHtEffect_contained pEid
  · exact assocAddHtEffect_contained pEid
  · exact fieldEffect_contained frame pEid 1
  · exact fieldEffect_contained frame pEid _
  · exact fieldEffect_contained frame pEid _
  · contradiction
  · exact extCapabilityEffect_contained frame pEid
  · exact contained_empty frame pEid

/-- No element is stored past the end of its field. -/
theorem assocElementEffect_stores (pEid : Nat) :
    ∀ store ∈ (assocElementEffect frame pEid).stores, store.count ≤ store.capacity := by
  unfold assocElementEffect
  split
  · unfold extSuppRatesEffect
    split_ifs <;> simp_all
  · unfold assocHtCapEffect
    split_ifs <;> simp
  · unfold assocHtCapEffect
    split_ifs <;> simp
  · unfold assocAddHtEffect
    split_ifs <;> simp
  · unfold assocAddHtEffect
    split_ifs <;> simp
  · unfold fieldEffect
    split_ifs <;> simp
  · unfold fieldEffect
    split_ifs <;> simp
  · unfold fieldEffect
    split_ifs <;> simp
  · unfold wmeParmEffect
    split_ifs
    · intro store member
      obtain ⟨i, _, rfl⟩ := List.mem_map.mp member
      exact Nat.mod_lt _ (by decide)
    · exact nofun
  · unfold extCapabilityEffect
    split_ifs <;> simp
  · exact nofun

/-- An element that is in the frame is read inside it, unless the comparison with the WME element
reaches out. -/
theorem assocElementEffect_inside_iff {pEid : Nat} (whole : pEid + 2 + lenAt frame pEid ≤ msgLen) :
    (∀ span ∈ (assocElementEffect frame pEid).reads, span.start + span.count ≤ msgLen) ↔
      ((frame pEid).toNat = 221 → pEid + 8 ≤ msgLen) := by
  by_cases vendor : (frame pEid).toNat = 221
  · have effect : assocElementEffect frame pEid = wmeParmEffect frame pEid := by
      simp only [assocElementEffect, vendor]
    rw [effect]
    unfold wmeParmEffect
    by_cases parameters : (frame.equal (pEid + 2) wmeParmElem && lenAt frame pEid == 24) = true
    · rw [if_pos parameters]
      rw [Bool.and_eq_true, beq_iff_eq] at parameters
      apply iff_of_true
      · simp only [octets, List.forall_mem_cons]
        exact ⟨by omega, by omega, fun _ member => absurd member List.not_mem_nil⟩
      · intro _
        omega
    · rw [if_neg parameters]
      simp only [octets, List.forall_mem_singleton, vendor, true_implies]
  · apply iff_of_true
    · intro span member
      exact (assocElementEffect_contained pEid vendor span member).trans whole
    · exact fun same => absurd same vendor

/-- The loop. -/
theorem scanAssocElements_inside_iff (length : Nat) :
    (scanAssocElements frame msgLen length).Inside msgLen ↔ ElementsFit frame msgLen length := by
  fun_induction scanAssocElements frame msgLen length with
  | case1 length whole effect rest ih =>
    have element : Accesses.Inside msgLen ⟨effect.reads, effect.stores⟩ ↔
        ((frame length).toNat = 221 → length + 8 ≤ msgLen) := by
      rw [← assocElementEffect_inside_iff whole]
      exact and_iff_left (assocElementEffect_stores length)
    rw [inside_append, inside_reads_append, inside_cons, inside_cons, element, ih]
    constructor
    · rintro ⟨⟨_, vendor⟩, fits⟩
      exact .element whole vendor fits
    · intro fits
      cases fits with
      | ranOut short _ => exact absurd whole (not_le.mpr short)
      | element _ vendor rest =>
        have header : length + 2 ≤ msgLen := by omega
        exact ⟨⟨⟨header, by show length + 1 ≤ msgLen; omega, inside_nil msgLen⟩, vendor⟩, rest⟩
  | case2 length short =>
    rw [inside_cons]
    constructor
    · rintro ⟨header, _⟩
      exact .ranOut (not_le.mp short) header
    · intro fits
      cases fits with
      | ranOut _ header => exact ⟨header, inside_nil msgLen⟩
      | element whole _ _ => exact absurd whole short

/-- The whole function. -/
theorem peerAssocRspSanity_inside_iff :
    (peerAssocRspSanity frame msgLen).accesses.Inside msgLen ↔ AssocRspFits frame msgLen := by
  unfold peerAssocRspSanity
  dsimp only
  by_cases success : octets16 frame 2 = mlmeSuccess
  · rw [if_neg (not_not.mpr success)]
    by_cases wrong : (frame 30).toNat ≠ ieSuppRates ∨
        maxLenOfSupportedRates < (frame 31).toNat
    · rw [if_pos wrong]
      simp only [List.cons_append, List.nil_append, inside_cons]
      constructor
      · rintro ⟨_, _, status, _, _, rates, _⟩
        exact ⟨status, fun _ => rates, fun _ supp short =>
          (wrong.elim (fun other => other supp) (fun long => not_le.mpr long short)).elim⟩
      · intro fits
        have rates := fits.rates success
        have status := fits.status
        exact ⟨by omega, by omega, by omega, by omega, by omega, by omega, inside_nil msgLen⟩
    · rw [if_neg wrong]
      rw [not_or, not_not, not_lt] at wrong
      rw [inside_copy, scanAssocElements_inside_iff]
      simp only [List.cons_append, List.nil_append, inside_cons]
      constructor
      · rintro ⟨⟨_, _, status, _, _, rates, _⟩, ⟨supported, _⟩, elements⟩
        exact ⟨status, fun _ => rates, fun _ _ _ => ⟨supported, elements⟩⟩
      · intro fits
        have rates := fits.rates success
        have status := fits.status
        obtain ⟨supported, elements⟩ := fits.elements success wrong.1 wrong.2
        exact ⟨⟨by omega, by omega, by omega, by omega, by omega, by omega, inside_nil msgLen⟩,
          ⟨supported, wrong.2⟩, elements⟩
  · rw [if_pos success]
    simp only [inside_cons]
    constructor
    · rintro ⟨_, _, status, _⟩
      exact ⟨status, fun same => absurd same success, fun same => absurd same success⟩
    · intro fits
      have status := fits.status
      exact ⟨by omega, by omega, by omega, inside_nil msgLen⟩

end frame

/-- The elements of the scan table from a place on: they end just where the table's length says,
the comparisons with the OUIs stay in front of the end, and an element that is stored has room in
`RSN_IE`. -/
inductive VieFits (mode : AuthMode) (varIEs : Memory) (total : Nat) : Nat → Prop where
  | done : VieFits mode varIEs total total
  | element {pVIE : Nat} (whole : pVIE + (lenAt varIEs pVIE + 2) ≤ total)
      (wpa : (varIEs pVIE).toNat = 221 → pVIE + 6 ≤ total)
      (rsn : (varIEs pVIE).toNat = 48 → pVIE + 7 ≤ total)
      (stored : isRsnIe mode varIEs pVIE = true → lenAt varIEs pVIE + 2 ≤ maxLenOfRsnie)
      (rest : VieFits mode varIEs total (pVIE + (lenAt varIEs pVIE + 2))) :
      VieFits mode varIEs total pVIE

section walk
variable {mode : AuthMode} {varIEs : Memory} {total : Nat}

theorem ouiReads_inside_iff (pVIE : Nat) :
    Accesses.Inside total ⟨ouiReads varIEs pVIE, []⟩ ↔
      ((varIEs pVIE).toNat = 221 → pVIE + 6 ≤ total) ∧
        ((varIEs pVIE).toNat = 48 → pVIE + 7 ≤ total) := by
  unfold ouiReads
  by_cases wpa : (varIEs pVIE).toNat = 221
  · rw [if_pos wpa, inside_cons, wpa]
    simp [inside_nil]
  · rw [if_neg wpa]
    by_cases rsn : (varIEs pVIE).toNat = 48
    · rw [if_pos rsn, inside_cons, rsn]
      simp [inside_nil]
    · rw [if_neg rsn]
      simp [wpa, rsn, inside_nil]

/-- One turn of the walk. -/
theorem rsnTurn_inside_iff (pVIE : Nat) (s : RsnWalk) :
    (rsnTurn mode varIEs pVIE s).accesses.Inside total ↔
      s.accesses.Inside total ∧ pVIE + 2 ≤ total ∧
        (((varIEs pVIE).toNat = 221 → pVIE + 6 ≤ total) ∧
          ((varIEs pVIE).toNat = 48 → pVIE + 7 ≤ total)) ∧
        (isRsnIe mode varIEs pVIE = true →
          pVIE + (lenAt varIEs pVIE + 2) ≤ total ∧ lenAt varIEs pVIE + 2 ≤ maxLenOfRsnie) := by
  have looked : Accesses.Inside total
      ⟨s.accesses.reads ++ ⟨pVIE, 1⟩ :: ouiReads varIEs pVIE ++ [⟨pVIE + 1, 1⟩],
        s.accesses.stores⟩ ↔
      s.accesses.Inside total ∧ pVIE + 2 ≤ total ∧
        Accesses.Inside total ⟨ouiReads varIEs pVIE, []⟩ := by
    have order : Accesses.Inside total ⟨s.accesses.reads ++
          (⟨pVIE, 1⟩ :: ouiReads varIEs pVIE ++ [⟨pVIE + 1, 1⟩]), s.accesses.stores ++ []⟩ ↔ _ :=
      inside_append
    rw [List.append_nil, ← List.append_assoc] at order
    rw [order, List.cons_append, inside_cons, inside_reads_append, inside_cons]
    constructor
    · rintro ⟨before, _, compared, last, _⟩
      exact ⟨before, last, compared⟩
    · rintro ⟨before, last, compared⟩
      exact ⟨before, by show pVIE + 1 ≤ total; omega, compared, last, inside_nil total⟩
  rw [ouiReads_inside_iff] at looked
  unfold rsnTurn
  by_cases stored : isRsnIe mode varIEs pVIE = true
  · rw [if_pos stored]
    dsimp only
    rw [inside_append, looked]
    unfold Accesses.Inside
    simp only [List.forall_mem_singleton, stored, true_implies]
    tauto
  · rw [if_neg stored]
    dsimp only
    rw [looked]
    tauto

/-- The walk does not forget what it has accessed. -/
theorem rsnWalk_before {turns pVIE : Nat} {len : BitVec 16} {s s' : RsnWalk}
    (ends : rsnWalk mode varIEs turns pVIE len s = some s') (inside : s'.accesses.Inside total) :
    s.accesses.Inside total := by
  induction turns generalizing pVIE len s with
  | zero =>
    unfold rsnWalk at ends
    split at ends
    next => exact Option.some.inj ends ▸ inside
    next => cases ends
  | succ turns ih =>
    unfold rsnWalk at ends
    split at ends
    next => exact Option.some.inj ends ▸ inside
    next => exact ((rsnTurn_inside_iff pVIE s).mp (ih ends)).1

theorem toNat_sub_element {pVIE count : Nat} {len : BitVec 16} (place : pVIE + len.toNat = total)
    (whole : pVIE + count ≤ total) :
    pVIE + count + (len - BitVec.ofNat 16 count).toNat = total := by
  have bound := len.isLt
  rw [BitVec.toNat_sub, BitVec.toNat_ofNat, Nat.mod_eq_of_lt (by omega : count < 2 ^ 16)]
  omega

/-- Where the elements fit, the walk comes to its end inside them. -/
theorem rsnWalk_of_vieFits {pVIE : Nat} (fits : VieFits mode varIEs total pVIE) {len : BitVec 16}
    (place : pVIE + len.toNat = total) {s : RsnWalk} (inside : s.accesses.Inside total) :
    ∃ turns s', rsnWalk mode varIEs turns pVIE len s = some s' ∧ s'.accesses.Inside total := by
  induction fits generalizing len s with
  | done =>
    have ended : len = 0 := BitVec.eq_of_toNat_eq (by simpa using place)
    exact ⟨0, s, if_pos ended, inside⟩
  | @element pVIE whole wpa rsn stored rest ih =>
    have turn := (@rsnTurn_inside_iff mode varIEs total pVIE s).mpr
      ⟨inside, by omega, ⟨wpa, rsn⟩, fun found => ⟨whole, stored found⟩⟩
    obtain ⟨turns, s', ends, within⟩ := ih (toNat_sub_element place whole) turn
    refine ⟨turns + 1, s', ?_, within⟩
    have more : len ≠ 0 := by
      rintro rfl
      have : pVIE + 0 = total := place
      omega
    rw [rsnWalk, if_neg more, ends]

/-- A walk that ended inside the elements has come to just their end. -/
theorem vieFits_of_rsnWalk {turns pVIE : Nat} {len : BitVec 16} (place : pVIE + len.toNat = total)
    {s s' : RsnWalk} (ends : rsnWalk mode varIEs turns pVIE len s = some s')
    (inside : s'.accesses.Inside total) : VieFits mode varIEs total pVIE := by
  have bound := len.isLt
  induction turns generalizing pVIE len s with
  | zero =>
    unfold rsnWalk at ends
    split at ends
    next ended =>
      rw [ended] at place
      obtain rfl : pVIE = total := place
      exact .done
    next => cases ends
  | succ turns ih =>
    rw [rsnWalk] at ends
    split at ends
    next ended =>
      rw [ended] at place
      obtain rfl : pVIE = total := place
      exact .done
    next more =>
      have turn := (rsnTurn_inside_iff pVIE s).mp (rsnWalk_before ends inside)
      obtain ⟨_, header, ⟨wpa, rsn⟩, stored⟩ := turn
      have whole : pVIE + (lenAt varIEs pVIE + 2) ≤ total := by
        -- Past the end the length has wrapped, and the next element would be read there.
        by_contra past
        have byte := lenAt_lt varIEs pVIE
        have wrapped : (len - BitVec.ofNat 16 (lenAt varIEs pVIE + 2)).toNat =
            2 ^ 16 - (lenAt varIEs pVIE + 2) + len.toNat := by
          rw [BitVec.toNat_sub, BitVec.toNat_ofNat,
            Nat.mod_eq_of_lt (by omega : lenAt varIEs pVIE + 2 < 2 ^ 16), Nat.mod_eq_of_lt (by omega)]
        have going : len - BitVec.ofNat 16 (lenAt varIEs pVIE + 2) ≠ 0 := by
          intro ended
          rw [ended] at wrapped
          simp at wrapped
          omega
        cases turns with
        | zero =>
          rw [rsnWalk, if_neg going] at ends
          cases ends
        | succ turns =>
          rw [rsnWalk, if_neg going] at ends
          have beyond := (rsnTurn_inside_iff _ _).mp (rsnWalk_before ends inside)
          exact past (by have := beyond.2.1; omega)
      exact .element whole wpa rsn (fun found => (stored found).2)
        (ih (toNat_sub_element place whole) ends (BitVec.isLt _))

end walk

/-- The walk comes to an end, reads nothing behind the elements and stores no more than `RSN_IE`
holds. -/
def WalkInside (mode : AuthMode) (varIEs : Memory) (varIELen : BitVec 16) : Prop :=
  ∃ turns s, assocPostProcRsn mode varIEs turns varIELen = some s ∧
    s.accesses.Inside varIELen.toNat

theorem walkInside_iff (mode : AuthMode) (varIEs : Memory) (varIELen : BitVec 16) :
    WalkInside mode varIEs varIELen ↔
      (mode.atLeastWpa = true → VieFits mode varIEs varIELen.toNat 0) := by
  unfold WalkInside assocPostProcRsn
  by_cases walks : mode.atLeastWpa = true ∧ varIELen ≠ 0
  · simp only [if_pos walks]
    constructor
    · rintro ⟨turns, s, ends, inside⟩ _
      exact vieFits_of_rsnWalk (Nat.zero_add _) ends inside
    · intro fits
      replace fits := fits walks.1
      exact rsnWalk_of_vieFits fits (Nat.zero_add _) (inside_nil _)
  · simp only [if_neg walks]
    apply iff_of_true
    · exact ⟨0, _, rfl, inside_nil _⟩
    · intro wpa
      have empty : varIELen = 0 := by
        by_contra some
        exact walks ⟨wpa, some⟩
      rw [empty]
      exact .done

/-- A response is read inside the frame and the elements of its BSS inside the scan table, if and
only if both have the form that the functions take for granted. -/
theorem assocRsp_inside_iff (frame : Memory) (msgLen : Nat) (mode : AuthMode) (varIEs : Memory)
    (varIELen : BitVec 16) :
    (peerAssocRspSanity frame msgLen).accesses.Inside msgLen ∧ WalkInside mode varIEs varIELen ↔
      AssocRspFits frame msgLen ∧
        (mode.atLeastWpa = true → VieFits mode varIEs varIELen.toNat 0) := by
  rw [peerAssocRspSanity_inside_iff, walkInside_iff]

/-- A response that is only a header is read beyond its end. -/
theorem headerOnly_assocRsp_outside :
    ¬ (peerAssocRspSanity (fun _ => 0) 24).accesses.Inside 24 := by
  intro inside
  exact absurd (peerAssocRspSanity_inside_iff.mp inside).status (by decide)

end Mt7612u.Sta
