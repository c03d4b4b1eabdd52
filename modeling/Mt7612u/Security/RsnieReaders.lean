import Mt7612u.Security.RsnieLayout

/-! What the two readers of the security elements make of one that is laid out as `RTMPMakeRSNIE`
does it. -/

namespace Mt7612u.Security
open Receive (Memory)
open Sta (WepStatus BssType)
open Mlme (lenAt wpaOui rsnOui)

/-- The fields of an element whose octets start at `octet`. -/
structure Fields (mem : Memory) (octet : Nat) (kind : IeKind) (group : UInt8)
    (pairs akms : List UInt8) : Prop where
  vendor : mem.Holds octet kind.vendorOui
  version : countAt mem (octet + kind.version) = 1
  groupSuite : mem.Holds (octet + kind.version + 2) (kind.suite group)
  pairCount : countAt mem (octet + kind.version + 6) = pairs.length
  pairList : mem.Holds (octet + kind.version + 8) (pairs.flatMap kind.suite)
  akmCount : countAt mem (octet + kind.version + 8 + 4 * pairs.length) = akms.length
  akmList : mem.Holds (octet + kind.version + 10 + 4 * pairs.length) (akms.flatMap kind.suite)

section fields
variable {mem : Memory} {octet : Nat} {kind : IeKind} {group : UInt8} {pairs akms : List UInt8}

theorem holds_cons {first : UInt8} {rest : List UInt8} :
    mem.Holds octet (first :: rest) ↔ mem octet = first ∧ mem.Holds (octet + 1) rest := by
  rw [← List.singleton_append, Memory.holds_append]
  apply and_congr_left'
  show [mem (octet + 0)] = [first] ↔ _
  simp

theorem countAt_le16 {value : UInt8} (holds : mem.Holds octet (le16 value)) :
    countAt mem octet = value.toNat := by
  unfold le16 at holds
  rw [holds_cons, holds_cons] at holds
  unfold countAt
  rw [holds.1, holds.2.1]
  simp

theorem length_flatMap_suite (types : List UInt8) :
    (types.flatMap kind.suite).length = 4 * types.length := by
  induction types with
  | nil => rfl
  | cons type types ih =>
    have four : (kind.suite type).length = 4 := by
      cases kind <;> rfl
    rw [List.flatMap_cons, List.length_append, ih, four, List.length_cons]
    omega

theorem toNat_length {types : List UInt8} (short : types.length < 256) :
    (UInt8.ofNat types.length).toNat = types.length := by
  simp [Nat.mod_eq_of_lt short]

theorem fields_of_layout {capability : List UInt8} (short : pairs.length < 256)
    (few : akms.length < 256) (holds : mem.Holds octet (layout kind group pairs akms capability)) :
    Fields mem octet kind group pairs akms := by
  unfold layout suites at holds
  have size : (kind.suite group).length = 4 := by
    cases kind <;> rfl
  have counts (value : UInt8) : (le16 value).length = 2 := rfl
  have vendor : kind.vendorOui.length = kind.version := rfl
  simp only [Memory.holds_append, List.length_append, size, counts, vendor,
    length_flatMap_suite] at holds
  obtain ⟨⟨⟨⟨oui, version⟩, mcast, pairCount, list⟩, akmCount, akmList⟩, _⟩ := holds
  have pairsAt : octet + (kind.version + 2) + 4 + 2 = octet + kind.version + 8 := by omega
  have akmsAt : octet + (kind.version + 2 + (4 + (2 + 4 * pairs.length))) =
      octet + kind.version + 8 + 4 * pairs.length := by omega
  rw [pairsAt] at list
  rw [akmsAt] at akmCount akmList
  have akmListAt : octet + kind.version + 8 + 4 * pairs.length + 2 =
      octet + kind.version + 10 + 4 * pairs.length := by omega
  rw [akmListAt] at akmList
  have one : countAt mem (octet + kind.version) = 1 := by
    rw [countAt_le16 version]
    rfl
  exact {
    vendor := oui
    version := one
    groupSuite := mcast
    pairCount := (countAt_le16 pairCount).trans (toNat_length short)
    pairList := list
    akmCount := (countAt_le16 akmCount).trans (toNat_length few)
    akmList := akmList }

/-- The type of a suite is its last byte. -/
theorem suite_type {type : UInt8} (holds : mem.Holds octet (kind.suite type)) :
    mem (octet + 3) = type := by
  have last := (Memory.holds_append.mp holds).2
  have three : kind.oui.length = 3 := by
    cases kind <;> rfl
  rw [three, holds_cons] at last
  exact last.1

theorem suite_oui {type : UInt8} (holds : mem.Holds octet (kind.suite type)) :
    mem.equal octet kind.oui = true :=
  beq_iff_eq.mpr (Memory.holds_append.mp holds).1

theorem suite_cons {type : UInt8} {types : List UInt8}
    (holds : mem.Holds octet ((type :: types).flatMap kind.suite)) :
    mem.Holds octet (kind.suite type) ∧ mem.Holds (octet + 4) (types.flatMap kind.suite) := by
  have four : (kind.suite type).length = 4 := by
    cases kind <;> rfl
  rw [List.flatMap_cons, Memory.holds_append, four] at holds
  exact holds

/-- What the pairwise suites make of a setting. -/
def CipherSetting.addPairs (setting : CipherSetting) (types : List UInt8) : CipherSetting :=
  types.foldl (fun setting type => setting.addPair (pairCipherOf type.toNat)) setting

theorem parsePairs_holds {types : List UInt8} (setting : CipherSetting)
    (holds : mem.Holds octet (types.flatMap kind.suite)) :
    parsePairs mem types.length octet setting = setting.addPairs types := by
  induction types generalizing octet setting with
  | nil => rfl
  | cons type types ih =>
    obtain ⟨first, rest⟩ := suite_cons holds
    rw [List.length_cons, parsePairs, ih _ rest, suite_type first]
    rfl

/-- What a WPA element makes of an entry. -/
theorem parseWpa_bss {pEid : Nat} {akm : UInt8} (bss : BssEntry)
    (fields : Fields mem (pEid + 2) .wpaIe group pairs [akm]) :
    (parseWpa mem pEid bss).bss =
      wpaFinish (wpaAkm { bss with wpa := ({ bss.wpa with
        groupCipher := groupCipherOf group.toNat bss.wpa.groupCipher }).addPairs pairs }
          akm.toNat) := by
  have four : IeKind.wpaIe.version = 4 := rfl
  have oui : mem.equal (pEid + 2) wpaOui = true := beq_iff_eq.mpr fields.vendor
  have bytes := fields.vendor
  have notSes : ¬ (mem.equal (pEid + 2) sesOui ∧ lenAt mem pEid = 7) := by
    rintro ⟨ses, _⟩
    have first := beq_iff_eq.mp ses
    have second := (holds_cons.mp (holds_cons.mp fields.vendor).2).1
    have other := (holds_cons.mp (holds_cons.mp first).2).1
    rw [second] at other
    exact absurd other (by decide)
  unfold parseWpa
  rw [if_neg notSes, if_pos oui]
  show (parseWpaSuites mem pEid bss).bss = _
  unfold parseWpaSuites
  have count : countAt mem (pEid + 12) = pairs.length := fields.pairCount
  have type : mem (pEid + 11) = group := suite_type fields.groupSuite
  have list : mem.Holds (pEid + 14) (pairs.flatMap IeKind.wpaIe.suite) := fields.pairList
  have last : mem (pEid + 14 + 4 * pairs.length + 5) = akm := by
    have holds := suite_type (suite_cons fields.akmList).1
    have place : pEid + 2 + IeKind.wpaIe.version + 10 + 4 * pairs.length + 3 =
        pEid + 14 + 4 * pairs.length + 5 := by
      rw [four]
      omega
    rwa [place] at holds
  dsimp only
  rw [count, type, parsePairs_holds _ list, last]

/-- What the AKM suites make of an entry. -/
def BssEntry.addAkms (bss : BssEntry) (types : List UInt8) : BssEntry :=
  types.foldl (fun bss type => bss.addAuthMode (rsnAkm type.toNat)) bss

theorem parseAkms_holds {types : List UInt8} (pEid : Nat) (bss : BssEntry)
    (holds : mem.Holds octet (types.flatMap IeKind.wpa2Ie.suite)) :
    (parseAkms mem pEid types.length octet bss).bss =
      rsnFinish (bss.addAkms types)
        (BitVec.ofNat 16 (countAt mem (octet + 4 * types.length))) := by
  induction types generalizing octet bss with
  | nil => rfl
  | cons type types ih =>
    obtain ⟨first, rest⟩ := suite_cons holds
    have oui : mem.equal octet rsnOui = true := suite_oui first
    have place : octet + 4 + 4 * types.length = octet + 4 * (types.length + 1) := by omega
    rw [List.length_cons, parseAkms, if_pos oui]
    dsimp only
    rw [ih _ rest, suite_type first, place]
    rfl

/-- What an RSN element makes of an entry. -/
theorem parseRsn_bss {pEid : Nat} (bss : BssEntry)
    (fields : Fields mem (pEid + 2) .wpa2Ie group pairs akms) :
    ∃ capability, (parseRsn mem pEid bss).bss =
      rsnFinish ({ bss with wpa2 := ({ bss.wpa2 with
        groupCipher := groupCipherOf group.toNat bss.wpa2.groupCipher }).addPairs pairs
          }.addAkms akms) capability := by
  have version : countAt mem (pEid + 2) = 1 := fields.version
  have oui : mem.equal (pEid + 4) rsnOui = true := suite_oui fields.groupSuite
  have count : countAt mem (pEid + 8) = pairs.length := fields.pairCount
  have type : mem (pEid + 7) = group := suite_type fields.groupSuite
  have list : mem.Holds (pEid + 10) (pairs.flatMap IeKind.wpa2Ie.suite) := fields.pairList
  have akmCount : countAt mem (pEid + 10 + 4 * pairs.length) = akms.length := fields.akmCount
  have akmList : mem.Holds (pEid + 10 + 4 * pairs.length + 2)
      (akms.flatMap IeKind.wpa2Ie.suite) := by
    have place : pEid + 2 + IeKind.wpa2Ie.version + 10 + 4 * pairs.length =
        pEid + 10 + 4 * pairs.length + 2 := by
      have zero : IeKind.wpa2Ie.version = 0 := rfl
      omega
    rw [← place]
    exact fields.akmList
  unfold parseRsn
  dsimp only
  rw [if_neg (not_not.mpr version), if_pos oui]
  unfold parseRsnSuites
  dsimp only
  rw [count, type, parsePairs_holds _ list, akmCount]
  exact ⟨_, parseAkms_holds pEid _ akmList⟩

variable {rsnieLen : Nat}

/-- The header of an element, and its length, which covers both lists. -/
structure Headed (mem : Memory) (kind : IeKind) (pairs akms : List UInt8) (rsnieLen : Nat) :
    Prop where
  eid : (mem 0).toNat = kind.eid
  len : lenAt mem 0 = rsnieLen - 2
  covers : kind.version + 10 + 4 * pairs.length + 4 * akms.length ≤ rsnieLen - 2
  tight : rsnieLen - 2 ≤ kind.version + 12 + 4 * pairs.length + 4 * akms.length
  paired : 0 < pairs.length

theorem extract_eq (headed : Headed mem kind pairs akms rsnieLen)
    (fields : Fields mem 2 kind group pairs akms) (type : SuiteType) :
    wpaExtractSuiteFromRsnie mem type rsnieLen =
      match type with
      | .groupSuite => (some (kind.version + 4), 1)
      | .pairwiseSuite => (some (kind.version + 10), pairs.length % 256)
      | _ => extractAkm mem type kind (kind.version + 10 + 4 * pairs.length)
          (rsnieLen - 2 - (kind.version + 8 + 4 * pairs.length)) := by
  have covers := headed.covers
  have paired := headed.paired
  have whole : ¬ (rsnieLen - 2 = 0 ∨ lenAt mem 0 ≠ rsnieLen - 2) := by
    rintro (empty | other)
    · omega
    · exact other headed.len
  have layouts : wpaExtractSuiteFromRsnie mem type rsnieLen =
      extractSuites mem type kind (rsnieLen - 2) := by
    unfold wpaExtractSuiteFromRsnie
    dsimp only
    rw [if_neg whole, headed.eid]
    cases kind <;> rfl
  have size : kind.size = kind.version + 12 := rfl
  have count : countAt mem (2 + kind.version + 6) = pairs.length := fields.pairCount
  rw [layouts]
  unfold extractSuites
  dsimp only
  rw [if_neg (by omega), count, if_neg (by omega)]
  have group : 2 + kind.version + 2 = kind.version + 4 := by omega
  have list : 2 + kind.version + 8 = kind.version + 10 := by omega
  have rest : 2 + (kind.version + 8 + 4 * pairs.length) =
      kind.version + 10 + 4 * pairs.length := by omega
  rw [group, list, rest]
  all_goals cases type <;> rfl

theorem extract_akm (headed : Headed mem kind pairs akms rsnieLen)
    (fields : Fields mem 2 kind group pairs akms) (listed : 0 < akms.length) :
    wpaExtractSuiteFromRsnie mem .akmSuite rsnieLen =
      (some (kind.version + 12 + 4 * pairs.length), akms.length % 256) := by
  have covers := headed.covers
  rw [extract_eq headed fields]
  dsimp only
  have count : countAt mem (kind.version + 10 + 4 * pairs.length) = akms.length := by
    have place : 2 + kind.version + 8 + 4 * pairs.length =
        kind.version + 10 + 4 * pairs.length := by omega
    rw [← place]
    exact fields.akmCount
  have list : kind.version + 10 + 4 * pairs.length + 2 =
      kind.version + 12 + 4 * pairs.length := by omega
  unfold extractAkm
  dsimp only
  rw [count, if_neg (by omega), if_neg (by omega), if_pos rfl, list]

/-- Without an AKM suite what is left is too short. -/
theorem extract_akm_none (headed : Headed mem kind pairs [] rsnieLen)
    (fields : Fields mem 2 kind group pairs []) :
    wpaExtractSuiteFromRsnie mem .akmSuite rsnieLen = (none, 0) := by
  have tight := headed.tight
  rw [List.length_nil] at tight
  rw [extract_eq headed fields]
  dsimp only
  unfold extractAkm
  rw [if_pos (by omega)]

/-- An element that is shorter than one with a single suite. -/
theorem extract_short (type : SuiteType) (short : rsnieLen - 2 < 12) :
    wpaExtractSuiteFromRsnie mem type rsnieLen = (none, 0) := by
  unfold wpaExtractSuiteFromRsnie
  dsimp only
  split_ifs
  · rfl
  · exact if_pos (short.trans (by decide))
  · exact if_pos short
  · rfl

end fields

end Mt7612u.Security
