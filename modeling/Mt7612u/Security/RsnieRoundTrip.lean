import Mt7612u.Security.RsnieReaders

/-! Reading back the elements of `RTMPMakeRSNIE`: by a station that scans, with `BssCipherParse`, and
with `WPA_ExtractSuiteFromRSNIE`. -/

namespace Mt7612u.Security
open Receive (Memory OpMode)
open Sta (WepStatus BssType)
open Mlme (lenAt)

/-- What an element announces. -/
structure Offer where
  group : WepStatus
  pairs : List WepStatus
  akm : AuthMode

/-- The pairwise ciphers that a configuration means for one kind of element. -/
def pairsOffered (kind : IeKind) (wepStatus : WepStatus) (flexibleCipher : UInt8) :
    List WepStatus :=
  match wepStatus with
  | .tkipAesMix =>
    (if tkipOn kind flexibleCipher then [.tkipEnable] else []) ++
      (if aesOn kind flexibleCipher then [.aesEnable] else [])
  | status => [status]

/-- The mode that it means for one kind of element: a mixed mode is split up. -/
def akmOffered (kind : IeKind) (authMode : AuthMode) : AuthMode :=
  match kind, authMode with
  | .wpaIe, .wpa1Wpa2 => .wpa
  | .wpaIe, .wpa1PskWpa2Psk => .wpaPsk
  | .wpa2Ie, .wpa1Wpa2 => .wpa2
  | .wpa2Ie, .wpa1PskWpa2Psk => .wpa2Psk
  | _, mode => mode

/-- The number of a cipher in the suites of both kinds. -/
def suiteType : WepStatus → UInt8
  | .groupWep40Enabled => 1
  | .tkipEnable => 2
  | .aesEnable => 4
  | .groupWep104Enabled => 5
  | _ => 0

/-- The number of a mode in the AKM suites of its kind. -/
def akmSuiteType : AuthMode → UInt8
  | .wpa => 1
  | .wpa2 => 1
  | .wpaPsk => 2
  | .wpa2Psk => 2
  | _ => 0

/-- WPA-None is for ad hoc networks. -/
def beaconType : AuthMode → BssType
  | .wpaNone => .adhoc
  | _ => .infra

def BssEntry.setting (bss : BssEntry) : IeKind → CipherSetting
  | .wpaIe => bss.wpa
  | .wpa2Ie => bss.wpa2

/-- The pairwise ciphers that were found. -/
def CipherSetting.pairs (setting : CipherSetting) : List WepStatus :=
  [setting.pairCipher, setting.pairCipherAux].filter (· ≠ .wepDisabled)

/-- A list is found in the element, with its suites. -/
def Extracts (rsnie : Memory) (rsnieLen : Nat) (type : SuiteType) (suites : List (List UInt8)) :
    Prop :=
  ∃ place, wpaExtractSuiteFromRsnie rsnie type rsnieLen = (some place, suites.length) ∧
    place + 4 * suites.length ≤ rsnieLen ∧
      rsnie.bytes place (4 * suites.length) = suites.flatten

/-- Both readers find what is offered. -/
structure ReadsBack (rsnie : Memory) (rsnieLen : Nat) (kind : IeKind) (offer : Offer)
    (bss : BssEntry) : Prop where
  group : ((bssCipherParse rsnie rsnieLen bss).bss.setting kind).groupCipher = offer.group
  pairs : ∀ cipher, cipher ∈ ((bssCipherParse rsnie rsnieLen bss).bss.setting kind).pairs ↔
    cipher ∈ offer.pairs
  akm : (bssCipherParse rsnie rsnieLen bss).bss.authMode = offer.akm
  groupSuite : Extracts rsnie rsnieLen .groupSuite [kind.suite (suiteType offer.group)]
  pairSuites : Extracts rsnie rsnieLen .pairwiseSuite
    (offer.pairs.map fun cipher => kind.suite (suiteType cipher))
  akmSuites : Extracts rsnie rsnieLen .akmSuite [kind.suite (akmSuiteType offer.akm)]

/-- An element with its header, and whatever stands behind it. -/
def MadeIe.placed (made : MadeIe) (behind : Memory) : Memory :=
  behind.write 0 (UInt8.ofNat made.kind.eid :: UInt8.ofNat made.length ::
    made.content.bytes 0 made.length)

/-- An element reads back as it is offered, wherever it stands. -/
def MadeIe.Agrees (made : MadeIe) (offer : Offer) (bssType : BssType) : Prop :=
  ∀ (behind : Memory) (privacy : Bool),
    ReadsBack (made.placed behind) (made.length + 2) made.kind offer
      { privacy := privacy, bssType := bssType }

section lists
variable {rsnie : Memory} {rsnieLen : Nat} {kind : IeKind} {group : UInt8}
  {pairs akms : List UInt8}

theorem suite_inj {type type' : UInt8} : kind.suite type = kind.suite type' ↔ type = type' := by
  unfold IeKind.suite
  rw [List.append_cancel_left_eq, List.cons.injEq]
  simp

theorem suites_inj {types types' : List UInt8} :
    types.flatMap kind.suite = types'.flatMap kind.suite ↔ types = types' := by
  constructor
  · intro same
    induction types generalizing types' with
    | nil =>
      have length := congrArg List.length same
      rw [length_flatMap_suite, length_flatMap_suite, List.length_nil] at length
      exact (List.eq_nil_of_length_eq_zero (by omega)).symm
    | cons type types ih =>
      cases types' with
      | nil =>
        have length := congrArg List.length same
        rw [length_flatMap_suite, length_flatMap_suite, List.length_nil, List.length_cons] at length
        omega
      | cons type' types' =>
        rw [List.flatMap_cons, List.flatMap_cons] at same
        have four (t : UInt8) : (kind.suite t).length = 4 := by
          cases kind <;> rfl
        obtain ⟨first, rest⟩ := List.append_inj same ((four type).trans (four type').symm)
        rw [suite_inj.mp first, ih rest]
  · exact congrArg _

theorem flatten_suites (types : List UInt8) :
    (types.map kind.suite).flatten = types.flatMap kind.suite :=
  rfl

/-- The list of a type is found when it stands where the reader says. -/
theorem extracts_iff {type : SuiteType} {place : Nat} {types types' : List UInt8}
    (found : wpaExtractSuiteFromRsnie rsnie type rsnieLen = (some place, types.length))
    (inside : place + 4 * types.length ≤ rsnieLen)
    (holds : rsnie.Holds place (types.flatMap kind.suite)) :
    Extracts rsnie rsnieLen type (types'.map kind.suite) ↔ types' = types := by
  have bytes : rsnie.bytes place (4 * types.length) = types.flatMap kind.suite := by
    have whole : 4 * types.length = (types.flatMap kind.suite).length :=
      (length_flatMap_suite types).symm
    rw [whole]
    exact holds
  unfold Extracts
  rw [found, flatten_suites, List.length_map]
  constructor
  · rintro ⟨place', same, _, content⟩
    rw [Prod.mk.injEq, Option.some.injEq] at same
    rw [← same.1, ← same.2, bytes] at content
    exact (suites_inj.mp content).symm
  · rintro rfl
    exact ⟨place, rfl, inside, bytes⟩

theorem extracts_group_iff (headed : Headed rsnie kind pairs akms rsnieLen)
    (fields : Fields rsnie 2 kind group pairs akms) (type : UInt8) :
    Extracts rsnie rsnieLen .groupSuite [kind.suite type] ↔ type = group := by
  have covers := headed.covers
  have holds : rsnie.Holds (kind.version + 4) ([group].flatMap kind.suite) := by
    have place : 2 + kind.version + 2 = kind.version + 4 := by omega
    rw [← place, List.flatMap_singleton]
    exact fields.groupSuite
  have found := @extracts_iff rsnie rsnieLen kind .groupSuite (kind.version + 4) [group] [type]
    (extract_eq headed fields .groupSuite) (by rw [List.length_singleton]; omega) holds
  rw [List.singleton_inj] at found
  exact found

theorem extracts_pairs_iff (headed : Headed rsnie kind pairs akms rsnieLen)
    (fields : Fields rsnie 2 kind group pairs akms) (short : pairs.length < 256)
    (types : List UInt8) :
    Extracts rsnie rsnieLen .pairwiseSuite (types.map kind.suite) ↔ types = pairs := by
  have covers := headed.covers
  have holds : rsnie.Holds (kind.version + 10) (pairs.flatMap kind.suite) := by
    have place : 2 + kind.version + 8 = kind.version + 10 := by omega
    rw [← place]
    exact fields.pairList
  apply extracts_iff _ _ holds
  · rw [extract_eq headed fields]
    dsimp only
    rw [Nat.mod_eq_of_lt short]
  · omega

theorem extracts_akm_iff (headed : Headed rsnie kind pairs akms rsnieLen)
    (fields : Fields rsnie 2 kind group pairs akms) (few : akms.length < 256) (type : UInt8) :
    Extracts rsnie rsnieLen .akmSuite [kind.suite type] ↔ akms = [type] := by
  have covers := headed.covers
  cases akms with
  | nil =>
    apply iff_of_false
    · rintro ⟨place, found, _⟩
      rw [extract_akm_none headed fields] at found
      simp at found
    · exact List.cons_ne_nil _ _ ∘ Eq.symm
  | cons first rest =>
    have holds : rsnie.Holds (kind.version + 12 + 4 * pairs.length)
        ((first :: rest).flatMap kind.suite) := by
      have place : 2 + kind.version + 10 + 4 * pairs.length =
          kind.version + 12 + 4 * pairs.length := by omega
      rw [← place]
      exact fields.akmList
    have listed : 0 < (first :: rest).length := Nat.succ_pos _
    rw [← Nat.mod_eq_of_lt few] at listed
    have found := @extracts_iff rsnie rsnieLen kind .akmSuite _ (first :: rest) [type]
      ((extract_akm headed fields (Nat.succ_pos _)).trans (by rw [Nat.mod_eq_of_lt few]))
      (by omega) holds
    exact found.trans eq_comm

end lists

section element
variable {config : SecurityConfig} {kind : IeKind} {authMode : AuthMode} {wepStatus : WepStatus}
  {mixCipher : Bool} {flexibleCipher : UInt8}

/-- A single element is parsed by itself. -/
theorem bssCipherParse_single {rsnie : Memory} {bss : BssEntry} {rsnieLen : Nat}
    (len : lenAt rsnie 0 + 2 = rsnieLen) :
    (bssCipherParse rsnie rsnieLen bss).bss =
      (parseElement rsnie 0 {
        privacy := bss.privacy
        bssType := bss.bssType
        ses := bss.ses
        wepStatus := if bss.privacy then .wepEnabled else .wepDisabled }).bss := by
  unfold bssCipherParse
  rw [parseElements, if_pos (by omega)]
  dsimp only
  rw [parseElements, if_neg (by omega)]

/-- The entry before the element. -/
def clearEntry (privacy : Bool) (bssType : BssType) : BssEntry where
  privacy := privacy
  bssType := bssType
  wepStatus := if privacy then .wepEnabled else .wepDisabled

/-- What an element of one kind makes of it. -/
def readEntry (kind : IeKind) (setting : CipherSetting) (akm : UInt8) (capability : BitVec 16)
    (bss : BssEntry) : BssEntry :=
  match kind with
  | .wpaIe => wpaFinish (wpaAkm { bss with wpa := setting } akm.toNat)
  | .wpa2Ie =>
    rsnFinish ({ bss with wpa2 := setting }.addAuthMode (rsnAkm akm.toNat)) capability

/-- The suites of an element, in a setting that was empty. -/
def readSetting (group : UInt8) (pairs : List UInt8) : CipherSetting :=
  CipherSetting.addPairs { groupCipher := groupCipherOf group.toNat .wepDisabled } pairs

theorem parse_readEntry {rsnie : Memory} {rsnieLen : Nat} {group akm : UInt8} {pairs : List UInt8}
    {bssType : BssType} (headed : Headed rsnie kind pairs [akm] rsnieLen)
    (fields : Fields rsnie 2 kind group pairs [akm]) (privacy : Bool) :
    ∃ capability,
      (bssCipherParse rsnie rsnieLen { privacy := privacy, bssType := bssType }).bss =
        readEntry kind (readSetting group pairs) akm capability (clearEntry privacy bssType) := by
  have covers := headed.covers
  have len := headed.len
  have eid := headed.eid
  rw [bssCipherParse_single (by omega)]
  unfold parseElement
  rw [eid]
  cases kind with
  | wpaIe => exact ⟨0, parseWpa_bss _ fields⟩
  | wpa2Ie => exact parseRsn_bss _ fields

@[simp] theorem checkMixed_groupCipher (setting : CipherSetting) :
    setting.checkMixed.groupCipher = setting.groupCipher := by
  unfold CipherSetting.checkMixed
  split_ifs <;> rfl

@[simp] theorem checkMixed_pairs (setting : CipherSetting) :
    setting.checkMixed.pairs = setting.pairs := by
  unfold CipherSetting.checkMixed
  split_ifs <;> rfl

/-- In an ad hoc network the group cipher fills the second place. -/
def CipherSetting.patched (setting : CipherSetting) : CipherSetting :=
  if setting.pairCipherAux = .wepDisabled then
    { setting with pairCipherAux := setting.groupCipher }
  else setting

@[simp] theorem patched_groupCipher (setting : CipherSetting) :
    setting.patched.groupCipher = setting.groupCipher := by
  unfold CipherSetting.patched
  split_ifs <;> rfl

theorem wpaFinish_wpa (bss : BssEntry) :
    (wpaFinish bss).wpa =
      (if bss.bssType = .adhoc then bss.wpa.patched else bss.wpa).checkMixed := by
  unfold wpaFinish CipherSetting.patched
  by_cases adhoc : bss.bssType = .adhoc
  · rw [if_pos adhoc, if_pos adhoc]
  · rw [if_neg adhoc, if_neg adhoc]

theorem wpaFinish_authMode (bss : BssEntry) :
    (wpaFinish bss).authMode = if bss.bssType = .adhoc then .wpaNone else bss.authMode := by
  unfold wpaFinish
  split_ifs <;> rfl

theorem wpaAkm_bssType (bss : BssEntry) (type : Nat) :
    (wpaAkm bss type).bssType = bss.bssType := by
  unfold wpaAkm BssEntry.addAuthMode
  split <;> (try split_ifs) <;> rfl

theorem wpaAkm_wpa (bss : BssEntry) (type : Nat) : (wpaAkm bss type).wpa = bss.wpa := by
  unfold wpaAkm BssEntry.addAuthMode
  split <;> (try split_ifs) <;> rfl

/-- The mode of the AKM suite of a WPA element. -/
def wpaMode : Nat → AuthMode
  | 1 => .wpa
  | 2 => .wpaPsk
  | _ => .open

theorem wpaAkm_authMode {bss : BssEntry} (clear : bss.authMode = .open) (type : Nat) :
    (wpaAkm bss type).authMode = wpaMode type := by
  unfold wpaAkm BssEntry.addAuthMode wpaMode
  rw [if_pos clear, if_pos clear]
  match type with
  | 0 => exact clear
  | 1 => rfl
  | 2 => rfl
  | _ + 3 => exact clear

/-- The setting that is found. -/
def foundSetting (kind : IeKind) (bssType : BssType) (setting : CipherSetting) : CipherSetting :=
  match kind with
  | .wpaIe => if bssType = .adhoc then setting.patched else setting
  | .wpa2Ie => setting

/-- The mode that is found. -/
def foundMode (kind : IeKind) (bssType : BssType) (akm : UInt8) : AuthMode :=
  match kind with
  | .wpaIe => if bssType = .adhoc then .wpaNone else wpaMode akm.toNat
  | .wpa2Ie => rsnAkm akm.toNat

theorem readEntry_authMode (setting : CipherSetting) (akm : UInt8) (capability : BitVec 16)
    (privacy : Bool) (bssType : BssType) :
    (readEntry kind setting akm capability (clearEntry privacy bssType)).authMode =
      foundMode kind bssType akm := by
  cases kind with
  | wpaIe =>
    unfold readEntry foundMode
    dsimp only
    rw [wpaFinish_authMode, wpaAkm_bssType, wpaAkm_authMode rfl]
    rfl
  | wpa2Ie => rfl

theorem readEntry_setting (setting : CipherSetting) (akm : UInt8) (capability : BitVec 16)
    (privacy : Bool) (bssType : BssType) :
    (readEntry kind setting akm capability (clearEntry privacy bssType)).setting kind =
      (foundSetting kind bssType
        (match kind with
        | .wpaIe => setting
        | .wpa2Ie => { setting with rsnCapability := capability })).checkMixed := by
  cases kind with
  | wpaIe =>
    unfold readEntry foundSetting BssEntry.setting
    dsimp only
    rw [wpaFinish_wpa, wpaAkm_bssType, wpaAkm_wpa]
    rfl
  | wpa2Ie => rfl

theorem readEntry_groupCipher (setting : CipherSetting) (akm : UInt8) (capability : BitVec 16)
    (privacy : Bool) (bssType : BssType) :
    ((readEntry kind setting akm capability (clearEntry privacy bssType)).setting
      kind).groupCipher = setting.groupCipher := by
  rw [readEntry_setting, checkMixed_groupCipher]
  cases kind with
  | wpaIe =>
    unfold foundSetting
    dsimp only
    split_ifs
    · exact patched_groupCipher setting
    · rfl
  | wpa2Ie => rfl

theorem readEntry_pairs (setting : CipherSetting) (akm : UInt8) (capability : BitVec 16)
    (privacy : Bool) (bssType : BssType) :
    ((readEntry kind setting akm capability (clearEntry privacy bssType)).setting kind).pairs =
      (foundSetting kind bssType setting).pairs := by
  rw [readEntry_setting, checkMixed_pairs]
  cases kind with
  | wpaIe => rfl
  | wpa2Ie => rfl

/-- The suites do not touch the group cipher. -/
theorem readSetting_groupCipher (group : UInt8) (pairs : List UInt8) :
    (readSetting group pairs).groupCipher = groupCipherOf group.toNat .wepDisabled := by
  unfold readSetting CipherSetting.addPairs
  induction pairs using List.reverseRecOn with
  | nil => rfl
  | append_singleton types type ih =>
    rw [List.foldl_append, List.foldl_cons, List.foldl_nil, CipherSetting.addPair]
    split_ifs
    · exact ih
    · exact ih

/-- Reading back, field by field. -/
theorem readsBack_iff {rsnie : Memory} {rsnieLen : Nat} {group akm : UInt8} {pairs : List UInt8}
    {bssType : BssType} (headed : Headed rsnie kind pairs [akm] rsnieLen)
    (fields : Fields rsnie 2 kind group pairs [akm]) (short : pairs.length < 256) (offer : Offer)
    (privacy : Bool) :
    ReadsBack rsnie rsnieLen kind offer { privacy := privacy, bssType := bssType } ↔
      groupCipherOf group.toNat .wepDisabled = offer.group ∧
      (∀ cipher, cipher ∈ (foundSetting kind bssType (readSetting group pairs)).pairs ↔
        cipher ∈ offer.pairs) ∧
      foundMode kind bssType akm = offer.akm ∧
      suiteType offer.group = group ∧ offer.pairs.map suiteType = pairs ∧
      akm = akmSuiteType offer.akm := by
  obtain ⟨capability, entry⟩ := @parse_readEntry kind rsnie rsnieLen group akm pairs bssType headed
    fields privacy
  have pairSuites := extracts_pairs_iff headed fields short (offer.pairs.map suiteType)
  rw [List.map_map] at pairSuites
  have groupSuite := extracts_group_iff headed fields (suiteType offer.group)
  have one : [akm].length < 256 := Nat.one_lt_ofNat
  have akmSuites := extracts_akm_iff headed fields one (akmSuiteType offer.akm)
  rw [List.singleton_inj] at akmSuites
  rw [← groupSuite, ← akmSuites, ← pairSuites, ← readSetting_groupCipher group pairs,
    ← readEntry_authMode (readSetting group pairs) akm capability privacy bssType,
    ← readEntry_groupCipher (readSetting group pairs) akm capability privacy bssType,
    ← readEntry_pairs (readSetting group pairs) akm capability privacy bssType, ← entry]
  constructor
  · intro back
    exact ⟨back.group, back.pairs, back.akm, back.groupSuite, back.pairSuites, back.akmSuites⟩
  · rintro ⟨found, ciphers, mode, first, second, third⟩
    exact ⟨found, ciphers, mode, first, second, third⟩

/-- The types that a group suite can have. -/
theorem groupType_cases (config : SecurityConfig) (wepStatus : WepStatus) (mixCipher : Bool) :
    staGroupType config (groupType wepStatus mixCipher) ∈ [wep40, tkip, ccmp, wep104] := by
  have first : groupType wepStatus mixCipher ∈ [wep40, tkip, ccmp, wep104] := by
    unfold groupType
    split_ifs <;> decide
  unfold staGroupType
  split_ifs
  · cases config.groupCipher
    case groupWep40Enabled => exact List.mem_cons_self
    case groupWep104Enabled => exact List.mem_of_getLast? rfl
    all_goals exact first
  · exact first

/-- The types of the pairwise suites beside the ciphers that are meant. -/
theorem pairTypes_cases (has : HasSuites wepStatus) :
    (pairTypes kind wepStatus flexibleCipher, pairsOffered kind wepStatus flexibleCipher) ∈
      [([tkip], [.tkipEnable]), ([ccmp], [.aesEnable]),
        ([tkip, ccmp], [.tkipEnable, .aesEnable]), ([ccmp], [])] := by
  obtain rfl | rfl | rfl := has
  · exact List.mem_cons_self
  · exact List.mem_cons_of_mem _ List.mem_cons_self
  · unfold pairTypes pairsOffered
    dsimp only
    cases tkipOn kind flexibleCipher <;> cases aesOn kind flexibleCipher <;> decide

theorem same_members_iff {first second : List WepStatus} :
    (∀ cipher, cipher ∈ first ↔ cipher ∈ second) ↔
      (∀ cipher ∈ first, cipher ∈ second) ∧ ∀ cipher ∈ second, cipher ∈ first := by
  rw [← forall_and]
  exact forall_congr' fun _ => iff_iff_implies_and_implies

/-- The ciphers that are found are those that are meant, unless none is meant, or the group cipher
of an ad hoc network comes in beside a single one. -/
theorem foundPairs_iff {group : UInt8} {types : List UInt8} {meant : List WepStatus}
    (listed : group ∈ [wep40, tkip, ccmp, wep104])
    (cases : (types, meant) ∈
      [([tkip], [.tkipEnable]), ([ccmp], [.aesEnable]),
        ([tkip, ccmp], [.tkipEnable, .aesEnable]), ([ccmp], ([] : List WepStatus))])
    (adhoc : Bool) :
    (∀ cipher, cipher ∈ (foundSetting kind (if adhoc then .adhoc else .infra)
        (readSetting group types)).pairs ↔ cipher ∈ meant) ↔
      meant ≠ [] ∧ (kind = .wpaIe → adhoc = true →
        groupCipherOf group.toNat .wepDisabled ∈ meant ∨ meant.length = 2) := by
  simp only [List.mem_cons, List.not_mem_nil, or_false, Prod.mk.injEq] at listed cases
  rw [same_members_iff]
  rcases cases with ⟨rfl, rfl⟩ | ⟨rfl, rfl⟩ | ⟨rfl, rfl⟩ | ⟨rfl, rfl⟩ <;>
    rcases listed with rfl | rfl | rfl | rfl <;> cases adhoc <;> cases kind <;> decide

theorem meant_types {types : List UInt8} {meant : List WepStatus}
    (cases : (types, meant) ∈
      [([tkip], [.tkipEnable]), ([ccmp], [.aesEnable]),
        ([tkip, ccmp], [.tkipEnable, .aesEnable]), ([ccmp], ([] : List WepStatus))])
    (some : meant ≠ []) : meant.map suiteType = types := by
  simp only [List.mem_cons, List.not_mem_nil, or_false, Prod.mk.injEq] at cases
  rcases cases with ⟨rfl, rfl⟩ | ⟨rfl, rfl⟩ | ⟨rfl, rfl⟩ | ⟨rfl, rfl⟩
  · rfl
  · rfl
  · rfl
  · exact absurd rfl some

theorem suiteType_groupCipherOf {group : UInt8} (listed : group ∈ [wep40, tkip, ccmp, wep104]) :
    suiteType (groupCipherOf group.toNat .wepDisabled) = group := by
  simp only [List.mem_cons, List.not_mem_nil, or_false] at listed
  rcases listed with rfl | rfl | rfl | rfl <;> rfl

/-- Where a mode has an AKM suite, it is found again. -/
theorem akmTypes_cases (has : akmTypes kind authMode ≠ []) :
    akmTypes kind authMode = [akmSuiteType (akmOffered kind authMode)] ∧
      foundMode kind (beaconType authMode) (akmSuiteType (akmOffered kind authMode)) =
        akmOffered kind authMode := by
  cases kind <;> cases authMode <;> first | exact ⟨rfl, rfl⟩ | exact absurd rfl has

theorem beaconType_eq (authMode : AuthMode) :
    beaconType authMode = if decide (authMode = .wpaNone) then .adhoc else .infra := by
  cases authMode <;> rfl

theorem length_layout (group : UInt8) (pairs akms capability : List UInt8) :
    (layout kind group pairs akms capability).length =
      kind.version + 10 + 4 * pairs.length + 4 * akms.length + capability.length := by
  have size : (kind.suite group).length = 4 := by
    cases kind <;> rfl
  have counts (value : UInt8) : (le16 value).length = 2 := rfl
  have vendor : kind.vendorOui.length = kind.version := rfl
  unfold layout suites
  simp only [List.length_append, size, counts, vendor, length_flatMap_suite]
  omega

theorem length_pairTypes (has : HasSuites wepStatus) :
    0 < (pairTypes kind wepStatus flexibleCipher).length ∧
      (pairTypes kind wepStatus flexibleCipher).length ≤ 2 := by
  have cases := @pairTypes_cases kind wepStatus flexibleCipher has
  simp only [List.mem_cons, List.not_mem_nil, or_false, Prod.mk.injEq] at cases
  rcases cases with ⟨types, _⟩ | ⟨types, _⟩ | ⟨types, _⟩ | ⟨types, _⟩ <;> rw [types] <;> decide

theorem length_akmTypes : (akmTypes kind authMode).length ≤ 1 := by
  unfold akmTypes
  cases akmType kind authMode <;> simp

/-- An element where it is read. -/
theorem placed_reads (has : HasSuites wepStatus) (behind : Memory) :
    Headed ((makeElement config kind authMode wepStatus mixCipher flexibleCipher).placed behind)
        kind (pairTypes kind wepStatus flexibleCipher) (akmTypes kind authMode)
        ((makeElement config kind authMode wepStatus mixCipher flexibleCipher).length + 2) ∧
      Fields ((makeElement config kind authMode wepStatus mixCipher flexibleCipher).placed behind)
        2 kind (staGroupType config (groupType wepStatus mixCipher))
        (pairTypes kind wepStatus flexibleCipher) (akmTypes kind authMode) := by
  have laid := @makeElement_laid config kind authMode wepStatus mixCipher flexibleCipher has
  have paired := @length_pairTypes kind wepStatus flexibleCipher has
  have few := @length_akmTypes kind authMode
  have length := congrArg List.length laid
  rw [Memory.length_bytes, length_layout] at length
  have small : (capability config kind).length ≤ 2 := by
    cases kind with
    | wpaIe => exact Nat.zero_le 2
    | wpa2Ie => exact le_rfl
  have version : kind.version ≤ 4 := by
    cases kind <;> decide
  have holds := behind.write_holds 0
    (UInt8.ofNat kind.eid :: UInt8.ofNat
        (makeElement config kind authMode wepStatus mixCipher flexibleCipher).length ::
      (makeElement config kind authMode wepStatus mixCipher flexibleCipher).content.bytes 0
        (makeElement config kind authMode wepStatus mixCipher flexibleCipher).length)
  obtain ⟨eid, rest⟩ := holds_cons.mp holds
  obtain ⟨len, octets⟩ := holds_cons.mp rest
  have body : ((makeElement config kind authMode wepStatus mixCipher flexibleCipher).placed
      behind).Holds 2 (layout kind (staGroupType config (groupType wepStatus mixCipher))
        (pairTypes kind wepStatus flexibleCipher) (akmTypes kind authMode)
        (capability config kind)) := by
    rw [← laid]
    exact octets
  constructor
  · exact {
      eid := by
        refine (congrArg UInt8.toNat eid).trans ?_
        cases kind <;> rfl
      len := by
        refine (congrArg UInt8.toNat len).trans ?_
        rw [UInt8.toNat_ofNat', Nat.mod_eq_of_lt (by omega)]
        rfl
      covers := by omega
      tight := by omega
      paired := paired.1 }
  · exact fields_of_layout (by omega) (by omega) body

/-- A short element is not read. -/
theorem makeElement_short (lacks : ¬ HasSuites wepStatus) :
    (makeElement config kind authMode wepStatus mixCipher flexibleCipher).length < 12 := by
  have none : (rtmpMakeRsnIeCipher config kind wepStatus mixCipher flexibleCipher
      fun _ => 0).2 = 0 := by
    unfold rtmpMakeRsnIeCipher
    cases wepStatus
    case tkipEnable => exact absurd (.inl rfl) lacks
    case aesEnable => exact absurd (.inr (.inl rfl)) lacks
    case tkipAesMix => exact absurd (.inr (.inr rfl)) lacks
    all_goals rfl
  have few := @length_akmTypes kind authMode
  have small : (capability config kind).length ≤ 2 := by
    cases kind with
    | wpaIe => exact Nat.zero_le 2
    | wpa2Ie => exact le_rfl
  have counts (value : UInt8) : (le16 value).length = 2 := rfl
  unfold makeElement
  dsimp only
  have length := @rtmpMakeRsnIeCap_length config kind
  rw [length, rtmpMakeRsnIeAkm_length, none, List.length_append, counts, length_flatMap_suite]
  omega

/-- One element: when it reads back as it is meant. -/
theorem makeElement_agrees_iff (group : WepStatus) :
    (makeElement config kind authMode wepStatus mixCipher flexibleCipher).Agrees
        ⟨group, pairsOffered kind wepStatus flexibleCipher, akmOffered kind authMode⟩
        (beaconType authMode) ↔
      HasSuites wepStatus ∧ akmTypes kind authMode ≠ [] ∧
        pairsOffered kind wepStatus flexibleCipher ≠ [] ∧
        groupCipherOf (staGroupType config (groupType wepStatus mixCipher)).toNat .wepDisabled =
          group ∧
        (kind = .wpaIe → authMode = .wpaNone →
          group ∈ pairsOffered kind wepStatus flexibleCipher ∨
            (pairsOffered kind wepStatus flexibleCipher).length = 2) := by
  by_cases has : HasSuites wepStatus
  · have cases := @pairTypes_cases kind wepStatus flexibleCipher has
    have listed := groupType_cases config wepStatus mixCipher
    by_cases announced : akmTypes kind authMode = []
    · apply iff_of_false
      · intro agrees
        obtain ⟨headed, fields⟩ := @placed_reads config kind authMode wepStatus mixCipher
          flexibleCipher has (fun _ => 0)
        have akm := (agrees (fun _ => 0) false).akmSuites
        rw [announced] at headed fields
        have none := (extracts_akm_iff headed fields (by decide) _).mp akm
        exact List.cons_ne_nil _ _ none.symm
      · exact fun all => all.2.1 announced
    · obtain ⟨types, mode⟩ := akmTypes_cases announced
      have short : (pairTypes kind wepStatus flexibleCipher).length < 256 := by
        have paired := @length_pairTypes kind wepStatus flexibleCipher has
        omega
      have reads (behind : Memory) (privacy : Bool) := by
        obtain ⟨headed, fields⟩ := @placed_reads config kind authMode wepStatus mixCipher
          flexibleCipher has behind
        rw [types] at headed fields
        exact @readsBack_iff kind _ _ _ _ _ (beaconType authMode) headed fields short
          ⟨group, pairsOffered kind wepStatus flexibleCipher, akmOffered kind authMode⟩ privacy
      have ciphers := @foundPairs_iff kind _ _ _ listed cases (decide (authMode = .wpaNone))
      rw [← beaconType_eq, decide_eq_true_iff] at ciphers
      constructor
      · intro agrees
        obtain ⟨found, same, _⟩ := (reads (fun _ => 0) false).mp (agrees _ _)
        obtain ⟨some, adhoc⟩ := ciphers.mp same
        rw [found] at adhoc
        exact ⟨has, announced, some, found, adhoc⟩
      · rintro ⟨_, _, some, found, adhoc⟩ behind privacy
        rw [← found] at adhoc
        have type : suiteType group = staGroupType config (groupType wepStatus mixCipher) := by
          rw [← found]
          exact suiteType_groupCipherOf listed
        exact (reads behind privacy).mpr
          ⟨found, ciphers.mpr ⟨some, adhoc⟩, mode, type, meant_types cases some, rfl⟩
  · apply iff_of_false
    · intro agrees
      obtain ⟨place, found, _⟩ := (agrees (fun _ => 0) false).groupSuite
      have short := @makeElement_short config kind authMode wepStatus mixCipher flexibleCipher has
      rw [extract_short _ (by omega)] at found
      simp at found
    · exact fun all => has all.1

end element

/-- The mixed pairwise ciphers that `RTMPMakeRSNIE` goes by: a station has none. -/
def flexibleCipherOf (config : SecurityConfig) : UInt8 :=
  match config.opMode with
  | .ap => config.wpaMixPairCipher
  | .sta => 0

/-- Every element that is made reads back as its part of the configuration. -/
def MadeRsnie.Agrees (config : SecurityConfig) (authMode : AuthMode) (wepStatus : WepStatus)
    (made : MadeRsnie) : Prop :=
  ∀ element ∈ made.primary :: made.secondary.toList,
    element.Agrees ⟨made.groupKeyWepStatus,
      pairsOffered element.kind wepStatus (flexibleCipherOf config),
      akmOffered element.kind authMode⟩ (beaconType authMode)

/-- The configurations whose elements read back: a WPA cipher, of the mixed ones at least one in
each element, and at a station the group cipher that `bMixCipher` stands for. -/
structure AgreesWhen (config : SecurityConfig) (authMode : AuthMode) (wepStatus : WepStatus) :
    Prop where
  real : authMode ≠ .max
  cipher : HasSuites wepStatus
  primary : pairsOffered (primaryRsnie authMode) wepStatus (flexibleCipherOf config) ≠ []
  secondary : config.opMode = .ap → isMixedMode authMode = true →
    pairsOffered .wpa2Ie wepStatus (flexibleCipherOf config) ≠ []
  group : config.opMode = .sta →
    config.groupCipher = .groupWep40Enabled ∨ config.groupCipher = .groupWep104Enabled ∨
      config.groupCipher =
        if wepStatus = .aesEnable ∧ config.mixCipher = false then .aesEnable else .tkipEnable
  adhoc : authMode = .wpaNone → config.groupCipher = wepStatus

section whole
variable {config : SecurityConfig} {authMode : AuthMode} {wepStatus : WepStatus}

/-- The group cipher of an access point is the one it writes. -/
theorem ap_groupCipher (ap : config.opMode = .ap) (has : HasSuites wepStatus) :
    groupCipherOf (staGroupType config (groupType wepStatus false)).toNat .wepDisabled =
      if wepStatus = .tkipAesMix then .tkipEnable else wepStatus := by
  unfold staGroupType
  rw [ap]
  obtain rfl | rfl | rfl := has <;> rfl

/-- The group cipher of a station is the one it writes. -/
theorem sta_groupCipher_iff (sta : config.opMode = .sta) :
    groupCipherOf (staGroupType config (groupType wepStatus config.mixCipher)).toNat .wepDisabled =
        config.groupCipher ↔
      config.groupCipher = .groupWep40Enabled ∨ config.groupCipher = .groupWep104Enabled ∨
        config.groupCipher =
          if wepStatus = .aesEnable ∧ config.mixCipher = false then .aesEnable
          else .tkipEnable := by
  unfold staGroupType groupType
  rw [if_pos sta]
  by_cases plain : wepStatus = .aesEnable ∧ config.mixCipher = false
  · rw [if_pos plain, if_pos plain]
    cases config.groupCipher <;> decide
  · rw [if_neg plain, if_neg plain]
    cases config.groupCipher <;> decide

/-- The mixed ciphers count only for the mixed status. -/
theorem pairsOffered_mixed (kind : IeKind) (flexibleCipher : UInt8) :
    pairsOffered kind wepStatus (if wepStatus = .tkipAesMix then flexibleCipher else 0) =
      pairsOffered kind wepStatus flexibleCipher := by
  cases wepStatus <;> rfl

/-- A primary element has an AKM suite, but for the bound of the enumeration. -/
theorem akmTypes_primary (accepted : acceptsMode config authMode = true) :
    akmTypes (primaryRsnie authMode) authMode ≠ [] ↔ authMode ≠ .max := by
  unfold acceptsMode at accepted
  cases authMode
  case «open» => revert accepted; cases config.opMode <;> simp
  case shared => revert accepted; cases config.opMode <;> simp
  case autoSwitch => revert accepted; cases config.opMode <;> simp
  all_goals decide

theorem akmTypes_secondary (mixed : isMixedMode authMode = true) :
    akmTypes .wpa2Ie authMode ≠ [] := by
  cases authMode <;> first | exact absurd mixed (by decide) | decide

theorem ap_modes (ap : config.opMode = .ap) (accepted : acceptsMode config authMode = true) :
    authMode ≠ .max ∧ authMode ≠ .wpaNone := by
  unfold acceptsMode at accepted
  rw [ap] at accepted
  cases authMode <;> first | decide | exact absurd accepted Bool.false_ne_true

/-- An access point. -/
theorem ap_agrees_iff (ap : config.opMode = .ap) (accepted : acceptsMode config authMode = true) :
    (∀ made ∈ rtmpMakeRsnie config authMode wepStatus, made.Agrees config authMode wepStatus) ↔
      AgreesWhen config authMode wepStatus := by
  obtain ⟨real, infra⟩ := ap_modes ap accepted
  have flexible : flexibleCipherOf config = config.wpaMixPairCipher := by
    unfold flexibleCipherOf
    rw [ap]
  have element (kind : IeKind) := @makeElement_agrees_iff config kind authMode wepStatus false
    (if wepStatus = .tkipAesMix then config.wpaMixPairCipher else 0)
    (if wepStatus = .tkipAesMix then .tkipEnable else wepStatus)
  simp only [pairsOffered_mixed] at element
  unfold rtmpMakeRsnie
  rw [if_pos accepted, ap]
  dsimp only
  simp only [Option.mem_def, Option.some.injEq, forall_eq']
  unfold MadeRsnie.Agrees
  dsimp only
  rw [List.forall_mem_cons, flexible]
  constructor
  · rintro ⟨first, second⟩
    obtain ⟨has, _, some, _⟩ := (element (primaryRsnie authMode)).mp first
    exact {
      real := real
      cipher := has
      primary := by
        rw [flexible]
        exact some
      secondary := by
        intro _ mixed
        rw [if_pos mixed] at second
        rw [flexible]
        exact ((element .wpa2Ie).mp (second _ List.mem_cons_self)).2.2.1
      group := fun sta => absurd (ap.symm.trans sta) (by decide)
      adhoc := fun none => absurd none infra }
  · intro agrees
    have has := agrees.cipher
    have group := ap_groupCipher ap has
    constructor
    · apply (element (primaryRsnie authMode)).mpr
      exact ⟨has, (akmTypes_primary accepted).mpr real, flexible ▸ agrees.primary, group,
        fun _ none => absurd none infra⟩
    · intro made member
      by_cases mixed : isMixedMode authMode = true
      · rw [if_pos mixed, Option.toList_some, List.mem_singleton] at member
        subst member
        apply (element .wpa2Ie).mpr
        exact ⟨has, akmTypes_secondary mixed, flexible ▸ agrees.secondary ap mixed, group,
          fun _ none => absurd none infra⟩
      · rw [if_neg mixed] at member
        exact absurd member List.not_mem_nil

/-- A station. -/
theorem sta_agrees_iff (sta : config.opMode = .sta)
    (accepted : acceptsMode config authMode = true) :
    (∀ made ∈ rtmpMakeRsnie config authMode wepStatus, made.Agrees config authMode wepStatus) ↔
      AgreesWhen config authMode wepStatus := by
  have flexible : flexibleCipherOf config = 0 := by
    unfold flexibleCipherOf
    rw [sta]
  have element := @makeElement_agrees_iff config (primaryRsnie authMode) authMode wepStatus
    config.mixCipher 0 config.groupCipher
  have plain : pairsOffered (primaryRsnie authMode) wepStatus 0 ≠ [] →
      pairsOffered (primaryRsnie authMode) wepStatus 0 = [wepStatus] := by
    intro some
    cases wepStatus
    case tkipAesMix =>
      exfalso
      apply some
      cases primaryRsnie authMode <;> rfl
    all_goals rfl
  unfold rtmpMakeRsnie
  rw [if_pos accepted, sta]
  dsimp only
  simp only [Option.mem_def, Option.some.injEq, forall_eq']
  unfold MadeRsnie.Agrees
  dsimp only
  rw [List.forall_mem_cons, flexible, Option.toList_none,
    and_iff_left (List.forall_mem_nil _)]
  refine element.trans ?_
  rw [akmTypes_primary accepted, sta_groupCipher_iff sta]
  constructor
  · rintro ⟨has, real, some, group, adhoc⟩
    exact {
      real := real
      cipher := has
      primary := by
        rw [flexible]
        exact some
      secondary := fun ap => absurd (sta.symm.trans ap) (by decide)
      group := fun _ => group
      adhoc := by
        intro none
        have within := adhoc (by rw [none]; rfl) none
        rw [plain some] at within
        rcases within with member | two
        · exact List.mem_singleton.mp member
        · exact absurd two (by simp) }
  · intro agrees
    have some := agrees.primary
    rw [flexible] at some
    refine ⟨agrees.cipher, agrees.real, some, agrees.group sta, fun _ none => .inl ?_⟩
    rw [plain some, agrees.adhoc none]
    exact List.mem_singleton_self _

end whole

/-- What `RTMPMakeRSNIE` writes is what both readers find, exactly for these configurations. -/
theorem rtmpMakeRsnie_agrees_iff (config : SecurityConfig) (authMode : AuthMode)
    (wepStatus : WepStatus) :
    (∀ made ∈ rtmpMakeRsnie config authMode wepStatus, made.Agrees config authMode wepStatus) ↔
      (acceptsMode config authMode = true → AgreesWhen config authMode wepStatus) := by
  by_cases accepted : acceptsMode config authMode = true
  · rw [imp_iff_right accepted]
    cases mode : config.opMode with
    | ap => exact ap_agrees_iff mode accepted
    | sta => exact sta_agrees_iff mode accepted
  · apply iff_of_true
    · intro made member
      unfold rtmpMakeRsnie at member
      rw [if_neg accepted] at member
      exact absurd member (by simp)
    · exact fun accepts => absurd accepts accepted

/-- An access point that is set up for WPA2-PSK with WEP. -/
def wepConfig : SecurityConfig where
  opMode := .ap
  wpaMixPairCipher := 0
  bssidUp := true
  preAuth := false
  wpaSupplicantUp := false
  groupCipher := .wepDisabled
  mixCipher := false

/-- The AKM list takes the place of the version, and nothing is found in the element. -/
theorem wepConfig_not_agrees :
    ¬ ∀ made ∈ rtmpMakeRsnie wepConfig .wpa2Psk .wepEnabled,
      made.Agrees wepConfig .wpa2Psk .wepEnabled := by
  intro agrees
  rw [ap_agrees_iff rfl rfl] at agrees
  exact absurd agrees.cipher (by unfold HasSuites; decide)

end Mt7612u.Security
