import Mt7612u.Security.ExtractSuite

/-! What the elements of `RTMPMakeRSNIE` look like, byte by byte, and what the two readers make of
such bytes. -/

namespace Mt7612u.Security
open Receive (Memory OpMode)
open Sta (WepStatus BssType)
open Mlme (lenAt wpaOui rsnOui)

/-- The bytes of an element of one kind up to its AKM list, less its header. -/
def suites (kind : IeKind) (group : UInt8) (pairs : List UInt8) : List UInt8 :=
  (kind.vendorOui ++ le16 1) ++ (kind.suite group ++
    (le16 (UInt8.ofNat pairs.length) ++ pairs.flatMap kind.suite))

/-- All the bytes, less the header. -/
def layout (kind : IeKind) (group : UInt8) (pairs akms capability : List UInt8) : List UInt8 :=
  suites kind group pairs ++ (le16 (UInt8.ofNat akms.length) ++ akms.flatMap kind.suite) ++
    capability

section made
variable (config : SecurityConfig) (kind : IeKind) (authMode : AuthMode)

/-- The types of the pairwise suites that are written. -/
def pairTypes (wepStatus : WepStatus) (flexibleCipher : UInt8) : List UInt8 :=
  match wepStatus with
  | .tkipEnable => [tkip]
  | .tkipAesMix =>
    if tkipOn kind flexibleCipher then
      if aesOn kind flexibleCipher then [tkip, ccmp] else [tkip]
    else [ccmp]
  | _ => [ccmp]

/-- A buffer starts with some bytes, and is zero behind them. -/
structure Filled (ie : Memory) (content : List UInt8) : Prop where
  front : ie.Holds 0 content
  behind : ∀ address, content.length ≤ address → ie address = 0

variable {config kind authMode}

theorem Filled.append {ie : Memory} {content : List UInt8} (filled : Filled ie content)
    (more : List UInt8) : Filled (ie.write content.length more) (content ++ more) where
  front := by
    have behind := Memory.holds_write_behind filled.front more
    rwa [Nat.zero_add] at behind
  behind := by
    intro address past
    rw [List.length_append] at past
    rw [Memory.write_after ie past]
    exact filled.behind address (by omega)

/-- A byte that is zero already. -/
theorem Filled.zero {ie : Memory} {content : List UInt8} (filled : Filled ie content) :
    Filled ie (content ++ [0]) where
  front := by
    apply Memory.holds_append.mpr ⟨filled.front, _⟩
    rw [Nat.zero_add]
    show [ie (content.length + 0)] = [0]
    rw [filled.behind _ (by omega)]
  behind := by
    intro address past
    rw [List.length_append] at past
    exact filled.behind address (by omega)

/-- The buffer when the OUI and the version are written. -/
def started (kind : IeKind) : Memory :=
  Memory.write (Memory.write (fun _ => 0) 0 kind.vendorOui) kind.version (le16 1)

theorem writeSuites_length (group first : UInt8) (second : Option UInt8) (ie : Memory) :
    (writeSuites kind group first second ie).2 =
      (suites kind group (first :: second.toList)).length := by
  cases kind <;> cases second <;> rfl

theorem writeSuites_filled (group first : UInt8) (second : Option UInt8) :
    Filled (writeSuites kind group first second (started kind)).1
      (suites kind group (first :: second.toList)) where
  front := by
    cases kind <;> cases second <;> rfl
  behind := by
    intro address past
    cases kind <;> cases second <;>
      simp only [writeSuites, started, suites, IeKind.suite, IeKind.oui, IeKind.vendorOui,
        IeKind.version, IeKind.size, le16, List.length_append, List.length_cons, List.length_nil,
        List.flatMap_cons, List.flatMap_nil, Option.toList] at past ⊢ <;>
      simp (disch := simp only [List.length_cons, List.length_nil, List.length_append]; omega)
        only [Memory.write_after]

/-- The group suite is replaced. -/
theorem Filled.regroup {ie : Memory} {group : UInt8} {pairs : List UInt8}
    (filled : Filled ie (suites kind group pairs)) (type : UInt8) :
    Filled (ie.write (kind.version + 2) (kind.suite type)) (suites kind type pairs) where
  front := by
    obtain ⟨front, rest⟩ := Memory.holds_append.mp filled.front
    obtain ⟨_, back⟩ := Memory.holds_append.mp rest
    have place : 0 + (kind.vendorOui ++ le16 1).length = kind.version + 2 := by
      cases kind <;> rfl
    have size : (kind.suite group).length = 4 := by
      cases kind <;> rfl
    have size' : (kind.suite type).length = 4 := by
      cases kind <;> rfl
    apply Memory.holds_append.mpr ⟨Memory.holds_write_apart front (by omega), _⟩
    rw [place]
    rw [place, size, ← size'] at back
    exact Memory.holds_write _ back
  behind := by
    intro address past
    have same : (suites kind type pairs).length = (suites kind group pairs).length := by
      cases kind <;> rfl
    have reach : kind.version + 2 + (kind.suite type).length ≤ (suites kind type pairs).length := by
      unfold suites
      cases kind <;> simp [IeKind.version, IeKind.vendorOui, IeKind.suite, IeKind.oui, le16]
    rw [Memory.write_after ie (by omega)]
    exact filled.behind address (by omega)

/-- The type of the group suite that a station puts there. -/
def staGroupType (config : SecurityConfig) (type : UInt8) : UInt8 :=
  if config.opMode = .sta then
    match config.groupCipher with
    | .groupWep40Enabled => wep40
    | .groupWep104Enabled => wep104
    | _ => type
  else type

theorem writeStaGroup_filled {ie : Memory} {group : UInt8} {pairs : List UInt8}
    (filled : Filled ie (suites kind group pairs)) :
    Filled (writeStaGroup config kind ie) (suites kind (staGroupType config group) pairs) := by
  unfold writeStaGroup staGroupType
  split_ifs
  · cases config.groupCipher
    case groupWep40Enabled => exact filled.regroup wep40
    case groupWep104Enabled => exact filled.regroup wep104
    all_goals exact filled
  · exact filled

/-- The types of the AKM suites: one or none. -/
def akmTypes (kind : IeKind) (authMode : AuthMode) : List UInt8 := (akmType kind authMode).toList

/-- A field and the two bytes in front of it, which are written last. -/
theorem Filled.counted {ie : Memory} {content : List UInt8} (filled : Filled ie content)
    (count : UInt8) (list : List UInt8) :
    Filled ((ie.write (content.length + 2) list).write content.length (le16 count))
      (content ++ (le16 count ++ list)) where
  front := by
    have stored : (ie.write (content.length + 2) list).Holds
        (content.length + (le16 count).length) list :=
      ie.write_holds _ list
    apply Memory.holds_append.mpr
    rw [Nat.zero_add]
    constructor
    · exact Memory.holds_write_apart (Memory.holds_write_apart filled.front (by omega)) (by omega)
    · exact Memory.holds_write _ stored
  behind := by
    intro address past
    have size : (le16 count).length = 2 := rfl
    rw [List.length_append, List.length_append, size] at past
    rw [Memory.write_after _ (by omega), Memory.write_after _ (by omega)]
    exact filled.behind address (by omega)

theorem rtmpMakeRsnIeAkm_filled {ie : Memory} {content : List UInt8} (filled : Filled ie content) :
    Filled (rtmpMakeRsnIeAkm kind authMode (ie, content.length)).1
      (content ++ (le16 (UInt8.ofNat (akmTypes kind authMode).length) ++
        (akmTypes kind authMode).flatMap kind.suite)) := by
  unfold rtmpMakeRsnIeAkm akmTypes
  cases akmType kind authMode with
  | none => exact filled.append (le16 0)
  | some type =>
    have list : [type].flatMap kind.suite = kind.suite type := List.append_nil _
    dsimp only [Option.toList]
    rw [list]
    exact filled.counted 1 (kind.suite type)

theorem rtmpMakeRsnIeAkm_length (ie : Memory) (rsnLen : Nat) :
    (rtmpMakeRsnIeAkm kind authMode (ie, rsnLen)).2 =
      rsnLen + (le16 (UInt8.ofNat (akmTypes kind authMode).length) ++
        (akmTypes kind authMode).flatMap kind.suite).length := by
  unfold rtmpMakeRsnIeAkm akmTypes
  cases akmType kind authMode with
  | none => rfl
  | some type => cases kind <;> rfl

/-- The capability field that is written. -/
def capability (config : SecurityConfig) : IeKind → List UInt8
  | .wpaIe => []
  | .wpa2Ie => le16 (if config.opMode = .ap ∧ config.bssidUp ∧ config.preAuth then 1 else 0)

theorem rtmpMakeRsnIeCap_filled {ie : Memory} {content : List UInt8} (filled : Filled ie content) :
    Filled (rtmpMakeRsnIeCap config kind (ie, content.length)).1
      (content ++ capability config kind) := by
  cases kind with
  | wpaIe =>
    rw [capability, List.append_nil]
    exact filled
  | wpa2Ie =>
    unfold rtmpMakeRsnIeCap capability
    dsimp only
    have clear : ie content.length &&& 0xfe = 0 := by
      rw [filled.behind _ le_rfl]
      rfl
    by_cases up : config.opMode = .ap ∧ config.bssidUp
    · rw [if_pos up, clear]
      have written := (filled.append [if config.preAuth then 0 ||| 1 else 0]).zero
      rw [List.append_assoc] at written
      have field : (if config.opMode = .ap ∧ config.bssidUp ∧ config.preAuth then (1 : UInt8)
          else 0) = if config.preAuth then 0 ||| 1 else 0 := by
        rw [up.1, up.2]
        simp
      rw [field]
      exact written
    · have absent : ¬ (config.opMode = .ap ∧ config.bssidUp ∧ config.preAuth) :=
        fun all => up ⟨all.1, all.2.1⟩
      rw [if_neg up, if_neg absent]
      have zeros := filled.zero.zero
      rw [List.append_assoc] at zeros
      exact zeros

theorem rtmpMakeRsnIeCap_length (ie : Memory) (rsnLen : Nat) :
    (rtmpMakeRsnIeCap config kind (ie, rsnLen)).2 = rsnLen + (capability config kind).length := by
  cases kind with
  | wpaIe => rfl
  | wpa2Ie =>
    unfold rtmpMakeRsnIeCap
    dsimp only
    split_ifs <;> rfl

/-- The statuses that name one or both of the pairwise ciphers. -/
def HasSuites (wepStatus : WepStatus) : Prop :=
  wepStatus = .tkipEnable ∨ wepStatus = .aesEnable ∨ wepStatus = .tkipAesMix

/-- The type of the group suite that is written first. -/
def groupType (wepStatus : WepStatus) (mixCipher : Bool) : UInt8 :=
  if wepStatus = .aesEnable ∧ mixCipher = false then ccmp else tkip

variable {wepStatus : WepStatus}

/-- `RTMPMakeRsnIeCipher` for such a status: one set of suites, and the group suite of the station
over it. -/
theorem rtmpMakeRsnIeCipher_eq (mixCipher : Bool) (flexibleCipher : UInt8)
    (has : HasSuites wepStatus) :
    ∃ first second, first :: second.toList = pairTypes kind wepStatus flexibleCipher ∧
      rtmpMakeRsnIeCipher config kind wepStatus mixCipher flexibleCipher (fun _ => 0) =
        (writeStaGroup config kind
          (writeSuites kind (groupType wepStatus mixCipher) first second (started kind)).1,
        (writeSuites kind (groupType wepStatus mixCipher) first second (started kind)).2) := by
  obtain rfl | rfl | rfl := has
  · exact ⟨tkip, none, rfl, rfl⟩
  · cases mixCipher with
    | false => exact ⟨ccmp, none, rfl, rfl⟩
    | true => exact ⟨ccmp, none, rfl, rfl⟩
  · unfold rtmpMakeRsnIeCipher pairTypes
    dsimp only
    by_cases first : tkipOn kind flexibleCipher = true
    · rw [if_pos first, if_pos first]
      by_cases second : aesOn kind flexibleCipher = true
      · rw [if_pos second, if_pos second]
        exact ⟨tkip, some ccmp, rfl, rfl⟩
      · rw [if_neg second, if_neg second]
        exact ⟨tkip, none, rfl, rfl⟩
    · rw [if_neg first, if_neg first]
      exact ⟨ccmp, none, rfl, rfl⟩

/-- One element, laid out. -/
theorem makeElement_laid (mixCipher : Bool) (flexibleCipher : UInt8) (has : HasSuites wepStatus) :
    (makeElement config kind authMode wepStatus mixCipher flexibleCipher).content.bytes 0
        (makeElement config kind authMode wepStatus mixCipher flexibleCipher).length =
      layout kind (staGroupType config (groupType wepStatus mixCipher))
        (pairTypes kind wepStatus flexibleCipher) (akmTypes kind authMode)
        (capability config kind) := by
  obtain ⟨first, second, pairs, cipher⟩ := @rtmpMakeRsnIeCipher_eq config kind wepStatus mixCipher
    flexibleCipher has
  have size (group group' : UInt8) (types : List UInt8) :
      (suites kind group types).length = (suites kind group' types).length := by
    cases kind <;> rfl
  have written := @writeStaGroup_filled config kind _ _ _
    (@writeSuites_filled kind (groupType wepStatus mixCipher) first second)
  unfold makeElement
  dsimp only
  rw [cipher, writeSuites_length, size _ (staGroupType config (groupType wepStatus mixCipher)),
    pairs]
  rw [pairs] at written
  have listed := @rtmpMakeRsnIeAkm_filled kind authMode _ _ written
  have capped := @rtmpMakeRsnIeCap_filled config kind _ _ listed
  rw [List.length_append, ← rtmpMakeRsnIeAkm_length] at capped
  have length := @rtmpMakeRsnIeCap_length config kind
  rw [length, rtmpMakeRsnIeAkm_length, ← List.length_append, ← List.length_append]
  exact capped.front

end made

end Mt7612u.Security
