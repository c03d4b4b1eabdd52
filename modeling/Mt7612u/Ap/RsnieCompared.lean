import Mt7612u.Ap.ValidateRsnie

/-! What `APValidateRSNIE` is for: the station's element and the one the BSS announces have a group
suite, a pairwise suite and an AKM suite in common. And what its checkers make of the element of the
BSS, of the kind of the station's or of the other. -/

namespace Mt7612u.Ap
open Receive (Memory Span)
open Security
open Sta (WepStatus maxLenOfRsnie)
open Mlme (lenAt)

/-- An element with the place of its first octet and that of its end. -/
structure Element where
  mem : Memory
  octet : Nat
  stop : Nat

namespace Element
variable (e : Element) (kind : IeKind)

def pairAt (i : Nat) : Nat := e.octet + kind.version + 8 + 4 * i
def pairCount : Nat := countAt e.mem (e.octet + kind.version + 6)
def akmCountAt : Nat := e.octet + kind.version + 8 + 4 * e.pairCount kind
def akmAt (j : Nat) : Nat := e.akmCountAt kind + 2 + 4 * j
def akmCount : Nat := countAt e.mem (e.akmCountAt kind)

/-- The lists of an element end where it does, whatever its counts say. -/
def HasGroup (suite : List UInt8) : Prop :=
  e.octet + kind.version + 6 ≤ e.stop ∧ suiteAt e.mem (e.octet + kind.version + 2) = suite

def ListsPair (suite : List UInt8) : Prop :=
  ∃ i < e.pairCount kind, e.pairAt kind i + 4 ≤ e.stop ∧ suiteAt e.mem (e.pairAt kind i) = suite

def ListsAkm (suite : List UInt8) : Prop :=
  ∃ j < e.akmCount kind, e.akmAt kind j + 4 ≤ e.stop ∧ suiteAt e.mem (e.akmAt kind j) = suite

end Element

/-- The element of the station. -/
def stationElement (mem : Memory) : Element := ⟨mem, 2, 2 + lenAt mem 0⟩

/-- The element of one kind that was made for the BSS, if there is one. -/
def ownElement (made : MadeRsnie) (kind : IeKind) : Option Element :=
  ((made.primary :: made.secondary.toList).find? fun own => own.kind = kind).map fun own =>
    ⟨own.content, 0, own.length⟩

/-- What the element and the BSS have to have in common. -/
structure Admits (made : MadeRsnie) (mem : Memory) (kind : IeKind) (own : Element) : Prop where
  made : ownElement made kind = some own
  group : ∃ suite, (stationElement mem).HasGroup kind suite ∧ own.HasGroup kind suite
  pair : ∃ suite, (stationElement mem).ListsPair kind suite ∧ own.ListsPair kind suite
  akm : ∃ suite, (stationElement mem).ListsAkm kind suite ∧ own.ListsAkm kind suite

/-- An entry has a mode and a cipher that both elements list. -/
structure Chosen (mem : Memory) (kind : IeKind) (own : Element) (entry : EntrySecurity) :
    Prop where
  single : isMixedMode entry.authMode = false
  mode : ∃ type, akmType kind entry.authMode = some type ∧
    (stationElement mem).ListsAkm kind (kind.suite type) ∧ own.ListsAkm kind (kind.suite type)
  status : entry.wepStatus = .tkipEnable ∨ entry.wepStatus = .aesEnable
  cipher : (stationElement mem).ListsPair kind (kind.suite (suiteType entry.wepStatus)) ∧
    own.ListsPair kind (kind.suite (suiteType entry.wepStatus))

/-- The end of what may be read: of the element, and of the `RSN_IE` it is compared with. -/
def readLimit (mem : Memory) : RsnSide → Nat
  | .station => 2 + lenAt mem 0
  | .bss => maxLenOfRsnie

def Within (limit : RsnSide → Nat) (reads : List RsnRead) : Prop :=
  ∀ read ∈ reads, read.span.start + read.span.count ≤ limit read.side

/-- Whatever the entry was: only the element's own bytes and those of the BSS are read, exactly the
elements that are admitted are accepted, and the entry becomes what both list. -/
structure Decides (made : MadeRsnie) (mem : Memory) (kind : IeKind)
    (out : RsnValidated) : Prop where
  reads : Within (readLimit mem) out.reads
  accepts : out.status = .success ↔ ∃ own, Admits made mem kind own
  chosen : out.status = .success → ∃ own, ownElement made kind = some own ∧
    Chosen mem kind own out.entry

/-- The `RSN_IE` of the BSS were made by `RTMPMakeRSNIE` for its configuration. -/
structure Announces (config : SecurityConfig) (bss : RsnBss) (made : MadeRsnie) : Prop where
  ap : config.opMode = .ap
  mixPair : config.wpaMixPairCipher = bss.wpaMixPairCipher
  makes : rtmpMakeRsnie config bss.authMode bss.wepStatus = some made
  primary : ∀ address < maxLenOfRsnie, bss.rsnIe false address = made.primary.content address
  secondary : ∀ element, made.secondary = some element →
    ∀ address < maxLenOfRsnie, bss.rsnIe true address = element.content address

/-- The BSS announces an element of this kind. -/
def announcesKind (authMode : AuthMode) (kind : IeKind) : Bool :=
  isMixedMode authMode || primaryRsnie authMode == kind

/-- The suites of the BSS that the pairwise suites of the element are compared with. -/
def comparedPairs (bss : RsnBss) (kind : IeKind) : List (List UInt8) :=
  suiteAt (bss.element kind) (kind.version + 8) ::
    if bss.wepStatus = .tkipAesMix ∧ tkipOn kind bss.wpaMixPairCipher ∧
        aesOn kind bss.wpaMixPairCipher then
      [suiteAt (bss.element kind) (kind.version + 12)]
    else []

/-- The group suite is the one it is compared with, and the length enough for the other checks. -/
def GroupPasses (bss : RsnBss) (mem : Memory) (kind : IeKind) : Prop :=
  16 ≤ lenAt mem 0 ∧ suiteAt mem (2 + kind.version + 2) =
    suiteAt (bss.element kind) (kind.version + 2)

/-- The lists go on inside the element until a suite matches, and an element of a kind that the BSS
does not announce does not come as far as to its AKM suites. -/
structure ListsFit (bss : RsnBss) (mem : Memory) (kind : IeKind) : Prop where
  group : 6 ≤ lenAt mem 0 → kind.version + 6 ≤ lenAt mem 0
  pairs : GroupPasses bss mem kind → ∀ i < (stationElement mem).pairCount kind,
    (∀ i' < i, suiteAt mem ((stationElement mem).pairAt kind i') ∉ comparedPairs bss kind) →
      (stationElement mem).pairAt kind i + 4 ≤ 2 + lenAt mem 0
  akms : GroupPasses bss mem kind →
    (∃ i < (stationElement mem).pairCount kind,
      suiteAt mem ((stationElement mem).pairAt kind i) ∈ comparedPairs bss kind) →
    (stationElement mem).akmCountAt kind + 2 ≤ 2 + lenAt mem 0 ∧
      (HasSuites bss.wepStatus → ∀ j < (stationElement mem).akmCount kind,
        (∀ j' < j, ∀ type, akmType kind bss.authMode = some type →
          suiteAt mem ((stationElement mem).akmAt kind j') ≠ kind.suite type) →
        announcesKind bss.authMode kind = true ∧
          (stationElement mem).akmAt kind j + 4 ≤ 2 + lenAt mem 0)

/-- The length of the element with its header fits `rsnie_len`, or it is one to be refused. -/
structure RsnFits (bss : RsnBss) (made : MadeRsnie) (mem : Memory) (kind : IeKind) : Prop where
  wraps : lenAt mem 0 ≠ 254
  refused : lenAt mem 0 = 255 → ∀ own, ¬ Admits made mem kind own
  lists : lenAt mem 0 < 254 → ListsFit bss mem kind

section search
variable {α : Type} {compare : Nat → SuiteSearch α}

theorem within_nil (limit : RsnSide → Nat) : Within limit [] := nofun

theorem within_cons {limit : RsnSide → Nat} {read : RsnRead} {reads : List RsnRead} :
    Within limit (read :: reads) ↔
      read.span.start + read.span.count ≤ limit read.side ∧ Within limit reads :=
  List.forall_mem_cons

theorem within_append {limit : RsnSide → Nat} {first second : List RsnRead} :
    Within limit (first ++ second) ↔ Within limit first ∧ Within limit second :=
  List.forall_mem_append

/-- Statements about the places of a list, split at the first. -/
theorem forall_place (holds : Nat → Prop) {place count : Nat} :
    (∀ i < count + 1, holds (place + 4 * i)) ↔
      holds place ∧ ∀ i < count, holds (place + 4 + 4 * i) := by
  constructor
  · intro all
    constructor
    · exact all 0 (Nat.succ_pos count)
    · intro i below
      have next := all (i + 1) (by omega)
      have same : place + 4 * (i + 1) = place + 4 + 4 * i := by omega
      rwa [same] at next
  · rintro ⟨first, rest⟩ i below
    cases i with
    | zero => exact first
    | succ i =>
      have same : place + 4 * (i + 1) = place + 4 + 4 * i := by omega
      rw [same]
      exact rest i (by omega)

theorem searchSuites_none_iff {place count : Nat} :
    (searchSuites compare place count).found = none ↔
      ∀ i < count, (compare (place + 4 * i)).found = none := by
  induction count generalizing place with
  | zero =>
    apply iff_of_true rfl
    intro i below
    exact absurd below (Nat.not_lt_zero i)
  | succ count ih =>
    rw [forall_place fun place => (compare place).found = none, ← ih, searchSuites]
    dsimp only
    cases first : (compare place).found with
    | none =>
      dsimp only
      rw [eq_self, true_and]
    | some found =>
      dsimp only
      rw [first]
      simp

/-- The suite that is found is the first that matches. -/
theorem searchSuites_some {place count : Nat} {found : α}
    (search : (searchSuites compare place count).found = some found) :
    ∃ i < count, (compare (place + 4 * i)).found = some found ∧
      ∀ i' < i, (compare (place + 4 * i')).found = none := by
  induction count generalizing place with
  | zero => cases search
  | succ count ih =>
    rw [searchSuites] at search
    dsimp only at search
    cases first : (compare place).found with
    | some other =>
      rw [first] at search
      dsimp only at search
      exact ⟨0, Nat.succ_pos count, search, fun i' below => absurd below (Nat.not_lt_zero i')⟩
    | none =>
      rw [first] at search
      dsimp only at search
      obtain ⟨i, below, here, before⟩ := ih search
      have same : place + 4 * (i + 1) = place + 4 + 4 * i := by omega
      refine ⟨i + 1, by omega, by rw [same]; exact here, ?_⟩
      exact (forall_place fun place => (compare place).found = none).mpr ⟨first, before⟩

/-- The suites up to the first that matches are read. -/
theorem within_searchSuites {limit : RsnSide → Nat} {place count : Nat} :
    Within limit (searchSuites compare place count).reads ↔
      ∀ i < count, (∀ i' < i, (compare (place + 4 * i')).found = none) →
        Within limit (compare (place + 4 * i)).reads := by
  induction count generalizing place with
  | zero =>
    apply iff_of_true (within_nil limit)
    intro i below
    exact absurd below (Nat.not_lt_zero i)
  | succ count ih =>
    rw [searchSuites]
    dsimp only
    cases first : (compare place).found with
    | some found =>
      dsimp only
      constructor
      · intro within i below before
        cases i with
        | zero => exact within
        | succ i =>
          have none := before 0 (Nat.succ_pos i)
          rw [Nat.mul_zero, Nat.add_zero, first] at none
          cases none
      · intro all
        exact all 0 (Nat.succ_pos count) fun i' below => absurd below (Nat.not_lt_zero i')
    | none =>
      dsimp only
      rw [within_append, ih]
      constructor
      · rintro ⟨within, rest⟩ i below before
        cases i with
        | zero => exact within
        | succ i =>
          have same : place + 4 * (i + 1) = place + 4 + 4 * i := by omega
          rw [same]
          exact rest i (by omega)
            ((forall_place fun place => (compare place).found = none).mp before).2
      · intro all
        constructor
        · exact all 0 (Nat.succ_pos count) fun i' below => absurd below (Nat.not_lt_zero i')
        · intro i below before
          have same : place + 4 * (i + 1) = place + 4 + 4 * i := by omega
          have within := all (i + 1) (by omega)
            ((forall_place fun place => (compare place).found = none).mpr ⟨first, before⟩)
          rwa [same] at within

end search

section own
variable {config : SecurityConfig} {bss : RsnBss} {made : MadeRsnie} {mem : Memory}
  {kind kind' : IeKind}

/-- The mixed pairwise ciphers of an access point. -/
def apFlexible (config : SecurityConfig) (wepStatus : WepStatus) : UInt8 :=
  if wepStatus = .tkipAesMix then config.wpaMixPairCipher else 0

/-- One element of an access point. -/
def apElement (config : SecurityConfig) (bss : RsnBss) (kind : IeKind) : MadeIe :=
  makeElement config kind bss.authMode bss.wepStatus false (apFlexible config bss.wepStatus)

/-- The whole element. -/
def apOwn (config : SecurityConfig) (bss : RsnBss) (kind : IeKind) : Element :=
  ⟨(apElement config bss kind).content, 0, (apElement config bss kind).length⟩

/-- What an element of the station is compared with: the element of its own kind, or else the other
one, with an AKM suite in any case. -/
structure ComparedWith (config : SecurityConfig) (bss : RsnBss) (made : MadeRsnie)
    (kind kind' : IeKind) : Prop where
  announced : announcesKind bss.authMode kind = true ↔ kind' = kind
  akm : ∃ type, akmType kind' bss.authMode = some type
  same : ∀ address < maxLenOfRsnie,
    bss.element kind address = (apElement config bss kind').content address
  own : kind' = kind → ownElement made kind =
    some (apOwn config bss kind)
  other : kind' ≠ kind → ownElement made kind = none

theorem akmType_of_akmTypes {authMode : AuthMode} (some : akmTypes kind authMode ≠ []) :
    ∃ type, akmType kind authMode = Option.some type := by
  unfold akmTypes at some
  cases listed : akmType kind authMode with
  | none =>
    rw [listed] at some
    exact absurd rfl some
  | some type => exact ⟨type, rfl⟩

theorem made_elements (announces : Announces config bss made) :
    made.primary = apElement config bss (primaryRsnie bss.authMode) ∧
      made.secondary = if isMixedMode bss.authMode then some (apElement config bss .wpa2Ie)
        else none := by
  have makes := announces.makes
  unfold rtmpMakeRsnie at makes
  cases accepted : acceptsMode config bss.authMode with
  | false =>
    rw [accepted, if_neg Bool.false_ne_true] at makes
    cases makes
  | true =>
    rw [accepted, if_pos rfl, announces.ap] at makes
    rw [← Option.some.inj makes]
    exact ⟨rfl, rfl⟩

theorem accepts_mode (announces : Announces config bss made) :
    acceptsMode config bss.authMode = true := by
  have makes := announces.makes
  unfold rtmpMakeRsnie at makes
  by_contra refused
  rw [if_neg refused] at makes
  cases makes

theorem primaryRsnie_mixed {authMode : AuthMode} (mixed : isMixedMode authMode = true) :
    primaryRsnie authMode = .wpaIe := by
  cases authMode <;> first | rfl | exact absurd mixed (by decide)

theorem comparedWith (announces : Announces config bss made) (kind : IeKind) :
    ∃ kind', ComparedWith config bss made kind kind' := by
  obtain ⟨primary, secondary⟩ := made_elements announces
  have accepted := accepts_mode announces
  have listed := akmType_of_akmTypes
    ((akmTypes_primary accepted).mpr (ap_modes announces.ap accepted).1)
  have first := announces.primary
  rw [primary] at first
  cases mixed : isMixedMode bss.authMode with
  | true =>
    have second := announces.secondary
    rw [mixed, if_pos rfl] at secondary
    have wpa := primaryRsnie_mixed mixed
    rw [wpa] at primary listed first
    use kind
    exact {
      announced := by
        unfold announcesKind
        rw [mixed, Bool.true_or]
        simp
      akm := by
        cases kind with
        | wpaIe => exact listed
        | wpa2Ie => exact akmType_of_akmTypes (akmTypes_secondary mixed)
      same := by
        cases kind with
        | wpaIe => exact first
        | wpa2Ie =>
          unfold RsnBss.element
          rw [mixed]
          exact second _ secondary
      own := by
        intro _
        unfold ownElement
        rw [primary, secondary]
        cases kind <;> rfl
      other := fun differs => absurd rfl differs }
  | false =>
    rw [mixed, if_neg Bool.false_ne_true] at secondary
    use primaryRsnie bss.authMode
    exact {
      announced := by
        unfold announcesKind
        rw [mixed, Bool.false_or, beq_iff_eq]
      akm := listed
      same := by
        cases kind with
        | wpaIe => exact first
        | wpa2Ie =>
          unfold RsnBss.element
          rw [mixed]
          exact first
      own := by
        intro same
        unfold ownElement
        rw [primary, secondary, same]
        cases kind <;> rfl
      other := by
        intro differs
        unfold ownElement
        rw [primary, secondary, Option.map_eq_none_iff, List.find?_eq_none]
        intro own member
        rw [Option.toList_none, List.mem_singleton] at member
        rw [member, decide_eq_true_iff]
        exact differs }

theorem holds_of_same {mem' : Memory} {data : List UInt8} (holds : mem.Holds 0 data)
    (short : data.length ≤ maxLenOfRsnie) (same : ∀ address < maxLenOfRsnie,
      mem' address = mem address) : mem'.Holds 0 data := by
  apply Eq.trans _ holds
  apply List.map_congr_left
  intro i member
  have inside := List.mem_range.mp member
  exact same _ (by omega)

theorem length_capability (config : SecurityConfig) (kind : IeKind) :
    (capability config kind).length ≤ 2 := by
  cases kind with
  | wpaIe => exact Nat.zero_le 2
  | wpa2Ie => exact le_rfl

/-- The length of an element with suites, and its fields. -/
theorem apElement_fields (has : HasSuites bss.wepStatus) {type : UInt8}
    (akm : akmType kind bss.authMode = some type)
    (same : ∀ address < maxLenOfRsnie, mem address = (apElement config bss kind).content address) :
    Fields mem 0 kind (staGroupType config (groupType bss.wepStatus false))
        (pairTypes kind bss.wepStatus (apFlexible config bss.wepStatus)) [type] ∧
      kind.version + 14 + 4 * (pairTypes kind bss.wepStatus
        (apFlexible config bss.wepStatus)).length ≤ (apElement config bss kind).length ∧
      (pairTypes kind bss.wepStatus (apFlexible config bss.wepStatus)).length ≤ 2 := by
  have laid := @makeElement_laid config kind bss.authMode bss.wepStatus false
    (apFlexible config bss.wepStatus) has
  have paired := @length_pairTypes kind bss.wepStatus (apFlexible config bss.wepStatus) has
  have small := length_capability config kind
  have version : kind.version ≤ 4 := by
    cases kind <;> decide
  have types : akmTypes kind bss.authMode = [type] := by
    unfold akmTypes
    rw [akm]
    rfl
  rw [types] at laid
  have length := congrArg List.length laid
  rw [Memory.length_bytes, length_layout, List.length_singleton] at length
  have limit : maxLenOfRsnie = 255 := rfl
  have held : (apElement config bss kind).content.Holds 0 (layout kind
      (staGroupType config (groupType bss.wepStatus false))
      (pairTypes kind bss.wepStatus (apFlexible config bss.wepStatus)) [type]
      (capability config kind)) := by
    rw [← laid]
    unfold Memory.Holds
    rw [Memory.length_bytes]
    rfl
  have short := (length_layout (staGroupType config (groupType bss.wepStatus false))
    (pairTypes kind bss.wepStatus (apFlexible config bss.wepStatus)) [type]
    (capability config kind) : (layout kind _ _ _ _).length = _)
  rw [List.length_singleton] at short
  have whole := holds_of_same held (by omega) same
  refine ⟨fields_of_layout (by omega) (by simp) whole, ?_, paired.2⟩
  unfold apElement
  omega

theorem suiteAt_of_holds {place : Nat} {type : UInt8} (holds : mem.Holds place (kind.suite type)) :
    suiteAt mem place = kind.suite type := by
  cases kind <;> exact holds

theorem suiteAt_flatMap {place : Nat} {types : List UInt8}
    (holds : mem.Holds place (types.flatMap kind.suite)) {i : Nat} (below : i < types.length) :
    suiteAt mem (place + 4 * i) = kind.suite types[i] := by
  induction types generalizing place i with
  | nil => exact absurd below (Nat.not_lt_zero i)
  | cons type types ih =>
    obtain ⟨first, rest⟩ := suite_cons holds
    cases i with
    | zero => exact suiteAt_of_holds first
    | succ i =>
      have same : place + 4 * (i + 1) = place + 4 + 4 * i := by omega
      rw [same]
      exact ih rest (Nat.lt_of_succ_lt_succ below)

/-- The buffer when an AKM list is written at its start, over the version. -/
def bareAkm (kind : IeKind) (type : UInt8) : Memory :=
  ((started kind).write 2 (kind.suite type)).write 0 (le16 1)

theorem bareAkm_filled (kind : IeKind) (type : UInt8) :
    Filled (bareAkm kind type) (le16 1 ++ kind.suite type) where
  front := by
    cases kind <;> rfl
  behind := by
    intro address past
    cases kind <;>
      simp only [bareAkm, started, IeKind.suite, IeKind.oui, IeKind.vendorOui, IeKind.version,
        le16, List.length_append, List.length_cons, List.length_nil] at past ⊢ <;>
      simp (disch := simp only [List.length_cons, List.length_nil, List.length_append]; omega)
        only [Memory.write_after]

/-- The element of a status without suites is short, and zero behind its capability field. -/
theorem apElement_bare (announces : Announces config bss made) (lacks : ¬ HasSuites bss.wepStatus)
    {type : UInt8} (akm : akmType kind bss.authMode = some type)
    (same : ∀ address < maxLenOfRsnie, mem address = (apElement config bss kind).content address) :
    (apElement config bss kind).length ≤ 8 ∧ countAt mem 6 ≤ 1 ∧
      ∀ address < maxLenOfRsnie, 8 ≤ address → mem address = 0 := by
  have cipher : rtmpMakeRsnIeCipher config kind bss.wepStatus false
      (apFlexible config bss.wepStatus) (fun _ => 0) = (started kind, 0) := by
    have kept : writeStaGroup config kind (started kind) = started kind := by
      unfold writeStaGroup
      rw [announces.ap]
      exact if_neg (by decide)
    unfold rtmpMakeRsnIeCipher
    cases status : bss.wepStatus
    case tkipEnable => exact absurd (.inl status) lacks
    case aesEnable => exact absurd (.inr (.inl status)) lacks
    case tkipAesMix => exact absurd (.inr (.inr status)) lacks
    all_goals exact congrArg (·, 0) kept
  have listed : rtmpMakeRsnIeAkm kind bss.authMode (started kind, 0) =
      (bareAkm kind type, 6) := by
    unfold rtmpMakeRsnIeAkm
    rw [akm]
    rfl
  have six : (le16 1 ++ kind.suite type).length = 6 := by
    cases kind <;> rfl
  have small := length_capability config kind
  have element : apElement config bss kind =
      ⟨kind, (rtmpMakeRsnIeCap config kind (bareAkm kind type, 6)).1,
        (rtmpMakeRsnIeCap config kind (bareAkm kind type, 6)).2⟩ := by
    unfold apElement makeElement
    rw [cipher, listed]
  have capped := @rtmpMakeRsnIeCap_filled config kind _ _ (bareAkm_filled kind type)
  rw [six] at capped
  rw [element] at same ⊢
  dsimp only at same ⊢
  constructor
  · rw [rtmpMakeRsnIeCap_length]
    omega
  · have zero (address : Nat) (inside : address < maxLenOfRsnie)
        (past : 6 + (capability config kind).length ≤ address) : mem address = 0 := by
      rw [same address inside]
      apply capped.behind
      rw [List.length_append, six]
      exact past
    constructor
    · have limit : maxLenOfRsnie = 255 := rfl
      cases kind with
      | wpaIe =>
        unfold countAt
        rw [zero 6 (by omega) le_rfl, zero 7 (by omega) (Nat.le_succ 6)]
        decide
      | wpa2Ie =>
        have front := (Memory.holds_append.mp capped.front).2
        rw [six, Nat.zero_add] at front
        have count := countAt_le16 front
        have moved : countAt mem 6 = countAt _ 6 :=
          congrArg₂ (fun high low : UInt8 => high.toNat * 256 + low.toNat)
            (same 7 (by omega)) (same 6 (by omega))
        rw [moved, count]
        split_ifs <;> decide
    · intro address inside past
      exact zero address inside (by omega)

theorem searchSuites_one {α : Type} (compare : Nat → SuiteSearch α) (place : Nat) :
    searchSuites compare place 1 = compare place := by
  unfold searchSuites
  dsimp only
  cases first : compare place with
  | mk found reads =>
    cases found with
    | some found => rfl
    | none =>
      dsimp only [searchSuites]
      rw [List.append_nil]

/-- An AKM suite beside that of a BSS with an element of the kind. -/
theorem akm_announced {group type : UInt8} {pairs : List UInt8}
    (fields : Fields (bss.element kind) 0 kind group pairs [type]) (few : pairs.length ≤ 2)
    (place : Nat) :
    (Within (readLimit mem) (rtmpCheckAkm bss mem kind place).reads ↔
        place + 4 ≤ 2 + lenAt mem 0) ∧
      ((rtmpCheckAkm bss mem kind place).found = none ↔
        suiteAt mem place ≠ kind.suite type) := by
  have version : kind.version ≤ 4 := by
    cases kind <;> decide
  have pairCount := fields.pairCount
  have akmCount := fields.akmCount
  have akmList := suiteAt_of_holds (suite_cons fields.akmList).1
  rw [Nat.zero_add] at pairCount akmCount akmList
  have atAkm : kind.version + 6 + 2 + 4 * pairs.length = kind.version + 8 + 4 * pairs.length := by
    omega
  have atList : kind.version + 8 + 4 * pairs.length + 2 =
      kind.version + 10 + 4 * pairs.length := by omega
  unfold rtmpCheckAkm
  dsimp only
  rw [pairCount, atAkm, akmCount, List.length_singleton, searchSuites_one, atList, akmList]
  have limit : maxLenOfRsnie = 255 := rfl
  constructor
  · simp only [within_cons, readLimit, within_nil, and_true]
    omega
  · by_cases same : suiteAt mem place = kind.suite type
    · simp [same]
    · simp [same]

theorem byte_of_suite {place : Nat} {type : UInt8} (holds : mem.Holds place (kind.suite type)) :
    mem (place + 1) = kind.oui.getD 1 0 ∧ mem (place + 2) = kind.oui.getD 2 0 := by
  cases kind
  all_goals
    have first := holds_cons.mp holds
    have second := holds_cons.mp first.2
    exact ⟨second.1, (holds_cons.mp second.2).1⟩

/-- In an element of the other kind, the walk to its AKM suites leaves `RSN_IE`. -/
theorem akm_other {group type : UInt8} {pairs : List UInt8}
    (fields : Fields (bss.element kind) 0 kind' group pairs [type]) (some : 0 < pairs.length)
    (differs : kind' ≠ kind) (place : Nat) :
    ¬ Within (readLimit mem) (rtmpCheckAkm bss mem kind place).reads := by
  have far : 170 ≤ countAt (bss.element kind) (kind.version + 6) := by
    cases kind with
    | wpaIe =>
      obtain rfl : kind' = .wpa2Ie := by
        cases kind' with
        | wpaIe => exact absurd rfl differs
        | wpa2Ie => rfl
      cases pairs with
      | nil => exact absurd some (Nat.lt_irrefl 0)
      | cons pair rest =>
        have low : bss.element .wpaIe 10 = 0xac :=
          (byte_of_suite (suite_cons fields.pairList).1).2
        show 170 ≤ (bss.element .wpaIe 11).toNat * 256 + (bss.element .wpaIe 10).toNat
        rw [low]
        have byte : (0xac : UInt8).toNat = 172 := rfl
        omega
    | wpa2Ie =>
      obtain rfl : kind' = .wpaIe := by
        cases kind' with
        | wpaIe => rfl
        | wpa2Ie => exact absurd rfl differs
      have high : bss.element .wpa2Ie 7 = 0x50 := (byte_of_suite fields.groupSuite).1
      show 170 ≤ (bss.element .wpa2Ie 7).toNat * 256 + (bss.element .wpa2Ie 6).toNat
      rw [high]
      have byte : (0x50 : UInt8).toNat = 80 := rfl
      omega
  intro within
  unfold rtmpCheckAkm at within
  dsimp only at within
  have second := (within_cons.mp (within_cons.mp within).2).1
  have limit : maxLenOfRsnie = 255 := rfl
  simp only [readLimit] at second
  omega

/-- In an element without suites there is none to compare with. -/
theorem akm_bare (count : countAt (bss.element kind) 6 ≤ 1)
    (zero : ∀ address < maxLenOfRsnie, 8 ≤ address → bss.element kind address = 0) (place : Nat) :
    Within (readLimit mem) (rtmpCheckAkm bss mem kind place).reads ∧
      (rtmpCheckAkm bss mem kind place).found = none := by
  have limit : maxLenOfRsnie = 255 := rfl
  have few : countAt (bss.element kind) (kind.version + 6) ≤ 1 := by
    cases kind with
    | wpa2Ie => exact count
    | wpaIe =>
      show (bss.element .wpaIe 11).toNat * 256 + (bss.element .wpaIe 10).toNat ≤ 1
      rw [zero 11 (by omega) (by omega), zero 10 (by omega) (by omega)]
      decide
  have version : kind.version ≤ 4 := by
    cases kind <;> decide
  have none : countAt (bss.element kind) (kind.version + 6 + 2 +
      4 * countAt (bss.element kind) (kind.version + 6)) = 0 := by
    generalize countAt (bss.element kind) (kind.version + 6) = skipped at few
    unfold countAt
    rw [zero _ (by omega) (by omega), zero _ (by omega) (by omega)]
    rfl
  unfold rtmpCheckAkm
  dsimp only
  rw [none]
  constructor
  · simp only [within_cons, readLimit, searchSuites, within_nil, and_true]
    omega
  · rfl

theorem compareUcast_none_iff (place : Nat) :
    (compareUcast bss mem kind place).found = none ↔
      suiteAt mem place ∉ comparedPairs bss kind := by
  unfold compareUcast comparedPairs
  dsimp only
  by_cases mix : bss.wepStatus = .tkipAesMix
  · cases tkipOn kind bss.wpaMixPairCipher <;> cases aesOn kind bss.wpaMixPairCipher <;>
      simp [mix] <;> split_ifs <;> simp_all
  · simp [mix]

theorem compareUcast_within (place : Nat) :
    Within (readLimit mem) (compareUcast bss mem kind place).reads ↔
      place + 4 ≤ 2 + lenAt mem 0 := by
  have limit : maxLenOfRsnie = 255 := rfl
  have version : kind.version ≤ 4 := by
    cases kind <;> decide
  unfold compareUcast
  dsimp only
  split_ifs <;>
    simp only [within_cons, within_append, readLimit, within_nil, and_true] <;> omega

/-- An element of the BSS with suites, and of the same kind. -/
structure OwnSuites (config : SecurityConfig) (bss : RsnBss) (kind : IeKind) (type : UInt8) :
    Prop where
  has : HasSuites bss.wepStatus
  mixPair : config.wpaMixPairCipher = bss.wpaMixPairCipher
  akm : akmType kind bss.authMode = some type
  same : ∀ address < maxLenOfRsnie,
    bss.element kind address = (apElement config bss kind).content address

/-- The types of its pairwise suites. -/
def apPairs (config : SecurityConfig) (bss : RsnBss) (kind : IeKind) : List UInt8 :=
  pairTypes kind bss.wepStatus (apFlexible config bss.wepStatus)

def apGroup (config : SecurityConfig) (bss : RsnBss) : UInt8 :=
  staGroupType config (groupType bss.wepStatus false)

theorem OwnSuites.comparedPairs_eq {type : UInt8} (own : OwnSuites config bss kind type) :
    comparedPairs bss kind = (apPairs config bss kind).map kind.suite := by
  obtain ⟨fields, _, _⟩ := apElement_fields own.has own.akm own.same
  have list := fields.pairList
  rw [Nat.zero_add] at list
  have pairs : apPairs config bss kind =
      pairTypes kind bss.wepStatus (apFlexible config bss.wepStatus) := rfl
  unfold comparedPairs
  rw [pairs]
  by_cases mix : bss.wepStatus = .tkipAesMix
  · have flexible : apFlexible config bss.wepStatus = bss.wpaMixPairCipher := by
      unfold apFlexible
      rw [if_pos mix, own.mixPair]
    rw [flexible, mix] at list ⊢
    unfold pairTypes at list ⊢
    dsimp only at list ⊢
    by_cases first : tkipOn kind bss.wpaMixPairCipher = true
    · by_cases second : aesOn kind bss.wpaMixPairCipher = true
      · rw [if_pos first, if_pos second] at list ⊢
        rw [if_pos ⟨rfl, first, second⟩]
        obtain ⟨front, rest⟩ := suite_cons list
        have next : kind.version + 8 + 4 = kind.version + 12 := by omega
        rw [next] at rest
        rw [suiteAt_of_holds front, suiteAt_of_holds (suite_cons rest).1]
        rfl
      · rw [if_pos first, if_neg second] at list ⊢
        rw [if_neg fun both => second both.2.2, suiteAt_of_holds (suite_cons list).1]
        rfl
    · rw [if_neg first] at list ⊢
      rw [if_neg fun both => first both.2.1, suiteAt_of_holds (suite_cons list).1]
      rfl
  · rw [if_neg fun both => mix both.1]
    obtain single | single | both := own.has
    · rw [single] at list ⊢
      rw [suiteAt_of_holds (suite_cons list).1]
      rfl
    · rw [single] at list ⊢
      rw [suiteAt_of_holds (suite_cons list).1]
      rfl
    · exact absurd both mix

/-- The status that a suite gives is that of its cipher. -/
theorem OwnSuites.found {type : UInt8} (own : OwnSuites config bss kind type) {place : Nat}
    {wepStatus : WepStatus} (found : (compareUcast bss mem kind place).found = some wepStatus) :
    (wepStatus = .tkipEnable ∨ wepStatus = .aesEnable) ∧
      suiteAt mem place = kind.suite (suiteType wepStatus) := by
  have compared := own.comparedPairs_eq
  unfold comparedPairs apPairs apFlexible at compared
  unfold compareUcast at found
  dsimp only at found
  by_cases mix : bss.wepStatus = .tkipAesMix
  · rw [if_pos mix, own.mixPair] at compared
    rw [if_pos mix] at found
    rw [mix] at compared
    unfold pairTypes at compared
    dsimp only at compared
    by_cases first : tkipOn kind bss.wpaMixPairCipher = true
    · by_cases second : aesOn kind bss.wpaMixPairCipher = true
      · rw [if_pos ⟨rfl, first, second⟩, if_pos first, if_pos second] at compared
        obtain ⟨front, rest⟩ := List.cons.inj compared
        have back := (List.cons.inj rest).1
        rw [if_pos first, if_pos second] at found
        split_ifs at found with one other
        · obtain rfl := Option.some.inj found
          exact ⟨.inl rfl, (beq_iff_eq.mp one).trans front⟩
        · obtain rfl := Option.some.inj found
          exact ⟨.inr rfl, (beq_iff_eq.mp other).trans back⟩
      · rw [if_neg fun both => second both.2.2, if_pos first, if_neg second] at compared
        have front := (List.cons.inj compared).1
        rw [if_pos first, if_neg second] at found
        split_ifs at found with one
        obtain rfl := Option.some.inj found
        exact ⟨.inl rfl, (beq_iff_eq.mp one).trans front⟩
    · rw [if_neg fun both => first both.2.1, if_neg first] at compared
      have front := (List.cons.inj compared).1
      rw [if_neg first] at found
      split_ifs at found with one
      obtain rfl := Option.some.inj found
      exact ⟨.inr rfl, (beq_iff_eq.mp one).trans front⟩
  · rw [if_neg mix] at found
    rw [if_neg fun both => mix both.1] at compared
    split_ifs at found with one
    have same := (Option.some.inj found).symm
    rw [same]
    obtain single | single | both := own.has
    · rw [single] at compared ⊢
      exact ⟨.inl rfl, (beq_iff_eq.mp one).trans (List.cons.inj compared).1⟩
    · rw [single] at compared ⊢
      exact ⟨.inr rfl, (beq_iff_eq.mp one).trans (List.cons.inj compared).1⟩
    · exact absurd both mix

/-- What the element of the BSS lists. -/
theorem OwnSuites.lists {type : UInt8} (own : OwnSuites config bss kind type) (suite : List UInt8) :
    ((apOwn config bss kind).HasGroup kind suite ↔ suite = kind.suite (apGroup config bss)) ∧
      ((apOwn config bss kind).ListsPair kind suite ↔ suite ∈ comparedPairs bss kind) ∧
      ((apOwn config bss kind).ListsAkm kind suite ↔ suite = kind.suite type) := by
  obtain ⟨fields, size, few⟩ := @apElement_fields config bss (apElement config bss kind).content
    kind own.has type own.akm fun _ _ => rfl
  have group := suiteAt_of_holds fields.groupSuite
  have pairCount : (apOwn config bss kind).pairCount kind = (apPairs config bss kind).length :=
    fields.pairCount
  have akmCountAt : (apOwn config bss kind).akmCountAt kind =
      0 + kind.version + 8 + 4 * (apPairs config bss kind).length := by
    unfold Element.akmCountAt
    rw [pairCount]
    rfl
  have akmCount : (apOwn config bss kind).akmCount kind = 1 := by
    unfold Element.akmCount
    rw [akmCountAt]
    exact fields.akmCount
  have akmAt : (apOwn config bss kind).akmAt kind 0 =
      0 + kind.version + 10 + 4 * (apPairs config bss kind).length := by
    unfold Element.akmAt
    rw [akmCountAt]
    omega
  have akm := suiteAt_of_holds (suite_cons fields.akmList).1
  have inside : kind.version + 14 + 4 * (apPairs config bss kind).length ≤
      (apOwn config bss kind).stop := size
  refine ⟨?_, ?_, ?_⟩
  · constructor
    · rintro ⟨_, rfl⟩
      exact group
    · rintro rfl
      refine ⟨?_, group⟩
      have first : (apOwn config bss kind).octet = 0 := rfl
      omega
  · rw [own.comparedPairs_eq, List.mem_iff_getElem]
    unfold Element.ListsPair
    rw [pairCount]
    constructor
    · rintro ⟨i, below, _, rfl⟩
      refine ⟨i, by rwa [List.length_map], ?_⟩
      rw [List.getElem_map]
      exact (suiteAt_flatMap fields.pairList below).symm
    · rintro ⟨i, below, rfl⟩
      rw [List.length_map] at below
      rw [List.getElem_map]
      refine ⟨i, below, ?_, suiteAt_flatMap fields.pairList below⟩
      have first : (apOwn config bss kind).octet = 0 := rfl
      unfold Element.pairAt
      omega
  · unfold Element.ListsAkm
    rw [akmCount]
    constructor
    · rintro ⟨j, below, _, rfl⟩
      obtain rfl : j = 0 := by omega
      rw [akmAt]
      exact akm
    · rintro rfl
      refine ⟨0, Nat.one_pos, ?_, ?_⟩
      · rw [akmAt]
        omega
      · rw [akmAt]
        exact akm

end own

end Mt7612u.Ap
