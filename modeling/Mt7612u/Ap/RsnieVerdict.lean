import Mt7612u.Ap.RsnieCompared

/-! When `APValidateRSNIE` decides from the bytes of the element alone, and rightly. -/

namespace Mt7612u.Ap
open Receive (Memory Span)
open Security
open Sta (WepStatus maxLenOfRsnie)
open Mlme (lenAt)

section verdict
variable {config : SecurityConfig} {bss : RsnBss} {made : MadeRsnie} {mem : Memory}
  {kind kind' : IeKind}

/-- The search through the pairwise suites of the element. -/
def pairSearch (bss : RsnBss) (mem : Memory) (kind : IeKind) : SuiteSearch WepStatus :=
  searchSuites (compareUcast bss mem kind) ((stationElement mem).pairAt kind 0)
    ((stationElement mem).pairCount kind)

/-- The search through its AKM suites. -/
def akmSearch (bss : RsnBss) (mem : Memory) (kind : IeKind) : SuiteSearch Unit :=
  searchSuites (rtmpCheckAkm bss mem kind) ((stationElement mem).akmAt kind 0)
    ((stationElement mem).akmCount kind)

/-- The verdict on an element whose length fits `rsnie_len`. -/
structure ShortVerdict (bss : RsnBss) (mem : Memory) (kind : IeKind) (out : RsnValidated) :
    Prop where
  reads : Within (readLimit mem) out.reads ↔
    (6 ≤ lenAt mem 0 → kind.version + 6 ≤ lenAt mem 0) ∧
      (GroupPasses bss mem kind → Within (readLimit mem) (pairSearch bss mem kind).reads ∧
        ((pairSearch bss mem kind).found ≠ none →
          (stationElement mem).akmCountAt kind + 2 ≤ 2 + lenAt mem 0 ∧
            Within (readLimit mem) (akmSearch bss mem kind).reads))
  accepts : out.status = .success ↔ GroupPasses bss mem kind ∧
    (pairSearch bss mem kind).found ≠ none ∧ (akmSearch bss mem kind).found ≠ none
  entry : out.status = .success → ∃ wepStatus, (pairSearch bss mem kind).found = some wepStatus ∧
    out.entry = ⟨narrowMode kind bss.authMode, wepStatus⟩

theorem ShortVerdict.refused {status : MlmeStatus} {entry : EntrySecurity} {reads : List RsnRead}
    (other : status ≠ .success)
    (within : Within (readLimit mem) reads ↔
      (6 ≤ lenAt mem 0 → kind.version + 6 ≤ lenAt mem 0) ∧
        (GroupPasses bss mem kind → Within (readLimit mem) (pairSearch bss mem kind).reads ∧
          ((pairSearch bss mem kind).found ≠ none →
            (stationElement mem).akmCountAt kind + 2 ≤ 2 + lenAt mem 0 ∧
              Within (readLimit mem) (akmSearch bss mem kind).reads)))
    (fails : ¬ (GroupPasses bss mem kind ∧ (pairSearch bss mem kind).found ≠ none ∧
      (akmSearch bss mem kind).found ≠ none)) :
    ShortVerdict bss mem kind ⟨status, entry, reads⟩ where
  reads := within
  accepts := iff_of_false other fails
  entry := fun accepted => absurd accepted other

theorem rtmpCheckMcast_short (six : ¬ 6 ≤ lenAt mem 0) (entry : EntrySecurity) :
    (rtmpCheckMcast bss mem entry).passed = false ∧
      (rtmpCheckMcast bss mem entry).reads = [] := by
  unfold rtmpCheckMcast
  rw [if_neg six]
  exact ⟨rfl, rfl⟩

theorem rtmpCheckUcast_long (eid : eidKind mem = some kind) (long : ¬ lenAt mem 0 < 16)
    (entry : EntrySecurity) : rtmpCheckUcast bss mem entry = {
      passed := (pairSearch bss mem kind).found.isSome
      entry :=
        match (pairSearch bss mem kind).found with
        | some wepStatus => { entry with wepStatus := wepStatus }
        | none => { entry with wepStatus := bss.wepStatus }
      reads := ⟨.station, ⟨2 + kind.version + 6, 2⟩⟩ :: (pairSearch bss mem kind).reads } := by
  unfold rtmpCheckUcast
  dsimp only
  rw [if_neg long, eid]
  dsimp only
  have places : 2 + kind.version + 6 + 2 = (stationElement mem).pairAt kind 0 := by
    show _ = 2 + kind.version + 8 + 4 * 0
    omega
  have count : countAt mem (2 + kind.version + 6) = (stationElement mem).pairCount kind := rfl
  rw [places, count]
  unfold pairSearch
  cases (searchSuites (compareUcast bss mem kind) ((stationElement mem).pairAt kind 0)
    ((stationElement mem).pairCount kind)).found <;> rfl

theorem rtmpCheckAuth_long (eid : eidKind mem = some kind) (long : ¬ lenAt mem 0 < 16)
    (entry : EntrySecurity) : rtmpCheckAuth bss mem entry = {
      passed := (akmSearch bss mem kind).found.isSome
      entry := entry
      reads := ⟨.station, ⟨2 + kind.version + 6, 2⟩⟩ ::
        ⟨.station, ⟨(stationElement mem).akmCountAt kind, 2⟩⟩ ::
          (akmSearch bss mem kind).reads } := by
  unfold rtmpCheckAuth
  rw [if_neg long, eid]
  dsimp only
  have place : 2 + kind.version + 6 + 2 + 4 * countAt mem (2 + kind.version + 6) =
      (stationElement mem).akmCountAt kind := by
    show _ = 2 + kind.version + 8 + 4 * countAt mem (2 + kind.version + 6)
    omega
  rw [place]
  rfl

/-- Both counters lie inside an element that is not too short. -/
theorem within_count (long : ¬ lenAt mem 0 < 16) (kind : IeKind) :
    2 + kind.version + 6 + 2 ≤ readLimit mem .station := by
  have version : kind.version ≤ 4 := by
    cases kind <;> decide
  unfold readLimit
  dsimp only
  omega

theorem shortVerdict (eid : eidKind mem = some kind) (short : lenAt mem 0 < 254)
    (entry : EntrySecurity) :
    ShortVerdict bss mem kind
      (apValidateRsnie bss mem (BitVec.ofNat 8 (lenAt mem 0 + 2)) entry) := by
  have size : (BitVec.ofNat 8 (lenAt mem 0 + 2)).toNat = lenAt mem 0 + 2 := by
    rw [BitVec.toNat_ofNat]
    exact Nat.mod_eq_of_lt (by omega)
  have some : BitVec.ofNat 8 (lenAt mem 0 + 2) ≠ 0 := by
    intro zero
    rw [zero] at size
    have none : (0 : BitVec 8).toNat = 0 := rfl
    omega
  have version : kind.version ≤ 4 := by
    cases kind <;> decide
  have limit : maxLenOfRsnie = 255 := rfl
  unfold apValidateRsnie
  rw [if_neg some, size, if_neg (not_not.mpr rfl)]
  dsimp only
  by_cases six : 6 ≤ lenAt mem 0
  · have mcast : rtmpCheckMcast bss mem entry = {
        passed := suiteAt mem (2 + kind.version + 2) ==
          suiteAt (bss.element kind) (kind.version + 2)
        entry := { entry with authMode := narrowMode kind bss.authMode }
        reads := [⟨.station, ⟨2 + kind.version + 2, 4⟩⟩, ⟨.bss, ⟨kind.version + 2, 4⟩⟩] } := by
      unfold rtmpCheckMcast
      rw [if_pos six, eid]
    have groupReads : Within (readLimit mem)
        [⟨.station, ⟨2 + kind.version + 2, 4⟩⟩, ⟨.bss, ⟨kind.version + 2, 4⟩⟩] ↔
          kind.version + 6 ≤ lenAt mem 0 := by
      simp only [within_cons, readLimit, within_nil, and_true]
      omega
    rw [mcast]
    dsimp only
    by_cases group : suiteAt mem (2 + kind.version + 2) =
        suiteAt (bss.element kind) (kind.version + 2)
    · rw [if_pos (beq_iff_eq.mpr group)]
      by_cases long : lenAt mem 0 < 16
      · have ucast (entry : EntrySecurity) : rtmpCheckUcast bss mem entry =
            ⟨false, { entry with wepStatus := bss.wepStatus }, []⟩ := by
          unfold rtmpCheckUcast
          dsimp only
          rw [if_pos long]
        have fails : ¬ GroupPasses bss mem kind := fun passes => by
          have enough := passes.1
          omega
        rw [ucast]
        dsimp only
        rw [if_neg Bool.false_ne_true, List.append_nil]
        apply ShortVerdict.refused (by decide) _ fun all => fails all.1
        rw [groupReads]
        exact ⟨fun inside => ⟨fun _ => inside, fun passes => absurd passes fails⟩,
          fun all => all.1 six⟩
      · have passes : GroupPasses bss mem kind := ⟨by omega, group⟩
        have counted := within_count long kind
        rw [rtmpCheckUcast_long eid long]
        dsimp only
        cases pair : (pairSearch bss mem kind).found with
        | none =>
          dsimp only [Option.isSome]
          rw [if_neg Bool.false_ne_true]
          apply ShortVerdict.refused (by decide) _ fun all => all.2.1 pair
          rw [within_append, groupReads, within_cons]
          constructor
          · rintro ⟨inside, _, pairs⟩
            exact ⟨fun _ => inside, fun _ => ⟨pairs, fun found => absurd pair found⟩⟩
          · intro all
            exact ⟨all.1 six, counted, (all.2 passes).1⟩
        | some wepStatus =>
          have found : (pairSearch bss mem kind).found ≠ none := by
            rw [pair]
            exact Option.some_ne_none _
          dsimp only [Option.isSome]
          rw [if_pos rfl, rtmpCheckAuth_long eid long]
          dsimp only
          exact {
            reads := by
              rw [within_append, groupReads, within_append, within_cons, within_cons, within_cons]
              constructor
              · rintro ⟨inside, ⟨_, pairs⟩, _, count, akms⟩
                exact ⟨fun _ => inside, fun _ => ⟨pairs, fun _ => ⟨count, akms⟩⟩⟩
              · intro all
                obtain ⟨pairs, rest⟩ := all.2 passes
                obtain ⟨count, akms⟩ := rest found
                exact ⟨all.1 six, ⟨counted, pairs⟩, counted, count, akms⟩
            accepts := by
              cases (akmSearch bss mem kind).found with
              | none => exact iff_of_false MlmeStatus.noConfusion fun all => all.2.2 rfl
              | some _ => exact iff_of_true rfl ⟨passes, found, Option.some_ne_none _⟩
            entry := fun _ => ⟨wepStatus, pair, rfl⟩ }
    · have fails : ¬ GroupPasses bss mem kind := fun passes => group passes.2
      have differs : ¬ (suiteAt mem (2 + kind.version + 2) ==
          suiteAt (bss.element kind) (kind.version + 2)) = true := by
        rw [beq_iff_eq]
        exact group
      rw [if_neg differs]
      apply ShortVerdict.refused (by decide) _ fun all => fails all.1
      rw [groupReads]
      exact ⟨fun inside => ⟨fun _ => inside, fun passes => absurd passes fails⟩,
        fun all => all.1 six⟩
  · obtain ⟨refused, none⟩ := @rtmpCheckMcast_short bss mem six entry
    have fails : ¬ GroupPasses bss mem kind := fun passes => by
      have enough := passes.1
      omega
    rw [refused, if_neg Bool.false_ne_true, none]
    apply ShortVerdict.refused (by decide) _ fun all => fails all.1
    apply iff_of_true (within_nil _)
    exact ⟨fun enough => absurd enough six, fun passes => absurd passes fails⟩

theorem pairAt_add (e : Element) (kind : IeKind) (i : Nat) :
    e.pairAt kind 0 + 4 * i = e.pairAt kind i := by
  unfold Element.pairAt
  omega

theorem akmAt_add (e : Element) (kind : IeKind) (j : Nat) :
    e.akmAt kind 0 + 4 * j = e.akmAt kind j := by
  unfold Element.akmAt
  omega

theorem pairSearch_within :
    Within (readLimit mem) (pairSearch bss mem kind).reads ↔
      ∀ i < (stationElement mem).pairCount kind,
        (∀ i' < i, suiteAt mem ((stationElement mem).pairAt kind i') ∉ comparedPairs bss kind) →
          (stationElement mem).pairAt kind i + 4 ≤ 2 + lenAt mem 0 := by
  unfold pairSearch
  rw [within_searchSuites]
  simp only [pairAt_add, compareUcast_none_iff, compareUcast_within]

theorem pairSearch_found :
    (pairSearch bss mem kind).found ≠ none ↔ ∃ i < (stationElement mem).pairCount kind,
      suiteAt mem ((stationElement mem).pairAt kind i) ∈ comparedPairs bss kind := by
  unfold pairSearch
  rw [Ne, searchSuites_none_iff]
  simp only [pairAt_add, compareUcast_none_iff]
  push Not
  rfl

theorem pairSearch_some {wepStatus : WepStatus}
    (found : (pairSearch bss mem kind).found = some wepStatus) :
    ∃ i < (stationElement mem).pairCount kind,
      (compareUcast bss mem kind ((stationElement mem).pairAt kind i)).found = some wepStatus ∧
        ∀ i' < i,
          suiteAt mem ((stationElement mem).pairAt kind i') ∉ comparedPairs bss kind := by
  obtain ⟨i, below, here, before⟩ := searchSuites_some found
  simp only [pairAt_add, compareUcast_none_iff] at here before
  exact ⟨i, below, here, before⟩

theorem OwnSuites.akmSearch_within {type : UInt8} (own : OwnSuites config bss kind type) :
    Within (readLimit mem) (akmSearch bss mem kind).reads ↔
      ∀ j < (stationElement mem).akmCount kind,
        (∀ j' < j, suiteAt mem ((stationElement mem).akmAt kind j') ≠ kind.suite type) →
          (stationElement mem).akmAt kind j + 4 ≤ 2 + lenAt mem 0 := by
  obtain ⟨fields, _, few⟩ := apElement_fields own.has own.akm own.same
  have one (place : Nat) := @akm_announced bss mem kind _ _ _ fields few place
  unfold akmSearch
  rw [within_searchSuites]
  simp only [akmAt_add, (one _).1, (one _).2]

theorem OwnSuites.akmSearch_some {type : UInt8} (own : OwnSuites config bss kind type)
    (found : (akmSearch bss mem kind).found ≠ none) :
    ∃ j < (stationElement mem).akmCount kind,
      suiteAt mem ((stationElement mem).akmAt kind j) = kind.suite type ∧
        ∀ j' < j, suiteAt mem ((stationElement mem).akmAt kind j') ≠ kind.suite type := by
  obtain ⟨fields, _, few⟩ := apElement_fields own.has own.akm own.same
  have one (place : Nat) := @akm_announced bss mem kind _ _ _ fields few place
  obtain ⟨_, some⟩ := Option.ne_none_iff_exists'.mp found
  obtain ⟨j, below, here, before⟩ := searchSuites_some some
  simp only [akmAt_add, (one _).2] at here before
  refine ⟨j, below, ?_, before⟩
  by_contra differs
  rw [(one _).2.mpr differs] at here
  cases here

theorem OwnSuites.akmSearch_found {type : UInt8} (own : OwnSuites config bss kind type) :
    (akmSearch bss mem kind).found ≠ none ↔ ∃ j < (stationElement mem).akmCount kind,
      suiteAt mem ((stationElement mem).akmAt kind j) = kind.suite type := by
  constructor
  · intro found
    obtain ⟨j, below, here, _⟩ := own.akmSearch_some found
    exact ⟨j, below, here⟩
  · rintro ⟨j, below, here⟩ none
    obtain ⟨fields, _, few⟩ := apElement_fields own.has own.akm own.same
    have absent := searchSuites_none_iff.mp none j below
    rw [akmAt_add] at absent
    exact (@akm_announced bss mem kind _ _ _ fields few _).2.mp absent here

/-- How the BSS is beside an element of the station. -/
inductive BssSide (config : SecurityConfig) (bss : RsnBss) (made : MadeRsnie) (kind : IeKind) :
    Prop where
  | own (type : UInt8) (suites : OwnSuites config bss kind type)
      (announced : announcesKind bss.authMode kind = true)
      (element : ownElement made kind = some (apOwn config bss kind))
  | other (has : HasSuites bss.wepStatus) (silent : announcesKind bss.authMode kind = false)
      (none : ownElement made kind = none)
      (leaves : ∀ mem place, ¬ Within (readLimit mem) (rtmpCheckAkm bss mem kind place).reads)
  | bare (lacks : ¬ HasSuites bss.wepStatus)
      (lists : ∀ own suite, ownElement made kind = some own → ¬ own.ListsPair kind suite)
      (misses : ∀ mem place, Within (readLimit mem) (rtmpCheckAkm bss mem kind place).reads ∧
        (rtmpCheckAkm bss mem kind place).found = none)

theorem bssSide (announces : Announces config bss made) (kind : IeKind) :
    BssSide config bss made kind := by
  obtain ⟨kind', compared⟩ := comparedWith announces kind
  obtain ⟨type, akm⟩ := compared.akm
  by_cases has : HasSuites bss.wepStatus
  · by_cases same : kind' = kind
    · have announced := compared.announced.mpr same
      have element := compared.own same
      subst same
      exact .own type ⟨has, announces.mixPair, akm, compared.same⟩ announced element
    · have silent : announcesKind bss.authMode kind = false := by
        by_contra announced
        exact same (compared.announced.mp (Bool.not_eq_false _ |>.mp announced))
      obtain ⟨fields, _, _⟩ := apElement_fields has akm compared.same
      have paired := @length_pairTypes kind' bss.wepStatus (apFlexible config bss.wepStatus) has
      exact .other has silent (compared.other same) fun mem place =>
        akm_other fields paired.1 same place
  · obtain ⟨_, count, zero⟩ := apElement_bare announces has akm compared.same
    refine .bare has ?_ fun mem place => akm_bare count zero place
    intro own suite made' lists
    by_cases same : kind' = kind
    · rw [compared.own same] at made'
      obtain rfl := Option.some.inj made'
      subst same
      obtain ⟨short, _, _⟩ := apElement_bare announces has akm fun _ _ => rfl
      obtain ⟨i, _, inside, _⟩ := lists
      have stop : (apOwn config bss kind').stop ≤ 8 := short
      unfold Element.pairAt at inside
      omega
    · rw [compared.other same] at made'
      cases made'

/-- The part of the condition on the AKM suites. -/
theorem akmSearch_within (side : BssSide config bss made kind) :
    Within (readLimit mem) (akmSearch bss mem kind).reads ↔
      (HasSuites bss.wepStatus → ∀ j < (stationElement mem).akmCount kind,
        (∀ j' < j, ∀ type, akmType kind bss.authMode = some type →
          suiteAt mem ((stationElement mem).akmAt kind j') ≠ kind.suite type) →
        announcesKind bss.authMode kind = true ∧
          (stationElement mem).akmAt kind j + 4 ≤ 2 + lenAt mem 0) := by
  cases side with
  | own type suites announced _ =>
    rw [suites.akmSearch_within]
    constructor
    · intro inside _ j below before
      exact ⟨announced, inside j below fun j' earlier => before j' earlier type suites.akm⟩
    · intro all j below before
      refine (all suites.has j below fun j' earlier type' listed => ?_).2
      rw [suites.akm] at listed
      rw [← Option.some.inj listed]
      exact before j' earlier
  | other has silent _ leaves =>
    unfold akmSearch
    rw [within_searchSuites]
    constructor
    · intro within _ j below _
      have some : 0 < (stationElement mem).akmCount kind := by omega
      exact absurd (within 0 some fun j' earlier => absurd earlier (Nat.not_lt_zero j'))
        (leaves mem _)
    · intro all j below _
      have some : 0 < (stationElement mem).akmCount kind := by omega
      have announced := (all has 0 some fun j' earlier => absurd earlier (Nat.not_lt_zero j')).1
      rw [silent] at announced
      exact absurd announced Bool.false_ne_true
  | bare lacks _ misses =>
    apply iff_of_true _ fun has => absurd has lacks
    unfold akmSearch
    rw [within_searchSuites]
    exact fun j _ _ => (misses mem _).1

theorem ShortVerdict.reads_iff {out : RsnValidated} (verdict : ShortVerdict bss mem kind out)
    (side : BssSide config bss made kind) :
    Within (readLimit mem) out.reads ↔ ListsFit bss mem kind := by
  rw [verdict.reads, pairSearch_within, pairSearch_found, akmSearch_within side]
  constructor
  · rintro ⟨group, rest⟩
    exact ⟨group, fun passes => (rest passes).1, fun passes => (rest passes).2⟩
  · intro fits
    exact ⟨fits.group, fun passes => ⟨fits.pairs passes, fits.akms passes⟩⟩

theorem narrowMode_single (kind : IeKind) (authMode : AuthMode) :
    isMixedMode (narrowMode kind authMode) = false := by
  cases kind <;> cases authMode <;> rfl

theorem akmType_narrowMode (kind : IeKind) (authMode : AuthMode) :
    akmType kind (narrowMode kind authMode) = akmType kind authMode := by
  cases kind <;> cases authMode <;> rfl

/-- Of elements of which only their own bytes are read, exactly those that are admitted are
accepted. -/
theorem ShortVerdict.accepts_iff {out : RsnValidated} (verdict : ShortVerdict bss mem kind out)
    (side : BssSide config bss made kind) (fits : ListsFit bss mem kind) :
    out.status = .success ↔ ∃ own, Admits made mem kind own := by
  rw [verdict.accepts]
  cases side with
  | own type suites announced element =>
    obtain ⟨fields, _, _⟩ := apElement_fields suites.has suites.akm suites.same
    have group := suiteAt_of_holds fields.groupSuite
    rw [Nat.zero_add] at group
    constructor
    · rintro ⟨passes, pair, akm⟩
      obtain ⟨_, some⟩ := Option.ne_none_iff_exists'.mp pair
      obtain ⟨i, below, here, before⟩ := pairSearch_some some
      have listed : suiteAt mem ((stationElement mem).pairAt kind i) ∈ comparedPairs bss kind := by
        by_contra absent
        rw [(compareUcast_none_iff _).mpr absent] at here
        cases here
      obtain ⟨j, below', same, before'⟩ := suites.akmSearch_some akm
      have akms := (fits.akms passes ⟨i, below, listed⟩).2 suites.has j below' (by
        intro j' earlier type' other
        rw [suites.akm] at other
        rw [← Option.some.inj other]
        exact before' j' earlier)
      have long : kind.version + 6 ≤ lenAt mem 0 := fits.group ((by decide : 6 ≤ 16).trans passes.1)
      have inside : (stationElement mem).octet + kind.version + 6 ≤ (stationElement mem).stop := by
        show 2 + kind.version + 6 ≤ 2 + lenAt mem 0
        omega
      exact ⟨apOwn config bss kind, {
        made := element
        group := ⟨_, ⟨inside, passes.2⟩, (suites.lists _).1.mpr group⟩
        pair := ⟨_, ⟨i, below, fits.pairs passes i below before, rfl⟩,
          (suites.lists _).2.1.mpr listed⟩
        akm := ⟨_, ⟨j, below', akms.2, same⟩, (suites.lists _).2.2.mpr rfl⟩ }⟩
    · rintro ⟨own, admits⟩
      obtain rfl := Option.some.inj (element.symm.trans admits.made)
      obtain ⟨first, ⟨_, here⟩, same⟩ := admits.group
      obtain ⟨second, ⟨i, below, _, here'⟩, listed⟩ := admits.pair
      obtain ⟨third, ⟨j, below', inside, here''⟩, listed'⟩ := admits.akm
      have equal := (suites.lists first).1.mp same
      rw [(suites.lists second).2.1, ← here'] at listed
      rw [(suites.lists third).2.2] at listed'
      have long : 16 ≤ lenAt mem 0 := by
        have stop : (stationElement mem).stop = 2 + lenAt mem 0 := rfl
        have start : (stationElement mem).octet = 2 := rfl
        unfold Element.akmAt Element.akmCountAt at inside
        omega
      refine ⟨⟨long, ?_⟩, pairSearch_found.mpr ⟨i, below, listed⟩,
        suites.akmSearch_found.mpr ⟨j, below', here''.trans listed'⟩⟩
      rw [group]
      exact here.trans equal
  | other has silent none leaves =>
    apply iff_of_false
    · rintro ⟨passes, pair, akm⟩
      have rest := (fits.akms passes (pairSearch_found.mp pair)).2 has
      apply akm
      unfold akmSearch
      rw [searchSuites_none_iff]
      intro j below
      have some : 0 < (stationElement mem).akmCount kind := by omega
      have announced := (rest 0 some fun j' earlier => absurd earlier (Nat.not_lt_zero j')).1
      rw [silent] at announced
      exact absurd announced Bool.false_ne_true
    · rintro ⟨own, admits⟩
      exact absurd (none.symm.trans admits.made) (Option.some_ne_none _).symm
  | bare lacks lists misses =>
    apply iff_of_false
    · rintro ⟨_, _, akm⟩
      apply akm
      unfold akmSearch
      rw [searchSuites_none_iff]
      exact fun j _ => (misses mem _).2
    · rintro ⟨own, admits⟩
      obtain ⟨suite, _, listed⟩ := admits.pair
      exact lists own suite admits.made listed

/-- What an accepted element makes of the entry. -/
theorem ShortVerdict.chosen {out : RsnValidated} (verdict : ShortVerdict bss mem kind out)
    (side : BssSide config bss made kind) (fits : ListsFit bss mem kind)
    (accepted : out.status = .success) :
    ∃ own, ownElement made kind = some own ∧ Chosen mem kind own out.entry := by
  obtain ⟨own, admits⟩ := (verdict.accepts_iff side fits).mp accepted
  obtain ⟨passes, _, akm⟩ := verdict.accepts.mp accepted
  obtain ⟨wepStatus, found, entry⟩ := verdict.entry accepted
  obtain ⟨i, below, here, before⟩ := pairSearch_some found
  have listed : suiteAt mem ((stationElement mem).pairAt kind i) ∈ comparedPairs bss kind := by
    by_contra absent
    rw [(compareUcast_none_iff _).mpr absent] at here
    cases here
  cases side with
  | other _ _ none _ => exact absurd (none.symm.trans admits.made) (Option.some_ne_none _).symm
  | bare _ lists _ =>
    obtain ⟨suite, _, listed⟩ := admits.pair
    exact absurd listed (lists own suite admits.made)
  | own type suites announced element =>
    obtain rfl := Option.some.inj (element.symm.trans admits.made)
    obtain ⟨cipher, suite⟩ := suites.found here
    obtain ⟨third, station, listed'⟩ := admits.akm
    rw [(suites.lists third).2.2] at listed'
    rw [entry]
    exact ⟨_, element, {
      single := narrowMode_single kind bss.authMode
      mode := ⟨type, by rw [akmType_narrowMode, suites.akm], by rwa [listed'] at station,
        (suites.lists _).2.2.mpr rfl⟩
      status := cipher
      cipher := ⟨⟨i, below, fits.pairs passes i below before, suite⟩,
        (suites.lists _).2.1.mpr (by rwa [← suite])⟩ }⟩

end verdict

/-- `APValidateRSNIE` decides rightly about an element, and from its own bytes and those of the BSS,
exactly when the element fits. -/
theorem apValidateRsnie_decides_iff (config : SecurityConfig) (bss : RsnBss) (made : MadeRsnie)
    (announces : Announces config bss made) (mem : Memory) (kind : IeKind)
    (eid : eidKind mem = some kind) :
    (∀ entry, Decides made mem kind
      (apValidateRsnie bss mem (BitVec.ofNat 8 (lenAt mem 0 + 2)) entry)) ↔
        RsnFits bss made mem kind := by
  have side := bssSide announces kind
  have byte : lenAt mem 0 < 256 := (mem 1).toNat_lt
  rcases (by omega : lenAt mem 0 < 254 ∨ lenAt mem 0 = 254 ∨ lenAt mem 0 = 255) with
    short | wraps | long
  · have verdict := @shortVerdict bss mem kind eid short
    constructor
    · intro decides
      have fits := ((verdict ⟨.open, .wepDisabled⟩).reads_iff side).mp (decides _).reads
      exact ⟨by omega, fun long => by omega, fun _ => fits⟩
    · intro fits entry
      have lists := fits.lists short
      exact {
        reads := ((verdict entry).reads_iff side).mpr lists
        accepts := (verdict entry).accepts_iff side lists
        chosen := (verdict entry).chosen side lists }
  · apply iff_of_false
    · intro decides
      have accepted : apValidateRsnie bss mem (BitVec.ofNat 8 (lenAt mem 0 + 2))
          ⟨.open, .wepDisabled⟩ = ⟨.success, ⟨.open, .wepDisabled⟩, []⟩ := by
        rw [wraps]
        rfl
      have decided := decides ⟨.open, .wepDisabled⟩
      rw [accepted] at decided
      obtain ⟨_, _, chosen⟩ := decided.chosen rfl
      rcases chosen.status with status | status <;> cases status
    · exact fun fits => fits.wraps wraps
  · have refused (entry : EntrySecurity) : apValidateRsnie bss mem
        (BitVec.ofNat 8 (lenAt mem 0 + 2)) entry = ⟨.unspecifyFail, entry, []⟩ := by
      unfold apValidateRsnie
      rw [long]
      rfl
    constructor
    · intro decides
      have decided := decides ⟨.open, .wepDisabled⟩
      rw [refused] at decided
      refine ⟨by omega, fun _ own admits => ?_, fun short => by omega⟩
      cases decided.accepts.mpr ⟨own, admits⟩
    · intro fits entry
      rw [refused]
      exact {
        reads := within_nil _
        accepts := iff_of_false MlmeStatus.noConfusion
          fun ⟨own, admits⟩ => fits.refused long own admits
        chosen := fun accepted => MlmeStatus.noConfusion accepted }

/-- A BSS with WPA2-PSK and AES. -/
def pskConfig : SecurityConfig where
  opMode := .ap
  wpaMixPairCipher := 0
  bssidUp := true
  preAuth := false
  wpaSupplicantUp := false
  groupCipher := .aesEnable
  mixCipher := false

def pskElement : MadeIe := makeElement pskConfig .wpa2Ie .wpa2Psk .aesEnable false 0

def pskMade : MadeRsnie := ⟨.aesEnable, pskElement, none⟩

def pskBss : RsnBss := ⟨.wpa2Psk, .aesEnable, 0, fun _ => pskElement.content⟩

theorem pskAnnounces : Announces pskConfig pskBss pskMade where
  ap := rfl
  mixPair := rfl
  makes := rfl
  primary := fun _ _ => rfl
  secondary := nofun

/-- The element of a station that wants the same, and zeros behind. -/
def pskRequest : Memory := pskElement.placed fun _ => 0

/-- The element of the BSS itself fits, and is decided on rightly. -/
theorem apValidateRsnie_decides_psk : RsnFits pskBss pskMade pskRequest .wpa2Ie ∧
    ∀ entry, Decides pskMade pskRequest .wpa2Ie
      (apValidateRsnie pskBss pskRequest (BitVec.ofNat 8 (lenAt pskRequest 0 + 2)) entry) := by
  have onePair : (stationElement pskRequest).pairCount .wpa2Ie = 1 := by decide
  have oneAkm : (stationElement pskRequest).akmCount .wpa2Ie = 1 := by decide
  have fits : RsnFits pskBss pskMade pskRequest .wpa2Ie := {
    wraps := by decide
    refused := fun long => absurd long (by decide)
    lists := fun _ => {
      group := fun _ => by decide
      pairs := by
        intro _ i below _
        rw [onePair] at below
        obtain rfl := Nat.lt_one_iff.mp below
        decide
      akms := by
        intro _ _
        constructor
        · decide
        · intro _ j below _
          rw [oneAkm] at below
          obtain rfl := Nat.lt_one_iff.mp below
          decide } }
  exact ⟨fits, (apValidateRsnie_decides_iff pskConfig pskBss pskMade pskAnnounces pskRequest
    .wpa2Ie (by decide)).mpr fits⟩

/-- The same element with a count of 65535 pairwise suites. -/
def countedRequest : Memory := pskRequest.write 8 [0xff, 0xff]

/-- Its AKM suites are looked for far behind its end. -/
theorem countedRequest_not_decided : ¬ ∀ (config : SecurityConfig) (bss : RsnBss)
    (made : MadeRsnie), Announces config bss made → ∀ (mem : Memory) (kind : IeKind),
      eidKind mem = some kind → ∀ entry, Decides made mem kind
        (apValidateRsnie bss mem (BitVec.ofNat 8 (lenAt mem 0 + 2)) entry) := by
  intro always
  have eid : eidKind countedRequest = some .wpa2Ie := by decide
  have decided := always pskConfig pskBss pskMade pskAnnounces countedRequest .wpa2Ie eid
    ⟨.open, .wepDisabled⟩
  have verdict := @shortVerdict pskBss countedRequest .wpa2Ie eid (by decide)
    ⟨.open, .wepDisabled⟩
  have fits := (verdict.reads_iff (bssSide pskAnnounces .wpa2Ie)).mp decided.reads
  have count := (fits.akms ⟨by decide, by decide⟩ ⟨0, by decide, by decide⟩).1
  exact absurd count (by decide)

end Mt7612u.Ap
