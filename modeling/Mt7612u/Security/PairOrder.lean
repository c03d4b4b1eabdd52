import Mt7612u.Security.CipherParse

/-! What the loops of `BssCipherParse` over the pairwise suites make of a list of them: which list
leaves the strongest cipher and the next strongest one. -/

namespace Mt7612u.Security
open Receive (Memory)
open Sta (WepStatus)

/-- The ciphers of the suites that a loop goes over, as it names them. -/
def listedCiphers (varIEs : Memory) : Nat → Nat → List WepStatus
  | 0, _ => []
  | count + 1, pTmp =>
      pairCipherOf (varIEs (pTmp + 3)).toNat :: listedCiphers varIEs count (pTmp + 4)

/-- The strongest of the known ciphers, if there is any. -/
def strongest (listed : List WepStatus) : WepStatus :=
  if .aesEnable ∈ listed then .aesEnable
  else if .tkipEnable ∈ listed then .tkipEnable
  else if .wepEnabled ∈ listed then .wepEnabled
  else .wepDisabled

def nextStrongest (listed : List WepStatus) : WepStatus :=
  strongest (listed.filter (· ≠ strongest listed))

/-- WEP is the only known cipher. -/
def OnlyWep (listed : List WepStatus) : Prop :=
  .wepEnabled ∈ listed ∧ .tkipEnable ∉ listed ∧ .aesEnable ∉ listed

/-- There is more than WEP, and the list ends with the next strongest cipher, or with the strongest
one, which comes only there and behind more than WEP or nothing known. -/
def EndsInOrder (listed : List WepStatus) : Prop :=
  ¬ OnlyWep listed ∧ ∀ front last, listed = front ++ [last] →
    last = nextStrongest listed ∨
      last = strongest listed ∧ last ∉ front ∧ ¬ OnlyWep front

/-- The setting has the strongest cipher listed and the next strongest. -/
def CipherSetting.Ranked (setting : CipherSetting) (listed : List WepStatus) : Prop :=
  setting.pairCipher = strongest listed ∧ setting.pairCipherAux = nextStrongest listed

def addListed (setting : CipherSetting) (listed : List WepStatus) : CipherSetting :=
  listed.foldl CipherSetting.addPair setting

theorem parsePairs_eq (varIEs : Memory) (count pTmp : Nat) (setting : CipherSetting) :
    parsePairs varIEs count pTmp setting =
      addListed setting (listedCiphers varIEs count pTmp) := by
  induction count generalizing pTmp setting with
  | zero => rfl
  | succ count ih =>
    rw [parsePairs, ih]
    rfl

/-- The ciphers the loop can come to. -/
def Suites (listed : List WepStatus) : Prop :=
  ∀ cipher ∈ listed, cipher = .wepDisabled ∨ cipher = .wepEnabled ∨ cipher = .tkipEnable ∨
    cipher = .aesEnable

theorem suites_listed (varIEs : Memory) (count pTmp : Nat) :
    Suites (listedCiphers varIEs count pTmp) := by
  induction count generalizing pTmp with
  | zero => exact fun _ member => absurd member List.not_mem_nil
  | succ count ih =>
    rw [listedCiphers, Suites, List.forall_mem_cons]
    refine ⟨?_, ih _⟩
    unfold pairCipherOf
    split <;> simp

/-- The cipher in front behind a list: WEP does not come there, as an enumerator it is below the
value that says there is none. -/
theorem pairCipher_addListed (group : WepStatus) {listed : List WepStatus}
    (suites : Suites listed) :
    (addListed { groupCipher := group } listed).pairCipher =
      if .aesEnable ∈ listed then .aesEnable
      else if .tkipEnable ∈ listed then .tkipEnable else .wepDisabled := by
  induction listed using List.reverseRecOn with
  | nil => rfl
  | append_singleton front last ih =>
    obtain ⟨before, own⟩ := List.forall_mem_append.mp suites
    have known := own last (List.mem_singleton_self _)
    rw [addListed, List.foldl_append, List.foldl_cons, List.foldl_nil, ← addListed,
      CipherSetting.addPair, ih before]
    simp only [List.mem_append, List.mem_singleton]
    rcases known with rfl | rfl | rfl | rfl <;>
      by_cases aes : WepStatus.aesEnable ∈ front <;>
      by_cases tkip : WepStatus.tkipEnable ∈ front <;>
      simp [aes, tkip, rank]

theorem pairCipherAux_append (setting : CipherSetting) (front : List WepStatus) (last : WepStatus) :
    (addListed setting (front ++ [last])).pairCipherAux =
      if rank (addListed setting front).pairCipher < rank last then
        (addListed setting front).pairCipher
      else last := by
  rw [addListed, List.foldl_append, List.foldl_cons, List.foldl_nil, ← addListed,
    CipherSetting.addPair]
  split_ifs
  · rfl
  · rfl

theorem nextStrongest_eq (listed : List WepStatus) :
    nextStrongest listed =
      if .aesEnable ∈ listed then
        if .tkipEnable ∈ listed then .tkipEnable
        else if .wepEnabled ∈ listed then .wepEnabled else .wepDisabled
      else if .tkipEnable ∈ listed ∧ .wepEnabled ∈ listed then .wepEnabled else .wepDisabled := by
  have others (cipher : WepStatus) : cipher ∈ listed.filter (· ≠ strongest listed) ↔
      cipher ∈ listed ∧ cipher ≠ strongest listed := by
    rw [List.mem_filter, decide_eq_true_eq]
  unfold nextStrongest
  rw [strongest]
  simp only [others]
  unfold strongest
  by_cases aes : WepStatus.aesEnable ∈ listed <;>
    by_cases tkip : WepStatus.tkipEnable ∈ listed <;>
    by_cases wep : WepStatus.wepEnabled ∈ listed <;>
    simp [aes, tkip, wep]

/-- The loop ranks the ciphers of a list exactly when the list ends in order. -/
theorem ranked_iff (group : WepStatus) {listed : List WepStatus} (suites : Suites listed) :
    (addListed { groupCipher := group } listed).Ranked listed ↔ EndsInOrder listed := by
  cases listed using List.reverseRecOn with
  | nil =>
    apply iff_of_true
    · exact ⟨rfl, rfl⟩
    · refine ⟨fun wep => absurd wep.1 List.not_mem_nil, fun front last same => ?_⟩
      exact absurd (congrArg List.length same) (by simp)
  | append_singleton front last =>
    obtain ⟨before, own⟩ := List.forall_mem_append.mp suites
    have known := own last (List.mem_singleton_self _)
    have ends : EndsInOrder (front ++ [last]) ↔ ¬ OnlyWep (front ++ [last]) ∧
        (last = nextStrongest (front ++ [last]) ∨
          last = strongest (front ++ [last]) ∧ last ∉ front ∧ ¬ OnlyWep front) := by
      apply and_congr_right
      intro _
      constructor
      · intro all
        exact all front last rfl
      · intro this front' last' same
        obtain ⟨rfl, singles⟩ := List.append_inj' same rfl
        obtain rfl := List.singleton_inj.mp singles
        exact this
    rw [ends, CipherSetting.Ranked, pairCipherAux_append, pairCipher_addListed group suites,
      pairCipher_addListed group before, nextStrongest_eq, strongest, OnlyWep, OnlyWep]
    simp only [List.mem_append, List.mem_singleton]
    rcases known with rfl | rfl | rfl | rfl <;>
      by_cases aes : WepStatus.aesEnable ∈ front <;>
      by_cases tkip : WepStatus.tkipEnable ∈ front <;>
      by_cases wep : WepStatus.wepEnabled ∈ front <;>
      simp [aes, tkip, wep, rank]

theorem parseAkms_pairs (varIEs : Memory) (pEid count pTmp : Nat) (bss : BssEntry) :
    (parseAkms varIEs pEid count pTmp bss).bss.wpa2.pairCipher = bss.wpa2.pairCipher ∧
      (parseAkms varIEs pEid count pTmp bss).bss.wpa2.pairCipherAux = bss.wpa2.pairCipherAux := by
  have finish (bss : BssEntry) (capability : BitVec 16) :
      (rsnFinish bss capability).wpa2.pairCipher = bss.wpa2.pairCipher ∧
        (rsnFinish bss capability).wpa2.pairCipherAux = bss.wpa2.pairCipherAux := by
    simp only [rsnFinish, CipherSetting.checkMixed]
    split <;> exact ⟨rfl, rfl⟩
  have mode (bss : BssEntry) (mode : AuthMode) : (bss.addAuthMode mode).wpa2 = bss.wpa2 := by
    unfold BssEntry.addAuthMode
    split <;> rfl
  induction count generalizing pTmp bss with
  | zero => exact finish bss _
  | succ count ih =>
    rw [parseAkms]
    split
    · have rest := ih (pTmp + 4) (bss.addAuthMode (rsnAkm (varIEs (pTmp + 3)).toNat))
      rwa [mode] at rest
    · exact finish bss _

/-- What `BssCipherParse` begins with. -/
def BssEntry.cleared (bss : BssEntry) : BssEntry where
  privacy := bss.privacy
  bssType := bss.bssType
  ses := bss.ses
  wepStatus := if bss.privacy then .wepEnabled else .wepDisabled

/-- The suites of a WPA element, and the setting that the loop over them leaves. -/
def wpaListed (varIEs : Memory) (pEid : Nat) : List WepStatus :=
  listedCiphers varIEs (countAt varIEs (pEid + 12)) (pEid + 14)

def wpaLoop (varIEs : Memory) (pEid : Nat) : CipherSetting :=
  parsePairs varIEs (countAt varIEs (pEid + 12)) (pEid + 14)
    { groupCipher := groupCipherOf (varIEs (pEid + 11)).toNat .wepDisabled }

/-- The same for an RSN element. -/
def rsnListed (varIEs : Memory) (pEid : Nat) : List WepStatus :=
  listedCiphers varIEs (countAt varIEs (pEid + 8)) (pEid + 10)

def rsnLoop (varIEs : Memory) (pEid : Nat) : CipherSetting :=
  parsePairs varIEs (countAt varIEs (pEid + 8)) (pEid + 10)
    { groupCipher := groupCipherOf (varIEs (pEid + 7)).toNat .wepDisabled }

theorem addAuthMode_fields (bss : BssEntry) (mode : AuthMode) :
    (bss.addAuthMode mode).wpa = bss.wpa ∧ (bss.addAuthMode mode).bssType = bss.bssType := by
  unfold BssEntry.addAuthMode
  split <;> exact ⟨rfl, rfl⟩

theorem wpaAkm_fields (bss : BssEntry) (type : Nat) :
    (wpaAkm bss type).wpa = bss.wpa ∧ (wpaAkm bss type).bssType = bss.bssType := by
  unfold wpaAkm
  split
  · exact addAuthMode_fields bss _
  · exact addAuthMode_fields bss _
  · exact ⟨rfl, rfl⟩

theorem checkMixed_keepsPairs (setting : CipherSetting) :
    setting.checkMixed.pairCipher = setting.pairCipher ∧
      setting.checkMixed.pairCipherAux = setting.pairCipherAux := by
  unfold CipherSetting.checkMixed
  split <;> exact ⟨rfl, rfl⟩

theorem wpaFinish_pairs (bss : BssEntry) :
    (wpaFinish bss).wpa.pairCipher = bss.wpa.pairCipher ∧
      (wpaFinish bss).wpa.pairCipherAux =
        if bss.bssType = .adhoc ∧ bss.wpa.pairCipherAux = .wepDisabled then bss.wpa.groupCipher
        else bss.wpa.pairCipherAux := by
  unfold wpaFinish
  dsimp only
  rw [(checkMixed_keepsPairs _).1, (checkMixed_keepsPairs _).2]
  by_cases adhoc : bss.bssType = .adhoc
  · by_cases single : bss.wpa.pairCipherAux = .wepDisabled
    · simp [adhoc, single]
    · simp [adhoc, single]
  · simp [adhoc]

/-- What a WPA element leaves is what its loop does, but that an ad hoc network without a second
cipher takes the group cipher for one. -/
theorem parseWpaSuites_pairs (varIEs : Memory) (pEid : Nat) (bss : BssEntry) :
    (parseWpaSuites varIEs pEid bss.cleared).bss.wpa.pairCipher =
        (wpaLoop varIEs pEid).pairCipher ∧
      (parseWpaSuites varIEs pEid bss.cleared).bss.wpa.pairCipherAux =
        if bss.bssType = .adhoc ∧ (wpaLoop varIEs pEid).pairCipherAux = .wepDisabled then
          (wpaLoop varIEs pEid).groupCipher
        else (wpaLoop varIEs pEid).pairCipherAux := by
  have finish := wpaFinish_pairs (wpaAkm { bss.cleared with wpa := wpaLoop varIEs pEid }
    (varIEs (pEid + 14 + 4 * countAt varIEs (pEid + 12) + 5)).toNat)
  obtain ⟨wpa, bssType⟩ := wpaAkm_fields { bss.cleared with wpa := wpaLoop varIEs pEid }
    (varIEs (pEid + 14 + 4 * countAt varIEs (pEid + 12) + 5)).toNat
  rw [wpa, bssType] at finish
  exact finish

/-- What an RSN element leaves is what its loop does. -/
theorem parseRsnSuites_pairs (varIEs : Memory) (pEid : Nat) (bss : BssEntry) :
    (parseRsnSuites varIEs pEid bss.cleared).bss.wpa2.pairCipher =
        (rsnLoop varIEs pEid).pairCipher ∧
      (parseRsnSuites varIEs pEid bss.cleared).bss.wpa2.pairCipherAux =
        (rsnLoop varIEs pEid).pairCipherAux :=
  parseAkms_pairs varIEs pEid _ _ { bss.cleared with wpa2 := rsnLoop varIEs pEid }

/-- The loops over the suites of both kinds of element rank the ciphers exactly when the list ends
in order, and what they come to is what the entry is left with, but for the second cipher of an
ad hoc network. -/
theorem pairCiphers_ranked_iff (varIEs : Memory) (pEid : Nat) (bss : BssEntry) :
    ((wpaLoop varIEs pEid).Ranked (wpaListed varIEs pEid) ↔
        EndsInOrder (wpaListed varIEs pEid)) ∧
      ((rsnLoop varIEs pEid).Ranked (rsnListed varIEs pEid) ↔
        EndsInOrder (rsnListed varIEs pEid)) ∧
      (bss.bssType ≠ .adhoc →
        ((parseWpaSuites varIEs pEid bss.cleared).bss.wpa.Ranked (wpaListed varIEs pEid) ↔
          EndsInOrder (wpaListed varIEs pEid))) ∧
      ((parseRsnSuites varIEs pEid bss.cleared).bss.wpa2.Ranked (rsnListed varIEs pEid) ↔
        EndsInOrder (rsnListed varIEs pEid)) := by
  have wpa : (wpaLoop varIEs pEid).Ranked (wpaListed varIEs pEid) ↔
      EndsInOrder (wpaListed varIEs pEid) := by
    rw [wpaLoop, parsePairs_eq]
    exact ranked_iff _ (suites_listed _ _ _)
  have rsn : (rsnLoop varIEs pEid).Ranked (rsnListed varIEs pEid) ↔
      EndsInOrder (rsnListed varIEs pEid) := by
    rw [rsnLoop, parsePairs_eq]
    exact ranked_iff _ (suites_listed _ _ _)
  refine ⟨wpa, rsn, fun infra => ?_, ?_⟩
  · obtain ⟨pair, aux⟩ := parseWpaSuites_pairs varIEs pEid bss
    rw [if_neg fun adhoc => infra adhoc.1] at aux
    rw [CipherSetting.Ranked, pair, aux]
    exact wpa
  · obtain ⟨pair, aux⟩ := parseRsnSuites_pairs varIEs pEid bss
    rw [CipherSetting.Ranked, pair, aux]
    exact rsn

/-- An RSN element with three pairwise suites. -/
def threeSuites (first second third : UInt8) : Memory := fun address =>
  [0x30, 26, 1, 0, 0x00, 0x0f, 0xac, 4, 3, 0, 0x00, 0x0f, 0xac, first, 0x00, 0x0f, 0xac, second,
    0x00, 0x0f, 0xac, third, 1, 0, 0x00, 0x0f, 0xac, 2].getD address 0

/-- With CCMP, WEP and TKIP in another order the second cipher is another one, and not the next
strongest. -/
theorem threeSuites_not_ranked :
    ¬ (rsnLoop (threeSuites 4 2 1) 0).Ranked (rsnListed (threeSuites 4 2 1) 0) ∧
      (rsnListed (threeSuites 4 2 1) 0).Perm (rsnListed (threeSuites 4 1 2) 0) ∧
      (rsnLoop (threeSuites 4 2 1) 0).pairCipherAux ≠
        (rsnLoop (threeSuites 4 1 2) 0).pairCipherAux := by
  refine ⟨?_, ?_, ?_⟩
  · rintro ⟨-, aux⟩
    revert aux
    decide
  · decide
  · decide

end Mt7612u.Security
