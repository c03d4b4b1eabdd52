import Mt7612u.Security.CipherParse

/-! When `BssCipherParse` stays inside `VarIEs` and takes the suites of an element from that
element. -/

namespace Mt7612u.Security
open Receive (Memory Span)
open Mlme (lenAt wpaOui rsnOui)

/-- Every read is inside `VarIELen`, and that of a suite field also inside its element. -/
def ElementRead.Covered (varIEs : Memory) (varIELen : Nat) (read : ElementRead) : Prop :=
  read.span.start + read.span.count ≤ varIELen ∧
    (read.suite = true →
      read.span.start + read.span.count ≤ read.pEid + 2 + lenAt varIEs read.pEid)

def Parsed.Covered (varIEs : Memory) (varIELen : Nat) (parsed : Parsed) : Prop :=
  ∀ read ∈ parsed.reads, read.Covered varIEs varIELen

section fits
variable (varIEs : Memory) (varIELen : Nat)

/-- Where the element at `pEid` or `VarIELen` ends, whichever is first. -/
def elementEnd (pEid : Nat) : Nat := min varIELen (pEid + 2 + lenAt varIEs pEid)

/-- A list of AKM suites and the field behind it, of which a foreign OUI shows one byte more. -/
inductive AkmsFit (limit : Nat) : Nat → Nat → Prop where
  | done {pTmp : Nat} (capability : pTmp + 2 ≤ limit) : AkmsFit limit 0 pTmp
  | foreign {count pTmp : Nat} (other : varIEs.equal pTmp rsnOui = false)
      (oui : pTmp + 3 ≤ limit) : AkmsFit limit (count + 1) pTmp
  | suite {count pTmp : Nat} (same : varIEs.equal pTmp rsnOui = true)
      (rest : AkmsFit limit count (pTmp + 4)) : AkmsFit limit (count + 1) pTmp

/-- A vendor element reaches as far as its OUI, a WPA element as far as its first AKM suite. -/
def WpaFits (pEid : Nat) : Prop :=
  if varIEs.equal (pEid + 2) sesOui ∧ lenAt varIEs pEid = 7 then pEid + 5 ≤ varIELen
  else pEid + 6 ≤ varIELen ∧
    (varIEs.equal (pEid + 2) wpaOui = true →
      pEid + 20 + 4 * countAt varIEs (pEid + 12) ≤ elementEnd varIEs varIELen pEid)

/-- An RSN element of version 1 holds its group suite, its pairwise suites and its AKM suites. -/
def RsnFits (pEid : Nat) : Prop :=
  pEid + 4 ≤ varIELen ∧
    (countAt varIEs (pEid + 2) = 1 →
      pEid + 7 ≤ elementEnd varIEs varIELen pEid ∧
        (varIEs.equal (pEid + 4) rsnOui = true →
          AkmsFit varIEs (elementEnd varIEs varIELen pEid)
            (countAt varIEs (pEid + 10 + 4 * countAt varIEs (pEid + 8)))
            (pEid + 12 + 4 * countAt varIEs (pEid + 8))))

/-- The elements from a place on. -/
inductive CiphersFit : Nat → Prop where
  | done {pEid : Nat} (ended : varIELen ≤ pEid) : CiphersFit pEid
  | element {pEid : Nat} (header : pEid + 2 ≤ varIELen)
      (wpa : (varIEs pEid).toNat = ieWpa → WpaFits varIEs varIELen pEid)
      (rsn : (varIEs pEid).toNat = ieRsn → RsnFits varIEs varIELen pEid)
      (rest : CiphersFit (pEid + (lenAt varIEs pEid + 2))) : CiphersFit pEid

end fits

section covered
variable {varIEs : Memory} {varIELen : Nat}

theorem suite_covered_iff (pEid : Nat) (span : Span) :
    ElementRead.Covered varIEs varIELen ⟨pEid, true, span⟩ ↔
      span.start + span.count ≤ elementEnd varIEs varIELen pEid := by
  unfold ElementRead.Covered elementEnd
  rw [le_min_iff]
  simp

theorem other_covered_iff (pEid : Nat) (span : Span) :
    ElementRead.Covered varIEs varIELen ⟨pEid, false, span⟩ ↔
      span.start + span.count ≤ varIELen := by
  simp [ElementRead.Covered]

theorem covered_cons (bss : BssEntry) (read : ElementRead) (reads : List ElementRead) :
    Parsed.Covered varIEs varIELen ⟨bss, read :: reads⟩ ↔
      read.Covered varIEs varIELen ∧ Parsed.Covered varIEs varIELen ⟨bss, reads⟩ :=
  List.forall_mem_cons

theorem covered_append (bss : BssEntry) (first second : List ElementRead) :
    Parsed.Covered varIEs varIELen ⟨bss, first ++ second⟩ ↔
      Parsed.Covered varIEs varIELen ⟨bss, first⟩ ∧
        Parsed.Covered varIEs varIELen ⟨bss, second⟩ :=
  List.forall_mem_append

theorem covered_nil (bss : BssEntry) : Parsed.Covered varIEs varIELen ⟨bss, []⟩ :=
  List.forall_mem_nil _

/-- The pairwise suites are covered when the last of them is. -/
theorem pairReads_covered_iff (bss : BssEntry) (pEid count pTmp : Nat) :
    Parsed.Covered varIEs varIELen ⟨bss, pairReads pEid count pTmp⟩ ↔
      (0 < count → pTmp + 4 * count ≤ elementEnd varIEs varIELen pEid) := by
  induction count generalizing pTmp with
  | zero =>
    apply iff_of_true (covered_nil bss)
    exact fun positive => absurd positive (lt_irrefl 0)
  | succ count ih =>
    unfold pairReads
    rw [covered_cons, suite_covered_iff, ih]
    constructor
    · rintro ⟨first, rest⟩ _
      rcases Nat.eq_zero_or_pos count with none | some
      · subst none
        exact first
      · have last := rest some
        omega
    · intro last
      have reached := last (Nat.succ_pos count)
      exact ⟨by dsimp only; omega, fun _ => by omega⟩

theorem parseWpaSuites_covered_iff (pEid : Nat) (bss : BssEntry) :
    (parseWpaSuites varIEs pEid bss).Covered varIEs varIELen ↔
      pEid + 20 + 4 * countAt varIEs (pEid + 12) ≤ elementEnd varIEs varIELen pEid := by
  unfold parseWpaSuites
  dsimp only
  rw [covered_append, covered_append, covered_cons, covered_cons, covered_cons, covered_cons]
  simp only [suite_covered_iff, pairReads_covered_iff, covered_nil, and_true]
  constructor
  · rintro ⟨_, _, akm⟩
    omega
  · intro last
    exact ⟨⟨⟨by omega, by omega⟩, fun _ => by omega⟩, by omega, by omega⟩

theorem parseWpa_covered_iff (pEid : Nat) (bss : BssEntry) :
    (parseWpa varIEs pEid bss).Covered varIEs varIELen ↔ WpaFits varIEs varIELen pEid := by
  unfold parseWpa WpaFits
  by_cases ses : varIEs.equal (pEid + 2) sesOui ∧ lenAt varIEs pEid = 7
  · rw [if_pos ses, if_pos ses, covered_cons, other_covered_iff]
    exact and_iff_left (covered_nil _)
  · rw [if_neg ses, if_neg ses]
    by_cases wpa : varIEs.equal (pEid + 2) wpaOui = true
    · rw [if_pos wpa]
      dsimp only
      rw [covered_append, covered_cons, covered_cons, other_covered_iff, other_covered_iff]
      have suites := @parseWpaSuites_covered_iff varIEs varIELen pEid bss
      constructor
      · rintro ⟨⟨_, oui, _⟩, rest⟩
        exact ⟨oui, fun _ => suites.mp rest⟩
      · rintro ⟨oui, rest⟩
        exact ⟨⟨by dsimp only; omega, oui, covered_nil _⟩, suites.mpr (rest wpa)⟩
    · rw [if_neg wpa, covered_cons, covered_cons, other_covered_iff, other_covered_iff]
      constructor
      · rintro ⟨_, oui, _⟩
        exact ⟨oui, fun same => absurd same wpa⟩
      · rintro ⟨oui, _⟩
        exact ⟨by dsimp only; omega, oui, covered_nil _⟩

theorem AkmsFit.le {limit count pTmp : Nat} (fits : AkmsFit varIEs limit count pTmp) :
    pTmp + 2 ≤ limit := by
  induction fits with
  | done capability => exact capability
  | foreign _ oui => omega
  | suite _ _ ih => omega

theorem parseAkms_covered_iff (pEid count pTmp : Nat) (bss : BssEntry) :
    (parseAkms varIEs pEid count pTmp bss).Covered varIEs varIELen ↔
      AkmsFit varIEs (elementEnd varIEs varIELen pEid) count pTmp := by
  induction count generalizing pTmp bss with
  | zero =>
    unfold parseAkms
    rw [covered_cons, suite_covered_iff]
    constructor
    · exact fun covered => .done covered.1
    · intro fits
      cases fits with
      | done capability => exact ⟨capability, covered_nil _⟩
  | succ count ih =>
    unfold parseAkms
    by_cases same : varIEs.equal pTmp rsnOui = true
    · rw [if_pos same]
      dsimp only
      rw [covered_append, covered_cons, covered_cons, suite_covered_iff, suite_covered_iff]
      have tail := ih (pTmp + 4) (bss.addAuthMode (rsnAkm (varIEs (pTmp + 3)).toNat))
      constructor
      · rintro ⟨_, rest⟩
        exact .suite same (tail.mp rest)
      · intro fits
        cases fits with
        | foreign other _ => exact absurd same (by rw [other]; decide)
        | suite _ rest =>
          have reached := rest.le
          exact ⟨⟨by dsimp only; omega, by dsimp only; omega, covered_nil _⟩, tail.mpr rest⟩
    · rw [if_neg same, covered_cons, covered_cons, suite_covered_iff, suite_covered_iff]
      constructor
      · rintro ⟨oui, _⟩
        exact .foreign (Bool.eq_false_iff.mpr same) oui
      · intro fits
        have reached := fits.le
        cases fits with
        | foreign _ oui => exact ⟨oui, reached, covered_nil _⟩
        | suite holds _ => exact absurd holds same

theorem parseRsnSuites_covered_iff (pEid : Nat) (bss : BssEntry) :
    (parseRsnSuites varIEs pEid bss).Covered varIEs varIELen ↔
      AkmsFit varIEs (elementEnd varIEs varIELen pEid)
        (countAt varIEs (pEid + 10 + 4 * countAt varIEs (pEid + 8)))
        (pEid + 12 + 4 * countAt varIEs (pEid + 8)) := by
  unfold parseRsnSuites
  dsimp only
  rw [covered_append, covered_append, covered_cons, covered_cons, covered_cons]
  simp only [suite_covered_iff, pairReads_covered_iff, covered_nil, and_true]
  have place : pEid + 10 + 4 * countAt varIEs (pEid + 8) + 2 =
      pEid + 12 + 4 * countAt varIEs (pEid + 8) := by omega
  rw [place]
  constructor
  · rintro ⟨_, _, akms⟩
    exact (parseAkms_covered_iff _ _ _ _).mp akms
  · intro fits
    have reached := fits.le
    exact ⟨⟨⟨by omega, by omega⟩, fun _ => by omega⟩, by omega,
      (parseAkms_covered_iff _ _ _ _).mpr fits⟩

theorem parseRsn_covered_iff (pEid : Nat) (bss : BssEntry) :
    (parseRsn varIEs pEid bss).Covered varIEs varIELen ↔ RsnFits varIEs varIELen pEid := by
  unfold parseRsn RsnFits
  dsimp only
  by_cases version : countAt varIEs (pEid + 2) = 1
  · rw [if_neg (not_not.mpr version)]
    by_cases oui : varIEs.equal (pEid + 4) rsnOui = true
    · rw [if_pos oui, covered_append, covered_cons, covered_cons, other_covered_iff,
        suite_covered_iff]
      have suites := @parseRsnSuites_covered_iff varIEs varIELen pEid bss
      constructor
      · rintro ⟨⟨header, _⟩, group, rest⟩
        exact ⟨header, fun _ => ⟨group, fun _ => suites.mp rest⟩⟩
      · rintro ⟨header, rest⟩
        obtain ⟨group, akms⟩ := rest version
        exact ⟨⟨header, covered_nil _⟩, group, suites.mpr (akms oui)⟩
    · rw [if_neg oui, covered_append, covered_cons, covered_cons, other_covered_iff,
        suite_covered_iff]
      constructor
      · rintro ⟨⟨header, _⟩, group, _⟩
        exact ⟨header, fun _ => ⟨group, fun same => absurd same oui⟩⟩
      · rintro ⟨header, rest⟩
        exact ⟨⟨header, covered_nil _⟩, (rest version).1, covered_nil _⟩
  · rw [if_pos version, covered_cons, other_covered_iff]
    constructor
    · rintro ⟨header, _⟩
      exact ⟨header, fun same => absurd same version⟩
    · exact fun fits => ⟨fits.1, covered_nil _⟩

/-- The `switch`. -/
theorem parseElement_covered_iff (pEid : Nat) (bss : BssEntry) :
    (parseElement varIEs pEid bss).Covered varIEs varIELen ↔
      ((varIEs pEid).toNat = ieWpa → WpaFits varIEs varIELen pEid) ∧
        ((varIEs pEid).toNat = ieRsn → RsnFits varIEs varIELen pEid) := by
  unfold parseElement
  by_cases wpa : (varIEs pEid).toNat = ieWpa
  · rw [if_pos wpa, parseWpa_covered_iff, wpa]
    simp [ieWpa, ieRsn]
  · rw [if_neg wpa]
    by_cases rsn : (varIEs pEid).toNat = ieRsn
    · rw [if_pos rsn, parseRsn_covered_iff, rsn]
      simp [ieWpa, ieRsn]
    · rw [if_neg rsn]
      exact iff_of_true (covered_nil bss) ⟨fun same => absurd same wpa, fun same => absurd same rsn⟩

/-- The loop. -/
theorem parseElements_covered_iff (pEid : Nat) (bss : BssEntry) :
    (parseElements varIEs varIELen pEid bss).Covered varIEs varIELen ↔
      CiphersFit varIEs varIELen pEid := by
  fun_induction parseElements varIEs varIELen pEid bss with
  | case1 pEid bss more element rest ih =>
    rw [List.cons_append, covered_cons, covered_append, covered_cons, other_covered_iff,
      other_covered_iff]
    have turn := @parseElement_covered_iff varIEs varIELen pEid bss
    constructor
    · rintro ⟨_, body, header, tail⟩
      obtain ⟨wpa, rsn⟩ := turn.mp body
      exact .element header wpa rsn (ih.mp tail)
    · intro fits
      cases fits with
      | done ended => exact absurd more (not_lt.mpr ended)
      | element header wpa rsn tail =>
        exact ⟨more, turn.mpr ⟨wpa, rsn⟩, header, ih.mpr tail⟩
  | case2 pEid bss ended =>
    exact iff_of_true (covered_nil bss) (.done (not_lt.mp ended))

end covered

/-- `BssCipherParse` reads only what is there, and takes the suites of an element from it alone,
exactly when the elements are long enough for what they announce. -/
theorem bssCipherParse_covered_iff (varIEs : Memory) (varIELen : Nat) (bss : BssEntry) :
    (bssCipherParse varIEs varIELen bss).Covered varIEs varIELen ↔
      CiphersFit varIEs varIELen 0 := by
  unfold bssCipherParse
  exact parseElements_covered_iff 0 _

/-- An RSN element that ends with its pairwise count, which is 65535. -/
def endlessRsn : Memory :=
  fun address => [48, 8, 1, 0, 0x00, 0x0f, 0xac, 4, 0xff, 0xff].getD address 0

/-- The loop over the pairwise suites goes through a quarter of a megabyte behind `VarIEs`. -/
theorem endlessRsn_not_covered :
    ¬ (bssCipherParse endlessRsn 10 { privacy := true, bssType := .infra }).Covered endlessRsn 10 := by
  unfold bssCipherParse
  rw [parseElements_covered_iff]
  intro fits
  cases fits with
  | done ended => exact absurd ended (by decide)
  | element _ _ rsn _ =>
    obtain ⟨_, suites⟩ := rsn rfl
    obtain ⟨_, akms⟩ := suites rfl
    have reached := (akms rfl).le
    have count : countAt endlessRsn (0 + 8) = 65535 := by decide
    have last : elementEnd endlessRsn 10 0 = 10 := by decide
    rw [count, last] at reached
    omega

end Mt7612u.Security
