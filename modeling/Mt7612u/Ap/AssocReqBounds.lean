import Mt7612u.Ap.AssocReq
import Mt7612u.Sta.AssocBounds

/-! When `PeerAssocReqCmmSanity` stays inside the frame and the fields of `IE_LISTS`. -/

namespace Mt7612u.Ap
open Receive (Memory Span)
open Mlme
open Sta (Accesses maxLenOfRsnie inside_append inside_reads_append inside_cons inside_nil)

section fits
variable (wpa : Bool) (frame : Memory) (msgLen : Nat)

/-- The element is one of a vendor, or an RSN element. -/
def IsVendor (pEid : Nat) : Prop := (frame pEid).toNat = 221 ∨ (frame pEid).toNat = 48

/-- It is kept, if it is not too short. -/
def IsRsn (pEid : Nat) : Prop :=
  wpa = true ∧ frame.equal (pEid + 2) wpsOui = false ∧
    (frame.equal (pEid + 2) wpaOui = true ∨ frame.equal (pEid + 4) rsnOui = true)

/-- The comparisons stay inside the frame: that with the WPS OUI, and when it fails those that
follow; and an element that is kept has room in `RSN_IE`. -/
structure VendorFits (pEid : Nat) : Prop where
  wps : pEid + 6 ≤ msgLen
  others : frame.equal (pEid + 2) wpsOui = false → pEid + 8 ≤ msgLen
  stored : IsRsn wpa frame pEid → lenAt frame pEid + 2 ≤ maxLenOfRsnie

/-- The function returns at once: the SSID is too long, or the security element too short. -/
def Returns (pEid : Nat) (ssidSeen : Bool) : Prop :=
  (frame pEid).toNat = 0 ∧ ssidSeen = false ∧ maxLenOfSsid < lenAt frame pEid ∨
    IsVendor frame pEid ∧ IsRsn wpa frame pEid ∧ lenAt frame pEid < minLenOfRsnie ∧
      ¬ (lenAt frame pEid = 7 ∧ (frame.equal (pEid + 2) ralinkOui = true ∨
        frame.equal (pEid + 2) wmeInfoElem = true))

/-- The elements from a place on: behind the last whole one there is another length byte. -/
inductive ElementsFit : Nat → Bool → Prop where
  | ranOut {pEid : Nat} {ssidSeen : Bool} (header : pEid + 2 ≤ msgLen)
      (short : msgLen ≤ pEid + lenAt frame pEid + 1) : ElementsFit pEid ssidSeen
  | element {pEid : Nat} {ssidSeen : Bool} (whole : pEid + lenAt frame pEid + 1 < msgLen)
      (vendor : IsVendor frame pEid → VendorFits wpa frame msgLen pEid)
      (rest : ¬ Returns wpa frame pEid ssidSeen →
        ElementsFit (pEid + 2 + lenAt frame pEid)
          (ssidSeen || decide ((frame pEid).toNat = 0))) :
      ElementsFit pEid ssidSeen

end fits

section turns
variable {frame : Memory} {msgLen pEid : Nat} {s : Scan} {wpa : Bool}

/-- A turn reads inside its element and stores inside the fields. -/
structure Turn.Contained (turn : Turn) (frame : Memory) (pEid : Nat) : Prop where
  reads : ∀ span ∈ turn.reads, span.start + span.count ≤ pEid + 2 + lenAt frame pEid
  stores : ∀ store ∈ turn.stores, store.count ≤ store.capacity

/-- The rates keep inside their field. -/
def Scan.RatesFit (s : Scan) : Prop := s.lists.supportedRates.length ≤ maxLenOfSupportedRates

theorem followedBy_contained {first : Turn} {second : Scan → Turn}
    (start : first.Contained frame pEid) (next : (second first.scan).Contained frame pEid) :
    (first.followedBy second).Contained frame pEid where
  reads := by
    intro span member
    rcases List.mem_append.mp member with front | back
    · exact start.reads span front
    · exact next.reads span back
  stores := by
    intro store member
    rcases List.mem_append.mp member with front | back
    · exact start.stores store front
    · exact next.stores store back

theorem ssidTurn_contained : (ssidTurn frame pEid s).Contained frame pEid := by
  unfold ssidTurn
  constructor <;> split_ifs <;> simp_all [octets]

theorem suppRatesTurn_contained : (suppRatesTurn frame pEid s).Contained frame pEid := by
  unfold suppRatesTurn
  constructor <;> split_ifs <;> simp_all [octets, rateDefault, maxLenOfSupportedRates]

theorem extSuppRatesTurn_contained (rates : s.RatesFit) :
    (extSuppRatesTurn frame pEid s).Contained frame pEid := by
  unfold Scan.RatesFit at rates
  unfold extSuppRatesTurn
  constructor
  · intro span member
    rw [List.mem_singleton.mp member]
    unfold octets
    dsimp only
    split_ifs <;> omega
  · intro store member
    rw [List.mem_singleton.mp member]
    dsimp only
    split_ifs <;> omega

theorem htCapTurn_contained : (htCapTurn frame pEid s).Contained frame pEid := by
  unfold htCapTurn
  constructor <;> split_ifs <;> simp_all [octets]

theorem extCapabilityTurn_contained : (extCapabilityTurn frame pEid s).Contained frame pEid := by
  unfold extCapabilityTurn
  constructor <;> split_ifs <;> simp_all [octets]

theorem operatingModeTurn_contained : (operatingModeTurn frame pEid s).Contained frame pEid := by
  unfold operatingModeTurn
  constructor <;> split_ifs <;> simp_all [octets]

theorem vhtOpTurn_contained : (vhtOpTurn frame pEid s).Contained frame pEid := by
  apply followedBy_contained _ operatingModeTurn_contained
  constructor <;> split_ifs <;> simp_all [octets]

theorem vhtCapTurn_contained : (vhtCapTurn frame pEid s).Contained frame pEid := by
  apply followedBy_contained _ vhtOpTurn_contained
  constructor <;> split_ifs <;> simp_all [octets]

/-- Every element but those of the vendors. -/
theorem elementTurn_contained (rates : s.RatesFit) (other : ¬ IsVendor frame pEid) :
    (elementTurn frame pEid s wpa).Contained frame pEid := by
  unfold IsVendor at other
  rw [not_or] at other
  unfold elementTurn
  split
  · exact ssidTurn_contained
  · exact suppRatesTurn_contained
  · exact extSuppRatesTurn_contained rates
  · exact htCapTurn_contained
  · exact extCapabilityTurn_contained
  · exact absurd ‹_› other.1
  · exact absurd ‹_› other.2
  · exact vhtCapTurn_contained
  · exact vhtOpTurn_contained
  · exact operatingModeTurn_contained
  · exact ⟨nofun, nofun⟩

/-- A turn stays inside the frame and the fields. -/
def Turn.Inside (turn : Turn) (msgLen : Nat) : Prop :=
  Accesses.Inside msgLen ⟨turn.reads, turn.stores⟩

theorem Turn.Contained.inside {turn : Turn} (contained : turn.Contained frame pEid)
    (whole : pEid + 2 + lenAt frame pEid ≤ msgLen) : turn.Inside msgLen :=
  ⟨fun span member => (contained.reads span member).trans whole, contained.stores⟩

theorem followedBy_inside {first : Turn} {second : Scan → Turn} :
    (first.followedBy second).Inside msgLen ↔
      first.Inside msgLen ∧ (second first.scan).Inside msgLen :=
  inside_append

theorem broadcomTurn_inside (whole : pEid + 2 + lenAt frame pEid ≤ msgLen)
    (oui : pEid + 6 ≤ msgLen) : (broadcomTurn frame pEid s).Inside msgLen := by
  have size : sizeHtCapIe = 26 := rfl
  unfold Turn.Inside broadcomTurn octets
  by_cases broadcom : frame.equal (pEid + 2) broadcomOui = true
  · rw [if_pos broadcom]
    by_cases draft : frame (pEid + 5) = 0x33 ∧ lenAt frame pEid = sizeHtCapIe + 4
    · rw [if_pos draft, inside_cons, inside_cons, inside_cons]
      have length := draft.2
      refine ⟨by dsimp only; omega, by dsimp only; omega, by dsimp only; omega, nofun, ?_⟩
      exact List.forall_mem_singleton.mpr le_rfl
    · rw [if_neg draft, inside_cons, inside_cons]
      exact ⟨by dsimp only; omega, by dsimp only; omega, inside_nil msgLen⟩
  · rw [if_neg broadcom, inside_cons]
    exact ⟨by dsimp only; omega, inside_nil msgLen⟩

theorem rsnTurn_inside_iff (whole : pEid + 2 + lenAt frame pEid ≤ msgLen)
    (oui : pEid + 8 ≤ msgLen) :
    (rsnTurn frame pEid s).Inside msgLen ↔
      (frame.equal (pEid + 2) wpaOui = true ∨ frame.equal (pEid + 4) rsnOui = true →
        lenAt frame pEid + 2 ≤ maxLenOfRsnie) := by
  have looked (rest : Accesses) :
      Accesses.Inside msgLen ⟨(if frame.equal (pEid + 2) wpaOui = true then [octets pEid 4]
        else [octets pEid 4, ⟨pEid + 4, 3⟩]) ++ rest.reads, rest.stores⟩ ↔
        rest.Inside msgLen := by
    rw [inside_reads_append]
    apply and_iff_right
    unfold octets
    split_ifs
    · exact inside_cons.mpr ⟨by dsimp only; omega, inside_nil msgLen⟩
    · rw [inside_cons, inside_cons]
      exact ⟨by dsimp only; omega, by dsimp only; omega, inside_nil msgLen⟩
  have plain := looked ⟨[], []⟩
  rw [List.append_nil] at plain
  unfold Turn.Inside rsnTurn
  by_cases kept : frame.equal (pEid + 2) wpaOui = true ∨ frame.equal (pEid + 4) rsnOui = true
  · rw [if_pos kept, imp_iff_right kept]
    by_cases long : minLenOfRsnie ≤ lenAt frame pEid
    · rw [if_pos long]
      refine (looked ⟨[wholeElement frame pEid], [⟨maxLenOfRsnie, lenAt frame pEid + 2⟩]⟩).trans ?_
      unfold Accesses.Inside
      rw [List.forall_mem_singleton, List.forall_mem_singleton]
      apply and_iff_right
      unfold wholeElement
      dsimp only
      omega
    · rw [if_neg long]
      apply iff_of_true (plain.mpr (inside_nil msgLen))
      have short : minLenOfRsnie = 18 := rfl
      have capacity : maxLenOfRsnie = 255 := rfl
      omega
  · rw [if_neg kept]
    exact iff_of_true (plain.mpr (inside_nil msgLen)) fun is => absurd is kept

theorem ralinkTurn_inside_iff (whole : pEid + 2 + lenAt frame pEid ≤ msgLen)
    (oui : pEid + 6 ≤ msgLen) :
    (ralinkTurn frame pEid s wpa).Inside msgLen ↔
      pEid + 8 ≤ msgLen ∧ (wpa = true →
        frame.equal (pEid + 2) wpaOui = true ∨ frame.equal (pEid + 4) rsnOui = true →
        lenAt frame pEid + 2 ≤ maxLenOfRsnie) := by
  have capacity : maxLenOfRsnie = 255 := rfl
  have compared : Accesses.Inside msgLen ⟨[octets pEid 3, octets pEid 6], []⟩ ↔
      pEid + 8 ≤ msgLen := by
    unfold octets
    rw [inside_cons, inside_cons]
    constructor
    · exact fun inside => inside.2.1
    · exact fun six => ⟨by dsimp only; omega, six, inside_nil msgLen⟩
  unfold ralinkTurn
  by_cases ralink : frame.equal (pEid + 2) ralinkOui = true ∧ lenAt frame pEid = 7
  · have length := ralink.2
    rw [if_pos ralink]
    apply iff_of_true
    · unfold Turn.Inside octets
      rw [inside_cons, inside_cons]
      exact ⟨by dsimp only; omega, by dsimp only; omega, inside_nil msgLen⟩
    · exact ⟨by omega, fun _ _ => by omega⟩
  · rw [if_neg ralink]
    by_cases wme : frame.equal (pEid + 2) wmeInfoElem = true ∧ lenAt frame pEid = 7
    · have length := wme.2
      rw [if_pos wme]
      exact iff_of_true (compared.mpr (by omega)) ⟨by omega, fun _ _ => by omega⟩
    · rw [if_neg wme]
      by_cases mode : wpa = true
      · rw [if_pos mode, followedBy_inside, imp_iff_right mode]
        refine (and_congr_left' compared).trans ?_
        apply and_congr_right
        exact rsnTurn_inside_iff whole
      · rw [if_neg mode]
        exact compared.trans (and_iff_left fun is => absurd is mode).symm

/-- The element of a vendor. -/
theorem vendorTurn_inside_iff (whole : pEid + 2 + lenAt frame pEid ≤ msgLen) :
    (vendorTurn frame pEid s wpa).Inside msgLen ↔ VendorFits wpa frame msgLen pEid := by
  have compared (scan : Scan) : Turn.Inside { scan := scan, reads := [octets pEid 4] } msgLen ↔
      pEid + 6 ≤ msgLen :=
    inside_cons.trans (and_iff_left (inside_nil msgLen))
  unfold vendorTurn
  cases wps : frame.equal (pEid + 2) wpsOui with
  | true =>
    rw [if_pos rfl, compared]
    constructor
    · intro oui
      exact ⟨oui, fun same => absurd (wps.symm.trans same) (by decide),
        fun is => absurd (wps.symm.trans is.2.1) (by decide)⟩
    · exact fun fits => fits.wps
  | false =>
    rw [if_neg Bool.false_ne_true, followedBy_inside, compared, followedBy_inside]
    constructor
    · rintro ⟨oui, _, rest⟩
      obtain ⟨others, stored⟩ := (ralinkTurn_inside_iff whole oui).mp rest
      exact ⟨oui, fun _ => others, fun is => stored is.1 is.2.2⟩
    · intro fits
      have rest : (ralinkTurn frame pEid (broadcomTurn frame pEid s).scan wpa).Inside msgLen :=
        (ralinkTurn_inside_iff whole fits.wps).mpr
          ⟨fits.others wps, fun mode is => fits.stored ⟨mode, wps, is⟩⟩
      exact ⟨fits.wps, broadcomTurn_inside whole fits.wps, rest⟩

/-- Any element. -/
theorem elementTurn_inside_iff (rates : s.RatesFit)
    (whole : pEid + 2 + lenAt frame pEid ≤ msgLen) :
    (elementTurn frame pEid s wpa).Inside msgLen ↔
      (IsVendor frame pEid → VendorFits wpa frame msgLen pEid) := by
  by_cases vendor : IsVendor frame pEid
  · have turn : elementTurn frame pEid s wpa = vendorTurn frame pEid s wpa := by
      obtain eid | eid := vendor <;> simp only [elementTurn, eid]
    rw [turn, vendorTurn_inside_iff whole, imp_iff_right vendor]
  · exact iff_of_true ((elementTurn_contained rates vendor).inside whole)
      fun is => absurd is vendor

/-- A turn leaves the SSID and the rates alone. -/
structure Turn.Keeps (turn : Turn) (s : Scan) : Prop where
  ssidSeen : turn.scan.ssidSeen = s.ssidSeen
  rates : turn.scan.lists.supportedRates = s.lists.supportedRates

theorem followedBy_keeps {first : Turn} {second : Scan → Turn} (start : first.Keeps s)
    (next : ∀ s', (second s').Keeps s') : (first.followedBy second).Keeps s where
  ssidSeen := (next first.scan).ssidSeen.trans start.ssidSeen
  rates := (next first.scan).rates.trans start.rates

theorem ralinkTurn_keeps (s : Scan) : (ralinkTurn frame pEid s wpa).Keeps s := by
  unfold ralinkTurn
  split_ifs
  · exact ⟨rfl, rfl⟩
  · exact ⟨rfl, rfl⟩
  · exact ⟨rfl, rfl⟩
  · apply followedBy_keeps ⟨rfl, rfl⟩
    intro s'
    unfold rsnTurn
    dsimp only
    constructor <;> split_ifs <;> rfl
  · exact ⟨rfl, rfl⟩

theorem broadcomTurn_keeps (s : Scan) : (broadcomTurn frame pEid s).Keeps s := by
  unfold broadcomTurn
  constructor <;> split_ifs <;> rfl

theorem vendorTurn_keeps : (vendorTurn frame pEid s wpa).Keeps s := by
  unfold vendorTurn
  split_ifs
  · exact ⟨rfl, rfl⟩
  · apply followedBy_keeps ⟨rfl, rfl⟩
    intro s'
    exact followedBy_keeps (broadcomTurn_keeps s') ralinkTurn_keeps

theorem operatingModeTurn_keeps (s : Scan) : (operatingModeTurn frame pEid s).Keeps s := by
  unfold operatingModeTurn
  constructor <;> split_ifs <;> rfl

theorem vhtOpTurn_keeps (s : Scan) : (vhtOpTurn frame pEid s).Keeps s := by
  apply followedBy_keeps _ operatingModeTurn_keeps
  constructor <;> split_ifs <;> rfl

theorem vhtCapTurn_keeps : (vhtCapTurn frame pEid s).Keeps s := by
  apply followedBy_keeps _ vhtOpTurn_keeps
  constructor <;> split_ifs <;> rfl

/-- The rates still fit behind any element. -/
theorem elementTurn_ratesFit (rates : s.RatesFit) :
    (elementTurn frame pEid s wpa).scan.RatesFit := by
  unfold Scan.RatesFit at rates ⊢
  have bound : maxLenOfSupportedRates = 12 := rfl
  unfold elementTurn
  split
  · unfold ssidTurn
    split_ifs <;> exact rates
  · unfold suppRatesTurn octetBytes
    split_ifs with short
    · dsimp only
      rw [Memory.length_bytes]
      exact short.1
    · show rateDefault.length ≤ 12
      decide
  · unfold extSuppRatesTurn octetBytes
    dsimp only
    rw [List.length_append, Memory.length_bytes]
    split_ifs <;> omega
  · unfold htCapTurn
    split_ifs <;> exact rates
  · unfold extCapabilityTurn
    split_ifs <;> exact rates
  · rwa [vendorTurn_keeps.rates]
  · rwa [vendorTurn_keeps.rates]
  · rwa [vhtCapTurn_keeps.rates]
  · rwa [(vhtOpTurn_keeps s).rates]
  · rwa [(operatingModeTurn_keeps s).rates]
  · exact rates

/-- The SSID is seen behind its element, unless the function has returned there. -/
theorem elementTurn_ssidSeen (goesOn : (elementTurn frame pEid s wpa).returned = false) :
    (elementTurn frame pEid s wpa).scan.ssidSeen =
      (s.ssidSeen || decide ((frame pEid).toNat = 0)) := by
  by_cases ssid : (frame pEid).toNat = 0
  · simp only [elementTurn, ssid] at goesOn ⊢
    unfold ssidTurn at goesOn ⊢
    split_ifs at goesOn ⊢ with seen <;> simp_all
  · rw [decide_eq_false ssid, Bool.or_false]
    unfold elementTurn
    split
    · exact absurd ‹_› ssid
    · unfold suppRatesTurn
      split_ifs <;> rfl
    · rfl
    · unfold htCapTurn
      split_ifs <;> rfl
    · unfold extCapabilityTurn
      split_ifs <;> rfl
    · exact vendorTurn_keeps.ssidSeen
    · exact vendorTurn_keeps.ssidSeen
    · exact vhtCapTurn_keeps.ssidSeen
    · exact (vhtOpTurn_keeps s).ssidSeen
    · exact (operatingModeTurn_keeps s).ssidSeen
    · rfl

theorem rsnTurn_returned_iff :
    (rsnTurn frame pEid s).returned = true ↔
      (frame.equal (pEid + 2) wpaOui = true ∨ frame.equal (pEid + 4) rsnOui = true) ∧
        lenAt frame pEid < minLenOfRsnie := by
  unfold rsnTurn
  by_cases kept : frame.equal (pEid + 2) wpaOui = true ∨ frame.equal (pEid + 4) rsnOui = true
  · rw [if_pos kept]
    by_cases long : minLenOfRsnie ≤ lenAt frame pEid
    · rw [if_pos long]
      exact iff_of_false Bool.false_ne_true fun both => not_lt.mpr long both.2
    · rw [if_neg long]
      exact iff_of_true rfl ⟨kept, not_le.mp long⟩
  · rw [if_neg kept]
    exact iff_of_false Bool.false_ne_true fun both => kept both.1

theorem ralinkTurn_returned_iff :
    (ralinkTurn frame pEid s wpa).returned = true ↔
      wpa = true ∧
        (frame.equal (pEid + 2) wpaOui = true ∨ frame.equal (pEid + 4) rsnOui = true) ∧
        lenAt frame pEid < minLenOfRsnie ∧
        ¬ (lenAt frame pEid = 7 ∧ (frame.equal (pEid + 2) ralinkOui = true ∨
          frame.equal (pEid + 2) wmeInfoElem = true)) := by
  unfold ralinkTurn
  by_cases ralink : frame.equal (pEid + 2) ralinkOui = true ∧ lenAt frame pEid = 7
  · rw [if_pos ralink]
    exact iff_of_false Bool.false_ne_true fun all => all.2.2.2 ⟨ralink.2, .inl ralink.1⟩
  · rw [if_neg ralink]
    by_cases wme : frame.equal (pEid + 2) wmeInfoElem = true ∧ lenAt frame pEid = 7
    · rw [if_pos wme]
      exact iff_of_false Bool.false_ne_true fun all => all.2.2.2 ⟨wme.2, .inr wme.1⟩
    · rw [if_neg wme]
      by_cases mode : wpa = true
      · rw [if_pos mode]
        refine (rsnTurn_returned_iff (s := s)).trans ?_
        tauto
      · rw [if_neg mode]
        exact iff_of_false Bool.false_ne_true fun all => mode all.1

/-- The other elements never make it return. -/
theorem otherTurn_returned (ssid : (frame pEid).toNat ≠ 0) (vendor : ¬ IsVendor frame pEid) :
    (elementTurn frame pEid s wpa).returned = false := by
  unfold IsVendor at vendor
  rw [not_or] at vendor
  have last (s : Scan) : (operatingModeTurn frame pEid s).returned = false := by
    unfold operatingModeTurn
    split_ifs <;> rfl
  unfold elementTurn
  split
  · exact absurd ‹_› ssid
  · unfold suppRatesTurn
    split_ifs <;> rfl
  · rfl
  · unfold htCapTurn
    split_ifs <;> rfl
  · unfold extCapabilityTurn
    split_ifs <;> rfl
  · exact absurd ‹_› vendor.1
  · exact absurd ‹_› vendor.2
  · exact last _
  · exact last _
  · exact last s
  · rfl

/-- Where the function returns out of the loop. -/
theorem elementTurn_returned_iff :
    (elementTurn frame pEid s wpa).returned = true ↔ Returns wpa frame pEid s.ssidSeen := by
  by_cases vendor : IsVendor frame pEid
  · have turn : elementTurn frame pEid s wpa = vendorTurn frame pEid s wpa := by
      obtain eid | eid := vendor <;> simp only [elementTurn, eid]
    have notSsid : (frame pEid).toNat ≠ 0 := by
      obtain eid | eid := vendor <;> omega
    rw [turn]
    unfold vendorTurn Returns IsRsn
    cases wps : frame.equal (pEid + 2) wpsOui with
    | true =>
      rw [if_pos rfl]
      simp [notSsid]
    | false =>
      rw [if_neg Bool.false_ne_true]
      refine (ralinkTurn_returned_iff (s := (broadcomTurn frame pEid s).scan)).trans ?_
      tauto
  · unfold Returns
    rw [or_iff_left fun all => vendor all.1]
    by_cases ssid : (frame pEid).toNat = 0
    · rw [and_iff_right ssid]
      simp only [elementTurn, ssid]
      unfold ssidTurn
      split_ifs with seen short <;> simp_all
    · rw [otherTurn_returned ssid vendor]
      exact iff_of_false Bool.false_ne_true fun all => ssid all.1

/-- The loop. -/
theorem scanElements_inside_iff (rates : s.RatesFit) :
    (scanElements wpa frame msgLen pEid s).accesses.Inside msgLen ↔
      ElementsFit wpa frame msgLen pEid s.ssidSeen := by
  fun_induction scanElements wpa frame msgLen pEid s with
  | case1 pEid s whole turn reads returned =>
    have fits := @elementTurn_inside_iff frame msgLen pEid s wpa rates (by omega)
    have stops := elementTurn_returned_iff.mp returned
    have accesses : Accesses.Inside msgLen ⟨reads, turn.stores⟩ ↔ turn.Inside msgLen := by
      show Accesses.Inside msgLen ⟨_ :: _ :: turn.reads, turn.stores⟩ ↔ _
      rw [inside_cons, inside_cons]
      constructor
      · exact fun all => all.2.2
      · exact fun inside => ⟨by dsimp only; omega, by dsimp only; omega, inside⟩
    refine accesses.trans (fits.trans ?_)
    constructor
    · exact fun vendor => .element whole vendor fun goesOn => absurd stops goesOn
    · intro all
      cases all with
      | ranOut _ short => exact absurd whole (not_lt.mpr short)
      | element _ vendor _ => exact vendor
  | case2 pEid s whole turn reads goesOn rest ih =>
    have fits := @elementTurn_inside_iff frame msgLen pEid s wpa rates (by omega)
    have goes : turn.returned = false := Bool.eq_false_iff.mpr goesOn
    have seen : turn.scan.ssidSeen = (s.ssidSeen || decide ((frame pEid).toNat = 0)) :=
      elementTurn_ssidSeen goes
    have tail := ih (elementTurn_ratesFit rates)
    rw [seen] at tail
    have accesses : Accesses.Inside msgLen
        ⟨reads ++ rest.accesses.reads, turn.stores ++ rest.accesses.stores⟩ ↔
          turn.Inside msgLen ∧ rest.accesses.Inside msgLen := by
      rw [inside_append]
      apply and_congr_left'
      show Accesses.Inside msgLen ⟨_ :: _ :: turn.reads, turn.stores⟩ ↔ _
      rw [inside_cons, inside_cons]
      constructor
      · exact fun all => all.2.2
      · exact fun inside => ⟨by dsimp only; omega, by dsimp only; omega, inside⟩
    refine accesses.trans ((and_congr fits tail).trans ?_)
    constructor
    · rintro ⟨vendor, others⟩
      exact .element whole vendor fun _ => others
    · intro all
      cases all with
      | ranOut _ short => exact absurd whole (not_lt.mpr short)
      | element _ vendor others =>
        exact ⟨vendor, others fun stops => goesOn (elementTurn_returned_iff.mpr stops)⟩
  | case3 pEid s ended =>
    rw [inside_cons]
    constructor
    · rintro ⟨header, _⟩
      exact .ranOut header (not_lt.mp ended)
    · intro all
      cases all with
      | ranOut header _ => exact ⟨header, inside_nil msgLen⟩
      | element whole _ _ => exact absurd whole ended

end turns

/-- The request has its address, and when the sender has an entry, its fixed fields and its
elements. -/
structure AssocReqFits (c : AssocReqContext) (isReassoc : Bool) (frame : Memory) (msgLen : Nat) :
    Prop where
  addr2 : 16 ≤ msgLen
  elements : c.found = true →
    ElementsFit c.wpa frame msgLen (if isReassoc then 34 else 28) false

/-- Everything that is retained of a request stays inside: the reads inside the frame, the elements
inside the fields of `IE_LISTS`, and the RSN element, when the lists are accepted, inside that of
the entry. -/
def AssocReq.Safe (req : AssocReq) (msgLen : Nat) : Prop :=
  req.accesses.Inside msgLen ∧
    ∀ lists ∈ req.lists, (rsnIeCopy lists).count ≤ (rsnIeCopy lists).capacity

theorem ElementsFit.header {wpa : Bool} {frame : Memory} {msgLen pEid : Nat} {ssidSeen : Bool}
    (fits : ElementsFit wpa frame msgLen pEid ssidSeen) : pEid + 2 ≤ msgLen := by
  cases fits with
  | ranOut header _ => exact header
  | element whole _ _ => omega

/-- A length of eight bits fits the field of the entry. -/
theorem rsnIeCopy_fits (lists : IeLists) :
    (rsnIeCopy lists).count ≤ (rsnIeCopy lists).capacity :=
  Nat.le_of_lt_succ lists.rsnieLen.isLt

theorem peerAssocReqCmmSanity_inside_iff (c : AssocReqContext) (isReassoc : Bool)
    (frame : Memory) (msgLen : Nat) :
    (peerAssocReqCmmSanity c isReassoc frame msgLen).accesses.Inside msgLen ↔
      AssocReqFits c isReassoc frame msgLen := by
  unfold peerAssocReqCmmSanity
  cases found : c.found with
  | false =>
    rw [if_pos rfl, inside_cons]
    constructor
    · rintro ⟨addr2, _⟩
      exact ⟨addr2, fun present => absurd (found.symm.trans present) (by decide)⟩
    · exact fun fits => ⟨fits.addr2, inside_nil msgLen⟩
  | true =>
    rw [if_neg Bool.noConfusion]
    have empty : Scan.RatesFit { lists := {
        addr2 := frame.bytes 10 6
        capabilityInfo := capabilityOf frame 24
        listenInterval := capabilityOf frame 26
        apAddr := if isReassoc then frame.bytes 28 6 else [] } } := Nat.zero_le _
    have scanned := @scanElements_inside_iff frame msgLen (if isReassoc then 34 else 28) _ c.wpa
      empty
    dsimp only
    rw [inside_reads_append]
    constructor
    · rintro ⟨header, rest⟩
      have addr2 := header.1 ⟨10, 6⟩ List.mem_cons_self
      exact ⟨addr2, fun _ => scanned.mp rest⟩
    · intro fits
      have elements := fits.elements found
      have begun := elements.header
      refine ⟨?_, scanned.mpr elements⟩
      cases isReassoc with
      | false =>
        have begun : 28 + 2 ≤ msgLen := begun
        show Accesses.Inside msgLen ⟨[⟨10, 6⟩, ⟨24, 2⟩, ⟨26, 2⟩], []⟩
        rw [inside_cons, inside_cons, inside_cons]
        exact ⟨fits.addr2, by dsimp only; omega, by dsimp only; omega, inside_nil msgLen⟩
      | true =>
        have begun : 34 + 2 ≤ msgLen := begun
        show Accesses.Inside msgLen ⟨[⟨10, 6⟩, ⟨24, 2⟩, ⟨26, 2⟩, ⟨28, 6⟩], []⟩
        rw [inside_cons, inside_cons, inside_cons, inside_cons]
        exact ⟨fits.addr2, by dsimp only; omega, by dsimp only; omega, by dsimp only; omega,
          inside_nil msgLen⟩

/-- `PeerAssocReqCmmSanity` stays inside exactly on the requests whose elements fit. -/
theorem peerAssocReqCmmSanity_safe_iff (c : AssocReqContext) (isReassoc : Bool) (frame : Memory)
    (msgLen : Nat) :
    (peerAssocReqCmmSanity c isReassoc frame msgLen).Safe msgLen ↔
      AssocReqFits c isReassoc frame msgLen := by
  unfold AssocReq.Safe
  rw [and_iff_left fun lists _ => rsnIeCopy_fits lists]
  exact peerAssocReqCmmSanity_inside_iff c isReassoc frame msgLen

/-- An association request with a single element: an RSN element of 254 bytes. -/
def longRsnRequest : Memory :=
  fun address => ([48, 254, 1, 0, 0x00, 0x0f, 0xac, 4] : List UInt8).getD (address - 28) 0

/-- With its header it is one byte longer than `RSN_IE`. -/
theorem longRsnRequest_not_safe :
    ¬ (peerAssocReqCmmSanity ⟨true, true⟩ false longRsnRequest 284).Safe 284 := by
  rintro ⟨inside, _⟩
  have fits := (peerAssocReqCmmSanity_inside_iff _ _ _ _).mp inside
  cases fits.elements rfl with
  | ranOut _ short => exact absurd short (by decide)
  | element _ vendor _ =>
    have stored := (vendor (.inr rfl)).stored ⟨rfl, rfl, .inr rfl⟩
    exact absurd stored (by decide)

end Mt7612u.Ap
