import Mt7612u.Transmit.SendPacket
import Mt7612u.Library.Directory

/-! Every packet given to a send function is queued once or freed once, as the result says, and
what the port control of the mode guards stays out of the queues while the port is shut. -/

namespace Mt7612u.Transmit
open BlockAck (Packet Wcid OpMode)
open Receive (Memory)
open Library.Directory (sum_update)

namespace TxAdapter
variable (pAd : TxAdapter) (pPacket : Packet) (x : Packet)

theorem held_insertTxSwQueue (queIdx : QueIdx) :
    (pAd.insertTxSwQueue queIdx pPacket).held x = pAd.held x + [pPacket].count x := by
  have changed := sum_update (fun q : QueueHeader => q.entries.count x) pAd.txSwQueue queIdx
    ((pAd.txSwQueue queIdx).insertTailQueue pPacket)
  simp only [QueueHeader.insertTailQueue, List.count_append] at changed
  simp only [held, insertTxSwQueue, psQueue, QueueHeader.insertTailQueue]
  omega

theorem held_setPsQueue (wcid : Wcid) (q : QueueHeader) :
    (pAd.setPsQueue wcid q).held x + (pAd.psQueue wcid).entries.count x =
      pAd.held x + q.entries.count x := by
  have changed := sum_update (fun entry : StationEntry => entry.psQueue.entries.count x)
    pAd.content wcid { pAd.content wcid with psQueue := q }
  simp only [held, setPsQueue, setEntry, psQueue]
  simp only at changed
  omega

theorem held_insertMcastPsQueue :
    (pAd.insertMcastPsQueue pPacket).held x = pAd.held x + [pPacket].count x := by
  simp only [held, insertMcastPsQueue, psQueue, QueueHeader.insertHeadQueue]
  rw [← List.singleton_append, List.count_append]
  omega

theorem held_insertPsQueue (wcid : Wcid) :
    (pAd.insertPsQueue wcid pPacket).held x = pAd.held x + [pPacket].count x := by
  have changed := pAd.held_setPsQueue x wcid ((pAd.psQueue wcid).insertTailQueue pPacket)
  have same : (pAd.insertPsQueue wcid pPacket).held x =
      (pAd.setPsQueue wcid ((pAd.psQueue wcid).insertTailQueue pPacket)).held x := rfl
  simp only [QueueHeader.insertTailQueue, List.count_append] at changed same
  omega

end TxAdapter

/-- What a send function owes its caller: with success the packet stands in one more place of
the queues, with failure it has been freed, and nothing else has moved. -/
def DisposedOnce (pAd : TxAdapter) (pPacket : Packet) : TxAdapter × NdisStatus → Prop
  | (pAd', .success) =>
      pAd'.freed = pAd.freed ∧ ∀ x, pAd'.held x = pAd.held x + [pPacket].count x
  | (pAd', .failure) =>
      pAd'.freed = pAd.freed ++ [pPacket] ∧ ∀ x, pAd'.held x = pAd.held x

theorem disposedOnce_kfree (pAd : TxAdapter) (pPacket : Packet) :
    DisposedOnce pAd pPacket (pAd.kfree pPacket, .failure) :=
  ⟨rfl, fun _ => rfl⟩

theorem apInsertPsQueue_disposes (pAd : TxAdapter) (pPacket : Packet) (wcid : Wcid) :
    DisposedOnce pAd pPacket (apInsertPsQueue pAd pPacket wcid) := by
  unfold apInsertPsQueue
  split
  next => exact disposedOnce_kfree pAd pPacket
  next => exact ⟨rfl, fun x => pAd.held_insertPsQueue pPacket x wcid⟩

theorem enqueue_disposes (setting : TxSetting) (pAd : TxAdapter) (pPacket : Packet) (wcid : Wcid)
    (route : Route) : DisposedOnce pAd pPacket (enqueue setting pAd pPacket wcid route) := by
  cases route with
  | drop => exact disposedOnce_kfree pAd pPacket
  | txSwQueue queIdx =>
    simp only [enqueue]
    split
    next => exact disposedOnce_kfree pAd pPacket
    next => exact ⟨rfl, fun x => pAd.held_insertTxSwQueue pPacket x queIdx⟩
  | mcastPsQueue apidx =>
    simp only [enqueue]
    split
    next => exact disposedOnce_kfree pAd pPacket
    next => exact ⟨rfl, fun x => pAd.held_insertMcastPsQueue pPacket x⟩
  | psQueue => exact apInsertPsQueue_disposes pAd pPacket wcid

theorem enqueue_drop_failure (setting : TxSetting) (pAd : TxAdapter) (pPacket : Packet)
    (wcid : Wcid) : (enqueue setting pAd pPacket wcid .drop).2 = .failure := rfl

/-- The type of what the frame carries: its own, or the one behind an LLC/SNAP header and a
VLAN tag. -/
def IsEapol (mem : Memory) : Prop :=
  ∃ outer llcSnap, llcSnapType mem = some (outer, llcSnap) ∧
    (vlanType mem outer).typeLen = ethTypeEapol

instance (mem : Memory) : Decidable (IsEapol mem) :=
  match found : llcSnapType mem with
  | none => isFalse fun ⟨_, _, typed, _⟩ => by simp [found] at typed
  | some (outer, llcSnap) =>
      decidable_of_iff ((vlanType mem outer).typeLen = ethTypeEapol)
        ⟨fun same => ⟨outer, llcSnap, found, same⟩, fun ⟨_, _, typed, same⟩ => by
          rw [found] at typed
          cases typed
          exact same⟩

/-- Only frames of the type are marked. -/
theorem rtmpCheckEtherType_eapol (setting : TxSetting) (mem : Memory) (wdev : Wdev)
    (other : ¬ IsEapol mem) : (rtmpCheckEtherType setting mem wdev).eapol = false := by
  unfold rtmpCheckEtherType
  split
  next => rfl
  next outer llcSnap found =>
    have apart : (vlanType mem outer).typeLen ≠ ethTypeEapol := fun same =>
      other ⟨outer, llcSnap, found, same⟩
    split
    next => rfl
    next =>
      simp only
      split
      next => rfl
      next => simpa using apart

/-- The device through which `APSendPacket` sends a packet. -/
def apWdev (setting : TxSetting) (pAd : TxAdapter) (pPacket : TxPacket) : Option Wdev :=
  if pPacket.wcid = mcastWcid then
    if inside : pPacket.ifIdx < wdevNumMax then setting.wdevList ⟨pPacket.ifIdx, inside⟩ else none
  else (pAd.content pPacket.wcid).wdev

/-- The pointer that `APSendPacket` follows for a packet to one station is set. -/
def WdevKnown (opMode : OpMode) (pAd : TxAdapter) (pPacket : TxPacket) : Prop :=
  opMode = .ap → pPacket.wcid ≠ mcastWcid → (pAd.content pPacket.wcid).wdev ≠ none

/-- The security of the link guards the port, and the port is not open: of the BSS for a group
and of the station's entry otherwise in an access point, of the link itself in a station. -/
def PortShut (opMode : OpMode) (setting : TxSetting) (pAd : TxAdapter) (pPacket : TxPacket) :
    Prop :=
  match opMode with
  | .ap => ∃ wdev, apWdev setting pAd pPacket = some wdev ∧
      (AuthMode.wpa.toNat ≤ wdev.authMode.toNat ∨ wdev.ieee8021X = true) ∧
      if pPacket.wcid = mcastWcid then wdev.portSecured = false
      else (pAd.content pPacket.wcid).portSecured = false
  | .sta => (setting.staWdev.authMode ∈ [AuthMode.wpa, .wpaPsk, .wpa2, .wpa2Psk] ∨
      setting.staWdev.ieee8021X = true) ∧ setting.staWdev.portSecured = false

theorem apRouteOn_shut {setting : TxSetting} {pAd : TxAdapter} {mem : Memory}
    {pPacket : TxPacket} {wdev : Wdev} (other : ¬ IsEapol mem)
    (guarded : AuthMode.wpa.toNat ≤ wdev.authMode.toNat ∨ wdev.ieee8021X = true)
    (shut : if pPacket.wcid = mcastWcid then wdev.portSecured = false
      else (pAd.content pPacket.wcid).portSecured = false) :
    apRouteOn setting pAd mem pPacket wdev = .drop := by
  have unmarked := rtmpCheckEtherType_eapol setting mem wdev other
  have refuses : apPortShut wdev (pAd.content pPacket.wcid) pPacket
      (rtmpCheckEtherType setting mem wdev).eapol = true := by
    unfold apPortShut
    rw [unmarked]
    split at shut
    next group => simpa [group, shut] using guarded
    next single => simpa [single, shut] using guarded
  unfold apRouteOn
  simp only [refuses, ↓reduceIte, ite_self]

theorem apRoute_known {setting : TxSetting} {pAd : TxAdapter} {pPacket : TxPacket}
    (known : WdevKnown .ap pAd pPacket) :
    apRoute setting pAd pPacket = some .drop ∨
      ∃ mem wdev, pPacket.data = some mem ∧ apWdev setting pAd pPacket = some wdev ∧
        apRoute setting pAd pPacket = some (apRouteOn setting pAd mem pPacket wdev) := by
  unfold apRoute apWdev
  cases pPacket.data with
  | none => exact Or.inl rfl
  | some mem =>
    by_cases short : pPacket.len ≤ 14
    · left
      simp only [short, ↓reduceIte]
    · simp only [short, ↓reduceIte]
      by_cases group : pPacket.wcid = mcastWcid
      · simp only [group, ↓reduceIte]
        split
        next inside =>
          cases setting.wdevList ⟨pPacket.ifIdx, inside⟩ with
          | none => exact Or.inl rfl
          | some wdev => exact Or.inr ⟨mem, wdev, rfl, rfl, rfl⟩
        next => exact Or.inl rfl
      · simp only [group, ↓reduceIte]
        have pointer := known rfl group
        cases found : (pAd.content pPacket.wcid).wdev with
        | none => exact absurd found pointer
        | some wdev => exact Or.inr ⟨mem, wdev, rfl, rfl, rfl⟩

/-- `APSendPacket` ends with a queue or with the packet freed, the latter for all but EAPOL
frames while the port is shut. -/
theorem apRoute_decides {setting : TxSetting} {pAd : TxAdapter} {pPacket : TxPacket}
    (known : WdevKnown .ap pAd pPacket) :
    ∃ route, apRoute setting pAd pPacket = some route ∧
      ((∀ mem, pPacket.data = some mem → ¬ IsEapol mem) →
        PortShut .ap setting pAd pPacket → route = .drop) := by
  rcases @apRoute_known setting _ _ known with dropped | ⟨mem, wdev, data, through, chosen⟩
  · exact ⟨.drop, dropped, fun _ _ => rfl⟩
  · refine ⟨_, chosen, ?_⟩
    rintro other ⟨wdev', through', guarded, shut⟩
    obtain rfl := Option.some.inj (through.symm.trans through')
    exact apRouteOn_shut (other mem data) guarded shut

theorem staRoute_shut {setting : TxSetting} {pAd : TxAdapter} {pPacket : TxPacket}
    (other : ∀ mem, pPacket.data = some mem → ¬ IsEapol mem)
    (shut : PortShut .sta setting pAd pPacket) : staRoute setting pPacket = .drop := by
  unfold staRoute
  split
  next => rfl
  next mem data =>
    split
    next => rfl
    next =>
      split
      next => rfl
      next =>
        have unmarked := rtmpCheckEtherType_eapol setting mem setting.staWdev (other mem data)
        obtain ⟨guarded, closed⟩ := shut
        have refuses : staPortShut setting
            (rtmpCheckEtherType setting mem setting.staWdev).eapol = true := by
          rw [unmarked]
          simp only [List.mem_cons, List.not_mem_nil, or_false] at guarded
          simp [staPortShut, closed, or_assoc, guarded]
        simp only [refuses, ↓reduceIte]

/-- A packet given to a send function is put into exactly one queue with success, or freed once
with failure; one that is no EAPOL frame is not queued while the port that the security of its
link guards is shut. -/
theorem sendPacket_disposes (opMode : OpMode) (setting : TxSetting) (pAd : TxAdapter)
    (pPacket : TxPacket) (known : WdevKnown opMode pAd pPacket) :
    ∃ done, sendPacket opMode setting pAd pPacket = some done ∧
      DisposedOnce pAd pPacket.pPacket done ∧
      ((∀ mem, pPacket.data = some mem → ¬ IsEapol mem) →
        PortShut opMode setting pAd pPacket → done.2 = .failure) := by
  cases opMode with
  | ap =>
    obtain ⟨route, chosen, shut⟩ := @apRoute_decides setting _ _ known
    refine ⟨enqueue setting pAd pPacket.pPacket pPacket.wcid route, ?_,
      enqueue_disposes setting pAd pPacket.pPacket pPacket.wcid route, ?_⟩
    · simp only [sendPacket, apSendPacket, chosen, Option.map_some]
    · intro other closed
      rw [shut other closed, enqueue_drop_failure]
  | sta =>
    refine ⟨staSendPacket setting pAd pPacket, rfl, enqueue_disposes setting pAd _ _ _, ?_⟩
    intro other closed
    rw [staSendPacket, staRoute_shut other closed, enqueue_drop_failure]

/-- A BSS, of the given authentication mode. -/
def bssWdev (authMode : AuthMode) : Wdev where
  wdevTypeAp := true
  authMode := authMode
  ieee8021X := false
  portSecured := false
  vlanVid := 0
  bWmmCapable := false
  filterUnusedPacket := 0

/-- A client of the BSS that has associated and not finished its handshake. -/
def unsecuredClient (authMode : AuthMode) : StationEntry where
  entryType := .client
  wdev := some (bssWdev authMode)
  addr := fun _ => 0x02
  aid := 1
  apidx := 0
  associated := true
  portSecured := false
  psMode := .pwrActive
  wmmCapable := false
  psQIdleCount := 0
  psQueue := .empty

/-- No packet waits anywhere, and each entry is the same. -/
def TxAdapter.idle (entry : StationEntry) : TxAdapter where
  content := fun _ => entry
  fAnyStationInPsm := false
  mcastPsQueue := .empty
  txSwQueue := fun _ => .empty
  timBitmaps := fun _ _ => 0
  moreData := fun _ => false
  nullFrames := []
  freed := []
  psHistory := []

def plainSetting : TxSetting where
  wdevList := fun _ => none
  txSwQMaxLen := 1024
  bACM := fun _ => false
  bssInfra := false
  adhocOn := false
  staWdev := bssWdev .wpa2Psk
  micErrCnt := 0
  macTableLookup := fun _ => none

def arpFrame : Memory := fun i => if i = 12 then 0x08 else if i = 13 then 0x06 else 0x02

def arpPacket : TxPacket where
  pPacket := 7
  data := some arpFrame
  len := 60
  wcid := bssidWcid
  ifIdx := 0
  mbssid := 0

theorem arpFrame_other (mem : Memory) (data : arpPacket.data = some mem) : ¬ IsEapol mem := by
  obtain rfl := Option.some.inj data
  decide

/-- A client in the middle of its handshake gets no ARP frame. -/
theorem sendPacket_disposes_handshake :
    ∃ done, sendPacket .ap plainSetting (.idle (unsecuredClient .wpa2Psk)) arpPacket = some done ∧
      DisposedOnce (.idle (unsecuredClient .wpa2Psk)) 7 done ∧ done.2 = .failure := by
  have known : WdevKnown .ap (.idle (unsecuredClient .wpa2Psk)) arpPacket := fun _ _ => nofun
  obtain ⟨done, sent, disposed, refused⟩ := sendPacket_disposes .ap plainSetting _ _ known
  refine ⟨done, sent, disposed, refused arpFrame_other ⟨bssWdev .wpa2Psk, rfl, ?_, rfl⟩⟩
  left
  decide

/-- An entry that no station has been given yet. -/
def vacantEntry : StationEntry := { unsecuredClient .open with entryType := .none, wdev := none }

/-- Without WPA and 802.1X nothing asks for a secured port, and the same frame is queued. For a
vacant entry the check for one comes after its null `wdev` has been followed. -/
theorem openBss_queues_unsecured :
    ((TxAdapter.idle (unsecuredClient .open)).content bssidWcid).portSecured = false ∧
      ¬ IsEapol arpFrame ∧
      ∃ pAd', sendPacket .ap plainSetting (.idle (unsecuredClient .open)) arpPacket =
        some (pAd', .success) ∧ (pAd'.txSwQueue qidAcBe).entries = [7] ∧
      sendPacket .ap plainSetting (.idle vacantEntry) arpPacket = none :=
  ⟨rfl, by decide, _, rfl, rfl, rfl⟩

end Mt7612u.Transmit
