import Mt7612u.Ap.Auth
import Mt7612u.Mgmt.MacTableRun

/-! Runs of the authentication frames of an access point, and which of its challenges their answers
are accepted for. -/

namespace Mt7612u.Ap
open Library.Run
open Receive (Memory Span)
open Mgmt (MacAddr MacTable macTableLookup macTableInsertEntry deleteEntry vacancy)
open BlockAck (Wcid maxLenOfMacTable)
open Security (AuthMode)

/-- One frame that was handled, with the challenges sent before it. -/
structure AuthTurn where
  before : AuthAdapter
  issued : List (MacAddr × List UInt8)
  elem : AuthElem
  after : AuthAdapter

/-- What has happened so far: the challenges that were sent, whether the last one waits for its
answer, the places of those that were accepted, and every frame. -/
structure AuthHistory where
  adapter : AuthAdapter
  issued : List (MacAddr × List UInt8) := []
  waiting : Bool := false
  accepted : List Nat := []
  turns : List AuthTurn := []

def AuthHistory.note (h : AuthHistory) : AuthEffect → AuthHistory
  | .log _ _ => { h with waiting := false }
  | .send rsp =>
    match rsp.challenge with
    | some challenge => { h with issued := h.issued ++ [(rsp.addr, challenge)], waiting := true }
    | none => h
  | .authenticate _ => { h with accepted := h.accepted ++ [h.issued.length], waiting := false }

/-- One frame. -/
def authTurn (c : ApConfig) (h : AuthHistory) (elem : AuthElem) : Option AuthHistory :=
  (apAuthAction c h.adapter elem).map fun (s, effects) =>
    { effects.foldl AuthHistory.note h with
      adapter := s
      turns := h.turns ++ [⟨h.adapter, h.issued, elem, s⟩] }

/-- The fields that are read of a frame that is handled. -/
def AuthElem.reads (elem : AuthElem) : List Span :=
  if shortAt elem.msg 26 = 1 ∨ shortAt elem.msg 26 = 3 then authReads elem.msg else []

/-- The frame answers the last challenge, for the entry of its sender. -/
structure AuthTurn.Answers (turn : AuthTurn) (wcid : Wcid) : Prop where
  seq : shortAt turn.elem.msg 26 = 3
  wep : wepBit turn.elem.msg = true
  last : turn.issued.getLast? =
    some (addrAt turn.elem.msg 10, turn.elem.msg.bytes 32 cipherTextLen)
  owner : turn.before.table.station wcid = some (addrAt turn.elem.msg 10)

/-- The fields are read inside the frame, and an entry becomes authenticated with a shared key only
by the answer to the last challenge. -/
structure AuthTurn.Lawful (turn : AuthTurn) : Prop where
  reads : ∀ span ∈ turn.elem.reads, span.start + span.count ≤ turn.elem.msgLen
  becomes : ∀ wcid, (turn.after.auth wcid).authState = .authKey →
    (turn.before.auth wcid).authState ≠ .authKey → turn.Answers wcid

/-- All frames so far were handled so, and no challenge was accepted twice. -/
structure AuthHistory.Lawful (h : AuthHistory) : Prop where
  turns : ∀ turn ∈ h.turns, turn.Lawful
  once : h.accepted.Nodup

/-- The frame passes all comparisons of `APPeerAuthConfirmAction` with the record it finds. -/
structure Confirms (c : ApConfig) (s : AuthAdapter) (elem : AuthElem) : Prop where
  seq : shortAt elem.msg 26 = 3
  alg : shortAt elem.msg 24 = authModeKey
  bss : ∃ bss, c.mbssid[getApidxByAddr c (addrAt elem.msg 4)]? = some bss ∧
    bss.ifDev ≠ some false
  entry : ∃ known : elem.wcid.toNat < maxLenOfMacTable,
    ¬ ((s.table.content ⟨elem.wcid.toNat, known⟩).entryType = .client ∧
      (c.mbssid[(s.table.content ⟨elem.wcid.toNat, known⟩).apidx.toNat]?.map Mbss.bssid) ≠
        some (addrAt elem.msg 4))
  addr2 : addrAt elem.msg 10 = s.auxAddr
  wep : wepBit elem.msg = true
  chlgText : elem.msg.bytes 32 cipherTextLen = s.auxChallenge

/-- The frame has the fields that are read, and when it passes the comparisons, the last challenge
that was sent still waits for its answer, and the index is that of the sender. -/
structure AuthFits (c : ApConfig) (h : AuthHistory) (elem : AuthElem) : Prop where
  alg : shortAt elem.msg 26 = 1 ∨ shortAt elem.msg 26 = 3 → 26 ≤ elem.msgLen
  text : shortAt elem.msg 24 = authModeKey → shortAt elem.msg 26 = 3 → 160 ≤ elem.msgLen
  answer : Confirms c h.adapter elem → h.waiting = true ∧
    ∀ known, h.adapter.table.station ⟨elem.wcid.toNat, known⟩ = some (addrAt elem.msg 10)

section steps
variable {c : ApConfig} {s s' s'' : AuthAdapter} {elem : AuthElem} {effects : List AuthEffect}

/-- No entry becomes authenticated with a shared key, and the record stays. -/
structure Quiet (s s' : AuthAdapter) : Prop where
  auth : ∀ wcid, (s'.auth wcid).authState = .authKey → (s.auth wcid).authState = .authKey
  addr : s'.auxAddr = s.auxAddr
  challenge : s'.auxChallenge = s.auxChallenge

theorem quiet_refl (s : AuthAdapter) : Quiet s s := ⟨fun _ => id, rfl, rfl⟩

theorem Quiet.trans (first : Quiet s s') (second : Quiet s' s'') : Quiet s s'' where
  auth wcid key := first.auth wcid (second.auth wcid key)
  addr := second.addr.trans first.addr
  challenge := second.challenge.trans first.challenge

theorem quiet_setAuth (wcid : Wcid) {entry : EntryAuth} (other : entry.authState ≠ .authKey) :
    Quiet s (s.setAuth wcid entry) where
  auth w key := by
    by_cases same : w = wcid
    · subst same
      have kept : ((s.setAuth w entry).auth w) = entry := Function.update_self _ _ _
      exact absurd (kept ▸ key) other
    · have kept : ((s.setAuth wcid entry).auth w) = s.auth w := Function.update_of_ne same _ _
      rwa [kept] at key
  addr := rfl
  challenge := rfl

theorem quiet_delete {wcid : Wcid} (deleted : s.delete wcid = some s') : Quiet s s' := by
  obtain ⟨table, _, rfl⟩ := Option.map_eq_some_iff.mp deleted
  exact ⟨fun _ => id, rfl, rfl⟩

theorem quiet_deleteIf {pEntry : Option Wcid} (deleted : s.deleteIf pEntry = some s') :
    Quiet s s' := by
  cases pEntry with
  | none =>
    obtain rfl := Option.some.inj deleted
    exact quiet_refl s
  | some wcid => exact quiet_delete deleted

theorem quiet_insert {addr : MacAddr} {apidx : Nat} {pEntry : Option Wcid}
    (inserted : s.insert c addr apidx = some (pEntry, s')) : Quiet s s' := by
  obtain ⟨⟨wcid, table⟩, _, result⟩ := Option.map_eq_some_iff.mp inserted
  dsimp only at result
  have moved : Quiet s { s with table := table } := ⟨fun _ => id, rfl, rfl⟩
  split_ifs at result
  · obtain ⟨_, rfl⟩ := Prod.mk.inj result
    exact moved
  · split at result
    · obtain ⟨_, rfl⟩ := Prod.mk.inj result
      exact moved.trans (quiet_setAuth _ (by decide))
    · obtain ⟨_, rfl⟩ := Prod.mk.inj result
      exact moved

theorem quiet_findOrInsert {addr : MacAddr} {apidx : Nat} {found pEntry : Option Wcid}
    (inserted : s.findOrInsert c addr apidx found = some (pEntry, s')) : Quiet s s' := by
  cases found with
  | none => exact quiet_insert inserted
  | some wcid =>
    obtain ⟨_, rfl⟩ := Prod.mk.inj (Option.some.inj inserted)
    exact quiet_refl s

/-- What is left of an entry that is looked at: the same one unless it is of another BSS. -/
theorem checkBssid_cases {addr1 : MacAddr} {found pEntry : Option Wcid}
    (checked : s.checkBssid c addr1 found = some (pEntry, s')) :
    Quiet s s' ∧ ∀ wcid, pEntry = some wcid → found = some wcid ∧ s' = s ∧
      ¬ ((s.table.content wcid).entryType = .client ∧
        (c.mbssid[(s.table.content wcid).apidx.toNat]?.map Mbss.bssid) ≠ some addr1) := by
  cases found with
  | none =>
    obtain ⟨rfl, rfl⟩ := Prod.mk.inj (Option.some.inj checked)
    exact ⟨quiet_refl s, nofun⟩
  | some wcid =>
    unfold AuthAdapter.checkBssid at checked
    dsimp only at checked
    split_ifs at checked with other
    · obtain ⟨next, deleted, result⟩ := Option.map_eq_some_iff.mp checked
      obtain ⟨rfl, rfl⟩ := Prod.mk.inj result
      exact ⟨quiet_delete deleted, nofun⟩
    · obtain ⟨rfl, rfl⟩ := Prod.mk.inj (Option.some.inj checked)
      refine ⟨quiet_refl s, ?_⟩
      rintro _ ⟨⟩
      exact ⟨rfl, rfl, other⟩

/-- The effects are frames without a challenge. -/
def Plain (effects : List AuthEffect) : Prop :=
  ∀ effect ∈ effects, ∃ rsp, effect = .send rsp ∧ rsp.challenge = none

theorem plain_nil : Plain [] := nofun

theorem plain_simpleRsp (elem : AuthElem) (fields : AuthFields) (status : BitVec 16) :
    Plain (simpleRsp elem fields status) := by
  unfold simpleRsp
  split_ifs
  · intro effect member
    exact ⟨_, List.mem_singleton.mp member, rfl⟩
  · exact plain_nil

/-- What handling a frame can come to: nothing that concerns the challenge, a new challenge, or an
answer that is accepted. -/
inductive AuthStep (c : ApConfig) (s : AuthAdapter) (elem : AuthElem) (s' : AuthAdapter) :
    List AuthEffect → Prop where
  | quiet {effects : List AuthEffect} (still : Quiet s s') (plain : Plain effects) :
      AuthStep c s elem s' effects
  | challenged (still : ∀ wcid, (s'.auth wcid).authState = .authKey →
        (s.auth wcid).authState = .authKey)
      (addr : s'.auxAddr = addrAt elem.msg 10) (challenge : s'.auxChallenge = elem.challenge)
      (rsp : AuthRsp) (goal : rsp.addr = addrAt elem.msg 10)
      (text : rsp.challenge = some elem.challenge) :
      AuthStep c s elem s' (.log (addrAt elem.msg 10) elem.challenge ::
        if elem.kmalloc then [.send rsp] else [])
  | confirmed {effects : List AuthEffect} (confirms : Confirms c s elem)
      (known : elem.wcid.toNat < maxLenOfMacTable)
      (after : s' = s.setAuth ⟨elem.wcid.toNat, known⟩ ⟨.authKey, .auth⟩) (plain : Plain effects) :
      AuthStep c s elem s' (.authenticate ⟨elem.wcid.toNat, known⟩ :: effects)

/-- What `APPeerAuthSanity` hands out is read off the frame. -/
theorem apPeerAuthSanity_some {msg : Memory} {fields : AuthFields}
    (sane : apPeerAuthSanity msg = some fields) :
    fields.addr1 = addrAt msg 4 ∧ fields.addr2 = addrAt msg 10 ∧
      (shortAt msg 26 = 3 →
        shortAt msg 24 = authModeKey ∧ fields.chlgText = msg.bytes 32 cipherTextLen) := by
  unfold apPeerAuthSanity at sane
  dsimp only at sane
  split_ifs at sane with isOpen early key first second
  · obtain rfl := Option.some.inj sane
    refine ⟨rfl, rfl, fun third => ?_⟩
    rw [third] at early
    exact absurd early (by decide)
  · obtain rfl := Option.some.inj sane
    refine ⟨rfl, rfl, fun third => ?_⟩
    rw [third] at first
    exact absurd first (by decide)
  · obtain rfl := Option.some.inj sane
    exact ⟨rfl, rfl, fun _ => ⟨key, rfl⟩⟩

theorem authAlgAction_step {fields : AuthFields} {bss : Mbss} {apidx : Nat}
    {pEntry : Option Wcid} (sender : fields.addr2 = addrAt elem.msg 10) (still : Quiet s s'')
    (handled : authAlgAction c s'' elem fields bss apidx pEntry = some (s', effects)) :
    AuthStep c s elem s' effects := by
  unfold authAlgAction at handled
  by_cases isOpen : fields.alg = authModeOpen ∧ bss.authMode ≠ .shared
  · rw [if_pos isOpen] at handled
    obtain ⟨⟨found, next⟩, inserted, result⟩ := Option.map_eq_some_iff.mp handled
    have moved := still.trans (quiet_findOrInsert inserted)
    cases found with
    | none =>
      obtain ⟨rfl, rfl⟩ := Prod.mk.inj result
      exact .quiet moved plain_nil
    | some wcid =>
      obtain ⟨rfl, rfl⟩ := Prod.mk.inj result
      exact .quiet (moved.trans (quiet_setAuth wcid (by decide))) (plain_simpleRsp _ _ _)
  · rw [if_neg isOpen] at handled
    by_cases key : fields.alg = authModeKey ∧
        (bss.authMode = .shared ∨ bss.authMode = .autoSwitch)
    · rw [if_pos key] at handled
      obtain ⟨⟨found, next⟩, inserted, result⟩ := Option.map_eq_some_iff.mp handled
      have moved := still.trans (quiet_findOrInsert inserted)
      cases found with
      | none =>
        obtain ⟨rfl, rfl⟩ := Prod.mk.inj result
        exact .quiet moved plain_nil
      | some wcid =>
        obtain ⟨rfl, rfl⟩ := Prod.mk.inj result
        have set := moved.trans
          (@quiet_setAuth _ wcid ⟨.authenticating, .notAuth⟩ (by decide))
        rw [sender]
        refine .challenged ?_ rfl rfl
          ⟨addrAt elem.msg 10, fields.alg, fields.seq + 1, mlmeSuccess, some elem.challenge⟩ rfl rfl
        exact set.auth
    · rw [if_neg key] at handled
      obtain ⟨next, deleted, result⟩ := Option.map_eq_some_iff.mp handled
      obtain ⟨rfl, rfl⟩ := Prod.mk.inj result
      exact .quiet (still.trans (quiet_deleteIf deleted)) (plain_simpleRsp _ _ _)

theorem idle_step (handled : apPeerAuthReqAtIdleAction c s elem = some (s', effects)) :
    AuthStep c s elem s' effects := by
  have unchanged : some (s, ([] : List AuthEffect)) = some (s', effects) →
      AuthStep c s elem s' effects := by
    intro same
    obtain ⟨rfl, rfl⟩ := Prod.mk.inj (Option.some.inj same)
    exact .quiet (quiet_refl s) plain_nil
  unfold apPeerAuthReqAtIdleAction at handled
  cases sane : apPeerAuthSanity elem.msg with
  | none =>
    rw [sane] at handled
    exact unchanged handled
  | some fields =>
    obtain ⟨_, sender, _⟩ := apPeerAuthSanity_some sane
    rw [sane] at handled
    dsimp only at handled
    cases known : c.mbssid[getApidxByAddr c fields.addr1]? with
    | none =>
      rw [known] at handled
      exact unchanged handled
    | some bss =>
      rw [known] at handled
      dsimp only at handled
      by_cases down : bss.ifDev ≠ some true
      · rw [if_pos down] at handled
        exact unchanged handled
      · rw [if_neg down] at handled
        obtain ⟨found, _, rest⟩ := Option.bind_eq_some_iff.mp handled
        obtain ⟨⟨pEntry, next⟩, checked, rest⟩ := Option.bind_eq_some_iff.mp rest
        have still := (checkBssid_cases checked).1
        by_cases weak : weakSignal bss.authFailRssiThreshold elem.rssi = true ∨
            weakSignal bss.authNoRspRssiThreshold elem.rssi = true
        · rw [if_pos weak] at rest
          obtain ⟨last, deleted, result⟩ := Option.map_eq_some_iff.mp rest
          obtain ⟨rfl, rfl⟩ := Prod.mk.inj result
          apply AuthStep.quiet (still.trans (quiet_deleteIf deleted))
          split_ifs
          · exact plain_simpleRsp _ _ _
          · exact plain_nil
        · rw [if_neg weak] at rest
          by_cases denied : bss.allows fields.addr2 = false
          · rw [if_pos denied] at rest
            obtain ⟨last, deleted, result⟩ := Option.map_eq_some_iff.mp rest
            obtain ⟨rfl, rfl⟩ := Prod.mk.inj result
            exact .quiet (still.trans (quiet_deleteIf deleted)) (plain_simpleRsp _ _ _)
          · rw [if_neg denied] at rest
            exact authAlgAction_step sender still rest

theorem confirm_step (third : shortAt elem.msg 26 = 3)
    (handled : apPeerAuthConfirmAction c s elem = some (s', effects)) :
    AuthStep c s elem s' effects := by
  have unchanged : some (s, ([] : List AuthEffect)) = some (s', effects) →
      AuthStep c s elem s' effects := by
    intro same
    obtain ⟨rfl, rfl⟩ := Prod.mk.inj (Option.some.inj same)
    exact .quiet (quiet_refl s) plain_nil
  unfold apPeerAuthConfirmAction at handled
  cases sane : apPeerAuthSanity elem.msg with
  | none =>
    rw [sane] at handled
    exact unchanged handled
  | some fields =>
    obtain ⟨receiver, sender, text⟩ := apPeerAuthSanity_some sane
    obtain ⟨alg, chlgText⟩ := text third
    rw [sane] at handled
    dsimp only at handled
    cases bssKnown : c.mbssid[getApidxByAddr c fields.addr1]? with
    | none =>
      rw [bssKnown] at handled
      exact unchanged handled
    | some bss =>
      rw [bssKnown] at handled
      dsimp only at handled
      split_ifs at handled with down known
      · exact unchanged handled
      · obtain ⟨⟨pEntry, next⟩, checked, rest⟩ := Option.bind_eq_some_iff.mp handled
        obtain ⟨still, same⟩ := checkBssid_cases checked
        cases pEntry with
        | none =>
          obtain ⟨rfl, rfl⟩ := Prod.mk.inj (Option.some.inj rest)
          exact .quiet still (plain_simpleRsp _ _ _)
        | some wcid =>
          obtain ⟨own, rfl, entry⟩ := same wcid rfl
          obtain rfl := Option.some.inj own
          dsimp only at rest
          split_ifs at rest with addr2 answer
          · obtain ⟨rfl, rfl⟩ := Prod.mk.inj (Option.some.inj rest)
            have confirms : Confirms c next elem := {
              seq := third
              alg := alg
              bss := ⟨bss, by rw [← receiver, bssKnown], down⟩
              entry := ⟨known, by rwa [← receiver]⟩
              addr2 := by rw [← sender, addr2]
              wep := answer.1
              chlgText := by rw [← chlgText, answer.2] }
            exact .confirmed confirms known rfl (plain_simpleRsp _ _ _)
          · obtain ⟨last, deleted, result⟩ := Option.map_eq_some_iff.mp rest
            obtain ⟨rfl, rfl⟩ := Prod.mk.inj result
            exact .quiet (quiet_delete deleted) (plain_simpleRsp _ _ _)
          · obtain ⟨last, deleted, result⟩ := Option.map_eq_some_iff.mp rest
            obtain ⟨rfl, rfl⟩ := Prod.mk.inj result
            exact .quiet (quiet_delete deleted) (plain_simpleRsp _ _ _)
      · exact unchanged handled

/-- What handling a frame comes to. -/
theorem apAuthAction_step (handled : apAuthAction c s elem = some (s', effects)) :
    AuthStep c s elem s' effects := by
  unfold apAuthAction at handled
  split_ifs at handled with first third
  · exact idle_step handled
  · exact confirm_step third handled
  · obtain ⟨rfl, rfl⟩ := Prod.mk.inj (Option.some.inj handled)
    exact .quiet (quiet_refl s) plain_nil

end steps

section run
variable {c : ApConfig} {h h' : AuthHistory} {elem : AuthElem}

/-- While a challenge waits, it is the one in the record, and it has not been accepted. -/
structure Kept (h : AuthHistory) : Prop where
  recorded : h.waiting = true →
    h.issued.getLast? = some (h.adapter.auxAddr, h.adapter.auxChallenge)
  fresh : h.waiting = true → h.issued.length ∉ h.accepted
  below : ∀ i ∈ h.accepted, i ≤ h.issued.length
  lawful : h.Lawful

/-- Frames without a challenge leave the history alone. -/
theorem note_plain {effects : List AuthEffect} (plain : Plain effects) (h : AuthHistory) :
    effects.foldl AuthHistory.note h = h := by
  induction effects with
  | nil => rfl
  | cons effect rest ih =>
    obtain ⟨rsp, rfl, none⟩ := plain effect List.mem_cons_self
    have same : h.note (.send rsp) = h := by
      unfold AuthHistory.note
      dsimp only
      rw [none]
    rw [List.foldl_cons, same]
    exact ih fun effect member => plain effect (List.mem_cons_of_mem _ member)

/-- The fields of a frame that fits are inside it. -/
theorem AuthFits.reads (fits : AuthFits c h elem) :
    ∀ span ∈ elem.reads, span.start + span.count ≤ elem.msgLen := by
  intro span member
  unfold AuthElem.reads at member
  split_ifs at member with handled
  · have alg := fits.alg handled
    unfold authReads at member
    rcases List.mem_cons.mp member with rfl | text
    · exact alg
    · split_ifs at text with key
      · rw [List.mem_singleton.mp text]
        rcases key.2 with second | third
        · rcases handled with first | third
          · exact absurd (first.symm.trans second) (by decide)
          · exact absurd (third.symm.trans second) (by decide)
        · exact fits.text key.1 third
      · exact absurd text List.not_mem_nil
  · exact absurd member List.not_mem_nil

theorem lawful_append {turn : AuthTurn} (lawful : h.Lawful) (next : turn.Lawful) :
    ∀ t ∈ h.turns ++ [turn], t.Lawful := by
  intro t member
  rcases List.mem_append.mp member with earlier | last
  · exact lawful.turns t earlier
  · rw [List.mem_singleton.mp last]
    exact next

/-- What one frame that fits keeps. -/
theorem authTurn_kept (kept : Kept h) (fits : AuthFits c h elem)
    (turned : authTurn c h elem = some h') : Kept h' := by
  obtain ⟨⟨s', effects⟩, handled, rfl⟩ := Option.map_eq_some_iff.mp turned
  have reads := fits.reads
  cases apAuthAction_step handled with
  | quiet still plain =>
    dsimp only
    rw [note_plain plain]
    have turn : AuthTurn.Lawful ⟨h.adapter, h.issued, elem, s'⟩ :=
      ⟨reads, fun wcid key before => absurd (still.auth wcid key) before⟩
    exact {
      recorded := by
        intro waiting
        rw [still.addr, still.challenge]
        exact kept.recorded waiting
      fresh := kept.fresh
      below := kept.below
      lawful := ⟨lawful_append kept.lawful turn, kept.lawful.once⟩ }
  | challenged still addr challenge rsp goal text =>
    have turn : AuthTurn.Lawful ⟨h.adapter, h.issued, elem, s'⟩ :=
      ⟨reads, fun wcid key before => absurd (still wcid key) before⟩
    cases sent : elem.kmalloc with
    | false =>
      dsimp only
      exact {
        recorded := nofun
        fresh := nofun
        below := kept.below
        lawful := ⟨lawful_append kept.lawful turn, kept.lawful.once⟩ }
    | true =>
      have noted : ([.log (addrAt elem.msg 10) elem.challenge, .send rsp] :
          List AuthEffect).foldl AuthHistory.note h =
          { h with
            issued := h.issued ++ [(rsp.addr, elem.challenge)]
            waiting := true } := by
        rw [List.foldl_cons, List.foldl_cons, List.foldl_nil]
        unfold AuthHistory.note
        dsimp only
        rw [text]
      dsimp only
      rw [if_pos rfl, noted]
      exact {
        recorded := by
          intro _
          dsimp only
          rw [List.getLast?_concat, goal, addr, challenge]
        fresh := by
          intro _ member
          have before := kept.below _ member
          rw [List.length_append, List.length_singleton] at before
          omega
        below := by
          intro i member
          have before := kept.below i member
          rw [List.length_append]
          exact before.trans (Nat.le_add_right _ _)
        lawful := ⟨lawful_append kept.lawful turn, kept.lawful.once⟩ }
  | confirmed confirms known after plain =>
    obtain ⟨waiting, owner⟩ := fits.answer confirms
    have last := kept.recorded waiting
    have fresh := kept.fresh waiting
    dsimp only
    rw [List.foldl_cons, note_plain plain]
    have turn : AuthTurn.Lawful ⟨h.adapter, h.issued, elem, s'⟩ := by
      refine ⟨reads, fun wcid key before => ?_⟩
      by_cases same : wcid = ⟨elem.wcid.toNat, known⟩
      · rw [same]
        exact {
          seq := confirms.seq
          wep := confirms.wep
          last := by
            dsimp only
            rw [last, confirms.addr2, confirms.chlgText]
          owner := owner known }
      · dsimp only at key before
        rw [after] at key
        have others : (h.adapter.setAuth ⟨elem.wcid.toNat, known⟩ ⟨.authKey, .auth⟩).auth wcid =
            h.adapter.auth wcid := Function.update_of_ne same _ _
        rw [others] at key
        exact absurd key before
    exact {
      recorded := nofun
      fresh := nofun
      below := by
        intro i member
        rcases List.mem_append.mp member with earlier | now
        · exact kept.below i earlier
        · rw [List.mem_singleton.mp now]
          exact le_rfl
      lawful := by
        apply AuthHistory.Lawful.mk (lawful_append kept.lawful turn)
        exact List.nodup_append.mpr
          ⟨kept.lawful.once, List.nodup_singleton _, fun i earlier j now => by
            rw [List.mem_singleton.mp now]
            rintro rfl
            exact fresh earlier⟩ }

end run

/-- In every run whose frames fit, each entry that becomes authenticated with a shared key does so
by the answer to the last challenge that was sent, and no challenge is accepted twice. -/
theorem auth_lawful (c : ApConfig) (s : AuthAdapter) (elems : List AuthElem) (h : AuthHistory)
    (along : ThroughoutOption (authTurn c) (AuthFits c) { adapter := s } elems)
    (ends : runOption (authTurn c) { adapter := s } elems = some h) : h.Lawful := by
  have start : Kept { adapter := s } :=
    ⟨nofun, nofun, nofun, nofun, List.nodup_nil⟩
  have kept := runOption_invariant Kept
    (fun _ _ _ kept fits turned => authTurn_kept kept fits turned) start elems along ends
  exact kept.lawful

/-- One BSS with shared keys, at an address of twos. -/
def sharedBss : Mbss := ⟨fun _ => 2, some true, .shared, 0, 0, fun _ => true⟩

def sharedConfig : ApConfig := ⟨Mgmt.openSetting, [sharedBss]⟩

/-- No station is known and `ApMlmeAux` is zeroed. -/
def zeroedAdapter : AuthAdapter :=
  ⟨MacTable.empty, fun _ => ⟨.notAuth, .notAuth⟩, fun _ => 0, List.replicate cipherTextLen 0⟩

/-- A frame for that BSS from an address of six times `sender`, with a text of zeros. -/
def sharedFrame (sender seq control : UInt8) : Memory := fun i =>
  if i = 1 then control
  else if 4 ≤ i ∧ i < 10 then 2
  else if 10 ≤ i ∧ i < 16 then sender
  else if i = 24 then 1
  else if i = 26 then seq
  else 0

def sharedElem (sender seq control : UInt8) : AuthElem :=
  ⟨sharedFrame sender seq control, 160, 1, 0, fun _ => 0, true⟩

/-- A station asks for a challenge and answers it. -/
theorem auth_lawful_answered : ∃ h,
    runOption (authTurn sharedConfig) { adapter := zeroedAdapter }
      [sharedElem 6 1 0, sharedElem 6 3 0x40] = some h ∧ h.accepted = [1] ∧ h.Lawful := by
  have accepts : (runOption (authTurn sharedConfig) { adapter := zeroedAdapter }
      [sharedElem 6 1 0, sharedElem 6 3 0x40]).map AuthHistory.accepted = some [1] := by
    decide +kernel
  obtain ⟨h, ends, accepted⟩ := Option.map_eq_some_iff.mp accepts
  have along : ThroughoutOption (authTurn sharedConfig) (AuthFits sharedConfig)
      { adapter := zeroedAdapter } [sharedElem 6 1 0, sharedElem 6 3 0x40] := by
    constructor
    · exact {
        alg := fun _ => by decide
        text := fun _ _ => by decide
        answer := fun confirms => absurd confirms.seq (by decide) }
    · intro next turned
      have asked : (authTurn sharedConfig { adapter := zeroedAdapter } (sharedElem 6 1 0)).map
          (fun h => (h.waiting, h.adapter.table.station ⟨1, by decide⟩)) =
            some (true, some fun _ => 6) := by decide +kernel
      rw [turned] at asked
      obtain ⟨waiting, owner⟩ := Prod.mk.inj (Option.some.inj asked)
      have sender : (fun _ => 6) = addrAt (sharedElem 6 3 0x40).msg 10 := by decide
      constructor
      · exact {
          alg := fun _ => by decide
          text := fun _ _ => by decide
          answer := fun _ => ⟨waiting, fun _ => owner.trans (congrArg some sender)⟩ }
      · exact fun _ _ => trivial
  exact ⟨h, ends, accepted, auth_lawful sharedConfig zeroedAdapter _ h along ends⟩

/-- The zeroed record is accepted for the answer of a station with a zeroed address, before any
challenge was sent. -/
theorem zeroed_answer_accepted : ¬ ∀ (c : ApConfig) (s : AuthAdapter) (elems : List AuthElem)
    (h : AuthHistory), runOption (authTurn c) { adapter := s } elems = some h → h.Lawful := by
  intro always
  have accepts : (authTurn sharedConfig { adapter := zeroedAdapter } (sharedElem 0 3 0x40)).map
      (fun h => h.turns.map fun turn =>
        ((turn.before.auth ⟨1, by decide⟩).authState, (turn.after.auth ⟨1, by decide⟩).authState,
          turn.issued.length)) = some [(.notAuth, .authKey, 0)] := by decide +kernel
  obtain ⟨h, turned, view⟩ := Option.map_eq_some_iff.mp accepts
  have ends : runOption (authTurn sharedConfig) { adapter := zeroedAdapter }
      [sharedElem 0 3 0x40] = some h :=
    Option.bind_eq_some_iff.mpr ⟨h, turned, rfl⟩
  obtain ⟨turn, turns, seen⟩ := List.map_eq_singleton_iff.mp view
  obtain ⟨before, rest⟩ := Prod.mk.inj seen
  obtain ⟨after, issued⟩ := Prod.mk.inj rest
  have lawful := (always _ _ _ h ends).turns turn (by rw [turns]; exact List.mem_singleton_self _)
  have answers := lawful.becomes ⟨1, by decide⟩ after (by rw [before]; decide)
  have last := answers.last
  rw [List.length_eq_zero_iff.mp issued] at last
  cases last

end Mt7612u.Ap
