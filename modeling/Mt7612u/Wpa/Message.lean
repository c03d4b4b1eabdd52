import Mt7612u.Wpa.KeyAction

/-! The fields of the messages that `ConstructEapolMsg` builds, and how they are handled at the
other side. -/

namespace Mt7612u.Wpa
open Receive (WepStatus)

section Fields

variable {crypto : KeyCrypto} {env : BuildEnv} {entry : WpaEntry} {groupCipher : WepStatus}
  {msgType : MsgType} {args : MsgArgs} {p built : EapolPacket}

/-- The two packets differ in what the steps of the building fill in: nonce, IV, RSC, key data with
its lengths, and MIC. -/
structure SameFrame (p built : EapolPacket) : Prop where
  proVer : built.proVer = p.proVer
  type : built.type = p.type
  keyInfo : built.keyInfo = p.keyInfo
  replayCounter : built.replayCounter = p.replayCounter

theorem SameFrame.trans {p q r : EapolPacket} (first : SameFrame p q) (second : SameFrame q r) :
    SameFrame p r where
  proVer := second.proVer.trans first.proVer
  type := second.type.trans first.type
  keyInfo := second.keyInfo.trans first.keyInfo
  replayCounter := second.replayCounter.trans first.replayCounter

theorem fillNonce_same {nonce : Option (Bytes 32)}
    (filled : fillNonce entry msgType nonce p = some built) : SameFrame p built := by
  unfold fillNonce at filled
  by_cases filling : msgType.toNat ≤ MsgType.pairMsg3.toNat ∨
      (!entry.wpa2) = true ∧ msgType = .groupMsg1
  · rw [if_pos filling] at filled
    obtain ⟨value, _, rfl⟩ := Option.map_eq_some_iff.mp filled
    split_ifs <;> exact ⟨rfl, rfl, rfl, rfl⟩
  · rw [if_neg filling] at filled
    obtain rfl := Option.some.inj filled
    exact ⟨rfl, rfl, rfl, rfl⟩

theorem fillRsc_same {rsc : Option (Bytes 6)}
    (filled : fillRsc entry msgType rsc p = some built) :
    SameFrame p built ∧ built.keyNonce = p.keyNonce ∧ built.keyDataLen = p.keyDataLen := by
  unfold fillRsc at filled
  split_ifs at filled
  · obtain ⟨value, rfl, rfl⟩ := Option.map_eq_some_iff.mp filled
    exact ⟨⟨rfl, rfl, rfl, rfl⟩, rfl, rfl⟩
  · obtain rfl := Option.some.inj filled
    exact ⟨⟨rfl, rfl, rfl, rfl⟩, rfl, rfl⟩

/-- Messages 1 and 4 and group message 2 have no key data. -/
def MsgType.withoutKeyData (msgType : MsgType) : Bool :=
  msgType == .pairMsg1 || msgType == .pairMsg4 || msgType == .groupMsg2

theorem constructEapolKeyData_same
    (filled : constructEapolKeyData crypto env entry groupCipher msgType args p = some built) :
    SameFrame p built ∧ built.keyNonce = p.keyNonce ∧
      (msgType.withoutKeyData = true → built = p) := by
  unfold constructEapolKeyData at filled
  by_cases without : msgType = .pairMsg1 ∨ msgType = .pairMsg4 ∨ msgType = .groupMsg2
  · rw [if_pos without] at filled
    obtain rfl := Option.some.inj filled
    exact ⟨⟨rfl, rfl, rfl, rfl⟩, rfl, fun _ => rfl⟩
  rw [if_neg without] at filled
  by_cases memory : (!env.keyDataPool) = true
  · rw [if_pos memory] at filled
    obtain rfl := Option.some.inj filled
    exact ⟨⟨rfl, rfl, rfl, rfl⟩, rfl, fun _ => rfl⟩
  · rw [if_neg memory] at filled
    obtain ⟨text, _, rfl⟩ := Option.map_eq_some_iff.mp filled
    refine ⟨?_, ?_, ?_⟩
    · split_ifs <;> exact ⟨rfl, rfl, rfl, rfl⟩
    · split_ifs <;> rfl
    · intro none
      unfold MsgType.withoutKeyData at none
      simp only [Bool.or_eq_true, beq_iff_eq, or_assoc] at none
      exact absurd none without

/-- What the other side reads of a message, whatever key data and MIC it has. -/
structure BuiltFrom (entry : WpaEntry) (groupCipher : WepStatus) (msgType : MsgType)
    (args : MsgArgs) (p : EapolPacket) : Prop where
  replayCounter : p.replayCounter = entry.rCounter
  keyInfo : p.keyInfo = keyInfoOf entry groupCipher msgType args.defaultKeyIdx
  keyNonce : ∀ nonce, args.keyNonce = some nonce → msgType.toNat ≤ MsgType.pairMsg3.toNat →
    p.keyNonce = nonce
  keyDataLen : msgType.withoutKeyData = true → p.keyDataLen = 0

theorem constructEapolMsg_builtFrom
    (result : constructEapolMsg crypto env entry groupCipher msgType args = some built) :
    BuiltFrom entry groupCipher msgType args built := by
  obtain ⟨plain, filled, rfl⟩ := Option.map_eq_some_iff.mp result
  obtain ⟨first, nonced, filled⟩ := Option.bind_eq_some_iff.mp filled
  obtain ⟨second, rsced, keyed⟩ := Option.bind_eq_some_iff.mp filled
  obtain ⟨sameSecond, secondNonce, secondLen⟩ := fillRsc_same rsced
  obtain ⟨sameThird, thirdNonce, thirdData⟩ := constructEapolKeyData_same keyed
  have same : SameFrame (initialMsg entry groupCipher msgType args.defaultKeyIdx) plain :=
    (fillNonce_same nonced).trans (sameSecond.trans sameThird)
  have mic : ∀ q, (if msgType = .pairMsg1 then q else calculateMic crypto env entry q) =
      { q with keyMic :=
        (if msgType = .pairMsg1 then q else calculateMic crypto env entry q).keyMic } := by
    intro q
    unfold calculateMic
    split_ifs <;> rfl
  rw [mic plain]
  refine ⟨same.replayCounter, same.keyInfo, ?_, ?_⟩
  · intro nonce given early
    change plain.keyNonce = nonce
    rw [thirdNonce, secondNonce]
    unfold fillNonce at nonced
    rw [if_pos (.inl early), given] at nonced
    obtain rfl := Option.some.inj nonced
    dsimp only
    split_ifs <;> rfl
  · intro without
    change plain.keyDataLen = 0
    rw [thirdData without, secondLen]
    unfold fillNonce at nonced
    by_cases filling : msgType.toNat ≤ MsgType.pairMsg3.toNat ∨
        (!entry.wpa2) = true ∧ msgType = .groupMsg1
    · rw [if_pos filling] at nonced
      obtain ⟨value, _, rfl⟩ := Option.map_eq_some_iff.mp nonced
      split_ifs <;> rfl
    · rw [if_neg filling] at nonced
      obtain rfl := Option.some.inj nonced
      rfl

end Fields

section Branch

variable {entry : WpaEntry} {groupCipher : WepStatus} {args : MsgArgs} {p : EapolPacket}

theorem BuiltFrom.branch {msgType : MsgType} (built : BuiltFrom entry groupCipher msgType args p) :
    p.branch = keyBranch (keyInfoOf entry groupCipher msgType args.defaultKeyIdx) p.keyDataLen := by
  unfold EapolPacket.branch
  rw [built.keyInfo]

/-- A message 2 without key data looks like a message 4. -/
theorem BuiltFrom.branch_pairMsg2 (built : BuiltFrom entry groupCipher .pairMsg2 args p) :
    p.branch = .pairMsg2 ∨ p.branch = .pairMsg4 := by
  rw [built.branch]
  unfold keyBranch keyInfoOf
  by_cases empty : p.keyDataLen = 0
  · rw [if_pos empty]
    exact .inr (by cases entry.wpa2 <;> rfl)
  · rw [if_neg empty]
    exact .inl (by cases entry.wpa2 <;> rfl)

theorem BuiltFrom.branch_pairMsg3 (built : BuiltFrom entry groupCipher .pairMsg3 args p) :
    p.branch = .pairMsg3 := by
  rw [built.branch]
  unfold keyBranch keyInfoOf
  cases entry.wpa2 <;> rfl

theorem BuiltFrom.branch_pairMsg4 (built : BuiltFrom entry groupCipher .pairMsg4 args p) :
    p.branch = .pairMsg4 := by
  rw [built.branch, built.keyDataLen rfl]
  unfold keyBranch keyInfoOf
  cases entry.wpa2 <;> rfl

theorem BuiltFrom.branch_groupMsg1 (built : BuiltFrom entry groupCipher .groupMsg1 args p) :
    p.branch = .groupMsg1 := by
  rw [built.branch]
  unfold keyBranch keyInfoOf
  cases entry.wpa2 <;> rfl

theorem BuiltFrom.branch_groupMsg2 (built : BuiltFrom entry groupCipher .groupMsg2 args p) :
    p.branch = .groupMsg2 := by
  rw [built.branch]
  unfold keyBranch keyInfoOf
  cases entry.wpa2 <;> rfl

end Branch

end Mt7612u.Wpa
