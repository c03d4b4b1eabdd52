import Mt7612u.Wpa.Construct

/-! Key data with a group key: what `ConstructEapolKeyData` encrypts is what the other side decrypts,
and the walk over its elements comes to the GTK. -/

namespace Mt7612u.Wpa
open Crypto
open Receive (Memory)

section Walk

theorem holds_cons {mem : Memory} {place : Nat} {byte : UInt8} {rest : List UInt8} :
    mem.Holds place (byte :: rest) ↔ mem place = byte ∧ mem.Holds (place + 1) rest := by
  have front : mem.Holds place [byte] ↔ mem place = byte := by
    simp [Memory.Holds, Memory.bytes]
  rw [← front]
  exact @Memory.holds_append mem place [byte] rest

variable {keyData : Memory} {length place fuel : Nat} {found : GroupKey}

/-- An element that is no KDE is skipped. -/
theorem kdeWalk_skip (other : keyData place ≠ wpaKdeType)
    (inside : place + 2 + (keyData (place + 1)).toNat ≤ length) :
    kdeWalk keyData length (fuel + 1) place found =
      kdeWalk keyData length fuel (place + 2 + (keyData (place + 1)).toNat) found := by
  have plain : isGtkKde keyData place = false := by
    unfold isGtkKde
    rw [beq_eq_false_iff_ne.mpr other]
    rfl
  rw [kdeWalk, if_pos inside, readKde, plain]
  rfl

/-- A byte with zeros behind it, padding for example, brings no key. -/
theorem kdeWalk_zeros (zeros : ∀ address, place < address → keyData address = 0) (some : 0 < fuel)
    (enough : length < place + fuel) : kdeWalk keyData length fuel place found = .done found := by
  induction fuel generalizing place with
  | zero => exact absurd some (Nat.lt_irrefl 0)
  | succ fuel ih =>
    have plain : isGtkKde keyData place = false := by
      have oui : keyData.bytes (place + 2) 3 ≠ ouiWpa2 := by
        intro same
        have second := congrArg (fun bytes => bytes.getD 1 0) same
        simp only [Memory.bytes, ouiWpa2] at second
        rw [show (List.map (fun i => keyData (place + 2 + i)) (List.range 3)).getD 1 0 =
          keyData (place + 2 + 1) from rfl, zeros _ (by omega)] at second
        exact absurd second (by decide)
      unfold isGtkKde
      rw [beq_eq_false_iff_ne.mpr oui, Bool.and_false, Bool.false_and]
    have none : UInt8.toNat 0 = 0 := rfl
    rw [kdeWalk, zeros (place + 1) (Nat.lt_succ_self place), readKde, plain, none, Nat.add_zero,
      if_neg Bool.false_ne_true]
    by_cases inside : place + 2 ≤ length
    · rw [if_pos inside]
      exact ih (fun address behind => zeros address (by omega)) (by omega) (by omega)
    · rw [if_neg inside]

/-- The KDE of a GTK brings the key. -/
theorem kdeWalk_gtk {gtk : List UInt8} {keyIdx : Nat} (size : gtk.length = 16 ∨ gtk.length = 32)
    (holds : keyData.Holds place (gtkKdeHeader gtk.length keyIdx ++ gtk))
    (inside : place + 8 + gtk.length ≤ length) :
    kdeWalk keyData length (fuel + 1) place found =
      kdeWalk keyData length fuel (place + 8 + gtk.length)
        ⟨found.gtk.write 0 gtk, UInt8.ofNat gtk.length, keyIdx % 4⟩ := by
  rw [Memory.holds_append] at holds
  obtain ⟨header, key⟩ := holds
  simp only [gtkKdeHeader, ouiWpa2, List.cons_append, List.nil_append, holds_cons] at header
  obtain ⟨type, len, oui0, oui1, oui2, kind, index, -⟩ := header
  have gtkLen : gtkLenAt keyData place = UInt8.ofNat gtk.length := by
    rw [gtkLenAt, len]
    rcases size with size | size <;> rw [size] <;> rfl
  have count : (UInt8.ofNat gtk.length).toNat = gtk.length := by
    rcases size with size | size <;> rw [size] <;> rfl
  have lenByte : (keyData (place + 1)).toNat = 6 + gtk.length := by
    rw [len]
    rcases size with size | size <;> rw [size] <;> rfl
  have oui : keyData.bytes (place + 2) 3 = ouiWpa2 := by
    change [keyData (place + 2), keyData (place + 3), keyData (place + 4)] = _
    rw [oui0, oui1, oui2]
    rfl
  have gtkKde : isGtkKde keyData place = true := by
    unfold isGtkKde
    rw [type, oui, kind]
    rfl
  have next : place + 2 + (6 + gtk.length) = place + 8 + gtk.length := by omega
  have idx : (keyData (place + 6)).toNat % 4 = keyIdx % 4 := by
    rw [index]
    have small := Nat.mod_lt keyIdx (show 0 < 4 by decide)
    rw [UInt8.toNat_ofNat']
    omega
  rw [kdeWalk, lenByte, next, if_pos inside, readKde, gtkKde, gtkLen, count, idx, if_pos rfl, if_neg]
  · have bytes : keyData.bytes (place + 8) gtk.length = gtk := key
    rw [bytes]
  · rcases size with size | size <;> rw [size] <;> decide

end Walk

section KeyData

/-- Nothing, or one RSN IE. -/
def RsnElement (rsn : List UInt8) : Prop :=
  rsn = [] ∨
    ∃ (len : UInt8) (body : List UInt8), rsn = ieRsn :: len :: body ∧ body.length = len.toNat

/-- What is appended to key data before it is encrypted. -/
def padFor (keyDescVer : BitVec 3) (length : Nat) : List UInt8 :=
  if keyDescVer = keyDescAes then padding length else []

theorem length_padFor (keyDescVer : BitVec 3) (length : Nat) :
    (padFor keyDescVer length).length < 8 := by
  unfold padFor padding
  split_ifs
  · decide
  · rw [List.length_cons, List.length_replicate]
    omega
  · decide

/-- Behind its first byte the padding is zero. -/
theorem padFor_zeros (keyDescVer : BitVec 3) (length : Nat) {i : Nat} (behind : 0 < i) :
    (padFor keyDescVer length).getD i 0 = 0 := by
  obtain ⟨k, rfl⟩ := Nat.exists_eq_succ_of_ne_zero behind.ne'
  unfold padFor padding
  split_ifs
  · rfl
  · rw [List.getD_cons_succ]
    by_cases inside : k < 8 - length % 8 - 1
    · rw [List.getD_replicate 0 inside]
    · rw [List.getD_eq_default]
      rw [List.length_replicate]
      omega
  · rfl

variable {rsn gtk pad : List UInt8} {keyIdx : Nat}

/-- The walk over the key data of a message finds its GTK. -/
theorem kdeWalk_keyData (element : RsnElement rsn) (size : gtk.length = 16 ∨ gtk.length = 32)
    (zeros : ∀ i, 0 < i → pad.getD i 0 = 0) {data : List UInt8}
    (text : data = rsn ++ (gtkKdeHeader gtk.length keyIdx ++ gtk) ++ pad) :
    kdeWalk (Memory.write (fun _ => 0) 0 data) data.length (data.length + 1) 0 .zero =
      .done ⟨Memory.write (fun _ => 0) 0 gtk, UInt8.ofNat gtk.length, keyIdx % 4⟩ := by
  have holds := Memory.write_holds (fun _ => 0) 0 data
  have count : data.length = rsn.length + 8 + gtk.length + pad.length := by
    rw [text, List.length_append, List.length_append, List.length_append]
    simp only [gtkKdeHeader, ouiWpa2, List.length_append, List.length_cons, List.length_nil]
    omega
  have tail : ∀ address, rsn.length + 8 + gtk.length < address →
      Memory.write (fun _ => 0) 0 data address = 0 := by
    intro address behind
    have front : (rsn ++ (gtkKdeHeader gtk.length keyIdx ++ gtk)).length =
        rsn.length + 8 + gtk.length := by
      simp only [gtkKdeHeader, ouiWpa2, List.length_append, List.length_cons, List.length_nil]
      omega
    unfold Memory.write
    rw [if_pos (Nat.zero_le _), Nat.sub_zero, text, List.getD_append_right _ _ _ _ (by omega), front]
    exact zeros _ (by omega)
  generalize Memory.write (fun _ => 0) 0 data = keyData at holds tail ⊢
  rw [text, Memory.holds_append, Memory.holds_append, Nat.zero_add] at holds
  obtain ⟨⟨first, kde⟩, -⟩ := holds
  rcases element with rfl | ⟨len, body, rfl, bodyLen⟩
  · simp only [List.length_nil, Nat.zero_add] at count tail kde
    rw [kdeWalk_gtk size kde (by omega), Nat.zero_add]
    exact kdeWalk_zeros tail (by omega) (by omega)
  · rw [holds_cons, holds_cons] at first
    obtain ⟨eid, lenByte, -⟩ := first
    have next : 0 + 2 + (keyData (0 + 1)).toNat = (ieRsn :: len :: body).length := by
      rw [lenByte, List.length_cons, List.length_cons, bodyLen]
      omega
    rw [kdeWalk_skip (by rw [eid]; decide) (by omega), next]
    obtain ⟨fuel, more⟩ : ∃ fuel, data.length = fuel + 1 := ⟨data.length - 1, by omega⟩
    rw [more, kdeWalk_gtk size kde (by omega)]
    exact kdeWalk_zeros tail (by simp only [List.length_cons] at *; omega)
      (by simp only [List.length_cons] at *; omega)

/-- The walk stops in front of an element that does not end inside of the key data. -/
theorem kdeWalk_cut (element : RsnElement rsn) {keyData : Memory} (holds : keyData.Holds 0 rsn)
    {length fuel : Nat} (cut : length < rsn.length) :
    kdeWalk keyData length (fuel + 1) 0 .zero = .done .zero := by
  rcases element with rfl | ⟨len, body, rfl, bodyLen⟩
  · exact absurd cut (Nat.not_lt_zero _)
  · rw [holds_cons, holds_cons] at holds
    obtain ⟨-, lenByte, -⟩ := holds
    rw [List.length_cons, List.length_cons, bodyLen] at cut
    rw [kdeWalk, lenByte, if_neg (by omega)]

end KeyData

section Encrypt

variable {crypto : KeyCrypto} {build : BuildEnv} {env : HandleEnv} {sender receiver : WpaEntry}

/-- Every allocation for a frame succeeds. -/
structure BuildEnv.Ready (build : BuildEnv) : Prop where
  keyDataPool : build.keyDataPool = true
  keyWrap : ∀ size, build.keyWrap size = true
  arc4Ctx : build.arc4Ctx = true
  micBuffer : build.micBuffer = true

/-- Every allocation for a received frame succeeds. -/
structure HandleEnv.Ready (env : HandleEnv) : Prop where
  keyDataBuffer : env.keyDataBuffer = true
  keyUnwrap : ∀ size, env.keyUnwrap size = true
  arc4Ctx : env.arc4Ctx = true

theorem kek_valid (entry : WpaEntry) : validKeyLength entry.kek.length = true := by
  have length : entry.kek.length = 16 := by
    unfold WpaEntry.kek Bytes.slice
    rw [List.length_take, List.length_drop, entry.ptk.property]
    rfl
  rw [length]
  rfl

theorem length_tkipGtkKeyWrap (kek iv text : List UInt8) :
    (tkipGtkKeyWrap kek iv text).length = text.length := Arc4Ctx.length_compute _ _

/-- The unwrapping undoes the wrapping, with the padding. -/
theorem unwrapKeyData_encrypt
    (inverse : ∀ key block, crypto.aes.decrypt key (crypto.aes.encrypt key block) = block)
    (builds : build.Ready) (handles : env.Ready) (kek : receiver.kek = sender.kek)
    {keyDescVer : BitVec 3} (known : keyDescVer = keyDescAes ∨ keyDescVer = keyDescTkip)
    {text : List UInt8} (some : 0 < text.length) (small : text.length < 512) {packet : EapolPacket}
    (ver : packet.keyInfo.keyDescVer = keyDescVer)
    (data : packet.keyData = Memory.write (fun _ => 0) 0
      ((encryptKeyData crypto build sender keyDescVer packet.keyIv text).1.bytes 0
        (encryptKeyData crypto build sender keyDescVer packet.keyIv text).2))
    (dataLen : packet.keyDataLen =
      BitVec.ofNat 16 (encryptKeyData crypto build sender keyDescVer packet.keyIv text).2) :
    packet.keyDataLen ≠ 0 ∧ unwrapKeyData crypto env receiver packet =
      ⟨Memory.write (fun _ => 0) 0 (text ++ padFor keyDescVer text.length),
        BitVec.ofNat 16 (text ++ padFor keyDescVer text.length).length⟩ := by
  have padded := length_padFor keyDescVer text.length
  rcases known with rfl | rfl
  · have whole : text ++ padFor keyDescAes text.length = text ++ padding text.length := rfl
    rw [whole]
    have count : (text ++ padding text.length).length < 520 := by
      rw [List.length_append]
      change (padding text.length).length < 8 at padded
      omega
    unfold encryptKeyData at data dataLen
    rw [if_pos rfl] at data dataLen
    dsimp only at data dataLen
    generalize text ++ padding text.length = plain at data dataLen count ⊢
    have plainLen : (BitVec.ofNat 32 plain.length).toNat = plain.length := by
      rw [BitVec.toNat_ofNat, Nat.mod_eq_of_lt (by omega)]
    obtain ⟨out, wraps, outLen, holds⟩ := @aesKeyWrap_eq_ok crypto.aes _ _ (kek_valid sender)
      (BitVec.ofNat 32 plain.length) (builds.keyWrap _) (Memory.write (fun _ => 0) 0 plain)
      build.stale
    rw [wraps] at data dataLen
    dsimp only at data dataLen
    have outNat : out.length.toNat = plain.length + 8 := by
      rw [outLen, BitVec.toNat_add, plainLen]
      change (plain.length + 8) % 2 ^ 32 = plain.length + 8
      omega
    rw [plainLen] at holds
    have size : ((wrapped (crypto.aes.encrypt sender.kek) (Memory.write (fun _ => 0) 0 plain)
        plain.length).bytes plain.length).length = plain.length + 8 := by
      unfold WrapState.bytes
      rw [List.length_append, List.length_ofFn, Memory.length_bytes, Nat.add_comm]
    have sent : out.text.bytes 0 out.length.toNat =
        (wrapped (crypto.aes.encrypt sender.kek) (Memory.write (fun _ => 0) 0 plain)
          plain.length).bytes plain.length := by
      rw [outNat, ← size]
      exact holds
    have arrived : packet.keyData.Holds 0 ((wrapped (crypto.aes.encrypt sender.kek)
        (Memory.write (fun _ => 0) 0 plain) plain.length).bytes plain.length) := by
      rw [data, sent]
      exact Memory.write_holds _ _ _
    have length : packet.keyDataLen.toNat = plain.length + 8 := by
      rw [dataLen, outNat, BitVec.toNat_ofNat, Nat.mod_eq_of_lt (by omega)]
    have unwrappedLen : (packet.keyDataLen.setWidth 32 -
        BitVec.ofNat 32 aesKeyWrapIvLength).toNat = plain.length := by
      rw [BitVec.toNat_sub, BitVec.toNat_setWidth, length]
      change (2 ^ 32 - 8 + (plain.length + 8) % 2 ^ 32) % 2 ^ 32 = plain.length
      omega
    constructor
    · intro none
      rw [none] at length
      change 0 = plain.length + 8 at length
      omega
    · have unwraps := (@aesKeyUnwrap_eq_ok crypto.aes env.keyUnwrap receiver.kek packet.keyData
        (fun _ => 0) (packet.keyDataLen.setWidth 32) _).mpr
        ⟨kek_valid receiver, handles.keyUnwrap _, rfl⟩
      have copies : (copied (Memory.write (fun _ => 0) 0 plain) 0 plain.length).bytes 0
          plain.length = plain := by
        unfold copied
        rw [Memory.bytes_write (fun _ => 0) 0 plain]
        exact Memory.bytes_write (fun _ => 0) 0 plain
      have back := unwrapped_of_wrapped (inverse sender.kek) arrived
      unfold unwrapKeyData
      rw [ver, if_pos (Or.inr rfl), unwraps]
      dsimp only
      rw [unwrappedLen, kek, back, copies]
      congr 1
      apply BitVec.eq_of_toNat_eq
      rw [BitVec.toNat_setWidth, unwrappedLen, BitVec.toNat_ofNat]
  · have whole : text ++ padFor keyDescTkip text.length = text := List.append_nil text
    rw [whole]
    unfold encryptKeyData at data dataLen
    rw [if_neg (by decide), builds.arc4Ctx, if_pos rfl] at data dataLen
    dsimp only at data dataLen
    have sent : (Memory.write build.stale 0 (tkipGtkKeyWrap sender.kek packet.keyIv.val text)).bytes 0
        text.length = tkipGtkKeyWrap sender.kek packet.keyIv.val text := by
      have bytes := Memory.bytes_write build.stale 0
        (tkipGtkKeyWrap sender.kek packet.keyIv.val text)
      rwa [length_tkipGtkKeyWrap] at bytes
    have length : packet.keyDataLen.toNat = text.length := by
      rw [dataLen, BitVec.toNat_ofNat, Nat.mod_eq_of_lt (by omega)]
    constructor
    · intro none
      rw [none] at length
      change 0 = text.length at length
      omega
    · unfold unwrapKeyData
      rw [ver, if_neg (by decide), handles.arc4Ctx, if_pos rfl, length, data, sent, kek]
      have bytes := Memory.bytes_write (fun _ => 0) 0
        (tkipGtkKeyWrap sender.kek packet.keyIv.val text)
      rw [length_tkipGtkKeyWrap] at bytes
      rw [bytes, dataLen]
      congr 1
      exact congrArg (Memory.write (fun _ => 0) 0) (Arc4Ctx.compute_compute _ text)

end Encrypt

end Mt7612u.Wpa
