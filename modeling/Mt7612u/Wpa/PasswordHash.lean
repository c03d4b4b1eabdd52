import Mt7612u.Crypto.Hmac

/-! How a pass phrase becomes the pairwise master key: `F` and `RtmpPasswordHash` of `cmm_wpa.c`,
`AtoH`, and `RT_CfgSetWPAPSKKey` that chooses between them. -/

namespace Mt7612u.Wpa
open Crypto Library.KeyedHash
open Library.CcmFormat (bigEndian)
open Receive (Memory)

/-- A string with its end at the first zero. -/
abbrev CString := { bytes : List UInt8 // 0 ∉ bytes }

/-- Bytes that an unsigned int can count. -/
def piece (bytes : List UInt8) : Option StreamHash.Piece :=
  if sized : bytes.length < 2 ^ 32 then some ⟨bytes, sized⟩ else none

/-- `RT_HMAC_SHA1` for the whole digest. -/
def hmacSha1 (key text : List UInt8) : Option (List UInt8) :=
  (piece key).bind fun key => (piece text).bind fun text => rtHmacSha1 key text 20

/-- The two local buffers of `F`, and the memory behind its output. -/
structure PasswordRun where
  digest : Memory
  digest1 : Memory
  output : Memory

namespace PasswordHash

/-- `output[j] ^= digest[j]`, for every `j` below `count`. -/
def xorLoop (place : Nat) (digest output : Memory) (count : Nat) : Memory :=
  (List.range count).foldl
    (fun output j => output.write (place + j) [output (place + j) ^^^ digest j]) output

def turn (password : List UInt8) (place : Nat) (run : PasswordRun) : Option PasswordRun :=
  (hmacSha1 password (run.digest1.bytes 0 20)).map fun code =>
    let digest := run.digest.write 0 code
    { digest := digest
      digest1 := run.digest1.write 0 (digest.bytes 0 20)
      output := xorLoop place digest run.output 20 }

def turns (password : List UInt8) (place : Nat) : Nat → PasswordRun → Option PasswordRun
  | 0, run => some run
  | count + 1, run => (turn password place run).bind (turns password place count)

/-- The four bytes of `count`. -/
def countBytes (count : Nat) : List UInt8 :=
  [UInt8.ofNat (count / 2 ^ 24), UInt8.ofNat (count / 2 ^ 16), UInt8.ofNat (count / 2 ^ 8),
    UInt8.ofNat count]

/-- `F`; `digest` has 36 bytes. -/
def f (password ssid : List UInt8) (iterations count place : Nat) (run : PasswordRun) :
    Option PasswordRun :=
  if ssid.length + 4 ≤ 36 then
    let digest := (run.digest.write 0 ssid).write ssid.length (countBytes count)
    (hmacSha1 password (digest.bytes 0 (ssid.length + 4))).bind fun code =>
      let digest1 := run.digest1.write 0 code
      turns password place (iterations - 1)
        ⟨digest, digest1, run.output.write place (digest1.bytes 0 20)⟩
  else none

end PasswordHash

/-- `RtmpPasswordHash`; `junk` is what stands in the buffers of the two calls. -/
def rtmpPasswordHash (junk : Nat → Memory) (password : CString) (ssid : List UInt8)
    (output : Memory) : Option (Memory × Bool) :=
  if 63 < password.val.length ∨ 32 < ssid.length then some (output, false)
  else
    (PasswordHash.f password.val ssid 4096 1 0 ⟨junk 0, junk 1, output⟩).bind fun first =>
      (PasswordHash.f password.val ssid 4096 2 20 ⟨junk 2, junk 3, first.output⟩).map fun second =>
        (second.output, true)

def btoH (ch : UInt8) : UInt8 :=
  if 0x30 ≤ ch ∧ ch ≤ 0x39 then ch - 0x30
  else if 0x41 ≤ ch ∧ ch ≤ 0x46 then ch - 0x41 + 0xa
  else if 0x61 ≤ ch ∧ ch ≤ 0x66 then ch - 0x61 + 0xa
  else 255

/-- `AtoH`: the bytes for `destlen` pairs of characters. -/
def atoH (src : Memory) : Nat → Nat → List UInt8
  | _, 0 => []
  | place, destlen + 1 =>
      ((btoH (src place) <<< 4) + btoH (src (place + 1))) :: atoH src (place + 2) destlen

/-- `RT_CfgSetWPAPSKKey`: the key buffer after it, and what it returns. -/
def rtCfgSetWpaPskKey (junk : Nat → Memory) (keyString : CString) (keyStringLen : Int)
    (hashStr : List UInt8) (pmkBuf : Memory) : Option (Memory × Bool) :=
  if keyStringLen < 8 ∨ 64 < keyStringLen then some (pmkBuf, false)
  else
    let zeroed := pmkBuf.write 0 (List.replicate 32 0)
    if keyStringLen = 64 then
      some (zeroed.write 0 (atoH (fun i => keyString.val.getD i 0) 0 32), true)
    else
      (rtmpPasswordHash junk keyString hashStr (junk 4)).map fun hashed =>
        (zeroed.write 0 (hashed.1.bytes 0 32), true)

/-- The value of a hexadecimal digit. -/
def hexValue (ch : UInt8) : Option Nat :=
  if 0x30 ≤ ch ∧ ch ≤ 0x39 then some (ch.toNat - 48)
  else if 0x41 ≤ ch ∧ ch ≤ 0x46 then some (ch.toNat - 55)
  else if 0x61 ≤ ch ∧ ch ≤ 0x66 then some (ch.toNat - 87)
  else none

/-- Characters are two hexadecimal digits for each of the bytes. -/
inductive Spells : List UInt8 → List UInt8 → Prop where
  | nil : Spells [] []
  | cons {high low byte : UInt8} {digits bytes : List UInt8}
      (first : hexValue high = some (byte.toNat / 16))
      (second : hexValue low = some (byte.toNat % 16)) (rest : Spells digits bytes) :
      Spells (high :: low :: digits) (byte :: bytes)

/-- What a password and the name of a network stand for: 4096 rounds of the keyed hash, two blocks. -/
def passphraseKey (password ssid : List UInt8) : List UInt8 :=
  derivedKey (HashAlgorithm.sha1.standardHmac password) ssid 4096 2

/-- A block stays where none of its bytes changes. -/
theorem holds_of_inside {mem mem' : Memory} {start : Nat} {data : List UInt8}
    (holds : mem.Holds start data)
    (agree : ∀ address, start ≤ address → address < start + data.length →
      mem' address = mem address) : mem'.Holds start data := by
  refine Eq.trans ?_ holds
  apply List.map_congr_left
  intro i member
  have inside := List.mem_range.mp member
  exact agree _ (by omega) (by omega)

section Hashed

variable {password : List UInt8}

abbrev pskPrf (password : List UInt8) : List UInt8 → List UInt8 :=
  HashAlgorithm.sha1.standardHmac password

theorem length_pskPrf (password text : List UInt8) : (pskPrf password text).length = 20 :=
  HashAlgorithm.sha1.length_standardHmac password text

theorem hmacSha1_eq {text : List UInt8} (key : password.length < 2 ^ 32)
    (sized : text.length < 2 ^ 32) :
    hmacSha1 password text = some (pskPrf password text) := by
  rw [hmacSha1, piece, piece, dif_pos key, dif_pos sized]
  refine (rtHmac_eq .sha1 ⟨password, key⟩ ⟨text, sized⟩ 20).trans (congrArg some ?_)
  exact List.take_of_length_le (HashAlgorithm.sha1.length_standardHmac _ _).le

namespace PasswordHash

theorem xorLoop_apply (place : Nat) (digest output : Memory) (count address : Nat) :
    xorLoop place digest output count address =
      if place ≤ address ∧ address < place + count then output address ^^^ digest (address - place)
      else output address :=
  changeLoop_apply place (fun j byte => byte ^^^ digest j) output count address

/-- The loop mixes the digest into the bytes at `place`. -/
theorem xorLoop_holds {place : Nat} {digest output : Memory} {mixture code : List UInt8}
    (left : output.Holds place mixture) (right : digest.Holds 0 code)
    (same : mixture.length = code.length) :
    (xorLoop place digest output code.length).Holds place (xorBytes mixture code) := by
  have long : (xorBytes mixture code).length = code.length := by
    rw [xorBytes, List.length_zipWith, same, Nat.min_self]
  unfold Memory.Holds at left right ⊢
  rw [long]
  rw [same] at left
  conv_rhs => rw [← left, ← right]
  unfold Memory.bytes xorBytes
  apply List.ext_getElem
  · simp only [List.length_map, List.length_range, List.length_zipWith, Nat.min_self]
  · intro i below _
    rw [List.length_map, List.length_range] at below
    simp only [List.getElem_map, List.getElem_range, List.getElem_zipWith, Nat.zero_add]
    rw [xorLoop_apply, if_pos (by omega), Nat.add_sub_cancel_left]

/-- Between two turns: `digest1` holds the last link, the output all links mixed, and nothing outside
of its twenty bytes has changed. -/
structure Mixing (prf : List UInt8 → List UInt8) (salt : List UInt8) (place : Nat)
    (output : Memory) (n : Nat) (run : PasswordRun) : Prop where
  digest1 : run.digest1.Holds 0 (link prf salt n)
  mixture : run.output.Holds place (mixed prf salt n)
  apart : ∀ address, address < place ∨ place + 20 ≤ address → run.output address = output address

section Rounds

variable {salt : List UInt8} {place n : Nat} {output : Memory} {run : PasswordRun}

/-- A turn computes the next link and mixes it in. -/
theorem Mixing.turn (key : password.length < 2 ^ 32)
    (mixing : Mixing (pskPrf password) salt place output n run) :
    ∃ next, turn password place run = some next ∧
      Mixing (pskPrf password) salt place output (n + 1) next := by
  have last : run.digest1.bytes 0 20 = link (pskPrf password) salt n := by
    have holds := mixing.digest1
    rwa [Memory.Holds, length_link (length_pskPrf password)] at holds
  have small : (run.digest1.bytes 0 20).length < 2 ^ 32 := by
    rw [Memory.length_bytes]
    decide
  have code := hmacSha1_eq key small
  rw [last] at code
  have width : (link (pskPrf password) salt (n + 1)).length = 20 :=
    length_link (length_pskPrf password) salt (n + 1)
  have stored := run.digest.write_holds 0 (link (pskPrf password) salt (n + 1))
  have copied : (run.digest.write 0 (link (pskPrf password) salt (n + 1))).bytes 0 20 =
      link (pskPrf password) salt (n + 1) := by
    rwa [Memory.Holds, width] at stored
  rw [PasswordHash.turn, last, code]
  refine ⟨_, rfl, ?_, ?_, ?_⟩
  · change (run.digest1.write 0 ((run.digest.write 0 (link _ salt (n + 1))).bytes 0 20)).Holds 0 _
    rw [copied]
    exact Memory.write_holds _ _ _
  · have mixture := xorLoop_holds mixing.mixture stored
      ((length_mixed (length_pskPrf password) salt n).trans width.symm)
    rw [width] at mixture
    exact mixture
  · intro address outside
    change xorLoop place _ run.output 20 address = _
    rw [xorLoop_apply, if_neg (by omega)]
    exact mixing.apart address outside

theorem Mixing.turns (key : password.length < 2 ^ 32) (count : Nat)
    (mixing : Mixing (pskPrf password) salt place output n run) :
    ∃ last, turns password place count run = some last ∧
      Mixing (pskPrf password) salt place output (n + count) last := by
  induction count generalizing n run with
  | zero => exact ⟨run, rfl, mixing⟩
  | succ count ih =>
    obtain ⟨next, turned, further⟩ := mixing.turn key
    obtain ⟨last, ended, whole⟩ := ih further
    refine ⟨last, ?_, ?_⟩
    · rw [PasswordHash.turns, turned, Option.bind_some, ended]
    · rwa [Nat.add_right_comm, Nat.add_assoc] at whole

theorem countBytes_eq (count : Nat) : countBytes count = bigEndian 4 count := by
  simp [countBytes, bigEndian, Nat.div_div_eq_div_mul]

/-- `F` gives one block of the derived key, and leaves what stands around it. -/
theorem f_eq (key : password.length < 2 ^ 32) {ssid : List UInt8} (short : ssid.length ≤ 32)
    (iterations count place : Nat) (run : PasswordRun) :
    ∃ last, f password ssid iterations count place run = some last ∧
      last.output.Holds place
        (mixed (pskPrf password) (ssid ++ bigEndian 4 count) (iterations - 1)) ∧
      ∀ address, address < place ∨ place + 20 ≤ address →
        last.output address = run.output address := by
  have salted : ((run.digest.write 0 ssid).write ssid.length (countBytes count)).bytes 0
      (ssid.length + 4) = ssid ++ bigEndian 4 count := by
    have holds := Memory.holds_write_behind (run.digest.write_holds 0 ssid) (countBytes count)
    rw [Nat.zero_add] at holds
    rw [← countBytes_eq]
    have length : (ssid ++ countBytes count).length = ssid.length + 4 := List.length_append
    rwa [Memory.Holds, length] at holds
  have small : (ssid ++ bigEndian 4 count).length < 2 ^ 32 := by
    rw [← countBytes_eq, List.length_append]
    exact (Nat.add_le_add_right short 4).trans_lt (by decide)
  have code := hmacSha1_eq key small
  have stored := run.digest1.write_holds 0 (pskPrf password (ssid ++ bigEndian 4 count))
  have copied := stored
  rw [Memory.Holds, length_pskPrf] at copied
  have start : Mixing (pskPrf password) (ssid ++ bigEndian 4 count) place
      run.output 0 ⟨(run.digest.write 0 ssid).write ssid.length (countBytes count),
        run.digest1.write 0 (pskPrf password (ssid ++ bigEndian 4 count)),
        run.output.write place (pskPrf password (ssid ++ bigEndian 4 count))⟩ := by
    constructor
    · exact stored
    · exact Memory.write_holds _ _ _
    · intro address outside
      rcases outside with before | behind
      · exact Memory.write_before _ _ before
      · exact Memory.write_after _ (by rwa [length_pskPrf])
  obtain ⟨last, ended, mixing⟩ := start.turns key (iterations - 1)
  have mixture := mixing.mixture
  rw [Nat.zero_add] at mixture
  refine ⟨last, ?_, mixture, mixing.apart⟩
  rw [f, if_pos (Nat.add_le_add_right short 4)]
  dsimp only
  rw [salted, code, Option.bind_some, copied, ended]

end Rounds

end PasswordHash

theorem length_passphraseKey (password ssid : List UInt8) :
    (passphraseKey password ssid).length = 40 := by
  rw [passphraseKey, derivedKey_two, List.length_append, length_mixed (length_pskPrf password),
    length_mixed (length_pskPrf password)]

/-- What is stored of it. -/
theorem length_pmk (password ssid : List UInt8) :
    ((passphraseKey password ssid).take 32).length = 32 := by
  rw [List.length_take, length_passphraseKey]
  rfl

/-- Forty bytes of the output are the derived key. -/
theorem rtmpPasswordHash_eq (junk : Nat → Memory) {password : CString} {ssid : List UInt8}
    (passphrase : password.val.length ≤ 63) (short : ssid.length ≤ 32) (output : Memory) :
    ∃ last, rtmpPasswordHash junk password ssid output = some (last, true) ∧
      last.Holds 0 (passphraseKey password.val ssid) := by
  have key : password.val.length < 2 ^ 32 := passphrase.trans_lt (by decide)
  obtain ⟨first, one, low, -⟩ :=
    PasswordHash.f_eq key short 4096 1 0 ⟨junk 0, junk 1, output⟩
  obtain ⟨second, two, high, apart⟩ :=
    PasswordHash.f_eq key short 4096 2 20 ⟨junk 2, junk 3, first.output⟩
  refine ⟨second.output, ?_, ?_⟩
  · rw [rtmpPasswordHash, if_neg (by omega), one, Option.bind_some, two]
    rfl
  · rw [passphraseKey, derivedKey_two, Memory.holds_append,
      length_mixed (length_pskPrf password.val), Nat.zero_add]
    refine ⟨holds_of_inside low fun address _ inside => apart address (Or.inl ?_), high⟩
    rwa [length_mixed (length_pskPrf password.val), Nat.zero_add] at inside

end Hashed

section Digits

/-- What is left of a character above `base`, with `offset` added. -/
theorem sub_add_eq {ch base offset : UInt8} {value : Nat} (above : base ≤ ch)
    (sum : ch.toNat + offset.toNat = value + base.toNat) :
    ch - base + offset = UInt8.ofNat value := by
  apply UInt8.toNat_inj.mp
  rw [UInt8.toNat_add, UInt8.toNat_sub_of_le _ _ above, UInt8.toNat_ofNat']
  have := UInt8.le_iff_toNat_le.mp above
  omega

theorem btoH_of_hexValue {ch : UInt8} {value : Nat} (digit : hexValue ch = some value) :
    btoH ch = UInt8.ofNat value := by
  unfold hexValue at digit
  unfold btoH
  split_ifs at digit ⊢ with numeral capital small
  · have above : 48 ≤ ch.toNat := numeral.1
    have read := Option.some.inj digit
    rw [← UInt8.add_zero (ch - 0x30)]
    exact sub_add_eq numeral.1 (show ch.toNat + 0 = value + 48 by omega)
  · have above : 65 ≤ ch.toNat := capital.1
    have read := Option.some.inj digit
    exact sub_add_eq capital.1 (show ch.toNat + 10 = value + 65 by omega)
  · have above : 97 ≤ ch.toNat := small.1
    have read := Option.some.inj digit
    exact sub_add_eq small.1 (show ch.toNat + 10 = value + 97 by omega)

theorem ofNat_digits (byte : UInt8) :
    (UInt8.ofNat (byte.toNat / 16) <<< 4) + UInt8.ofNat (byte.toNat % 16) = byte := by
  apply UInt8.toNat_inj.mp
  have below := byte.toNat_lt
  have four : UInt8.toNat 4 % 8 = 4 := rfl
  rw [UInt8.toNat_add, UInt8.toNat_shiftLeft, UInt8.toNat_ofNat', UInt8.toNat_ofNat', four,
    Nat.shiftLeft_eq]
  omega

theorem length_atoH (src : Memory) (place count : Nat) : (atoH src place count).length = count := by
  induction count generalizing place with
  | zero => rfl
  | succ count ih => rw [atoH, List.length_cons, ih]

theorem Spells.length {digits bytes : List UInt8} (spells : Spells digits bytes) :
    digits.length = 2 * bytes.length := by
  induction spells with
  | nil => rfl
  | cons _ _ _ ih => rw [List.length_cons, List.length_cons, List.length_cons, ih, Nat.mul_succ]

/-- Two digits for each byte are read as these bytes. -/
theorem atoH_of_spells {digits bytes : List UInt8} (spells : Spells digits bytes) (src : Memory)
    (place : Nat) (holds : src.Holds place digits) : atoH src place bytes.length = bytes := by
  induction spells generalizing place with
  | nil => rfl
  | @cons high low byte digits bytes first second rest ih =>
    change src.Holds place ([high] ++ ([low] ++ digits)) at holds
    rw [Memory.holds_append, Memory.holds_append] at holds
    obtain ⟨one, two, others⟩ := holds
    have atHigh : src place = high := List.singleton_inj.mp one
    have atLow : src (place + 1) = low := List.singleton_inj.mp two
    rw [List.length_cons, atoH, ih (place + 2) others, atHigh, atLow,
      btoH_of_hexValue first, btoH_of_hexValue second, ofNat_digits]

end Digits

section Stored

variable (junk : Nat → Memory) {keyString : CString} {ssid bytes : List UInt8} (pmkBuf : Memory)

/-- The key buffer with a key in it. -/
abbrev withKey (pmkBuf : Memory) (bytes : List UInt8) : Memory :=
  (pmkBuf.write 0 (List.replicate 32 0)).write 0 bytes

theorem bytes_withKey (length : bytes.length = 32) : (withKey pmkBuf bytes).bytes 0 32 = bytes := by
  have holds := Memory.bytes_write (pmkBuf.write 0 (List.replicate 32 0)) 0 bytes
  rwa [length] at holds

theorem withKey_behind (length : bytes.length = 32) {address : Nat} (behind : 32 ≤ address) :
    withKey pmkBuf bytes address = pmkBuf address := by
  rw [withKey, Memory.write_after _ (by omega),
    Memory.write_after _ (by rwa [List.length_replicate])]

/-- A pass phrase becomes the first 32 bytes of the key derived from it. -/
theorem rtCfgSetWpaPskKey_passphrase (long : 8 ≤ keyString.val.length)
    (passphrase : keyString.val.length ≤ 63) (short : ssid.length ≤ 32) :
    rtCfgSetWpaPskKey junk keyString keyString.val.length ssid pmkBuf =
      some (withKey pmkBuf ((passphraseKey keyString.val ssid).take 32), true) := by
  obtain ⟨last, hashed, holds⟩ := rtmpPasswordHash_eq junk passphrase short (junk 4)
  have read : last.bytes 0 32 = (passphraseKey keyString.val ssid).take 32 := by
    rw [Memory.Holds, length_passphraseKey] at holds
    rw [← holds, Memory.bytes, Memory.bytes, ← List.map_take, List.take_range]
    rfl
  rw [rtCfgSetWpaPskKey, if_neg (by omega), if_neg (by omega), hashed, ← read]
  rfl

theorem rtCfgSetWpaPskKey_full (full : keyString.val.length = 64) :
    rtCfgSetWpaPskKey junk keyString keyString.val.length ssid pmkBuf =
      some (withKey pmkBuf (atoH (fun i => keyString.val.getD i 0) 0 32), true) := by
  rw [rtCfgSetWpaPskKey, if_neg (by omega), if_pos (by omega)]

/-- Digits are read as the bytes they spell. -/
theorem atoH_keyString (spells : Spells keyString.val bytes) (length : bytes.length = 32) :
    atoH (fun i => keyString.val.getD i 0) 0 32 = bytes := by
  rw [← length]
  apply atoH_of_spells spells
  rw [Memory.Holds, bytes_getD (fun _ => rfl) le_rfl, Nat.sub_self, List.replicate_zero,
    List.append_nil]

end Stored

/-- `RT_CfgSetWPAPSKKey` with a string and its length: a key of 8 to 64 characters is accepted, what
is not leaves the buffer alone, a pass phrase becomes the first 32 bytes of the key derived from it,
and 64 digits the bytes they spell. -/
theorem rtCfgSetWpaPskKey_derives (junk : Nat → Memory) (keyString : CString) {ssid : List UInt8}
    (short : ssid.length ≤ 32) (pmkBuf : Memory) :
    ∃ pmk accepted,
      rtCfgSetWpaPskKey junk keyString keyString.val.length ssid pmkBuf = some (pmk, accepted) ∧
      (accepted = true ↔ 8 ≤ keyString.val.length ∧ keyString.val.length ≤ 64) ∧
      (accepted = false → pmk = pmkBuf) ∧
      (8 ≤ keyString.val.length → keyString.val.length ≤ 63 →
        pmk.bytes 0 32 = (passphraseKey keyString.val ssid).take 32) ∧
      (∀ bytes, bytes.length = 32 → Spells keyString.val bytes → pmk.bytes 0 32 = bytes) ∧
      ∀ address, 32 ≤ address → pmk address = pmkBuf address := by
  by_cases refused : keyString.val.length < 8 ∨ 64 < keyString.val.length
  · refine ⟨pmkBuf, false, if_pos (by omega), ?_, fun _ => rfl, by omega, ?_, fun _ _ => rfl⟩
    · simp only [Bool.false_eq_true, false_iff]
      omega
    · intro bytes length spells
      have := spells.length
      omega
  · have accepted : true = true ↔ 8 ≤ keyString.val.length ∧ keyString.val.length ≤ 64 := by
      simp only [true_iff]
      omega
    by_cases full : keyString.val.length = 64
    · have count : (atoH (fun i => keyString.val.getD i 0) 0 32).length = 32 := length_atoH _ 0 32
      refine ⟨_, true, rtCfgSetWpaPskKey_full junk pmkBuf full, accepted, nofun, by omega, ?_,
        fun _ => withKey_behind pmkBuf count⟩
      intro bytes length spells
      rw [bytes_withKey pmkBuf count, atoH_keyString spells length]
    · have cut := length_pmk keyString.val ssid
      refine ⟨_, true, rtCfgSetWpaPskKey_passphrase junk pmkBuf (by omega) (by omega) short, accepted,
        nofun, fun _ _ => bytes_withKey pmkBuf cut, ?_, fun _ => withKey_behind pmkBuf cut⟩
      intro bytes length spells
      have := spells.length
      omega

/-- A pass phrase of eight letters and an empty name. -/
theorem eight_letters_derive :
    ∃ pmk, rtCfgSetWpaPskKey (fun _ _ => 0) ⟨List.replicate 8 0x61, by decide⟩ 8 [] (fun _ => 0) =
        some (pmk, true) ∧
      pmk.bytes 0 32 = (passphraseKey (List.replicate 8 0x61) []).take 32 := by
  have empty_name : ([] : List UInt8).length ≤ 32 := by decide
  obtain ⟨pmk, accepted, set, iff, -, derived, -⟩ :=
    rtCfgSetWpaPskKey_derives (fun _ _ => 0) ⟨List.replicate 8 0x61, by decide⟩ empty_name (fun _ => 0)
  obtain rfl : accepted = true := iff.mpr (by decide)
  exact ⟨pmk, set, derived (by decide) (by decide)⟩

end Mt7612u.Wpa
