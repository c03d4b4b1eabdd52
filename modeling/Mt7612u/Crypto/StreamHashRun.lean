import Mt7612u.Crypto.StreamHash

/-! Any pieces of a message give the digest of the whole, unless a piece is so long that the sum of
its length and of the bytes in the block does not fit an unsigned int. -/

namespace Mt7612u.Crypto
open Library.PaddedHash
open Receive (Memory)

section Block

variable {mem : Memory} {front : List UInt8}

/-- Bytes are stored behind those of a block that is zero from there on. -/
theorem write_getD (holds : ∀ address, mem address = front.getD address 0) (back : List UInt8)
    (address : Nat) : mem.write front.length back address = (front ++ back).getD address 0 := by
  unfold Memory.write
  split_ifs with behind
  · rw [List.getD_append_right _ _ _ _ behind, holds, List.getD_eq_default _ _ behind]
  · rw [List.getD_append _ _ _ _ (by omega), holds]

theorem bytes_getD (holds : ∀ address, mem address = front.getD address 0) {count : Nat}
    (fits : front.length ≤ count) :
    mem.bytes 0 count = front ++ List.replicate (count - front.length) 0 := by
  apply List.ext_getElem
  · rw [Memory.length_bytes, List.length_append, List.length_replicate]
    omega
  · intro i _ _
    simp only [Memory.bytes, List.getElem_map, List.getElem_range, Nat.zero_add, holds]
    by_cases inside : i < front.length
    · rw [List.getD_eq_getElem _ _ inside, List.getElem_append_left inside]
    · rw [List.getD_eq_default _ _ (by omega), List.getElem_append_right (by omega),
        List.getElem_replicate]

/-- The last eight bytes of a block that is zero in front of them. -/
theorem write_bytes (holds : ∀ address, mem address = front.getD address 0)
    (short : front.length ≤ 56) {field : List UInt8} (width : field.length = 8) :
    (mem.write 56 field).bytes 0 blockSize =
      front ++ (List.replicate (56 - front.length) 0 ++ field) := by
  have filled : (front ++ List.replicate (56 - front.length) 0).length = 56 := by
    rw [List.length_append, List.length_replicate]
    omega
  have zeros : ∀ address, mem address =
      (front ++ List.replicate (56 - front.length) 0).getD address 0 := by
    intro address
    rw [holds]
    by_cases inside : address < front.length
    · rw [List.getD_append _ _ _ _ inside]
    · rw [List.getD_eq_default front _ (by omega), List.getD_append_right _ _ _ _ (by omega),
        List.getD_eq_getElem?_getD, List.getElem?_getD_replicate_default_eq]
  have stored := write_getD zeros field
  have length : (front ++ List.replicate (56 - front.length) 0 ++ field).length = blockSize := by
    rw [List.length_append, filled, width]
    rfl
  rw [filled] at stored
  rw [bytes_getD stored length.le, length, Nat.sub_self, List.replicate_zero, List.append_nil,
    List.append_assoc]

end Block

variable {Chain : Type}

theorem HashContext.move_eq_some {ctx : HashContext Chain} {message : List UInt8}
    {start count : Nat} (read : start + count ≤ message.length)
    (room : ctx.blockLen.toNat + count ≤ blockSize) :
    ctx.move message start count =
      some { ctx with
        block := ctx.block.write ctx.blockLen.toNat ((message.drop start).take count) } :=
  if_pos ⟨read, room⟩

theorem HashContext.move_eq_none {ctx : HashContext Chain} {message : List UInt8}
    {start count : Nat} (long : blockSize < ctx.blockLen.toNat + count) :
    ctx.move message start count = none :=
  if_neg fun fits => absurd fits.2 (by omega)

namespace StreamHash

variable {hash : StreamHash Chain} {ctx : HashContext Chain} {message : List UInt8}

theorem blockSize_pos : 0 < blockSize := by decide

/-- The bytes that came in so far: the full blocks are hashed, the others stand in `Block`. -/
structure Buffered (hash : StreamHash Chain) (message : List UInt8) (ctx : HashContext Chain) :
    Prop where
  hashValue : ctx.hashValue =
    Library.PaddedHash.absorb blockSize hash.compress hash.defaultHashValue message
  blockLen : ctx.blockLen.toNat = (rest blockSize message).length
  block : ∀ address, ctx.block address = (rest blockSize message).getD address 0

theorem Buffered.lt (buffered : hash.Buffered message ctx) : ctx.blockLen.toNat < blockSize := by
  rw [buffered.blockLen]
  exact rest_lt blockSize_pos message

theorem buffered_init (hash : StreamHash Chain) : hash.Buffered [] hash.init where
  hashValue := (absorb_of_lt (List.length_nil.trans_lt blockSize_pos)).symm
  blockLen := rfl
  block := fun _ => rfl

/-- Bytes that leave room in the block are only stored. -/
theorem Buffered.store (buffered : hash.Buffered message ctx) {piece : List UInt8} {count : BitVec 32}
    (length : piece.length = count.toNat) (short : ctx.blockLen.toNat + count.toNat < blockSize) :
    hash.Buffered (message ++ piece)
      { ctx with
        block := ctx.block.write ctx.blockLen.toNat piece
        blockLen := ctx.blockLen + count } := by
  have fits : (rest blockSize message).length + piece.length < blockSize := by
    rwa [← buffered.blockLen, length]
  obtain ⟨absorbed, left⟩ := @append_short _ _ hash.compress hash.defaultHashValue blockSize_pos
    message piece fits
  constructor
  · exact buffered.hashValue.trans absorbed.symm
  · have small : ctx.blockLen.toNat + count.toNat < 2 ^ 32 := by
      unfold blockSize at short
      omega
    rw [left, List.length_append, ← buffered.blockLen, length, BitVec.toNat_add,
      Nat.mod_eq_of_lt small]
  · intro address
    rw [left, buffered.blockLen]
    exact write_getD buffered.block piece address

/-- Bytes that fill the block are hashed with it. -/
theorem Buffered.fill (buffered : hash.Buffered message ctx) {piece : List UInt8}
    (full : ctx.blockLen.toNat + piece.length = blockSize) (blockLen : BitVec 32) :
    hash.Buffered (message ++ piece) (hash.hashBlock
      { ctx with block := ctx.block.write ctx.blockLen.toNat piece, blockLen := blockLen }) := by
  have fits : (rest blockSize message).length + piece.length = blockSize := by
    rwa [← buffered.blockLen]
  obtain ⟨absorbed, left⟩ := @append_full _ _ hash.compress hash.defaultHashValue blockSize_pos
    message piece fits
  have bytes : (ctx.block.write ctx.blockLen.toNat piece).bytes 0 blockSize =
      rest blockSize message ++ piece := by
    have length : (rest blockSize message ++ piece).length = blockSize := by
      rw [List.length_append, fits]
    rw [buffered.blockLen, bytes_getD (write_getD buffered.block piece) length.le, length,
      Nat.sub_self, List.replicate_zero, List.append_nil]
  constructor
  · rw [absorbed, ← buffered.hashValue, ← bytes]
    rfl
  · rw [left]
    rfl
  · intro address
    rw [left]
    rfl

section Append

/-- What the loop has moved of a piece is buffered, and so is all of it in the end. -/
theorem appendLoop_buffered {seen piece : List UInt8} (fuel k : Nat) (ctx : HashContext Chain)
    (inside : k ≤ piece.length) (enough : piece.length < fuel + k)
    (fits : ctx.blockLen.toNat + (piece.length - k) < 2 ^ 32) (sized : piece.length < 2 ^ 32)
    (buffered : hash.Buffered (seen ++ piece.take k) ctx) :
    ∃ last, hash.appendLoop piece (BitVec.ofNat 32 piece.length) fuel (BitVec.ofNat 32 k) ctx =
        some last ∧
      hash.Buffered (seen ++ piece) last ∧ last.messageLen = ctx.messageLen := by
  induction fuel generalizing k ctx with
  | zero => omega
  | succ fuel ih =>
    have place : (BitVec.ofNat 32 k).toNat = k := by
      rw [BitVec.toNat_ofNat, Nat.mod_eq_of_lt (by omega)]
    have end_place : (BitVec.ofNat 32 piece.length).toNat = piece.length := by
      rw [BitVec.toNat_ofNat, Nat.mod_eq_of_lt sized]
    rw [appendLoop]
    by_cases done : k = piece.length
    · rw [done, List.take_length] at buffered
      rw [done, if_pos rfl]
      exact ⟨ctx, rfl, buffered, rfl⟩
    · have moving : BitVec.ofNat 32 k ≠ BitVec.ofNat 32 piece.length := by
        intro same
        have := congrArg BitVec.toNat same
        omega
      have diff : (BitVec.ofNat 32 piece.length - BitVec.ofNat 32 k).toNat = piece.length - k := by
        rw [BitVec.toNat_sub_of_le (by rw [BitVec.le_def]; omega), place, end_place]
      have sum : (ctx.blockLen + (BitVec.ofNat 32 piece.length - BitVec.ofNat 32 k)).toNat =
          ctx.blockLen.toNat + (piece.length - k) := by
        rw [BitVec.toNat_add, diff, Nat.mod_eq_of_lt fits]
      have below := buffered.lt
      rw [if_neg moving]
      simp only [sum, place, diff]
      split_ifs with short
      · -- the rest of the piece leaves room in the block
        have cut : (piece.drop k).take (piece.length - k) = piece.drop k := by
          rw [← List.length_drop, List.take_length]
        have next : BitVec.ofNat 32 k + (BitVec.ofNat 32 piece.length - BitVec.ofNat 32 k) =
            BitVec.ofNat 32 piece.length := add_sub_cancel _ _
        have rest : (piece.drop k).length =
            (BitVec.ofNat 32 piece.length - BitVec.ofNat 32 k).toNat := by
          rw [diff, List.length_drop]
        have stored := buffered.store rest (by rwa [diff])
        rw [List.append_assoc, List.take_append_drop] at stored
        rw [HashContext.move_eq_some (by omega) short.le, Option.bind_some, cut, next]
        apply ih piece.length _ le_rfl (by omega)
        · rw [sum]
          omega
        · rwa [List.take_length]
      · -- the block is filled and hashed
        have size : blockSize = 64 := rfl
        have free : (BitVec.ofNat 32 blockSize - ctx.blockLen).toNat =
            blockSize - ctx.blockLen.toNat := by
          rw [BitVec.toNat_sub_of_le (by rw [BitVec.le_def]; exact below.le)]
          rfl
        have next : BitVec.ofNat 32 k + (BitVec.ofNat 32 blockSize - ctx.blockLen) =
            BitVec.ofNat 32 (k + (blockSize - ctx.blockLen.toNat)) := by
          apply BitVec.eq_of_toNat_eq
          rw [BitVec.toNat_add, free, place, BitVec.toNat_ofNat]
        have full : ctx.blockLen.toNat +
            ((piece.drop k).take (blockSize - ctx.blockLen.toNat)).length = blockSize := by
          rw [List.length_take, List.length_drop]
          omega
        have filled := buffered.fill full (BitVec.ofNat 32 blockSize)
        rw [List.append_assoc, ← List.take_add] at filled
        simp only [free]
        rw [HashContext.move_eq_some (by omega) (by omega), Option.bind_some, next]
        apply ih (k + (blockSize - ctx.blockLen.toNat)) _ (by omega) (by omega)
        · rw [filled.blockLen, length_rest]
          have := Nat.mod_lt (seen ++ piece.take (k + (blockSize - ctx.blockLen.toNat))).length
            blockSize_pos
          omega
        · exact filled

/-- All bytes of the message are in the block or hashed, and they are counted. -/
structure Streamed (hash : StreamHash Chain) (message : List UInt8) (ctx : HashContext Chain) : Prop
    extends hash.Buffered message ctx where
  messageLen : ctx.messageLen = BitVec.ofNat 64 message.length

theorem streamed_init (hash : StreamHash Chain) : hash.Streamed [] hash.init where
  toBuffered := buffered_init hash
  messageLen := rfl

theorem Streamed.append (streamed : hash.Streamed message ctx) {piece : List UInt8}
    (fits : message.length % blockSize + piece.length < 2 ^ 32) :
    ∃ next, hash.append ctx piece = some next ∧ hash.Streamed (message ++ piece) next := by
  rw [← length_rest, ← streamed.blockLen] at fits
  have start : hash.Buffered (message ++ piece.take 0) ctx := by
    rw [List.take_zero, List.append_nil]
    exact streamed.toBuffered
  obtain ⟨last, moved, buffered, messageLen⟩ := appendLoop_buffered (piece.length + 1) 0 ctx
    (Nat.zero_le _) (Nat.lt_succ_self _) fits (by omega) start
  refine ⟨_, congrArg (Option.map _) moved, ⟨buffered.hashValue, buffered.blockLen, buffered.block⟩,
    ?_⟩
  have small : (BitVec.ofNat 32 piece.length).setWidth 64 = BitVec.ofNat 64 piece.length := by
    rw [BitVec.setWidth_ofNat_of_le_of_lt (by decide) (by omega)]
  change last.messageLen + (BitVec.ofNat 32 piece.length).setWidth 64 = _
  rw [messageLen, streamed.messageLen, small, List.length_append, BitVec.ofNat_add]

/-- A sum of 2^32 or more comes out small, and the bytes would go far behind the block. -/
theorem Buffered.overflow (buffered : hash.Buffered message ctx) {piece : List UInt8}
    (sized : piece.length < 2 ^ 32) (long : 2 ^ 32 ≤ message.length % blockSize + piece.length) :
    hash.append ctx piece = none := by
  have below := buffered.lt
  have length := buffered.blockLen
  have size : blockSize = 64 := rfl
  rw [length_rest] at length
  have end_place : (BitVec.ofNat 32 piece.length).toNat = piece.length := by
    rw [BitVec.toNat_ofNat, Nat.mod_eq_of_lt sized]
  have zero : (0 : BitVec 32).toNat = 0 := rfl
  have moving : (0 : BitVec 32) ≠ BitVec.ofNat 32 piece.length := by
    intro same
    have := congrArg BitVec.toNat same
    omega
  have wraps : (ctx.blockLen + BitVec.ofNat 32 piece.length).toNat < blockSize := by
    rw [BitVec.toNat_add, end_place]
    omega
  rw [StreamHash.append, appendLoop, if_neg moving]
  simp only [sub_zero, if_pos wraps]
  rw [HashContext.move_eq_none (by omega)]
  rfl

end Append

section Digest

/-- The mark, the zeros of the block and the length are the padding of the message. -/
theorem Streamed.finish (streamed : hash.Streamed message ctx) :
    hash.finish ctx = some (hash.standard message) := by
  have below := streamed.lt
  have size : blockSize = 64 := rfl
  have bits : ctx.messageLen * 8 = BitVec.ofNat 64 (8 * message.length) := by
    rw [streamed.messageLen, Nat.mul_comm, BitVec.ofNat_mul]
    rfl
  have width := hash.length_lengthBytes (BitVec.ofNat 64 (8 * message.length))
  have marked : ∀ address, ctx.block.write ctx.blockLen.toNat [0x80] address =
      (rest blockSize message ++ [0x80]).getD address 0 := by
    rw [streamed.blockLen]
    exact write_getD streamed.block [0x80]
  have length : (rest blockSize message ++ [0x80]).length = ctx.blockLen.toNat + 1 := by
    rw [List.length_append, List.length_singleton, streamed.blockLen]
  rw [StreamHash.finish, if_pos below, standard]
  by_cases next : 55 < ctx.blockLen.toNat
  · -- the mark and the zeros behind it end one block, the length stands in another
    rw [absorb_pad_next (by rw [width]; decide) (by rw [← streamed.blockLen, width]; omega)]
    have zeros : ∀ address, (fun _ => 0 : Memory) address = ([] : List UInt8).getD address 0 :=
      fun _ => rfl
    have markFits : (rest blockSize message ++ [0x80]).length ≤ blockSize := by omega
    have first := bytes_getD marked markFits
    have second := write_bytes zeros (Nat.zero_le 56) width
    simp only [if_pos next, hashBlock, bits]
    rw [first, second, streamed.hashValue, length, List.append_assoc, ← streamed.blockLen, width,
      Nat.sub_sub, Nat.add_comm 1]
    rfl
  · have last := write_bytes marked (by omega) width
    rw [absorb_pad_same blockSize_pos (by rw [← streamed.blockLen, width]; omega)]
    simp only [if_neg next, hashBlock, bits]
    rw [last, streamed.hashValue, length, List.append_assoc, ← streamed.blockLen, width,
      Nat.add_comm ctx.blockLen.toNat, ← Nat.sub_sub]
    rfl

end Digest

section Pieces

/-- What an `Append` is given: an unsigned int counts its bytes. -/
abbrev Piece := { bytes : List UInt8 // bytes.length < 2 ^ 32 }

/-- The message that pieces make. -/
def joined (pieces : List Piece) : List UInt8 := (pieces.map Subtype.val).flatten

/-- `Append` once for every piece. -/
def appendAll (hash : StreamHash Chain) (pieces : List Piece) : Option (HashContext Chain) :=
  pieces.foldlM (fun ctx piece => hash.append ctx piece.val) hash.init

/-- After every piece fewer than 64 bytes wait in the block, and the digest at the end is the one
that the standard and the one-shot function give. -/
structure Streams (hash : StreamHash Chain) (pieces : List Piece) : Prop where
  blockLen : ∀ front, front <+: pieces →
    ∃ ctx, hash.appendAll front = some ctx ∧ ctx.blockLen.toNat < blockSize
  digest : (hash.appendAll pieces).bind hash.finish = some (hash.standard (joined pieces))
  oneShot : (joined pieces).length < 2 ^ 32 →
    (hash.appendAll pieces).bind hash.finish = hash.oneShot (joined pieces)

/-- The bytes that wait in the block and those of the next piece are an unsigned int together. -/
def Fits (pieces : List Piece) : Prop :=
  ∀ front piece, front ++ [piece] <+: pieces →
    (joined front).length % blockSize + piece.val.length < 2 ^ 32

theorem appendAll_append (hash : StreamHash Chain) (front : List Piece) (piece : Piece) :
    hash.appendAll (front ++ [piece]) =
      (hash.appendAll front).bind fun ctx => hash.append ctx piece.val := by
  simp [appendAll]

theorem joined_append (front : List Piece) (piece : Piece) :
    joined (front ++ [piece]) = joined front ++ piece.val := by
  simp [joined]

theorem streamed_appendAll (hash : StreamHash Chain) {pieces : List Piece} (fits : Fits pieces) :
    ∃ ctx, hash.appendAll pieces = some ctx ∧ hash.Streamed (joined pieces) ctx := by
  induction pieces using List.reverseRecOn with
  | nil => exact ⟨hash.init, rfl, streamed_init hash⟩
  | append_singleton front piece ih =>
    obtain ⟨ctx, appended, streamed⟩ := ih fun first next prefixed =>
      fits first next (prefixed.trans (List.prefix_append _ _))
    obtain ⟨last, extended, following⟩ := streamed.append (fits front piece (List.prefix_refl _))
    rw [appendAll_append, appended, joined_append]
    exact ⟨last, extended, following⟩

theorem oneShot_eq (hash : StreamHash Chain) {message : List UInt8}
    (sized : message.length < 2 ^ 32) : hash.oneShot message = some (hash.standard message) := by
  obtain ⟨ctx, appended, streamed⟩ := (streamed_init hash).append (by
    rwa [List.length_nil, Nat.zero_mod, Nat.zero_add] : _ + message.length < _)
  rw [oneShot, appended]
  exact streamed.finish

theorem streams_of_fits (hash : StreamHash Chain) {pieces : List Piece} (fits : Fits pieces) :
    hash.Streams pieces := by
  obtain ⟨ctx, appended, streamed⟩ := streamed_appendAll hash fits
  constructor
  · intro front prefixed
    obtain ⟨waiting, taken, buffered⟩ := streamed_appendAll hash fun first next inner =>
      fits first next (inner.trans prefixed)
    exact ⟨waiting, taken, buffered.lt⟩
  · rw [appended]
    exact streamed.finish
  · intro sized
    rw [appended, oneShot_eq hash sized]
    exact streamed.finish

/-- A piece that does not fit goes beyond the block. -/
theorem fits_of_appendAll {pieces : List Piece} {ctx : HashContext Chain}
    (appended : hash.appendAll pieces = some ctx) : Fits pieces := by
  induction pieces using List.reverseRecOn generalizing ctx with
  | nil =>
    intro front piece prefixed
    exact absurd (List.prefix_nil.mp prefixed) (List.append_ne_nil_of_right_ne_nil _
      (List.cons_ne_nil _ _))
  | append_singleton before last ih =>
    rw [appendAll_append, Option.bind_eq_some_iff] at appended
    obtain ⟨waiting, taken, extended⟩ := appended
    have fits := ih taken
    intro front piece prefixed
    rcases List.prefix_concat_iff.mp prefixed with whole | inner
    · obtain ⟨rfl, same⟩ := List.append_inj' whole rfl
      obtain rfl := List.singleton_inj.mp same
      by_contra long
      obtain ⟨streamedCtx, again, streamed⟩ := streamed_appendAll hash fits
      obtain rfl : streamedCtx = waiting := Option.some.inj (again.symm.trans taken)
      have none := streamed.overflow piece.property (not_lt.mp long)
      rw [none] at extended
      cases extended
    · exact fits front piece inner

end Pieces

end StreamHash

/-- The three hashes. -/
inductive HashAlgorithm where
  | sha1
  | sha256
  | md5

namespace HashAlgorithm

abbrev Words : HashAlgorithm → Type
  | sha1 => Sha1Words
  | sha256 => Sha256Words
  | md5 => Md5Words

def hash : (algorithm : HashAlgorithm) → StreamHash algorithm.Words
  | sha1 => Crypto.sha1
  | sha256 => Crypto.sha256
  | md5 => Crypto.md5

end HashAlgorithm

/-- A message may be cut in any way, as long as every piece fits behind what waits in the block. -/
theorem streams_iff_fits (algorithm : HashAlgorithm) (pieces : List StreamHash.Piece) :
    algorithm.hash.Streams pieces ↔ StreamHash.Fits pieces := by
  constructor
  · intro streams
    obtain ⟨ctx, appended, -⟩ := streams.blockLen pieces (List.prefix_refl _)
    exact StreamHash.fits_of_appendAll appended
  · exact StreamHash.streams_of_fits algorithm.hash

/-- A piece as long as an unsigned int can say. -/
def longPiece : StreamHash.Piece :=
  ⟨List.replicate (2 ^ 32 - 1) 0, by rw [List.length_replicate]; decide⟩

theorem length_longPiece : longPiece.val.length = 2 ^ 32 - 1 := List.length_replicate

/-- It does not fit behind a single byte. -/
theorem longPiece_not_streams :
    ¬HashAlgorithm.sha1.hash.Streams [⟨[0], by decide⟩, longPiece] := by
  intro streams
  obtain ⟨ctx, appended, -⟩ := streams.blockLen _ (List.prefix_refl _)
  have fits := StreamHash.fits_of_appendAll appended [⟨[0], by decide⟩] longPiece
    (List.prefix_refl _)
  rw [length_longPiece] at fits
  exact absurd fits (by decide)

end Mt7612u.Crypto
