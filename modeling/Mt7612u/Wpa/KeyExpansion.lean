import Mt7612u.Receive.Memory
import Mt7612u.Wpa.DerivePtk

/-! `PRF` and `KDF` over their buffers: whole digests go to the output, one octet of the input
counts them. -/

namespace Mt7612u.Wpa
open Receive (Memory Span)

/-- The two buffers, at which place the next digest goes, and the record of the run: what was hashed
and where bytes were stored. -/
structure ExpandRun where
  input : Memory
  output : Memory
  currentindex : Nat
  hashed : List (List UInt8)
  inputSpans : List Span
  outputSpans : List Span

/-- What is given to `PRF` or `KDF`; `capacity` is the size of the buffer behind `output`. -/
structure ExpandCall where
  key : List UInt8
  label : List UInt8
  data : List UInt8
  len : Nat
  capacity : Nat

namespace ExpandRun

/-- A store into `input`. -/
def lay (run : ExpandRun) (place : Nat) (bytes : List UInt8) : ExpandRun :=
  { run with
    input := run.input.write place bytes
    inputSpans := run.inputSpans ++ [⟨place, bytes.length⟩] }

/-- One digest of `size` bytes, and `input[place]++`. -/
def turn (hmac : List UInt8 → List UInt8) (size totalLen place : Nat) (run : ExpandRun) :
    ExpandRun :=
  let text := run.input.bytes 0 totalLen
  let hashed : ExpandRun :=
    { run with
      output := run.output.write run.currentindex (hmac text)
      currentindex := run.currentindex + size
      hashed := run.hashed ++ [text]
      outputSpans := run.outputSpans ++ [⟨run.currentindex, size⟩] }
  hashed.lay place [run.input place + 1]

def turns (hmac : List UInt8 → List UInt8) (size totalLen place : Nat) :
    Nat → ExpandRun → ExpandRun
  | 0, run => run
  | count + 1, run => turns hmac size totalLen place count (run.turn hmac size totalLen place)

end ExpandRun

/-- `RT_HMAC_SHA256` with its whole digest. -/
abbrev HmacSha256 := List UInt8 → List UInt8 → Bytes 32

section source
variable (memory : Bool) (junk output : Memory) (call : ExpandCall)

/-- `PRF`, where `junk` is what stands in the memory it gets from `kmalloc`. -/
def prfRun (hmacSha1 : HmacSha1) : ExpandRun :=
  let start : ExpandRun := ⟨junk, output, 0, [], [], []⟩
  if memory then
    let input := ((start.lay 0 call.label).lay call.label.length [0]).lay (call.label.length + 1)
      call.data
    let totalLen := call.label.length + 1 + call.data.length
    (input.lay totalLen [0]).turns (fun text => (hmacSha1 call.key text).val) 20 (totalLen + 1)
      totalLen ((call.len + 19) / 20)
  else start

/-- `KDF`; its length has 16 bits. -/
def kdfRun (hmacSha256 : HmacSha256) : ExpandRun :=
  let start : ExpandRun := ⟨junk, output, 0, [], [], []⟩
  if memory then
    let lenInBits := call.len % 65536 * 8
    let zeroed := start.lay 0 (List.replicate 1024 0)
    let counted := (zeroed.lay 0 [1]).lay 1 [0]
    let laid := (counted.lay 2 call.label).lay (2 + call.label.length) call.data
    let totalLen := 2 + call.label.length + call.data.length
    let whole := (laid.lay totalLen [UInt8.ofNat lenInBits]).lay (totalLen + 1)
      [UInt8.ofNat (lenInBits / 256)]
    whole.turns (fun text => (hmacSha256 call.key text).val) 32 (totalLen + 2) 0
      ((lenInBits + 255) / 256)
  else start

end source

/-- A number of 16 bits, the low byte first. -/
def le16Bytes (value : Nat) : List UInt8 := [UInt8.ofNat value, UInt8.ofNat (value / 256)]

/-- The key derivation function, before it is cut: the digests of `i || label || context || length`
from 1 on. -/
def standardKdf (hmacSha256 : HmacSha256) (key label data : List UInt8) (len : Nat) : List UInt8 :=
  (List.range' 1 ((8 * len + 255) / 256)).flatMap fun i =>
    (hmacSha256 key (le16Bytes i ++ label ++ data ++ le16Bytes (8 * len))).val

namespace ExpandCall

/-- The buffers are large enough for a call of `PRF`: the output for whole digests. -/
structure FitsPrf (call : ExpandCall) : Prop where
  input : call.label.length + call.data.length + 2 ≤ 1024
  counter : (call.len + 19) / 20 ≤ 256
  output : 20 * ((call.len + 19) / 20) ≤ call.capacity

/-- The same for `KDF`, whose counter starts at one. -/
structure FitsKdf (call : ExpandCall) : Prop where
  input : call.label.length + call.data.length + 4 ≤ 1024
  counter : (8 * call.len + 255) / 256 ≤ 255
  output : 32 * ((8 * call.len + 255) / 256) ≤ call.capacity

/-- The lengths of a call: of the label, of the data and of the output, and the buffer behind it. -/
def sizes (call : ExpandCall) : Nat × Nat × Nat × Nat :=
  (call.label.length, call.data.length, call.len, call.capacity)

/-- The calls of the driver: `WpaDerivePTK` into `PTK[80]`, `WpaDeriveGTK` into `temp[80]`, and
`GenRandom` into `result[80]` with a clock of four or eight bytes. -/
def Driver (call : ExpandCall) : Prop :=
  call.sizes ∈ [(22, 76, 64, 80), (19, 38, 32, 80), (12, 44, 32, 80), (12, 48, 32, 80)]

theorem Driver.fits {call : ExpandCall} (driver : call.Driver) : call.FitsPrf := by
  obtain ⟨key, label, data, len, capacity⟩ := call
  simp only [Driver, sizes, List.mem_cons, Prod.mk.injEq, List.not_mem_nil, or_false] at driver
  constructor <;> simp only <;> omega

end ExpandCall

/-- What a call has to leave: the first `len` bytes of the digests, no store beyond a buffer, and no
text that was hashed twice. -/
structure Fills (call : ExpandCall) (output : Memory) (digests : List UInt8) (run : ExpandRun) :
    Prop where
  filled : run.output.bytes 0 call.len = digests.take call.len
  inside : ∀ span ∈ run.outputSpans, span.start + span.count ≤ call.capacity
  untouched : ∀ address, call.capacity ≤ address → run.output address = output address
  distinct : run.hashed.Nodup
  buffer : ∀ span ∈ run.inputSpans, span.start + span.count ≤ 1024

section blocks
variable {hmac : List UInt8 → List UInt8} {size : Nat} {front back : List UInt8} {first : UInt8}
  {output : Memory} {run : ExpandRun} {done : Nat}

/-- After some digests: the input with its counter, and the digests in a row. -/
structure Expanding (hmac : List UInt8 → List UInt8) (size : Nat) (front back : List UInt8)
    (first : UInt8) (output : Memory) (done : Nat) (run : ExpandRun) : Prop where
  input : run.input.Holds 0 (front ++ (first + UInt8.ofNat done) :: back)
  index : run.currentindex = size * done
  hashed : run.hashed = (List.range done).map fun i => front ++ (first + UInt8.ofNat i) :: back
  digests : run.output.Holds 0 (run.hashed.flatMap hmac)
  length : (run.hashed.flatMap hmac).length = size * done
  untouched : ∀ address, size * done ≤ address → run.output address = output address
  inputSpans : ∀ span ∈ run.inputSpans, span.start + span.count ≤ 1024
  outputSpans : ∀ span ∈ run.outputSpans, span.start + span.count ≤ size * done

/-- One byte of a block is replaced. -/
theorem holds_replace {mem : Memory} {old new : UInt8} (holds : mem.Holds 0 (front ++ old :: back)) :
    (mem.write front.length [new]).Holds 0 (front ++ new :: back) := by
  rw [Memory.holds_append, Nat.zero_add] at holds ⊢
  obtain ⟨before, behind⟩ := holds
  refine ⟨Memory.holds_write_apart before (Or.inr (by omega)), ?_⟩
  rw [← List.singleton_append, Memory.holds_append] at behind
  exact Memory.holds_write [new] behind.2

theorem holds_entry {mem : Memory} {old : UInt8} (holds : mem.Holds 0 (front ++ old :: back)) :
    mem front.length = old := by
  rw [Memory.holds_append, Nat.zero_add, ← List.singleton_append, Memory.holds_append] at holds
  have here : [mem (front.length + 0)] = [old] := holds.2.1
  exact List.singleton_inj.mp here

theorem Expanding.turn (whole : ∀ text, (hmac text).length = size)
    (room : front.length < 1024) (expanding : Expanding hmac size front back first output done run) :
    Expanding hmac size front back first output (done + 1)
      (run.turn hmac size (front.length + 1 + back.length) front.length) := by
  obtain ⟨input, index, hashed, digests, length, untouched, inputSpans, outputSpans⟩ := expanding
  have text : run.input.bytes 0 (front.length + 1 + back.length) =
      front ++ (first + UInt8.ofNat done) :: back := by
    have count : (front ++ (first + UInt8.ofNat done) :: back).length =
        front.length + 1 + back.length := by
      rw [List.length_append, List.length_cons]
      omega
    rw [← count]
    exact input
  have next : run.input front.length + 1 = first + UInt8.ofNat (done + 1) := by
    rw [holds_entry input, UInt8.ofNat_add, UInt8.add_assoc]
    rfl
  have further : size * (done + 1) = size * done + size := Nat.mul_succ size done
  have hashed' : run.hashed ++ [front ++ (first + UInt8.ofNat done) :: back] =
      (List.range (done + 1)).map fun i => front ++ (first + UInt8.ofNat i) :: back := by
    rw [List.range_succ, List.map_append, hashed]
    rfl
  have row : (run.hashed ++ [front ++ (first + UInt8.ofNat done) :: back]).flatMap hmac =
      run.hashed.flatMap hmac ++ hmac (front ++ (first + UInt8.ofNat done) :: back) := by
    rw [List.flatMap_append, List.flatMap_singleton]
  unfold ExpandRun.turn ExpandRun.lay
  rw [text, next]
  constructor
  · exact holds_replace input
  · show run.currentindex + size = _
    omega
  · exact hashed'
  · show Memory.Holds (run.output.write run.currentindex _) 0 (List.flatMap hmac (_ ++ [_]))
    rw [row, index, ← length]
    have stored := Memory.holds_write_behind digests
      (hmac (front ++ (first + UInt8.ofNat done) :: back))
    rwa [Nat.zero_add] at stored
  · show (List.flatMap hmac (_ ++ [_])).length = _
    rw [row, List.length_append, length, whole, further]
  · intro address behind
    have far := whole (front ++ (first + UInt8.ofNat done) :: back)
    show run.output.write _ _ address = _
    rw [Memory.write_after _ (by omega)]
    exact untouched address (by omega)
  · intro span member
    rcases List.mem_append.mp member with old | new
    · exact inputSpans span old
    · rw [List.mem_singleton.mp new]
      show front.length + 1 ≤ 1024
      omega
  · intro span member
    rcases List.mem_append.mp member with old | new
    · have before := outputSpans span old
      omega
    · rw [List.mem_singleton.mp new]
      show run.currentindex + size ≤ _
      omega

/-- The run lemma: any number of digests. -/
theorem Expanding.turns (whole : ∀ text, (hmac text).length = size) (room : front.length < 1024)
    (count : Nat) {done : Nat} {run : ExpandRun}
    (expanding : Expanding hmac size front back first output done run) :
    Expanding hmac size front back first output (done + count)
      (run.turns hmac size (front.length + 1 + back.length) front.length count) := by
  induction count generalizing done run with
  | zero => exact expanding
  | succ count ih =>
    have later := ih (expanding.turn whole room)
    rwa [Nat.add_right_comm] at later

/-- Up to 256 digests the counter does not come back. -/
theorem Expanding.fills {call : ExpandCall}
    (expanding : Expanding hmac size front back first output done run) (few : done ≤ 256)
    (enough : call.len ≤ size * done) (room : size * done ≤ call.capacity) :
    Fills call output (((List.range done).map fun i =>
      front ++ (first + UInt8.ofNat i) :: back).flatMap hmac) run where
  filled := by
    have prefixed : run.output.bytes 0 (size * done) = run.hashed.flatMap hmac := by
      rw [← expanding.length]
      exact expanding.digests
    have split := run.output.bytes_append 0 call.len (size * done - call.len)
    rw [Nat.add_sub_cancel' enough, prefixed, expanding.hashed] at split
    rw [split, List.take_left' (Memory.length_bytes _ _ _)]
  inside := fun span member => (expanding.outputSpans span member).trans room
  untouched := fun address behind => expanding.untouched address (room.trans behind)
  distinct := by
    rw [expanding.hashed]
    apply List.Nodup.map_on _ List.nodup_range
    intro i inside j inside' same
    have octets := List.append_cancel_left same
    have equal : UInt8.ofNat i = UInt8.ofNat j := by
      have heads := (List.cons.inj octets).1
      exact UInt8.add_right_inj first |>.mp heads
    have low := List.mem_range.mp inside
    have low' := List.mem_range.mp inside'
    have values := congrArg UInt8.toNat equal
    simp only [UInt8.toNat_ofNat'] at values
    omega
  buffer := expanding.inputSpans

end blocks

section start
variable {run : ExpandRun} {output : Memory}

/-- Before the first digest: `input` is laid out, and nothing is stored in the output. -/
structure Laid (output : Memory) (text : List UInt8) (run : ExpandRun) : Prop where
  holds : run.input.Holds 0 text
  spans : ∀ span ∈ run.inputSpans, span.start + span.count ≤ 1024
  fresh : run.output = output ∧ run.currentindex = 0 ∧ run.hashed = [] ∧ run.outputSpans = []

theorem Laid.start (junk output : Memory) : Laid output [] ⟨junk, output, 0, [], [], []⟩ :=
  ⟨rfl, by simp, rfl, rfl, rfl, rfl⟩

/-- The next part goes behind what is there. -/
theorem Laid.lay {text : List UInt8} (laid : Laid output text run) (place : Nat)
    (part : List UInt8) (behind : place = text.length) (room : place + part.length ≤ 1024) :
    Laid output (text ++ part) (run.lay place part) := by
  subst behind
  refine ⟨?_, ?_, laid.fresh⟩
  · have stored := Memory.holds_write_behind laid.holds part
    rwa [Nat.zero_add] at stored
  · intro span member
    rcases List.mem_append.mp member with old | new
    · exact laid.spans span old
    · rw [List.mem_singleton.mp new]
      exact room

/-- `memset(input, 0, 1024)` in front of the rest. -/
theorem Laid.zeroed (junk output : Memory) : Laid output []
    ((⟨junk, output, 0, [], [], []⟩ : ExpandRun).lay 0 (List.replicate 1024 0)) := by
  refine ⟨rfl, ?_, rfl, rfl, rfl, rfl⟩
  intro span member
  rw [List.mem_singleton.mp member, List.length_replicate]
  exact le_rfl

theorem Laid.expanding {hmac : List UInt8 → List UInt8} {size : Nat} {front back : List UInt8}
    {first : UInt8} (laid : Laid output (front ++ first :: back) run) :
    Expanding hmac size front back first output 0 run := by
  obtain ⟨holds, spans, rfl, index, hashed, outputSpans⟩ := laid
  have none : first + UInt8.ofNat 0 = first := UInt8.add_zero first
  refine ⟨by rwa [none], index, hashed, ?_, ?_, fun _ _ => rfl, spans, ?_⟩
  · rw [hashed]
    rfl
  · rw [hashed]
    rfl
  · rw [outputSpans]
    simp

end start

section whole
variable {call : ExpandCall}

theorem prfRun_fills (hmacSha1 : HmacSha1) (junk output : Memory) (fits : call.FitsPrf) :
    Fills call output (standardPrf hmacSha1 call.key call.label call.data call.len)
      (prfRun true junk output call hmacSha1) := by
  have room := fits.input
  have front : (call.label ++ [0] ++ call.data).length =
      call.label.length + 1 + call.data.length := by
    rw [List.length_append, List.length_append, List.length_singleton]
  have labelled : Laid output call.label _ :=
    (Laid.start junk output).lay 0 call.label rfl (by omega)
  have zero := labelled.lay call.label.length [0] rfl (by rw [List.length_singleton]; omega)
  have context := zero.lay (call.label.length + 1) call.data
    (by rw [List.length_append, List.length_singleton]) (by omega)
  have laid := context.lay (call.label.length + 1 + call.data.length) [0] front.symm
    (by rw [List.length_singleton]; omega)
  have starts : Expanding (fun text => (hmacSha1 call.key text).val) 20
      (call.label ++ [0] ++ call.data) [] 0 output 0 _ := laid.expanding
  have expanded := starts.turns (fun text => (hmacSha1 call.key text).property) (by omega)
    ((call.len + 19) / 20)
  rw [Nat.zero_add] at expanded
  have fills := expanded.fills fits.counter (by omega) fits.output
  have digests : ((List.range ((call.len + 19) / 20)).map fun i =>
      call.label ++ [0] ++ call.data ++ (0 + UInt8.ofNat i) :: []).flatMap
        (fun text => (hmacSha1 call.key text).val) =
      standardPrf hmacSha1 call.key call.label call.data call.len := by
    rw [List.flatMap_map]
    simp only [UInt8.zero_add]
    rfl
  rw [digests, front] at fills
  exact fills

theorem kdfRun_fills (hmacSha256 : HmacSha256) (junk output : Memory) (fits : call.FitsKdf) :
    Fills call output (standardKdf hmacSha256 call.key call.label call.data call.len)
      (kdfRun true junk output call hmacSha256) := by
  have room := fits.input
  have counter := fits.counter
  have short : call.len % 65536 * 8 = 8 * call.len := by
    omega
  have one : Laid output [1] _ := (Laid.zeroed junk output).lay 0 [1] rfl (by decide)
  have two := one.lay 1 [0] rfl (by decide)
  have labelled := two.lay 2 call.label rfl (by omega)
  have context := labelled.lay (2 + call.label.length) call.data
    (by rw [List.length_append]; rfl) (by omega)
  have low := context.lay (2 + call.label.length + call.data.length)
    [UInt8.ofNat (call.len % 65536 * 8)] (by rw [List.length_append, List.length_append]; rfl)
    (by rw [List.length_singleton]; omega)
  have laid := low.lay (2 + call.label.length + call.data.length + 1)
    [UInt8.ofNat (call.len % 65536 * 8 / 256)]
    (by rw [List.length_append, List.length_append, List.length_append]; rfl)
    (by rw [List.length_singleton]; omega)
  have text : [1] ++ [0] ++ call.label ++ call.data ++ [UInt8.ofNat (call.len % 65536 * 8)] ++
      [UInt8.ofNat (call.len % 65536 * 8 / 256)] =
        [] ++ 1 :: (0 :: call.label ++ call.data ++ le16Bytes (8 * call.len)) := by
    rw [short]
    simp [le16Bytes]
  rw [text] at laid
  have back : (0 :: call.label ++ call.data ++ le16Bytes (8 * call.len)).length =
      call.label.length + call.data.length + 3 := by
    rw [List.length_append, List.length_append, List.length_cons]
    show _ + 1 + _ + 2 = _
    omega
  have starts : Expanding (fun text => (hmacSha256 call.key text).val) 32 []
      (0 :: call.label ++ call.data ++ le16Bytes (8 * call.len)) 1 output 0 _ := laid.expanding
  have expanded := starts.turns (fun text => (hmacSha256 call.key text).property) (by decide)
    ((call.len % 65536 * 8 + 255) / 256)
  rw [Nat.zero_add, short] at expanded
  have fills := expanded.fills (by omega) (by omega) fits.output
  have digests : ((List.range ((8 * call.len + 255) / 256)).map fun i =>
      [] ++ (1 + UInt8.ofNat i) :: (0 :: call.label ++ call.data ++ le16Bytes (8 * call.len))).flatMap
        (fun text => (hmacSha256 call.key text).val) =
      standardKdf hmacSha256 call.key call.label call.data call.len := by
    rw [List.flatMap_map, standardKdf, List.range'_eq_map_range, List.flatMap_map]
    apply List.flatMap_congr
    intro i member
    have below := List.mem_range.mp member
    have octets : le16Bytes (1 + i) = [1 + UInt8.ofNat i, 0] := by
      rw [le16Bytes, Nat.div_eq_of_lt (by omega), UInt8.ofNat_add]
      rfl
    rw [octets]
    simp
  rw [digests, back] at fills
  have total : 2 + call.label.length + call.data.length + 2 =
      0 + 1 + (call.label.length + call.data.length + 3) := by
    omega
  unfold kdfRun
  simp only [if_true, total, short]
  simp only [List.length_nil] at fills
  exact fills

/-- Every call of the driver, and every call whose buffers are large enough: the output starts with
the first `len` bytes of the digests, no text is hashed twice and nothing is stored beyond a buffer.
Where there is no memory, nothing is stored. -/
theorem expansion_fills (junk output : Memory) (call : ExpandCall) :
    (call.Driver → call.FitsPrf) ∧
    (call.FitsPrf → ∀ hmacSha1 : HmacSha1,
      Fills call output (standardPrf hmacSha1 call.key call.label call.data call.len)
        (prfRun true junk output call hmacSha1)) ∧
    (call.FitsKdf → ∀ hmacSha256 : HmacSha256,
      Fills call output (standardKdf hmacSha256 call.key call.label call.data call.len)
        (kdfRun true junk output call hmacSha256)) ∧
    (∀ hmacSha1 : HmacSha1, (prfRun false junk output call hmacSha1).output = output) ∧
    ∀ hmacSha256 : HmacSha256, (kdfRun false junk output call hmacSha256).output = output :=
  ⟨ExpandCall.Driver.fits, fun fits hmacSha1 => prfRun_fills hmacSha1 junk output fits,
    fun fits hmacSha256 => kdfRun_fills hmacSha256 junk output fits, fun _ => rfl, fun _ => rfl⟩

/-- `WpaDerivePTK` with keys and data of zeros. -/
def zeroPtk : ExpandCall :=
  ⟨List.replicate 32 0, pairwiseKeyExpansion, List.replicate 76 0, 64, 80⟩

/-- A hash that is one everywhere. -/
def onesHash : HmacSha1 := fun _ _ => Bytes.ofList 20 (List.replicate 20 1)

theorem expansion_fills_zeroPtk : zeroPtk.Driver ∧
    Fills zeroPtk (fun _ => 0) (standardPrf onesHash zeroPtk.key zeroPtk.label zeroPtk.data 64)
      (prfRun true (fun _ => 0) (fun _ => 0) zeroPtk onesHash) := by
  have driver : zeroPtk.Driver := by
    unfold ExpandCall.Driver
    decide
  have fills := expansion_fills (fun _ => 0) (fun _ => 0) zeroPtk
  exact ⟨driver, fills.2.1 (fills.1 driver) onesHash⟩

/-- For want of memory the key is not made. -/
theorem prf_noMemory : zeroPtk.Driver ∧
    ¬ Fills zeroPtk (fun _ => 0) (standardPrf onesHash zeroPtk.key zeroPtk.label zeroPtk.data 64)
      (prfRun false (fun _ => 0) (fun _ => 0) zeroPtk onesHash) := by
  constructor
  · unfold ExpandCall.Driver
    decide
  · intro fills
    have first := congrArg List.head? fills.filled
    revert first
    decide

end whole

end Mt7612u.Wpa
