import Goads.Ams.Header

/-!
# The `DeviceNotification` packet

`ams/notification.go`: the server-initiated frame that carries subscription samples. After the
two headers come a stream header (`Length`, `StampCount`), then `StampCount` stamps, each a
64-bit FILETIME written as two little-endian words, a `SampleCount` and that many samples; a
sample is a notification handle, a `Size` and `Size` data bytes.

`Decode` is two nested counted loops whose bounds are read from the buffer itself, with an
error check after every read. Before each loop it allocates the slice the loop fills,
`make([]NotificationStamp, StampCount)` and `make([]NotificationSample, SampleCount)`, with the
count just read and before any of the bytes it counts. `Encode` writes whatever the lists hold,
with no check that the counts agree with them.

## Main definitions

* `Goads.Ams.DeviceNotificationRequest.encode`, `Goads.Ams.DeviceNotificationRequest.decode` —
  `Encode`, and the reads of `Decode`.
* `Goads.Ams.DeviceNotificationRequest.decodeAlloc` — `Decode` with its allocations, in a
  process that can still allocate a given number of bytes; `Goads.Ams.Decoded` — how it ends.
* `Goads.Ams.DeviceNotificationRequest.WellFormed` — the counts agree with the lists.

## Main results

* `Goads.Ams.DeviceNotificationRequest.decode_run_encode_append` — decoding an encoded
  well-formed packet gives it back, whatever bytes follow.
* `Goads.Ams.DeviceNotificationRequest.decodeAlloc_refines` — `Decode` ends as its reads do,
  unless a `make` kills the process first.
* `Goads.Ams.DeviceNotificationRequest.decodeAlloc_encode_prefix` — with memory for its `make`s
  `Decode` decodes every encoding; what it returns is well formed and read from its own
  encoding; on a strict prefix of an encoding it returns an error or the process dies.
* `Goads.Ams.DeviceNotificationRequest.decodeAlloc_truncated_outOfMemory` — the 46 bytes before
  the stamps of a packet of `0xFFFFFFFF` stamps kill every process that cannot allocate 160 GiB.

## Design

The memory a process can still allocate is a parameter, `mem`: a `make` of `n` elements of `w`
bytes succeeds when `n · w ≤ mem` and takes that much, and otherwise the runtime dies with its
fatal `out of memory`, which no caller can recover from. The sizes are those of the structs on
a 64-bit target. The buffer is not among the sources, so whether `ReadN` copies is not known;
its bytes are not counted.
-/

namespace Goads.Ams

/-! ## The 64-bit timestamp -/

lemma testBit_eq_false_of_lt_two_pow {n i k : ℕ} (h : n < 2 ^ k) (hk : k ≤ i) :
    n.testBit i = false :=
  Nat.testBit_lt_two_pow (lt_of_lt_of_le h (Nat.pow_le_pow_right Nat.two_pos hk))

lemma toNat_uint64_lor (a b : UInt64) : (a ||| b).toNat = a.toNat ||| b.toNat :=
  BitVec.toNat_or _ _

lemma toNat_uint64_shiftLeft_32 (a : UInt64) : (a <<< 32).toNat = (a.toNat <<< 32) % 2 ^ 64 :=
  BitVec.toNat_shiftLeft (x := a.toBitVec) (n := 32)

lemma toNat_uint64_shiftRight_32 (a : UInt64) : (a >>> 32).toNat = a.toNat >>> 32 :=
  BitVec.toNat_ushiftRight a.toBitVec 32

lemma toNat_uint64_toUInt32 (a : UInt64) : a.toUInt32.toNat = a.toNat % 2 ^ 32 := rfl

/-- The timestamp `Decode` assembles from the two words it reads:
`uint64(low) | (uint64(high) << 32)`. -/
def joinTimestamp (low high : UInt32) : UInt64 := low.toUInt64 ||| (high.toUInt64 <<< 32)

/-- Splitting a timestamp into the two words `Encode` writes and joining them again gives it
back. -/
lemma joinTimestamp_split (t : UInt64) :
    joinTimestamp t.toUInt32 (t >>> 32).toUInt32 = t := by
  apply UInt64.ext
  rw [joinTimestamp, toNat_uint64_lor, toNat_uint64_shiftLeft_32, UInt32.toUInt64_toNat,
    UInt32.toUInt64_toNat, toNat_uint64_toUInt32, toNat_uint64_toUInt32,
    toNat_uint64_shiftRight_32]
  apply Nat.eq_of_testBit_eq
  intro i
  simp only [Nat.testBit_or, Nat.testBit_mod_two_pow, Nat.testBit_shiftLeft,
    Nat.testBit_shiftRight]
  by_cases h32 : i < 32
  · simp [h32]
  · have hi : 32 + (i - 32) = i := by omega
    by_cases h64 : i < 64
    · simp [h32, h64, hi, show i - 32 < 32 by omega, show 32 ≤ i by omega]
    · simp [h32, h64, testBit_eq_false_of_lt_two_pow t.toNat_lt (by omega : 64 ≤ i)]

/-- The two words of a joined timestamp are the words it was joined from. -/
lemma split_joinTimestamp (low high : UInt32) :
    (joinTimestamp low high).toUInt32 = low ∧ (joinTimestamp low high >>> 32).toUInt32 = high := by
  have hl := low.toNat_lt
  have hh := high.toNat_lt
  constructor <;> apply UInt32.ext <;>
    simp only [toNat_uint64_toUInt32, toNat_uint64_shiftRight_32, joinTimestamp,
      toNat_uint64_lor, toNat_uint64_shiftLeft_32, UInt32.toUInt64_toNat] <;>
    apply Nat.eq_of_testBit_eq <;> intro i <;>
    simp only [Nat.testBit_or, Nat.testBit_mod_two_pow, Nat.testBit_shiftLeft,
      Nat.testBit_shiftRight]
  · by_cases h32 : i < 32
    · simp [h32, show ¬32 ≤ i by omega]
    · simp [h32, testBit_eq_false_of_lt_two_pow hl (by omega : 32 ≤ i)]
  · have hl' := testBit_eq_false_of_lt_two_pow hl (by omega : 32 ≤ 32 + i)
    by_cases h32 : i < 32
    · simp [hl', h32, show 32 + i < 64 by omega]
    · simp [hl', testBit_eq_false_of_lt_two_pow hh (by omega : 32 ≤ i)]

/-! ## The packet -/

/-- `ams.NotificationSample`. -/
structure NotificationSample where
  handle : UInt32
  size : UInt32
  data : List UInt8
  deriving DecidableEq, Repr

/-- `ams.NotificationStamp`. -/
structure NotificationStamp where
  timestamp : UInt64
  sampleCount : UInt32
  samples : List NotificationSample
  deriving DecidableEq, Repr

/-- `ams.DeviceNotificationRequest`. -/
structure DeviceNotificationRequest where
  tcpHeader : TCPHeader
  amsHeader : AMSHeader
  length : UInt32
  stampCount : UInt32
  stamps : List NotificationStamp
  deriving DecidableEq, Repr

/-- The inner loop body of `Encode`. -/
def NotificationSample.encode (x : NotificationSample) : List UInt8 :=
  putUint32 x.handle ++ putUint32 x.size ++ writeN x.data x.size.toNat

/-- The outer loop body of `Encode`. -/
def NotificationStamp.encode (x : NotificationStamp) : List UInt8 :=
  putUint32 x.timestamp.toUInt32 ++ putUint32 (x.timestamp >>> 32).toUInt32 ++
    putUint32 x.sampleCount ++ x.samples.flatMap NotificationSample.encode

/-- `DeviceNotificationRequest.Encode`. -/
def DeviceNotificationRequest.encode (r : DeviceNotificationRequest) : List UInt8 :=
  r.tcpHeader.encode ++ r.amsHeader.encode ++ putUint32 r.length ++ putUint32 r.stampCount ++
    r.stamps.flatMap NotificationStamp.encode

/-- The inner loop body of `Decode`. -/
def NotificationSample.decode : Decoder NotificationSample := do
  let handle ← readUint32
  let size ← readUint32
  let data ← readN size.toNat
  return ⟨handle, size, data⟩

/-- The outer loop body of `Decode`. -/
def NotificationStamp.decode : Decoder NotificationStamp := do
  let low ← readUint32
  let high ← readUint32
  let sampleCount ← readUint32
  let samples ← readCount NotificationSample.decode sampleCount.toNat
  return ⟨joinTimestamp low high, sampleCount, samples⟩

/-- `DeviceNotificationRequest.Decode`. -/
def DeviceNotificationRequest.decode : Decoder DeviceNotificationRequest := do
  let tcpHeader ← TCPHeader.decode
  let amsHeader ← AMSHeader.decode
  let length ← readUint32
  let stampCount ← readUint32
  if stampCount = 0 then
    return ⟨tcpHeader, amsHeader, length, stampCount, []⟩
  else
    let stamps ← readCount NotificationStamp.decode stampCount.toNat
    return ⟨tcpHeader, amsHeader, length, stampCount, stamps⟩

/-! ## Well-formed packets -/

/-- A sample's `Size` is the length of its data. -/
def NotificationSample.WellFormed (x : NotificationSample) : Prop := x.size.toNat = x.data.length

/-- A stamp's `SampleCount` is the number of its samples, and each sample is well formed. -/
def NotificationStamp.WellFormed (x : NotificationStamp) : Prop :=
  x.sampleCount.toNat = x.samples.length ∧ ∀ y ∈ x.samples, y.WellFormed

/-- A packet's `StampCount` is the number of its stamps, and each stamp is well formed. -/
def DeviceNotificationRequest.WellFormed (r : DeviceNotificationRequest) : Prop :=
  r.stampCount.toNat = r.stamps.length ∧ ∀ x ∈ r.stamps, x.WellFormed

instance : DecidablePred NotificationSample.WellFormed :=
  fun x => inferInstanceAs (Decidable (x.size.toNat = x.data.length))

instance : DecidablePred NotificationStamp.WellFormed :=
  fun x => inferInstanceAs (Decidable (_ ∧ ∀ y ∈ x.samples, y.WellFormed))

instance : DecidablePred DeviceNotificationRequest.WellFormed :=
  fun r => inferInstanceAs (Decidable (_ ∧ ∀ x ∈ r.stamps, x.WellFormed))

/-! ## Decoding an encoding -/

lemma NotificationSample.decode_run_encode {x : NotificationSample} (hx : x.WellFormed)
    (t : List UInt8) : NotificationSample.decode.run (x.encode ++ t) = some (x, t) := by
  simp [NotificationSample.decode, NotificationSample.encode, writeN_of_length hx.symm,
    readN_run_of_length hx.symm]

lemma NotificationStamp.decode_run_encode {x : NotificationStamp} (hx : x.WellFormed)
    (t : List UInt8) : NotificationStamp.decode.run (x.encode ++ t) = some (x, t) := by
  have hs := readCount_run_flatMap (fun _ hy => NotificationSample.decode_run_encode hy)
    x.samples hx.2 t
  rw [← hx.1] at hs
  simp [NotificationStamp.decode, NotificationStamp.encode, hs, joinTimestamp_split]

/-- **`Decode` undoes `Encode`** on a well-formed packet, whatever bytes follow it. -/
theorem DeviceNotificationRequest.decode_run_encode_append {x : DeviceNotificationRequest}
    (hx : x.WellFormed) (t : List UInt8) :
    DeviceNotificationRequest.decode.run (x.encode ++ t) = some (x, t) := by
  obtain ⟨tcpHeader, amsHeader, length, stampCount, stamps⟩ := x
  obtain ⟨hcount, hstamps⟩ := hx
  by_cases h0 : stampCount = 0
  · subst h0
    obtain rfl : stamps = [] := List.length_eq_zero.mp hcount.symm
    simp [DeviceNotificationRequest.decode, DeviceNotificationRequest.encode]
  · have hs := readCount_run_flatMap (fun _ hy => NotificationStamp.decode_run_encode hy)
      stamps hstamps t
    rw [← hcount] at hs
    simp [DeviceNotificationRequest.decode, DeviceNotificationRequest.encode, h0, hs]

/-- The specification's notification scenario: one stamp at FILETIME `132580694400000000`, one
sample of handle `7` carrying the byte `1`, decoded back from its encoding. -/
theorem DeviceNotificationRequest.decode_run_encode_append_scenario :
    let addr : Addr := ⟨⟨[192, 168, 0, 1, 1, 1], rfl⟩, 851⟩
    let x : DeviceNotificationRequest :=
      ⟨⟨0, 62⟩, ⟨addr, addr, cmdADSDeviceNotification, stateADSCommand, 30, 0, 0⟩, 30, 1,
        [⟨132580694400000000, 1, [⟨7, 1, [1]⟩]⟩]⟩
    x.WellFormed ∧ DeviceNotificationRequest.decode.run (x.encode ++ []) = some (x, []) :=
  ⟨by decide, DeviceNotificationRequest.decode_run_encode_append (by decide) []⟩

/-! ## What a successful decode consumed -/

lemma NotificationSample.eq_encode_of_decode {s r : List UInt8} {x : NotificationSample}
    (h : NotificationSample.decode.run s = some (x, r)) : x.WellFormed ∧ s = x.encode ++ r := by
  obtain ⟨handle, s, h₁, h⟩ := exists_of_run_bind h
  obtain ⟨size, s, h₂, h⟩ := exists_of_run_bind h
  obtain ⟨data, s', h₃, h⟩ := exists_of_run_bind h
  obtain ⟨rfl, rfl⟩ := run_pure_eq_some.mp h
  obtain ⟨hlen, rfl⟩ := eq_append_of_readN h₃
  rw [eq_put_of_readUint32 h₁, eq_put_of_readUint32 h₂]
  exact ⟨hlen.symm, by simp [NotificationSample.encode, writeN_of_length hlen]⟩

lemma NotificationStamp.eq_encode_of_decode {s r : List UInt8} {x : NotificationStamp}
    (h : NotificationStamp.decode.run s = some (x, r)) : x.WellFormed ∧ s = x.encode ++ r := by
  obtain ⟨low, s, h₁, h⟩ := exists_of_run_bind h
  obtain ⟨high, s, h₂, h⟩ := exists_of_run_bind h
  obtain ⟨sampleCount, s, h₃, h⟩ := exists_of_run_bind h
  obtain ⟨samples, s', h₄, h⟩ := exists_of_run_bind h
  obtain ⟨rfl, rfl⟩ := run_pure_eq_some.mp h
  obtain ⟨hlen, hwf, rfl⟩ := eq_flatMap_of_readCount
    (fun _ _ _ hy => NotificationSample.eq_encode_of_decode hy) _ _ _ _ h₄
  rw [eq_put_of_readUint32 h₁, eq_put_of_readUint32 h₂, eq_put_of_readUint32 h₃]
  obtain ⟨hlow, hhigh⟩ := split_joinTimestamp low high
  exact ⟨⟨hlen.symm, hwf⟩, by simp [NotificationStamp.encode, hlow, hhigh]⟩

/-- Whatever `Decode` accepts is well formed, and the bytes it read are exactly the encoding of
the packet it returned. -/
lemma DeviceNotificationRequest.eq_encode_of_decode {s r : List UInt8}
    {x : DeviceNotificationRequest} (h : DeviceNotificationRequest.decode.run s = some (x, r)) :
    x.WellFormed ∧ s = x.encode ++ r := by
  obtain ⟨tcpHeader, s, h₁, h⟩ := exists_of_run_bind h
  obtain ⟨amsHeader, s, h₂, h⟩ := exists_of_run_bind h
  obtain ⟨length, s, h₃, h⟩ := exists_of_run_bind h
  obtain ⟨stampCount, s, h₄, h⟩ := exists_of_run_bind h
  rw [TCPHeader.eq_encode_of_decode h₁, AMSHeader.eq_encode_of_decode h₂,
    eq_put_of_readUint32 h₃, eq_put_of_readUint32 h₄]
  split at h
  · obtain ⟨rfl, rfl⟩ := run_pure_eq_some.mp h
    exact ⟨⟨by simp [*], by simp⟩, by simp [DeviceNotificationRequest.encode]⟩
  · obtain ⟨stamps, s', h₅, h⟩ := exists_of_run_bind h
    obtain ⟨rfl, rfl⟩ := run_pure_eq_some.mp h
    obtain ⟨hlen, hwf, rfl⟩ := eq_flatMap_of_readCount
      (fun _ _ _ hy => NotificationStamp.eq_encode_of_decode hy) _ _ _ _ h₅
    exact ⟨⟨hlen.symm, hwf⟩, by simp [DeviceNotificationRequest.encode]⟩

/-! ## The allocations of `Decode` -/

/-- The bytes of a Go `NotificationStamp`: `Timestamp`, `SampleCount` padded to eight bytes, and
the slice header of `Samples`. -/
def stampBytes : ℕ := 40

/-- The bytes of a Go `NotificationSample`: `Handle`, `Size`, and the slice header of `Data`. -/
def sampleBytes : ℕ := 32

/-- `make([]T, n)` for a `T` of `w` bytes, in a process that can still allocate `mem` bytes: what
it can allocate afterwards, or `none` for the runtime's fatal `out of memory`. -/
def makeSlice (w n mem : ℕ) : Option ℕ := if n * w ≤ mem then some (mem - n * w) else none

/-- How a run of `Decode` ends: with the value and the bytes left, with the error it returns, or
killed by the runtime's `out of memory` in a `make`. -/
inductive Decoded (α : Type)
  | ok (x : α) (rest : List UInt8)
  | error
  | outOfMemory
  deriving DecidableEq, Repr

namespace Decoded

variable {α β : Type}

/-- A read that allocates nothing: its value, or the error. -/
def ofOption : Option (α × List UInt8) → Decoded α
  | some (x, rest) => ok x rest
  | none => error

/-- Go on from the value read with the bytes left; an error or the crash ends the decode. -/
def bind : Decoded α → (α → List UInt8 → Decoded β) → Decoded β
  | ok x rest, f => f x rest
  | error, _ => error
  | outOfMemory, _ => outOfMemory

end Decoded

/-- What the outer loop body of `Decode` reads before its `make` of the samples. -/
def NotificationStamp.decodeHead : Decoder (UInt32 × UInt32 × UInt32) := do
  let low ← readUint32
  let high ← readUint32
  let sampleCount ← readUint32
  return (low, high, sampleCount)

/-- The outer loop body of `Decode` with its `make([]NotificationSample, SampleCount)`: the stamp
and what the process can still allocate. -/
def NotificationStamp.decodeAlloc (mem : ℕ) (s : List UInt8) : Decoded (NotificationStamp × ℕ) :=
  (Decoded.ofOption (NotificationStamp.decodeHead.run s)).bind fun (low, high, sampleCount) s =>
    match makeSlice sampleBytes sampleCount.toNat mem with
    | none => .outOfMemory
    | some mem =>
      (Decoded.ofOption ((readCount NotificationSample.decode sampleCount.toNat).run s)).bind
        fun samples s => .ok (⟨joinTimestamp low high, sampleCount, samples⟩, mem) s

/-- The loop over the stamps of `Decode`, each with its `make`. -/
def decodeStampsAlloc : ℕ → ℕ → List UInt8 → Decoded (List NotificationStamp)
  | 0, _, s => .ok [] s
  | n + 1, mem, s =>
    (NotificationStamp.decodeAlloc mem s).bind fun (x, mem) s =>
      (decodeStampsAlloc n mem s).bind fun xs s => .ok (x :: xs) s

/-- What `Decode` reads before its `make` of the stamps. -/
def DeviceNotificationRequest.decodeHead : Decoder (TCPHeader × AMSHeader × UInt32 × UInt32) := do
  let tcpHeader ← TCPHeader.decode
  let amsHeader ← AMSHeader.decode
  let length ← readUint32
  let stampCount ← readUint32
  return (tcpHeader, amsHeader, length, stampCount)

/-- `DeviceNotificationRequest.Decode` with its allocations, in a process that can still allocate
`mem` bytes: `make([]NotificationStamp, StampCount)` once `StampCount` is read and is not `0`,
then each stamp's `make([]NotificationSample, SampleCount)` once its `SampleCount` is read. -/
def DeviceNotificationRequest.decodeAlloc (mem : ℕ) (s : List UInt8) :
    Decoded DeviceNotificationRequest :=
  (Decoded.ofOption (DeviceNotificationRequest.decodeHead.run s)).bind
    fun (tcpHeader, amsHeader, length, stampCount) s =>
      if stampCount = 0 then .ok ⟨tcpHeader, amsHeader, length, stampCount, []⟩ s else
      match makeSlice stampBytes stampCount.toNat mem with
      | none => .outOfMemory
      | some mem =>
        (decodeStampsAlloc stampCount.toNat mem s).bind fun stamps s =>
          .ok ⟨tcpHeader, amsHeader, length, stampCount, stamps⟩ s

lemma NotificationStamp.decode_eq : NotificationStamp.decode = NotificationStamp.decodeHead >>=
    fun (low, high, sampleCount) => readCount NotificationSample.decode sampleCount.toNat >>=
      fun samples => pure ⟨joinTimestamp low high, sampleCount, samples⟩ := by
  simp only [NotificationStamp.decode, NotificationStamp.decodeHead, bind_assoc, pure_bind]

lemma DeviceNotificationRequest.decode_eq : DeviceNotificationRequest.decode =
    DeviceNotificationRequest.decodeHead >>= fun (tcpHeader, amsHeader, length, stampCount) =>
      if stampCount = 0 then pure ⟨tcpHeader, amsHeader, length, stampCount, []⟩
      else readCount NotificationStamp.decode stampCount.toNat >>=
        fun stamps => pure ⟨tcpHeader, amsHeader, length, stampCount, stamps⟩ := by
  simp only [DeviceNotificationRequest.decode, DeviceNotificationRequest.decodeHead, bind_assoc,
    pure_bind]


namespace Decoded

variable {α β : Type}

@[simp] lemma ofOption_some (x : α) (rest : List UInt8) : ofOption (some (x, rest)) = ok x rest := rfl
@[simp] lemma ofOption_none : ofOption (none : Option (α × List UInt8)) = error := rfl
@[simp] lemma ok_bind (x : α) (rest : List UInt8) (f : α → List UInt8 → Decoded β) :
    (ok x rest).bind f = f x rest := rfl
@[simp] lemma error_bind (f : α → List UInt8 → Decoded β) : (error : Decoded α).bind f = error := rfl
@[simp] lemma outOfMemory_bind (f : α → List UInt8 → Decoded β) :
    (outOfMemory : Decoded α).bind f = outOfMemory := rfl

/-- `d` is what the allocation-free read gives, `o`, unless a `make` killed the process first. -/
def Refines (d : Decoded α) (o : Option (α × List UInt8)) : Prop := d = outOfMemory ∨ d = ofOption o

/-- Refinement survives building a value from the one read. -/
lemma Refines.map {d : Decoded α} {x : Decoder α} {s : List UInt8} (h : d.Refines (x.run s))
    (g : α → β) : (d.bind fun a r => ok (g a) r).Refines ((x >>= fun a => pure (g a)).run s) := by
  rcases h with h | h
  · exact .inl (by rw [h]; rfl)
  · rw [h]
    rcases hr : x.run s with _ | ⟨a, r⟩
    · exact .inr (by rw [run_bind_none hr]; rfl)
    · exact .inr (by rw [run_bind_of_run hr]; rfl)

end Decoded

/-- One stamp: `Decode`'s outer loop body ends as the allocation-free one does, unless its `make`
kills the process. -/
lemma NotificationStamp.decodeAlloc_cases (mem : ℕ) (s : List UInt8) :
    NotificationStamp.decodeAlloc mem s = .outOfMemory ∨
      (NotificationStamp.decode.run s = none ∧ NotificationStamp.decodeAlloc mem s = .error) ∨
      ∃ x r mem', NotificationStamp.decode.run s = some (x, r) ∧
        NotificationStamp.decodeAlloc mem s = .ok (x, mem') r := by
  rw [NotificationStamp.decode_eq, NotificationStamp.decodeAlloc]
  rcases h₁ : NotificationStamp.decodeHead.run s with _ | ⟨⟨low, high, sampleCount⟩, s'⟩
  · exact .inr (.inl ⟨run_bind_none h₁, rfl⟩)
  rw [run_bind_of_run h₁]
  simp only [Decoded.ofOption_some, Decoded.ok_bind]
  rcases makeSlice sampleBytes sampleCount.toNat mem with _ | mem'
  · exact .inl rfl
  rcases h₂ : (readCount NotificationSample.decode sampleCount.toNat).run s' with _ | ⟨samples, r⟩
  · exact .inr (.inl ⟨run_bind_none h₂, by simp⟩)
  · exact .inr (.inr ⟨_, r, mem', by rw [run_bind_of_run h₂]; rfl, by simp⟩)

/-- The loop over the stamps. -/
lemma decodeStampsAlloc_refines :
    ∀ (n mem : ℕ) (s : List UInt8),
      (decodeStampsAlloc n mem s).Refines ((readCount NotificationStamp.decode n).run s)
  | 0, _, _ => .inr rfl
  | n + 1, mem, s => by
    rw [readCount_succ_run, decodeStampsAlloc]
    rcases NotificationStamp.decodeAlloc_cases mem s with h | ⟨hd, h⟩ | ⟨x, r, mem', hd, h⟩
    · exact .inl (by rw [h]; rfl)
    · exact .inr (by rw [h, run_bind_none hd]; rfl)
    · rw [h, run_bind_of_run hd, Decoded.ok_bind]
      exact (decodeStampsAlloc_refines n mem' r).map (x :: ·)

/-- **`Decode` with its allocations refines the allocation-free decoder**: it ends as `decode`
does, unless one of its `make`s kills the process first. -/
lemma DeviceNotificationRequest.decodeAlloc_refines (mem : ℕ) (s : List UInt8) :
    (DeviceNotificationRequest.decodeAlloc mem s).Refines (DeviceNotificationRequest.decode.run s) := by
  rw [DeviceNotificationRequest.decode_eq, DeviceNotificationRequest.decodeAlloc]
  rcases h₁ : DeviceNotificationRequest.decodeHead.run s with _ | ⟨⟨tcp, ams, length, c⟩, s'⟩
  · exact .inr (by rw [run_bind_none h₁]; rfl)
  rw [run_bind_of_run h₁]
  simp only [Decoded.ofOption_some, Decoded.ok_bind]
  split_ifs with hc
  · exact .inr rfl
  rcases makeSlice stampBytes c.toNat mem with _ | mem'
  · exact .inl rfl
  exact (decodeStampsAlloc_refines c.toNat mem' s').map _


/-! ### With enough memory -/

/-- The bytes the `make`s of the samples of the stamps ask for. -/
def samplesAllocBytes : List NotificationStamp → ℕ
  | [] => 0
  | st :: sts => st.sampleCount.toNat * sampleBytes + samplesAllocBytes sts

/-- The bytes the `make`s of `Decode` ask for on the encoding of `x`. -/
def DeviceNotificationRequest.allocBytes (x : DeviceNotificationRequest) : ℕ :=
  if x.stampCount = 0 then 0 else x.stampCount.toNat * stampBytes + samplesAllocBytes x.stamps

lemma NotificationStamp.decodeAlloc_encode {x : NotificationStamp} (hx : x.WellFormed) {mem : ℕ}
    (hmem : x.sampleCount.toNat * sampleBytes ≤ mem) (t : List UInt8) :
    NotificationStamp.decodeAlloc mem (x.encode ++ t) =
      .ok (x, mem - x.sampleCount.toNat * sampleBytes) t := by
  have hs := readCount_run_flatMap (fun _ hy => NotificationSample.decode_run_encode hy)
    x.samples hx.2 t
  rw [← hx.1] at hs
  simp [NotificationStamp.decodeAlloc, NotificationStamp.decodeHead, NotificationStamp.encode,
    makeSlice, hmem, hs, joinTimestamp_split]

lemma decodeStampsAlloc_flatMap : ∀ (xs : List NotificationStamp), (∀ x ∈ xs, x.WellFormed) →
    ∀ {mem : ℕ}, samplesAllocBytes xs ≤ mem → ∀ t,
      decodeStampsAlloc xs.length mem (xs.flatMap NotificationStamp.encode ++ t) = .ok xs t
  | [], _, _, _, _ => rfl
  | x :: xs, hxs, mem, hmem, t => by
    rw [samplesAllocBytes] at hmem
    rw [List.length_cons, decodeStampsAlloc, List.flatMap_cons, List.append_assoc,
      NotificationStamp.decodeAlloc_encode (hxs x (.head _)) (by omega), Decoded.ok_bind]
    dsimp only
    rw [decodeStampsAlloc_flatMap xs (fun y hy => hxs y (.tail _ hy)) (by omega), Decoded.ok_bind]

/-- What `Encode` writes before the stamps: the headers, `Length` and `StampCount`. -/
def DeviceNotificationRequest.encodeHead (r : DeviceNotificationRequest) : List UInt8 :=
  r.tcpHeader.encode ++ r.amsHeader.encode ++ putUint32 r.length ++ putUint32 r.stampCount

lemma DeviceNotificationRequest.encode_eq (r : DeviceNotificationRequest) :
    r.encode = r.encodeHead ++ r.stamps.flatMap NotificationStamp.encode := rfl

@[simp] lemma DeviceNotificationRequest.length_encodeHead (r : DeviceNotificationRequest) :
    r.encodeHead.length = 46 := by
  simp [DeviceNotificationRequest.encodeHead, amsHeaderLen]

lemma DeviceNotificationRequest.decodeHead_run_encodeHead (r : DeviceNotificationRequest)
    (t : List UInt8) : DeviceNotificationRequest.decodeHead.run (r.encodeHead ++ t) =
      some ((r.tcpHeader, r.amsHeader, r.length, r.stampCount), t) := by
  simp [DeviceNotificationRequest.decodeHead, DeviceNotificationRequest.encodeHead]

/-- With memory for its `make`s, `Decode` decodes the encoding of a well-formed packet. -/
lemma DeviceNotificationRequest.decodeAlloc_encode_append {x : DeviceNotificationRequest}
    (hx : x.WellFormed) {mem : ℕ} (hmem : x.allocBytes ≤ mem) (t : List UInt8) :
    DeviceNotificationRequest.decodeAlloc mem (x.encode ++ t) = .ok x t := by
  obtain ⟨tcp, ams, length, c, stamps⟩ := x
  obtain ⟨hcount, hstamps⟩ : c.toNat = stamps.length ∧ ∀ st ∈ stamps, st.WellFormed := hx
  rw [DeviceNotificationRequest.decodeAlloc, DeviceNotificationRequest.encode_eq,
    List.append_assoc, DeviceNotificationRequest.decodeHead_run_encodeHead]
  simp only [Decoded.ofOption_some, Decoded.ok_bind]
  split_ifs with h0
  · subst h0
    obtain rfl : stamps = [] := List.length_eq_zero.mp hcount.symm
    rfl
  · simp only [DeviceNotificationRequest.allocBytes, h0, if_false, hcount] at hmem
    rw [makeSlice, hcount, if_pos (by omega)]
    dsimp only
    rw [decodeStampsAlloc_flatMap stamps hstamps (by omega)]
    rfl

/-- What `Decode` returns, the allocation-free decoder returns. -/
lemma DeviceNotificationRequest.decode_run_of_decodeAlloc {mem : ℕ} {s r : List UInt8}
    {x : DeviceNotificationRequest} (h : DeviceNotificationRequest.decodeAlloc mem s = .ok x r) :
    DeviceNotificationRequest.decode.run s = some (x, r) := by
  rcases DeviceNotificationRequest.decodeAlloc_refines mem s with h' | h' <;> rw [h'] at h
  · cases h
  · rcases hd : DeviceNotificationRequest.decode.run s with _ | ⟨y, r'⟩ <;> rw [hd] at h <;> cases h
    rfl

/-! ## The round trips -/

/-- **`Encode` undoes `Decode` on its image.** Whatever `Decode` accepts has counts that agree
with its lists, and its encoding is a prefix of the bytes decoded; hence `Decode` rejects every
strict prefix of the encoding of a well-formed packet.

**Proof sketch.** The first part is `eq_encode_of_decode`. For the second, a packet `y` decoded
from a strict prefix `p` of `x.encode` satisfies `p = y.encode ++ r`; decoding the whole of
`x.encode` then returns `y` with a nonempty remainder by `decode_run_encode_append`, and also
`x` with none, a contradiction. -/
theorem DeviceNotificationRequest.decode_encode_prefix :
    (∀ s y r, DeviceNotificationRequest.decode.run s = some (y, r) →
      y.WellFormed ∧ y.encode <+: s) ∧
    ∀ x : DeviceNotificationRequest, x.WellFormed → ∀ p, p <+: x.encode → p ≠ x.encode →
      DeviceNotificationRequest.decode.run p = none := by
  refine ⟨fun s y r h => ?_, fun x hx p ⟨q, hq⟩ hne => ?_⟩
  · obtain ⟨hy, rfl⟩ := DeviceNotificationRequest.eq_encode_of_decode h
    exact ⟨hy, ⟨r, rfl⟩⟩
  · rcases hd : DeviceNotificationRequest.decode.run p with _ | ⟨y, r⟩
    · rfl
    · obtain ⟨hy, rfl⟩ := DeviceNotificationRequest.eq_encode_of_decode hd
      have h₁ := DeviceNotificationRequest.decode_run_of_decodeAlloc
        (DeviceNotificationRequest.decodeAlloc_encode_append hx le_rfl [])
      rw [List.append_nil, ← hq, List.append_assoc,
        DeviceNotificationRequest.decode_run_encode_append hy] at h₁
      obtain ⟨rfl, hrq⟩ := Prod.mk.inj (Option.some.inj h₁)
      obtain ⟨rfl, rfl⟩ := List.append_eq_nil.mp hrq
      exact absurd (List.append_nil _) hne

/-! ### A frame that overstates its stamps -/

lemma readCount_run_nil {α : Type} {d : Decoder α} (hd : d.run [] = none) {n : ℕ} (hn : n ≠ 0) :
    (readCount d n).run [] = none := by
  obtain ⟨m, rfl⟩ := Nat.exists_eq_succ_of_ne_zero hn
  rw [readCount_succ_run, run_bind_none hd]

/-- The head of a packet with stamps is a strict prefix that the allocation-free decoder rejects. -/
lemma DeviceNotificationRequest.decode_run_encodeHead (r : DeviceNotificationRequest)
    (hc : r.stampCount ≠ 0) : DeviceNotificationRequest.decode.run r.encodeHead = none := by
  have hh := DeviceNotificationRequest.decodeHead_run_encodeHead r []
  rw [List.append_nil] at hh
  rw [DeviceNotificationRequest.decode_eq, run_bind_of_run hh]
  dsimp only
  have hn : r.stampCount.toNat ≠ 0 := fun h => hc (UInt32.eq_of_val_eq (Fin.ext h))
  rw [if_neg hc, run_bind_none (readCount_run_nil (d := NotificationStamp.decode) rfl hn)]

/-- `Decode` of the head of a packet whose `make` of the stamps exceeds the memory left. -/
lemma DeviceNotificationRequest.decodeAlloc_encodeHead (r : DeviceNotificationRequest)
    (hc : r.stampCount ≠ 0) {mem : ℕ} (hmem : mem < r.stampCount.toNat * stampBytes) :
    DeviceNotificationRequest.decodeAlloc mem r.encodeHead = .outOfMemory := by
  have hh := DeviceNotificationRequest.decodeHead_run_encodeHead r []
  rw [List.append_nil] at hh
  rw [DeviceNotificationRequest.decodeAlloc, hh]
  simp only [Decoded.ofOption_some, Decoded.ok_bind, if_neg hc]
  rw [makeSlice, if_neg (by omega)]

/-- **`Decode` never returns a packet from a truncated encoding.** In a process that can still
allocate any `mem` bytes: with memory for its `make`s, `Decode` decodes the encoding of every
well-formed packet, whatever follows; whatever it returns is well formed and is read from its own
encoding; and on every strict prefix of an encoding it returns an error or the process dies of
`out of memory`.

**Proof sketch.** `Decode` ends as the allocation-free decoder does unless a `make` kills it
(`decodeAlloc_refines`), and that decoder rejects every strict prefix (`decode_encode_prefix`). -/
theorem DeviceNotificationRequest.decodeAlloc_encode_prefix (mem : ℕ) :
    (∀ x : DeviceNotificationRequest, x.WellFormed → x.allocBytes ≤ mem → ∀ t,
      DeviceNotificationRequest.decodeAlloc mem (x.encode ++ t) = .ok x t) ∧
    (∀ s y r, DeviceNotificationRequest.decodeAlloc mem s = .ok y r →
      y.WellFormed ∧ s = y.encode ++ r) ∧
    ∀ x : DeviceNotificationRequest, x.WellFormed → ∀ p, p <+: x.encode → p ≠ x.encode →
      DeviceNotificationRequest.decodeAlloc mem p = .error ∨
        DeviceNotificationRequest.decodeAlloc mem p = .outOfMemory := by
  refine ⟨fun x hx hmem t => DeviceNotificationRequest.decodeAlloc_encode_append hx hmem t,
    fun s y r h => DeviceNotificationRequest.eq_encode_of_decode
      (DeviceNotificationRequest.decode_run_of_decodeAlloc h), fun x hx p hp hne => ?_⟩
  rcases DeviceNotificationRequest.decodeAlloc_refines mem p with h | h
  · exact .inr h
  · rw [h, DeviceNotificationRequest.decode_encode_prefix.2 x hx p hp hne]
    exact .inl rfl

/-- **A truncated frame kills the process.** The packet `x` has `0xFFFFFFFF` empty stamps and is
well formed. The 46 bytes of its headers, `Length` and `StampCount` are a strict prefix of its
encoding, which the allocation-free decoder rejects. `Decode` first runs
`make([]NotificationStamp, 0xFFFFFFFF)`, `40 · 0xFFFFFFFF` bytes (about 160 GiB), and in every
process that cannot allocate that much the runtime dies of `out of memory`. -/
theorem DeviceNotificationRequest.decodeAlloc_truncated_outOfMemory :
    let addr : Addr := ⟨⟨[192, 168, 0, 1, 1, 1], rfl⟩, 851⟩
    let x : DeviceNotificationRequest :=
      ⟨⟨0, 40⟩, ⟨addr, addr, cmdADSDeviceNotification, stateADSCommand, 8, 0, 0⟩, 0, 0xFFFFFFFF,
        List.replicate 0xFFFFFFFF ⟨0, 0, []⟩⟩
    x.WellFormed ∧ x.encodeHead.length = 46 ∧ x.encodeHead <+: x.encode ∧
      x.encodeHead ≠ x.encode ∧ DeviceNotificationRequest.decode.run x.encodeHead = none ∧
      ∀ mem < 0xFFFFFFFF * stampBytes,
        DeviceNotificationRequest.decodeAlloc mem x.encodeHead = .outOfMemory := by
  intro addr x
  have hc : x.stampCount ≠ 0 := by
    show (0xFFFFFFFF : UInt32) ≠ 0
    decide
  refine ⟨⟨?_, fun st hst => ?_⟩, x.length_encodeHead, ⟨_, (x.encode_eq).symm⟩, fun h => ?_,
    x.decode_run_encodeHead hc, fun mem hmem => x.decodeAlloc_encodeHead hc hmem⟩
  · show (0xFFFFFFFF : UInt32).toNat = (List.replicate 0xFFFFFFFF _).length
    rw [List.length_replicate]
    rfl
  · rw [List.eq_of_mem_replicate hst]
    decide
  · rw [x.encode_eq, eq_comm, List.append_right_eq_self, List.flatMap_eq_nil_iff] at h
    exact absurd (h _ (List.mem_replicate.mpr ⟨by decide, rfl⟩)) (by decide)

end Goads.Ams
