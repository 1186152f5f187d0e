import Mathlib.Data.Nat.Digits
import Goads.Ams.Buffer

/-!
# The primitive value codec

`EncodeValue` turns the text of a value into the bytes of a PLC type, `DecodeFieldValue` turns
bytes back into a Go value chosen by the type's name, and `TypedEncoder` and `TypedDecoder` do
the same from and to typed Go values. An integer type is read with
`fmt.Sscanf(value, "%d", &val)` into a Go integer of the type's width and written little endian;
`BOOL` is one byte; a `STRING` type is written as `size` bytes, the text cut or padded with
`0`s, and read up to its first `0`.

## Main definitions

* `Goads.Session.GoInt` — the Go integer types, with their widths, their ranges, and the two's
  complement conversions `GoInt.bits` (`uintN(v)`) and `GoInt.ofBits` (`intN(u)`).
* `Goads.Session.scanInt` — `fmt.Sscanf(value, "%d", &val)`.
* `Goads.Session.encodeValue`, `Goads.Session.decodeFieldValue` — the codec driven by type names.
* `Goads.Session.TypedEncoder`, `Goads.Session.TypedDecoder` — the typed codec; its integer
  members are `encodeInteger` and `decodeInteger` at the member's type.

## Main results

* `Goads.Session.scanInt_decimal` — `Sscanf` reads back the decimal text of every value of a
  type.
* `Goads.Session.codec_round_trip` — for every integer type and value, `EncodeValue` of the
  value's decimal text is the typed encoding, and both decoders read the value back from it,
  whatever follows; likewise for `BOOL`; for a `STRING` type of any size `n ≥ 1`, both codecs
  give back the text up to its first `0` within its first `n` bytes.

## Design

Go strings are byte strings, and a type name is compared with `ascii` of its literal. What
`DecodeFieldValue` returns is a `Value`, the `interface{}` of the code; a float is held by its
bits. `Sscanf` reads its text rune by rune: its skipping of spaces decodes the UTF-8 of the runes in
`fmt`'s table of spaces (tab, vertical tab, form feed, carriage return, space, and the spaces
above ASCII) and stops at a newline with an error; the digits and signs it reads after them are
ASCII, which no byte of a longer rune is. The `%f` scan of `REAL` and `LREAL`, Go's correctly
rounded decimal-to-binary conversion, is a parameter, `FloatScan`. Errors are data: a
`CodecError` keeps the type label and the scan error that the code's messages print.
-/

namespace Goads.Session

open Ams

/-- The bytes of an ASCII literal, as a Go string holds it. -/
def ascii (s : String) : List UInt8 := s.toList.map fun c => c.toNat.toUInt8

/-! ## Go integer types -/

/-- The Go integer types of the codec. -/
inductive GoInt
  | int8 | uint8 | int16 | uint16 | int32 | uint32 | int64 | uint64
  deriving DecidableEq, Repr

namespace GoInt

/-- The width in bytes. -/
def bytes : GoInt → ℕ
  | int8 | uint8 => 1
  | int16 | uint16 => 2
  | int32 | uint32 => 4
  | int64 | uint64 => 8

/-- Whether the type is signed. -/
def signed : GoInt → Bool
  | int8 | int16 | int32 | int64 => true
  | uint8 | uint16 | uint32 | uint64 => false

/-- The least value of the type. -/
def min (t : GoInt) : ℤ := if t.signed then -2 ^ (8 * t.bytes - 1) else 0

/-- The bound above the values of the type. -/
def bound (t : GoInt) : ℤ := if t.signed then 2 ^ (8 * t.bytes - 1) else 2 ^ (8 * t.bytes)

/-- The values of the type. -/
def InRange (t : GoInt) (v : ℤ) : Prop := t.min ≤ v ∧ v < t.bound

instance (t : GoInt) : DecidablePred t.InRange := fun _ => inferInstanceAs (Decidable (_ ∧ _))

/-- A value of the type. -/
def Val (t : GoInt) : Type := {v : ℤ // t.InRange v}

instance (t : GoInt) : DecidableEq t.Val := inferInstanceAs (DecidableEq {v : ℤ // t.InRange v})

/-- `uintN(v)`: the two's complement bits of `v` in the type's width. -/
def bits (t : GoInt) (v : ℤ) : ℕ := (v % 2 ^ (8 * t.bytes)).toNat

/-- `intN(u)` for a signed type, `u` itself for an unsigned one: the value whose bits are `n`. -/
def ofBits (t : GoInt) (n : ℕ) : ℤ :=
  if t.signed ∧ 2 ^ (8 * t.bytes - 1) ≤ n then n - 2 ^ (8 * t.bytes) else n

/-- Only a signed type has negative values. -/
lemma signed_of_neg {t : GoInt} {v : ℤ} (h : t.InRange v) (hv : v < 0) : t.signed = true := by
  by_contra hs
  have hmin := h.1
  rw [min, if_neg hs] at hmin
  omega

lemma bits_lt (t : GoInt) (v : ℤ) : t.bits v < 2 ^ (8 * t.bytes) := by
  cases t <;> simp only [bits, bytes, Nat.reduceMul, Nat.reducePow] <;> omega

lemma ofBits_bits {t : GoInt} {v : ℤ} (h : t.InRange v) : t.ofBits (t.bits v) = v := by
  cases t <;>
    simp only [InRange, min, bound, ofBits, bits, signed, bytes, Nat.reduceMul, Nat.reduceSub,
      Nat.reducePow, Int.reducePow, Int.reduceNeg, if_true, true_and, Bool.false_eq_true, false_and,
      if_false] at h ⊢ <;>
    (try split_ifs) <;> omega

lemma inRange_ofBits {t : GoInt} {n : ℕ} (h : n < 2 ^ (8 * t.bytes)) : t.InRange (t.ofBits n) := by
  cases t <;>
    simp only [InRange, min, bound, ofBits, signed, bytes, Nat.reduceMul, Nat.reduceSub,
      Nat.reducePow, Int.reducePow, Int.reduceNeg, if_true, true_and, Bool.false_eq_true, false_and,
      if_false] at h ⊢ <;>
    (try split_ifs) <;> omega

end GoInt

/-- The `interface{}` that `DecodeFieldValue` returns: `nil`, a `bool`, an integer of a Go type,
a float by its bits, or a string. -/
inductive Value
  | nil
  | bool (b : Bool)
  | int (t : GoInt) (v : ℤ)
  | float32 (bits : UInt32)
  | float64 (bits : UInt64)
  | string (s : List UInt8)
  deriving DecidableEq, Repr

/-! ## `fmt.Sscanf(value, "%d", &val)` -/

/-- The errors of `fmt.Sscanf(value, "%d", &val)`: `io.EOF`, "unexpected newline", "expected
integer", the range error of `strconv`, and "integer overflow on token". -/
inductive ScanError
  | eof | unexpectedNewline | expectedInteger | outOfRange | overflow
  deriving DecidableEq, Repr

/-- `isSpace` of `fmt` on a rune of one byte: tab, vertical tab, form feed, carriage return and
space (and newline, which `skipSpace` takes first). -/
def isSpace (b : UInt8) : Bool := b = 9 ∨ b = 11 ∨ b = 12 ∨ b = 13 ∨ b = 32

/-- `isSpace` of `fmt` on a rune of two bytes of UTF-8: U+0085 and U+00A0. -/
def isSpace2 (b₀ b₁ : UInt8) : Bool := b₀ = 0xC2 ∧ (b₁ = 0x85 ∨ b₁ = 0xA0)

/-- `isSpace` of `fmt` on a rune of three bytes of UTF-8: U+1680, U+2000 to U+200A, U+2028,
U+2029, U+202F, U+205F and U+3000. -/
def isSpace3 (b₀ b₁ b₂ : UInt8) : Bool :=
  b₀ = 0xE1 ∧ b₁ = 0x9A ∧ b₂ = 0x80 ∨
    b₀ = 0xE2 ∧ b₁ = 0x80 ∧ (0x80 ≤ b₂ ∧ b₂ ≤ 0x8A ∨ b₂ = 0xA8 ∨ b₂ = 0xA9 ∨ b₂ = 0xAF) ∨
    b₀ = 0xE2 ∧ b₁ = 0x81 ∧ b₂ = 0x9F ∨ b₀ = 0xE3 ∧ b₁ = 0x80 ∧ b₂ = 0x80

/-- `ss.SkipSpace` of `Sscanf`, for which a newline is not a space: it reads rune by rune,
decoding UTF-8, and stops before the first rune that is not a space. -/
def skipSpace : List UInt8 → Except ScanError (List UInt8)
  | [] => pure []
  | b₀ :: rest =>
    if b₀ = 10 then throw .unexpectedNewline
    else if isSpace b₀ then skipSpace rest
    else match rest with
      | [] => pure [b₀]
      | b₁ :: rest₁ =>
        if isSpace2 b₀ b₁ then skipSpace rest₁
        else match rest₁ with
          | [] => pure [b₀, b₁]
          | b₂ :: rest₂ => if isSpace3 b₀ b₁ b₂ then skipSpace rest₂ else pure (b₀ :: b₁ :: b₂ :: rest₂)

/-- `s.accept(sign)`: whether a `-` was taken, and what is left. -/
def acceptSign : List UInt8 → Bool × List UInt8
  | [] => (false, [])
  | b :: rest => if b = 45 then (true, rest) else if b = 43 then (false, rest) else (false, b :: rest)

/-- An ASCII decimal digit. -/
def isDigit (b : UInt8) : Bool := 48 ≤ b.toNat ∧ b.toNat ≤ 57

/-- The loop of `strconv.ParseUint` in base 10 over digits, without its 64-bit bound. -/
def decimalValue (ds : List UInt8) : ℕ := ds.foldl (fun n d => 10 * n + (d.toNat - 48)) 0

/-- The 64-bit bound of `strconv.ParseInt` for a signed type, of `strconv.ParseUint` for an
unsigned one. -/
def parseBound (signed : Bool) (i : ℤ) : Bool :=
  if signed then -2 ^ 63 ≤ i ∧ i < 2 ^ 63 else i < 2 ^ 64

/-- Every value of a type is within the 64-bit range of `strconv`. -/
lemma parseBound_of_inRange {t : GoInt} {v : ℤ} (h : t.InRange v) : parseBound t.signed v = true := by
  cases t <;>
    simp only [GoInt.InRange, GoInt.min, GoInt.bound, GoInt.signed, GoInt.bytes, parseBound,
      Nat.reduceMul, Nat.reduceSub, Int.reducePow, Int.reduceNeg, if_true, Bool.false_eq_true,
      if_false, decide_eq_true_eq] at h ⊢ <;> omega

/-- `fmt.Sscanf(value, "%d", &val)` with `val` of type `t`: `ss.scanInt` for a signed type,
`ss.scanUint` for an unsigned one. Spaces are skipped, a sign is taken for a signed type only,
at least one digit must follow, the digits are parsed in 64 bits and the value must fit `t`.
What follows the digits is not read. -/
def scanInt (t : GoInt) (value : List UInt8) : Except ScanError ℤ := do
  let s ← skipSpace value
  if s = [] then throw .eof
  let (neg, s) := if t.signed then acceptSign s else (false, s)
  let ds := s.takeWhile isDigit
  if ds = [] then throw (if s = [] then .eof else .expectedInteger)
  let i : ℤ := if neg then -(decimalValue ds : ℤ) else decimalValue ds
  if !parseBound t.signed i then throw .outOfRange
  if !decide (t.InRange i) then throw .overflow
  pure i

/-- An ideographic space, U+3000, before `7` is skipped. -/
example : scanInt .int32 [0xE3, 0x80, 0x80, 55] = .ok 7 := rfl

/-! ## `EncodeValue` and `DecodeFieldValue` -/

/-- The errors of the codec: `invalid <label> value: <scan error>` and `unsupported data type:
<type>` of `EncodeValue`, and `insufficient data for <label>` of `TypedDecoder`. -/
inductive CodecError
  | invalidValue (label : List UInt8) (e : ScanError)
  | unsupportedType (dataType : List UInt8)
  | insufficientData (label : List UInt8)
  deriving DecidableEq, Repr

/-- `fmt.Sscanf(value, "%f", &val)` into a `float32` and into a `float64`, as the bits of the
value read. -/
structure FloatScan where
  float32 : List UInt8 → Except ScanError UInt32
  float64 : List UInt8 → Except ScanError UInt64

/-- `binary.LittleEndian.PutUintN(data, uintN(v))`, `N` the width of `t`. -/
def encodeInteger (t : GoInt) (v : ℤ) : List UInt8 := leBytes t.bytes (t.bits v)

/-- An integer case of `EncodeValue`: `Sscanf` into a variable of type `t`, an error wrapped with
the case's label, and the value written little endian. -/
def encodeScanned (t : GoInt) (label value : List UInt8) : Except CodecError (List UInt8) :=
  match scanInt t value with
  | .error e => throw (.invalidValue label e)
  | .ok v => pure (encodeInteger t v)

/-- `len(dataType) >= 6 && dataType[:6] == "STRING"`. -/
def isStringType (dataType : List UInt8) : Bool :=
  6 ≤ dataType.length ∧ dataType.take 6 = ascii "STRING"

/-- The `STRING` case of `EncodeValue`: `size` zero bytes with the text copied over them, and a
`0` written after the text when it is shorter. -/
def encodeStringValue (value : List UInt8) (size : ℕ) : List UInt8 :=
  let data := writeN value size
  if value.length < size then data.set value.length 0 else data

/-- `EncodeValue(value, dataType, size)`. -/
def encodeValue (scan : FloatScan) (value dataType : List UInt8) (size : UInt32) :
    Except CodecError (List UInt8) :=
  if dataType = ascii "BOOL" then pure [if value = ascii "true" ∨ value = ascii "1" then 1 else 0]
  else if dataType = ascii "SINT" then encodeScanned .int8 (ascii "SINT") value
  else if dataType = ascii "USINT" ∨ dataType = ascii "BYTE" then
    encodeScanned .uint8 (ascii "USINT/BYTE") value
  else if dataType = ascii "INT" then encodeScanned .int16 (ascii "INT") value
  else if dataType = ascii "UINT" ∨ dataType = ascii "WORD" then
    encodeScanned .uint16 (ascii "UINT/WORD") value
  else if dataType = ascii "DINT" then encodeScanned .int32 (ascii "DINT") value
  else if dataType = ascii "UDINT" ∨ dataType = ascii "DWORD" then
    encodeScanned .uint32 (ascii "UDINT/DWORD") value
  else if dataType = ascii "LINT" then encodeScanned .int64 (ascii "LINT") value
  else if dataType = ascii "ULINT" ∨ dataType = ascii "LWORD" then
    encodeScanned .uint64 (ascii "ULINT/LWORD") value
  else if dataType = ascii "REAL" then
    match scan.float32 value with
    | .error e => throw (.invalidValue (ascii "REAL") e)
    | .ok b => pure (putUint32 b)
  else if dataType = ascii "LREAL" then
    match scan.float64 value with
    | .error e => throw (.invalidValue (ascii "LREAL") e)
    | .ok b => pure (leBytes 8 b.toNat)
  else if isStringType dataType then pure (encodeStringValue value size.toNat)
  else throw (.unsupportedType dataType)

/-- A digit of `%X`. -/
def hexDigit (d : ℕ) : UInt8 := if d < 10 then UInt8.ofNat (48 + d) else UInt8.ofNat (55 + d)

/-- `fmt.Sprintf("%X", data)`: each byte as two upper-case hexadecimal digits. -/
def hexUpper (data : List UInt8) : List UInt8 :=
  data.flatMap fun b => [hexDigit (b.toNat / 16), hexDigit (b.toNat % 16)]

/-- The bytes before the first `0`, or all of them: the `STRING` loops of `DecodeFieldValue`
and `TypedDecoder.DecodeString`. -/
def untilNul (data : List UInt8) : List UInt8 := data.take (data.findIdx (· = 0))

/-- An integer case of `DecodeFieldValue`: the value of type `t` little endian in the first bytes,
or, on fewer bytes than the type's width, the hexadecimal text of the data. -/
def decodeIntegerField (t : GoInt) (data : List UInt8) : Value :=
  if t.bytes ≤ data.length then .int t (t.ofBits (leValue (data.take t.bytes)))
  else .string (hexUpper data)

/-- `DecodeFieldValue(data, dataType)`. -/
def decodeFieldValue (data dataType : List UInt8) : Value :=
  if data = [] then .nil
  else if dataType = ascii "BOOL" then
    match data with
    | b :: _ => .bool (b != 0)
    | [] => .string (hexUpper [])
  else if dataType = ascii "SINT" ∨ dataType = ascii "USINT" ∨ dataType = ascii "BYTE" then
    if dataType = ascii "SINT" then decodeIntegerField .int8 data
    else decodeIntegerField .uint8 data
  else if dataType = ascii "INT" then decodeIntegerField .int16 data
  else if dataType = ascii "UINT" ∨ dataType = ascii "WORD" then decodeIntegerField .uint16 data
  else if dataType = ascii "DINT" then decodeIntegerField .int32 data
  else if dataType = ascii "UDINT" ∨ dataType = ascii "DWORD" then decodeIntegerField .uint32 data
  else if dataType = ascii "LINT" then decodeIntegerField .int64 data
  else if dataType = ascii "ULINT" ∨ dataType = ascii "LWORD" then decodeIntegerField .uint64 data
  else if dataType = ascii "REAL" then
    if 4 ≤ data.length then .float32 (UInt32.ofNat (leValue (data.take 4)))
    else .string (hexUpper data)
  else if dataType = ascii "LREAL" then
    if 8 ≤ data.length then .float64 (UInt64.ofNat (leValue (data.take 8)))
    else .string (hexUpper data)
  else if isStringType dataType then .string (untilNul data)
  else .string (hexUpper data)

/-- The test of the specification: four `0xFF` bytes of a `DINT` are `-1`. -/
example : decodeFieldValue [255, 255, 255, 255] (ascii "DINT") = .int .int32 (-1) := by decide

/-! ## `TypedEncoder` and `TypedDecoder` -/

lemma leValue_take_lt (data : List UInt8) (k : ℕ) : leValue (data.take k) < 2 ^ (8 * k) :=
  calc leValue (data.take k) < 256 ^ (data.take k).length := leValue_lt _
    _ ≤ 256 ^ k := Nat.pow_le_pow_right (by norm_num) (List.length_take_le k data)
    _ = 2 ^ (8 * k) := by rw [pow_mul]; norm_num

/-- `DecodeInt16` and its siblings: an error naming `label` on fewer bytes than the width of `t`,
and otherwise the first bytes little endian, as a value of `t`. -/
def decodeInteger (t : GoInt) (label data : List UInt8) : Except CodecError t.Val :=
  if data.length < t.bytes then throw (.insufficientData label)
  else pure ⟨t.ofBits (leValue (data.take t.bytes)), GoInt.inRange_ofBits (leValue_take_lt _ _)⟩

namespace TypedEncoder

/-- `EncodeBool`. -/
def encodeBool (value : Bool) : List UInt8 := if value then [1] else [0]

/-- `EncodeByte`. -/
def encodeByte (value : GoInt.uint8.Val) : List UInt8 := encodeInteger .uint8 value.1

/-- `EncodeSInt`. -/
def encodeSInt (value : GoInt.int8.Val) : List UInt8 := encodeInteger .int8 value.1

/-- `EncodeInt16`. -/
def encodeInt16 (value : GoInt.int16.Val) : List UInt8 := encodeInteger .int16 value.1

/-- `EncodeUInt16`. -/
def encodeUInt16 (value : GoInt.uint16.Val) : List UInt8 := encodeInteger .uint16 value.1

/-- `EncodeInt32`. -/
def encodeInt32 (value : GoInt.int32.Val) : List UInt8 := encodeInteger .int32 value.1

/-- `EncodeUInt32`. -/
def encodeUInt32 (value : GoInt.uint32.Val) : List UInt8 := encodeInteger .uint32 value.1

/-- `EncodeInt64`. -/
def encodeInt64 (value : GoInt.int64.Val) : List UInt8 := encodeInteger .int64 value.1

/-- `EncodeUInt64`. -/
def encodeUInt64 (value : GoInt.uint64.Val) : List UInt8 := encodeInteger .uint64 value.1

/-- `EncodeFloat32`, of the float with bits `value`. -/
def encodeFloat32 (value : UInt32) : List UInt8 := putUint32 value

/-- `EncodeFloat64`, of the float with bits `value`. -/
def encodeFloat64 (value : UInt64) : List UInt8 := leBytes 8 value.toNat

/-- `EncodeString(value, maxLen)`: `maxLen` zero bytes with the text copied over them; `make`
panics on a negative length. -/
def encodeString (value : List UInt8) (maxLen : ℤ) : Option (List UInt8) :=
  if maxLen < 0 then none else some (writeN value maxLen.toNat)

end TypedEncoder

namespace TypedDecoder

/-- `DecodeBool`. -/
def decodeBool : List UInt8 → Except CodecError Bool
  | [] => throw (.insufficientData (ascii "BOOL"))
  | b :: _ => pure (b != 0)

/-- `DecodeByte`. -/
def decodeByte : List UInt8 → Except CodecError GoInt.uint8.Val := decodeInteger .uint8 (ascii "BYTE")

/-- `DecodeSInt`. -/
def decodeSInt : List UInt8 → Except CodecError GoInt.int8.Val := decodeInteger .int8 (ascii "SINT")

/-- `DecodeInt16`. -/
def decodeInt16 : List UInt8 → Except CodecError GoInt.int16.Val := decodeInteger .int16 (ascii "INT")

/-- `DecodeUInt16`. -/
def decodeUInt16 : List UInt8 → Except CodecError GoInt.uint16.Val :=
  decodeInteger .uint16 (ascii "UINT")

/-- `DecodeInt32`. -/
def decodeInt32 : List UInt8 → Except CodecError GoInt.int32.Val := decodeInteger .int32 (ascii "DINT")

/-- `DecodeUInt32`. -/
def decodeUInt32 : List UInt8 → Except CodecError GoInt.uint32.Val :=
  decodeInteger .uint32 (ascii "UDINT")

/-- `DecodeInt64`. -/
def decodeInt64 : List UInt8 → Except CodecError GoInt.int64.Val := decodeInteger .int64 (ascii "LINT")

/-- `DecodeUInt64`. -/
def decodeUInt64 : List UInt8 → Except CodecError GoInt.uint64.Val :=
  decodeInteger .uint64 (ascii "ULINT")

/-- `DecodeFloat32`: the bits of the float. -/
def decodeFloat32 (data : List UInt8) : Except CodecError UInt32 :=
  if data.length < 4 then throw (.insufficientData (ascii "REAL"))
  else pure (UInt32.ofNat (leValue (data.take 4)))

/-- `DecodeFloat64`: the bits of the float. -/
def decodeFloat64 (data : List UInt8) : Except CodecError UInt64 :=
  if data.length < 8 then throw (.insufficientData (ascii "LREAL"))
  else pure (UInt64.ofNat (leValue (data.take 8)))

/-- `DecodeString`. -/
def decodeString (data : List UInt8) : Except CodecError (List UInt8) :=
  if data = [] then pure [] else pure (untilNul data)

end TypedDecoder

/-! ## Reading back the decimal text of a value -/

/-- `strconv.FormatUint(n, 10)`: the decimal digits of `n`, most significant first. -/
def decimalDigits (n : ℕ) : List UInt8 :=
  if n = 0 then [48] else (Nat.digits 10 n).reverse.map fun d => UInt8.ofNat (48 + d)

/-- `strconv.FormatInt(v, 10)`: the decimal text of `v`. -/
def decimal (v : ℤ) : List UInt8 :=
  if v < 0 then 45 :: decimalDigits v.natAbs else decimalDigits v.natAbs

lemma isDigit_decimalDigits (n : ℕ) : ∀ b ∈ decimalDigits n, isDigit b = true := by
  unfold decimalDigits
  split_ifs
  · decide
  · simp only [List.mem_map, List.mem_reverse, forall_exists_index, and_imp]
    rintro _ d hd rfl
    have := Nat.digits_lt_base (by norm_num) hd
    simp only [isDigit, toNat_uint8_ofNat, decide_eq_true_eq]
    omega

lemma decimalDigits_ne_nil (n : ℕ) : decimalDigits n ≠ [] := by
  unfold decimalDigits
  split_ifs with hn
  · exact List.cons_ne_nil _ _
  · simpa using Nat.digits_ne_nil_iff_ne_zero.mpr hn

/-- The loop of `strconv.ParseUint` reads the digits of `n` back as `n`. -/
lemma decimalValue_decimalDigits (n : ℕ) : decimalValue (decimalDigits n) = n := by
  unfold decimalDigits
  split_ifs with hn
  · rw [hn]; rfl
  · have hd : ∀ d ∈ (Nat.digits 10 n).reverse, (UInt8.ofNat (48 + d)).toNat - 48 = d := by
      intro d hd
      have := Nat.digits_lt_base (by norm_num) (List.mem_reverse.mp hd)
      rw [toNat_uint8_ofNat]
      omega
    rw [decimalValue, List.foldl_map,
      List.foldl_ext _ (fun m d => 10 * m + d) _ fun m d h => by rw [hd d h], List.foldl_reverse]
    conv_rhs => rw [← Nat.ofDigits_digits 10 n, Nat.ofDigits_eq_foldr]
    simp only [Nat.cast_id, add_comm]

/-- `SkipSpace` stops at once before an ASCII byte from `+` on. -/
lemma skipSpace_of_le {b : UInt8} (hb : 43 ≤ b.toNat) (hb' : b.toNat < 128) (rest : List UInt8) :
    skipSpace (b :: rest) = pure (b :: rest) := by
  have hne : ∀ k : UInt8, (k.toNat < 43 ∨ 128 ≤ k.toNat) → b ≠ k := fun k hk h => by
    rw [h] at hb hb'
    omega
  rcases rest with _ | ⟨b₁, _ | ⟨b₂, rest⟩⟩ <;>
    simp only [skipSpace, isSpace, isSpace2, isSpace3, hne 10 (by decide), hne 9 (by decide),
      hne 11 (by decide), hne 12 (by decide), hne 13 (by decide), hne 32 (by decide),
      hne 0xC2 (by decide), hne 0xE1 (by decide), hne 0xE2 (by decide), hne 0xE3 (by decide),
      false_and, or_self, decide_False, Bool.false_eq_true, if_false]

lemma acceptSign_of_isDigit {b : UInt8} (hb : isDigit b = true) (rest : List UInt8) :
    acceptSign (b :: rest) = (false, b :: rest) := by
  simp only [isDigit, decide_eq_true_eq] at hb
  have hne : ∀ k : UInt8, k.toNat < 48 → b ≠ k := fun k hk h => by rw [h] at hb; omega
  simp only [acceptSign, hne 45 (by decide), hne 43 (by decide), if_false]

/-- `Sscanf` into a variable of a type reads the decimal text of each of its values back. -/
theorem scanInt_decimal {t : GoInt} {v : ℤ} (h : t.InRange v) : scanInt t (decimal v) = .ok v := by
  obtain ⟨b, rest, hds⟩ := List.exists_cons_of_ne_nil (decimalDigits_ne_nil v.natAbs)
  have hb : isDigit b = true := isDigit_decimalDigits _ b (by rw [hds]; exact List.mem_cons_self _ _)
  obtain ⟨hb43, hb128⟩ : 43 ≤ b.toNat ∧ b.toNat < 128 := by
    simp only [isDigit, decide_eq_true_eq] at hb
    omega
  have hsign : (if t.signed then acceptSign (decimal v) else (false, decimal v)) =
      (decide (v < 0), decimalDigits v.natAbs) := by
    unfold decimal
    by_cases hv : v < 0
    · simp only [hv, if_true, GoInt.signed_of_neg h hv, decide_True]
      rfl
    · simp only [hv, if_false, decide_False, hds, acceptSign_of_isDigit hb, ite_self]
  have hskip : skipSpace (decimal v) = pure (decimal v) := by
    unfold decimal
    split_ifs
    · exact skipSpace_of_le (by decide) (by decide) _
    · rw [hds, skipSpace_of_le hb43 hb128]
  have hne : decimal v ≠ [] := by unfold decimal; split_ifs <;> simp [hds]
  have hall : (decimalDigits v.natAbs).takeWhile isDigit = decimalDigits v.natAbs :=
    List.takeWhile_eq_self_iff.mpr (isDigit_decimalDigits _)
  have hi : (if decide (v < 0) = true then -(v.natAbs : ℤ) else (v.natAbs : ℤ)) = v := by
    split_ifs with hv <;> simp only [decide_eq_true_eq] at hv <;> omega
  simp only [scanInt, hskip, pure_bind, if_neg hne, hsign, hall, if_neg (decimalDigits_ne_nil _),
    decimalValue_decimalDigits, hi, parseBound_of_inRange h, Bool.not_true, decide_eq_true h,
    Bool.false_eq_true, if_false]
  rfl

/-! ## The integer types -/

/-- The integer types of the PLC, with the Go type that the codec reads and writes each as. -/
def integerTypes : List (List UInt8 × GoInt) :=
  [(ascii "SINT", .int8), (ascii "USINT", .uint8), (ascii "BYTE", .uint8), (ascii "INT", .int16),
    (ascii "UINT", .uint16), (ascii "WORD", .uint16), (ascii "DINT", .int32),
    (ascii "UDINT", .uint32), (ascii "DWORD", .uint32), (ascii "LINT", .int64),
    (ascii "ULINT", .uint64), (ascii "LWORD", .uint64)]

/-- On an integer type, `EncodeValue` is the case of its Go type, and `DecodeFieldValue` of
data is the integer case of that type. -/
lemma integerTypes_cases {p : List UInt8 × GoInt} (h : p ∈ integerTypes) :
    (∃ label, ∀ scan value size, encodeValue scan value p.1 size = encodeScanned p.2 label value) ∧
      ∀ data, data ≠ [] → decodeFieldValue data p.1 = decodeIntegerField p.2 data := by
  fin_cases h <;>
    exact ⟨⟨_, fun _ _ _ => rfl⟩, fun data hd => by unfold decodeFieldValue; rw [if_neg hd]; rfl⟩

lemma length_encodeInteger (t : GoInt) (v : ℤ) : (encodeInteger t v).length = t.bytes :=
  length_leBytes _ _

lemma leValue_encodeInteger (t : GoInt) (v : ℤ) : leValue (encodeInteger t v) = t.bits v := by
  rw [encodeInteger, leValue_leBytes, Nat.mod_eq_of_lt]
  calc t.bits v < 2 ^ (8 * t.bytes) := t.bits_lt v
    _ = 256 ^ t.bytes := by rw [pow_mul]; norm_num

/-- The first bytes of an encoding followed by anything are the encoding. -/
lemma take_encodeInteger_append (t : GoInt) (v : ℤ) (rest : List UInt8) :
    (encodeInteger t v ++ rest).take t.bytes = encodeInteger t v := by
  rw [List.take_append_eq_append_take, List.take_of_length_le (length_encodeInteger t v).le,
    length_encodeInteger, Nat.sub_self, List.take_zero, List.append_nil]

lemma decodeInteger_encodeInteger {t : GoInt} (v : t.Val) (label rest : List UInt8) :
    decodeInteger t label (encodeInteger t v.1 ++ rest) = .ok v := by
  have hlen : ¬(encodeInteger t v.1 ++ rest).length < t.bytes := by
    rw [List.length_append, length_encodeInteger]; omega
  rw [decodeInteger, if_neg hlen]
  refine congrArg Except.ok (Subtype.ext ?_)
  dsimp only
  rw [take_encodeInteger_append, leValue_encodeInteger, GoInt.ofBits_bits v.2]

lemma decodeIntegerField_encodeInteger {t : GoInt} {v : ℤ} (h : t.InRange v) (rest : List UInt8) :
    decodeIntegerField t (encodeInteger t v ++ rest) = .int t v := by
  have hlen : t.bytes ≤ (encodeInteger t v ++ rest).length := by
    rw [List.length_append, length_encodeInteger]; omega
  rw [decodeIntegerField, if_pos hlen, take_encodeInteger_append, leValue_encodeInteger,
    GoInt.ofBits_bits h]

lemma encodeInteger_ne_nil (t : GoInt) (v : ℤ) (rest : List UInt8) : encodeInteger t v ++ rest ≠ [] := by
  have : 0 < t.bytes := by cases t <;> decide
  rw [← List.length_pos, List.length_append, length_encodeInteger]
  omega

lemma encodeScanned_decimal {t : GoInt} {v : ℤ} (h : t.InRange v) (label : List UInt8) :
    encodeScanned t label (decimal v) = .ok (encodeInteger t v) := by
  rw [encodeScanned, scanInt_decimal h]
  rfl

/-! ## `STRING` types -/

/-- The type names the switches of `EncodeValue` and `DecodeFieldValue` compare with. -/
def typeNames : List (List UInt8) :=
  [ascii "BOOL", ascii "SINT", ascii "USINT", ascii "BYTE", ascii "INT", ascii "UINT", ascii "WORD",
    ascii "DINT", ascii "UDINT", ascii "DWORD", ascii "LINT", ascii "ULINT", ascii "LWORD",
    ascii "REAL", ascii "LREAL"]

lemma not_mem_typeNames {dataType : List UInt8} (h : isStringType dataType = true) :
    dataType ∉ typeNames := by
  have hn : ∀ n ∈ typeNames, isStringType n = false := by decide
  exact fun hm => Bool.false_ne_true ((hn _ hm).symm.trans h)

section StringType

variable {dataType : List UInt8} (h : isStringType dataType = true)
include h

lemma encodeValue_of_isStringType (scan : FloatScan) (value : List UInt8) (size : UInt32) :
    encodeValue scan value dataType size = .ok (encodeStringValue value size.toNat) := by
  have hn := not_mem_typeNames h
  simp only [typeNames, List.mem_cons, List.not_mem_nil, or_false, not_or] at hn
  simp only [encodeValue, hn, h, or_self, if_false, if_true]
  rfl

lemma decodeFieldValue_of_isStringType {data : List UInt8} (hd : data ≠ []) :
    decodeFieldValue data dataType = .string (untilNul data) := by
  have hn := not_mem_typeNames h
  simp only [typeNames, List.mem_cons, List.not_mem_nil, or_false, not_or] at hn
  simp only [decodeFieldValue, hd, hn, h, or_self, if_false, if_true]

end StringType

lemma untilNul_eq_takeWhile (data : List UInt8) : untilNul data = data.takeWhile (· ≠ 0) := by
  rw [untilNul, List.takeWhile_eq_take_findIdx_not]
  simp

/-- Zeros after the text do not change what is read up to the first `0`. -/
lemma takeWhile_take_append_zeros (s : List UInt8) :
    ∀ m n : ℕ, ((s ++ List.replicate m 0).take n).takeWhile (· ≠ 0) = (s.take n).takeWhile (· ≠ 0) := by
  induction s with
  | nil => intro m n; simp [List.takeWhile_replicate]
  | cons a s ih =>
    intro m n
    cases n with
    | zero => rfl
    | succ n => simp only [List.cons_append, List.take_succ_cons, List.takeWhile_cons, ih]

/-- The `0` that `EncodeValue` writes after a shorter text is already there. -/
lemma encodeStringValue_eq (value : List UInt8) (size : ℕ) :
    encodeStringValue value size = writeN value size := by
  unfold encodeStringValue
  split_ifs with hlt
  · have hw : writeN value size = value ++ List.replicate (size - value.length) 0 := by
      rw [writeN, List.take_append_eq_append_take, List.take_of_length_le hlt.le, List.take_replicate,
        Nat.min_eq_left (Nat.sub_le _ _)]
    rw [hw, List.set_append_right _ _ le_rfl, Nat.sub_self, List.set_replicate_self]
  · rfl

lemma length_writeN (value : List UInt8) (n : ℕ) : (writeN value n).length = n := by
  simp [writeN]

/-! ## The round trip -/

/-- `strconv.FormatBool(b)`. -/
def boolText (b : Bool) : List UInt8 := if b then ascii "true" else ascii "false"

/-- **The primitive codec round trip.** For every integer PLC type and every value of its Go
type, `EncodeValue` of the value's decimal text succeeds with the `TypedEncoder` encoding, and
the `TypedDecoder` decoder of the type and `DecodeFieldValue` both read the value back from that
encoding followed by any bytes; likewise for `BOOL` and both booleans. For every `STRING` type
and every size `n ≥ 1`, `DecodeFieldValue` of what `EncodeValue` writes and `DecodeString` of
what `EncodeString` writes are both the text's longest prefix without `0` within its first `n`
bytes.

**Proof sketch.** `Sscanf` reads the decimal text back (`scanInt_decimal`); the encoding is
little endian in the type's width and reads back through `leValue_leBytes` and
`GoInt.ofBits_bits`. A `STRING` type is none of the switches' names (`not_mem_typeNames`), the
text is padded with zeros (`encodeStringValue_eq`), and zeros after it do not change the read
(`takeWhile_take_append_zeros`). -/
theorem codec_round_trip (scan : FloatScan) (size : UInt32) :
    (∀ (name : List UInt8) (t : GoInt), (name, t) ∈ integerTypes → ∀ v : t.Val,
      encodeValue scan (decimal v.1) name size = .ok (encodeInteger t v.1) ∧
      ∀ label rest : List UInt8,
        decodeInteger t label (encodeInteger t v.1 ++ rest) = .ok v ∧
        decodeFieldValue (encodeInteger t v.1 ++ rest) name = .int t v.1) ∧
    (∀ b : Bool,
      encodeValue scan (boolText b) (ascii "BOOL") size = .ok (TypedEncoder.encodeBool b) ∧
      ∀ rest : List UInt8,
        TypedDecoder.decodeBool (TypedEncoder.encodeBool b ++ rest) = .ok b ∧
        decodeFieldValue (TypedEncoder.encodeBool b ++ rest) (ascii "BOOL") = .bool b) ∧
    ∀ (dataType s : List UInt8) (n : UInt32), isStringType dataType = true → 1 ≤ n.toNat →
      ∃ data data', encodeValue scan s dataType n = .ok data ∧
        decodeFieldValue data dataType = .string ((s.take n.toNat).takeWhile (· ≠ 0)) ∧
        TypedEncoder.encodeString s n.toNat = some data' ∧
        TypedDecoder.decodeString data' = .ok ((s.take n.toNat).takeWhile (· ≠ 0)) := by
  refine ⟨fun name t hmem v => ?_, fun b => ?_, fun dataType s n hs hn => ?_⟩
  · obtain ⟨⟨label, henc⟩, hdec⟩ := integerTypes_cases hmem
    refine ⟨(henc scan _ size).trans (encodeScanned_decimal v.2 label), fun label' rest => ?_⟩
    exact ⟨decodeInteger_encodeInteger v label' rest,
      (hdec _ (encodeInteger_ne_nil t v.1 rest)).trans (decodeIntegerField_encodeInteger v.2 rest)⟩
  · cases b <;> exact ⟨rfl, fun rest => ⟨rfl, rfl⟩⟩
  · have hne : writeN s n.toNat ≠ [] := by
      rw [← List.length_pos, length_writeN]; omega
    have hread : (writeN s n.toNat).takeWhile (· ≠ 0) = (s.take n.toNat).takeWhile (· ≠ 0) :=
      takeWhile_take_append_zeros s _ _
    refine ⟨writeN s n.toNat, writeN s n.toNat, ?_, ?_, ?_, ?_⟩
    · rw [encodeValue_of_isStringType hs, encodeStringValue_eq]
    · rw [decodeFieldValue_of_isStringType hs hne, untilNul_eq_takeWhile, hread]
    · rw [TypedEncoder.encodeString, if_neg (by omega), Int.toNat_natCast]
    · rw [TypedDecoder.decodeString, if_neg hne, untilNul_eq_takeWhile, hread]
      rfl

/-- A `FloatScan` that reads no float. -/
def noFloatScan : FloatScan := ⟨fun _ => throw .eof, fun _ => throw .eof⟩

theorem codec_round_trip_dint_and_string :
    (ascii "DINT", GoInt.int32) ∈ integerTypes ∧
      encodeValue noFloatScan (decimal (-1)) (ascii "DINT") 4 = .ok (encodeInteger .int32 (-1)) ∧
      isStringType (ascii "STRING(8)") = true ∧ 1 ≤ (8 : UInt32).toNat ∧
      ∃ data data', encodeValue noFloatScan (ascii "AB") (ascii "STRING(8)") 8 = .ok data ∧
        decodeFieldValue data (ascii "STRING(8)") =
          .string (((ascii "AB").take (8 : UInt32).toNat).takeWhile (· ≠ 0)) ∧
        TypedEncoder.encodeString (ascii "AB") (8 : UInt32).toNat = some data' ∧
        TypedDecoder.decodeString data' = .ok (((ascii "AB").take (8 : UInt32).toNat).takeWhile (· ≠ 0)) :=
  ⟨by decide, ((codec_round_trip noFloatScan 4).1 _ _ (by decide) ⟨-1, by decide⟩).1, by decide,
    by decide, (codec_round_trip noFloatScan 4).2.2 _ _ 8 (by decide) (by decide)⟩

end Goads.Session
