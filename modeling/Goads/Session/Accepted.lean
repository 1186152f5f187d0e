import Goads.Session.Codec

/-!
# What `EncodeValue` accepts, `DecodeFieldValue` reads back

`EncodeValue` parses the text of a value by the PLC type's name and writes the bytes the PLC
stores. `DecodeFieldValue` reads a value back from such bytes by the same name. This module
follows every text `EncodeValue` accepts, not only the canonical decimal ones: `Sscanf` also
reads a sign, leading spaces and leading zeros.

## Main results

* `Goads.Session.encodeValue_decodeFieldValue` — for every type and every text `EncodeValue`
  accepts, the bytes it writes have the type's width, and `DecodeFieldValue` reads back what the
  text was parsed to. Every other type name is rejected.

## Design

The floats are the bits `FloatScan` reads from the text; `Sscanf`'s decimal-to-binary rounding
is not modelled.
-/

namespace Goads.Session

open Ams

lemma bind_eq_ok {ε α β : Type} {x : Except ε α} {f : α → Except ε β} {b : β}
    (h : x >>= f = .ok b) : ∃ a, x = .ok a ∧ f a = .ok b := by
  cases x with
  | error e => cases h
  | ok a => exact ⟨a, rfl, h⟩

/-- A check `if c then throw e` of a `do` block, which lets the block go on only when `c` fails. -/
lemma ite_throw_bind_ok {ε β : Type} {c : Prop} [Decidable c] {e : ε} {jp : Unit → Except ε β}
    {b : β} (h : (if c then (throw e : Except ε Unit) >>= jp else pure () >>= jp) = .ok b) :
    ¬c ∧ jp () = .ok b := by
  split_ifs at h with hc
  · cases h
  · exact ⟨hc, h⟩

/-- `Sscanf` stores only values of the variable's type: a value out of range is its overflow
error. -/
lemma scanInt_inRange {t : GoInt} {value : List UInt8} {v : ℤ} (h : scanInt t value = .ok v) :
    t.InRange v := by
  obtain ⟨s, -, h⟩ := bind_eq_ok h
  split at h
  obtain ⟨-, h⟩ := ite_throw_bind_ok h
  obtain ⟨-, h⟩ := ite_throw_bind_ok h
  obtain ⟨-, h⟩ := ite_throw_bind_ok h
  obtain ⟨hr, h⟩ := ite_throw_bind_ok h
  obtain rfl := (Except.ok.inj h).symm
  simpa using hr

/-- An integer case of `EncodeValue` that succeeds writes the value `Sscanf` read. -/
lemma encodeScanned_ok {t : GoInt} {label value data : List UInt8}
    (h : encodeScanned t label value = .ok data) :
    ∃ v, scanInt t value = .ok v ∧ t.InRange v ∧ data = encodeInteger t v := by
  unfold encodeScanned at h
  cases hv : scanInt t value with
  | error e => rw [hv] at h; cases h
  | ok v =>
    rw [hv] at h
    exact ⟨v, rfl, scanInt_inRange hv, (Except.ok.inj h).symm⟩

lemma decodeFieldValue_real (b : UInt32) :
    decodeFieldValue (putUint32 b) (ascii "REAL") = .float32 b := by
  have h : UInt32.ofNat (leValue ((putUint32 b).take 4)) = b := by
    rw [List.take_of_length_le (length_putUint32 b).le, putUint32, leValue_leBytes]
    ext
    simpa using Nat.mod_eq_of_lt b.toNat_lt
  calc decodeFieldValue (putUint32 b) (ascii "REAL")
      = .float32 (UInt32.ofNat (leValue ((putUint32 b).take 4))) := rfl
    _ = .float32 b := by rw [h]

lemma decodeFieldValue_lreal (b : UInt64) :
    decodeFieldValue (leBytes 8 b.toNat) (ascii "LREAL") = .float64 b := by
  have h : UInt64.ofNat (leValue ((leBytes 8 b.toNat).take 8)) = b := by
    rw [List.take_of_length_le (length_leBytes 8 _).le, leValue_leBytes,
      Nat.mod_eq_of_lt (show b.toNat < 256 ^ 8 from UInt64.toNat_lt_size b)]
    ext
    exact UInt64.toNat_ofNat_of_lt (UInt64.toNat_lt_size b)
  calc decodeFieldValue (leBytes 8 b.toNat) (ascii "LREAL")
      = .float64 (UInt64.ofNat (leValue ((leBytes 8 b.toNat).take 8))) := rfl
    _ = .float64 b := by rw [h]

/-- **`DecodeFieldValue` reads back every text `EncodeValue` accepts.** Take any `Sscanf` for
floats and any size. For an integer type, an accepted text was read by `Sscanf` as a value of the
type's Go type. The bytes written are that value in the type's width, and `DecodeFieldValue`
reads the value back. For `BOOL`, one byte is written, which reads back as whether the text is
`true` or `1`. For `REAL` and `LREAL`, the scanned bits are written in four or eight bytes and
read back. For a `STRING` type, `size` bytes are written, which read back as the text up to its
first `0` within `size` bytes, and as `nil` when `size` is `0`. Every other type name is rejected
as unsupported.

**Proof sketch.** The switch of `EncodeValue` is taken case by case: `integerTypes_cases` and
`encodeScanned_ok` for the integers, where `Sscanf`'s overflow check gives the range
(`scanInt_inRange`) and `decodeIntegerField_encodeInteger` the read. A `STRING` type is none of
the switch's names (`encodeValue_of_isStringType`), and the zeros after the text do not change
the read (`takeWhile_take_append_zeros`). -/
theorem encodeValue_decodeFieldValue (scan : FloatScan) (size : UInt32) :
    (∀ (name : List UInt8) (t : GoInt), (name, t) ∈ integerTypes →
      ∀ value data, encodeValue scan value name size = .ok data →
        ∃ v, scanInt t value = .ok v ∧ t.InRange v ∧ data = encodeInteger t v ∧
          decodeFieldValue data name = .int t v) ∧
    (∀ value data, encodeValue scan value (ascii "BOOL") size = .ok data →
      data.length = 1 ∧
        decodeFieldValue data (ascii "BOOL") =
          .bool (decide (value = ascii "true" ∨ value = ascii "1"))) ∧
    (∀ value data, encodeValue scan value (ascii "REAL") size = .ok data →
      ∃ b, scan.float32 value = .ok b ∧ data = putUint32 b ∧
        decodeFieldValue data (ascii "REAL") = .float32 b) ∧
    (∀ value data, encodeValue scan value (ascii "LREAL") size = .ok data →
      ∃ b, scan.float64 value = .ok b ∧ data = leBytes 8 b.toNat ∧
        decodeFieldValue data (ascii "LREAL") = .float64 b) ∧
    (∀ dataType value data, isStringType dataType = true →
      encodeValue scan value dataType size = .ok data →
        data.length = size.toNat ∧
          decodeFieldValue data dataType = if size.toNat = 0 then .nil
            else .string ((value.take size.toNat).takeWhile (· ≠ 0))) ∧
    ∀ dataType value, dataType ∉ typeNames → isStringType dataType = false →
      encodeValue scan value dataType size = .error (.unsupportedType dataType) := by
  refine ⟨fun name t hmem value data h => ?_, fun value data h => ?_, fun value data h => ?_,
    fun value data h => ?_, fun dataType value data hs h => ?_, fun dataType value hn hs => ?_⟩
  · -- the integer types
    obtain ⟨⟨label, henc⟩, hdec⟩ := integerTypes_cases hmem
    rw [henc] at h
    obtain ⟨v, hv, hr, rfl⟩ := encodeScanned_ok h
    have hread := decodeIntegerField_encodeInteger hr []
    rw [List.append_nil] at hread
    exact ⟨v, hv, hr, rfl,
      (hdec _ (by simpa using encodeInteger_ne_nil t v [])).trans hread⟩
  · -- `BOOL`
    obtain rfl := (Except.ok.inj h).symm
    refine ⟨rfl, ?_⟩
    by_cases c : value = ascii "true" ∨ value = ascii "1"
    · rw [if_pos c, decide_eq_true c]
      rfl
    · rw [if_neg c, decide_eq_false c]
      rfl
  · -- `REAL`
    change (match scan.float32 value with
      | .error e => throw (CodecError.invalidValue (ascii "REAL") e)
      | .ok b => pure (putUint32 b)) = Except.ok data at h
    cases hb : scan.float32 value with
    | error e => rw [hb] at h; cases h
    | ok b =>
      rw [hb] at h
      obtain rfl := (Except.ok.inj h).symm
      exact ⟨b, rfl, rfl, decodeFieldValue_real b⟩
  · -- `LREAL`
    change (match scan.float64 value with
      | .error e => throw (CodecError.invalidValue (ascii "LREAL") e)
      | .ok b => pure (leBytes 8 b.toNat)) = Except.ok data at h
    cases hb : scan.float64 value with
    | error e => rw [hb] at h; cases h
    | ok b =>
      rw [hb] at h
      obtain rfl := (Except.ok.inj h).symm
      exact ⟨b, rfl, rfl, decodeFieldValue_lreal b⟩
  · -- `STRING` types
    rw [encodeValue_of_isStringType hs, encodeStringValue_eq] at h
    obtain rfl := (Except.ok.inj h).symm
    refine ⟨length_writeN value _, ?_⟩
    split_ifs with hz
    · rw [hz]
      rfl
    · have hne : writeN value size.toNat ≠ [] := by
        rw [← List.length_pos, length_writeN]
        omega
      rw [decodeFieldValue_of_isStringType hs hne, untilNul_eq_takeWhile]
      exact congrArg Value.string (takeWhile_take_append_zeros value _ _)
  · -- every other type
    simp only [typeNames, List.mem_cons, List.not_mem_nil, or_false, not_or] at hn
    simp only [encodeValue, hn, hs, or_self, if_false, Bool.false_eq_true]
    rfl

end Goads.Session
