import Mathlib.Data.String.Basic
import Mathlib.Data.List.Basic

/-!
# Little-endian reads and writes over a byte buffer

Every packet codec of the `ams` package serialises through an `ams.Buffer` that writes and
reads little-endian words, packed structs and raw byte runs. The buffer itself is not among the
sources, so it is modelled here from the specification: "all multi-byte integers are
little-endian; all structs are tightly packed", and "detection of truncation returns an
explicit decode error kind".

A write appends bytes. A read takes bytes off the front of what is left and fails when too few
remain. A Go `Buffer` keeps its first error and turns every later read into a no-op; each decoder
of the sources checks `b.Err()` either after every read or once at the end and then discards the
half-filled packet, so what a caller observes is a reader that stops at the first short read:
`StateT (List UInt8) Option`.

## Main definitions

* `Goads.Ams.leBytes`, `Goads.Ams.leValue` — a natural as `w` little-endian bytes, and back.
* `Goads.Ams.FixedBytes` — a Go `[n]byte` array: a byte list that carries its length.
* `Goads.Ams.Decoder` — the reader monad; `readN`, `readFixed`, `readUint8`, `readUint16`,
  `readUint32`, and the writers `putUint16`, `putUint32`.

## Main results

* `Goads.Ams.readUint32_put` and its siblings — a written field reads back, whatever follows.
* `Goads.Ams.eq_put_of_readUint32` and its siblings — a successful read consumed exactly the
  encoding of what it returned.
* `Goads.Ams.exists_of_run_bind` — inversion of a successful sequenced read; every decoder's
  inversion lemma is assembled from it.
-/

namespace Goads.Ams

/-! ## Little-endian naturals -/

/-- The `w` little-endian bytes of `n`; the bits above `8 * w` are dropped. -/
def leBytes : ℕ → ℕ → List UInt8
  | 0, _ => []
  | w + 1, n => UInt8.ofNat n :: leBytes w (n / 256)

/-- The natural whose little-endian bytes these are. -/
def leValue : List UInt8 → ℕ
  | [] => 0
  | b :: bs => b.toNat + 256 * leValue bs

@[simp] lemma toNat_uint8_ofNat (n : ℕ) : (UInt8.ofNat n).toNat = n % 256 := rfl

@[simp] lemma length_leBytes (w n : ℕ) : (leBytes w n).length = w := by
  induction w generalizing n with
  | zero => rfl
  | succ w ih => simp [leBytes, ih]

lemma leValue_leBytes (w n : ℕ) : leValue (leBytes w n) = n % 256 ^ w := by
  induction w generalizing n with
  | zero => simp [leBytes, leValue, Nat.mod_one]
  | succ w ih =>
    rw [leBytes, leValue, ih, toNat_uint8_ofNat, pow_succ', Nat.mod_mul]

lemma leValue_lt (l : List UInt8) : leValue l < 256 ^ l.length := by
  induction l with
  | nil => simp [leValue]
  | cons b bs ih =>
    have hb : b.toNat < 256 := b.toNat_lt
    rw [leValue, List.length_cons, pow_succ]
    omega

lemma leBytes_leValue (l : List UInt8) : leBytes l.length (leValue l) = l := by
  induction l with
  | nil => rfl
  | cons b bs ih =>
    have hb : b.toNat < 256 := b.toNat_lt
    have hdiv : (b.toNat + 256 * leValue bs) / 256 = leValue bs := by omega
    simp only [List.length_cons, leBytes, leValue, hdiv, ih, List.cons.injEq, and_true]
    ext
    simp only [toNat_uint8_ofNat]
    omega

/-! ## Fixed-size byte arrays -/

/-- A Go `[n]byte` array: exactly `n` bytes. -/
structure FixedBytes (n : ℕ) where
  /-- The bytes of the array. -/
  toList : List UInt8
  length_toList : toList.length = n
  deriving DecidableEq, Repr

/-! ## The reader -/

/-- A decoder reads a value off the front of the buffer; `none` is the buffer's short-read
error. -/
abbrev Decoder (α : Type) := StateT (List UInt8) Option α

/-- `Buffer.ReadN`: the next `n` bytes. -/
def readN (n : ℕ) : Decoder (List UInt8) := fun s =>
  if n ≤ s.length then some (s.take n, s.drop n) else none

/-- `Buffer.ReadStruct` of a `[n]byte` field: the next `n` bytes as an array. -/
def readFixed (n : ℕ) : Decoder (FixedBytes n) := fun s =>
  if h : n ≤ s.length then some (⟨s.take n, by simp [h]⟩, s.drop n) else none

/-- `Buffer.ReadUint8`. -/
def readUint8 : Decoder UInt8 := do
  let bs ← readN 1
  return UInt8.ofNat (leValue bs)

/-- `Buffer.ReadUint16`. -/
def readUint16 : Decoder UInt16 := do
  let bs ← readN 2
  return UInt16.ofNat (leValue bs)

/-- `Buffer.ReadUint32`. -/
def readUint32 : Decoder UInt32 := do
  let bs ← readN 4
  return UInt32.ofNat (leValue bs)

/-- `Buffer.WriteUint16`. -/
def putUint16 (v : UInt16) : List UInt8 := leBytes 2 v.toNat

/-- `Buffer.WriteUint32`. -/
def putUint32 (v : UInt32) : List UInt8 := leBytes 4 v.toNat

/-- `Buffer.WriteN`: `n` bytes taken from `v`. The source only calls it with `n` the length of
`v` on the packets it sends; a shorter `v` is padded with zero bytes here. -/
def writeN (v : List UInt8) (n : ℕ) : List UInt8 := (v ++ List.replicate n 0).take n

/-- The `for i := 0; i < n; i++` loop of a decoder: `n` values read one after another. -/
def readCount {α : Type} (d : Decoder α) : ℕ → Decoder (List α)
  | 0 => pure []
  | n + 1 => do
    let x ← d
    let xs ← readCount d n
    return x :: xs

lemma writeN_of_length {v : List UInt8} {n : ℕ} (h : v.length = n) : writeN v n = v := by
  simp [writeN, ← h]

@[simp] lemma length_putUint16 (v : UInt16) : (putUint16 v).length = 2 := length_leBytes _ _

@[simp] lemma length_putUint32 (v : UInt32) : (putUint32 v).length = 4 := length_leBytes _ _

/-! ## Reading back what was written -/

lemma readN_run_append (l t : List UInt8) : (readN l.length).run (l ++ t) = some (l, t) := by
  simp [readN, StateT.run]

lemma readN_run_of_length {n : ℕ} {l : List UInt8} (h : l.length = n) (t : List UInt8) :
    (readN n).run (l ++ t) = some (l, t) := h ▸ readN_run_append l t

lemma readFixed_run_append {n : ℕ} (a : FixedBytes n) (t : List UInt8) :
    (readFixed n).run (a.toList ++ t) = some (a, t) := by
  obtain ⟨l, rfl⟩ := a
  simp [readFixed, StateT.run]

@[simp] lemma toNat_uint16_ofNat (n : ℕ) : (UInt16.ofNat n).toNat = n % 65536 := rfl

@[simp] lemma toNat_uint32_ofNat (n : ℕ) : (UInt32.ofNat n).toNat = n % 4294967296 := rfl

@[simp] lemma readUint8_put (v : UInt8) (t : List UInt8) :
    readUint8.run (v :: t) = some (v, t) := by
  have h : (readN 1).run (v :: t) = some ([v], t) := readN_run_append [v] t
  rw [readUint8, StateT.run_bind, h]
  simp only [Option.bind_eq_bind, Option.some_bind, StateT.run_pure, leValue]
  congr
  ext
  simp [Nat.mod_eq_of_lt v.toNat_lt]

@[simp] lemma readUint16_put (v : UInt16) (t : List UInt8) :
    readUint16.run (putUint16 v ++ t) = some (v, t) := by
  rw [readUint16, StateT.run_bind, readN_run_of_length (length_putUint16 v)]
  simp only [Option.bind_eq_bind, Option.some_bind, StateT.run_pure, putUint16, leValue_leBytes]
  congr
  ext
  simpa using Nat.mod_eq_of_lt v.toNat_lt

@[simp] lemma readUint32_put (v : UInt32) (t : List UInt8) :
    readUint32.run (putUint32 v ++ t) = some (v, t) := by
  rw [readUint32, StateT.run_bind, readN_run_of_length (length_putUint32 v)]
  simp only [Option.bind_eq_bind, Option.some_bind, StateT.run_pure, putUint32, leValue_leBytes]
  congr
  ext
  simpa using Nat.mod_eq_of_lt v.toNat_lt

/-- A read that succeeds on `s` and leaves `s'` lets the rest of a sequenced read run on `s'`:
the rewrite that steps a decoder over one field, with no search through the monad's
instances. -/
lemma run_bind_of_run {α β : Type} {x : Decoder α} {f : α → Decoder β} {s s' : List UInt8}
    {a : α} (h : x.run s = some (a, s')) : (x >>= f).run s = (f a).run s' := by
  rw [StateT.run_bind, h]
  rfl

/-- A read that fails on `s` fails every sequenced read it begins. -/
lemma run_bind_none {α β : Type} {x : Decoder α} {f : α → Decoder β} {s : List UInt8}
    (h : x.run s = none) : (x >>= f).run s = none := by
  rw [StateT.run_bind, h]
  rfl

lemma readCount_succ_run {α : Type} (d : Decoder α) (n : ℕ) (s : List UInt8) :
    (readCount d (n + 1)).run s = (d >>= fun x => readCount d n >>= fun xs => pure (x :: xs)).run s :=
  rfl

/-! ## What a successful read consumed -/

/-- Inversion of a successful sequenced read: the first read succeeded, and the rest succeeded
on what it left. -/
lemma exists_of_run_bind {α β : Type} {x : Decoder α} {f : α → Decoder β} {s r : List UInt8}
    {b : β} (h : (x >>= f).run s = some (b, r)) :
    ∃ a s', x.run s = some (a, s') ∧ (f a).run s' = some (b, r) := by
  rw [StateT.run_bind, Option.bind_eq_bind, Option.bind_eq_some] at h
  obtain ⟨⟨a, s'⟩, h1, h2⟩ := h
  exact ⟨a, s', h1, h2⟩

@[simp] lemma run_pure_eq_some {α : Type} {a b : α} {s r : List UInt8} :
    (pure a : Decoder α).run s = some (b, r) ↔ a = b ∧ s = r := by
  simp [StateT.run_pure]

lemma eq_append_of_readN {n : ℕ} {s l r : List UInt8} (h : (readN n).run s = some (l, r)) :
    l.length = n ∧ s = l ++ r := by
  simp only [readN, StateT.run] at h
  split at h
  · obtain ⟨rfl, rfl⟩ := Prod.mk.inj (Option.some.inj h)
    exact ⟨by simpa, (List.take_append_drop n s).symm⟩
  · cases h

lemma eq_append_of_readFixed {n : ℕ} {s r : List UInt8} {a : FixedBytes n}
    (h : (readFixed n).run s = some (a, r)) : s = a.toList ++ r := by
  simp only [readFixed, StateT.run] at h
  split at h
  · obtain ⟨rfl, rfl⟩ := Prod.mk.inj (Option.some.inj h)
    exact (List.take_append_drop n s).symm
  · cases h

lemma eq_put_of_readUint16 {s r : List UInt8} {v : UInt16} (h : readUint16.run s = some (v, r)) :
    s = putUint16 v ++ r := by
  obtain ⟨l, s', hl, hv⟩ := exists_of_run_bind h
  obtain ⟨rfl, rfl⟩ := run_pure_eq_some.mp hv
  obtain ⟨hlen, rfl⟩ := eq_append_of_readN hl
  have hlt : leValue l < 65536 := by simpa [hlen] using leValue_lt l
  rw [putUint16, toNat_uint16_ofNat, Nat.mod_eq_of_lt hlt, ← hlen, leBytes_leValue]

lemma eq_put_of_readUint32 {s r : List UInt8} {v : UInt32} (h : readUint32.run s = some (v, r)) :
    s = putUint32 v ++ r := by
  obtain ⟨l, s', hl, hv⟩ := exists_of_run_bind h
  obtain ⟨rfl, rfl⟩ := run_pure_eq_some.mp hv
  obtain ⟨hlen, rfl⟩ := eq_append_of_readN hl
  have hlt : leValue l < 4294967296 := by simpa [hlen] using leValue_lt l
  rw [putUint32, toNat_uint32_ofNat, Nat.mod_eq_of_lt hlt, ← hlen, leBytes_leValue]

/-! ## Counted loops -/

section Loop

variable {α : Type} {d : Decoder α} {enc : α → List UInt8} {P : α → Prop}

/-- A counted loop reads back the concatenated encodings of the values it is asked for. -/
lemma readCount_run_flatMap (hd : ∀ x, P x → ∀ t, d.run (enc x ++ t) = some (x, t))
    (xs : List α) (hxs : ∀ x ∈ xs, P x) (t : List UInt8) :
    (readCount d xs.length).run (xs.flatMap enc ++ t) = some (xs, t) := by
  induction xs with
  | nil => rfl
  | cons x xs ih =>
    simp only [List.mem_cons, forall_eq_or_imp] at hxs
    simp [readCount, hd x hxs.1, ih hxs.2]

/-- A counted loop that succeeds read `n` values and consumed exactly their encodings. -/
lemma eq_flatMap_of_readCount (hd : ∀ s x r, d.run s = some (x, r) → P x ∧ s = enc x ++ r) :
    ∀ n s xs r, (readCount d n).run s = some (xs, r) →
      xs.length = n ∧ (∀ x ∈ xs, P x) ∧ s = xs.flatMap enc ++ r
  | 0, s, xs, r, h => by
    obtain ⟨rfl, rfl⟩ := run_pure_eq_some.mp h
    simp
  | n + 1, s, xs, r, h => by
    obtain ⟨x, s₁, h₁, h⟩ := exists_of_run_bind h
    obtain ⟨ys, s₂, h₂, h⟩ := exists_of_run_bind h
    obtain ⟨rfl, rfl⟩ := run_pure_eq_some.mp h
    obtain ⟨hx, rfl⟩ := hd _ _ _ h₁
    obtain ⟨hlen, hys, rfl⟩ := eq_flatMap_of_readCount hd n _ _ _ h₂
    exact ⟨by simp [hlen], by simpa [hx] using hys, by simp⟩

end Loop

end Goads.Ams
