import Goads.Session.Codec

/-!
# Symbol metadata and the symbol table upload

`SymbolInfo`, the session's cached metadata of a PLC symbol, and the loop of
`Session.LoadSymbolTable` that cuts the uploaded symbol table (`ADSIGRP_SYM_UPLOAD`) into
entries.

Each entry starts with its length, then the index group, index offset and size, two words the
loop skips, and the lengths of the name, the type and the comment; the three strings follow,
each with a terminating `0`. The loop breaks at the first entry that does not fit the bytes
left, or whose length is `0`.

## Main definitions

* `Goads.Session.SymbolInfo`, `Goads.Session.StructField`.
* `Goads.Session.parseEntry` — one iteration of the loop; `Goads.Session.symbolTable` — the
  whole loop.
* `Goads.Session.SymbolEntry.encode` — an entry in the upload's layout, as the PLC sends it;
  `Goads.Session.UploadEntry` — one with padding after its strings, and the invariants of the
  layout (string lengths that fit their fields, a name and a type without `0`).

## Main results

* `Goads.Session.parseSymbolTable_of_le` — the loop runs at most `data.length` times, so that
  many iterations of fuel compute it.
* `Goads.Session.symbolTable_flatMap_encode` — the loop reads back every laid-out entry of a
  concatenation, its comment cut at its first `0`.

## Design

Go strings are byte strings here. `StructField.Value` is the codec's `Value`; only
`PopulateFieldValues` fills it in.
-/

namespace Goads.Session

open Ams

/-- `StructField`: a field of a struct type, its decoded value, and the fields of its own type. -/
structure StructField where
  name : List UInt8
  dataType : List UInt8
  offset : UInt32
  size : UInt32
  value : Value := .nil
  fields : List StructField := []
  deriving Repr

/-- `SymbolInfo`, with Go's zero values as defaults. -/
structure SymbolInfo where
  name : List UInt8
  dataType : List UInt8 := []
  size : UInt32 := 0
  indexGroup : UInt32 := 0
  indexOffset : UInt32 := 0
  handle : UInt32 := 0
  comment : List UInt8 := []
  fields : List StructField := []
  deriving Repr

/-- `binary.LittleEndian.Uint32(data[i : i+4])`. -/
def uint32At (data : List UInt8) (i : ℕ) : UInt32 := UInt32.ofNat (leValue ((data.drop i).take 4))

/-- `binary.LittleEndian.Uint16(data[i : i+2])`. -/
def uint16At (data : List UInt8) (i : ℕ) : UInt16 := UInt16.ofNat (leValue ((data.drop i).take 2))

/-- `data[i:j]`. -/
def slice (data : List UInt8) (i j : ℕ) : List UInt8 := (data.drop i).take (j - i)

/-- `nullTerminatedString`: the bytes before the first `0`. -/
def nullTerminatedString (data : List UInt8) : List UInt8 := data.takeWhile (· != 0)

/-- One iteration of `LoadSymbolTable`'s loop on the bytes from `offset` on: the entry's
`SymbolInfo` and its `entryLength`, or `none` where the loop breaks. -/
def parseEntry (rest : List UInt8) : Option (SymbolInfo × ℕ) :=
  if rest.length < 30 then none else
  let entryLength := (uint32At rest 0).toNat
  if entryLength = 0 ∨ rest.length < entryLength then none else
  let nameLength := (uint16At rest 24).toNat
  let typeLength := (uint16At rest 26).toNat
  let commentLength := (uint16At rest 28).toNat
  let nameEnd := 30 + nameLength
  if rest.length < nameEnd then none else
  let typeStart := nameEnd + 1
  let typeEnd := typeStart + typeLength
  if rest.length < typeEnd then none else
  let commentEnd := typeEnd + 1 + commentLength
  let comment :=
    if 0 < commentLength ∧ commentEnd ≤ rest.length then
      nullTerminatedString (slice rest (typeEnd + 1) commentEnd)
    else []
  some ({ name := nullTerminatedString (slice rest 30 nameEnd)
          dataType := nullTerminatedString (slice rest typeStart typeEnd)
          size := uint32At rest 12
          indexGroup := uint32At rest 4
          indexOffset := uint32At rest 8
          comment }, entryLength)

/-- The entries `LoadSymbolTable`'s loop stores, in order, with at most `fuel` iterations. -/
def parseSymbolTable : ℕ → List UInt8 → List SymbolInfo
  | 0, _ => []
  | fuel + 1, rest =>
    if rest = [] then [] else
    match parseEntry rest with
    | none => []
    | some (info, entryLength) => info :: parseSymbolTable fuel (rest.drop entryLength)

/-- The entries `LoadSymbolTable` stores from the uploaded bytes. -/
def symbolTable (data : List UInt8) : List SymbolInfo := parseSymbolTable data.length data

lemma parseEntry_pos {rest : List UInt8} {info : SymbolInfo} {n : ℕ}
    (h : parseEntry rest = some (info, n)) : 0 < n ∧ n ≤ rest.length := by
  unfold parseEntry at h
  dsimp only at h
  split_ifs at h with h₁ h₂ <;>
  · obtain ⟨-, rfl⟩ := Prod.mk.inj (Option.some.inj h)
    omega

/-- Each iteration moves on by at least one byte, so `data.length` iterations of fuel compute
the whole loop. -/
lemma parseSymbolTable_of_le {fuel : ℕ} {data : List UInt8} (h : data.length ≤ fuel) :
    parseSymbolTable fuel data = symbolTable data := by
  suffices ∀ n m (data : List UInt8), data.length ≤ n → data.length ≤ m →
      parseSymbolTable n data = parseSymbolTable m data from this _ _ _ h le_rfl
  intro n
  induction n with
  | zero => intro m data hn _; rcases m with _ | m <;> simp_all [parseSymbolTable]
  | succ n ih =>
    intro m data hn hm
    rcases m with _ | m
    · simp_all [parseSymbolTable]
    simp only [parseSymbolTable]
    split_ifs with hd
    · rfl
    split
    · rfl
    · rename_i info k he
      have := parseEntry_pos he
      have hlt : data.length ≠ 0 := by simpa using hd
      rw [ih m _ (by simp; omega) (by simp; omega)]

/-- An entry of the PLC's symbol table in the upload's layout. -/
structure SymbolEntry where
  indexGroup : UInt32
  indexOffset : UInt32
  size : UInt32
  dataTypeID : UInt32
  flags : UInt32
  name : List UInt8
  dataType : List UInt8
  comment : List UInt8
  deriving DecidableEq, Repr

/-- The bytes of an entry: its length, the fixed fields, the three string lengths, and the
strings, each followed by a `0`. -/
def SymbolEntry.encode (e : SymbolEntry) : List UInt8 :=
  let body := putUint32 e.indexGroup ++ putUint32 e.indexOffset ++ putUint32 e.size ++
    putUint32 e.dataTypeID ++ putUint32 e.flags ++ putUint16 (UInt16.ofNat e.name.length) ++
    putUint16 (UInt16.ofNat e.dataType.length) ++ putUint16 (UInt16.ofNat e.comment.length) ++
    e.name ++ [0] ++ e.dataType ++ [0] ++ e.comment ++ [0]
  putUint32 (UInt32.ofNat (body.length + 4)) ++ body

/-! ## Reading the fields of a laid-out entry -/

lemma uint32At_append_of_le {l r : List UInt8} {i : ℕ} (h : l.length ≤ i) :
    uint32At (l ++ r) i = uint32At r (i - l.length) := by
  simp [uint32At, List.drop_append_eq_append_drop, List.drop_eq_nil_of_le h]

lemma uint16At_append_of_le {l r : List UInt8} {i : ℕ} (h : l.length ≤ i) :
    uint16At (l ++ r) i = uint16At r (i - l.length) := by
  simp [uint16At, List.drop_append_eq_append_drop, List.drop_eq_nil_of_le h]

@[simp] lemma uint32At_put (a : UInt32) (r : List UInt8) : uint32At (putUint32 a ++ r) 0 = a := by
  rw [uint32At, List.drop_zero, List.take_left' (length_putUint32 a), putUint32, leValue_leBytes]
  ext
  simpa using Nat.mod_eq_of_lt a.toNat_lt

@[simp] lemma uint16At_put (a : UInt16) (r : List UInt8) : uint16At (putUint16 a ++ r) 0 = a := by
  rw [uint16At, List.drop_zero, List.take_left' (length_putUint16 a), putUint16, leValue_leBytes]
  ext
  simpa using Nat.mod_eq_of_lt a.toNat_lt

/-- The slice of a buffer that covers exactly its middle part. -/
lemma slice_middle (l m r : List UInt8) {data : List UInt8} {i j : ℕ} (hd : data = l ++ m ++ r)
    (hi : i = l.length) (hj : j = l.length + m.length) : slice data i j = m := by
  subst hd hi hj
  simp [slice]

lemma length_slice {data : List UInt8} {i j : ℕ} (hij : i ≤ j) (hj : j ≤ data.length) :
    (slice data i j).length = j - i := by
  simp only [slice, List.length_take, List.length_drop]
  omega

/-- A slice of a slice is a slice of the whole buffer. -/
lemma slice_slice (data : List UInt8) {a e i j : ℕ} (hij : i ≤ j) (hj : j ≤ e - a) :
    slice (slice data a e) i j = slice data (a + i) (a + j) := by
  simp only [slice, List.drop_take, List.take_take, List.drop_drop]
  congr 1
  omega

lemma nullTerminatedString_of_not_mem {l : List UInt8} (h : 0 ∉ l) : nullTerminatedString l = l :=
  List.takeWhile_eq_self_iff.mpr fun x hx => by simpa using ne_of_mem_of_not_mem hx h

/-! ## The upload's layout -/

/-- The 30-byte header of an entry whose `entryLength` is `entryLength`. -/
def SymbolEntry.header (e : SymbolEntry) (entryLength : ℕ) : List UInt8 :=
  putUint32 (UInt32.ofNat entryLength) ++ putUint32 e.indexGroup ++ putUint32 e.indexOffset ++
    putUint32 e.size ++ putUint32 e.dataTypeID ++ putUint32 e.flags ++
    putUint16 (UInt16.ofNat e.name.length) ++ putUint16 (UInt16.ofNat e.dataType.length) ++
    putUint16 (UInt16.ofNat e.comment.length)

/-- The three strings of an entry, each followed by a `0`. -/
def SymbolEntry.strings (e : SymbolEntry) : List UInt8 :=
  e.name ++ [0] ++ e.dataType ++ [0] ++ e.comment ++ [0]

/-- An entry followed by `padding`, its `entryLength` counting the padding. -/
def SymbolEntry.encodeWith (e : SymbolEntry) (padding : List UInt8) : List UInt8 :=
  e.header (30 + e.strings.length + padding.length) ++ e.strings ++ padding

@[simp] lemma SymbolEntry.length_header (e : SymbolEntry) (n : ℕ) : (e.header n).length = 30 := by
  simp [SymbolEntry.header]

lemma SymbolEntry.length_strings (e : SymbolEntry) :
    e.strings.length = e.name.length + e.dataType.length + e.comment.length + 3 := by
  simp [SymbolEntry.strings]
  omega

/-- The fields of the header read back at the offsets the loop reads them from. -/
lemma SymbolEntry.read_header (e : SymbolEntry) (n : ℕ) (r : List UInt8) :
    uint32At (e.header n ++ r) 0 = UInt32.ofNat n ∧ uint32At (e.header n ++ r) 4 = e.indexGroup ∧
      uint32At (e.header n ++ r) 8 = e.indexOffset ∧ uint32At (e.header n ++ r) 12 = e.size ∧
      uint16At (e.header n ++ r) 24 = UInt16.ofNat e.name.length ∧
      uint16At (e.header n ++ r) 26 = UInt16.ofNat e.dataType.length ∧
      uint16At (e.header n ++ r) 28 = UInt16.ofNat e.comment.length := by
  simp (disch := simp only [length_putUint32, length_putUint16, Nat.reduceLeDiff]) only
    [SymbolEntry.header, List.append_assoc, uint32At_append_of_le, uint16At_append_of_le,
      uint32At_put, uint16At_put, length_putUint32, length_putUint16, Nat.reduceSub, and_self]

/-- An entry of the upload as the PLC lays it out: a `SymbolEntry` whose name and type hold no
`0` and whose string lengths fit their 16-bit fields, followed by padding that its 32-bit
`entryLength` covers. -/
structure UploadEntry where
  entry : SymbolEntry
  padding : List UInt8
  name_nul_free : 0 ∉ entry.name
  dataType_nul_free : 0 ∉ entry.dataType
  name_lt : entry.name.length < 2 ^ 16
  dataType_lt : entry.dataType.length < 2 ^ 16
  comment_lt : entry.comment.length < 2 ^ 16
  length_lt :
    33 + entry.name.length + entry.dataType.length + entry.comment.length + padding.length < 2 ^ 32

/-- The bytes of an upload entry. -/
def UploadEntry.encode (x : UploadEntry) : List UInt8 := x.entry.encodeWith x.padding

/-- The `SymbolInfo` the loop builds from an upload entry: its comment is cut at its first `0`,
by `nullTerminatedString`. -/
def UploadEntry.info (x : UploadEntry) : SymbolInfo :=
  { name := x.entry.name, dataType := x.entry.dataType, size := x.entry.size
    indexGroup := x.entry.indexGroup, indexOffset := x.entry.indexOffset
    comment := nullTerminatedString x.entry.comment }

lemma UploadEntry.length_encode (x : UploadEntry) :
    x.encode.length = 30 + x.entry.strings.length + x.padding.length := by
  simp [UploadEntry.encode, SymbolEntry.encodeWith]
  omega

/-- One iteration of the loop on a laid-out entry reads back its fields and moves on by its
length. -/
lemma parseEntry_encode (x : UploadEntry) (rest : List UInt8) :
    parseEntry (x.encode ++ rest) = some (x.info, x.encode.length) := by
  obtain ⟨e, pad, hn, ht, hnl, htl, hcl, hlen⟩ := x
  have hL := UploadEntry.length_encode ⟨e, pad, hn, ht, hnl, htl, hcl, hlen⟩
  have hs := e.length_strings
  simp only [UploadEntry.encode, UploadEntry.info] at hL ⊢
  set L := 30 + e.strings.length + pad.length
  have hdata : e.encodeWith pad ++ rest = e.header L ++ (e.strings ++ pad ++ rest) := by
    simp [SymbolEntry.encodeWith, L]
  obtain ⟨h0, h4, h8, h12, h24, h26, h28⟩ := e.read_header L (e.strings ++ pad ++ rest)
  have hstr : e.header L ++ (e.strings ++ pad ++ rest) =
      e.header L ++ e.name ++ ([0] ++ e.dataType ++ [0] ++ e.comment ++ [0] ++ pad ++ rest) := by
    simp [SymbolEntry.strings]
  have hname : slice (e.header L ++ (e.strings ++ pad ++ rest)) 30 (30 + e.name.length) = e.name :=
    slice_middle _ _ _ hstr (by simp) (by simp)
  have htype : slice (e.header L ++ (e.strings ++ pad ++ rest)) (30 + e.name.length + 1)
      (30 + e.name.length + 1 + e.dataType.length) = e.dataType :=
    slice_middle (e.header L ++ e.name ++ [0]) _ (([0] ++ e.comment ++ [0]) ++ pad ++ rest)
      (by simp [SymbolEntry.strings]) (by simp; omega) (by simp; omega)
  have hcomm : slice (e.header L ++ (e.strings ++ pad ++ rest))
      (30 + e.name.length + 1 + e.dataType.length + 1)
      (30 + e.name.length + 1 + e.dataType.length + 1 + e.comment.length) = e.comment :=
    slice_middle (e.header L ++ e.name ++ [0] ++ e.dataType ++ [0]) _ ([0] ++ pad ++ rest)
      (by simp [SymbolEntry.strings]) (by simp; omega) (by simp; omega)
  have hLt : (UInt32.ofNat L).toNat = L := by simp; omega
  have hnt : (UInt16.ofNat e.name.length).toNat = e.name.length := by simp; omega
  have htt : (UInt16.ofNat e.dataType.length).toNat = e.dataType.length := by simp; omega
  have hct : (UInt16.ofNat e.comment.length).toNat = e.comment.length := by simp; omega
  have hlen' : (e.header L ++ (e.strings ++ pad ++ rest)).length = L + rest.length := by
    simp [L]
    omega
  rw [hL, hdata]
  unfold parseEntry
  simp only [h0, h4, h8, h12, h24, h26, h28, hLt, hnt, htt, hct, hlen', hname, htype, hcomm,
    nullTerminatedString_of_not_mem hn, nullTerminatedString_of_not_mem ht]
  rw [if_neg (by omega), if_neg (by omega), if_neg (by omega), if_neg (by omega)]
  split_ifs with hc
  · rfl
  · rw [List.eq_nil_of_length_eq_zero (by omega : e.comment.length = 0)]
    rfl

lemma parseSymbolTable_flatMap_encode (xs : List UploadEntry) :
    ∀ fuel, (xs.flatMap UploadEntry.encode).length ≤ fuel →
      parseSymbolTable fuel (xs.flatMap UploadEntry.encode) = xs.map UploadEntry.info := by
  induction xs with
  | nil => intro fuel _; cases fuel <;> simp [parseSymbolTable]
  | cons x xs ih =>
    intro fuel hf
    have hx : 0 < x.encode.length := by rw [x.length_encode]; omega
    simp only [List.flatMap_cons, List.length_append] at hf ⊢
    obtain ⟨f, rfl⟩ : ∃ f, fuel = f + 1 := ⟨fuel - 1, by omega⟩
    have hne : x.encode ++ xs.flatMap UploadEntry.encode ≠ [] :=
      List.append_ne_nil_of_left_ne_nil (List.ne_nil_of_length_pos hx) _
    rw [parseSymbolTable, if_neg hne, parseEntry_encode]
    simp only [List.drop_left, List.map_cons]
    rw [ih f (by omega)]

/-- **The upload is parsed exactly.** The entries the loop stores from a concatenation of
laid-out entries are theirs, in order: each with its name, data type, size, index group, index
offset, and its comment up to its first `0`.

**Proof sketch.** `parseEntry_encode` for each entry; the loop then moves on to the next. -/
theorem symbolTable_flatMap_encode (xs : List UploadEntry) :
    symbolTable (xs.flatMap UploadEntry.encode) = xs.map UploadEntry.info :=
  parseSymbolTable_flatMap_encode xs _ le_rfl

end Goads.Session
