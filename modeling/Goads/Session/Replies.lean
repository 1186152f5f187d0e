import Goads.Session.Operations

/-!
# The client's parsers of the metadata replies

`Client.GetSymbol` and `Client.GetDataTypeInfo` send a `ReadWrite` and parse the reply's data
themselves. `GetSymbol` reads the size at offset 12 and the name and type lengths at 24 and 26
of an ADS symbol entry, skips the name and its `0`, and takes the type up to its first `0`, or
`"UNKNOWN"` when the type runs past the reply. `GetDataTypeInfo` reads a data type entry: a
42-byte header with the number of sub-items at offset 40, the entry's name, type and comment,
each followed by a `0`, and then the sub-items, each with the same header. Its loop stops after
`subItems` iterations, at the end of the reply, or at a sub-item that does not fit; it moves from
one sub-item to the next by the sub-item's `entryLength`.

## Main definitions

* `Goads.Session.symbolOfReply`, `Goads.Session.dataTypeInfoOfReply` — the two parsers.
* `Goads.Session.DataTypeHeader`, `Goads.Session.SubItem`, `Goads.Session.DataTypeReply` — a
  data type entry as the PLC lays it out.

## Main results

* `Goads.Session.symbolOfReply_encode` — given an upload entry as its reply, `GetSymbol` returns
  the entry's size and data type.
* `Goads.Session.subItemFields_zero_entryLength` — a sub-item whose `entryLength` is `0` is
  returned once per remaining iteration.
* `Goads.Session.dataTypeInfoOfReply_encode` — given a laid-out data type entry, whatever
  follows it, `GetDataTypeInfo` returns one `StructField` per sub-item, in order, with the
  sub-item's name, data type, offset and size.

## Design

Both loops are modelled on the bytes from the running offset on (`data.drop offset`), which is
all they read; `offset < len(resp.Data)` is that suffix being nonempty. The checked models of
`Goads.Session.Checked` follow the sources index by index and are shown equal to these.
-/

namespace Goads.Session

open Ams

/-! ## `GetSymbol` -/

/-- `"UNKNOWN"`, the type `GetSymbol` reports when the type runs past the reply. -/
def unknownType : List UInt8 := [85, 78, 75, 78, 79, 87, 78]

/-- `Client.GetSymbol` from the reply's data on: the `Symbol` it returns for `name`, or `none`
for its error on a reply shorter than 32 bytes. -/
def symbolOfReply (name data : List UInt8) : Option Symbol :=
  if data.length < 32 then none else
  let size := uint32At data 12
  let nameLength := (uint16At data 24).toNat
  let typeLength := (uint16At data 26).toNat
  let typeStart := 30 + nameLength + 1
  let typeEnd := typeStart + typeLength
  let dataType :=
    if typeEnd ≤ data.length then nullTerminatedString (slice data typeStart typeEnd)
    else unknownType
  some ⟨name, dataType, size⟩

/-- Given an entry of the upload's layout as its reply, whatever follows it, `GetSymbol`
returns the entry's size and data type. -/
theorem symbolOfReply_encode (x : UploadEntry) (name rest : List UInt8) :
    symbolOfReply name (x.encode ++ rest) = some ⟨name, x.entry.dataType, x.entry.size⟩ := by
  obtain ⟨e, pad, -, ht, hnl, htl, -, -⟩ := x
  have hs := e.length_strings
  simp only [UploadEntry.encode]
  set L := 30 + e.strings.length + pad.length
  have hdata : e.encodeWith pad ++ rest = e.header L ++ (e.strings ++ pad ++ rest) := by
    simp [SymbolEntry.encodeWith, L]
  obtain ⟨-, -, -, h12, h24, h26, -⟩ := e.read_header L (e.strings ++ pad ++ rest)
  have htype : slice (e.header L ++ (e.strings ++ pad ++ rest)) (30 + e.name.length + 1)
      (30 + e.name.length + 1 + e.dataType.length) = e.dataType :=
    slice_middle (e.header L ++ e.name ++ [0]) _ (([0] ++ e.comment ++ [0]) ++ pad ++ rest)
      (by simp [SymbolEntry.strings]) (by simp; omega) (by simp; omega)
  have hnt : (UInt16.ofNat e.name.length).toNat = e.name.length := by simp; omega
  have htt : (UInt16.ofNat e.dataType.length).toNat = e.dataType.length := by simp; omega
  have hlen : (e.header L ++ (e.strings ++ pad ++ rest)).length = L + rest.length := by
    simp [L]
    omega
  rw [hdata, symbolOfReply]
  simp only [h12, h24, h26, hnt, htt, hlen, htype, nullTerminatedString_of_not_mem ht]
  rw [if_neg (by omega), if_pos (by omega)]

/-! ## `GetDataTypeInfo` -/

/-- The loop of `Client.GetDataTypeInfo` over the sub-items, on the bytes from the running
offset on, with `k` iterations left. -/
def subItemFields : ℕ → List UInt8 → List StructField
  | 0, _ => []
  | k + 1, rest =>
    if rest = [] then [] else
    if rest.length < 42 then [] else
    let fieldSize := uint32At rest 16
    let fieldOffset := uint32At rest 20
    let fieldNameLen := (uint16At rest 32).toNat
    let fieldTypeLen := (uint16At rest 34).toNat
    let fieldNameEnd := 42 + fieldNameLen
    if rest.length < fieldNameEnd then [] else
    let fieldTypeStart := fieldNameEnd + 1
    let fieldTypeEnd := fieldTypeStart + fieldTypeLen
    if rest.length < fieldTypeEnd then [] else
    { name := nullTerminatedString (slice rest 42 fieldNameEnd)
      dataType := nullTerminatedString (slice rest fieldTypeStart fieldTypeEnd)
      offset := fieldOffset
      size := fieldSize
      fields := [] } :: subItemFields k (rest.drop (uint32At rest 0).toNat)

/-- `Client.GetDataTypeInfo` from the reply's data on: the fields it returns, or `none` for its
errors on a reply shorter than 32 or than 42 bytes. No sub-items give `nil`. -/
def dataTypeInfoOfReply (data : List UInt8) : Option (List StructField) :=
  if data.length < 32 then none else
  if data.length < 42 then none else
  let subItems := (uint16At data 40).toNat
  if subItems = 0 then some [] else
  let nameLength := (uint16At data 32).toNat
  let typeLength := (uint16At data 34).toNat
  let commentLength := (uint16At data 36).toNat
  let offset := 42 + nameLength + 1 + typeLength + 1 + commentLength + 1
  some (subItemFields subItems (data.drop offset))

/-- The loop over the sub-items one iteration at a time: what one iteration reads, then the
fields after it. -/
lemma subItemFields_succ (k : ℕ) (rest : List UInt8) :
    subItemFields (k + 1) rest = match subItemFields 1 rest with
      | [] => []
      | f :: _ => f :: subItemFields k (rest.drop (uint32At rest 0).toNat) := by
  simp only [subItemFields]
  split_ifs <;> rfl

/-- **A sub-item of `entryLength` 0 is returned again at every iteration.** The loop moves to the
next sub-item by `entryLength` and, unlike the loop of `LoadSymbolTable`, does not stop at `0`.
A sub-item that parses and whose `entryLength` is `0` is therefore parsed again at every
remaining iteration: with `k` iterations left the loop returns it `k` times. -/
theorem subItemFields_zero_entryLength {rest : List UInt8} {f : StructField}
    (hf : subItemFields 1 rest = [f]) (h0 : uint32At rest 0 = 0) (k : ℕ) :
    subItemFields k rest = List.replicate k f := by
  induction k with
  | zero => rfl
  | succ k ih =>
    rw [subItemFields_succ, hf, h0, List.replicate_succ, ← ih]
    rfl

/-- A sub-item `a : INT` of size 2 at offset 0 whose `entryLength` is `0`. -/
def zeroLengthSubItem : List UInt8 :=
  List.replicate 16 0 ++ [2, 0, 0, 0] ++ List.replicate 12 0 ++ [1, 0, 3, 0] ++
    List.replicate 6 0 ++ [97, 0, 73, 78, 84, 0]

theorem subItemFields_zero_entryLength_three :
    subItemFields 3 zeroLengthSubItem = List.replicate 3 ⟨[97], [73, 78, 84], 0, 2, .nil, []⟩ :=
  @subItemFields_zero_entryLength zeroLengthSubItem _ rfl (by decide) 3

/-! ## The layout of a data type entry -/

/-- The 42-byte header of an entry of the data type upload. -/
structure DataTypeHeader where
  entryLength : UInt32
  version : UInt32
  hashValue : UInt32
  typeHashValue : UInt32
  size : UInt32
  offs : UInt32
  dataType : UInt32
  flags : UInt32
  nameLength : UInt16
  typeLength : UInt16
  commentLength : UInt16
  arrayDim : UInt16
  subItems : UInt16
  deriving DecidableEq, Repr

/-- The bytes of a header. -/
def DataTypeHeader.encode (h : DataTypeHeader) : List UInt8 :=
  putUint32 h.entryLength ++ putUint32 h.version ++ putUint32 h.hashValue ++
    putUint32 h.typeHashValue ++ putUint32 h.size ++ putUint32 h.offs ++ putUint32 h.dataType ++
    putUint32 h.flags ++ putUint16 h.nameLength ++ putUint16 h.typeLength ++
    putUint16 h.commentLength ++ putUint16 h.arrayDim ++ putUint16 h.subItems

@[simp] lemma DataTypeHeader.length_encode (h : DataTypeHeader) : h.encode.length = 42 := by
  simp [DataTypeHeader.encode]

/-- The fields of a header read back at the offsets `GetDataTypeInfo` reads them from. -/
lemma DataTypeHeader.read (h : DataTypeHeader) (r : List UInt8) :
    uint32At (h.encode ++ r) 0 = h.entryLength ∧ uint32At (h.encode ++ r) 16 = h.size ∧
      uint32At (h.encode ++ r) 20 = h.offs ∧ uint16At (h.encode ++ r) 32 = h.nameLength ∧
      uint16At (h.encode ++ r) 34 = h.typeLength ∧ uint16At (h.encode ++ r) 36 = h.commentLength ∧
      uint16At (h.encode ++ r) 40 = h.subItems := by
  simp (disch := simp only [length_putUint32, length_putUint16, Nat.reduceLeDiff]) only
    [DataTypeHeader.encode, List.append_assoc, uint32At_append_of_le, uint16At_append_of_le,
      uint32At_put, uint16At_put, length_putUint32, length_putUint16, Nat.reduceSub, and_self]

/-- A sub-item as the PLC lays it out: its header, its name and its type, without `0`, each
followed by a `0`, and whatever follows them up to its `entryLength` (its comment, padding). -/
structure SubItem where
  header : DataTypeHeader
  name : List UInt8
  dataType : List UInt8
  trailing : List UInt8
  name_nul_free : 0 ∉ name
  dataType_nul_free : 0 ∉ dataType
  nameLength_eq : header.nameLength.toNat = name.length
  typeLength_eq : header.typeLength.toNat = dataType.length
  entryLength_eq : header.entryLength.toNat = 44 + name.length + dataType.length + trailing.length

/-- The bytes of a sub-item. -/
def SubItem.encode (x : SubItem) : List UInt8 :=
  x.header.encode ++ x.name ++ [0] ++ x.dataType ++ [0] ++ x.trailing

/-- The `StructField` a sub-item describes. -/
def SubItem.field (x : SubItem) : StructField :=
  { name := x.name, dataType := x.dataType, offset := x.header.offs, size := x.header.size
    fields := [] }

/-- A data type entry as the PLC lays it out: its header, name, type and comment, each followed
by a `0`, and then its sub-items, as many as its header says. -/
structure DataTypeReply where
  header : DataTypeHeader
  name : List UInt8
  dataType : List UInt8
  comment : List UInt8
  items : List SubItem
  nameLength_eq : header.nameLength.toNat = name.length
  typeLength_eq : header.typeLength.toNat = dataType.length
  commentLength_eq : header.commentLength.toNat = comment.length
  subItems_eq : header.subItems.toNat = items.length
  items_ne_nil : items ≠ []

/-- The bytes of a data type entry with its sub-items. -/
def DataTypeReply.encode (d : DataTypeReply) : List UInt8 :=
  d.header.encode ++ d.name ++ [0] ++ d.dataType ++ [0] ++ d.comment ++ [0] ++
    d.items.flatMap SubItem.encode

/-- One iteration of the loop on a laid-out sub-item reads back its field and moves on to the
bytes after it. -/
lemma subItemFields_encode (x : SubItem) (k : ℕ) (rest : List UInt8) :
    subItemFields (k + 1) (x.encode ++ rest) = x.field :: subItemFields k rest := by
  obtain ⟨h, name, type, tr, hn, ht, hnl, htl, hel⟩ := x
  have hdata : SubItem.encode ⟨h, name, type, tr, hn, ht, hnl, htl, hel⟩ ++ rest =
      h.encode ++ (name ++ [0] ++ type ++ [0] ++ tr ++ rest) := by
    simp [SubItem.encode]
  obtain ⟨h0, h16, h20, h32, h34, -, -⟩ := h.read (name ++ [0] ++ type ++ [0] ++ tr ++ rest)
  have hname : slice (h.encode ++ (name ++ [0] ++ type ++ [0] ++ tr ++ rest)) 42
      (42 + name.length) = name :=
    slice_middle h.encode name ([0] ++ type ++ [0] ++ tr ++ rest) (by simp) (by simp) (by simp)
  have htype : slice (h.encode ++ (name ++ [0] ++ type ++ [0] ++ tr ++ rest))
      (42 + name.length + 1) (42 + name.length + 1 + type.length) = type :=
    slice_middle (h.encode ++ name ++ [0]) type ([0] ++ tr ++ rest) (by simp) (by simp; omega)
      (by simp; omega)
  have hlen : (h.encode ++ (name ++ [0] ++ type ++ [0] ++ tr ++ rest)).length =
      44 + name.length + type.length + tr.length + rest.length := by
    simp
    omega
  have hdrop : (h.encode ++ (name ++ [0] ++ type ++ [0] ++ tr ++ rest)).drop
      h.entryLength.toNat = rest := by
    rw [hel, show h.encode ++ (name ++ [0] ++ type ++ [0] ++ tr ++ rest) =
      (h.encode ++ name ++ [0] ++ type ++ [0] ++ tr) ++ rest by simp]
    exact List.drop_left' (by simp; omega)
  rw [hdata, subItemFields]
  simp only [h0, h16, h20, h32, h34, hnl, htl, hlen, hname, htype, hdrop,
    nullTerminatedString_of_not_mem hn, nullTerminatedString_of_not_mem ht]
  rw [if_neg (List.ne_nil_of_length_pos (by omega)), if_neg (by omega), if_neg (by omega),
    if_neg (by omega)]
  rfl

lemma subItemFields_flatMap_encode (xs : List SubItem) (rest : List UInt8) :
    subItemFields xs.length (xs.flatMap SubItem.encode ++ rest) = xs.map SubItem.field := by
  induction xs with
  | nil => rfl
  | cons x xs ih => rw [List.flatMap_cons, List.append_assoc, List.length_cons,
      subItemFields_encode, ih, List.map_cons]

/-- **Sub-item parsing is exact.** For every data type entry laid out with `k ≥ 1` sub-items
right after its strings, whatever bytes follow, `GetDataTypeInfo` returns exactly `k`
`StructField`s, in order, each with its sub-item's name, data type, offset and size.

**Proof sketch.** The header gives `subItems = k` and the start of the first sub-item;
`subItemFields_encode` reads each sub-item back and moves on by its `entryLength` to the next. -/
theorem dataTypeInfoOfReply_encode (d : DataTypeReply) (rest : List UInt8) :
    dataTypeInfoOfReply (d.encode ++ rest) = some (d.items.map SubItem.field) := by
  obtain ⟨h, name, type, comment, items, hnl, htl, hcl, hk, hne⟩ := d
  have hdata : DataTypeReply.encode ⟨h, name, type, comment, items, hnl, htl, hcl, hk, hne⟩ ++
      rest = h.encode ++ (name ++ [0] ++ type ++ [0] ++ comment ++ [0] ++
        (items.flatMap SubItem.encode ++ rest)) := by
    simp [DataTypeReply.encode]
  obtain ⟨-, -, -, h32, h34, h36, h40⟩ :=
    h.read (name ++ [0] ++ type ++ [0] ++ comment ++ [0] ++ (items.flatMap SubItem.encode ++ rest))
  have hpos : 0 < items.length := List.length_pos.mpr hne
  have hlen : (h.encode ++ (name ++ [0] ++ type ++ [0] ++ comment ++ [0] ++
      (items.flatMap SubItem.encode ++ rest))).length =
      45 + name.length + type.length + comment.length +
        (items.flatMap SubItem.encode ++ rest).length := by
    simp
    omega
  have hdrop : (h.encode ++ (name ++ [0] ++ type ++ [0] ++ comment ++ [0] ++
      (items.flatMap SubItem.encode ++ rest))).drop
      (42 + name.length + 1 + type.length + 1 + comment.length + 1) =
      items.flatMap SubItem.encode ++ rest := by
    rw [show h.encode ++ (name ++ [0] ++ type ++ [0] ++ comment ++ [0] ++
      (items.flatMap SubItem.encode ++ rest)) = (h.encode ++ name ++ [0] ++ type ++ [0] ++ comment ++
        [0]) ++ (items.flatMap SubItem.encode ++ rest) by simp]
    exact List.drop_left' (by simp; omega)
  rw [hdata, dataTypeInfoOfReply]
  simp only [h32, h34, h36, h40, hnl, htl, hcl, hk, hlen, hdrop]
  rw [if_neg (by omega), if_neg (by omega), if_neg (by omega), subItemFields_flatMap_encode]

end Goads.Session
