import Goads.Ams.Packets
import Goads.Session.Replies

/-!
# The metadata parsers never panic and always stop

The loop of `Session.LoadSymbolTable` and the parsers of `Client.GetSymbol` and
`Client.GetDataTypeInfo` read lengths and offsets out of the PLC's reply and slice the reply with
them. Here they are modelled index by index as the sources compute them: every `resp.Data[i:j]`
is a Go slice expression, which panics unless `0 ≤ i ≤ j ≤ len`, every
`binary.LittleEndian.Uint32` reads a slice that must hold four bytes, every running `offset + k`
is an addition on Go's 64-bit `int`, and each `for` loop is run one iteration at a time for a
budget of iterations.

For every reply the client can decode, the three parsers neither panic nor overflow, their loops
stop within the budget, and what they return is what the models of
`Goads.Session.SymbolTable` and `Goads.Session.Replies` compute.

## Main definitions

* `Goads.Session.goAdd`, `Goads.Session.goSlice`, `Goads.Session.goUint32`,
  `Goads.Session.goUint16` — Go's checked operations, which fault on a slice or a read out of
  range (a runtime panic) or on an `int` overflow.
* `Goads.Session.runLoop` — a `for` loop run for a budget of iterations, ending in a panic, an
  exit with a result, or still running.
* `Goads.Session.loadSymbolTableIter`, `Goads.Session.getSymbolParse`,
  `Goads.Session.getDataTypeInfoIter`, `Goads.Session.getDataTypeInfoParse` — the parsers.

## Main results

* `Goads.Session.runLoop_loadSymbolTableIter` — on a reply shorter than `2^62` bytes the loop of
  `LoadSymbolTable` exits within `len + 1` iterations with the entries of `symbolTable`.
* `Goads.Session.getSymbolParse_eq` — `GetSymbol`'s parse never panics and is `symbolOfReply`.
* `Goads.Session.getDataTypeInfoParse_eq` — on a reply shorter than `2^62` bytes
  `GetDataTypeInfo` exits within `2^16` iterations with `dataTypeInfoOfReply`.
* `Goads.Session.metadata_parsers_total` — the three, for the data of every `ReadWrite` response
  the client decodes.

## Design

Only the slices and reads of the reply are checked. The loops that cut a string at its first `0`
index it below its length and are `nullTerminatedString`. Sums of constants and 16-bit lengths,
which stay below `2^18`, are plain additions; every sum with the running offset is a `goAdd`.
A slice's capacity is taken to be its length, so a slice accepted here is accepted by Go.
-/

namespace Goads.Session

open Ams

/-! ## Go's checked operations -/

/-- What keeps a parse from its result: a slice or an index out of range, which is a runtime
panic, or an `int` sum past `2^63 - 1`, which Go would wrap around. -/
inductive Fault
  | outOfRange
  | overflow
  deriving DecidableEq, Repr

/-- `a + b` on Go's 64-bit `int`. -/
def goAdd (a b : ℕ) : Except Fault ℕ := if a + b < 2 ^ 63 then pure (a + b) else throw .overflow

/-- The slice expression `data[i:j]`. -/
def goSlice (data : List UInt8) (i j : ℕ) : Except Fault (List UInt8) :=
  if i ≤ j ∧ j ≤ data.length then pure (slice data i j) else throw .outOfRange

/-- `binary.LittleEndian.Uint32(b)`, which panics on fewer than four bytes. -/
def goUint32 (b : List UInt8) : Except Fault UInt32 :=
  if 4 ≤ b.length then pure (UInt32.ofNat (leValue (b.take 4))) else throw .outOfRange

/-- `binary.LittleEndian.Uint16(b)`, which panics on fewer than two bytes. -/
def goUint16 (b : List UInt8) : Except Fault UInt16 :=
  if 2 ≤ b.length then pure (UInt16.ofNat (leValue (b.take 2))) else throw .outOfRange

section Checked

variable {data : List UInt8} {i j : ℕ}

lemma goAdd_of_lt {a b : ℕ} (h : a + b < 2 ^ 63) : goAdd a b = pure (a + b) := if_pos h

lemma goSlice_of_le (hij : i ≤ j) (hj : j ≤ data.length) :
    goSlice data i j = pure (slice data i j) :=
  if_pos ⟨hij, hj⟩

lemma goUint32_slice (hj : i + 4 = j) (h : j ≤ data.length) :
    goUint32 (slice data i j) = pure (uint32At data i) := by
  rw [goUint32, if_pos (by rw [length_slice (by omega) h]; omega), uint32At, slice,
    List.take_take, show min 4 (j - i) = 4 by omega]

lemma goUint16_slice (hj : i + 2 = j) (h : j ≤ data.length) :
    goUint16 (slice data i j) = pure (uint16At data i) := by
  rw [goUint16, if_pos (by rw [length_slice (by omega) h]; omega), uint16At, slice,
    List.take_take, show min 2 (j - i) = 2 by omega]

lemma goSlice_add_of_not_lt {k : ℕ} (h : ¬data.length < i + k) :
    goSlice data i (i + k) = pure (slice data i (i + k)) :=
  goSlice_of_le (Nat.le_add_right i k) (Nat.le_of_not_lt h)

lemma goSlice_add_of_le {k : ℕ} (h : i + k ≤ data.length) :
    goSlice data i (i + k) = pure (slice data i (i + k)) :=
  goSlice_of_le (Nat.le_add_right i k) h

lemma uint32_toNat_eq_zero {x : UInt32} : x.toNat = 0 ↔ x = 0 :=
  ⟨fun h => UInt32.toNat.inj h, fun h => h ▸ rfl⟩

lemma uint16_toNat_eq_zero {x : UInt16} : x.toNat = 0 ↔ x = 0 :=
  ⟨fun h => UInt16.toNat.inj h, fun h => h ▸ rfl⟩

end Checked

/-! ## Reading from an offset -/

section Drop

variable (data : List UInt8) (o i j : ℕ)

@[simp] lemma uint32At_drop : uint32At (data.drop o) i = uint32At data (o + i) := by
  rw [uint32At, uint32At, List.drop_drop]

@[simp] lemma uint16At_drop : uint16At (data.drop o) i = uint16At data (o + i) := by
  rw [uint16At, uint16At, List.drop_drop]

@[simp] lemma slice_drop : slice (data.drop o) i j = slice data (o + i) (o + j) := by
  rw [slice, slice, List.drop_drop, Nat.add_sub_add_left]

end Drop

/-! ## Loops -/

/-- How a run of a `for` loop ends within a budget of iterations. -/
inductive LoopEnd (α : Type)
  /-- A fault in an iteration. -/
  | fault (f : Fault)
  /-- The loop was left with this result. -/
  | exit (a : α)
  /-- The budget was spent with the loop still going. -/
  | running
  deriving DecidableEq, Repr

/-- The result of a run, mapped. -/
def LoopEnd.map {α β : Type} (f : α → β) : LoopEnd α → LoopEnd β
  | .fault e => .fault e
  | .exit a => .exit (f a)
  | .running => .running

/-- Runs a loop for at most `fuel` iterations. Each iteration `step` faults, leaves the loop with
a result (`.inl`), or goes round again from a new state (`.inr`). -/
def runLoop {σ α : Type} (step : σ → Except Fault (α ⊕ σ)) : ℕ → σ → LoopEnd α
  | 0, _ => .running
  | fuel + 1, s =>
    match step s with
    | .error e => .fault e
    | .ok (.inl a) => .exit a
    | .ok (.inr s') => runLoop step fuel s'

/-! ## The loop of `LoadSymbolTable` -/

/-- The start of an iteration of `LoadSymbolTable`'s loop: the `entryLength` at `offset`, or
`none` where the loop breaks because the header or the entry does not fit. -/
def symbolEntryLength (data : List UInt8) (offset : ℕ) : Except Fault (Option UInt32) := do
  if data.length < (← goAdd offset 30) then return none
  let entryLength ← goUint32 (← goSlice data offset (← goAdd offset 4))
  if entryLength = 0 then return none
  if data.length < (← goAdd offset entryLength.toNat) then return none
  return some entryLength

/-- The six header fields an iteration reads after `entryLength`: index group, index offset and
size, and the name, type and comment lengths. -/
def symbolHeader (data : List UInt8) (offset : ℕ) :
    Except Fault (UInt32 × UInt32 × UInt32 × UInt16 × UInt16 × UInt16) := do
  let indexGroup ← goUint32 (← goSlice data (← goAdd offset 4) (← goAdd offset 8))
  let indexOffset ← goUint32 (← goSlice data (← goAdd offset 8) (← goAdd offset 12))
  let size ← goUint32 (← goSlice data (← goAdd offset 12) (← goAdd offset 16))
  let nameLength ← goUint16 (← goSlice data (← goAdd offset 24) (← goAdd offset 26))
  let typeLength ← goUint16 (← goSlice data (← goAdd offset 26) (← goAdd offset 28))
  let commentLength ← goUint16 (← goSlice data (← goAdd offset 28) (← goAdd offset 30))
  return (indexGroup, indexOffset, size, nameLength, typeLength, commentLength)

/-- The name, type and comment an iteration cuts out of the entry, or `none` where the loop
breaks because the name or the type runs past the reply. -/
def symbolStrings (data : List UInt8) (offset : ℕ) (nameLength typeLength commentLength : UInt16) :
    Except Fault (Option (List UInt8 × List UInt8 × List UInt8)) := do
  let nameStart ← goAdd offset 30
  let nameEnd ← goAdd nameStart nameLength.toNat
  if data.length < nameEnd then return none
  let name := nullTerminatedString (← goSlice data nameStart nameEnd)
  let typeStart ← goAdd nameEnd 1
  let typeEnd ← goAdd typeStart typeLength.toNat
  if data.length < typeEnd then return none
  let dataType := nullTerminatedString (← goSlice data typeStart typeEnd)
  let mut comment := []
  if 0 < commentLength.toNat then
    let commentStart ← goAdd typeEnd 1
    let commentEnd ← goAdd commentStart commentLength.toNat
    if commentEnd ≤ data.length then
      comment := nullTerminatedString (← goSlice data commentStart commentEnd)
  return some (name, dataType, comment)

/-- One iteration of `Session.LoadSymbolTable`'s loop, from `offset` with the `SymbolInfo`s
stored so far: it leaves the loop (`offset < len(resp.Data)` failing, or a `break`), or stores
the entry and moves on by its `entryLength`. -/
def loadSymbolTableIter (data : List UInt8) :
    ℕ × List SymbolInfo → Except Fault (List SymbolInfo ⊕ ℕ × List SymbolInfo)
  | (offset, stored) => do
    if ¬offset < data.length then return .inl stored
    let some entryLength ← symbolEntryLength data offset | return .inl stored
    let (indexGroup, indexOffset, size, nameLength, typeLength, commentLength) ←
      symbolHeader data offset
    let some (name, dataType, comment) ←
        symbolStrings data offset nameLength typeLength commentLength
      | return .inl stored
    return .inr (← goAdd offset entryLength.toNat,
      stored ++ [{ name, dataType, size, indexGroup, indexOffset, comment }])

section LoadSymbolTable

variable {data : List UInt8} {offset : ℕ}

lemma symbolEntryLength_eq (hlen : data.length < 2 ^ 62) (h : offset ≤ data.length) :
    symbolEntryLength data offset = pure
      (if data.length < offset + 30 then none else
       if uint32At data offset = 0 then none else
       if data.length < offset + (uint32At data offset).toNat then none else
       some (uint32At data offset)) := by
  have h32 := UInt32.toNat_lt_size (uint32At data offset)
  simp only [UInt32.size] at h32
  simp only [symbolEntryLength, goAdd_of_lt (show offset + 30 < 2 ^ 63 by omega), pure_bind]
  by_cases h30 : data.length < offset + 30
  · simp only [if_pos h30]
  simp only [if_neg h30, goAdd_of_lt (show offset + 4 < 2 ^ 63 by omega),
    goSlice_of_le (show offset ≤ offset + 4 by omega) (show offset + 4 ≤ data.length by omega),
    goUint32_slice (show offset + 4 = offset + 4 from rfl) (show offset + 4 ≤ data.length by omega),
    goAdd_of_lt (show offset + (uint32At data offset).toNat < 2 ^ 63 by omega), pure_bind]
  split_ifs <;> rfl

lemma symbolHeader_eq (hlen : data.length < 2 ^ 62) (h : offset + 30 ≤ data.length) :
    symbolHeader data offset = pure (uint32At data (offset + 4), uint32At data (offset + 8),
      uint32At data (offset + 12), uint16At data (offset + 24), uint16At data (offset + 26),
      uint16At data (offset + 28)) := by
  simp (disch := omega) only [symbolHeader, goAdd_of_lt, goSlice_of_le, goUint32_slice,
    goUint16_slice, pure_bind]

lemma symbolStrings_eq (hlen : data.length < 2 ^ 62) (h : offset ≤ data.length)
    (nl tl cl : UInt16) :
    symbolStrings data offset nl tl cl = pure
      (if data.length < offset + 30 + nl.toNat then none else
       if data.length < offset + 30 + nl.toNat + 1 + tl.toNat then none else
       some (nullTerminatedString (slice data (offset + 30) (offset + 30 + nl.toNat)),
         nullTerminatedString
           (slice data (offset + 30 + nl.toNat + 1) (offset + 30 + nl.toNat + 1 + tl.toNat)),
         if 0 < cl.toNat ∧ offset + 30 + nl.toNat + 1 + tl.toNat + 1 + cl.toNat ≤ data.length then
           nullTerminatedString (slice data (offset + 30 + nl.toNat + 1 + tl.toNat + 1)
             (offset + 30 + nl.toNat + 1 + tl.toNat + 1 + cl.toNat))
         else [])) := by
  have hn := UInt16.toNat_lt_size nl
  have ht := UInt16.toNat_lt_size tl
  have hc := UInt16.toNat_lt_size cl
  simp only [UInt16.size] at hn ht hc
  simp only [symbolStrings, goAdd_of_lt (show offset + 30 < 2 ^ 63 by omega),
    goAdd_of_lt (show offset + 30 + nl.toNat < 2 ^ 63 by omega),
    goAdd_of_lt (show offset + 30 + nl.toNat + 1 < 2 ^ 63 by omega),
    goAdd_of_lt (show offset + 30 + nl.toNat + 1 + tl.toNat < 2 ^ 63 by omega),
    goAdd_of_lt (show offset + 30 + nl.toNat + 1 + tl.toNat + 1 < 2 ^ 63 by omega),
    goAdd_of_lt (show offset + 30 + nl.toNat + 1 + tl.toNat + 1 + cl.toNat < 2 ^ 63 by omega),
    pure_bind]
  by_cases h1 : data.length < offset + 30 + nl.toNat
  · simp only [if_pos h1]
  by_cases h2 : data.length < offset + 30 + nl.toNat + 1 + tl.toNat
  · simp only [if_neg h1, if_pos h2, goSlice_add_of_not_lt h1, pure_bind]
  simp only [if_neg h1, if_neg h2, goSlice_add_of_not_lt h1, goSlice_add_of_not_lt h2, pure_bind,
    ite_and]
  split_ifs with h3 h4
  · rw [goSlice_add_of_le h4]
    rfl
  · rfl
  · rfl

/-- **One iteration.** From an offset inside the reply, an iteration of the loop does what
`parseEntry` does on the bytes from the offset on, with no panic and no overflow.

**Proof sketch.** The three parts of the iteration are evaluated by their lemmas; the reads
from `data.drop offset` are reads from `data` at `offset`, and each `break` of the source is a
`none` of `parseEntry`. -/
lemma loadSymbolTableIter_eq (hlen : data.length < 2 ^ 62) (hoff : offset < data.length)
    (stored : List SymbolInfo) :
    loadSymbolTableIter data (offset, stored) =
      pure (match parseEntry (data.drop offset) with
        | none => .inl stored
        | some (info, n) => .inr (offset + n, stored ++ [info])) := by
  have h32 := UInt32.toNat_lt_size (uint32At data offset)
  simp only [UInt32.size] at h32
  simp only [loadSymbolTableIter, hoff, not_true_eq_false, if_false, parseEntry, List.length_drop,
    uint32At_drop, uint16At_drop, slice_drop, Nat.sub_lt_iff_lt_add hoff.le,
    Nat.le_sub_iff_add_le' hoff.le, Nat.add_zero, ← Nat.add_assoc, ite_or, uint32_toNat_eq_zero,
    symbolEntryLength_eq hlen hoff.le]
  by_cases h30 : data.length < offset + 30
  · simp only [if_pos h30]
    rfl
  by_cases hz : uint32At data offset = 0
  · simp only [if_neg h30, if_pos hz]
    rfl
  by_cases hel : data.length < offset + (uint32At data offset).toNat
  · simp only [if_neg h30, if_neg hz, if_pos hel]
    rfl
  simp only [if_neg h30, if_neg hz, if_neg hel, pure_bind,
    symbolHeader_eq hlen (show offset + 30 ≤ data.length by omega), symbolStrings_eq hlen hoff.le]
  by_cases hn : data.length < offset + 30 + (uint16At data (offset + 24)).toNat
  · simp only [if_pos hn]
  by_cases ht : data.length < offset + 30 + (uint16At data (offset + 24)).toNat + 1 +
      (uint16At data (offset + 26)).toNat
  · simp only [if_neg hn, if_pos ht]
  simp only [if_neg hn, if_neg ht, pure_bind,
    goAdd_of_lt (show offset + (uint32At data offset).toNat < 2 ^ 63 by omega)]

/-- `symbolTable` one entry at a time: what `parseEntry` reads, then the table after it. -/
lemma symbolTable_eq_parseEntry (rest : List UInt8) :
    symbolTable rest = match parseEntry rest with
      | none => []
      | some (info, n) => info :: symbolTable (rest.drop n) := by
  rcases rest with _ | ⟨b, rest⟩
  · rfl
  show parseSymbolTable (rest.length + 1) (b :: rest) = _
  rw [parseSymbolTable, if_neg (List.cons_ne_nil b rest)]
  cases he : parseEntry (b :: rest) with
  | none => rfl
  | some p =>
    obtain ⟨info, n⟩ := p
    have := parseEntry_pos he
    dsimp only
    rw [parseSymbolTable_of_le (by simp only [List.length_drop, List.length_cons] at this ⊢; omega)]

/-- From any offset within the reply, a budget above the bytes left runs the loop to its exit,
which stores the entries of `symbolTable` on the bytes from the offset on. -/
lemma runLoop_loadSymbolTableIter_from (hlen : data.length < 2 ^ 62) :
    ∀ (fuel offset : ℕ) (stored : List SymbolInfo), offset ≤ data.length →
      data.length - offset < fuel →
      runLoop (loadSymbolTableIter data) fuel (offset, stored) =
        .exit (stored ++ symbolTable (data.drop offset))
  | 0, _, _, _, hf => absurd hf (Nat.not_lt_zero _)
  | fuel + 1, offset, stored, hoff, hf => by
    rcases Nat.lt_or_ge offset data.length with hlt | hge
    · rw [runLoop, loadSymbolTableIter_eq hlen hlt, symbolTable_eq_parseEntry]
      cases he : parseEntry (data.drop offset) with
      | none => exact congrArg LoopEnd.exit (List.append_nil stored).symm
      | some p =>
        obtain ⟨info, n⟩ := p
        have hn := parseEntry_pos he
        rw [List.length_drop] at hn
        dsimp only [pure, Except.pure]
        rw [runLoop_loadSymbolTableIter_from hlen fuel (offset + n) _ (by omega) (by omega),
          List.drop_drop, List.append_assoc, List.singleton_append]
    · have hd : data.drop offset = [] := List.drop_eq_nil_of_le hge
      rw [hd, runLoop, loadSymbolTableIter, if_pos hge.not_lt]
      exact congrArg LoopEnd.exit (List.append_nil stored).symm

/-- **The loop of `LoadSymbolTable` is total.** On a reply shorter than `2^62` bytes the loop
never panics or overflows, and exits within `len(resp.Data) + 1` iterations with the entries of
`symbolTable`, in order.

**Proof sketch.** Induction on the budget: each iteration from an offset inside the reply is
`parseEntry` (`loadSymbolTableIter_eq`), which moves on by at least one byte and never past the
end, or leaves the loop. -/
theorem runLoop_loadSymbolTableIter (hlen : data.length < 2 ^ 62) {fuel : ℕ}
    (hfuel : data.length < fuel) :
    runLoop (loadSymbolTableIter data) fuel (0, []) = .exit (symbolTable data) :=
  runLoop_loadSymbolTableIter_from hlen fuel 0 [] (Nat.zero_le _) (by omega)

end LoadSymbolTable

/-! ## `GetSymbol` -/

/-- `Client.GetSymbol` on the data of its reply: the `Symbol` it returns for `name`, or `none` for
its error on a reply shorter than 32 bytes. -/
def getSymbolParse (name data : List UInt8) : Except Fault (Option Symbol) := do
  if data.length < 32 then return none
  let size ← goUint32 (← goSlice data 12 16)
  let nameLength ← goUint16 (← goSlice data 24 26)
  let typeLength ← goUint16 (← goSlice data 26 28)
  let typeStart := 30 + nameLength.toNat + 1
  let typeEnd := typeStart + typeLength.toNat
  let dataType ← if typeEnd ≤ data.length then
      nullTerminatedString <$> goSlice data typeStart typeEnd
    else pure unknownType
  return some ⟨name, dataType, size⟩

/-- **`GetSymbol` is total.** On every reply, `GetSymbol`'s parse never panics and returns what
`symbolOfReply` computes. -/
theorem getSymbolParse_eq (name data : List UInt8) :
    getSymbolParse name data = pure (symbolOfReply name data) := by
  by_cases h : data.length < 32
  · simp only [getSymbolParse, symbolOfReply, if_pos h]
  simp only [getSymbolParse, symbolOfReply, if_neg h,
    goSlice_of_le (show 12 ≤ 16 by omega) (show 16 ≤ data.length by omega),
    goSlice_of_le (show 24 ≤ 26 by omega) (show 26 ≤ data.length by omega),
    goSlice_of_le (show 26 ≤ 28 by omega) (show 28 ≤ data.length by omega),
    goUint32_slice (show 12 + 4 = 16 from rfl) (show 16 ≤ data.length by omega),
    goUint16_slice (show 24 + 2 = 26 from rfl) (show 26 ≤ data.length by omega),
    goUint16_slice (show 26 + 2 = 28 from rfl) (show 28 ≤ data.length by omega), pure_bind]
  split_ifs with ht
  · rw [goSlice_of_le (by omega) ht]
    rfl
  · rfl

/-! ## The loop of `GetDataTypeInfo` -/

/-- `Client.GetDataTypeInfo` on the data of its reply up to its loop: its early returns (`.inl`),
or the number of sub-items and the offset of the first (`.inr`). -/
def getDataTypeInfoHead (data : List UInt8) : Except Fault (Option (List StructField) ⊕ ℕ × ℕ) := do
  if data.length < 32 then return .inl none
  if data.length < 42 then return .inl none
  let subItems ← goUint16 (← goSlice data 40 42)
  if subItems = 0 then return .inl (some [])
  let nameLength ← goUint16 (← goSlice data 32 34)
  let typeLength ← goUint16 (← goSlice data 34 36)
  let commentLength ← goUint16 (← goSlice data 36 38)
  return .inr (subItems.toNat,
    42 + nameLength.toNat + 1 + typeLength.toNat + 1 + commentLength.toNat + 1)

/-- The four header fields an iteration over the sub-items reads: size, offset, and the name and
type lengths. -/
def subItemHeader (data : List UInt8) (offset : ℕ) :
    Except Fault (UInt32 × UInt32 × UInt16 × UInt16) := do
  let fieldSize ← goUint32 (← goSlice data (← goAdd offset 16) (← goAdd offset 20))
  let fieldOffset ← goUint32 (← goSlice data (← goAdd offset 20) (← goAdd offset 24))
  let fieldNameLen ← goUint16 (← goSlice data (← goAdd offset 32) (← goAdd offset 34))
  let fieldTypeLen ← goUint16 (← goSlice data (← goAdd offset 34) (← goAdd offset 36))
  return (fieldSize, fieldOffset, fieldNameLen, fieldTypeLen)

/-- The name and type an iteration cuts out of a sub-item, or `none` where the loop breaks. -/
def subItemStrings (data : List UInt8) (offset : ℕ) (fieldNameLen fieldTypeLen : UInt16) :
    Except Fault (Option (List UInt8 × List UInt8)) := do
  let fieldNameStart ← goAdd offset 42
  let fieldNameEnd ← goAdd fieldNameStart fieldNameLen.toNat
  if data.length < fieldNameEnd then return none
  let fieldName := nullTerminatedString (← goSlice data fieldNameStart fieldNameEnd)
  let fieldTypeStart ← goAdd fieldNameEnd 1
  let fieldTypeEnd ← goAdd fieldTypeStart fieldTypeLen.toNat
  if data.length < fieldTypeEnd then return none
  let fieldType := nullTerminatedString (← goSlice data fieldTypeStart fieldTypeEnd)
  return some (fieldName, fieldType)

/-- One iteration of `GetDataTypeInfo`'s loop, with `i` sub-items read, the running offset and
the fields so far: it leaves the loop, or appends a field and moves on by the sub-item's
`entryLength`. -/
def getDataTypeInfoIter (data : List UInt8) (subItems : ℕ) :
    ℕ × ℕ × List StructField → Except Fault (List StructField ⊕ ℕ × ℕ × List StructField)
  | (i, offset, fields) => do
    if ¬(i < subItems ∧ offset < data.length) then return .inl fields
    if data.length < (← goAdd offset 42) then return .inl fields
    let (fieldSize, fieldOffset, fieldNameLen, fieldTypeLen) ← subItemHeader data offset
    let some (fieldName, fieldType) ← subItemStrings data offset fieldNameLen fieldTypeLen
      | return .inl fields
    let entryLength ← goUint32 (← goSlice data offset (← goAdd offset 4))
    let field : StructField :=
      { name := fieldName, dataType := fieldType, offset := fieldOffset, size := fieldSize,
        fields := [] }
    return .inr (i + 1, (← goAdd offset entryLength.toNat), fields ++ [field])

/-- `Client.GetDataTypeInfo` on the data of its reply, with a budget of `fuel` iterations for its
loop. -/
def getDataTypeInfoParse (fuel : ℕ) (data : List UInt8) : LoopEnd (Option (List StructField)) :=
  match getDataTypeInfoHead data with
  | .error e => .fault e
  | .ok (.inl r) => .exit r
  | .ok (.inr (subItems, offset)) =>
    (runLoop (getDataTypeInfoIter data subItems) fuel (0, offset, [])).map some

section DataTypeInfo

variable {data : List UInt8} {offset : ℕ}

lemma getDataTypeInfoHead_eq (data : List UInt8) :
    getDataTypeInfoHead data = pure
      (if data.length < 32 then .inl none else
       if data.length < 42 then .inl none else
       if uint16At data 40 = 0 then .inl (some []) else
       .inr ((uint16At data 40).toNat, 42 + (uint16At data 32).toNat + 1 +
         (uint16At data 34).toNat + 1 + (uint16At data 36).toNat + 1)) := by
  by_cases h : data.length < 42
  · by_cases h32 : data.length < 32 <;>
      simp only [getDataTypeInfoHead, h, h32, if_true, if_false, pure_bind]
  simp only [getDataTypeInfoHead, h, show ¬data.length < 32 by omega, if_false,
    goSlice_of_le (show 40 ≤ 42 by omega) (show 42 ≤ data.length by omega),
    goSlice_of_le (show 32 ≤ 34 by omega) (show 34 ≤ data.length by omega),
    goSlice_of_le (show 34 ≤ 36 by omega) (show 36 ≤ data.length by omega),
    goSlice_of_le (show 36 ≤ 38 by omega) (show 38 ≤ data.length by omega),
    goUint16_slice (show 40 + 2 = 42 from rfl) (show 42 ≤ data.length by omega),
    goUint16_slice (show 32 + 2 = 34 from rfl) (show 34 ≤ data.length by omega),
    goUint16_slice (show 34 + 2 = 36 from rfl) (show 36 ≤ data.length by omega),
    goUint16_slice (show 36 + 2 = 38 from rfl) (show 38 ≤ data.length by omega), pure_bind]
  split_ifs <;> rfl

lemma subItemHeader_eq (hlen : data.length < 2 ^ 62) (h : offset + 42 ≤ data.length) :
    subItemHeader data offset = pure (uint32At data (offset + 16), uint32At data (offset + 20),
      uint16At data (offset + 32), uint16At data (offset + 34)) := by
  simp (disch := omega) only [subItemHeader, goAdd_of_lt, goSlice_of_le, goUint32_slice,
    goUint16_slice, pure_bind]

lemma subItemStrings_eq (hlen : data.length < 2 ^ 62) (h : offset ≤ data.length) (nl tl : UInt16) :
    subItemStrings data offset nl tl = pure
      (if data.length < offset + 42 + nl.toNat then none else
       if data.length < offset + 42 + nl.toNat + 1 + tl.toNat then none else
       some (nullTerminatedString (slice data (offset + 42) (offset + 42 + nl.toNat)),
         nullTerminatedString
           (slice data (offset + 42 + nl.toNat + 1) (offset + 42 + nl.toNat + 1 + tl.toNat)))) := by
  have hn := UInt16.toNat_lt_size nl
  have ht := UInt16.toNat_lt_size tl
  simp only [UInt16.size] at hn ht
  simp only [subItemStrings, goAdd_of_lt (show offset + 42 < 2 ^ 63 by omega),
    goAdd_of_lt (show offset + 42 + nl.toNat < 2 ^ 63 by omega),
    goAdd_of_lt (show offset + 42 + nl.toNat + 1 < 2 ^ 63 by omega),
    goAdd_of_lt (show offset + 42 + nl.toNat + 1 + tl.toNat < 2 ^ 63 by omega), pure_bind]
  by_cases h1 : data.length < offset + 42 + nl.toNat
  · simp only [if_pos h1]
  by_cases h2 : data.length < offset + 42 + nl.toNat + 1 + tl.toNat
  · simp only [if_neg h1, if_pos h2, goSlice_add_of_not_lt h1, pure_bind]
  simp only [if_neg h1, if_neg h2, goSlice_add_of_not_lt h1, goSlice_add_of_not_lt h2, pure_bind]

/-- **One iteration.** While sub-items are left and the offset is inside the reply, an
iteration does what one step of `subItemFields` does on the bytes from the offset on, with no
panic and no overflow. -/
lemma getDataTypeInfoIter_eq (hlen : data.length < 2 ^ 62) {subItems i : ℕ} (hi : i < subItems)
    (hoff : offset < data.length) (fields : List StructField) :
    getDataTypeInfoIter data subItems (i, offset, fields) =
      pure (match subItemFields 1 (data.drop offset) with
        | [] => .inl fields
        | f :: _ => .inr (i + 1, offset + (uint32At data offset).toNat, fields ++ [f])) := by
  have h32 := UInt32.toNat_lt_size (uint32At data offset)
  simp only [UInt32.size] at h32
  have hd : data.drop offset ≠ [] := by simp only [ne_eq, List.drop_eq_nil_iff]; omega
  simp only [getDataTypeInfoIter, hi, hoff, and_self, not_true_eq_false, if_false, subItemFields,
    hd, List.length_drop, uint32At_drop, uint16At_drop, slice_drop, Nat.sub_lt_iff_lt_add hoff.le,
    ← Nat.add_assoc, goAdd_of_lt (show offset + 42 < 2 ^ 63 by omega), pure_bind]
  by_cases h42 : data.length < offset + 42
  · simp only [if_pos h42]
  simp only [if_neg h42, pure_bind, subItemHeader_eq hlen (show offset + 42 ≤ data.length by omega),
    subItemStrings_eq hlen hoff.le]
  by_cases hn : data.length < offset + 42 + (uint16At data (offset + 32)).toNat
  · simp only [if_pos hn]
  by_cases ht : data.length < offset + 42 + (uint16At data (offset + 32)).toNat + 1 +
      (uint16At data (offset + 34)).toNat
  · simp only [if_neg hn, if_pos ht]
  simp only [if_neg hn, if_neg ht, pure_bind, goAdd_of_lt (show offset + 4 < 2 ^ 63 by omega),
    goSlice_add_of_le (show offset + 4 ≤ data.length by omega),
    goUint32_slice (show offset + 4 = offset + 4 from rfl) (show offset + 4 ≤ data.length by omega),
    goAdd_of_lt (show offset + (uint32At data offset).toNat < 2 ^ 63 by omega)]

/-- From any state of the loop, a budget above the sub-items left runs the loop to its exit,
which appends the fields of `subItemFields` on the bytes from the offset on. -/
lemma runLoop_getDataTypeInfoIter_from (hlen : data.length < 2 ^ 62) (subItems : ℕ) :
    ∀ (fuel i offset : ℕ) (fields : List StructField), subItems - i < fuel →
      runLoop (getDataTypeInfoIter data subItems) fuel (i, offset, fields) =
        .exit (fields ++ subItemFields (subItems - i) (data.drop offset))
  | 0, _, _, _, hf => absurd hf (Nat.not_lt_zero _)
  | fuel + 1, i, offset, fields, hf => by
    by_cases hc : i < subItems ∧ offset < data.length
    · obtain ⟨hi, hoff⟩ := hc
      obtain ⟨k, hk⟩ : ∃ k, subItems - i = k + 1 := ⟨subItems - i - 1, by omega⟩
      rw [runLoop, getDataTypeInfoIter_eq hlen hi hoff, hk, subItemFields_succ k]
      cases subItemFields 1 (data.drop offset) with
      | nil => exact congrArg LoopEnd.exit (List.append_nil fields).symm
      | cons f _ =>
        dsimp only [pure, Except.pure]
        rw [runLoop_getDataTypeInfoIter_from hlen subItems fuel (i + 1) _ _ (by omega),
          show subItems - (i + 1) = k by omega, uint32At_drop, Nat.add_zero, List.drop_drop,
          List.append_assoc, List.singleton_append]
    · have hnil : subItemFields (subItems - i) (data.drop offset) = [] := by
        rcases Nat.lt_or_ge i subItems with hi | hi
        · obtain ⟨k, hk⟩ : ∃ k, subItems - i = k + 1 := ⟨subItems - i - 1, by omega⟩
          rw [hk, List.drop_eq_nil_of_le (by omega), subItemFields, if_pos rfl]
        · rw [Nat.sub_eq_zero_of_le hi, subItemFields]
      rw [hnil, runLoop, getDataTypeInfoIter, if_pos hc]
      exact congrArg LoopEnd.exit (List.append_nil fields).symm

/-- **`GetDataTypeInfo` is total.** On a reply shorter than `2^62` bytes `GetDataTypeInfo`
never panics or overflows, and its loop exits within `2^16` iterations, with what
`dataTypeInfoOfReply` computes.

**Proof sketch.** The part before the loop reads fixed offsets of a reply of at least 42 bytes.
The loop runs at most `subItems + 1 ≤ 2^16` iterations (`runLoop_getDataTypeInfoIter_from`). -/
theorem getDataTypeInfoParse_eq (hlen : data.length < 2 ^ 62) {fuel : ℕ} (hfuel : 2 ^ 16 ≤ fuel) :
    getDataTypeInfoParse fuel data = .exit (dataTypeInfoOfReply data) := by
  have hs := UInt16.toNat_lt_size (uint16At data 40)
  simp only [UInt16.size] at hs
  simp only [getDataTypeInfoParse, getDataTypeInfoHead_eq, dataTypeInfoOfReply,
    uint16_toNat_eq_zero]
  split_ifs
  · rfl
  · rfl
  · rfl
  · show LoopEnd.map some (runLoop _ fuel (0, _, [])) = _
    rw [runLoop_getDataTypeInfoIter_from hlen _ fuel 0 _ [] (by omega), Nat.sub_zero,
      List.nil_append]
    rfl

end DataTypeInfo

/-! ## Every reply the client decodes -/

/-- The data of a decoded `ReadWrite` response is shorter than `2^32` bytes: its length is the
response's 32-bit `length` field. -/
lemma length_data_of_decode {s t : List UInt8} {r : ReadWriteResponse}
    (h : ReadWriteResponse.decode.run s = some (r, t)) : r.data.length < 2 ^ 32 := by
  obtain ⟨_, _, -, h⟩ := exists_of_run_bind h
  obtain ⟨_, _, -, h⟩ := exists_of_run_bind h
  obtain ⟨_, _, -, h⟩ := exists_of_run_bind h
  obtain ⟨length, _, -, h⟩ := exists_of_run_bind h
  obtain ⟨_, _, hd, h⟩ := exists_of_run_bind h
  obtain ⟨rfl, -⟩ := run_pure_eq_some.mp h
  exact (eq_append_of_readN hd).1 ▸ UInt32.toNat_lt_size length

/-- **The metadata parsers are total.** For the data of every `ReadWrite` response the client
decodes, whatever its bytes, none of the three parsers panics or overflows: the loop of
`LoadSymbolTable` exits within `len(resp.Data) + 1` iterations with the entries of
`symbolTable`; `GetSymbol` returns `symbolOfReply`; the loop of `GetDataTypeInfo` exits within
`2^16` iterations with `dataTypeInfoOfReply`.

**Proof sketch.** The data is shorter than `2^32` bytes (`length_data_of_decode`), so every
offset stays far below `2^63`; then `runLoop_loadSymbolTableIter`, `getSymbolParse_eq` and
`getDataTypeInfoParse_eq`. -/
theorem metadata_parsers_total {s t : List UInt8} {r : ReadWriteResponse}
    (hr : ReadWriteResponse.decode.run s = some (r, t)) (name : List UInt8) :
    (∀ fuel, r.data.length < fuel →
      runLoop (loadSymbolTableIter r.data) fuel (0, []) = .exit (symbolTable r.data)) ∧
    getSymbolParse name r.data = pure (symbolOfReply name r.data) ∧
    ∀ fuel, 2 ^ 16 ≤ fuel →
      getDataTypeInfoParse fuel r.data = .exit (dataTypeInfoOfReply r.data) := by
  have hlen : r.data.length < 2 ^ 62 := by have := length_data_of_decode hr; omega
  exact ⟨fun _ hf => runLoop_loadSymbolTableIter hlen hf, getSymbolParse_eq name r.data,
    fun _ hf => getDataTypeInfoParse_eq hlen hf⟩

/-- A `ReadWrite` response with zeroed headers and result, carrying `data`. -/
def zeroHeaderReply (data : List UInt8) : ReadWriteResponse :=
  { tcpHeader := ⟨0, 0⟩
    amsHeader := ⟨⟨⟨List.replicate 6 0, rfl⟩, 0⟩, ⟨⟨List.replicate 6 0, rfl⟩, 0⟩, 0, 0, 0, 0, 0⟩
    result := 0, length := UInt32.ofNat data.length, data }

theorem metadata_parsers_total_short_reply :
    ReadWriteResponse.decode.run (List.replicate 42 0 ++ [3, 0, 0, 0, 1, 2, 3]) =
        some (zeroHeaderReply [1, 2, 3], []) ∧
      (∀ fuel, (zeroHeaderReply [1, 2, 3]).data.length < fuel →
        runLoop (loadSymbolTableIter (zeroHeaderReply [1, 2, 3]).data) fuel (0, []) =
          .exit (symbolTable (zeroHeaderReply [1, 2, 3]).data)) ∧
      getSymbolParse [120] (zeroHeaderReply [1, 2, 3]).data =
        pure (symbolOfReply [120] (zeroHeaderReply [1, 2, 3]).data) ∧
      ∀ fuel, 2 ^ 16 ≤ fuel → getDataTypeInfoParse fuel (zeroHeaderReply [1, 2, 3]).data =
        .exit (dataTypeInfoOfReply (zeroHeaderReply [1, 2, 3]).data) :=
  ⟨by decide, @metadata_parsers_total (List.replicate 42 0 ++ [3, 0, 0, 0, 1, 2, 3]) []
    (zeroHeaderReply [1, 2, 3]) (by decide) [120]⟩

end Goads.Session
