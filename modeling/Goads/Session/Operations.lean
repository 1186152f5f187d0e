import Goads.Session.SymbolTable

/-!
# The session's symbol cache

`Session` keeps a `SymbolRegistry` from symbol names to `*SymbolInfo`: the metadata `GetSymbol`
fetches with `SYM_INFOBYNAMEEX`, the entries `LoadSymbolTable` uploads, and the handles
`getOrCreateHandle` gets with `GetSymHandleByName`, which `Close` releases. `Read`, `Write`,
`WriteNestedField` and `NotificationManager.Subscribe` go through the cache.

## Main definitions

* `Goads.Session.State` — the `SymbolInfo`s allocated so far (the heap the registry points
  into), the registry, the requests sent, and a ghost log `acquired` of every handle obtained.
* `Goads.Session.Plc` — the PLC's replies.
* `Goads.Session.getSymbol`, `Goads.Session.getOrCreateHandle`, `Goads.Session.read`,
  `Goads.Session.write`, `Goads.Session.writeNestedField`, `Goads.Session.subscribe`,
  `Goads.Session.loadSymbolTable`, `Goads.Session.close`.

## Main results

* `Goads.Session.read_serves_placeholder` — after `Write(n)`, `Read(n)` serves the handle-only
  entry as `n`'s metadata and reads `0` bytes.

## Design

The registry maps a name to the address of a `SymbolInfo` in `heap`, since `getOrCreateHandle`
and `WriteNestedField` update the `SymbolInfo` that `GetSymbol` returned in place. Operations
run one after another. An operation that fails returns `none` and keeps what it did before the
failure. The client's own parsing of the replies to `SYM_INFOBYNAMEEX`, `GetSymHandleByName`
and the data type upload is taken as the PLC's reply. `Close` walks the registry in its
list order; Go's map order is unspecified, and which handles are released does not depend on
it.
-/

namespace Goads.Session

open Ams

/-- `Symbol`, what `client.GetSymbol` returns (its `Fields` is never filled in). -/
structure Symbol where
  name : List UInt8
  dataType : List UInt8
  size : UInt32
  deriving DecidableEq, Repr

/-- The PLC, through the replies the session gets. -/
structure Plc where
  /-- `client.GetSymbol(name)`, or an error. -/
  symbol : List UInt8 → Option Symbol
  /-- The reply to the `k`-th `GetSymHandleByName`, for a name: the handle, or an error. -/
  handle : ℕ → List UInt8 → Option UInt32
  /-- The data of the `SYM_UPLOADINFO2` read. -/
  uploadInfo : List UInt8
  /-- The data of the `SYM_UPLOAD` read. -/
  upload : List UInt8
  /-- `client.GetDataTypeInfo(type)`, or an error. -/
  dataTypeInfo : List UInt8 → Option (List StructField)
  /-- The data a read by handle returns. -/
  read : UInt32 → UInt32 → List UInt8

/-- A request the session sends. -/
inductive Request
  /-- A `Read` of an index group and offset, for `length` bytes. -/
  | read (indexGroup indexOffset length : UInt32)
  /-- A `Write`. -/
  | write (indexGroup indexOffset : UInt32) (data : List UInt8)
  /-- `SYM_INFOBYNAMEEX` for a name (`client.GetSymbol`). -/
  | symbolInfo (name : List UInt8)
  /-- `GetSymHandleByName`. -/
  | symHandle (name : List UInt8)
  /-- The data type upload for a type name (`client.GetDataTypeInfo`). -/
  | dataTypeInfo (dataType : List UInt8)
  /-- `AddDeviceNotification` for an index group and offset, of `length` bytes. -/
  | addDeviceNotification (indexGroup indexOffset length : UInt32)
  deriving DecidableEq, Repr

/-- `SymbolRegistry.Set`: the name now points to `p`. -/
def setEntry (reg : List (List UInt8 × ℕ)) (name : List UInt8) (p : ℕ) : List (List UInt8 × ℕ) :=
  (name, p) :: reg.filter (·.1 != name)

/-- The session's cache. -/
structure State where
  /-- Every `SymbolInfo` allocated, by address. -/
  heap : List SymbolInfo
  /-- `SymbolRegistry.symbols`: name to address. -/
  registry : List (List UInt8 × ℕ)
  /-- How many `GetSymHandleByName` requests were sent. -/
  handleCalls : ℕ
  /-- Every request sent, in order. -/
  sent : List Request
  /-- Ghost: every handle obtained through `GetSymHandleByName`. -/
  acquired : List UInt32

/-- `NewSession`: an empty registry. -/
def init : State := ⟨[], [], 0, [], []⟩

/-- `SymbolRegistry.Get`: the address a name points to. -/
def State.get (s : State) (name : List UInt8) : Option ℕ := s.registry.lookup name

/-- The `SymbolInfo` at an address. -/
def State.deref (s : State) (p : ℕ) : SymbolInfo := s.heap.getD p { name := [] }

/-- Allocates a `SymbolInfo` and points `name` to it. -/
def State.store (s : State) (name : List UInt8) (info : SymbolInfo) : State :=
  { s with heap := s.heap ++ [info], registry := setEntry s.registry name s.heap.length }

/-- Sends a request. -/
def State.send (s : State) (r : Request) : State := { s with sent := s.sent ++ [r] }

section Operations

variable (plc : Plc)

/-- `Session.GetSymbol`: the cached entry, or the PLC's metadata cached under the name. -/
def getSymbol (name : List UInt8) (s : State) : Option ℕ × State :=
  match s.get name with
  | some p => (some p, s)
  | none =>
    let s := s.send (.symbolInfo name)
    match plc.symbol name with
    | none => (none, s)
    | some sym =>
      (some s.heap.length,
        s.store name { name := sym.name, dataType := sym.dataType, size := sym.size })

/-- `Session.getOrCreateHandle`: the cached nonzero handle, or a new one from the PLC, stored in
the cached entry or in a new entry that holds only the name and the handle. -/
def getOrCreateHandle (name : List UInt8) (s : State) : Option UInt32 × State :=
  match s.get name with
  | some p => if (s.deref p).handle ≠ 0 then (some (s.deref p).handle, s) else fetch
  | none => fetch
where
  /-- From `GetSymHandleByName` on. -/
  fetch : Option UInt32 × State :=
    let k := s.handleCalls
    let s := { s.send (.symHandle name) with handleCalls := k + 1 }
    match plc.handle k name with
    | none => (none, s)
    | some h =>
      let s := { s with acquired := s.acquired ++ [h] }
      match s.get name with
      | some p => (some h, { s with
          heap := s.heap.set p { s.deref p with handle := h }
          registry := setEntry s.registry name p })
      | none => (some h, s.store name { name, handle := h })

/-- `Session.Read`: metadata, then the handle, then a read of `info.Size` bytes by handle;
returns the data and the `SymbolInfo`. -/
def read (name : List UInt8) (s : State) : Option (List UInt8 × SymbolInfo) × State :=
  match getSymbol plc name s with
  | (none, s) => (none, s)
  | (some p, s) =>
    match getOrCreateHandle plc name s with
    | (none, s) => (none, s)
    | (some h, s) =>
      let info := s.deref p
      (some (plc.read h info.size, info), s.send (.read 0xF005 h info.size))

/-- `Session.Write`: the handle, then a write by handle. -/
def write (name data : List UInt8) (s : State) : Option Unit × State :=
  match getOrCreateHandle plc name s with
  | (none, s) => (none, s)
  | (some h, s) => (some (), s.send (.write 0xF005 h data))

/-- `FindFieldByPathWithOffset`: the field a path names, through the nested fields, and its
offset from the root. -/
def findFieldByPathWithOffset :
    List StructField → List (List UInt8) → UInt32 → Option (StructField × UInt32)
  | _, [], _ => none
  | fields, p :: path, baseOffset =>
    match fields.find? (·.name == p) with
    | none => none
    | some f =>
      if path = [] then some (f, baseOffset + f.offset)
      else findFieldByPathWithOffset f.fields path (baseOffset + f.offset)

/-- The block of `Session.WriteNestedField` that loads the struct's fields when the entry at `p`
has none, and stores them in it. -/
def loadFields (rootVar : List UInt8) (p : ℕ) (s : State) : Option (List StructField) × State :=
  let info := s.deref p
  if info.fields.isEmpty then
    let s := s.send (.dataTypeInfo info.dataType)
    match plc.dataTypeInfo info.dataType with
    | none => (none, s)
    | some fields =>
      (some fields,
        { s with heap := s.heap.set p { info with fields }, registry := setEntry s.registry rootVar p })
  else (some info.fields, s)

/-- `Session.WriteNestedField`: reads the struct by handle, finds the field, and writes the struct
back with the field replaced. -/
def writeNestedField (rootVar : List UInt8) (fieldPath : List (List UInt8))
    (fieldData : List UInt8) (s : State) : Option Unit × State :=
  match getSymbol plc rootVar s with
  | (none, s) => (none, s)
  | (some p, s) =>
    match getOrCreateHandle plc rootVar s with
    | (none, s) => (none, s)
    | (some h, s) =>
      let size := (s.deref p).size
      let data := plc.read h size
      match loadFields plc rootVar p (s.send (.read 0xF005 h size)) with
      | (none, s) => (none, s)
      | (some fields, s) =>
        match findFieldByPathWithOffset fields fieldPath 0 with
        | none => (none, s)
        | some (field, offset) =>
          let fieldEnd := offset.toNat + field.size.toNat
          if data.length < fieldEnd ∨ fieldData.length ≠ field.size.toNat then (none, s) else
          (some (), s.send (.write 0xF005 h (data.take offset.toNat ++ fieldData ++ data.drop fieldEnd)))

/-- The session part of `NotificationManager.Subscribe`: the handle, the registry entry, and
the `AddDeviceNotification` request for its index group, offset and size. -/
def subscribe (varName : List UInt8) (s : State) : Option Unit × State :=
  match getOrCreateHandle plc varName s with
  | (none, s) => (none, s)
  | (some _, s) =>
    match s.get varName with
    | none => (none, s)
    | some p =>
      let info := s.deref p
      (some (), s.send (.addDeviceNotification info.indexGroup info.indexOffset info.size))

/-- `Session.LoadSymbolTable`: the upload info, then, unless it reports no symbols, the upload,
each entry of which is stored under its name. -/
def loadSymbolTable (s : State) : State :=
  let s := s.send (.read 0xF00C 0 0x30)
  if 24 ≤ plc.uploadInfo.length ∧ uint32At plc.uploadInfo 0 = 0 then s else
  (symbolTable plc.upload).foldl (fun s info => s.store info.name info)
    (s.send (.read 0xF00B 0 0xFFFFFF))

end Operations

/-- The handles `Session.Close` releases: the nonzero handle of each registry entry. -/
def releasedHandles (s : State) : List UInt32 :=
  s.registry.filterMap fun e => if (s.deref e.2).handle ≠ 0 then some (s.deref e.2).handle else none

/-- `Session.Close`: one `ReleaseHandle` (a `Write` of `SYM_RELEASEHND`) per released handle. -/
def close (s : State) : State :=
  (releasedHandles s).foldl (fun s h => s.send (.write 0xF006 0 (putUint32 h))) s

/-! ## A handle-only entry served as metadata -/

/-- **`Read` after `Write` serves the handle-only entry.** The PLC reports `x` (the byte `120`) as
an `INT` (`[73, 78, 84]`) of two bytes. `Write(x)` caches a handle-only entry for `x`; `Read(x)`
finds it in the cache, so it sends a read of `0` bytes by handle and returns a `SymbolInfo` with
size `0` and an empty type. -/
theorem read_serves_placeholder :
    let plc : Plc :=
      { symbol := fun n => if n = [120] then some ⟨[120], [73, 78, 84], 2⟩ else none
        handle := fun k _ => some (UInt32.ofNat (1000 + k))
        uploadInfo := putUint32 0 ++ List.replicate 20 0
        upload := []
        dataTypeInfo := fun _ => some []
        read := fun _ n => List.replicate n.toNat 0 }
    let r := read plc [120] (write plc [120] [1, 0] init).2
    plc.symbol [120] = some ⟨[120], [73, 78, 84], 2⟩ ∧
      r.2.sent.getLast? = some (.read 0xF005 1000 0) ∧
      (r.1.map fun d => (d.2.size, d.2.dataType)) = some (0, []) := by
  decide

end Goads.Session
