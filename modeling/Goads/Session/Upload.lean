import Goads.Session.Addressing
import Goads.Session.Replies

/-!
# What `LoadSymbolTable` leaves in the registry

`LoadSymbolTable` stores one fresh `SymbolInfo` per entry of the uploaded table, under the
entry's name, in the order of the table; a later entry of the same name replaces an earlier one,
and a name with no entry keeps what it had. For an upload laid out entry after entry, the
`SymbolInfo` of each name is therefore built from the last entry of that name, with the entry's
comment cut at its first `0`.

## Main results

* `Goads.Session.loadSymbolTable_get` — the entry of every name after `LoadSymbolTable`: the
  last stored `SymbolInfo` of that name, or the one it had.
* `Goads.Session.loadSymbolTable_upload_exact` — for an upload laid out entry after entry, the
  registry after `LoadSymbolTable`, from any state the session reaches; and `GetSymbol` on a
  single entry.
* `Goads.Session.loadSymbolTable_cuts_comment` — a comment with a `0` inside is stored cut.
-/

namespace Goads.Session

open Ams

section Valid

variable {plc : Plc} {s : State}

lemma State.Valid.store {n : List UInt8} {info : SymbolInfo} (hv : s.Valid) :
    (s.store n info).Valid := by
  intro e he
  rcases mem_setEntry.mp he with rfl | ⟨he, -⟩
  · simp [State.store]
  · simpa [State.store] using Nat.lt_succ_of_lt (hv e he)

lemma State.Valid.foldl_store (l : List SymbolInfo) :
    ∀ {t : State}, t.Valid → (l.foldl (fun s info => s.store info.name info) t).Valid := by
  induction l with
  | nil => exact id
  | cons i l ih => exact fun hv => ih hv.store

lemma State.Valid.loadSymbolTable (hv : s.Valid) : (loadSymbolTable plc s).Valid := by
  unfold Goads.Session.loadSymbolTable
  dsimp only
  split_ifs
  · exact hv
  · exact State.Valid.foldl_store _ hv

lemma State.Valid.apply (hv : s.Valid) (op : Op) : (op.apply plc s).Valid := by
  cases op with
  | loadSymbolTable => exact hv.loadSymbolTable
  | getSymbol m => exact extends_getSymbol.valid hv
  | read m => exact extends_read.valid hv
  | write m d => exact (extends_write d).valid hv
  | writeNestedField m path d => exact (extends_writeNestedField path d).valid hv
  | subscribe m => exact extends_subscribe.valid hv

/-- Every state the session reaches has a registry that points into the heap. -/
lemma valid_runOps (plc : Plc) : ∀ (ops : List Op) {s : State}, s.Valid → (runOps plc ops s).Valid
  | [], _, hv => hv
  | op :: ops, _, hv => valid_runOps plc ops (hv.apply op)

end Valid

/-! ## The registry after the loop -/

/-- The `SymbolInfo` a name points to, if any. -/
def State.lookupInfo (s : State) (n : List UInt8) : Option SymbolInfo := (s.get n).map s.deref

lemma State.lookupInfo_store {s : State} (hv : s.Valid) (m n : List UInt8) (info : SymbolInfo) :
    (s.store m info).lookupInfo n = if m = n then some info else s.lookupInfo n := by
  split_ifs with h
  · subst h
    have hg : (s.store m info).get m = some s.heap.length := lookup_setEntry
    rw [State.lookupInfo, hg, Option.map_some', State.deref_store_self]
  · have hg : (s.store m info).get n = s.get n := lookup_setEntry_ne (Ne.symm h)
    rw [State.lookupInfo, State.lookupInfo, hg]
    cases hp : s.get n with
    | none => rfl
    | some p => exact congrArg some (State.deref_store_of_lt (hv _ (mem_of_lookup hp)))

/-- The loop of `LoadSymbolTable` leaves each name pointing to the last `SymbolInfo` of that name
it stored, or, if it stored none, to what it pointed to before. -/
lemma lookupInfo_foldl_store (n : List UInt8) (l : List SymbolInfo) :
    ∀ {t : State}, t.Valid →
      (l.foldl (fun s info => s.store info.name info) t).lookupInfo n =
        (l.filter (·.name == n)).getLast?.or (t.lookupInfo n) := by
  induction l using List.reverseRecOn with
  | nil => intro t _; rfl
  | append_singleton l i ih =>
    intro t hv
    rw [List.foldl_append, List.foldl_cons, List.foldl_nil,
      State.lookupInfo_store (State.Valid.foldl_store l hv), ih hv, List.filter_append]
    by_cases hi : i.name = n
    · simp [hi]
    · simp [hi]

/-- The entry of every name after `LoadSymbolTable`: if the upload info does not report zero
symbols, the last `SymbolInfo` the loop stored under the name, or else what the name had. -/
lemma loadSymbolTable_get {plc : Plc} {s : State} (hv : s.Valid)
    (hinfo : ¬(24 ≤ plc.uploadInfo.length ∧ uint32At plc.uploadInfo 0 = 0)) (n : List UInt8) :
    (loadSymbolTable plc s).lookupInfo n =
      ((symbolTable plc.upload).filter (·.name == n)).getLast?.or (s.lookupInfo n) := by
  unfold loadSymbolTable
  dsimp only
  rw [if_neg hinfo, lookupInfo_foldl_store n _ (show ((s.send _).send _).Valid from hv)]
  rfl

/-- **`LoadSymbolTable` stores the upload exactly.** Let the upload be a concatenation of
laid-out entries and the upload info not report zero symbols. From every state the session
reaches, `LoadSymbolTable` leaves each name that has an entry pointing to a `SymbolInfo` with the
name, data type, size, index group and index offset of the last entry of that name, and its
comment up to its first `0`; every other name keeps its `SymbolInfo`. `GetSymbol`, given one
such entry as its reply, returns the entry's size and data type.

**Proof sketch.** `symbolTable_flatMap_encode` parses the upload into the entries'
`SymbolInfo`s; `loadSymbolTable_get` stores them; reachable states are valid (`valid_runOps`);
`symbolOfReply_encode` is the second part. -/
theorem loadSymbolTable_upload_exact (xs : List UploadEntry) {plc : Plc}
    (hupload : plc.upload = xs.flatMap UploadEntry.encode)
    (hinfo : ¬(24 ≤ plc.uploadInfo.length ∧ uint32At plc.uploadInfo 0 = 0))
    (ops : List Op) (n : List UInt8) :
    (loadSymbolTable plc (runOps plc ops init)).lookupInfo n =
        ((xs.map UploadEntry.info).filter (·.name == n)).getLast?.or
          ((runOps plc ops init).lookupInfo n) ∧
      ∀ (x : UploadEntry) (name rest : List UInt8),
        symbolOfReply name (x.encode ++ rest) = some ⟨name, x.entry.dataType, x.entry.size⟩ := by
  refine ⟨?_, symbolOfReply_encode⟩
  rw [loadSymbolTable_get (valid_runOps plc ops valid_init) hinfo, hupload,
    symbolTable_flatMap_encode]

/-- The upload of one entry for `x` (the byte `120`), an `INT` (`[73, 78, 84]`) whose comment
`[65, 0, 66]` has a `0` inside. -/
def commentEntry : UploadEntry :=
  ⟨⟨0x4040, 0x10, 2, 2, 0, [120], [73, 78, 84], [65, 0, 66]⟩, [], by decide, by decide, by decide,
    by decide, by decide, by decide⟩

/-- A PLC whose symbol table is `commentEntry` alone, and whose upload info reports one symbol. -/
def commentPlc : Plc :=
  { symbol := fun _ => none, handle := fun _ _ => none
    uploadInfo := putUint32 1 ++ List.replicate 20 0, upload := [commentEntry].flatMap UploadEntry.encode
    dataTypeInfo := fun _ => none, read := fun _ _ => [] }

theorem loadSymbolTable_upload_exact_scenario :
    ¬(24 ≤ commentPlc.uploadInfo.length ∧ uint32At commentPlc.uploadInfo 0 = 0) ∧
      (loadSymbolTable commentPlc (runOps commentPlc [] init)).lookupInfo [120] =
        (([commentEntry].map UploadEntry.info).filter (·.name == [120])).getLast?.or
          ((runOps commentPlc [] init).lookupInfo [120]) :=
  ⟨by decide, (loadSymbolTable_upload_exact [commentEntry] rfl (by decide) [] [120]).1⟩

/-- **A comment with a `0` is cut.** The upload holds one entry for `x` whose comment is
`[65, 0, 66]`. `LoadSymbolTable` stores `[65]` as the comment of `x`: the loop takes the
comment through `nullTerminatedString`. -/
theorem loadSymbolTable_cuts_comment :
    commentPlc.upload = commentEntry.encode ∧ commentEntry.entry.comment = [65, 0, 66] ∧
      ((loadSymbolTable commentPlc init).lookupInfo [120]).map SymbolInfo.comment = some [65] := by
  decide

end Goads.Session
