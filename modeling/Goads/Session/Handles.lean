import Mathlib.Data.List.GetD
import Mathlib.Data.List.Nodup
import Goads.Session.Operations

/-!
# Symbol handles and `Close`

`getOrCreateHandle` obtains a handle with `GetSymHandleByName` and caches it in the registry
entry of the name; `Close` releases the nonzero handle of every registry entry. Whether every
handle the session obtained is released depends on which operations ran.

## Main definitions

* `Goads.Session.Op`, `Goads.Session.runOps` — a sequence of session operations.
* `Goads.Session.Inv` — every handle obtained is the handle of a registry entry.

## Main results

* `Goads.Session.close_releases_acquired` — in every sequence of `GetSymbol`, `Read`, `Write`,
  `WriteNestedField` and `Subscribe` calls, against a PLC that never hands out handle `0`,
  `Close` releases every handle obtained.
* `Goads.Session.loadSymbolTable_orphans_handle` — `LoadSymbolTable` replaces an entry that holds
  a handle, which `Close` then never releases.
-/

namespace Goads.Session

open Ams

/-- A session operation, as a caller issues it. -/
inductive Op
  | loadSymbolTable
  | getSymbol (name : List UInt8)
  | read (name : List UInt8)
  | write (name data : List UInt8)
  | writeNestedField (rootVar : List UInt8) (fieldPath : List (List UInt8)) (fieldData : List UInt8)
  | subscribe (varName : List UInt8)

/-- The state after an operation, whatever it returned. -/
def Op.apply (plc : Plc) : Op → State → State
  | .loadSymbolTable, s => Goads.Session.loadSymbolTable plc s
  | .getSymbol n, s => (Goads.Session.getSymbol plc n s).2
  | .read n, s => (Goads.Session.read plc n s).2
  | .write n d, s => (Goads.Session.write plc n d s).2
  | .writeNestedField n path d, s => (Goads.Session.writeNestedField plc n path d s).2
  | .subscribe n, s => (Goads.Session.subscribe plc n s).2

/-- The state after a sequence of operations. -/
def runOps (plc : Plc) (ops : List Op) (s : State) : State := ops.foldl (fun s op => op.apply plc s) s

/-! ## The registry -/

section Registry

variable {reg : List (List UInt8 × ℕ)} {n : List UInt8} {p : ℕ} {e : List UInt8 × ℕ}

lemma mem_of_lookup (h : reg.lookup n = some p) : (n, p) ∈ reg := by
  obtain ⟨l₁, l₂, rfl, -⟩ := List.lookup_eq_some_iff.mp h
  simp

lemma mem_setEntry : e ∈ setEntry reg n p ↔ e = (n, p) ∨ (e ∈ reg ∧ e.1 ≠ n) := by
  simp [setEntry]

lemma nodup_setEntry (h : (reg.map Prod.fst).Nodup) : ((setEntry reg n p).map Prod.fst).Nodup := by
  simp only [setEntry, List.map_cons, List.nodup_cons, List.mem_map, List.mem_filter,
    bne_iff_ne, ne_eq, not_exists, not_and]
  exact ⟨fun _ he => he.2, h.sublist ((List.filter_sublist _).map _)⟩

/-- An entry whose name is not the one set survives `setEntry`. -/
lemma mem_setEntry_of_ne (he : e ∈ reg) (hn : e.1 ≠ n) : e ∈ setEntry reg n p :=
  mem_setEntry.mpr (.inr ⟨he, hn⟩)

/-- Setting a name to the address it already has keeps every entry. -/
lemma mem_setEntry_of_lookup (hk : (reg.map Prod.fst).Nodup) (h : reg.lookup n = some p)
    (he : e ∈ reg) : e ∈ setEntry reg n p := by
  by_cases hn : e.1 = n
  · rw [List.inj_on_of_nodup_map hk he (mem_of_lookup h) hn]
    exact mem_setEntry.mpr (.inl rfl)
  · exact mem_setEntry_of_ne he hn

lemma lookup_setEntry : (setEntry reg n p).lookup n = some p := by
  simp [setEntry]

end Registry

@[simp] lemma State.send_heap (s : State) (r : Request) : (s.send r).heap = s.heap := rfl

@[simp] lemma State.send_registry (s : State) (r : Request) : (s.send r).registry = s.registry := rfl

@[simp] lemma State.send_acquired (s : State) (r : Request) : (s.send r).acquired = s.acquired := rfl

lemma State.deref_store_of_lt {s : State} {name : List UInt8} {info : SymbolInfo} {q : ℕ}
    (hq : q < s.heap.length) : (s.store name info).deref q = s.deref q :=
  List.getD_append _ _ _ _ hq

lemma State.deref_store_self (s : State) (name : List UInt8) (info : SymbolInfo) :
    (s.store name info).deref s.heap.length = info := by
  simp only [State.deref, State.store, List.getD_eq_getElem?_getD, List.getElem?_concat_length]
  rfl

/-! ## Every handle obtained stays in the registry -/

/-- Every handle obtained is nonzero and is the handle of a registry entry; entries point into the
heap, under distinct names. -/
structure Inv (s : State) : Prop where
  valid : ∀ e ∈ s.registry, e.2 < s.heap.length
  keys : (s.registry.map Prod.fst).Nodup
  held : ∀ h ∈ s.acquired, h ≠ 0 ∧ ∃ e ∈ s.registry, (s.deref e.2).handle = h

lemma inv_init : Inv init := ⟨by simp [init], by simp [init], by simp [init]⟩

section Preservation

variable {plc : Plc} {s : State} {n : List UInt8}

lemma inv_send (hi : Inv s) (r : Request) : Inv (s.send r) := ⟨hi.valid, hi.keys, hi.held⟩

/-- Storing under a name with no entry keeps every entry, and what each holds. -/
lemma held_store {info : SymbolInfo} {h : UInt32} (hv : ∀ e ∈ s.registry, e.2 < s.heap.length)
    (hn : s.get n = none) (hh : ∃ e ∈ s.registry, (s.deref e.2).handle = h) :
    ∃ e ∈ (s.store n info).registry, ((s.store n info).deref e.2).handle = h := by
  obtain ⟨e, he, rfl⟩ := hh
  have hne : e.1 ≠ n := fun heq => by
    simpa [heq] using List.lookup_eq_none_iff.mp hn e he
  exact ⟨e, mem_setEntry_of_ne he hne, by rw [State.deref_store_of_lt (hv e he)]⟩

lemma valid_store {info : SymbolInfo} (hv : ∀ e ∈ s.registry, e.2 < s.heap.length) :
    ∀ e ∈ (s.store n info).registry, e.2 < (s.store n info).heap.length := by
  intro e he
  rcases mem_setEntry.mp he with rfl | ⟨he, -⟩
  · simp [State.store]
  · simpa [State.store] using Nat.lt_succ_of_lt (hv e he)

lemma inv_store {info : SymbolInfo} (hi : Inv s) (hn : s.get n = none) : Inv (s.store n info) :=
  ⟨valid_store hi.valid, nodup_setEntry hi.keys,
    fun h hh => ⟨(hi.held h hh).1, held_store hi.valid hn (hi.held h hh).2⟩⟩

lemma inv_getSymbol (hi : Inv s) : Inv (getSymbol plc n s).2 := by
  unfold getSymbol
  split
  · exact hi
  · split
    · exact inv_send hi _
    · exact inv_store (inv_send hi _) ‹_›

lemma getSymbol_get {p : ℕ} (h : (getSymbol plc n s).1 = some p) :
    (getSymbol plc n s).2.get n = some p := by
  unfold getSymbol at h ⊢
  cases hg : s.get n with
  | some q => simp_all
  | none =>
    cases hs : plc.symbol n with
    | none => simp [hg, hs] at h
    | some sym =>
      simp only [hg, hs, Option.some.injEq] at h ⊢
      subst h
      exact lookup_setEntry

/-- `GetSymHandleByName` and what follows, from a state in which the name's entry, if any, holds
no handle. -/
lemma inv_fetch (hplc : ∀ k n h, plc.handle k n = some h → h ≠ 0) (hi : Inv s)
    (hz : ∀ p, s.get n = some p → (s.deref p).handle = 0) :
    Inv (getOrCreateHandle.fetch plc n s).2 := by
  unfold getOrCreateHandle.fetch
  dsimp only
  split
  · exact ⟨hi.valid, hi.keys, hi.held⟩
  · rename_i h hh
    have h0 := hplc _ _ _ hh
    split
    · rename_i p hp
      have hpv := hi.valid _ (mem_of_lookup hp)
      refine ⟨fun e he => ?_, nodup_setEntry hi.keys, fun h' hh' => ?_⟩
      · rcases mem_setEntry.mp he with rfl | ⟨he, -⟩
        · simpa using hpv
        · simpa using hi.valid e he
      · rcases List.mem_append.mp hh' with hh' | hh'
        · obtain ⟨hz', e, he, rfl⟩ := hi.held h' hh'
          have hne : p ≠ e.2 := fun hpe => hz' (hpe ▸ hz p hp)
          exact ⟨hz', e, mem_setEntry_of_lookup hi.keys hp he,
            by simp [State.deref, List.getElem?_set_ne hne]⟩
        · obtain rfl := List.mem_singleton.mp hh'
          exact ⟨h0, (n, p), mem_setEntry.mpr (.inl rfl), by simp [State.deref, hpv]⟩
    · rename_i hp
      refine ⟨valid_store hi.valid, nodup_setEntry hi.keys, fun h' hh' => ?_⟩
      rcases List.mem_append.mp hh' with hh' | hh'
      · exact ⟨(hi.held h' hh').1, held_store hi.valid hp (hi.held h' hh').2⟩
      · obtain rfl := List.mem_singleton.mp hh'
        exact ⟨h0, (n, _), mem_setEntry.mpr (.inl rfl), by rw [State.deref_store_self]⟩

lemma inv_getOrCreateHandle (hplc : ∀ k n h, plc.handle k n = some h → h ≠ 0) (hi : Inv s) :
    Inv (getOrCreateHandle plc n s).2 := by
  unfold getOrCreateHandle
  split
  · split
    · exact hi
    · exact inv_fetch hplc hi fun p hp => by simp_all
  · exact inv_fetch hplc hi fun p hp => by simp_all

lemma getOrCreateHandle_get {p : ℕ} (h : s.get n = some p) :
    (getOrCreateHandle plc n s).2.get n = some p := by
  have hf : (getOrCreateHandle.fetch plc n s).2.get n = some p := by
    unfold getOrCreateHandle.fetch
    dsimp only
    split
    · exact h
    · split
      · rename_i q hq
        obtain rfl : q = p := Option.some.inj (hq.symm.trans h)
        exact lookup_setEntry
      · rename_i hq
        cases hq.symm.trans h
  unfold getOrCreateHandle
  rw [h]
  dsimp only
  split
  · exact h
  · exact hf

lemma inv_read (hplc : ∀ k n h, plc.handle k n = some h → h ≠ 0) (hi : Inv s) :
    Inv (read plc n s).2 := by
  have h1 : Inv (getSymbol plc n s).2 := inv_getSymbol hi
  unfold read
  split
  · rename_i s' heq
    rwa [heq] at h1
  · rename_i p s' heq
    rw [heq] at h1
    have h2 : Inv (getOrCreateHandle plc n s').2 := inv_getOrCreateHandle hplc h1
    split
    · rename_i s'' heq'
      rwa [heq'] at h2
    · rename_i hd s'' heq'
      rw [heq'] at h2
      exact inv_send h2 _

lemma inv_write (hplc : ∀ k n h, plc.handle k n = some h → h ≠ 0) (hi : Inv s)
    (data : List UInt8) : Inv (write plc n data s).2 := by
  have h1 : Inv (getOrCreateHandle plc n s).2 := inv_getOrCreateHandle hplc hi
  unfold write
  split
  · rename_i s' heq
    rwa [heq] at h1
  · rename_i hd s' heq
    rw [heq] at h1
    exact inv_send h1 _

lemma inv_subscribe (hplc : ∀ k n h, plc.handle k n = some h → h ≠ 0) (hi : Inv s) :
    Inv (subscribe plc n s).2 := by
  have h1 : Inv (getOrCreateHandle plc n s).2 := inv_getOrCreateHandle hplc hi
  unfold subscribe
  split
  · rename_i s' heq
    rwa [heq] at h1
  · rename_i hd s' heq
    rw [heq] at h1
    split
    · exact h1
    · exact inv_send h1 _

/-- Loading the fields of the entry a name points to rewrites that entry in place and sets the
name to the address it already has: every entry, and every handle, stays. -/
lemma inv_loadFields {p : ℕ} (hi : Inv s) (hp : s.get n = some p) : Inv (loadFields plc n p s).2 := by
  have hpv := hi.valid _ (mem_of_lookup hp)
  unfold loadFields
  dsimp only
  split
  · split
    · exact inv_send hi _
    · refine ⟨fun e he => ?_, nodup_setEntry hi.keys, fun h hh => ?_⟩
      · rcases mem_setEntry.mp he with rfl | ⟨he, -⟩
        · simpa using hpv
        · simpa using hi.valid e he
      · obtain ⟨hz, e, he, rfl⟩ := hi.held h hh
        refine ⟨hz, e, mem_setEntry_of_lookup hi.keys hp he, ?_⟩
        by_cases hpe : p = e.2
        · subst hpe
          simp [State.deref, hpv]
        · simp [State.deref, List.getElem?_set_ne hpe]
  · exact hi

/-- Every property of states that `GetSymbol`, `getOrCreateHandle` on a name with an entry, a
read or a write by handle, and the loading of the fields into the entry the name points to keep,
`WriteNestedField` keeps. -/
lemma writeNestedField_preserves (P : State → Prop) (hsym : ∀ t, P t → P (getSymbol plc n t).2)
    (hhandle : ∀ t p, t.get n = some p → P t → P (getOrCreateHandle plc n t).2)
    (hread : ∀ t h size, P t → P (t.send (.read 0xF005 h size)))
    (hwrite : ∀ t h d, P t → P (t.send (.write 0xF005 h d)))
    (hload : ∀ t p, t.get n = some p → P t → P (loadFields plc n p t).2) (hs : P s)
    (path : List (List UInt8)) (data : List UInt8) : P (writeNestedField plc n path data s).2 := by
  have h1 := hsym s hs
  unfold writeNestedField
  split
  · rename_i s' heq
    rwa [heq] at h1
  · rename_i p s' heq
    have hg : s'.get n = some p := by
      have := getSymbol_get (show (getSymbol plc n s).1 = some p by rw [heq])
      rwa [heq] at this
    rw [heq] at h1
    have h2 := hhandle s' p hg h1
    have hg2 : (getOrCreateHandle plc n s').2.get n = some p := getOrCreateHandle_get hg
    split
    · rename_i s'' heq'
      rwa [heq'] at h2
    · rename_i hd s'' heq'
      rw [heq'] at h2 hg2
      dsimp only at h2 hg2 ⊢
      have h3 := hload (s''.send (.read 0xF005 hd (s''.deref p).size)) p hg2 (hread _ _ _ h2)
      split
      · rename_i s3 heq3
        rwa [heq3] at h3
      · rename_i fields s3 heq3
        rw [heq3] at h3
        split
        · exact h3
        · split
          · exact h3
          · exact hwrite _ _ _ h3

lemma inv_writeNestedField (hplc : ∀ k n h, plc.handle k n = some h → h ≠ 0) (hi : Inv s)
    (path : List (List UInt8)) (data : List UInt8) : Inv (writeNestedField plc n path data s).2 :=
  writeNestedField_preserves Inv (fun _ => inv_getSymbol) (fun _ _ _ => inv_getOrCreateHandle hplc)
    (fun _ _ _ h => inv_send h _) (fun _ _ _ h => inv_send h _) (fun _ _ hp h => inv_loadFields h hp)
    hi path data

/-- Every property of states that `GetSymbol`, `getOrCreateHandle`, the requests by handle and by
address, and the loading of a name's fields keep, every operation but `LoadSymbolTable` keeps. -/
lemma apply_preserves (P : State → Prop) (hsym : ∀ n t, P t → P (getSymbol plc n t).2)
    (hhandle : ∀ n t, P t → P (getOrCreateHandle plc n t).2)
    (hread : ∀ t h size, P t → P (t.send (.read 0xF005 h size)))
    (hwrite : ∀ t h d, P t → P (t.send (.write 0xF005 h d)))
    (hadd : ∀ t g o size, P t → P (t.send (.addDeviceNotification g o size)))
    (hload : ∀ n t p, t.get n = some p → P t → P (loadFields plc n p t).2)
    {op : Op} (hop : op ≠ .loadSymbolTable) (hs : P s) : P (op.apply plc s) := by
  cases op with
  | loadSymbolTable => exact absurd rfl hop
  | getSymbol n => exact hsym n s hs
  | read n =>
    have h₁ := hsym n s hs
    show P (read plc n s).2
    unfold read
    split <;> rename_i heq <;> rw [heq] at h₁
    · exact h₁
    · have h₂ := hhandle n _ h₁
      split <;> rename_i heq' <;> rw [heq'] at h₂
      · exact h₂
      · exact hread _ _ _ h₂
  | write n d =>
    have h₁ := hhandle n s hs
    show P (write plc n d s).2
    unfold write
    split <;> rename_i heq <;> rw [heq] at h₁
    · exact h₁
    · exact hwrite _ _ _ h₁
  | writeNestedField n path d =>
    exact writeNestedField_preserves P (hsym n) (fun t _ _ => hhandle n t) hread hwrite (hload n) hs
      path d
  | subscribe n =>
    have h₁ := hhandle n s hs
    show P (subscribe plc n s).2
    unfold subscribe
    split <;> rename_i heq <;> rw [heq] at h₁
    · exact h₁
    · split
      · exact h₁
      · exact hadd _ _ _ _ h₁

lemma inv_apply (hplc : ∀ k n h, plc.handle k n = some h → h ≠ 0) {op : Op}
    (hop : op ≠ .loadSymbolTable) (hi : Inv s) : Inv (op.apply plc s) := by
  cases op with
  | loadSymbolTable => exact absurd rfl hop
  | getSymbol n => exact inv_getSymbol hi
  | read n => exact inv_read hplc hi
  | write n d => exact inv_write hplc hi d
  | writeNestedField n path d => exact inv_writeNestedField hplc hi path d
  | subscribe n => exact inv_subscribe hplc hi

lemma inv_runOps (hplc : ∀ k n h, plc.handle k n = some h → h ≠ 0) :
    ∀ (ops : List Op) {s : State}, Op.loadSymbolTable ∉ ops → Inv s → Inv (runOps plc ops s)
  | [], _, _, hi => hi
  | _ :: ops, _, hops, hi =>
    inv_runOps hplc ops (fun h => hops (.tail _ h))
      (inv_apply hplc (fun h => hops (h ▸ .head _)) hi)

end Preservation

/-- **`Close` releases every handle obtained.** Against a PLC that never hands out handle `0`, in
every sequence of operations without `LoadSymbolTable`, every handle `getOrCreateHandle`
obtained is one `Close` releases.

**Proof sketch.** `Inv` holds initially and every operation but `LoadSymbolTable` keeps it
(`inv_apply`); its field `held` gives each handle's registry entry, which `releasedHandles`
visits. -/
theorem close_releases_acquired {plc : Plc} (hplc : ∀ k n h, plc.handle k n = some h → h ≠ 0)
    (ops : List Op) (hops : Op.loadSymbolTable ∉ ops) :
    ∀ h ∈ (runOps plc ops init).acquired, h ∈ releasedHandles (runOps plc ops init) := by
  intro h hh
  obtain ⟨hz, e, he, rfl⟩ := (inv_runOps hplc ops hops inv_init).held h hh
  exact List.mem_filterMap.mpr ⟨e, he, by simp [hz]⟩

/-- A PLC that hands out handle `7` to every name: `Write(x)` and `Subscribe(x)` obtain it once,
and `Close` releases it. -/
theorem close_releases_acquired_write_subscribe :
    let plc : Plc := ⟨fun _ => none, fun _ _ => some 7, [], [], fun _ => none,
      fun _ n => List.replicate n.toNat 0⟩
    let ops : List Op := [.write [120] [1, 0], .subscribe [120]]
    (∀ k n h, plc.handle k n = some h → h ≠ 0) ∧ Op.loadSymbolTable ∉ ops ∧
      (runOps plc ops init).acquired = [7] ∧
      ∀ h ∈ (runOps plc ops init).acquired, h ∈ releasedHandles (runOps plc ops init) :=
  have hplc : ∀ k n h, (some 7 : Option UInt32) = some h → h ≠ 0 := fun _ _ _ h => by
    cases h
    decide
  have hops : Op.loadSymbolTable ∉ [.write [120] [1, 0], .subscribe [120]] := by simp
  ⟨hplc, hops, by decide, close_releases_acquired hplc _ hops⟩

/-! ## A handle lost to `LoadSymbolTable` -/

/-- **`LoadSymbolTable` drops a cached handle.** The PLC reports `x` (the byte `120`) as an `INT`
(`[73, 78, 84]`) of two bytes. `Write(x)` gets handle `1000` for `x` and caches it in a
handle-only entry; `LoadSymbolTable` then uploads a table with an entry for `x` and stores a fresh
`SymbolInfo` under `x`, whose `Handle` is `0`. The handle is never released: `Close` releases
nothing. -/
theorem loadSymbolTable_orphans_handle :
    let plc : Plc :=
      { symbol := fun n => if n = [120] then some ⟨[120], [73, 78, 84], 2⟩ else none
        handle := fun k _ => some (UInt32.ofNat (1000 + k))
        uploadInfo := putUint32 1 ++ List.replicate 20 0
        upload := SymbolEntry.encode ⟨0x4040, 0, 2, 2, 8, [120], [73, 78, 84], []⟩
        dataTypeInfo := fun _ => some []
        read := fun _ _ => [] }
    let s := loadSymbolTable plc (write plc [120] [1, 0] init).2
    s.acquired = [1000] ∧ releasedHandles s = [] ∧ (s.deref 1).handle = 0 ∧ s.get [120] = some 1 := by
  decide

end Goads.Session
