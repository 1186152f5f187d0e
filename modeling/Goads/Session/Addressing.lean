import Goads.Session.Handles

/-!
# The address `Subscribe` asks for

`NotificationManager.Subscribe(n)` requests notifications on the index group, the index offset
and the size of the registry entry of `n`, read after `getOrCreateHandle`. Only
`LoadSymbolTable` stores an entry that has all three: the entry `GetSymbol` caches has the size
but index group and offset `0`, and the one `getOrCreateHandle` caches when there is none holds
only the name and the handle.

## Main definitions

* `Goads.Session.SymbolInfo.address` — index group, index offset and size.
* `Goads.Session.Extends` — what every operation but `LoadSymbolTable` does to the cache.
* `Goads.Session.Addressed` — the entry of a name holds a given address.

## Main results

* `Goads.Session.subscribe_sends_loaded_address` — once `LoadSymbolTable` has stored the
  upload's entry for `n`, every `Subscribe(n)` that reaches its request asks for that entry's
  address, whatever operations ran before and in between.
* `Goads.Session.subscribe_unloaded_address` — without `LoadSymbolTable`, `Subscribe` asks for
  index group and offset `0`.
-/

namespace Goads.Session

open Ams

/-- The address a notification is requested for: index group, index offset and size. -/
def SymbolInfo.address (i : SymbolInfo) : UInt32 × UInt32 × UInt32 :=
  (i.indexGroup, i.indexOffset, i.size)

section Registry

variable {reg : List (List UInt8 × ℕ)} {m n : List UInt8} {p : ℕ}

lemma lookup_filter_ne (h : m ≠ n) : (reg.filter (·.1 != n)).lookup m = reg.lookup m := by
  induction reg with
  | nil => rfl
  | cons e reg ih =>
    obtain ⟨k, v⟩ := e
    by_cases hk : k = n
    · subst hk
      simp [List.filter, List.lookup_cons, ih, beq_false_of_ne h]
    · simp [List.filter_cons, hk, List.lookup_cons, ih]

/-- Setting one name leaves the entry of every other name. -/
lemma lookup_setEntry_ne (h : m ≠ n) : (setEntry reg n p).lookup m = reg.lookup m := by
  simp [setEntry, List.lookup_cons, beq_false_of_ne h, lookup_filter_ne h]

end Registry

/-- Rewriting the `SymbolInfo` at `q` with one of the same address keeps every address. -/
lemma address_getD_set {s : State} {q : ℕ} {x : SymbolInfo}
    (hx : x.address = (s.deref q).address) (p : ℕ) :
    ((s.heap.set q x).getD p { name := [] }).address = (s.deref p).address := by
  rcases eq_or_ne p q with rfl | hpq
  · by_cases hq : p < s.heap.length
    · simp [List.getD_eq_getElem?_getD, hq, hx]
    · rw [List.set_eq_of_length_le (by omega)]
      rfl
  · simp [State.deref, List.getD_eq_getElem?_getD, List.getElem?_set_ne hpq.symm]

/-! ## The operations that keep every address -/

/-- Every registry entry points into the heap. -/
def State.Valid (s : State) : Prop := ∀ e ∈ s.registry, e.2 < s.heap.length

lemma valid_init : init.Valid := by simp [State.Valid, init]

/-- What every operation but `LoadSymbolTable` does to the cache: no name loses its entry or is
pointed elsewhere, the heap only grows, no `SymbolInfo` changes its address, and a registry that
points into the heap still does. -/
structure Extends (s s' : State) : Prop where
  get : ∀ n p, s.get n = some p → s'.get n = some p
  length : s.heap.length ≤ s'.heap.length
  address : ∀ p < s.heap.length, (s'.deref p).address = (s.deref p).address
  valid : s.Valid → s'.Valid

namespace Extends

variable {s s' s'' t : State}

lemma refl (s : State) : Extends s s := ⟨fun _ _ => id, le_rfl, fun _ _ => rfl, id⟩

lemma trans (h₁ : Extends s s') (h₂ : Extends s' s'') : Extends s s'' :=
  ⟨fun n p h => h₂.get n p (h₁.get n p h), h₁.length.trans h₂.length,
    fun p hp => (h₂.address p (lt_of_lt_of_le hp h₁.length)).trans (h₁.address p hp),
    fun h => h₂.valid (h₁.valid h)⟩

/-- A step that touches neither the heap nor the registry. -/
lemma of_eq (hh : t.heap = s.heap) (hr : t.registry = s.registry) : Extends s t :=
  ⟨fun n p h => by rwa [State.get, hr], hh ▸ le_rfl, fun p _ => by rw [State.deref, hh]; rfl,
    fun hv e he => by rw [hh]; exact hv e (hr ▸ he)⟩

/-- `State.store` under a name with no entry. -/
lemma store {n : List UInt8} {info : SymbolInfo} (hn : s.get n = none)
    (hh : t.heap = s.heap ++ [info]) (hr : t.registry = setEntry s.registry n s.heap.length) :
    Extends s t where
  get m p h := by
    have hm : m ≠ n := by
      rintro rfl
      simp [hn] at h
    rwa [State.get, hr, lookup_setEntry_ne hm]
  length := by simp [hh]
  address p hp := by
    rw [State.deref, hh, List.getD_append _ _ _ _ hp]
    rfl
  valid hv e he := by
    rw [hr] at he
    rw [hh, List.length_append, List.length_singleton]
    rcases mem_setEntry.mp he with rfl | ⟨he, -⟩
    · exact Nat.lt_succ_self _
    · exact Nat.lt_succ_of_lt (hv e he)

/-- Rewriting, in place, the entry a name points to, with the same address. -/
lemma update {n : List UInt8} {p : ℕ} {x : SymbolInfo} (hp : s.get n = some p)
    (hh : t.heap = s.heap.set p x) (hr : t.registry = setEntry s.registry n p)
    (hx : x.address = (s.deref p).address) : Extends s t where
  get m q h := by
    rw [State.get, hr]
    by_cases hm : m = n
    · subst hm
      obtain rfl : q = p := Option.some.inj (h.symm.trans hp)
      exact lookup_setEntry
    · rwa [lookup_setEntry_ne hm]
  length := by simp [hh]
  address q _ := by
    rw [State.deref, hh]
    exact address_getD_set hx q
  valid hv e he := by
    rw [hr] at he
    rw [hh, List.length_set]
    rcases mem_setEntry.mp he with rfl | ⟨he, -⟩
    · exact hv _ (mem_of_lookup hp)
    · exact hv e he

end Extends

section Operations

variable {plc : Plc} {s : State} {n : List UInt8}

lemma extends_getSymbol : Extends s (getSymbol plc n s).2 := by
  unfold getSymbol
  split
  · exact .refl s
  · split
    · exact .of_eq rfl rfl
    · exact .store ‹_› rfl rfl

lemma extends_fetch : Extends s (getOrCreateHandle.fetch plc n s).2 := by
  unfold getOrCreateHandle.fetch
  dsimp only
  split
  · exact .of_eq rfl rfl
  · split
    · rename_i p hp
      have hp : s.get n = some p := hp
      exact .update hp rfl rfl rfl
    · rename_i hn
      have hn : s.get n = none := hn
      exact .store hn rfl rfl

lemma extends_getOrCreateHandle : Extends s (getOrCreateHandle plc n s).2 := by
  unfold getOrCreateHandle
  split
  · split
    · exact .refl s
    · exact extends_fetch
  · exact extends_fetch

lemma extends_read : Extends s (read plc n s).2 := by
  unfold read
  have h₁ : Extends s (getSymbol plc n s).2 := extends_getSymbol
  split
  · rename_i s' heq
    rwa [heq] at h₁
  · rename_i p s' heq
    rw [heq] at h₁
    have h₂ : Extends s (getOrCreateHandle plc n s').2 := h₁.trans extends_getOrCreateHandle
    split
    · rename_i s'' heq'
      rwa [heq'] at h₂
    · rename_i hd s'' heq'
      rw [heq'] at h₂
      exact h₂.trans (.of_eq rfl rfl)

lemma extends_write (data : List UInt8) : Extends s (write plc n data s).2 := by
  unfold write
  have h₁ : Extends s (getOrCreateHandle plc n s).2 := extends_getOrCreateHandle
  split <;> rename_i heq <;> rw [heq] at h₁
  · exact h₁
  · exact h₁.trans (.of_eq rfl rfl)

lemma extends_subscribe : Extends s (subscribe plc n s).2 := by
  unfold subscribe
  have h₁ : Extends s (getOrCreateHandle plc n s).2 := extends_getOrCreateHandle
  split <;> rename_i heq <;> rw [heq] at h₁
  · exact h₁
  · split
    · exact h₁
    · exact h₁.trans (.of_eq rfl rfl)

lemma extends_loadFields {p : ℕ} (hp : s.get n = some p) : Extends s (loadFields plc n p s).2 := by
  unfold loadFields
  dsimp only
  split
  · split
    · exact .of_eq rfl rfl
    · exact .update hp rfl rfl rfl
  · exact .refl s

lemma extends_writeNestedField (path : List (List UInt8)) (data : List UInt8) :
    Extends s (writeNestedField plc n path data s).2 :=
  writeNestedField_preserves (Extends s) (fun _ h => h.trans extends_getSymbol)
    (fun _ _ _ h => h.trans extends_getOrCreateHandle) (fun _ _ _ h => h.trans (.of_eq rfl rfl))
    (fun _ _ _ h => h.trans (.of_eq rfl rfl)) (fun _ _ hp h => h.trans (extends_loadFields hp))
    (.refl s) path data

end Operations

/-! ## The address of a name -/

/-- The registry entry of `n` holds address `a`. -/
def Addressed (n : List UInt8) (a : UInt32 × UInt32 × UInt32) (s : State) : Prop :=
  ∃ p, s.get n = some p ∧ p < s.heap.length ∧ (s.deref p).address = a

section Addressed

variable {plc : Plc} {s s' : State} {n m : List UInt8} {a : UInt32 × UInt32 × UInt32}

lemma Addressed.mono (h : Addressed n a s) (he : Extends s s') : Addressed n a s' := by
  obtain ⟨p, hg, hl, ha⟩ := h
  exact ⟨p, he.get n p hg, lt_of_lt_of_le hl he.length, (he.address p hl).trans ha⟩

lemma Addressed.store_ne {info : SymbolInfo} (h : Addressed n a s) (hm : m ≠ n) :
    Addressed n a (s.store m info) := by
  obtain ⟨p, hg, hl, ha⟩ := h
  refine ⟨p, ?_, by simp [State.store]; omega, by rw [State.deref_store_of_lt hl, ha]⟩
  simpa only [State.get, State.store, lookup_setEntry_ne hm.symm] using hg

lemma addressed_store_self {info : SymbolInfo} (ha : info.address = a) :
    Addressed n a (s.store n info) :=
  ⟨s.heap.length, lookup_setEntry, by simp [State.store], by rw [State.deref_store_self, ha]⟩

/-- The loop of `LoadSymbolTable` stores the entries in order; when every entry named `n` has
address `a`, the entry of `n` has it afterwards if it had it before or one of them is named
`n`. -/
lemma addressed_foldl_store {l : List SymbolInfo} (hall : ∀ i ∈ l, SymbolInfo.name i = n → i.address = a) :
    ∀ {t : State}, (Addressed n a t ∨ ∃ i ∈ l, i.name = n) →
      Addressed n a (l.foldl (fun s info => s.store info.name info) t) := by
  induction l with
  | nil =>
    rintro t (h | ⟨_, h, -⟩)
    · exact h
    · cases h
  | cons i l ih =>
    intro t h
    apply ih fun j hj => hall j (.tail _ hj)
    by_cases hi : i.name = n
    · exact .inl (hi ▸ addressed_store_self (hall i (.head _) hi))
    · rcases h with h | ⟨j, hj, hjn⟩
      · exact .inl (h.store_ne hi)
      · rcases List.mem_cons.mp hj with rfl | hj
        · exact absurd hjn hi
        · exact .inr ⟨j, hj, hjn⟩

/-- The symbol table's entries named `n` all have address `a`. -/
def UploadAddresses (plc : Plc) (n : List UInt8) (a : UInt32 × UInt32 × UInt32) : Prop :=
  ∀ i ∈ symbolTable plc.upload, i.name = n → i.address = a

lemma addressed_loadSymbolTable (hall : UploadAddresses plc n a)
    (h : Addressed n a s ∨ (¬(24 ≤ plc.uploadInfo.length ∧ uint32At plc.uploadInfo 0 = 0) ∧
      ∃ i ∈ symbolTable plc.upload, i.name = n)) :
    Addressed n a (loadSymbolTable plc s) := by
  unfold loadSymbolTable
  dsimp only
  split_ifs with hz
  · rcases h with h | ⟨hz', -⟩
    · exact h.mono (.of_eq rfl rfl)
    · exact absurd hz hz'
  · apply addressed_foldl_store hall
    rcases h with h | ⟨-, hi⟩
    · exact .inl (h.mono (.of_eq rfl rfl))
    · exact .inr hi

lemma addressed_apply (hall : UploadAddresses plc n a) (h : Addressed n a s) (op : Op) :
    Addressed n a (op.apply plc s) := by
  cases op with
  | loadSymbolTable => exact addressed_loadSymbolTable hall (.inl h)
  | getSymbol m => exact h.mono extends_getSymbol
  | read m => exact h.mono extends_read
  | write m d => exact h.mono (extends_write d)
  | writeNestedField m path d => exact h.mono (extends_writeNestedField path d)
  | subscribe m => exact h.mono extends_subscribe

lemma addressed_runOps (hall : UploadAddresses plc n a) :
    ∀ (ops : List Op) {s : State}, Addressed n a s → Addressed n a (runOps plc ops s)
  | [], _, h => h
  | op :: ops, _, h => addressed_runOps hall ops (addressed_apply hall h op)

/-- A `Subscribe(n)` that gets past `getOrCreateHandle` and the registry lookup sends, last, the
`AddDeviceNotification` request for the address of `n`'s entry. -/
lemma subscribe_sent (h : Addressed n a s) (hs : (subscribe plc n s).1 = some ()) :
    (subscribe plc n s).2.sent.getLast? = some (.addDeviceNotification a.1 a.2.1 a.2.2) := by
  obtain ⟨p, hg, -, rfl⟩ : Addressed n a (getOrCreateHandle plc n s).2 :=
    h.mono extends_getOrCreateHandle
  unfold subscribe at hs ⊢
  generalize getOrCreateHandle plc n s = q at hg hs ⊢
  obtain ⟨_ | _, s'⟩ := q
  · cases hs
  · simp [hg, State.send, SymbolInfo.address]

end Addressed

/-- **`Subscribe` after `LoadSymbolTable`.** Let the upload info not report zero symbols, and the
uploaded symbol table hold an entry for `n`, every entry for `n` having address `a`. Then after
any operations, `LoadSymbolTable`, and any operations again, a `Subscribe(n)` that reaches its
request asks for notifications on `a`.

**Proof sketch.** `LoadSymbolTable` stores `n`'s entry with address `a`
(`addressed_loadSymbolTable`). Every other operation keeps every address (`Extends`), and a
later `LoadSymbolTable` stores the same entries again, so `Addressed n a` holds up to the
`Subscribe`, which sends the address of the entry it finds (`subscribe_sent`). -/
theorem subscribe_sends_loaded_address {plc : Plc} {n : List UInt8}
    {a : UInt32 × UInt32 × UInt32}
    (hinfo : ¬(24 ≤ plc.uploadInfo.length ∧ uint32At plc.uploadInfo 0 = 0))
    (hmem : ∃ i ∈ symbolTable plc.upload, i.name = n) (hall : UploadAddresses plc n a)
    (pre post : List Op)
    (hs : (subscribe plc n (runOps plc (pre ++ .loadSymbolTable :: post) init)).1 = some ()) :
    (subscribe plc n (runOps plc (pre ++ .loadSymbolTable :: post) init)).2.sent.getLast? =
      some (.addDeviceNotification a.1 a.2.1 a.2.2) := by
  have hrun : runOps plc (pre ++ .loadSymbolTable :: post) init =
      runOps plc post (loadSymbolTable plc (runOps plc pre init)) := by
    simp only [runOps, List.foldl_append, List.foldl_cons]
    rfl
  rw [hrun] at hs ⊢
  exact subscribe_sent (addressed_runOps hall post
    (addressed_loadSymbolTable hall (.inr ⟨hinfo, hmem⟩))) hs

/-- The PLC of the scenarios: `x` (the byte `120`) is an `INT` (`[73, 78, 84]`) of two bytes at
index group `0x4040`, index offset `0x10`, in `GetSymbol`'s reply and in the symbol table. -/
def addressingPlc : Plc :=
  { symbol := fun n => if n = [120] then some ⟨[120], [73, 78, 84], 2⟩ else none
    handle := fun k _ => some (UInt32.ofNat (1000 + k))
    uploadInfo := putUint32 1 ++ List.replicate 20 0
    upload := SymbolEntry.encode ⟨0x4040, 0x10, 2, 2, 0, [120], [73, 78, 84], []⟩
    dataTypeInfo := fun _ => none
    read := fun _ n => List.replicate n.toNat 0 }

theorem subscribe_sends_loaded_address_scenario :
    (subscribe addressingPlc [120]
        (runOps addressingPlc ([.write [120] [1, 0]] ++ .loadSymbolTable :: [.getSymbol [120]])
          init)).2.sent.getLast? =
      some (.addDeviceNotification 0x4040 0x10 2) :=
  @subscribe_sends_loaded_address addressingPlc [120] (0x4040, 0x10, 2) (by decide) ⟨_, List.mem_singleton_self _, rfl⟩
    (fun i hi _ => (show ∀ i ∈ symbolTable addressingPlc.upload, i.address = (0x4040, 0x10, 2)
      by decide) i hi) _ _ (by decide)

/-- **`Subscribe` without `LoadSymbolTable`.** Against `addressingPlc`, whose symbol table gives
`x` index group `0x4040`, index offset `0x10` and size `2`: on a new session `Subscribe(x)` asks
for notifications on index group `0`, index offset `0` and `0` bytes, the fields of the
handle-only entry `getOrCreateHandle` caches; after `GetSymbol(x)` it asks for the right size
but still index group and offset `0`. -/
theorem subscribe_unloaded_address :
    (symbolTable addressingPlc.upload).map SymbolInfo.address = [(0x4040, 0x10, 2)] ∧
      (subscribe addressingPlc [120] (runOps addressingPlc [] init)).2.sent.getLast? =
        some (.addDeviceNotification 0 0 0) ∧
      (subscribe addressingPlc [120] (runOps addressingPlc [.getSymbol [120]] init)).2.sent.getLast? =
        some (.addDeviceNotification 0 0 2) := by
  decide

end Goads.Session
