import Goads.Session.Release

/-!
# The registry holds what the PLC answered

`Session` caches, for each name, a `SymbolInfo`: the metadata `GetSymbol` reported and the handle
`GetSymHandleByName` returned. This module follows where each cached entry came from, over every
sequence of operations, and draws two consequences.

The handle of every entry is one the PLC gave for the entry's name, or none. Every operation keeps
this, `Write`, `Subscribe` and `LoadSymbolTable` included. So `Read`, `Write` and
`WriteNestedField` address a name only by one of its own handles, never by a handle cached for
another name.

The metadata of every entry is what `Client.GetSymbol` reports for the name. `GetSymbol`, `Read`
and `WriteNestedField` keep this. `LoadSymbolTable` keeps it when the uploaded table agrees with
`GetSymbol`. `Write` and `Subscribe` do not, since they may cache a handle-only entry for a name
the registry lacks. While it holds, the cache is transparent: `Session.Read` answers as the
uncached `Client.ReadVariable`.

## Main definitions

* `Goads.Session.readVariable` — `Client.ReadVariable`.
* `Goads.Session.State.Holds` — every registry entry satisfies a predicate for its name.
* `Goads.Session.HandleFrom` — the entry's handle is one the PLC gave for the name, or none.
* `Goads.Session.Reported` — the entry holds what the PLC reports for the name.
* `Goads.Session.Stable` — what a predicate must allow of the entries the operations write.
* `Goads.Session.Op.keepsMetadata` — the operations other than `Write` and `Subscribe`.

## Main results

* `Goads.Session.requests_use_own_handle` — after every sequence of operations from a new
  session, when `Read(n)`, `Write(n, d)` or `WriteNestedField(n, …)` returns, its last request
  went by a handle that `GetSymHandleByName` returned for `n`.
* `Goads.Session.read_agrees_with_readVariable` — against a PLC whose handles for one name read
  the same variable, after every sequence of operations other than `Write` and `Subscribe`,
  whenever `Client.ReadVariable(n)` returns data and a symbol, `Session.Read(n)` returns the same
  data and the same metadata.

## Design

`State.Holds R` is carried with `Owned` (`Goads.Session.Release`), whose distinct addresses let an
update in place of one name's entry leave every other name's entry alone. The step lemmas are
stated once, for every `R` that is `Stable`; an operation that may cache a handle-only entry needs
in addition that `R` allows one. Both results then read off what `getOrCreateHandle` returns from
such a state.
-/

namespace Goads.Session

open Ams

/-- The metadata of a cached `SymbolInfo`, as `Client.GetSymbol` reports it. -/
def SymbolInfo.symbol (i : SymbolInfo) : Symbol := ⟨i.name, i.dataType, i.size⟩

/-- `Client.ReadVariable(name)`: `GetSymbol`, `GetSymHandleByName`, then a read by handle of the
symbol's size. The client caches nothing. -/
def readVariable (plc : Plc) (name : List UInt8) (s : State) :
    Option (List UInt8 × Symbol) × State :=
  let s := s.send (.symbolInfo name)
  match plc.symbol name with
  | none => (none, s)
  | some symbol =>
    let k := s.handleCalls
    let s := { s.send (.symHandle name) with handleCalls := k + 1 }
    match plc.handle k name with
    | none => (none, s)
    | some handle =>
      (some (plc.read handle symbol.size, symbol), s.send (.read 0xF005 handle symbol.size))

/-- The operations after which the registry still holds only what the PLC reports: all but
`Write` and `Subscribe`, whose `getOrCreateHandle` caches a handle-only entry for a name the
registry lacks. -/
def Op.keepsMetadata : Op → Bool
  | .write _ _ => false
  | .subscribe _ => false
  | _ => true

/-- The entry's handle is one `GetSymHandleByName` returned for `n`, or none. -/
def HandleFrom (plc : Plc) (n : List UInt8) (x : SymbolInfo) : Prop :=
  x.handle = 0 ∨ ∃ k, plc.handle k n = some x.handle

/-- What the PLC reports for `n`: the metadata `Client.GetSymbol` returns, and a handle
`GetSymHandleByName` returned for `n`, or none. -/
def Reported (plc : Plc) (n : List UInt8) (x : SymbolInfo) : Prop :=
  plc.symbol n = some x.symbol ∧ HandleFrom plc n x

/-- Every registry entry satisfies `R` for the name that points to it. -/
def State.Holds (R : List UInt8 → SymbolInfo → Prop) (s : State) : Prop :=
  ∀ n p, s.get n = some p → R n (s.deref p)

/-- What `R` must allow for the operations to keep `State.Holds R`: the metadata `GetSymbol`
caches, a handle the PLC gave for the name put into an entry, loaded fields put into an entry,
and the entries of the uploaded table. -/
structure Stable (plc : Plc) (R : List UInt8 → SymbolInfo → Prop) : Prop where
  symbol : ∀ n sym, plc.symbol n = some sym →
    R n { name := sym.name, dataType := sym.dataType, size := sym.size }
  handle : ∀ n x k h, R n x → plc.handle k n = some h → R n { x with handle := h }
  fields : ∀ n x fields, R n x → R n { x with fields }
  upload : ∀ i ∈ symbolTable plc.upload, R i.name i

lemma holds_init (R : List UInt8 → SymbolInfo → Prop) : init.Holds R := fun _ _ h => by
  simp [State.get, init] at h

lemma State.Holds.mono {R R' : List UInt8 → SymbolInfo → Prop} {s : State} (hf : s.Holds R)
    (hR : ∀ n x, R n x → R' n x) : s.Holds R' :=
  fun n p hg => hR n _ (hf n p hg)

/-- Every handle the PLC gives is one it gave: `HandleFrom` is stable, and allows handle-only
entries. -/
lemma stable_handleFrom (plc : Plc) : Stable plc (HandleFrom plc) where
  symbol _ _ _ := .inl rfl
  handle _ _ k _ _ hh := .inr ⟨k, hh⟩
  fields _ _ _ := id
  upload i hi := .inl (handle_of_mem_parseSymbolTable i hi)

/-- `Reported` is stable when the uploaded table agrees with `GetSymbol`. -/
lemma stable_reported {plc : Plc}
    (hup : ∀ i ∈ symbolTable plc.upload, plc.symbol i.name = some i.symbol) :
    Stable plc (Reported plc) where
  symbol _ _ hs := ⟨hs, .inl rfl⟩
  handle _ _ k _ hx hh := ⟨hx.1, .inr ⟨k, hh⟩⟩
  fields _ _ _ := id
  upload i hi := ⟨hup i hi, .inl (handle_of_mem_parseSymbolTable i hi)⟩

/-- What `Client.ReadVariable` saw when it returned. -/
lemma readVariable_eq_some {plc : Plc} {n : List UInt8} {s : State} {data : List UInt8}
    {sym : Symbol} (h : (readVariable plc n s).1 = some (data, sym)) :
    plc.symbol n = some sym ∧
      ∃ h₁, plc.handle s.handleCalls n = some h₁ ∧ data = plc.read h₁ sym.size := by
  unfold readVariable at h
  dsimp only at h
  split at h
  · cases h
  · rename_i sym' hs
    split at h
    · cases h
    · rename_i h₁ hh
      obtain ⟨rfl, rfl⟩ := Prod.mk.inj (Option.some.inj h)
      exact ⟨hs, h₁, hh, rfl⟩

section Steps

variable {plc : Plc} {R : List UInt8 → SymbolInfo → Prop} {s t : State} {n : List UInt8} {p : ℕ}

/-- Pointing `n` at `p` keeps `Holds R` when the entry at `p` satisfies `R` for `n` and every
other name's entry is unchanged. -/
lemma State.Holds.repoint (hf : s.Holds R) (hr : t.registry = setEntry s.registry n p)
    (hx : R n (t.deref p))
    (hother : ∀ m q, m ≠ n → s.get m = some q → t.deref q = s.deref q) : t.Holds R := by
  intro m q hq
  rw [State.get, hr] at hq
  by_cases hmn : m = n
  · subst hmn
    rw [lookup_setEntry] at hq
    obtain rfl := Option.some.inj hq
    exact hx
  · rw [lookup_setEntry_ne hmn] at hq
    rw [hother m q hmn hq]
    exact hf m q hq

lemma State.Holds.store (hf : s.Holds R) (ho : Owned s) {info : SymbolInfo}
    (hh : t.heap = s.heap ++ [info]) (hr : t.registry = setEntry s.registry n s.heap.length)
    (hx : R n info) : t.Holds R := by
  have hd : t.deref s.heap.length = info := by simp [State.deref, hh]
  refine hf.repoint hr (hd ▸ hx) fun m q _ hq => ?_
  rw [State.deref, State.deref, hh, List.getD_append _ _ _ _ (ho.valid _ (mem_of_lookup hq))]

lemma State.Holds.update (hf : s.Holds R) (ho : Owned s) (hg : s.get n = some p)
    {x : SymbolInfo} (hh : t.heap = s.heap.set p x) (hr : t.registry = setEntry s.registry n p)
    (hx : R n x) : t.Holds R := by
  have hd : t.deref p = x := by simp [State.deref, hh, ho.valid _ (mem_of_lookup hg)]
  refine hf.repoint hr (hd ▸ hx) fun m q hmn hq => ?_
  have hqp : q ≠ p := fun hqp => hmn (congrArg Prod.fst
    (List.inj_on_of_nodup_map ho.addrs (mem_of_lookup hq) (mem_of_lookup hg) hqp))
  simp [State.deref, hh, List.getElem?_set_ne hqp.symm]

lemma holds_foldl_store {l : List SymbolInfo} (hl : ∀ i ∈ l, R i.name i ∧ i.handle = 0) :
    ∀ {s : State}, Owned s → s.Holds R →
      (l.foldl (fun s info => s.store info.name info) s).Holds R := by
  induction l with
  | nil => exact fun _ hf => hf
  | cons i l ih =>
    intro s ho hf
    have hi := hl i (.head _)
    exact ih (fun j hj => hl j (.tail _ hj)) (ho.store rfl rfl (sub_zero ho hi.2 rfl))
      (hf.store ho rfl rfl hi.1)

section Stable

variable (hR : Stable plc R)
include hR

lemma holds_getSymbol (ho : Owned s) (hf : s.Holds R) : (getSymbol plc n s).2.Holds R := by
  unfold getSymbol
  split
  · exact hf
  · split
    · exact hf
    · rename_i sym hs
      exact hf.store ho rfl rfl (hR.symbol n sym hs)

/-- `GetSymHandleByName` and what follows: the handle goes into the entry of `n`, or into a new
handle-only entry when `n` has none. -/
lemma holds_fetch (ho : Owned s) (hf : s.Holds R)
    (hnew : s.get n = none → ∀ k h, plc.handle k n = some h → R n { name := n, handle := h }) :
    (getOrCreateHandle.fetch plc n s).2.Holds R := by
  unfold getOrCreateHandle.fetch
  dsimp only
  split
  · exact hf
  · rename_i h hh
    split
    · rename_i q hq
      exact hf.update ho hq rfl rfl (hR.handle n _ _ _ (hf n q hq) hh)
    · rename_i hq
      exact hf.store ho rfl rfl (hnew hq _ _ hh)

lemma holds_getOrCreateHandle (ho : Owned s) (hf : s.Holds R)
    (hnew : s.get n = none → ∀ k h, plc.handle k n = some h → R n { name := n, handle := h }) :
    (getOrCreateHandle plc n s).2.Holds R := by
  unfold getOrCreateHandle
  split
  · split
    · exact hf
    · exact holds_fetch hR ho hf hnew
  · exact holds_fetch hR ho hf hnew

lemma holds_loadFields (ho : Owned s) (hf : s.Holds R) (hg : s.get n = some p) :
    (loadFields plc n p s).2.Holds R := by
  unfold loadFields
  dsimp only
  split
  · split
    · exact hf
    · exact hf.update ho hg rfl rfl (hR.fields n _ _ (hf n p hg))
  · exact hf

lemma holds_loadSymbolTable (ho : Owned s) (hf : s.Holds R) : (loadSymbolTable plc s).Holds R := by
  unfold loadSymbolTable
  dsimp only
  split_ifs
  · exact hf
  · exact holds_foldl_store (fun i hi => ⟨hR.upload i hi, handle_of_mem_parseSymbolTable i hi⟩)
      (owned_send (owned_send ho _) _) hf

/-- The entry `GetSymbol` returns stays where `n` points, so `getOrCreateHandle` after it caches
no handle-only entry. -/
lemma holds_read (ho : Owned s) (hf : s.Holds R) : (read plc n s).2.Holds R := by
  have h₁ := holds_getSymbol (n := n) hR ho hf
  have ho₁ : Owned (getSymbol plc n s).2 := owned_getSymbol ho
  unfold read
  split
  · rename_i s' heq
    rwa [heq] at h₁
  · rename_i p s' heq
    have hg : s'.get n = some p := by
      have := getSymbol_get (show (getSymbol plc n s).1 = some p by rw [heq])
      rwa [heq] at this
    rw [heq] at h₁ ho₁
    have h₂ := holds_getOrCreateHandle hR ho₁ h₁ fun hn => absurd (hg.symm.trans hn) nofun
    split <;> rename_i heq' <;> rw [heq'] at h₂
    · exact h₂
    · exact h₂

lemma holds_writeNestedField (ho : Owned s) (hf : s.Holds R) (path : List (List UInt8))
    (data : List UInt8) : (writeNestedField plc n path data s).2.Holds R :=
  (writeNestedField_preserves (fun t => Owned t ∧ t.Holds R)
    (fun _ h => ⟨owned_getSymbol h.1, holds_getSymbol hR h.1 h.2⟩)
    (fun _ _ hg h => ⟨owned_getOrCreateHandle h.1,
      holds_getOrCreateHandle hR h.1 h.2 fun hn => absurd (hg.symm.trans hn) nofun⟩)
    (fun _ _ _ h => ⟨owned_send h.1 _, h.2⟩) (fun _ _ _ h => ⟨owned_send h.1 _, h.2⟩)
    (fun _ _ hg h => ⟨owned_loadFields h.1 hg, holds_loadFields hR h.1 h.2 hg⟩) ⟨ho, hf⟩
    path data).2

/-- Every operation keeps `Holds R`; `Write` and `Subscribe` need that `R` allows a handle-only
entry. -/
lemma holds_apply (ho : Owned s) (hf : s.Holds R) {op : Op}
    (hnew : op.keepsMetadata = false → ∀ n k h, plc.handle k n = some h →
      R n { name := n, handle := h }) :
    (op.apply plc s).Holds R := by
  cases op with
  | loadSymbolTable => exact holds_loadSymbolTable hR ho hf
  | getSymbol n => exact holds_getSymbol hR ho hf
  | read n => exact holds_read hR ho hf
  | write n d =>
    have h₁ := holds_getOrCreateHandle hR ho hf fun _ => hnew rfl n
    show (write plc n d s).2.Holds R
    unfold write
    split <;> rename_i heq <;> rw [heq] at h₁
    · exact h₁
    · exact h₁
  | writeNestedField n path d => exact holds_writeNestedField hR ho hf path d
  | subscribe n =>
    have h₁ := holds_getOrCreateHandle hR ho hf fun _ => hnew rfl n
    show (subscribe plc n s).2.Holds R
    unfold subscribe
    split <;> rename_i heq <;> rw [heq] at h₁
    · exact h₁
    · split <;> exact h₁

end Stable

lemma holds_runOps {ops : List Op}
    (hstep : ∀ op ∈ ops, ∀ s : State, Owned s → s.Holds R → (op.apply plc s).Holds R) :
    ∀ {s : State}, Owned s → s.Holds R → (runOps plc ops s).Holds R := by
  induction ops with
  | nil => exact fun _ hf => hf
  | cons op ops ih =>
    intro s ho hf
    exact ih (fun o ho' => hstep o (.tail _ ho')) (owned_apply ho op)
      (hstep op (.head _) s ho hf)

/-! ### What `getOrCreateHandle` returns -/

lemma fetch_eq_some {h : UInt32} (hh : (getOrCreateHandle.fetch plc n s).1 = some h) :
    plc.handle s.handleCalls n = some h := by
  unfold getOrCreateHandle.fetch at hh
  dsimp only at hh
  split at hh
  · cases hh
  · rename_i h' hh'
    split at hh <;> (obtain rfl := Option.some.inj hh; exact hh')

/-- From a state whose handles are the PLC's, `getOrCreateHandle` returns only a handle the PLC
gave for the name. -/
lemma getOrCreateHandle_from (hf : s.Holds (HandleFrom plc)) {h : UInt32}
    (hh : (getOrCreateHandle plc n s).1 = some h) : ∃ k, plc.handle k n = some h := by
  unfold getOrCreateHandle at hh
  split at hh
  · rename_i q hq
    split at hh
    · rename_i hz
      obtain rfl := Option.some.inj hh
      exact (hf n q hq).resolve_left hz
    · exact ⟨_, fetch_eq_some hh⟩
  · exact ⟨_, fetch_eq_some hh⟩

/-- `getOrCreateHandle` returns a handle whenever the PLC answers its next
`GetSymHandleByName`. -/
lemma getOrCreateHandle_isSome {h₁ : UInt32} (hh₁ : plc.handle s.handleCalls n = some h₁) :
    ∃ h, (getOrCreateHandle plc n s).1 = some h := by
  have hfetch : (getOrCreateHandle.fetch plc n s).1 = some h₁ := by
    unfold getOrCreateHandle.fetch
    dsimp only
    rw [hh₁]
    dsimp only
    split <;> rfl
  unfold getOrCreateHandle
  split
  · split
    · exact ⟨_, rfl⟩
    · exact ⟨h₁, hfetch⟩
  · exact ⟨h₁, hfetch⟩

lemma getSymbol_handleCalls : (getSymbol plc n s).2.handleCalls = s.handleCalls := by
  unfold getSymbol
  split
  · rfl
  · split <;> rfl

/-- `GetSymbol` returns an entry whenever the PLC reports the name. -/
lemma getSymbol_isSome {sym : Symbol} (hs : plc.symbol n = some sym) :
    ∃ p, (getSymbol plc n s).1 = some p := by
  unfold getSymbol
  split
  · exact ⟨_, rfl⟩
  · rw [hs]
    exact ⟨_, rfl⟩

/-! ### The requests by handle -/

/-- When `Session.Read` returns, it read by the handle `getOrCreateHandle` returned after
`GetSymbol`. -/
lemma read_eq_some {data : List UInt8} {info : SymbolInfo}
    (h : (read plc n s).1 = some (data, info)) :
    ∃ hd, (getOrCreateHandle plc n (getSymbol plc n s).2).1 = some hd ∧
      data = plc.read hd info.size ∧
      (read plc n s).2.sent.getLast? = some (.read 0xF005 hd info.size) := by
  unfold read at h ⊢
  rcases e₁ : getSymbol plc n s with ⟨_ | p, s₁⟩
  · simp only [e₁] at h
    cases h
  rcases e₂ : getOrCreateHandle plc n s₁ with ⟨_ | hd, s₂⟩
  · simp only [e₁, e₂] at h
    cases h
  simp only [e₁, e₂] at h ⊢
  obtain ⟨rfl, rfl⟩ := Prod.mk.inj (Option.some.inj h)
  exact ⟨hd, rfl, rfl, List.getLast?_concat _⟩

/-- When `Session.Write` returns, it wrote by the handle `getOrCreateHandle` returned. -/
lemma write_eq_some {d : List UInt8} (h : (write plc n d s).1 = some ()) :
    ∃ hd, (getOrCreateHandle plc n s).1 = some hd ∧
      (write plc n d s).2.sent.getLast? = some (.write 0xF005 hd d) := by
  unfold write at h ⊢
  rcases e : getOrCreateHandle plc n s with ⟨_ | hd, s₁⟩
  · simp only [e] at h
    cases h
  simp only [e]
  exact ⟨hd, rfl, List.getLast?_concat _⟩

/-- When `Session.WriteNestedField` returns, it wrote the struct back by the handle
`getOrCreateHandle` returned after `GetSymbol`. -/
lemma writeNestedField_eq_some {path : List (List UInt8)} {d : List UInt8}
    (h : (writeNestedField plc n path d s).1 = some ()) :
    ∃ hd, (getOrCreateHandle plc n (getSymbol plc n s).2).1 = some hd ∧
      ∃ payload, (writeNestedField plc n path d s).2.sent.getLast? =
        some (.write 0xF005 hd payload) := by
  unfold writeNestedField at h ⊢
  rcases e₁ : getSymbol plc n s with ⟨_ | p, s₁⟩
  · simp only [e₁] at h
    cases h
  rcases e₂ : getOrCreateHandle plc n s₁ with ⟨_ | hd, s₂⟩
  · simp only [e₁, e₂] at h
    cases h
  simp only [e₁, e₂] at h ⊢
  refine ⟨hd, rfl, ?_⟩
  revert h
  split
  · nofun
  split
  · nofun
  split
  · nofun
  · exact fun _ => ⟨_, List.getLast?_concat _⟩

end Steps

/-- In every state a session reaches, every entry's handle is one the PLC gave for the entry's
name, or none. -/
lemma handleFrom_runOps (plc : Plc) (ops : List Op) :
    (runOps plc ops init).Holds (HandleFrom plc) :=
  holds_runOps (fun _ _ _ ho hf => holds_apply (stable_handleFrom plc) ho hf
    fun _ _ _ _ hh => .inr ⟨_, hh⟩) owned_init (holds_init _)

/-- **The session addresses a name only by its own handles.** For every PLC and every sequence
of operations from a new session, when `Session.Read(n)` returns, it read the data by a handle
that `GetSymHandleByName` returned for `n`. When `Session.Write(n, d)` returns, it wrote `d` by
such a handle. When `Session.WriteNestedField(n, path, d)` returns, it wrote the struct back by
such a handle.

**Proof sketch.** Every entry's handle is one the PLC gave for the entry's name, or none
(`HandleFrom`). Every operation keeps this (`holds_apply`), with `Owned` (`owned_apply`):
`getOrCreateHandle` stores each new handle under the name it asked for, and an update in place
changes no other name's entry. So the handle `getOrCreateHandle` returns, cached or fetched, is
one the PLC gave for the name (`getOrCreateHandle_from`). -/
theorem requests_use_own_handle (plc : Plc) (ops : List Op) (n : List UInt8) :
    let s := runOps plc ops init
    (∀ data info, (read plc n s).1 = some (data, info) →
      ∃ h, (∃ k, plc.handle k n = some h) ∧ data = plc.read h info.size ∧
        (read plc n s).2.sent.getLast? = some (.read 0xF005 h info.size)) ∧
    (∀ d, (write plc n d s).1 = some () →
      ∃ h, (∃ k, plc.handle k n = some h) ∧
        (write plc n d s).2.sent.getLast? = some (.write 0xF005 h d)) ∧
    ∀ path d, (writeNestedField plc n path d s).1 = some () →
      ∃ h, (∃ k, plc.handle k n = some h) ∧
        ∃ payload, (writeNestedField plc n path d s).2.sent.getLast? =
          some (.write 0xF005 h payload) := by
  intro s
  have hf := handleFrom_runOps plc ops
  have hf₁ : (getSymbol plc n s).2.Holds (HandleFrom plc) :=
    holds_getSymbol (stable_handleFrom plc) (owned_runOps plc ops owned_init) hf
  refine ⟨fun data info h => ?_, fun d h => ?_, fun path d h => ?_⟩
  · obtain ⟨hd, hh, hdata, hlast⟩ := read_eq_some h
    exact ⟨hd, getOrCreateHandle_from hf₁ hh, hdata, hlast⟩
  · obtain ⟨hd, hh, hlast⟩ := write_eq_some h
    exact ⟨hd, getOrCreateHandle_from hf hh, hlast⟩
  · obtain ⟨hd, hh, hlast⟩ := writeNestedField_eq_some h
    exact ⟨hd, getOrCreateHandle_from hf₁ hh, hlast⟩

section Transparent

variable {plc : Plc} {s : State} {n : List UInt8}

/-- **One read.** From a state whose registry holds only what the PLC reports, whenever
`Client.ReadVariable(n)` returns, `Session.Read(n)` returns the same data, read by a handle of the
same variable, and the same metadata. -/
lemma read_of_readVariable
    (halias : ∀ k k' n h h', plc.handle k n = some h → plc.handle k' n = some h' →
      plc.read h = plc.read h')
    (hR : Stable plc (Reported plc)) (ho : Owned s) (hf : s.Holds (Reported plc))
    {data : List UInt8} {sym : Symbol} (h : (readVariable plc n s).1 = some (data, sym)) :
    ∃ info, (read plc n s).1 = some (data, info) ∧ info.symbol = sym := by
  obtain ⟨hs, h₁, hh₁, rfl⟩ := readVariable_eq_some h
  -- `GetSymbol` leaves a reported entry, without asking for a handle
  obtain ⟨p, hp⟩ := getSymbol_isSome (s := s) hs
  have hg₁ := getSymbol_get hp
  have hf₁ := holds_getSymbol (n := n) hR ho hf
  have hh₁' : plc.handle (getSymbol plc n s).2.handleCalls n = some h₁ := by
    rw [getSymbol_handleCalls]
    exact hh₁
  -- `getOrCreateHandle` returns a handle of `n`, and keeps the entry reported
  obtain ⟨h₂, hh₂⟩ := getOrCreateHandle_isSome hh₁'
  obtain ⟨k, hk⟩ := getOrCreateHandle_from (hf₁.mono fun _ _ hx => hx.2) hh₂
  have hg₂ : (getOrCreateHandle plc n (getSymbol plc n s).2).2.get n = some p :=
    getOrCreateHandle_get hg₁
  have hsym : ((getOrCreateHandle plc n (getSymbol plc n s).2).2.deref p).symbol = sym :=
    Option.some.inj ((holds_getOrCreateHandle hR (owned_getSymbol ho) hf₁
      (fun hn => absurd (hg₁.symm.trans hn) nofun) n p hg₂).1.symm.trans hs)
  refine ⟨_, ?_, hsym⟩
  have e₁ : getSymbol plc n s = (some p, (getSymbol plc n s).2) := Prod.ext hp rfl
  have e₂ : getOrCreateHandle plc n (getSymbol plc n s).2 =
      (some h₂, (getOrCreateHandle plc n (getSymbol plc n s).2).2) := Prod.ext hh₂ rfl
  unfold read
  rw [e₁]
  dsimp only
  rw [e₂]
  dsimp only
  rw [halias _ _ _ _ _ hk hh₁, ← congrArg Symbol.size hsym]
  rfl

end Transparent

/-- **The cache is transparent.** Take a PLC whose handles for one name all read the same
variable, and whose uploaded symbol table agrees with `Client.GetSymbol`. After every sequence of
operations from a new session other than `Write` and `Subscribe`, whenever `Client.ReadVariable(n)`
returns data and a symbol, `Session.Read(n)` returns the same data and a `SymbolInfo` with the
same name, data type and size.

**Proof sketch.** Every entry holds what the PLC reports (`Reported`), and every operation but
`Write` and `Subscribe` keeps this (`holds_apply`), with `Owned` (`owned_apply`). From such a
state, `Read` goes through a reported entry and a handle the PLC gave for the name
(`read_of_readVariable`). -/
theorem read_agrees_with_readVariable {plc : Plc}
    (halias : ∀ k k' n h h', plc.handle k n = some h → plc.handle k' n = some h' →
      plc.read h = plc.read h')
    (hupload : ∀ i ∈ symbolTable plc.upload, plc.symbol i.name = some i.symbol)
    (ops : List Op) (hops : ∀ op ∈ ops, op.keepsMetadata) (n : List UInt8) {data : List UInt8}
    {sym : Symbol} (h : (readVariable plc n (runOps plc ops init)).1 = some (data, sym)) :
    ∃ info, (read plc n (runOps plc ops init)).1 = some (data, info) ∧ info.symbol = sym :=
  read_of_readVariable halias (stable_reported hupload) (owned_runOps plc ops owned_init)
    (holds_runOps (fun op hop _ ho hf => holds_apply (stable_reported hupload) ho hf
      fun hk => absurd (hops op hop) (by rw [hk]; decide)) owned_init (holds_init _)) h

theorem read_agrees_with_readVariable_scenario :
    ∃ info, (read addressingPlc [120]
        (runOps addressingPlc [.read [120], .loadSymbolTable, .getSymbol [120]] init)).1 =
      some ([0, 0], info) ∧ info.symbol = ⟨[120], [73, 78, 84], 2⟩ :=
  read_agrees_with_readVariable (fun _ _ _ _ _ _ _ => rfl) (by decide) _ (by decide) [120]
    (by decide)

end Goads.Session
