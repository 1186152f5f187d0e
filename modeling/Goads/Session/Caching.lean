import Goads.Session.Addressing

/-!
# The session asks the PLC once per name

`GetSymbol` answers from the registry when the name has an entry, and `getOrCreateHandle` when
the name's entry holds a nonzero handle. Each asks the PLC otherwise, and caches the answer. No
operation but `LoadSymbolTable` removes an entry or clears a handle. So over every sequence of
`GetSymbol`, `Read`, `Write`, `WriteNestedField` and `Subscribe` calls, the session sends at most
one `SYM_INFOBYNAMEEX` and at most one `GetSymHandleByName` for a name the PLC resolves. It sends
neither once the name is cached.

## Main definitions

* `Goads.Session.State.handleCached` — the cache test of `getOrCreateHandle`.
* `Goads.Session.Economy` — how the requests for one name and its cache entry grow from one
  state to a later one.

## Main results

* `Goads.Session.requests_once_per_name` — from every state, a run of operations without
  `LoadSymbolTable` adds at most one `SYM_INFOBYNAMEEX` and at most one `GetSymHandleByName` for a
  name the PLC resolves, and none of either kind once the name is cached.

## Design

`Economy` relates the states before and after each step of an operation. It is reflexive and
transitive, and each step has it (`economy_getSymbol`, `economy_getOrCreateHandle`,
`economy_loadFields`, `economy_of_sent`). `apply_preserves` then carries it through every
operation, and an induction on the operations through every run (`economy_runOps`).
-/

namespace Goads.Session

open Ams

/-- The test of `getOrCreateHandle`: the name has an entry, and its handle is not `0`. -/
def State.handleCached (s : State) (n : List UInt8) : Bool :=
  match s.get n with
  | some p => (s.deref p).handle != 0
  | none => false

/-- How the requests for the name `m` and its cache entry grow from `s` to `s'`. The name keeps
its entry and its cached handle. At most one `SYM_INFOBYNAMEEX` for `m` is added, none if `m` had
an entry, and once one is added `m` has an entry. At most one `GetSymHandleByName` for `m` is
added, none if `m`'s handle was cached, and once one is added `m`'s handle is cached. -/
structure Economy (m : List UInt8) (s s' : State) : Prop where
  get : (s.get m).isSome → (s'.get m).isSome
  cached : s.handleCached m → s'.handleCached m
  info : s'.sent.count (.symbolInfo m) ≤
    s.sent.count (.symbolInfo m) + if (s.get m).isSome then 0 else 1
  info_get : s.sent.count (.symbolInfo m) < s'.sent.count (.symbolInfo m) → (s'.get m).isSome
  handle : s'.sent.count (.symHandle m) ≤
    s.sent.count (.symHandle m) + if s.handleCached m then 0 else 1
  handle_cached : s.sent.count (.symHandle m) < s'.sent.count (.symHandle m) → s'.handleCached m

/-- At most one more, and none once cached, twice over: still at most one more. -/
lemma count_le_of_le_of_le {a b c : ℕ} {p q : Bool} (h₁ : b ≤ a + if p then 0 else 1)
    (h₂ : c ≤ b + if q then 0 else 1) (hpq : p → q) (hq : a < b → q) :
    c ≤ a + if p then 0 else 1 := by
  cases p <;> cases q <;> simp at h₁ h₂ hpq hq ⊢ <;> omega

lemma of_lt_of_lt {a b c : ℕ} {q r : Prop} (h₁ : a < b → q) (h₂ : b < c → r) (hqr : q → r)
    (h : a < c) : r := by
  by_cases hab : a < b
  · exact hqr (h₁ hab)
  · exact h₂ (by omega)

namespace Economy

variable {m : List UInt8} {s s' s'' : State}

lemma refl (m : List UInt8) (s : State) : Economy m s s :=
  ⟨id, id, by omega, fun h => absurd h (lt_irrefl _), by omega, fun h => absurd h (lt_irrefl _)⟩

lemma trans (h₁ : Economy m s s') (h₂ : Economy m s' s'') : Economy m s s'' where
  get h := h₂.get (h₁.get h)
  cached h := h₂.cached (h₁.cached h)
  info := count_le_of_le_of_le h₁.info h₂.info h₁.get h₁.info_get
  info_get := of_lt_of_lt h₁.info_get h₂.info_get h₂.get
  handle := count_le_of_le_of_le h₁.handle h₂.handle h₁.cached h₁.handle_cached
  handle_cached := of_lt_of_lt h₁.handle_cached h₂.handle_cached h₂.cached

end Economy

section Steps

variable {plc : Plc} {s : State} {m n : List UInt8}

/-- A step that keeps the name's entry and cached handle, and sends no request of either kind
for the name. -/
lemma economy_of_count {t : State} (hg : (s.get m).isSome → (t.get m).isSome)
    (hc : s.handleCached m → t.handleCached m)
    (hi : t.sent.count (.symbolInfo m) = s.sent.count (.symbolInfo m))
    (hs : t.sent.count (.symHandle m) = s.sent.count (.symHandle m)) : Economy m s t :=
  ⟨hg, hc, by omega, fun h => absurd h (by omega), by omega, fun h => absurd h (by omega)⟩

/-- A step that sends one request, neither kind for the name, and keeps the heap and the
registry. -/
lemma economy_of_sent {t : State} {r : Request} (hh : t.heap = s.heap)
    (hr : t.registry = s.registry) (hs : t.sent = s.sent ++ [r]) (h₁ : r ≠ .symbolInfo m)
    (h₂ : r ≠ .symHandle m) : Economy m s t := by
  have hg : t.get m = s.get m := by rw [State.get, hr]; rfl
  have hc : t.handleCached m = s.handleCached m := by
    simp only [State.handleCached, State.deref, hg, hh]
  exact economy_of_count (hg ▸ id) (hc ▸ id) (by simp [hs, List.count_singleton', h₁.symm])
    (by simp [hs, List.count_singleton', h₂.symm])

lemma handleCached_of_get {t : State} {p : ℕ} (hp : t.get m = some p) :
    t.handleCached m = ((t.deref p).handle != 0) := by
  rw [State.handleCached, hp]

lemma get_of_handleCached (h : s.handleCached m) : ∃ p, s.get m = some p := by
  rw [State.handleCached] at h
  split at h
  · exact ⟨_, ‹_›⟩
  · cases h

/-- A cached handle lies in the heap: an address past it holds the default entry, whose handle
is `0`. -/
lemma lt_of_handleCached {p : ℕ} (hp : s.get m = some p) (h : s.handleCached m) :
    p < s.heap.length := by
  by_contra hlt
  rw [handleCached_of_get hp, State.deref, List.getD_eq_default _ _ (Nat.le_of_not_lt hlt)] at h
  exact absurd h (by decide)

lemma handleCached_store_self (s : State) (n : List UInt8) (info : SymbolInfo) :
    (s.store n info).handleCached n = (info.handle != 0) := by
  rw [handleCached_of_get (show (s.store n info).get n = some s.heap.length from lookup_setEntry),
    State.deref_store_self]

/-- Storing under a name with no entry keeps every other name's entry and cached handle. -/
lemma economy_store (hmn : m ≠ n) (info : SymbolInfo) : Economy m s (s.store n info) := by
  have hg : (s.store n info).get m = s.get m := lookup_setEntry_ne hmn
  refine economy_of_count (fun h => hg ▸ h) (fun h => ?_) rfl rfl
  obtain ⟨p, hp⟩ := get_of_handleCached h
  rw [handleCached_of_get (hg.trans hp), State.deref_store_of_lt (lt_of_handleCached hp h),
    ← handleCached_of_get hp, h]

/-- Rewriting, in place, the entry a name points to, with a handle that stays nonzero if it was:
every name keeps its entry and its cached handle. -/
lemma economy_update (hv : s.Valid) {p : ℕ} (hp : s.get n = some p) {x : SymbolInfo}
    (hx : (s.deref p).handle ≠ 0 → x.handle ≠ 0) {t : State} (hh : t.heap = s.heap.set p x)
    (hr : t.registry = setEntry s.registry n p) (hs : t.sent = s.sent) : Economy m s t := by
  have hg : t.get m = s.get m := by
    rw [State.get, hr]
    by_cases hmn : m = n
    · subst hmn
      rw [lookup_setEntry]
      exact hp.symm
    · exact lookup_setEntry_ne hmn
  refine economy_of_count (fun h => hg ▸ h) (fun h => ?_) (by rw [hs]) (by rw [hs])
  obtain ⟨q, hq⟩ := get_of_handleCached h
  have hlt := hv _ (mem_of_lookup hp)
  rw [handleCached_of_get hq] at h
  rw [handleCached_of_get (hg.trans hq), State.deref, hh, List.getD_eq_getElem?_getD,
    List.getElem?_set]
  by_cases hqp : p = q
  · subst hqp
    simpa [hlt] using hx (by simpa using h)
  · rw [if_neg hqp, ← List.getD_eq_getElem?_getD]
    exact h

lemma economy_getSymbol (hm : plc.symbol m ≠ none) : Economy m s (getSymbol plc n s).2 := by
  unfold getSymbol
  split
  · exact .refl m s
  · rename_i hn
    by_cases hmn : m = n
    · subst hmn
      cases hs : plc.symbol m with
      | none => exact absurd hs hm
      | some sym =>
        refine ⟨fun h => ?_, fun h => ?_, ?_, fun _ => ?_, ?_, fun h => absurd h ?_⟩
        · rw [hn] at h
          cases h
        · rw [State.handleCached, hn] at h
          cases h
        · simp [State.store, State.send, hn]
        · simp [State.get, State.store, lookup_setEntry]
        · simp [State.store, State.send]
        · simp [State.store, State.send]
    · have hne : Request.symbolInfo n ≠ .symbolInfo m := fun h =>
        hmn (Request.symbolInfo.inj h).symm
      split
      · exact economy_of_sent rfl rfl rfl hne (by simp)
      · have h₁ : Economy m s (s.send (.symbolInfo n)) := economy_of_sent rfl rfl rfl hne (by simp)
        exact h₁.trans (economy_store hmn _)

/-- A step that sends one `GetSymHandleByName` for a name whose handle was not cached, and caches
it. -/
lemma economy_cache {t : State} (hn : s.handleCached m = false)
    (hs : t.sent = s.sent ++ [.symHandle m]) (hc : t.handleCached m) : Economy m s t := by
  have hi : t.sent.count (.symbolInfo m) = s.sent.count (.symbolInfo m) := by
    simp [hs, List.count_singleton']
  refine ⟨fun _ => ?_, fun h => by simp [hn] at h, by omega, fun h => absurd h (by omega),
    by simp [hs, hn], fun _ => hc⟩
  obtain ⟨p, hp⟩ := get_of_handleCached hc
  simp [hp]

/-- `GetSymHandleByName` and what follows, for a name whose handle is not cached, against a PLC
that hands out nonzero handles and resolves `m`. -/
lemma economy_fetch (hplc : ∀ k n h, plc.handle k n = some h → h ≠ 0)
    (hm : ∀ k, (plc.handle k m).isSome) (hv : s.Valid) (hn : s.handleCached n = false) :
    Economy m s (getOrCreateHandle.fetch plc n s).2 := by
  unfold getOrCreateHandle.fetch
  dsimp only
  by_cases hmn : m = n
  · subst hmn
    obtain ⟨h, hh⟩ := Option.isSome_iff_exists.mp (hm s.handleCalls)
    have h0 := hplc _ _ _ hh
    rw [hh]
    dsimp only
    split
    · rename_i p hp
      refine economy_cache hn rfl ?_
      rw [State.handleCached, State.get, lookup_setEntry]
      simpa [State.deref, hv _ (mem_of_lookup hp)] using h0
    · refine economy_cache hn rfl ?_
      rw [handleCached_store_self]
      simpa using h0
  · have hne : Request.symHandle n ≠ .symHandle m := fun h => hmn (Request.symHandle.inj h).symm
    split
    · exact economy_of_sent rfl rfl rfl (by simp) hne
    · rename_i h hh
      have h₁ : Economy m s { s.send (.symHandle n) with
          handleCalls := s.handleCalls + 1, acquired := s.acquired ++ [h] } :=
        economy_of_sent rfl rfl rfl (by simp) hne
      refine h₁.trans ?_
      split
      · rename_i p hp
        dsimp only
        exact economy_update (by exact hv) hp (fun _ => hplc _ _ _ hh) rfl rfl rfl
      · exact economy_store hmn _

lemma economy_getOrCreateHandle (hplc : ∀ k n h, plc.handle k n = some h → h ≠ 0)
    (hm : ∀ k, (plc.handle k m).isSome) (hv : s.Valid) :
    Economy m s (getOrCreateHandle plc n s).2 := by
  unfold getOrCreateHandle
  split
  · rename_i p hp
    split
    · exact .refl m s
    · rename_i hz
      exact economy_fetch hplc hm hv (by rw [handleCached_of_get hp]; simpa using hz)
  · exact economy_fetch hplc hm hv (by rw [State.handleCached, ‹s.get n = none›])

lemma economy_loadFields (hv : s.Valid) {p : ℕ} (hp : s.get n = some p) :
    Economy m s (loadFields plc n p s).2 := by
  unfold loadFields
  dsimp only
  split
  · have h₁ : Economy m s (s.send (.dataTypeInfo (s.deref p).dataType)) :=
      economy_of_sent rfl rfl rfl (by simp) (by simp)
    split
    · exact h₁
    · dsimp only
      exact h₁.trans (economy_update (by exact hv) (by exact hp) (by exact id) rfl rfl rfl)
  · exact .refl m s

end Steps

section Runs

variable {plc : Plc} {m : List UInt8}

/-- Every operation but `LoadSymbolTable` keeps `Economy` from a fixed state, together with the
heap covering the registry. -/
lemma economy_apply (hplc : ∀ k n h, plc.handle k n = some h → h ≠ 0)
    (hsym : plc.symbol m ≠ none) (hhandle : ∀ k, (plc.handle k m).isSome) {s t : State}
    {op : Op} (hop : op ≠ .loadSymbolTable) (h : Economy m s t ∧ t.Valid) :
    Economy m s (op.apply plc t) ∧ (op.apply plc t).Valid :=
  apply_preserves (fun t => Economy m s t ∧ t.Valid)
    (fun _ _ h => ⟨h.1.trans (economy_getSymbol hsym), extends_getSymbol.valid h.2⟩)
    (fun _ _ h => ⟨h.1.trans (economy_getOrCreateHandle hplc hhandle h.2),
      extends_getOrCreateHandle.valid h.2⟩)
    (fun _ _ _ h => ⟨h.1.trans (economy_of_sent rfl rfl rfl (by simp) (by simp)), h.2⟩)
    (fun _ _ _ h => ⟨h.1.trans (economy_of_sent rfl rfl rfl (by simp) (by simp)), h.2⟩)
    (fun _ _ _ _ h => ⟨h.1.trans (economy_of_sent rfl rfl rfl (by simp) (by simp)), h.2⟩)
    (fun _ _ _ hp h => ⟨h.1.trans (economy_loadFields h.2 hp), (extends_loadFields hp).valid h.2⟩)
    hop h

lemma economy_runOps (hplc : ∀ k n h, plc.handle k n = some h → h ≠ 0)
    (hsym : plc.symbol m ≠ none) (hhandle : ∀ k, (plc.handle k m).isSome) {s : State} :
    ∀ (ops : List Op) {t : State}, Op.loadSymbolTable ∉ ops → Economy m s t ∧ t.Valid →
      Economy m s (runOps plc ops t) ∧ (runOps plc ops t).Valid
  | [], _, _, h => h
  | _ :: ops, _, hops, h =>
    economy_runOps hplc hsym hhandle ops (fun h => hops (.tail _ h))
      (economy_apply hplc hsym hhandle (fun h => hops (h ▸ .head _)) h)

end Runs

/-- **The session asks the PLC once per name.** Take a PLC that never hands out handle `0`, that
`GetSymbol` resolves `m` against, and that answers every `GetSymHandleByName` for `m`. From every
state whose registry points into the heap, every sequence of operations without
`LoadSymbolTable` adds at most one `SYM_INFOBYNAMEEX` for `m`, and none if `m` has an entry. It
adds at most one `GetSymHandleByName` for `m`, and none if `m`'s entry holds a nonzero handle.

**Proof sketch.** `Economy m s` holds of `s` and is transitive. `GetSymbol` and `getOrCreateHandle`
send their request only on a miss and leave the name cached (`economy_getSymbol`,
`economy_fetch`). Loading the fields and the handle of another name rewrite an entry in place,
keeping every nonzero handle (`economy_update`). `apply_preserves` carries it through each
operation, and `extends_*` keeps the registry inside the heap. -/
theorem requests_once_per_name {plc : Plc} (hplc : ∀ k n h, plc.handle k n = some h → h ≠ 0)
    {m : List UInt8} (hsym : plc.symbol m ≠ none) (hhandle : ∀ k, (plc.handle k m).isSome)
    (ops : List Op) (hops : Op.loadSymbolTable ∉ ops) (s : State) (hv : s.Valid) :
    (runOps plc ops s).sent.count (.symbolInfo m) ≤
        s.sent.count (.symbolInfo m) + (if (s.get m).isSome then 0 else 1) ∧
      (runOps plc ops s).sent.count (.symHandle m) ≤
        s.sent.count (.symHandle m) + (if s.handleCached m then 0 else 1) :=
  have h := (economy_runOps hplc hsym hhandle ops hops ⟨.refl m s, hv⟩).1
  ⟨h.info, h.handle⟩

/-- A PLC that resolves `x` (the byte `120`) as an `INT` of two bytes and hands out handle `7`. -/
def cachingPlc : Plc :=
  { symbol := fun n => if n = [120] then some ⟨[120], [73, 78, 84], 2⟩ else none
    handle := fun _ _ => some 7
    uploadInfo := []
    upload := []
    dataTypeInfo := fun _ => none
    read := fun _ n => List.replicate n.toNat 0 }

theorem requests_once_per_name_scenario :
    let s := runOps cachingPlc
      [.read [120], .write [120] [1, 0], .getSymbol [120], .subscribe [120], .read [120]] init
    s.sent.count (.symbolInfo [120]) ≤
        init.sent.count (.symbolInfo [120]) + (if (init.get [120]).isSome then 0 else 1) ∧
      s.sent.count (.symHandle [120]) ≤
        init.sent.count (.symHandle [120]) + (if init.handleCached [120] then 0 else 1) :=
  @requests_once_per_name cachingPlc (fun _ _ _ hh => by injection hh with hh; subst hh; decide)
    [120] (by decide) (fun _ => rfl) _ (by simp) init valid_init

/-- The bound is reached: the run of the scenario sends one request of each kind for `x`. -/
example :
    let s := runOps cachingPlc
      [.read [120], .write [120] [1, 0], .getSymbol [120], .subscribe [120], .read [120]] init
    s.sent.count (.symbolInfo [120]) = 1 ∧ s.sent.count (.symHandle [120]) = 1 := by
  decide

end Goads.Session
