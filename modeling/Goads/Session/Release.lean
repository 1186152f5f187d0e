import Mathlib.Data.List.Count
import Goads.Session.Upload

/-!
# `Close` releases only the handles the session obtained

`Close` releases the nonzero `Handle` of every registry entry. A handle gets into an entry only
through `getOrCreateHandle`, which stores the handle `GetSymHandleByName` returned in the entry of
the name it asked for. The entries of distinct names are distinct `SymbolInfo`s, and
`LoadSymbolTable` and `GetSymbol` store entries with handle `0`. So, over every sequence of
operations, `LoadSymbolTable` included, the handles `Close` releases are among the handles
obtained, and none is released more often than it was obtained.

## Main definitions

* `Goads.Session.SymbolInfo.release` — the handle `Close` releases for an entry, if any.
* `Goads.Session.Owned` — the invariant: the registry's names and addresses are distinct, it
  points into the heap, and the handles its entries hold are a sub-permutation of those
  obtained.

## Main results

* `Goads.Session.close_releases_only_obtained` — from a new session, after every sequence of
  operations, `Close` sends no more releases of a handle than `GetSymHandleByName` returned it.

## Design

Every step that changes the registry points one name at one address (`setEntry`): a fresh one
(`State.store`) or the name's own, rewritten in place. `Owned.repoint` says once what such a
step keeps, given where the new entry's handle comes from (`sub_fresh`, `sub_same`); each
operation is then a few lines.
-/

namespace Goads.Session

open Ams

/-- The handle `Close` releases for an entry: its handle, unless it is `0`. -/
def SymbolInfo.release (x : SymbolInfo) : Option UInt32 :=
  if x.handle ≠ 0 then some x.handle else none

lemma SymbolInfo.release_subperm (x : SymbolInfo) : x.release.toList.Subperm [x.handle] := by
  unfold SymbolInfo.release
  split <;> simp

lemma releasedHandles_eq (s : State) :
    releasedHandles s = s.registry.filterMap fun e => (s.deref e.2).release := rfl

/-- The handles `Close` releases for every entry but that of `n`. -/
def State.releasedExcept (s : State) (n : List UInt8) : List UInt32 :=
  (s.registry.filter (·.1 != n)).filterMap fun e => (s.deref e.2).release

lemma releasedExcept_sublist (s : State) (n : List UInt8) :
    (s.releasedExcept n).Sublist (releasedHandles s) :=
  (List.filter_sublist _).filterMap _

section Registry

variable {reg : List (List UInt8 × ℕ)} {n : List UInt8} {p : ℕ}

lemma filterMap_setEntry {β : Type} (f : List UInt8 × ℕ → Option β) :
    (setEntry reg n p).filterMap f = (f (n, p)).toList ++ (reg.filter (·.1 != n)).filterMap f := by
  rw [setEntry, List.filterMap_cons]
  cases f (n, p) <;> rfl

/-- With distinct names, pointing a name at the address it has only reorders the registry. -/
lemma setEntry_perm (hk : (reg.map Prod.fst).Nodup) (h : (n, p) ∈ reg) :
    (setEntry reg n p).Perm reg := by
  induction reg with
  | nil => cases h
  | cons a reg ih =>
    rw [List.map_cons, List.nodup_cons] at hk
    rcases List.mem_cons.mp h with rfl | h
    · -- the entry of `n` is the head: no other entry has its name
      have hf : reg.filter (·.1 != n) = reg := List.filter_eq_self.mpr fun e he => by
        rw [bne_iff_ne]
        intro hen
        have hm := List.mem_map_of_mem Prod.fst he
        rw [hen] at hm
        exact hk.1 hm
      simp [setEntry, hf]
    · -- it is further down
      have han : a.1 ≠ n := fun han => hk.1 (han ▸ List.mem_map_of_mem Prod.fst h)
      have he : setEntry (a :: reg) n p = (n, p) :: a :: reg.filter (·.1 != n) := by
        simp [setEntry, han]
      rw [he]
      exact (List.Perm.swap _ _ _).trans ((ih hk.2 h).cons a)

end Registry

/-- The registry's names and addresses are distinct, it points into the heap, and the handles
`Close` would release are among those obtained, each at most as often. -/
structure Owned (s : State) : Prop where
  valid : s.Valid
  keys : (s.registry.map Prod.fst).Nodup
  addrs : (s.registry.map Prod.snd).Nodup
  sub : (releasedHandles s).Subperm s.acquired

lemma owned_init : Owned init := ⟨valid_init, by simp [init], by simp [init], by simp [init,
  releasedHandles]⟩

section Steps

variable {plc : Plc} {s t : State} {n : List UInt8} {p : ℕ}

/-- A step that touches neither the heap, the registry nor the handles obtained. -/
lemma Owned.of_eq (ho : Owned s) (hh : t.heap = s.heap) (hr : t.registry = s.registry)
    (ha : t.acquired = s.acquired) : Owned t := by
  obtain ⟨h₁, h₂, h₃, h₄⟩ := ho
  cases t
  cases s
  simp only at hh hr ha
  subst hh hr ha
  exact ⟨h₁, h₂, h₃, h₄⟩

/-- A step that points `n` at `p`, an address no other name points at, and keeps every other
name's entry: it keeps `Owned` when the handles of the new registry are among those obtained. -/
lemma Owned.repoint (ho : Owned s) (hv : t.Valid) (hr : t.registry = setEntry s.registry n p)
    (hp : ∀ e ∈ s.registry, e.1 ≠ n → e.2 ≠ p)
    (hother : ∀ e ∈ s.registry, e.1 ≠ n → t.deref e.2 = s.deref e.2)
    (hsub : ((t.deref p).release.toList ++ s.releasedExcept n).Subperm t.acquired) : Owned t where
  valid := hv
  keys := hr ▸ nodup_setEntry ho.keys
  addrs := by
    rw [hr, setEntry, List.map_cons, List.nodup_cons]
    refine ⟨fun hm => ?_, ho.addrs.sublist ((List.filter_sublist _).map _)⟩
    obtain ⟨e, he, hep⟩ := List.mem_map.mp hm
    rw [List.mem_filter, bne_iff_ne] at he
    exact hp e he.1 he.2 hep
  sub := by
    have hrest : (s.registry.filter (·.1 != n)).filterMap (fun e => (t.deref e.2).release) =
        s.releasedExcept n := List.filterMap_congr fun e he => by
      rw [List.mem_filter, bne_iff_ne] at he
      rw [hother e he.1 he.2]
    rwa [releasedHandles_eq, hr, filterMap_setEntry, hrest]

/-- The new entry's handle, if any, is added to those obtained. -/
lemma sub_fresh (ho : Owned s) {x : SymbolInfo}
    (ha : (s.acquired ++ x.release.toList).Subperm t.acquired) :
    (x.release.toList ++ s.releasedExcept n).Subperm t.acquired :=
  (((List.subperm_append_left _).mpr ((releasedExcept_sublist s n).subperm.trans ho.sub)).trans
    List.perm_append_comm.subperm).trans ha

/-- The entry of `n` keeps its handle, and no handle is obtained. -/
lemma sub_same (ho : Owned s) (hg : s.get n = some p) {x : SymbolInfo}
    (hx : x.handle = (s.deref p).handle) (ha : t.acquired = s.acquired) :
    (x.release.toList ++ s.releasedExcept n).Subperm t.acquired := by
  have hrel : x.release = (s.deref p).release := by rw [SymbolInfo.release, hx]; rfl
  rw [hrel, ha, State.releasedExcept, ← filterMap_setEntry (fun e => (s.deref e.2).release)]
  exact ((setEntry_perm ho.keys (mem_of_lookup hg)).filterMap _).subperm.trans ho.sub

/-- The new entry holds no handle, and no handle is obtained. -/
lemma sub_zero (ho : Owned s) {x : SymbolInfo} (hx : x.handle = 0) (ha : t.acquired = s.acquired) :
    (x.release.toList ++ s.releasedExcept n).Subperm t.acquired :=
  sub_fresh ho (by simpa [SymbolInfo.release, hx, ha] using List.Subperm.refl s.acquired)

/-- `State.store`: `n` points at a fresh address, that of the new entry `info`. -/
lemma Owned.store (ho : Owned s) {info : SymbolInfo} (hh : t.heap = s.heap ++ [info])
    (hr : t.registry = setEntry s.registry n s.heap.length)
    (hsub : (info.release.toList ++ s.releasedExcept n).Subperm t.acquired) : Owned t := by
  have hd : t.deref s.heap.length = info := by simp [State.deref, hh]
  refine ho.repoint (fun e he => ?_) hr (fun e he _ => (ho.valid e he).ne)
    (fun e he _ => ?_) (hd ▸ hsub)
  · rw [hr] at he
    rw [hh, List.length_append, List.length_singleton]
    rcases mem_setEntry.mp he with rfl | ⟨he, -⟩
    · exact Nat.lt_succ_self _
    · exact Nat.lt_succ_of_lt (ho.valid e he)
  · rw [State.deref, State.deref, hh, List.getD_append _ _ _ _ (ho.valid e he)]

/-- An update in place of the entry `n` points at. -/
lemma Owned.update (ho : Owned s) (hg : s.get n = some p) {x : SymbolInfo}
    (hh : t.heap = s.heap.set p x) (hr : t.registry = setEntry s.registry n p)
    (hsub : (x.release.toList ++ s.releasedExcept n).Subperm t.acquired) : Owned t := by
  have hlt := ho.valid _ (mem_of_lookup hg)
  have hp : ∀ e ∈ s.registry, e.1 ≠ n → e.2 ≠ p := fun e he hen hep =>
    hen (congrArg Prod.fst (List.inj_on_of_nodup_map ho.addrs he (mem_of_lookup hg) hep))
  have hd : t.deref p = x := by simp [State.deref, hh, hlt]
  refine ho.repoint (fun e he => ?_) hr hp (fun e he hen => ?_) (hd ▸ hsub)
  · rw [hr] at he
    rw [hh, List.length_set]
    rcases mem_setEntry.mp he with rfl | ⟨he, -⟩
    · exact hlt
    · exact ho.valid e he
  · simp [State.deref, hh, List.getElem?_set_ne (hp e he hen).symm]

lemma owned_send (ho : Owned s) (r : Request) : Owned (s.send r) := ho.of_eq rfl rfl rfl

lemma owned_getSymbol (ho : Owned s) : Owned (getSymbol plc n s).2 := by
  unfold getSymbol
  split
  · exact ho
  · split
    · exact owned_send ho _
    · exact ho.store rfl rfl (sub_zero ho rfl rfl)

/-- `GetSymHandleByName` and what follows: the handle obtained is the one stored. -/
lemma owned_fetch (ho : Owned s) : Owned (getOrCreateHandle.fetch plc n s).2 := by
  unfold getOrCreateHandle.fetch
  dsimp only
  split
  · exact ho.of_eq rfl rfl rfl
  · split
    · rename_i p hp
      exact ho.update (n := n) hp rfl rfl
        (sub_fresh ho ((List.subperm_append_left _).mpr (SymbolInfo.release_subperm _)))
    · exact ho.store (n := n) rfl rfl
        (sub_fresh ho ((List.subperm_append_left _).mpr (SymbolInfo.release_subperm _)))

lemma owned_getOrCreateHandle (ho : Owned s) : Owned (getOrCreateHandle plc n s).2 := by
  unfold getOrCreateHandle
  split
  · split
    · exact ho
    · exact owned_fetch ho
  · exact owned_fetch ho

lemma owned_loadFields (ho : Owned s) (hg : s.get n = some p) : Owned (loadFields plc n p s).2 := by
  unfold loadFields
  dsimp only
  split
  · split
    · exact owned_send ho _
    · exact ho.update hg rfl rfl (sub_same ho hg rfl rfl)
  · exact ho

/-- `LoadSymbolTable` stores entries with handle `0`. -/
lemma handle_of_parseEntry {rest : List UInt8} {info : SymbolInfo} {k : ℕ}
    (h : parseEntry rest = some (info, k)) : info.handle = 0 := by
  simp only [parseEntry, Option.ite_none_left_eq_some, Option.some.injEq, Prod.mk.injEq] at h
  obtain ⟨-, -, -, -, rfl, -⟩ := h
  rfl

lemma handle_of_mem_parseSymbolTable :
    ∀ {fuel : ℕ} {rest : List UInt8}, ∀ i ∈ parseSymbolTable fuel rest, i.handle = 0
  | 0, _, _, h => by cases h
  | fuel + 1, rest, i, h => by
    unfold parseSymbolTable at h
    split_ifs at h
    · cases h
    · split at h
      · cases h
      · rename_i info k he
        rcases List.mem_cons.mp h with rfl | h
        · exact handle_of_parseEntry he
        · exact handle_of_mem_parseSymbolTable i h

lemma owned_foldl_store {l : List SymbolInfo} (hl : ∀ i ∈ l, i.handle = 0) :
    ∀ {s : State}, Owned s → Owned (l.foldl (fun s info => s.store info.name info) s) := by
  induction l with
  | nil => exact id
  | cons i l ih =>
    intro s ho
    exact ih (fun j hj => hl j (.tail _ hj)) (ho.store rfl rfl (sub_zero ho (hl i (.head _)) rfl))

lemma owned_loadSymbolTable (ho : Owned s) : Owned (loadSymbolTable plc s) := by
  unfold loadSymbolTable
  dsimp only
  split_ifs
  · exact owned_send ho _
  · exact owned_foldl_store (fun _ => handle_of_mem_parseSymbolTable _)
      (owned_send (owned_send ho _) _)

lemma owned_apply (ho : Owned s) (op : Op) : Owned (op.apply plc s) := by
  by_cases hop : op = .loadSymbolTable
  · subst hop
    exact owned_loadSymbolTable ho
  · exact apply_preserves Owned (fun _ _ => owned_getSymbol) (fun _ _ => owned_getOrCreateHandle)
      (fun _ _ _ h => owned_send h _) (fun _ _ _ h => owned_send h _)
      (fun _ _ _ _ h => owned_send h _) (fun _ _ _ hp h => owned_loadFields h hp) hop ho

lemma owned_runOps (plc : Plc) : ∀ (ops : List Op) {s : State}, Owned s → Owned (runOps plc ops s)
  | [], _, ho => ho
  | op :: ops, _, ho => owned_runOps plc ops (owned_apply ho op)

end Steps

/-- The requests `Close` sends: one release per handle of `releasedHandles`, in order. -/
lemma close_sent (s : State) :
    (close s).sent = s.sent ++ (releasedHandles s).map fun h => .write 0xF006 0 (putUint32 h) := by
  suffices ∀ (l : List UInt32) (t : State),
      (l.foldl (fun s h => s.send (.write 0xF006 0 (putUint32 h))) t).sent =
        t.sent ++ l.map fun h => .write 0xF006 0 (putUint32 h) from this _ s
  intro l
  induction l with
  | nil => simp
  | cons h l ih =>
    intro t
    rw [List.foldl_cons, ih]
    simp [State.send]

lemma release_request_injective :
    Function.Injective fun h : UInt32 => Request.write 0xF006 0 (putUint32 h) := fun a b h =>
  calc a = uint32At (putUint32 a ++ []) 0 := (uint32At_put a []).symm
    _ = uint32At (putUint32 b ++ []) 0 := by rw [(Request.write.inj h).2.2]
    _ = b := uint32At_put b []

/-- **`Close` releases only the handles the session obtained.** From a new session, after every
sequence of operations, `LoadSymbolTable` included, against every PLC, `Close` sends no more
`SYM_RELEASEHND` writes of a handle than `GetSymHandleByName` returned that handle: it never
releases a handle the session did not obtain, nor one handle twice if the PLC handed it out once.

**Proof sketch.** `Owned` holds of the new session and every step keeps it (`owned_apply`):
`GetSymbol` and `LoadSymbolTable` store entries with handle `0`, `getOrCreateHandle` puts the
handle it obtained in one entry, and loading the fields keeps the entry's handle; the entries of
distinct names are distinct. `Close` sends one release per handle of `releasedHandles`
(`close_sent`), a sub-permutation of those obtained. -/
theorem close_releases_only_obtained (plc : Plc) (ops : List Op) (h : UInt32) :
    let s := runOps plc ops init
    ((close s).sent.drop s.sent.length).count (.write 0xF006 0 (putUint32 h)) ≤
      s.acquired.count h := by
  intro s
  rw [close_sent, List.drop_left, List.count_map_of_injective _ _ release_request_injective]
  exact (owned_runOps plc ops owned_init).sub.count_le h

/-- The bound is reached: after `Write(x)` against `addressingPlc`, `Close` releases the one
handle obtained, `1000`. -/
example :
    let s := runOps addressingPlc [.write [120] [1, 0]] init
    (close s).sent.drop s.sent.length = [.write 0xF006 0 (putUint32 1000)] ∧ s.acquired = [1000] := by
  decide

end Goads.Session
