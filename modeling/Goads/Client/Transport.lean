import Mathlib.Data.List.Nodup
import Goads.Ams.Packets

/-!
# Request/response multiplexing by invoke id

`Client.send` and the response branch of `Client.receive`, as a transition system over every
interleaving of any number of `send` calls with the receive pump.

A `send` call draws a fresh invoke id from the atomic counter, makes a buffered channel `h` of
capacity one, registers `c.handler[id] = h` under the mutex, writes the request and waits in a
`select` for the context, the read timeout or `h`. The pump, on a response frame, takes the
handler registered under the frame's invoke id and deletes it (both under the mutex), then sends
the packet on it and closes it, or drops it when its own context is done. A frame whose id has
no handler is logged and dropped.

## Main definitions

* `Goads.Transport.State` — the counter, the handler table, the calls, the pump, and a ghost log
  `delivered` of every `h <- pkt`, as (call, invoke id of the frame).
* `Goads.Transport.step` — one atomic step of one goroutine; `Goads.Transport.Reachable`.
* `Goads.Transport.Inv` — the invariant; `Goads.Transport.Issued` — a call that drew an id and
  registered it.
* `Goads.Transport.Addressed` — every frame in a channel, returned by a call, or being delivered
  carries the invoke id of its call.

## Main results

* `Goads.Transport.inv_reachable` — the invariant holds in every reachable state.
* `Goads.Transport.send_delivers_to_drawer` — while fewer than `2^32` ids are drawn, each
  delivered response goes to the one call that drew its invoke id, and each call's channel gets
  at most one.
* `Goads.Transport.send_returns_own_response` — a call returns only a frame with the invoke id
  it drew, and while fewer than `2^32` ids are drawn no other call holds that id.
* `Goads.Transport.send_timeout_keeps_handler` — `send` returns `ErrTimeout` with its handler
  still registered, and a late response is then pushed into the abandoned channel.
* `Goads.Transport.handler_call_pending_or_abandoned` — a handler entry names a call that is
  registered or waiting, or that timed out or was cancelled: those two branches are the only
  ones that leave an entry behind.

## Design

The channel `h` of call `k` is the field `Call.chan`; its `close` is not modelled, since no
receiver reads `h` twice. `pkt.Encode` cannot fail on the in-memory buffer, so the early return
on an encode error is not a step. The context and the timer are the environment: either may
fire whenever a call waits.
-/

namespace Goads.Transport

open Ams

/-- What a `send` call returned. -/
inductive SendResult
  /-- `c.conn.Write` failed; the handler was deleted. -/
  | writeError
  /-- `ctx.Err()`: the caller's context was done. -/
  | cancelled
  /-- `ErrTimeout`: the read timeout elapsed. -/
  | timeout
  /-- The response arrived on `h` and was handed to the callback. -/
  | response (p : Packet)
  deriving DecidableEq, Repr

/-- Where a `send` call is. -/
inductive SendPc
  /-- The invoke id is drawn, the request encoded and `h` made; not yet registered. -/
  | drawn
  /-- `c.handler[id] = h`; the request is not yet written. -/
  | registered
  /-- The request is written; the call waits in the `select`. -/
  | waiting
  /-- `send` has returned. -/
  | returned (r : SendResult)
  deriving DecidableEq, Repr

/-- One `send` call: its invoke id, where it is, and its buffered channel `h`. -/
structure Call where
  invokeID : UInt32
  pc : SendPc
  chan : Option Packet
  deriving DecidableEq, Repr

/-- The response branch of the receive pump. -/
inductive Pump
  /-- Ready to read the next frame. -/
  | idle
  /-- Has taken and deleted the handler of call `k`, and is about to send `p` on it. -/
  | delivering (k : ℕ) (p : Packet)
  deriving DecidableEq, Repr

/-- The client's multiplexing state. Calls are numbered in the order they drew their ids. -/
structure State where
  nextInvokeID : UInt32
  handler : UInt32 → Option ℕ
  calls : List Call
  pump : Pump
  /-- Ghost: every `h <- pkt` so far, as the call that owns `h` and the frame's invoke id. -/
  delivered : List (ℕ × UInt32)

/-- The state after `Dial`, whose `atomic.AddUint32(&c.nextInvokeID, 1)` draws id `1`. -/
def init : State := ⟨1, fun _ => none, [], .idle, []⟩

/-- One atomic step of one goroutine. -/
inductive Action
  /-- A new `send` call: `atomic.AddUint32(&c.nextInvokeID, 1)`, encode, `make(chan, 1)`. -/
  | draw
  /-- Call `k` registers `c.handler[id] = h`. -/
  | register (k : ℕ)
  /-- Call `k`'s `c.conn.Write` succeeds. -/
  | writeOk (k : ℕ)
  /-- Call `k`'s `c.conn.Write` fails: it deletes its handler and returns the error. -/
  | writeFail (k : ℕ)
  /-- Call `k`'s context is done: it returns `ctx.Err()`. -/
  | cancel (k : ℕ)
  /-- Call `k`'s timer fires: it returns `ErrTimeout`. -/
  | timeout (k : ℕ)
  /-- Call `k` receives from `h` and returns `cb(r)`. -/
  | recv (k : ℕ)
  /-- The pump reads response frame `p`, and takes and deletes the handler of its invoke id. -/
  | pop (p : Packet)
  /-- The pump sends the packet on the handler and closes it. -/
  | deliver
  /-- The pump's context is done: it drops the packet. -/
  | drop
  deriving DecidableEq, Repr

/-- Call `k` moves to `pc`, the channel being `chan`. -/
def State.setCall (s : State) (k : ℕ) (c : Call) : State := { s with calls := s.calls.set k c }

/-- One step: `none` when the action is not enabled. -/
def step (s : State) : Action → Option State
  | .draw =>
    some { s with
      nextInvokeID := s.nextInvokeID + 1
      calls := s.calls ++ [⟨s.nextInvokeID + 1, .drawn, none⟩] }
  | .register k => do
    let c ← s.calls[k]?
    guard (c.pc = .drawn)
    return { s with
      handler := Function.update s.handler c.invokeID (some k)
      calls := s.calls.set k { c with pc := .registered } }
  | .writeOk k => do
    let c ← s.calls[k]?
    guard (c.pc = .registered)
    return s.setCall k { c with pc := .waiting }
  | .writeFail k => do
    let c ← s.calls[k]?
    guard (c.pc = .registered)
    return { s with
      handler := Function.update s.handler c.invokeID none
      calls := s.calls.set k { c with pc := .returned .writeError } }
  | .cancel k => do
    let c ← s.calls[k]?
    guard (c.pc = .waiting)
    return s.setCall k { c with pc := .returned .cancelled }
  | .timeout k => do
    let c ← s.calls[k]?
    guard (c.pc = .waiting)
    return s.setCall k { c with pc := .returned .timeout }
  | .recv k => do
    let c ← s.calls[k]?
    guard (c.pc = .waiting)
    let p ← c.chan
    return s.setCall k { c with pc := .returned (.response p), chan := none }
  | .pop p => do
    guard (s.pump = .idle ∧ p.kind.isResponse)
    match s.handler p.header.invokeID with
    | none => return s
    | some k =>
      return { s with
        handler := Function.update s.handler p.header.invokeID none
        pump := .delivering k p }
  | .deliver =>
    match s.pump with
    | .idle => none
    | .delivering k p => do
      let c ← s.calls[k]?
      return { s with
        calls := s.calls.set k { c with chan := some p }
        pump := .idle
        delivered := s.delivered ++ [(k, p.header.invokeID)] }
  | .drop =>
    match s.pump with
    | .idle => none
    | .delivering _ _ => some { s with pump := .idle }

/-- The states of some run from `init`. -/
inductive Reachable : State → Prop
  | init : Reachable init
  | step {s s' : State} (a : Action) : Reachable s → step s a = some s' → Reachable s'

/-! ## Inversion of a step -/

@[simp] lemma guard_bind_eq_some {p : Prop} [Decidable p] {α : Type} {f : Unit → Option α}
    {a : α} : (guard p : Option Unit).bind f = some a ↔ p ∧ f () = some a := by
  by_cases hp : p <;> simp [guard, hp, failure]

@[simp] lemma setCall_handler (s : State) (k : ℕ) (c : Call) :
    (s.setCall k c).handler = s.handler := rfl

@[simp] lemma setCall_pump (s : State) (k : ℕ) (c : Call) : (s.setCall k c).pump = s.pump := rfl

@[simp] lemma setCall_delivered (s : State) (k : ℕ) (c : Call) :
    (s.setCall k c).delivered = s.delivered := rfl

@[simp] lemma setCall_calls (s : State) (k : ℕ) (c : Call) :
    (s.setCall k c).calls = s.calls.set k c := rfl

@[simp] lemma setCall_nextInvokeID (s : State) (k : ℕ) (c : Call) :
    (s.setCall k c).nextInvokeID = s.nextInvokeID := rfl

/-- What each step can do. The six call-local actions only rewrite call `k` (and, for
`register` and `writeFail`, the handler entry of its id); none of them fills a channel, a call
returns a response only from its own channel, and only `writeFail` returns a write error. `pop`
and `deliver` are the pump's. -/
lemma step_cases {s s' : State} {a : Action} (h : step s a = some s') :
    (a = .draw ∧ s' = { s with
        nextInvokeID := s.nextInvokeID + 1
        calls := s.calls ++ [⟨s.nextInvokeID + 1, .drawn, none⟩] }) ∨
    (∃ k c, a = .register k ∧ s.calls[k]? = some c ∧ c.pc = .drawn ∧ s' = { s with
        handler := Function.update s.handler c.invokeID (some k)
        calls := s.calls.set k { c with pc := .registered } }) ∨
    (∃ k c, a = .writeFail k ∧ s.calls[k]? = some c ∧ c.pc = .registered ∧ s' = { s with
        handler := Function.update s.handler c.invokeID none
        calls := s.calls.set k { c with pc := .returned .writeError } }) ∨
    (∃ k c c', s.calls[k]? = some c ∧ c'.invokeID = c.invokeID ∧ c'.pc ≠ .drawn ∧
        c'.pc ≠ .returned .writeError ∧ (∀ p, c'.chan = some p → c.chan = some p) ∧
        (∀ p, c'.pc = .returned (.response p) → c.chan = some p) ∧
        s' = s.setCall k c') ∨
    (∃ p : Packet, a = .pop p ∧ s.pump = .idle ∧ s.handler p.header.invokeID = none ∧ s' = s) ∨
    (∃ p k, a = .pop p ∧ s.pump = .idle ∧ s.handler p.header.invokeID = some k ∧ s' = { s with
        handler := Function.update s.handler p.header.invokeID none
        pump := .delivering k p }) ∨
    (∃ k p c, s.pump = .delivering k p ∧ s.calls[k]? = some c ∧ s' = { s with
        calls := s.calls.set k { c with chan := some p }
        pump := .idle
        delivered := s.delivered ++ [(k, p.header.invokeID)] }) ∨
    (∃ k p, s.pump = .delivering k p ∧ s' = { s with pump := .idle }) := by
  cases a with
  | draw => exact .inl ⟨rfl, (Option.some.inj h).symm⟩
  | register k =>
    simp only [step, Option.pure_def, Option.bind_eq_bind, Option.bind_eq_some,
      Option.guard_eq_some', Option.some.injEq, exists_const] at h
    obtain ⟨c, hc, hpc, rfl⟩ := h
    exact .inr (.inl ⟨k, c, rfl, hc, hpc, rfl⟩)
  | writeFail k =>
    simp only [step, Option.pure_def, Option.bind_eq_bind, Option.bind_eq_some,
      Option.guard_eq_some', Option.some.injEq, exists_const] at h
    obtain ⟨c, hc, hpc, rfl⟩ := h
    exact .inr (.inr (.inl ⟨k, c, rfl, hc, hpc, rfl⟩))
  | writeOk k | cancel k | timeout k =>
    simp only [step, Option.pure_def, Option.bind_eq_bind, Option.bind_eq_some,
      Option.guard_eq_some', Option.some.injEq, exists_const] at h
    obtain ⟨c, hc, hpc, rfl⟩ := h
    refine .inr (.inr (.inr (.inl ⟨k, c, _, hc, ?_, ?_, ?_, ?_, ?_, rfl⟩))) <;> simp
  | recv k =>
    simp only [step, Option.pure_def, Option.bind_eq_bind, Option.bind_eq_some,
      Option.guard_eq_some', Option.some.injEq, exists_const] at h
    obtain ⟨c, hc, hpc, p, hp, rfl⟩ := h
    refine .inr (.inr (.inr (.inl ⟨k, c, _, hc, ?_, ?_, ?_, ?_, ?_, rfl⟩))) <;> simp [hp]
  | pop p =>
    simp only [step, Option.bind_eq_bind, guard_bind_eq_some] at h
    obtain ⟨⟨hidle, -⟩, h⟩ := h
    cases hk : s.handler p.header.invokeID with
    | none =>
      rw [hk] at h
      exact .inr (.inr (.inr (.inr (.inl ⟨p, rfl, hidle, hk, (Option.some.inj h).symm⟩))))
    | some k =>
      rw [hk] at h
      exact .inr (.inr (.inr (.inr (.inr (.inl ⟨p, k, rfl, hidle, hk, (Option.some.inj h).symm⟩)))))
  | deliver =>
    cases hp : s.pump with
    | idle => simp only [step, hp, reduceCtorEq] at h
    | delivering k p =>
      simp only [step, hp, Option.pure_def, Option.bind_eq_bind, Option.bind_eq_some,
        Option.some.injEq] at h
      obtain ⟨c, hc, rfl⟩ := h
      exact .inr (.inr (.inr (.inr (.inr (.inr (.inl ⟨k, p, c, rfl, hc, rfl⟩))))))
  | drop =>
    cases hp : s.pump with
    | idle => simp only [step, hp, reduceCtorEq] at h
    | delivering k p =>
      simp only [step, hp, Option.some.injEq] at h
      exact .inr (.inr (.inr (.inr (.inr (.inr (.inr ⟨k, p, rfl, h.symm⟩))))))

/-! ## The invariant -/

section Lists

variable {α : Type} {l : List α} {i j : ℕ} {x y : α}

lemma getElem?_append_of_eq_some (h : l[i]? = some x) (m : List α) : (l ++ m)[i]? = some x := by
  rw [List.getElem?_append_left (List.getElem?_eq_some_iff.mp h).1, h]

lemma getElem?_concat_eq_some (h : (l ++ [x])[i]? = some y) :
    l[i]? = some y ∨ (i = l.length ∧ y = x) := by
  rw [List.getElem?_append] at h
  split at h
  · exact .inl h
  · have := (List.getElem?_eq_some_iff.mp h).1
    simp only [List.length_singleton] at this
    obtain rfl : i = l.length := by omega
    simp_all

lemma getElem?_set_eq_some (h : (l.set i x)[j]? = some y) :
    (i = j ∧ y = x) ∨ (i ≠ j ∧ l[j]? = some y) := by
  by_cases hij : i = j
  · subst hij
    rw [List.getElem?_set_self'] at h
    cases hl : l[i]? <;> simp_all
  · exact .inr ⟨hij, by rwa [List.getElem?_set_ne hij] at h⟩

end Lists

/-- Call `k` drew invoke id `id` and has registered its handler. -/
def Issued (calls : List Call) (k : ℕ) (id : UInt32) : Prop :=
  ∃ c, calls[k]? = some c ∧ c.invokeID = id ∧ c.pc ≠ .drawn

lemma Issued.append {calls : List Call} {k : ℕ} {id : UInt32} (h : Issued calls k id)
    (l : List Call) : Issued (calls ++ l) k id := by
  obtain ⟨c, hc, hid, hpc⟩ := h
  exact ⟨c, getElem?_append_of_eq_some hc l, hid, hpc⟩

/-- Rewriting a call with one of the same id that is past registration keeps every call
issued. -/
lemma Issued.set {calls : List Call} {j k : ℕ} {id : UInt32} {c c' : Call} (h : Issued calls j id)
    (hc : calls[k]? = some c) (hid : c'.invokeID = c.invokeID) (hpc : c'.pc ≠ .drawn) :
    Issued (calls.set k c') j id := by
  obtain ⟨c₀, hc₀, rfl, hpc₀⟩ := h
  by_cases hjk : k = j
  · subst hjk
    obtain rfl : c₀ = c := Option.some.inj (hc₀.symm.trans hc)
    exact ⟨c', by simp [List.getElem?_set, (List.getElem?_eq_some_iff.mp hc).1], hid, hpc⟩
  · exact ⟨c₀, by rw [List.getElem?_set_ne hjk, hc₀], rfl, hpc₀⟩

/-- A call that has not registered is not issued. -/
lemma Issued.not_drawn {calls : List Call} {k : ℕ} {id : UInt32} {c : Call}
    (h : Issued calls k id) (hc : calls[k]? = some c) : c.pc ≠ .drawn := by
  obtain ⟨c₀, hc₀, -, hpc₀⟩ := h
  rwa [Option.some.inj (hc₀.symm.trans hc)] at hpc₀

/-- The invariant of the multiplexer. -/
structure Inv (s : State) : Prop where
  /-- The counter has been advanced once by `Dial` and once per call. -/
  next : s.nextInvokeID = UInt32.ofNat (s.calls.length + 1)
  /-- Call `k` drew id `k + 2`. -/
  ids : ∀ k c, s.calls[k]? = some c → c.invokeID = UInt32.ofNat (k + 2)
  /-- A handler entry belongs to a call that drew its id and registered. -/
  registered : ∀ id k, s.handler id = some k → Issued s.calls k id
  /-- The pump only delivers a popped registration, to a call no longer registered and not yet
  answered. -/
  delivering : ∀ k p, s.pump = .delivering k p →
    Issued s.calls k p.header.invokeID ∧ (∀ id, s.handler id ≠ some k) ∧
      k ∉ s.delivered.map Prod.fst
  /-- A delivery went to the call that drew the frame's id, which is no longer registered. -/
  deliveredTo : ∀ k id, (k, id) ∈ s.delivered → Issued s.calls k id ∧ ∀ id', s.handler id' ≠ some k
  /-- Each call's channel got at most one response. -/
  nodup : (s.delivered.map Prod.fst).Nodup

lemma inv_init : Inv init :=
  ⟨rfl, by simp [init], by simp [init], by simp [init], by simp [init], by simp [init]⟩

/-! ## Each step keeps the invariant -/

lemma Issued.invokeID_eq {calls : List Call} {k : ℕ} {id id' : UInt32} (h : Issued calls k id)
    (h' : Issued calls k id') : id = id' := by
  obtain ⟨c, hc, rfl, -⟩ := h
  obtain ⟨c', hc', rfl, -⟩ := h'
  rw [Option.some.inj (hc.symm.trans hc')]

lemma ids_set {calls : List Call} {f : ℕ → UInt32} {k : ℕ} {c c' : Call}
    (h : ∀ j d, calls[j]? = some d → d.invokeID = f j) (hc : calls[k]? = some c)
    (hid : c'.invokeID = c.invokeID) : ∀ j d, (calls.set k c')[j]? = some d → d.invokeID = f j := by
  intro j d hd
  by_cases hkj : k = j
  · subst hkj
    rw [List.getElem?_set_self (List.getElem?_eq_some_iff.mp hc).1] at hd
    rw [← Option.some.inj hd, hid, h k c hc]
  · exact h j d (by rwa [List.getElem?_set_ne hkj] at hd)

lemma ofNat_add_one (n : ℕ) : UInt32.ofNat n + 1 = UInt32.ofNat (n + 1) := by
  apply UInt32.ext
  rw [UInt32.toNat_add, toNat_uint32_ofNat, toNat_uint32_ofNat]
  simp only [UInt32.toNat_ofNat, UInt32.size]
  omega

lemma inv_draw {s : State} (h : Inv s) : Inv { s with
    nextInvokeID := s.nextInvokeID + 1
    calls := s.calls ++ [⟨s.nextInvokeID + 1, .drawn, none⟩] } where
  next := by simp [h.next, ofNat_add_one]
  ids k c hc := by
    rw [List.getElem?_append] at hc
    split at hc
    · exact h.ids k c hc
    · have hk : k = s.calls.length := by
        have := (List.getElem?_eq_some_iff.mp hc).1
        simp only [List.length_singleton] at this
        omega
      subst hk
      simp only [Nat.sub_self, List.getElem?_cons_zero, Option.some.injEq] at hc
      rw [← hc, h.next, ofNat_add_one]
  registered id k hk := (h.registered id k hk).append _
  delivering k p hp := by
    obtain ⟨h₁, h₂, h₃⟩ := h.delivering k p hp
    exact ⟨h₁.append _, h₂, h₃⟩
  deliveredTo k id hk := by
    obtain ⟨h₁, h₂⟩ := h.deliveredTo k id hk
    exact ⟨h₁.append _, h₂⟩
  nodup := h.nodup

lemma inv_register {s : State} {k : ℕ} {c : Call} (h : Inv s) (hc : s.calls[k]? = some c)
    (hpc : c.pc = .drawn) : Inv { s with
      handler := Function.update s.handler c.invokeID (some k)
      calls := s.calls.set k { c with pc := .registered } } := by
  have hset : ∀ {j id}, Issued s.calls j id → Issued (s.calls.set k { c with pc := .registered }) j id :=
    fun hj => hj.set hc rfl (by simp)
  have hne : ∀ {j id}, Issued s.calls j id → k ≠ j := by
    rintro j id hj rfl
    exact hj.not_drawn hc hpc
  refine ⟨by simp [h.next], ids_set h.ids hc rfl, fun id j hj => ?_, fun j p hp => ?_,
    fun j id hj => ?_, h.nodup⟩
  · dsimp only at hj ⊢
    by_cases hid : id = c.invokeID
    · subst hid
      simp only [Function.update_same, Option.some.injEq] at hj
      subst hj
      exact ⟨_, List.getElem?_set_self (List.getElem?_eq_some_iff.mp hc).1, rfl, by simp⟩
    · rw [Function.update_noteq hid] at hj
      exact hset (h.registered id j hj)
  · obtain ⟨h₁, h₂, h₃⟩ := h.delivering j p hp
    refine ⟨hset h₁, fun id => ?_, h₃⟩
    dsimp only
    rw [Function.update_apply]
    split
    · simpa using hne h₁
    · exact h₂ id
  · obtain ⟨h₁, h₂⟩ := h.deliveredTo j id hj
    refine ⟨hset h₁, fun id' => ?_⟩
    dsimp only
    rw [Function.update_apply]
    split
    · simpa using hne h₁
    · exact h₂ id'

/-- Deleting a handler entry keeps every fact the invariant states about the entries left. -/
lemma update_none_ne {f : UInt32 → Option ℕ} {id id' : UInt32} {k : ℕ} (h : f id' ≠ some k) :
    Function.update f id none id' ≠ some k := by
  rw [Function.update_apply]
  split
  · simp
  · exact h

lemma eq_of_update_none {f : UInt32 → Option ℕ} {id id' : UInt32} {k : ℕ}
    (h : Function.update f id none id' = some k) : f id' = some k := by
  rw [Function.update_apply] at h
  split at h
  · cases h
  · exact h

lemma eq_of_update_some {f : UInt32 → Option ℕ} {id id' : UInt32} {j k : ℕ}
    (h : Function.update f id (some k) id' = some j) (hjk : j ≠ k) : f id' = some j := by
  rw [Function.update_apply] at h
  split at h
  · exact absurd (Option.some.inj h).symm hjk
  · exact h

lemma inv_writeFail {s : State} {k : ℕ} {c : Call} (h : Inv s) (hc : s.calls[k]? = some c) :
    Inv { s with
      handler := Function.update s.handler c.invokeID none
      calls := s.calls.set k { c with pc := .returned .writeError } } := by
  have hset : ∀ {j id}, Issued s.calls j id →
      Issued (s.calls.set k { c with pc := .returned .writeError }) j id :=
    fun hj => hj.set hc rfl (by simp)
  refine ⟨by simp [h.next], ids_set h.ids hc rfl,
    fun id j hj => hset (h.registered id j (eq_of_update_none hj)), fun j p hp => ?_,
    fun j id hj => ?_, h.nodup⟩
  · obtain ⟨h₁, h₂, h₃⟩ := h.delivering j p hp
    exact ⟨hset h₁, fun id => update_none_ne (h₂ id), h₃⟩
  · obtain ⟨h₁, h₂⟩ := h.deliveredTo j id hj
    exact ⟨hset h₁, fun id' => update_none_ne (h₂ id')⟩

lemma inv_setCall {s : State} {k : ℕ} {c c' : Call} (h : Inv s) (hc : s.calls[k]? = some c)
    (hid : c'.invokeID = c.invokeID) (hpc' : c'.pc ≠ .drawn) : Inv (s.setCall k c') := by
  have hset : ∀ {j id}, Issued s.calls j id → Issued (s.calls.set k c') j id :=
    fun hj => hj.set hc hid hpc'
  refine ⟨by simp [h.next], ids_set h.ids hc hid, fun id j hj => hset (h.registered id j hj),
    fun j p hp => ?_, fun j id hj => ?_, h.nodup⟩
  · obtain ⟨h₁, h₂, h₃⟩ := h.delivering j p hp
    exact ⟨hset h₁, h₂, h₃⟩
  · obtain ⟨h₁, h₂⟩ := h.deliveredTo j id hj
    exact ⟨hset h₁, h₂⟩

lemma inv_pop {s : State} {p : Packet} {k : ℕ} (h : Inv s)
    (hk : s.handler p.header.invokeID = some k) : Inv { s with
      handler := Function.update s.handler p.header.invokeID none
      pump := .delivering k p } := by
  refine ⟨h.next, h.ids, fun id j hj => h.registered id j (eq_of_update_none hj),
    fun j q hq => ?_, fun j id hj => ?_, h.nodup⟩
  · obtain ⟨rfl, rfl⟩ : k = j ∧ p = q := by simpa using hq
    have hiss := h.registered _ _ hk
    refine ⟨hiss, fun id => ?_, fun hmem => ?_⟩
    · dsimp only
      rw [Function.update_apply]
      split
      · simp
      · intro hid
        exact ‹¬id = _› (hiss.invokeID_eq (h.registered id k hid)).symm
    · obtain ⟨⟨_, id⟩, hd, rfl⟩ := List.mem_map.mp hmem
      exact (h.deliveredTo _ id hd).2 _ hk
  · obtain ⟨h₁, h₂⟩ := h.deliveredTo j id hj
    exact ⟨h₁, fun id' => update_none_ne (h₂ id')⟩

lemma inv_deliver {s : State} {k : ℕ} {p : Packet} {c : Call} (h : Inv s)
    (hp : s.pump = .delivering k p) (hc : s.calls[k]? = some c) : Inv { s with
      calls := s.calls.set k { c with chan := some p }
      pump := .idle
      delivered := s.delivered ++ [(k, p.header.invokeID)] } := by
  obtain ⟨h₁, h₂, h₃⟩ := h.delivering k p hp
  have hset : ∀ {j id}, Issued s.calls j id → Issued (s.calls.set k { c with chan := some p }) j id :=
    fun hj => hj.set hc rfl (show c.pc ≠ _ from h₁.not_drawn hc)
  refine ⟨by simp [h.next], ids_set h.ids hc rfl, fun id j hj => hset (h.registered id j hj),
    fun j q hq => by simp at hq, fun j id hj => ?_, ?_⟩
  · rcases List.mem_append.mp hj with hj | hj
    · obtain ⟨h₁', h₂'⟩ := h.deliveredTo j id hj
      exact ⟨hset h₁', h₂'⟩
    · obtain ⟨rfl, rfl⟩ : j = k ∧ id = p.header.invokeID := by simpa using hj
      exact ⟨hset h₁, h₂⟩
  · simpa [List.nodup_append, h.nodup] using h₃

lemma inv_drop {s : State} (h : Inv s) : Inv { s with pump := .idle } :=
  ⟨h.next, h.ids, h.registered, fun _ _ hp => by simp at hp, h.deliveredTo, h.nodup⟩

lemma inv_step {s s' : State} {a : Action} (h : Inv s) (hs : step s a = some s') : Inv s' := by
  rcases step_cases hs with ⟨-, rfl⟩ | ⟨k, c, -, hc, hpc, rfl⟩ | ⟨k, c, -, hc, -, rfl⟩ |
    ⟨k, c, c', hc, hid, hpc', -, -, -, rfl⟩ | ⟨p, -, -, -, rfl⟩ | ⟨p, k, -, -, hk, rfl⟩ |
    ⟨k, p, c, hp, hc, rfl⟩ | ⟨k, p, -, rfl⟩
  · exact inv_draw h
  · exact inv_register h hc hpc
  · exact inv_writeFail h hc
  · exact inv_setCall h hc hid hpc'
  · exact h
  · exact inv_pop h hk
  · exact inv_deliver h hp hc
  · exact inv_drop h

/-- The invariant holds in every reachable state. -/
theorem inv_reachable {s : State} (h : Reachable s) : Inv s := by
  induction h with
  | init => exact inv_init
  | step _ _ hs ih => exact inv_step ih hs

/-! ## Responses reach their caller -/

/-- The state after a sequence of actions, if each was enabled. -/
def run (s : State) : List Action → Option State
  | [] => some s
  | a :: as => (step s a).bind (run · as)

lemma reachable_run {s s' : State} (hs : Reachable s) :
    ∀ {as : List Action}, run s as = some s' → Reachable s' := by
  intro as
  induction as generalizing s with
  | nil => intro h; exact (Option.some.inj h) ▸ hs
  | cons a as ih =>
    intro h
    obtain ⟨t, ht, h⟩ := Option.bind_eq_some.mp h
    exact ih (.step a hs ht) h


/-- While fewer than `2^32` ids are drawn, call `k` holds id `k + 2` and no other call does. -/
lemma Inv.invokeID_injective {s : State} (h : Inv s) (hlen : s.calls.length < 2 ^ 32)
    {j k : ℕ} {cj ck : Call} (hj : s.calls[j]? = some cj) (hk : s.calls[k]? = some ck)
    (hid : cj.invokeID = ck.invokeID) : j = k := by
  have hj' := (List.getElem?_eq_some_iff.mp hj).1
  have hk' := (List.getElem?_eq_some_iff.mp hk).1
  rw [h.ids j cj hj, h.ids k ck hk] at hid
  have := congrArg UInt32.toNat hid
  simp only [toNat_uint32_ofNat] at this
  omega

/-- **Each response reaches the call that drew its invoke id, at most once.** In every state of
every interleaving in which fewer than `2^32` ids have been drawn, no two calls hold the same id;
every `h <- pkt` of the pump went to the channel of the call that drew the frame's invoke id (and
had registered it); and no call's channel was sent two responses. A frame whose id has no
registration is delivered to no one: the pump only sends on a handler it has just taken out of
the table.

**Proof sketch.** `inv_reachable`; call `k` holds id `k + 2` mod `2^32`, which is injective
below `2^32` calls. -/
theorem send_delivers_to_drawer {s : State} (hs : Reachable s) (hlen : s.calls.length < 2 ^ 32) :
    (∀ (j k : ℕ) (cj ck : Call), s.calls[j]? = some cj → s.calls[k]? = some ck →
      cj.invokeID = ck.invokeID → j = k) ∧
    (∀ k id, (k, id) ∈ s.delivered → Issued s.calls k id) ∧
    (s.delivered.map Prod.fst).Nodup := by
  have h := inv_reachable hs
  exact ⟨fun j k cj ck hj hk hid => h.invokeID_injective hlen hj hk hid,
    fun k id hk => (h.deliveredTo k id hk).1, h.nodup⟩

/-- A `send` call's round trip: it draws id `2`, registers, writes, the pump takes its handler
for the `Write` response with invoke id `2` and delivers it, and the call receives it. -/
theorem send_delivers_to_drawer_roundTrip :
    let addr : Addr := ⟨⟨[192, 168, 0, 1, 1, 1], rfl⟩, 851⟩
    let resp : Packet :=
      .writeResponse ⟨⟨0, 36⟩, ⟨addr, addr, cmdADSWrite, stateADSCommand ||| stateResponse, 4, 0, 2⟩, 0⟩
    let s := (run init [.draw, .register 0, .writeOk 0, .pop resp, .deliver, .recv 0]).get (by decide)
    Reachable s ∧ s.calls.length < 2 ^ 32 ∧
      ((∀ (j k : ℕ) (cj ck : Call), s.calls[j]? = some cj → s.calls[k]? = some ck →
        cj.invokeID = ck.invokeID → j = k) ∧
      (∀ k id, (k, id) ∈ s.delivered → Issued s.calls k id) ∧
      (s.delivered.map Prod.fst).Nodup) ∧
    s.delivered = [(0, 2)] ∧ (s.calls[0]?).map Call.pc = some (.returned (.response resp)) :=
  have hs := reachable_run .init (Option.some_get _).symm
  ⟨hs, by decide, send_delivers_to_drawer hs (by decide), by decide, by decide⟩

/-! ## Calls the pump has not answered -/

/-- What `send` returned, once it has. -/
def SendPc.result? : SendPc → Option SendResult
  | .returned r => some r
  | _ => none

/-- What call `k` returned, once it has. -/
def State.result? (s : State) (k : ℕ) : Option SendResult := s.calls[k]? >>= fun c => c.pc.result?

@[simp] lemma SendPc.result?_eq_some {pc : SendPc} {r : SendResult} :
    pc.result? = some r ↔ pc = .returned r := by
  cases pc <;> simp [result?]

lemma State.result?_eq_some {s : State} {k : ℕ} {r : SendResult} :
    s.result? k = some r ↔ ∃ c, s.calls[k]? = some c ∧ c.pc = .returned r := by
  simp [State.result?, Option.bind_eq_some]

/-- No response is in call `c`'s channel, and it has not returned one. -/
def Call.Unanswered (c : Call) : Prop := c.chan = none ∧ ∀ p, c.pc ≠ .returned (.response p)

lemma Call.Unanswered.result {s : State} {k : ℕ} {c : Call} {r : SendResult}
    (hu : c.Unanswered) (hc : s.calls[k]? = some c) (hr : s.result? k = some r) :
    ∀ p, r ≠ .response p := by
  rintro p rfl
  obtain ⟨c', hc', hpc⟩ := State.result?_eq_some.mp hr
  obtain rfl := Option.some.inj (hc'.symm.trans hc)
  exact hu.2 p hpc

/-- A call-local step, which fills no channel and takes a response only from its own, keeps an
unanswered call unanswered. -/
lemma Call.Unanswered.of_local {c c' : Call} (hu : c.Unanswered)
    (hch : ∀ p, c'.chan = some p → c.chan = some p)
    (hpc : ∀ p, c'.pc = .returned (.response p) → c.chan = some p) : c'.Unanswered := by
  refine ⟨Option.eq_none_iff_forall_not_mem.mpr fun p hp => ?_, fun p hp => ?_⟩
  · simpa [hu.1] using hch p hp
  · simpa [hu.1] using hpc p hp

/-- A step that is not the pump's reading of a response leaves an idle pump idle. -/
lemma step_pump_idle {s s' : State} {a : Action} (h : step s a = some s') (hp : s.pump = .idle)
    (ha : ∀ p, a ≠ .pop p) : s'.pump = .idle := by
  rcases step_cases h with ⟨-, rfl⟩ | ⟨-, -, -, -, -, rfl⟩ | ⟨-, -, -, -, -, rfl⟩ |
    ⟨-, -, -, -, -, -, -, -, -, rfl⟩ | ⟨p, rfl, -⟩ | ⟨p, -, rfl, -⟩ | ⟨_, _, _, hp', -⟩ |
    ⟨_, _, hp', -⟩
  · exact hp
  · exact hp
  · exact hp
  · exact hp
  · exact absurd rfl (ha p)
  · exact absurd rfl (ha p)
  · cases hp.symm.trans hp'
  · cases hp.symm.trans hp'

/-- While the pump is idle and reads no response, an unanswered call stays unanswered: only the
pump's `h <- pkt` fills a channel, and only a filled channel lets a call return a response. -/
lemma step_unanswered {s s' : State} {a : Action} (h : step s a = some s') (hp : s.pump = .idle)
    (ha : ∀ p, a ≠ .pop p) {k : ℕ} {c : Call} (hc : s.calls[k]? = some c) (hu : c.Unanswered) :
    ∃ c', s'.calls[k]? = some c' ∧ c'.Unanswered := by
  have hk := (List.getElem?_eq_some_iff.mp hc).1
  -- A step that rewrites call `j` keeps call `k` unanswered if it does so when `j = k`.
  have hset : ∀ {j} (x : Call), (j = k → x.Unanswered) →
      ∃ c', (s.calls.set j x)[k]? = some c' ∧ c'.Unanswered := by
    intro j x hx
    by_cases hjk : j = k
    · subst hjk
      exact ⟨x, List.getElem?_set_self hk, hx rfl⟩
    · exact ⟨c, by rw [List.getElem?_set_ne hjk, hc], hu⟩
  have same : ∀ {j d}, s.calls[j]? = some d → j = k → d = c := fun hd hjk =>
    Option.some.inj (hd.symm.trans (hjk ▸ hc))
  rcases step_cases h with ⟨-, rfl⟩ | ⟨j, d, -, hd, -, rfl⟩ | ⟨j, d, -, hd, -, rfl⟩ |
    ⟨j, d, d', hd, -, -, -, hch, hpc, rfl⟩ | ⟨p, rfl, -⟩ | ⟨p, -, rfl, -⟩ | ⟨_, _, _, hp', -⟩ |
    ⟨_, _, hp', -⟩
  · exact ⟨c, by simp [List.getElem?_append_left hk, hc], hu⟩
  · exact hset _ fun hjk => same hd hjk ▸ ⟨hu.1, by simp⟩
  · exact hset _ fun hjk => same hd hjk ▸ ⟨hu.1, by simp⟩
  · exact hset _ fun hjk => hu.of_local (same hd hjk ▸ hch) (same hd hjk ▸ hpc)
  · exact absurd rfl (ha p)
  · exact absurd rfl (ha p)
  · cases hp.symm.trans hp'
  · cases hp.symm.trans hp'

/-! ## A call returns only a response to its own invoke id -/

/-- The frame in call `c`'s channel, and the response it returned, carry its invoke id. -/
def Call.Addressed (c : Call) : Prop :=
  (∀ p, c.chan = some p → p.header.invokeID = c.invokeID) ∧
    ∀ p, c.pc = .returned (.response p) → p.header.invokeID = c.invokeID

/-- Every call is addressed, and the frame the pump is about to send on a call's channel carries
that call's invoke id. -/
structure Addressed (calls : List Call) (pump : Pump) : Prop where
  call : ∀ (k : ℕ) (c : Call), calls[k]? = some c → c.Addressed
  delivering : ∀ (k : ℕ) (p : Packet) (c : Call), pump = .delivering k p → calls[k]? = some c →
    p.header.invokeID = c.invokeID

/-- Rewriting a call with an addressed call of the same id keeps every call addressed. -/
lemma Addressed.set {calls : List Call} {pump : Pump} (ha : Addressed calls pump) {j : ℕ}
    {c x : Call} (hc : calls[j]? = some c) (hx : x.Addressed) (hid : x.invokeID = c.invokeID) :
    Addressed (calls.set j x) pump := by
  refine ⟨fun k d hd => ?_, fun k p d hp hd => ?_⟩
  · rcases getElem?_set_eq_some hd with ⟨-, rfl⟩ | ⟨-, hd⟩
    · exact hx
    · exact ha.call k d hd
  · rcases getElem?_set_eq_some hd with ⟨rfl, rfl⟩ | ⟨-, hd⟩
    · exact hid ▸ ha.delivering _ p c hp hc
    · exact ha.delivering k p d hp hd

lemma Addressed.idle {calls : List Call} {pump : Pump} (ha : Addressed calls pump) :
    Addressed calls .idle :=
  ⟨ha.call, fun _ _ _ hq => by cases hq⟩

/-- A step keeps every frame addressed: a call takes a response only from its channel, the pump
sends on the channel of the call registered under the frame's id, and that call drew the id. -/
lemma addressed_step {s s' : State} {a : Action} (hi : Inv s) (ha : Addressed s.calls s.pump)
    (h : step s a = some s') : Addressed s'.calls s'.pump := by
  rcases step_cases h with ⟨-, rfl⟩ | ⟨k, c, -, hc, -, rfl⟩ | ⟨k, c, -, hc, -, rfl⟩ |
    ⟨k, c, c', hc, hid, -, -, hch, hpc, rfl⟩ | ⟨p, -, -, -, rfl⟩ | ⟨p, k, -, -, hk, rfl⟩ |
    ⟨k, p, c, hp, hc, rfl⟩ | ⟨k, p, -, rfl⟩
  · -- `draw`: a new call, with an empty channel, that has not returned
    refine ⟨fun j d hd => ?_, fun j p d hp hd => ha.delivering j p d hp ?_⟩
    · rcases getElem?_concat_eq_some hd with hd | ⟨-, rfl⟩
      · exact ha.call j d hd
      · exact ⟨fun p hp => (by cases hp), fun p hp => (by cases hp)⟩
    · obtain ⟨d', hd', -⟩ := (hi.delivering j p hp).1
      rw [getElem?_append_of_eq_some hd'] at hd
      rwa [← hd]
  · exact ha.set hc ⟨(ha.call k c hc).1, fun p hp => by cases hp⟩ rfl
  · exact ha.set hc ⟨(ha.call k c hc).1, fun p hp => by cases hp⟩ rfl
  · have hca := ha.call k c hc
    exact ha.set hc ⟨fun p hp => hid ▸ hca.1 p (hch p hp), fun p hp => hid ▸ hca.1 p (hpc p hp)⟩
      hid
  · exact ha
  · -- `pop`: the handler under the frame's id is the call that drew it
    refine ⟨ha.call, fun j q d hq hd => ?_⟩
    obtain ⟨rfl, rfl⟩ : k = j ∧ p = q := by simpa using hq
    obtain ⟨d', hd', hid, -⟩ := hi.registered _ _ hk
    obtain rfl := Option.some.inj (hd'.symm.trans hd)
    exact hid.symm
  · -- `deliver`: the frame goes into the channel of the call it was popped for
    have hx : Call.Addressed { c with chan := some p } :=
      ⟨fun q hq => Option.some.inj hq ▸ ha.delivering k p c hp hc, (ha.call k c hc).2⟩
    exact (ha.set hc hx rfl).idle
  · exact ha.idle

lemma addressed_reachable {s : State} (hs : Reachable s) : Addressed s.calls s.pump := by
  induction hs with
  | init => exact ⟨by simp [init], by simp [init]⟩
  | step _ hs h ih => exact addressed_step (inv_reachable hs) ih h

/-- **Each call returns only the response to its own request.** In every state of every
interleaving, a `send` call that returned a response returned a frame carrying the invoke id it
drew; while fewer than `2^32` ids are drawn, no other call holds that id.

**Proof sketch.** `Addressed` holds initially and every step keeps it (`addressed_step`, with the
multiplexer's invariant for the handler table); uniqueness is `Inv.invokeID_injective`. -/
theorem send_returns_own_response {s : State} (hs : Reachable s) (hlen : s.calls.length < 2 ^ 32)
    {k : ℕ} {p : Packet} (hr : s.result? k = some (.response p)) :
    ∃ c, s.calls[k]? = some c ∧ p.header.invokeID = c.invokeID ∧
      ∀ j d, s.calls[j]? = some d → d.invokeID = p.header.invokeID → j = k := by
  obtain ⟨c, hc, hpc⟩ := State.result?_eq_some.mp hr
  have hp := ((addressed_reachable hs).call k c hc).2 p hpc
  exact ⟨c, hc, hp, fun j d hd hid => (inv_reachable hs).invokeID_injective hlen hd hc (hid.trans hp)⟩

/-! ## A timed-out call stays registered -/

/-- **`send` returns `ErrTimeout` with its handler still in the table.** Call `0` draws id `2`,
registers, writes and times out; in the state it returns in, `c.handler[2]` still names it. A
`Read` response with invoke id `2` that arrives afterwards is not dropped as having no handler:
the pump takes the stale entry and sends the response into the abandoned channel. -/
theorem send_timeout_keeps_handler :
    let addr : Addr := ⟨⟨[192, 168, 0, 1, 1, 1], rfl⟩, 851⟩
    let late : Packet :=
      .readResponse ⟨⟨0, 40⟩, ⟨addr, addr, cmdADSRead, stateADSCommand ||| stateResponse, 8, 0, 2⟩,
        0, 0, []⟩
    ∃ s s', Reachable s ∧ s.calls.map Call.pc = [.returned .timeout] ∧ s.handler 2 = some 0 ∧
      run s [.pop late, .deliver] = some s' ∧ s'.delivered = [(0, 2)] := by
  intro addr late
  have h : (run init [.draw, .register 0, .writeOk 0, .timeout 0]).isSome := by decide
  refine ⟨_, _, reachable_run .init (Option.some_get h).symm, rfl, rfl,
    (Option.some_get (by rfl)).symm, rfl⟩

/-- A call that has not registered, or that a handler entry names, is unanswered and has not
returned a write error. -/
def Held (s : State) : Prop :=
  ∀ k c, s.calls[k]? = some c → (c.pc = .drawn ∨ ∃ id, s.handler id = some k) →
    c.Unanswered ∧ c.pc ≠ .returned .writeError

lemma held_step {s s' : State} {a : Action} (hi : Inv s) (hh : Held s) (h : step s a = some s') :
    Held s' := by
  -- The entries naming call `k` are the one under its own id (`Inv.registered`).
  have own : ∀ {k c id}, s.calls[k]? = some c → s.handler id = some k → id = c.invokeID :=
    fun hc hid => by
      obtain ⟨d, hd, rfl, -⟩ := hi.registered _ _ hid
      exact congrArg Call.invokeID (Option.some.inj (hd.symm.trans hc))
  rcases step_cases h with ⟨-, rfl⟩ | ⟨k, c, -, hc, hpc, rfl⟩ | ⟨k, c, -, hc, -, rfl⟩ |
    ⟨k, c, c', hc, -, hpc', hwe, hch, hresp, rfl⟩ | ⟨p, -, -, -, rfl⟩ | ⟨p, k, -, -, -, rfl⟩ |
    ⟨k, p, c, hp, hc, rfl⟩ | ⟨k, p, -, rfl⟩
  · -- `draw`: the new call has an empty channel
    intro j d hd hpre
    rcases getElem?_concat_eq_some hd with hd | ⟨-, rfl⟩
    · exact hh j d hd hpre
    · exact ⟨⟨rfl, fun p => (by simp)⟩, by simp⟩
  · -- `register k`: call `k` was drawn, so unanswered
    intro j d hd hpre
    rcases getElem?_set_eq_some hd with ⟨rfl, rfl⟩ | ⟨hkj, hd⟩
    · exact ⟨⟨(hh _ c hc (.inl hpc)).1.1, fun p => (by simp)⟩, by simp⟩
    · exact hh j d hd (hpre.imp_right fun ⟨id, hid⟩ => ⟨id, eq_of_update_some hid (Ne.symm hkj)⟩)
  · -- `writeFail k`: deletes the only entry naming call `k`
    intro j d hd hpre
    rcases getElem?_set_eq_some hd with ⟨rfl, rfl⟩ | ⟨hkj, hd⟩
    · rcases hpre with hpre | ⟨id, hid⟩
      · cases hpre
      · obtain rfl := own hc (eq_of_update_none hid)
        simp at hid
    · exact hh j d hd (hpre.imp_right fun ⟨id, hid⟩ => ⟨id, eq_of_update_none hid⟩)
  · -- a call-local step: the entries stay, and the call keeps what `Held` says
    intro j d hd hpre
    rcases getElem?_set_eq_some hd with ⟨rfl, rfl⟩ | ⟨-, hd⟩
    · have hc' := hh _ c hc (.inr (hpre.resolve_left hpc'))
      exact ⟨hc'.1.of_local hch hresp, hwe⟩
    · exact hh j d hd hpre
  · exact hh
  · -- `pop`: deletes an entry
    exact fun j d hd hpre => hh j d hd (hpre.imp_right fun ⟨id, hid⟩ => ⟨id, eq_of_update_none hid⟩)
  · -- `deliver`: the call it fills is registered and has no entry
    intro j d hd hpre
    obtain ⟨hiss, hno, -⟩ := hi.delivering k p hp
    rcases getElem?_set_eq_some hd with ⟨rfl, rfl⟩ | ⟨-, hd⟩
    · rcases hpre with hpre | ⟨id, hid⟩
      · exact (hiss.not_drawn hc hpre).elim
      · exact absurd hid (hno id)
    · exact hh j d hd hpre
  · exact hh

lemma held_reachable {s : State} (hs : Reachable s) : Held s := by
  induction hs with
  | init => intro k c hc; simp [init] at hc
  | step _ hs h ih => exact held_step (inv_reachable hs) ih h

/-- **Only a timed-out or cancelled call leaves its handler behind.** In every state of every
interleaving, a handler entry names a call that drew its id and is still registered or waiting,
or that returned `ErrTimeout` or `ctx.Err()`: the write-error branch deletes its entry, and a
call that received a response had its entry taken by the pump.

**Proof sketch.** `Held` holds initially and every step keeps it (`held_step`, with the
multiplexer's invariant: the only entry naming a call is under its own id). -/
theorem handler_call_pending_or_abandoned {s : State} (hs : Reachable s) {id : UInt32} {k : ℕ}
    (h : s.handler id = some k) :
    ∃ c, s.calls[k]? = some c ∧ c.invokeID = id ∧ (c.pc = .registered ∨ c.pc = .waiting ∨
      c.pc = .returned .timeout ∨ c.pc = .returned .cancelled) := by
  obtain ⟨c, hc, hid, hpc⟩ := (inv_reachable hs).registered id k h
  obtain ⟨hu, hwe⟩ := held_reachable hs k c hc (.inr ⟨id, h⟩)
  refine ⟨c, hc, hid, ?_⟩
  rcases hcp : c.pc with _ | _ | _ | r
  · exact absurd hcp hpc
  · exact .inl rfl
  · exact .inr (.inl rfl)
  · cases r with
    | writeError => exact absurd hcp hwe
    | cancelled => exact .inr (.inr (.inr rfl))
    | timeout => exact .inr (.inr (.inl rfl))
    | response p => exact absurd hcp (hu.2 p)

/-- Call `0` draws id `2`, registers, writes and times out: the entry under `2` names a call that
returned `ErrTimeout`. -/
theorem handler_call_pending_or_abandoned_timeout :
    let s := (run init [.draw, .register 0, .writeOk 0, .timeout 0]).get (by decide)
    Reachable s ∧ s.handler 2 = some 0 ∧
      ∃ c, s.calls[0]? = some c ∧ c.invokeID = 2 ∧ (c.pc = .registered ∨ c.pc = .waiting ∨
        c.pc = .returned .timeout ∨ c.pc = .returned .cancelled) :=
  have hs := reachable_run .init (Option.some_get _).symm
  ⟨hs, by decide, handler_call_pending_or_abandoned hs (by decide)⟩

end Goads.Transport
