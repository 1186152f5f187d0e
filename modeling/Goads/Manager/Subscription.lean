import Goads.Client.Transport

/-!
# Subscriptions and the notification dispatcher

`NotificationManager.Subscribe`, `NotificationManager.Unsubscribe` and the dispatcher that
`processNotifications` installs as the client's notification callback, run against the transport
of `Goads.Transport` and the receive pump, as one transition system over every interleaving.

`Subscribe` sends `AddDeviceNotification` through `Client.send`; when the response reports no
error it stores its handler under the server's notification handle, `nm.handlers[h]`, under the
manager's lock, and returns `h`. `Unsubscribe(h)` looks the handler up and deletes it under the
lock, sends `DeleteDeviceNotification`, and returns `nil` when the response reports no error.
The pump, on a `DeviceNotification` frame, loads the client's callback; when that is the
dispatcher, it looks each sample's handle up in `nm.handlers` under the read lock and calls the
handler's callback, one sample after another, before it reads the next frame.

## Main definitions

* `Goads.Manager.State` — the transport, the manager's table, the callback slot, the
  `Subscribe` and `Unsubscribe` calls, the dispatcher, and two ghost logs: `dispatched`, every
  sample the dispatcher looked up with the subscription it found, and `invoked`, every callback
  call begun.
* `Goads.Manager.step`, `Goads.Manager.Reachable`, `Goads.Manager.run`.
* `Goads.Manager.Inv` — the invariant behind the guarantees of `Unsubscribe`.

## Main results

* `Goads.Manager.reachable_net` — the transport part of a reachable state is a reachable state
  of `Goads.Transport`, so every result proved there holds here.
* `Goads.Manager.subscribe_stores_own_handle` — a `Subscribe` call stores the handle of the
  response to its own request, whatever other calls run at once.
* `Goads.Manager.dispatch_invokes_found` — the callback calls begun are the subscriptions the
  dispatcher found, one per sample, in order.
* `Goads.Manager.subscribe_first_notification_lost` — a sample the pump reads after delivering
  the `AddDeviceNotification` response, before `Subscribe` stores its handler, is dropped.
* `Goads.Manager.subscribe_stored_receives` — from the store on, every sample for `h` that the
  dispatcher looks up goes to that subscription, and its callback is called, until the table
  entry is deleted or replaced.
* `Goads.Manager.unsubscribe_no_callback_after` — once `Unsubscribe(h)` has returned `nil`, no
  call of the removed subscription's callback begins.

## Design

A subscription is named by the `Subscribe` call that made it (its index in `subs`): each call
builds its own `notificationHandler`, so a later call handed the same `h` by the server makes a
different subscription. Its callback is taken to be non-nil. What `Subscribe` does before its
request (`getOrCreateHandle`, the registry lookup) touches neither the table nor the dispatcher;
the transport calls it makes are among the transport's own `draw`s. The callback slot is
written by `SetNotificationCallback`, which the goroutines of `Start` and `Stop` call at any
time (`Goads.Manager.Lifecycle` models them). A callback runs on the pump, so its call begins
at the `invoke` step; only its beginning matters here.
-/

namespace Goads.Manager

open Ams
open Transport (SendResult getElem?_append_of_eq_some getElem?_concat_eq_some
  getElem?_set_eq_some)

/-- Where a `Subscribe` call is, from its `AddDeviceNotification` request on. -/
inductive SubscribePc
  /-- Waiting on call `k` of the transport. -/
  | sending (k : ℕ)
  /-- The response reported no error, with notification handle `h`; the handler is not yet
  stored. -/
  | storing (h : UInt32)
  /-- Returned the handle, or an error (`none`). -/
  | returned (h : Option UInt32)
  deriving DecidableEq, Repr

/-- The transport call a `Subscribe` call waits on. -/
def SubscribePc.sending? : SubscribePc → Option ℕ
  | .sending k => some k
  | _ => none

/-- The handle a `Subscribe` call is about to store. -/
def SubscribePc.storing? : SubscribePc → Option UInt32
  | .storing h => some h
  | _ => none

@[simp] lemma SubscribePc.sending?_eq_some {pc : SubscribePc} {k : ℕ} :
    pc.sending? = some k ↔ pc = .sending k := by
  cases pc <;> simp [sending?]

@[simp] lemma SubscribePc.storing?_eq_some {pc : SubscribePc} {h : UInt32} :
    pc.storing? = some h ↔ pc = .storing h := by
  cases pc <;> simp [storing?]

/-- Where an `Unsubscribe(h)` call is. -/
inductive UnsubscribePc
  /-- Has deleted `nm.handlers[h]`, the handler of subscription `σ`. -/
  | removed (h : UInt32) (σ : ℕ)
  /-- Waiting on call `k` of the transport for the `DeleteDeviceNotification` response. -/
  | sending (h : UInt32) (σ k : ℕ)
  /-- Returned: `nil` when `ok`; `σ` is the subscription it removed, `none` when `h` was not
  found. -/
  | returned (h : UInt32) (σ : Option ℕ) (ok : Bool)
  deriving DecidableEq, Repr

/-- The handle and subscription of an `Unsubscribe` call that is about to send. -/
def UnsubscribePc.removed? : UnsubscribePc → Option (UInt32 × ℕ)
  | .removed h σ => some (h, σ)
  | _ => none

/-- The handle, subscription and transport call of an `Unsubscribe` call that waits. -/
def UnsubscribePc.sending? : UnsubscribePc → Option (UInt32 × ℕ × ℕ)
  | .sending h σ k => some (h, σ, k)
  | _ => none

@[simp] lemma UnsubscribePc.removed?_eq_some {pc : UnsubscribePc} {h : UInt32} {σ : ℕ} :
    pc.removed? = some (h, σ) ↔ pc = .removed h σ := by
  cases pc <;> simp [removed?]

@[simp] lemma UnsubscribePc.sending?_eq_some {pc : UnsubscribePc} {h : UInt32} {σ k : ℕ} :
    pc.sending? = some (h, σ, k) ↔ pc = .sending h σ k := by
  cases pc <;> simp [sending?]

/-- The subscription an `Unsubscribe` call has taken out of the table, once it has. -/
def UnsubscribePc.removes : UnsubscribePc → Option ℕ
  | .removed _ σ => some σ
  | .sending _ σ _ => some σ
  | .returned _ σ _ => σ

/-- The dispatcher's loop over the samples of one frame, on the pump. -/
inductive Dispatcher
  /-- Not in a frame. -/
  | idle
  /-- The handles of the samples still to be looked up, stamp by stamp. -/
  | dispatching (hs : List UInt32)
  /-- Found subscription `σ` for a sample of handle `h`, and is about to call its callback. -/
  | invoking (σ : ℕ) (h : UInt32) (hs : List UInt32)
  deriving DecidableEq, Repr

/-- Whether the pump may take transport step `a` while the dispatcher is where it is: the pump
reads no response frame in the middle of a notification frame. -/
def Dispatcher.admits : Dispatcher → Transport.Action → Bool
  | .idle, _ => true
  | _, .pop _ => false
  | _, _ => true

/-- The client and its notification manager. -/
structure State where
  net : Transport.State
  /-- `nm.handlers`: handle to the subscription whose handler is stored under it. -/
  handlers : UInt32 → Option ℕ
  /-- Whether `c.notificationCallback` is the manager's dispatcher (otherwise it is `nil`). -/
  callback : Bool
  subs : List SubscribePc
  unsubs : List UnsubscribePc
  dispatcher : Dispatcher
  /-- Ghost: every sample handle the dispatcher looked up, with what it found. -/
  dispatched : List (UInt32 × Option ℕ)
  /-- Ghost: every callback call begun, by subscription. -/
  invoked : List ℕ

/-- The state after `Dial` and `NewNotificationManager`. -/
def init : State := ⟨Transport.init, fun _ => none, false, [], [], .idle, [], []⟩

/-- The handle `Subscribe` takes from its call's result: the callback of
`Client.AddDeviceNotification` accepts only an `AddDeviceNotificationResponse`, and `Subscribe`
only one whose `Result` is `NoError`. -/
def addedHandle : SendResult → Option UInt32
  | .response (.addDeviceNotificationResponse r) =>
    if r.result = noError then some r.notificationHandle else none
  | _ => none

/-- Whether `Unsubscribe` returns `nil` on its call's result: a
`DeleteDeviceNotificationResponse` whose `Result` is `NoError`. -/
def deleted : SendResult → Bool
  | .response (.deleteDeviceNotificationResponse r) => r.result == noError
  | _ => false

/-- The handles of a frame's samples, in the dispatcher's loop order. -/
def sampleHandles (req : DeviceNotificationRequest) : List UInt32 :=
  req.stamps.flatMap fun st => st.samples.map NotificationSample.handle

/-- One atomic step of one goroutine. -/
inductive Action
  /-- A step of the transport: of any `send` call, or of the pump's response branch. -/
  | net (a : Transport.Action)
  /-- A new `Subscribe` call sends its request: `send` draws an invoke id. -/
  | subscribe
  /-- `Subscribe` call `j` gets its call's result and checks it. -/
  | subscribeReturn (j : ℕ)
  /-- `Subscribe` call `j` stores its handler under the handle and returns it. -/
  | subscribeStore (j : ℕ)
  /-- A new `Unsubscribe(h)` call looks `h` up and deletes it, under the lock. -/
  | unsubscribe (h : UInt32)
  /-- `Unsubscribe` call `u` sends its request: `send` draws an invoke id. -/
  | unsubscribeSend (u : ℕ)
  /-- `Unsubscribe` call `u` gets its call's result and returns. -/
  | unsubscribeReturn (u : ℕ)
  /-- `SetNotificationCallback` installs the dispatcher, or `nil`. -/
  | setNotificationCallback (b : Bool)
  /-- The pump reads a `DeviceNotification` frame and loads the callback. -/
  | notification (req : DeviceNotificationRequest)
  /-- The dispatcher looks up the next sample, or ends the frame. -/
  | dispatch
  /-- The dispatcher calls the callback it found. -/
  | invoke
  deriving DecidableEq, Repr

/-- One step: `none` when the action is not enabled. -/
def step (s : State) : Action → Option State
  | .net a => do
    guard (s.dispatcher.admits a)
    let net ← Transport.step s.net a
    return { s with net }
  | .subscribe => do
    let net ← Transport.step s.net .draw
    return { s with net, subs := s.subs ++ [.sending s.net.calls.length] }
  | .subscribeReturn j => do
    let k ← s.subs[j]? >>= SubscribePc.sending?
    let r ← s.net.result? k
    return { s with subs := s.subs.set j ((addedHandle r).elim (.returned none) .storing) }
  | .subscribeStore j => do
    let h ← s.subs[j]? >>= SubscribePc.storing?
    return { s with
      handlers := Function.update s.handlers h (some j)
      subs := s.subs.set j (.returned (some h)) }
  | .unsubscribe h =>
    match s.handlers h with
    | some σ => some { s with
        handlers := Function.update s.handlers h none
        unsubs := s.unsubs ++ [.removed h σ] }
    | none => some { s with unsubs := s.unsubs ++ [.returned h none false] }
  | .unsubscribeSend u => do
    let (h, σ) ← s.unsubs[u]? >>= UnsubscribePc.removed?
    let net ← Transport.step s.net .draw
    return { s with net, unsubs := s.unsubs.set u (.sending h σ s.net.calls.length) }
  | .unsubscribeReturn u => do
    let (h, σ, k) ← s.unsubs[u]? >>= UnsubscribePc.sending?
    let r ← s.net.result? k
    return { s with unsubs := s.unsubs.set u (.returned h (some σ) (deleted r)) }
  | .setNotificationCallback b => some { s with callback := b }
  | .notification req => do
    guard (s.net.pump = .idle ∧ s.dispatcher = .idle)
    return if s.callback then { s with dispatcher := .dispatching (sampleHandles req) } else s
  | .dispatch =>
    match s.dispatcher with
    | .dispatching [] => some { s with dispatcher := .idle }
    | .dispatching (h :: hs) => some { s with
        dispatcher := (s.handlers h).elim (.dispatching hs) fun σ => .invoking σ h hs
        dispatched := s.dispatched ++ [(h, s.handlers h)] }
    | _ => none
  | .invoke =>
    match s.dispatcher with
    | .invoking σ _ hs => some { s with dispatcher := .dispatching hs, invoked := s.invoked ++ [σ] }
    | _ => none

/-- The states of some run from `init`. -/
inductive Reachable : State → Prop
  | init : Reachable init
  | step {s s' : State} (a : Action) : Reachable s → step s a = some s' → Reachable s'

/-- The state after a sequence of actions, if each was enabled. -/
def run (s : State) : List Action → Option State
  | [] => some s
  | a :: as => (step s a).bind (run · as)

/-! ## Inversion of a step -/

section Inversion

variable {s t : State}

lemma step_net (h : step s (.net a) = some t) :
    s.dispatcher.admits a ∧ ∃ n, Transport.step s.net a = some n ∧ { s with net := n } = t := by
  simpa only [step, Option.pure_def, Option.bind_eq_bind, Option.bind_eq_some,
    Option.guard_eq_some', Option.some.injEq, exists_const] using h

lemma step_subscribe (h : step s .subscribe = some t) :
    ∃ n, Transport.step s.net .draw = some n ∧
      { s with net := n, subs := s.subs ++ [.sending s.net.calls.length] } = t := by
  simpa only [step, Option.pure_def, Option.bind_eq_bind, Option.bind_eq_some, Option.some.injEq]
    using h

lemma step_subscribeReturn {j : ℕ} (h : step s (.subscribeReturn j) = some t) :
    ∃ k r, s.subs[j]? = some (.sending k) ∧ s.net.result? k = some r ∧
      { s with subs := s.subs.set j ((addedHandle r).elim (.returned none) .storing) } = t := by
  simpa only [exists_and_left, step, Option.bind_eq_bind, Option.pure_def, Option.bind_eq_some,
    SubscribePc.sending?_eq_some, exists_eq_right, Option.some.injEq] using h

lemma step_subscribeStore {j : ℕ} (h : step s (.subscribeStore j) = some t) :
    ∃ hd, s.subs[j]? = some (.storing hd) ∧ { s with
      handlers := Function.update s.handlers hd (some j)
      subs := s.subs.set j (.returned (some hd)) } = t := by
  simpa only [step, Option.bind_eq_bind, Option.pure_def, Option.bind_eq_some,
    SubscribePc.storing?_eq_some, exists_eq_right, Option.some.injEq] using h

lemma step_unsubscribe {hd : UInt32} (h : step s (.unsubscribe hd) = some t) :
    (∃ σ, s.handlers hd = some σ ∧ t = { s with
      handlers := Function.update s.handlers hd none
      unsubs := s.unsubs ++ [.removed hd σ] }) ∨
    (s.handlers hd = none ∧ t = { s with unsubs := s.unsubs ++ [.returned hd none false] }) := by
  simp only [step] at h
  cases hσ : s.handlers hd <;> simp only [hσ, Option.some.injEq] at h <;> simp [h]

lemma step_unsubscribeSend {u : ℕ} (h : step s (.unsubscribeSend u) = some t) :
    ∃ hd σ n, s.unsubs[u]? = some (.removed hd σ) ∧ Transport.step s.net .draw = some n ∧
      { s with net := n, unsubs := s.unsubs.set u (.sending hd σ s.net.calls.length) } = t := by
  simpa only [exists_and_left, step, Option.bind_eq_bind, Option.pure_def, Option.bind_eq_some,
    Option.some.injEq, Prod.exists, UnsubscribePc.removed?_eq_some, exists_eq_right] using h

lemma step_unsubscribeReturn {u : ℕ} (h : step s (.unsubscribeReturn u) = some t) :
    ∃ hd σ k r, s.unsubs[u]? = some (.sending hd σ k) ∧ s.net.result? k = some r ∧
      { s with unsubs := s.unsubs.set u (.returned hd (some σ) (deleted r)) } = t := by
  simpa only [exists_and_left, step, Option.bind_eq_bind, Option.pure_def, Option.bind_eq_some,
    Option.some.injEq, Prod.exists, UnsubscribePc.sending?_eq_some, exists_eq_right] using h

lemma step_notification {req : DeviceNotificationRequest} (h : step s (.notification req) = some t) :
    s.net.pump = .idle ∧ s.dispatcher = .idle ∧
      (if s.callback then { s with dispatcher := .dispatching (sampleHandles req) } else s) = t := by
  simpa only [step, Option.pure_def, Option.bind_eq_bind, Option.bind_eq_some,
    Option.guard_eq_some', Option.some.injEq, and_assoc, exists_const] using h

lemma step_dispatch (h : step s .dispatch = some t) :
    (s.dispatcher = .dispatching [] ∧ { s with dispatcher := .idle } = t) ∨
    ∃ hd hs, s.dispatcher = .dispatching (hd :: hs) ∧ { s with
      dispatcher := (s.handlers hd).elim (.dispatching hs) fun σ => .invoking σ hd hs
      dispatched := s.dispatched ++ [(hd, s.handlers hd)] } = t := by
  simp only [step] at h
  split at h
  · exact .inl ⟨‹_›, Option.some.inj h⟩
  · exact .inr ⟨_, _, ‹_›, Option.some.inj h⟩
  · cases h

lemma step_invoke (h : step s .invoke = some t) :
    ∃ σ hd hs, s.dispatcher = .invoking σ hd hs ∧
      { s with dispatcher := .dispatching hs, invoked := s.invoked ++ [σ] } = t := by
  simp only [step] at h
  split at h
  · exact ⟨_, _, _, ‹_›, Option.some.inj h⟩
  · cases h

end Inversion

/-! ## The transport part -/

/-- Each step moves the transport by one of its own steps, or leaves it as it is. -/
lemma step_net_step {s t : State} {a : Action} (h : step s a = some t) :
    t.net = s.net ∨ ∃ b, Transport.step s.net b = some t.net := by
  cases a with
  | net b => obtain ⟨-, n, hn, rfl⟩ := step_net h; exact .inr ⟨b, hn⟩
  | subscribe => obtain ⟨n, hn, rfl⟩ := step_subscribe h; exact .inr ⟨_, hn⟩
  | unsubscribeSend u => obtain ⟨_, _, n, -, hn, rfl⟩ := step_unsubscribeSend h; exact .inr ⟨_, hn⟩
  | subscribeReturn j => obtain ⟨_, _, -, -, rfl⟩ := step_subscribeReturn h; exact .inl rfl
  | subscribeStore j => obtain ⟨_, -, rfl⟩ := step_subscribeStore h; exact .inl rfl
  | unsubscribe hd => rcases step_unsubscribe h with ⟨_, -, rfl⟩ | ⟨-, rfl⟩ <;> exact .inl rfl
  | unsubscribeReturn u => obtain ⟨_, _, _, _, -, -, rfl⟩ := step_unsubscribeReturn h; exact .inl rfl
  | setNotificationCallback b => cases h; exact .inl rfl
  | notification req =>
    obtain ⟨-, -, rfl⟩ := step_notification h
    split <;> exact .inl rfl
  | dispatch => rcases step_dispatch h with ⟨-, rfl⟩ | ⟨_, _, -, rfl⟩ <;> exact .inl rfl
  | invoke => obtain ⟨_, _, _, -, rfl⟩ := step_invoke h; exact .inl rfl

/-- **The manager runs on the transport.** The transport part of every reachable state is a
reachable state of `Goads.Transport`, so what is proved there (each response reaches the call
that drew its invoke id, at most once) holds with the manager running. -/
theorem reachable_net {s : State} (hs : Reachable s) : Transport.Reachable s.net := by
  induction hs with
  | init => exact .init
  | step a _ h ih =>
    rcases step_net_step h with he | ⟨b, hb⟩
    · exact he ▸ ih
    · exact .step b ih hb

/-! ## The invariant -/

/-- An `Unsubscribe` call whose subscription is gone has not been answered: it has not sent its
request, or its transport call is unanswered, or it returned an error. -/
def UnsubscribePc.Unanswered (net : Transport.State) : UnsubscribePc → Prop
  | .removed _ _ => True
  | .sending _ _ k => ∃ c, net.calls[k]? = some c ∧ c.Unanswered
  | .returned _ _ ok => ok = false

/-- The invariant of the manager. -/
structure Inv (s : State) : Prop where
  /-- A handler in the table was stored by the `Subscribe` call it names, which then returned
  its handle. -/
  stored : ∀ h σ, s.handlers h = some σ → s.subs[σ]? = some (.returned (some h))
  /-- A subscription that an `Unsubscribe` call took out is in the table no more, and its
  `Subscribe` call has returned, so will not store it again. -/
  removed : ∀ (u : ℕ) (pc : UnsubscribePc) (σ : ℕ), s.unsubs[u]? = some pc → pc.removes = some σ →
    (∀ h, s.handlers h ≠ some σ) ∧ ∃ r, s.subs[σ]? = some (.returned r)
  /-- The pump reads no frame while it dispatches one. -/
  pumpIdle : s.dispatcher ≠ .idle → s.net.pump = .idle
  /-- While the dispatcher is about to call subscription `σ`'s callback, no `Unsubscribe` call
  that took `σ` out has been answered. -/
  invoking : ∀ σ h hs, s.dispatcher = .invoking σ h hs →
    ∀ (u : ℕ) (pc : UnsubscribePc), s.unsubs[u]? = some pc → pc.removes = some σ →
      pc.Unanswered s.net

lemma inv_init : Inv init := ⟨by simp [init], by simp [init], by simp [init], by simp [init]⟩

/-! ## Each step keeps the invariant -/

section Preservation

variable {s : State}

lemma Dispatcher.not_pop {d : Dispatcher} {a : Transport.Action} (hd : d ≠ .idle) (ha : d.admits a) :
    ∀ p, a ≠ .pop p := by
  rintro p rfl
  cases d <;> simp_all [Dispatcher.admits]

/-- While the dispatcher is in a frame, no transport step answers an unanswered call. -/
lemma UnsubscribePc.Unanswered.step {net net' : Transport.State} {a : Transport.Action} {pc : UnsubscribePc}
    (hu : pc.Unanswered net) (h : Transport.step net a = some net') (hp : net.pump = .idle)
    (ha : ∀ p, a ≠ .pop p) : pc.Unanswered net' := by
  cases pc with
  | sending _ _ k =>
    obtain ⟨c, hc, hu⟩ := hu
    exact Transport.step_unanswered h hp ha hc hu
  | removed | returned => exact hu

/-- A transport step the dispatcher admits keeps the invariant. -/
lemma inv_transport {a : Transport.Action} {n : Transport.State} (h : Inv s)
    (hp : s.dispatcher ≠ .idle → ∀ p, a ≠ .pop p) (hn : Transport.step s.net a = some n) :
    Inv { s with net := n } := by
  refine ⟨h.stored, h.removed, fun hd => Transport.step_pump_idle hn (h.pumpIdle hd) (hp hd),
    fun σ hd hs hi u pc hu hr => ?_⟩
  have hne : s.dispatcher ≠ .idle := fun h' => by simp [h'] at hi
  exact (h.invoking σ hd hs hi u pc hu hr).step hn (h.pumpIdle hne) (hp hne)

/-- Appending a call to `subs` keeps the invariant. -/
lemma inv_subs_append (h : Inv s) (x : SubscribePc) : Inv { s with subs := s.subs ++ [x] } :=
  ⟨fun hd σ hσ => getElem?_append_of_eq_some (h.stored hd σ hσ) _,
    fun u pc σ hu hr => (h.removed u pc σ hu hr).imp_right
      fun ⟨r, hr⟩ => ⟨r, getElem?_append_of_eq_some hr _⟩,
    h.pumpIdle, h.invoking⟩

/-- Rewriting a `Subscribe` call that has not returned keeps the invariant. -/
lemma inv_subs_set {j : ℕ} {pc : SubscribePc} (h : Inv s) (hj : s.subs[j]? = some pc)
    (hpc : ∀ r, pc ≠ .returned r) (x : SubscribePc) : Inv { s with subs := s.subs.set j x } := by
  have hne : ∀ {σ : ℕ} {r : Option UInt32}, s.subs[σ]? = some (.returned r) →
      (s.subs.set j x)[σ]? = some (.returned r) := fun {σ r} hσ => by
      rwa [List.getElem?_set_ne]
      rintro rfl
      exact hpc r (Option.some.inj (hj.symm.trans hσ))
  exact ⟨fun hd σ hσ => hne (h.stored hd σ hσ),
    fun u pc σ hu hr => (h.removed u pc σ hu hr).imp_right fun ⟨r, hr⟩ => ⟨r, hne hr⟩,
    h.pumpIdle, h.invoking⟩

lemma inv_subscribeStore {j : ℕ} {hd : UInt32} (h : Inv s) (hj : s.subs[j]? = some (.storing hd)) :
    Inv { s with
      handlers := Function.update s.handlers hd (some j)
      subs := s.subs.set j (.returned (some hd)) } := by
  have hne : ∀ {σ : ℕ} {r : Option UInt32}, s.subs[σ]? = some (.returned r) → j ≠ σ := by
    rintro σ r hσ rfl
    cases hj.symm.trans hσ
  refine ⟨fun h' σ hσ => ?_, fun u pc σ hu hr => ?_, h.pumpIdle, h.invoking⟩
  · dsimp only at hσ ⊢
    rw [Function.update_apply] at hσ
    split at hσ
    · cases hσ
      subst h'
      exact List.getElem?_set_self (List.getElem?_eq_some_iff.mp hj).1
    · have := h.stored h' σ hσ
      rwa [List.getElem?_set_ne (hne this)]
  · obtain ⟨hgone, r, hr'⟩ := h.removed u pc σ hu hr
    refine ⟨fun h' => ?_, r, by rwa [List.getElem?_set_ne (hne hr')]⟩
    dsimp only
    rw [Function.update_apply]
    split
    · simpa using hne hr'
    · exact hgone h'

/-- `Unsubscribe(h)` that finds subscription `σ` takes it out of the table. -/
lemma inv_unsubscribe {hd : UInt32} {σ : ℕ} (h : Inv s) (hσ : s.handlers hd = some σ) :
    Inv { s with
      handlers := Function.update s.handlers hd none
      unsubs := s.unsubs ++ [.removed hd σ] } := by
  refine ⟨fun h' τ hτ => h.stored h' τ (Transport.eq_of_update_none hτ),
    fun u pc τ hu hr => ?_, h.pumpIdle, fun τ h' hs hi u pc hu hr => ?_⟩
  · rcases getElem?_concat_eq_some hu with hu | ⟨-, rfl⟩
    · obtain ⟨hgone, hret⟩ := h.removed u pc τ hu hr
      exact ⟨fun h' => Transport.update_none_ne (hgone h'), hret⟩
    · obtain rfl : σ = τ := Option.some.inj hr
      refine ⟨fun h' hh => ?_, _, h.stored hd σ hσ⟩
      have hh' := Transport.eq_of_update_none hh
      have : h' = hd := by simpa using (h.stored h' σ hh').symm.trans (h.stored hd σ hσ)
      subst this
      simp at hh
  · rcases getElem?_concat_eq_some hu with hu | ⟨-, rfl⟩
    · exact h.invoking τ h' hs hi u pc hu hr
    · trivial

/-- Appending an `Unsubscribe` call that took nothing out keeps the invariant. -/
lemma inv_unsubs_append {x : UnsubscribePc} (h : Inv s) (hx : x.removes = none) :
    Inv { s with unsubs := s.unsubs ++ [x] } := by
  refine ⟨h.stored, fun u pc σ hu hr => ?_, h.pumpIdle, fun σ h' hs hi u pc hu hr => ?_⟩ <;>
  rcases getElem?_concat_eq_some hu with hu | ⟨-, rfl⟩
  · exact h.removed u pc σ hu hr
  · simp [hx] at hr
  · exact h.invoking σ h' hs hi u pc hu hr
  · simp [hx] at hr

/-- Moving an `Unsubscribe` call on, with the same subscription taken out, keeps the invariant
when the call stays unanswered while its subscription's callback is about to be called. -/
lemma inv_unsubs_set {u : ℕ} {pc x : UnsubscribePc} (h : Inv s) (hu : s.unsubs[u]? = some pc)
    (hx : x.removes = pc.removes)
    (hxu : ∀ σ hd hs, s.dispatcher = .invoking σ hd hs → x.removes = some σ → x.Unanswered s.net) :
    Inv { s with unsubs := s.unsubs.set u x } := by
  refine ⟨h.stored, fun v pc' σ hv hr => ?_, h.pumpIdle, fun σ hd hs hi v pc' hv hr => ?_⟩ <;>
  rcases getElem?_set_eq_some hv with ⟨rfl, rfl⟩ | ⟨-, hv⟩
  · exact h.removed _ pc σ hu (hx ▸ hr)
  · exact h.removed v pc' σ hv hr
  · exact hxu σ hd hs hi hr
  · exact h.invoking σ hd hs hi v pc' hv hr

lemma deleted_eq_false {r : SendResult} (hr : ∀ p, r ≠ .response p) : deleted r = false := by
  cases r with
  | response p => exact absurd rfl (hr p)
  | _ => rfl

lemma inv_notification {req : DeviceNotificationRequest} (h : Inv s) (hp : s.net.pump = .idle) :
    Inv (if s.callback then { s with dispatcher := .dispatching (sampleHandles req) } else s) := by
  split
  · exact ⟨h.stored, h.removed, fun _ => hp, fun _ _ _ hi => by simp at hi⟩
  · exact h

lemma inv_dispatch_end (h : Inv s) : Inv { s with dispatcher := .idle } :=
  ⟨h.stored, h.removed, fun hne => absurd rfl hne, fun _ _ _ hi => by simp at hi⟩

/-- Looking a sample up: a subscription found in the table has not been taken out, so no
`Unsubscribe` call is waiting on it. -/
lemma inv_dispatch {hd : UInt32} {hs : List UInt32} (h : Inv s)
    (hdisp : s.dispatcher = .dispatching (hd :: hs)) : Inv { s with
      dispatcher := (s.handlers hd).elim (.dispatching hs) fun σ => .invoking σ hd hs
      dispatched := s.dispatched ++ [(hd, s.handlers hd)] } := by
  have hp := h.pumpIdle (by simp [hdisp])
  refine ⟨h.stored, h.removed, fun _ => hp, fun σ h' hs' hi u pc hu hr => ?_⟩
  cases hσ : s.handlers hd with
  | none => simp [hσ] at hi
  | some τ =>
    obtain rfl : τ = σ := by simp_all
    exact absurd hσ ((h.removed u pc τ hu hr).1 hd)

lemma inv_invoke {σ : ℕ} {hd : UInt32} {hs : List UInt32} (h : Inv s)
    (hdisp : s.dispatcher = .invoking σ hd hs) :
    Inv { s with dispatcher := .dispatching hs, invoked := s.invoked ++ [σ] } :=
  ⟨h.stored, h.removed, fun _ => h.pumpIdle (by simp [hdisp]), fun _ _ _ hi => by simp at hi⟩

end Preservation

lemma inv_step {s t : State} {a : Action} (h : Inv s) (hs : step s a = some t) : Inv t := by
  cases a with
  | net b =>
    obtain ⟨hadm, n, hn, rfl⟩ := step_net hs
    exact inv_transport h (fun hd => Dispatcher.not_pop hd hadm) hn
  | subscribe =>
    obtain ⟨n, hn, rfl⟩ := step_subscribe hs
    exact inv_transport (inv_subs_append h _) (fun _ _ => Transport.Action.noConfusion) hn
  | subscribeReturn j =>
    obtain ⟨k, r, hj, -, rfl⟩ := step_subscribeReturn hs
    exact inv_subs_set h hj (fun _ => nofun) _
  | subscribeStore j =>
    obtain ⟨hd, hj, rfl⟩ := step_subscribeStore hs
    exact inv_subscribeStore h hj
  | unsubscribe hd =>
    rcases step_unsubscribe hs with ⟨σ, hσ, rfl⟩ | ⟨-, rfl⟩
    · exact inv_unsubscribe h hσ
    · exact inv_unsubs_append h rfl
  | unsubscribeSend u =>
    obtain ⟨hd, σ, n, hu, hn, rfl⟩ := step_unsubscribeSend hs
    obtain rfl := Option.some.inj hn
    exact inv_unsubs_set (inv_transport h (fun _ _ => Transport.Action.noConfusion) hn) hu rfl
      fun _ _ _ _ _ => ⟨_, List.getElem?_concat_length _ _, rfl, fun _ => nofun⟩
  | unsubscribeReturn u =>
    obtain ⟨hd, σ, k, r, hu, hr, rfl⟩ := step_unsubscribeReturn hs
    refine inv_unsubs_set h hu rfl fun τ h' hs' hi hτ => ?_
    obtain ⟨c, hc, hcu⟩ := h.invoking τ h' hs' hi u _ hu hτ
    exact deleted_eq_false (hcu.result hc hr)
  | setNotificationCallback b =>
    cases hs
    exact ⟨h.stored, h.removed, h.pumpIdle, h.invoking⟩
  | notification req =>
    obtain ⟨hp, -, rfl⟩ := step_notification hs
    exact inv_notification h hp
  | dispatch =>
    rcases step_dispatch hs with ⟨-, rfl⟩ | ⟨hd, hs', hdisp, rfl⟩
    · exact inv_dispatch_end h
    · exact inv_dispatch h hdisp
  | invoke =>
    obtain ⟨σ, hd, hs', hdisp, rfl⟩ := step_invoke hs
    exact inv_invoke h hdisp

/-- The invariant holds in every reachable state. -/
theorem inv_reachable {s : State} (h : Reachable s) : Inv s := by
  induction h with
  | init => exact inv_init
  | step _ _ hs ih => exact inv_step ih hs

lemma reachable_run {s s' : State} (hs : Reachable s) :
    ∀ {as : List Action}, run s as = some s' → Reachable s' := by
  intro as
  induction as generalizing s with
  | nil => intro h; exact (Option.some.inj h) ▸ hs
  | cons a as ih =>
    intro h
    obtain ⟨t, ht, h⟩ := Option.bind_eq_some.mp h
    exact ih (.step a hs ht) h


lemma addedHandle_eq_some {r : SendResult} {h : UInt32} (hr : addedHandle r = some h) :
    ∃ x, r = .response (.addDeviceNotificationResponse x) ∧ x.result = noError ∧
      x.notificationHandle = h := by
  unfold addedHandle at hr
  split at hr
  · split_ifs at hr with hx
    exact ⟨_, rfl, hx, Option.some.inj hr⟩
  · cases hr

/-- **Each `Subscribe` stores the handle of the answer to its own request.** Whenever, in a
reachable state with fewer than `2^32` invoke ids drawn, `Subscribe` call `j` takes its call's
result and is about to store handle `h`, then `h` is the notification handle of an
`AddDeviceNotification` response that carries the invoke id its own transport call drew, an id
no other call drew. With any number of `Subscribe` and `Unsubscribe` calls running at once, no
`Subscribe` takes the handle the server sent another.

**Proof sketch.** The transport part of the state is reachable (`reachable_net`), and there a call
returns only a frame with the invoke id it drew (`Transport.send_returns_own_response`). -/
theorem subscribe_stores_own_handle {s t : State} (hs : Reachable s)
    (hlen : s.net.calls.length < 2 ^ 32) {j : ℕ} (hstep : step s (.subscribeReturn j) = some t)
    {h : UInt32} (hh : t.subs[j]? = some (.storing h)) :
    ∃ k c r, s.subs[j]? = some (.sending k) ∧ s.net.calls[k]? = some c ∧
      c.pc = .returned (.response (.addDeviceNotificationResponse r)) ∧ r.result = noError ∧
      r.notificationHandle = h ∧ r.amsHeader.invokeID = c.invokeID ∧
      ∀ k' d, s.net.calls[k']? = some d → d.invokeID = c.invokeID → k' = k := by
  obtain ⟨k, res, hj, hr, rfl⟩ := step_subscribeReturn hstep
  have hlt : j < s.subs.length := (List.getElem?_eq_some_iff.mp hj).1
  rw [List.getElem?_set_self hlt, Option.some.injEq] at hh
  have ha : addedHandle res = some h := by
    revert hh
    cases addedHandle res <;> simp
  obtain ⟨x, rfl, hok, hx⟩ := addedHandle_eq_some ha
  obtain ⟨c, hc, hid, huniq⟩ := Transport.send_returns_own_response (reachable_net hs) hlen hr
  obtain ⟨c', hc', hpc⟩ := Transport.State.result?_eq_some.mp hr
  obtain rfl := Option.some.inj (hc.symm.trans hc')
  exact ⟨k, c, x, hj, hc, hpc, hok, hx, hid, fun k' d hd hd' => huniq k' d hd (hd'.trans hid.symm)⟩

/-- `Subscribe` call `0` draws invoke id `2`; the server answers with handle `7` under that id,
and the call, about to store `7`, took it from the answer to its own request. -/
theorem subscribe_stores_own_handle_scenario :
    let addr : Addr := ⟨⟨[192, 168, 0, 1, 1, 1], rfl⟩, 851⟩
    let r : AddDeviceNotificationResponse :=
      ⟨⟨0, 40⟩, ⟨addr, addr, cmdADSAddDeviceNotification, stateADSCommand ||| stateResponse, 8, 0, 2⟩,
        0, 7⟩
    let s := (run init [.setNotificationCallback true, .subscribe, .net (.register 0),
      .net (.writeOk 0), .net (.pop (.addDeviceNotificationResponse r)), .net .deliver,
      .net (.recv 0)]).get (by decide)
    let t := (step s (.subscribeReturn 0)).get (by decide)
    Reachable s ∧ s.net.calls.length < 2 ^ 32 ∧ t.subs[0]? = some (.storing 7) ∧
      ∃ k c r, s.subs[0]? = some (.sending k) ∧ s.net.calls[k]? = some c ∧
        c.pc = .returned (.response (.addDeviceNotificationResponse r)) ∧ r.result = noError ∧
        r.notificationHandle = 7 ∧ r.amsHeader.invokeID = c.invokeID ∧
        ∀ k' d, s.net.calls[k']? = some d → d.invokeID = c.invokeID → k' = k :=
  have hs := reachable_run .init (Option.some_get _).symm
  ⟨hs, by decide, by decide,
    subscribe_stores_own_handle hs (by decide) (Option.some_get (by decide)).symm rfl⟩

/-! ## One callback call per sample found -/

/-- The callback call the dispatcher is about to begin, if any. -/
def Dispatcher.pending : Dispatcher → List ℕ
  | .invoking σ _ _ => [σ]
  | _ => []

/-- Each step keeps the callback calls begun in step with the subscriptions the dispatcher
found: a lookup that finds `σ` makes a call of `σ`'s callback pending, and `invoke` begins it. -/
lemma step_invoked {s t : State} {a : Action}
    (h : s.dispatched.filterMap Prod.snd = s.invoked ++ s.dispatcher.pending)
    (hs : step s a = some t) : t.dispatched.filterMap Prod.snd = t.invoked ++ t.dispatcher.pending := by
  cases a with
  | net b => obtain ⟨-, n, -, rfl⟩ := step_net hs; exact h
  | subscribe => obtain ⟨n, -, rfl⟩ := step_subscribe hs; exact h
  | subscribeReturn j => obtain ⟨k, r, -, -, rfl⟩ := step_subscribeReturn hs; exact h
  | subscribeStore j => obtain ⟨hd, -, rfl⟩ := step_subscribeStore hs; exact h
  | unsubscribe hd => rcases step_unsubscribe hs with ⟨σ, -, rfl⟩ | ⟨-, rfl⟩ <;> exact h
  | unsubscribeSend u => obtain ⟨hd, σ, n, -, -, rfl⟩ := step_unsubscribeSend hs; exact h
  | unsubscribeReturn u => obtain ⟨hd, σ, k, r, -, -, rfl⟩ := step_unsubscribeReturn hs; exact h
  | setNotificationCallback b => cases hs; exact h
  | notification req =>
    obtain ⟨-, hd, rfl⟩ := step_notification hs
    split <;> simpa [hd, Dispatcher.pending] using h
  | dispatch =>
    rcases step_dispatch hs with ⟨hd, rfl⟩ | ⟨hd, hs', hdisp, rfl⟩
    · simpa [hd, Dispatcher.pending] using h
    · cases hh : s.handlers hd <;> simpa [hdisp, hh, Dispatcher.pending] using h
  | invoke =>
    obtain ⟨σ, hd, hs', hdisp, rfl⟩ := step_invoke hs
    simpa [hdisp, Dispatcher.pending] using h

/-- **Each sample found gets one callback call, in order.** In every reachable state the
callback calls begun are the subscriptions the dispatcher found for the samples it looked up, in
the order it looked them up, but for the last one found while its call is about to begin; no
call is lost or made twice, and none is made for a sample whose handle had no handler.

**Proof sketch.** Induction on reachability with `step_invoked`. -/
theorem dispatch_invokes_found {s : State} (hs : Reachable s) :
    s.dispatched.filterMap Prod.snd = s.invoked ++ s.dispatcher.pending := by
  induction hs with
  | init => rfl
  | step _ _ h ih => exact step_invoked ih h

/-! ## The first notification -/

/-- **A sample can arrive before its subscription is stored.** Not every sample for `h` that the
pump reads after delivering the `AddDeviceNotification` response that returns `h` goes to that
`Subscribe` call's callback, even with the dispatcher installed and no `Unsubscribe(h)`: the pump
delivers the response returning handle `7` to call `0`, reads a notification frame with a sample
for `7` before the `Subscribe` goroutine has resumed, and the dispatcher finds no handler under
`7` and drops the sample. -/
theorem subscribe_first_notification_lost :
    ¬ ∀ (s : State) (j k : ℕ) (r : AddDeviceNotificationResponse) (acts : List Action)
      (s' : State), Reachable s → s.callback = true → s.subs[j]? = some (.sending k) →
      (∃ c, s.net.calls[k]? = some c ∧ c.chan = some (.addDeviceNotificationResponse r)) →
      r.result = noError →
      (∀ a ∈ acts, a ≠ .unsubscribe r.notificationHandle ∧ a ≠ .setNotificationCallback false) →
      run s acts = some s' →
      ∀ e ∈ s'.dispatched.drop s.dispatched.length, e.1 = r.notificationHandle → e.2 = some j := by
  intro H
  let addr : Addr := ⟨⟨[192, 168, 0, 1, 1, 1], rfl⟩, 851⟩
  let r : AddDeviceNotificationResponse :=
    ⟨⟨0, 40⟩, ⟨addr, addr, cmdADSAddDeviceNotification, stateADSCommand ||| stateResponse, 8, 0, 2⟩,
      0, 7⟩
  let req : DeviceNotificationRequest :=
    ⟨⟨0, 57⟩, ⟨addr, addr, cmdADSDeviceNotification, stateADSCommand, 25, 0, 0⟩, 25, 1,
      [⟨132580694400000000, 1, [⟨7, 1, [42]⟩]⟩]⟩
  have h0 : (run init [.setNotificationCallback true, .subscribe, .net (.register 0),
      .net (.writeOk 0), .net (.pop (.addDeviceNotificationResponse r)), .net .deliver]).isSome := by
    decide
  have h1 : (run ((run init _).get h0) [.notification req, .dispatch]).isSome := rfl
  have := H _ 0 0 r _ _ (reachable_run .init (Option.some_get h0).symm) rfl rfl ⟨_, rfl, rfl⟩ rfl
    (by decide) (Option.some_get h1).symm (7, none) (List.mem_iff_getElem?.mpr ⟨0, rfl⟩) rfl
  cases this

/-- Action `a`, taken in state `t`, is not `Unsubscribe(h)` and does not store another
subscription's handler under `h`. -/
def Keeps (h : UInt32) (j : ℕ) (t : State) : Action → Prop
  | .unsubscribe h' => h' ≠ h
  | .subscribeStore j' => t.subs[j']? = some (.storing h) → j' = j
  | _ => True

/-- A run from `s` to `s'` each of whose steps satisfies `P` in the state it is taken from. -/
inductive RunWhile (P : State → Action → Prop) : State → State → Prop
  | refl (s : State) : RunWhile P s s
  | step {s t u : State} (a : Action) : P s a → step s a = some t → RunWhile P t u →
      RunWhile P s u

/-- A run of actions that satisfy `P` in every state. -/
lemma RunWhile.of_run {P : State → Action → Prop} {s s' : State} {as : List Action}
    (hP : ∀ a ∈ as, ∀ t, P t a) (h : run s as = some s') : RunWhile P s s' := by
  induction as generalizing s with
  | nil => exact (Option.some.inj h) ▸ .refl s
  | cons a as ih =>
    obtain ⟨t, ht, h⟩ := Option.bind_eq_some.mp h
    exact .step a (hP a (List.mem_cons_self a as) s) ht
      (ih (fun b hb => hP b (List.mem_cons_of_mem a hb)) h)

/-- One step that keeps `h`'s entry: the entry stays, and a sample for `h` that the step looks
up finds subscription `j`. -/
lemma step_keeps {s t : State} {a : Action} {h : UInt32} {j : ℕ} (hk : Keeps h j s a)
    (hj : s.handlers h = some j) (hs : step s a = some t) :
    t.handlers h = some j ∧ ∃ l, t.dispatched = s.dispatched ++ l ∧ ∀ e ∈ l, e.1 = h → e.2 = some j := by
  have keep : ∀ {t : State}, t.handlers = s.handlers → t.dispatched = s.dispatched →
      t.handlers h = some j ∧ ∃ l, t.dispatched = s.dispatched ++ l ∧ ∀ e ∈ l, e.1 = h → e.2 = some j :=
    fun hh hd => ⟨hh ▸ hj, [], by simp [hd], by simp⟩
  cases a with
  | net b => obtain ⟨-, n, -, rfl⟩ := step_net hs; exact keep rfl rfl
  | subscribe => obtain ⟨n, -, rfl⟩ := step_subscribe hs; exact keep rfl rfl
  | subscribeReturn j' => obtain ⟨_, _, -, -, rfl⟩ := step_subscribeReturn hs; exact keep rfl rfl
  | subscribeStore j' =>
    obtain ⟨h', hj', rfl⟩ := step_subscribeStore hs
    refine ⟨?_, [], by simp, by simp⟩
    by_cases hh : h = h'
    · subst hh
      simp [hk hj']
    · simpa [Function.update_noteq hh] using hj
  | unsubscribe h' =>
    have hne : h ≠ h' := Ne.symm hk
    rcases step_unsubscribe hs with ⟨_, -, rfl⟩ | ⟨-, rfl⟩
    · exact ⟨by simpa [Function.update_noteq hne] using hj, [], by simp, by simp⟩
    · exact keep rfl rfl
  | unsubscribeSend u => obtain ⟨_, _, _, -, -, rfl⟩ := step_unsubscribeSend hs; exact keep rfl rfl
  | unsubscribeReturn u =>
    obtain ⟨_, _, _, _, -, -, rfl⟩ := step_unsubscribeReturn hs; exact keep rfl rfl
  | setNotificationCallback b => cases hs; exact keep rfl rfl
  | notification req =>
    obtain ⟨-, -, rfl⟩ := step_notification hs
    split <;> exact keep rfl rfl
  | dispatch =>
    rcases step_dispatch hs with ⟨-, rfl⟩ | ⟨hd, _, -, rfl⟩
    · exact keep rfl rfl
    · refine ⟨hj, [(hd, s.handlers hd)], rfl, ?_⟩
      rintro e he rfl
      obtain rfl := List.mem_singleton.mp he
      exact hj
  | invoke => obtain ⟨_, _, _, -, rfl⟩ := step_invoke hs; exact keep rfl rfl

/-- One run that keeps `h`'s entry: the entry stays, and every sample for `h` that the
dispatcher looks up finds subscription `j`. -/
lemma keeps_handler {h : UInt32} {j : ℕ} {s s' : State} (hrun : RunWhile (Keeps h j) s s')
    (hj : s.handlers h = some j) :
    s'.handlers h = some j ∧
      ∃ l, s'.dispatched = s.dispatched ++ l ∧ ∀ e ∈ l, e.1 = h → e.2 = some j := by
  induction hrun with
  | refl => exact ⟨hj, [], by simp, by simp⟩
  | step a hk hs _ ih =>
    obtain ⟨hj', l, hl, hlj⟩ := step_keeps hk hj hs
    obtain ⟨hj'', l', hl', hlj'⟩ := ih hj'
    refine ⟨hj'', l ++ l', by rw [hl', hl, List.append_assoc], fun e he => ?_⟩
    rcases List.mem_append.mp he with he | he
    · exact hlj e he
    · exact hlj' e he

lemma RunWhile.reachable {P : State → Action → Prop} {s s' : State} (hrun : RunWhile P s s')
    (hs : Reachable s) : Reachable s' := by
  induction hrun with
  | refl => exact hs
  | step a _ ht _ ih => exact ih (.step a hs ht)

/-- **From the store on, samples for `h` reach the subscription.** Once `Subscribe` call `j` has
stored its handler under `h`, in every run from a reachable state with no `Unsubscribe(h)` and no
other subscription's handler stored under `h`, the entry stays, and every sample for `h` that the
dispatcher looks up finds `j`. Each is passed to `j`'s callback: the callback calls begun during
the run, with the one about to begin, are the subscriptions the run's lookups found, in order.

**Proof sketch.** `keeps_handler`, by induction on the run with `step_keeps`; the calls begun
are those found in every reachable state (`dispatch_invokes_found`), at both ends of the run. -/
theorem subscribe_stored_receives {h : UInt32} {j : ℕ} {s s' : State} (hs : Reachable s)
    (hrun : RunWhile (Keeps h j) s s') (hj : s.handlers h = some j) :
    s'.handlers h = some j ∧
      ∃ l, s'.dispatched = s.dispatched ++ l ∧ (∀ e ∈ l, e.1 = h → e.2 = some j) ∧
        s'.invoked ++ s'.dispatcher.pending =
          s.invoked ++ s.dispatcher.pending ++ l.filterMap Prod.snd := by
  obtain ⟨hj', l, hl, hlj⟩ := keeps_handler hrun hj
  refine ⟨hj', l, hl, hlj, ?_⟩
  rw [← dispatch_invokes_found (hrun.reachable hs), hl, List.filterMap_append,
    dispatch_invokes_found hs]

/-- `Subscribe` call `0` stores its handler under handle `7`; a frame with a sample for `7` that
arrives next is passed to it, and its callback is called. -/
theorem subscribe_stored_receives_scenario :
    let addr : Addr := ⟨⟨[192, 168, 0, 1, 1, 1], rfl⟩, 851⟩
    let added : Packet := .addDeviceNotificationResponse
      ⟨⟨0, 40⟩, ⟨addr, addr, cmdADSAddDeviceNotification, stateADSCommand ||| stateResponse, 8, 0, 2⟩,
        0, 7⟩
    let req : DeviceNotificationRequest :=
      ⟨⟨0, 57⟩, ⟨addr, addr, cmdADSDeviceNotification, stateADSCommand, 25, 0, 0⟩, 25, 1,
        [⟨132580694400000000, 1, [⟨7, 1, [42]⟩]⟩]⟩
    let s := (run init [.setNotificationCallback true, .subscribe, .net (.register 0),
      .net (.writeOk 0), .net (.pop added), .net .deliver, .net (.recv 0), .subscribeReturn 0,
      .subscribeStore 0]).get (by decide)
    let s' := (run s [.notification req, .dispatch, .invoke, .dispatch]).get (by decide)
    Reachable s ∧ RunWhile (Keeps 7 0) s s' ∧ s.handlers 7 = some 0 ∧ s'.invoked = [0] ∧
      s'.handlers 7 = some 0 ∧
      ∃ l, s'.dispatched = s.dispatched ++ l ∧ (∀ e ∈ l, e.1 = 7 → e.2 = some 0) ∧
        s'.invoked ++ s'.dispatcher.pending =
          s.invoked ++ s.dispatcher.pending ++ l.filterMap Prod.snd :=
  have hs := reachable_run .init (Option.some_get _).symm
  have hrun := RunWhile.of_run (by simp [Keeps]) (Option.some_get _).symm
  ⟨hs, hrun, rfl, rfl, subscribe_stored_receives hs hrun rfl⟩

/-! ## No callback after `Unsubscribe` -/

/-- One step after `Unsubscribe` call `u` returned `nil` having taken out `σ`: the call stays
returned, and the step begins no call of `σ`'s callback. -/
lemma step_after_unsubscribe {s t : State} {a : Action} (hi : Inv s) (hs : step s a = some t)
    {u : ℕ} {hd : UInt32} {σ : ℕ} (hu : s.unsubs[u]? = some (.returned hd (some σ) true)) :
    t.unsubs[u]? = some (.returned hd (some σ) true) ∧ ∃ l, t.invoked = s.invoked ++ l ∧ σ ∉ l := by
  have keep : ∀ {t : State}, t.unsubs = s.unsubs → t.invoked = s.invoked →
      t.unsubs[u]? = some (.returned hd (some σ) true) ∧ ∃ l, t.invoked = s.invoked ++ l ∧ σ ∉ l :=
    fun hu' hi' => ⟨hu' ▸ hu, [], by simp [hi'], by simp⟩
  have hset : ∀ {v : ℕ} {pc : UnsubscribePc} (x : UnsubscribePc), s.unsubs[v]? = some pc →
      (∀ ok, pc ≠ .returned hd (some σ) ok) → (s.unsubs.set v x)[u]? = s.unsubs[u]? := by
    rintro v pc x hv hpc
    refine List.getElem?_set_ne fun hvu => hpc true ?_
    subst hvu
    exact Option.some.inj (hv.symm.trans hu)
  cases a with
  | net b => obtain ⟨-, n, -, rfl⟩ := step_net hs; exact keep rfl rfl
  | subscribe => obtain ⟨n, -, rfl⟩ := step_subscribe hs; exact keep rfl rfl
  | subscribeReturn j => obtain ⟨_, _, -, -, rfl⟩ := step_subscribeReturn hs; exact keep rfl rfl
  | subscribeStore j => obtain ⟨_, -, rfl⟩ := step_subscribeStore hs; exact keep rfl rfl
  | unsubscribe h' =>
    rcases step_unsubscribe hs with ⟨_, -, rfl⟩ | ⟨-, rfl⟩ <;>
      exact ⟨getElem?_append_of_eq_some hu _, [], by simp, by simp⟩
  | unsubscribeSend v =>
    obtain ⟨_, _, _, hv, -, rfl⟩ := step_unsubscribeSend hs
    exact ⟨(hset _ hv fun _ => nofun).trans hu, [], by simp, by simp⟩
  | unsubscribeReturn v =>
    obtain ⟨_, _, _, _, hv, -, rfl⟩ := step_unsubscribeReturn hs
    exact ⟨(hset _ hv fun _ => nofun).trans hu, [], by simp, by simp⟩
  | setNotificationCallback b => cases hs; exact keep rfl rfl
  | notification req =>
    obtain ⟨-, -, rfl⟩ := step_notification hs
    split <;> exact keep rfl rfl
  | dispatch => rcases step_dispatch hs with ⟨-, rfl⟩ | ⟨_, _, -, rfl⟩ <;> exact keep rfl rfl
  | invoke =>
    obtain ⟨τ, h', hs', hdisp, rfl⟩ := step_invoke hs
    refine ⟨hu, [τ], rfl, fun hτ => ?_⟩
    obtain rfl := List.mem_singleton.mp hτ
    have := hi.invoking _ h' hs' hdisp u _ hu rfl
    simp [UnsubscribePc.Unanswered] at this

/-- **No callback after `Unsubscribe`.** In every reachable state in which an `Unsubscribe(h)`
call has returned `nil`, having taken subscription `σ` out of the table, every run from there
begins no call of `σ`'s callback. A later `Subscribe` that the server hands the same `h` makes a
different subscription.

**Proof sketch.** The dispatcher looked `σ` up before `Unsubscribe` deleted it, and the pump
reads no frame, so delivers no `DeleteDeviceNotification` response, until it has called the
callback it found (`Inv.invoking`); after the deletion `σ` is never in the table again
(`Inv.removed`). `step_after_unsubscribe`, by induction on the run. -/
theorem unsubscribe_no_callback_after {s : State} (hs : Reachable s) {u : ℕ} {hd : UInt32}
    {σ : ℕ} (hu : s.unsubs[u]? = some (.returned hd (some σ) true)) :
    ∀ {acts : List Action} {s' : State}, run s acts = some s' →
      ∃ l, s'.invoked = s.invoked ++ l ∧ σ ∉ l := by
  intro acts
  induction acts generalizing s with
  | nil =>
    intro s' h
    obtain rfl := Option.some.inj h
    exact ⟨[], by simp, by simp⟩
  | cons a as ih =>
    intro s' h
    obtain ⟨t, ht, h⟩ := Option.bind_eq_some.mp h
    obtain ⟨hu', l, hl, hσ⟩ := step_after_unsubscribe (inv_reachable hs) ht hu
    obtain ⟨l', hl', hσ'⟩ := ih (.step a hs ht) hu' h
    exact ⟨l ++ l', by rw [hl', hl, List.append_assoc], by simp [hσ, hσ']⟩

/-- `Subscribe` call `0` gets handle `7` and its callback is called once; `Unsubscribe(7)` then
takes it out and returns `nil`; a later frame with a sample for `7` calls nothing. -/
theorem unsubscribe_no_callback_after_scenario :
    let addr : Addr := ⟨⟨[192, 168, 0, 1, 1, 1], rfl⟩, 851⟩
    let added : Packet := .addDeviceNotificationResponse
      ⟨⟨0, 40⟩, ⟨addr, addr, cmdADSAddDeviceNotification, stateADSCommand ||| stateResponse, 8, 0, 2⟩,
        0, 7⟩
    let removed : Packet := .deleteDeviceNotificationResponse
      ⟨⟨0, 36⟩, ⟨addr, addr, cmdADSDeleteDeviceNotification, stateADSCommand ||| stateResponse, 4, 0,
        3⟩, 0⟩
    let req : DeviceNotificationRequest :=
      ⟨⟨0, 57⟩, ⟨addr, addr, cmdADSDeviceNotification, stateADSCommand, 25, 0, 0⟩, 25, 1,
        [⟨132580694400000000, 1, [⟨7, 1, [42]⟩]⟩]⟩
    let s := (run init [.setNotificationCallback true, .subscribe, .net (.register 0),
      .net (.writeOk 0), .net (.pop added), .net .deliver, .net (.recv 0), .subscribeReturn 0,
      .subscribeStore 0, .notification req, .dispatch, .invoke, .dispatch, .unsubscribe 7,
      .unsubscribeSend 0, .net (.register 1), .net (.writeOk 1), .net (.pop removed), .net .deliver,
      .net (.recv 1), .unsubscribeReturn 0]).get (by decide)
    Reachable s ∧ s.invoked = [0] ∧ s.unsubs[0]? = some (.returned 7 (some 0) true) ∧
      ∀ s', run s [.notification req, .dispatch, .dispatch] = some s' →
        ∃ l, s'.invoked = s.invoked ++ l ∧ 0 ∉ l :=
  have hs := reachable_run .init (Option.some_get _).symm
  ⟨hs, rfl, rfl, fun _ h => @unsubscribe_no_callback_after _ hs 0 7 0 rfl _ _ h⟩

end Goads.Manager
