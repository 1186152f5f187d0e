import Mathlib.Data.List.Basic

/-!
# Starting and stopping the notification manager

`NotificationManager.Start` and `NotificationManager.Stop`, and the `processNotifications`
goroutines that `Start` spawns, as a transition system over every interleaving.

`Start`, under the manager's lock, returns an error when the manager is running; otherwise it
sets `running`, makes a new `stopCh` and spawns a goroutine. `Stop`, under the lock, does
nothing when the manager is stopped; otherwise it clears `running` and closes `stopCh`. Each
goroutine installs the dispatcher as the client's notification callback, blocks on
`<-nm.stopCh` (reading the field when it gets there), and when that channel is closed sets the
callback to `nil`.

## Main definitions

* `Goads.Lifecycle.State` — the `running` flag, `stopCh`, the channels made so far, the
  goroutines and the client's callback slot.
* `Goads.Lifecycle.step`, `Goads.Lifecycle.Reachable`, `Goads.Lifecycle.run`.
* `Goads.Lifecycle.Quiescent` — every goroutine waits on a channel or has finished.
* `Goads.Lifecycle.Joined`, `Goads.Lifecycle.ReachableWhile` — runs in which `Start` on a
  stopped manager waits until the goroutines of the earlier `Start`s have returned;
  `Goads.Lifecycle.Inv` — their invariant.

## Main results

* `Goads.Lifecycle.restart_loses_dispatcher` — after `Start`, `Stop`, `Start`, the first
  goroutine's clear can run after the second goroutine's install: the manager is running with
  no dispatcher, and stays so until the next `Stop`.
* `Goads.Lifecycle.joined_keeps_dispatcher` — when each restart waits for the earlier
  goroutines, the dispatcher stays installed while the manager runs: the loss needs a goroutine
  of an earlier `Start` that has not returned.

## Design

Channels are numbered in the order they are made: channel `0` is the one
`NewNotificationManager` makes. A goroutine's receive from a closed channel and its
`SetNotificationCallback(nil)` are one step, since nothing between them touches shared state;
likewise `Start`'s unlock and its `go` statement.
-/

namespace Goads.Lifecycle

/-- Where a `processNotifications` goroutine is. -/
inductive Goroutine
  /-- Spawned by `Start`; has not run yet. -/
  | spawned
  /-- Has installed the dispatcher. -/
  | installed
  /-- Blocks on `<-ch`, where `ch` is the channel `nm.stopCh` named when it got there. -/
  | waiting (ch : ℕ)
  /-- Has set the callback to `nil` and returned. -/
  | finished
  deriving DecidableEq, Repr

/-- The channel a goroutine blocks on. -/
def Goroutine.waiting? : Goroutine → Option ℕ
  | .waiting ch => some ch
  | _ => none

@[simp] lemma Goroutine.waiting?_eq_some {g : Goroutine} {ch : ℕ} :
    g.waiting? = some ch ↔ g = .waiting ch := by
  cases g <;> simp [waiting?]

/-- Whether a goroutine has reached its wait on `stopCh` or finished. -/
def Goroutine.settled : Goroutine → Bool
  | .waiting _ | .finished => true
  | _ => false

/-- The manager's lifecycle and the client's callback slot. -/
structure State where
  running : Bool
  /-- `nm.stopCh`, as the number of the channel it names. -/
  stopCh : ℕ
  /-- Whether each channel made so far is closed. -/
  channels : List Bool
  goroutines : List Goroutine
  /-- Whether `c.notificationCallback` is the manager's dispatcher (otherwise it is `nil`). -/
  callback : Bool
  deriving DecidableEq, Repr

/-- `NewNotificationManager`: stopped, with one open channel; no callback installed. -/
def init : State := ⟨false, 0, [false], [], false⟩

/-- One atomic step of one goroutine. -/
inductive Action
  /-- A call of `Start`. -/
  | start
  /-- A call of `Stop`. -/
  | stop
  /-- Goroutine `g` installs the dispatcher. -/
  | install (g : ℕ)
  /-- Goroutine `g` reads `nm.stopCh` and blocks on it. -/
  | wait (g : ℕ)
  /-- Goroutine `g`'s channel is closed: it sets the callback to `nil` and returns. -/
  | wake (g : ℕ)
  deriving DecidableEq, Repr

/-- One step: `none` when the action is not enabled. -/
def step (s : State) : Action → Option State
  | .start => some <| if s.running then s else { s with
      running := true
      stopCh := s.channels.length
      channels := s.channels ++ [false]
      goroutines := s.goroutines ++ [.spawned] }
  | .stop => some <| if s.running then { s with
      running := false
      channels := s.channels.set s.stopCh true } else s
  | .install g => do
    guard (s.goroutines[g]? = some .spawned)
    return { s with callback := true, goroutines := s.goroutines.set g .installed }
  | .wait g => do
    guard (s.goroutines[g]? = some .installed)
    return { s with goroutines := s.goroutines.set g (.waiting s.stopCh) }
  | .wake g => do
    let ch ← s.goroutines[g]? >>= Goroutine.waiting?
    guard (s.channels[ch]? = some true)
    return { s with callback := false, goroutines := s.goroutines.set g .finished }

/-- The states of some run from `init`. -/
inductive Reachable : State → Prop
  | init : Reachable init
  | step {s s' : State} (a : Action) : Reachable s → step s a = some s' → Reachable s'

/-- The state after a sequence of actions, if each was enabled. -/
def run (s : State) : List Action → Option State
  | [] => some s
  | a :: as => (step s a).bind (run · as)

lemma reachable_run {s s' : State} (hs : Reachable s) :
    ∀ {as : List Action}, run s as = some s' → Reachable s' := by
  intro as
  induction as generalizing s with
  | nil => intro h; exact (Option.some.inj h) ▸ hs
  | cons a as ih =>
    intro h
    obtain ⟨t, ht, h⟩ := Option.bind_eq_some.mp h
    exact ih (.step a hs ht) h

/-! ## Inversion of a step -/

section Inversion

variable {s t : State}

lemma step_install {g : ℕ} (h : step s (.install g) = some t) :
    s.goroutines[g]? = some .spawned ∧
      { s with callback := true, goroutines := s.goroutines.set g .installed } = t := by
  simpa [step, Option.bind_eq_some] using h

lemma step_wait {g : ℕ} (h : step s (.wait g) = some t) :
    s.goroutines[g]? = some .installed ∧
      { s with goroutines := s.goroutines.set g (.waiting s.stopCh) } = t := by
  simpa [step, Option.bind_eq_some] using h

lemma step_wake {g : ℕ} (h : step s (.wake g) = some t) :
    ∃ ch, s.goroutines[g]? = some (.waiting ch) ∧ s.channels[ch]? = some true ∧
      { s with callback := false, goroutines := s.goroutines.set g .finished } = t := by
  simpa [step, Option.bind_eq_some] using h

end Inversion

/-- Every goroutine has reached its wait on `stopCh` or finished. -/
def Quiescent (s : State) : Prop := ∀ g ∈ s.goroutines, g.settled

instance : DecidablePred Quiescent := fun s => inferInstanceAs (Decidable (∀ g ∈ s.goroutines, _))

/-! ## A restart that loses the dispatcher -/

/-- Running without the dispatcher, with no goroutine left that could install it or that a
closed channel wakes. -/
structure Stranded (s : State) : Prop where
  running : s.running = true
  /-- Each goroutine blocks on an open channel or has finished. -/
  blocked : ∀ g ∈ s.goroutines, (∃ ch, g = .waiting ch ∧ s.channels[ch]? = some false) ∨
    g = .finished

/-- In a stranded state every action but `Stop` is disabled or changes nothing: `Start` returns
its error, and no goroutine can move. -/
lemma Stranded.step_eq {s t : State} {a : Action} (h : Stranded s) (ha : a ≠ .stop)
    (hs : step s a = some t) : t = s := by
  have hg : ∀ {g : ℕ} {x : Goroutine}, s.goroutines[g]? = some x →
      (∃ ch, x = .waiting ch ∧ s.channels[ch]? = some false) ∨ x = .finished :=
    fun hx => h.blocked _ (List.mem_iff_getElem?.mpr ⟨_, hx⟩)
  cases a with
  | start => simpa [step, h.running, eq_comm] using hs
  | stop => exact absurd rfl ha
  | install g => rcases hg (step_install hs).1 with ⟨_, h', -⟩ | h' <;> cases h'
  | wait g => rcases hg (step_wait hs).1 with ⟨_, h', -⟩ | h' <;> cases h'
  | wake g =>
    obtain ⟨ch, hx, hc, -⟩ := step_wake hs
    rcases hg hx with ⟨_, h', hopen⟩ | h' <;> cases h'
    cases hc.symm.trans hopen

/-- **A restart can leave the manager running without its dispatcher.** `Start`; goroutine `0`
installs the dispatcher and waits on channel `1`; `Stop` closes it; `Start` makes channel `2`;
goroutine `1` installs the dispatcher and waits on channel `2`; goroutine `0` wakes and sets the
callback to `nil`. Every goroutine waits or has finished, the manager is running and the callback
is `nil`; and until the next `Stop` nothing changes, so no notification is dispatched again. -/
theorem restart_loses_dispatcher :
    ∃ s, run init [.start, .install 0, .wait 0, .stop, .start, .install 1, .wait 1, .wake 0] =
      some s ∧ Reachable s ∧ Quiescent s ∧ s.running = true ∧ s.callback = false ∧
      ∀ (acts : List Action) (s' : State), .stop ∉ acts → run s acts = some s' → s' = s := by
  have hrun : run init [.start, .install 0, .wait 0, .stop, .start, .install 1, .wait 1, .wake 0] =
      some ⟨true, 2, [false, true, false], [.finished, .waiting 2], false⟩ := by decide
  refine ⟨_, hrun, reachable_run .init hrun, by decide, rfl, rfl, fun acts => ?_⟩
  have hst : Stranded ⟨true, 2, [false, true, false], [.finished, .waiting 2], false⟩ :=
    ⟨rfl, by simp⟩
  induction acts with
  | nil => intro s' _ h; exact (Option.some.inj h).symm
  | cons a as ih =>
    intro s' hstop h
    obtain ⟨t, ht, h⟩ := Option.bind_eq_some.mp h
    obtain rfl := hst.step_eq (fun h' => hstop (h' ▸ List.mem_cons_self _ _)) ht
    exact ih s' (fun h' => hstop (List.mem_cons_of_mem _ h')) h

/-! ## A restart that waits for the earlier goroutines -/

/-- A step of a caller that calls `Start` on a stopped manager only once every goroutine of the
earlier `Start`s has returned, as a `Stop` that waited for its goroutine would ensure. -/
def Joined (s : State) : Action → Prop
  | .start => s.running = false → ∀ x ∈ s.goroutines, x = .finished
  | _ => True

/-- The states of some run from `init` each of whose steps satisfies `P` in the state it is
taken from. -/
inductive ReachableWhile (P : State → Action → Prop) : State → Prop
  | init : ReachableWhile P init
  | step {s s' : State} (a : Action) : ReachableWhile P s → P s a → step s a = some s' →
      ReachableWhile P s'

/-- The invariant of a lifecycle whose restarts are joined. -/
structure Inv (s : State) : Prop where
  /-- While running, `stopCh` is open. -/
  stopOpen : s.running = true → s.channels[s.stopCh]? = some false
  /-- A goroutine that has not returned is the last one spawned; while the manager runs, it has
  installed the dispatcher once past `spawned`, and it waits, if at all, on `stopCh`. -/
  live : ∀ g x, s.goroutines[g]? = some x → x ≠ .finished → g + 1 = s.goroutines.length ∧
    (s.running = true →
      x = .spawned ∨ ((x = .installed ∨ x = .waiting s.stopCh) ∧ s.callback = true))

section Preservation

variable {s t : State}

lemma inv_init : Inv init := ⟨by simp [init], by simp [init]⟩

/-- Only the last goroutine may not have returned, so moving it to `y` leaves `y` the only one. -/
lemma Inv.eq_of_set (hi : Inv s) {g : ℕ} {x : Goroutine} (hg : s.goroutines[g]? = some x)
    (hx : x ≠ .finished) {j : ℕ} {y z : Goroutine} (hz : (s.goroutines.set g y)[j]? = some z)
    (hne : z ≠ .finished) : j = g ∧ z = y ∧ g + 1 = s.goroutines.length := by
  have hlast := (hi.live g x hg hx).1
  by_cases hj : g = j
  · subst hj
    rw [List.getElem?_set_self (List.getElem?_eq_some_iff.mp hg).1, Option.some.injEq] at hz
    exact ⟨rfl, hz.symm, hlast⟩
  · rw [List.getElem?_set_ne hj] at hz
    have := (hi.live j z hz hne).1
    omega

lemma inv_start (hi : Inv s) (hj : Joined s .start) (h : step s .start = some t) : Inv t := by
  simp only [step, Option.some.injEq] at h
  subst h
  split
  · exact hi
  · rename_i hr
    have hfin := hj (by simpa using hr)
    refine ⟨fun _ => List.getElem?_concat_length _ _, fun j z hz hne => ?_⟩
    by_cases hjl : j < s.goroutines.length
    · rw [List.getElem?_append_left hjl] at hz
      exact absurd (hfin z (List.mem_iff_getElem?.mpr ⟨j, hz⟩)) hne
    · rw [List.getElem?_append_right (Nat.le_of_not_lt hjl)] at hz
      obtain ⟨hj0, rfl⟩ : j - s.goroutines.length = 0 ∧ Goroutine.spawned = z := by
        simpa [List.getElem?_cons] using hz
      exact ⟨by simp; omega, fun _ => .inl rfl⟩

lemma inv_stop (hi : Inv s) (h : step s .stop = some t) : Inv t := by
  simp only [step, Option.some.injEq] at h
  subst h
  split
  · exact ⟨fun h => (by cases h), fun g x hg hx => ⟨(hi.live g x hg hx).1, fun h => (by cases h)⟩⟩
  · exact hi

lemma inv_install {g : ℕ} (hi : Inv s) (h : step s (.install g) = some t) : Inv t := by
  obtain ⟨hg, rfl⟩ := step_install h
  refine ⟨hi.stopOpen, fun j z hz hne => ?_⟩
  obtain ⟨rfl, rfl, hlast⟩ := hi.eq_of_set hg (by simp) hz hne
  exact ⟨by simpa using hlast, fun _ => .inr ⟨.inl rfl, rfl⟩⟩

lemma inv_wait {g : ℕ} (hi : Inv s) (h : step s (.wait g) = some t) : Inv t := by
  obtain ⟨hg, rfl⟩ := step_wait h
  refine ⟨hi.stopOpen, fun j z hz hne => ?_⟩
  obtain ⟨rfl, rfl, hlast⟩ := hi.eq_of_set hg (by simp) hz hne
  refine ⟨by simpa using hlast, fun hr => .inr ⟨.inr rfl, ?_⟩⟩
  rcases (hi.live _ _ hg (by simp)).2 hr with h | ⟨-, hc⟩
  · cases h
  · exact hc

lemma inv_wake {g : ℕ} (hi : Inv s) (h : step s (.wake g) = some t) : Inv t := by
  obtain ⟨ch, hg, -, rfl⟩ := step_wake h
  refine ⟨hi.stopOpen, fun j z hz hne => ?_⟩
  obtain ⟨-, rfl, -⟩ := hi.eq_of_set hg (by simp) hz hne
  exact absurd rfl hne

lemma inv_step {a : Action} (hi : Inv s) (hj : Joined s a) (h : step s a = some t) : Inv t := by
  cases a with
  | start => exact inv_start hi hj h
  | stop => exact inv_stop hi h
  | install g => exact inv_install hi h
  | wait g => exact inv_wait hi h
  | wake g => exact inv_wake hi h

lemma inv_reachableWhile (hs : ReachableWhile Joined s) : Inv s := by
  induction hs with
  | init => exact inv_init
  | step a _ hj h ih => exact inv_step ih hj h

end Preservation

/-- **A restart that waits for the earlier goroutines keeps the dispatcher.** In every run in
which `Start` is called on a stopped manager only once every goroutine of the earlier `Start`s
has returned, whenever the manager is running and a goroutine has installed the dispatcher, the
callback is the dispatcher. The loss in `restart_loses_dispatcher` needs a goroutine of an
earlier `Start` that has not yet returned.

**Proof sketch.** `Inv` holds initially and every joined step keeps it: a goroutine that has not
returned is the last one, which, while running, waits only on the open `stopCh`, so no `wake`
runs while the manager runs. -/
theorem joined_keeps_dispatcher {s : State} (hs : ReachableWhile Joined s) (hr : s.running = true)
    {g : ℕ} {x : Goroutine} (hg : s.goroutines[g]? = some x)
    (hx : x = .installed ∨ ∃ ch, x = .waiting ch) : s.callback = true := by
  have hne : x ≠ .finished := by rcases hx with rfl | ⟨_, rfl⟩ <;> simp
  rcases ((inv_reachableWhile hs).live g x hg hne).2 hr with rfl | ⟨-, hc⟩
  · rcases hx with h | ⟨_, h⟩ <;> cases h
  · exact hc

/-- `Start`; goroutine `0` installs the dispatcher and waits on channel `1`; `Stop` closes it and
goroutine `0` returns; only then `Start` again, and goroutine `1` installs the dispatcher and
waits on channel `2`. The manager runs with its dispatcher. -/
theorem joined_keeps_dispatcher_restart :
    ∃ s, run init [.start, .install 0, .wait 0, .stop, .wake 0, .start, .install 1, .wait 1] =
      some s ∧ ReachableWhile Joined s ∧ s.running = true ∧ s.goroutines[1]? = some (.waiting 2) ∧
      s.callback = true := by
  have h₁ := ReachableWhile.step (P := Joined) .start .init (by show _ → _; decide) rfl
  have h₂ := ReachableWhile.step (.install 0) h₁ trivial rfl
  have h₃ := ReachableWhile.step (.wait 0) h₂ trivial rfl
  have h₄ := ReachableWhile.step .stop h₃ trivial rfl
  have h₅ := ReachableWhile.step (.wake 0) h₄ trivial rfl
  have h₆ := ReachableWhile.step .start h₅ (by show _ → _; decide) rfl
  have h₇ := ReachableWhile.step (.install 1) h₆ trivial rfl
  have h₈ := ReachableWhile.step (.wait 1) h₇ trivial rfl
  exact ⟨_, rfl, h₈, rfl, rfl, joined_keeps_dispatcher h₈ rfl (g := 1) (by decide) (.inr ⟨2, rfl⟩)⟩

end Goads.Lifecycle
