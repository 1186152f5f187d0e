import Goads.Manager.Subscription

/-!
# The samples the dispatcher hands to a callback

The callback that `processNotifications` installs walks a `DeviceNotification` frame stamp by
stamp and sample by sample. For each sample whose handle has a subscription it calls the
subscription's callback with a `NotificationSample`: the sample's handle and data, and the
stamp's time. The time is converted from a Windows FILETIME, a count of 100 ns ticks since
1601-01-01, by

    secs := int64(stamp.Timestamp)/ticksPerSecond - epochDiff
    nsecs := (int64(stamp.Timestamp) % ticksPerSecond) * 100
    timestamp := time.Unix(secs, nsecs)

with Go's truncating `/` and `%` on `int64`. `time.Unix` accepts `nsecs` outside `[0, 10^9)`
and denotes the instant `secs · 10^9 + nsecs` nanoseconds after the Unix epoch.

## Main definitions

* `Goads.Manager.unixOfFileTime` — the pair `(secs, nsecs)` the dispatcher computes.
* `Goads.Manager.samples` — the `NotificationSample`s of a frame, in the dispatcher's order.

## Main results

* `Goads.Manager.unixNanos_unixOfFileTime` — the instant denoted is `100 · t` nanoseconds after
  1601-01-01 for `t < 2^63`, and `100 · 2^64` nanoseconds earlier than that from `2^63` on,
  where `int64(t)` is negative.
* `Goads.Manager.fileTime_top_half_shifted` — at `t = 2^63` the instant is not the FILETIME's.
-/

namespace Goads.Manager

/-- `ticksPerSecond`: FILETIME ticks in a second. -/
def ticksPerSecond : ℤ := 10000000

/-- `epochDiff`: seconds from 1601-01-01 to 1970-01-01. -/
def epochDiff : ℤ := 11644473600

/-- The `secs` and `nsecs` the dispatcher passes to `time.Unix`: `int64(ts)` is the two's
complement reading of the 64 bits, and `/`, `%` truncate toward zero. -/
def unixOfFileTime (ts : UInt64) : ℤ × ℤ :=
  (Int.tdiv ts.toBitVec.toInt ticksPerSecond - epochDiff,
    Int.tmod ts.toBitVec.toInt ticksPerSecond * 100)

/-- The instant `time.Unix(secs, nsecs)` denotes, in nanoseconds after the Unix epoch. -/
def unixNanos (p : ℤ × ℤ) : ℤ := p.1 * 1000000000 + p.2

/-- The instant denoted is `100 · int64(t)` nanoseconds after 1601-01-01: truncating division
and remainder still recompose `int64(t)`. -/
lemma unixNanos_unixOfFileTime_toInt (t : UInt64) :
    unixNanos (unixOfFileTime t) = 100 * t.toBitVec.toInt - epochDiff * 1000000000 := by
  have h := Int.tdiv_add_tmod t.toBitVec.toInt ticksPerSecond
  simp only [unixNanos, unixOfFileTime, ticksPerSecond, epochDiff] at h ⊢
  omega

/-- **The FILETIME conversion.** For `t < 2^63` the callback's timestamp is `100 · t`
nanoseconds after 1601-01-01; from `2^63` on, `int64(t)` is `t - 2^64` and the timestamp is
`100 · 2^64` nanoseconds (about 58 000 years) earlier.

**Proof sketch.** `unixNanos_unixOfFileTime_toInt`, and the two's complement reading of the
64 bits. -/
theorem unixNanos_unixOfFileTime (t : UInt64) :
    unixNanos (unixOfFileTime t) =
      100 * t.toNat - epochDiff * 1000000000 -
        if t.toNat < 9223372036854775808 then 0 else 100 * 18446744073709551616 := by
  rw [unixNanos_unixOfFileTime_toInt, BitVec.toInt_eq_toNat_cond]
  have ht : t.toBitVec.toNat = t.toNat := rfl
  split_ifs with h₁ h₂ h₂ <;> simp only [ht] at h₁ <;> omega

/-- At `t = 2^63`, the first FILETIME whose `int64` conversion is negative, the dispatcher's
`secs · 10^9 + nsecs` is not `100 · t - 11644473600 · 10^9`. -/
theorem fileTime_top_half_shifted :
    unixNanos (unixOfFileTime 9223372036854775808) ≠
      100 * 9223372036854775808 - 11644473600 * 1000000000 := by
  rw [unixNanos_unixOfFileTime]
  decide

/-! ## The samples of a frame -/

/-- `twincat.NotificationSample`, what a callback receives; the timestamp is the instant in
nanoseconds after the Unix epoch. -/
structure NotificationSample where
  handle : UInt32
  timestamp : ℤ
  data : List UInt8
  deriving DecidableEq, Repr

/-- The samples of a frame, stamp by stamp and sample by sample, each with its stamp's time: the
loops of the dispatcher before the handler lookup. -/
def samples (req : Ams.DeviceNotificationRequest) : List NotificationSample :=
  req.stamps.flatMap fun st =>
    st.samples.map fun x => ⟨x.handle, unixNanos (unixOfFileTime st.timestamp), x.data⟩

end Goads.Manager
