import Mathlib.Tactic.Linarith
import Mathlib.Tactic.Rify

/-!
# The clock offset

The NTP client reads its own clock twice and takes two readings of the server's clock from the
response, with fractions of `2 ^ -32` seconds. The delays and the difference of the clocks, which
it cannot know, are part of an exchange.
-/

namespace Penguind.Squawk.Ntp

def ntpEpochOffset : Int := 2208988800

def asI64 (n : Int) : Int := n.bmod 18446744073709551616

def nanosSinceEpoch (t : Int) : Int :=
  if 0 ≤ t then t.natAbs else -t.natAbs

def ntpOffsetNanos (t1 t2 t3 t4 : Int) : Int :=
  asI64 (((nanosSinceEpoch t2 - nanosSinceEpoch t1) +
    (nanosSinceEpoch t3 - nanosSinceEpoch t4)).tdiv 2)

def ntpRoundTripNanos (t1 t2 t3 t4 : Int) : Int :=
  asI64 ((nanosSinceEpoch t4 - nanosSinceEpoch t1) - (nanosSinceEpoch t3 - nanosSinceEpoch t2))

structure Timestamp where
  sec : UInt32
  frac : UInt32

def systemTimeToNtp (t : Int) : Timestamp :=
  -- a time before 1970 becomes the epoch of the protocol
  let unixSecs := if 0 ≤ t then t / 1000000000 else -ntpEpochOffset
  let nanos := if 0 ≤ t then (t % 1000000000).toNat else 0
  let ntpSecs := unixSecs + ntpEpochOffset
  { sec := if 0 ≤ ntpSecs ∧ ntpSecs < 4294967296 then .ofNat ntpSecs.toNat else 0
    frac := .ofNat (nanos * 4294967296 % 18446744073709551616 / 1000000000) }

def ntpToSystemTime (w : Timestamp) : Int :=
  let unixSecs : Int := w.sec.toNat - ntpEpochOffset
  let nanos := w.frac.toNat * 1000000000 / 4294967296
  if 0 ≤ unixSecs then unixSecs * 1000000000 + nanos else -(-unixSecs * 1000000000)

def InEra (t : Int) : Prop := 0 ≤ t ∧ t < (4294967296 - ntpEpochOffset) * 1000000000
  deriving Decidable

/-- The server's clock rounds down. -/
def Timestamp.Shows (w : Timestamp) (r : ℝ) : Prop :=
  let unit : ℝ := 1000000000 / 4294967296
  let exact : ℝ := (w.sec.toNat - ntpEpochOffset) * 1000000000 + w.frac.toNat * unit
  exact ≤ r ∧ r < exact + unit

structure Exchange where
  sent : Int
  rx : Timestamp
  tx : Timestamp
  received : Int
  /-- How far the server's clock is ahead. -/
  difference : ℝ
  outbound : ℝ
  inbound : ℝ
  sent_inEra : InEra sent
  received_inEra : InEra received
  rx_since : ntpEpochOffset ≤ rx.sec.toNat
  tx_since : ntpEpochOffset ≤ tx.sec.toNat
  outbound_nonneg : 0 ≤ outbound
  inbound_nonneg : 0 ≤ inbound
  rx_shows : rx.Shows (sent + outbound + difference)
  tx_shows : tx.Shows (received - inbound + difference)

namespace Exchange

def offset (x : Exchange) : Int :=
  ntpOffsetNanos x.sent (ntpToSystemTime x.rx) (ntpToSystemTime x.tx) x.received

def roundTrip (x : Exchange) : Int :=
  ntpRoundTripNanos x.sent (ntpToSystemTime x.rx) (ntpToSystemTime x.tx) x.received

end Exchange

/-! ## What is lost -/

@[simp] theorem nanosSinceEpoch_eq (t : Int) : nanosSinceEpoch t = t := by
  rw [nanosSinceEpoch]
  split <;> omega

theorem asI64_eq_self {n : Int} (hlow : -9223372036854775808 ≤ n)
    (hhigh : n < 9223372036854775808) : asI64 n = n :=
  Int.bmod_eq_of_le (by omega) (by omega)

theorem ntpToSystemTime_eq {w : Timestamp} (h : ntpEpochOffset ≤ w.sec.toNat) :
    ntpToSystemTime w = (w.sec.toNat - ntpEpochOffset) * 1000000000 +
      (w.frac.toNat * 1000000000 / 4294967296 : Nat) :=
  if_pos (by omega)

theorem inEra_ntpToSystemTime {w : Timestamp} (h : ntpEpochOffset ≤ w.sec.toNat) :
    InEra (ntpToSystemTime w) := by
  have hsec := w.sec.toNat_lt
  have hfrac := w.frac.toNat_lt
  rw [InEra, ntpToSystemTime_eq h]
  rw [ntpEpochOffset] at h ⊢
  omega

theorem shows_ntpToSystemTime {w : Timestamp} {r : ℝ} (h : ntpEpochOffset ≤ w.sec.toNat)
    (hr : w.Shows r) : (ntpToSystemTime w : ℝ) ≤ r ∧ r < ntpToSystemTime w + 2 := by
  obtain ⟨hlow, hhigh⟩ := hr
  have hnanos : w.frac.toNat * 1000000000 / 4294967296 * 4294967296 ≤ w.frac.toNat * 1000000000 ∧
      w.frac.toNat * 1000000000 <
        w.frac.toNat * 1000000000 / 4294967296 * 4294967296 + 4294967296 := by omega
  rw [ntpToSystemTime_eq h]
  generalize w.frac.toNat * 1000000000 / 4294967296 = nanos at hnanos ⊢
  have hbelow : (nanos : ℝ) * 4294967296 ≤ w.frac.toNat * 1000000000 := mod_cast hnanos.1
  have habove : (w.frac.toNat : ℝ) * 1000000000 < nanos * 4294967296 + 4294967296 :=
    mod_cast hnanos.2
  push_cast
  constructor <;> linarith

theorem systemTimeToNtp_inEra {t : Int} (h : InEra t) :
    ((systemTimeToNtp t).sec.toNat : Int) = t / 1000000000 + ntpEpochOffset ∧
      (systemTimeToNtp t).frac.toNat = (t % 1000000000).toNat * 4294967296 / 1000000000 := by
  obtain ⟨hlow, hhigh⟩ := h
  have hsecs : 0 ≤ t / 1000000000 + ntpEpochOffset ∧
      t / 1000000000 + ntpEpochOffset < 4294967296 := by
    rw [ntpEpochOffset] at hhigh ⊢
    omega
  simp only [systemTimeToNtp, if_pos hlow, if_pos hsecs]
  constructor
  · rw [UInt32.toNat_ofNat_of_lt' (by rw [UInt32.size]; omega)]
    omega
  · rw [UInt32.toNat_ofNat_of_lt' (by rw [UInt32.size]; omega), Nat.mod_eq_of_lt (by omega)]

theorem ntpToSystemTime_systemTimeToNtp {t : Int} (h : InEra t) :
    ntpToSystemTime (systemTimeToNtp t) = t ∨ ntpToSystemTime (systemTimeToNtp t) = t - 1 := by
  obtain ⟨hsec, hfrac⟩ := systemTimeToNtp_inEra h
  obtain ⟨hlow, -⟩ := h
  rw [ntpToSystemTime_eq (by omega), hsec, hfrac]
  omega

theorem two_mul_tdiv_two (n : Int) : n - 1 ≤ 2 * n.tdiv 2 ∧ 2 * n.tdiv 2 ≤ n + 1 := by
  have hsign : Int.sign 2 = 1 := rfl
  rw [Int.tdiv_eq_ediv, hsign]
  split <;> omega

theorem Exchange.untruncated (x : Exchange) :
    x.offset = ((ntpToSystemTime x.rx - x.sent) + (ntpToSystemTime x.tx - x.received)).tdiv 2 ∧
      x.roundTrip = (x.received - x.sent) - (ntpToSystemTime x.tx - ntpToSystemTime x.rx) := by
  obtain ⟨hsent, hsent'⟩ := x.sent_inEra
  obtain ⟨hreceived, hreceived'⟩ := x.received_inEra
  obtain ⟨hrx, hrx'⟩ := inEra_ntpToSystemTime x.rx_since
  obtain ⟨htx, htx'⟩ := inEra_ntpToSystemTime x.tx_since
  have hhalf := two_mul_tdiv_two
    ((ntpToSystemTime x.rx - x.sent) + (ntpToSystemTime x.tx - x.received))
  rw [ntpEpochOffset] at *
  simp only [offset, roundTrip, ntpOffsetNanos, ntpRoundTripNanos, nanosSinceEpoch_eq]
  exact ⟨asI64_eq_self (by omega) (by omega), asI64_eq_self (by omega) (by omega)⟩

/-- **The clock offset** is right up to half of the round trip and four nanoseconds. -/
theorem offset_close :
    (∀ x : Exchange, |x.offset - x.difference| ≤ x.roundTrip / 2 + 4 ∧
      x.offset = ((ntpToSystemTime x.rx - x.sent) + (ntpToSystemTime x.tx - x.received)).tdiv 2 ∧
      x.roundTrip = (x.received - x.sent) - (ntpToSystemTime x.tx - ntpToSystemTime x.rx)) ∧
    ∀ t, InEra t →
      ntpToSystemTime (systemTimeToNtp t) = t ∨ ntpToSystemTime (systemTimeToNtp t) = t - 1 := by
  refine ⟨fun x => ⟨?_, x.untruncated⟩, fun t => ntpToSystemTime_systemTimeToNtp⟩
  obtain ⟨hoffset, htrip⟩ := x.untruncated
  obtain ⟨hrx, hrx'⟩ := shows_ntpToSystemTime x.rx_since x.rx_shows
  obtain ⟨htx, htx'⟩ := shows_ntpToSystemTime x.tx_since x.tx_shows
  have houtbound := x.outbound_nonneg
  have hinbound := x.inbound_nonneg
  obtain ⟨hlow, hhigh⟩ := two_mul_tdiv_two
    ((ntpToSystemTime x.rx - x.sent) + (ntpToSystemTime x.tx - x.received))
  rw [← hoffset] at hlow hhigh
  rify at htrip hlow hhigh
  rw [abs_le]
  constructor <;> linarith

example : Nonempty Exchange := by
  have hsec : UInt32.toNat 2208988800 = 2208988800 := rfl
  have hshows : Timestamp.Shows ⟨2208988800, 0⟩ 0 := by
    norm_num [Timestamp.Shows, ntpEpochOffset, hsec]
  exact ⟨⟨0, ⟨2208988800, 0⟩, ⟨2208988800, 0⟩, 0, 0, 0, 0, by decide, by decide, by decide,
    by decide, le_rfl, le_rfl, by simpa using hshows, by simpa using hshows⟩⟩

end Penguind.Squawk.Ntp
