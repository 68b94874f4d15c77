import HyperionWebos.ByteBlocks
import HyperionWebos.Unicapture

/-! `getticks_us` where `long` and `time_t` have 32 bits. The product of the seconds and a
million is formed in that width and only the sum is widened, so a reading is the true time
less a multiple of 2³² microseconds. That cancels between two readings of one span of
2³² microseconds, and nowhere else. -/

namespace HyperionWebos.ElapsedTime
open ByteBlocks Unicapture

/-- A `struct timespec` whose `tv_sec` has 32 bits. -/
structure Timespec where
  tvSec : Int
  tvNsec : Int
  secFits : -2147483648 ≤ tvSec ∧ tvSec < 2147483648
  nsecFits : 0 ≤ tvNsec ∧ tvNsec < 1000000000

def Timespec.Le (t₁ t₂ : Timespec) : Prop :=
  t₁.tvSec < t₂.tvSec ∨ t₁.tvSec = t₂.tvSec ∧ t₁.tvNsec ≤ t₂.tvNsec

def getticksUs (tp : Timespec) : UInt64 :=
  UInt64.ofInt (wrap (wrap (tp.tvSec * 1000000) + tp.tvNsec.tdiv 1000))

def micros (tp : Timespec) : Int := tp.tvSec * 1000000 + tp.tvNsec / 1000

/-- Spans of 2³² microseconds, the one with the number 0 around the clock's zero. -/
def span (tp : Timespec) : Int := (micros tp + 2147483648) / 4294967296

/-- What 60 frames are divided by, in microseconds. -/
def framerateInterval (framecounterStart now : UInt64) : UInt64 := now - framecounterStart

/-- Two readings give the true time between them, for the framerate too, and a gate that
was last tried at the first opens at the second exactly if more than a second has passed. -/
structure ElapsedExact (t₁ t₂ : Timespec) : Prop where
  ticks : ((getticksUs t₂ - getticksUs t₁).toNat : Int) = micros t₂ - micros t₁
  framerate : ((framerateInterval (getticksUs t₁) (getticksUs t₂)).toNat : Int) =
    micros t₂ - micros t₁
  gates : ∀ (side : Side) (lastStart : Side → UInt64) (c : Capture),
    lastStart side = getticksUs t₁ →
      (gateOpen side (getticksUs t₂) lastStart c = true ↔
        1000000 < micros t₂ - micros t₁ ∧ c.state.capture side = true ∧
          c.state.captureRunning side = false)

section Readings

variable {t₁ t₂ : Timespec}

theorem ofInt_sub_toNat (a b : Int) :
    ((UInt64.ofInt a - UInt64.ofInt b).toNat : Int) = (a - b) % 18446744073709551616 := by
  simp only [UInt64.toNat_sub, UInt64.ofInt, UInt64.toNat_ofNat']
  omega

theorem getticksUs_eq (tp : Timespec) :
    getticksUs tp = UInt64.ofInt (micros tp - 4294967296 * span tp) := by
  have nsec : tp.tvNsec.tdiv 1000 = tp.tvNsec / 1000 :=
    Int.tdiv_eq_ediv_of_nonneg tp.nsecFits.1
  unfold getticksUs span micros
  rw [wrap_wrap_add, nsec, wrap_eq]

theorem micros_mono (le : t₁.Le t₂) : micros t₁ ≤ micros t₂ := by
  have := t₁.nsecFits
  have := t₂.nsecFits
  unfold micros
  rcases le with before | ⟨same, later⟩ <;> omega

theorem micros_bounds (tp : Timespec) :
    -2147483648000000 ≤ micros tp ∧ micros tp < 2147483648000000 := by
  have := tp.secFits
  have := tp.nsecFits
  unfold micros
  omega

theorem ticks_across (t₁ t₂ : Timespec) :
    ((getticksUs t₂ - getticksUs t₁).toNat : Int) =
      (micros t₂ - micros t₁ - 4294967296 * (span t₂ - span t₁)) % 18446744073709551616 := by
  rw [getticksUs_eq, getticksUs_eq, ofInt_sub_toNat]
  congr 1
  ring

theorem ticks_exact_iff (le : t₁.Le t₂) :
    ((getticksUs t₂ - getticksUs t₁).toNat : Int) = micros t₂ - micros t₁ ↔
      span t₁ = span t₂ := by
  have later := micros_mono le
  have low := micros_bounds t₁
  have high := micros_bounds t₂
  rw [ticks_across]
  unfold span
  omega

theorem gate_exact (exact_ticks : ((getticksUs t₂ - getticksUs t₁).toNat : Int) =
      micros t₂ - micros t₁)
    (side : Side) (lastStart : Side → UInt64) (c : Capture)
    (last : lastStart side = getticksUs t₁) :
    gateOpen side (getticksUs t₂) lastStart c = true ↔
      1000000 < micros t₂ - micros t₁ ∧ c.state.capture side = true ∧
        c.state.captureRunning side = false := by
  have second : getticksUs t₂ - getticksUs t₁ > 1000000 ↔ 1000000 < micros t₂ - micros t₁ := by
    rw [← exact_ticks, gt_iff_lt, UInt64.lt_iff_toNat_lt]
    exact Int.ofNat_lt.symm
  unfold gateOpen
  rw [last]
  simp [second, and_assoc]

end Readings

/-- Elapsed time is exact exactly between readings of one span. -/
theorem elapsed_exact_iff (t₁ t₂ : Timespec) (le : t₁.Le t₂) :
    ElapsedExact t₁ t₂ ↔ span t₁ = span t₂ := by
  rw [← ticks_exact_iff le]
  exact ⟨ElapsedExact.ticks, fun ticks => ⟨ticks, ticks, gate_exact ticks⟩⟩

def atSecond (seconds : Nat) (fits : seconds < 2147483648) : Timespec :=
  ⟨seconds, 0, ⟨by omega, by omega⟩, ⟨by decide, by decide⟩⟩

theorem elapsed_exact_minute :
    ElapsedExact (atSecond 60 (by decide)) (atSecond 120 (by decide)) :=
  (elapsed_exact_iff _ _ (.inl (by decide))).mpr (by decide)

/-- The product overflows between 2147 and 2148 seconds. -/
theorem elapsed_overflow : ¬ ∀ t₁ t₂ : Timespec, t₁.Le t₂ → ElapsedExact t₁ t₂ := by
  intro always
  have le : (atSecond 2147 (by decide)).Le (atSecond 2148 (by decide)) := .inl (by decide)
  exact absurd ((ticks_exact_iff le).mp (always _ _ le).ticks) (by decide)

end HyperionWebos.ElapsedTime
