import Reconcile.Proofs.Engine.Origins
import Reconcile.Proofs.Matching.Twins
import Reconcile.Proofs.Store.Agreement

set_option autoImplicit false

/-
The time score falls with every microsecond. It is within a few units of its last digit of the part
of the window that is left, and two times of one window differ by a greater part of it, since no
window has as many microseconds as a number of eighteen digits counts. For the same reason the
score is one only up to the declaration and zero only from the expiry on.
-/
namespace Reconcile

open Decimal (relativeError tinyExponent)

namespace Decimal

/-- Bounds bring a value no further from another that is kept between them. -/
theorem clamp_near {value low high r : Decimal} {x bound : ℚ} (finite : value.isFinite)
    (finiteLow : low.isFinite) (finiteHigh : high.isFinite)
    (done : Matching.clamp value low high = .ok r) (near : |value.toRat - x| ≤ bound) :
    |r.toRat - max low.toRat (min high.toRat x)| ≤ bound := by
  obtain ⟨-, kept⟩ := clamp_toRat finite finiteLow finiteHigh done
  rw [kept, max_comm low.toRat, max_comm low.toRat]
  refine (abs_max_sub_max_le_abs _ _ _).trans ?_
  have inner := abs_min_sub_min_le_max high.toRat value.toRat high.toRat x
  rw [sub_self, abs_zero, max_eq_right (abs_nonneg _)] at inner
  exact inner.trans near

end Decimal

namespace Matching

def remaining (elapsed window : ℤ) : ℚ := min 1 (max 0 (1 - max 0 (elapsed : ℚ) / window))

theorem remaining_of_before {elapsed : ℤ} (before : elapsed ≤ 0) (window : ℤ) :
    remaining elapsed window = 1 := by
  have none : max 0 (elapsed : ℚ) = 0 := max_eq_left (by exact_mod_cast before)
  rw [remaining, none, zero_div, sub_zero, max_eq_right zero_le_one, min_self]

section Windows

variable {elapsed later window : ℤ} {score : Decimal} (lasts : 0 < window)
include lasts

theorem remaining_of_over (past : window ≤ elapsed) : remaining elapsed window = 0 := by
  have length : (0 : ℚ) < window := by exact_mod_cast lasts
  have all : (window : ℚ) ≤ elapsed := by exact_mod_cast past
  have whole : 1 ≤ max 0 (elapsed : ℚ) / window :=
    (one_le_div length).mpr (all.trans (le_max_right _ _))
  rw [remaining, max_eq_left (by linarith), min_eq_right zero_le_one]

theorem remaining_of_within (since : 0 ≤ elapsed) (live : elapsed ≤ window) :
    remaining elapsed window = 1 - elapsed / window := by
  have length : (0 : ℚ) < window := by exact_mod_cast lasts
  have passed : (0 : ℚ) ≤ elapsed := by exact_mod_cast since
  have part : (elapsed : ℚ) / window ≤ 1 := (div_le_one length).mpr (by exact_mod_cast live)
  have some : (0 : ℚ) ≤ elapsed / window := div_nonneg passed length.le
  rw [remaining, max_eq_right passed, max_eq_right (by linarith), min_eq_right (by linarith)]

/-- A microsecond takes its part of the window away. -/
theorem remaining_step (since : 0 ≤ elapsed) (after : elapsed < later) (live : later ≤ window) :
    1 / (window : ℚ) ≤ remaining elapsed window - remaining later window := by
  have length : (0 : ℚ) < window := by exact_mod_cast lasts
  have step : (1 : ℚ) ≤ later - elapsed := by exact_mod_cast (by omega : 1 ≤ later - elapsed)
  rw [remaining_of_within lasts since (by omega), remaining_of_within lasts (by omega) live,
    sub_sub_sub_cancel_left, ← sub_div]
  exact div_le_div_of_nonneg_right step length.le

/-- Nothing is rounded before the declaration. -/
theorem timeLeft_of_before (before : elapsed ≤ 0) (done : timeLeft elapsed window = .ok score) :
    score.toRat = 1 := by
  obtain ⟨part, rest, settled, subtracted, clamped⟩ := timeLeft_settled lasts done
  have none : max 0 (elapsed : ℚ) = 0 := max_eq_left (by exact_mod_cast before)
  rw [none, zero_div] at settled
  have nothing := (settled.rounds rfl).eq_iff.mpr Decimal.representable_zero
  have restRounds := Decimal.complement_rounds (settled.rounds rfl).fits subtracted
  rw [nothing, sub_zero] at restRounds
  have whole := restRounds.eq_iff.mpr Decimal.representable_one
  obtain ⟨-, value⟩ := Decimal.clamp_toRat restRounds.isFinite rfl rfl clamped
  rw [value, whole, Decimal.toRat_zero, Decimal.toRat_one, min_self, max_eq_right zero_le_one]

theorem timeLeft_of_over (past : window ≤ elapsed) (done : timeLeft elapsed window = .ok score) :
    score.toRat = 0 := by
  obtain ⟨part, rest, settled, subtracted, clamped⟩ := timeLeft_settled lasts done
  have length : (0 : ℚ) < window := by exact_mod_cast lasts
  have all : (window : ℚ) ≤ elapsed := by exact_mod_cast past
  have whole := (settled.rounds rfl).ge_of_ge Decimal.representable_one
    ((one_le_div length).mpr (all.trans (le_max_right _ _)))
  have fits := (settled.rounds rfl).fits
  have none := Decimal.complement_nonpos fits whole subtracted
  have finite := (Decimal.complement_rounds fits subtracted).isFinite
  obtain ⟨-, value⟩ := Decimal.clamp_toRat finite rfl rfl clamped
  rw [value, Decimal.toRat_zero, Decimal.toRat_one, min_eq_right (by linarith), max_eq_left none]

/-- The time score is near the part of the window that is left. -/
theorem timeLeft_near (done : timeLeft elapsed window = .ok score) :
    |score.toRat - remaining elapsed window| ≤ 3 * relativeError := by
  have nonneg := Decimal.relativeError_nonneg
  -- The part that has passed can be of any size after the expiry, and so can its error.
  rcases le_or_gt window elapsed with past | live
  · rw [timeLeft_of_over lasts past done, remaining_of_over lasts past, sub_zero, abs_zero]
    linarith
  · obtain ⟨part, rest, settled, subtracted, clamped⟩ := timeLeft_settled lasts done
    have length : (0 : ℚ) < window := by exact_mod_cast lasts
    have quotient : 0 ≤ max 0 (elapsed : ℚ) / window := by positivity
    have small : max 0 (elapsed : ℚ) / window ≤ 1 :=
      (div_le_one length).mpr (max_le length.le (by exact_mod_cast live.le))
    have partRounds := settled.rounds rfl
    have error := settled.error rfl
    have scaled := mul_le_mul_of_nonneg_right small nonneg
    have least := least_le_relativeError
    rw [abs_of_nonneg quotient] at error
    have most := partRounds.le_of_le Decimal.representable_one small
    have restError := complement_near partRounds.fits (partRounds.nonneg quotient) (by linarith)
      subtracted
    have near : |rest.toRat - (1 - max 0 (elapsed : ℚ) / window)| ≤ 3 * relativeError := by
      have errors := abs_le.mp error
      have restErrors := abs_le.mp restError
      rw [abs_le]
      constructor <;> linarith
    have finite := (Decimal.complement_rounds partRounds.fits subtracted).isFinite
    have kept := Decimal.clamp_near finite rfl rfl clamped near
    rw [Decimal.toRat_zero, Decimal.toRat_one, max_min_distrib_left, max_eq_right zero_le_one]
      at kept
    exact kept

/-- A microsecond of any window is a greater part of it than rounding hides. -/
theorem error_lt_step (short : window < Timestamp.span) : 6 * relativeError < 1 / (window : ℚ) := by
  have length : (0 : ℚ) < window := by exact_mod_cast lasts
  have bound : (window : ℚ) < 10 ^ 18 := by exact_mod_cast short
  rw [lt_div_iff₀ length]
  norm_num [relativeError, Decimal.precision]
  linarith

section Steps

variable {lower : Decimal} (short : window < Timestamp.span)
include short

theorem timeLeft_lt (since : 0 ≤ elapsed) (after : elapsed < later) (live : later ≤ window)
    (done : timeLeft elapsed window = .ok score) (also : timeLeft later window = .ok lower) :
    lower.toRat < score.toRat := by
  have step := remaining_step lasts since after live
  have near := abs_le.mp (timeLeft_near lasts done)
  have nearLater := abs_le.mp (timeLeft_near lasts also)
  have wide := error_lt_step lasts short
  linarith

theorem timeLeft_eq_one_iff (done : timeLeft elapsed window = .ok score) :
    score.toRat = 1 ↔ elapsed ≤ 0 := by
  refine ⟨?_, fun before => timeLeft_of_before lasts before done⟩
  intro whole
  by_contra after
  rcases le_or_gt window elapsed with past | live
  · rw [timeLeft_of_over lasts past done] at whole
    exact zero_ne_one whole
  · have step := remaining_step lasts le_rfl (not_le.mp after) live.le
    have near := abs_le.mp (timeLeft_near lasts done)
    have wide := error_lt_step lasts short
    have nonneg := Decimal.relativeError_nonneg
    rw [remaining_of_before le_rfl] at step
    linarith

theorem timeLeft_eq_zero_iff (done : timeLeft elapsed window = .ok score) :
    score.toRat = 0 ↔ window ≤ elapsed := by
  refine ⟨?_, fun past => timeLeft_of_over lasts past done⟩
  intro none
  by_contra live
  rcases le_or_gt elapsed 0 with before | after
  · rw [timeLeft_of_before lasts before done] at none
    exact one_ne_zero none
  · have step := remaining_step lasts after.le (not_le.mp live) le_rfl
    have near := abs_le.mp (timeLeft_near lasts done)
    have wide := error_lt_step lasts short
    have nonneg := Decimal.relativeError_nonneg
    rw [remaining_of_over lasts le_rfl] at step
    linarith

end Steps

end Windows

end Matching

/-- The times of an intent are instants, and it lasts for some time. -/
structure Intent.Lasting (intent : Intent) : Prop where
  created : intent.created.Aware
  expires : intent.expires.Aware
  lasts : intent.created.instant < intent.expires.instant

theorem Intent.Lasting.short {intent : Intent} (lasting : intent.Lasting) :
    intent.expires.instant - intent.created.instant < Timestamp.span := by
  have near := lasting.expires.shown.near lasting.created.shown
  omega

theorem Intent.Declared.lasting {payload : Json} {intent : Intent}
    (declared : intent.Declared payload) : intent.Lasting :=
  ⟨Timestamp.aware_of_moment declared.created, Timestamp.aware_of_moment declared.expires,
    declared.lasts⟩

namespace Matching

/-- The time score of an intent is one up to the declaration, zero from the expiry on, and between
them it falls with every microsecond. -/
structure Falls (intent : Intent) : Prop where
  scored : ∀ confirmed : Timestamp, confirmed.Aware →
    ∃ score, timeScore intent.created intent.expires confirmed = .ok score ∧
      (score.toRat = 1 ↔ confirmed.instant ≤ intent.created.instant) ∧
      (score.toRat = 0 ↔ intent.expires.instant ≤ confirmed.instant)
  falls : ∀ (first second : Timestamp) (score lower : Decimal),
    intent.created.instant ≤ first.instant → first.instant < second.instant →
    second.instant ≤ intent.expires.instant →
    timeScore intent.created intent.expires first = .ok score →
    timeScore intent.created intent.expires second = .ok lower → lower.toRat < score.toRat

section Intents

variable {intent : Intent} (lasting : intent.Lasting)
include lasting

theorem timeScore_cases {confirmed : Timestamp} (aware : confirmed.Aware) :
    ∃ score, timeScore intent.created intent.expires confirmed = .ok score ∧
      Decimal.Unit score ∧ (score.toRat = 1 ↔ confirmed.instant ≤ intent.created.instant) ∧
      (score.toRat = 0 ↔ intent.expires.instant ≤ confirmed.instant) := by
  have lasts := lasting.lasts
  obtain ⟨score, done, unit⟩ :=
    timeScore_eq_ok (timed_of_aware lasting.created lasting.expires aware)
  obtain ⟨-, left⟩ := timeScore_of_window lasts done
  refine ⟨score, done, unit, ?_, ?_⟩
  · rw [timeLeft_eq_one_iff (by omega) lasting.short left]
    omega
  · rw [timeLeft_eq_zero_iff (by omega) lasting.short left]
    omega

theorem falls_of_lasting : Falls intent := by
  refine ⟨?_, ?_⟩
  · intro confirmed aware
    obtain ⟨score, done, -, whole, none⟩ := timeScore_cases lasting aware
    exact ⟨score, done, whole, none⟩
  · intro first second score lower since after live done also
    have lasts := lasting.lasts
    obtain ⟨-, left⟩ := timeScore_of_window lasts done
    obtain ⟨-, leftLater⟩ := timeScore_of_window lasts also
    exact timeLeft_lt (by omega) lasting.short (by omega) (by omega) (by omega) left leftLater

end Intents

/-- The time score of an intent that lasts falls from one to zero. So in tables of such intents, as
operations leave them, every candidate for a deposit has some of its time left. -/
theorem time_score_falls :
    (∀ intent : Intent, intent.Lasting → Falls intent) ∧
    (∀ (store : Store) (bucket : Bucket) (confirmed : Timestamp) (found : List Intent),
      (∀ intent ∈ store.intents, intent.Lasting) → confirmed.Aware →
      store.candidates bucket confirmed = .ok found →
      ∀ intent ∈ found, ∃ score,
        timeScore intent.created intent.expires confirmed = .ok score ∧ 0 < score.toRat) ∧
    ∀ (settings : Settings) (operations : List Operation),
      ∀ intent ∈ ((Engine.start settings).run operations).store.intents, intent.Lasting := by
  refine ⟨fun intent lasting => falls_of_lasting lasting, ?_, ?_⟩
  · intro store bucket confirmed found lasting aware listed intent member
    obtain ⟨inside, waits⟩ := Store.candidates_awaits listed member
    obtain ⟨score, done, unit, -, past⟩ := timeScore_cases (lasting intent inside) aware
    refine ⟨score, done, lt_of_le_of_ne unit.amount.nonneg ?_⟩
    intro none
    have live : confirmed.instant < intent.expires.instant := by
      simp only [Store.awaits, Bool.and_eq_true, decide_eq_true_eq] at waits
      exact waits.2
    exact absurd (past.mp none.symm) (not_le.mpr live)
  · intro settings operations intent member
    obtain ⟨payload, -, declared⟩ := Engine.run_declared settings operations intent member
    exact declared.lasting

namespace Decay

/-- An intent that lasts from the first microsecond of the calendar to the last one. -/
def intent : Intent :=
  ⟨"i", "acme", ⟨"v", 1, "r"⟩, .one, .utc Timestamp.firstWall, .utc Timestamp.lastWall, [],
    .pending⟩

theorem lasting : intent.Lasting :=
  ⟨⟨⟨by decide, by decide, by decide⟩, rfl⟩, ⟨⟨by decide, by decide, by decide⟩, rfl⟩, by decide⟩

/-- Two microseconds that follow each other, the later one written in another zone. -/
def first : Timestamp := .utc 0

def second : Timestamp := ⟨3600 * Timestamp.second + 1, some 3600⟩

def last : Timestamp := .utc (Timestamp.lastWall - 1)

theorem aware : first.Aware ∧ second.Aware ∧ last.Aware :=
  ⟨⟨⟨by decide, by decide, by decide⟩, rfl⟩, ⟨⟨by decide, by decide, by decide⟩, rfl⟩,
    ⟨⟨by decide, by decide, by decide⟩, rfl⟩⟩

def store : Store := { Store.empty with intents := [intent] }

theorem candidates_last : store.candidates intent.bucket last = .ok [intent] := by
  have moment : Column.moment last = .ok last := rfl
  have word : Column.word intent.bucket.chain = .ok intent.bucket.chain := rfl
  have waits : store.intents.filter (Store.awaits intent.bucket last) = [intent] := rfl
  refine (bind_of_ok moment).trans ((bind_of_ok word).trans ?_)
  rw [waits, Table.byTime, List.mergeSort_singleton]
  rfl

end Decay

/-- The time score tells two microseconds apart even if the window is as long as the calendar, and
in the last one of them there is something left. -/
theorem time_score_falls_calendar :
    (∃ score lower, timeScore Decay.intent.created Decay.intent.expires Decay.first = .ok score ∧
      timeScore Decay.intent.created Decay.intent.expires Decay.second = .ok lower ∧
      lower.toRat < score.toRat ∧ score.toRat ≠ 1) ∧
    ∃ score, timeScore Decay.intent.created Decay.intent.expires Decay.last = .ok score ∧
      0 < score.toRat := by
  obtain ⟨aware, awareNext, awareLast⟩ := Decay.aware
  obtain ⟨decays, left, -⟩ := time_score_falls
  obtain ⟨scored, falls⟩ := decays Decay.intent Decay.lasting
  obtain ⟨score, done, whole, -⟩ := scored Decay.first aware
  obtain ⟨lower, also, -⟩ := scored Decay.second awareNext
  refine ⟨⟨score, lower, done, also, ?_, ?_⟩, ?_⟩
  · exact falls Decay.first Decay.second score lower (by decide) (by decide) (by decide) done also
  · rw [ne_eq, whole]
    decide
  · refine left Decay.store _ _ _ ?_ awareLast Decay.candidates_last _ List.mem_cons_self
    intro intent member
    rw [List.mem_singleton.mp member]
    exact Decay.lasting

end Matching

end Reconcile
