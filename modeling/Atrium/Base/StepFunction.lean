/-
# Base.StepFunction -- functions of integer time that change at isolated jumps

A function of integer time changes at its jumps and nowhere else.  Where any two jumps
are `d` apart, a span of length `d` has one jump at most: the function has one value
before it and one from it on (`Isolated.split`), so across such a span it drifts by no
more than one jump does (`Isolated.drift`).
-/
import Mathlib

namespace Atrium.Base.StepFunction

set_option autoImplicit false

variable {f : Int → Int} {d : Int}

/-- The value at `t` is not the one just before. -/
def Jump (f : Int → Int) (t : Int) : Prop := f t ≠ f (t - 1)

/-- Two jumps are `d` apart. -/
def Isolated (f : Int → Int) (d : Int) : Prop :=
  ∀ s t, Jump f s → Jump f t → s < t → s + d ≤ t

/-- No jump after `lo`, up to `hi`. -/
def Calm (f : Int → Int) (lo hi : Int) : Prop := ∀ t, lo < t → t ≤ hi → ¬ Jump f t

theorem Calm.value {lo hi : Int} (calm : Calm f lo hi) {t : Int} (after : lo ≤ t) :
    t ≤ hi → f t = f lo := by
  induction t, after using Int.leInduction with
  | base => exact fun _ => rfl
  | succ t after ih =>
      intro before
      have still : ¬ f (t + 1) ≠ f (t + 1 - 1) := calm (t + 1) (by omega) before
      rw [add_sub_cancel_right, not_not] at still
      exact still.trans (ih (by omega))

theorem Calm.same {lo hi : Int} (calm : Calm f lo hi) {s t : Int} (after : lo ≤ s) (after' : lo ≤ t)
    (before : s ≤ hi) (before' : t ≤ hi) : f s = f t :=
  (calm.value after before).trans (calm.value after' before').symm

/-- What a span with one jump at most looks like: `at_` parts it. -/
structure Split (f : Int → Int) (lo hi at_ : Int) : Prop where
  early : ∀ t, lo ≤ t → t < at_ → f t = f lo
  late : ∀ t, at_ ≤ t → t ≤ hi → f t = f hi
  jump : f lo ≠ f hi → Jump f at_ ∧ lo < at_ ∧ at_ ≤ hi

/-- **A short span has one jump at most.** -/
theorem Isolated.split (isolated : Isolated f d) {lo hi : Int} (ordered : lo ≤ hi)
    (short : hi ≤ lo + d) : ∃ at_, Split f lo hi at_ := by
  by_cases calm : Calm f lo hi
  · refine ⟨lo, fun t after before => absurd after (not_le.mpr before), fun t after before => ?_,
      fun differ => absurd (calm.value ordered le_rfl).symm differ⟩
    exact calm.same after ordered before le_rfl
  · obtain ⟨at_, after, before, jump⟩ :
        ∃ at_, lo < at_ ∧ at_ ≤ hi ∧ Jump f at_ := by
      unfold Calm at calm
      push Not at calm
      exact calm
    -- Any other jump of the span would be too close.
    have alone : ∀ t, lo < t → t ≤ hi → Jump f t → t = at_ := by
      intro t after' before' jump'
      rcases lt_trichotomy t at_ with earlier | same | later
      · have apart := isolated t at_ jump' jump earlier
        omega
      · exact same
      · have apart := isolated at_ t jump jump' later
        omega
    have first : Calm f lo (at_ - 1) := by
      intro t after' before' jump'
      have same := alone t after' (by omega) jump'
      omega
    have last : Calm f at_ hi := by
      intro t after' before' jump'
      have same := alone t (by omega) before' jump'
      omega
    refine ⟨at_, fun t after' before' => first.value after' (by omega), fun t after' before' => ?_,
      fun _ => ⟨jump, after, before⟩⟩
    exact last.same after' before before' le_rfl

/-- Every jump is of `most` at most. -/
def StepsBy (f : Int → Int) (most : Int) : Prop := ∀ t, |f t - f (t - 1)| ≤ most

theorem Isolated.drift (isolated : Isolated f d) {most : Int} (steps : StepsBy f most) {lo hi : Int}
    (ordered : lo ≤ hi) (short : hi ≤ lo + d) : |f hi - f lo| ≤ most := by
  obtain ⟨at_, split⟩ := isolated.split ordered short
  by_cases same : f lo = f hi
  · rw [same, sub_self, abs_zero]
    exact le_trans (abs_nonneg _) (steps 0)
  · obtain ⟨-, after, before⟩ := split.jump same
    have step := steps at_
    rw [split.late at_ le_rfl before, split.early (at_ - 1) (by omega) (by omega)] at step
    exact step

end Atrium.Base.StepFunction
