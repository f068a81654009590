import Mathlib.Order.GaloisConnection.Basic
import Mathlib.Data.Int.ConditionallyCompleteOrder
import Mathlib.Data.Int.SuccPred

/-! Slots that cut a timeline: the last one at or before an instant, and the one after it. -/

namespace Calendar

/-- Slots numbered in order, with the number of the last one that starts at or before an instant. -/
structure Slots (Instant : Type) [LinearOrder Instant] where
  /-- When a slot starts. -/
  start : ℤ → Instant
  /-- The last slot that starts by an instant. -/
  index : Instant → ℤ
  /-- A slot starts by an instant exactly when it is not after the instant's last slot. -/
  connection : GaloisConnection start index
  /-- Later slots start later. -/
  increasing : StrictMono start

namespace Slots

variable {Instant : Type} [LinearOrder Instant] (slots : Slots Instant)

/-- The start of the last slot at or before an instant. -/
def recent (now : Instant) : Instant := slots.start (slots.index now)

/-- The start of the slot after an instant. -/
def following (now : Instant) : Instant := slots.start (slots.index now + 1)

/-- The last slot starts at or before the instant. -/
theorem recent_le (now : Instant) : slots.recent now ≤ now := slots.connection.l_u_le now

/-- The following slot starts after the instant. -/
theorem lt_following (now : Instant) : now < slots.following now :=
  slots.connection.lt_iff_lt.mpr (Int.lt_add_one_iff.mpr le_rfl)

/-- A slot is the last one at its own start. -/
@[simp] theorem index_start (slot : ℤ) : slots.index (slots.start slot) = slot :=
  slots.increasing.injective (slots.connection.l_u_l_eq_l slot)

/-- The last slot of a slot's start is that slot. -/
@[simp] theorem recent_recent (now : Instant) : slots.recent (slots.recent now) = slots.recent now :=
  congrArg slots.start (slots.index_start _)

/-- A later instant has no earlier slot. -/
theorem recent_mono : Monotone slots.recent := fun _ _ ordered =>
  slots.increasing.monotone (slots.connection.monotone_u ordered)

/-- No slot starts strictly between the last one and the following one. -/
theorem recent_or_following (now : Instant) (slot : ℤ) :
    slots.start slot ≤ slots.recent now ∨ slots.following now ≤ slots.start slot := by
  rcases Int.lt_or_le (slots.index now) slot with after | before
  · exact Or.inr (slots.increasing.monotone after)
  · exact Or.inl (slots.increasing.monotone before)

/-- A slot that starts by an instant starts by the instant's last slot. -/
theorem start_le_recent {now : Instant} {slot : ℤ} :
    slots.start slot ≤ slots.recent now ↔ slots.start slot ≤ now :=
  ⟨fun before => before.trans (slots.recent_le now), fun before =>
    slots.increasing.monotone (slots.connection.le_iff_le.mp before)⟩

/-- Two instants share their last slot exactly when no slot starts between them. -/
theorem recent_eq_iff {earlier later : Instant} (ordered : earlier ≤ later) :
    slots.recent earlier = slots.recent later ↔
      ∀ slot, slots.start slot ≤ later → slots.start slot ≤ earlier := by
  constructor
  · intro same slot before
    exact (slots.start_le_recent.mpr before).trans (same ▸ slots.recent_le earlier)
  · intro undivided
    refine le_antisymm (slots.recent_mono ordered) ?_
    exact slots.start_le_recent.mpr (undivided _ (slots.recent_le later))

end Slots

end Calendar
