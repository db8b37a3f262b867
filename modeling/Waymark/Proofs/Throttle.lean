import Mathlib.Data.List.Induction
import Waymark.Throttle

/-!
# The rate of a throttle

A throttle is read at any times, also at earlier ones, and reset in between. What it remembers is the
last reading that it let through since the last reset, and nothing else: so what it lets through between
two resets is spaced by the interval, and a reading that it holds back changes nothing that comes after.
-/

namespace Waymark

/-- What happens to a throttle. -/
inductive ThrottleEvent
  | reading (now : Nat)
  | reset
  deriving DecidableEq, Repr

/-- A throttle with the readings that it has let through since it was last reset, in order. -/
structure ThrottleLog where
  throttle : Throttle
  passed : List Nat := []
  deriving DecidableEq, Repr

namespace ThrottleLog

/-- Whether a reading would be let through now. -/
def ready (log : ThrottleLog) (now : Nat) : Bool := (log.throttle.readyAt now).1

def step (log : ThrottleLog) : ThrottleEvent → ThrottleLog
  | .reading now =>
    ⟨(log.throttle.readyAt now).2, if log.ready now then log.passed ++ [now] else log.passed⟩
  | .reset => ⟨log.throttle.reset, []⟩

/-- The log of a new throttle after some events. -/
def after (interval : Nat) (events : List ThrottleEvent) : ThrottleLog :=
  events.foldl step { throttle := { interval := interval } }

theorem after_append (interval : Nat) (events more : List ThrottleEvent) :
    after interval (events ++ more) = more.foldl step (after interval events) := by
  rw [after, after, List.foldl_append]

theorem after_snoc (interval : Nat) (events : List ThrottleEvent) (event : ThrottleEvent) :
    after interval (events ++ [event]) = (after interval events).step event :=
  after_append interval events [event]

end ThrottleLog

/-! ## Single readings -/

namespace Throttle

/-- A reading is held back if it comes before the interval has passed. -/
theorem readyAt_eq_false_iff (t : Throttle) (now : Nat) :
    (t.readyAt now).1 = false ↔
      0 < t.interval ∧ ∃ last, t.last = some last ∧ now < last + t.interval := by
  cases hlast : t.last with
  | none => simp [readyAt, hlast]
  | some last =>
      simp only [readyAt, hlast]
      split <;> simp <;> omega

/-- A reading that is held back leaves no trace. -/
theorem readyAt_of_held {t : Throttle} {now : Nat} (h : (t.readyAt now).1 = false) :
    (t.readyAt now).2 = t := by
  rw [readyAt] at h ⊢
  split at h
  · split at h
    · rw [if_pos ‹_›]
    · cases h
  · cases h

theorem readyAt_of_ready {t : Throttle} {now : Nat} (h : (t.readyAt now).1 = true) :
    (t.readyAt now).2 = { t with last := some now } := by
  rw [readyAt] at h ⊢
  split at h
  · split at h
    · cases h
    · rw [if_neg ‹_›]
  · rfl

end Throttle

namespace ThrottleLog

theorem step_of_held {log : ThrottleLog} {now : Nat} (h : log.ready now = false) :
    log.step (.reading now) = log := by
  rw [step, Throttle.readyAt_of_held h, h]
  rfl

theorem step_of_ready {log : ThrottleLog} {now : Nat} (h : log.ready now = true) :
    log.step (.reading now) =
      ⟨{ log.throttle with last := some now }, log.passed ++ [now]⟩ := by
  rw [step, Throttle.readyAt_of_ready h, h]
  rfl

/-! ## Runs -/

/-- The throttle remembers the last reading that it let through, and these are spaced. -/
structure Steady (interval : Nat) (log : ThrottleLog) : Prop where
  throttle_eq : log.throttle = ⟨interval, log.passed.getLast?⟩
  spaced : log.passed.Pairwise fun a b => a + interval ≤ b ∨ interval = 0

variable {interval : Nat} {log : ThrottleLog}

theorem Steady.ready_eq_false_iff (h : log.Steady interval) (now : Nat) :
    log.ready now = false ↔
      0 < interval ∧ ∃ last, log.passed.getLast? = some last ∧ now < last + interval := by
  rw [ready, Throttle.readyAt_eq_false_iff, h.throttle_eq]

theorem Steady.step (h : log.Steady interval) (event : ThrottleEvent) :
    (log.step event).Steady interval := by
  cases event with
  | reset => exact ⟨by rw [ThrottleLog.step, Throttle.reset, h.throttle_eq]; rfl, .nil⟩
  | reading now =>
      cases hready : log.ready now with
      | false => rwa [step_of_held hready]
      | true =>
          rw [step_of_ready hready]
          refine ⟨by simp [h.throttle_eq], ?_⟩
          refine List.pairwise_append.mpr ⟨h.spaced, List.pairwise_singleton _ _, ?_⟩
          intro a ha b hb
          rw [List.mem_singleton.mp hb]
          -- the reading is compared with the last one alone, and no earlier one is larger than that
          obtain ⟨front, last, hpassed⟩ := List.eq_nil_or_concat log.passed |>.resolve_left
            (List.ne_nil_of_mem ha)
          rw [List.concat_eq_append] at hpassed
          have hlast : interval = 0 ∨ last + interval ≤ now := by
            by_contra hnot
            have hheld : log.ready now = false := (h.ready_eq_false_iff now).mpr
              ⟨by omega, last, by rw [hpassed, List.getLast?_concat], by omega⟩
            rw [hready] at hheld
            cases hheld
          have hspaced := h.spaced
          rw [hpassed] at ha hspaced
          rcases List.mem_append.mp ha with ha | ha
          · have hle := (List.pairwise_append.mp hspaced).2.2 a ha last List.mem_cons_self
            omega
          · rw [List.mem_singleton.mp ha]
            omega

theorem steady_after (interval : Nat) (events : List ThrottleEvent) :
    (after interval events).Steady interval := by
  induction events using List.reverseRecOn with
  | nil => exact ⟨rfl, .nil⟩
  | append_singleton events event ih =>
      rw [after_snoc]
      exact ih.step event

/-! ## Windows -/

/-- Spaced times need room: each but the first takes an interval. -/
theorem add_mul_le_of_spaced (lo hi : Nat) {times : List Nat}
    (hspaced : times.Pairwise fun a b => a + interval ≤ b)
    (hin : ∀ t ∈ times, lo ≤ t ∧ t ≤ hi) (hne : times ≠ []) :
    lo + (times.length - 1) * interval ≤ hi := by
  induction times generalizing lo with
  | nil => exact absurd rfl hne
  | cons a times ih =>
      obtain ⟨hlo, hhi⟩ := hin a List.mem_cons_self
      cases times with
      | nil => simpa using Nat.le_trans hlo hhi
      | cons b times =>
          rw [List.pairwise_cons] at hspaced
          have hrest := ih (a + interval) hspaced.2
            (fun t ht => ⟨hspaced.1 t ht, (hin t (List.mem_cons_of_mem a ht)).2⟩) (by simp)
          simp only [List.length_cons, Nat.add_sub_cancel, Nat.add_mul, Nat.one_mul] at hrest ⊢
          omega

theorem countP_window_le {times : List Nat} (hinterval : 0 < interval)
    (hspaced : times.Pairwise fun a b => a + interval ≤ b) (start width : Nat) :
    times.countP (fun t => start ≤ t && t ≤ start + width) ≤ width / interval + 1 := by
  rw [List.countP_eq_length_filter]
  by_cases hne : times.filter (fun t => start ≤ t && t ≤ start + width) = []
  · simp [hne]
  · have hroom := add_mul_le_of_spaced start (start + width) (hspaced.filter _)
      (fun t ht => by simpa using (List.mem_filter.mp ht).2) hne
    have hle := (Nat.le_div_iff_mul_le hinterval).mpr (Nat.le_of_add_le_add_left hroom)
    omega

/-! ## The rate -/

/-- What is let through between two resets keeps the interval, and nothing is held back without need. -/
structure KeepsRate (interval : Nat) (events : List ThrottleEvent) : Prop where
  spaced : 0 < interval →
    (after interval events).passed.Pairwise fun a b => a < b ∧ a + interval ≤ b
  window : 0 < interval → ∀ start width,
    (after interval events).passed.countP (fun t => start ≤ t && t ≤ start + width) ≤
      width / interval + 1
  first : events = [] ∨ events.getLast? = some .reset → ∀ now, (after interval events).ready now = true
  held_iff : ∀ now, (after interval events).ready now = false ↔
    0 < interval ∧ ∃ last, (after interval events).passed.getLast? = some last ∧ now < last + interval
  held_leaves_no_trace : ∀ now, (after interval events).ready now = false → ∀ later,
    after interval (events ++ .reading now :: later) = after interval (events ++ later)
  unlimited : interval = 0 → ∀ now, (after interval events).ready now = true

/-- Every run of readings and resets keeps the rate. Any stretch of one between two resets is the end of a
run of its own, so what is said of the readings since the last reset holds of each. -/
theorem keepsRate_after (interval : Nat) (events : List ThrottleEvent) : KeepsRate interval events := by
  have hsteady := steady_after interval events
  have hspaced : 0 < interval →
      (after interval events).passed.Pairwise fun a b => a + interval ≤ b := fun hinterval =>
    hsteady.spaced.imp fun hab => hab.resolve_right (Nat.ne_of_gt hinterval)
  have hready : (¬ ∃ last, (after interval events).passed.getLast? = some last) ∨ interval = 0 →
      ∀ now, (after interval events).ready now = true := by
    intro h now
    rw [← Bool.not_eq_false, hsteady.ready_eq_false_iff]
    rintro ⟨hinterval, last, hlast, _⟩
    exact h.elim (fun hnone => hnone ⟨last, hlast⟩) (Nat.ne_of_gt hinterval)
  refine ⟨?_, ?_, ?_, hsteady.ready_eq_false_iff, ?_, fun hzero => hready (.inr hzero)⟩
  · exact fun hinterval => (hspaced hinterval).imp fun hab => ⟨by omega, hab⟩
  · exact fun hinterval => countP_window_le hinterval (hspaced hinterval)
  · refine fun hfirst => hready (.inl ?_)
    rcases hfirst with rfl | hreset
    · simp [after]
    · obtain ⟨front, rfl⟩ := List.getLast?_eq_some_iff.mp hreset
      simp [after_snoc, step]
  · intro now hheld later
    rw [after_append, after_append, List.foldl_cons, step_of_held hheld]

/-- A clock that steps back neither lets a reading through nor moves the time of the next one. -/
example : (after 100 [.reading 50, .reading 7, .reading 149, .reading 150]).passed = [50, 150] := by
  decide

end ThrottleLog

end Waymark
