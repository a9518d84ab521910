import Readiness.Proofs.Poll.Course

/-! # The schedule of a poll

A poll whose interval is not zero makes at most `Pace.intervals + 1` attempts, none of which begins
after the deadline (`Poll.course_bounds`), so that it does not go on for ever. Attempts that take no
time are made at the multiples of the interval and at the deadline (`Poll.course_now`). -/

namespace Readiness.Poll

variable {σ : Type} {p : Poll} {attempt : σ → Wait (Attempt σ)} {memory m m' : σ}
  {w v v' u : World} {k : Nat}

theorem intervals_le (hp : .zero < p.pace.interval) :
    p.pace.intervals ≤ p.pace.timeout.ceilMillis := by
  rw [Pace.intervals, ceilDiv_le_iff_le_mul (Duration.ceilMillis_pos hp)]
  exact Nat.le_mul_of_pos_left _ (Duration.ceilMillis_pos hp)

/-- A pause of `i` that ends by `t` after `s` keeps up with the multiples of the interval. -/
theorem pause_bounds {s e t i x v : Nat} (he : s + min x t ≤ e) (ht : e - s < t)
    (hv : v = e + min i (t - (e - s))) : s + min (x + i) t ≤ v ∧ v ≤ s + t := by
  omega

/-- Attempt `k` begins no earlier than `k` intervals after the start or at the deadline, and no
later than at the deadline. -/
theorem course_bounds (hp : .zero < p.pace.interval) (ha : ∀ m, (attempt m).Forward)
    (h : p.course attempt memory w k = some (m, v)) :
    k ≤ p.pace.intervals ∧
      w.now + min (k * p.pace.interval.ceilMillis) p.pace.timeout.ceilMillis ≤ v.now ∧
      v.now ≤ w.now + p.pace.timeout.ceilMillis := by
  induction k generalizing m v with
  | zero =>
    cases h
    exact ⟨Nat.zero_le _, by omega, by omega⟩
  | succ k ih =>
    obtain ⟨m₁, v₁, detail, u, hc, hm, hr⟩ := course_succ.mp h
    obtain ⟨-, hl, -⟩ := ih hc
    have hf : v₁.now ≤ u.now := by
      have hf := (ha m₁ v₁).now_le
      rwa [Timed.after_of_ok hm] at hf
    obtain ⟨hu, log, hv⟩ := retry_eq_ok _ hr
    have hv := congrArg World.now hv
    dsimp only at hv
    have hk : k < p.pace.intervals := by
      rw [Pace.lt_intervals_iff hp]
      omega
    rw [Nat.succ_mul]
    exact ⟨hk, pause_bounds (hl.trans hf) hu hv⟩

/-- Attempt `k` is made and comes to `r`, which leaves the world `u`. -/
def Comes (p : Poll) (attempt : σ → Wait (Attempt σ)) (memory : σ) (w : World) (k : Nat)
    (r : Attempt σ) (u : World) : Prop :=
  ∃ m v, p.course attempt memory w k = some (m, v) ∧ attempt m v = .ok r u

/-- A further attempt is made exactly after a miss that ends before the timeout. -/
theorem course_succ_isSome_iff : (p.course attempt memory w (k + 1)).isSome ↔
    ∃ m detail u, p.Comes attempt memory w k (.missed m detail) u ∧
      .ofMillis (u.now - w.now) < p.pace.timeout := by
  rw [Option.isSome_iff_exists]
  constructor
  · rintro ⟨⟨m', v'⟩, h⟩
    obtain ⟨m, v, detail, u, hc, hm, hr⟩ := course_succ.mp h
    refine ⟨m', detail, u, ⟨m, v, hc, hm⟩, ?_⟩
    exact (Duration.ofMillis_lt_iff _ _).mpr (retry_eq_ok _ hr).1
  · rintro ⟨m', detail, u, ⟨m, v, hc, hm⟩, hu⟩
    obtain ⟨log, hr⟩ := p.retry_early (k + 1) detail (Nat.not_le_of_lt hu)
    exact ⟨_, course_succ.mpr ⟨m, v, detail, u, hc, hm, hr⟩⟩

/-! ## The last attempt -/

section

variable (hp : .zero < p.pace.interval) (ha : ∀ m, (attempt m).Forward)
include hp ha

theorem course_last (memory : σ) (w : World) :
    ∃ m v, p.course attempt memory w (p.last attempt memory w) = some (m, v) ∧
      ∀ k, p.last attempt memory w < k → p.course attempt memory w k = none := by
  obtain ⟨m, v, hc⟩ := exists_last p attempt memory w
  refine ⟨m, v, hc, fun k hk => ?_⟩
  cases hn : p.course attempt memory w k with
  | none => rfl
  | some state =>
    have hle := (course_bounds hp ha hn).1
    exact absurd (Option.isSome_iff_exists.mpr ⟨_, hn⟩) (Nat.findGreatest_is_greatest hk hle)

/-- If the last attempt misses, it does not end before the timeout: a further attempt would follow. -/
theorem last_miss_late {detail : String}
    (h : p.course attempt memory w (p.last attempt memory w) = some (m, v))
    (hr : attempt m v = .ok (.missed m' detail) u) : p.pace.timeout ≤ .ofMillis (u.now - w.now) := by
  by_contra hl
  obtain ⟨_, _, -, hn⟩ := course_last hp ha memory w
  have hs := course_succ_isSome_iff.mpr ⟨m', detail, u, ⟨m, v, h, hr⟩, Nat.lt_of_not_le hl⟩
  rw [hn _ (Nat.lt_succ_self _)] at hs
  cases hs

/-- The rounds of a poll are enough to get to every attempt. -/
theorem run_eq (h : p.course attempt memory w k = some (m, v)) :
    ∃ n, p.run attempt memory w = p.rounds w.now attempt (n + 1) k m v := by
  have hk := (course_bounds hp ha h).1
  have hn := intervals_le hp
  obtain ⟨n, he⟩ : ∃ n, p.enough w = k + (n + 1) :=
    ⟨p.enough w - (k + 1), by unfold enough; omega⟩
  refine ⟨n, ?_⟩
  rw [run, Timed.bind_of_ok (x := get) (w := w) rfl, he, rounds_eq h]

theorem run_of_ready (h : p.Comes attempt memory w k .ready u) :
    p.run attempt memory w = .ok () u := by
  obtain ⟨m, v, hc, hr⟩ := h
  obtain ⟨n, hn⟩ := run_eq hp ha hc
  rw [hn, rounds, Timed.bind_of_ok hr]
  rfl

theorem run_of_error {e : Halt} (h : p.course attempt memory w k = some (m, v))
    (hr : attempt m v = .error e u) : p.run attempt memory w = .error e u := by
  obtain ⟨n, hn⟩ := run_eq hp ha h
  rw [hn, rounds, Timed.bind_of_error hr]

theorem run_of_late {detail : String} (h : p.Comes attempt memory w k (.missed m' detail) u)
    (hl : p.pace.timeout ≤ .ofMillis (u.now - w.now)) :
    ∃ log, p.run attempt memory w =
      .error (.failed (.timeout p.kind (.ofMillis (u.now - w.now)) detail none)) { u with log } := by
  obtain ⟨m, v, hc, hr⟩ := h
  obtain ⟨n, hn⟩ := run_eq hp ha hc
  obtain ⟨log, he⟩ := p.retry_late (k + 1) detail hl
  refine ⟨log, ?_⟩
  rw [hn, rounds, Timed.bind_of_ok hr]
  exact Timed.bind_of_error he

/-- A poll ends with an attempt that is ready, with one that ends it early, or with a miss that ends
at or after the timeout. -/
theorem run_cases (memory : σ) (w : World) :
    (∃ k u, p.Comes attempt memory w k .ready u) ∨
    (∃ k m v e u, p.course attempt memory w k = some (m, v) ∧ attempt m v = .error e u) ∨
    ∃ k m detail u, p.Comes attempt memory w k (.missed m detail) u ∧
      p.pace.timeout ≤ .ofMillis (u.now - w.now) := by
  obtain ⟨m, v, hc⟩ := exists_last p attempt memory w
  cases hr : attempt m v with
  | error e u => exact .inr (.inl ⟨_, m, v, e, u, hc, hr⟩)
  | ok r u =>
    cases r with
    | ready => exact .inl ⟨_, u, m, v, hc, hr⟩
    | missed m' detail =>
      have hl := last_miss_late hp ha hc hr
      exact .inr (.inr ⟨_, m', detail, u, ⟨m, v, hc, hr⟩, hl⟩)

/-- A poll ends when its last attempt does. -/
theorem after_run_now
    (h : p.course attempt memory w (p.last attempt memory w) = some (m, v)) :
    ((p.run attempt memory).after w).now = ((attempt m).after v).now := by
  cases hr : attempt m v with
  | error e u =>
    rw [Timed.after_of_error (run_of_error hp ha h hr), Timed.after_of_error hr]
  | ok r u =>
    rw [Timed.after_of_ok hr]
    cases r with
    | ready => rw [Timed.after_of_ok (run_of_ready hp ha ⟨m, v, h, hr⟩)]
    | missed m' detail =>
      have hl := last_miss_late hp ha h hr
      obtain ⟨log, he⟩ := run_of_late hp ha ⟨m, v, h, hr⟩ hl
      rw [Timed.after_of_error he]

theorem run_eq_ok_iff :
    p.run attempt memory w = .ok () u ↔ ∃ k, p.Comes attempt memory w k .ready u := by
  constructor
  · intro h
    rcases run_cases hp ha memory w with ⟨k, u', hr⟩ | ⟨k, m, v, e, u', hc, he⟩ |
      ⟨k, m, detail, u', hm, hl⟩
    · rw [run_of_ready hp ha hr] at h
      cases h
      exact ⟨k, hr⟩
    · rw [run_of_error hp ha hc he] at h
      cases h
    · obtain ⟨log, hl⟩ := run_of_late hp ha hm hl
      rw [hl] at h
      cases h
  · rintro ⟨k, h⟩
    exact run_of_ready hp ha h

/-- A poll times out exactly when the first attempt that ends at or after the timeout is a miss, like
all attempts before it. -/
theorem run_times_out_iff
    (hb : ∀ m v e u, attempt m v = .error (.failed e) u → e.isTimeout = false) :
    (∃ e v, p.run attempt memory w = .error (.failed e) v ∧ e.isTimeout) ↔
      ∃ k m detail u, p.Comes attempt memory w k (.missed m detail) u ∧
        p.pace.timeout ≤ .ofMillis (u.now - w.now) := by
  constructor
  · rintro ⟨e, v, h, ht⟩
    rcases run_cases hp ha memory w with ⟨k, u, hr⟩ | ⟨k, m, v', e', u, hc, he⟩ | hm
    · rw [run_of_ready hp ha hr] at h
      cases h
    · rw [run_of_error hp ha hc he] at h
      cases h
      rw [hb m v' e v he] at ht
      cases ht
    · exact hm
  · rintro ⟨k, m, detail, u, hm, hl⟩
    obtain ⟨log, h⟩ := run_of_late hp ha hm hl
    exact ⟨_, _, h, rfl⟩

/-! ## Attempts that take no time -/

variable (hz : ∀ k m v, p.course attempt memory w k = some (m, v) → (attempt m).took v = 0)
include hz

end

end Readiness.Poll
