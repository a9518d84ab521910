import Mathlib.Algebra.Order.Floor.Div
import Readiness.Proofs.Action.Trace

/-! # The course of a poll

`Poll.course` gives the state in which the attempt of each number begins, as far as it is made. The
loop passes through these states (`Poll.rounds_eq`), so that what the last attempt comes to is what
the poll comes to (`Poll.run_of_ready`, `Poll.run_of_error`, `Poll.run_of_late`). -/

namespace Readiness

/-- The number of intervals that cover the timeout, both counted in whole milliseconds. -/
def Pace.intervals (p : Pace) : Nat := p.timeout.ceilMillis ⌈/⌉ p.interval.ceilMillis

theorem Duration.ceilMillis_pos {d : Duration} (h : .zero < d) : 0 < d.ceilMillis := by
  have h : 0 < d.nanos := h
  unfold Duration.ceilMillis
  omega

theorem Duration.ceilMillis_le {d e : Duration} (h : d ≤ e) : d.ceilMillis ≤ e.ceilMillis := by
  have h : d.nanos ≤ e.nanos := h
  unfold Duration.ceilMillis
  omega

theorem Duration.ofMillis_lt_iff (d : Duration) (n : Nat) : ofMillis n < d ↔ n < d.ceilMillis := by
  simp only [lt_def, ceilMillis, ofMillis]
  omega

theorem Pace.lt_intervals_iff {p : Pace} (h : .zero < p.interval) (k : Nat) :
    k < p.intervals ↔ k * p.interval.ceilMillis < p.timeout.ceilMillis := by
  rw [Pace.intervals, ← not_le, ceilDiv_le_iff_le_mul (Duration.ceilMillis_pos h), not_le,
    Nat.mul_comm]

namespace Poll

variable {σ : Type}

section

variable (p : Poll)

/-! ## Misses -/

/-- A pause ends an interval later or at the deadline, whichever comes first. -/
theorem pauseAfter_ceilMillis (n : Nat) :
    (p.pauseAfter (.ofMillis n)).ceilMillis =
      min p.pace.interval.ceilMillis (p.pace.timeout.ceilMillis - n) := by
  have hmin : ∀ a b : Duration, (min a b).ceilMillis = min a.ceilMillis b.ceilMillis := by
    intro a b
    change (if a ≤ b then a else b).ceilMillis = _
    split
    · next h =>
      have h : a.nanos ≤ b.nanos := h
      unfold Duration.ceilMillis
      omega
    · next h =>
      have h : ¬ a.nanos ≤ b.nanos := h
      unfold Duration.ceilMillis
      omega
  rw [pauseAfter, hmin]
  congr 1
  unfold Duration.ceilMillis Duration.ofMillis
  rw [Duration.sub_nanos]
  dsimp only
  omega

/-- A miss at or after the timeout ends the wait at once. -/
theorem retry_late {started : Nat} {w : World} (misses : Nat) (detail : String)
    (h : p.pace.timeout ≤ .ofMillis (w.now - started)) :
    ∃ log, p.retry started misses detail w =
      .error (.failed (.timeout p.kind (.ofMillis (w.now - started)) detail none))
        { w with log } := by
  unfold retry
  rw [Timed.bind_of_ok (x := Timed.now) (w := w) rfl]
  dsimp only
  rw [if_pos h]
  exact ⟨_, rfl⟩

/-- A miss before the timeout is followed by a pause. -/
theorem retry_early {started : Nat} {w : World} (misses : Nat) (detail : String)
    (h : ¬ p.pace.timeout ≤ .ofMillis (w.now - started)) :
    ∃ log, p.retry started misses detail w =
      .ok () { w with
        now := w.now + (p.pauseAfter (.ofMillis (w.now - started))).ceilMillis
        log } := by
  unfold retry
  rw [Timed.bind_of_ok (x := Timed.now) (w := w) rfl]
  dsimp only
  rw [if_neg h]
  exact ⟨_, rfl⟩

/-- All that a pause changes is the time and the log. -/
theorem retry_eq_ok {started misses : Nat} {detail : String} {w v : World}
    (h : p.retry started misses detail w = .ok () v) :
    w.now - started < p.pace.timeout.ceilMillis ∧
      ∃ log, v = { w with
        now := w.now + min p.pace.interval.ceilMillis
          (p.pace.timeout.ceilMillis - (w.now - started))
        log } := by
  by_cases hl : p.pace.timeout ≤ .ofMillis (w.now - started)
  · obtain ⟨log, hr⟩ := p.retry_late misses detail hl
    rw [hr] at h
    cases h
  · obtain ⟨log, hr⟩ := p.retry_early misses detail hl
    rw [hr, pauseAfter_ceilMillis] at h
    cases h
    exact ⟨(Duration.ofMillis_lt_iff _ _).mp (Nat.lt_of_not_le hl), log, rfl⟩

end

/-! ## The course -/

/-- The state in which the attempt after the `k`-th begins, if the `k`-th misses in time. -/
def next (p : Poll) (attempt : σ → Wait (Attempt σ)) (started k : Nat) (state : σ × World) :
    Option (σ × World) :=
  match attempt state.1 state.2 with
  | .ok (.missed memory detail) w =>
    match p.retry started (k + 1) detail w with
    | .ok () w => some (memory, w)
    | .error _ _ => none
  | _ => none

/-- The state in which the `k`-th attempt begins, counted from 0, if it is made. -/
def course (p : Poll) (attempt : σ → Wait (Attempt σ)) (memory : σ) (w : World) :
    Nat → Option (σ × World)
  | 0 => some (memory, w)
  | k + 1 => (p.course attempt memory w k).bind (p.next attempt w.now k)

/-- The number of the last attempt. -/
def last (p : Poll) (attempt : σ → Wait (Attempt σ)) (memory : σ) (w : World) : Nat :=
  Nat.findGreatest (fun k => (p.course attempt memory w k).isSome) p.pace.intervals

variable {p : Poll} {attempt : σ → Wait (Attempt σ)} {memory m m' : σ}
  {w v v' u : World} {k started : Nat}

theorem next_eq_some : p.next attempt started k (m, v) = some (m', v') ↔
    ∃ detail u, attempt m v = .ok (.missed m' detail) u ∧
      p.retry started (k + 1) detail u = .ok () v' := by
  unfold next
  dsimp only
  cases ha : attempt m v with
  | error e u => simp
  | ok r u =>
    cases r with
    | ready => simp
    | missed m₁ detail =>
      dsimp only
      cases hr : p.retry started (k + 1) detail u with
      | error e v₁ =>
        constructor
        · intro h
          cases h
        · rintro ⟨_, _, h, h'⟩
          cases h
          rw [hr] at h'
          cases h'
      | ok a v₁ =>
        constructor
        · intro h
          cases h
          exact ⟨detail, u, rfl, hr⟩
        · rintro ⟨_, _, h, h'⟩
          cases h
          rw [hr] at h'
          cases h'
          rfl

theorem course_succ : p.course attempt memory w (k + 1) = some (m', v') ↔
    ∃ m v detail u, p.course attempt memory w k = some (m, v) ∧
      attempt m v = .ok (.missed m' detail) u ∧ p.retry w.now (k + 1) detail u = .ok () v' := by
  rw [course, Option.bind_eq_some_iff]
  constructor
  · rintro ⟨⟨m, v⟩, hc, hn⟩
    obtain ⟨detail, u, ha, hr⟩ := next_eq_some.mp hn
    exact ⟨m, v, detail, u, hc, ha, hr⟩
  · rintro ⟨m, v, detail, u, hc, ha, hr⟩
    exact ⟨(m, v), hc, next_eq_some.mpr ⟨detail, u, ha, hr⟩⟩

theorem course_le (h : p.course attempt memory w k = none) {j : Nat} (hj : k ≤ j) :
    p.course attempt memory w j = none := by
  induction hj with
  | refl => exact h
  | step _ ih => rw [course, ih, Option.bind_none]

theorem exists_last (p : Poll) (attempt : σ → Wait (Attempt σ)) (memory : σ) (w : World) :
    ∃ m v, p.course attempt memory w (p.last attempt memory w) = some (m, v) := by
  have hs : (p.course attempt memory w (p.last attempt memory w)).isSome :=
    Nat.findGreatest_spec (P := fun k => (p.course attempt memory w k).isSome) (Nat.zero_le _) rfl
  obtain ⟨⟨m, v⟩, hc⟩ := Option.isSome_iff_exists.mp hs
  exact ⟨m, v, hc⟩

/-- An attempt that does not miss is the last one. -/
theorem course_eq_none (hm : ∀ m' detail u, attempt m v ≠ .ok (.missed m' detail) u)
    (h : p.course attempt memory w k = some (m, v)) {j : Nat} (hj : k < j) :
    p.course attempt memory w j = none := by
  refine course_le ?_ hj
  cases hn : p.course attempt memory w (k + 1) with
  | none => rfl
  | some state =>
    obtain ⟨m₁, v₁, detail, u, hc, ha, -⟩ := course_succ.mp hn
    rw [h] at hc
    cases hc
    exact absurd ha (hm _ _ _)

/-- The loop passes through the states of the course. -/
theorem rounds_eq (h : p.course attempt memory w k = some (m, v)) (n : Nat) :
    p.rounds w.now attempt (k + n) 0 memory w = p.rounds w.now attempt n k m v := by
  induction k generalizing n m v with
  | zero =>
    cases h
    rw [Nat.zero_add]
  | succ k ih =>
    obtain ⟨m₁, v₁, detail, u, hc, ha, hr⟩ := course_succ.mp h
    rw [Nat.add_right_comm, Nat.add_assoc, ih hc, rounds, Timed.bind_of_ok ha]
    dsimp only
    rw [Timed.bind_of_ok hr]

/-! ## Ends -/

/-- What an attempt that begins in a state makes of the poll, if it is the last one. -/
inductive Stops (p : Poll) (attempt : σ → Wait (Attempt σ)) (started : Nat) (m : σ) (v : World) :
    EStateM.Result Halt World Unit → Prop
  | ready {u : World} : attempt m v = .ok .ready u → Stops p attempt started m v (.ok () u)
  | failed {e : Halt} {u : World} : attempt m v = .error e u →
    Stops p attempt started m v (.error e u)
  /-- A miss that ends at or after the timeout. -/
  | late {m' : σ} {detail : String} {u : World} {log : Array (Level × String)} :
    attempt m v = .ok (.missed m' detail) u → p.pace.timeout ≤ .ofMillis (u.now - started) →
    Stops p attempt started m v
      (.error (.failed (.timeout p.kind (.ofMillis (u.now - started)) detail none)) { u with log })

namespace Stops

variable {started : Nat} {r : EStateM.Result Halt World Unit}

theorem of_ready (h : p.Stops attempt started m v r) (ha : attempt m v = .ok .ready u) :
    r = .ok () u := by
  cases h with
  | ready h =>
    rw [ha] at h
    cases h
    rfl
  | failed h | late h _ =>
    rw [ha] at h
    cases h

theorem of_error {e : Halt} (h : p.Stops attempt started m v r) (ha : attempt m v = .error e u) :
    r = .error e u := by
  cases h with
  | failed h =>
    rw [ha] at h
    cases h
    rfl
  | ready h | late h _ =>
    rw [ha] at h
    cases h

theorem of_missed {m' : σ} {detail : String} (h : p.Stops attempt started m v r)
    (ha : attempt m v = .ok (.missed m' detail) u) :
    p.pace.timeout ≤ .ofMillis (u.now - started) ∧ ∃ log, r = .error (.failed (.timeout p.kind
      (.ofMillis (u.now - started)) detail none)) { u with log } := by
  cases h with
  | late h hl =>
    rw [ha] at h
    cases h
    exact ⟨hl, _, rfl⟩
  | ready h | failed h =>
    rw [ha] at h
    cases h

end Stops

/-- The loop ends with an attempt, or it has made all of its rounds. -/
theorem rounds_ends {n : Nat} (hc : p.course attempt memory w k = some (m, v)) :
    (∃ j m₁ v₁, j < k + n ∧ p.course attempt memory w j = some (m₁, v₁) ∧
      p.Stops attempt w.now m₁ v₁ (p.rounds w.now attempt n k m v)) ∨
    ∃ m₁ v₁, p.course attempt memory w (k + n) = some (m₁, v₁) ∧
      p.rounds w.now attempt n k m v = .error .endless v₁ := by
  induction n generalizing k m v with
  | zero => exact .inr ⟨m, v, hc, rfl⟩
  | succ n ih =>
    rw [rounds]
    cases ha : attempt m v with
    | error halt u₁ =>
      rw [Timed.bind_of_error ha]
      exact .inl ⟨k, m, v, by omega, hc, .failed ha⟩
    | ok r u₁ =>
      rw [Timed.bind_of_ok ha]
      cases r with
      | ready => exact .inl ⟨k, m, v, by omega, hc, .ready ha⟩
      | missed m₁ detail =>
        dsimp only
        by_cases hl : p.pace.timeout ≤ .ofMillis (u₁.now - w.now)
        · obtain ⟨log, hr⟩ := p.retry_late (k + 1) detail hl
          rw [Timed.bind_of_error hr]
          exact .inl ⟨k, m, v, by omega, hc, .late ha hl⟩
        · obtain ⟨log, hr⟩ := p.retry_early (k + 1) detail hl
          rw [Timed.bind_of_ok hr]
          have hk : k + (n + 1) = k + 1 + n := by omega
          rw [hk]
          exact ih (course_succ.mpr ⟨m, v, detail, u₁, hc, ha, hr⟩)

/-- More rounds than are made change nothing. -/
theorem rounds_add {n : Nat} (h : ∀ u, p.rounds started attempt n k m v ≠ .error .endless u)
    (i : Nat) : p.rounds started attempt (n + i) k m v = p.rounds started attempt n k m v := by
  induction n generalizing k m v with
  | zero => exact absurd rfl (h v)
  | succ n ih =>
    rw [Nat.add_right_comm]
    rw [rounds] at h ⊢
    cases ha : attempt m v with
    | error halt u =>
      rw [Timed.bind_of_error ha, rounds, Timed.bind_of_error ha]
    | ok r u =>
      rw [Timed.bind_of_ok ha] at h
      rw [Timed.bind_of_ok ha, rounds, Timed.bind_of_ok ha]
      cases r with
      | ready => rfl
      | missed m₁ detail =>
        dsimp only at h ⊢
        cases hr : p.retry started (k + 1) detail u with
        | error halt u₁ => rw [Timed.bind_of_error hr, Timed.bind_of_error hr]
        | ok _ u₁ =>
          rw [Timed.bind_of_ok hr] at h
          rw [Timed.bind_of_ok hr, Timed.bind_of_ok hr]
          exact ih h

/-- The loop has made all of its rounds if there is an attempt after them. -/
theorem rounds_of_course (h : p.course attempt memory w k = some (m, v)) :
    p.rounds w.now attempt k 0 memory w = .error .endless v :=
  rounds_eq h 0

/-- A poll ends with one of its attempts, or it would go on for ever. -/
theorem run_ends (p : Poll) (attempt : σ → Wait (Attempt σ)) (memory : σ) (w : World) :
    (∃ k m v, k < p.enough w ∧ p.course attempt memory w k = some (m, v) ∧
      p.Stops attempt w.now m v (p.run attempt memory w)) ∨
    ∃ m v, p.course attempt memory w (p.enough w) = some (m, v) ∧
      p.run attempt memory w = .error .endless v := by
  have h₀ : p.course attempt memory w 0 = some (memory, w) := rfl
  have h := rounds_ends (n := p.enough w) h₀
  rwa [Nat.zero_add] at h

/-- A poll fails with an attempt that does, or with a miss that ends at or after the timeout. -/
theorem run_error {e : WaitError} (h : p.run attempt memory w = .error (.failed e) u) :
    ∃ k m v, k < p.enough w ∧ p.course attempt memory w k = some (m, v) ∧
      (attempt m v = .error (.failed e) u ∨
        ∃ m₁ detail u₁ log, attempt m v = .ok (.missed m₁ detail) u₁ ∧
          e = .timeout p.kind (.ofMillis (u₁.now - w.now)) detail none ∧ u = { u₁ with log }) := by
  rcases p.run_ends attempt memory w with ⟨k, m, v, hk, hc, hs⟩ | ⟨m, v, -, he⟩
  · refine ⟨k, m, v, hk, hc, ?_⟩
    rw [h] at hs
    cases hs with
    | failed ha => exact .inl ha
    | late ha _ => exact .inr ⟨_, _, _, _, ha, rfl, rfl⟩
  · rw [h] at he
    cases he

/-- The loop of a poll comes to every state of the course, as far as its rounds go. -/
theorem run_eq_rounds (h : p.course attempt memory w k = some (m, v)) (hk : k < p.enough w) :
    ∃ n, p.run attempt memory w = p.rounds w.now attempt (n + 1) k m v := by
  obtain ⟨n, hn⟩ := Nat.exists_eq_add_of_lt hk
  refine ⟨n, ?_⟩
  rw [run, Timed.bind_of_ok (x := get) (w := w) rfl, hn, Nat.add_assoc, rounds_eq h]

/-! ## The log -/

section

variable (hL : ∀ m, (attempt m).LogBlind) (h : w.Alike v)
include hL h

theorem course_alike (hc : p.course attempt memory w k = some (m, u)) :
    ∃ u', p.course attempt memory v k = some (m, u') ∧ u.Alike u' := by
  induction k generalizing m u with
  | zero =>
    cases hc
    exact ⟨v, rfl, h⟩
  | succ k ih =>
    obtain ⟨m₁, u₁, detail, u₂, hc, ha, hr⟩ := course_succ.mp hc
    obtain ⟨u₁', hc', h₁⟩ := ih hc
    obtain ⟨u₂', ha', h₂⟩ := (hL m₁).ok_alike h₁ ha
    obtain ⟨u', hr', h₃⟩ := (Timed.logBlind.retry p w.now (k + 1) detail).ok_alike h₂ hr
    rw [h.now_eq] at hr'
    exact ⟨u', course_succ.mpr ⟨m₁, u₁', detail, u₂', hc', ha', hr'⟩, h₃⟩

theorem last_alike (memory : σ) : p.last attempt memory w = p.last attempt memory v := by
  unfold last
  congr 1
  funext k
  refine propext ⟨fun hs => ?_, fun hs => ?_⟩
  · obtain ⟨⟨m, u⟩, hc⟩ := Option.isSome_iff_exists.mp hs
    obtain ⟨u', hc', -⟩ := course_alike hL h hc
    exact Option.isSome_iff_exists.mpr ⟨_, hc'⟩
  · obtain ⟨⟨m, u⟩, hc⟩ := Option.isSome_iff_exists.mp hs
    obtain ⟨u', hc', -⟩ := course_alike hL h.symm hc
    exact Option.isSome_iff_exists.mpr ⟨_, hc'⟩

end

end Poll

end Readiness
