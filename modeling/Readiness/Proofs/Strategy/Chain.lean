import Readiness.Proofs.Condition.Fatal
import Readiness.Proofs.Strategy.Sequence

/-! # Chains of errors

A wait fails at one node of a strategy: at a leaf, at a composite that remembers a refusal, or at one
whose ceiling is reached (`Strategy.Arises`). What the root reports depends on the composites above
this node alone (`Strategy.report`): a timeout is wrapped by each of them that has a timeout of its
own, and every other error is passed on as it is. `Strategy.error_chain` states both, and that the
times in a chain of timeouts do not grow from the outside in. -/

namespace Readiness

/-- The elapsed times of a timeout and of the timeouts behind it, nearest first. -/
def WaitError.elapsedChain : WaitError → List Duration
  | .timeout _ elapsed _ none => [elapsed]
  | .timeout _ elapsed _ (some source) => elapsed :: source.elapsedChain
  | _ => []

namespace Strategy

/-! ## Paths -/

/-- A composite on the way from the root to a failure, and its child on this way. -/
structure Frame where
  mode : Mode
  /-- The time at which the wait on the composite began. -/
  started : Nat
  /-- The number of the child, counted from 1. -/
  index : Nat
  count : Nat
  /-- The kind of the child. -/
  kind : Kind

/-- The timeout of the composite whose child has timed out. -/
def Frame.wrap (l : Frame) (now : Nat) (error : WaitError) : WaitError :=
  .timeout .waitAll (.ofMillis (now - l.started))
    (place l.index l.count l.kind ++ " was not ready in time") (some error)

/-- What the root reports of an error that arises below the given frames, the outermost of which is
the first. -/
def report (path : List Frame) (now : Nat) (error : WaitError) : WaitError :=
  if error.isTimeout then (path.filter (·.mode ≠ .individual)).foldr (Frame.wrap · now) error
  else error

/-- Strategies without others in them. -/
def IsLeaf : Strategy → Prop
  | .wrapped .. | .all .. => False
  | _ => True

/-- The error of a composite that stops although its children have succeeded so far. -/
def ceilingError (ceiling elapsed : Duration) (place : String) : WaitError :=
  .timeout .waitAll elapsed ("reached the " ++ ceiling.text ++ " limit after " ++ place) none

/-- The wait on a strategy that begins in a world fails in another one because of an error that
arises below the given frames. -/
inductive Arises : Strategy → World → List Frame → WaitError → World → Prop
  | leaf {s : Strategy} {w v : World} {e : WaitError} : s.IsLeaf →
    s.wait w = .error (.failed e) v → Arises s w [] e v
  | refused {mode : Mode} {ceiling : Duration} {cause : ConfigurationError}
    {children : List Strategy} {w : World} :
    Arises (.all mode ceiling (some cause) children) w [] (.configuration cause) w
  /-- A child has succeeded, but too late. -/
  | ceiling {ceiling : Duration} {children : List Strategy} {w v : World} {t : Turn} {i : Nat} :
    (turns .maximum ceiling children w)[i]? = some t → t.child.wait t.before = .ok () v →
    ceiling ≤ .ofMillis (v.now - w.now) →
    Arises (.all .maximum ceiling none children) w []
      (ceilingError ceiling (.ofMillis (v.now - w.now)) (place (i + 1) children.length t.child.kind))
      v
  | wrapped {wrapper : Wrapper} {inner : Strategy} {w v : World} {path : List Frame}
    {e : WaitError} : Arises inner w path e v → Arises (.wrapped wrapper inner) w path e v
  /-- A child has failed. -/
  | child {mode : Mode} {ceiling : Duration} {children : List Strategy} {w v : World}
    {child : Strategy} {u : World} {i : Nat} {path : List Frame} {e : WaitError} :
    children[i]? = some child → (turns mode ceiling children w)[i]? = some ⟨child, u⟩ →
    Arises child u path e v →
    Arises (.all mode ceiling none children) w
      (⟨mode, w.now, i + 1, children.length, child.kind⟩ :: path) e v

theorem isTimeout_report (path : List Frame) (now : Nat) (e : WaitError) :
    (report path now e).isTimeout = e.isTimeout := by
  unfold report
  split
  · next h =>
    rw [h]
    cases path.filter (·.mode ≠ .individual) with
    | nil => exact h
    | cons l path => rfl
  · rfl

theorem report_nil (now : Nat) (e : WaitError) : report [] now e = e := by
  simp [report]

/-- What a composite makes of the error of a child is one frame of the report. -/
theorem wrapTimeout_report (l : Frame) (path : List Frame) (now : Nat) (e : WaitError) :
    wrapTimeout l.mode (.ofMillis (now - l.started)) (place l.index l.count l.kind)
      (report path now e) = report (l :: path) now e := by
  have ht := isTimeout_report path now e
  by_cases he : e.isTimeout
  · rw [he] at ht
    by_cases hm : l.mode = .individual
    · rw [wrapTimeout, if_neg (by simp [hm])]
      simp [report, he, hm]
    · rw [wrapTimeout, if_pos ⟨ht, hm⟩]
      simp [report, he, hm, Frame.wrap]
  · rw [wrapTimeout, if_neg (by simp [ht, he])]
    simp [report, he]

/-- A composite in mode `Mode.individual` leaves no trace in a report. -/
example (elapsed : Duration) (detail : String) :
    report [⟨.outer, 0, 2, 3, .waitAll⟩, ⟨.individual, 1, 1, 1, .waitAll⟩,
        ⟨.maximum, 5, 1, 2, .shell⟩] 9 (.timeout .shell elapsed detail none) =
      .timeout .waitAll (.ofMillis 9) (place 2 3 .waitAll ++ " was not ready in time")
        (some (.timeout .waitAll (.ofMillis 4) (place 1 2 .shell ++ " was not ready in time")
          (some (.timeout .shell elapsed detail none)))) := rfl

/-! ## Turns that fail -/

variable {mode : Mode} {ceiling : Duration} {started count index : Nat} {name : String}
  {children : List Strategy} {s : Strategy} {w v v' u : World} {e e' : WaitError} {halt : Halt}
  {path path' : List Frame}

theorem waitChild_failed_iff {x : Wait Unit} :
    waitChild mode ceiling started name x w = .error (.failed e) v ↔
      (∃ e₁, x w = .error (.failed e₁) v ∧
        e = wrapTimeout mode (.ofMillis (v.now - started)) name e₁) ∨
      x w = .ok () v ∧ mode = .maximum ∧ ceiling ≤ .ofMillis (v.now - started) ∧
        e = ceilingError ceiling (.ofMillis (v.now - started)) name := by
  unfold waitChild
  cases x w with
  | error halt u =>
    cases halt with
    | endless => simp
    | failed e₁ =>
      constructor
      · intro h
        cases h
        exact .inl ⟨e₁, rfl, rfl⟩
      · rintro (⟨e₂, h, rfl⟩ | ⟨h, -⟩)
        · cases h
          rfl
        · cases h
  | ok a u =>
    dsimp only
    split
    · next h =>
      unfold reachesCeiling at h
      obtain ⟨hm, hl⟩ := of_decide_eq_true h
      constructor
      · intro h
        cases h
        exact .inr ⟨rfl, hm, hl, rfl⟩
      · rintro (⟨_, h, -⟩ | ⟨h, -, -, rfl⟩)
        · cases h
        · cases h
          rfl
    · next h =>
      unfold reachesCeiling at h
      constructor
      · intro h
        cases h
      · rintro (⟨_, h, -⟩ | ⟨h, hm, hl, -⟩)
        · cases h
        · cases h
          exact absurd (decide_eq_true ⟨hm, hl⟩) h

theorem waitEach_error
    (h : waitEach mode ceiling started count index children w = .error halt v) :
    ∃ i t, (turnsFrom mode ceiling started count index children w)[i]? = some t ∧
      waitChild mode ceiling started (place (index + i) count t.child.kind) t.child.wait t.before =
        .error halt v := by
  induction children generalizing index w with
  | nil => cases h
  | cons child rest ih =>
    obtain ⟨t, rfl, -, hw, ⟨-, ht, hn⟩ | ⟨hg, ht, -⟩⟩ :=
      turnsFrom_cons mode ceiling started count index child rest w
    · rw [hn] at h
      obtain ⟨i, t', hi, hc⟩ := ih h
      rw [Nat.add_right_comm, Nat.add_assoc] at hc
      refine ⟨i + 1, t', ?_, hc⟩
      rw [ht]
      exact hi
    · have hw' := @waitChild_cases mode ceiling started t (place index count t.child.kind)
      refine ⟨0, t, by rw [ht]; rfl, ?_⟩
      rcases hw' with ⟨hg', -⟩ | ⟨-, e, hc⟩
      · exact absurd hg' hg
      · rw [hw, Timed.bind_of_error hc] at h
        rw [Nat.add_zero, hc, h]

/-- A composite fails with one of its turns. -/
theorem wait_all_failed_iff : (all mode ceiling none children).wait w = .error (.failed e) v ↔
    ∃ i t, (turns mode ceiling children w)[i]? = some t ∧
      waitChild mode ceiling w.now (place (i + 1) children.length t.child.kind) t.child.wait
        t.before = .error (.failed e) v := by
  constructor
  · intro h
    obtain ⟨line, w₁, -, ht, ha⟩ := wait_all_apply mode ceiling children w
    rw [ha, Timed.bind_apply] at h
    cases hw : waitEach mode ceiling w.now children.length 1 children w₁ with
    | ok a u =>
      rw [hw] at h
      cases h
    | error halt u =>
      rw [hw] at h
      cases h
      obtain ⟨i, t, hi, hc⟩ := waitEach_error hw
      rw [Nat.add_comm 1 i] at hc
      rw [ht]
      exact ⟨i, t, hi, hc⟩
  · rintro ⟨i, t, ht, hc⟩
    obtain ⟨rest, hr⟩ := (sequence mode ceiling children w).loop i t ht
    rw [hr]
    exact Timed.bind_of_error hc

/-- The turn of each number is the turn of the child of this number. -/
theorem turns_child {i : Nat} {t : Turn} (ht : (turns mode ceiling children w)[i]? = some t) :
    children[i]? = some t.child := by
  obtain ⟨rest, hr⟩ := (sequence mode ceiling children w).order
  have hi : ((turns mode ceiling children w).map Turn.child)[i]? = some t.child := by
    rw [List.getElem?_map, ht]
    rfl
  have hl := (List.getElem?_eq_some_iff.mp hi).1
  rw [← hr, List.getElem?_append_left hl, hi]

/-- No turn begins before the composite does. -/
theorem turns_now_le {i : Nat} {t : Turn} (ht : (turns mode ceiling children w)[i]? = some t) :
    w.now ≤ t.before.now := by
  have hs := sequence mode ceiling children w
  induction i generalizing t with
  | zero => exact Nat.le_of_eq (hs.first t ht).now_eq
  | succ i ih =>
    have hl := (List.getElem?_eq_some_iff.mp ht).1
    have hi : (turns mode ceiling children w)[i]? = some _ :=
      List.getElem?_eq_getElem (Nat.lt_of_succ_lt hl)
    have hb := ih hi
    have hn := (hs.next i _ t hi ht).now_eq
    rw [Turn.now_after] at hn
    omega

/-- Only the last turn of a composite may fail to let it go on. -/
theorem turns_stop {i j : Nat} {t t' : Turn} (ht : (turns mode ceiling children w)[i]? = some t)
    (hg : ¬ t.GoesOn mode ceiling w.now) (ht' : (turns mode ceiling children w)[j]? = some t')
    (hg' : ¬ t'.GoesOn mode ceiling w.now) : j = i ∧ t' = t := by
  have hlast : ∀ {k : Nat} {t : Turn}, (turns mode ceiling children w)[k]? = some t →
      ¬ t.GoesOn mode ceiling w.now → k + 1 = (turns mode ceiling children w).length := by
    intro k t ht hg
    have hl := (List.getElem?_eq_some_iff.mp ht).1
    have hn := mt ((sequence mode ceiling children w).goes_on_iff k t ht).mp fun h => hg h.2
    omega
  have hij : j = i := by
    have hi := hlast ht hg
    have hj := hlast ht' hg'
    omega
  subst hij
  rw [ht] at ht'
  exact ⟨rfl, (Option.some.inj ht').symm⟩

theorem Turn.not_goesOn_of_ceiling {t : Turn} (h : t.child.wait t.before = .ok () v)
    (hl : ceiling ≤ .ofMillis (v.now - started)) : ¬ t.GoesOn .maximum ceiling started := by
  rintro ⟨-, hg⟩
  have hlt := hg rfl
  rw [show t.after = v from Timed.after_of_ok h, Duration.lt_def] at hlt
  exact Nat.not_le_of_lt hlt hl

/-! ## Where errors arise -/

theorem Arises.wait (h : Arises s w path e v) :
    s.wait w = .error (.failed (report path v.now e)) v := by
  induction h with
  | leaf hs h =>
    rw [report_nil]
    exact h
  | refused =>
    rw [report_nil]
    rfl
  | ceiling ht hc hl =>
    rw [report_nil, wait_all_failed_iff]
    exact ⟨_, _, ht, waitChild_failed_iff.mpr (.inr ⟨hc, rfl, hl, rfl⟩)⟩
  | wrapped _ ih => rwa [wait_wrapped]
  | @child mode ceiling children w v child u i path e _ ht _ ih =>
    rw [wait_all_failed_iff]
    refine ⟨i, _, ht, waitChild_failed_iff.mpr (.inl ⟨_, ih, ?_⟩)⟩
    exact (wrapTimeout_report ⟨mode, w.now, i + 1, children.length, child.kind⟩ path v.now e).symm

theorem exists_arises (h : s.wait w = .error (.failed e) v) :
    ∃ path e₀, Arises s w path e₀ v ∧ e = report path v.now e₀ := by
  induction s using tree generalizing w e with
  | polled c => exact ⟨[], e, .leaf (by cases c <;> trivial) h, (report_nil ..).symm⟩
  | nothing | duration length | custom c => exact ⟨[], e, .leaf trivial h, (report_nil ..).symm⟩
  | wrapped wrapper inner ih =>
    rw [wait_wrapped] at h
    obtain ⟨path, e₀, ha, he⟩ := ih h
    exact ⟨path, e₀, .wrapped ha, he⟩
  | all mode ceiling refused children ih =>
    cases refused with
    | some cause =>
      cases h
      exact ⟨[], _, .refused, (report_nil ..).symm⟩
    | none =>
      obtain ⟨i, t, ht, hc⟩ := wait_all_failed_iff.mp h
      have hi := turns_child ht
      rcases waitChild_failed_iff.mp hc with ⟨e₁, h₁, rfl⟩ | ⟨h₁, rfl, hl, rfl⟩
      · obtain ⟨path, e₀, ha, rfl⟩ := ih t.child (List.mem_of_getElem? hi) h₁
        let l : Frame := ⟨mode, w.now, i + 1, children.length, t.child.kind⟩
        exact ⟨l :: path, e₀, .child hi ht ha, wrapTimeout_report l path v.now e₀⟩
      · exact ⟨[], _, .ceiling ht h₁ hl, (report_nil ..).symm⟩

/-- The child of a composite below which an error arises does not let the composite go on. -/
theorem Arises.not_goesOn {child : Strategy} (h : Arises child u path e v) :
    ¬ Turn.GoesOn mode ceiling started ⟨child, u⟩ := by
  rintro ⟨⟨a, v', hv⟩, -⟩
  have hw := h.wait
  rw [show child.wait u = _ from hv] at hw
  cases hw

theorem Arises.unique (h : Arises s w path e v) (h' : Arises s w path' e' v') :
    path' = path ∧ e' = e ∧ v' = v := by
  induction h generalizing path' e' v' with
  | leaf hs h =>
    cases h' with
    | leaf _ h' =>
      rw [h] at h'
      cases h'
      exact ⟨rfl, rfl, rfl⟩
    | refused | ceiling | wrapped | child => exact hs.elim
  | refused =>
    cases h' with
    | leaf hs => exact hs.elim
    | refused => exact ⟨rfl, rfl, rfl⟩
  | ceiling ht hc hl =>
    have hg := Turn.not_goesOn_of_ceiling hc hl
    cases h' with
    | leaf hs => exact hs.elim
    | ceiling ht' hc' hl' =>
      obtain ⟨rfl, rfl⟩ := turns_stop ht hg ht' (Turn.not_goesOn_of_ceiling hc' hl')
      rw [hc] at hc'
      cases hc'
      exact ⟨rfl, rfl, rfl⟩
    | child _ ht' h' =>
      obtain ⟨rfl, rfl⟩ := turns_stop ht hg ht' h'.not_goesOn
      rw [h'.wait] at hc
      cases hc
  | wrapped _ ih =>
    cases h' with
    | leaf hs => exact hs.elim
    | wrapped h' => exact ih h'
  | child _ ht h ih =>
    cases h' with
    | leaf hs => exact hs.elim
    | ceiling ht' hc' hl' =>
      obtain ⟨rfl, rfl⟩ := turns_stop ht h.not_goesOn ht' (Turn.not_goesOn_of_ceiling hc' hl')
      rw [h.wait] at hc'
      cases hc'
    | child _ ht' h' =>
      obtain ⟨rfl, he⟩ := turns_stop ht h.not_goesOn ht' h'.not_goesOn
      cases he
      obtain ⟨rfl, rfl, rfl⟩ := ih h'
      exact ⟨rfl, rfl, rfl⟩

/-! ## Elapsed times -/

/-- The elapsed times in a chain do not grow from the outside in, and are none of them longer than
the wait that began at `started` and has ended. -/
structure Descends (started : Nat) (e : WaitError) (v : World) : Prop where
  pairwise : e.elapsedChain.Pairwise fun outer inner => inner ≤ outer
  le : ∀ d ∈ e.elapsedChain, d ≤ .ofMillis (v.now - started)

theorem Descends.earlier {started started' : Nat} (h : Descends started' e v)
    (hs : started ≤ started') : Descends started e v where
  pairwise := h.pairwise
  le d hd := by
    have hl := h.le d hd
    rw [Duration.le_ofMillis_iff] at hl ⊢
    omega

theorem descends_of_not_timeout (started : Nat) (v : World) (h : e.isTimeout = false) :
    Descends started e v := by
  have hn : e.elapsedChain = [] := by
    cases e with
    | timeout => cases h
    | configuration | unsupported | target => rfl
  exact ⟨by simp [hn], by simp [hn]⟩

theorem descends_single (kind : Kind) (detail : String) (started : Nat) (v : World) :
    Descends started (.timeout kind (.ofMillis (v.now - started)) detail none) v where
  pairwise := List.pairwise_singleton ..
  le d hd := by
    rw [List.mem_singleton.mp hd, Duration.le_ofMillis_iff, Duration.ceilMillis_ofMillis]

/-- A composite has begun no later than its child. -/
theorem Descends.wrapTimeout (h : Descends started e v) (mode : Mode) (name : String) :
    Descends started (wrapTimeout mode (.ofMillis (v.now - started)) name e) v := by
  unfold Strategy.wrapTimeout
  split
  · refine ⟨List.pairwise_cons.mpr ⟨h.le, h.pairwise⟩, fun d hd => ?_⟩
    rcases List.mem_cons.mp hd with rfl | hd
    · rw [Duration.le_ofMillis_iff, Duration.ceilMillis_ofMillis]
    · exact h.le d hd
  · exact h

theorem descends_polled {c : Polled} (h : c.strategy.wait w = .error (.failed e) v) :
    Descends w.now e v := by
  rcases Polled.wait_failed h with hs | ⟨plan, w₀, k, memory, v₁, hs, -, ha | ⟨_, detail, u, log, -, rfl, rfl⟩⟩
  · rcases (c.setUp_ends w).of_error hs with ⟨cause, he, -⟩ | ⟨-, t, he⟩
    · cases he
      exact descends_of_not_timeout _ _ rfl
    · cases he
      exact descends_of_not_timeout _ _ (by cases t <;> rfl)
  · obtain ⟨id, operation, -, rfl⟩ := Polled.attempt_failed ha
    exact descends_of_not_timeout _ _ rfl
  · have hl := (Timed.forward.setUp c w).now_le
    rw [Timed.after_of_ok hs] at hl
    exact (descends_single c.poll.kind detail w₀.now { u with log }).earlier hl

theorem descends (hs : ∀ c, Strategy.custom c ∉ s.nodes) (h : s.wait w = .error (.failed e) v) :
    Descends w.now e v := by
  induction s using tree generalizing w e with
  | polled c => exact descends_polled h
  | nothing | duration length => cases h
  | custom c => exact absurd (mem_nodes_self _) (hs c)
  | wrapped wrapper inner ih =>
    rw [wait_wrapped] at h
    exact ih (fun c hc => hs c (mem_nodes_wrapped hc)) h
  | all mode ceiling refused children ih =>
    cases refused with
    | some cause =>
      cases h
      exact descends_of_not_timeout _ _ rfl
    | none =>
      obtain ⟨i, t, ht, hc⟩ := wait_all_failed_iff.mp h
      have hm := List.mem_of_getElem? (turns_child ht)
      rcases waitChild_failed_iff.mp hc with ⟨e₁, h₁, rfl⟩ | ⟨-, -, -, rfl⟩
      · have hd := ih t.child hm (fun c hc => hs c (mem_nodes_all hm hc)) h₁
        exact (hd.earlier (turns_now_le ht)).wrapTimeout mode _
      · exact descends_single ..

/-- A wait fails with what the composites above one node make of the error that arises there: each of
them that has a timeout of its own wraps a timeout, and every other error is passed on. -/
theorem error_chain (s : Strategy) (w : World) :
    (∀ e v, s.wait w = .error (.failed e) v ↔
      ∃ path e₀, Arises s w path e₀ v ∧ e = report path v.now e₀) ∧
    (∀ path path' e e' v v', Arises s w path e v → Arises s w path' e' v' →
      path' = path ∧ e' = e ∧ v' = v) ∧
    ((∀ c, Strategy.custom c ∉ s.nodes) → ∀ e v, s.wait w = .error (.failed e) v →
      e.elapsedChain.Pairwise fun outer inner => inner ≤ outer) := by
  refine ⟨fun e v => ⟨exists_arises, ?_⟩, fun _ _ _ _ _ _ => Arises.unique, fun hs e v h => ?_⟩
  · rintro ⟨path, e₀, ha, rfl⟩
    exact ha.wait
  · exact (descends hs h).pairwise

end Strategy

end Readiness
