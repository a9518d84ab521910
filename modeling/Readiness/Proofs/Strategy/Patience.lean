import Readiness.Proofs.Strategy.Sequence
import Readiness.Proofs.Strategy.Shift
import Readiness.Proofs.Strategy.Timeout

/-! # Longer timeouts

A strategy with a longer timeout succeeds wherever it does with a shorter one, after the same calls
(`Strategy.patience`). -/

namespace Readiness

open Timed

variable {ε α β : Type}

/-! ## Polled conditions -/

section

variable {σ π : Type} {attempt attempt' : π → σ → Wait (Attempt σ)} {x y : Wait (Option π)}
  {kind : Kind} {interval d d' : Duration}

/-- A condition with a longer timeout: the set-up comes to the same, and the attempts are the same. -/
theorem follows_of_setUp (hxy : ∀ δ, Agree (World.Delayed δ) x y) (ha : attempt' = attempt)
    (hL : ∀ {P : ∀ {ε α : Type}, Timed ε α → Prop}, Law P → ∀ plan m, P (attempt plan m))
    (hd : d ≤ d') (memory : σ) :
    (x >>= fun plan => plan.elim (pure ()) fun q =>
        Poll.run ⟨kind, ⟨d, interval⟩⟩ (attempt q) memory).Follows
      (y >>= fun plan => plan.elim (pure ()) fun q =>
        Poll.run ⟨kind, ⟨d', interval⟩⟩ (attempt' q) memory) := by
  subst ha
  refine (Agree.follows hxy).bind fun plan => ?_
  cases plan with
  | none => exact follows_pure _
  | some plan =>
    refine Poll.run_follows ?_ ?_ (fun δ m => hL (delayed δ) plan m)
      (fun m => hL forward.toLaw plan m) memory
    · rfl
    · exact hd

end

namespace Polled

variable {d d' : Duration} {R : World → World → Prop}

theorem strategy_retimed (c : Polled) (d : Duration) :
    c.strategy.retimed d = (c.retimed d).strategy := by
  cases c <;> rfl

/-- The attempts do not depend on the pace. -/
theorem hostPort_attempt (c : HostPort) (p q : Pace) (host : Url.Host) (ports : Ascending) :
    { c with pace := p : HostPort }.attempt host ports =
      { c with pace := q : HostPort }.attempt host ports :=
  HostPort.attempt_congr (c := { c with pace := p }) (d := { c with pace := q }) rfl host ports

section

variable (hR : World.Lockstep R)
include hR

theorem agree_logMessage (c : LogMessage) (p q : Pace) :
    Agree R { c with pace := p : LogMessage }.setUp { c with pace := q : LogMessage }.setUp := by
  have hc : LogMessage.compile { c with pace := p } = LogMessage.compile { c with pace := q } := rfl
  unfold LogMessage.setUp
  rw [hc]
  cases LogMessage.compile { c with pace := q } with
  | error cause => exact agree_throw _
  | ok plan => exact (agree_say hR _ _ _).bind fun _ => agree_pure _

theorem agree_hostPort (c : HostPort) (p q : Pace) :
    Agree R { c with pace := p : HostPort }.setUp { c with pace := q : HostPort }.setUp := by
  have L := lockstep hR
  refine Agree.bind (L.hostPorts c) fun ports => ?_
  split
  · exact (agree_say hR _ _ _).bind fun _ => agree_pure _
  · refine Agree.bind (L.require L.host) fun host => ?_
    exact (agree_say hR _ _ _).bind fun _ => agree_pure _

theorem agree_http (c : HttpProbe) (p q : Pace) :
    Agree R { c with pace := p : HttpProbe }.setUp { c with pace := q : HttpProbe }.setUp := by
  have L := lockstep hR
  unfold HttpProbe.setUp
  split
  · exact agree_throw _
  · refine Agree.bind (L.require (L.hostPort? c)) fun port => ?_
    cases port with
    | none => exact (agree_say hR _ _ _).bind fun _ => agree_pure _
    | some port =>
      refine Agree.bind (L.require L.host) fun host => ?_
      dsimp only
      split
      · exact agree_throw _
      · exact (agree_say hR _ _ _).bind fun _ => agree_pure _

theorem agree_shell (c : ShellCommand) (p q : Pace) :
    Agree R { c with pace := p : ShellCommand }.setUp { c with pace := q : ShellCommand }.setUp := by
  unfold ShellCommand.setUp
  dsimp only
  split
  · exact agree_throw _
  · exact (agree_say hR _ _ _).bind fun _ => agree_pure _

theorem agree_healthcheck (p q : Pace) :
    Agree R (Healthcheck.setUp ⟨p⟩) (Healthcheck.setUp ⟨q⟩) :=
  (agree_say hR _ _ _).bind fun _ => agree_pure _

end

/-- A condition with a longer timeout succeeds wherever one with a shorter timeout does. -/
theorem retimed_follows (c : Polled) (hd : d ≤ d') :
    (c.retimed d).strategy.wait.Follows (c.retimed d').strategy.wait := by
  have hR := World.delayed_lockstep
  cases c with
  | logMessage c =>
    change (LogMessage.wait _).Follows (LogMessage.wait _)
    rw [LogMessage.wait_eq, LogMessage.wait_eq]
    exact follows_of_setUp (fun δ => agree_logMessage (hR δ) c _ _) rfl
      (fun L => L.attempt (.logMessage _)) hd _
  | hostPort c =>
    change (HostPort.wait _).Follows (HostPort.wait _)
    rw [HostPort.wait_eq, HostPort.wait_eq]
    exact follows_of_setUp (fun δ => agree_hostPort (hR δ) c _ _)
      (funext₂ fun plan _ => hostPort_attempt c _ _ plan.1 plan.2)
      (fun L => L.attempt (.hostPort _)) hd ()
  | http c =>
    change (HttpProbe.wait _).Follows (HttpProbe.wait _)
    rw [HttpProbe.wait_eq, HttpProbe.wait_eq]
    exact follows_of_setUp (fun δ => agree_http (hR δ) c _ _) rfl
      (fun L => L.attempt (.http _)) hd _
  | shell c =>
    change (ShellCommand.wait _).Follows (ShellCommand.wait _)
    rw [ShellCommand.wait_eq, ShellCommand.wait_eq]
    exact follows_of_setUp (fun δ => agree_shell (hR δ) c _ _) rfl
      (fun L => L.attempt (.shell c)) hd _
  | healthcheck c =>
    change (Healthcheck.wait _).Follows (Healthcheck.wait _)
    rw [Healthcheck.wait_eq, Healthcheck.wait_eq]
    exact follows_of_setUp (fun δ => agree_healthcheck (hR δ) _ _) rfl
      (fun L => L.attempt (.healthcheck c)) hd _

end Polled

/-! ## Composites -/

namespace Strategy

variable {mode : Mode} {ceiling ceiling' d d' : Duration} {started started' count index : Nat}
  {place place' : String} {children : List Strategy} {w v u : World} {s : Strategy}

theorem waitChild_follows (hm : mode ≠ .maximum) {x y : Wait Unit} (h : x.Follows y) :
    (waitChild mode ceiling started place x).Follows
      (waitChild mode ceiling' started' place' y) := by
  intro δ w v a w' hd hw
  obtain ⟨hx, -⟩ := waitChild_eq_ok.mp hw
  obtain ⟨δ', v', hv, hd'⟩ := h δ w v a w' hd hx
  exact ⟨δ', v', waitChild_eq_ok.mpr ⟨hv, fun hm' => absurd hm' hm⟩, hd'⟩

theorem waitEach_follows (hm : mode ≠ .maximum)
    (h : ∀ child ∈ children, (child.retimed d).wait.Follows (child.retimed d').wait) :
    (waitEach mode ceiling started count index (children.map (retimed d))).Follows
      (waitEach mode ceiling' started' count index (children.map (retimed d'))) := by
  induction children generalizing index with
  | nil => exact follows_pure _
  | cons child rest ih =>
    refine (follows_say _ _ _).bind fun _ => ?_
    refine (waitChild_follows hm (h child List.mem_cons_self)).bind fun _ => ?_
    exact ih fun child' hc => h child' (List.mem_cons_of_mem _ hc)

theorem wait_outer_follows
    (h : ∀ child ∈ children, (child.retimed d).wait.Follows (child.retimed d').wait) :
    (all .outer ceiling none (children.map (retimed d))).wait.Follows
      (all .outer ceiling' none (children.map (retimed d'))).wait := by
  have hm : Mode.outer ≠ .maximum := nofun
  rw [wait, wait, List.length_map, List.length_map]
  refine (follows_say _ _ _).bind fun _ => follows_now fun t t' => ?_
  exact (waitEach_follows hm h).bind fun _ => follows_say _ _ _

/-- A ceiling that is not reached is not reached if it is higher. -/
theorem waitChild_ceiling (hc : ceiling ≤ ceiling') {x : Wait Unit}
    (h : waitChild mode ceiling started place x w = .ok () u) :
    waitChild mode ceiling' started place x w = .ok () u := by
  obtain ⟨hx, hl⟩ := waitChild_eq_ok.mp h
  exact waitChild_eq_ok.mpr ⟨hx, fun hm => Nat.lt_of_lt_of_le (hl hm) hc⟩

theorem waitEach_ceiling (hc : ceiling ≤ ceiling')
    (h : waitEach mode ceiling started count index children w = .ok () u) :
    waitEach mode ceiling' started count index children w = .ok () u := by
  induction children generalizing index w with
  | nil => exact h
  | cons child rest ih =>
    obtain ⟨_, w₁, hs, h⟩ := bind_eq_ok.mp h
    obtain ⟨_, w₂, hw, h⟩ := bind_eq_ok.mp h
    exact bind_eq_ok.mpr ⟨_, w₁, hs, bind_eq_ok.mpr ⟨_, w₂, waitChild_ceiling hc hw, ih h⟩⟩

theorem wait_maximum_ceiling (hc : ceiling ≤ ceiling')
    (h : (all .maximum ceiling none children).wait w = .ok () u) :
    (all .maximum ceiling' none children).wait w = .ok () u := by
  obtain ⟨_, w₁, hs, h⟩ := bind_eq_ok.mp h
  obtain ⟨t, w₂, ht, h⟩ := bind_eq_ok.mp h
  obtain ⟨_, w₃, hw, h⟩ := bind_eq_ok.mp h
  exact bind_eq_ok.mpr ⟨_, w₁, hs, bind_eq_ok.mpr ⟨t, w₂, ht,
    bind_eq_ok.mpr ⟨_, w₃, waitEach_ceiling hc hw, h⟩⟩⟩

/-- A wait that begins later does the same, later. -/
theorem wait_follows (s : Strategy) : s.wait.Follows s.wait :=
  Agree.follows fun δ => wait_shifted (World.delayed_shifted δ) s

/-- A strategy with a longer timeout succeeds wherever it does with a shorter one. -/
theorem retimed_follows (hs : ∀ c, Strategy.custom c ∉ s.nodes) (hd : d ≤ d') :
    (s.retimed d).wait.Follows (s.retimed d').wait := by
  induction s using tree with
  | polled c =>
    rw [c.strategy_retimed, c.strategy_retimed]
    exact c.retimed_follows hd
  | nothing | duration length => exact wait_follows _
  | custom c => exact absurd (mem_nodes_self _) (hs c)
  | wrapped wrapper inner ih =>
    rw [retimed, retimed, wait_wrapped, wait_wrapped]
    exact ih fun c hc => hs c (mem_nodes_wrapped hc)
  | all mode timeout refused children ih =>
    have hn : ∀ child ∈ children, (child.retimed d).wait.Follows (child.retimed d').wait :=
      fun child hm => ih child hm fun c hc => hs c (mem_nodes_all hm hc)
    cases mode with
    | individual => exact wait_follows _
    | maximum =>
      -- the children are the same, so that they take the same time under the higher ceiling
      intro δ w v a w' hdl hw
      cases refused with
      | some cause => cases hw
      | none => exact wait_follows _ δ w v a w' hdl (wait_maximum_ceiling hd hw)
    | outer =>
      have hr : firstRefusal d' children = firstRefusal d children :=
        firstRefusal_congr fun child hm =>
          ((steady_of_forall_notMem hs).child hm).refusal_eq d' d
      rw [retimed_outer, retimed_outer, hr]
      cases refused <|> firstRefusal d children with
      | some cause => exact Agree.follows fun _ => agree_throw _
      | none => exact wait_outer_follows hn

/-! ## Changes of the timeout -/

/-- The action writes to the log, and does nothing else to the world. -/
def Quiet (x : Timed ε α) : Prop := ∀ w : World, w.Alike (x.after w)

theorem quiet_pure (a : α) : Quiet (pure a : Timed ε α) := World.Alike.refl

theorem quiet_note (level : Level) (text : String) : Quiet (note level text : Timed ε Unit) :=
  fun w => w.alike_log _

theorem Quiet.bind {x : Timed ε α} {f : α → Timed ε β} (hx : Quiet x) (hf : ∀ a, Quiet (f a)) :
    Quiet (x >>= f) :=
  after_bind World.Alike.trans hx hf

theorem quiet_pushTimeouts (d : Duration)
    (h : ∀ child ∈ children, Quiet (child.setTimeout d : Timed ε _))
    (refused : Option ConfigurationError) :
    Quiet (pushTimeouts d refused children : Timed ε _) := by
  induction children generalizing refused with
  | nil => exact quiet_pure _
  | cons child rest ih =>
    have hr := ih fun c hc => h c (List.mem_cons_of_mem _ hc)
    refine Quiet.bind (h child List.mem_cons_self) fun ⟨child', refusal⟩ => ?_
    cases refusal with
    | none => exact (hr _).bind fun _ => quiet_pure _
    | some cause => exact (quiet_note _ _).bind fun _ => (hr _).bind fun _ => quiet_pure _

theorem quiet_setTimeout (hs : ∀ c, Strategy.custom c ∉ s.nodes) (d : Duration) :
    Quiet (s.setTimeout d : Timed ε _) := by
  induction s using tree with
  | polled c => cases c <;> exact quiet_pure _
  | nothing | duration length => exact quiet_pure _
  | custom c => exact absurd (mem_nodes_self _) (hs c)
  | wrapped wrapper inner ih =>
    rw [setTimeout_wrapped]
    exact Quiet.bind (ih fun c hc => hs c (mem_nodes_wrapped hc)) fun _ => quiet_pure _
  | all mode timeout refused children ih =>
    cases mode with
    | individual | maximum => exact quiet_pure _
    | outer =>
      refine Quiet.bind (quiet_pushTimeouts d (fun child hm => ?_) refused) fun _ => quiet_pure _
      exact ih child hm fun c hc => hs c (mem_nodes_all hm hc)

/-- A change of the timeout that is accepted. -/
theorem setTimeout_accepted (hs : ∀ c, Strategy.custom c ∉ s.nodes) {s' : Strategy}
    (h : (s.setTimeout d : Timed ε _) w = .ok (s', none) u) : s' = s.retimed d ∧ w.Alike u := by
  have hq := quiet_setTimeout (ε := ε) hs d w
  obtain ⟨v, hv⟩ := setTimeout_eq (ε := ε) d s w
  rw [after_of_ok h] at hq
  rw [h] at hv
  injection hv with hr
  exact ⟨(Prod.mk.inj hr).1, hq⟩

/-- If a strategy succeeds after a change of its timeout, it succeeds after a change to a longer one
from the same world, with the same calls, none of which is earlier, and leaves the target and the
network with the same replies. -/
theorem patience (s : Strategy) (hs : ∀ c, Strategy.custom c ∉ s.nodes) (d d' : Duration)
    (hd : d ≤ d') (w w₁ w₂ v : World) (s₁ s₂ : Strategy)
    (h₁ : (s.setTimeout d : Timed ε _) w = .ok (s₁, none) w₁)
    (h₂ : (s.setTimeout d' : Timed ε _) w = .ok (s₂, none) w₂) (h : s₁.wait w₁ = .ok () v) :
    ∃ v', s₂.wait w₂ = .ok () v' ∧
      List.Forall₂ Entry.Delayed (s₁.wait.calls w₁) (s₂.wait.calls w₂) ∧
      v'.target = v.target ∧ v'.network = v.network ∧ v.now ≤ v'.now := by
  obtain ⟨rfl, ha₁⟩ := setTimeout_accepted hs h₁
  obtain ⟨rfl, ha₂⟩ := setTimeout_accepted hs h₂
  have hw : w₁.Delayed 0 w₂ := .of_alike (ha₁.symm.trans ha₂)
  obtain ⟨δ, v', h', hv⟩ := retimed_follows hs hd 0 w₁ w₂ () v hw h
  refine ⟨v', h', ?_, hv.target_eq, hv.network_eq, ?_⟩
  · rw [calls, calls, after_of_ok h, after_of_ok h', hw.journal.length_eq]
    exact List.forall₂_drop _ hv.journal
  · have hn := hv.now_eq
    omega

/-- The second attempt falls on the shorter deadline, and an interval after the first one if the
timeout is longer. -/
theorem patience_clamped :
    let s : Strategy := .all .outer (.ofMillis 1) none [.healthcheck ⟨⟨.ofMillis 1, .ofMillis 3⟩⟩]
    let w : World := { target := { health := ⟨[{ answer := .ok false }, { answer := .ok true }]⟩ } }
    (∀ c, Strategy.custom c ∉ s.nodes) ∧ Duration.ofMillis 2 ≤ .ofMillis 5 ∧
      ∃ s₁ s₂ v v', (s.setTimeout (.ofMillis 2) : Timed ConfigurationError _) w = .ok (s₁, none) w ∧
        (s.setTimeout (.ofMillis 5) : Timed ConfigurationError _) w = .ok (s₂, none) w ∧
        s₁.wait w = .ok () v ∧ v.now = 2 ∧ s₂.wait w = .ok () v' ∧ v'.now = 3 ∧
        List.Forall₂ Entry.Delayed (s₁.wait.calls w) (s₂.wait.calls w) ∧
        v'.target = v.target ∧ v'.network = v.network := by
  intro s w
  have hs : ∀ c, Strategy.custom c ∉ s.nodes := by
    intro c hc
    simp [s, nodes, nodesEach] at hc
  have hd : Duration.ofMillis 2 ≤ .ofMillis 5 := by decide
  have h₁ : (s.setTimeout (.ofMillis 2) : Timed ConfigurationError _) w = .ok (_, none) w := rfl
  have h₂ : (s.setTimeout (.ofMillis 5) : Timed ConfigurationError _) w = .ok (_, none) w := rfl
  have early : ((s.retimed (.ofMillis 2)).wait.after w).now = 2 := by decide +kernel
  have late : ((s.retimed (.ofMillis 5)).wait.after w).now = 3 := by decide +kernel
  obtain ⟨_, v, h⟩ := succeeds_of_run' (x := (s.retimed (.ofMillis 2)).wait) (w := w)
    (by decide +kernel)
  obtain ⟨v', h', hc, ht, hn, -⟩ := patience s hs _ _ hd w w w v _ _ h₁ h₂ h
  have hv : (s.retimed (.ofMillis 2)).wait.after w = v := after_of_ok h
  have hv' : (s.retimed (.ofMillis 5)).wait.after w = v' := after_of_ok h'
  rw [hv] at early
  rw [hv'] at late
  exact ⟨hs, hd, _, _, v, v', h₁, h₂, h, early, h', late, hc, ht, hn⟩

end Strategy

end Readiness
