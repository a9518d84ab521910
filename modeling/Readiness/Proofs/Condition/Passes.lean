import Readiness.Proofs.Condition.Schedule
import Readiness.Proofs.Network.Outcome

/-! # Waiting for ports

A wait for ports looks up the host ports of its container ports (`Query.mappedPorts_ends`) and then
passes over them again and again. A pass tries every host port once, whatever becomes of the others
(`HostPort.attempt_apply`), and the wait is ready after the first pass in which all of them are open
(`HostPort.port_passes`). -/

namespace Readiness

open Timed

/-! ## Calls -/

/-- What has been called since `w`. -/
def World.Called (calls : List Call) (w u : World) : Prop :=
  u.journal.toList.map Entry.call = w.journal.toList.map Entry.call ++ calls

section

variable {u v w : World} {calls calls' : List Call}

theorem World.Called.refl (w : World) : w.Called [] w := (List.append_nil _).symm

theorem World.Called.trans (h : Called calls u v) (h' : Called calls' v w) :
    Called (calls ++ calls') u w := by
  unfold Called at *
  rw [h', h, List.append_assoc]

theorem World.Called.calls_eq {ε α : Type} {x : Timed ε α} (h : Called calls w (x.after w)) :
    (x.calls w).map Entry.call = calls := by
  rw [Timed.calls, List.map_drop, show (x.after w).journal.toList.map _ = _ from h,
    ← List.length_map (f := Entry.call), List.drop_left]

end

/-! ## Looking up ports -/

/-- The answer to the question for the host port of a container port. It is always the same. -/
def Target.hostPort (t : Target) (port : UInt16) : Except TargetError UInt16 :=
  (t.nextMapped port).1.answer

namespace Query

variable {w : World} {ports : List UInt16} {found : Ascending}

theorem mappedPort_apply (port : UInt16) (w : World) :
    ∃ u : World, u.target = w.target ∧ u.network = w.network ∧ w.Called [.mappedPort port] u ∧
      mappedPort port w = match w.target.hostPort port with
        | .ok found => .ok found u
        | .error e => .error e u := by
  refine ⟨(mappedPort port).after w, ?_⟩
  unfold mappedPort
  rw [after_ask]
  refine ⟨rfl, rfl, ?_, ?_⟩
  · simp [World.Called]
  · unfold ask Target.hostPort
    dsimp only
    cases (w.target.nextMapped port).1.answer <;> rfl

/-- The ports are asked for one after another, up to the first for which there is no answer. -/
theorem mappedPorts_ends (ports : List UInt16) (found : Ascending) (w : World) :
    ∃ u : World, u.target = w.target ∧ u.network = w.network ∧
      ((∃ found' : Ascending, mappedPorts ports found w = .ok found' u ∧
          w.Called (ports.map .mappedPort) u ∧ (∀ p ∈ ports, ∃ h, w.target.hostPort p = .ok h) ∧
          ∀ h, h ∈ found' ↔ h ∈ found ∨ ∃ p ∈ ports, w.target.hostPort p = .ok h) ∨
        ∃ asked port rest e, mappedPorts ports found w = .error e u ∧
          ports = asked ++ port :: rest ∧ w.Called ((asked ++ [port]).map .mappedPort) u ∧
          (∀ p ∈ asked, ∃ h, w.target.hostPort p = .ok h) ∧ w.target.hostPort port = .error e) := by
  induction ports generalizing found w with
  | nil => exact ⟨w, rfl, rfl, .inl ⟨found, rfl, .refl w, nofun, by simp⟩⟩
  | cons port rest ih =>
    obtain ⟨v, ht, hn, hc, hq⟩ := mappedPort_apply port w
    rw [mappedPorts]
    cases hp : w.target.hostPort port with
    | error e =>
      rw [hp] at hq
      exact ⟨v, ht, hn, .inr ⟨[], port, rest, e, bind_of_error hq, rfl, hc, nofun, hp⟩⟩
    | ok h =>
      rw [hp] at hq
      obtain ⟨u, ht', hn', hu⟩ := ih (found.insert h) v
      rw [ht] at ht' hu
      refine ⟨u, ht', hn'.trans hn, ?_⟩
      rw [bind_of_ok hq]
      rcases hu with ⟨found', hr, hc', ha, hm⟩ | ⟨asked, p, rest, e, hr, rfl, hc', ha, he⟩
      · refine .inl ⟨found', hr, hc.trans hc', List.forall_mem_cons.mpr ⟨⟨h, hp⟩, ha⟩, fun q => ?_⟩
        rw [hm, Ascending.mem_insert]
        constructor
        · rintro ((rfl | hf) | ⟨p, hm, he⟩)
          · exact .inr ⟨port, List.mem_cons_self, hp⟩
          · exact .inl hf
          · exact .inr ⟨p, List.mem_cons_of_mem _ hm, he⟩
        · rintro (hf | ⟨p, hm, he⟩)
          · exact .inl (.inr hf)
          · rcases List.mem_cons.mp hm with rfl | hm
            · rw [hp] at he
              cases he
              exact .inl (.inl rfl)
            · exact .inr ⟨p, hm, he⟩
      · exact .inr ⟨port :: asked, p, rest, e, hr, rfl, hc.trans hc',
          List.forall_mem_cons.mpr ⟨⟨h, hp⟩, ha⟩, he⟩

theorem host_apply (w : World) :
    ∃ u : World, u.network = w.network ∧ w.Called [.host] u ∧
      host w = match w.target.nextHost.1.answer with
        | .ok found => .ok found u
        | .error e => .error e u := by
  refine ⟨host.after w, ?_⟩
  unfold host
  rw [after_ask]
  refine ⟨rfl, ?_, ?_⟩
  · simp [World.Called]
  · unfold ask
    dsimp only
    cases w.target.nextHost.1.answer <;> rfl

end Query

namespace HostPort

variable {c : HostPort} {host : Url.Host} {ports : Ascending} {n : Network} {w v u : World}
  {m : Unit} {k : Nat}

/-! ## Passes -/

/-- The ports that are not open in the pass after `k` others. -/
def closed (n : Network) (host : Url.Host) (ports : List UInt16) (k : Nat) : List UInt16 :=
  ports.filter fun port => !(n.outcome host port k).isMade

/-- Every port is open in the pass after `k` others. -/
def AllOpen (n : Network) (host : Url.Host) (ports : Ascending) (k : Nat) : Prop :=
  ∀ port ∈ ports, (n.outcome host port k).isMade

/-- The connections that a pass attempts. -/
def attempts (n : Network) (host : Url.Host) (ports : List UInt16) : List Call :=
  if n.knows host then ports.map .connect else []

/-- The milliseconds that are lost in the pass after `k` others, with connections that are not made
in time. -/
def lost (c : HostPort) (n : Network) (host : Url.Host) (ports : List UInt16) (k : Nat) : Nat :=
  ports.countP (fun port => (n.outcome host port k).isPending) * c.connectTimeout.ceilMillis

/-- What is missing as long as ports are closed. -/
def missing (host : Url.Host) (closed : List UInt16) : String :=
  "port(s) " ++ portsText closed ++ " not reachable on " ++ host.text

theorem closed_eq_nil_iff : closed n host ports.toList k = [] ↔ AllOpen n host ports k := by
  unfold closed AllOpen
  simp [List.filter_eq_nil_iff]
  rfl

/-- What a pass over ports leaves behind. -/
structure Passed (c : HostPort) (host : Url.Host) (ports : List UInt16) (w u : World) : Prop where
  target : u.target = w.target
  network : u.network = Network.afterPass host ports w.network
  calls : w.Called (attempts w.network host ports) u
  now : u.now = w.now + c.lost w.network host ports 0

theorem isListening_apply (c : HostPort) (host : Url.Host) (port : UInt16) (w : World) :
    ∃ u, c.Passed host [port] w u ∧
      c.isListening host port w = .ok (w.network.outcome host port 0).isMade u := by
  obtain ⟨v, hc, hn, ht, hw, hj⟩ := connect_apply (ε := Halt) host port w
  unfold isListening
  rw [bind_of_ok hc]
  cases ho : w.network.outcome host port 0 with
  | made server => exact ⟨v, ⟨ht, hw, hj, by simp [lost, ho, hn, Connection.isPending]⟩, rfl⟩
  | failed error =>
    refine ⟨{ v with log := v.log.push (.trace, _) }, ⟨ht, hw, hj, ?_⟩, rfl⟩
    simp [lost, ho, hn, Connection.isPending]
  | pending =>
    refine ⟨{ v with
      now := v.now + c.connectTimeout.ceilMillis
      log := v.log.push (.trace, _) }, ⟨ht, hw, hj, ?_⟩, rfl⟩
    simp [lost, ho, hn, Connection.isPending]

theorem Passed.cons {port : UInt16} {rest : List UInt16} (hp : port ∉ rest)
    (h : c.Passed host [port] w v) (h' : c.Passed host rest v u) :
    c.Passed host (port :: rest) w u where
  target := h'.target.trans h.target
  network := by
    rw [h'.network, h.network]
    rfl
  calls := by
    have hc := h.calls.trans h'.calls
    rw [h.network, attempts, attempts, Network.knows_afterPass] at hc
    unfold attempts
    split
    · next hk => rwa [if_pos hk, if_pos hk] at hc
    · next hk => rwa [if_neg hk, if_neg hk] at hc
  now := by
    have hl : c.lost v.network host rest 0 = c.lost w.network host rest 0 := by
      unfold lost
      congr 1
      refine List.countP_congr fun q hq => ?_
      have hne : q ∉ [port] := by
        rintro hm
        exact hp (List.mem_singleton.mp hm ▸ hq)
      rw [h.network, Network.outcome_pass_of_not_mem hne]
    rw [h'.now, h.now, hl]
    unfold lost
    rw [List.countP_cons, List.countP_cons, List.countP_nil]
    rw [Nat.zero_add, Nat.add_mul, Nat.add_assoc, Nat.add_comm (_ * _)]

/-- Every port is tried, whatever becomes of those before it. -/
theorem unreachable_apply (c : HostPort) (host : Url.Host) {ports : List UInt16}
    (hn : ports.Nodup) (w : World) :
    ∃ u, c.Passed host ports w u ∧
      c.unreachable host ports w = .ok (closed w.network host ports 0) u := by
  induction ports generalizing w with
  | nil => exact ⟨w, ⟨rfl, rfl, by unfold attempts; split <;> exact .refl w, by simp [lost]⟩, rfl⟩
  | cons port rest ih =>
    obtain ⟨hp, hn⟩ := List.nodup_cons.mp hn
    obtain ⟨v, hv, hl⟩ := isListening_apply c host port w
    obtain ⟨u, hu, hr⟩ := ih hn v
    refine ⟨u, hv.cons hp hu, ?_⟩
    have hc : closed v.network host rest 0 = closed w.network host rest 0 := by
      refine List.filter_congr fun q hq => ?_
      have hne : q ∉ [port] := by
        rintro hm
        exact hp (List.mem_singleton.mp hm ▸ hq)
      rw [hv.network, Network.outcome_pass_of_not_mem hne]
    rw [unreachable, bind_of_ok hl, bind_of_ok hr, hc, closed, closed, List.filter_cons]
    cases (w.network.outcome host port 0).isMade <;> rfl

theorem nodup (ports : Ascending) : ports.toList.Nodup :=
  ports.sorted.imp UInt16.ne_of_lt

/-- A pass is ready if every port is open in it, and otherwise misses those that are not. -/
theorem attempt_apply (c : HostPort) (host : Url.Host) (ports : Ascending) (w : World) :
    ∃ u, c.Passed host ports.toList w u ∧
      ((AllOpen w.network host ports 0 ∧ c.attempt host ports w = .ok .ready u) ∨
        (¬ AllOpen w.network host ports 0 ∧ c.attempt host ports w =
          .ok (.missed () (missing host (closed w.network host ports.toList 0))) u)) := by
  obtain ⟨u, hu, hr⟩ := unreachable_apply c host (nodup ports) w
  have ha : c.attempt host ports w = _ := bind_of_ok hr
  rw [← closed_eq_nil_iff]
  cases hm : closed w.network host ports.toList 0 with
  | nil =>
    rw [hm] at ha
    exact ⟨{ u with log := u.log.push (.info, _) }, ⟨hu.target, hu.network, hu.calls, hu.now⟩,
      .inl ⟨rfl, ha⟩⟩
  | cons port rest =>
    rw [hm] at ha
    exact ⟨u, hu, .inr ⟨List.cons_ne_nil _ _, ha⟩⟩

/-! ## Polls -/

/-- `k` passes over ports have been made since `w`, and nothing else has been called. -/
structure Passes (host : Url.Host) (ports : Ascending) (k : Nat) (w v : World) : Prop where
  knows : v.network.knows host = w.network.knows host
  outcome : ∀ port ∈ ports, ∀ j, v.network.outcome host port j = w.network.outcome host port (k + j)
  calls : w.Called (List.replicate k (attempts w.network host ports.toList)).flatten v

/-- The world of a poll after `k` passes, each of them but the last followed by a pause. -/
theorem Passes.succ (h : Passes host ports k w v) (hp : c.Passed host ports.toList v u) :
    Passes host ports (k + 1) w u where
  knows := by rw [hp.network, Network.knows_afterPass, h.knows]
  outcome port hm j := by
    rw [hp.network, Network.outcome_pass (nodup ports) hm, h.outcome port hm, Nat.add_right_comm,
      Nat.add_assoc]
  calls := by
    have hc := h.calls.trans hp.calls
    rw [attempts, attempts, h.knows] at hc
    rw [List.replicate_succ', List.flatten_append, List.flatten_singleton]
    exact hc

theorem Passes.closed_eq (h : Passes host ports k w v) :
    closed v.network host ports.toList 0 = closed w.network host ports.toList k :=
  List.filter_congr fun port hm => by rw [h.outcome port hm, Nat.add_zero]

theorem Passes.allOpen_iff (h : Passes host ports k w v) :
    AllOpen v.network host ports 0 ↔ AllOpen w.network host ports k := by
  rw [← closed_eq_nil_iff, ← closed_eq_nil_iff, h.closed_eq]

theorem attempt_passes (c : HostPort) (h : Passes host ports k w v) :
    ∃ u, Passes host ports (k + 1) w u ∧
      ((AllOpen w.network host ports k ∧ c.attempt host ports v = .ok .ready u) ∨
        (¬ AllOpen w.network host ports k ∧ c.attempt host ports v =
          .ok (.missed () (missing host (closed w.network host ports.toList k))) u)) := by
  obtain ⟨u, hu, hr⟩ := attempt_apply c host ports v
  rw [h.allOpen_iff, h.closed_eq] at hr
  exact ⟨u, h.succ hu, hr⟩

/-- Each attempt of a poll makes one pass, and in none but the last is every port open. -/
theorem course_passes {p : Poll}
    (h : p.course (fun _ => c.attempt host ports) m w k = some (m, v)) :
    Passes host ports k w v ∧ ∀ j < k, ¬ AllOpen w.network host ports j := by
  induction k generalizing v with
  | zero =>
    cases h
    exact ⟨⟨rfl, fun _ _ j => by rw [Nat.zero_add], .refl w⟩, nofun⟩
  | succ k ih =>
    obtain ⟨m₁, v₁, detail, u, hc, ha, hr⟩ := Poll.course_succ.mp h
    obtain ⟨hv, hn⟩ := ih hc
    obtain ⟨-, log, rfl⟩ := p.retry_eq_ok hr
    obtain ⟨u', hu, ⟨-, ha'⟩ | ⟨he, ha'⟩⟩ := attempt_passes c hv
    · rw [ha'] at ha
      cases ha
    · rw [ha'] at ha
      cases ha
      refine ⟨⟨hu.knows, hu.outcome, hu.calls⟩, fun j hj => ?_⟩
      rcases Nat.lt_succ_iff_lt_or_eq.mp hj with hj | rfl
      · exact hn j hj
      · exact he

/-- What a poll that has begun at `started` comes to with the pass after `k` others. -/
inductive Verdict (c : HostPort) (n : Network) (host : Url.Host) (ports : Ascending)
    (started k : Nat) : EStateM.Result Halt World Unit → Prop
  | ready {v : World} : AllOpen n host ports k → Verdict c n host ports started k (.ok () v)
  | late {v : World} : ¬ AllOpen n host ports k →
    c.pace.timeout ≤ .ofMillis (v.now - started) →
    Verdict c n host ports started k (.error (.failed (.timeout .hostPort
      (.ofMillis (v.now - started)) (missing host (closed n host ports.toList k)) none)) v)
  | endless {v : World} : (∀ j, ¬ AllOpen n host ports j) →
    Verdict c n host ports started k (.error .endless v)

theorem run_verdict (c : HostPort) (host : Url.Host) (ports : Ascending) (w : World) :
    let run := Poll.run ⟨.hostPort, c.pace⟩ (fun _ => c.attempt host ports) ()
    ∃ k, w.Called (List.replicate (k + 1) (attempts w.network host ports.toList)).flatten
        (run.after w) ∧
      (∀ j < k, ¬ AllOpen w.network host ports j) ∧
      c.Verdict w.network host ports w.now k (run w) := by
  intro run
  rcases Poll.run_ends ⟨.hostPort, c.pace⟩ (fun _ => c.attempt host ports) () w with
    ⟨k, m, v, hk, hc, hs⟩ | ⟨m, v, hc, he⟩
  · obtain ⟨hv, hn⟩ := course_passes hc
    obtain ⟨u, hu, hr⟩ := attempt_passes c hv
    refine ⟨k, ?_⟩
    unfold after
    change Poll.Stops _ _ _ _ _ (run w) at hs
    generalize run w = x at hs ⊢
    rcases hr with ⟨he, ha⟩ | ⟨he, ha⟩
    · obtain rfl := hs.of_ready ha
      exact ⟨hu.calls, hn, .ready he⟩
    · obtain ⟨hl, log, rfl⟩ := hs.of_missed ha
      exact ⟨hu.calls, hn, .late (v := { u with log }) he hl⟩
  · obtain ⟨k, hk⟩ : ∃ k, Poll.enough ⟨.hostPort, c.pace⟩ w = k + 1 := ⟨_, rfl⟩
    rw [hk] at hc
    obtain ⟨hv, hn⟩ := course_passes hc
    refine ⟨k, ?_, fun j hj => hn j (by omega), ?_⟩
    · rw [after_of_error he]
      exact hv.calls
    · change run w = _ at he
      rw [he]
      refine .endless fun j hj => ?_
      have hu : w.network.unread ≤ k := by
        unfold Poll.enough World.unread at hk
        omega
      by_cases hjk : j ≤ k
      · exact hn j (by omega) hj
      · refine hn k (by omega) fun port hm => ?_
        rw [Network.outcome_of_unread host port hu,
          ← Network.outcome_of_unread host port (k := j) (by omega)]
        exact hj port hm

/-! ## Waits -/

/-- What a wait for the host ports of container ports calls, and what it comes to. -/
inductive Ends (c : HostPort) (ports : Ascending) (w : World) :
    List Call → EStateM.Result Halt World Unit → Prop
  /-- The first container port that has no host port ends the wait. -/
  | unmapped {asked rest : List UInt16} {port : UInt16} {e : TargetError} {u : World} :
    ports.toList = asked ++ port :: rest →
    (∀ p ∈ asked, ∃ h, w.target.hostPort p = .ok h) → w.target.hostPort port = .error e →
    Ends c ports w ((asked ++ [port]).map .mappedPort) (.error (.failed (.ofTarget e)) u)
  /-- There is nothing to wait for. -/
  | nothing {u : World} : ports.toList = [] → Ends c ports w [] (.ok () u)
  /-- There are host ports, but no host. -/
  | unhosted {e : TargetError} {u : World} : ports.toList ≠ [] →
    (∀ p ∈ ports, ∃ h, w.target.hostPort p = .ok h) →
    w.target.nextHost.1.answer = .error e →
    Ends c ports w (ports.toList.map .mappedPort ++ [.host]) (.error (.failed (.ofTarget e)) u)
  /-- The last of `k + 1` passes over the host ports decides. -/
  | polled {host : Url.Host} {found : Ascending} {k : Nat} {r : EStateM.Result Halt World Unit} :
    ports.toList ≠ [] → (∀ p ∈ ports, ∃ h, w.target.hostPort p = .ok h) →
    w.target.nextHost.1.answer = .ok host →
    (∀ h, h ∈ found ↔ ∃ p ∈ ports, w.target.hostPort p = .ok h) →
    (∀ j < k, ¬ AllOpen w.network host found j) →
    c.Verdict w.network host found (c.setUp.after w).now k r →
    Ends c ports w (ports.toList.map .mappedPort ++ .host ::
      (List.replicate (k + 1) (attempts w.network host found.toList)).flatten) r

theorem setUp_none {found : Ascending} (hq : c.hostPorts w = .ok found u)
    (h : found.toList = []) : ∃ log, c.setUp w = .ok none { u with log } := by
  unfold setUp
  rw [bind_of_ok hq, Ascending.isEmpty, h]
  exact ⟨_, rfl⟩

theorem setUp_host {found : Ascending} (hq : c.hostPorts w = .ok found u)
    (h : found.toList ≠ []) : c.setUp w = (do
      let host ← Wait.require Query.host
      Wait.say .info ("Waiting for " ++ c.pace.timeout.text ++ " for host port(s) "
        ++ portsText found.toList ++ " on " ++ host.text)
      return some (host, found)) u := by
  unfold setUp
  rw [bind_of_ok hq, Ascending.isEmpty, if_neg (by rwa [List.isEmpty_iff])]

/-- After a set-up that finds host ports, passes over them are made until the last one decides. -/
theorem wait_of_setUp {w₀ : World} {found : Ascending} {calls : List Call}
    (hs : c.setUp w = .ok (some (host, found)) w₀) (hn : w₀.network = w.network)
    (hc : w.Called calls w₀) : ∃ k,
      (c.wait.calls w).map Entry.call =
        calls ++ (List.replicate (k + 1) (attempts w.network host found.toList)).flatten ∧
      (∀ j < k, ¬ AllOpen w.network host found j) ∧
      c.Verdict w.network host found (c.setUp.after w).now k (c.wait w) := by
  have hw : c.wait w = Poll.run ⟨.hostPort, c.pace⟩ (fun _ => c.attempt host found) () w₀ :=
    Polled.wait_of_setUp (c := .hostPort c) hs
  obtain ⟨k, hk, hmiss, hverdict⟩ := run_verdict c host found w₀
  rw [hn] at hk hmiss hverdict
  refine ⟨k, World.Called.calls_eq ?_, hmiss, ?_⟩
  · rw [after, hw]
    exact hc.trans hk
  · rwa [hw, after_of_ok hs]

/-- Once the host ports are known, the host is asked for, and with its answer the passes begin. -/
theorem ends_of_found {ports found : Ascending} (hp : ports.toList ≠ [])
    (ha : ∀ p ∈ ports, ∃ h, w.target.hostPort p = .ok h)
    (hf : ∀ h, h ∈ found ↔ ∃ p ∈ ports, w.target.hostPort p = .ok h)
    (hr : c.hostPorts w = .ok found u) (ht : u.target = w.target)
    (hn : u.network = w.network) (hc : w.Called (ports.toList.map .mappedPort) u) :
    c.Ends ports w ((c.wait.calls w).map Entry.call) (c.wait w) := by
  have hfound : found.toList ≠ [] := by
    obtain ⟨p, hmp⟩ := List.exists_mem_of_ne_nil _ hp
    obtain ⟨h, hph⟩ := ha p hmp
    exact List.ne_nil_of_mem ((hf h).mpr ⟨p, hmp, hph⟩)
  obtain ⟨v, hnv, hcv, hv⟩ := Query.host_apply u
  rw [ht] at hv
  have hs := setUp_host hr hfound
  cases ho : w.target.nextHost.1.answer with
  | error e =>
    rw [ho] at hv
    have hh : Wait.require Query.host u = .error (.failed (.ofTarget e)) v := by
      rw [Wait.require, mapError, hv]
    rw [bind_of_error hh] at hs
    have hw : c.wait w = .error (.failed (.ofTarget e)) v := by
      rw [c.wait_eq, bind_of_error hs]
    have hcalls : w.Called (ports.toList.map .mappedPort ++ [.host]) (c.wait.after w) := by
      rw [after_of_error hw]
      exact hc.trans hcv
    rw [hw, hcalls.calls_eq]
    exact .unhosted hp ha ho
  | ok host =>
    rw [ho] at hv
    have hh : Wait.require Query.host u = .ok host v := by
      rw [Wait.require, mapError, hv]
    rw [bind_of_ok hh] at hs
    obtain ⟨w₀, hs, hnet, hc⟩ : ∃ w₀, c.setUp w = .ok (some (host, found)) w₀ ∧
        w₀.network = w.network ∧ w.Called (ports.toList.map .mappedPort ++ [.host]) w₀ :=
      ⟨{ v with log := v.log.push (.info, _) }, hs.trans rfl, hnv.trans hn, hc.trans hcv⟩
    obtain ⟨k, hcalls, hmiss, hverdict⟩ := wait_of_setUp hs hnet hc
    rw [hcalls, List.append_assoc]
    exact .polled hp ha ho hf hmiss hverdict

/-- A wait asks for every host port, then for the host, and then passes over the host ports. -/
theorem wait_ends {ports : Ascending} (h : c.ports = some ports) (w : World) :
    c.Ends ports w ((c.wait.calls w).map Entry.call) (c.wait w) := by
  obtain ⟨u, ht, hn, hm⟩ := Query.mappedPorts_ends ports.toList ∅ w
  have hq := hostPorts_of_ports h
  rcases hm with ⟨found, hm, hc, ha, hf⟩ | ⟨asked, port, rest, e, hm, hp, hc, ha, he⟩
  · have hr : c.hostPorts w = .ok found u := by
      rw [hq, Wait.require, mapError, hm]
    have hf : ∀ h, h ∈ found ↔ ∃ p ∈ ports, w.target.hostPort p = .ok h := by
      intro h
      rw [hf]
      exact or_iff_right List.not_mem_nil
    by_cases hp : ports.toList = []
    · have hfound : found.toList = [] := by
        refine List.eq_nil_iff_forall_not_mem.mpr fun h hmem => ?_
        obtain ⟨p, hmp, -⟩ := (hf h).mp hmem
        exact (List.eq_nil_iff_forall_not_mem.mp hp p) hmp
      obtain ⟨log, hs⟩ := setUp_none hr hfound
      have hw : c.wait w = .ok () { u with log } := by rw [c.wait_eq, bind_of_ok hs]; rfl
      have hcalls : w.Called [] (c.wait.after w) := by
        rw [after_of_ok hw]
        rw [hp] at hc
        exact hc
      rw [hw, hcalls.calls_eq]
      exact .nothing hp
    · exact ends_of_found hp ha hf hr ht hn hc
  · have hr : c.hostPorts w = .error (.failed (.ofTarget e)) u := by
      rw [hq, Wait.require, mapError, hm]
    have hw : c.wait w = .error (.failed (.ofTarget e)) u := bind_of_error hr
    have hcalls : w.Called ((asked ++ [port]).map .mappedPort) (c.wait.after w) := by
      rwa [after_of_error hw]
    rw [hw, hcalls.calls_eq]
    exact .unmapped hp ha he

theorem wait_returns (hp : .zero < c.pace.interval) (w : World) : c.wait.Returns w := by
  have h : ∀ h, Polled.hostPort c = .http h → h.clientOf.timeout ≠ none := by
    rintro h ⟨⟩
  exact Polled.wait_returns (c := .hostPort c) hp h w

/-- The order and the repetitions of given ports make no difference. Each of the ports is looked up
once, in ascending order, and then every pass tries every host port once, in ascending order; the
wait is ready after the first pass in which all of them are open, and a timeout lists those that were
not open in the last pass. -/
theorem port_passes (c : HostPort) (given : List UInt16) :
    (∀ given' : List UInt16, (∀ p, p ∈ given' ↔ p ∈ given) →
      c.apply (.ports given') = c.apply (.ports given)) ∧
    ∃ ports : Ascending, (∀ p, p ∈ ports ↔ p ∈ given) ∧
      let d := c.apply (.ports given)
      ∀ w : World, d.Ends ports w ((d.wait.calls w).map Entry.call) (d.wait w) ∧
        (.zero < c.pace.interval → d.wait.Returns w) := by
  refine ⟨fun given' h => ?_, .ofList given, fun p => Ascending.mem_ofList, fun w => ⟨?_, ?_⟩⟩
  · have ho : Ascending.ofList given' = .ofList given := by
      refine Ascending.ext_mem fun p => ?_
      rw [Ascending.mem_ofList, Ascending.mem_ofList, h]
    rw [apply, apply, ho]
  · exact wait_ends rfl w
  · exact fun hp => wait_returns (c := c.apply (.ports given)) hp w

/-- Two container ports with a host port each, which are open in turn before both of them are. -/
theorem port_passes_flapping :
    let c : HostPort := { pace := ⟨.ofSecs 1, .ofMillis 100⟩ }
    let server : Peer := .listens {}
    let w : World := {
      target := { mappings := [(443, some { answer := .ok 8001 }), (80, some { answer := .ok 8002 })] }
      network := { ports := [(8001, [server, .refuses, server]), (8002, [.refuses, server])] } }
    let d := c.apply (.ports [443, 80, 443])
    c.apply (.ports [80, 443]) = d ∧
      ∃ ports : Ascending, (∀ p, p ∈ ports ↔ p ∈ [443, 80, 443]) ∧
        d.Ends ports w ((d.wait.calls w).map Entry.call) (d.wait w) ∧ d.wait.Returns w := by
  intro c server w d
  obtain ⟨ho, ports, hp, hw⟩ := port_passes c [443, 80, 443]
  refine ⟨ho _ fun p => ?_, ports, hp, (hw w).1, (hw w).2 (by decide)⟩
  simp only [List.mem_cons, List.not_mem_nil, or_false]
  tauto

end HostPort

end Readiness
