import Readiness.Proofs.Condition.Passes
import Readiness.Proofs.Poll.Ahead

/-! # Where the ports come from

A wait for all declared container ports is a wait for these ports that begins when they are known
(`HostPort.wait_declared`). Asking for the ports takes time and uses up a reply, and neither makes a
difference to the wait that follows: its calls are the same, by the same time later
(`HostPort.port_sources`). The reply that is used up counts for the number of rounds that are made,
but not for whether the wait has an end (`HostPort.steady`). -/

namespace Readiness

open Timed

namespace HostPort

variable {δ : Nat} {past past' : List Entry} {c : HostPort} {host : Url.Host} {ports : Ascending}

theorem ahead_setUp (h : c.ports = some ports) :
    Agree (World.Ahead δ past past') c.setUp c.setUp := by
  have L := ahead δ past past'
  unfold setUp
  rw [hostPorts_of_ports h]
  refine L.bind (L.require (L.mappedPorts _ _)) fun found => ?_
  split
  · exact L.bind (L.say _ _) fun _ => L.pure _
  · exact L.bind (L.require L.host) fun host => L.bind (L.say _ _) fun _ => L.pure _

/-- A pass uses up nothing but peers and time. -/
theorem steady (c : HostPort) (host : Url.Host) (ports : Ascending) :
    Poll.Steady (c.attempt host ports) where
  agree := (parallel World.repeats_parallel).attempt (.hostPort c) (host, ports) ()
  spends w := by
    obtain ⟨u, hu, hr⟩ := attempt_apply c host ports w
    have ha : (c.attempt host ports).after w = u := by
      rcases hr with ⟨-, hr⟩ | ⟨-, hr⟩ <;> exact after_of_ok hr
    rw [ha]
    refine ⟨hu.target, ?_⟩
    rw [hu.network]
    exact Network.afterPass_eq_or_lt host ports.toList w.network
  forward := Polled.attempt_forward (.hostPort c) (host, ports) ()

/-! ## The two sources -/

section

variable {w w₁ : World} {given : List UInt16}

/-- The wait of `c` is the wait of `d` after a question that is asked in `w` and answered in `w₁`:
the end is the same, and the calls are, by the time later that the answer takes. Of a wait without an
end a part of the calls is known. -/
structure Preceded (c d : HostPort) (w w₁ : World) : Prop where
  result : c.wait.result w = d.wait.result w
  calls : d.wait.Returns w → c.wait.calls w =
    ⟨w.now, .exposedPorts⟩ :: (d.wait.calls w).map (Entry.later (w₁.now - w.now))
  took : d.wait.Returns w → c.wait.took w = w₁.now - w.now + d.wait.took w
  calls_prefix : c.wait.calls w <+:
    ⟨w.now, .exposedPorts⟩ :: (d.wait.calls w).map (Entry.later (w₁.now - w.now))

/-- The declared ports are waited for as if they had been given when they are known. -/
theorem wait_declared (hn : c.ports = none) (hq : Query.exposedPorts w = .ok ports w₁) :
    c.wait w = { c with ports := some ports : HostPort }.wait w₁ := by
  have hh : c.query w = { c with ports := some ports : HostPort }.query w₁ := by
    unfold query
    rw [hn]
    exact bind_of_ok hq
  have hr : c.hostPorts w = { c with ports := some ports : HostPort }.hostPorts w₁ := by
    rw [hostPorts_eq, hostPorts_eq, Wait.require, Wait.require, mapError, mapError, hh]
  have ha : c.attempt = { c with ports := some ports : HostPort }.attempt :=
    funext₂ fun host found =>
      attempt_congr (c := c) (d := { c with ports := some ports }) rfl host found
  unfold wait
  rw [bind_apply, bind_apply, hr, ha]

theorem ahead_wait (h : World.Ahead δ past past' w w₁) (hp : c.ports = some ports) :
    AheadEnd δ past past' (c.wait w) (c.wait w₁) := by
  rw [c.wait_eq]
  refine (ahead_setUp hp).aheadEnd (fun plan w₀ v₀ h₀ => ?_) h
  cases plan with
  | none => exact .inl ⟨rfl, h₀⟩
  | some plan =>
    exact Poll.run_ahead (steady c plan.1 plan.2)
      ((ahead δ past past').attempt (.hostPort c) plan ()) _ h₀

theorem preceded_of_aheadEnd {d : HostPort}
    (h : AheadEnd (w₁.now - w.now) w.journal.toList
      (w.journal.toList ++ [⟨w.now, .exposedPorts⟩]) (d.wait w) (d.wait w₁))
    (hw : c.wait w = d.wait w₁) : c.Preceded d w w₁ := by
  have ha : c.wait.after w = d.wait.after w₁ := by rw [after, hw, after]
  obtain ⟨hr, ⟨calls, calls', hd, hc, hpre, hcalls⟩, hnow⟩ := h.ends
  rw [← ha, List.append_assoc] at hc
  refine ⟨?_, fun h => ?_, fun h => ?_, ?_⟩
  · rw [← hr, result, hw, result]
  · rw [calls_of_journal hc, calls_of_journal hd, hcalls h]
    rfl
  · have hF := (Timed.forward.polled (.hostPort d) w).now_le
    have hn := hnow h
    rw [← ha] at hn
    change w.now ≤ (d.wait.after w).now at hF
    rw [took, took, hn]
    omega
  · rw [calls_of_journal hc, calls_of_journal hd]
    exact (List.prefix_cons_inj _).mpr hpre

/-- Declared ports are waited for as given ports are, in whatever order these are given. -/
theorem port_sources (c : HostPort) (given : List UInt16) (hn : c.ports = none)
    (hq : Query.exposedPorts w = .ok ports w₁) (hg : ∀ p, p ∈ given ↔ p ∈ ports) :
    c.Preceded (c.apply (.ports given)) w w₁ := by
  have hd : c.apply (.ports given) = { c with ports := some ports } := by
    have ho : Ascending.ofList given = ports := by
      refine Ascending.ext_mem fun p => ?_
      rw [Ascending.mem_ofList, hg]
    rw [apply, ho]
  rw [hd]
  exact preceded_of_aheadEnd (ahead_wait (ahead_exposedPorts hq) rfl) (wait_declared hn hq)

/-- Two declared ports of which the lookup of the second fails. -/
theorem port_sources_unmapped :
    let c : HostPort := { pace := ⟨.ofSecs 1, .ofMillis 100⟩ }
    let ports : Ascending := .ofList [80, 443]
    let w : World := {
      target := {
        mappings := [(80, some { delay := .ofMillis 2, answer := .ok 8001 })]
        exposed := ⟨[{ delay := .ofMillis 5, answer := .ok ports }, { answer := .ok ∅ }]⟩ } }
    ∃ w₁, w₁.now = 5 ∧ c.Preceded (c.apply (.ports [443, 80, 443])) w w₁ := by
  intro c ports w
  have hq : Query.exposedPorts w = .ok ports (Query.exposedPorts.after w) := rfl
  refine ⟨Query.exposedPorts.after w, by decide, port_sources c _ rfl hq fun p => ?_⟩
  rw [Ascending.mem_ofList]
  simp only [List.mem_cons, List.not_mem_nil, or_false]
  tauto

end

end HostPort

end Readiness
