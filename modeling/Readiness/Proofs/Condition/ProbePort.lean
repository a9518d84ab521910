import Readiness.Proofs.Condition.Passes
import Readiness.Proofs.Condition.Response
import Readiness.Proofs.Poll.Ahead

/-! # The port that is probed by default

A probe without a port of its own looks up the host ports of all exposed ports and takes the least of
them (`HttpProbe.seek_exposed`). What it does then is what it does with the exposed port behind that
host port (`HttpProbe.probed_port`). This is the least of the exposed ports only if none of the others
is mapped to a lower host port. -/

namespace Readiness

open Timed

namespace Ascending

variable {s : Ascending} {n k : UInt16}

/-- A set with a member has a least one. -/
theorem exists_least (h : s ≠ ∅) : ∃ n, s.least? = some n ∧ n ∈ s ∧ ∀ m ∈ s, n ≤ m := by
  obtain ⟨l, hs⟩ := s
  cases l with
  | nil => exact absurd rfl h
  | cons n rest =>
    refine ⟨n, rfl, List.mem_cons_self, fun m hm => ?_⟩
    rcases List.mem_cons.mp hm with rfl | hm
    · exact UInt16.le_refl _
    · exact UInt16.le_of_lt ((List.pairwise_cons.mp hs).1 m hm)

theorem least?_eq_some (h : n ∈ s) (hl : ∀ m ∈ s, n ≤ m) : s.least? = some n := by
  have hne : s ≠ ∅ := by
    rintro rfl
    exact not_mem_empty h
  obtain ⟨k, hk, hm, hle⟩ := exists_least hne
  rw [hk, UInt16.le_antisymm (hle n h) (hl k hm)]

theorem le_of_least? (h : s.least? = some n) (hk : k ∈ s) : n ≤ k := by
  have hne : s ≠ ∅ := by
    rintro rfl
    exact not_mem_empty hk
  obtain ⟨n', hn, -, hle⟩ := exists_least hne
  obtain rfl : n' = n := Option.some.inj (hn.symm.trans h)
  exact hle k hk

theorem exists_least_image (h : s ≠ ∅) (m : UInt16 → UInt16) :
    ∃ p ∈ s, ∀ q ∈ s, m p ≤ m q := by
  have hi : ∀ n, n ∈ ofList (s.toList.map m) ↔ ∃ p ∈ s, m p = n := by
    intro n
    rw [mem_ofList, List.mem_map]
    rfl
  obtain ⟨p₀, -, hp₀, -⟩ := exists_least h
  have hne : ofList (s.toList.map m) ≠ ∅ := by
    intro he
    have hp := (hi (m p₀)).mpr ⟨p₀, hp₀, rfl⟩
    rw [he] at hp
    exact not_mem_empty hp
  obtain ⟨n, -, hn, hle⟩ := exists_least hne
  obtain ⟨p, hp, rfl⟩ := (hi n).mp hn
  exact ⟨p, hp, fun q hq => hle _ ((hi _).mpr ⟨q, hq, rfl⟩)⟩

end Ascending

namespace Query

variable {w u : World} {ports : List UInt16} {found found' : Ascending} {port : UInt16}

theorem after_mappedPort (port : UInt16) (w : World) :
    ((mappedPort port).after w).target = w.target ∧
      ((mappedPort port).after w).now =
        w.now + (w.target.nextMapped port).1.delay.ceilMillis := by
  unfold mappedPort
  rw [after_ask]
  exact ⟨rfl, rfl⟩

/-- Asking for several ports takes no less time than asking for one of them. -/
theorem mappedPort_le_mappedPorts (hp : port ∈ ports)
    (h : mappedPorts ports found w = .ok found' u) : ((mappedPort port).after w).now ≤ u.now := by
  induction ports generalizing found w with
  | nil => cases hp
  | cons q rest ih =>
    obtain ⟨m, v, hq, hr⟩ := bind_eq_ok.mp h
    obtain ⟨ht, hnow⟩ := after_mappedPort q w
    rw [after_of_ok hq] at ht hnow
    rcases List.mem_cons.mp hp with rfl | hp
    · have hF := (forward.mappedPorts rest (found.insert m) v).now_le
      rwa [after_of_ok hr, ← after_of_ok hq] at hF
    · have hle := ih hp hr
      rw [(after_mappedPort port v).2, ht] at hle
      rw [(after_mappedPort port w).2]
      omega

end Query

namespace HttpProbe

variable {c d : HttpProbe} {w w₁ u v : World} {ports : Ascending} {port : UInt16}
  {m : UInt16 → UInt16}

/-! ## Before and after the host port is known -/

/-- Refuses a read timeout that is too short, then finds out the host port, if there is one. -/
def seek (c : HttpProbe) : Wait (Option UInt16) :=
  if c.readTimeout < shortestReadTimeout then
    Wait.misconfigured (.readTimeoutTooShort c.readTimeout)
  else Wait.require c.hostPort?

/-- Builds the URL for a host port. -/
def target (c : HttpProbe) (port : UInt16) : Wait Url := do
  let host ← Wait.require Query.host
  match livenessUrl host port c.useTls c.path with
  | .error fault => Wait.misconfigured (.invalidUrl fault)
  | .ok url =>
    Wait.say .info ("Waiting for " ++ c.pace.timeout.text ++ " for URL: " ++ url.text
      ++ " (expecting HTTP " ++ c.expectation ++ ")")
    return url

/-- The wait from when the host port is known. -/
def probe (c : HttpProbe) (port : UInt16) : Wait Unit :=
  c.target port >>= fun url => Poll.run ⟨.http, c.pace⟩ (fun _ => c.attempt url) ()

theorem wait_eq_probe (c : HttpProbe) : c.wait = c.seek >>= fun port =>
    port.elim (Wait.say .warn "No exposed or mapped ports, cannot wait for HTTP status")
      c.probe := by
  unfold HttpProbe.wait seek
  split
  · rfl
  · dsimp only
    refine bind_congr fun port => ?_
    cases port with
    | none => rfl
    | some port =>
      unfold Option.elim probe target
      dsimp only
      rw [bind_assoc]
      refine bind_congr fun host => ?_
      cases livenessUrl host port c.useTls c.path with
      | error fault => rfl
      | ok url =>
        simp only [bind_assoc, pure_bind]

/-- All that the port is for is to find out the host port. -/
theorem probe_apply_port (c : HttpProbe) (p port : UInt16) :
    (c.apply (.port p)).probe port = c.probe port := by
  have he : (c.apply (.port p)).expectation = c.expectation := rfl
  have ht : (c.apply (.port p)).target port = c.target port := by
    rw [target, target, he]
    simp only [apply]
  have ha : ∀ url, (c.apply (.port p)).attempt url = c.attempt url := fun _ => rfl
  rw [probe, probe, ht]
  simp only [ha]
  rfl

theorem ahead_probe {δ : Nat} {past past' : List Entry} (c : HttpProbe) (port : UInt16)
    (h : World.Ahead δ past past' w v) :
    AheadEnd δ past past' (c.probe port w) (c.probe port v) := by
  have L := ahead δ past past'
  refine Agree.aheadEnd ?_ (fun url w₀ v₀ h₀ => ?_) h
  · refine L.bind (L.require L.host) fun host => ?_
    split
    · exact L.fail _
    · exact L.bind (L.say _ _) fun _ => L.pure _
  · exact Poll.run_ahead (c.steady url) (L.attempt (.http c) url ()) _ h₀

/-! ## The same probe -/

/-- By how much later `c` knows its host port than `d`. -/
def lag (c d : HttpProbe) (w : World) : Nat := (c.seek.after w).now - (d.seek.after w).now

/-- Both probes find out the same host port, each by questions of its own, and do the same from then
on, `c` by as much later as it has asked for longer. Of a wait without an end a part of the calls is
known. -/
structure ProbesAs (c d : HttpProbe) (w : World) : Prop where
  port : c.seek.result w = d.seek.result w
  result : c.wait.result w = d.wait.result w
  calls : ∃ calls calls', d.wait.calls w = d.seek.calls w ++ calls ∧
    c.wait.calls w = c.seek.calls w ++ calls' ∧
    calls' <+: calls.map (Entry.later (c.lag d w)) ∧
    (d.wait.Returns w → calls' = calls.map (Entry.later (c.lag d w)))
  took : d.wait.Returns w → c.wait.took w = c.lag d w + d.wait.took w

theorem forward_seek (c : HttpProbe) : c.seek.Forward := by
  unfold seek
  split
  · exact forward.fail _
  · exact forward.require (forward.hostPort? c)

/-- It is the host port that makes a probe. -/
theorem probesAs_of_seek (hp : d.probe port = c.probe port) (hc : c.seek w = .ok (some port) u)
    (hd : d.seek w = .ok (some port) v) (hnow : v.now ≤ u.now)
    (ht : u.target = { v.target with exposed := u.target.exposed })
    (hu : u.target.exposed.unread ≤ v.target.exposed.unread) (hn : u.network = v.network) :
    c.ProbesAs d w := by
  have hlag : c.lag d w = u.now - v.now := by rw [lag, after_of_ok hc, after_of_ok hd]
  have hahead : World.Ahead (c.lag d w) v.journal.toList u.journal.toList v u :=
    ⟨by omega, ht, hu, hn, [], (List.append_nil _).symm, (List.append_nil _).symm⟩
  have hcw : c.wait w = c.probe port u := by rw [c.wait_eq_probe, bind_of_ok hc]; rfl
  have hdw : d.wait w = c.probe port v := by rw [d.wait_eq_probe, bind_of_ok hd, ← hp]; rfl
  have hca : c.wait.after w = (c.probe port).after u := by rw [after, hcw, after]
  have hda : d.wait.after w = (c.probe port).after v := by rw [after, hdw, after]
  have hret : d.wait.Returns w → (c.probe port).Returns v := by
    intro h
    rwa [Wait.Returns, Ends, hdw] at h
  obtain ⟨hr, ⟨calls, calls', hjd, hjc, hpre, hcalls⟩, hend⟩ := (c.ahead_probe port hahead).ends
  have hju := c.forward_seek.journal_eq w
  have hjv := d.forward_seek.journal_eq w
  rw [after_of_ok hc] at hju
  rw [after_of_ok hd] at hjv
  rw [← hca, hju, List.append_assoc] at hjc
  rw [← hda, hjv, List.append_assoc] at hjd
  refine ⟨?_, ?_, ⟨calls, calls', ?_, ?_, hpre, fun h => hcalls (hret h)⟩, fun h => ?_⟩
  · rw [Timed.result, hc, Timed.result, hd]
  · rw [Timed.result, hcw, Timed.result, hdw]
    exact hr
  · exact calls_of_journal hjd
  · exact calls_of_journal hjc
  · have hF := (forward.polled (.http d) w).now_le
    have hn := hend (hret h)
    rw [← hca, ← hda] at hn
    change w.now ≤ (d.wait.after w).now at hF
    rw [Timed.took, Timed.took, hn]
    omega

/-- Probes that are refused do nothing, whatever their ports are. -/
theorem probesAs_of_refused (h : c.readTimeout < shortestReadTimeout)
    (ht : d.readTimeout = c.readTimeout) (w : World) : c.ProbesAs d w := by
  let e : Halt := .failed (.configuration (.readTimeoutTooShort c.readTimeout))
  have hs : ∀ b : HttpProbe, b.readTimeout = c.readTimeout →
      b.seek w = .error e w ∧ b.wait w = .error e w := by
    intro b hb
    have hb : b.seek w = .error e w := by
      rw [seek, hb, if_pos h]
      rfl
    exact ⟨hb, by rw [b.wait_eq_probe, bind_of_error hb]⟩
  have hcalls : ∀ {α : Type} {x : Wait α}, x w = .error e w → x.calls w = [] :=
    fun hx => calls_of_journal (by rw [after_of_error hx, List.append_nil])
  obtain ⟨hc, hcw⟩ := hs c rfl
  obtain ⟨hd, hdw⟩ := hs d ht
  refine ⟨?_, ?_, ⟨[], [], ?_, ?_, List.nil_prefix, fun _ => rfl⟩, fun _ => ?_⟩
  · rw [Timed.result, hc, Timed.result, hd]
  · rw [Timed.result, hcw, Timed.result, hdw]
  · rw [hcalls hdw, hcalls hd, List.append_nil]
  · rw [hcalls hcw, hcalls hc, List.append_nil]
  · rw [lag, Timed.took, Timed.took, after_of_error hc, after_of_error hd, after_of_error hcw,
      after_of_error hdw]
    omega

/-! ## Finding out the host port -/

theorem seek_of_le (h : shortestReadTimeout ≤ c.readTimeout) : c.seek = Wait.require c.hostPort? := by
  rw [seek]
  exact if_neg (Nat.not_lt.mpr h)

theorem require_of_ok {α : Type} {q : Query α} {a : α} (h : q w = .ok a u) :
    Wait.require q w = .ok a u := by
  unfold Wait.require mapError
  rw [h]

/-- A given port is looked up. -/
theorem seek_given (h : shortestReadTimeout ≤ c.readTimeout) {p hp : UInt16} (hg : c.port = some p)
    (hm : w.target.hostPort p = .ok hp) :
    c.seek w = .ok (some hp) ((Query.mappedPort p).after w) := by
  obtain ⟨u, -, -, -, hq⟩ := Query.mappedPort_apply p w
  rw [hm] at hq
  rw [c.seek_of_le h, after_of_ok hq]
  refine require_of_ok ?_
  rw [hostPort?, hg]
  exact bind_of_ok hq

/-- Without a given port all exposed ones are looked up, and the least of their host ports is
taken. -/
theorem seek_exposed (h : shortestReadTimeout ≤ c.readTimeout) (hn : c.port = none)
    (hq : Query.exposedPorts w = .ok ports w₁)
    (hm : ∀ p ∈ ports, w.target.hostPort p = .ok (m p)) :
    ∃ (found : Ascending) (u : World), c.seek w = .ok found.least? u ∧
      (∀ n, n ∈ found ↔ ∃ p ∈ ports, m p = n) ∧
      u.target = { w.target with exposed := u.target.exposed } ∧
      u.target.exposed.unread ≤ w.target.exposed.unread ∧ u.network = w.network ∧
      ∀ p ∈ ports, ((Query.mappedPort p).after w).now ≤ u.now := by
  have ha := ahead_exposedPorts hq
  have hhost : ∀ p, w₁.target.hostPort p = w.target.hostPort p := by
    intro p
    rw [ha.target_eq]
    rfl
  obtain ⟨u, htu, hnu, ⟨found, hr, -, -, hf⟩ | ⟨_, p, _, e, hr, hl, -, -, he⟩⟩ :=
    Query.mappedPorts_ends ports.toList ∅ w₁
  · refine ⟨found, u, ?_, fun n => ?_, ?_, ?_, hnu.trans ha.network_eq, fun p hp => ?_⟩
    · rw [c.seek_of_le h]
      refine require_of_ok ?_
      rw [hostPort?, hn]
      refine bind_of_ok (x := Query.livenessCheckPorts) ?_
      exact (bind_of_ok hq).trans hr
    · rw [hf, or_iff_right Ascending.not_mem_empty]
      refine exists_congr fun p => and_congr_right fun hp => ?_
      rw [hhost, hm p hp, Except.ok.injEq]
    · rw [htu]
      exact ha.target_eq
    · rw [htu]
      exact ha.unread_le
    · have hle := Query.mappedPort_le_mappedPorts hp hr
      refine le_trans ?_ hle
      have hnow := ha.now_eq
      rw [(Query.after_mappedPort p w).2, (Query.after_mappedPort p w₁).2, ha.target_eq]
      change w.now + (w.target.nextMapped p).1.delay.ceilMillis ≤
        w₁.now + (w.target.nextMapped p).1.delay.ceilMillis
      omega
  · have hp : p ∈ ports := by
      change p ∈ ports.toList
      rw [hl]
      simp
    rw [hhost, hm p hp] at he
    cases he

/-- A probe without a port does what it does with the exposed port that has the least host port, and
with no other. -/
theorem probed_port (hn : c.port = none) (hq : Query.exposedPorts w = .ok ports w₁)
    (hne : ports ≠ ∅) (hm : ∀ p ∈ ports, w.target.hostPort p = .ok (m p)) :
    (∃ p ∈ ports, ∀ q ∈ ports, m p ≤ m q) ∧ ∀ p ∈ ports,
      ((∀ q ∈ ports, m p ≤ m q) → c.ProbesAs (c.apply (.port p)) w) ∧
      (shortestReadTimeout ≤ c.readTimeout →
        c.seek.result w = (c.apply (.port p)).seek.result w → ∀ q ∈ ports, m p ≤ m q) := by
  refine ⟨ports.exists_least_image hne m, fun p hp => ?_⟩
  by_cases ht : c.readTimeout < shortestReadTimeout
  · exact ⟨fun _ => probesAs_of_refused (d := c.apply (.port p)) ht rfl w,
      fun h => absurd ht (Nat.not_lt.mpr h)⟩
  have ht : shortestReadTimeout ≤ c.readTimeout := Nat.not_lt.mp ht
  obtain ⟨found, u, hc, hf, htu, hu, hnu, hnow⟩ := seek_exposed ht hn hq hm
  have hd := seek_given (c := c.apply (.port p)) ht rfl (hm p hp)
  constructor
  · intro hle
    have hleast : found.least? = some (m p) := by
      refine Ascending.least?_eq_some ((hf _).mpr ⟨p, hp, rfl⟩) fun n hn => ?_
      obtain ⟨q, hq, rfl⟩ := (hf n).mp hn
      exact hle q hq
    rw [hleast] at hc
    obtain ⟨v, htv, hnv, -, hv⟩ := Query.mappedPort_apply p w
    rw [hm p hp] at hv
    have hnow := hnow p hp
    rw [after_of_ok hv] at hd hnow
    refine probesAs_of_seek (c.probe_apply_port p _) hc hd hnow ?_ ?_ (hnu.trans hnv.symm)
    · rw [htv]
      exact htu
    · rw [htv]
      exact hu
  · intro _ he q hq
    rw [Timed.result, hc, Timed.result, hd, Except.ok.injEq] at he
    exact Ascending.le_of_least? he ((hf _).mpr ⟨q, hq, rfl⟩)

/-- Two services whose host ports are the other way round: the second one is probed. -/
theorem probed_port_crossed :
    let c : HttpProbe := { pace := ⟨.ofSecs 1, .ofMillis 500⟩ }
    let w : World := {
      target := {
        mappings := [(80, some { delay := .ofMillis 2, answer := .ok 9000 }),
          (8080, some { answer := .ok 8000 })]
        exposed := ⟨[{ delay := .ofMillis 5, answer := .ok (.ofList [8080, 80]) }]⟩ } }
    ∃ ports w₁, Query.exposedPorts w = .ok ports w₁ ∧ ports.toList = [80, 8080] ∧
      c.ProbesAs (c.apply (.port 8080)) w ∧
      c.seek.result w ≠ (c.apply (.port 80)).seek.result w := by
  intro c w
  let m (port : UInt16) : UInt16 := if port = 80 then 9000 else 8000
  have hq : Query.exposedPorts w = .ok (.ofList [8080, 80]) (Query.exposedPorts.after w) := rfl
  have hp : (Ascending.ofList [8080, 80]).toList = [80, 8080] := by decide
  have hmem : ∀ p ∈ Ascending.ofList [8080, 80], p = 80 ∨ p = 8080 := by
    intro p h
    change p ∈ (Ascending.ofList [8080, 80]).toList at h
    simpa [hp] using h
  have hm : ∀ p ∈ Ascending.ofList [8080, 80], w.target.hostPort p = .ok (m p) := by
    intro p h
    rcases hmem p h with rfl | rfl <;> rfl
  obtain ⟨-, hports⟩ := probed_port (c := c) rfl hq (by decide) hm
  refine ⟨_, _, hq, hp, (hports 8080 (by decide)).1 fun q h => ?_, fun he => ?_⟩
  · rcases hmem q h with rfl | rfl <;> decide
  · exact absurd ((hports 80 (by decide)).2 (by decide) he 8080 (by decide)) (by decide)

/-- The least exposed port is not what is probed by default: here nothing answers behind it, and the
probe succeeds. -/
theorem least_port_not_probed :
    ¬ ∀ (c : HttpProbe) (w w₁ : World) (ports : Ascending) (p : UInt16), c.port = none →
      Query.exposedPorts w = .ok ports w₁ → (∀ q ∈ ports, ∃ n, w.target.hostPort q = .ok n) →
      ports.least? = some p → (c.wait.Succeeds w → (c.apply (.port p)).wait.Succeeds w) := by
  intro h
  let c : HttpProbe := { pace := ⟨.zero, .ofMillis 500⟩ }
  let w : World := {
    target := { mappings := [(80, some { answer := .ok 9000 }), (8080, some { answer := .ok 8000 })] }
    network := { ports := [(8000, [.listens { reaction := .answers {} 0 false }])] } }
  have hq : Query.exposedPorts w = .ok (.ofList [80, 8080]) (Query.exposedPorts.after w) := rfl
  have hc : c.wait.Succeeds w := succeeds_of_run' (by decide +kernel)
  have hd : (EStateM.run' (c.apply (.port 80)).wait w).isNone := by decide +kernel
  have hm : ∀ q ∈ Ascending.ofList [80, 8080], ∃ n, w.target.hostPort q = .ok n := by
    intro q hq
    rcases List.mem_cons.mp (Ascending.mem_ofList.mp hq) with rfl | hq
    · exact ⟨9000, rfl⟩
    · obtain rfl := List.mem_singleton.mp hq
      exact ⟨8000, rfl⟩
  obtain ⟨a, v, hx⟩ := h c w _ _ 80 rfl hq hm rfl hc
  delta EStateM.run' EStateM.run at hd
  rw [hx] at hd
  cases hd

end HttpProbe

end Readiness
