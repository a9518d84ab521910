import Mathlib.Algebra.GroupWithZero.Nat
import Mathlib.Data.List.Basic
import Readiness.World

/-! # What becomes of attempts to connect

`Network.outcome` says what becomes of the attempt to connect to a port after any number of others:
the peers of the port are met one after another, and the last one for ever. Attempts to connect to
other ports make no difference (`Network.outcome_afterTrial`), so that one pass over several ports
takes every one of them one attempt further (`Network.outcome_pass`). -/

namespace Readiness

/-- Whether there is a connection. -/
def Connection.isMade : Connection → Bool
  | .made _ => true
  | .failed _ | .pending => false

/-- Whether the attempt goes on for ever. -/
def Connection.isPending : Connection → Bool
  | .pending => true
  | .made _ | .failed _ => false

namespace Network

/-- The peers still to be met at a port. -/
def peers (n : Network) (port : UInt16) : List Peer := (n.ports.lookup port).getD []

/-- The peer that is met after `k` others. -/
def met (peers : List Peer) (k : Nat) : Peer := peers.getD (min k (peers.length - 1)) .refuses

/-- What becomes of an attempt that meets a peer. -/
def fate : Peer → Connection
  | .refuses => .failed .refused
  | .hangs => .pending
  | .unreachable => .failed .unreachable
  | .listens server => .made server

/-- What becomes of the attempt to connect to a port of a host after `k` others. -/
def outcome (n : Network) (host : Url.Host) (port : UInt16) (k : Nat) : Connection :=
  if n.knows host then fate (met (n.peers port) k) else .failed .unresolved

/-- The network after an attempt to connect to a port of a host; nobody is met if the host has no
address. -/
def afterTrial (host : Url.Host) (n : Network) (port : UInt16) : Network :=
  if n.knows host then n.afterAttempt port else n

/-- The network after one attempt to connect to each of several ports. -/
def afterPass (host : Url.Host) (ports : List UInt16) (n : Network) : Network :=
  ports.foldl (afterTrial host) n

variable {n : Network} {host : Url.Host} {port q : UInt16} {ports : List UInt16} {k : Nat}

/-! ## One attempt -/

theorem peer_eq (n : Network) (port : UInt16) : n.peer port = met (n.peers port) 0 := by
  unfold peer peers met
  cases n.ports.lookup port with
  | none => rfl
  | some peers => cases peers <;> rfl

theorem connection_eq (n : Network) (port : UInt16) :
    n.connection port = fate (met (n.peers port) 0) := by
  rw [← peer_eq]
  rfl

theorem met_advance (peers : List Peer) (k : Nat) : met (advance peers) k = met peers (k + 1) := by
  match peers with
  | [] => rfl
  | [peer] => simp [advance, met]
  | peer :: next :: rest =>
    have h : min (k + 1) (rest.length + 1) = min k rest.length + 1 := by omega
    simp [advance, met, h]

theorem peers_afterAttempt (n : Network) (port q : UInt16) :
    (n.afterAttempt port).peers q = if q = port then advance (n.peers q) else n.peers q := by
  have hl : ∀ l : List (UInt16 × List Peer),
      (l.map fun p => if p.1 = port then (p.1, advance p.2) else p).lookup q =
        (l.lookup q).map fun peers => if q = port then advance peers else peers := by
    intro l
    induction l with
    | nil => rfl
    | cons p rest ih =>
      obtain ⟨p, peers⟩ := p
      by_cases hq : q = p
      · subst hq
        by_cases hp : q = port <;> simp [hp]
      · have hc : ∀ (peers' : List Peer) (l : List (UInt16 × List Peer)),
            List.lookup q ((p, peers') :: l) = List.lookup q l := by
          intro peers' l
          rw [List.lookup_cons, beq_false_of_ne hq]
        rw [hc, ← ih, List.map_cons]
        split <;> rw [hc]
  unfold peers afterAttempt
  rw [hl]
  cases n.ports.lookup q with
  | none => split <;> rfl
  | some peers => rfl

@[simp] theorem knows_afterTrial (n : Network) (port : UInt16) :
    (afterTrial host n port).knows host = n.knows host := by
  unfold afterTrial
  split <;> cases host <;> rfl

/-- An attempt makes a difference to later attempts at the same port only. -/
theorem outcome_afterTrial (n : Network) (port q : UInt16) (k : Nat) :
    (afterTrial host n port).outcome host q k =
      n.outcome host q (if q = port then k + 1 else k) := by
  unfold outcome
  rw [knows_afterTrial]
  split
  · next h =>
    have ha : afterTrial host n port = n.afterAttempt port := if_pos h
    rw [ha, peers_afterAttempt]
    split
    · rw [met_advance]
    · rfl
  · rfl

/-! ## One pass -/

@[simp] theorem knows_afterPass (ports : List UInt16) (n : Network) :
    (afterPass host ports n).knows host = n.knows host := by
  unfold afterPass
  induction ports generalizing n with
  | nil => rfl
  | cons port rest ih => rw [List.foldl_cons, ih, knows_afterTrial]

theorem outcome_pass_of_not_mem (h : q ∉ ports) (n : Network) (k : Nat) :
    (afterPass host ports n).outcome host q k = n.outcome host q k := by
  unfold afterPass
  induction ports generalizing n with
  | nil => rfl
  | cons port rest ih =>
    obtain ⟨hq, hr⟩ := List.ne_and_not_mem_of_not_mem_cons h
    rw [List.foldl_cons, ih hr, outcome_afterTrial, if_neg hq]

/-- After a pass over ports all of which are different, each of them is one attempt further. -/
theorem outcome_pass (hn : ports.Nodup) (h : q ∈ ports) (n : Network) (k : Nat) :
    (afterPass host ports n).outcome host q k = n.outcome host q (k + 1) := by
  induction ports generalizing n with
  | nil => cases h
  | cons port rest ih =>
    obtain ⟨hp, hn⟩ := List.nodup_cons.mp hn
    have hc : afterPass host (port :: rest) n = afterPass host rest (afterTrial host n port) := rfl
    rw [hc]
    rcases List.mem_cons.mp h with rfl | hq
    · rw [outcome_pass_of_not_mem hp, outcome_afterTrial, if_pos rfl]
    · rw [ih hn hq, outcome_afterTrial, if_neg]
      rintro rfl
      exact hp hq

/-! ## What is repeated -/

theorem unread_eq (n : Network) : n.unread = (n.ports.map fun p => p.2.length - 1).sum := by
  have hf : ∀ (l : List (UInt16 × List Peer)) (k : Nat),
      l.foldl (fun k p => k + (p.2.length - 1)) k = k + (l.map fun p => p.2.length - 1).sum := by
    intro l
    induction l with
    | nil => exact fun k => rfl
    | cons p rest ih =>
      intro k
      rw [List.foldl_cons, ih, List.map_cons, List.sum_cons, Nat.add_assoc]
  rw [unread, hf, Nat.zero_add]

theorem length_peers_le (n : Network) (port : UInt16) : (n.peers port).length - 1 ≤ n.unread := by
  have hl : ∀ l : List (UInt16 × List Peer),
      ((l.lookup port).getD []).length - 1 ≤ (l.map fun p => p.2.length - 1).sum := by
    intro l
    induction l with
    | nil => exact Nat.zero_le _
    | cons p rest ih =>
      obtain ⟨q, peers⟩ := p
      rw [List.lookup_cons, List.map_cons, List.sum_cons]
      split
      · exact Nat.le_add_right ..
      · omega
  rw [unread_eq]
  exact hl n.ports

theorem advance_eq_or_lt (peers : List Peer) :
    advance peers = peers ∨ (advance peers).length - 1 < peers.length - 1 := by
  match peers with
  | [] | [_] => exact .inl rfl
  | _ :: _ :: rest => exact .inr (Nat.lt_succ_self rest.length)

/-- An attempt uses up a peer, or changes nothing. -/
theorem afterAttempt_eq_or_lt (n : Network) (port : UInt16) :
    n.afterAttempt port = n ∨ (n.afterAttempt port).unread < n.unread := by
  let f (p : UInt16 × List Peer) := if p.1 = port then (p.1, advance p.2) else p
  have hf : ∀ p, f p = p ∨ (f p).2.length - 1 < p.2.length - 1 := by
    intro p
    unfold f
    split
    · rcases advance_eq_or_lt p.2 with ha | ha
      · exact .inl (by rw [ha])
      · exact .inr ha
    · exact .inl rfl
  have hl : ∀ l : List (UInt16 × List Peer), l.map f = l ∨
      ((l.map f).map fun p => p.2.length - 1).sum < (l.map fun p => p.2.length - 1).sum := by
    intro l
    induction l with
    | nil => exact .inl rfl
    | cons p rest ih =>
      simp only [List.map_cons, List.sum_cons]
      rcases hf p with hp | hp <;> rcases ih with ih | ih
      · exact .inl (by rw [hp, ih])
      · exact .inr (by rw [hp]; omega)
      · exact .inr (by rw [ih]; omega)
      · exact .inr (by omega)
  rw [unread_eq, unread_eq]
  rcases hl n.ports with h | h
  · left
    unfold afterAttempt
    rw [show n.ports.map _ = n.ports from h]
  · exact .inr h

theorem afterTrial_eq_or_lt (host : Url.Host) (n : Network) (port : UInt16) :
    afterTrial host n port = n ∨ (afterTrial host n port).unread < n.unread := by
  unfold afterTrial
  split
  · exact n.afterAttempt_eq_or_lt port
  · exact .inl rfl

theorem afterPass_eq_or_lt (host : Url.Host) (ports : List UInt16) (n : Network) :
    afterPass host ports n = n ∨ (afterPass host ports n).unread < n.unread := by
  induction ports generalizing n with
  | nil => exact .inl rfl
  | cons port rest ih =>
    change afterPass host rest (afterTrial host n port) = n ∨
      (afterPass host rest (afterTrial host n port)).unread < n.unread
    rcases afterTrial_eq_or_lt host n port with ht | ht
    · rw [ht]
      exact ih n
    · rcases ih (afterTrial host n port) with hp | hp
      · rw [hp]
        exact .inr ht
      · exact .inr (Nat.lt_trans hp ht)

/-- Once all ports only repeat themselves, so do the outcomes. -/
theorem outcome_of_unread (host : Url.Host) (port : UInt16) (h : n.unread ≤ k) :
    n.outcome host port k = n.outcome host port n.unread := by
  have hl := n.length_peers_le port
  unfold outcome met
  rw [Nat.min_eq_right (by omega), Nat.min_eq_right hl]

end Network

namespace Timed

variable {ε : Type} {w : World} {host : Url.Host} {port : UInt16}

/-- An attempt to connect comes to the outcome that is next. -/
theorem connect_apply (host : Url.Host) (port : UInt16) (w : World) :
    ∃ u : World, (connect host port : Timed ε Connection) w =
        .ok (w.network.outcome host port 0) u ∧
      u.now = w.now ∧ u.target = w.target ∧
      u.network = Network.afterTrial host w.network port ∧
      u.journal.toList.map Entry.call = w.journal.toList.map Entry.call ++
        if w.network.knows host then [.connect port] else [] := by
  unfold connect
  change ∃ u, (if w.network.knows host then _ else _ : Timed ε Connection) w = _ ∧ _
  unfold Network.outcome Network.afterTrial
  by_cases h : w.network.knows host
  · rw [if_pos h, if_pos h, if_pos h, if_pos h, ← Network.connection_eq]
    exact ⟨_, rfl, rfl, rfl, rfl, by simp⟩
  · rw [if_neg h, if_neg h, if_neg h, if_neg h]
    exact ⟨w, rfl, rfl, rfl, rfl, (List.append_nil _).symm⟩

end Timed

end Readiness
