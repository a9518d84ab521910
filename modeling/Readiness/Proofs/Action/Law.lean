import Readiness.Poll
import Readiness.Proofs.Action.Basic

/-! # Laws of actions

`Timed.Law P` says that the actions that all waiting is made of have the property `P`, and that `P`
is kept when actions are put together. A law then holds of every question to the target and (in the
modules that import this one) of every set-up and every attempt. If it also allows for reading the
clock (`Timed.Law.Clocked`), it holds of every poll whose attempts obey it, and of every wait.

A `Timed.PartialLaw` need not hold of the question for the exposed ports. It still holds of every
attempt, since attempts do not ask for them. -/

namespace Readiness.Timed

/-- A property of actions that is kept by composition and that the smallest actions have, as far as
these have nothing to do with exposed ports. -/
structure PartialLaw (P : ∀ {ε α : Type}, Timed ε α → Prop) : Prop where
  pure : ∀ {ε α : Type} (a : α), P (pure a : Timed ε α)
  throw : ∀ {ε α : Type} (e : ε), P (throw e : Timed ε α)
  bind : ∀ {ε α β : Type} {x : Timed ε α} {f : α → Timed ε β}, P x → (∀ a, P (f a)) → P (x >>= f)
  outcome : ∀ {ε δ α : Type} {x : Timed ε α}, P x → P (x.outcome : Timed δ (Except ε α))
  mapError : ∀ {ε δ α : Type} {x : Timed ε α} (f : ε → δ), P x → P (x.mapError f)
  pause : ∀ {ε : Type} (d : Duration), P (Timed.pause d : Timed ε Unit)
  record : ∀ {ε : Type} (call : Call), P (Timed.record call : Timed ε Unit)
  note : ∀ {ε : Type} (level : Level) (text : String), P (Timed.note level text : Timed ε Unit)
  ask : ∀ {α : Type} (call : Call) (next : Target → Reply α × Target),
    (∀ t exposed, next { t with exposed } = ((next t).1, { (next t).2 with exposed })) →
    P (Query.ask call next)
  attempted : ∀ {ε : Type} (port : UInt16),
    P (modify fun w => { w with network := w.network.afterAttempt port } : Timed ε Unit)
  /-- The rest of the target and the network may be read. -/
  reading : ∀ {ε α : Type} {f : World → Timed ε α}, (∀ w, P (f w)) →
    (∀ w now exposed journal log,
      f { w with now, target := { w.target with exposed }, journal, log } = f w) → P (get >>= f)

/-- A property of actions that the smallest actions have and that is kept by composition. -/
structure Law (P : ∀ {ε α : Type}, Timed ε α → Prop) : Prop extends PartialLaw P where
  exposedPorts : P Query.exposedPorts

/-- A law of actions that may read everything in a world but its log. -/
structure Law.Clocked (P : ∀ {ε α : Type}, Timed ε α → Prop) : Prop extends Law P where
  clock : ∀ {ε α : Type} {f : World → Timed ε α}, (∀ w, P (f w)) →
    (∀ w log, f { w with log } = f w) → P (get >>= f)

namespace PartialLaw

variable {P : ∀ {ε α : Type}, Timed ε α → Prop} {ε α : Type} (L : PartialLaw P)
include L

theorem targetId : P (Timed.targetId : Timed ε String) :=
  L.reading (f := fun w => Pure.pure w.target.id) (fun _ => L.pure _) fun _ _ _ _ _ => rfl

theorem reader : P (Timed.reader : Timed ε Http.Reader) :=
  L.reading (f := fun w => Pure.pure w.network.reader) (fun _ => L.pure _) fun _ _ _ _ _ => rfl

theorem connect (host : Url.Host) (port : UInt16) :
    P (Timed.connect host port : Timed ε Connection) := by
  refine L.reading (f := _) (fun w => ?_) fun _ _ _ _ _ => rfl
  split
  · exact L.bind (L.record _) fun _ => L.bind (L.attempted port) fun _ => L.pure _
  · exact L.pure _

/-! ## Questions -/

theorem host : P Query.host := L.ask _ _ fun _ _ => rfl

theorem isHealthy : P Query.isHealthy := L.ask _ _ fun _ _ => rfl

theorem mappedPort (port : UInt16) : P (Query.mappedPort port) := L.ask _ _ fun _ _ => rfl

theorem logs : P Query.logs := L.ask _ _ fun _ _ => rfl

theorem exec (command : List String) : P (Query.exec command) := by
  refine L.reading (f := _) (fun w => ?_) fun _ _ _ _ _ => rfl
  dsimp only
  split
  · exact L.ask _ _ fun _ _ => rfl
  · exact L.bind (L.note ..) fun _ => L.throw _

theorem mappedPorts (ports : List UInt16) (found : Ascending) :
    P (Query.mappedPorts ports found) := by
  induction ports generalizing found with
  | nil => exact L.pure _
  | cons port rest ih => exact L.bind (L.mappedPort port) fun _ => ih _

/-! ## Waits -/

theorem fail (e : WaitError) : P (Wait.fail e : Wait α) := L.throw _

theorem require {q : Query α} (hq : P q) : P (Wait.require q) := L.mapError _ hq

theorem say (level : Level) (text : String) : P (Wait.say level text) :=
  L.bind L.targetId fun _ => L.note ..

end PartialLaw

theorem Law.livenessCheckPorts {P : ∀ {ε α : Type}, Timed ε α → Prop} (L : Law P) :
    P Query.livenessCheckPorts :=
  L.bind L.exposedPorts fun _ => L.mappedPorts ..

/-! ## Polls -/

namespace Law.Clocked

variable {P : ∀ {ε α : Type}, Timed ε α → Prop} {ε σ : Type} (L : Clocked P)
include L

theorem now : P (Timed.now : Timed ε Nat) :=
  L.clock (f := fun w => Pure.pure w.now) (fun _ => L.pure _) fun _ _ => rfl

theorem retry (p : Poll) (started misses : Nat) (detail : String) :
    P (p.retry started misses detail) := by
  refine L.bind L.now fun now => ?_
  dsimp only
  split
  · exact L.bind (L.note ..) fun _ => L.fail _
  · exact L.bind (L.note ..) fun _ => L.bind (L.note ..) fun _ => L.pause _

theorem rounds (p : Poll) {attempt : σ → Wait (Attempt σ)} (ha : ∀ m, P (attempt m))
    (started n misses : Nat) (memory : σ) : P (p.rounds started attempt n misses memory) := by
  induction n generalizing misses memory with
  | zero => exact L.throw _
  | succ n ih =>
    refine L.bind (ha memory) fun r => ?_
    cases r with
    | ready => exact L.pure _
    | missed memory detail => exact L.bind (L.retry ..) fun _ => ih ..

theorem run (p : Poll) {attempt : σ → Wait (Attempt σ)} (ha : ∀ m, P (attempt m)) (memory : σ) :
    P (p.run attempt memory) :=
  L.clock (fun _ => L.rounds p ha ..) fun _ _ => rfl

end Law.Clocked

end Readiness.Timed
