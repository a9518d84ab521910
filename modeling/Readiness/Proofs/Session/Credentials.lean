import Readiness.Proofs.Http.Redaction
import Readiness.Proofs.Session.Disguise

/-! # Credentials are kept

Passwords and tokens are seen by nobody but the servers that receive them
(`Session.credentials_kept`): of two sessions that differ in nothing else, everything that is said,
answered and entered in the journal is the same, but for the authorization in the requests. -/

namespace Readiness

open Timed

/-! ## Strategies -/

theorem HttpProbe.describe_redacted (c : HttpProbe) : c.redacted.describe = c.describe := by
  have ha : Describe.option Http.Auth.describe c.redacted.auth =
      Describe.option Http.Auth.describe c.auth := by
    unfold HttpProbe.redacted
    cases c.auth with
    | none => rfl
    | some a => simp [Describe.option, a.describe_redacted]
  rw [describe, ha]
  rfl

namespace Strategy

mutual

/-- The strategy without its secrets. -/
def redacted : Strategy → Strategy
  | .http c => .http c.redacted
  | .wrapped wrapper inner => .wrapped wrapper (redacted inner)
  | .all mode timeout refused children => .all mode timeout refused (redactedEach children)
  | s => s

def redactedEach : List Strategy → List Strategy
  | [] => []
  | child :: rest => redacted child :: redactedEach rest

end

variable {ε : Type}

@[simp] theorem redacted_all (mode : Mode) (timeout : Duration)
    (refused : Option ConfigurationError) (children : List Strategy) :
    (all mode timeout refused children).redacted =
      all mode timeout refused (children.map redacted) := by
  have hm : ∀ l : List Strategy, redactedEach l = l.map redacted := by
    intro l
    induction l with
    | nil => rfl
    | cons child rest ih => rw [redactedEach, ih, List.map_cons]
  rw [redacted, hm]

theorem redacted_faithful : Faithful redacted where
  kind c := by cases c <;> rfl
  startupTimeout c := by cases c <;> rfl
  setTimeout d c := by cases c <;> simp [Polled.strategy, setTimeout, redacted, HttpProbe.redacted]
  nothing := rfl
  duration _ := rfl
  custom _ := rfl
  wrapped := .inl fun _ _ => rfl
  all := redacted_all

theorem describe_redacted (s : Strategy) : s.redacted.describe = s.describe := by
  induction s using tree with
  | polled c =>
    cases c with
    | http c => exact c.describe_redacted
    | logMessage _ | hostPort _ | shell _ | healthcheck _ => rfl
  | nothing | duration _ | custom _ => rfl
  | wrapped wrapper inner ih =>
    cases wrapper with
    | box => simpa [redacted, describe] using ih
    | condition => simp [redacted, describe, ih]
  | all mode timeout refused children ih =>
    have hd : ∀ l : List Strategy, (∀ c ∈ l, c.redacted.describe = c.describe) →
        describeEach (l.map redacted) = describeEach l := by
      intro l hl
      induction l with
      | nil => rfl
      | cons child rest ihl =>
        rw [List.map_cons, describeEach, describeEach, hl child List.mem_cons_self,
          ihl fun c h => hl c (List.mem_cons_of_mem _ h)]
    simp [describe, hd children ih]

theorem toCondition_redacted (s : Strategy) : s.redacted.toCondition = s.toCondition.redacted := by
  cases s <;> simp [redacted, toCondition]

theorem add_redacted (child s : Strategy) :
    (add child.redacted s.redacted : Timed ε _) = redacted <$> add child s := by
  cases s with
  | all mode timeout refused children =>
    exact redacted_faithful.add_all child mode timeout refused children
  | _ => simp [add, redacted]

/-- The strategies differ at most in the secrets of probes, wherever these are. -/
def Resembles : Strategy → Strategy → Prop :=
  Replaced fun s s' => ∃ (c : HttpProbe) (a a' : Http.Auth), a.Resembles a' ∧
    s = .http { c with auth := some a } ∧ s' = .http { c with auth := some a' }

theorem Resembles.redacted_eq {s s' : Strategy} (h : s.Resembles s') :
    s.redacted = s'.redacted := by
  refine redacted_faithful.eq_of_replaced ?_ h
  rintro _ _ ⟨c, a, a', ha, rfl, rfl⟩
  simp only [redacted, HttpProbe.redacted, Option.map_some, ha.redacted_eq]

end Strategy

/-! ## Blueprints -/

/-- The setting without its secret. -/
def HttpProbe.Setting.redacted : HttpProbe.Setting → HttpProbe.Setting
  | .auth a => .auth a.redacted
  | setting => setting

/-- The settings are the same, or credentials that differ at most in their secrets. -/
inductive HttpProbe.Setting.Resembles : HttpProbe.Setting → HttpProbe.Setting → Prop
  | refl (setting : HttpProbe.Setting) : Resembles setting setting
  | auth {a a' : Http.Auth} : a.Resembles a' → Resembles (.auth a) (.auth a')

theorem HttpProbe.apply_redacted (c : HttpProbe) (setting : HttpProbe.Setting) :
    c.redacted.apply setting.redacted = (c.apply setting).redacted := by
  cases setting <;> rfl

theorem HttpProbe.foldl_redacted (settings : List HttpProbe.Setting) (c : HttpProbe) :
    (settings.map HttpProbe.Setting.redacted).foldl HttpProbe.apply c.redacted =
      (settings.foldl HttpProbe.apply c).redacted := by
  induction settings generalizing c with
  | nil => rfl
  | cons setting rest ih => rw [List.map_cons, List.foldl_cons, apply_redacted, ih, List.foldl_cons]

namespace Blueprint

/-- The blueprint without its secrets. -/
def redacted : Blueprint → Blueprint
  | .http path settings => .http path (settings.map HttpProbe.Setting.redacted)
  | .condition inner => .condition inner.redacted
  | .add parent child => .add parent.redacted child.redacted
  | .timeout parent d => .timeout parent.redacted d
  | b => b

/-- The blueprints differ at most in the secrets of probes, wherever these are. -/
inductive Resembles : Blueprint → Blueprint → Prop
  | refl (b : Blueprint) : Resembles b b
  | http {settings settings' : List HttpProbe.Setting} (path : String) :
    List.Forall₂ HttpProbe.Setting.Resembles settings settings' →
    Resembles (.http path settings) (.http path settings')
  | condition {b b' : Blueprint} : Resembles b b' → Resembles (.condition b) (.condition b')
  | add {parent parent' child child' : Blueprint} : Resembles parent parent' →
    Resembles child child' → Resembles (.add parent child) (.add parent' child')
  | timeout {b b' : Blueprint} (d : Duration) : Resembles b b' →
    Resembles (.timeout b d) (.timeout b' d)

theorem Resembles.redacted_eq {b b' : Blueprint} (h : b.Resembles b') :
    b.redacted = b'.redacted := by
  induction h with
  | refl => rfl
  | http path hs =>
    have he : ∀ s s' : HttpProbe.Setting, s.Resembles s' → s.redacted = s'.redacted := by
      rintro _ _ (_ | ha)
      · rfl
      · rw [HttpProbe.Setting.redacted, HttpProbe.Setting.redacted, ha.redacted_eq]
    rw [redacted, redacted]
    congr 1
    induction hs with
    | nil => rfl
    | cons h _ ih => rw [List.map_cons, List.map_cons, he _ _ h, ih]
  | condition _ ih => rw [redacted, redacted, ih]
  | add _ _ ihp ihc => rw [redacted, redacted, ihp, ihc]
  | timeout d _ ih => rw [redacted, redacted, ih]

theorem build_redacted (env : Environment) (b : Blueprint) :
    b.redacted.build env = Strategy.redacted <$> b.build env := by
  induction b with
  | http path settings =>
    have hs : ∀ pace,
        (settings.map HttpProbe.Setting.redacted).foldl HttpProbe.apply { path, pace } =
          (settings.foldl HttpProbe.apply { path, pace }).redacted :=
      fun pace => HttpProbe.foldl_redacted settings { path, pace }
    simp [redacted, build, hs, Strategy.redacted]
  | condition inner ih => simp [redacted, build, ih, Strategy.toCondition_redacted]
  | add parent child ihp ihc => simp [redacted, build, ihp, ihc, Strategy.add_redacted]
  | timeout parent d ih =>
    simp only [redacted, build, ih, Strategy.redacted_faithful.setTimeout_eq, bind_map_left,
      map_bind]
    congr 1
    funext s
    congr 1
    funext ⟨s, refusal⟩
    cases refusal with
    | none => simp
    | some cause => rfl
  | composite mode => simp [redacted, build, Strategy.composite]
  | millisVariable name =>
    rw [show (millisVariable name).redacted = millisVariable name from rfl, build]
    cases env.millis? name <;> simp [Strategy.redacted]
  | logMessage _ | hostPort _ | shell _ | healthcheck _ | nothing | duration _ | custom _ =>
    simp [redacted, build, Strategy.redacted]

end Blueprint

/-! ## Sessions -/

/-- The traces without the authorization that servers have received. -/
def Traces.redacted (t : Traces) : Traces := { t with calls := t.calls.map Entry.redacted }

theorem Strategy.redacted_disguise :
    Disguise World.Resembles (Prod.map id Traces.redacted : Answer × Traces → _) redacted where
  shifted := World.resembles_shifted
  clean h := ⟨h.now_eq, h.target_eq, h.network_eq, rfl, rfl⟩
  traces := by
    intro w v h answer started
    have ht : Traces.redacted (.since started v) = Traces.redacted (.since started w) := by
      have hj := congrArg Array.toList h.journal_eq
      rw [Array.toList_map, Array.toList_map] at hj
      have hc := congrArg (List.map fun e : Entry => { e with time := e.time - started }) hj
      rw [List.map_map, List.map_map] at hc
      simp only [Traces.redacted, Traces.since, List.map_map, h.log_eq]
      exact congrArg (Traces.mk · _) hc
    rw [Prod.map_apply, Prod.map_apply, ht]
  describe s t := by rw [s.describe_redacted]
  faithful := redacted_faithful
  polled c := by
    cases c with
    | http c => exact c.wait_redacted
    | logMessage _ | hostPort _ | shell _ | healthcheck _ =>
      exact wait_shifted World.resembles_shifted _

namespace Session

theorem start_kept {b b' : Blueprint} (h : b.Resembles b') (env : Environment) (w : World)
    (steps : List Step) :
    (start env b w).2 = (start env b' w).2 ∧
      (start env b w).1.map (fun s => (s.run steps).map (Prod.map id Traces.redacted)) =
        (start env b' w).1.map fun s => (s.run steps).map (Prod.map id Traces.redacted) := by
  have hb : Strategy.redacted <$> b.build env = Strategy.redacted <$> b'.build env := by
    rw [← Blueprint.build_redacted, ← Blueprint.build_redacted, h.redacted_eq]
  unfold start
  rcases cases_of_map_eq hb (clean w) with ⟨s, s', v, hs, hs', he⟩ | ⟨e, v, hs, hs'⟩
  · rw [hs, hs']
    exact ⟨rfl, congrArg Except.ok (Strategy.redacted_disguise.run_eq (.refl v) he steps)⟩
  · rw [hs, hs']
    exact ⟨rfl, rfl⟩

/-- Two sessions that differ in nothing but the secrets of probes, each of which can be sent in both
of them or in neither, are put together with the same traces or give up for the same reason; and
whatever is done with them, the same comes of it and is seen of it, but for the authorization in the
requests that servers receive. -/
theorem credentials_kept (env : Environment) (w : World) (steps : List Step) :
    (∀ b b' : Blueprint, b.Resembles b' →
      (start env b w).2 = (start env b' w).2 ∧
        (start env b w).1.map (fun s => (s.run steps).map (Prod.map id Traces.redacted)) =
          (start env b' w).1.map fun s => (s.run steps).map (Prod.map id Traces.redacted)) ∧
    ∀ s s' : Strategy, s.Resembles s' →
      (run ⟨s, w⟩ steps).map (Prod.map id Traces.redacted) =
        (run ⟨s', w⟩ steps).map (Prod.map id Traces.redacted) :=
  ⟨fun _ _ h => start_kept h env w steps,
    fun _ _ h => Strategy.redacted_disguise.run_eq (.refl w) h.redacted_eq steps⟩

/-- Two probes that send different tokens, from inside of a composite. -/
theorem credentials_kept_nested :
    let blueprint (token : String) : Blueprint :=
      .add (.composite .outer) (.condition (.http "/" [.port 80, .auth (.bearer token)]))
    let w : World := {
      target := { mappings := [(80, some { answer := .ok 9000 })] }
      network := { ports := [(9000, [.listens { reaction := .answers {} 0 false }])] } }
    let transcript (token : String) := (start {} (blueprint token) w).1.map fun s =>
      (s.run [.describe, .setStartupTimeout (.ofSecs 1), .wait]).map (Prod.map id Traces.redacted)
    (blueprint "s3cr3t").Resembles (blueprint "hunter2") ∧ (transcript "s3cr3t").isOk ∧
      transcript "s3cr3t" = transcript "hunter2" := by
  intro blueprint w transcript
  have ht : (Http.HeaderValue.secret? "s3cr3t").isSome =
      (Http.HeaderValue.secret? "hunter2").isSome := by
    rw [Http.isSome_secret?, Http.isSome_secret?]
    decide +kernel
  have h : (blueprint "s3cr3t").Resembles (blueprint "hunter2") :=
    .add (.refl _) (.condition (.http "/" (.cons (.refl _) (.cons (.auth (.bearer ht)) .nil))))
  exact ⟨h, rfl, ((credentials_kept {} w _).1 _ _ h).2⟩

end Session

end Readiness
