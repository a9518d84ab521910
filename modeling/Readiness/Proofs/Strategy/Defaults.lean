import Readiness.Proofs.Action.Basic
import Readiness.Proofs.Text.Blank
import Readiness.Proofs.Text.Count
import Readiness.Strategy.Blueprint

/-! # Defaults from the environment

A new strategy takes its pace from two variables. `Environment.Counts` says which number a variable
counts as, if any, and `Environment.Reports` what is said about it. Both are defined by the grammar
of counts, and `Environment.strategy_defaults` ties them to the strategies that are built. -/

namespace Readiness

/-- The world with further lines in its log. -/
def World.logged (w : World) (lines : List (Level × String)) : World :=
  { w with log := w.log ++ lines }

theorem World.logged_append (w : World) (lines lines' : List (Level × String)) :
    w.logged (lines ++ lines') = (w.logged lines).logged lines' :=
  congrArg (fun log => { w with log }) List.foldl_append

namespace Environment

/-- The variable is set, and to a text. -/
def Holds (env : Environment) (name text : String) : Prop :=
  env.entries.lookup name = some text.toUTF8.data.toList

instance (env : Environment) (name text : String) : Decidable (env.Holds name text) :=
  inferInstanceAs (Decidable (_ = _))

/-- The variable counts as `n`, the white space around it apart. -/
def Counts (env : Environment) (name : String) (n : Nat) : Prop :=
  ∃ text core, env.Holds name text ∧ Unicode.Trimmed text.toList core ∧ Denotes core n

/-- The lines that are added to the log when the variable is read. -/
inductive Reports (env : Environment) (name : String) : List (Level × String) → Prop
  /-- Nothing is said of a variable that is not set or no text, and of one that counts. -/
  | silent : (∀ text, env.Holds name text → ∃ n, env.Counts name n) → Reports env name []
  | warned {text : String} {core : List Char} {fault : CountFault} : env.Holds name text →
    Unicode.Trimmed text.toList core → Faulty core fault → Reports env name
      [(.warn, "Ignoring invalid value '" ++ text ++ "' of " ++ name ++ ": " ++ fault.message)]

/-- The pace of a new strategy with the interval `usual`. -/
structure Paced (env : Environment) (usual : Duration) (pace : Pace) : Prop where
  timeout : ∀ n, env.Counts startupTimeoutName n → pace.timeout = .ofSecs n
  usualTimeout : (∀ n, ¬ env.Counts startupTimeoutName n) → pace.timeout = .ofSecs 60
  interval : ∀ n, env.Counts pollIntervalName n → 0 < n → pace.interval = .ofMillis n
  usualInterval : (∀ n, env.Counts pollIntervalName n → n = 0) → pace.interval = usual

variable {env : Environment} {name text : String} {usual : Duration} {pace : Pace} {n m : Nat}
  {ε : Type}

/-! ## Variables -/

theorem fromUTF8?_eq_some {bytes : ByteArray} :
    String.fromUTF8? bytes = some text ↔ bytes = text.toUTF8 := by
  rw [String.fromUTF8?, Option.dite_none_right_eq_some]
  constructor
  · rintro ⟨h, hs⟩
    cases hs
    rfl
  · rintro rfl
    exact ⟨text.isValidUTF8, rfl⟩

theorem value?_eq_some : env.value? name = some text ↔ env.Holds name text := by
  rw [value?, Option.bind_eq_some_iff, Holds]
  constructor
  · rintro ⟨bytes, hl, ht⟩
    rw [hl, ← fromUTF8?_eq_some.mp ht, List.toList_toArray]
  · intro hl
    refine ⟨_, hl, fromUTF8?_eq_some.mpr ?_⟩
    rw [Array.toArray_toList]

theorem counts_iff (ht : env.Holds name text) :
    env.Counts name n ↔ Denotes (Unicode.trim text.toList) n := by
  constructor
  · rintro ⟨text', core, ht', hc, hn⟩
    cases (value?_eq_some.mpr ht).symm.trans (value?_eq_some.mpr ht')
    rwa [hc.trim_eq]
  · exact fun hn => ⟨text, _, ht, Unicode.trimmed_trim _, hn⟩

/-- A variable does not count as two numbers. -/
theorem Counts.unique (hn : env.Counts name n) (hm : env.Counts name m) : n = m := by
  have ⟨text, _, ht, _⟩ := hn
  have hn := parseCount_eq_ok.mpr ((counts_iff ht).mp hn)
  have hm := parseCount_eq_ok.mpr ((counts_iff ht).mp hm)
  exact Except.ok.inj (hn.symm.trans hm)

theorem not_counts (hv : env.value? name = none) (n : Nat) : ¬ env.Counts name n := by
  rintro ⟨text, -, ht, -⟩
  cases hv.symm.trans (value?_eq_some.mpr ht)

/-- A variable is read as the number that it counts as. -/
theorem count?_apply (env : Environment) (name : String) (w : World) :
    ∃ count lines, (env.count? name : Timed ε (Option Nat)) w = .ok count (w.logged lines) ∧
      (∀ n, count = some n ↔ env.Counts name n) ∧ env.Reports name lines := by
  cases hv : env.value? name with
  | none =>
    refine ⟨none, [], ?_, fun n => iff_of_false nofun (not_counts hv n), .silent fun text ht => ?_⟩
    · rw [count?, hv]
      rfl
    · cases hv.symm.trans (value?_eq_some.mpr ht)
  | some text =>
    have ht := value?_eq_some.mp hv
    cases hp : parseCount (Unicode.trim text.toList) with
    | ok m =>
      have hm := (counts_iff ht).mpr (parseCount_eq_ok.mp hp)
      refine ⟨some m, [], ?_, fun n => ?_, .silent fun _ _ => ⟨m, hm⟩⟩
      · simp only [count?, hv, hp]
        rfl
      · rw [counts_iff ht, ← parseCount_eq_ok, hp, Option.some.injEq, Except.ok.injEq]
    | error fault =>
      refine ⟨none, _, ?_, fun n => ?_, .warned ht (Unicode.trimmed_trim _)
        (parseCount_eq_error.mp hp)⟩
      · simp only [count?, hv, hp]
        rfl
      · rw [counts_iff ht, ← parseCount_eq_ok, hp]
        exact iff_of_false nofun nofun

theorem millis?_eq_some {d : Duration} : env.millis? name = some d ↔
    ∃ text n, env.Holds name text ∧ Denotes text.toList n ∧ .ofMillis n = d := by
  simp only [millis?, Option.bind_eq_some_iff, Option.map_eq_some_iff, value?_eq_some,
    toOption_parseCount, exists_and_left]

/-! ## Paces -/

/-- The pace that is made of what the variables are read as. -/
theorem paced {secs millis : Option Nat} (hs : ∀ n, secs = some n ↔ env.Counts startupTimeoutName n)
    (hm : ∀ n, millis = some n ↔ env.Counts pollIntervalName n) :
    env.Paced usual {
      timeout := (secs.map Duration.ofSecs).getD defaultTimeout
      interval := ((millis.filter (0 < ·)).map Duration.ofMillis).getD usual } where
  timeout n hn := by
    rw [(hs n).mpr hn]
    rfl
  usualTimeout h := by
    rw [Option.eq_none_iff_forall_ne_some.mpr fun n hn => h n ((hs n).mp hn)]
    rfl
  interval n hn hpos := by
    rw [(hm n).mpr hn, Option.filter_some, if_pos (decide_eq_true hpos)]
    rfl
  usualInterval h := by
    cases millis with
    | none => rfl
    | some n =>
      rw [h n ((hm n).mp rfl)]
      rfl

theorem pace_apply (env : Environment) (usual : Duration) (w : World) :
    ∃ pace lines lines',
      (env.pace usual : Timed ε Pace) w = .ok pace (w.logged (lines ++ lines')) ∧
        env.Paced usual pace ∧ env.Reports startupTimeoutName lines ∧
        env.Reports pollIntervalName lines' := by
  obtain ⟨secs, lines, hs, hsecs, hr⟩ := count?_apply (ε := ε) env startupTimeoutName w
  obtain ⟨millis, lines', hm, hmillis, hr'⟩ :=
    count?_apply (ε := ε) env pollIntervalName (w.logged lines)
  refine ⟨_, lines, lines', ?_, paced hsecs hmillis, hr, hr'⟩
  rw [pace, Timed.bind_of_ok hs, Timed.bind_of_ok hm, World.logged_append]
  rfl

/-- An interval of no length is never taken from a variable. -/
theorem Paced.interval_pos (h : env.Paced usual pace) (hu : .zero < usual) :
    .zero < pace.interval := by
  by_cases hn : ∃ n, env.Counts pollIntervalName n ∧ 0 < n
  · obtain ⟨n, hc, hn⟩ := hn
    rw [h.interval n hc hn, Duration.lt_def]
    exact Nat.mul_pos hn (by decide)
  · rwa [h.usualInterval fun n hc => Nat.eq_zero_of_not_pos fun h => hn ⟨n, hc, h⟩]

end Environment

/-! ## Strategies -/

/-- How a strategy that is polled is put together, with its settings. -/
inductive Primitive
  | logMessage (settings : List LogMessage.Setting)
  | hostPort (settings : List HostPort.Setting)
  | http (path : String) (settings : List HttpProbe.Setting)
  | shell (settings : List ShellCommand.Setting)
  | healthcheck (settings : List Pace.Setting)

namespace Primitive

def blueprint : Primitive → Blueprint
  | .logMessage settings => .logMessage settings
  | .hostPort settings => .hostPort settings
  | .http path settings => .http path settings
  | .shell settings => .shell settings
  | .healthcheck settings => .healthcheck settings

def usualInterval : Primitive → Duration
  | .logMessage _ => LogMessage.usualInterval
  | .hostPort _ => HostPort.usualInterval
  | .http .. => HttpProbe.usualInterval
  | .shell _ => ShellCommand.usualInterval
  | .healthcheck _ => Healthcheck.usualInterval

/-- The strategy that starts with a pace and is then set up. -/
def strategy (pace : Pace) : Primitive → Strategy
  | .logMessage settings => .logMessage (settings.foldl LogMessage.apply { pace })
  | .hostPort settings => .hostPort (settings.foldl HostPort.apply { pace })
  | .http path settings => .http (settings.foldl HttpProbe.apply { path, pace })
  | .shell settings => .shell (settings.foldl ShellCommand.apply { pace })
  | .healthcheck settings => .healthcheck (settings.foldl Healthcheck.apply { pace })

theorem build_blueprint (p : Primitive) (env : Environment) :
    p.blueprint.build env = env.pace p.usualInterval >>= fun pace => pure (p.strategy pace) := by
  cases p <;> rfl

theorem usualInterval_pos (p : Primitive) : .zero < p.usualInterval := by
  cases p <;> exact of_decide_eq_true rfl

end Primitive

namespace Environment

/-- A strategy that is polled starts with the timeout and the interval that its variables count as,
and else with the usual ones. -/
theorem strategy_defaults (env : Environment) :
    (∀ (p : Primitive) (w : World), ∃ pace lines lines',
      p.blueprint.build env w = .ok (p.strategy pace) (w.logged (lines ++ lines')) ∧
        env.Paced p.usualInterval pace ∧ .zero < pace.interval ∧
        env.Reports startupTimeoutName lines ∧ env.Reports pollIntervalName lines') ∧
    ∀ (name : String) (w : World),
      (∀ text n, env.Holds name text → Denotes text.toList n →
        (Blueprint.millisVariable name).build env w = .ok (.duration (.ofMillis n)) w) ∧
      ((∀ text n, env.Holds name text → ¬ Denotes text.toList n) →
        (Blueprint.millisVariable name).build env w = .ok .nothing w) := by
  refine ⟨fun p w => ?_, fun name w => ⟨fun text n ht hn => ?_, fun h => ?_⟩⟩
  · obtain ⟨pace, lines, lines', hb, hp, hr, hr'⟩ := pace_apply env p.usualInterval w
    refine ⟨pace, lines, lines', ?_, hp, hp.interval_pos p.usualInterval_pos, hr, hr'⟩
    rw [p.build_blueprint, Timed.bind_of_ok hb]
    rfl
  · have hd := millis?_eq_some.mpr ⟨text, n, ht, hn, rfl⟩
    simp only [Blueprint.build, hd]
    rfl
  · have hd : env.millis? name = none := Option.eq_none_iff_forall_ne_some.mpr fun d hd => by
      obtain ⟨text, n, ht, hn, -⟩ := millis?_eq_some.mp hd
      exact h text n ht hn
    simp only [Blueprint.build, hd]
    rfl

/-- A timeout with white space around it, an interval of no length, and a pause with a sign. -/
def padded : Environment where
  entries := [(startupTimeoutName, "\u3000+0007\t".toUTF8.data.toList),
    (pollIntervalName, "0".toUTF8.data.toList), ("PAUSE", "+020".toUTF8.data.toList)]

theorem strategy_defaults_padded :
    padded.Counts startupTimeoutName 7 ∧ padded.Counts pollIntervalName 0 ∧
      (∃ (pace : Pace) (lines lines' : List (Level × String)),
        (Primitive.healthcheck []).blueprint.build padded {} =
            .ok (.healthcheck ⟨pace⟩) (({} : World).logged (lines ++ lines')) ∧
          pace = ⟨.ofSecs 7, .ofSecs 1⟩) ∧
      padded.Holds "PAUSE" "+020" ∧ Denotes "+020".toList 20 ∧
      (Blueprint.millisVariable "PAUSE").build padded {} = .ok (.duration (.ofMillis 20)) {} := by
  have hs : padded.Counts startupTimeoutName 7 := by
    have ht : padded.Holds startupTimeoutName "\u3000+0007\t" := by decide +kernel
    exact (counts_iff ht).mpr (parseCount_eq_ok.mp (by decide +kernel))
  have hm : padded.Counts pollIntervalName 0 := by
    have ht : padded.Holds pollIntervalName "0" := by decide +kernel
    exact (counts_iff ht).mpr (parseCount_eq_ok.mp (by decide +kernel))
  have hh : padded.Holds "PAUSE" "+020" := by decide +kernel
  have hd : Denotes "+020".toList 20 := parseCount_eq_ok.mp (by decide)
  obtain ⟨pace, lines, lines', hb, hp, -⟩ := (strategy_defaults padded).1 (.healthcheck []) {}
  refine ⟨hs, hm, ⟨pace, lines, lines', hb, ?_⟩, hh, hd,
    ((strategy_defaults padded).2 "PAUSE" {}).1 _ _ hh hd⟩
  exact congrArg₂ Pace.mk (hp.timeout 7 hs) (hp.usualInterval fun n hn => hn.unique hm)

end Environment

end Readiness
