import QueryTuning.Proofs.Analysis.Steps
import QueryTuning.Proofs.Number.Grid
import QueryTuning.Settings.Sources

/-!
# The configured time limit

The settings hold the time for a round trip in seconds, the options of an analysis in whole
milliseconds, and zero stands for no limit in both. The conversion rounds the product to the
format and cuts it off, so a time below a millisecond is taken for none, and a time whose
milliseconds are beyond the format cannot be converted. All other times lead to options that
are accepted, and to the same limit in an analysis and in the other services.
-/

set_option autoImplicit false

namespace QueryTuning

namespace Settings

structure Admitted (s : Settings) : Prop where
  timeout : s.commandTimeoutSeconds.lt .zero = false
  iterations : 1 ≤ s.benchmarkIterations
  warmup : 0 ≤ s.warmupIterations
  recommendations : 1 ≤ s.maxRecommendations

theorem read_ok {α : Type} {P : α → Prop} {sources : Sources} {name : String}
    {convert : Document → Except SettingFault α} {default x : α}
    (hconvert : ∀ d y, convert d = .ok y → P y) (hdefault : P default)
    (h : sources.read name convert default = .ok x) : P x := by
  unfold Sources.read at h
  split at h
  · cases h
    exact hdefault
  next d _ => exact hconvert d x h

theorem integerFrom_ok {minimum n : Int} {d : Document} (h : Field.integerFrom minimum d = .ok n) :
    minimum ≤ n := by
  unfold Field.integerFrom at h
  cases hd : Field.toInteger d with
  | error fault =>
    rw [hd] at h
    cases h
  | ok m =>
    rw [hd] at h
    change (if m < minimum then _ else _) = _ at h
    split at h
    · cases h
    next hle =>
      cases h
      exact not_lt.mp hle

theorem realFromZero_ok {x : Binary64} {d : Document} (h : Field.realFromZero d = .ok x) :
    x.lt .zero = false := by
  unfold Field.realFromZero at h
  cases hd : Field.toReal d with
  | error fault =>
    rw [hd] at h
    cases h
  | ok y =>
    rw [hd] at h
    change (if y.lt .zero then _ else _) = _ at h
    split at h
    · cases h
    next hle =>
      cases h
      exact Bool.not_eq_true _ ▸ hle

theorem admitted_of_load {sources : Sources} {s : Settings} (h : load sources = .ok s) :
    s.Admitted := by
  unfold load at h
  dsimp only at h
  split at h
  next htimeout _ hiterations hwarmup hrecommendations _ _ =>
    cases h
    exact {
      timeout :=
        read_ok (P := fun x => x.lt .zero = false) (fun _ _ => realFromZero_ok) rfl htimeout
      iterations := read_ok (P := (1 ≤ ·)) (fun _ _ => integerFrom_ok) (by decide) hiterations
      warmup := read_ok (P := (0 ≤ ·)) (fun _ _ => integerFrom_ok) (by decide) hwarmup
      recommendations :=
        read_ok (P := (1 ≤ ·)) (fun _ _ => integerFrom_ok) (by decide) hrecommendations }
  · cases h

def milliseconds (s : Settings) : Binary64 := s.commandTimeoutSeconds.mul (.finite 1000)

theorem commandTimeoutMs_eq (s : Settings) : s.commandTimeoutMs = s.milliseconds.truncate := rfl

end Settings

namespace Binary64

theorem isSize_zero : IsSize 0 := ⟨le_rfl, twoPower_pos _, onGrid_zero⟩

/-- A thousand times a number that is not negative: beyond the format, or a size. -/
theorem mul_thousand {t : Binary64} (hnumber : t ≠ nan) (h : t.lt .zero = false) :
    t.mul (.finite 1000) = .infinite false ∨
      ∃ size, (t.mul (.finite 1000)).toRat? = some size ∧ IsSize size := by
  cases t with
  | nan => exact absurd rfl hnumber
  | infinite negative =>
    cases negative with
    | false => exact Or.inl (by decide +kernel)
    | true => cases h
  | negativeZero => exact Or.inr ⟨0, by decide +kernel, isSize_zero⟩
  | finite x =>
    have hx : 0 ≤ x := not_lt.mp (of_decide_eq_false h)
    rcases hx.eq_or_lt with rfl | hpos
    · exact Or.inr ⟨0, by decide +kernel, isSize_zero⟩
    · have hproduct : (finite x).mul (.finite 1000) = ofRat (x * 1000) := by
        simp [mul, toRat?, hpos.ne']
      rw [hproduct]
      rcases ofRat_cases (show 0 ≤ x * 1000 by positivity) with hinfinite | ⟨size, hsize, his⟩
      · exact Or.inl hinfinite
      · exact Or.inr ⟨size, by rw [hsize]; rfl, his⟩

theorem mul_thousand_zero {t : Binary64} (h : t.isZero = true) :
    (t.mul (.finite 1000)).toRat? = some 0 := by
  cases t with
  | nan => cases h
  | infinite negative => cases h
  | negativeZero => decide +kernel
  | finite x =>
    have hx : x = 0 := by simpa [isZero, toRat?] using h
    rw [hx]
    decide +kernel

variable {x : Binary64} {size : Rat}

theorem truncate_of_toRat (h : x.toRat? = some size) (hs : IsSize size) :
    x.truncate = .ok size.floor := by
  cases x with
  | nan => cases h
  | infinite negative => cases h
  | negativeZero =>
    cases h
    rfl
  | finite value =>
    cases h
    exact truncate_finite hs.nonneg

theorem lt_one_iff (h : x.toRat? = some size) : x.lt (.finite 1) = true ↔ size < 1 := by
  cases x with
  | nan => cases h
  | infinite negative => cases h
  | negativeZero =>
    cases h
    decide +kernel
  | finite value =>
    cases h
    exact decide_eq_true_iff

end Binary64

theorem TimeLimit.ofMilliseconds_floor {size : Rat} (hs : Binary64.IsSize size) :
    ∃ limit, ofMilliseconds size.floor = .ok limit ∧ (limit = none ↔ size < 1) := by
  have hbelow : size.floor ≤ 0 ↔ size < 1 := by
    rw [← not_le, ← Int.cast_one, ← Rat.le_floor_iff]
    omega
  unfold ofMilliseconds
  split
  next h => exact ⟨none, rfl, iff_of_true rfl (hbelow.mp h)⟩
  next h =>
    obtain ⟨y, hy⟩ := hs.ofInt_floor
    rw [hy]
    exact ⟨_, rfl, iff_of_false (by rintro ⟨⟩) (hbelow.not.mp h)⟩

namespace Analyzer

/-- The settings lead to options that are accepted, and to one limit for an analysis with
these options and for the other services. -/
structure RunsUnder (a : Analyzer) (options : Analysis.Options) (limit : TimeLimit) : Prop where
  derived : a.settings.analysisOptions = .ok options
  accepted : options.validate = .ok ()
  analysis (query : String) (connection : Option String) (given : Option Analysis.Options)
    (h : given = none ∨ given = some options) :
    a.analyze query connection given =
      Task.ofInput (acceptQuery query "query") >>= fun _ =>
        Task.ofInput (a.connectionFor connection) >>= fun target =>
          Task.reporting
            (Task.inSession target limit (Analysis.pipeline a.dialect options query limit))
            "Analysis cancelled" "Analysis failed: "
  services : a.defaultLimit = .ok limit

def OnlyZeroLifts (a : Analyzer) : Prop :=
  ∃ options limit, a.RunsUnder options limit ∧
    (limit = none ↔ a.settings.commandTimeoutSeconds.isZero = true)

variable {a : Analyzer}

theorem RunsUnder.limit_unique {o o' : Analysis.Options} {limit limit' : TimeLimit}
    (h : a.RunsUnder o limit) (h' : a.RunsUnder o' limit') : limit = limit' :=
  Except.ok.inj (h.services.symm.trans h'.services)

theorem runsUnder {n : Int} {limit : TimeLimit} (hs : a.settings.Admitted)
    (htruncate : a.settings.milliseconds.truncate = .ok n) (hn : 0 ≤ n)
    (hlimit : TimeLimit.ofMilliseconds n = .ok limit) :
    ∃ options, a.RunsUnder options limit := by
  let options : Analysis.Options := {
    maxExecutionTimeMs := n
    maxRecommendations := a.settings.maxRecommendations
    comparisonIterations := a.settings.benchmarkIterations
    comparisonWarmup := a.settings.warmupIterations }
  have hderived : a.settings.analysisOptions = .ok options := by
    unfold Settings.analysisOptions
    rw [Settings.commandTimeoutMs_eq, htruncate]
    rfl
  have haccepted : options.validate = .ok () := by
    have hrecommendations := hs.recommendations
    have hiterations := hs.iterations
    have hwarmup := hs.warmup
    unfold Analysis.Options.validate
    rw [if_neg (by simp [options]; omega), if_neg (by simp [options]; omega),
      if_neg (by simp [options]; omega), if_neg (by simp [options]; omega)]
  refine ⟨options, hderived, haccepted, ?_, ?_⟩
  · intro query connection given hgiven
    have hoptions : a.optionsFor given = .ok options := by
      rcases hgiven with rfl | rfl
      · exact hderived
      · rfl
    rw [analyze_eq, hoptions]
    change (Task.ofInput (acceptQuery query "query") >>= fun _ =>
      Task.ofInput options.validate >>= fun _ =>
        Task.ofInput (a.connectionFor connection) >>= fun target =>
          Task.ofValue (TimeLimit.ofMilliseconds n) >>= fun limit => _) = _
    rw [haccepted, hlimit]
    rfl
  · unfold defaultLimit
    rw [Settings.commandTimeoutMs_eq, htruncate]
    exact hlimit

theorem stopped_by_fault {fault : ValueFault}
    (h : a.settings.milliseconds.truncate = .error fault) :
    a.settings.analysisOptions = .error fault ∧ a.defaultLimit = .error fault := by
  unfold Settings.analysisOptions defaultLimit
  rw [Settings.commandTimeoutMs_eq, h]
  exact ⟨rfl, rfl⟩

theorem exists_limit (hs : a.settings.Admitted)
    (hnumber : a.settings.commandTimeoutSeconds ≠ .nan)
    (hfinite : a.settings.milliseconds ≠ .infinite false) :
    ∃ options limit, a.RunsUnder options limit ∧
      (limit = none ↔ a.settings.milliseconds.lt (.finite 1) = true) := by
  rcases Binary64.mul_thousand hnumber hs.timeout with hinfinite | ⟨size, hsize, his⟩
  · exact absurd hinfinite hfinite
  · obtain ⟨limit, hlimit, hnone⟩ := TimeLimit.ofMilliseconds_floor his
    obtain ⟨options, hruns⟩ := runsUnder hs (Binary64.truncate_of_toRat hsize his)
      (Rat.le_floor_iff.mpr his.nonneg) hlimit
    exact ⟨options, limit, hruns, hnone.trans (Binary64.lt_one_iff hsize).symm⟩

/-- Which times are limits. Beyond the format there are neither options nor a limit; else there
is one limit, and it is lifted below one millisecond. So zero, and only zero, lifts it exactly
if the time is zero, or at least a millisecond and not beyond the format. -/
theorem configured_limit (a : Analyzer) (sources : Settings.Sources)
    (hload : Settings.load sources = .ok a.settings)
    (hnumber : a.settings.commandTimeoutSeconds ≠ .nan) :
    (a.settings.milliseconds = .infinite false →
      a.settings.analysisOptions = .error .infiniteInteger ∧
        a.defaultLimit = .error .infiniteInteger) ∧
    (a.settings.milliseconds ≠ .infinite false →
      ∃ options limit, a.RunsUnder options limit ∧
        (limit = none ↔ a.settings.milliseconds.lt (.finite 1) = true)) ∧
    (a.OnlyZeroLifts ↔
      a.settings.commandTimeoutSeconds.isZero = true ∨
        a.settings.milliseconds ≠ .infinite false ∧
          a.settings.milliseconds.lt (.finite 1) = false) := by
  have hs := Settings.admitted_of_load hload
  have hbeyond (h : a.settings.milliseconds = .infinite false) :
      a.settings.analysisOptions = .error .infiniteInteger ∧
        a.defaultLimit = .error .infiniteInteger :=
    stopped_by_fault (by rw [h]; rfl)
  have hzero (h : a.settings.commandTimeoutSeconds.isZero = true) :
      a.settings.milliseconds ≠ .infinite false ∧
        a.settings.milliseconds.lt (.finite 1) = true := by
    have hproduct := Binary64.mul_thousand_zero h
    refine ⟨fun he => ?_, (Binary64.lt_one_iff hproduct).mpr zero_lt_one⟩
    rw [← Settings.milliseconds, he] at hproduct
    cases hproduct
  refine ⟨hbeyond, exists_limit hs hnumber, ?_, ?_⟩
  · rintro ⟨o, l, hruns, hlifts⟩
    have hfinite (h : a.settings.milliseconds = .infinite false) : False := by
      have := hruns.services.symm.trans (hbeyond h).2
      cases this
    obtain ⟨o', l', hruns', hnone⟩ := exists_limit hs hnumber hfinite
    rw [hruns.limit_unique hruns', hnone] at hlifts
    cases hlt : a.settings.milliseconds.lt (.finite 1) with
    | true => exact Or.inl (hlifts.mp hlt)
    | false => exact Or.inr ⟨hfinite, rfl⟩
  · intro h
    have hfinite : a.settings.milliseconds ≠ .infinite false :=
      h.elim (fun h => (hzero h).1) And.left
    obtain ⟨o, l, hruns, hnone⟩ := exists_limit hs hnumber hfinite
    refine ⟨o, l, hruns, hnone.trans ?_⟩
    rcases h with h | ⟨-, hlt⟩
    · exact iff_of_true (hzero h).2 h
    · refine iff_of_false (by rw [hlt]; exact Bool.false_ne_true) fun h => ?_
      rw [(hzero h).2] at hlt
      cases hlt

def timed (seconds : Binary64) : Settings.Sources :=
  { given := [("command_timeout_seconds", .real seconds)] }

theorem quarter_second_is_limit :
    Settings.load (timed (.finite (1 / 4))) =
        .ok { commandTimeoutSeconds := .finite (1 / 4) } ∧
      OnlyZeroLifts ⟨{ commandTimeoutSeconds := .finite (1 / 4) }, .permissive⟩ := by
  have hload : Settings.load (timed (.finite (1 / 4))) =
      .ok { commandTimeoutSeconds := .finite (1 / 4) } := by decide +kernel
  have hlimit := configured_limit ⟨_, .permissive⟩ _ hload (by rintro ⟨⟩)
  exact ⟨hload, hlimit.2.2.mpr (Or.inr (by decide +kernel))⟩

/-- Half a millisecond or less is not zero, and yet it lifts the limit. -/
theorem short_time_lifts_limit :
    ∃ a : Analyzer, Settings.load (timed (.finite (1 / 2048))) = .ok a.settings ∧
      a.settings.commandTimeoutSeconds.isZero = false ∧ a.defaultLimit = .ok none ∧
      ¬ a.OnlyZeroLifts := by
  let a : Analyzer := ⟨{ commandTimeoutSeconds := .finite (1 / 2048) }, .permissive⟩
  have hzero : a.settings.commandTimeoutSeconds.isZero = false := by decide +kernel
  have hnone : a.defaultLimit = .ok none := by decide +kernel
  refine ⟨a, by decide +kernel, hzero, hnone, ?_⟩
  rintro ⟨options, limit, hruns, hlifts⟩
  have hlimit : limit = none := Except.ok.inj (hruns.services.symm.trans hnone)
  rw [hlifts.mp hlimit] at hzero
  cases hzero

end Analyzer

end QueryTuning
