import QueryTuning.Proofs.Analysis.Lifecycle
import QueryTuning.Proofs.Analysis.Replies
import QueryTuning.Proofs.Index.Entries
import QueryTuning.Proofs.Session.Evaluation

/-!
# Independent stages

What one stage of an analysis comes to does not depend on whether the others run, if the server
has no memory. Benchmarks alone read the clock, and the only one after which the clock is read
again is that of the first stage, which no option but its own moves.
-/

set_option autoImplicit false

namespace QueryTuning

variable {σ ν : Type}

namespace Plan

theorem isTimeless_understand (mode : Mode) (document : Option String) :
    Task.IsTimeless (understand mode document : Task ν Extraction) := by
  unfold understand
  cases read mode (document.getD "") with
  | blank => exact Task.isTimeless_pure _
  | malformed => exact Task.isTimeless_bind (Task.isTimeless_warn _) fun _ => Task.isTimeless_pure _
  | plan e => exact Task.isTimeless_pure _

theorem isTimeless_retrieve (stage : Stage) (mode : Mode) (remark sql : String)
    (limit : TimeLimit) :
    Task.IsTimeless (retrieve stage mode remark sql limit : Task ν Extraction) := by
  rw [retrieve_eq]
  apply Task.isTimeless_bind (Task.isTimeless_mandatory _ _ _)
  intro document
  apply Task.isTimeless_bind (isTimeless_understand _ _)
  intro e
  apply Task.isTimeless_bind _ fun _ => Task.isTimeless_pure _
  unfold remarkIfEmpty
  split
  · exact Task.isTimeless_warn _
  · exact Task.isTimeless_pure _

end Plan

namespace Index

variable (limit : TimeLimit)

theorem isTimeless_lookUpUsages (rs : List Redundant) :
    Task.IsTimeless (lookUpUsages limit rs : Task ν (List Redundant)) := by
  induction rs with
  | nil => exact Task.isTimeless_pure _
  | cons r rs ih =>
    apply Task.isTimeless_bind
    · exact Task.isTimeless_bind (Task.isTimeless_bestEffort _ _ _)
        fun _ => Task.isTimeless_ofValue _
    · intro r'
      exact Task.isTimeless_bind ih fun _ => Task.isTimeless_pure _

theorem isTimeless_redundantOf (table : String) :
    Task.IsTimeless (redundantOf table limit : Task ν (List Redundant)) := by
  apply Task.isTimeless_bind (Task.isTimeless_mandatory _ _ _)
  intro rows
  exact Task.isTimeless_bind (Task.isTimeless_ofValue _) fun found =>
    isTimeless_lookUpUsages limit found

theorem isTimeless_redundantOfAll (tables : List String) :
    Task.IsTimeless (redundantOfAll limit tables : Task ν (List Redundant)) := by
  induction tables with
  | nil => exact Task.isTimeless_pure _
  | cons table tables ih =>
    apply Task.isTimeless_bind (isTimeless_redundantOf limit table)
    intro found
    exact Task.isTimeless_bind ih fun _ => Task.isTimeless_pure _

theorem isTimeless_redundantFor (query : String) :
    Task.IsTimeless (redundantFor query limit : Task ν (List Redundant)) := by
  rw [redundantFor_eq]
  apply Task.isTimeless_bind _ fun _ => isTimeless_redundantOfAll limit _
  unfold remarkIfNoTables
  split
  · exact Task.isTimeless_warn _
  · exact Task.isTimeless_pure _

end Index

namespace Analysis

section

variable (o : Options) (query : String) (limit : TimeLimit)

theorem isTimeless_serverInfo : Task.IsTimeless (serverInfo limit : Task ν String) :=
  Task.isTimeless_bind (Task.isTimeless_bestEffort _ _ _) fun _ => Task.isTimeless_pure _

theorem isTimeless_planStage :
    Task.IsTimeless (planStage o query limit : Task ν Plan.Extraction) := by
  unfold planStage
  split
  · exact Plan.isTimeless_retrieve _ _ _ _ _
  · exact Task.isTimeless_pure _

theorem isTimeless_redundantStage :
    Task.IsTimeless (redundantStage o query limit : Task ν (List Index.Redundant)) := by
  unfold redundantStage
  split
  · exact Index.isTimeless_redundantFor limit query
  · exact Task.isTimeless_pure _

end

@[ext]
structure StageResults where
  serverInfo : String
  metrics : Option (Measure.Metrics Binary64)
  extraction : Plan.Extraction
  redundant : List Index.Redundant
  improvement : Binary64

def StageResults.findings (dialect : Query.Dialect) (o : Options) (query : String)
    (r : StageResults) : Findings :=
  assemble dialect o query r.serverInfo r.metrics r.extraction r.redundant r.improvement

/-- The stages of an analysis that begins after `n` clock readings. Only the measurements of the
first benchmark and of the last stage depend on the readings. -/
structure Course (answers : Answers Binary64) (dialect : Query.Dialect) (o : Options)
    (query : String) (limit : TimeLimit) (n : Nat) (r : StageResults) : Prop where
  serverInfo : Task.Gives answers (serverInfo limit) 0 r.serverInfo 0
  plan : Task.Gives answers (planStage o query limit) 0 r.extraction 0
  redundant : Task.Gives answers (redundantStage o query limit) 0 r.redundant 0
  measured : ∃ k m, Task.Gives answers (metricsStage o query limit) n r.metrics k ∧
    Task.Gives answers (proposalStage dialect o query limit) k r.improvement m

section

variable {answers : Answers Binary64} {dialect : Query.Dialect} {o o' : Options} {query : String}
  {limit : TimeLimit} {m n : Nat} {r r' : StageResults}

theorem course_of_gives {f : Findings} (hq : isBlankString query = false)
    (h : Task.Gives answers (pipeline dialect o query limit) n f m) :
    ∃ r, Course answers dialect o query limit n r ∧ f = r.findings dialect o query := by
  rw [pipeline_eq dialect o limit hq] at h
  obtain ⟨info, k₁, hinfo, h₁⟩ := h.of_bind
  obtain ⟨metrics, k₂, hmetrics, h₂⟩ := h₁.of_bind
  obtain ⟨e, k₃, hplan, h₃⟩ := h₂.of_bind
  obtain ⟨redundant, k₄, hredundant, h₄⟩ := h₃.of_bind
  obtain ⟨improvement, k₅, himprovement, h₅⟩ := h₄.of_bind
  obtain ⟨rfl, hinfo₀⟩ := hinfo.anywhere (isTimeless_serverInfo limit)
  obtain ⟨rfl, hplan₀⟩ := hplan.anywhere (isTimeless_planStage o query limit)
  obtain ⟨rfl, hredundant₀⟩ := hredundant.anywhere (isTimeless_redundantStage o query limit)
  obtain ⟨hfindings, -⟩ := Task.gives_pure.mp h₅
  exact ⟨⟨info, metrics, e, redundant, improvement⟩,
    ⟨hinfo₀ 0, hplan₀ 0, hredundant₀ 0, _, _, hmetrics, himprovement⟩, hfindings.symm⟩

theorem planStage_eq (h : o.analyzePlan = true) :
    (planStage o query limit : Task ν Plan.Extraction) = Index.estimatedPlan query limit := by
  simp [planStage, h]

namespace Course

variable (h : Course answers dialect o query limit n r)
  (h' : Course answers dialect o' query limit n r')

include h h'

theorem serverInfo_eq : r'.serverInfo = r.serverInfo := (h'.serverInfo.unique h.serverInfo).1

theorem extraction_eq (hplan : o.analyzePlan = true) (hplan' : o'.analyzePlan = true) :
    r'.extraction = r.extraction := by
  have hextraction := h.plan
  have hextraction' := h'.plan
  rw [planStage_eq hplan] at hextraction
  rw [planStage_eq hplan'] at hextraction'
  exact (hextraction'.unique hextraction).1

theorem redundant_eq (hstage : redundantStage o' query limit =
    (redundantStage o query limit : Task Binary64 (List Index.Redundant))) :
    r'.redundant = r.redundant := by
  have hredundant := h'.redundant
  rw [hstage] at hredundant
  exact (hredundant.unique h.redundant).1

/-- The last stage finds the clock as the first benchmark left it. -/
theorem measured_eq (hmetrics : metricsStage o' query limit = metricsStage o query limit) :
    r'.metrics = r.metrics ∧
      (proposalStage dialect o' query limit = proposalStage dialect o query limit →
        r'.improvement = r.improvement) := by
  obtain ⟨k, m, hmeasured, hcompared⟩ := h.measured
  obtain ⟨k', m', hmeasured', hcompared'⟩ := h'.measured
  rw [hmetrics] at hmeasured'
  obtain ⟨heq, rfl⟩ := hmeasured'.unique hmeasured
  refine ⟨heq, fun hproposal => ?_⟩
  rw [hproposal] at hcompared'
  exact (hcompared'.unique hcompared).1

end Course

theorem Course.redundant_of_disabled (h : Course answers dialect o query limit n r)
    (ho : o.analyzeIndexes = false) : r.redundant = [] := by
  have hredundant := h.redundant
  unfold redundantStage at hredundant
  rw [if_neg (ne_true_of_eq_false ho)] at hredundant
  exact (Task.gives_pure.mp hredundant).1.symm

theorem Course.metrics_of_disabled (h : Course answers dialect o query limit n r)
    (ho : o.collectMetrics = false) : r.metrics = none := by
  obtain ⟨k, m, hmeasured, -⟩ := h.measured
  unfold metricsStage at hmeasured
  rw [if_neg (ne_true_of_eq_false ho)] at hmeasured
  exact (Task.gives_pure.mp hmeasured).1.symm

/-- Without a proposal or without measurements there is no improvement. -/
theorem Course.improvement_of_disabled (h : Course answers dialect o query limit n r)
    (ho : o.attemptRevision = false ∨ o.collectMetrics = false) : r.improvement = .zero := by
  obtain ⟨k, m, -, hcompared⟩ := h.measured
  unfold proposalStage at hcompared
  split at hcompared
  next hrevision =>
    have hmetrics := ho.resolve_left (by simp [hrevision])
    obtain ⟨_, _, -, himprovement⟩ := hcompared.of_bind
    rw [improvementStage, hmetrics, Bool.and_false, if_neg Bool.false_ne_true] at himprovement
    exact (Task.gives_pure.mp himprovement).1.symm
  next => exact (Task.gives_pure.mp hcompared).1.symm

variable (ho : o.analyzePlan = true)

include ho

theorem course_without_indexes
    (h : Course answers dialect { o with analyzeIndexes := true } query limit n r)
    (h' : Course answers dialect { o with analyzeIndexes := false } query limit n r') :
    r' = { r with redundant := [] } := by
  obtain ⟨hmetrics, himprovement⟩ := h.measured_eq h' rfl
  ext1
  · exact h.serverInfo_eq h'
  · exact hmetrics
  · exact h.extraction_eq h' ho ho
  · exact h'.redundant_of_disabled rfl
  · exact himprovement rfl

theorem course_without_metrics
    (h : Course answers dialect { o with collectMetrics := true } query limit n r)
    (h' : Course answers dialect { o with collectMetrics := false } query limit n r') :
    r' = { r with metrics := none, improvement := .zero } := by
  ext1
  · exact h.serverInfo_eq h'
  · exact h'.metrics_of_disabled rfl
  · exact h.extraction_eq h' ho ho
  · exact h.redundant_eq h' rfl
  · exact h'.improvement_of_disabled (.inr rfl)

theorem course_without_revision
    (h : Course answers dialect { o with attemptRevision := true } query limit n r)
    (h' : Course answers dialect { o with attemptRevision := false } query limit n r') :
    r' = { r with improvement := .zero } := by
  ext1
  · exact h.serverInfo_eq h'
  · exact (h.measured_eq h' rfl).1
  · exact h.extraction_eq h' ho ho
  · exact h.redundant_eq h' rfl
  · exact h'.improvement_of_disabled (.inl rfl)

theorem course_without_issues
    (h : Course answers dialect { o with analyzeSyntax := true } query limit n r)
    (h' : Course answers dialect { o with analyzeSyntax := false } query limit n r') :
    r' = r := by
  obtain ⟨hmetrics, himprovement⟩ := h.measured_eq h' rfl
  ext1
  · exact h.serverInfo_eq h'
  · exact hmetrics
  · exact h.extraction_eq h' ho ho
  · exact h.redundant_eq h' rfl
  · exact himprovement rfl

end

end Analysis

theorem Query.complexity_mono (query : String) {m n : Nat} (h : m ≤ n) :
    complexity query m ≤ complexity query n := by
  unfold complexity complexityOf
  omega

namespace Analyzer

open Analysis

variable {a : Analyzer} {s : Surroundings σ Binary64} {w : World σ} {query : String}
  {connection : Option String} {o o' : Options} {f g : Findings}

def Finds (a : Analyzer) (s : Surroundings σ Binary64) (w : World σ) (query : String)
    (connection : Option String) (o : Options) (f : Findings) : Prop :=
  (Task.runIn s (a.analyze query connection (some o)) w).result = .ok f

theorem exists_finds (a : Analyzer) (s : Surroundings σ Binary64) (w : World σ) (query : String)
    (connection : Option String) (o : Options) (p : Findings → Bool)
    (h : ((Task.runIn s (a.analyze query connection (some o)) w).result.map p).toOption =
      some true) : ∃ f, a.Finds s w query connection o f ∧ p f = true := by
  unfold Finds
  cases hr : (Task.runIn s (a.analyze query connection (some o)) w).result with
  | ok f =>
    rw [hr] at h
    exact ⟨f, rfl, Option.some.inj h⟩
  | error failure =>
    rw [hr] at h
    cases h

theorem course_of_finds (hs : s.server.IsForgetful) (h : a.Finds s w query connection o f) :
    ∃ limit r, TimeLimit.ofMilliseconds o.maxExecutionTimeMs = .ok limit ∧
      Course (s.answers w) a.dialect o query limit w.readings r ∧
      f = r.findings a.dialect o query := by
  obtain ⟨m, hgives⟩ :=
    Task.gives_of_runIn hs (a.keepsSession_analyze query connection (some o)) h
  rw [analyze_eq] at hgives
  obtain ⟨_, hoptions, h₁⟩ := hgives.of_ofValue_bind
  obtain rfl : o = _ := Except.ok.inj hoptions
  obtain ⟨_, hquery, h₂⟩ := h₁.of_ofInput_bind
  obtain ⟨_, -, h₃⟩ := h₂.of_ofInput_bind
  obtain ⟨target, -, h₄⟩ := h₃.of_ofInput_bind
  obtain ⟨limit, hlimit, h₅⟩ := h₄.of_ofValue_bind
  obtain ⟨r, hcourse, hfindings⟩ :=
    course_of_gives (accepted_iff.mp hquery) h₅.of_reporting.of_inSession
  exact ⟨limit, r, hlimit, hcourse, hfindings⟩

/-- Two analyses with one time limit. -/
theorem courses_of_finds (hs : s.server.IsForgetful) (h : a.Finds s w query connection o f)
    (h' : a.Finds s w query connection o' g)
    (hlimits : o'.maxExecutionTimeMs = o.maxExecutionTimeMs) :
    ∃ limit r r', Course (s.answers w) a.dialect o query limit w.readings r ∧
      Course (s.answers w) a.dialect o' query limit w.readings r' ∧
      f = r.findings a.dialect o query ∧ g = r'.findings a.dialect o' query := by
  obtain ⟨limit, r, hlimit, hcourse, hfound⟩ := course_of_finds hs h
  obtain ⟨limit', r', hlimit', hcourse', hfound'⟩ := course_of_finds hs h'
  rw [hlimits, hlimit] at hlimit'
  obtain rfl : limit = limit' := Except.ok.inj hlimit'
  exact ⟨limit, r, r', hcourse, hcourse', hfound, hfound'⟩

/-- With plan analysis on, turning another stage off takes away what this stage reports and
changes nothing that another stage reports. -/
theorem stages_are_independent (hs : s.server.IsForgetful) (ho : o.analyzePlan = true) :
    (a.Finds s w query connection { o with analyzeIndexes := true } f →
      a.Finds s w query connection { o with analyzeIndexes := false } g →
      g = { f with recommendations := [], redundant := [], suggestions := g.suggestions }) ∧
    (a.Finds s w query connection { o with collectMetrics := true } f →
      a.Finds s w query connection { o with collectMetrics := false } g →
      g = { f with metrics := none, improvement := .zero }) ∧
    (a.Finds s w query connection { o with attemptRevision := true } f →
      a.Finds s w query connection { o with attemptRevision := false } g →
      g = { f with optimizedQuery := query, improvement := .zero }) ∧
    (a.Finds s w query connection { o with analyzeSyntax := true } f →
      a.Finds s w query connection { o with analyzeSyntax := false } g →
      g = { f with issues := [], complexity := g.complexity, suggestions := g.suggestions } ∧
        g.complexity ≤ f.complexity) := by
  refine ⟨fun h h' => ?_, fun h h' => ?_, fun h h' => ?_, fun h h' => ?_⟩
  · obtain ⟨limit, r, r', hcourse, hcourse', rfl, rfl⟩ := courses_of_finds hs h h' rfl
    rw [course_without_indexes ho hcourse hcourse']
    rfl
  · obtain ⟨limit, r, r', hcourse, hcourse', rfl, rfl⟩ := courses_of_finds hs h h' rfl
    rw [course_without_metrics ho hcourse hcourse']
    rfl
  · obtain ⟨limit, r, r', hcourse, hcourse', rfl, rfl⟩ := courses_of_finds hs h h' rfl
    rw [course_without_revision ho hcourse hcourse']
    rfl
  · obtain ⟨limit, r, r', hcourse, hcourse', rfl, rfl⟩ := courses_of_finds hs h h' rfl
    rw [course_without_issues ho hcourse hcourse']
    exact ⟨rfl, Query.complexity_mono query (Nat.zero_le _)⟩

def replyWithMissingIndex : (c : Call) → c.Answer
  | .fetchPlan _ .estimated => some "<Plan><MissingIndex Table='[Orders]'/></Plan>"
  | c => c.emptyAnswer

/-- With a clock that goes faster and faster, every stage has something to report. -/
theorem stages_of_one_analysis_are_independent :
    let s : Surroundings Unit Binary64 :=
      ⟨.constant replyWithMissingIndex, fun n => .finite (n * n)⟩
    let query := "SELECT DISTINCT Day FROM Orders"
    let o : Options :=
      { collectStatistics := false, comparisonIterations := 1, comparisonWarmup := 0 }
    let finds (o : Options) (f : Findings) : Prop :=
      unlimited.Finds s (World.start () 0 none) query (some "Server=a") o f
    ∃ f g₁ g₂ g₃ g₄,
      (finds o f ∧ f.optimizedQuery = "SELECT Day FROM Orders" ∧ f.improvement ≠ .zero ∧
        f.issues ≠ [] ∧ f.recommendations ≠ []) ∧
      (finds { o with analyzeIndexes := false } g₁ ∧
        g₁ = { f with recommendations := [], redundant := [], suggestions := g₁.suggestions }) ∧
      (finds { o with collectMetrics := false } g₂ ∧
        g₂ = { f with metrics := none, improvement := .zero }) ∧
      (finds { o with attemptRevision := false } g₃ ∧
        g₃ = { f with optimizedQuery := query, improvement := .zero }) ∧
      finds { o with analyzeSyntax := false } g₄ ∧
      g₄ = { f with issues := [], complexity := g₄.complexity, suggestions := g₄.suggestions } := by
  intro s query o finds
  have hresult := exists_finds unlimited s (World.start () 0 none) query (some "Server=a")
  have hs : s.server.IsForgetful := Server.isForgetful_constant _
  obtain ⟨f, hf, hfacts⟩ := hresult o (fun f => decide
    (f.optimizedQuery = "SELECT Day FROM Orders" ∧ f.improvement ≠ .zero) &&
      !f.issues.isEmpty && !f.recommendations.isEmpty) (by decide +kernel)
  obtain ⟨g₁, h₁, -⟩ := hresult { o with analyzeIndexes := false } (fun _ => true)
    (by decide +kernel)
  obtain ⟨g₂, h₂, -⟩ := hresult { o with collectMetrics := false } (fun _ => true)
    (by decide +kernel)
  obtain ⟨g₃, h₃, -⟩ := hresult { o with attemptRevision := false } (fun _ => true)
    (by decide +kernel)
  obtain ⟨g₄, h₄, -⟩ := hresult { o with analyzeSyntax := false } (fun _ => true)
    (by decide +kernel)
  refine ⟨f, g₁, g₂, g₃, g₄, ⟨hf, ?_⟩, ⟨h₁, ?_⟩, ⟨h₂, ?_⟩, ⟨h₃, ?_⟩, h₄, ?_⟩
  · simpa [and_assoc] using hfacts
  · exact (stages_are_independent (o := o) hs rfl).1 hf h₁
  · exact (stages_are_independent (o := o) hs rfl).2.1 hf h₂
  · exact (stages_are_independent (o := o) hs rfl).2.2.1 hf h₃
  · exact ((stages_are_independent (o := o) hs rfl).2.2.2 hf h₄).1

end Analyzer

end QueryTuning
