import QueryTuning.Analysis.Analyzer
import QueryTuning.Proofs.Session.TaskTrace

/-!
# Tasks step by step

Tasks with optional steps, written as plain sequences. Where a step depends on
an option or on what was read, it gets a name of its own, so that what follows
it is there once.
-/

set_option autoImplicit false

namespace QueryTuning

variable {ν : Type}

namespace Plan

def remarkIfEmpty (remark : String) (e : Extraction) : Task ν Unit :=
  if e.isEmpty then Task.warn remark else pure ()

def readReply (mode : Mode) (remark : String) (document : Option String) : Task ν Extraction :=
  understand mode document >>= fun e => remarkIfEmpty remark e >>= fun _ => pure e

theorem retrieve_eq (stage : Stage) (mode : Mode) (remark sql : String) (limit : TimeLimit) :
    (retrieve stage mode remark sql limit : Task ν Extraction) =
      Task.mandatory stage (.fetchPlan sql mode) limit >>= readReply mode remark := by
  unfold retrieve readReply remarkIfEmpty
  refine bind_congr fun document => bind_congr fun e => ?_
  cases e.isEmpty <;> rfl

theorem yields_understand (mode : Mode) (document : Option String) :
    Task.Yields (understand mode document : Task ν Extraction)
      (.ok (interpret mode (document.getD ""))) := by
  unfold understand interpret
  cases read mode (document.getD "") with
  | blank => exact Task.yields_pure _
  | malformed => exact Task.yields_bind (Task.yields_warn _) (Task.yields_pure _)
  | plan e => exact Task.yields_pure _

theorem yields_remarkIfEmpty (remark : String) (e : Extraction) :
    Task.Yields (remarkIfEmpty remark e : Task ν Unit) (.ok ()) := by
  unfold remarkIfEmpty
  split
  · exact Task.yields_warn _
  · exact Task.yields_pure _

/-- What a document tells does not depend on the remarks that are made about it. -/
theorem yields_readReply (mode : Mode) (remark : String) (document : Option String) :
    Task.Yields (readReply mode remark document : Task ν Extraction)
      (.ok (interpret mode (document.getD ""))) := by
  apply Task.yields_bind (yields_understand mode document)
  exact Task.yields_bind (yields_remarkIfEmpty remark _) (Task.yields_pure _)

end Plan

namespace Measure

def switchStatistics (p : Protocol) : Task ν Unit :=
  if p.collectStatistics then do
    let _ ← Task.bestEffort .sessionStatistics (.execute statisticsOnSql) p.limit
  else pure ()

variable [Quantity ν]

def averageOf : List (Metrics ν) → Task ν (Metrics ν)
  | [] => Task.ofInput (.error .noRuns)
  | first :: others => Task.ofValue (average first others)

theorem benchmark_eq (query : String) (p : Protocol) :
    (benchmark query p : Task ν (Metrics ν)) =
      Task.ofInput (p.check query) >>= fun _ =>
        switchStatistics p >>= fun _ =>
          warmUps (Query.substitutePlaceholders query) p.limit p.warmup.toNat >>= fun _ =>
            measurements (Query.substitutePlaceholders query) p.collectStatistics p.limit
              p.iterations.toNat >>= averageOf := by
  unfold benchmark switchStatistics
  refine bind_congr fun _ => ?_
  cases p.collectStatistics with
  | true =>
    simp only [if_true, bind_assoc, pure_bind]
    refine bind_congr fun _ => bind_congr fun _ => bind_congr fun runs => ?_
    cases runs <;> rfl
  | false =>
    simp only [Bool.false_eq_true, if_false, pure_bind]
    refine bind_congr fun _ => bind_congr fun runs => ?_
    cases runs <;> rfl

theorem Protocol.iterations_of_check {p : Protocol} {query : String}
    (h : p.check query = .ok ()) : p.iterations.toNat ≠ 0 := by
  unfold Protocol.check at h
  split at h
  · cases h
  · omega

theorem length_of_measurements {sql : String} {collectStatistics : Bool} {limit : TimeLimit}
    {n : Nat} {t : Trace ν} {runs : List (Metrics ν)}
    (hf : Task.Follows (measurements sql collectStatistics limit n) t (.ok runs)) :
    runs.length = n := by
  induction n generalizing t runs with
  | zero =>
    obtain ⟨-, hr⟩ := hf
    cases hr
    rfl
  | succ n ih =>
    obtain ⟨_, _, _, _, -, hf⟩ := Task.follows_ok_bind hf
    obtain ⟨_, _, others, _, hothers, -, hr⟩ := Task.follows_ok_bind hf
    cases hr
    rw [List.length_cons, ih hothers]

end Measure

namespace Index

def remarkIfNoTables (tables : List String) : Task ν Unit :=
  if tables.isEmpty then Task.warn "No table names found in query" else pure ()

theorem yields_remarkIfNoTables (tables : List String) :
    Task.Yields (remarkIfNoTables tables : Task ν Unit) (.ok ()) := by
  unfold remarkIfNoTables
  split
  · exact Task.yields_warn _
  · exact Task.yields_pure _

theorem redundantFor_eq (query : String) (limit : TimeLimit) :
    (redundantFor query limit : Task ν (List Redundant)) =
      remarkIfNoTables (Query.tablesOf query) >>= fun _ =>
        redundantOfAll limit (Query.tablesOf query) := by
  unfold redundantFor remarkIfNoTables
  generalize Query.tablesOf query = tables
  cases tables <;> rfl

def survey (query : String) (limit : TimeLimit) :
    Task ν (List Recommendation × List Redundant) :=
  estimatedPlan query limit >>= fun e =>
    redundantFor query limit >>= fun found => pure (recommendations e, found)

end Index

namespace Analysis

def revisionIssues (o : Options) (query : String) (issues : List Issue) : Task ν (List Issue) :=
  if o.analyzeSyntax then pure issues else Task.ofInput (Query.detect query)

theorem revisionStage_eq (dialect : Query.Dialect) (o : Options) (query : String)
    (issues : List Issue) (limit : TimeLimit) :
    revisionStage dialect o query issues limit =
      if o.attemptRevision then
        revisionIssues o query issues >>= fun issues =>
          reviseFor dialect query issues >>= fun optimized =>
            improvementStage o query optimized limit >>= fun improvement =>
              pure (optimized, improvement)
      else pure (query, .zero) := by
  unfold revisionStage revisionIssues
  cases o.attemptRevision <;> cases o.analyzeSyntax <;> rfl

def issuesOf (query : String) : List Issue := Query.issuesIn (Query.normalizeText query.toList)

def reportedIssues (o : Options) (query : String) : List Issue :=
  if o.analyzeSyntax then issuesOf query else []

def revision (dialect : Query.Dialect) (query : String) : Query.Revision :=
  Query.revise dialect ((issuesOf query).map Issue.kind) query

def proposal (dialect : Query.Dialect) (o : Options) (query : String) : String :=
  if o.attemptRevision then String.ofList (revision dialect query).text else query

theorem yields_remarkDiscarded (kinds : List IssueKind) :
    Task.Yields (remarkDiscarded kinds : Task ν Unit) (.ok ()) := by
  induction kinds with
  | nil => exact Task.yields_pure ()
  | cons kind kinds ih => exact Task.yields_bind (Task.yields_warn _) ih

def proposalStage (dialect : Query.Dialect) (o : Options) (query : String) (limit : TimeLimit) :
    Task Binary64 Binary64 :=
  if o.attemptRevision then
    remarkDiscarded (revision dialect query).discarded >>= fun _ =>
      improvementStage o query (proposal dialect o query) limit
  else pure .zero

def indexAdvice (o : Options) (e : Plan.Extraction) : List Index.Recommendation :=
  if o.analyzeIndexes then Index.recommendations e else []

def assemble (dialect : Query.Dialect) (o : Options) (query serverInfo : String)
    (metrics : Option (Measure.Metrics Binary64)) (e : Plan.Extraction)
    (redundant : List Index.Redundant) (improvement : Binary64) : Findings where
  query := query
  optimizedQuery := proposal dialect o query
  serverInfo := serverInfo
  issues := reportedIssues o query
  metrics := metrics
  recommendations := indexAdvice o e
  redundant := redundant
  suggestions := Advice.suggestions (reportedIssues o query) (indexAdvice o e)
    (some o.maxRecommendations)
  complexity := Query.complexity query (reportedIssues o query).length
  improvement := improvement
  estimatedPlanCost := e.estimatedCost

theorem detect_eq {query : String} (h : isBlankString query = false) :
    Query.detect query = .ok (issuesOf query) := by
  simp [Query.detect, issuesOf, h]

theorem issuesStage_eq (o : Options) {query : String} (h : isBlankString query = false) :
    (issuesStage o query : Task ν (List Issue)) = pure (reportedIssues o query) := by
  unfold issuesStage reportedIssues
  rw [detect_eq h]
  cases o.analyzeSyntax <;> rfl

theorem revisionIssues_eq (o : Options) {query : String} (h : isBlankString query = false) :
    (revisionIssues o query (reportedIssues o query) : Task ν (List Issue)) =
      pure (issuesOf query) := by
  unfold revisionIssues reportedIssues
  rw [detect_eq h]
  cases o.analyzeSyntax <;> rfl

theorem revisionStage_eq_proposalStage (dialect : Query.Dialect) (o : Options) {query : String}
    (limit : TimeLimit) (h : isBlankString query = false) :
    revisionStage dialect o query (reportedIssues o query) limit =
      proposalStage dialect o query limit >>= fun improvement =>
        pure (proposal dialect o query, improvement) := by
  rw [revisionStage_eq, revisionIssues_eq o h]
  unfold proposalStage proposal
  cases o.attemptRevision with
  | true => simp only [if_true, pure_bind, bind_assoc, reviseFor, revision]
  | false => rfl

/-- An analysis of a query that has some content is a sequence of five stages. -/
theorem pipeline_eq (dialect : Query.Dialect) (o : Options) {query : String} (limit : TimeLimit)
    (h : isBlankString query = false) :
    pipeline dialect o query limit =
      serverInfo limit >>= fun info =>
        metricsStage o query limit >>= fun metrics =>
          planStage o query limit >>= fun e =>
            redundantStage o query limit >>= fun redundant =>
              proposalStage dialect o query limit >>= fun improvement =>
                pure (assemble dialect o query info metrics e redundant improvement) := by
  unfold pipeline
  rw [issuesStage_eq o h]
  simp only [pure_bind, revisionStage_eq_proposalStage dialect o limit h, bind_assoc]
  rfl

end Analysis

namespace Analyzer

theorem accepted_iff {query name : String} :
    acceptQuery query name = .ok () ↔ isBlankString query = false := by
  unfold acceptQuery
  cases isBlankString query <;> simp

def optionsFor (a : Analyzer) : Option Analysis.Options → Except ValueFault Analysis.Options
  | some options => .ok options
  | none => a.settings.analysisOptions

theorem analyze_eq (a : Analyzer) (query : String) (connection : Option String)
    (options : Option Analysis.Options) :
    a.analyze query connection options =
      Task.ofValue (a.optionsFor options) >>= fun o =>
        Task.ofInput (acceptQuery query "query") >>= fun _ =>
          Task.ofInput o.validate >>= fun _ =>
            Task.ofInput (a.connectionFor connection) >>= fun target =>
              Task.ofValue (TimeLimit.ofMilliseconds o.maxExecutionTimeMs) >>= fun limit =>
                Task.reporting
                  (Task.inSession target limit (Analysis.pipeline a.dialect o query limit))
                  "Analysis cancelled" "Analysis failed: " := by
  cases options <;> rfl

theorem indexes_eq (a : Analyzer) (query : String) (connection : Option String) :
    (a.indexes query connection : Task ν (List Index.Recommendation × List Index.Redundant)) =
      Task.ofInput (acceptQuery query "query") >>= fun _ =>
        Task.ofInput (a.connectionFor connection) >>= fun target =>
          Task.ofValue a.defaultLimit >>= fun limit =>
            Task.inSession target limit (Index.survey query limit) := by
  unfold indexes Index.survey Index.recommendFor
  simp only [bind_assoc, pure_bind]

end Analyzer

end QueryTuning
