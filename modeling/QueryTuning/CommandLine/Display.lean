import QueryTuning.Analysis.Pipeline
import QueryTuning.Measure.Metrics
import QueryTuning.Report.Findings
import QueryTuning.Settings.Basic

/-!
# Display

What the commands show: lines with style marks in brackets, tables, panels,
statements and data.
-/

set_option autoImplicit false

namespace QueryTuning.CommandLine

inductive Shown where
  | line (text : String)
  | table (title : Option String) (columns : List String) (rows : List (List String))
  | panel (text title : String)
  | code (text : String)
  | data (d : Document)

def styled (style text : String) : String := "[" ++ style ++ "]" ++ text ++ "[/" ++ style ++ "]"

def severityStyle : Severity → String
  | .critical => "bold red"
  | .major => "red"
  | .medium => "yellow"
  | .minor => "cyan"
  | .info => "dim"

def priorityStyle : Advice.Priority → String
  | .critical => "bold red"
  | .high => "red"
  | .medium => "yellow"
  | .low => "dim"

def errorLine (message : String) : Shown := .line (styled "bold red" "Error:" ++ " " ++ message)

def notConnectedLine : Shown := .line (styled "red" Settings.notConnectedMessage)

def issueRow (number : Nat) (i : Issue) : List String :=
  [toString number, i.kind.name, styled (severityStyle i.severity) i.severity.name, i.fragment,
    i.description]

def issuesDisplay (issues : List Issue) : Shown :=
  if issues.isEmpty then .line (styled "green" "✓ No issues detected")
  else
    .table (some "Detected Issues") ["#", "Issue", "Severity", "Fragment", "Description"]
      (issues.zipIdx.map fun (i, n) => issueRow (n + 1) i)

def unchangedLine : Shown := .line (styled "dim" "No rewrite applies; query unchanged.")

def truthWord (b : Bool) : String := if b then "True" else "False"

def figureText : Document → String
  | .real x => x.fixed 2
  | .truth b => truthWord b
  | .integer n => toString n
  | .text s => s
  | _ => ""

def metricsDisplay (m : Measure.Metrics Binary64) : Shown :=
  .table (some "Benchmark Results (mean)") ["Metric", "Value"]
    ((Report.figures m).map fun (name, figure) => [name, figureText figure])

def comparisonDisplay (c : Measure.Comparison) : Shown :=
  let row (name : String) (places : Nat) (figure : Measure.Metrics Binary64 → Binary64)
      (improvement : Binary64) : List String :=
    [name, (figure c.baseline).fixed places, (figure c.optimized).fixed places,
      improvement.fixed 1 ++ "%"]
  .table (some "Performance Comparison") ["Metric", "Original", "Optimized", "Improvement"]
    [row "Execution time (ms)" 2 Measure.Metrics.executionTimeMs c.executionTime,
      row "CPU time (ms)" 2 Measure.Metrics.cpuTimeMs c.cpuTime,
      row "Logical reads" 0 Measure.Metrics.logicalReads c.logicalReads]

def recommendationLine (r : Index.Recommendation) : String :=
  "  " ++ styled "green" r.createStatement ++ "  " ++
    styled "dim" ("(" ++ r.estimatedImpact.fixed 1 ++ "%)")

def recommendationsDisplay (recommendations : List Index.Recommendation) : List Shown :=
  if recommendations.isEmpty then []
  else
    .line ("\n" ++ styled "bold" "Recommended indexes:") ::
      recommendations.map fun r => .line (recommendationLine r)

def tableText? : Cell → Option String
  | .text s => some s
  | .null => some ""
  | _ => none

def redundantRow (r : Index.Redundant) : List String :=
  [r.schema.display ++ "." ++ r.table.display, (tableText? r.name).getD "", r.reason,
    toString r.usageCount, r.sizeMb.fixed 1]

def dropLine (r : Index.Redundant) : String := "  " ++ styled "dim" r.dropStatement

def redundantDisplay (redundant : List Index.Redundant) : List Shown :=
  if redundant.isEmpty then []
  else
    .table (some "Redundant Indexes") ["Table", "Index", "Reason", "Usage", "Size (MB)"]
      (redundant.map redundantRow) ::
      redundant.map fun r => .line (dropLine r)

def canShow (redundant : List Index.Redundant) : Bool :=
  redundant.all fun r => (tableText? r.name).isSome

def suggestionRow (s : Advice.Suggestion) : List String :=
  [styled (priorityStyle s.priority) s.priority.name, s.title, s.estimatedImpact.fixed 0 ++ "%",
    s.description]

def suggestionsDisplay (suggestions : List Advice.Suggestion) : Shown :=
  if suggestions.isEmpty then .line (styled "green" "✓ No suggestions")
  else
    .table (some "Suggestions") ["Priority", "Title", "Impact", "Description"]
      (suggestions.map suggestionRow)

def executionLine (m : Measure.Metrics Binary64) : String :=
  styled "bold" "Execution:" ++ " " ++ m.executionTimeMs.fixed 2 ++ " ms, " ++
    m.cpuTimeMs.fixed 2 ++ " ms CPU, " ++ m.logicalReads.fixed 0 ++ " logical reads, " ++
    m.rowsReturned.fixed 0 ++ " rows"

def findingsDisplay (f : Analysis.Findings) : List Shown :=
  [.line ("\n" ++ styled "bold" "Server:" ++ " " ++ f.serverInfo),
    .line (styled "bold" "Complexity:" ++ " " ++ toString f.complexity ++ "/10   " ++
      styled "bold" "Estimated plan cost:" ++ " " ++ f.estimatedPlanCost.fixed 4)] ++
    (f.metrics.map fun m => Shown.line (executionLine m)).toList ++
    [suggestionsDisplay f.suggestions]

def revisionDisplay (f : Analysis.Findings) : List Shown :=
  if f.wasRevised then
    [.line ("\n" ++ styled "bold" "Optimized query:"), .code f.optimizedQuery,
      .line ("  Measured improvement: " ++ f.improvement.fixed 1 ++ "%")]
  else []

def analysisPanel : Shown :=
  .panel (styled "bold blue" "SQL Advisor Analysis") "Starting Analysis"

def savedLine (path : String) : Shown :=
  .line ("\n" ++ styled "green" ("Results saved to " ++ path))

def completeLine : Shown := .line ("\n" ++ styled "bold green" "✓ Analysis complete!")

def settingsDisplay (s : Settings) : List Shown :=
  [.panel (styled "bold" "SQL Advisor Configuration") "Config",
    .table none ["Setting", "Value"]
      [["Connection", if s.hasConnection then "✓ Configured" else "✗ Not set"],
        ["Command Timeout (s)", s.commandTimeoutSeconds.text],
        ["Benchmark Iterations", toString s.benchmarkIterations],
        ["Warmup Iterations", toString s.warmupIterations],
        ["Max Recommendations", toString s.maxRecommendations],
        ["SQL Dialect", s.sqlDialect], ["Log Level", s.logLevel]]]

def Shown.plain : Shown → String
  | line text => text
  | table title columns rows =>
    "\n".intercalate (title.toList ++ (columns :: rows).map fun row => " | ".intercalate row)
  | panel text title => title ++ ": " ++ text
  | code text => text
  | data d => d.write (.indented 2)

end QueryTuning.CommandLine
