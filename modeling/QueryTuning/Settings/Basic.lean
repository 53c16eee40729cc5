import QueryTuning.Analysis.Options
import QueryTuning.Number.Binary64
import QueryTuning.Text.Basic

/-!
# Settings

What is configured once for all analyses, and the options of an analysis that
follow from it.
-/

set_option autoImplicit false

namespace QueryTuning

structure Settings where
  connectionString : String := ""
  /-- For each round trip; zero means no limit. -/
  commandTimeoutSeconds : Binary64 := .finite 30
  logLevel : String := "INFO"
  benchmarkIterations : Int := 3
  warmupIterations : Int := 1
  maxRecommendations : Int := 10
  sqlDialect : String := "tsql"
  deriving DecidableEq

namespace Settings

def hasConnection (s : Settings) : Bool := !isBlankString s.connectionString

def notConnectedMessage : String :=
  "No database connection string configured.\n" ++
  "  Pass --connection-string, or set SQL_ADVISOR_CONNECTION_STRING\n" ++
  "  in the environment or in a .env file in the project root."

def connection? (s : Settings) : Option String :=
  if s.hasConnection then some s.connectionString else none

def commandTimeoutMs (s : Settings) : Except ValueFault Int :=
  (s.commandTimeoutSeconds.mul (.finite 1000)).truncate

def analysisOptions (s : Settings) : Except ValueFault Analysis.Options := do
  return {
    maxExecutionTimeMs := ← s.commandTimeoutMs
    maxRecommendations := s.maxRecommendations
    comparisonIterations := s.benchmarkIterations
    comparisonWarmup := s.warmupIterations }

end Settings

end QueryTuning
