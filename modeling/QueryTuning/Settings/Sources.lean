import QueryTuning.Settings.Basic
import QueryTuning.Settings.EnvironmentFile
import QueryTuning.Settings.Field
import QueryTuning.Text.Case

/-!
# Sources of settings

A setting given by name goes before a variable of the environment, and that
before a binding in the environment file; what is given nowhere has its default.
Variables carry a mark before the name and are known in either case. Names that
mean nothing are refused if they are given or stand in the file, and passed over
in the environment, which is shared with others.
-/

set_option autoImplicit false

namespace QueryTuning

structure SettingError where
  name : String
  fault : SettingFault
  deriving DecidableEq, Repr

namespace Settings

structure Sources where
  given : List (String × Document) := []
  environment : List (String × String) := []
  /-- The text of the environment file, if there is one. -/
  file : Option String := none

def names : List String :=
  ["connection_string", "command_timeout_seconds", "log_level", "benchmark_iterations",
    "warmup_iterations", "max_recommendations", "sql_dialect"]

def variableMark : String := "sql_advisor_"

def variableNames : List String :=
  names.flatMap fun name => [variableMark ++ name, upperCase (variableMark ++ name)]

namespace Sources

def fileVariables (s : Sources) : EnvironmentFile.Variables :=
  match s.file with
  | none => []
  | some text =>
    (EnvironmentFile.read s.environment text).map fun (name, value) => (lowerCase name, value)

def environmentVariables (s : Sources) : EnvironmentFile.Variables :=
  s.environment.map fun (name, value) => (lowerCase name, some value)

def fromVariables (known : EnvironmentFile.Variables) (name : String) : Option Document :=
  ((EnvironmentFile.lookUp known (variableMark ++ name)).bind id).map .text

def lookUp? (s : Sources) (name : String) : Option Document :=
  ((s.given.find? fun entry => entry.1 == name).map Prod.snd).or
    ((fromVariables s.environmentVariables name).or (fromVariables s.fileVariables name))

/-- Whether a name in the file is of no use to anybody. The bare name of a setting and a name
without a value are passed over. -/
def isStray (entry : String × Option String) : Bool :=
  (entry.2.map fun value => !value.isEmpty).getD false && !names.contains entry.1 &&
    !(names.map (variableMark ++ ·)).contains entry.1

def strayNames (s : Sources) : List String :=
  (((s.given.map Prod.fst).filter fun name => !names.contains name) ++
    (s.fileVariables.filter isStray).map Prod.fst).eraseDups

def read {α : Type} (s : Sources) (name : String) (convert : Document → Except SettingFault α)
    (default : α) : Except SettingFault α :=
  match s.lookUp? name with
  | none => .ok default
  | some d => convert d

end Sources

def faultOf {α : Type} (name : String) (result : Except SettingFault α) : List SettingError :=
  match result with
  | .ok _ => []
  | .error fault => [⟨name, fault⟩]

def sorted (errors : List SettingError) : List SettingError :=
  errors.mergeSort fun a b => a.name < b.name || (a.name == b.name && a.fault.code ≤ b.fault.code)

def load (s : Sources) : Except (List SettingError) Settings :=
  let d : Settings := {}
  let connectionString := s.read "connection_string" Field.toText d.connectionString
  let commandTimeoutSeconds :=
    s.read "command_timeout_seconds" Field.realFromZero d.commandTimeoutSeconds
  let logLevel := s.read "log_level" Field.toText d.logLevel
  let benchmarkIterations :=
    s.read "benchmark_iterations" (Field.integerFrom 1) d.benchmarkIterations
  let warmupIterations := s.read "warmup_iterations" (Field.integerFrom 0) d.warmupIterations
  let maxRecommendations :=
    s.read "max_recommendations" (Field.integerFrom 1) d.maxRecommendations
  let sqlDialect := s.read "sql_dialect" Field.toText d.sqlDialect
  let errors :=
    faultOf "connection_string" connectionString ++
      faultOf "command_timeout_seconds" commandTimeoutSeconds ++
      faultOf "log_level" logLevel ++
      faultOf "benchmark_iterations" benchmarkIterations ++
      faultOf "warmup_iterations" warmupIterations ++
      faultOf "max_recommendations" maxRecommendations ++
      faultOf "sql_dialect" sqlDialect ++
      s.strayNames.map fun name => ⟨name, .unknown⟩
  match connectionString, commandTimeoutSeconds, logLevel, benchmarkIterations, warmupIterations,
    maxRecommendations, sqlDialect, errors with
  | .ok connectionString, .ok commandTimeoutSeconds, .ok logLevel, .ok benchmarkIterations,
    .ok warmupIterations, .ok maxRecommendations, .ok sqlDialect, [] =>
    .ok {
      connectionString, commandTimeoutSeconds, logLevel, benchmarkIterations, warmupIterations,
      maxRecommendations, sqlDialect }
  | _, _, _, _, _, _, _, errors => .error (sorted errors)

end Settings

end QueryTuning
