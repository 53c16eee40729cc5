import QueryTuning.Text.Basic

/-!
# What can go wrong

Causes of failure as data, each with one wording. Invalid input is found before
anything else happens; a fatal failure ends an analysis at a stage; a transient
one is only reported. Conversions of values read from a database have faults of
their own.
-/

set_option autoImplicit false

namespace QueryTuning

inductive ValueSort where
  | missing
  | truth
  | integer
  | real
  | text
  | moment
  deriving DecidableEq, Repr

def ValueSort.name : ValueSort → String
  | missing => "NoneType"
  | truth => "bool"
  | integer => "int"
  | real => "float"
  | text => "str"
  | moment => "datetime.datetime"

inductive ValueFault where
  | integerTooLarge
  | infiniteInteger
  | sumTooLarge
  | undefinedInteger
  | undefinedSum
  | notInteger (text : String)
  | notReal (text : String)
  | noInteger (sort : ValueSort)
  | noReal (sort : ValueSort)
  | unordered (a b : ValueSort)
  | mixedClocks
  | missing (column : String)
  | noName (sort : ValueSort)
  deriving DecidableEq, Repr

namespace ValueFault

inductive Kind where
  | range
  | form
  | sort
  | absence
  | operation
  deriving DecidableEq, Repr

def kind : ValueFault → Kind
  | integerTooLarge | infiniteInteger | sumTooLarge => .range
  | undefinedInteger | undefinedSum | notInteger _ | notReal _ => .form
  | noInteger _ | noReal _ | unordered .. | mixedClocks => .sort
  | missing _ => .absence
  | noName _ => .operation

def message : ValueFault → String
  | integerTooLarge => "int too large to convert to float"
  | infiniteInteger => "cannot convert float infinity to integer"
  | sumTooLarge => "intermediate overflow in fsum"
  | undefinedInteger => "cannot convert float NaN to integer"
  | undefinedSum => "-inf + inf in fsum"
  | notInteger text =>
    "invalid literal for int() with base 10: " ++ String.ofList ((Text.inQuotes text).toList.take 200)
  | notReal text => "could not convert string to float: " ++ Text.inQuotes text
  | noInteger sort =>
    "int() argument must be a string, a bytes-like object or a real number, not " ++
      Text.inQuotes sort.name
  | noReal sort =>
    "float() argument must be a string or a real number, not " ++ Text.inQuotes sort.name
  | unordered a b =>
    "'<' not supported between instances of " ++ Text.inQuotes a.name ++ " and " ++
      Text.inQuotes b.name
  | mixedClocks => "can't compare offset-naive and offset-aware datetimes"
  | missing column => Text.inQuotes column
  | noName sort => Text.inQuotes sort.name ++ " object has no attribute 'lower'"

end ValueFault

inductive InputFault where
  | blankQueryText
  | blankQuery (name : String)
  | noConnection
  | iterations (count : Int)
  | warmup (count : Int)
  | counts
  | noRuns
  | maxRecommendations
  | negativeTimeLimit
  | iterationCounts
  | warmupCounts
  /-- Input refused by the database side, with its own words. -/
  | reported (message : String)
  deriving DecidableEq, Repr

def InputFault.message : InputFault → String
  | blankQueryText => "Query text must not be empty"
  | blankQuery name => name ++ " must not be empty"
  | noConnection => "A connection string is required"
  | iterations count => "iterations must be at least 1, got " ++ toString count
  | warmup count => "warmup must not be negative, got " ++ toString count
  | counts => "iterations must be >= 1 and warmup >= 0"
  | noRuns => "Cannot aggregate zero benchmark runs"
  | maxRecommendations => "max_recommendations must be at least 1"
  | negativeTimeLimit => "max_execution_time_ms must not be negative"
  | iterationCounts => "iteration counts must be at least 1"
  | warmupCounts => "warmup counts must not be negative"
  | reported message => message

end QueryTuning
