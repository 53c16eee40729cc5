/-!
# Arguments of a command line

Options have a long spelling after two dashes or a short one, a single letter
after one dash. A value follows in the next argument, or in the same one after
an equals sign or right after the letter. Letters of options without a value may
stand together. Two dashes alone end the options.
-/

set_option autoImplicit false

namespace QueryTuning.CommandLine

inductive OptionName where
  | help
  | version
  | verbose
  | query
  | queryFile
  | connection
  | format
  | pretty
  | noSyntax
  | noMetrics
  | noIndexes
  | noPlan
  | noRevision
  | maxRecommendations
  | timeoutMs
  | output
  | iterations
  | warmup
  | baseline
  | optimized
  deriving DecidableEq, Repr

inductive UsageFault where
  | noArguments
  | noSuchOption (spelling : String)
  | badOptionUsage (spelling : String)
  | badParameter (option : OptionName)
  | missingParameter (option : OptionName)
  | missingCommand
  | noSuchCommand (name : String)
  | extraArguments (arguments : List String)
  | noQuery
  deriving DecidableEq, Repr

def UsageFault.message? : UsageFault → Option String
  | missingCommand => some "Missing command."
  | extraArguments [argument] =>
    some ("Got unexpected extra argument (" ++ argument ++ ")")
  | extraArguments arguments =>
    some ("Got unexpected extra arguments (" ++ " ".intercalate arguments ++ ")")
  | noQuery => some "Provide --query, --query-file, or pipe SQL on stdin"
  | _ => none

def UsageFault.message (fault : UsageFault) : String :=
  match fault with
  | noArguments => "No command given."
  | noSuchOption spelling => "No such option: " ++ spelling
  | badOptionUsage spelling => "Wrong use of option " ++ spelling
  | badParameter _ => "An option has a value that it does not take."
  | missingParameter _ => "An option is missing that the command needs."
  | noSuchCommand name => "No such command: " ++ name
  | fault => fault.message?.getD ""

inductive Given where
  | switched (on : Bool)
  | value (s : String)
  deriving DecidableEq, Repr

structure Spelling where
  text : String
  option : OptionName
  switches : Option Bool
  deriving DecidableEq, Repr

def taking (option : OptionName) (texts : List String) : List Spelling :=
  texts.map fun text => ⟨text, option, none⟩

def switching (option : OptionName) (on : Bool) (texts : List String) : List Spelling :=
  texts.map fun text => ⟨text, option, some on⟩

abbrev Setting := OptionName × Given

def isLong (text : String) : Bool := ['-', '-'].isPrefixOf text.toList

def findSpelling (spellings : List Spelling) (text : String) : Option Spelling :=
  spellings.find? fun s => s.text == text

structure Step where
  settings : List Setting
  usesNext : Bool

def takeNext (s : Spelling) (next : Option String) : Except UsageFault Step :=
  match next with
  | some value => .ok ⟨[(s.option, .value value)], true⟩
  | none => .error (.badOptionUsage s.text)

def readLetters (spellings : List Spelling) (next : Option String) :
    List Char → Except UsageFault Step
  | [] => .ok ⟨[], false⟩
  | c :: cs =>
    let text := String.ofList ['-', c]
    match findSpelling spellings text with
    | none => .error (.noSuchOption text)
    | some s =>
      match s.switches with
      | some on => (readLetters spellings next cs).map fun step =>
        { step with settings := (s.option, .switched on) :: step.settings }
      | none =>
        if cs.isEmpty then takeNext s next
        else .ok ⟨[(s.option, .value (String.ofList cs))], false⟩

def readLong (spellings : List Spelling) (next : Option String) (argument : List Char) :
    Except UsageFault Step :=
  let text := String.ofList (argument.takeWhile (· != '='))
  let attached := argument.dropWhile (· != '=')
  match findSpelling spellings text with
  | none => .error (.noSuchOption text)
  | some s =>
    match s.switches, attached with
    | none, '=' :: value => .ok ⟨[(s.option, .value (String.ofList value))], false⟩
    | none, _ => takeNext s next
    | some on, [] => .ok ⟨[(s.option, .switched on)], false⟩
    | some _, _ => .error (.badOptionUsage text)

def readOption (spellings : List Spelling) (argument : String) (next : Option String) :
    Except UsageFault Step :=
  if isLong argument then readLong spellings next argument.toList
  else readLetters spellings next (argument.toList.drop 1)

def isOption (argument : String) : Bool :=
  argument.toList.head? = some '-' && 1 < argument.length

structure Reading where
  settings : List Setting
  others : List String

def readArguments (spellings : List Spelling) (between : Bool) :
    List String → Except UsageFault Reading
  | [] => .ok ⟨[], []⟩
  | argument :: arguments =>
    if argument = "--" then .ok ⟨[], arguments⟩
    else if isOption argument then
      match readOption spellings argument arguments.head? with
      | .error fault => .error fault
      | .ok step =>
        let rest := if step.usesNext then arguments.tail else arguments
        (readArguments spellings between rest).map fun r =>
          { r with settings := step.settings ++ r.settings }
    else if between then
      (readArguments spellings between arguments).map fun r =>
        { r with others := argument :: r.others }
    else .ok ⟨[], argument :: arguments⟩
termination_by arguments => arguments.length
decreasing_by
  · split
    · have := List.length_tail (l := arguments)
      simp only [List.length_cons]
      omega
    · simp
  · simp

def lastGiven (settings : List Setting) (option : OptionName) : Option Given :=
  (settings.reverse.find? fun s => s.1 == option).map Prod.snd

def valueOf? (settings : List Setting) (option : OptionName) : Option String :=
  match lastGiven settings option with
  | some (.value s) => some s
  | _ => none

def isSwitched (settings : List Setting) (option : OptionName) (default : Bool) : Bool :=
  match lastGiven settings option with
  | some (.switched on) => on
  | _ => default

end QueryTuning.CommandLine
