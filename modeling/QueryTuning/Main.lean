import QueryTuning.CommandLine.Program
import QueryTuning.Odbc.Connection
import QueryTuning.Report.Findings
import QueryTuning.Session.Script

/-!
# The command

Gathers what a command may look at, runs it, and shows and saves what came of
it. No database driver is built in, so commands that need one say so.
-/

set_option autoImplicit false

namespace QueryTuning.CommandLine

def readEntry (path : String) : IO Entry := do
  let handle? ←
    try pure (some (← IO.FS.Handle.mk path .read))
    catch _ => pure none
  match handle? with
  | none => return .absent
  | some handle =>
    try
      let bytes ← handle.readBinToEnd
      match String.fromUTF8? bytes with
      | some text => return .file text
      | none => return .absent
    catch _ => return .directory

def readFiles (paths : List String) : IO Files := do
  let entries ← paths.eraseDups.mapM fun path => return (path, ← readEntry path)
  return fun path => ((entries.find? fun e => e.1 == path).map Prod.snd).getD .absent

def readVariables (names : List String) : IO (List (String × String)) := do
  let values ← names.eraseDups.mapM fun name => return (name, ← IO.getEnv name)
  return values.filterMap fun entry => entry.2.map fun value => (entry.1, value)

def referredNames (files : Files) : List String :=
  match files ".env" with
  | .file text => EnvironmentFile.namesIn text.toList
  | _ => []

def readShell (arguments : List String) : IO Shell := do
  let files ← readFiles (pathsIn arguments)
  let stdin ← IO.getStdin
  let isTerminal ← stdin.isTty
  let standardInput ←
    if readsStandardInput files arguments && !isTerminal then
      stdin.readToEnd
    else pure ""
  let environment ← readVariables (Settings.variableNames ++ referredNames files)
  return { environment, files, standardInput, isTerminal, dialect := Query.Dialect.permissive }

def report {σ : Type} (r : Result σ) : IO Unit := do
  for shown in r.progress.shown do
    IO.println shown.plain
  for remark in r.progress.events.filterMap Event.remark? do
    IO.eprintln remark.message
  if let some (path, findings) := r.progress.saved then
    IO.FS.writeFile path ((Report.findings findings).write (.indented 2))
  if let some message := r.conclusion.message? then
    IO.eprintln message

end QueryTuning.CommandLine

open QueryTuning QueryTuning.CommandLine in
def main (arguments : List String) : IO UInt32 := do
  let shell ← readShell arguments
  let log : Odbc.Log Unit := ⟨(), []⟩
  let r := execute ⟨Odbc.missing, Script.clock []⟩ log shell arguments
  report r
  return UInt32.ofNat r.conclusion.status
