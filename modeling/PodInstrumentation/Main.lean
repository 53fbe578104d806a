import PodInstrumentation.Operator.Startup
/-!
The command line. It reads the settings from the environment and says how the operator will be
run, or what is wrong with the settings. -/
open PodInstrumentation

def readEnvironment : IO Settings.Environment := do
  let values ← Settings.names.mapM fun name => do return (name, ← IO.getEnv name)
  return values.filterMap fun (name, value) => value.map (name, ·)

def stepText : Config.Step → String
  | .key name => name
  | .index i => toString i

def issueText (i : Config.Issue) : String :=
  let place := ".".intercalate (i.place.map stepText)
  s!"{place}: {i.kind.code}"

def main : IO UInt32 := do
  match Settings.ofEnvironment (← readEnvironment) with
  | .invalid issues =>
    issues.forM fun i => IO.eprintln (issueText i)
    return 1
  | .valid settings =>
    IO.println ((Operator.plan settings).announcement settings)
    return 0
