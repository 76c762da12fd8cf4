import StatusRouter.CommandLine.Options
import StatusRouter.Json.Printer

/-!
# The command line

Reads the arguments and the environment, and shows the options that the program starts with.  A
command line that is at fault ends it with the status 2, options that it cannot start with end it
with the status 1.
-/

open StatusRouter

/-- Shows the options that the arguments give. -/
def main (arguments : List String) : IO UInt32 := do
  let filter ← IO.getEnv Options.logFilterVariable
  match Options.ofArguments arguments filter with
  | .error fault =>
    IO.eprintln fault.message
    return 2
  | .ok options =>
    match options.check with
    | .error fault =>
      IO.eprintln ("Error: " ++ fault.message)
      return 1
    | .ok options =>
      IO.println options.toJson.compress
      return 0
