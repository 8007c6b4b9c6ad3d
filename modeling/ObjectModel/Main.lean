import ObjectModel.CommandLine

/-!
# The command

Reading the arguments and printing what the run leaves behind.
-/

open ObjectModel ObjectModel.CommandLine

def main (argv : List String) : IO UInt32 := do
  let o := executeFresh none argv
  (← IO.getStdout).putStr o.stdout
  (← IO.getStderr).putStr o.stderr
  return match o.code with
    | .int n => n.toNat.toUInt32
    | _ => 1
