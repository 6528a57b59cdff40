import RootFinding.Table.Basic

/-! The command line. -/

def main (arguments : List String) : IO UInt32 := do
  let output := RootFinding.Table.run arguments
  (← IO.getStdout).putStr output.standardOutput
  (← IO.getStderr).putStr output.standardError
  return output.exitCode.toUInt32
