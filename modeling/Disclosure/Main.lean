import Disclosure.Simulation.Run

/-!
# The simulator

Reads the configuration from the environment, runs the simulation and prints the
report.
-/

open Disclosure

/-- The variables that the configuration is read from. -/
def settingNames : List String :=
  ["CVD_MODE", "CVD_MAX_TICKS", "CVD_SEED", "CVD_PARTICIPANTS", "CVD_OUTPUT"]

/-- Four random words of the operating system. -/
def randomRow : IO Row := do
  let bytes ← IO.getRandomBytes 16
  let word (first : Nat) : UInt32 :=
    (bytes.toList.drop first).take 4 |>.foldl
      (fun word byte => 256 * word + byte.toUInt32) 0
  return ⟨word 0, word 4, word 8, word 12⟩

/-- The chance of every actor out of one random key: the keys of its two streams
are a block of the stream of that key. -/
def chanceOf (key : RandomStream) (number : Nat) : Chance :=
  let block := { key with block := number.toUInt64 }.nextBlock
  ⟨⟨block.a, block.b, 0, []⟩, ⟨block.c, block.d, 0, []⟩⟩

/-- Run the simulator once. -/
def main : IO UInt32 := do
  let settings ← settingNames.filterMapM fun name => do
    return (← IO.getEnv name).map (name, ·)
  match Config.ofLookup fun name => settings.lookup name with
  | .error error =>
    IO.eprintln ("Error: " ++ error.message)
    return 1
  | .ok config =>
    let key : RandomStream := ⟨← randomRow, ← randomRow, 0, []⟩
    match config.run (chanceOf key) with
    | .error error =>
      IO.eprintln ("Error: " ++ error.message)
      return 1
    | .ok report =>
      IO.print (config.render report)
      return 0
