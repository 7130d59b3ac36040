import PixelBuffer.Probe

/-!
# The probe as a program

`main` reads the command line and the environment, runs the probe and prints what it says.
-/

namespace PixelBuffer.Main

/-- Descriptors are numbered behind the three standard ones. -/
def showDescriptor (descriptor : Descriptor) : String :=
  toString (descriptor.number + 3)

/-- How the program is called. -/
def summary : List String :=
  "Usage: framebuffer-probe [OPTIONS]" :: "" :: "Options:" ::
    CommandOption.all.map fun option => "  " ++ option.label

end PixelBuffer.Main

open PixelBuffer in
/-- Runs the probe with the given arguments. -/
def main (arguments : List String) : IO UInt32 := do
  let mut environment : List (String × String) := []
  for name in CommandOption.all.filterMap CommandOption.environmentName? do
    if let some value ← IO.getEnv name then
      environment := (name, value) :: environment
  match CommandLine.read (fun name => environment.lookup name) arguments with
  | .error .help =>
      Main.summary.forM IO.println
      return 0
  | .error .version =>
      IO.println "framebuffer-probe 0.0.0"
      return 0
  | .error fault =>
      IO.eprintln ((fault.message? .stream).getD "")
      return 2
  | .ok settings =>
      let run := Probe.run settings
      (run.output Main.showDescriptor settings).forM IO.println
      (run.diagnostics Main.showDescriptor settings).forM IO.eprintln
      return UInt32.ofNat run.exitStatus
