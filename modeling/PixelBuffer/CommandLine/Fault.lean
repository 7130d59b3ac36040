import PixelBuffer.CommandLine.Option
import PixelBuffer.Number
import PixelBuffer.Text.Quoted
import PixelBuffer.Text.Terminal

/-!
# Faults of a command line

A fault names the argument or the value that it is about, as a terminal shows it.
-/

namespace PixelBuffer

/-- Why a value is not acceptable for an option that takes numbers. -/
inductive ValueFault where
  /-- The text is not a number. -/
  | number (fault : NumberFault)
  /-- The text is not a code or a mask. -/
  | code (text : String) (fault : NumberFault)
  /-- The number is not a 32-bit device code. -/
  | codeRange (text : String)
  /-- The number is not within its limits. -/
  | range (number low high : Int)
deriving DecidableEq

/-- Why a command line is not run. -/
inductive CommandFault where
  /-- Help was asked for. -/
  | help
  /-- The version was asked for. -/
  | version
  /-- No option is written like this. -/
  | unknown (argument : String)
  /-- An option that may occur once occurs again. -/
  | repeated (option : CommandOption)
  /-- A value was given to an option that takes none. -/
  | unexpectedValue (option : CommandOption) (value : String)
  /-- An option has no value at all. -/
  | missingValue (option : CommandOption)
  /-- An option has too few values. -/
  | tooFewValues (option : CommandOption) (count : Nat)
  /-- A value is not one of the words that an option knows. -/
  | notAWord (option : CommandOption) (value : String)
  /-- A value is not acceptable as a number. -/
  | invalid (option : CommandOption) (value : String) (fault : ValueFault)
deriving DecidableEq

namespace ValueFault

/-- The wording of a fault. -/
def message : ValueFault → String
  | .number fault => fault.message
  | .code text fault => "invalid number " ++ Text.quoted text ++ ": " ++ fault.message
  | .codeRange text => "format code " ++ text ++ " out of range"
  | .range value low high =>
      toString value ++ " is not in " ++ toString low ++ "..=" ++ toString high

end ValueFault

namespace CommandFault

/-- A text given by the user between quotation marks, as a terminal shows it. -/
def mention (medium : Text.Medium) (text : String) : String :=
  "'" ++ Text.shown medium text ++ "'"

/-- The wording of a fault; asking for help or for the version is none. -/
def message? (medium : Text.Medium) : CommandFault → Option String
  | .help | .version => none
  | .unknown argument =>
      some ("error: unexpected argument " ++ mention medium argument ++ " found")
  | .repeated option =>
      some ("error: the argument '" ++ option.label ++ "' cannot be used multiple times")
  | .unexpectedValue option value =>
      some ("error: unexpected value " ++ mention medium value ++ " for '" ++ option.label ++
        "' found; no more were expected")
  | .missingValue option =>
      some ("error: a value is required for '" ++ option.label ++ "' but none was supplied")
  | .tooFewValues option count =>
      some ("error: " ++ toString option.arity ++ " values required for '" ++ option.label ++
        "' but " ++ toString count ++ (if count = 1 then " was" else " were") ++ " provided")
  | .notAWord option value =>
      some (if value.isEmpty then
          "error: a value is required for '" ++ option.label ++ "' but none was supplied"
        else "error: invalid value " ++ mention medium value ++ " for '" ++ option.label ++ "'")
  | .invalid option value fault =>
      some ("error: invalid value " ++ mention medium value ++ " for '" ++ option.label ++ "': " ++
        fault.message)

/-- The first line of the wording. -/
def headline? (medium : Text.Medium) (fault : CommandFault) : Option String :=
  (fault.message? medium).map Text.firstLine

end CommandFault

end PixelBuffer
