import PixelBuffer.CommandLine.Fault

/-!
# Settings of the probe

`Choices` holds what was given so far, `Settings` what holds in the end. `Choices.give` gives an
option its values, `Choices.settle` fills in the defaults.
-/

namespace PixelBuffer

/-- The options given so far. -/
structure Choices where
  format? : Option Int32 := none
  size? : Option (List Int32) := none
  usage? : Option Usage := none
  memory? : Option Memory := none
  align? : Option UInt32 := none
  count? : Option UInt64 := none
  json? : Option Bool := none
  verbose? : Option Bool := none
  journald? : Option Bool := none
deriving DecidableEq

/-- What a run of the probe does. -/
structure Settings where
  /-- Device code of the pixel format. -/
  format : Int32
  /-- Width and height, if there are two numbers. -/
  size : List Int32
  usage : Usage
  memory : Memory
  align : UInt32
  count : UInt64
  json : Bool
  verbose : Bool
  journald : Bool
deriving DecidableEq

/-- Why settings give no size. -/
inductive SizeFault where
  /-- A dimension is not positive. -/
  | failure (failure : Failure)
  /-- There are not two numbers. -/
  | notTwo (numbers : List Int32)
deriving DecidableEq

/-- A device code or its fault. -/
def readFormat (text : String) : Except ValueFault Int32 :=
  match Number.readInteger text.toList with
  | .error fault => .error (.code text fault)
  | .ok code =>
      if -0x80000000 ≤ code ∧ code < 0x80000000 then .ok (Int32.ofInt code)
      else .error (.codeRange text)

/-- A usage mask or its fault. A negative number stands for the mask with the same 64 bits. -/
def readUsage (text : String) : Except ValueFault Usage :=
  match Number.readInteger text.toList with
  | .error fault => .error (.code text fault)
  | .ok bits => .ok ⟨(Int64.ofInt bits).toUInt64⟩

/-- A decimal number between two limits, or its fault. -/
def readRange (low high : Int) (text : String) : Except ValueFault Int :=
  match Number.readSigned 10 text.toList with
  | .error fault => .error (.number fault)
  | .ok number =>
      if low ≤ number ∧ number ≤ high then .ok number else .error (.range number low high)

/-- One dimension or its fault. -/
def readDimension (text : String) : Except ValueFault Int32 :=
  (readRange (-0x80000000) 0x7FFFFFFF text).map Int32.ofInt

/-- An alignment or its fault. -/
def readAlign (text : String) : Except ValueFault UInt32 :=
  (readRange 0 0xFFFFFFFF text).map fun number => UInt32.ofNat number.toNat

/-- A number of buffers or its fault. -/
def readCount (text : String) : Except ValueFault UInt64 :=
  match Number.readUnsigned 10 text.toList with
  | .error fault => .error (.number fault)
  | .ok count => .ok (UInt64.ofNat count)

namespace Choices

/-- Whether an option was given. -/
def has (choices : Choices) : CommandOption → Bool
  | .format => choices.format?.isSome
  | .size => choices.size?.isSome
  | .usage => choices.usage?.isSome
  | .memory => choices.memory?.isSome
  | .align => choices.align?.isSome
  | .count => choices.count?.isSome
  | .json => choices.json?.isSome
  | .verbose => choices.verbose?.isSome
  | .journald => choices.journald?.isSome
  | .help | .version => false

/-- Reads values in order up to the first fault. -/
def readAll {α : Type} (option : CommandOption) (read : String → Except ValueFault α) :
    List String → Except CommandFault (List α)
  | [] => .ok []
  | value :: rest =>
      match read value with
      | .error fault => .error (.invalid option value fault)
      | .ok first => (readAll option read rest).map (first :: ·)

/-- Reads the only value of an option. -/
def readOne {α : Type} (option : CommandOption) (read : String → Except ValueFault α) :
    List String → Except CommandFault α
  | [value] =>
      match read value with
      | .error fault => .error (.invalid option value fault)
      | .ok result => .ok result
  | _ => .error (.missingValue option)

/-- Whether a switch is on: without a value, or with the word for it. -/
def readSwitch (option : CommandOption) : List String → Except CommandFault Bool
  | [] => .ok true
  | value :: _ =>
      if value = "true" then .ok true
      else if value = "false" then .ok false
      else .error (.notAWord option value)

/-- The memory that a word selects. -/
def readMemory : List String → Except CommandFault Memory
  | [value] =>
      match Memory.ofWord? value with
      | some memory => .ok memory
      | none => .error (.notAWord .memory value)
  | _ => .error (.missingValue .memory)

/-- Gives an option its values. The size takes any number of values, each of which may hold several
numbers separated by spaces, and numbers given later follow those given before. -/
def give (choices : Choices) (option : CommandOption) (values : List String) :
    Except CommandFault Choices := do
  match option with
  | .format => pure { choices with format? := some (← readOne .format readFormat values) }
  | .size =>
      let numbers ← readAll .size readDimension (values.flatMap fun value => value.splitOn " ")
      pure { choices with size? := some (choices.size?.getD [] ++ numbers) }
  | .usage => pure { choices with usage? := some (← readOne .usage readUsage values) }
  | .memory => pure { choices with memory? := some (← readMemory values) }
  | .align => pure { choices with align? := some (← readOne .align readAlign values) }
  | .count => pure { choices with count? := some (← readOne .count readCount values) }
  | .json => pure { choices with json? := some (← readSwitch .json values) }
  | .verbose => pure { choices with verbose? := some (← readSwitch .verbose values) }
  | .journald => pure { choices with journald? := some (← readSwitch .journald values) }
  | .help => .error .help
  | .version => .error .version

/-- The settings with defaults for what was not given. -/
def settle (choices : Choices) : Settings where
  format := choices.format?.getD 0x23
  size := choices.size?.getD [1920, 1080]
  usage := choices.usage?.getD ⟨0x40000⟩
  memory := choices.memory?.getD (.heap .cma)
  align := choices.align?.getD 64
  count := choices.count?.getD 1
  json := choices.json?.getD false
  verbose := choices.verbose?.getD false
  journald := choices.journald?.getD false

end Choices

namespace SizeFault

/-- The wording of a fault. -/
def message : SizeFault → String
  | .failure cause => cause.message
  | .notTwo numbers =>
      "expected \"WIDTH HEIGHT\", got " ++
        Text.sequence (numbers.map fun number => toString number.toInt)

/-- The shape of a fault in diagnostics. -/
def description : SizeFault → String
  | .failure cause => cause.description
  | .notTwo numbers => Text.quoted (message (.notTwo numbers))

end SizeFault

namespace Settings

/-- The size of the buffers. -/
def frameSize (settings : Settings) : Except SizeFault Size :=
  match settings.size with
  | [width, height] =>
      match Size.ofSigned width height with
      | .ok size => .ok size
      | .error failure => .error (.failure failure)
  | numbers => .error (.notTwo numbers)

end Settings

end PixelBuffer
