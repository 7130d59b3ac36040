import PixelBuffer.CommandLine.Settings

/-!
# Reading a command line

Arguments are read from left to right. An option that waits for values takes the arguments that
follow; it is given its values when the next option begins or the arguments end, so a fault in a
value is found then, unless an argument that no option knows is met before. Options that were not
given take their values from the environment, and then the defaults.
-/

namespace PixelBuffer

namespace CommandLine

/-- An option and the values that followed it. -/
structure Pending where
  option : CommandOption
  values : List String := []

/-- How far a command line has been read. -/
structure Reading where
  choices : Choices := {}
  pending? : Option Pending := none
  /-- Two dashes alone were met: nothing after them is an option. -/
  ended : Bool := false

/-- What one argument is, before anything is known about the options. -/
inductive Argument where
  /-- Two dashes alone. -/
  | terminator
  /-- Two dashes and a name, perhaps with a value after an equals sign. -/
  | long (name : String) (value? : Option String)
  /-- One dash and letters. -/
  | letters (letters : List Char)
  /-- Anything else. -/
  | plain

/-- A text up to the first equals sign, and what follows the sign. -/
def splitValue (chars : List Char) : String × Option String :=
  let name := chars.takeWhile (· ≠ '=')
  match chars.dropWhile (· ≠ '=') with
  | [] => (String.ofList name, none)
  | _ :: value => (String.ofList name, some (String.ofList value))

/-- Recognizes the form of an argument. -/
def Argument.ofText (text : String) : Argument :=
  match text.toList with
  | ['-', '-'] => .terminator
  | '-' :: '-' :: rest =>
      let (name, value?) := splitValue rest
      .long name value?
  | '-' :: first :: rest => .letters (first :: rest)
  | _ => .plain

/-- Whether characters after a dash make a number: digits, with at most one point, which is not the
first character and not behind the exponent, and at most one exponent mark, small or capital, which
is neither the first character nor the last. -/
def isNumber (chars : List Char) : Bool :=
  go chars true false false
where
  /-- Reads on, knowing whether a character was read, a point seen and an exponent begun. -/
  go : List Char → (first point exponent : Bool) → Bool
    | [], _, _, _ => true
    | c :: rest, first, point, exponent =>
        if '0' ≤ c ∧ c ≤ '9' then go rest false point exponent
        else if c = '.' then !point && !exponent && !first && go rest false true exponent
        else if c = 'e' ∨ c = 'E' then
          !exponent && !first && !rest.isEmpty && go rest false point true
        else false

/-- Gives an option the values that one occurrence on the command line has. -/
def occur (choices : Choices) (option : CommandOption) (values : List String) :
    Except CommandFault Choices :=
  if values.isEmpty ∧ option.arity ≠ 0 then .error (.missingValue option)
  else if values.length ≠ option.arity then .error (.tooFewValues option values.length)
  else if option ≠ .size ∧ choices.has option then .error (.repeated option)
  else choices.give option values

namespace Reading

/-- Gives the pending option its values. -/
def settlePending (reading : Reading) : Except CommandFault Reading :=
  match reading.pending? with
  | none => .ok reading
  | some pending => do
      let choices ← occur reading.choices pending.option pending.values
      pure { reading with choices := choices, pending? := none }

/-- The pending option, if it still takes values. -/
def waiting? (reading : Reading) : Option Pending :=
  reading.pending?.filter fun pending => pending.values.length < pending.option.arity

/-- Gives an option its values, after the pending one. -/
def occurNow (reading : Reading) (option : CommandOption) (values : List String) :
    Except CommandFault Reading := do
  let reading ← reading.settlePending
  let choices ← occur reading.choices option values
  pure { reading with choices := choices }

/-- Reads an option by its long name. -/
def long (reading : Reading) (name : String) (value? : Option String) :
    Except CommandFault Reading :=
  match CommandOption.ofLong? name with
  | none => .error (.unknown ("--" ++ name))
  | some option =>
      match value? with
      | some value =>
          if option.arity = 0 then .error (.unexpectedValue option value)
          else reading.occurNow option [value]
      | none =>
          if option.arity = 0 then reading.occurNow option []
          else do
            let reading ← reading.settlePending
            pure { reading with pending? := some { option := option } }

/-- Reads switches by their letters. -/
def letters (reading : Reading) : List Char → Except CommandFault Reading
  | [] => .ok reading
  | letter :: rest =>
      match CommandOption.ofLetter? letter with
      | none => .error (.unknown (String.ofList ['-', letter]))
      | some option => do
          let reading ← reading.occurNow option []
          reading.letters rest

/-- Takes an argument as a value of the option that waits for one. -/
def value (reading : Reading) (text : String) : Except CommandFault Reading :=
  match reading.waiting? with
  | none => .error (.unknown text)
  | some pending =>
      .ok { reading with pending? := some { pending with values := pending.values ++ [text] } }

/-- Reads one argument. -/
def argument (reading : Reading) (text : String) : Except CommandFault Reading :=
  if reading.ended then .error (.unknown text)
  else
    match Argument.ofText text with
    | .terminator => .ok { reading with ended := true }
    | .long name value? => reading.long name value?
    | .letters letters =>
        if (reading.waiting?.any (·.option = .size)) && isNumber letters then reading.value text
        else reading.letters letters
    | .plain => reading.value text

end Reading

/-- Gives an option its value from the environment, if it was not given and the environment has
one. -/
def consult (environment : String → Option String) (choices : Choices) (option : CommandOption) :
    Except CommandFault Choices :=
  if choices.has option then .ok choices
  else
    match option.environmentName?.bind environment with
    | none => .ok choices
    | some value => choices.give option [value]

/-- Reads a command line in an environment. -/
def read (environment : String → Option String) (arguments : List String) :
    Except CommandFault Settings := do
  let reading ← arguments.foldlM Reading.argument {}
  let reading ← reading.settlePending
  let choices ← CommandOption.all.foldlM (consult environment) reading.choices
  pure choices.settle

end CommandLine

end PixelBuffer
