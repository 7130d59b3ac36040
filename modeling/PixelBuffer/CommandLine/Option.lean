import PixelBuffer.Event

/-!
# Options of the probe

Each option has a long name, some have a letter, and those that take values have a name for them and
a number of values. Most can also be given by a variable of the environment.
-/

namespace PixelBuffer

/-- Where the memory of buffers comes from. -/
inductive Memory where
  | heap (kind : HeapKind)
  /-- Anonymous files, for machines without heaps. -/
  | anonymous
deriving DecidableEq

namespace Memory

/-- The word that selects a memory. -/
def word : Memory → String
  | .heap .cma => "cma"
  | .heap .system => "system"
  | .anonymous => "memfd"

/-- The name of a memory. -/
def text : Memory → String
  | .heap kind => kind.text
  | .anonymous => "Memfd"

/-- The memories that can be selected. -/
def all : List Memory := [.heap .cma, .heap .system, .anonymous]

/-- The memory that a word selects. -/
def ofWord? (word : String) : Option Memory :=
  all.find? (·.word = word)

/-- The heap, if the memory is one. -/
def heap? : Memory → Option HeapKind
  | .heap kind => some kind
  | .anonymous => none

end Memory

/-- Something that the command line can say. -/
inductive CommandOption where
  | format
  | size
  | usage
  | memory
  | align
  | count
  | json
  | verbose
  | journald
  | help
  | version
deriving DecidableEq

namespace CommandOption

/-- All options, in the order in which the environment is consulted. -/
def all : List CommandOption :=
  [.format, .size, .usage, .memory, .align, .count, .json, .verbose, .journald, .help, .version]

/-- The name after two dashes. -/
def long : CommandOption → String
  | .format => "format"
  | .size => "size"
  | .usage => "usage"
  | .memory => "heap"
  | .align => "stride-align"
  | .count => "count"
  | .json => "json"
  | .verbose => "verbose"
  | .journald => "journald"
  | .help => "help"
  | .version => "version"

/-- The letter after one dash. -/
def letter? : CommandOption → Option Char
  | .verbose => some 'v'
  | .help => some 'h'
  | .version => some 'V'
  | _ => none

/-- Names for the values that an option takes. -/
def valueNames : CommandOption → List String
  | .format => ["FORMAT"]
  | .size => ["SIZE", "SIZE"]
  | .usage => ["USAGE"]
  | .memory => ["HEAP"]
  | .align => ["STRIDE_ALIGN"]
  | .count => ["COUNT"]
  | .json | .verbose | .journald | .help | .version => []

/-- Number of values that one occurrence takes. -/
def arity (option : CommandOption) : Nat :=
  option.valueNames.length

/-- The variable of the environment that can stand for an option. -/
def environmentName? : CommandOption → Option String
  | .format => some "FORMAT"
  | .size => some "SIZE"
  | .usage => some "USAGE"
  | .memory => some "HEAP"
  | .align => some "STRIDE_ALIGN"
  | .count => some "COUNT"
  | .journald => some "JOURNALD"
  | .json | .verbose | .help | .version => none

/-- The option with its values, as it is named in messages. -/
def label (option : CommandOption) : String :=
  "--" ++ option.long ++ String.join (option.valueNames.map fun name => " <" ++ name ++ ">")

/-- The option with a long name. -/
def ofLong? (name : String) : Option CommandOption :=
  all.find? (·.long = name)

/-- The option with a letter. -/
def ofLetter? (letter : Char) : Option CommandOption :=
  all.find? (·.letter? = some letter)

end CommandOption

end PixelBuffer
