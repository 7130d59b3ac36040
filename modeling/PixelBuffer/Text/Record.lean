/-!
# Structured text

Diagnostics show a structured value as its name and its parts: a record lists labelled fields in
braces, a tagged value holds one part in parentheses, and a sequence lists its items in brackets.
-/

namespace PixelBuffer.Text

/-- A record: its name, then its labelled fields in braces. -/
def record (name : String) (fields : List (String × String)) : String :=
  let parts := fields.map fun field => field.1 ++ ": " ++ field.2
  name ++ " \x7b " ++ ", ".intercalate parts ++ " \x7d"

/-- A value with one unlabelled part. -/
def tagged (name part : String) : String :=
  name ++ "(" ++ part ++ ")"

/-- Items in order, in brackets. -/
def sequence (items : List String) : String :=
  "[" ++ ", ".intercalate items ++ "]"

end PixelBuffer.Text
