/-!
# What a terminal shows of a text

A text may hold characters that steer a terminal. `shown` keeps what is left to read: control
characters other than white space are dropped, and so are control sequences. A sequence begins with
the escape character. Most sequences are one character long or have parameters up to a final
character; commands and strings go on until they are ended. Every sequence breaks off where another
one begins or where it is cancelled. White space within a sequence of the first two kinds is shown,
and the sequence breaks off there if the text stands by itself; a stream goes on with the sequence
at the next control character. The main statement, `shownChars_of_printable`, says that text without
any control character is shown as it is.
-/

namespace PixelBuffer.Text

/-- Where a text is shown. -/
inductive Medium where
  /-- It stands by itself. -/
  | text
  /-- It is written to a stream. -/
  | stream
deriving DecidableEq

/-- Where a terminal stands in a text. -/
inductive TerminalState where
  /-- Outside of any sequence. -/
  | ground
  /-- Behind an escape character. -/
  | escape
  /-- In a sequence that selects something, before its final character. -/
  | selection
  /-- In a sequence with parameters, before its final character. -/
  | parameters
  /-- In a command to the terminal, which a bell ends. -/
  | command
  /-- At the beginning of the head of a string for a device. -/
  | head
  /-- Among the parameters in the head of a string for a device. -/
  | headParameters
  /-- Behind the parameters in the head of a string for a device. -/
  | headEnd
  /-- In a string for a device, which a string terminator ends. -/
  | string
deriving DecidableEq

/-- A control character that is also white space: tab, line feed, form feed or carriage return. -/
def isControlSpace (c : Char) : Bool :=
  c = '\t' || c = '\n' || c = '\x0c' || c = '\r'

/-- A visible ASCII character or the space. -/
def isPrintable (c : Char) : Bool :=
  0x20 ≤ c.toNat && c.toNat < 0x7f

/-- A character that is written with the byte of the string terminator, alone or among others. -/
def holdsTerminator (c : Char) : Bool :=
  (String.utf8EncodeChar c).contains 0x9c

namespace TerminalState

/-- The state behind a visible character that follows an escape character. -/
def afterEscape (c : Char) : TerminalState :=
  if c.toNat < 0x30 then .selection
  else if c = '[' then .parameters
  else if c = ']' then .command
  else if c = 'P' then .head
  else if c = 'X' ∨ c = '^' ∨ c = '_' then .string
  else .ground

/-- The state behind a visible character inside a sequence. -/
def advance (state : TerminalState) (c : Char) : TerminalState :=
  match state with
  | .ground => .ground
  | .escape => afterEscape c
  | .selection => if c.toNat < 0x30 then .selection else .ground
  | .parameters => if c.toNat < 0x40 then .parameters else .ground
  | .command => .command
  | .head =>
      if c.toNat < 0x30 then .headEnd else if c.toNat < 0x40 then .headParameters else .string
  | .headParameters =>
      if c.toNat < 0x30 then .headEnd else if c.toNat < 0x3c then .headParameters else .string
  | .headEnd => if c.toNat < 0x30 then .headEnd else .string
  | .string => .string

/-- Whether white space inside a sequence is shown. -/
def showsSpace : TerminalState → Bool
  | .ground | .escape | .selection | .parameters => true
  | .command | .head | .headParameters | .headEnd | .string => false

/-- Reads one character: the state behind it, and whether it is shown. -/
def read (state : TerminalState) (c : Char) : TerminalState × Bool :=
  if c = '\x1b' then (.escape, false)
  else if c = '\x18' ∨ c = '\x1a' then (.ground, false)
  else if state = .command ∧ c = '\x07' then (.ground, false)
  else if state = .string ∧ holdsTerminator c then (.ground, false)
  else if isControlSpace c then (state, state.showsSpace)
  else if isPrintable c then (state.advance c, state = .ground)
  else (state, state = .ground ∧ 0x80 ≤ c.toNat)

end TerminalState

/-- How far a text has been shown. -/
structure Display where
  state : TerminalState := .ground
  /-- White space was met in a sequence, and all is shown until the sequence goes on. -/
  suspended : Bool := false
deriving DecidableEq

namespace Display

/-- Reads one character in a suspended sequence, which a control character resumes and a character
beyond ASCII gives up. -/
def readSuspended (display : Display) (c : Char) : Display × Bool :=
  if isControlSpace c ∨ isPrintable c then (display, true)
  else if 0x80 ≤ c.toNat then ({}, true)
  else ({ state := (display.state.read c).1 }, false)

/-- Reads one character: how far the text has been shown then, and whether it is shown. -/
def read (medium : Medium) (display : Display) (c : Char) : Display × Bool :=
  if display.suspended then display.readSuspended c
  else
    match display.state.read c with
    | (state, false) => ({ state := state }, false)
    | (.ground, true) => ({}, true)
    | (state, true) =>
        match medium with
        | .text => ({}, true)
        | .stream => ({ state := state, suspended := true }, true)

end Display

/-- The characters of a text that a terminal shows, going on from the given place. -/
def shownChars (medium : Medium) : Display → List Char → List Char
  | _, [] => []
  | display, c :: rest =>
      match display.read medium c with
      | (next, true) => c :: shownChars medium next rest
      | (next, false) => shownChars medium next rest

/-- What a terminal shows of a text. -/
def shown (medium : Medium) (text : String) : String :=
  String.ofList (shownChars medium {} text.toList)

/-- The first line of a text, without the line end behind it: a line feed, or a carriage return and
a line feed. -/
def firstLine (text : String) : String :=
  String.ofList (go text.toList)
where
  /-- Reads up to the end of the line. -/
  go : List Char → List Char
    | [] => []
    | '\n' :: _ => []
    | '\r' :: '\n' :: _ => []
    | c :: rest => c :: go rest

/-- Visible ASCII and the space are shown as they are. -/
theorem shownChars_of_printable {medium : Medium} {chars : List Char}
    (h : ∀ c ∈ chars, isPrintable c) : shownChars medium {} chars = chars := by
  induction chars with
  | nil => rfl
  | cons c rest ih =>
      have hc : isPrintable c = true := h c (List.mem_cons_self ..)
      have hread : TerminalState.ground.read c = (.ground, true) := by
        have hrange : 0x20 ≤ c.toNat ∧ c.toNat < 0x7f := by simpa [isPrintable] using hc
        have hne : ∀ d : Char, d.toNat < 0x20 → c ≠ d := by
          intro d hd hcd
          subst hcd
          omega
        simp [TerminalState.read, TerminalState.advance, hc, isControlSpace,
          hne '\x1b' (by decide), hne '\x18' (by decide), hne '\x1a' (by decide),
          hne '\t' (by decide), hne '\n' (by decide), hne '\x0c' (by decide),
          hne '\r' (by decide)]
      have hdisplay : Display.read medium {} c = ({}, true) := by
        simp [Display.read, hread]
      simp only [shownChars, hdisplay]
      rw [ih fun d hd => h d (List.mem_cons_of_mem _ hd)]

end PixelBuffer.Text
