import StagedBuild.Toml.Quoted

/-!
# Writing quoted strings

A string is written in the first form that can hold it without escapes, tried in the order basic,
literal, basic of several lines, literal of several lines. A string that no form can hold so is
written with escapes. Plain words always take the basic form.
-/

namespace StagedBuild.Toml.Quoted

/-- An ASCII control character other than tab and newline. -/
def needsCode (c : Char) : Bool :=
  (c.toNat < 0x20 || c.toNat == 0x7F) && c != '\t' && c != '\n'

/-- A character of a plain word. -/
def isWordChar (c : Char) : Bool :=
  c.isAlphanum || c == '-' || c == '_' || c == '.' || c == '/' || c == ':' || c == ' '

/-- The text has more than two of the quote in a row. -/
def hasLongRun (quote : Char) : List Char → Bool
  | [] => false
  | c :: rest => ((c :: rest).take 3 == [quote, quote, quote]) || hasLongRun quote rest

/-- How a string is written. -/
inductive Form where
  | basic
  | literal
  | multilineBasic
  | multilineLiteral
  deriving DecidableEq, Repr

/-- The first form that can hold the text. -/
def formOf (text : List Char) : Form :=
  let newline := text.contains '\n'
  let coded := text.any needsCode
  let slashed := text.contains '\\'
  if text.all isWordChar then .basic
  else if !coded && !slashed && !text.contains '"' && !newline then .basic
  else if !coded && !text.contains '\'' && !newline then .literal
  else if !coded && !slashed && !hasLongRun '"' text then .multilineBasic
  else if !coded && !hasLongRun '\'' text then .multilineLiteral
  else if newline then .multilineBasic
  else .basic

/-- A hexadecimal digit in upper case. -/
def upperHex (n : Nat) : Char :=
  if n < 10 then Char.ofNat ('0'.toNat + n) else Char.ofNat ('A'.toNat + n - 10)

/-- A character inside a basic string, quotes and newlines apart. -/
def escaped (c : Char) : List Char :=
  if c = '\x08' then ['\\', 'b']
  else if c = '\t' then ['\\', 't']
  else if c = '\x0c' then ['\\', 'f']
  else if c = '\r' then ['\\', 'r']
  else if c = '\\' then ['\\', '\\']
  else if needsCode c then
    ['\\', 'u', '0', '0', upperHex (c.toNat / 16), upperHex (c.toNat % 16)]
  else [c]

/-- The inside of a basic string of one line: every quote is escaped. -/
def basicBody : List Char → List Char
  | [] => []
  | c :: rest =>
    if c = '"' then '\\' :: '"' :: basicBody rest
    else if c = '\n' then '\\' :: 'n' :: basicBody rest
    else escaped c ++ basicBody rest

/-- The inside of a basic string of several lines. Every third quote of a run is escaped; `run` is
the number of quotes since the last other character or escape. -/
def multilineBasicBody : (run : Nat) → List Char → List Char
  | _, [] => []
  | run, c :: rest =>
    if c = '"' then
      if run < 2 then '"' :: multilineBasicBody (run + 1) rest
      else '\\' :: '"' :: multilineBasicBody 0 rest
    else if c = '\n' then '\n' :: multilineBasicBody 0 rest
    else escaped c ++ multilineBasicBody 0 rest

/-- The text between the opening quotes of several lines and the string. -/
def opening (text : List Char) : List Char :=
  if text.contains '\n' then ['\n'] else []

/-- The string with its quotes. -/
def write (text : List Char) : List Char :=
  match formOf text with
  | .basic => '"' :: basicBody text ++ ['"']
  | .literal => '\'' :: text ++ ['\'']
  | .multilineBasic =>
    ['"', '"', '"'] ++ opening text ++ multilineBasicBody 0 text ++ ['"', '"', '"']
  | .multilineLiteral => ['\'', '\'', '\''] ++ opening text ++ text ++ ['\'', '\'', '\'']

end StagedBuild.Toml.Quoted
