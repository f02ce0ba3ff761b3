import StagedBuild.Script.Numeral
import StagedBuild.Script.Quotation
import StagedBuild.Text.Octets

/-!
# Printing

The tools that print their arguments, plainly or as a format says. They exist twice, as part of the
shell and as programs of the system, and the two differ in their escapes and in what they say about
arguments that do not fit. The result is what is printed and what is complained about, in order.
-/

namespace StagedBuild.Script

/-- What a tool writes: output, or a complaint. -/
inductive Written where
  | output (text : String)
  | complaint (text : String)
  deriving DecidableEq, Repr

/-- How a tool ended, and what it wrote. -/
structure Printed where
  status : Nat
  written : List Written
  deriving DecidableEq, Repr

/-- Whether a tool is part of the shell or a program of the system, which takes octets for characters
of a charset. -/
inductive Origin where
  | shell
  | system (charset : Text.Charset)
  deriving DecidableEq, Repr

/-- The tool is a program of the system. -/
def Origin.isSystem : Origin → Bool
  | .shell => false
  | .system _ => true

namespace Print

/-- The value of at most `count` digits of a base, and what follows them. -/
def digits (base : Nat) : (count value : Nat) → List Char → Nat × List Char
  | 0, value, rest => (value, rest)
  | count + 1, value, c :: rest =>
    if Numeral.isDigitIn base c then
      digits base count (value * base + (Numeral.digit? c).getD 0) rest
    else (value, c :: rest)
  | _ + 1, value, [] => (value, [])

/-- The octet of a number. -/
def octet (value : Nat) : Char := Text.Octets.ofByte (UInt8.ofNat value)

/-- The character that a letter stands for after a backslash. -/
def letter? : Char → Option Char
  | 'a' => some '\x07'
  | 'b' => some '\x08'
  | 'e' => some '\x1b'
  | 'f' => some '\x0c'
  | 'n' => some '\n'
  | 'r' => some '\r'
  | 't' => some '\t'
  | 'v' => some '\x0b'
  | '\\' => some '\\'
  | _ => none

/-- Whose escapes are read: those of the shell, of the program `echo`, or of the program `printf`. -/
inductive Dialect where
  | shell
  | echo
  | printf (charset : Text.Charset)
  deriving DecidableEq, Repr

/-- What an escape stands for. -/
inductive Escape where
  | chars (text : List Char)
  /-- Nothing more is printed. -/
  | stop
  /-- The digits are missing. -/
  | damaged
  /-- The number is that of no character that may be written so. -/
  | misnamed (letter : Char) (places value : Nat)
  deriving DecidableEq, Repr

/-- A number to the base sixteen with at least so many digits. -/
def hexadecimal (places value : Nat) (upper : Bool) : List Char :=
  let digits := Numeral.digits 16 upper value
  List.replicate (places - digits.length) '0' ++ digits

/-- The character of a number, or its name where the charset does not have it. -/
def unicode (charset : Text.Charset) (value : Nat) : List Char :=
  if charset = .utf8 ∨ value < 128 then
    (Text.Octets.ofText (Char.ofNat value).toString).toList
  else if value < 65536 then '\\' :: 'u' :: hexadecimal 4 value true
  else '\\' :: 'U' :: hexadecimal 8 value true

/-- Reads an escape that names a character by `places` digits behind a letter. -/
def named (charset : Text.Charset) (letter : Char) (places : Nat) (rest : List Char) :
    Escape × List Char :=
  let (value, after) := digits 16 places 0 rest
  if after.length + places != rest.length then (.damaged, rest)
  else if (value < 160 && !(['$', '@', '`'].contains (Char.ofNat value))) ||
      (0xD800 ≤ value && value < 0xE000) then (.misnamed letter places value, after)
  else (.chars (unicode charset value), after)

/-- Reads an escape after its backslash. In an `argument` an octal number may have a zero before
its three digits, and `\c` ends everything; in a format of the program it ends everything too. -/
def escape (dialect : Dialect) (argument : Bool) : List Char → Escape × List Char
  | [] => (.chars ['\\'], [])
  | c :: rest =>
    if c = 'c' ∧ (argument ∨ dialect ≠ .shell) then (.stop, rest)
    else if argument ∧ c = '0' then
      let (value, rest) := digits 8 3 0 rest
      (.chars [octet value], rest)
    else if Numeral.isDigitIn 8 c then
      let (value, rest) := digits 8 3 0 (c :: rest)
      (.chars [octet value], rest)
    else match letter? c, dialect with
      | some found, _ => (.chars [found], rest)
      | none, .shell => (.chars ['\\'], c :: rest)
      | none, dialect =>
        if c = 'x' then
          let (value, after) := digits 16 2 0 rest
          if after.length = rest.length then (.damaged, rest) else (.chars [octet value], after)
        else match dialect, c with
          | .printf _, '"' => (.chars ['"'], rest)
          | .printf charset, 'u' => named charset 'u' 4 rest
          | .printf charset, 'U' => named charset 'U' 8 rest
          | _, c => (.chars ['\\'], c :: rest)

theorem digits_length_le (base count value : Nat) (text : List Char) :
    (digits base count value text).2.length ≤ text.length := by
  fun_induction digits base count value text with
  | case1 => exact Nat.le_refl _
  | case2 count value c rest _ ih => exact Nat.le_succ_of_le ih
  | case3 => exact Nat.le_refl _
  | case4 => exact Nat.le_refl _

theorem named_length_le (charset : Text.Charset) (letter : Char) (places : Nat)
    (text : List Char) : (named charset letter places text).2.length ≤ text.length := by
  unfold named
  dsimp only
  split
  · exact Nat.le_refl _
  · split <;> exact digits_length_le ..

theorem escape_length_le (dialect : Dialect) (argument : Bool) (text : List Char) :
    (escape dialect argument text).2.length ≤ text.length := by
  have one (c : Char) (rest : List Char) : rest.length ≤ (c :: rest).length := by simp
  unfold escape
  split
  · simp
  · rename_i c rest
    split
    · exact one ..
    · split
      · exact Nat.le_trans (digits_length_le ..) (one ..)
      · split
        · exact digits_length_le ..
        · split
          · exact one ..
          · exact Nat.le_refl _
          · split
            · dsimp only
              split
              · exact one ..
              · exact Nat.le_trans (digits_length_le ..) (one ..)
            · split
              · exact one ..
              · exact Nat.le_trans (named_length_le ..) (one ..)
              · exact Nat.le_trans (named_length_le ..) (one ..)
              · exact Nat.le_refl _

/-- Text whose escapes have been replaced, up to the first that cannot be or that ends it. -/
structure Unescaped where
  text : List Char
  ending : Option Escape := none

/-- Replaces the escapes of an argument. The program `echo` keeps those that are damaged. -/
def unescape (dialect : Dialect) : List Char → Unescaped
  | [] => ⟨[], none⟩
  | '\\' :: text =>
    let found := escape dialect true text
    match found.1 with
    | .chars chars =>
      let rest := unescape dialect found.2
      { rest with text := chars ++ rest.text }
    | .damaged =>
      if dialect = .echo then
        let rest := unescape dialect found.2
        { rest with text := '\\' :: 'x' :: rest.text }
      else ⟨[], some .damaged⟩
    | ending => ⟨[], some ending⟩
  | c :: text =>
    let rest := unescape dialect text
    { rest with text := c :: rest.text }
termination_by text => text.length
decreasing_by
  · exact Nat.lt_succ_of_le (escape_length_le ..)
  · exact Nat.lt_succ_of_le (escape_length_le ..)
  · simp

/-- What an `echo` prints that is part of the shell: the arguments with blanks between them and
their escapes replaced. A first argument `-n` leaves out the newline. -/
def echoInShell (args : List String) : String :=
  let (ending, shown) : List Char × List String := match args with
    | "-n" :: rest => ([], rest)
    | args => (['\n'], args)
  let found := unescape .shell (" ".intercalate shown).toList
  String.ofList (if found.ending.isSome then found.text else found.text ++ ending)

/-- Letters of the options of the program `echo`. -/
def isEchoOption (arg : String) : Bool :=
  match arg.toList with
  | '-' :: c :: rest => (c :: rest).all fun c => ['n', 'e', 'E'].contains c
  | _ => false

/-- What the program `echo` prints. Its options decide on the newline and on escapes. -/
def echoOfSystem (args : List String) : String :=
  let options := (args.takeWhile isEchoOption).flatMap String.toList
  let shown := (" ".intercalate (args.dropWhile isEchoOption)).toList
  let ending := if options.contains 'n' then [] else ['\n']
  let escapes := (options.filter fun c => c == 'e' || c == 'E').getLast? == some 'e'
  let found := if escapes then unescape .echo shown else ⟨shown, none⟩
  String.ofList (if found.ending.isSome then found.text else found.text ++ ending)

/-- What printing goes through: the arguments to come, what was written, in reverse, and the
status. -/
structure Printer where
  args : List String
  written : List Written := []
  status : Nat := 0

/-- Printing, until it has to stop. -/
abbrev Act := ExceptT Unit (StateM Printer)

/-- Prints text. -/
def put (text : List Char) : Act Unit :=
  modify fun printer =>
    { printer with written := .output (String.ofList text) :: printer.written }

/-- Complains, and fails in the end. -/
def complain (text : String) : Act Unit :=
  modify fun printer => { printer with written := .complaint text :: printer.written, status := 1 }

/-- Complains about something that is no failure. -/
def warn (text : String) : Act Unit :=
  modify fun printer =>
    { printer with written := .complaint ("warning: " ++ text) :: printer.written }

/-- Complains and stops. -/
def refuse {α : Type} (status : Nat) (text : String) : Act α := do
  complain text
  modify fun printer => { printer with status }
  throw ()

/-- Takes the next argument. -/
def argument? : Act (Option String) :=
  modifyGet fun printer => (printer.args.head?, { printer with args := printer.args.tail })

/-- Complains about an argument of which `rest` could not be understood. -/
def checkRead (origin : Origin) (arg : String) (rest : List Char) (inRange : Bool) : Act Unit := do
  let none := rest.length == arg.toList.length
  match origin with
  | .shell =>
    if !rest.isEmpty then
      complain (arg ++ (if none then ": expected numeric value" else ": not completely converted"))
    else if !inRange then complain (arg ++ ": Numerical result out of range")
  | .system charset =>
    let shown := Quotation.inQuotes charset arg
    if !inRange then complain (shown ++ ": Numerical result out of range")
    else if !rest.isEmpty then
      complain (shown ++ (if none then ": expected a numeric value"
        else ": value not completely converted"))

/-- The number of a character, if the argument is one after a quote. -/
def quoted? (origin : Origin) (arg : String) : Act (Option Nat) := do
  match arg.toList with
  | quote :: rest =>
    if quote = '\'' ∨ quote = '"' then
      match origin, rest with
      | .shell, [] => return some 0
      | .system _, [] => return none
      | .shell, c :: _ => return some c.toNat
      | .system charset, c :: more =>
        let (value, more) := match charset.spelt rest with
          | ⟨octets, some found⟩ :: _ => (found.toNat, rest.drop octets.length)
          | _ => (c.toNat, more)
        if !more.isEmpty then
          warn (String.ofList more ++
            ": character(s) following character constant have been ignored")
        return some value
    else return none
  | [] => return none

/-- The number that the next argument spells. -/
def integer (origin : Origin) (isSigned : Bool) : Act Int := do
  match ← argument? with
  | none => return 0
  | some arg =>
    match ← quoted? origin arg with
    | some value => return value
    | none =>
      let (value, rest) := Numeral.readInteger false arg.toList
      let limit : Int := 18446744073709551615
      let inRange := if isSigned then Numeral.fits value else -limit ≤ value && value ≤ limit
      checkRead origin arg rest inRange
      if isSigned then return Numeral.clamp value
      else if !inRange then return limit
      else return value % (limit + 1)

/-- The format of numbers with fractions. -/
def formatOf : Origin → Decimal.Format
  | .shell => .double
  | .system _ => .extended

/-- The number with a fraction that the next argument spells. -/
def real (origin : Origin) : Act Numeral.Real := do
  match ← argument? with
  | none => return .finite false 0 1
  | some arg =>
    match ← quoted? origin arg with
    | some value => return .finite false value 1
    | none =>
      let (found, rest) := Numeral.readReal (formatOf origin) arg.toList
      checkRead origin arg rest found.inRange
      return found.value

/-- Reads a width or a precision, which may be an argument. -/
def size (origin : Origin) (text : List Char) : Act (Option Int × List Char) := do
  match text with
  | '*' :: rest => return (some (← integer origin true), rest)
  | _ =>
    let digits := text.takeWhile Char.isDigit
    let value := if digits.isEmpty then none else some ((Numeral.ofDigits 10 digits : Nat) : Int)
    return (value, text.dropWhile Char.isDigit)

/-- Stops where an escape asks for it. -/
def endAt : Option Escape → Act Unit
  | none | some (.chars _) => return
  | some .stop => throw ()
  | some .damaged => refuse 1 "missing hexadecimal number in escape"
  | some (.misnamed letter places value) =>
    refuse 1 (String.ofList ("invalid universal character name \\".toList ++
      letter :: hexadecimal places value false))

/-- The escapes that a tool knows. -/
def dialectOf : Origin → Dialect
  | .shell => .shell
  | .system charset => .printf charset

/-- Carries out the conversion of a kind; false if there is none. -/
def convert (origin : Origin) (shape : Numeral.Shape) (kind : Char) : Act Bool := do
  match kind with
  | 's' =>
    put (shape.text ((← argument?).getD "").toList)
    return true
  | 'b' =>
    let found := unescape (dialectOf origin) ((← argument?).getD "").toList
    put (shape.text found.text)
    endAt found.ending
    return true
  | 'c' =>
    let arg := ((← argument?).getD "").toList
    put (({ shape with precision := none } : Numeral.Shape).text [arg.head?.getD (Char.ofNat 0)])
    return true
  | 'd' | 'i' =>
    put (shape.signed (← integer origin true))
    return true
  | 'u' | 'o' | 'x' | 'X' =>
    put (shape.unsigned kind (← integer origin false).toNat)
    return true
  | 'f' | 'F' | 'e' | 'E' | 'g' | 'G' | 'a' | 'A' =>
    put (shape.real (formatOf origin) kind (← real origin))
    return true
  | _ => return false

/-- The program takes these flags and a precision with a conversion of this kind. -/
def allows (flags : List Char) (hasPrecision : Bool) (kind : Char) : Bool :=
  let refused := (if flags.contains '\'' then "aAceEosxX".toList else []) ++
    (if flags.contains '#' then "cdisu".toList else []) ++
    (if flags.contains '0' then "cs".toList else []) ++ (if hasPrecision then ['c'] else [])
  "aAcdeEfFgGiosuxX".toList.contains kind && !refused.contains kind

/-- Reads and carries out a conversion after its percent sign; what follows it. -/
def conversion (origin : Origin) (text : List Char) : Act (List Char) := do
  let isFlag (c : Char) : Bool :=
    ['#', '-', '+', ' ', '0'].contains c || (origin.isSystem && ['I', '\''].contains c)
  let flags := text.takeWhile isFlag
  let (width, rest) ← size origin (text.dropWhile isFlag)
  let (precision, rest) ← match rest with
    | '.' :: rest =>
      let (precision, rest) ← size origin rest
      pure (some (precision.getD 0), rest)
    | _ => pure (none, rest)
  let rest := match origin with
    | .shell => rest
    | .system _ => rest.dropWhile fun c => ['h', 'l', 'L', 'j', 'z', 't'].contains c
  let shown (rest : List Char) : String :=
    String.ofList ('%' :: text.take (text.length - rest.length))
  match rest with
  | [] =>
    match origin with
    | .shell => refuse 2 "missing format character"
    | .system _ => refuse 1 (shown [] ++ ": invalid conversion specification")
  | kind :: rest =>
    let shape : Numeral.Shape :=
      { left := flags.contains '-' || width.any (· < 0)
        plus := flags.contains '+'
        blank := flags.contains ' '
        alternate := flags.contains '#'
        zeros := flags.contains '0'
        width := (width.getD 0).natAbs
        precision := precision.bind fun places => if places < 0 then none else some places.toNat }
    match origin with
    | .shell =>
      if ← convert origin shape kind then return rest
      else refuse 2 (shown rest ++ ": invalid directive")
    | .system _ =>
      if allows flags precision.isSome kind then
        let _ ← convert origin shape kind
        return rest
      else refuse 1 (shown rest ++ ": invalid conversion specification")

/-- Prints a format once. -/
def once (origin : Origin) : (count : Nat) → List Char → Act Unit
  | 0, _ | _, [] => return
  | count + 1, '%' :: '%' :: rest => do
    put ['%']
    once origin count rest
  | count + 1, '%' :: rest => do
    let rest ← match origin, rest with
      | .system _, 'b' :: rest => do
        let _ ← convert origin {} 'b'
        pure rest
      | .system charset, 'q' :: rest => do
        put (Quotation.forShell charset ((← argument?).getD "")).toList
        pure rest
      | _, rest => conversion origin rest
    once origin count rest
  | count + 1, '\\' :: rest => do
    let (found, rest) := escape (dialectOf origin) false rest
    match found with
    | .chars chars => put chars
    | ending => endAt (some ending)
    once origin count rest
  | count + 1, c :: rest => do
    put [c]
    once origin count rest

/-- Prints a format again and again until it has used every argument. -/
def rounds (origin : Origin) (format : List Char) : (count : Nat) → Act Unit
  | 0 => return
  | count + 1 => do
    let before := (← get).args.length
    once origin (format.length + 1) format
    let args := (← get).args
    match args with
    | [] => return
    | arg :: _ =>
      if args.length < before then rounds origin format count
      else if let .system charset := origin then
        warn ("ignoring excess arguments, starting with " ++ Quotation.inQuotes charset arg)

/-- Prints arguments as a format says. -/
def format (origin : Origin) (format : String) (args : List String) : Printed :=
  let (_, printer) := ((rounds origin format.toList (args.length + 1)).run { args }).run
  ⟨printer.status, printer.written.reverse⟩

end Print

end StagedBuild.Script
