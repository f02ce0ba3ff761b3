import StagedBuild.Script.Cursor

/-!
# Reading scripts

The grammar of scripts. Commands are read one line at a time, because a line is run before the next
one is looked at; `Reader.line` reads what a line holds. The steps are told how deep they may still
go into each other, which is never less than the text can make them go.
-/

namespace StagedBuild.Script

/-- Where pieces of words are being read. -/
inductive Place where
  /-- In a word; in the mark of a here-document, where nothing is replaced. -/
  | word (isMark : Bool)
  /-- In the braces of a parameter. -/
  | braces
  /-- In double quotes, possibly inside the braces of a parameter. -/
  | quotes (inBraces : Bool)
  /-- In double quotes in the mark of a here-document. -/
  | quotedMark
  /-- In the braces of a quoted parameter, possibly in quotes once more. -/
  | quotedBraces (inner : Bool)
  /-- In the text of a here-document. -/
  | document
  /-- In an arithmetic expression, with so many open parentheses. -/
  | arithmetic (depth : Nat)
  deriving DecidableEq, Repr

namespace Place

/-- What is read here is quoted. -/
def quotes? : Place → Bool
  | .word _ | .braces => false
  | .quotes _ | .quotedMark | .quotedBraces _ | .document | .arithmetic _ => true

/-- A character that ends the pieces and is not part of them. -/
def stopsBefore (c : Char) : Place → Bool
  | .word _ => [' ', '\t', '\n', ';', '&', '|', '<', '>', '(', ')'].contains c
  | _ => false

/-- A character that closes the pieces. -/
def closesWith (c : Char) : Place → Bool
  | .quotes _ | .quotedMark => c == '"'
  | .braces | .quotedBraces false => c == '\x7d'
  | _ => false

/-- What is wrong if the script ends here. -/
def problemAtEnd? (inDocument : Bool) : Place → Option String
  | .word _ | .document => none
  | .braces => some "Missing '\x7d'"
  | .quotes _ | .quotedMark | .quotedBraces _ =>
    some (if inDocument then "Missing '\x7d'" else "Unterminated quoted string")
  | .arithmetic _ => some "Missing '))'"

/-- A backslash before this character stays. -/
def keepsBackslash (inDocument : Bool) (c : Char) (place : Place) : Bool :=
  if !place.quotes? || ['\\', '`', '$'].contains c then false
  else if c = '"' then
    match place with
    | .document => true
    | .arithmetic _ => inDocument
    | _ => false
  else if c = '\x7d' then
    match place with
    | .quotes inBraces => !inBraces
    | .quotedMark => true
    | .quotedBraces _ => false
    | _ => true
  else true

end Place

namespace Announced

/-- The number of backslashes at the end of a line is odd, so that it is joined with the next. -/
def endsInBackslash (line : List Char) : Bool :=
  (line.reverse.takeWhile (· == '\\')).length % 2 == 1

/-- The text of a here-document that starts here, what follows it, and the number of lines. A line
that was `joined` to the one before cannot end the text, unless nothing else stands there. At most
`count` lines are read. -/
def split (announced : Announced) :
    (count : Nat) → (joined : Bool) → List Char → List Char × List Char × Nat
  | 0, _, rest => ([], rest, 0)
  | count + 1, joined, rest =>
    let line := rest.takeWhile (· != '\n')
    let line := if announced.dropsTabs && !joined then line.dropWhile (· == '\t') else line
    let after := rest.dropWhile (· != '\n')
    if !joined && String.ofList line == announced.mark then ([], after.tail, 1)
    else match after with
      | [] => (line, [], 0)
      | newline :: after =>
        let startsAnew := !joined && rest.head? = some '\\' && line == ['\\']
        let joins := !announced.verbatim && endsInBackslash line && !startsAnew
        let (text, rest, lines) := announced.split count joins after
        (line ++ newline :: text, rest, lines + 1)

end Announced

/-- Functions that no script may define, because the shell's own commands of these names come
first. -/
def isSpecialName (name : String) : Bool :=
  [".", ":", "break", "continue", "eval", "exec", "exit", "export", "local", "readonly", "return",
   "set", "shift", "times", "trap", "unset"].contains name

/-- How a parameter whose value may be replaced is used. -/
def Use.ofSign? (orNull : Bool) (word : Word) : Char → Option Use
  | '-' => some (.fallback orNull word)
  | '+' => some (.replacement orNull word)
  | '=' => some (.assignment orNull word)
  | '?' => some (.demand orNull word)
  | _ => none

namespace Reader

/-- Takes text up to the closing single quote. -/
def singleQuoted : Reader String := do
  let cursor ← get
  let text := cursor.rest.takeWhile (· != '\'')
  set { cursor with
    rest := cursor.rest.dropWhile (· != '\'')
    line := cursor.line + text.count '\n' }
  match (← get).rest with
  | [] => fail (if cursor.inDocument then "Missing '\x7d'" else "Unterminated quoted string")
  | _ :: _ =>
    skip
    return String.ofList text

/-- Takes the text up to the closing backquote, of which `text` has been read in reverse. -/
def backquotedText (quoted : Bool) : (count : Nat) → (text : List Char) → Reader (List Char)
  | 0, _ => fail "EOF in backquote substitution"
  | count + 1, text => do
    match ← take with
    | none => fail "EOF in backquote substitution"
    | some '`' => return text.reverse
    | some '\\' =>
      match ← takeRaw with
      | none => fail "EOF in backquote substitution"
      | some c =>
        if ['\\', '`', '$'].contains c || (quoted && c == '"') then
          backquotedText quoted count (c :: text)
        else backquotedText quoted count (c :: '\\' :: text)
    | some c =>
      if c = '\n' then countLine
      backquotedText quoted count (c :: text)

/-- Takes the sign of a redirection. -/
def arrow (descriptor : Option Nat) : Reader Token := do
  match ← take with
  | some '>' =>
    let output (mode : OpenMode) : Token := .redirect (descriptor.getD 1) (.file mode)
    match ← look with
    | some '>' => skip; return output .append
    | some '|' => skip; return output .overwrite
    | some '&' => skip; return .redirect (descriptor.getD 1) .duplicate
    | _ => return output .write
  | _ =>
    let input : Arrow → Token := .redirect (descriptor.getD 0)
    match ← look with
    | some '<' =>
      skip
      if (← look) == some '-' then
        skip
        return input (.here true)
      else return input (.here false)
    | some '&' => skip; return input .duplicate
    | some '>' => skip; return input (.file .update)
    | _ => return input (.file .read)

/-- Takes a redirection sign, if one stands here, with the digit that may stand before it. -/
def arrow? : Reader (Option Token) := do
  let isArrow (c : Option Char) : Bool := c == some '<' || c == some '>'
  let start ← get
  match ← look with
  | some c =>
    if isArrow (some c) then return some (← arrow none)
    else if c.isDigit then
      skip
      if isArrow (← look) then return some (← arrow (some (c.toNat - '0'.toNat)))
      else
        set start
        return none
    else return none
  | none => return none

/-- Runs a reader over another text, and goes on where we are. -/
def within {α : Type} (text : List Char) (line : Nat) (inDocument : Bool) (reader : Reader α) :
    Reader α := do
  let outer ← get
  set { outer with rest := text, line, inDocument, token := none, announced := [] }
  let found ← reader
  modify fun inner =>
    { outer with documents := inner.documents, nextDocument := inner.nextDocument }
  return found

/-- Announces a here-document with the word that ends it; its number. -/
def announce (dropsTabs : Bool) (mark : Word) : Reader Nat :=
  modifyGet fun cursor =>
    let text := String.join (mark.map fun
      | .text text _ => text
      | _ => "")
    let verbatim := mark.any fun
      | .text _ quoted => quoted
      | _ => false
    let number := cursor.nextDocument
    (number, { cursor with
      announced := cursor.announced ++ [⟨number, text, dropsTabs, verbatim⟩]
      nextDocument := number + 1 })

/-- Notes the text of a here-document. -/
def addDocument (number : Nat) (text : Word) : Reader Unit :=
  modify fun cursor => { cursor with documents := (number, text) :: cursor.documents }

/-- What a step says that may go no deeper. -/
def tooDeep {α : Type} : Reader α := fail "too deep"

/-- Replaces a word that is an alias by its text, unless we are inside that text; false if it is
none. -/
def replace (token : Token) : Reader Bool :=
  modifyGet fun cursor =>
    let found : Option (String × String) := do
      let name ← token.word?.bind Word.plain?
      let value ← cursor.aliases.lookup name
      return (name, value)
    match found with
    | some (name, value) =>
      if (Keyword.ofText? name).isSome || cursor.replacements.any fun inside =>
          inside.name = name && inside.left ≤ cursor.rest.length then (false, cursor)
      else
        let opens := value.endsWith " " || value.endsWith "\t"
        (true, { cursor with
          rest := value.toList ++ cursor.rest
          replacements := ⟨name, cursor.rest.length, opens⟩ :: cursor.replacements })
    | none => (false, cursor)

mutual

/-- Reads pieces of a word up to where it ends. -/
def parts : (depth : Nat) → Place → Gathering → Reader (List Part)
  | 0, _, _ => tooDeep
  | depth + 1, place, found => do
    let quoted := place.quotes?
    match ← look with
    | none =>
      match place.problemAtEnd? (← get).inDocument with
      | some problem => fail problem
      | none => return found.parts
    | some c =>
      if place.stopsBefore c then return found.parts
      skip
      if place.closesWith c then return found.parts
      match c, place with
      | '\n', _ =>
        countLine
        parts depth place (found.add c quoted)
      | '\\', _ =>
        match ← takeRaw with
        | none => parts depth place (found.add c true)
        | some next =>
          let found := if place.keepsBackslash (← get).inDocument next then found.add c true
            else found
          parts depth place (found.add next true)
      | '\'', .word _ | '\'', .braces =>
        let text ← singleQuoted
        parts depth place (found.push (.text text true))
      | '"', .word _ | '"', .braces =>
        let inside := if place == .word true then .quotedMark else .quotes (place == .braces)
        match ← parts depth inside {} with
        | [.parameter "@" .value _] => parts depth place (found.push (.parameter "@" .value true))
        | inside =>
          parts depth place (inside.foldl Gathering.push (found.push (.text "" true)))
      | '"', .quotedBraces inner => parts depth (.quotedBraces !inner) found
      | '$', .word true | '$', .quotedMark => parts depth place (found.add c quoted)
      | '$', _ =>
        match ← dollar? depth quoted with
        | some part => parts depth place (found.push part)
        | none => parts depth place (found.add c quoted)
      | '`', .word true | '`', .quotedMark => parts depth place (found.add c quoted)
      | '`', _ =>
        let text ← backquotedText quoted ((← get).rest.length + 1) []
        let body ← within text 1 false (commands depth false true none)
        parts depth place (found.push (.output (body.getD .nothing) quoted))
      | '(', .arithmetic level => parts depth (.arithmetic (level + 1)) (found.add c quoted)
      | ')', .arithmetic 0 =>
        if (← look) == some ')' then
          skip
          return found.parts
        else parts depth place (found.add c quoted)
      | ')', .arithmetic (level + 1) => parts depth (.arithmetic level) (found.add c quoted)
      | _, _ => parts depth place (found.add c quoted)
termination_by structural depth => depth

/-- Reads what follows a dollar sign, if it is something to replace. -/
def dollar? : (depth : Nat) → (quoted : Bool) → Reader (Option Part)
  | 0, _ => tooDeep
  | depth + 1, quoted => do
    match ← look with
    | none => return none
    | some c =>
      if c = '(' then
        skip
        if (← look) == some '(' then
          skip
          return some (.arithmetic (← parts depth (.arithmetic 0) {}) quoted)
        else return some (.output (← substitution depth) quoted)
      else if c = '\x7b' then
        skip
        return some (← braced depth quoted)
      else if startsName c then return some (.parameter (← name isNameChar) .value quoted)
      else if isSpecialParameter c then
        skip
        return some (.parameter c.toString .value quoted)
      else return none
termination_by structural depth => depth

/-- Reads the command of a substitution, up to the closing parenthesis. Here-documents that are
named in it and not given by then are empty. -/
def substitution : (depth : Nat) → Reader Command
  | 0 => tooDeep
  | depth + 1 => do
    let outer ← get
    set { outer with announced := [], inDocument := false }
    let body ← commands depth false true none
    match ← next depth false false false with
    | .sign .closeParen => pure ()
    | token => mismatch token (.sign .closeParen)
    for announced in (← get).announced do
      addDocument announced.number []
    modify fun cursor =>
      { cursor with announced := outer.announced, inDocument := outer.inDocument }
    return body.getD .nothing
termination_by structural depth => depth

/-- Reads a parameter in braces, after the brace. -/
def braced : (depth : Nat) → (quoted : Bool) → Reader Part
  | 0, _ => tooDeep
  | depth + 1, quoted => do
    match ← look with
    | some '#' =>
      skip
      let c ← look
      if c.any isNameChar then
        let name ← name (if c.any startsName then isNameChar else Char.isDigit)
        if (← look) == some '\x7d' then
          skip
          return .parameter name .length quoted
        else malformed depth quoted
      else
        skip
        if c != some '\x7d' && (← look) == some '\x7d' then
          match c with
          | some sign =>
            if isSpecialParameter sign then
              skip
              return .parameter sign.toString .length quoted
            else malformed depth quoted
          | none => malformed depth quoted
        else use depth quoted "#" c
    | some c =>
      if startsName c then
        let name ← name isNameChar
        use depth quoted name (← take)
      else if c.isDigit then
        let name ← name Char.isDigit
        use depth quoted name (← take)
      else if isSpecialParameter c then
        skip
        use depth quoted c.toString (← take)
      else
        if c != '\x7d' then skip
        malformed depth quoted
    | none => malformed depth quoted
termination_by structural depth => depth

/-- Reads how a parameter is used, after its name and the character `sign`. -/
def use : (depth : Nat) → (quoted : Bool) → (name : String) → (sign : Option Char) → Reader Part
  | 0, _, _, _ => tooDeep
  | depth + 1, quoted, name, sign => do
    let place : Place := if quoted then .quotedBraces false else .braces
    match sign with
    | some '\x7d' => return .parameter name .value quoted
    | some '%' | some '#' =>
      let longest := (← look) == sign
      if longest then skip
      let pattern ← parts depth .braces {}
      return .parameter name
        (.trim (if sign == some '#' then .front else .back) longest pattern) quoted
    | _ =>
      let orNull := sign == some ':'
      let sign ← if orNull then take else pure sign
      let word ← parts depth place {}
      match sign.bind (Use.ofSign? orNull word) with
      | some use => return .parameter name use quoted
      | none => return .parameter name .malformed quoted
termination_by structural depth => depth

/-- Reads the rest of a parameter in braces that cannot be understood. -/
def malformed : (depth : Nat) → (quoted : Bool) → Reader Part
  | 0, _ => tooDeep
  | depth + 1, quoted => do
    let _ ← parts depth (if quoted then .quotedBraces false else .braces) {}
    return .parameter "" .malformed quoted
termination_by structural depth => depth

/-- Reads a token; a word may be the mark of a here-document. -/
def scan : (depth : Nat) → (isMark : Bool) → Reader Token
  | 0, _ => tooDeep
  | depth + 1, isMark => do
    let sign (sign : Sign) : Reader Token := do
      skip
      return .sign sign
    let doubled (c : Char) (single double : Sign) : Reader Token := do
      skip
      if (← look) == some c then
        skip
        return .sign double
      else return .sign single
    match ← look with
    | none => return .ending
    | some '\n' =>
      skip
      countLine
      return .newline
    | some '#' =>
      modify fun cursor => { cursor with rest := cursor.rest.dropWhile (· != '\n') }
      scan depth isMark
    | some '&' => doubled '&' .ampersand .both
    | some '|' => doubled '|' .bar .either
    | some ';' => doubled ';' .semicolon .doubleSemicolon
    | some '(' => sign .openParen
    | some ')' => sign .closeParen
    | some c =>
      if c = ' ' || c = '\t' then
        skip
        scan depth isMark
      else match ← arrow? with
        | some token => return token
        | none => return .word (← parts depth (.word isMark) {})
termination_by structural depth => depth

/-- Takes a token; a word that is an alias is replaced if it may be. -/
def replaced : (depth : Nat) → (mayReplace isMark : Bool) → Reader Token
  | 0, _, _ => tooDeep
  | depth + 1, mayReplace, isMark => do
    match (← get).token with
    | some token =>
      modify fun cursor => { cursor with token := none }
      return token
    | none =>
      let before := (← get).rest.length
      let token ← scan depth isMark
      let after := (← get).rest.length
      let opened := (← get).replacements.any fun passed =>
        passed.opens && passed.left < before && after < passed.left
      if !(mayReplace || opened) then return token
      else if ← replace token then replaced depth mayReplace isMark
      else return token
termination_by structural depth => depth

/-- Takes a token: where keywords count, where newlines do not, or as the mark of a
here-document. -/
def next : (depth : Nat) → (keywords passNewlines isMark : Bool) → Reader Token
  | 0, _, _, _ => tooDeep
  | depth + 1, keywords, passNewlines, isMark => do
    let token ← replaced depth keywords isMark
    match token with
    | .newline =>
      if passNewlines then
        fillDocuments depth
        next depth keywords passNewlines isMark
      else return token
    | _ => return if keywords then token.withKeyword else token
termination_by structural depth => depth

/-- Reads the texts of the here-documents that have been announced. -/
def fillDocuments : (depth : Nat) → Reader Unit
  | 0 => tooDeep
  | depth + 1 => do
    let announced := (← get).announced
    modify fun cursor => { cursor with announced := [] }
    for document in announced do
      let start ← get
      let (text, rest, lines) := document.split (start.rest.length + 1) false start.rest
      let word ← if document.verbatim then pure [.text (String.ofList text) true]
        else tryCatch (within text start.line true (parts depth .document {})) fun problem =>
          throw (problem.behind start.line text)
      addDocument document.number word
      modify fun cursor => { cursor with rest, line := start.line + lines }
termination_by structural depth => depth

/-- Reads commands with separators between them, up to the end of the line at the `top`, and else
up to a token that can end them. Nothing if there are none. -/
def commands : (depth : Nat) → (top mayEnd : Bool) → (found : Option Command) →
    Reader (Option Command)
  | 0, _, _, _ => tooDeep
  | depth + 1, top, mayEnd, found => do
    let token ← next depth true (!top) false
    match token with
    | .newline =>
      fillDocuments depth
      return found
    | .ending =>
      fillDocuments depth
      giveBack .ending
      return found
    | _ =>
      giveBack token
      if !top && mayEnd && token.endsList then return found
      let command ← andOr depth
      let token ← next depth false false false
      let command := match token with
        | .sign .ampersand => .background command
        | _ => command
      let found := match found with
        | some before => .sequence before command
        | none => command
      match token with
      | .sign .ampersand | .sign .semicolon => commands depth top true (some found)
      | .newline | .ending =>
        giveBack token
        commands depth top true (some found)
      | _ =>
        if top then unexpected token
        giveBack token
        return some found
termination_by structural depth => depth

/-- Reads commands of which at least one is needed. -/
def someCommands : (depth : Nat) → Reader Command
  | 0 => tooDeep
  | depth + 1 => return (← commands depth false false none).getD .nothing
termination_by structural depth => depth

/-- Reads pipelines that are joined by conditions. -/
def andOr : (depth : Nat) → Reader Command
  | 0 => tooDeep
  | depth + 1 => do
    let first ← pipeline depth false false
    andOrRest depth first
termination_by structural depth => depth

/-- Reads what follows a pipeline on a condition. -/
def andOrRest : (depth : Nat) → Command → Reader Command
  | 0, _ => tooDeep
  | depth + 1, first => do
    match ← next depth false false false with
    | .sign .both =>
      let second ← pipeline depth true true
      andOrRest depth (.andThen first second)
    | .sign .either =>
      let second ← pipeline depth true true
      andOrRest depth (.orElse first second)
    | token =>
      giveBack token
      return first
termination_by structural depth => depth

/-- Reads commands that are joined by pipes. -/
def pipeline : (depth : Nat) → (keywords passNewlines : Bool) → Reader Command
  | 0, _, _ => tooDeep
  | depth + 1, keywords, passNewlines => do
    match ← next depth keywords passNewlines false with
    | .keyword .bang =>
      let first ← command depth true false
      return .negated (← pipeRest depth first)
    | token =>
      giveBack token
      let first ← command depth false false
      pipeRest depth first
termination_by structural depth => depth

/-- Reads what follows a command behind a pipe. -/
def pipeRest : (depth : Nat) → Command → Reader Command
  | 0, _ => tooDeep
  | depth + 1, first => do
    match ← next depth false false false with
    | .sign .bar =>
      let second ← command depth true true
      return .pipe first (← pipeRest depth second)
    | token =>
      giveBack token
      return first
termination_by structural depth => depth

/-- Reads one command. -/
def command : (depth : Nat) → (keywords passNewlines : Bool) → Reader Command
  | 0, _, _ => tooDeep
  | depth + 1, keywords, passNewlines => do
    let line := (← get).line
    match ← next depth keywords passNewlines false with
    | .keyword .ifWord =>
      let command ← choice depth
      closed depth line (.keyword .fiWord) command
    | .keyword .whileWord => loop depth line false
    | .keyword .untilWord => loop depth line true
    | .keyword .forWord => forEach depth line
    | .keyword .caseWord =>
      match ← next depth false false false with
      | .word subject =>
        match ← next depth true true false with
        | .keyword .inWord => pure ()
        | token => mismatch token (.keyword .inWord)
        let clauses ← clauses depth []
        redirected depth line (.select line subject clauses)
      | token => mismatch token (.word [])
    | .sign .openParen =>
      let body ← someCommands depth
      closed depth line (.sign .closeParen) (.subshell line body [])
    | .keyword .openBrace =>
      let body ← someCommands depth
      closed depth line (.keyword .closeBrace) body
    | .word word =>
      giveBack (.word word)
      simple depth (← get).line [] [] []
    | .redirect descriptor arrow =>
      giveBack (.redirect descriptor arrow)
      simple depth (← get).line [] [] []
    | token => unexpected token
termination_by structural depth => depth

/-- Reads the token that closes a command, and the redirections that may follow. -/
def closed : (depth line : Nat) → (closing : Token) → Command → Reader Command
  | 0, _, _, _ => tooDeep
  | depth + 1, line, closing, command => do
    let token ← next depth false false false
    if token.describe != closing.describe then mismatch token closing
    redirected depth line command
termination_by structural depth => depth

/-- Reads the redirections that may follow a command. -/
def redirected : (depth line : Nat) → Command → Reader Command
  | 0, _, _ => tooDeep
  | depth + 1, line, command => do
    match ← redirects depth [] with
    | [] => return command
    | found =>
      match command with
      | .subshell line body [] => return .subshell line body found
      | _ => return .redirected line command found
termination_by structural depth => depth

/-- Reads redirections, of which some have been read in reverse. -/
def redirects : (depth : Nat) → List Redirect → Reader (List Redirect)
  | 0, _ => tooDeep
  | depth + 1, found => do
    match ← next depth true false false with
    | .redirect descriptor arrow => redirects depth ((← redirect depth descriptor arrow) :: found)
    | token =>
      giveBack token
      return found.reverse
termination_by structural depth => depth

/-- Reads the word after a redirection sign. -/
def redirect : (depth descriptor : Nat) → Arrow → Reader Redirect
  | 0, _, _ => tooDeep
  | depth + 1, descriptor, arrow => do
    let isMark := match arrow with
      | .here _ => true
      | _ => false
    match ← next depth false false isMark, arrow with
    | .word word, .file mode => return .file descriptor mode word
    | .word word, .duplicate => return .duplicate descriptor word
    | .word word, .here dropsTabs => return .here descriptor (← announce dropsTabs word)
    | token, _ => unexpected token
termination_by structural depth => depth

/-- Reads the condition and the branches of a choice, up to its end. -/
def choice : (depth : Nat) → Reader Command
  | 0 => tooDeep
  | depth + 1 => do
    let condition ← someCommands depth
    match ← next depth false false false with
    | .keyword .thenWord => pure ()
    | token => mismatch token (.keyword .thenWord)
    let positive ← someCommands depth
    match ← next depth false false false with
    | .keyword .elifWord => return .choice condition positive (← choice depth)
    | .keyword .elseWord => return .choice condition positive (← someCommands depth)
    | token =>
      giveBack token
      return .choice condition positive .nothing
termination_by structural depth => depth

/-- Reads the condition and the body of a loop. -/
def loop : (depth line : Nat) → (untilSuccess : Bool) → Reader Command
  | 0, _, _ => tooDeep
  | depth + 1, line, untilSuccess => do
    let condition ← someCommands depth
    match ← next depth false false false with
    | .keyword .doWord => pure ()
    | token => mismatch token (.keyword .doWord)
    let body ← someCommands depth
    closed depth line (.keyword .doneWord) (.loop untilSuccess condition body)
termination_by structural depth => depth

/-- Reads the name, the words and the body of a loop over words. Without words it goes over the
arguments. -/
def forEach : (depth line : Nat) → Reader Command
  | 0, _ => tooDeep
  | depth + 1, line => do
    let name ← match ← next depth false false false with
      | .word word =>
        match word.plain? with
        | some name => if isName name then pure name else fail "Bad for loop variable"
        | none => fail "Bad for loop variable"
      | _ => fail "Bad for loop variable"
    let words ← match ← next depth true true false with
      | .keyword .inWord => forWords depth []
      | .sign .semicolon => pure [[.parameter "@" .value true]]
      | token =>
        giveBack token
        pure [[.parameter "@" .value true]]
    match ← next depth true true false with
    | .keyword .doWord => pure ()
    | token => mismatch token (.keyword .doWord)
    let body ← someCommands depth
    closed depth line (.keyword .doneWord) (.forEach line name words body)
termination_by structural depth => depth

/-- Reads words up to the end of a line or a semicolon; some have been read in reverse. -/
def forWords : (depth : Nat) → List Word → Reader (List Word)
  | 0, _ => tooDeep
  | depth + 1, found => do
    match ← next depth false false false with
    | .word word => forWords depth (word :: found)
    | .newline | .sign .semicolon => return found.reverse
    | token => unexpected token
termination_by structural depth => depth

/-- Reads the clauses of a selection and its end; some have been read in reverse. -/
def clauses : (depth : Nat) → List Clause → Reader (List Clause)
  | 0, _ => tooDeep
  | depth + 1, found => do
    match ← next depth true true false with
    | .keyword .esacWord => return found.reverse
    | token =>
      let token ← match token with
        | .sign .openParen => next depth false false false
        | _ => pure token
      let patterns ← patterns depth token []
      let body ← commands depth false true none
      let found := .mk patterns (body.getD .nothing) :: found
      match ← next depth true true false with
      | .keyword .esacWord => return found.reverse
      | .sign .doubleSemicolon => clauses depth found
      | token => mismatch token (.sign .doubleSemicolon)
termination_by structural depth => depth

/-- Reads the patterns of a clause from a token on, and the parenthesis after them. A token that is
no word stands for an empty pattern. -/
def patterns : (depth : Nat) → Token → List Word → Reader (List Word)
  | 0, _, _ => tooDeep
  | depth + 1, token, found => do
    let found := token.word?.getD [] :: found
    match ← next depth false false false with
    | .sign .bar =>
      let token ← next depth false false false
      patterns depth token found
    | .sign .closeParen => return found.reverse
    | token => mismatch token (.sign .closeParen)
termination_by structural depth => depth

/-- Reads a call, or the definition of a function. Parts of it have been read in reverse. -/
def simple : (depth line : Nat) → (assignments words : List Word) → List Redirect → Reader Command
  | 0, _, _, _, _ => tooDeep
  | depth + 1, line, assignments, words, redirects => do
    match ← replaced depth words.isEmpty false with
    | .word word =>
      if words.isEmpty && word.assignment?.isSome then
        simple depth line (word :: assignments) words redirects
      else simple depth line assignments (word :: words) redirects
    | .redirect descriptor arrow =>
      let found ← redirect depth descriptor arrow
      simple depth line assignments words (found :: redirects)
    | token =>
      match token, assignments, words, redirects with
      | .sign .openParen, [], [word], [] =>
        match ← next depth false false false with
        | .sign .closeParen => pure ()
        | token => mismatch token (.sign .closeParen)
        match word.plain? with
        | some name =>
          if isName name && !isSpecialName name then
            return .define name (← command depth true true)
          else fail "Bad function name"
        | none => fail "Bad function name"
      | _, _, _, _ =>
        giveBack token
        return .simple line assignments.reverse words.reverse redirects.reverse
termination_by structural depth => depth

end

/-- A text as a word in which everything is replaced as in double quotes. -/
def template (text : String) : Word :=
  let start : Cursor := { rest := text.toList }
  match (parts (10 * (text.length + 10)) .document {}).run start with
  | .ok (word, _) => word
  | .error _ => [.text text true]

/-- Reads the commands of the next line; nothing at the end of the script. Lines without commands
count too. -/
def line : Reader (Option Command) := do
  modify fun cursor => { cursor with token := none, announced := [] }
  let aliases := (← get).aliases.foldl (fun sum (_, value) => sum + value.length) 0
  let found ← commands (10 * ((← get).rest.length + aliases + 10)) true false none
  match found, (← get).token with
  | none, some .ending => return none
  | _, _ => return some (found.getD .nothing)

end Reader

end StagedBuild.Script
