import StagedBuild.Script

/-!
# Tokens of scripts

What a script is made of: words, signs, redirections and the ends of lines. A word is a keyword
only where the grammar looks for one.
-/

namespace StagedBuild.Script

/-- Words with a meaning of their own. -/
inductive Keyword where
  | bang
  | caseWord
  | doWord
  | doneWord
  | elifWord
  | elseWord
  | esacWord
  | fiWord
  | forWord
  | ifWord
  | inWord
  | thenWord
  | untilWord
  | whileWord
  | openBrace
  | closeBrace
  deriving DecidableEq, Repr

namespace Keyword

/-- All keywords. -/
def all : List Keyword :=
  [.bang, .caseWord, .doWord, .doneWord, .elifWord, .elseWord, .esacWord, .fiWord, .forWord,
   .ifWord, .inWord, .thenWord, .untilWord, .whileWord, .openBrace, .closeBrace]

/-- How a keyword is written. -/
def text : Keyword → String
  | .bang => "!"
  | .caseWord => "case"
  | .doWord => "do"
  | .doneWord => "done"
  | .elifWord => "elif"
  | .elseWord => "else"
  | .esacWord => "esac"
  | .fiWord => "fi"
  | .forWord => "for"
  | .ifWord => "if"
  | .inWord => "in"
  | .thenWord => "then"
  | .untilWord => "until"
  | .whileWord => "while"
  | .openBrace => "\x7b"
  | .closeBrace => "\x7d"

/-- The keyword that is written so. -/
def ofText? (text : String) : Option Keyword :=
  all.find? (·.text == text)

/-- A list of commands ends before this keyword. -/
def endsList : Keyword → Bool
  | .doWord | .doneWord | .elifWord | .elseWord | .esacWord | .fiWord | .thenWord
  | .closeBrace => true
  | .bang | .caseWord | .forWord | .ifWord | .inWord | .untilWord | .whileWord
  | .openBrace => false

end Keyword

/-- Signs between words. -/
inductive Sign where
  | semicolon
  | ampersand
  | both
  | either
  | bar
  | openParen
  | closeParen
  | doubleSemicolon
  deriving DecidableEq, Repr

/-- How a sign is written. -/
def Sign.text : Sign → String
  | .semicolon => ";"
  | .ampersand => "&"
  | .both => "&&"
  | .either => "||"
  | .bar => "|"
  | .openParen => "("
  | .closeParen => ")"
  | .doubleSemicolon => ";;"

/-- Redirections, before the word that says from where or to where. -/
inductive Arrow where
  | file (mode : OpenMode)
  | duplicate
  /-- A here-document, with or without the tabs at the starts of its lines. -/
  | here (dropsTabs : Bool)
  deriving DecidableEq, Repr

/-- A token of a script. -/
inductive Token where
  | word (word : Word)
  | keyword (keyword : Keyword)
  | sign (sign : Sign)
  | redirect (descriptor : Nat) (arrow : Arrow)
  | newline
  | ending

namespace Token

/-- What a token is called in messages. -/
def describe : Token → String
  | .word _ => "word"
  | .keyword found => "\"" ++ found.text ++ "\""
  | .sign found => "\"" ++ found.text ++ "\""
  | .redirect .. => "redirection"
  | .newline => "newline"
  | .ending => "end of file"

/-- A list of commands ends before this token. -/
def endsList : Token → Bool
  | .ending | .sign .closeParen | .sign .doubleSemicolon => true
  | .keyword found => found.endsList
  | _ => false

/-- Takes a word for the keyword that it spells. -/
def withKeyword : Token → Token
  | .word found =>
    match found.plain?.bind Keyword.ofText? with
    | some spelt => .keyword spelt
    | none => .word found
  | token => token

/-- The word that a token is where no keyword counts. -/
def word? : Token → Option Word
  | .word found => some found
  | .keyword found => some [.text found.text false]
  | _ => none

end Token

end StagedBuild.Script
