import TenantReporting.Text.LetterCase

/-!
# Tokens of query text

Query text is a row of tokens: words, names, literals, marks, blanks and comments. Nothing is left
out, so the texts of the tokens put together are the text that was read.
-/

namespace TenantReporting.Sql

/-- The kinds of tokens. Words of the language are keywords of seven kinds, by what they do. -/
inductive TokenKind where
  | space
  | lineBreak
  | lineComment
  | blockComment
  | lineHint
  | blockHint
  | keyword
  | manipulation
  | definition
  | control
  | commonTable
  | direction
  | zone
  | name
  | placeholder
  | builtin
  | integer
  | real
  | hexadecimal
  | text
  | symbol
  | dollarText
  | punctuation
  | operator
  | comparison
  | wildcard
  | assignment
  | command
  | stray
deriving DecidableEq, Repr

namespace TokenKind

/-- Tokens of the kind stand between others and say nothing. -/
def isBlank : TokenKind → Bool
  | space | lineBreak => true
  | _ => false

/-- Tokens of the kind speak to the reader or to the planner of the query. -/
def isComment : TokenKind → Bool
  | lineComment | blockComment | lineHint | blockHint => true
  | _ => false

/-- Tokens of the kind are words of the language. -/
def isKeyword : TokenKind → Bool
  | keyword | manipulation | definition | control | commonTable | direction | zone => true
  | _ => false

/-- Tokens of the kind name something, be it a type or a value that is supplied later. -/
def isName : TokenKind → Bool
  | name | placeholder | builtin => true
  | _ => false

/-- Tokens of the kind are numbers. -/
def isNumber : TokenKind → Bool
  | integer | real | hexadecimal => true
  | _ => false

/-- Tokens of the kind can be computed with: decimal numbers, quoted text, names and
placeholders. -/
def isOperand : TokenKind → Bool
  | integer | real | text | symbol | name | placeholder => true
  | _ => false

end TokenKind

/-- A token: its kind and its text as written. -/
structure Token where
  kind : TokenKind
  text : String
deriving DecidableEq, Repr

namespace Token

/-- The text in capitals, by which words are compared. -/
def word (token : Token) : String :=
  Text.capitals token.text

/-- The token is a plain keyword, and one of the given words. -/
def isWordAmong (words : List String) (token : Token) : Bool :=
  token.kind == .keyword && words.contains token.word

/-- The token is the given punctuation mark. -/
def isMark (mark : String) (token : Token) : Bool :=
  token.kind == .punctuation && token.text == mark

end Token

end TenantReporting.Sql
