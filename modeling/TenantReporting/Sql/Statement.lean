import TenantReporting.Sql.Token
import TenantReporting.Text.Blank

/-!
# Statements

Query text may hold several statements. A semicolon ends one unless it stands in parentheses or in a
block between BEGIN and END; so does the word GO. Blanks and a comment on the same line still belong
to the statement that has ended.
-/

namespace TenantReporting.Sql

/-- What has been seen of a statement while its end is sought. -/
structure Progress where
  /-- The parentheses and blocks that are open, fewer than none if too many were closed. -/
  level : Int := 0
  /-- The blocks between BEGIN and END that are open. -/
  blocks : Nat := 0
  /-- Nothing but comments came after the last BEGIN. -/
  justBegun : Bool := false
  /-- The statement creates something, so that its blocks count as levels. -/
  creates : Bool := false
  /-- The next END closes a CASE. -/
  inCase : Bool := false
  /-- The statement has ended. -/
  ended : Bool := false
deriving DecidableEq, Repr

/-- Words that say after BEGIN that a transaction begins and not a block. -/
def transactionWords : List String :=
  ["TRANSACTION", "WORK", "DEFERRED", "IMMEDIATE", "EXCLUSIVE"]

namespace Progress

/-- The progress after a keyword, as far as levels and blocks go. -/
def enter (progress : Progress) (token : Token) : Progress :=
  let word := token.word
  let inBlock := progress.creates && progress.blocks != 0
  if token.kind == .definition && "CREATE".toList.isPrefixOf word.toList then
    { progress with creates := true }
  else if word == "DECLARE" && progress.creates && progress.blocks == 0 then
    { progress with level := progress.level + 1 }
  else if word == "BEGIN" then
    { progress with
      blocks := progress.blocks + 1
      justBegun := true
      level := if progress.creates then progress.level + 1 else progress.level }
  else if progress.justBegun && token.isWordAmong transactionWords then
    { progress with blocks := progress.blocks - 1, justBegun := false }
  else if word == "END" then
    { progress with
      blocks := if progress.inCase then progress.blocks else progress.blocks - 1
      inCase := false
      level := progress.level - 1 }
  else if inBlock && ["IF", "FOR", "WHILE", "CASE"].contains word then
    { progress with inCase := progress.inCase || word == "CASE", level := progress.level + 1 }
  else if ["END IF", "END FOR", "END WHILE"].contains word then
    { progress with level := progress.level - 1 }
  else progress

/-- The progress after a token, as far as levels and blocks go. -/
def adjust (progress : Progress) (token : Token) : Progress :=
  if token.isMark "(" then { progress with level := progress.level + 1 }
  else if token.isMark ")" then { progress with level := progress.level - 1 }
  else if token.kind.isKeyword then progress.enter token
  else progress

/-- The progress after a token. -/
def advance (progress : Progress) (token : Token) : Progress :=
  let progress := progress.adjust token
  if token.isMark ";" then
    let blocks := if progress.justBegun then progress.blocks - 1 else progress.blocks
    let ended := progress.ended || (progress.level ≤ 0 && blocks == 0)
    { progress with blocks, ended, justBegun := false }
  else if token.kind == .keyword && (Text.words token.text.toList).head? == some ['G', 'O'] then
    { progress with ended := true }
  else
    let isSilent :=
      token.kind.isBlank || token.kind == .lineComment || token.kind == .blockComment
        || token.isWordAmong ["BEGIN"]
    { progress with justBegun := progress.justBegun && isSilent }

end Progress

/-- The token still belongs to a statement that has ended before it. -/
def trailsStatement (token : Token) : Bool :=
  token.kind == .space || token.kind == .lineComment

/-- The statements that tokens form, when `current` is what has been read of the first one, in
reverse. -/
def statementsAfter (progress : Progress) (current : List Token) :
    List Token → List (List Token)
  | [] => if current.all (·.kind.isBlank) then [] else [current.reverse]
  | token :: rest =>
    if progress.ended && !trailsStatement token then
      current.reverse :: statementsAfter (Progress.advance {} token) [token] rest
    else statementsAfter (progress.advance token) (token :: current) rest

/-- The statements that tokens form. -/
def statements (tokens : List Token) : List (List Token) :=
  statementsAfter {} [] tokens

end TenantReporting.Sql
