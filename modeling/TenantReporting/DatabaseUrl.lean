import TenantReporting.Numeral
import TenantReporting.Text.Percent
import TenantReporting.Text.WordCharacter

/-!
# Addresses of databases

The address of a database names the driver, and may go on with a user and password, a host and port,
a database, and options. Only the name of the driver has to be there.
-/

namespace TenantReporting

/-- The parts of a database's address. An option may be given several times. -/
structure DatabaseUrl where
  driver : String
  user : Option String
  password : Option String
  host : Option String
  port : Option Int
  database : Option String
  options : List (String × List String)
deriving DecidableEq, Repr

/-- Why a text is not the address of a database. -/
inductive UrlFault where
  | unreadable
  | port (fault : Numeral.Fault)
deriving DecidableEq, Repr

/-- The public name of a fault. -/
def UrlFault.name : UrlFault → String
  | .unreadable => "ArgumentError"
  | .port _ => "ValueError"

/-- The wording of a fault. -/
def UrlFault.message : UrlFault → String
  | .unreadable => "Could not parse SQLAlchemy URL from given URL string"
  | .port fault => fault.message

namespace DatabaseUrl

/-- Splits the name of the driver from the front of an address. -/
def splitDriver? (text : List Char) : Option (String × List Char) :=
  let isDriverCharacter (c : Char) : Bool := Text.isWordCharacter c || c == '+'
  let driver := text.takeWhile isDriverCharacter
  match text.dropWhile isDriverCharacter with
  | ':' :: '/' :: '/' :: rest =>
    if driver.isEmpty then none else some (String.ofList driver, rest)
  | _ => none

/-- Splits a text at the last occurrence of a character, if there is one. -/
def splitLast? (separator : Char) (text : List Char) : Option (List Char × List Char) :=
  if text.contains separator then
    let after := (text.reverse.takeWhile (· != separator)).reverse
    some (text.take (text.length - after.length - 1), after)
  else none

/-- Splits the user and password from the front of the rest of an address. They end in an at sign.
A password begins at the first colon; without one the user may itself contain at signs. -/
def splitUser (text : List Char) : Option String × Option String × List Char :=
  let inName (c : Char) : Bool := c != ':' && c != '/'
  let name := text.takeWhile inName
  let rest := text.dropWhile inName
  let withoutPassword : Option String × Option String × List Char :=
    match splitLast? '@' name with
    | some (user, after) => (some (Text.percentDecoded user), none, after ++ rest)
    | none => (none, none, text)
  match rest with
  | ':' :: afterColon =>
    match afterColon.dropWhile (· != '@') with
    | '@' :: rest =>
      (some (Text.percentDecoded name),
        some (Text.percentDecoded (afterColon.takeWhile (· != '@'))), rest)
    | _ => withoutPassword
  | _ => withoutPassword

/-- Splits the host from the front of the rest of an address. A host with colons stands in
brackets. -/
def splitHost (text : List Char) : Option String × List Char :=
  let beforePath (c : Char) : Bool := c != '/' && c != '?'
  let bracketed? :=
    match text with
    | '[' :: afterBracket =>
      (splitLast? ']' (afterBracket.takeWhile beforePath)).filter (!·.1.isEmpty)
    | _ => none
  match bracketed? with
  | some (host, after) => (some (String.ofList host), after ++ text.dropWhile beforePath)
  | none =>
    let inHost (c : Char) : Bool := beforePath c && c != ':'
    let host := text.takeWhile inHost
    (if host.isEmpty then none else some (String.ofList host), text.dropWhile inHost)

/-- Splits the text of the port from the front of the rest of an address. -/
def splitPort : List Char → Option String × List Char
  | ':' :: rest =>
    let inPort (c : Char) : Bool := c != '/' && c != '?'
    (some (String.ofList (rest.takeWhile inPort)), rest.dropWhile inPort)
  | text => (none, text)

/-- Splits the database from the front of the rest of an address. -/
def splitDatabase : List Char → Option String × List Char
  | '/' :: rest => (some (String.ofList (rest.takeWhile (· != '?'))), rest.dropWhile (· != '?'))
  | text => (none, text)

/-- The options with a further value for a key. -/
def addOption (options : List (String × List String)) (option : String × String) :
    List (String × List String) :=
  if options.any fun other ↦ other.1 == option.1 then
    options.map fun other ↦
      if other.1 == option.1 then (other.1, other.2 ++ [option.2]) else other
  else options ++ [(option.1, [option.2])]

/-- The options at the end of an address. They end at the end of the line. -/
def optionsOf : List Char → List (String × List String)
  | '?' :: rest => (Text.formPairs false (rest.takeWhile (· != '\n'))).foldl addOption []
  | _ => []

/-- The port that a text writes, which has to be an integer if a colon announces it. -/
def portOf : Option String → Except UrlFault (Option Int)
  | none => .ok none
  | some text => ((Numeral.integer text).mapError .port).map some

/-- The parts of an address. -/
def read (text : String) : Except UrlFault DatabaseUrl :=
  match splitDriver? text.toList with
  | none => .error .unreadable
  | some (driver, rest) =>
    let (user, password, rest) := splitUser rest
    let (host, rest) := splitHost rest
    let (portText, rest) := splitPort rest
    let (database, rest) := splitDatabase rest
    (portOf portText).map fun port ↦
      { driver, user, password, host, port, database, options := optionsOf rest }

/-- The kind of store that the driver speaks to. -/
def storeKind (url : DatabaseUrl) : String :=
  String.ofList (url.driver.toList.takeWhile (· != '+'))

end DatabaseUrl

end TenantReporting
