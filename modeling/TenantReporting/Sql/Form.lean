import TenantReporting.Sql.Token
import TenantReporting.Text.Blank
import TenantReporting.Text.DecimalDigit
import TenantReporting.Text.WordCharacter

/-!
# Forms of tokens

What the tokens of each kind look like. A form measures how many characters at the front of a text
belong to a token of that form, if there is one. Some forms depend on the character before the text.
Where several forms fit, the first one in `forms` decides.
-/

namespace TenantReporting.Sql

/-- Measures the token of a form at the front of a text, after the given character. -/
abbrev Form := Option Char → List Char → Option Nat

/-! ### Characters -/

/-- The character is a form of the given capital letter. Besides the two ASCII letters these are the
dotless and the dotted i, the long s and the Kelvin sign. -/
def isFormOf (letter c : Char) : Bool :=
  c.toUpper == letter
    || (letter == 'I' && (c.toNat == 0x130 || c.toNat == 0x131))
    || (letter == 'S' && c.toNat == 0x17F)
    || (letter == 'K' && c.toNat == 0x212A)

/-- A name may begin with the character: a letter of ASCII or of the first half of Latin-1, where
the multiplication sign passes for a letter. -/
def isInitial (c : Char) : Bool :=
  c.isAlpha || (0xC0 ≤ c.toNat && c.toNat ≤ 0xDC) || (0xE0 ≤ c.toNat && c.toNat ≤ 0xF6)
    || (0xF8 ≤ c.toNat && c.toNat ≤ 0xFC) || c.toNat == 0x130 || c.toNat == 0x131
    || c.toNat == 0x17F || c.toNat == 0x212A || c.toNat == 0x212B

/-- The character is a decimal digit of any script. -/
def isDigit (c : Char) : Bool :=
  (Text.decimalDigit? c).isSome

/-- The number of characters at the front of a text that satisfy a condition. -/
def runLength (condition : Char → Bool) (text : List Char) : Nat :=
  (text.takeWhile condition).length

/-- The count unless it is zero. -/
def positive? (count : Nat) : Option Nat :=
  if count = 0 then none else some count

/-! ### Blanks and comments -/

/-- A line break. -/
def lineBreak : Form
  | _, '\r' :: '\n' :: _ => some 2
  | _, '\r' :: _ => some 1
  | _, '\n' :: _ => some 1
  | _, _ => none

/-- A single blank. -/
def blank : Form
  | _, c :: _ => if Text.isBlank c then some 1 else none
  | _, [] => none

/-- The length of the line at the front of a text, with the line break at its end if it has one. -/
def lineLength (text : List Char) : Nat :=
  let inLine (c : Char) : Bool := c != '\r' && c != '\n'
  runLength inLine text + (lineBreak none (text.dropWhile inLine)).getD 0

/-- A comment that ends with its line. -/
def lineComment : Form
  | _, '-' :: '-' :: rest => some (2 + lineLength rest)
  | _, '#' :: ' ' :: rest => some (2 + lineLength rest)
  | _, _ => none

/-- A comment for the planner that ends with its line. -/
def lineHint : Form
  | _, '-' :: '-' :: '+' :: rest => some (3 + lineLength rest)
  | _, '#' :: ' ' :: '+' :: rest => some (3 + lineLength rest)
  | _, _ => none

/-- The length of a text up to the end of a comment, when `count` characters came before it. -/
def commentLength? : Nat → List Char → Option Nat
  | count, '*' :: '/' :: _ => some (count + 2)
  | count, _ :: rest => commentLength? (count + 1) rest
  | _, [] => none

/-- A comment between marks. -/
def blockComment : Form
  | _, '/' :: '*' :: rest => commentLength? 2 rest
  | _, _ => none

/-- A comment for the planner between marks. -/
def blockHint : Form
  | _, '/' :: '*' :: '+' :: rest => commentLength? 3 rest
  | _, _ => none

/-! ### Quotations -/

/-- The apostrophe, which quotes text. -/
def apostrophe : Char := Char.ofNat 39

/-- The grave accent, which quotes names. -/
def graveAccent : Char := Char.ofNat 96

/-- The acute accent, which quotes names. -/
def acuteAccent : Char := Char.ofNat 180

/-- The length of a text up to the mark that closes a quotation, when `count` characters came before
it. A doubled mark stands for itself, and so does a mark after a backslash if `escapes` holds, as
long as the quotation can still be closed after it. -/
def quotationLength? (mark : Char) (escapes : Bool) : Nat → List Char → Option Nat
  | count, c :: d :: rest =>
    let isPair := d == mark && (c == mark || escapes && c == '\\') && rest.contains mark
    if isPair then quotationLength? mark escapes (count + 2) rest
    else if c == mark then some (count + 1)
    else quotationLength? mark escapes (count + 1) (d :: rest)
  | count, [c] => if c == mark then some (count + 1) else none
  | _, [] => none

/-- A quotation between two of the given marks. -/
def quotation (mark : Char) (escapes : Bool) : Form
  | _, c :: rest => if c == mark then quotationLength? mark escapes 1 rest else none
  | _, [] => none

/-- The text begins with the given one, up to the case of letters. -/
def beginsWith : List Char → List Char → Bool
  | [], _ => true
  | c :: start, d :: text => Text.small c == Text.small d && beginsWith start text
  | _ :: _, [] => false

/-- The length of a text up to the end of the first occurrence of another one, when `count`
characters came before it. -/
def occurrenceEnd? (sought : List Char) : Nat → List Char → Option Nat
  | count, [] => if sought.isEmpty then some count else none
  | count, c :: rest =>
    if beginsWith sought (c :: rest) then some (count + sought.length)
    else occurrenceEnd? sought (count + 1) rest

/-- Text between two equal tags, each of which is a word between dollar signs or just two of
them. -/
def dollarQuotation : Form
  | before, '$' :: rest =>
    let isCut := before.any fun c ↦ Text.isWordCharacter c || c == '"' || c == '$'
    let isTagged := rest.head?.any fun c ↦ isInitial c || c == '_'
    let tag := if isTagged then rest.takeWhile Text.isWordCharacter else []
    match rest.drop tag.length with
    | '$' :: body =>
      if isCut then none
      else occurrenceEnd? ('$' :: tag ++ ['$']) (tag.length + 2) body
    | _ => none
  | _, _ => none

/-- A name between square brackets, which must not follow what could be indexed. -/
def bracketedName : Form
  | before, '[' :: rest =>
    let isCut := before.any fun c ↦ Text.isWordCharacter c || c == ']' || c == ')'
    let inName (c : Char) : Bool := c != '[' && c != ']'
    if isCut || (rest.dropWhile inName).head? != some ']' then none
    else (positive? (runLength inName rest)).map (· + 2)
  | _, _ => none

/-! ### Placeholders and names -/

/-- A question mark or a percent sign that stands for a value, the latter with a name in
parentheses or without one. -/
def anonymousPlaceholder : Form
  | _, '?' :: _ => some 1
  | _, '%' :: '(' :: rest =>
    let length := runLength Text.isWordCharacter rest
    match rest.drop length with
    | ')' :: c :: _ => if isFormOf 'S' c then (positive? length).map (· + 4) else none
    | _ => none
  | _, '%' :: c :: _ => if isFormOf 'S' c then some 2 else none
  | _, _ => none

/-- A placeholder with a name after its sign. -/
def namedPlaceholder : Form
  | before, sign :: rest =>
    if (sign == '$' || sign == ':') && !before.any Text.isWordCharacter then
      (positive? (runLength Text.isWordCharacter rest)).map (· + 1)
    else none
  | _, [] => none

/-- A word after a backslash. -/
def command : Form
  | _, '\\' :: rest => (positive? (runLength Text.isWordCharacter rest)).map (· + 1)
  | _, _ => none

/-- The length of a name at the front of a text. -/
def nameLength? : List Char → Option Nat
  | c :: rest => if isInitial c then some (1 + runLength Text.isWordCharacter rest) else none
  | [] => none

/-- A name of at least two letters after an at sign or one or two number signs. -/
def markedName : Form
  | _, '@' :: rest => (nameLength? rest).filter (2 ≤ ·) |>.map (· + 1)
  | _, '#' :: '#' :: rest => (nameLength? rest).filter (2 ≤ ·) |>.map (· + 2)
  | _, '#' :: rest => (nameLength? rest).filter (2 ≤ ·) |>.map (· + 1)
  | _, _ => none

/-- A name right before the given mark. -/
def nameBefore (mark : Char) : Form := fun _ text ↦
  (nameLength? text).filter fun length ↦ (text.drop length).head? == some mark

/-- A name right after a point. -/
def nameAfterPoint : Form := fun before text ↦
  if before == some '.' then nameLength? text else none

/-! ### Numbers -/

/-- The length of a minus sign at the front of a text. -/
def signLength : List Char → Nat
  | '-' :: _ => 1
  | _ => 0

/-- The number of digits that can be taken from a run of them: one less if a letter or underscore
follows. -/
def separableDigits (count : Nat) (after : List Char) : Nat :=
  if after.head?.any fun c ↦ isInitial c || c == '_' then count - 1 else count

/-- A hexadecimal number. -/
def hexadecimal : Form := fun _ text ↦
  let isHexDigit (c : Char) : Bool := isDigit c || ('A' ≤ c.toUpper && c.toUpper ≤ 'F')
  match text.drop (signLength text) with
  | '0' :: mark :: rest =>
    if isFormOf 'X' mark then
      (positive? (runLength isHexDigit rest)).map (· + (signLength text + 2))
    else none
  | _ => none

/-- The length of a fraction with at least one digit at the front of a text, zero if there is
none. -/
def fractionLength : List Char → Nat
  | '.' :: rest => if runLength isDigit rest = 0 then 0 else 1 + runLength isDigit rest
  | _ => 0

/-- A number with an exponent. -/
def scientific : Form := fun _ text ↦ do
  let sign := signLength text
  let whole ← positive? (runLength isDigit (text.drop sign))
  let significand := sign + whole + fractionLength (text.drop (sign + whole))
  match text.drop significand with
  | mark :: rest =>
    if isFormOf 'E' mark then
      let exponentSign := signLength rest
      let exponent ← positive? (runLength isDigit (rest.drop exponentSign))
      return significand + 1 + exponentSign + exponent
    else none
  | [] => none

/-- A number with a point, with digits before it or after it. -/
def pointed : Form := fun _ text ↦
  let sign := signLength text
  let whole := runLength isDigit (text.drop sign)
  match text.drop (sign + whole) with
  | '.' :: rest =>
    let written := runLength isDigit rest
    let taken := separableDigits written (rest.drop written)
    let isCut := taken == written && separableDigits 1 (rest.drop written) == 0
    if isCut || whole == 0 && taken == 0 then none else some (sign + whole + 1 + taken)
  | _ => none

/-- A whole number. -/
def whole : Form := fun _ text ↦
  let sign := signLength text
  let written := runLength isDigit (text.drop sign)
  (positive? (separableDigits written (text.drop (sign + written)))).map (· + sign)

/-! ### Words -/

/-- What remains of a text after a word in capitals, if the text begins with a form of it. -/
def afterWord? : List Char → List Char → Option (List Char)
  | [], text => some text
  | letter :: letters, c :: text => if isFormOf letter c then afterWord? letters text else none
  | _ :: _, [] => none

/-- The length of a row of words with blanks between them, which must not go on as a longer word. -/
def phraseLength? : List String → List Char → Option Nat
  | [], _ => none
  | [word], text => do
    let rest ← afterWord? word.toList text
    if rest.head?.any Text.isWordCharacter then none else some word.length
  | word :: next :: words, text => do
    let rest ← afterWord? word.toList text
    let blanks ← positive? (runLength Text.isBlank rest)
    (phraseLength? (next :: words) (rest.drop blanks)).map (word.length + blanks + ·)

/-- A row of words. -/
def phrase (words : List String) : Form :=
  fun _ text ↦ phraseLength? words text

/-- The word GO with the number of repetitions after a single blank. -/
def repeatedBatch : Form := fun _ text ↦ do
  match ← afterWord? ['G', 'O'] text with
  | gap :: rest =>
    let digits ← positive? (runLength isDigit rest)
    let isCut := (rest.drop digits).head?.any Text.isWordCharacter
    if Text.isBlank gap && !isCut then some (3 + digits) else none
  | [] => none

/-- What remains of a text after at least one blank. -/
def afterBlanks? : List Char → Option (List Char)
  | c :: rest => if Text.isBlank c then some (rest.dropWhile Text.isBlank) else none
  | [] => none

/-- The words AT TIME ZONE and the quoted name of the zone. The first of them may also be WITH and
a quotation mark. -/
def zone : Form := fun _ text ↦ do
  let opened ←
    match afterWord? ['A', 'T'] text with
    | some rest => some rest
    | none =>
      match afterWord? ['W', 'I', 'T', 'H'] text with
      | some (mark :: rest) => if mark == apostrophe then some rest else none
      | _ => none
  let rest ← afterWord? ['T', 'I', 'M', 'E'] (← afterBlanks? opened)
  let rest ← afterBlanks? (← afterWord? ['Z', 'O', 'N', 'E'] (← afterBlanks? rest))
  match rest with
  | mark :: rest =>
    let inside := runLength (· != apostrophe) rest
    if mark == apostrophe && inside ≠ 0 && inside < rest.length then
      some (text.length - rest.length + inside + 1)
    else none
  | [] => none

/-- Words that are never names, whatever stands around them. -/
def firmWords : List String :=
  ["CASE", "IN", "VALUES", "USING", "FROM", "AS"]

/-- The ways to say which rows a join keeps. -/
def joinPhrases : List (List String) :=
  let sides := [[], ["LEFT"], ["RIGHT"], ["FULL"]]
  let ways := [[], ["INNER"], ["OUTER"], ["STRAIGHT"]]
  let pairs := sides.flatMap fun side ↦ ways.map fun way ↦ side ++ way ++ ["JOIN"]
  pairs ++ [["CROSS", "JOIN"], ["NATURAL", "JOIN"]]

/-- Rows of words that form one token, longer ones before those that they begin with. -/
def phrases : List (TokenKind × List String) :=
  joinPhrases.map (fun words ↦ (.keyword, words)) ++
  [(.keyword, ["END", "IF"]), (.keyword, ["END", "LOOP"]), (.keyword, ["END", "WHILE"]),
   (.keyword, ["END"]), (.keyword, ["NOT", "NULL"]),
   (.direction, ["ASC", "NULLS", "FIRST"]), (.direction, ["ASC", "NULLS", "LAST"]),
   (.direction, ["DESC", "NULLS", "FIRST"]), (.direction, ["DESC", "NULLS", "LAST"]),
   (.direction, ["ASC"]), (.direction, ["DESC"]),
   (.keyword, ["NULLS", "FIRST"]), (.keyword, ["NULLS", "LAST"]), (.keyword, ["UNION", "ALL"]),
   (.definition, ["CREATE", "OR", "REPLACE"]), (.definition, ["CREATE"]),
   (.builtin, ["DOUBLE", "PRECISION"]), (.keyword, ["GROUP", "BY"]), (.keyword, ["ORDER", "BY"]),
   (.keyword, ["PRIMARY", "KEY"]), (.keyword, ["HANDLER", "FOR"]),
   (.keyword, ["LATERAL", "VIEW", "EXPLODE"]), (.keyword, ["LATERAL", "VIEW", "INLINE"]),
   (.keyword, ["LATERAL", "VIEW", "PARSE_URL_TUPLE"]),
   (.keyword, ["LATERAL", "VIEW", "POSEXPLODE"]), (.keyword, ["LATERAL", "VIEW", "STACK"]),
   (.comparison, ["NOT", "LIKE"]), (.comparison, ["NOT", "ILIKE"]), (.comparison, ["NOT", "RLIKE"]),
   (.comparison, ["LIKE"]), (.comparison, ["ILIKE"]), (.comparison, ["RLIKE"]),
   (.comparison, ["NOT", "REGEXP", "BINARY"]), (.comparison, ["REGEXP", "BINARY"]),
   (.comparison, ["NOT", "REGEXP"]), (.comparison, ["REGEXP"])]

/-! ### Marks -/

/-- A fixed mark. -/
def mark (characters : String) : Form := fun _ text ↦
  if characters.toList.isPrefixOf text then some characters.length else none

/-- A run of the given characters. -/
def runOf (characters : String) : Form :=
  fun _ text ↦ positive? (runLength characters.toList.contains text)

/-- One of the given characters. -/
def oneOf (characters : String) : Form
  | _, c :: _ => if characters.toList.contains c then some 1 else none
  | _, [] => none

/-- The operators on structured values. -/
def structureOperators : List String :=
  ["->>", "->", "#>>", "#>", "@>", "<@", "-", "#-"]

/-! ### All forms -/

/-- The forms of tokens other than single words, in the order in which they are tried. -/
def forms : List (TokenKind × Form) :=
  [(.lineHint, lineHint), (.blockHint, blockHint),
   (.lineComment, lineComment), (.blockComment, blockComment),
   (.lineBreak, lineBreak), (.space, blank),
   (.assignment, mark ":="), (.punctuation, mark "::"), (.wildcard, mark "*"),
   (.name, quotation graveAccent false), (.name, quotation acuteAccent false),
   (.dollarText, dollarQuotation),
   (.placeholder, anonymousPlaceholder), (.placeholder, namedPlaceholder), (.command, command)] ++
  firmWords.map (fun word ↦ (.keyword, phrase [word])) ++
  [(.name, markedName), (.name, nameBefore '.'), (.name, nameAfterPoint), (.name, nameBefore '('),
   (.hexadecimal, hexadecimal), (.real, scientific), (.real, pointed), (.integer, whole),
   (.text, quotation apostrophe true), (.symbol, quotation '"' true),
   (.name, bracketedName)] ++
  phrases.map (fun entry ↦ (entry.1, phrase entry.2)) ++
  [(.keyword, repeatedBatch), (.zone, zone), (.punctuation, oneOf ";:()[],.")] ++
  structureOperators.map (fun operator ↦ (.operator, mark operator)) ++
  [(.comparison, runOf "<>=~!"), (.operator, runOf "+/@#%^&|-")]

/-- The length of a single word. -/
def wordLength? : List Char → Option Nat
  | c :: rest =>
    let continues (c : Char) : Bool := Text.isWordCharacter c || c == '$' || c == '#'
    if Text.isWordCharacter c then some (1 + runLength continues rest) else none
  | [] => none

end TenantReporting.Sql
