/-!
# Letter case

Capital and small forms of text that is going to be compared with words of ASCII letters. A
character matters for such a comparison only if its full case mapping consists of ASCII letters,
so exactly those mappings are listed and every other character stands for itself.
-/

namespace TenantReporting.Text

/-- The capital form of a character, which may have several letters. -/
def capital (c : Char) : List Char :=
  match c with
  | 'ß' => ['S', 'S']
  | 'ı' => ['I']
  | 'ſ' => ['S']
  | 'ﬀ' => ['F', 'F']
  | 'ﬁ' => ['F', 'I']
  | 'ﬂ' => ['F', 'L']
  | 'ﬃ' => ['F', 'F', 'I']
  | 'ﬄ' => ['F', 'F', 'L']
  | 'ﬅ' => ['S', 'T']
  | 'ﬆ' => ['S', 'T']
  | _ => [c.toUpper]

/-- The small form of a character. Besides the ASCII capitals only the Kelvin sign has an ASCII
letter as its small form. -/
def small (c : Char) : Char :=
  if c.toNat = 0x212A then 'k' else c.toLower

/-- The text in capitals. -/
def capitals (text : String) : String :=
  String.ofList (text.toList.flatMap capital)

/-- The text in small letters. -/
def lowered (text : String) : String :=
  String.ofList (text.toList.map small)

end TenantReporting.Text
