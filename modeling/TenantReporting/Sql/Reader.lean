import TenantReporting.Sql.Form
import TenantReporting.Sql.Vocabulary

/-!
# Reading tokens

`tokens` cuts query text into its tokens. At each place the first form that fits decides, then
single words, and a character that nothing fits stands for itself.
-/

namespace TenantReporting.Sql

/-- The kind and length of the token at the front of a text, after the given character. -/
def tokenAt (before : Option Char) (text : List Char) : TokenKind × Nat :=
  match forms.findSome? fun (kind, form) ↦ (form before text).map (kind, ·) with
  | some found => found
  | none =>
    match wordLength? text with
    | some length => (wordKind (Text.capitals (String.ofList (text.take length))), length)
    | none => (.stray, 1)

/-- The tokens of a text that stands after the given character. -/
def tokensAfter (before : Option Char) (text : List Char) : List Token :=
  match text with
  | [] => []
  | c :: rest =>
    let (kind, length) := tokenAt before (c :: rest)
    let tail := rest.take (length - 1)
    ⟨kind, String.ofList (c :: tail)⟩
      :: tokensAfter (tail.getLast?.getD c) (rest.drop (length - 1))
termination_by text.length
decreasing_by
  simp only [List.length_drop, List.length_cons]
  omega

/-- The tokens of a text. -/
def tokens (text : List Char) : List Token :=
  tokensAfter none text

end TenantReporting.Sql
