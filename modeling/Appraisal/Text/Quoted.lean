import Appraisal.Text.Blank

set_option autoImplicit false

namespace Appraisal.Text

def isLiteralPrefix (c : Char) : Bool :=
  c ∈ ['r', 'R', 'b', 'B', 'u', 'U', 'f', 'F']

def quotes : List (List Char) :=
  [['"', '"', '"'], ['\'', '\'', '\''], ['"'], ['\'']]

/-- `body` opens and closes with `quote`, and the two do not overlap. -/
def isQuotedBy (quote body : List Char) : Bool :=
  quote.length * 2 ≤ body.length && quote.isPrefixOf body && quote.isSuffixOf body

def stripQuote (quote body : List Char) : List Char :=
  (body.drop quote.length).take (body.length - quote.length * 2)

/-- The content of a string literal; a text that is no literal is only trimmed. -/
def unquote (cs : List Char) : List Char :=
  let literal := trim cs
  let body := literal.dropWhile isLiteralPrefix
  match quotes.find? (isQuotedBy · body) with
  | some quote => stripQuote quote body
  | none => literal

theorem stripQuote_append (quote content : List Char) :
    stripQuote quote (quote ++ content ++ quote) = content := by
  have h : (quote ++ content ++ quote).length - quote.length * 2 = content.length := by
    simp only [List.length_append]
    omega
  rw [stripQuote, h, List.append_assoc, List.drop_left, List.take_left]

end Appraisal.Text
