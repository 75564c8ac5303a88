import Appraisal.Proofs.Scan.Findings

set_option autoImplicit false

namespace Appraisal.Scan

variable {path : String} {rules : RuleSet} {limits : Limits}

theorem textFindings_congr {a b : List Char} (h : Text.lines a = Text.lines b) :
    textFindings path rules limits a = textFindings path rules limits b := by
  simp only [textFindings, h]

/-- Whether lines end with a line feed alone or with a carriage return before it makes no
difference to the findings. -/
theorem findings_eq_with_returns {text : String} {size size' : Nat}
    {findings findings' : List Finding} (htext : '\r' ∉ text.toList)
    (hscan : scan path text.toUTF8 size rules limits = .scanned findings)
    (hscan' : scan path (String.ofList (Text.withReturns text.toList)).toUTF8 size' rules limits =
      .scanned findings') :
    findings' = findings := by
  rw [findings_of_scanned hscan, findings_of_scanned hscan', String.toList_ofList]
  exact textFindings_congr (Text.lines_withReturns htext)

def feedText : String := "eval(x)\n\n  my key=1 \neval(y)"

def returnText : String := "eval(x)\r\n\r\n  my key=1 \r\neval(y)"

def endScan (text : String) : FileScan := scan "bot.py" text.toUTF8 0 keyRules .default

theorem findings_eq_for_feeds_and_returns :
    '\r' ∉ feedText.toList ∧
      String.ofList (Text.withReturns feedText.toList) = returnText ∧
      endScan feedText = .scanned (endScan feedText).findings ∧
      endScan returnText = .scanned (endScan returnText).findings ∧
      (endScan feedText).findings.map (fun f => (f.lineNumber, f.contextLine)) =
        [(1, "eval(x)"), (3, "my [REDACTED]"), (4, "eval(y)")] ∧
      (endScan returnText).findings = (endScan feedText).findings := by
  have hfeeds : '\r' ∉ feedText.toList := by decide +kernel
  have hreturns : String.ofList (Text.withReturns feedText.toList) = returnText := by
    decide +kernel
  have hscan : endScan feedText = .scanned (endScan feedText).findings := by decide +kernel
  have hscan' : endScan returnText = .scanned (endScan returnText).findings := by decide +kernel
  refine ⟨hfeeds, hreturns, hscan, hscan', by decide +kernel, ?_⟩
  exact findings_eq_with_returns hfeeds hscan (hreturns.symm ▸ hscan')

end Appraisal.Scan
