import Appraisal.Proofs.Scan.Findings

set_option autoImplicit false

namespace Appraisal.Scan

def Sighting.below (n : Nat) (s : Sighting) : Sighting := { s with lineNumber := s.lineNumber + n }

theorem numberedLines_append (a b : List Char) :
    numberedLines (a ++ '\n' :: b) = numberedLines (a ++ ['\n']) ++
      (numberedLines b).map (Prod.map id (· + (Text.lines (a ++ ['\n'])).length)) := by
  rw [numberedLines, Text.lines_append, List.zipIdx_append, numberedLines, numberedLines,
    List.map_snd_add_zipIdx_eq_zipIdx, Nat.add_comm 1]

variable {path : String} {rules : RuleSet} {limits : Limits}

def ownSightings (path : String) (rules : RuleSet) (limits : Limits) (line : List Char)
    (number : Nat) : List (Sighting × String) :=
  (rules.detectors.flatMap (fun d => d.sightings path limits line number)).map
    (fun s => (s, String.ofList (storedLine rules limits.placeholder.toList line)))

theorem contextLine_of_mem_lineFindings {numbered : List (List Char × Nat)} {line : List Char}
    {number : Nat} {f : Finding} (h : f ∈ lineFindings path rules limits numbered line number) :
    f.contextLine = String.ofList (storedLine rules limits.placeholder.toList line) := by
  simp only [lineFindings, List.mem_flatMap, List.mem_map] at h
  obtain ⟨_, _, _, _, rfl⟩ := h
  rfl

/-- Lines do not take part in what is said of other lines. -/
theorem own_textFindings (path : String) (rules : RuleSet) (limits : Limits) (text : List Char) :
    (textFindings path rules limits text).map (fun f => (f.sighting, f.contextLine)) =
      (numberedLines text).flatMap (fun e => ownSightings path rules limits e.1 e.2) := by
  change ((numberedLines text).flatMap (fun e =>
    lineFindings path rules limits (numberedLines text) e.1 e.2)).map _ = _
  rw [List.map_flatMap]
  refine List.flatMap_congr fun e _ => ?_
  rw [ownSightings, ← map_sighting_lineFindings path rules limits (numberedLines text), List.map_map]
  exact List.map_congr_left fun f hf => by
    rw [contextLine_of_mem_lineFindings hf]
    rfl

theorem ownSightings_below (line : List Char) (number n : Nat) :
    ownSightings path rules limits line (number + n) =
      (ownSightings path rules limits line number).map (Prod.map (Sighting.below n) id) := by
  simp only [ownSightings, List.map_map, List.map_flatMap, Detector.sightings]
  rfl

theorem own_textFindings_append (a b : List Char) :
    (textFindings path rules limits (a ++ '\n' :: b)).map (fun f => (f.sighting, f.contextLine)) =
      (textFindings path rules limits (a ++ ['\n'])).map (fun f => (f.sighting, f.contextLine)) ++
        (textFindings path rules limits b).map (fun f =>
          (f.sighting.below (Text.lines (a ++ ['\n'])).length, f.contextLine)) := by
  have hbelow (n : Nat) : (textFindings path rules limits b).map (fun f =>
      (f.sighting.below n, f.contextLine)) =
        ((textFindings path rules limits b).map (fun f => (f.sighting, f.contextLine))).map
          (Prod.map (Sighting.below n) id) := by
    rw [List.map_map]
    rfl
  rw [hbelow, own_textFindings, own_textFindings, own_textFindings, numberedLines_append,
    List.flatMap_append, List.flatMap_map, List.map_flatMap]
  simp only [Prod.map_fst, Prod.map_snd, id_eq, ownSightings_below]

structure OnLines (count : Nat) (findings : List Finding) : Prop where
  bounds : ∀ f ∈ findings, 1 ≤ f.lineNumber ∧ f.lineNumber ≤ count
  order : findings.Pairwise (fun x y => x.lineNumber ≤ y.lineNumber)

theorem onLines_textFindings (path : String) (rules : RuleSet) (limits : Limits)
    (text : List Char) :
    OnLines (Text.lines text).length (textFindings path rules limits text) := by
  refine ⟨fun f hf => ?_, textFindings_pairwise path rules limits text⟩
  obtain ⟨line, number, hline, _, _, _, _, rfl⟩ := mem_textFindings.1 hf
  obtain ⟨hfirst, hlast, -⟩ := List.mem_zipIdx hline
  change 1 ≤ number ∧ number ≤ (Text.lines text).length
  omega

/-- Scanning two texts with a line end between them finds in order what is found in the first with
its line end, and then what is found in the second, so many lines further down. -/
theorem findings_append {a b : String} {sizeA sizeB size : Nat}
    {findingsA findingsB findings : List Finding}
    (hA : scan path (a ++ "\n").toUTF8 sizeA rules limits = .scanned findingsA)
    (hB : scan path b.toUTF8 sizeB rules limits = .scanned findingsB)
    (h : scan path (a ++ "\n" ++ b).toUTF8 size rules limits = .scanned findings) :
    linesOf (a ++ "\n" ++ b).toUTF8 = linesOf (a ++ "\n").toUTF8 ++ linesOf b.toUTF8 ∧
      findings.map (fun f => (f.sighting, f.contextLine)) =
        findingsA.map (fun f => (f.sighting, f.contextLine)) ++
          findingsB.map (fun f =>
            (f.sighting.below (linesOf (a ++ "\n").toUTF8).length, f.contextLine)) ∧
      OnLines (linesOf (a ++ "\n").toUTF8).length findingsA ∧
      OnLines (linesOf b.toUTF8).length findingsB ∧
      OnLines (linesOf (a ++ "\n" ++ b).toUTF8).length findings := by
  have hfirst : (a ++ "\n").toList = a.toList ++ ['\n'] := String.toList_append
  have hwhole : (a ++ "\n" ++ b).toList = a.toList ++ '\n' :: b.toList := by
    rw [String.toList_append, hfirst, List.append_assoc]
    rfl
  rw [findings_of_scanned hA, findings_of_scanned hB, findings_of_scanned h, linesOf_toUTF8,
    linesOf_toUTF8, linesOf_toUTF8, hwhole, hfirst]
  exact ⟨Text.lines_append _ _, own_textFindings_append _ _, onLines_textFindings _ _ _ _,
    onLines_textFindings _ _ _ _, onLines_textFindings _ _ _ _⟩

def firstText : String := "eval(x)\r"

def secondText : String := "\nmy key=1 eval(y)"

def keyFile (text : String) : FileScan := scan "bot.py" text.toUTF8 0 keyRules .default

theorem findings_of_two_texts :
    keyFile (firstText ++ "\n") = .scanned (keyFile (firstText ++ "\n")).findings ∧
      keyFile secondText = .scanned (keyFile secondText).findings ∧
      keyFile (firstText ++ "\n" ++ secondText) =
        .scanned (keyFile (firstText ++ "\n" ++ secondText)).findings ∧
      (keyFile (firstText ++ "\n" ++ secondText)).findings.map (fun f => (f.lineNumber, f.ruleId)) =
        [(1, "eval"), (3, "key"), (3, "eval")] ∧
      (keyFile (firstText ++ "\n" ++ secondText)).findings.map
          (fun f => (f.sighting, f.contextLine)) =
        (keyFile (firstText ++ "\n")).findings.map (fun f => (f.sighting, f.contextLine)) ++
          (keyFile secondText).findings.map (fun f =>
            (f.sighting.below (linesOf (firstText ++ "\n").toUTF8).length, f.contextLine)) ∧
      OnLines (linesOf (firstText ++ "\n" ++ secondText).toUTF8).length
        (keyFile (firstText ++ "\n" ++ secondText)).findings := by
  have hfirst : keyFile (firstText ++ "\n") = .scanned (keyFile (firstText ++ "\n")).findings := by
    decide +kernel
  have hsecond : keyFile secondText = .scanned (keyFile secondText).findings := by decide +kernel
  have hwhole : keyFile (firstText ++ "\n" ++ secondText) =
      .scanned (keyFile (firstText ++ "\n" ++ secondText)).findings := by
    decide +kernel
  obtain ⟨-, hown, -, -, hlines⟩ := findings_append hfirst hsecond hwhole
  exact ⟨hfirst, hsecond, hwhole, by decide +kernel, hown, hlines⟩

end Appraisal.Scan
