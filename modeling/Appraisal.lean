import Appraisal.Analysis.Result
import Appraisal.Command.Run
import Appraisal.Index.File
import Appraisal.Main
import Appraisal.Proofs.Analysis.Classified
import Appraisal.Proofs.Analysis.Conservation
import Appraisal.Proofs.Analysis.Isolation
import Appraisal.Proofs.Analysis.SizeGuard
import Appraisal.Proofs.Code.EntityTexts
import Appraisal.Proofs.Code.Keywords
import Appraisal.Proofs.Code.Walk
import Appraisal.Proofs.Command.IndexKept
import Appraisal.Proofs.Files.Discovery
import Appraisal.Proofs.Files.RelativePaths
import Appraisal.Proofs.Index.Filtering
import Appraisal.Proofs.Index.Interleaving
import Appraisal.Proofs.Index.Saving
import Appraisal.Proofs.Python.Docstrings
import Appraisal.Proofs.Python.Parameters
import Appraisal.Proofs.Report.Counts
import Appraisal.Proofs.Report.Forging
import Appraisal.Proofs.Scan.Agreement
import Appraisal.Proofs.Scan.ApiKeys
import Appraisal.Proofs.Scan.Concatenation
import Appraisal.Proofs.Scan.Concealment
import Appraisal.Proofs.Scan.LineEnds
import Appraisal.Proofs.Scan.Modularity
import Appraisal.Proofs.Scan.Noninterference
import Appraisal.Proofs.Scan.Windows
import Appraisal.Proofs.Score.Improvement
import Appraisal.Proofs.Score.Levels
import Appraisal.Proofs.Score.Reals
import Appraisal.Proofs.Settings.Overlay
import Appraisal.Proofs.Settings.Redaction
import Appraisal.Proofs.Settings.Validation
import Appraisal.Proofs.Text.Quoted
import Appraisal.Proofs.Time.Elapsed
import Appraisal.Report.Format
import Appraisal.Settings.Document
