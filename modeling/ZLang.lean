import ZLang.FileSystem
import ZLang.Main
import ZLang.Proofs.Analysis.Lines
import ZLang.Proofs.Analysis.Order
import ZLang.Proofs.Analysis.Verdict
import ZLang.Proofs.Arguments.RoundTrip
import ZLang.Proofs.Document.Boundaries
import ZLang.Proofs.Document.Padding
import ZLang.Proofs.Document.Ranges
import ZLang.Proofs.Program.Status
import ZLang.Proofs.Report.Json
import ZLang.Proofs.Report.Table
import ZLang.Proofs.Session.Independence
import ZLang.Proofs.Session.Publication
import ZLang.Proofs.Settings.Sources
import ZLang.Proofs.Vocabulary.Completion
