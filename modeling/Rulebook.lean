import Rulebook.Function.Text
import Rulebook.Main
import Rulebook.Trace
import Rulebook.Proofs.History
import Rulebook.Proofs.BesideRules
import Rulebook.Proofs.WellFormed
import Rulebook.Proofs.Resolution
import Rulebook.Proofs.Extension
import Rulebook.Proofs.Unknown
import Rulebook.Proofs.Recovery
import Rulebook.Proofs.Spelling
import Rulebook.Proofs.Rereading
import Rulebook.Proofs.OperandForm
import Rulebook.Proofs.PatternForm
import Rulebook.Proofs.FlaggedPattern
import Rulebook.Proofs.Comparator
import Rulebook.Proofs.Report
import Rulebook.Proofs.Selection
import Rulebook.Proofs.Override
