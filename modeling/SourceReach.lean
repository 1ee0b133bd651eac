import SourceReach.Main
import SourceReach.Proofs.Additions
import SourceReach.Proofs.Agreement
import SourceReach.Proofs.Asking
import SourceReach.Proofs.BasePackage
import SourceReach.Proofs.Building
import SourceReach.Proofs.ChangeListing
import SourceReach.Proofs.Course
import SourceReach.Proofs.Depth
import SourceReach.Proofs.EntryPath
import SourceReach.Proofs.FatalErrors
import SourceReach.Proofs.Faults
import SourceReach.Proofs.Fields
import SourceReach.Proofs.Implementing
import SourceReach.Proofs.Injections
import SourceReach.Proofs.Narrowing
import SourceReach.Proofs.NormalForm
import SourceReach.Proofs.Parameters
import SourceReach.Proofs.Reading
import SourceReach.Proofs.Siblings
import SourceReach.Proofs.Staging
import SourceReach.Proofs.Statements
