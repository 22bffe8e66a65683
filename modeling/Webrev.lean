import Webrev.Main
import Webrev.Proofs.Generation.BranchIssue
import Webrev.Proofs.Generation.FailStop
import Webrev.Proofs.Generation.Precedence
import Webrev.Proofs.Generation.Published
import Webrev.Proofs.Generation.Refusal
import Webrev.Proofs.Git.Names
import Webrev.Proofs.Git.Settings
import Webrev.Proofs.Git.TakenBack
import Webrev.Proofs.Http.Rendered
import Webrev.Proofs.Http.Streaming
import Webrev.Proofs.Integration.Preparation
import Webrev.Proofs.Integration.Success
import Webrev.Proofs.Integration.WholePatch
import Webrev.Proofs.Metadata.Links
import Webrev.Proofs.Metadata.Sentence
import Webrev.Proofs.Page.Chosen
import Webrev.Proofs.Page.Extent
import Webrev.Proofs.Page.TextLines
import Webrev.Proofs.Report.Faithful
import Webrev.Proofs.Url.Reference
import Webrev.Proofs.Url.Sanitized
import Webrev.Proofs.Http.Storage
