import Patchwork.Main
import Patchwork.Proofs.Schema.Document
import Patchwork.Proofs.Document.InPlace
import Patchwork.Proofs.Document.Atomic
import Patchwork.Proofs.Patch.Reconcile
import Patchwork.Proofs.FieldPath.Grammar
import Patchwork.Proofs.Schema.Declared
import Patchwork.Proofs.Policy
import Patchwork.Proofs.Schema.Nulls
import Patchwork.Proofs.Schema.Accepts
import Patchwork.Proofs.Schema.Written
import Patchwork.Proofs.Patch.Validated
import Patchwork.Proofs.Patch.Absolute
import Patchwork.Proofs.Semantics.Checked
import Patchwork.Proofs.Semantics.SelfReference
import Patchwork.Proofs.Semantics.Destinations
import Patchwork.Proofs.Cli.Patch
import Patchwork.Proofs.Document.Rewriting
import Patchwork.Proofs.Json.FirstFault
import Patchwork.Proofs.Schema.Located
import Patchwork.Proofs.Patch.Recording
import Patchwork.Proofs.Resolver
import Patchwork.Proofs.Semantics.Rules
import Patchwork.Proofs.Cli.Validate
import Patchwork.Proofs.Cli.Report
import Patchwork.Proofs.Loader
