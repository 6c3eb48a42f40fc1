import UriExpansion.Main
import UriExpansion.Proofs.Binding.Insertion
import UriExpansion.Proofs.Binding.Operation
import UriExpansion.Proofs.Binding.RoundTrip
import UriExpansion.Proofs.Catalog.Building
import UriExpansion.Proofs.Catalog.Written
import UriExpansion.Proofs.CommandLine.Outcome
import UriExpansion.Proofs.Percent.Recovery
import UriExpansion.Proofs.Service.Agreement
import UriExpansion.Proofs.Template.Building
import UriExpansion.Proofs.Template.CheckedReading
import UriExpansion.Proofs.Template.Dependency
import UriExpansion.Proofs.Template.Members
import UriExpansion.Proofs.Template.Refusal
import UriExpansion.Proofs.Template.Rendering
import UriExpansion.Proofs.Template.Splitting
