import EntityAudit.Build.Hosted
import EntityAudit.Proofs.Generation.Account
import EntityAudit.Proofs.Generation.Isolation
import EntityAudit.Proofs.Generation.MemoryPass
import EntityAudit.Proofs.Identifier.Caseless
import EntityAudit.Proofs.Identifier.RoundTrip
import EntityAudit.Proofs.Java.Members
import EntityAudit.Proofs.Path.SourceSteps
import EntityAudit.Proofs.Volume.Tree
import EntityAudit.Proofs.Volume.Ways
import EntityAudit.Proofs.Store.Delivery
import EntityAudit.Proofs.Generation.SecondPass
import EntityAudit.Proofs.Store.Refinement
import EntityAudit.Proofs.Java.Shape
import EntityAudit.Proofs.Java.Identifiers
import EntityAudit.Proofs.Document.Json.Lexemes
import EntityAudit.Proofs.Document.Json.Reader
import EntityAudit.Proofs.Document.Denotation
import EntityAudit.Proofs.Document.Json.Documents
import EntityAudit.Proofs.Document.Json.RoundTrip
import EntityAudit.Proofs.Document.Json.Records
import EntityAudit.Proofs.Manifest.Language
import EntityAudit.Proofs.Document.Tree
import EntityAudit.Proofs.Document.Toml.Trees
import EntityAudit.Proofs.Document.Json.Trees
import EntityAudit.Proofs.Build.Setup
import EntityAudit.Proofs.Manifest.Agreement
import EntityAudit.Proofs.Path.Confinement
import EntityAudit.Proofs.Build.Directives
import EntityAudit.Proofs.Generation.Rearrangement
import EntityAudit.Proofs.Domain.Reference
import EntityAudit.Proofs.Domain.Decision
import EntityAudit.Proofs.Volume.Files
import EntityAudit.Proofs.Store.Interruption
import EntityAudit.Proofs.Store.FailedWrite
import EntityAudit.Proofs.Generation.Blame
import EntityAudit.Proofs.Identifier.Initial
import EntityAudit.Proofs.Java.BeanNames
import EntityAudit.Proofs.Java.Unambiguous
import EntityAudit.Proofs.Store.Opening
import EntityAudit.Proofs.Store.WriteBack
import EntityAudit.Proofs.Config.Language
import EntityAudit.Identifier.Ranges
import EntityAudit.Proofs.Identifier.Ranges
import EntityAudit.Proofs.Domain.Getters
