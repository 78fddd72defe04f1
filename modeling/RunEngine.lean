import RunEngine.Main
import RunEngine.Proofs.Agreement
import RunEngine.Proofs.Alternation
import RunEngine.Proofs.Blame
import RunEngine.Proofs.Children
import RunEngine.Proofs.Coherence
import RunEngine.Proofs.Finality
import RunEngine.Proofs.HandBack
import RunEngine.Proofs.HeldProposals
import RunEngine.Proofs.Isolation
import RunEngine.Proofs.Lifecycle
import RunEngine.Proofs.Protocol
import RunEngine.Proofs.Redrive
import RunEngine.Proofs.RetryBudget
import RunEngine.Proofs.ReturnTypes
import RunEngine.Proofs.SchemaForm
import RunEngine.Proofs.Waiting
import RunEngine.Proofs.WholeRun
import RunEngine.Proofs.Likeness
import RunEngine.Proofs.Simulation
import RunEngine.Proofs.Scheduling
import RunEngine.Proofs.Lineage
import RunEngine.Proofs.Conformance
import RunEngine.Proofs.WireForm
import RunEngine.Proofs.Template
import RunEngine.Proofs.DynamicKeys
import RunEngine.Proofs.Background
import RunEngine.Proofs.Bystanders
import RunEngine.Proofs.Surfacing
import RunEngine.Proofs.HeldProposals
