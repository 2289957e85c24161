import ContractBinder.Main
import ContractBinder.Proofs.Abi.Canonical
import ContractBinder.Proofs.Binding.ItemNames
import ContractBinder.Proofs.Binding.Signature
import ContractBinder.Proofs.Generation
import ContractBinder.Proofs.Binding.Translation
import ContractBinder.Proofs.Binding.Reporting
import ContractBinder.Proofs.Binding.Independence
import ContractBinder.Proofs.Binding.Constants
import ContractBinder.Proofs.Render.Items
import ContractBinder.Proofs.Render.Records
import ContractBinder.Proofs.Render.TypeReferences
import ContractBinder.Proofs.Render.Wrappers
import ContractBinder.Proofs.Render.Modes
import ContractBinder.Proofs.Binding.Captures
import ContractBinder.Proofs.CommandLine.Reruns
import ContractBinder.Proofs.Naming.Counters
import ContractBinder.Proofs.Binding.Manifests
import ContractBinder.Proofs.Agreement
import ContractBinder.Proofs.Binding.ParameterNames
import ContractBinder.Proofs.Render.Consistency
import ContractBinder.Proofs.Text.Bytes
import ContractBinder.Proofs.CommandLine.Layers
import ContractBinder.Proofs.Abi.Documents
import ContractBinder.Proofs.Naming.Legality
import ContractBinder.Proofs.Naming.Sanitizing
import ContractBinder.Proofs.Render.WireNames
import ContractBinder.Proofs.Render.Documentation
import ContractBinder.Proofs.Render.Accepting.Modules
