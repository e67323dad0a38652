import ContractBindings.Proofs.Bindings.Closed
import ContractBindings.Proofs.Bindings.Escaped
import ContractBindings.Proofs.Bindings.Extension
import ContractBindings.Proofs.Bindings.Holders
import ContractBindings.Proofs.Bindings.Independence
import ContractBindings.Proofs.Bindings.Irrelevant
import ContractBindings.Proofs.Bindings.Rendered
import ContractBindings.Proofs.Bindings.Roles
import ContractBindings.Proofs.Bindings.Shadowing
import ContractBindings.Proofs.Bindings.Wrapper
import ContractBindings.Proofs.Code.Congruence
import ContractBindings.Proofs.Code.Scanned
import ContractBindings.Proofs.Code.Unambiguous
import ContractBindings.Proofs.Interface.Malformed
import ContractBindings.Proofs.Interface.Spelled
import ContractBindings.Proofs.Log.Report
import ContractBindings.Proofs.Name.Rule
import ContractBindings.Proofs.Types.Grammar
import ContractBindings.Proofs.Types.Hygiene
import ContractBindings.Proofs.Types.Stripped
