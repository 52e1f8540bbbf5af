import ConceptModel.Main
import ConceptModel.Proofs.Command.Delivery
import ConceptModel.Proofs.Inference.Arrays
import ConceptModel.Proofs.Inference.Constraints
import ConceptModel.Proofs.Inference.Enumerations
import ConceptModel.Proofs.Inference.Extension
import ConceptModel.Proofs.Inference.Lossless
import ConceptModel.Proofs.Inference.Naming
import ConceptModel.Proofs.Inference.Optionality
import ConceptModel.Proofs.Inference.Order
import ConceptModel.Proofs.Inference.Places
import ConceptModel.Proofs.Inference.Printed
import ConceptModel.Proofs.Inference.Rejection
import ConceptModel.Proofs.Inference.Relocation
import ConceptModel.Proofs.Inference.RootReference
import ConceptModel.Proofs.Inference.Safety
import ConceptModel.Proofs.Inference.Tabulated
import ConceptModel.Proofs.Inference.Termination
import ConceptModel.Proofs.Inference.Tuples
import ConceptModel.Proofs.Inference.Unions
import ConceptModel.Proofs.Inference.Warnings
import ConceptModel.Proofs.Model.Metamodel
import ConceptModel.Proofs.Printer.Exports
import ConceptModel.Proofs.Printer.Faithful
import ConceptModel.Proofs.Reference
import ConceptModel.Proofs.Text.PathName
import ConceptModel.Proofs.Text.Projection
