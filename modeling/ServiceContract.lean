import ServiceContract.Main
import ServiceContract.Proofs.CodecClosure
import ServiceContract.Proofs.Coverage
import ServiceContract.Proofs.ImportClosure
import ServiceContract.Proofs.Symbols
import ServiceContract.Json.Keys
import ServiceContract.Proofs.Isolation
import ServiceContract.Proofs.Origins
import ServiceContract.Proofs.ValueKeys
import ServiceContract.Proofs.Authentication
import ServiceContract.Proofs.ImportUse
import ServiceContract.Proofs.Validation
import ServiceContract.Proofs.DecoderOptions
import ServiceContract.Proofs.Reordering
import ServiceContract.Proofs.Warnings
import ServiceContract.Proofs.MappedTypes
import ServiceContract.Proofs.Containment
import ServiceContract.Proofs.WrittenFiles
import ServiceContract.Proofs.Merging
import ServiceContract.Proofs.Pointers
import ServiceContract.Proofs.PointerEncoding
import ServiceContract.Proofs.Atomicity
import ServiceContract.Proofs.SharedParameters
import ServiceContract.Proofs.HeaderKeys
import ServiceContract.Proofs.RequestHeaders
import ServiceContract.Proofs.ResponseTypes
import ServiceContract.Proofs.DefinitionLookups
import ServiceContract.Proofs.AddedStatus
import ServiceContract.Proofs.PlannedWrites
import ServiceContract.Proofs.FirstLeaf
import ServiceContract.Proofs.MemberOrder
import ServiceContract.Proofs.Collecting
