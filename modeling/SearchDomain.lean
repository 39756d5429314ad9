import SearchDomain.Main
import SearchDomain.Rehearsal
import SearchDomain.Proofs.DomainApi.OwnReply
import SearchDomain.Proofs.DomainApi.Path
import SearchDomain.Proofs.DomainApi.Probe
import SearchDomain.Proofs.DomainApi.Verification
import SearchDomain.Proofs.Endpoint
import SearchDomain.Proofs.Http.Multipart
import SearchDomain.Proofs.Rotation.Absence
import SearchDomain.Proofs.Rotation.Agreement
import SearchDomain.Proofs.Rotation.Independence
import SearchDomain.Proofs.Rotation.Promotion
import SearchDomain.Proofs.Rotation.Redelivery
import SearchDomain.Proofs.Rotation.Username
import SearchDomain.Proofs.Settings.Acceptance
import SearchDomain.Proofs.Settings.EnvFile
import SearchDomain.Proofs.Bootstrap.Convergence
import SearchDomain.Proofs.Bootstrap.Undoing
import SearchDomain.Proofs.SharedSecret
import SearchDomain.Proofs.PasswordBlindness
import SearchDomain.Proofs.Disclosure
import SearchDomain.Proofs.Documents
import SearchDomain.Proofs.WrittenBack
