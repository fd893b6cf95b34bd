import SecretEnv.Child.Rehearsal
import SecretEnv.Main
import SecretEnv.Proofs.Effect
import SecretEnv.Proofs.Failure
import SecretEnv.Proofs.Fetch
import SecretEnv.Proofs.Once
import SecretEnv.Proofs.Order
import SecretEnv.Proofs.References
import SecretEnv.Proofs.Written
import SecretEnv.Proofs.Invocation
import SecretEnv.Proofs.Confinement
import SecretEnv.Proofs.Startup
import SecretEnv.Proofs.Concurrent
import SecretEnv.Proofs.FileNames
import SecretEnv.Proofs.Permitted
import SecretEnv.Proofs.Double
import SecretEnv.Proofs.CacheChoice
import SecretEnv.Proofs.Waiting
import SecretEnv.Proofs.Switch
import SecretEnv.Proofs.Places
import SecretEnv.Proofs.Overlay
import SecretEnv.Proofs.Priority
import SecretEnv.Proofs.NumberText
import SecretEnv.Proofs.StringText
import SecretEnv.Proofs.Classification
import SecretEnv.Proofs.Repetition
import SecretEnv.Proofs.WholeFile
import SecretEnv.Proofs.Redaction
import SecretEnv.Proofs.Timeout
import SecretEnv.Proofs.Diagnostics
import SecretEnv.Proofs.Told
import SecretEnv.Proofs.Builds
import SecretEnv.Proofs.Accessors
import SecretEnv.Proofs.AnswerKeys
import SecretEnv.Proofs.RejectedFile
