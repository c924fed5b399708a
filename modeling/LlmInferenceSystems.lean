import LlmInferenceSystems.Python.Text
import LlmInferenceSystems.Python.Method
import LlmInferenceSystems.Python.Lines
import LlmInferenceSystems.Python.Regex
import LlmInferenceSystems.Python.Float
import LlmInferenceSystems.Python.Json
import LlmInferenceSystems.Python.FloatText
import LlmInferenceSystems.Python.Sha256
import LlmInferenceSystems.Python.Base64
import LlmInferenceSystems.Python.Interpreter
import LlmInferenceSystems.Python.Sequence
import LlmInferenceSystems.Python.Checks
import LlmInferenceSystems.Python.Percentile
import LlmInferenceSystems.Errors
import LlmInferenceSystems.Canonical
import LlmInferenceSystems.Contracts
import LlmInferenceSystems.CanonicalReading
import LlmInferenceSystems.CanonicalValues
import LlmInferenceSystems.CanonicalLines
import LlmInferenceSystems.Python.JsonPairs
import LlmInferenceSystems.Sse.Parser
import LlmInferenceSystems.Sse.Chunking
import LlmInferenceSystems.Sse.Encoding
import LlmInferenceSystems.Python.Tasks
import LlmInferenceSystems.Stage0.Contracts
import LlmInferenceSystems.Stage0.Metrics
import LlmInferenceSystems.Stage0.Summary
import LlmInferenceSystems.Stage0.Artifact
import LlmInferenceSystems.Stage0.Comparison
import LlmInferenceSystems.Stage1.Contracts
import LlmInferenceSystems.Stage1.FixtureTokens
import LlmInferenceSystems.Stage1.Evidence
import LlmInferenceSystems.Stage1.Lifecycles
import LlmInferenceSystems.Stage1.RequestMetrics
import LlmInferenceSystems.Stage1.Summary
import LlmInferenceSystems.Stage1.FixtureInputs
import LlmInferenceSystems.Stage1.LoadGenerator
import LlmInferenceSystems.Stage1.Payload
import LlmInferenceSystems.Stage1.Streaming
import LlmInferenceSystems.Stage1.StreamingRuns
import LlmInferenceSystems.Stage1.StreamingOutcome
import LlmInferenceSystems.Stage1.CrossRecords
import LlmInferenceSystems.Stage1.HonestRecords
import LlmInferenceSystems.Stage1.PayloadReadings
import LlmInferenceSystems.Stage1.RetracedBodies
import LlmInferenceSystems.Stage1.StreamingCuts
import LlmInferenceSystems.Stage2.RawLogs
import LlmInferenceSystems.Stage2.IdentityChain
import LlmInferenceSystems.Stage2.Correlation
import LlmInferenceSystems.Stage2.GenericIds
import LlmInferenceSystems.Stage2.HonestLogs
import LlmInferenceSystems.Stage2.RequestIsolation
import LlmInferenceSystems.Stage2.LogLines
import LlmInferenceSystems.Stage2.Prometheus
import LlmInferenceSystems.Stage2.CounterDeltas
import LlmInferenceSystems.Stage2.Cancellation
import LlmInferenceSystems.Stage2.CancellationHistory
import LlmInferenceSystems.Stage2.DrainedHistory
import LlmInferenceSystems.Stage2.CancellationSafety
import LlmInferenceSystems.Stage2.ScrapeCadence
import LlmInferenceSystems.Stage2.CompletionResponse
import LlmInferenceSystems.Stage2.PendingBytes
import LlmInferenceSystems.Stage2.CancellationStream
import LlmInferenceSystems.Stage2.PendingAccount
import LlmInferenceSystems.Python.Mapping
import LlmInferenceSystems.Python.PosixPath
import LlmInferenceSystems.Python.FileTree
import LlmInferenceSystems.Python.Effects
import LlmInferenceSystems.Python.Pattern
import LlmInferenceSystems.Stage2.PublicSafety
import LlmInferenceSystems.Stage2.TextLines
import LlmInferenceSystems.Stage2.Exposition
import LlmInferenceSystems.Stage2.LabelInventory
import LlmInferenceSystems.Stage2.ExpositionGrammar
import LlmInferenceSystems.Stage2.TextFormat
import LlmInferenceSystems.Stage2.BundleRecords
import LlmInferenceSystems.Stage1.JsonLines
import LlmInferenceSystems.Stage1.JsonFields
import LlmInferenceSystems.Stage1.EvidenceJson
import LlmInferenceSystems.Stage1.JsonIdentities
import LlmInferenceSystems.Stage1.Fingerprint
import LlmInferenceSystems.Stage1.ExecutionBundle
import LlmInferenceSystems.Stage1.EvidenceTrace
import LlmInferenceSystems.Stage1.Comparison
import LlmInferenceSystems.Stage1.FingerprintTiming
import LlmInferenceSystems.Stage2.Bundle
import LlmInferenceSystems.Stage2.BundleReaders
import LlmInferenceSystems.Stage2.DurableWrites
import LlmInferenceSystems.Stage2.BundleWrites
import LlmInferenceSystems.Stage2.BundleRuns
import LlmInferenceSystems.Stage2.BundleCommit
import LlmInferenceSystems.Stage2.BundleCrash
import LlmInferenceSystems.Stage2.RepetitionBundle
import LlmInferenceSystems.Stage2.Base64Evidence
import LlmInferenceSystems.Stage2.EvidencePaths
import LlmInferenceSystems.Stage2.ContentType
import LlmInferenceSystems.Stage2.RestartComparison
import LlmInferenceSystems.Intervals
import LlmInferenceSystems.Stage2.ObservedConcurrency
import LlmInferenceSystems.Stage2.AggregateResult
import LlmInferenceSystems.Stage2.RequestEvidence
import LlmInferenceSystems.Stage2.StreamValidator
import LlmInferenceSystems.Stage2.StreamFrames
import LlmInferenceSystems.Stage2.StreamRuns
import LlmInferenceSystems.Stage2.TokenMetrics
import LlmInferenceSystems.Stage2.StreamSemantics
import LlmInferenceSystems.Stage2.StreamReplay
import LlmInferenceSystems.Stage2.StreamGrammar
import LlmInferenceSystems.Stage2.StreamAcceptance
