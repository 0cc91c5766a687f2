import EidolonSdk.DeviceFoundation.AdmissionCredential
import EidolonSdk.DeviceFoundation.DeviceControl
import EidolonSdk.DeviceFoundation.ManifestAssertion
import EidolonSdk.Devices.Auth
import EidolonSdk.Logic.Fenced
import EidolonSdk.Pydantic.Timestamp
import EidolonSdk.Runtime.Watermark
import EidolonSdk.DeviceFoundation.AuthorityRestore
import EidolonSdk.DeviceFoundation.SignedDocuments
import EidolonSdk.Pydantic.Instants
import EidolonSdk.Pydantic.Wire
import EidolonSdk.DeviceFoundation.References
import EidolonSdk.Logic.Streams
import EidolonSdk.DeviceFoundation.Events
import EidolonSdk.DeviceFoundation.Admission
import EidolonSdk.DeviceFoundation.BodyMesh
import EidolonSdk.Control.SharedSession
import EidolonSdk.DeviceFoundation.AuthorityWire
import EidolonSdk.WireRule
import EidolonSdk.Logic.Guards
import EidolonSdk.Python.JsonEquality
import EidolonSdk.Body.CapabilitySchema
import EidolonSdk.Body.CapabilityManifest
import EidolonSdk.Body.CapabilityArguments
import EidolonSdk.Body.SchemaAgreement
import EidolonSdk.Body.Blackboard
import EidolonSdk.Logic.Dict
import EidolonSdk.Python.SortedJson
import EidolonSdk.Pydantic.Documents
import EidolonSdk.Persona.Genome
import EidolonSdk.Persona.Evolution
import EidolonSdk.Python.Assignment
import EidolonSdk.Persona.Authoring
import EidolonSdk.Persona.Form
import EidolonSdk.Python.JsonText
import EidolonSdk.Persona.Canonical
import EidolonSdk.Persona.Retirement
import EidolonSdk.Smarthome.Snapshot
import EidolonSdk.Smarthome.Versions
import EidolonSdk.Contracts.JsonSchema
import EidolonSdk.Logic.Agreement
import EidolonSdk.Dart.Core
import EidolonSdk.DeviceFoundation.DartBinding
import EidolonSdk.DeviceFoundation.CommonSchemas
import EidolonSdk.DeviceFoundation.SetupDescriptor
import EidolonSdk.DeviceFoundation.ContractReaders
import EidolonSdk.DeviceFoundation.DeviceRefReaders
import EidolonSdk.DeviceFoundation.SetupReaders
import EidolonSdk.DeviceFoundation.ManifestReaders
import EidolonSdk.DialogueControl.TurnDecision
import EidolonSdk.Control.CoordinationStream
import EidolonSdk.DeviceFoundation.CommissioningVoucher
import EidolonSdk.DeviceFoundation.DescriptorSigning
import EidolonSdk.Coding.Cut
import EidolonSdk.Dart.PercentEncoding
import EidolonSdk.Dart.Uri
import EidolonSdk.Dart.DateTime
import EidolonSdk.DeviceFoundation.DartDirectory
import EidolonSdk.Llm.OpenAiMessages
import EidolonSdk.Http.Client
import EidolonSdk.Python.Milliseconds
import EidolonSdk.Control.Protocol
import EidolonSdk.Python.Base64Reading
import EidolonSdk.DeviceFoundation.OperationalKeys
import EidolonSdk.DeviceFoundation.ManifestRecording
import EidolonSdk.DeviceFoundation.TimestampReaders
import EidolonSdk.DeviceFoundation.Authorization
import EidolonSdk.DeviceFoundation.SetArrays
import EidolonSdk.DeviceFoundation.Fingerprints
import EidolonSdk.Events.Protocol
import EidolonSdk.DeviceFoundation.DirectoryReaders
import EidolonSdk.Python.Regex
import EidolonSdk.Registry.Ids
import EidolonSdk.LongTasks.Subjects
import EidolonSdk.Conformance.FieldInventory
import EidolonSdk.Presentation.ExpressionPlan
import EidolonSdk.Python.JsonStrings
import EidolonSdk.Python.JsonNumbers
import EidolonSdk.Python.JsonReader
import EidolonSdk.Python.JsonRoundTrip
import EidolonSdk.Python.ExactFloats
import EidolonSdk.Python.JsonBytes
import EidolonSdk.Presentation.PlanWire
import EidolonSdk.Streaming.EventStream
import EidolonSdk.Streaming.Sse
import EidolonSdk.Smarthome.PanelRequests
import EidolonSdk.Background.TaskRuns
import EidolonSdk.Audit.Stream
import EidolonSdk.Audit.Batch
import EidolonSdk.Audit.Publisher
import EidolonSdk.DeviceFoundation.DirectoryIssuing
import EidolonSdk.DeviceFoundation.EraseStatus
import EidolonSdk.DeviceFoundation.EraseAcks
import EidolonSdk.DeviceFoundation.Generation
import EidolonSdk.Python.JsonPlaces
import EidolonSdk.Conformance.SignedVectors
import EidolonSdk.Pydantic.Records
import EidolonSdk.Participation.Decisions
import EidolonSdk.Interpretation.Proposals
import EidolonSdk.Smarthome.Execution
import EidolonSdk.Support.HexText
import EidolonSdk.Support.KeyDerivation
import EidolonSdk.Conformance.KeySchedule
import EidolonSdk.Conformance.SealedVector
