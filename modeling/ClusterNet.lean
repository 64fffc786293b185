import ClusterNet.Address
import ClusterNet.Command.Arguments
import ClusterNet.Command.Failure
import ClusterNet.Command.Host
import ClusterNet.Command.Run
import ClusterNet.Command.Table
import ClusterNet.Decimal.Binary64
import ClusterNet.Decimal.Shortest
import ClusterNet.Dict
import ClusterNet.Digest
import ClusterNet.Duration
import ClusterNet.Facts
import ClusterNet.Ini
import ClusterNet.Json.Basic
import ClusterNet.Json.Canonical
import ClusterNet.Json.Printer
import ClusterNet.Json.Reader
import ClusterNet.Label
import ClusterNet.Manifest
import ClusterNet.Manifest.Kinds
import ClusterNet.Manifest.Wire
import ClusterNet.Network
import ClusterNet.Network.Sizing
import ClusterNet.Pass
import ClusterNet.Problem
import ClusterNet.Proofs.Acceptance
import ClusterNet.Proofs.Assembly
import ClusterNet.Proofs.Changes
import ClusterNet.Proofs.Completion
import ClusterNet.Proofs.Containers
import ClusterNet.Proofs.Defaults
import ClusterNet.Proofs.Differences
import ClusterNet.Proofs.Distinct
import ClusterNet.Proofs.Entries
import ClusterNet.Proofs.Objects
import ClusterNet.Proofs.ProxyFlags
import ClusterNet.Proofs.Records
import ClusterNet.Proofs.Refilling
import ClusterNet.Proofs.Rejections
import ClusterNet.Proofs.Rendering
import ClusterNet.Proofs.Runs
import ClusterNet.Proofs.Templates
import ClusterNet.Provider
import ClusterNet.Provider.Basic
import ClusterNet.Provider.KubeProxy
import ClusterNet.Provider.Kuryr
import ClusterNet.Provider.Multus
import ClusterNet.Provider.NodeIdentity
import ClusterNet.Release
import ClusterNet.Session
import ClusterNet.Spec
import ClusterNet.Spec.Definition
import ClusterNet.Spec.Networks
import ClusterNet.Spec.Resource
import ClusterNet.Spec.Wire
import ClusterNet.Status
import ClusterNet.Text.Blank
import ClusterNet.Text.Quoted
import ClusterNet.Text.Visible
import ClusterNet.Timestamp
import ClusterNet.Version
import ClusterNet.Version.Rollout
import ClusterNet.Wire.Fault
import ClusterNet.Wire.Format
import ClusterNet.Wire.OfJson
import ClusterNet.Workload
import ClusterNet.Yaml.Character
import ClusterNet.Yaml.Cursor
import ClusterNet.Yaml.Document
import ClusterNet.Yaml.Node
import ClusterNet.Yaml.Plain
import ClusterNet.Yaml.Printer
import ClusterNet.Yaml.Scalar.Block
import ClusterNet.Yaml.Scalar.Gap
import ClusterNet.Yaml.Scalar.Plain
import ClusterNet.Yaml.Scalar.Quoted
import ClusterNet.Yaml.Token
import ClusterNet.Yaml.Token.Scan
import ClusterNet.Yaml.Token.Tag
import ClusterNet.Yaml.Value
import ClusterNet.Yaml.View
import ClusterNet.Main
import ClusterNet.Proofs.Identities
import ClusterNet.Proofs.Progress
import ClusterNet.Proofs.Frames
import ClusterNet.Proofs.Independence
import ClusterNet.Proofs.Dormancy
import ClusterNet.Proofs.Discovery
import ClusterNet.Proofs.Pods
import ClusterNet.Proofs.Sections
import ClusterNet.Proofs.Selection
import ClusterNet.Proofs.Homes
import ClusterNet.Proofs.References
import ClusterNet.Proofs.Trust
import ClusterNet.Proofs.Precedence
import ClusterNet.Proofs.Rearrangement
import ClusterNet.Proofs.Quotation
import ClusterNet.Proofs.Extents
import ClusterNet.Proofs.Fingerprint
import ClusterNet.Proofs.Readback
import ClusterNet.Proofs.Legibility
import ClusterNet.Proofs.LineStarts
import ClusterNet.Proofs.RoundTrip
import ClusterNet.Proofs.Envelopes
import ClusterNet.Proofs.Contents
import ClusterNet.Proofs.Storage
import ClusterNet.Proofs.Spellings
import ClusterNet.Proofs.Stamps
import ClusterNet.Proofs.Waiting
import ClusterNet.Proofs.Sufficiency
import ClusterNet.Proofs.Blocks
import ClusterNet.Proofs.Supernets
import ClusterNet.Proofs.Thresholds
import ClusterNet.Proofs.Blanks
import ClusterNet.Proofs.Octets
import ClusterNet.Proofs.Hextets
import ClusterNet.Proofs.NetworkTexts
import ClusterNet.Proofs.Hosting
import ClusterNet.Proofs.Criteria
import ClusterNet.Proofs.Attribution
import ClusterNet.Proofs.ComputedHosts
import ClusterNet.Proofs.CompanionDefaults
import ClusterNet.Proofs.SoundNetworks
import ClusterNet.Proofs.Definitions
import ClusterNet.Proofs.NetworkConfigs
import ClusterNet.Proofs.NetworkOrder
import ClusterNet.Proofs.NetworkCharacters
import ClusterNet.Proofs.ProxyNetworks
import ClusterNet.Proofs.Summaries
import ClusterNet.Proofs.PodAnnotations
import ClusterNet.Proofs.StructuralFirst
import ClusterNet.Proofs.Documents
import ClusterNet.Proofs.Labels
import ClusterNet.Proofs.Columns
