import Rollout.Base64
import Rollout.Cipher.Aes
import Rollout.Cipher.Gcm
import Rollout.Cipher.Sha256
import Rollout.CommandLine
import Rollout.CommandLine.Reader
import Rollout.CommandLine.Usage
import Rollout.Credential.Seal
import Rollout.Credential.Store
import Rollout.Credential.Table
import Rollout.DatabaseUrl
import Rollout.Declared
import Rollout.Definition
import Rollout.Definition.Evaluation
import Rollout.Definition.Fingerprint
import Rollout.Definition.Validation
import Rollout.Duration
import Rollout.Duration.Reader
import Rollout.EnvFile
import Rollout.Error
import Rollout.FileTree
import Rollout.Hex
import Rollout.Host
import Rollout.Http
import Rollout.Image
import Rollout.Json
import Rollout.Json.Reader
import Rollout.Json.Writer
import Rollout.Kdl.Document
import Rollout.Kdl.Lexical
import Rollout.Kdl.Reader
import Rollout.Main
import Rollout.Manifest
import Rollout.Manifest.Assembly
import Rollout.Moment
import Rollout.Number.Binary64
import Rollout.Number.Words
import Rollout.Outcome
import Rollout.Output
import Rollout.Path
import Rollout.Plugin
import Rollout.Plugin.Postgres
import Rollout.Plugin.RailsApp
import Rollout.Proofs.Assembly.Closure
import Rollout.Proofs.Assembly.Completeness
import Rollout.Proofs.Assembly.Contents
import Rollout.Proofs.Assembly.Contributions
import Rollout.Proofs.Assembly.Images
import Rollout.Proofs.Assembly.Login
import Rollout.Proofs.Assembly.Names
import Rollout.Proofs.Assembly.Pieces
import Rollout.Proofs.Assembly.Resolution
import Rollout.Proofs.Assembly.Secrecy
import Rollout.Proofs.Assembly.Twins
import Rollout.Proofs.Cipher.Gcm
import Rollout.Proofs.Credential.Failure
import Rollout.Proofs.Credential.Leaves
import Rollout.Proofs.Credential.Opening
import Rollout.Proofs.Credential.Reopening
import Rollout.Proofs.Credential.Sealing
import Rollout.Proofs.Credential.Snapshot
import Rollout.Proofs.Credential.Tables
import Rollout.Proofs.Credential.Unlocking
import Rollout.Proofs.Definition.Agreement
import Rollout.Proofs.Definition.Canonical
import Rollout.Proofs.Definition.Dockerfile
import Rollout.Proofs.Definition.Framing
import Rollout.Proofs.Definition.LastDeclaration
import Rollout.Proofs.Definition.Layers
import Rollout.Proofs.Definition.Located
import Rollout.Proofs.Definition.Misplaced
import Rollout.Proofs.Definition.Origins
import Rollout.Proofs.Definition.Places
import Rollout.Proofs.Definition.Positions
import Rollout.Proofs.Definition.Secrets
import Rollout.Proofs.Definition.Stack
import Rollout.Proofs.Definition.Unread
import Rollout.Proofs.Definition.Visible
import Rollout.Proofs.Except
import Rollout.Proofs.FileTree.Above
import Rollout.Proofs.FileTree.Following
import Rollout.Proofs.FileTree.Nodes
import Rollout.Proofs.FileTree.Writing
import Rollout.Proofs.Image.Reference
import Rollout.Proofs.Image.Registry
import Rollout.Proofs.Json.Reading
import Rollout.Proofs.Json.Unambiguous
import Rollout.Proofs.Kdl.Offsets
import Rollout.Proofs.Kdl.Remainders
import Rollout.Proofs.Manifest.Arrangement
import Rollout.Proofs.Manifest.Barriers
import Rollout.Proofs.Manifest.Bodies
import Rollout.Proofs.Manifest.Containers
import Rollout.Proofs.Manifest.Identity
import Rollout.Proofs.Manifest.Merge
import Rollout.Proofs.Manifest.References
import Rollout.Proofs.Manifest.Veil
import Rollout.Proofs.Plugin.Connection
import Rollout.Proofs.Plugin.Order
import Rollout.Proofs.Plugin.Strictness
import Rollout.Proofs.Plugin.Variables
import Rollout.Proofs.Provider.Retries
import Rollout.Proofs.Run.Calls
import Rollout.Proofs.Run.Cancellation
import Rollout.Proofs.Run.Course
import Rollout.Proofs.Run.Login
import Rollout.Proofs.Run.Order
import Rollout.Proofs.Run.Paths
import Rollout.Proofs.Run.Pool
import Rollout.Proofs.Run.Preview
import Rollout.Proofs.Run.Reconcile
import Rollout.Proofs.Run.Replay
import Rollout.Proofs.Run.Rerun
import Rollout.Proofs.Run.Stages
import Rollout.Proofs.Run.Tiers
import Rollout.Proofs.Run.Tierwise
import Rollout.Proofs.Settings.Conformity
import Rollout.Proofs.Settings.Discretion
import Rollout.Proofs.Settings.Faults
import Rollout.Proofs.Settings.Programs
import Rollout.Proofs.Sorted
import Rollout.Proofs.Text.Base64
import Rollout.Proofs.Text.Encoding
import Rollout.Proofs.Text.Hex
import Rollout.Proofs.Text.Splitting
import Rollout.Proofs.Yaml.Documents
import Rollout.Proofs.Yaml.Printing
import Rollout.Proofs.Yaml.Scalars
import Rollout.Proofs.Yaml.Styles
import Rollout.Provider
import Rollout.Provider.DigitalOcean
import Rollout.Provider.DockerDesktop
import Rollout.Registry
import Rollout.Resource
import Rollout.Run
import Rollout.Run.LiveCluster
import Rollout.Run.Outside
import Rollout.Run.Pool
import Rollout.Run.Report
import Rollout.Run.Stage
import Rollout.Run.State
import Rollout.Run.Tooling
import Rollout.Session
import Rollout.Settings
import Rollout.Settings.Check
import Rollout.Sorted
import Rollout.Text.Ascii
import Rollout.Text.Blank
import Rollout.Text.Printable
import Rollout.Text.Quoted
import Rollout.Text.Table
import Rollout.Text.Utf8
import Rollout.Text.Width
import Rollout.Text.WordChar
import Rollout.Tool
import Rollout.Tool.Docker
import Rollout.Tool.Kubectl
import Rollout.Tool.Script
import Rollout.Url
import Rollout.Yaml
import Rollout.Yaml.Cursor
import Rollout.Yaml.Layout
import Rollout.Yaml.Mismatch
import Rollout.Yaml.Node
import Rollout.Yaml.Place
import Rollout.Yaml.Reader
import Rollout.Yaml.Record
import Rollout.Yaml.Scalar
import Rollout.Yaml.Token
import Rollout.Yaml.Writer
