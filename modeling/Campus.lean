import Campus.Access.Capability
import Campus.Access.Context
import Campus.Access.Role
import Campus.Clock
import Campus.CommandLine.Arguments
import Campus.CommandLine.Run
import Campus.Contract.Coercion
import Campus.Contract.Description
import Campus.Contract.Envelope
import Campus.Contract.Error
import Campus.Contract.Fitting
import Campus.Contract.Registry
import Campus.Contract.Strings
import Campus.Email
import Campus.Fixture.Badges
import Campus.Fixture.Modules
import Campus.Fixture.People
import Campus.Fixture.Reports
import Campus.Function.Assign
import Campus.Function.Badges
import Campus.Function.Chat
import Campus.Json.Basic
import Campus.Json.Printer
import Campus.Json.Reader
import Campus.Json.Shape
import Campus.Json.Tree
import Campus.Keyed
import Campus.Main
import Campus.Number.Binary64
import Campus.Number.Literal
import Campus.Number.Shortest
import Campus.Path
import Campus.Proofs.AllOrNothing
import Campus.Proofs.Answers
import Campus.Proofs.BackpackBadges
import Campus.Proofs.BadgeExport
import Campus.Proofs.BadgeLocks
import Campus.Proofs.BadgePrivacy
import Campus.Proofs.BatchRemoval
import Campus.Proofs.Changes
import Campus.Proofs.Conformity
import Campus.Proofs.Connections
import Campus.Proofs.Consistency
import Campus.Proofs.Decoding
import Campus.Proofs.Descriptions
import Campus.Proofs.Dispatch
import Campus.Proofs.Effects
import Campus.Proofs.Envelope
import Campus.Proofs.EnvelopeReading
import Campus.Proofs.EventLog
import Campus.Proofs.Exchanges
import Campus.Proofs.FailedFixtures
import Campus.Proofs.Failures
import Campus.Proofs.FirstFaults
import Campus.Proofs.Fitting
import Campus.Proofs.Fixtures
import Campus.Proofs.IntegerCoercion
import Campus.Proofs.IntegerText
import Campus.Proofs.Interleaving
import Campus.Proofs.LatestAttempt
import Campus.Proofs.Lines
import Campus.Proofs.Locks
import Campus.Proofs.Nulls
import Campus.Proofs.NumberedAttempts
import Campus.Proofs.Numbering
import Campus.Proofs.Numerals
import Campus.Proofs.Operations
import Campus.Proofs.Outcomes
import Campus.Proofs.Overrides
import Campus.Proofs.PermutedRemovals
import Campus.Proofs.Placement
import Campus.Proofs.Pruning
import Campus.Proofs.PublishedForms
import Campus.Proofs.RecordReading
import Campus.Proofs.Records
import Campus.Proofs.RelatedBadges
import Campus.Proofs.Removal
import Campus.Proofs.RemovalArguments
import Campus.Proofs.RemovalCalls
import Campus.Proofs.Replies
import Campus.Proofs.ReportItems
import Campus.Proofs.ReportParts
import Campus.Proofs.Requests
import Campus.Proofs.Resolution
import Campus.Proofs.Rewording
import Campus.Proofs.Rounding
import Campus.Proofs.Run
import Campus.Proofs.Sessions
import Campus.Proofs.Sowing.Badges
import Campus.Proofs.Sowing.Credentials
import Campus.Proofs.Sowing.Description
import Campus.Proofs.Sowing.Modules
import Campus.Proofs.Sowing.People
import Campus.Proofs.Sowing.Reports
import Campus.Proofs.Sowing.Roles
import Campus.Proofs.Sowing.Site
import Campus.Proofs.Sowing.Submissions
import Campus.Proofs.Trimming
import Campus.Proofs.UrlSchemes
import Campus.Proofs.Visits
import Campus.Proofs.Wire
import Campus.Proofs.Writes
import Campus.Rpc.Connection
import Campus.Rpc.Dispatch
import Campus.Rpc.Message
import Campus.Rpc.Method
import Campus.Rpc.Schema
import Campus.Seed.Apply
import Campus.Seed.Basic
import Campus.Seed.Load
import Campus.Service.Basic
import Campus.Service.Config
import Campus.Site.Ambient
import Campus.Site.Assignment
import Campus.Site.Backpack
import Campus.Site.Badge
import Campus.Site.Basic
import Campus.Site.Change
import Campus.Site.Chat
import Campus.Site.Course
import Campus.Site.Error
import Campus.Site.Export
import Campus.Site.Report
import Campus.Site.User
import Campus.Table
import Campus.Text.Blank
import Campus.Text.Composition
import Campus.Text.Direction
import Campus.Text.Joining
import Campus.Text.Punycode
import Campus.Text.Quoted
import Campus.Text.Ranges
import Campus.Text.Unprintable
import Campus.Text.Utf8
import Campus.Toml.Document
import Campus.Toml.Reader
import Campus.Toml.Scalar
import Campus.Toml.Table
import Campus.Url.Address
import Campus.Url.Basic
import Campus.Url.Domain
import Campus.Url.Mapping
