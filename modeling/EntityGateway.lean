import EntityGateway.Command
import EntityGateway.Decimal.Binary64
import EntityGateway.Decimal.Scaled
import EntityGateway.Decimal.Shortest
import EntityGateway.Digest.Sha256
import EntityGateway.Engine.Basic
import EntityGateway.Engine.Local
import EntityGateway.Engine.Local.Entity
import EntityGateway.Engine.Local.Why
import EntityGateway.Engine.Pool
import EntityGateway.Engine.Scripted
import EntityGateway.Error
import EntityGateway.Graph
import EntityGateway.Http.Params
import EntityGateway.Http.Response
import EntityGateway.Http.Route
import EntityGateway.Http.Server
import EntityGateway.Http.Url
import EntityGateway.Http.Target
import EntityGateway.Identifier
import EntityGateway.Json.Basic
import EntityGateway.Json.Decode
import EntityGateway.Json.Parse
import EntityGateway.Json.Print
import EntityGateway.Main
import EntityGateway.Payload.Basic
import EntityGateway.Payload.Entity
import EntityGateway.Payload.Path
import EntityGateway.Payload.Record
import EntityGateway.Payload.Score
import EntityGateway.Payload.Search
import EntityGateway.Payload.Why
import EntityGateway.Projection.Options
import EntityGateway.Projection.Project
import EntityGateway.Projection.View
import EntityGateway.Scoring
import EntityGateway.Search.Bucket
import EntityGateway.Search.Criteria
import EntityGateway.Service.Catalog
import EntityGateway.Service.Lookup
import EntityGateway.Service.Network
import EntityGateway.Service.Path
import EntityGateway.Service.Resolve
import EntityGateway.Service.Search
import EntityGateway.Service.Why
import EntityGateway.Session
import EntityGateway.Sorted
import EntityGateway.Store.Config
import EntityGateway.Store.Document
import EntityGateway.Store.Repository
import EntityGateway.Proofs.Ascending
import EntityGateway.Proofs.BuildOut
import EntityGateway.Proofs.Distinct
import EntityGateway.Proofs.EditScripts
import EntityGateway.Proofs.FeatureGroups
import EntityGateway.Proofs.FeatureStats
import EntityGateway.Proofs.FilteredSearch
import EntityGateway.Proofs.FirstBestPair
import EntityGateway.Proofs.GroupedRelations
import EntityGateway.Proofs.IdentifierText
import EntityGateway.Proofs.ImportedLookup
import EntityGateway.Proofs.JsonRoundTrip
import EntityGateway.Proofs.KeyedRows
import EntityGateway.Proofs.LocalNetwork
import EntityGateway.Proofs.LoopTermination
import EntityGateway.Proofs.MirroredWhy
import EntityGateway.Proofs.PathAnswers
import EntityGateway.Proofs.Projection
import EntityGateway.Proofs.ReconciledKey
import EntityGateway.Proofs.RecordsAsEntities
import EntityGateway.Proofs.RepeatedComparison
import EntityGateway.Proofs.RepeatedImport
import EntityGateway.Proofs.RequestedFlags
import EntityGateway.Proofs.RequiredSources
import EntityGateway.Proofs.ServiceRun
import EntityGateway.Proofs.ShortestPath
import EntityGateway.Proofs.ShortestRoute
import EntityGateway.Proofs.SimilarityRange
import EntityGateway.Proofs.SymmetricScores
import EntityGateway.Proofs.UpperCase
import EntityGateway.Proofs.WiderSearch
import EntityGateway.Store.Sample
import EntityGateway.Text.Case
import EntityGateway.Text.CharClass
import EntityGateway.Text.Printable
import EntityGateway.Text.Utf8
import EntityGateway.Time
import EntityGateway.Why.Key
