import StarLens.Foundation.Execution
import StarLens.Foundation.FileProgram
import StarLens.Foundation.Layers
import StarLens.Foundation.StableSort
import StarLens.Foundation.Samples
import StarLens.Foundation.Doubling
import StarLens.Foundation.InPlaceSort
import StarLens.Foundation.Trim
import StarLens.Foundation.JsonText
import StarLens.Go.Strings
import StarLens.Go.Time
import StarLens.Go.Float
import StarLens.Go.Representable
import StarLens.Go.URL
import StarLens.Go.Maps
import StarLens.Go.Wraparound
import StarLens.Go.ByteOrder
import StarLens.Go.Errors
import StarLens.Go.Timestamp
import StarLens.Alert.Manager
import StarLens.Alert.ManagerRuns
import StarLens.Alert.Delivery
import StarLens.Alert.ClockSteps
import StarLens.Alert.Recent
import StarLens.Alert.Poller
import StarLens.Alert.Collect
import StarLens.Alert.Settings
import StarLens.Alert.OverrideJson
import StarLens.Alert.OverrideFile
import StarLens.Alert.SettingsUpdates
import StarLens.Alert.PollerRuns
import StarLens.Alert.Webhook
import StarLens.Alert.WebhookSecret
import StarLens.Alert.SlackText
import StarLens.Repository.Row
import StarLens.Repository.NumericCells
import StarLens.Service.Cluster
import StarLens.Service.ClusterAlerts
import StarLens.Service.ClusterOrder
import StarLens.Service.ClusterKeys
import StarLens.Service.LeaderChoice
import StarLens.Service.LiveTablets
import StarLens.Service.RoutineLoad
import StarLens.Service.RoutineLoadReads
import StarLens.Service.RoutineLoadAlerts
import StarLens.Service.OffsetLag
import StarLens.Service.OffsetSpelling
import StarLens.Service.JobColumns
import StarLens.Service.AlertCounts
import StarLens.Service.StoppedJobs
import StarLens.Service.Storage
import StarLens.Service.TabletSkew
import StarLens.Service.SkewThreshold
import StarLens.Service.TabletTotals
import StarLens.Service.Statistic
import StarLens.Service.TableIdentity
import StarLens.Service.NumericPayloads
import StarLens.Service.Query
import StarLens.Service.QueryPolicy
import StarLens.Service.CleanStatement
import StarLens.Service.SqlText
import StarLens.Service.MainVerb
import StarLens.Repository.QueryRows
import StarLens.Repository.QueryRepository
import StarLens.Repository.ResultSet
import StarLens.Service.QueryRuns
import StarLens.Service.QuotedIdentifier
import StarLens.Api.AlertConfig
import StarLens.Server.Apply
import StarLens.Server.Requests
import StarLens.Server.ApplyRuns
import StarLens.Server.ApplySafety
import StarLens.Server.Secrecy
import StarLens.Server.ConfigViews
import StarLens.Config.Alert
import StarLens.Config.Load
import StarLens.Repository.Pool
import StarLens.Service.SecondStatement
import StarLens.Service.ColumnShapes
import StarLens.Service.Failures
import StarLens.Server.Lifecycle
import StarLens.Server.UpdateLock
import StarLens.Alert.Lifetimes
import StarLens.Alert.WebhookPayload
import StarLens.Server.AlertViews
import StarLens.Frontend.Number
import StarLens.Frontend.AlertSettingsDialog
import StarLens.Frontend.ClusterStatusPill
import StarLens.Api.Handlers
import StarLens.Frontend.ApiError
import StarLens.Frontend.TopologyView
import StarLens.Frontend.TopologyAlerts
import StarLens.Frontend.RoutineLoadView
import StarLens.Frontend.Worksheet
