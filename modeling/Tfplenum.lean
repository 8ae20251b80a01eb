import Tfplenum.Lib.Base64
import Tfplenum.Lib.CodePoints
import Tfplenum.Lib.DocStore
import Tfplenum.Lib.Fallible
import Tfplenum.Lib.EditingLoop
import Tfplenum.Lib.FileTree
import Tfplenum.Lib.Grouping
import Tfplenum.Lib.Heap
import Tfplenum.Lib.History
import Tfplenum.Lib.Hoare
import Tfplenum.Lib.IPv4
import Tfplenum.Lib.Interleave
import Tfplenum.Lib.IsoDate
import Tfplenum.Lib.JsObject
import Tfplenum.Lib.Lexer
import Tfplenum.Lib.Lines
import Tfplenum.Lib.Links
import Tfplenum.Lib.Lockstep
import Tfplenum.Lib.Midway
import Tfplenum.Lib.Nested
import Tfplenum.Lib.Noted
import Tfplenum.Lib.Painless
import Tfplenum.Lib.Pattern
import Tfplenum.Lib.Program
import Tfplenum.Lib.PythonInt
import Tfplenum.Lib.ReadBack
import Tfplenum.Lib.Regex
import Tfplenum.Lib.Replica
import Tfplenum.Lib.Runs
import Tfplenum.Lib.Schema
import Tfplenum.Lib.Search
import Tfplenum.Lib.Steps
import Tfplenum.Lib.Subnet
import Tfplenum.Lib.Subtree
import Tfplenum.Lib.Table
import Tfplenum.Lib.Totals
import Tfplenum.Lib.Trace
import Tfplenum.Lib.Unicode
import Tfplenum.Lib.UrlText
import Tfplenum.Lib.Waiting
import Tfplenum.Lib.WithStatement
import Tfplenum.Lib.Word32
import Tfplenum.Lib.WordPattern
import Tfplenum.Lib.ZipArchive
import Tfplenum.Common
import Tfplenum.Json
import Tfplenum.Middleware
import Tfplenum.Persistence
import Tfplenum.PipelineImages.ChangelogSections
import Tfplenum.PipelineImages.CommitRules
import Tfplenum.PipelineImages.GitRepo
import Tfplenum.PipelineImages.LintedCommits
import Tfplenum.PipelineImages.Logg
import Tfplenum.PipelineImages.NumericVersions
import Tfplenum.PipelineImages.ReleaseRange
import Tfplenum.PipelineImages.TableOfContents
import Tfplenum.PipelineImages.UniqueCommits
import Tfplenum.PipelineImages.VersionHelper
import Tfplenum.Utils.ConnectionMngs
import Tfplenum.Utils.HostText
import Tfplenum.Utils.Objectify
import Tfplenum.Utils.SanitizeDictionary
import Tfplenum.Models.DeviceFacts
import Tfplenum.Models.Fields
import Tfplenum.Models.GeneralSettings
import Tfplenum.Models.JobStages
import Tfplenum.Models.ModelDictionary
import Tfplenum.Models.NodeOperations
import Tfplenum.Models.NodeRoundTrip
import Tfplenum.Models.Nodes
import Tfplenum.Models.PasswordStigs
import Tfplenum.Models.ReplaySensor
import Tfplenum.Models.SettingsBase
import Tfplenum.Models.SettingsForms
import Tfplenum.Models.SettingsSaves
import Tfplenum.Service.AgentBuilder
import Tfplenum.Service.AgentEnds
import Tfplenum.Service.AgentService
import Tfplenum.Service.AssociatedPods
import Tfplenum.Service.AsyncCommand
import Tfplenum.Service.CatalogValues
import Tfplenum.Service.ColdLogService
import Tfplenum.Service.CuratorReports
import Tfplenum.Service.CuratorRollover
import Tfplenum.Service.CuratorService
import Tfplenum.Service.DiskPressure
import Tfplenum.Service.HealthService
import Tfplenum.Service.HelmInstall
import Tfplenum.Service.HelmJobs
import Tfplenum.Service.HelmReleases
import Tfplenum.Service.HelmUninstall
import Tfplenum.Service.HostAttribution
import Tfplenum.Service.JobFlags
import Tfplenum.Service.JobRequests
import Tfplenum.Service.JobService
import Tfplenum.Service.KitCoverage
import Tfplenum.Service.KitRefresh
import Tfplenum.Service.KitRegistry
import Tfplenum.Service.KitStatus
import Tfplenum.Service.KitTokensService
import Tfplenum.Service.KubernetesLookups
import Tfplenum.Service.KubernetesMasking
import Tfplenum.Service.NodeService
import Tfplenum.Service.OneOutcome
import Tfplenum.Service.PcapRuns
import Tfplenum.Service.PcapService
import Tfplenum.Service.PcapSync
import Tfplenum.Service.PcapUpload
import Tfplenum.Service.PlaybookRuns
import Tfplenum.Service.PodRestarts
import Tfplenum.Service.PodStatus
import Tfplenum.Service.RegistryService
import Tfplenum.Service.RemainingResources
import Tfplenum.Service.ReplayJob
import Tfplenum.Service.RuleFiles
import Tfplenum.Service.RuleService
import Tfplenum.Service.RulesetService
import Tfplenum.Service.RulesyncNotifications
import Tfplenum.Service.RulesyncService
import Tfplenum.Service.ScaleLimits
import Tfplenum.Service.ScaleOrder
import Tfplenum.Service.ScaleRequests
import Tfplenum.Service.ScaleService
import Tfplenum.Service.ScaleStatus
import Tfplenum.Service.SocketService
import Tfplenum.Service.ZeekScripts
import Tfplenum.Controller.AgentBuilderController
import Tfplenum.Controller.AlertRows
import Tfplenum.Controller.AlertsController
import Tfplenum.Controller.AlertsQueries
import Tfplenum.Controller.AlertsTable
import Tfplenum.Controller.AlertsTableRows
import Tfplenum.Controller.ChangeKitPassword
import Tfplenum.Controller.ConfigmapController
import Tfplenum.Controller.ControllerInfo
import Tfplenum.Controller.CrossNodeRules
import Tfplenum.Controller.CuratorController
import Tfplenum.Controller.DeployableMips
import Tfplenum.Controller.DirtyMarks
import Tfplenum.Controller.DocsUpload
import Tfplenum.Controller.HostNameUniqueness
import Tfplenum.Controller.HostNames
import Tfplenum.Controller.JobStates
import Tfplenum.Controller.KitController
import Tfplenum.Controller.MonitoringInterfaces
import Tfplenum.Controller.NodeController
import Tfplenum.Controller.NodeCreation
import Tfplenum.Controller.NodeInFlight
import Tfplenum.Controller.NodeRemoval
import Tfplenum.Controller.NodeUpdates
import Tfplenum.Controller.NodeWrites
import Tfplenum.Controller.RuleAssignments
import Tfplenum.Controller.RuleOwnership
import Tfplenum.Controller.RulesetController
import Tfplenum.Controller.SettingsController
import Tfplenum.Controller.StageOrder
import Tfplenum.Controller.SyncIsolation
import Tfplenum.Controller.SyncStates
import Tfplenum.Controller.SyncVerdicts
import Tfplenum.Controller.TargetHosts
import Tfplenum.Controller.ToolsController
import Tfplenum.Controller.UploadedRules
import Tfplenum.Frontend.AddNodeDialog
import Tfplenum.Frontend.AddressPatterns
import Tfplenum.Frontend.AgentBuilderChooser
import Tfplenum.Frontend.CatalogPage
import Tfplenum.Frontend.CatalogSubmissions
import Tfplenum.Frontend.ConfigMapEdits
import Tfplenum.Frontend.DataMethods
import Tfplenum.Frontend.IndexManagement
import Tfplenum.Frontend.NotificationsDialog
import Tfplenum.Frontend.PasswordValidator
import Tfplenum.Frontend.PivotLinks
import Tfplenum.Frontend.PivotParams
import Tfplenum.Frontend.PivotReaders
import Tfplenum.Frontend.PivotRows
import Tfplenum.Frontend.PodTable
import Tfplenum.Frontend.PolicyManagement
import Tfplenum.Service.InstallerHistory
