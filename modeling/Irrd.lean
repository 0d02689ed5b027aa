import Irrd.Base.KeyedLog
import Irrd.Base.KeyedTable
import Irrd.Base.Reaches
import Irrd.Base.Reconciliation
import Irrd.Base.ShrinkingRounds
import Irrd.Base.Fallible
import Irrd.Base.LogWindows
import Irrd.Base.AlignedBlocks
import Irrd.Base.ThreeValued
import Irrd.Base.BulkRefresh
import Irrd.Base.Exploration
import Irrd.Base.ExplorationRounds
import Irrd.Base.ResumePoint
import Irrd.Base.DelimitedStream
import Irrd.Base.Runs
import Irrd.Base.OrderedRows
import Irrd.Base.DigitGroups
import Irrd.Utils.IP
import Irrd.Utils.Networks
import Irrd.Utils.Encoding
import Irrd.Utils.Lines
import Irrd.Mirroring.NrtmRoundTrip
import Irrd.Mirroring.NrtmStreamParser
import Irrd.Mirroring.NrtmStreamSerials
import Irrd.Utils.Paragraphs
import Irrd.Utils.Splitlines
import Irrd.Utils.ParagraphRuns
import Irrd.Utils.UnicodeText
import Irrd.Storage.Status
import Irrd.Storage.Models
import Irrd.Mirroring.Nrtm4Types
import Irrd.Mirroring.Jsonseq
import Irrd.Mirroring.Nrtm4Client
import Irrd.Mirroring.Nrtm4ClientVersion
import Irrd.Mirroring.Nrtm4ClientHistory
import Irrd.Mirroring.Nrtm4Server
import Irrd.Mirroring.Nrtm4ServerRun
import Irrd.Mirroring.Nrtm4ServerConcurrency
import Irrd.Mirroring.Nrtm4ServerDelivery
import Irrd.Conf.Settings
import Irrd.Rpsl.RPSLObject
import Irrd.Rpsl.Fields
import Irrd.Rpsl.ObjectClasses
import Irrd.Rpsl.ObjectAddresses
import Irrd.Rpsl.AddressRanges
import Irrd.Rpsl.Parser
import Irrd.Rpsl.ParserExceptions
import Irrd.Rpsl.ValidObjects
import Irrd.Rpsl.AttributeOutcomes
import Irrd.Rpsl.ListedValues
import Irrd.Rpsl.ParserAgreement
import Irrd.Rpsl.ReferenceDefinitions
import Irrd.Rpsl.RenderedText
import Irrd.Rpsl.ExtractedLines
import Irrd.Routepref.RoutePreference
import Irrd.Routepref.Evaluation
import Irrd.Routepref.RadixTree
import Irrd.Storage.DatabaseHandler
import Irrd.Scopefilter.Validators
import Irrd.Rpki.Validators
import Irrd.Rpki.Importer
import Irrd.Rpki.PseudoIrrLines
import Irrd.Rpki.PseudoIrrText
import Irrd.Rpki.OriginValidation
import Irrd.Rpki.SlurmFilters
import Irrd.Storage.HandlerRun
import Irrd.Storage.ObjectWrites
import Irrd.Storage.JournalReplay
import Irrd.Storage.RecordedOperations
import Irrd.Storage.BufferedWriting
import Irrd.Storage.IncrementalEvaluation
import Irrd.Storage.JournalReplayRun
import Irrd.Storage.JournalReplaySteps
import Irrd.Storage.SerialAssignment
import Irrd.Storage.SerialColumns
import Irrd.Storage.SerialModes
import Irrd.Storage.ForceReload
import Irrd.Storage.Queries
import Irrd.Storage.OneLevelQueries
import Irrd.Storage.PublishedMembers
import Irrd.Storage.DeleteJournal
import Irrd.Utils.Text
import Irrd.Utils.Validators
import Irrd.Utils.AsNumbers
import Irrd.Rpsl.SetNames
import Irrd.Storage.Preload
import Irrd.Storage.PreloadReload
import Irrd.Storage.PreloadReloadRun
import Irrd.Storage.PreloadUpdater
import Irrd.Storage.PreloadCollection
import Irrd.Storage.PreloadEncoding
import Irrd.Storage.PreloadFaithful
import Irrd.Storage.PreloadAccepted
import Irrd.Server.QueryResolver
import Irrd.Server.SetResolution
import Irrd.Server.SetLookups
import Irrd.Server.Ipv4OnlyMembers
import Irrd.Server.SetExclusion
import Irrd.Server.GraphqlResolvers
import Irrd.Server.EventStream
import Irrd.Server.EventStreamRun
import Irrd.Mirroring.ImportParsers
import Irrd.Mirroring.StatusRunners
import Irrd.Mirroring.RoutePreferenceRun
import Irrd.Mirroring.Scheduler
import Irrd.Mirroring.SchedulerRun
import Irrd.Mirroring.RoaImport
import Irrd.Mirroring.MirrorImportRunner
import Irrd.Mirroring.FullReloadEvents
import Irrd.Updates.ChangeRequest
import Irrd.Updates.WritePaths
import Irrd.Updates.Suspension
import Irrd.Updates.Reactivation
import Irrd.Updates.CreationTimes
import Irrd.Rpsl.WrittenObject
import Irrd.Mirroring.UpdateFileImport
import Irrd.Mirroring.NrtmGenerator
import Irrd.Mirroring.NrtmRanges
import Irrd.Mirroring.Dummification
import Irrd.Utils.LinePieces
import Irrd.Utils.Indentation
import Irrd.Rpsl.AttributeBlocks
import Irrd.Rpsl.ReadObjects
import Irrd.Mirroring.DummifiedLines
import Irrd.Mirroring.DummifiedValidity
import Irrd.Utils.WhoisClient
import Irrd.Server.WhoisQueryResponse
import Irrd.Storage.Rollback
import Irrd.Base.Occurrences
import Irrd.Utils.Pgp
import Irrd.Base.RelatedLists
import Irrd.Base.ReferencedStore
import Irrd.Rpsl.Auth
import Irrd.Rpsl.ReferenceNames
import Irrd.Updates.ParserState
import Irrd.Updates.AuthValidator
import Irrd.Updates.Validators
import Irrd.Updates.Requests
import Irrd.Updates.SubmissionHandler
import Irrd.Updates.ObjectQueries
import Irrd.Updates.CheckedMntners
import Irrd.Updates.CheckedReferences
import Irrd.Updates.ValidatedChanges
import Irrd.Updates.SubmissionRounds
import Irrd.Updates.SavedChanges
import Irrd.Updates.HandledSubmissions
import Irrd.Updates.ReferentialIntegrity
import Irrd.Updates.Authority
