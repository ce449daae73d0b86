import OdooConnector.Transfer.Tracking
import OdooConnector.Transfer.NormalForm
import OdooConnector.Transfer.TrackingUrl
import OdooConnector.Transfer.Delivered
import OdooConnector.Order.LocationSplit
import OdooConnector.Library.Replace
import OdooConnector.Store.Shop
import OdooConnector.Order.SendPicking
import OdooConnector.Order.TakeLines
import OdooConnector.Order.MoveOrders
import OdooConnector.Order.FulfillOrders
import OdooConnector.Order.Fulfilment
import OdooConnector.Store.StandardShop
import OdooConnector.Library.Loop
import OdooConnector.Library.Page
import OdooConnector.Order.ReceiveOrders
import OdooConnector.Order.RecentOrders
import OdooConnector.Inventory.Bom
import OdooConnector.Library.Production
import OdooConnector.Inventory.Producible
import OdooConnector.Catalog.PriceBatches
import OdooConnector.Inventory.Calculation
import OdooConnector.Catalog.Publication
import OdooConnector.Library.Text
import OdooConnector.Order.OrderFilter
import OdooConnector.Inventory.Reservation
import OdooConnector.Library.Run
import OdooConnector.Order.ExternalFulfillment
import OdooConnector.Order.FulfillmentDone
import OdooConnector.Payment.AdvanceLimit
import OdooConnector.Order.IntegrationFile
import OdooConnector.Order.RefreshRequested
import OdooConnector.Order.PipelineFinished
import OdooConnector.Inventory.ForecastCache
import OdooConnector.Catalog.PriceExports
import OdooConnector.Catalog.LatestPrices
import OdooConnector.Library.Pattern
import OdooConnector.Queue.FailedJob
import OdooConnector.Mapping.MappingLayer
import OdooConnector.Mapping.Requeued
import OdooConnector.Library.Placement
import OdooConnector.Library.PriorityQueue
import OdooConnector.Queue.Channel
import OdooConnector.Queue.ChannelPop
import OdooConnector.Queue.ChannelState
import OdooConnector.Queue.ChannelPlaces
import OdooConnector.Queue.ChannelYields
import OdooConnector.Queue.ChannelNotify
import OdooConnector.Queue.ChannelCapacity
import OdooConnector.Queue.ChannelLoops
import OdooConnector.Queue.StartedJobs
import OdooConnector.Library.Network
import OdooConnector.Library.TopologicalSort
import OdooConnector.Library.Worklist
import OdooConnector.Queue.Delayable
import OdooConnector.Queue.JobOrder
import OdooConnector.Queue.JobGraph
import OdooConnector.Queue.JobMeaning
import OdooConnector.Queue.DelayGraph
import OdooConnector.Inventory.BomParents
import OdooConnector.Inventory.ForecastTrigger
import OdooConnector.Order.AutoValidate
import OdooConnector.Library.Filling
import OdooConnector.Order.ShippedQuantities
import OdooConnector.Order.BookedOnce
import OdooConnector.Library.Attempt
import OdooConnector.Order.FailedFulfillment
import OdooConnector.Catalog.ImageMapping
import OdooConnector.Catalog.MirroredImages
import OdooConnector.Api.Retry
import OdooConnector.Library.Scan
import OdooConnector.Resource.DeliveryMethod
import OdooConnector.Resource.TaxLine
import OdooConnector.Resource.ExternalCode
import OdooConnector.Resource.ExistingTemplate
import OdooConnector.Resource.VariantExport
import OdooConnector.Api.Batch
import OdooConnector.Library.UniqueKey
import OdooConnector.Mapping.MappingTable
import OdooConnector.Mapping.ProductExternal
import OdooConnector.Mapping.VariantMapping
import OdooConnector.Mapping.ImportWizard
import OdooConnector.Mapping.RefreshedVariants
import OdooConnector.Catalog.KitImport
import OdooConnector.Order.OrderMetafields
import OdooConnector.Partner.CustomerImport
import OdooConnector.Catalog.MetafieldValue
import OdooConnector.Library.Grouping
import OdooConnector.Translation.GidKey
import OdooConnector.Translation.Push
import OdooConnector.Library.NestedDict
import OdooConnector.Translation.FetchTranslations
import OdooConnector.Carrier.Response
import OdooConnector.Carrier.SendShipping
import OdooConnector.Inventory.StockLevels
import OdooConnector.Library.KeyOrder
import OdooConnector.Translation.LangMapping
import OdooConnector.Translation.ImportedTranslations
import OdooConnector.Library.Step
import OdooConnector.Partner.PartnerFactory
import OdooConnector.Partner.PartnerAddresses
import OdooConnector.Library.Multiples
import OdooConnector.Order.RoundedAmounts
import OdooConnector.Catalog.PricelistBlocks
import OdooConnector.Order.PriceDifference
import OdooConnector.Payment.AdvanceConfirmation
import OdooConnector.Queue.QueueOrder
import OdooConnector.Queue.QueueRuns
import OdooConnector.Library.DateTime
import OdooConnector.Queue.JobArguments
import OdooConnector.Queue.KeptArguments
import OdooConnector.Carrier.DangerousGoods
import OdooConnector.Carrier.DeclaredGoods
import OdooConnector.Carrier.GoodsDeclaration
import OdooConnector.Library.Ranking
import OdooConnector.Order.TopCountries
import OdooConnector.Order.TopRevenue
import OdooConnector.Queue.OrderlyChannels
import OdooConnector.Queue.WakeupTime
import OdooConnector.Queue.ConfinedYields
import OdooConnector.Queue.NeverOversleeps
import OdooConnector.Library.SortedGroups
import OdooConnector.Purchase.AdvanceBill
import OdooConnector.Purchase.BillableLines
import OdooConnector.Purchase.BillLines
import OdooConnector.Purchase.BilledOnce
import OdooConnector.Api.ExtractNode
import OdooConnector.Api.PathExtraction
import OdooConnector.Library.History
import OdooConnector.Queue.RetryPattern
import OdooConnector.Queue.StoredJob
import OdooConnector.Queue.JobTable
import OdooConnector.Queue.RunJob
import OdooConnector.Queue.ServerSteps
import OdooConnector.Queue.LockedJobs
import OdooConnector.Queue.JobLinks
import OdooConnector.Queue.WakeUps
import OdooConnector.Queue.DelayedGraph
import OdooConnector.Queue.JobRunner
import OdooConnector.Queue.LinkHistory
import OdooConnector.Queue.DependenciesFirst
import OdooConnector.Queue.ChannelLookup
import OdooConnector.Queue.KnownJobs
import OdooConnector.Queue.JobOrigins
import OdooConnector.Queue.SystemCapacity
import OdooConnector.Queue.ChannelMirror
import OdooConnector.Queue.RunnerView
import OdooConnector.Library.Fields
import OdooConnector.Queue.ChannelConfig
import OdooConnector.Queue.ConfiguredTree
import OdooConnector.Queue.SplitDelayable
import OdooConnector.Catalog.TemplateHub
import OdooConnector.Catalog.ProductValidation
import OdooConnector.Library.Snapshot
import OdooConnector.Order.OrderIntake
import OdooConnector.Order.OneOrder
import OdooConnector.Order.Webhook
import OdooConnector.Order.WebhookQueue
