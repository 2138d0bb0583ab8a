import ShredSdk.Lib.OrdMap
import ShredSdk.Shred.Layout
import ShredSdk.Shred.OrderIndependence
import ShredSdk.Route.Amounts
import ShredSdk.Route.Subtrees
import ShredSdk.Core.Event
import ShredSdk.Lib.WriteOnce
import ShredSdk.Registry.StonkFun
import ShredSdk.Route.HiddenDepth
import ShredSdk.Registry.Replay
import ShredSdk.Shred.Watermark
import ShredSdk.Shred.Checked
import ShredSdk.Shred.Rejected
import ShredSdk.Shred.Soundness
import ShredSdk.Shred.Accusations
import ShredSdk.Core.DexEvent
import ShredSdk.Grpc.Filter
import ShredSdk.Lib.Text
import ShredSdk.Log.Discriminators
import ShredSdk.Log.Parsers
import ShredSdk.Log.PumpTrade
import ShredSdk.Log.Matcher
import ShredSdk.Lib.Overlay
import ShredSdk.Log.Pushdown
import ShredSdk.Merge.Tables
import ShredSdk.Merge.LogPreferred
import ShredSdk.Lib.Spread
import ShredSdk.Route.Join
import ShredSdk.Route.Mints
import ShredSdk.Lib.Codec
import ShredSdk.Log.Slots
import ShredSdk.Log.PumpSwap
import ShredSdk.Log.PumpSwapLayouts
import ShredSdk.Log.TradeLayout
import ShredSdk.Log.TradeCuts
import ShredSdk.Log.TradeMisread
import ShredSdk.Log.PumpInner
import ShredSdk.Lib.Evidence
import ShredSdk.Enrich.SameTx
import ShredSdk.Enrich.PostMerge
import ShredSdk.Enrich.Flags
import ShredSdk.Instr.Pump
import ShredSdk.Stream.PumpIx
import ShredSdk.Stream.Agreement
import ShredSdk.Lib.Appends
import ShredSdk.Stream.Transaction
import ShredSdk.Stream.Loaded
import ShredSdk.Merge.MergePaths
import ShredSdk.Lib.Base64
import ShredSdk.Fill.Lookup
import ShredSdk.Log.EntryPoints
import ShredSdk.Fill.FeesFlag
import ShredSdk.Lib.Groups
import ShredSdk.Instr.PumpAmm
import ShredSdk.Stream.MultiHop
import ShredSdk.Lib.Hide
import ShredSdk.Instr.PumpAmmTails
import ShredSdk.Instr.Utils
import ShredSdk.Fill.PumpSwap
import ShredSdk.Instr.MeteoraDlmm
import ShredSdk.Instr.DlmmLayout
import ShredSdk.Instr.RaydiumClmm
import ShredSdk.Instr.AccountTails
import ShredSdk.Instr.RaydiumCpmm
import ShredSdk.Instr.MeteoraDamm
import ShredSdk.Instr.MeteoraDbc
import ShredSdk.Instr.MeteoraPools
import ShredSdk.Instr.OrcaWhirlpool
import ShredSdk.Instr.PumpFees
import ShredSdk.Instr.RaydiumAmm
import ShredSdk.Instr.RaydiumLaunchlab
import ShredSdk.Instr.Unified
import ShredSdk.Instr.Gates
import ShredSdk.Route.LegEvents
import ShredSdk.Lib.Format
import ShredSdk.Lib.Growing
import ShredSdk.Accounts.Utils
import ShredSdk.Accounts.Event
import ShredSdk.Accounts.PumpSwap
import ShredSdk.Accounts.PumpFun
import ShredSdk.Accounts.Layouts
import ShredSdk.Accounts.Protocols
import ShredSdk.Accounts.Token
import ShredSdk.Accounts.TokenLayouts
import ShredSdk.Accounts.TokenReads
import ShredSdk.Log.PumpFees
import ShredSdk.Log.Payload
import ShredSdk.Log.RaydiumEvents
import ShredSdk.Log.MeteoraEvents
import ShredSdk.Instr.DammInner
import ShredSdk.Log.DammAgreement
import ShredSdk.Lib.Lines
import ShredSdk.Log.Recognisers
import ShredSdk.Instr.CreatorFee
import ShredSdk.Lib.Recency
import ShredSdk.Pumpfun.EventParser
import ShredSdk.Pumpfun.Conserved
import ShredSdk.Pumpfun.FailedMessages
import ShredSdk.Pumpfun.TransportEvents
import ShredSdk.Instr.PoolsGrammar
import ShredSdk.Lib.Calls
import ShredSdk.Pumpfun.Invocations
import ShredSdk.Fill.Dispatcher
import ShredSdk.Fill.Refill
import ShredSdk.Lib.Bisect
import ShredSdk.Lib.BoundedQueue
import ShredSdk.Lib.Tables
import ShredSdk.Log.BorshPayload
import ShredSdk.Log.DiscriminatorLut
import ShredSdk.Log.InnerAgreement
import ShredSdk.Log.Routers
import ShredSdk.Shred.Capacity
import ShredSdk.Shred.Client
import ShredSdk.Shred.Ledger
import ShredSdk.Stream.Client
import ShredSdk.Stream.Delivery
import ShredSdk.Stream.Receivers
import ShredSdk.Stream.Restarts
