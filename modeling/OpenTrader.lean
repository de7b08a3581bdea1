import OpenTrader.Oms.ReconcileTwice
import OpenTrader.Oms.Redelivery
import OpenTrader.Oms.Equity
import OpenTrader.Oms.FillOrder
import OpenTrader.Oms.Consumption
import OpenTrader.Oms.ModeIsolation
import OpenTrader.Oms.BreakerDeadline
import OpenTrader.Oms.Observation
import OpenTrader.Oms.OrderLimit
import OpenTrader.Oms.RiskPolicy
import OpenTrader.Oms.StoreRefinement
import OpenTrader.Worker.Terminal
import OpenTrader.Worker.Identity
import OpenTrader.Worker.Notional
import OpenTrader.Worker.Fees
import OpenTrader.Worker.Capacity
import OpenTrader.Execution.Accounting
import OpenTrader.Execution.ConcurrentDispatch
import OpenTrader.Execution.DeliveryLoop
import OpenTrader.Agent.Cycle
import OpenTrader.Agent.ReplayOrder
import OpenTrader.Agent.ShortTermMemory
import OpenTrader.Ingestion.BookSync
import OpenTrader.Ingestion.Sequence
import OpenTrader.Ingestion.Kline
import OpenTrader.Simulation.LimitOrders
import OpenTrader.Simulation.PositionLimit
import OpenTrader.Simulation.Duplicates
import OpenTrader.Api.OrderGate
import OpenTrader.Api.ClosingOrder
import OpenTrader.Api.ClientOrderIds
import OpenTrader.Api.ControlReplies
import OpenTrader.Api.RefreshTokens
import OpenTrader.Api.RateLimiter
import OpenTrader.Api.ModeControl
import OpenTrader.Notification.Dispatch
import OpenTrader.Notification.Telegram
import OpenTrader.Notification.Bridge
import OpenTrader.Llm.DailyTokens
import OpenTrader.Runtime.TopicBroker
import OpenTrader.News.Completeness
import OpenTrader.Tasks.DailyRollup
