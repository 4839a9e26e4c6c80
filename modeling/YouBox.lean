import YouBox.BillingCalls
import YouBox.Overdraw
import YouBox.SubTx
import YouBox.LeaseRecovery
import YouBox.SunoRefund
import YouBox.MjFail
import YouBox.SpendRun
import YouBox.Redeem
import YouBox.SubBounds
import YouBox.ClaudeContent
import YouBox.Checkin
import YouBox.TwoFA
import YouBox.AgentCode
import YouBox.AgentRevoke
import YouBox.Balances
import YouBox.UsageData
import YouBox.AbilityMirror
import YouBox.ChatStreamGrammar
import YouBox.ResponsesLossless
import YouBox.TextFormula
import YouBox.ResetLands
import YouBox.RequestLimits
import YouBox.GroupRetry
import YouBox.MemoryLimiter
import YouBox.Distributor
import YouBox.RegisteredConfigs
import YouBox.TokenBucket
import YouBox.ReserveRun
import YouBox.TaskSettle
import YouBox.WeightedChoice
import YouBox.ModelRetry
import YouBox.TaskSync
import YouBox.VolcengineLengths
import YouBox.ResponsesItems
import YouBox.ConverterPanics
import YouBox.ClaudeReplies
import YouBox.MarkdownImages
import YouBox.GeminiReplies
import YouBox.GeminiStream
import YouBox.CacheBuild
import YouBox.UsageTrip
import YouBox.KeyPolling
import YouBox.ChannelAffinity
import YouBox.FetchProtection
import YouBox.AdvancedCustom
import YouBox.Authz
import YouBox.EpayOrder
import YouBox.GeminiSchema
import YouBox.OrderLock
import YouBox.StatusCodes
import YouBox.UpstreamApply
import YouBox.StreamScanner
import YouBox.AppUsage
import YouBox.BatchLoss
import YouBox.CompileCache
import YouBox.Verification
