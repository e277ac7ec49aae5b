import BbAuth.AssuanCodec
import BbAuth.ConfirmMode
import BbAuth.ErrorReplies
import BbAuth.EventGrammar
import BbAuth.FlowTimers
import BbAuth.PinentryRecovery
import BbAuth.PinentryReports
import BbAuth.PolkitRuns
import BbAuth.ProviderAuthority
import BbAuth.RequestLedger
import BbAuth.ResponseRouting
import BbAuth.KeyringOutcome
import BbAuth.Framing
import BbAuth.WindowPrompts
import BbAuth.StoreAgreement
import BbAuth.HandOver
import BbAuth.Departures
import BbAuth.KeyringWithdrawal
import BbAuth.WindowTyping
import BbAuth.DelayedClears
import BbAuth.Replays
import BbAuth.PolkitAnswers
import BbAuth.FallbackCalls
import BbAuth.NextQueue
import BbAuth.ClientPruning
import BbAuth.FlowCookies
import BbAuth.Election
import BbAuth.TextNormalize
import BbAuth.DetailExcerpt
import BbAuth.PromptModel
import BbAuth.PassphrasePrompts
import BbAuth.PercentDecoding
import BbAuth.ClosingOrder
import BbAuth.AssuanReplies
import BbAuth.ClientBuffer
import BbAuth.RetryCounters
import BbAuth.PolkitResults
import BbAuth.NormalForms
import BbAuth.RequestContext
import BbAuth.Bootstrap
import BbAuth.ClientPicture
import BbAuth.RequestTally
import BbAuth.ClientReplies
import BbAuth.Library.Symmetry
import BbAuth.Blanking
import BbAuth.Decisions
import BbAuth.PinentryPrompts
import BbAuth.RequestCalls
import BbAuth.Requestors
import BbAuth.Library.Backoff
import BbAuth.Reconnection
import BbAuth.KeyringPrompter
import BbAuth.PrompterLoop
import BbAuth.Announcements
import BbAuth.Station
import BbAuth.WindowAnswers
import BbAuth.AtRest
import BbAuth.PinentryTexts
import BbAuth.StateReport
