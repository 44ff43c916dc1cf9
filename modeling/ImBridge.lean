import ImBridge.Bridge.KeyAgreement
import ImBridge.Bridge.AtMostOnce
import ImBridge.Bridge.HonestResult
import ImBridge.Bridge.CompressTargets
import ImBridge.Bridge.LocalRefusal
import ImBridge.Telegram.Offsets
import ImBridge.Telegram.Processed
import ImBridge.Telegram.BindCodes
import ImBridge.Telegram.OnePoller
import ImBridge.Clock
import ImBridge.Bridge.QueryNormalForm
import ImBridge.Telegram.PanelSlots
import ImBridge.Telegram.PanelRevisions
import ImBridge.Telegram.CallbackTokens
import ImBridge.Telegram.BoundPanels
import ImBridge.Telegram.PanelSelection
import ImBridge.Bridge.RedactedPaths
import ImBridge.Telegram.FrozenTargets
import ImBridge.Bridge.NonceWindow
import ImBridge.Characters.CardRoundTrip
import ImBridge.Bridge.RecoveryPages
import ImBridge.Identity.Login
import ImBridge.Migration.ExportRoundTrip
import ImBridge.Locks.Exclusion
import ImBridge.Adapters.Generation
import ImBridge.Adapters.SseGrammar
import ImBridge.Bridge.WrittenTexts
