import AudioLink.Config.Peer
import AudioLink.Log.Config

/-
Everything that is needed to set up a session, as it is stored.
-/
set_option autoImplicit false

namespace AudioLink

/-- Configuration of a session. -/
structure SessionConfig where
  context : ContextConfig := {}
  sender : SenderConfig := {}
  receiver : ReceiverConfig := {}
  log : LogConfig := {}
  deriving DecidableEq, Inhabited

namespace SessionConfig

instance : Form SessionConfig where
  read? d v := do
    let given ← Form.given? d ["context", "sender", "receiver", "log"] v
    let context ← Form.field? d given "context" {}
    let sender ← Form.field? d given "sender" {}
    let receiver ← Form.field? d given "receiver" {}
    let log ← Form.field? d given "log" {}
    return { context, sender, receiver, log }
  write c := .table [
    Form.entry "context" c.context,
    Form.entry "sender" c.sender,
    Form.entry "receiver" c.receiver,
    Form.entry "log" c.log]

end SessionConfig
end AudioLink
