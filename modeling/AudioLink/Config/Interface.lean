import AudioLink.Data.Form
import AudioLink.Error
import AudioLink.Text.Bytes

/-
Options of one interface, applied before it is bound or connected.

The two addresses are handed on to an engine as texts; all that is checked here is that they can be
handed on. Whether they are addresses is for the engine to say.
-/
set_option autoImplicit false

namespace AudioLink

/-- Options of an interface. -/
structure InterfaceConfig where
  /-- Local address to send from; empty for any. -/
  outgoingAddress : String := ""
  /-- Multicast group to join, or to send by; empty for none. -/
  multicastGroup : String := ""
  /-- Whether the port may be shared with other sockets that allow it too. -/
  reuseAddress : Bool := false
  deriving DecidableEq, Repr, Inhabited

namespace InterfaceConfig

/-- Most bytes of an address. -/
def maxAddressLength : Nat := 47

/-- Checks that an address has no zero byte and is not too long. -/
def checkAddress (field : TextField) (address : String) : Except Error Unit :=
  if address.toList.contains '\x00' then .error (.zeroByte field)
  -- The limit is one of bytes, not of characters.
  else if maxAddressLength < address.utf8ByteSize then
    .error (.tooLong field address.utf8ByteSize maxAddressLength)
  else .ok ()

/-- Checks the outgoing address, and then the multicast group. -/
def validate (c : InterfaceConfig) : Except Error Unit :=
  match checkAddress .outgoingAddress c.outgoingAddress with
  | .error e => .error e
  | .ok () => checkAddress .multicastGroup c.multicastGroup

instance : Form InterfaceConfig where
  read? d v := do
    let given ← Form.given? d ["outgoing_address", "multicast_group", "reuse_address"] v
    let outgoingAddress ← Form.field? d given "outgoing_address" ""
    let multicastGroup ← Form.field? d given "multicast_group" ""
    let reuseAddress ← Form.field? d given "reuse_address" false
    return { outgoingAddress, multicastGroup, reuseAddress }
  write c := .table [
    Form.entry "outgoing_address" c.outgoingAddress,
    Form.entry "multicast_group" c.multicastGroup,
    Form.entry "reuse_address" c.reuseAddress]

end InterfaceConfig
end AudioLink
