import AudioLink.Data.Form
import AudioLink.Endpoint.Basic
import AudioLink.Interface

/-
How protocols, interfaces, slots and endpoints stand in structured data.

A protocol and an interface are choices, with labels of their own that differ from the names shown
to a user; a slot is its number.
-/
set_option autoImplicit false

namespace AudioLink

instance : Labelled Protocol where
  all := Protocol.all
  label
    | .rtsp => "rtsp"
    | .rtp => "rtp"
    | .rtpRs8mSource => "rtp_rs8m_source"
    | .rs8mRepair => "rs8m_repair"
    | .rtpLdpcSource => "rtp_ldpc_source"
    | .ldpcRepair => "ldpc_repair"
    | .rtcp => "rtcp"
  find?_label p := by cases p <;> decide

instance : Labelled Interface where
  all := Interface.all
  label
    | .consolidated => "consolidated"
    | .audioSource => "audio_source"
    | .audioRepair => "audio_repair"
    | .audioControl => "audio_control"
  find?_label i := by cases i <;> decide

instance : Form Slot where
  read? d v := (Form.read? d v).map Slot.mk
  write slot := Form.write slot.index

instance : Form Endpoint where
  read? d v := do
    let given ← Form.given? d ["protocol", "host", "port", "resource"] v
    let protocol ← Form.field? d given "protocol" none
    let host ← Form.field? d given "host" ""
    let port ← Form.field? d given "port" Endpoint.portUnspecified
    let resource ← Form.field? d given "resource" ""
    return { protocol, host, port, resource }
  write e := .table [
    Form.entry "protocol" e.protocol,
    Form.entry "host" e.host,
    Form.entry "port" e.port,
    Form.entry "resource" e.resource]

end AudioLink
