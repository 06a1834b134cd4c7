import TrishulSnmp.Wire.Message

namespace TrishulSnmp

open Outcome Wire

structure CommunityModel where
  community : String
  deriving DecidableEq, Repr

def CommunityModel.wrapPdu (model : CommunityModel) (pdu : Pdu) : Except Error Bytes :=
  encodeMessage { version := 1, community := model.community, pdu := pdu }

def CommunityModel.unwrapMessage (model : CommunityModel) (data : Bytes) : Except Error (Option Pdu) := do
  let message ← decodeMessage data
  if message.community ≠ model.community then return none else return some message.pdu

theorem CommunityModel.unwrapMessage_ok {model : CommunityModel} {data : Bytes} {message : SnmpMessage}
    (hdecode : decodeMessage data = .ok message) (hcommunity : message.community = model.community) :
    model.unwrapMessage data = .ok (some message.pdu) := by
  rw [CommunityModel.unwrapMessage, hdecode, ok_bind, if_neg (not_not.mpr hcommunity)]
  rfl

end TrishulSnmp
