import Ekaette.Lib.PyStr

set_option autoImplicit false

/-! # SIP messages

`sip_bridge/sip_tls.py` (the parsed message), and the response builders of
`sip_bridge/wa_server_helpers.py` and `sip_bridge/wa_sip_client.py`. Random tags are arguments. -/

namespace Ekaette

/-- A parsed message; header names are normalized. -/
structure SipMessage where
  firstLine : String
  headers : Dict String String
  body : String

variable (msg : SipMessage)

/-- `headers.get(name, "")`. -/
def SipMessage.header (name : String) : String := msg.headers.getD name ""

/-- `is_request`. -/
def SipMessage.isRequest : Bool :=
  !"SIP/".toList.isPrefixOf msg.firstLine.toList

/-- `method`. -/
def SipMessage.method : Option String :=
  if msg.isRequest then some (String.ofList (msg.firstLine.toList.takeWhile (· ≠ ' '))) else none

/-- `resolve_call_id`. -/
def resolveCallId : Option String :=
  let wacid := PyStr.strip (msg.header "x-wa-meta-wacid")
  if wacid ≠ "" then some wacid
  else
    let callId := PyStr.strip (msg.header "call-id")
    if callId = "" then none else some callId

/-- `resolve_call_id(headers) or headers.get("call-id", "")`. -/
def SipMessage.callId : String := (resolveCallId msg).getD (msg.header "call-id")

/-! ## Responses -/

/-- `_ensure_to_tag`. -/
def ensureToTag (toHeader tag : String) : String :=
  if toHeader = "" ∨ PyStr.contains ";tag=" toHeader then toHeader else toHeader ++ ";tag=" ++ tag

/-- `_add_tag_to_to_header`. -/
def addTagToToHeader (toHeader tag : String) : String :=
  if PyStr.contains ";tag=" toHeader then toHeader else toHeader ++ ";tag=" ++ tag

/-- `build_transaction_response`; `localTag` is the tag it adds, if it adds one. -/
def buildTransactionResponse (statusCode : ℕ) (reason : String)
    (callId localTag : Option String) : SipMessage where
  firstLine := "SIP/2.0 " ++ toString statusCode ++ " " ++ reason
  headers := Dict.ofList
    [ ("via", msg.header "via"), ("from", msg.header "from"),
      ("to", match localTag with
        | none => msg.header "to"
        | some tag => ensureToTag (msg.header "to") tag),
      ("call-id", callId.getD (msg.header "call-id")), ("cseq", msg.header "cseq"),
      ("content-length", "0") ]
  body := ""

/-- `build_200_ok`. -/
def build200Ok (invite : SipMessage) (sdpBody localContact tag : String) : SipMessage where
  firstLine := "SIP/2.0 200 OK"
  headers := Dict.ofList
    [ ("via", invite.header "via"), ("from", invite.header "from"),
      ("to", addTagToToHeader (invite.header "to") tag), ("call-id", invite.header "call-id"),
      ("cseq", invite.header "cseq"), ("contact", localContact),
      ("content-type", "application/sdp"), ("content-length", toString sdpBody.length) ]
  body := sdpBody

end Ekaette
