import SmppServer.Gwlib.Number

/-!
# Smsc/MsgId — the SMSC's message id, normalised

SMSCs write one message id in hexadecimal in one PDU and in decimal in another.  Depending on
`msg-id-type` the SMSC process reads an id with `strtoll` in the base prescribed for that PDU and
writes it back with `%lu`, so that the records of both PDUs carry the same key.
-/

namespace SmppServer.SmppSmsc

/-- The id kept from a `submit_sm_resp`.  A missing id is printed as `(null)`; testing its digits
fails an assertion, the outer `none`. -/
def submitSmRespMsgId (smppMsgIdType : ℤ) (messageId : Option Octstr) : Option (Option Octstr) :=
  let cstr := messageId.getD (octstrImm "(null)")
  if smppMsgIdType = -1 then some messageId
  else if smppMsgIdType.toNat.testBit 0 then some (some (formatLu (strtoll 16 cstr)))
  else match messageId with
    | none => none
    | some id =>
      if id.all gwIsdigit then some (some (formatLu (strtoll 10 id)))
      else some (some (formatLu (strtoll 16 id)))

end SmppServer.SmppSmsc
