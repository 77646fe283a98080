import SmppServer.Gwlib.Base

/-!
# Esme/SmscList — the ESME process's view of the SMSC connections

The SMSC process announces its connections over the reverse connection; the ESME process mirrors
them in `smsc_list`.  A `no_of_smsc` message carries the number announced and restarts the list, an
`info_smsc` message is appended while entries are missing and afterwards updates the entry with the
same id.
-/

namespace SmppServer.SmppEsme

/-- An entry of `smsc_list`. -/
structure SmscConnList where
  smscId : Octstr
  connStatus : ℤ
  smscType : Octstr
  connMode : ℤ
  deriving DecidableEq, Repr

/-- The payload of an `info_smsc` message. -/
structure InfoSmsc where
  smscId : Octstr
  connStatus : ℤ
  smscType : Octstr
  connMode : ℤ
  deriving DecidableEq, Repr

/-- `smsc_conn_create`: every field is copied from the message. -/
def smscConnCreate (msg : InfoSmsc) : SmscConnList :=
  ⟨msg.smscId, msg.connStatus, msg.smscType, msg.connMode⟩

/-- `prepare_smsc_list`: append an entry made from the message. -/
def prepareSmscList (smscList : List SmscConnList) (msg : InfoSmsc) : List SmscConnList :=
  smscList ++ [smscConnCreate msg]

/-- `update_smsc_list`: the status of the first entry with the message's id. -/
def updateSmscList : List SmscConnList → InfoSmsc → List SmscConnList
  | [], _ => []
  | c :: cs, msg =>
    if msg.smscId = c.smscId then { c with connStatus := msg.connStatus } :: cs
    else c :: updateSmscList cs msg

/-- An update never touches the ids: positions keep naming the same SMSC. -/
@[simp] theorem updateSmscList_map_smscId (l : List SmscConnList) (msg : InfoSmsc) :
    (updateSmscList l msg).map (·.smscId) = l.map (·.smscId) := by
  induction l with
  | nil => rfl
  | cons c cs ih =>
    rw [updateSmscList]
    split
    · rfl
    · rw [List.map_cons, List.map_cons, ih]

@[simp] theorem prepareSmscList_map_smscId (l : List SmscConnList) (msg : InfoSmsc) :
    (prepareSmscList l msg).map (·.smscId) = l.map (·.smscId) ++ [msg.smscId] := by
  simp [prepareSmscList, smscConnCreate]

/-- `smsc_list` with the static variables of `handle_request`: the number of SMSCs announced, and the
index of the last entry received. -/
structure SmscData where
  totalSmsc : ℤ := -1
  smscDataRecieved : ℤ := -1
  smscList : List SmscConnList := []
  deriving DecidableEq, Repr

/-- `handle_request` on a `no_of_smsc` message: the list starts anew. -/
def handleNoOfSmsc (noOfSmsc : ℕ) : SmscData :=
  { totalSmsc := noOfSmsc, smscDataRecieved := -1, smscList := [] }

/-- `handle_request` on an `info_smsc` message: appended while entries are missing, then an update. -/
def handleInfoSmsc (d : SmscData) (msg : InfoSmsc) : SmscData :=
  if d.smscDataRecieved < d.totalSmsc - 1 then
    { d with
      smscDataRecieved := d.smscDataRecieved + 1
      smscList := prepareSmscList d.smscList msg }
  else { d with smscList := updateSmscList d.smscList msg }

/-- All SMSCs announced have been received. -/
def SmscData.Gathered (d : SmscData) : Prop := d.smscDataRecieved = d.totalSmsc - 1

instance (d : SmscData) : Decidable d.Gathered := inferInstanceAs (Decidable (_ = _))

/-- The entry can transmit: it is bound in transmitter or transceiver mode. -/
def SmscConnList.transmits (c : SmscConnList) : Bool := c.connMode == 1 || c.connMode == 3

/-- `is_smsc_present`: `0` without an SMSC in transmitter or transceiver mode, `1` when there are
such SMSCs and none is connected, `2` when one is connected. -/
def isSmscPresent (smscList : List SmscConnList) : ℤ :=
  if smscList.any fun c => c.transmits && c.connStatus == 1 then 2
  else if smscList.any (·.transmits) then 1
  else 0

end SmppServer.SmppEsme
