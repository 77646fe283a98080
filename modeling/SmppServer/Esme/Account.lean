import SmppServer.Esme.SmscList

/-!
# Esme/Account — the configured accounts

The `smpp-client` groups of the configuration file, and the look-ups that authentication makes in
them.  `create_onetrans` refuses a group without account name, password, mode, start or expiry date,
so these are plain values here; the other strings may be absent.  Dates are texts, converted by
`strptime` and `mktime` in the server's time zone — the parameter `toSeconds` of `Clock`.
-/

namespace SmppServer.SmppEsme

/-- `Smsc_Client`: one account of the configuration file. -/
structure SmscClient where
  accountName : Octstr
  password : Octstr
  validfrom : Octstr
  validto : Octstr
  /-- `1` TX, `2` RX, `3` TRX, `4` TX with receivers allowed -/
  allowedMode : ℤ
  logFile : Option Octstr := none
  rxLogFile : Option Octstr := none
  logLevel : ℤ := 0
  logIdx : ℤ := -1
  rxLogIdx : ℤ := -1
  allowedPrefix : Option Octstr := none
  deniedPrefix : Option Octstr := none
  dedicatedSmsc : Option Octstr := none
  preferredSmsc : Option (List Octstr) := none
  enquireLinkInterval : ℤ := 30
  maxSubmitsUnconnect : ℤ := -1
  maxSubmits : ℤ := -1
  maxTps : ℤ := -1
  maxTxSessions : ℤ := -1
  maxRxSessions : ℤ := -1
  validTimeFrom : ℤ := -1
  validTimeTo : ℤ := -1
  dndsCheck : ℤ := 0
  deriving DecidableEq, Repr

/-- `smpp_client_find_username`: the first account of that name.  The name is asserted to be
present. -/
def smppClientFindUsername (trans : List SmscClient) (name : Option Octstr) :
    Except Fault (Option SmscClient) :=
  match name with
  | none => .error (.gwAssert "name != NULL")
  | some name => .ok (trans.find? fun t => name = t.accountName)

@[simp] theorem smppClientFindUsername_some (trans : List SmscClient) (name : Octstr) :
    smppClientFindUsername trans (some name) = .ok (trans.find? fun t => name = t.accountName) :=
  rfl

/-! ## Dates

What is read of a date depends on the time zone, so the conversion is a field of `Clock`; a date that cannot be
read counts as the beginning of 1970 there too. -/

/-- What the server reads off the clock and the C library: the current time, and the conversion of a `%d/%m/%Y
%H:%M:%S` text to seconds (`0` when it does not parse), over a structure that is not initialised; `isdst1` and
`isdst3` are what its `tm_isdst` holds in the two calls of `compare_date`. -/
structure Clock where
  now : ℤ
  isdst1 : ℤ
  isdst3 : ℤ
  toSeconds : ℤ → Octstr → ℤ

/-- `Date_Result`. -/
inductive DateResult
  | yourAccountIsValid
  | yourAccountIsNotValid
  | yourAccountWillValidAfterSometime
  | invalidDate
  deriving DecidableEq, Repr

/-- `compare_date`: the current time against the account's start and expiry dates. -/
def compareDate (clock : Clock) (date1 date3 : Option Octstr) : DateResult :=
  match date1, date3 with
  | some date1, some date3 =>
    let d1 := clock.toSeconds clock.isdst1 date1
    let d3 := clock.toSeconds clock.isdst3 date3
    let d2 := clock.now
    if d2 < d1 then .yourAccountWillValidAfterSometime
    else if d2 > d3 then .yourAccountIsNotValid
    else if d3 < d1 then .invalidDate
    else .yourAccountIsValid
  | _, _ => .yourAccountIsValid

/-- `check_smsc_conn`: `0` for an unknown account, otherwise what `is_smsc_present` says. -/
def checkSmscConn (trans : List SmscClient) (smscList : List SmscConnList)
    (username : Option Octstr) : ℤ :=
  match username with
  | none => 0
  | some name =>
    match trans.find? fun t => name = t.accountName with
    | none => 0
    | some _ => isSmscPresent smscList

end SmppServer.SmppEsme
