import SmppServer.Gwlib.CfgBlocks

/-!
# Dbbox/EsmeFile — the configuration file that dbbox writes

dbbox writes the configuration file of smpp-esme from two tables of its database: a `core` group, with the
client addresses of one table, and for each row of the other table an `smpp-client` group.  The texts of a
row are written as they are.
-/

namespace SmppServer

open Machinery

/-- A row of `esme_client_info`, in the order of the query; a column may be `NULL`. -/
structure EsmeClientInfo where
  mode : Option Octstr
  esmeAcc : Option Octstr
  esmePass : Option Octstr
  esmeValidFrom : Option Octstr
  emsValidTo : Option Octstr
  esmeLogFile : Option Octstr
  esmeLogLevel : Option Octstr
  maxSubmitsUncon : Option Octstr
  maxSubmits : Option Octstr
  maxTxSessions : Option Octstr
  maxRxSessions : Option Octstr
  allowSource : Option Octstr
  maxTps : Option Octstr
  dndCheck : Option Octstr
  dedicateSmsc : Option Octstr

/-- `%s`. -/
def percentS (column : Option Octstr) : Octstr := cstr (octstrGetCstr column)

/-- `%d` of an `atoi`; `none` if it reads a `NULL`. -/
def percentAtoi (column : Option Octstr) : Option Octstr := column.map fun s => formatLd (atoi (cstr s))

/-- `strcat` to a buffer of that size; `none` if it is written past its end, or the string is `NULL`. -/
def strcat (size : ℕ) (buffer : Octstr) (s : Option Octstr) : Option Octstr :=
  s.bind fun s =>
    if buffer.length + (cstr s).length < size then some (buffer ++ cstr s) else none

/-- The addresses, each with a semicolon behind it, in `char IP[2022]`. -/
def ipList (rows : List (Option Octstr)) : Option Octstr :=
  rows.foldlM (fun buffer row => (strcat 2022 buffer row).bind fun buffer => strcat 2022 buffer (some [59])) []

/-- The lines of the core group. -/
def coreLines (ip : Octstr) : List Octstr :=
  [ octstrImm "group  = core",
    octstrImm "log-file  = /tmp/server_debug/esme/smpp_esme.log",
    octstrImm "access-log  = /tmp/server_debug/esme/access.log",
    octstrImm "log-level  = 0",
    octstrImm "trans-mode-port  = 3000",
    octstrImm "recv-mode-port  = 4000",
    octstrImm "transrecv-mode-port  = 5000",
    octstrImm "admin-port  = 34000",
    octstrImm "admin-password =foobar",
    octstrImm "connect-allow-ip  =\"" ++ ip ++ octstrImm "\"",
    octstrImm "gsm-series  = \"98;99\"",
    octstrImm "cdma-series  = \"92\"",
    octstrImm "dbbox-host  = \"localhost\"",
    octstrImm "dbbox-port  = 20000",
    octstrImm "dbbox-reconnect-delay=5",
    octstrImm "smsc-host=localhost",
    octstrImm "smsc-reverse-port=22000",
    octstrImm "smsc-forward-port=21000",
    octstrImm "smsc-reconnect-delay=5",
    octstrImm "smsc-unconnect-q-limit = -1",
    octstrImm "dbbox-unconnect-q-limit=6",
    octstrImm "dbbox-ping-delay = 10",
    octstrImm "dbbox-pingack-timeout = 30",
    octstrImm "smsc-ping-delay = 10",
    octstrImm "smsc-pingack-timeout = 20",
    octstrImm "log-file-size = 10",
    octstrImm "log-interval = 60" ]

/-- The lines of a row, behind the empty line; `none` if a number of it is `NULL`. -/
def rowLines (row : EsmeClientInfo) : Option (List Octstr) := do
  let logLevel ← percentAtoi row.esmeLogLevel
  let maxSubmitsUncon ← percentAtoi row.maxSubmitsUncon
  let maxSubmits ← percentAtoi row.maxSubmits
  let maxTxSessions ← percentAtoi row.maxTxSessions
  let maxRxSessions ← percentAtoi row.maxRxSessions
  let maxTps ← percentAtoi row.maxTps
  let dndCheck ← percentAtoi row.dndCheck
  return [
    octstrImm "group  = smpp-client",
    octstrImm "mode  = " ++ percentS row.mode,
    octstrImm "account-name  = " ++ percentS row.esmeAcc,
    octstrImm "password  = " ++ percentS row.esmePass,
    octstrImm "validfrom  = " ++ percentS row.esmeValidFrom,
    octstrImm "validto  = " ++ percentS row.emsValidTo,
    octstrImm "log-file  = " ++ percentS row.esmeLogFile,
    octstrImm "log-level  = " ++ logLevel,
    octstrImm "max-submits-unconnect  = " ++ maxSubmitsUncon,
    octstrImm "max-submits  = " ++ maxSubmits,
    octstrImm "max-tx-sessions  = " ++ maxTxSessions,
    octstrImm "max-rx-sessions  = " ++ maxRxSessions,
    octstrImm "max-rx-sessions  = " ++ maxRxSessions] ++
    (if row.allowSource.isSome then [octstrImm "account-allow-prefix  = " ++ percentS row.allowSource] else []) ++ [
    octstrImm "max-tps = " ++ maxTps,
    octstrImm "dnd-check = " ++ dndCheck,
    octstrImm "dedicated-smsc  = " ++ percentS row.dedicateSmsc]

/-- What becomes of the file. -/
inductive FileUpdate
  | unchanged
  | written (contents : Octstr)
  | fault
  deriving DecidableEq, Repr

/-- **`esme_file_update`**: the answers to the two queries, which may fail, and whether the file can be
opened. -/
def esmeFileUpdate (ips : Option (List (Option Octstr))) (rows : Option (List EsmeClientInfo))
    (fopen : Bool) : FileUpdate :=
  match ips with
  | none => .unchanged
  | some ips =>
    match ipList ips with
    | none => .fault
    | some ip =>
      match rows with
      | none => .unchanged
      | some [] => .unchanged
      | some rows =>
        if fopen then
          match rows.mapM rowLines with
          | none => .fault
          | some groups =>
            .written ((coreLines ip ++ groups.flatMap fun lines => [] :: lines).flatMap fun line => line ++ [10])
        else .unchanged

end SmppServer
