import SmppServer.Gwlib.Number
import SmppServer.Machinery.Sql

/-!
# Dbbox/SqlText — the statements that the database process builds

`dlr_mysql_mis_add`, `dlr_smpp_esme_add` and `dlr_mysql_status_add` paste the fields of a message into an
`INSERT` statement.  Only the content of a message is escaped; addresses, ids and the rest stand between
the quotes as they came, from the account or from the SMSC.

* `sqlText_framed_iff` — the statement has the fields as its values **exactly** if the fields that are
  not escaped have no quote, and backslashes only before `%` and `_`.
-/

namespace SmppServer.SmppDbbox

open Machinery

/-! ## Messages

What the three functions read of their messages.  Numbers are printed, and texts are C strings: a `CText` has no
`NUL` in it. -/

/-- A text without `NUL`. -/
abbrev CText := { s : Octstr // 0 ∉ s }

/-- What `dlr_mysql_mis_add` reads of an `insert_mis` message. -/
structure MisFields where
  accountName : CText
  accountMsgId : CText
  smscId : CText
  smscMsgId : CText
  submitStatus : ℤ
  sourceAddr : CText
  destAddr : CText
  msgContent : CText
  retryValue : ℤ
  udh : CText
  reqTime : CText
  ip : CText

/-- What `dlr_smpp_esme_add` reads of a `smpp_esme` message. -/
structure EsmeFields where
  accountName : CText
  accountMsgId : CText
  submitStatus : ℤ
  sourceAddr : CText
  destAddr : CText
  msgContent : CText
  retryValue : ℤ
  udh : CText
  reqTime : CText
  dndFlag : ℤ
  dataCoding : ℤ
  esmClass : ℤ
  moreMessagesToSend : ℤ

/-- What `dlr_mysql_status_add` reads of an `insert_status` message. -/
structure StatusFields where
  smscId : CText
  smscMsgId : CText
  destAddr : CText
  deliverStatus : ℤ

/-- A message that becomes a row. -/
inductive DbMessage
  | insertMis (msg : MisFields)
  | smppEsme (msg : EsmeFields)
  | insertStatus (msg : StatusFields)

/-- A table of the configuration, with the names of its columns in the order of the statement. -/
structure DbFields where
  table : Octstr
  columns : List Octstr

/-- The three tables. -/
structure DbConfig where
  fieldsMis : DbFields
  fieldsSmppEsme : DbFields
  fieldsStatus : DbFields

/-! ## The statements

The format strings, with the blanks they have.  They are kept as lists of arguments, from which the statement is
printed and its values are read off. -/

/-- `'%s'`. -/
def text (s : CText) : SqlArg := .quoted s.1

/-- `'%s'` with the outcome of `mysql_escape`. -/
def content (s : CText) : SqlArg := .escaped s.1

/-- `'%d'`. -/
def number (n : ℤ) : SqlArg := .quoted (formatLd n)

/-- The names of columns with commas between them, each behind a number of blanks. -/
def columnList : List (ℕ × Octstr) → Octstr
  | [] => []
  | [x] => List.replicate x.1 32 ++ x.2
  | x :: y :: names => List.replicate x.1 32 ++ (x.2 ++ 44 :: columnList (y :: names))

/-- The start of a statement, up to its values. -/
def insertHead (command : String) (blanks : List ℕ) (fields : DbFields) : Octstr :=
  octstrImm command ++ fields.table ++ octstrImm "(" ++ columnList (blanks.zip fields.columns) ++
    octstrImm ") VALUES "

namespace DbMessage

/-- The start of the statement for a message. -/
def head (cfg : DbConfig) : DbMessage → Octstr
  | .insertMis _ => insertHead "INSERT  INTO " [0, 1, 1, 1, 1, 1, 1, 1, 1, 1, 1, 0, 0] cfg.fieldsMis
  | .smppEsme _ => insertHead "INSERT  INTO " [0, 1, 1, 1, 1, 1, 1, 1, 0, 0, 0, 0, 0] cfg.fieldsSmppEsme
  | .insertStatus _ => insertHead "INSERT INTO " [0, 0, 0, 0, 0] cfg.fieldsStatus

/-- The arguments of the format string, with the blanks it has before them. -/
def args : DbMessage → List (ℕ × SqlArg)
  | .insertMis m =>
    [(0, text m.accountName), (0, text m.accountMsgId), (0, text m.smscId), (0, text m.smscMsgId),
      (0, number m.submitStatus), (1, .now), (0, text m.sourceAddr), (0, text m.destAddr),
      (0, content m.msgContent), (1, number m.retryValue), (0, text m.udh), (0, text m.reqTime),
      (0, text m.ip)]
  | .smppEsme m =>
    [(0, text m.accountName), (0, text m.accountMsgId), (0, number m.submitStatus),
      (0, text m.sourceAddr), (0, text m.destAddr), (0, content m.msgContent), (0, number m.retryValue),
      (0, text m.udh), (1, text m.reqTime), (0, number m.dndFlag), (0, number m.dataCoding),
      (0, number m.esmClass), (0, number m.moreMessagesToSend)]
  | .insertStatus m =>
    [(0, text m.smscId), (0, text m.smscMsgId), (0, text m.destAddr), (0, number m.deliverStatus),
      (0, .now)]

/-- The blanks before the semicolon. -/
def endBlanks : DbMessage → ℕ
  | .insertMis _ => 1
  | .smppEsme _ => 1
  | .insertStatus _ => 0

/-- **The statement** that `dlr_mysql_mis_add`, `dlr_smpp_esme_add` or `dlr_mysql_status_add` builds. -/
def sql (cfg : DbConfig) (msg : DbMessage) : Octstr :=
  msg.head cfg ++ 40 :: (valueList msg.args ++ 41 :: (List.replicate msg.endBlanks 32 ++ [59]))

/-- The fields of the message, in the order of the columns; numbers are written in decimal. -/
def values : DbMessage → List SqlValue
  | .insertMis m =>
    [.string m.accountName.1, .string m.accountMsgId.1, .string m.smscId.1, .string m.smscMsgId.1,
      .string (formatLd m.submitStatus), .now, .string m.sourceAddr.1, .string m.destAddr.1,
      .string m.msgContent.1, .string (formatLd m.retryValue), .string m.udh.1, .string m.reqTime.1,
      .string m.ip.1]
  | .smppEsme m =>
    [.string m.accountName.1, .string m.accountMsgId.1, .string (formatLd m.submitStatus),
      .string m.sourceAddr.1, .string m.destAddr.1, .string m.msgContent.1,
      .string (formatLd m.retryValue), .string m.udh.1, .string m.reqTime.1,
      .string (formatLd m.dndFlag), .string (formatLd m.dataCoding), .string (formatLd m.esmClass),
      .string (formatLd m.moreMessagesToSend)]
  | .insertStatus m =>
    [.string m.smscId.1, .string m.smscMsgId.1, .string m.destAddr.1, .string (formatLd m.deliverStatus),
      .now]

/-- The text fields that are pasted without being escaped. -/
def unescaped : DbMessage → List CText
  | .insertMis m =>
    [m.accountName, m.accountMsgId, m.smscId, m.smscMsgId, m.sourceAddr, m.destAddr, m.udh, m.reqTime,
      m.ip]
  | .smppEsme m => [m.accountName, m.accountMsgId, m.sourceAddr, m.destAddr, m.udh, m.reqTime]
  | .insertStatus m => [m.smscId, m.smscMsgId, m.destAddr]

end DbMessage

/-! ## Framing

The lexer and the notion of a safe argument are those of `Machinery/Sql`.  What is particular here is that a
content is safe whatever it is, a number too, and that an unescaped text is exactly if it is plain. -/

theorem plain_of_forall : ∀ {s : Octstr}, (∀ c ∈ s, c ≠ 39 ∧ c ≠ 92) → Plain s
  | [], _ => trivial
  | c :: s, h => by
    obtain ⟨h39, h92⟩ := h c List.mem_cons_self
    exact ⟨h39, fun hc => absurd hc h92, plain_of_forall fun d hd => h d (List.mem_cons_of_mem _ hd)⟩

/-- A number is plain. -/
theorem plain_formatLd (n : ℤ) : Plain (formatLd n) := by
  have hdigits : ∀ c ∈ decimal n.natAbs, c ≠ 39 ∧ c ≠ 92 := by
    intro c hc
    have hdigit := List.all_eq_true.mp (all_gwIsdigit_of_writes (writes_decimal n.natAbs)) c hc
    constructor
    · rintro rfl
      exact absurd hdigit (by decide)
    · rintro rfl
      exact absurd hdigit (by decide)
  rw [formatLd]
  split
  · exact ⟨by decide, fun h => absurd h (by decide), plain_of_forall hdigits⟩
  · exact plain_of_forall hdigits

theorem safe_text_iff (s : CText) : (text s).Safe ↔ Plain s.1 := Iff.rfl

theorem safe_content (s : CText) : (content s).Safe := trivial

theorem safe_number (n : ℤ) : (number n).Safe := plain_formatLd n

theorem safe_now : SqlArg.now.Safe := trivial

theorem DbMessage.args_values (msg : DbMessage) : (msg.args.map fun x => x.2.value) = msg.values := by
  cases msg <;> rfl

/-- The arguments are safe if the unescaped texts are plain. -/
theorem DbMessage.args_safe_iff (msg : DbMessage) :
    (∀ x ∈ msg.args, x.2.Safe) ↔ ∀ s ∈ msg.unescaped, Plain s.1 := by
  cases msg <;>
    simp [DbMessage.args, DbMessage.unescaped, safe_text_iff, safe_content, safe_number, safe_now]

/-- **SQL framing**: the statement is one `INSERT` with the fields of the message as its values exactly
if every unescaped text is plain. -/
theorem sqlText_framed_iff (cfg : DbConfig) (msg : DbMessage) :
    parseInsert (msg.head cfg) msg.args.length (msg.sql cfg) = some msg.values ↔
      ∀ s ∈ msg.unescaped, Plain s.1 := by
  have hne : msg.args ≠ [] := by cases msg <;> simp [DbMessage.args]
  rw [← msg.args_values, ← msg.args_safe_iff]
  exact parseInsert_iff hne

/-- A table with the columns of a status. -/
def sampleStatusTable : DbFields :=
  ⟨octstrImm "status_table",
    [octstrImm "SMSCId", octstrImm "SMSCMsgId", octstrImm "DestinationAddr", octstrImm "DeliveryStat",
      octstrImm "DeliveryTime"]⟩

/-- A status for an address with a quote in it. -/
def sampleStatusAdd : DbMessage :=
  .insertStatus
    { smscId := ⟨octstrImm "smsc-a", by decide⟩
      smscMsgId := ⟨octstrImm "1a2b3c", by decide⟩
      destAddr := ⟨octstrImm "O'Neill", by decide⟩
      deliverStatus := 1 }

/-- The quote ends the literal. -/
theorem not_sqlText_framed :
    ¬ ∀ (cfg : DbConfig) (msg : DbMessage),
      parseInsert (msg.head cfg) msg.args.length (msg.sql cfg) = some msg.values := by
  intro h
  exact absurd (h ⟨sampleStatusTable, sampleStatusTable, sampleStatusTable⟩ sampleStatusAdd)
    (by decide +kernel)

end SmppServer.SmppDbbox
