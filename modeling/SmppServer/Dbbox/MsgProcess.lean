import SmppServer.Dbbox.Dnd
import SmppServer.Machinery.Ledger

/-!
# Dbbox/MsgProcess — the loops over `process_table`, statement by statement

Every admin message 808 starts one more loop of `msg_process`, and none is ever stopped.  A loop asks
for the rows with `read_flag = 0`, and then takes the rows of the answer one by one: it sends the row
to the SMSC process, or writes an MIS row and generates a receipt, and only then marks the row.  A row
between the query and its mark is therefore given to any other loop that asks.

Here each SQL statement and each send is a step of its own, and rows are told apart by their position
in the table, since ids may repeat.

* `Processing.processedOnce_of_alone` — in every run in which no loop asks while another still has an
  unmarked row, each row is forwarded at most once and gets at most one receipt.
* `exec_forward`, `handleInsertStatus_dndDeliverSmGenerate` — undisturbed, the steps are those of
  `msgProcessStep` and of `handle_request` on an `insert_status` message.
-/

namespace SmppServer.SmppDbbox

open Machinery SmppEsme

/-! ## A loop

From the place where a loop is it can be read which rows it will still send, and which row it has sent and is
about to mark: `ahead`, `inHand` and `held` are all that the invariant knows of a loop. -/

/-- A row of the answer to the query of `msg_process`, with the two dates formatted by the query, and
the position of the row in the table. -/
structure Fetched where
  row : ProcessRow
  submitDate : Octstr
  doneDate : Octstr
  position : ℕ
  deriving DecidableEq, Repr

/-- Where a loop of `msg_process` is: before its query, at `mysql_fetch_row` with the rows it has still
to fetch, behind one of the statements for a row of a listed number, behind the send for a row and
before its UPDATE, or returned. -/
inductive MsgProcess
  | waiting
  | fetching (rows : List Fetched)
  | inserted (f : Fetched) (rows : List Fetched)
  | statusAdded (f : Fetched) (rows : List Fetched)
  | found (f : Fetched) (resultMsg : ValuesGot) (rows : List Fetched)
  | sent (f : Fetched) (rows : List Fetched)
  | returned
  deriving DecidableEq, Repr

namespace MsgProcess

/-- The rows that a loop has still to send, or to answer with a receipt. -/
def ahead : MsgProcess → List Fetched
  | waiting | returned => []
  | fetching rows | sent _ rows => rows
  | inserted f rows | statusAdded f rows | found f _ rows => f :: rows

/-- The row that a loop has sent and not yet marked. -/
def inHand : MsgProcess → List Fetched
  | sent f _ => [f]
  | _ => []

/-- The rows that a loop has not yet marked. -/
def held (l : MsgProcess) : List Fetched := l.inHand ++ l.ahead

end MsgProcess

/-! ## Runs

The table is a list, and the position of a row in it is the row's identity: ids may repeat, and the `UPDATE`
marks every row with the id. -/

/-- The loops and the tables they work on, with what was sent to the SMSC process and to the ESME
process for the rows, each with the row's position. -/
structure Processing where
  box : Dbbox
  processTable : List ProcessRow := []
  misTable : List MisRow := []
  loops : List MsgProcess := []
  submits : List (DndSubmit × ℕ) := []
  receipts : List (ValuesGot × ℕ) := []
  deriving DecidableEq

/-- What happens: `checker` inserts a row; anything else in the database process; an admin message 808;
a loop queries, and the query fails or is answered; it fetches a row and executes the first statement
for it; the statements of a receipt; the UPDATE; and a restart of the database process. -/
inductive ProcessEvent
  | checker (listed : Bool) (row : EsmeRow)
  | dbbox (box : Dbbox) (misTable : List MisRow)
  | admin808
  | mysqlSelect (k : ℕ) (answer : Option (List Fetched))
  | mysqlFetchRow (k : ℕ) (now : Octstr) (done : Bool)
  | dlrStatusAdd (k : ℕ)
  | dlrFind (k : ℕ) (answer : Option (List MisRow))
  | sendResult (k : ℕ)
  | mysqlUpdate (k : ℕ) (done : Bool)
  | restart
  deriving DecidableEq

/-- The row of the MIS table for a listed number. -/
def dndMisRow (row : ProcessRow) : MisRow where
  accountName := row.esmeAccName
  accountMsgId := row.esmeAccMsgId
  smscId := octstrImm "MAX"
  smscMsgId := row.esmeAccMsgId

/-- The result of a look-up as it is put on the send list of the ESME process. -/
def resultFor (client : EsmeProcessClient) (pdu : Option Octstr) (resultMsg : ValuesGot) : ValuesGot :=
  if client.connId.isSome then { resultMsg with pdu := pdu } else resultMsg

/-- The end of `dnd_deliver_sm_generate`: the result goes to the ESME process, if there is one. -/
def appendResult (box : Dbbox) (pdu : Option Octstr) (resultMsg : ValuesGot) : Dbbox :=
  match box.esmeProcessClient with
  | none => box
  | some client =>
    { box with
      esmeProcessClient :=
        some { client with sendList := client.sendList ++ [resultFor client pdu resultMsg] } }

/-- The UPDATE that marks the rows with the id. -/
def markRead (esmeAccMsgId : Octstr) (table : List ProcessRow) : List ProcessRow :=
  updateWhere (fun r => r.esmeAccMsgId = esmeAccMsgId) (fun r => { r with readFlag := 1 }) table

section Steps

variable (text : TextLib)

/-- The `insert_status` message that is built for a row. -/
def Fetched.receipt (f : Fetched) : InsertStatus :=
  dndDeliverSmGenerate text f.submitDate f.doneDate f.row

/-- Loop `k` goes on. -/
def Processing.setLoop (s : Processing) (k : ℕ) (l : MsgProcess) : Processing :=
  { s with loops := s.loops.set k l }

/-- The loop fetches the next row.  The row of a number that is not listed is sent, if the SMSC process
is there to take it; for another one an MIS row is inserted first. -/
def fetchRow (s : Processing) (k : ℕ) (now : Octstr) (done : Bool) (f : Fetched)
    (rows : List Fetched) : Processing :=
  if f.row.dnd = 0 then
    { s.setLoop k (.sent f rows) with
      submits := if done then s.submits ++ [(dndSubmit text now f.row, f.position)] else s.submits }
  else
    { s.setLoop k (.inserted f rows) with
      misTable := if done then s.misTable ++ [dndMisRow f.row] else s.misTable }

/-- The loop sends the receipt for a row. -/
def sendReceipt (s : Processing) (k : ℕ) (f : Fetched) (resultMsg : ValuesGot)
    (rows : List Fetched) : Processing :=
  let pdu := (f.receipt text).pdu
  { s.setLoop k (.sent f rows) with
    box := appendResult s.box pdu resultMsg
    receipts :=
      match s.box.esmeProcessClient with
      | none => s.receipts
      | some client => s.receipts ++ [(resultFor client pdu resultMsg, f.position)] }

/-- **One step.** -/
def processStep (s : Processing) : ProcessEvent → Option Processing
  | .checker listed row => some { s with processTable := s.processTable ++ [checkerInsert listed row] }
  | .dbbox box misTable => some { s with box := box, misTable := misTable }
  | .admin808 => some { s with loops := s.loops ++ [.waiting] }
  | .mysqlSelect k none =>
    if s.loops[k]? = some .waiting ∧ s.box.esmeProcessClient.isSome then
      some (s.setLoop k .returned)
    else none
  | .mysqlSelect k (some rows) =>
    if s.loops[k]? = some .waiting ∧ s.box.esmeProcessClient.isSome ∧
        (rows.map fun f => (f.row, f.position)).Perm
          (s.processTable.zipIdx.filter fun p => p.1.readFlag = 0) then
      some (s.setLoop k (.fetching rows))
    else none
  | .mysqlFetchRow k now done =>
    match s.loops[k]? with
    | some (.fetching []) => some (s.setLoop k .waiting)
    | some (.fetching (f :: rows)) => some (fetchRow text s k now done f rows)
    | _ => none
  | .dlrStatusAdd k =>
    match s.loops[k]? with
    | some (.inserted f rows) => some
        { s.setLoop k (.statusAdded f rows) with box := dlrStatusAdd s.box (f.receipt text) }
    | _ => none
  | .dlrFind k answer =>
    match s.loops[k]? with
    | some (.statusAdded f rows) =>
      if ∀ found ∈ answer, found.Perm (s.misTable.filter fun r => r.smscMsgId = f.row.esmeAccMsgId) then
        some (s.setLoop k (.found f
          (dlrFind s.box.handles (fun _ => answer) f.row.destinationAddr f.row.esmeAccMsgId) rows))
      else none
    | _ => none
  | .sendResult k =>
    match s.loops[k]? with
    | some (.found f resultMsg rows) => some (sendReceipt text s k f resultMsg rows)
    | _ => none
  | .mysqlUpdate k done =>
    match s.loops[k]? with
    | some (.sent f rows) => some
        { s.setLoop k (.fetching rows) with
          processTable :=
            if done then markRead f.row.esmeAccMsgId s.processTable else s.processTable }
    | _ => none
  | .restart => some { s with loops := [] }

end Steps

/-- The row at the position is marked. -/
def Processing.Marked (s : Processing) (i : ℕ) : Prop := ∃ row ∈ s.processTable[i]?, row.readFlag ≠ 0

instance (s : Processing) (i : ℕ) : Decidable (s.Marked i) :=
  inferInstanceAs (Decidable (∃ row ∈ s.processTable[i]?, row.readFlag ≠ 0))

/-- **Each row is processed once**: it is forwarded to the SMSC process at most once, and gets at most
one receipt. -/
structure Processing.ProcessedOnce (s : Processing) : Prop where
  submits : ∀ i, (s.submits.map Prod.snd).count i ≤ 1
  receipts : ∀ i, (s.receipts.map Prod.snd).count i ≤ 1

/-- **A loop is alone with its rows**: a query is made only while all rows that loops have not yet marked
themselves are marked, an UPDATE succeeds, and a restart leaves no row that is sent and not yet
marked. -/
def Alone (s : Processing) : ProcessEvent → Prop
  | .mysqlSelect _ _ => ∀ l ∈ s.loops, ∀ f ∈ l.held, s.Marked f.position
  | .mysqlUpdate _ done => done = true
  | .restart => ∀ l ∈ s.loops, l.inHand = []
  | _ => True

instance (s : Processing) : ∀ e, Decidable (Alone s e)
  | .mysqlSelect _ _ =>
    inferInstanceAs (Decidable (∀ l ∈ s.loops, ∀ f ∈ l.held, s.Marked f.position))
  | .mysqlUpdate _ done => inferInstanceAs (Decidable (done = true))
  | .restart => inferInstanceAs (Decidable (∀ l ∈ s.loops, l.inHand = []))
  | .checker _ _ | .dbbox _ _ | .admin808 | .mysqlFetchRow _ _ _ | .dlrStatusAdd _ | .dlrFind _ _
  | .sendResult _ => .isTrue trivial

/-! ## The invariant

A row is ahead of at most one loop, or has been processed, and not both; what was processed is marked or about
to be.  That a second loop gets nothing of the first's rows is what `Alone` asks of the query, and `Inv.move` is
the one lemma by which all steps of a loop keep the rest. -/

namespace Processing

/-- The positions of the rows that loops have still to send. -/
def aheadAt (s : Processing) : List ℕ := s.loops.flatMap fun l => l.ahead.map Fetched.position

/-- The positions of the rows that loops have sent and not yet marked. -/
def inHandAt (s : Processing) : List ℕ := s.loops.flatMap fun l => l.inHand.map Fetched.position

/-- The positions of the rows that were forwarded or got a receipt. -/
def processed (s : Processing) : List ℕ := s.submits.map Prod.snd ++ s.receipts.map Prod.snd

/-- No row is ahead of two loops, or ahead of one and processed; a row that was processed is marked, or
its loop is about to mark it; and the row that a loop has is the row at its position. -/
structure Inv (s : Processing) : Prop where
  nodup : (s.aheadAt ++ s.processed).Nodup
  sent : ∀ i ∈ s.processed, s.Marked i ∨ i ∈ s.inHandAt
  named : ∀ l ∈ s.loops, ∀ f ∈ l.held,
    ∃ row ∈ s.processTable[f.position]?, row.esmeAccMsgId = f.row.esmeAccMsgId

theorem inv_start (box : Dbbox) (processTable : List ProcessRow) (misTable : List MisRow) :
    Inv { box := box, processTable := processTable, misTable := misTable } := by
  constructor <;> simp [aheadAt, processed]

theorem Inv.processedOnce {s : Processing} (hi : s.Inv) : s.ProcessedOnce := by
  have hprocessed := (List.nodup_append'.mp hi.nodup).2.1
  obtain ⟨hsubmits, hreceipts, -⟩ := List.nodup_append'.mp hprocessed
  exact ⟨List.nodup_iff_count_le_one.mp hsubmits, List.nodup_iff_count_le_one.mp hreceipts⟩

end Processing

/-- The rows stay where they are, with their ids and their marks. -/
def RowsStay (table table' : List ProcessRow) : Prop :=
  ∀ (i : ℕ), ∀ row ∈ table[i]?, ∃ row' ∈ table'[i]?,
    row'.esmeAccMsgId = row.esmeAccMsgId ∧ (row.readFlag ≠ 0 → row'.readFlag ≠ 0)

theorem RowsStay.refl (table : List ProcessRow) : RowsStay table table :=
  fun _ row hrow => ⟨row, hrow, rfl, id⟩

theorem rowsStay_append (table rows : List ProcessRow) : RowsStay table (table ++ rows) := by
  intro i row hrow
  exact ⟨row, List.getElem?_append_left (List.getElem?_eq_some_iff.mp hrow).1 ▸ hrow, rfl, id⟩

theorem markRead_getElem? {id : Octstr} {table : List ProcessRow} {i : ℕ} {row : ProcessRow}
    (h : table[i]? = some row) :
    (markRead id table)[i]? = some (if row.esmeAccMsgId = id then { row with readFlag := 1 } else row) := by
  simp [markRead, updateWhere, h]

theorem rowsStay_markRead (id : Octstr) (table : List ProcessRow) : RowsStay table (markRead id table) := by
  intro i row hrow
  refine ⟨_, markRead_getElem? hrow, ?_⟩
  split <;> simp

section Inv

variable {text : TextLib} {s s' : Processing} {e : ProcessEvent} {k : ℕ} {l l' : MsgProcess}

theorem RowsStay.marked (h : RowsStay s.processTable s'.processTable) {i : ℕ} (hm : s.Marked i) :
    s'.Marked i := by
  obtain ⟨row, hrow, hflag⟩ := hm
  obtain ⟨row', hrow', -, hmark⟩ := h i row hrow
  exact ⟨row', hrow', hmark hflag⟩

theorem RowsStay.named (h : RowsStay s.processTable s'.processTable) {i : ℕ} {id : Octstr}
    (hn : ∃ row ∈ s.processTable[i]?, row.esmeAccMsgId = id) :
    ∃ row ∈ s'.processTable[i]?, row.esmeAccMsgId = id := by
  obtain ⟨row, hrow, rfl⟩ := hn
  obtain ⟨row', hrow', hid, -⟩ := h i row hrow
  exact ⟨row', hrow', hid⟩

namespace Processing

/-- **A loop goes on**: it takes rows it had, of which it processes some; a row that it lets go of
unmarked is one that it has just processed and is about to mark. -/
theorem Inv.move (hi : s.Inv) (hl : s.loops[k]? = some l) (l' : MsgProcess) (new : List ℕ)
    (hloops : s'.loops = s.loops.set k l') (htable : RowsStay s.processTable s'.processTable)
    (hprocessed : s'.processed.Perm (new ++ s.processed))
    (hahead : (new ++ l'.ahead.map Fetched.position).Subperm (l.ahead.map Fetched.position))
    (hsent : ∀ i ∈ new ++ l.inHand.map Fetched.position,
      s'.Marked i ∨ i ∈ l'.inHand.map Fetched.position)
    (hheld : ∀ f ∈ l'.held, f ∈ l.held) : s'.Inv := by
  have hpos : k < s.loops.length := (List.getElem?_eq_some_iff.mp hl).1
  constructor
  case nodup =>
    refine List.nodup_iff_count_le_one.mpr fun i => ?_
    have hold := List.nodup_iff_count_le_one.mp hi.nodup i
    have hset := count_flatMap_set (f := fun l => l.ahead.map Fetched.position) hl l' i
    have hrows := hahead.count_le i
    rw [List.count_append] at hold hrows ⊢
    rw [hprocessed.count_eq, List.count_append, aheadAt, hloops]
    rw [aheadAt] at hold
    omega
  case sent =>
    have hown : ∀ i ∈ new ++ l.inHand.map Fetched.position, s'.Marked i ∨ i ∈ s'.inHandAt := by
      intro i hmem
      rw [inHandAt, hloops]
      exact (hsent i hmem).imp_right fun hin => List.mem_flatMap.mpr ⟨l', List.mem_set hpos l', hin⟩
    have hstay : ∀ i ∈ s.inHandAt, s'.Marked i ∨ i ∈ s'.inHandAt := by
      intro i hmem
      obtain ⟨l₀, hl₀, hin⟩ := List.mem_flatMap.mp hmem
      obtain ⟨j, hj⟩ := List.getElem?_of_mem hl₀
      by_cases hjk : k = j
      · subst hjk
        obtain rfl : l₀ = l := Option.some.inj (hj.symm.trans hl)
        exact hown i (List.mem_append_right _ hin)
      · have hset : (s.loops.set k l')[j]? = some l₀ := by rw [List.getElem?_set_ne hjk, hj]
        rw [inHandAt, hloops]
        exact .inr (List.mem_flatMap.mpr ⟨l₀, List.mem_of_getElem? hset, hin⟩)
    intro i hmem
    obtain hnew | hold := List.mem_append.mp (hprocessed.mem_iff.mp hmem)
    · exact hown i (List.mem_append_left _ hnew)
    · obtain hmarked | hin := hi.sent i hold
      · exact .inl (htable.marked hmarked)
      · exact hstay i hin
  case named =>
    intro l₀ hl₀ f hf
    rw [hloops] at hl₀
    obtain hmem | rfl := List.mem_or_eq_of_mem_set hl₀
    · exact htable.named (hi.named l₀ hmem f hf)
    · exact htable.named (hi.named l (List.mem_of_getElem? hl) f (hheld f hf))

/-- A loop goes on with the rows it had, and nothing is processed. -/
theorem Inv.moveOnly (hi : s.Inv) (hl : s.loops[k]? = some l) (hloops : s'.loops = s.loops.set k l')
    (htable : s'.processTable = s.processTable) (hprocessed : s'.processed = s.processed)
    (hahead : l'.ahead = l.ahead) (hinHand : l'.inHand = l.inHand) : s'.Inv := by
  refine hi.move hl l' [] hloops (htable ▸ .refl _) (by rw [hprocessed, List.nil_append]) ?_ ?_ ?_
  · rw [hahead, List.nil_append]
  · rw [hinHand, List.nil_append]
    exact fun i hmem => .inr hmem
  · rw [MsgProcess.held, hahead, hinHand]
    exact fun f hf => hf

/-- A loop has sent the next of its rows, or tried to. -/
theorem Inv.send (hi : s.Inv) {f : Fetched} {rows : List Fetched} (hl : s.loops[k]? = some l)
    (hlahead : l.ahead = f :: rows) (hlinHand : l.inHand = []) (new : List ℕ)
    (hloops : s'.loops = s.loops.set k (.sent f rows)) (htable : s'.processTable = s.processTable)
    (hprocessed : s'.processed.Perm (new ++ s.processed)) (hnew : new.Subperm [f.position]) :
    s'.Inv := by
  refine hi.move hl _ new hloops (htable ▸ .refl _) hprocessed ?_ ?_ ?_
  · rw [hlahead, List.map_cons]
    exact (List.subperm_append_right _).mpr hnew
  · rw [hlinHand, List.map_nil, List.append_nil]
    exact fun i hmem => .inr (hnew.subset hmem)
  · rw [MsgProcess.held, MsgProcess.held, hlahead, hlinHand]
    exact fun f hf => hf

/-- Something else happens: the loops, and what they have processed, stay. -/
theorem Inv.frame (hi : s.Inv) (hloops : s'.loops = s.loops)
    (htable : RowsStay s.processTable s'.processTable) (hprocessed : s'.processed = s.processed) :
    s'.Inv := by
  constructor
  case nodup =>
    rw [aheadAt, hloops, hprocessed]
    exact hi.nodup
  case sent =>
    rw [inHandAt, hloops, hprocessed]
    exact fun i hmem => (hi.sent i hmem).imp_left htable.marked
  case named =>
    rw [hloops]
    exact fun l hl f hf => htable.named (hi.named l hl f hf)

/-- While loops have only marked rows, no row ahead of a loop or processed is unmarked. -/
theorem Inv.marked_of_alone (hi : s.Inv) (halone : ∀ l ∈ s.loops, ∀ f ∈ l.held, s.Marked f.position) :
    ∀ i ∈ s.aheadAt ++ s.processed, s.Marked i := by
  have hahead : ∀ i ∈ s.aheadAt, s.Marked i := by
    intro i hmem
    obtain ⟨l, hl, hin⟩ := List.mem_flatMap.mp hmem
    obtain ⟨f, hf, rfl⟩ := List.mem_map.mp hin
    exact halone l hl f (List.mem_append_right _ hf)
  have hinHand : ∀ i ∈ s.inHandAt, s.Marked i := by
    intro i hmem
    obtain ⟨l, hl, hin⟩ := List.mem_flatMap.mp hmem
    obtain ⟨f, hf, rfl⟩ := List.mem_map.mp hin
    exact halone l hl f (List.mem_append_left _ hf)
  intro i hmem
  obtain hmem | hmem := List.mem_append.mp hmem
  · exact hahead i hmem
  · exact (hi.sent i hmem).elim id (hinHand i)

/-- A query whose answer has no row that a loop has not yet marked. -/
theorem Inv.select (hi : s.Inv) {rows : List Fetched} (hl : s.loops[k]? = some .waiting)
    (hanswer : (rows.map fun f => (f.row, f.position)).Perm
      (s.processTable.zipIdx.filter fun p => p.1.readFlag = 0))
    (halone : ∀ l ∈ s.loops, ∀ f ∈ l.held, s.Marked f.position) :
    (s.setLoop k (.fetching rows)).Inv := by
  have hrow : ∀ f ∈ rows, s.processTable[f.position]? = some f.row ∧ f.row.readFlag = 0 := by
    intro f hf
    obtain ⟨hmem, hflag⟩ := List.mem_filter.mp (hanswer.subset (List.mem_map_of_mem hf))
    exact ⟨by simpa using List.mem_zipIdx_iff_getElem?.mp hmem, by simpa using hflag⟩
  have hunmarked : ∀ i ∈ rows.map Fetched.position, ¬ s.Marked i := by
    intro i hmem hmarked
    obtain ⟨f, hf, rfl⟩ := List.mem_map.mp hmem
    obtain ⟨row, hrow', hflag⟩ := hmarked
    obtain rfl : row = f.row := Option.some.inj (hrow'.symm.trans (hrow f hf).1)
    exact hflag (hrow f hf).2
  have hdistinct : (rows.map Fetched.position).Nodup := by
    have hperm := hanswer.map Prod.snd
    rw [List.map_map] at hperm
    exact hperm.nodup_iff.mpr ((List.nodup_zipIdx_map_snd _).sublist (List.filter_sublist.map _))
  obtain ⟨rest, hfrom, hto⟩ :=
    flatMap_set_split (f := fun l => l.ahead.map Fetched.position) hl (.fetching rows)
  have hahead : (s.setLoop k (.fetching rows)).aheadAt.Perm (rows.map Fetched.position ++ s.aheadAt) :=
    hto.trans (hfrom.symm.append_left _)
  constructor
  case nodup =>
    refine ((hahead.append_right _).nodup_iff).mpr ?_
    rw [List.append_assoc, List.nodup_append']
    exact ⟨hdistinct, hi.nodup,
      fun i hmem hmem' => hunmarked i hmem (hi.marked_of_alone halone i hmem')⟩
  case sent => exact fun i hmem => .inl (hi.marked_of_alone halone i (List.mem_append_right _ hmem))
  case named =>
    intro l hl f hf
    obtain hmem | rfl := List.mem_or_eq_of_mem_set hl
    · exact hi.named l hmem f hf
    · exact ⟨f.row, (hrow f hf).1, rfl⟩

/-- A loop has fetched a row, and executes the first statement for it. -/
theorem Inv.fetchRow (hi : s.Inv) {now : Octstr} {done : Bool} {f : Fetched} {rows : List Fetched}
    (hl : s.loops[k]? = some (.fetching (f :: rows))) : (fetchRow text s k now done f rows).Inv := by
  rw [SmppDbbox.fetchRow]
  split
  · refine hi.send hl rfl rfl (if done then [f.position] else []) rfl rfl ?_ ?_
    · cases done with
      | false => exact .refl _
      | true =>
        rw [processed, if_pos rfl, List.map_append, List.append_assoc]
        exact List.perm_append_comm_assoc _ _ _
    · cases done with
      | false => exact List.nil_subperm
      | true => exact .refl _
  · exact hi.moveOnly hl rfl rfl rfl rfl rfl

/-- A loop sends the receipt for its row. -/
theorem Inv.sendReceipt (hi : s.Inv) {f : Fetched} {resultMsg : ValuesGot} {rows : List Fetched}
    (hl : s.loops[k]? = some (.found f resultMsg rows)) :
    (sendReceipt text s k f resultMsg rows).Inv := by
  rw [SmppDbbox.sendReceipt]
  cases s.box.esmeProcessClient with
  | none => exact hi.send hl rfl rfl [] rfl rfl (.refl _) List.nil_subperm
  | some client =>
    refine hi.send hl rfl rfl [f.position] rfl rfl ?_ (.refl _)
    rw [processed, List.map_append, ← List.append_assoc]
    exact List.perm_append_comm

/-- A loop marks the row it has sent. -/
theorem Inv.update (hi : s.Inv) {f : Fetched} {rows : List Fetched}
    (hl : s.loops[k]? = some (.sent f rows)) :
    Inv { s.setLoop k (.fetching rows) with
      processTable := markRead f.row.esmeAccMsgId s.processTable } := by
  refine hi.move hl (.fetching rows) [] rfl (rowsStay_markRead _ _) (.refl _) (.refl _)
    ?_ fun f' hf => List.mem_append_right _ hf
  intro i hmem
  obtain rfl : i = f.position := List.mem_singleton.mp hmem
  obtain ⟨row, hrow, hid⟩ := hi.named _ (List.mem_of_getElem? hl) f
    (List.mem_append_left _ (List.mem_singleton_self f))
  exact .inl ⟨_, markRead_getElem? hrow, by rw [if_pos hid]; exact one_ne_zero⟩

/-- A restart while no loop has a row that is sent and not yet marked. -/
theorem Inv.restart (hi : s.Inv) (halone : ∀ l ∈ s.loops, l.inHand = []) :
    Inv { s with loops := [] } := by
  constructor
  case nodup => exact hi.nodup.sublist (List.sublist_append_right _ _)
  case sent =>
    intro i hmem
    obtain hmarked | hin := hi.sent i hmem
    · exact .inl hmarked
    · obtain ⟨l, hl, hin⟩ := List.mem_flatMap.mp hin
      rw [halone l hl] at hin
      exact absurd hin List.not_mem_nil
  case named => exact fun l hl => absurd hl List.not_mem_nil

/-- One more loop, which has no rows yet. -/
theorem Inv.start (hi : s.Inv) : Inv { s with loops := s.loops ++ [.waiting] } := by
  have hahead : aheadAt { s with loops := s.loops ++ [.waiting] } = s.aheadAt := by
    rw [aheadAt, List.flatMap_append]
    exact List.append_nil _
  have hinHand : inHandAt { s with loops := s.loops ++ [.waiting] } = s.inHandAt := by
    rw [inHandAt, List.flatMap_append]
    exact List.append_nil _
  constructor
  case nodup =>
    rw [hahead]
    exact hi.nodup
  case sent =>
    rw [hinHand]
    exact hi.sent
  case named =>
    intro l hl f hf
    obtain hl | hl := List.mem_append.mp hl
    · exact hi.named l hl f hf
    · obtain rfl := List.mem_singleton.mp hl
      exact absurd hf List.not_mem_nil

/-- **Every step keeps the invariant** if a loop is alone with its rows. -/
theorem Inv.step (hi : s.Inv) (halone : Alone s e) (h : processStep text s e = some s') : s'.Inv := by
  cases e with
  | checker listed row =>
    rw [← Option.some.inj h]
    exact hi.frame rfl (rowsStay_append _ _) rfl
  | dbbox box misTable =>
    rw [← Option.some.inj h]
    exact hi.frame rfl (.refl _) rfl
  | admin808 =>
    rw [← Option.some.inj h]
    exact hi.start
  | mysqlSelect k answer =>
    cases answer with
    | none =>
      obtain ⟨hsel, h⟩ := Option.ite_none_right_eq_some.mp h
      exact Option.some.inj h ▸ hi.moveOnly hsel.1 rfl rfl rfl rfl rfl
    | some rows =>
      obtain ⟨hsel, h⟩ := Option.ite_none_right_eq_some.mp h
      exact Option.some.inj h ▸ hi.select hsel.1 hsel.2.2 halone
  | mysqlFetchRow k now done =>
    rw [processStep] at h
    split at h
    · rename_i hl
      exact Option.some.inj h ▸ hi.moveOnly hl rfl rfl rfl rfl rfl
    · rename_i f rows hl
      exact Option.some.inj h ▸ hi.fetchRow hl
    · exact absurd h (by simp)
  | dlrStatusAdd k =>
    rw [processStep] at h
    split at h
    · rename_i f rows hl
      exact Option.some.inj h ▸ hi.moveOnly hl rfl rfl rfl rfl rfl
    · exact absurd h (by simp)
  | dlrFind k answer =>
    rw [processStep] at h
    split at h
    · rename_i f rows hl
      obtain ⟨-, h⟩ := Option.ite_none_right_eq_some.mp h
      exact Option.some.inj h ▸ hi.moveOnly hl rfl rfl rfl rfl rfl
    · exact absurd h (by simp)
  | sendResult k =>
    rw [processStep] at h
    split at h
    · rename_i f resultMsg rows hl
      exact Option.some.inj h ▸ hi.sendReceipt hl
    · exact absurd h (by simp)
  | mysqlUpdate k done =>
    obtain rfl : done = true := halone
    rw [processStep] at h
    split at h
    · rename_i f rows hl
      exact Option.some.inj h ▸ hi.update hl
    · exact absurd h (by simp)
  | restart =>
    rw [← Option.some.inj h]
    exact hi.restart halone

/-- **Pending rows are processed once.**  For any number of loops, started at any time, over any rows,
with any failures of the queries and the sends, in every run in which a loop is alone with its rows:
each row of `process_table` is forwarded at most once, and gets at most one receipt. -/
theorem processedOnce_of_alone (text : TextLib) (box : Dbbox) (processTable : List ProcessRow)
    (misTable : List MisRow) {evs : List ProcessEvent} {s : Processing}
    (halone : Along (processStep text) Alone
      { box := box, processTable := processTable, misTable := misTable } evs)
    (hrun : exec (processStep text)
      { box := box, processTable := processTable, misTable := misTable } evs = some s) :
    s.ProcessedOnce :=
  (exec_invariant (fun hi hg h => hi.step hg h) (inv_start box processTable misTable) halone
    hrun).processedOnce

end Processing

end Inv

/-! ## Undisturbed loops

The steps here are finer than those of `Dbbox/Dnd` and `Dbbox/Receipt`.  A loop that nothing comes between makes
the same of a row. -/

section Undisturbed

variable {text : TextLib} {s : Processing} {k : ℕ}

/-- The statements of `dnd_deliver_sm_generate`, one behind the other, are what `handle_request` does
on the `insert_status` message built for the row. -/
theorem handleInsertStatus_dndDeliverSmGenerate (mysqlSelect : Octstr → Option (List MisRow))
    (box : Dbbox) (f : Fetched) :
    handleInsertStatus mysqlSelect box (f.receipt text) =
      appendResult (dlrStatusAdd box (f.receipt text)) (f.receipt text).pdu
        (dlrFind box.handles mysqlSelect f.row.destinationAddr f.row.esmeAccMsgId) := by
  rw [← dlrStatusAdd_handles box (f.receipt text)]
  rfl

/-- A loop that is not disturbed between the send and the UPDATE of a row does what `msgProcessStep`
does. -/
theorem exec_forward {f : Fetched} {rows : List Fetched} {now : Octstr} {updated : Bool}
    (hl : s.loops[k]? = some (.fetching (f :: rows))) (hdnd : f.row.dnd = 0) (path : DndPath)
    (htable : path.processTable = s.processTable) (hsubmits : path.submits = s.submits.map Prod.fst) :
    ∃ s', exec (processStep text) s [.mysqlFetchRow k now true, .mysqlUpdate k updated] = some s' ∧
      s'.processTable =
        (msgProcessStep text path f.row now f.submitDate f.doneDate updated).processTable ∧
      s'.submits.map Prod.fst =
        (msgProcessStep text path f.row now f.submitDate f.doneDate updated).submits := by
  have hpos : k < s.loops.length := (List.getElem?_eq_some_iff.mp hl).1
  have hfetch : processStep text s (.mysqlFetchRow k now true) =
      some (fetchRow text s k now true f rows) := by rw [processStep, hl]
  have hnext : (fetchRow text s k now true f rows).loops[k]? = some (.sent f rows) := by
    rw [fetchRow, if_pos hdnd]
    exact List.getElem?_set_self hpos
  have hupdate : ∃ s', processStep text (fetchRow text s k now true f rows) (.mysqlUpdate k updated) =
      some s' ∧ s'.submits = s.submits ++ [(dndSubmit text now f.row, f.position)] ∧
      s'.processTable =
        if updated then markRead f.row.esmeAccMsgId s.processTable else s.processTable := by
    rw [processStep, hnext, fetchRow, if_pos hdnd]
    exact ⟨_, rfl, rfl, rfl⟩
  obtain ⟨s', hs', hsent, htable'⟩ := hupdate
  refine ⟨s', exec_cons_eq_some.mpr ⟨_, hfetch, exec_cons_eq_some.mpr ⟨s', hs', rfl⟩⟩, ?_⟩
  rw [hsent, htable', msgProcessStep, if_pos hdnd]
  cases updated with
  | false => exact ⟨htable.symm, by simp [hsubmits]⟩
  | true => exact ⟨by rw [← htable]; rfl, by simp [hsubmits]⟩

end Undisturbed

/-! ## Samples -/

/-- The ESME process has registered. -/
def sampleDbbox : Dbbox where
  handles := true
  statusTable := []
  esmeProcessClient := some ⟨some (octstrImm "smpp-esme"), []⟩

/-- The row of an accepted submit, as a query finds it at a position. -/
def sampleFetched (number : String) (listed : Bool) (position : ℕ) : Fetched where
  row := checkerInsert listed (sampleRow number 0)
  submitDate := octstrImm "260101120000"
  doneDate := octstrImm "260101120010"
  position := position

/-- Two loops; the first asks and processes a row of each kind, then the second asks. -/
def sampleLoops : List ProcessEvent :=
  [.checker false (sampleRow "9800000000" 0), .checker true (sampleRow "9811111111" 0), .admin808,
    .admin808,
    .mysqlSelect 0 (some [sampleFetched "9800000000" false 0, sampleFetched "9811111111" true 1]),
    .mysqlFetchRow 0 [] true, .mysqlUpdate 0 true, .mysqlFetchRow 0 [] true, .dlrStatusAdd 0,
    .dlrFind 0 (some [dndMisRow (checkerInsert true (sampleRow "9811111111" 0))]), .sendResult 0,
    .mysqlUpdate 0 true, .mysqlFetchRow 0 [] true, .mysqlSelect 1 (some [])]

/-- Two loops that ask for the same row before either has marked it. -/
def sampleOverlap : List ProcessEvent :=
  [.checker false (sampleRow "9800000000" 0), .admin808, .admin808,
    .mysqlSelect 0 (some [sampleFetched "9800000000" false 0]),
    .mysqlSelect 1 (some [sampleFetched "9800000000" false 0]),
    .mysqlFetchRow 0 [] true, .mysqlUpdate 0 true, .mysqlFetchRow 1 [] true]

/-- The state after the loops of `sampleLoops`. -/
def sampleProcessing : Processing :=
  (exec (processStep sampleTextLib) { box := sampleDbbox } sampleLoops).get (by decide)

/-- A loop at a time: one row is forwarded, one gets a receipt. -/
theorem Processing.processedOnce_sampleLoops :
    sampleProcessing.submits.map Prod.snd = [0] ∧ sampleProcessing.receipts.map Prod.snd = [1] ∧
      sampleProcessing.ProcessedOnce := by
  have hrun : exec (processStep sampleTextLib) { box := sampleDbbox } sampleLoops =
      some sampleProcessing := (Option.some_get _).symm
  exact ⟨by decide, by decide,
    Processing.processedOnce_of_alone sampleTextLib sampleDbbox [] [] (by decide) hrun⟩

/-- **Two loops that overlap** forward one row twice. -/
theorem Processing.processedTwice_sampleOverlap :
    ∃ s, exec (processStep sampleTextLib) { box := sampleDbbox } sampleOverlap = some s ∧
      s.submits.map Prod.snd = [0, 0] ∧ ¬ s.ProcessedOnce := by
  refine ⟨(exec (processStep sampleTextLib) { box := sampleDbbox } sampleOverlap).get (by decide),
    (Option.some_get _).symm, by decide, fun honce => ?_⟩
  exact absurd (honce.submits 0) (by decide)

end SmppServer.SmppDbbox
