import SmppServer.Dbbox.Dnd

/-!
# Esme/ExtractEsme — the session a receipt is written to

When the database process has found the account of a receipt, the ESME process looks for a session of
that account that can receive: any of its receivers, or else a transceiver among its transmitters.  The
list of the transmitters is probed at random, as often as it has sessions; one session may be probed
twice and another never.

* `handleValuesGot_of_extractEsme` — a receipt goes to the session that is found, and nowhere else.
* `receiptQueued_iff` — an account that can receive gets its receipt exactly if a transceiver is drawn.
-/

namespace SmppServer.SmppEsme

open Machinery SmppDbbox

/-! ## The code

The receivers are asked for first, and any will do.  Among the transmitters a position is drawn as many times as
there are sessions; the numbers of `gw_rand` are an argument. -/

/-- A pointer to a session: the entry it belongs to, its list, and its position there. -/
structure SessionPtr where
  esme : ℕ
  kind : Kind
  pos : ℕ
  deriving DecidableEq, Repr

/-- The session at a pointer. -/
def Registry.session? (r : Registry) (p : SessionPtr) : Option SessionStr :=
  (r.get? p.esme).bind fun e =>
    match p.kind with
    | .tx => e.txEsme[p.pos]?.map .tx
    | .rx => e.rxEsme[p.pos]?.map .rx

/-- `gwlist_produce` on the `data_to_write` of a session. -/
def Session.produce (s : Session) (msg : MsgDeliver) : Session :=
  { s with dataToWrite := s.dataToWrite ++ [msg] }

def SessionStr.produce (msg : MsgDeliver) : SessionStr → SessionStr
  | .tx s => .tx { s with toSession := s.toSession.produce msg }
  | .rx s => .rx { s with toSession := s.toSession.produce msg }

/-- `gwlist_produce` on the `data_to_write` of the session at a pointer. -/
def Registry.produce (r : Registry) (p : SessionPtr) (msg : MsgDeliver) : Registry :=
  r.modify p.esme fun e =>
    match p.kind with
    | .tx => { e with
        txEsme := e.txEsme.modify p.pos fun s => { s with toSession := s.toSession.produce msg } }
    | .rx => { e with
        rxEsme := e.rxEsme.modify p.pos fun s => { s with toSession := s.toSession.produce msg } }

/-- The loop over `tx_esme`: the first position drawn that has a transceiver. -/
def drawTransceiver (txEsme : List EsmeTx) (gwRand : ℕ → ℕ) : Option ℕ :=
  ((List.range txEsme.length).map fun j => gwRand j % txEsme.length).find? fun s =>
    txEsme[s]?.any (·.mode = 3)

/-- `extract_esme`: the session for a receipt, and its mode; `gwRand` gives the numbers that `gw_rand`
returns. -/
def extractEsme (r : Registry) (esmeId : Option Octstr) (gwRand : ℕ → ℕ) : Option (SessionPtr × ℤ) :=
  match isPresentEsme r esmeId with
  | none => none
  | some (a, esme) =>
    if 0 < esme.rxEsme.length then some (⟨a, .rx, gwRand 0 % esme.rxEsme.length⟩, 2)
    else (drawTransceiver esme.txEsme gwRand).map fun s => (⟨a, .tx, s⟩, 3)

/-- The receipt that is made of a result. -/
def msgDeliver (msg : ValuesGot) : MsgDeliver where
  smscId := msg.destAddr
  smscMsgId := msg.smscMsgId
  accountMsgId := msg.accountMsgId
  os := msg.pdu

/-- `handle_request` on a `values_got`. -/
def handleValuesGot (r : Registry) (msg : ValuesGot) (gwRand : ℕ → ℕ) : Registry :=
  if msg.result = 1 then
    match extractEsme r msg.accountName gwRand with
    | none => r
    | some (p, mode) =>
      if mode = 1 ∨ mode = 2 ∨ mode = 3 then r.produce p (msgDeliver msg) else r
  else r

/-! ## Which sessions receive

An account can receive if it has a receiver or a transceiver; it does receive if there is a receiver or the draw
hits a transceiver.  The receipt is then on the queue of that session, and on no other. -/

/-- A receiver, with its mode, or a transceiver with its own. -/
def SessionStr.Receives (mode : ℤ) : SessionStr → Prop
  | .tx s => s.mode = 3 ∧ mode = 3
  | .rx _ => mode = 2

/-- The account has a receiver, or without any a transceiver. -/
def Esme.CanReceive (e : Esme) : Prop := e.rxEsme ≠ [] ∨ e.rxEsme = [] ∧ ∃ s ∈ e.txEsme, s.mode = 3

instance (e : Esme) : Decidable e.CanReceive := inferInstanceAs (Decidable (_ ∨ _))

/-- A receiving session of the entry at `a` is found, and the receipt is put on its queue. -/
def ReceiptQueued (r : Registry) (a : ℕ) (msg : ValuesGot) (gwRand : ℕ → ℕ) : Prop :=
  ∃ p mode s, extractEsme r msg.accountName gwRand = some (p, mode) ∧ p.esme = a ∧
    r.session? p = some s ∧ s.Receives mode ∧
    (handleValuesGot r msg gwRand).session? p = some (s.produce (msgDeliver msg))

/-- One of the sessions drawn is a transceiver. -/
def TransceiverDrawn (txEsme : List EsmeTx) (gwRand : ℕ → ℕ) : Prop :=
  ∃ j < txEsme.length, ∃ s ∈ txEsme[gwRand j % txEsme.length]?, s.mode = 3

instance (txEsme : List EsmeTx) (gwRand : ℕ → ℕ) : Decidable (TransceiverDrawn txEsme gwRand) :=
  decidable_of_iff (∃ j < txEsme.length, txEsme[gwRand j % txEsme.length]?.any (·.mode = 3) = true)
    (by simp [TransceiverDrawn, Option.any_eq_true])

section Extract

variable {r : Registry} {a : ℕ} {e : Esme} {msg : ValuesGot} {gwRand : ℕ → ℕ} {p : SessionPtr}
  {s : SessionStr} {mode : ℤ}

/-- The queue of the session at a pointer after a receipt was put on it. -/
theorem Registry.session?_produce (hs : r.session? p = some s) (m : MsgDeliver) :
    (r.produce p m).session? p = some (s.produce m) := by
  obtain ⟨e, he, hs⟩ := Option.bind_eq_some_iff.mp hs
  have hmem := Arena.get?_eq_some.mp he
  obtain ⟨a, kind, pos⟩ := p
  cases kind with
  | tx =>
    obtain ⟨t, ht, rfl⟩ := Option.map_eq_some_iff.mp hs
    refine Option.bind_eq_some_iff.mpr ⟨_, Arena.get?_eq_some.mpr
      (Arena.mem_modify.mpr (.inr ⟨rfl, e, hmem, rfl⟩)), ?_⟩
    simp [ht, SessionStr.produce]
  | rx =>
    obtain ⟨t, ht, rfl⟩ := Option.map_eq_some_iff.mp hs
    refine Option.bind_eq_some_iff.mpr ⟨_, Arena.get?_eq_some.mpr
      (Arena.mem_modify.mpr (.inr ⟨rfl, e, hmem, rfl⟩)), ?_⟩
    simp [ht, SessionStr.produce]

/-- A draw that succeeds finds a transceiver. -/
theorem drawTransceiver_eq_some {txEsme : List EsmeTx} {k : ℕ}
    (h : drawTransceiver txEsme gwRand = some k) : ∃ t, txEsme[k]? = some t ∧ t.mode = 3 := by
  have hany := List.find?_some h
  rw [Option.any_eq_true] at hany
  obtain ⟨t, ht, hmode⟩ := hany
  exact ⟨t, ht, by simpa using hmode⟩

theorem isSome_drawTransceiver {txEsme : List EsmeTx} :
    (drawTransceiver txEsme gwRand).isSome = true ↔ TransceiverDrawn txEsme gwRand := by
  simp [drawTransceiver, TransceiverDrawn, List.find?_isSome, Option.any_eq_true]

/-- **What is found** is a session of the account's first entry that receives. -/
theorem extractEsme_spec (hentry : isPresentEsme r msg.accountName = some (a, e))
    (h : extractEsme r msg.accountName gwRand = some (p, mode)) :
    p.esme = a ∧ ∃ s, r.session? p = some s ∧ s.Receives mode := by
  have hget : r.get? a = some e := Arena.get?_eq_some.mpr (Arena.mem_of_find?_eq_some hentry)
  rw [extractEsme, hentry] at h
  dsimp only at h
  split at h
  · rename_i hpos
    obtain ⟨rfl, rfl⟩ := Prod.mk.inj (Option.some.inj h)
    have hlt : gwRand 0 % e.rxEsme.length < e.rxEsme.length := Nat.mod_lt _ hpos
    exact ⟨rfl, .rx e.rxEsme[gwRand 0 % e.rxEsme.length], by simp [Registry.session?, hget, hlt], rfl⟩
  · obtain ⟨k, hk, heq⟩ := Option.map_eq_some_iff.mp h
    obtain ⟨rfl, rfl⟩ := Prod.mk.inj heq
    obtain ⟨t, ht, hmode⟩ := drawTransceiver_eq_some hk
    exact ⟨rfl, .tx t, by simp [Registry.session?, hget, ht], hmode, rfl⟩

/-- **The receipt is put on the queue** of the session that is found. -/
theorem handleValuesGot_of_extractEsme (hresult : msg.result = 1)
    (hentry : isPresentEsme r msg.accountName = some (a, e))
    (h : extractEsme r msg.accountName gwRand = some (p, mode)) :
    handleValuesGot r msg gwRand = r.produce p (msgDeliver msg) := by
  obtain ⟨-, s, -, hreceives⟩ := extractEsme_spec hentry h
  have hmode : mode = 1 ∨ mode = 2 ∨ mode = 3 := by
    cases s with
    | tx t => exact .inr (.inr hreceives.2)
    | rx t => exact .inr (.inl hreceives)
  rw [handleValuesGot, if_pos hresult, h]
  exact if_pos hmode

/-- A receiving session is found exactly if there is a receiver, or a transceiver is drawn. -/
theorem isSome_extractEsme (hentry : isPresentEsme r msg.accountName = some (a, e)) :
    (extractEsme r msg.accountName gwRand).isSome = true ↔
      e.rxEsme ≠ [] ∨ TransceiverDrawn e.txEsme gwRand ∧ e.rxEsme = [] := by
  rw [extractEsme, hentry]
  dsimp only
  split
  · rename_i hpos
    simp [List.ne_nil_of_length_pos hpos]
  · rename_i hpos
    have hnil : e.rxEsme = [] := List.length_eq_zero_iff.mp (by omega)
    rw [Option.isSome_map, isSome_drawTransceiver]
    simp [hnil]

theorem receiptQueued_iff_isSome (hresult : msg.result = 1)
    (hentry : isPresentEsme r msg.accountName = some (a, e)) :
    ReceiptQueued r a msg gwRand ↔ (extractEsme r msg.accountName gwRand).isSome = true := by
  constructor
  · rintro ⟨p, mode, s, h, -⟩
    rw [h]
    rfl
  · intro h
    obtain ⟨⟨p, mode⟩, h⟩ := Option.isSome_iff_exists.mp h
    obtain ⟨ha, s, hs, hreceives⟩ := extractEsme_spec hentry h
    refine ⟨p, mode, s, h, ha, hs, hreceives, ?_⟩
    rw [handleValuesGot_of_extractEsme hresult hentry h]
    exact Registry.session?_produce hs _

/-- **When an account that can receive gets its receipt**: if it has no receiver, one of the sessions
drawn must be a transceiver. -/
theorem receiptQueued_iff (hresult : msg.result = 1)
    (hentry : isPresentEsme r msg.accountName = some (a, e)) :
    (e.CanReceive → ReceiptQueued r a msg gwRand) ↔
      (e.rxEsme = [] → (∃ s ∈ e.txEsme, s.mode = 3) → TransceiverDrawn e.txEsme gwRand) := by
  rw [receiptQueued_iff_isSome hresult hentry, isSome_extractEsme hentry, Esme.CanReceive]
  by_cases hrx : e.rxEsme = [] <;> simp [hrx]

end Extract

/-- A session of the account over connection `conn`. -/
def sampleSessionTx (conn : ℕ) (mode : ℤ) : EsmeTx where
  conn := conn
  clientIp := octstrImm "10.0.0.1"
  clientPort := 40000
  listenPort := 2775
  startTime := 0
  seqNumberCounter := 1
  status := .binded
  mode := mode
  threadId := 1
  sessionId := conn + 1

/-- An account with a transmitter and a transceiver. -/
def sampleRegistry : Registry :=
  Arena.empty.alloc { sampleEsme with txEsme := [sampleSessionTx 0 1, sampleSessionTx 1 3] }

/-- A receipt for that account. -/
def sampleValuesGot : ValuesGot where
  result := 1
  smscMsgId := some (octstrImm "42")
  destAddr := some (octstrImm "9876543210")
  accountName := some (octstrImm "acme")
  accountMsgId := some (octstrImm "017000000001")
  pdu := some (octstrImm "deliver_sm")

theorem receiptQueued_sampleRegistry : ReceiptQueued sampleRegistry 0 sampleValuesGot id := by
  refine (receiptQueued_iff rfl rfl).mpr (fun _ _ => ?_) ?_
  · decide
  · decide

/-- The transmitter is drawn twice. -/
theorem not_receiptQueued :
    ¬ ∀ (r : Registry) (a : ℕ) (e : Esme) (msg : ValuesGot) (gwRand : ℕ → ℕ), msg.result = 1 →
      isPresentEsme r msg.accountName = some (a, e) → e.CanReceive → ReceiptQueued r a msg gwRand := by
  intro h
  have hqueued := h sampleRegistry 0 _ sampleValuesGot (fun _ => 0) rfl rfl (by decide)
  rw [receiptQueued_iff_isSome rfl rfl] at hqueued
  exact absurd hqueued (by decide)

end SmppServer.SmppEsme
