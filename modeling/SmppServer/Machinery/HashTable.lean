import Mathlib.Data.List.AList
import Mathlib.Logic.Function.Basic
import Mathlib.Order.Basic

/-!
# Machinery/HashTable — a finite map in buckets

A table of buckets holds the entries of a finite map when every entry is in the bucket its key's index
names: `Filed`.  Only that bucket matters to an operation on a key (`Filed.split`), so searching it is
looking the key up, and appending to it, replacing in it and filtering it insert and erase.

* `Filed.find?_bucket` — searching the bucket is looking up.
* `Filed.append`, `Filed.replace`, `Filed.filter` — what changes to the bucket do to the map.
* `rename` — a finite map under other names for its keys.
-/

open scoped List

namespace Machinery

variable {κ α : Type*}

/-- An entry of a finite map. -/
abbrev Entry (κ α : Type*) := Sigma fun _ : κ => α

/-- A finite map. -/
abbrev FiniteMap (κ α : Type*) := AList fun _ : κ => α

section Entries

variable [DecidableEq κ] {l : List (Entry κ α)} {k : κ} {v : α}

theorem kerase_eq_filter (hl : l.NodupKeys) : l.kerase k = l.filter (k ≠ ·.1) := by
  induction l with
  | nil => rfl
  | cons e l ih =>
    obtain ⟨he, hl⟩ := List.nodupKeys_cons.mp hl
    by_cases hk : k = e.1
    · have hall : ∀ e' ∈ l, decide (k ≠ e'.1) = true := fun e' he' =>
        decide_eq_true fun h => he (hk ▸ h ▸ List.mem_keys_of_mem he')
      rw [List.kerase_cons_eq hk, List.filter_cons_of_neg (by simpa using hk), List.filter_eq_self.mpr hall]
    · rw [List.kerase_cons_ne hk, ih hl, List.filter_cons_of_pos (by simpa using hk)]

theorem kreplace_perm (hk : k ∈ l.keys) : (l.kreplace k v).Perm (⟨k, v⟩ :: l.kerase k) := by
  induction l with
  | nil => simp at hk
  | cons e l ih =>
    by_cases he : k = e.1
    · obtain ⟨k', v'⟩ := e
      obtain rfl : k = k' := he
      have hfound : (⟨k, v'⟩ :: l : List (Entry κ α)).kreplace k v = ⟨k, v⟩ :: l :=
        List.lookmap_cons_some _ _ (by simp)
      have hgone : (⟨k, v'⟩ :: l : List (Entry κ α)).kerase k = l := List.kerase_cons_eq rfl
      rw [hfound, hgone]
    · have hmem : k ∈ l.keys := (List.mem_cons.mp hk).resolve_left he
      rw [List.kerase_cons_ne he, List.kreplace, List.lookmap_cons_none _ _ (by simp [he]), ← List.kreplace]
      exact ((ih hmem).cons e).trans (List.Perm.swap _ _ _)

theorem mem_of_mem_kreplace {e : Entry κ α} (he : e ∈ l.kreplace k v) : e ∈ l ∨ e.1 = k := by
  by_cases hk : k ∈ l.keys
  · obtain rfl | he' := List.mem_cons.mp ((kreplace_perm hk).subset he)
    · exact .inr rfl
    · exact .inl ((List.kerase_sublist k l).subset he')
  · rw [List.kreplace_of_forall_not] at he
    · exact .inl he
    · exact fun b hb => hk (List.mem_keys_of_mem hb)

end Entries

section Length

variable [DecidableEq κ] {m : FiniteMap κ α} {k : κ} {v : α}

theorem length_entries_erase (hk : k ∈ m) : (m.erase k).entries.length + 1 = m.entries.length := by
  have herase : (m.erase k).keys.length = m.keys.length - 1 := by
    rw [AList.keys_erase, List.length_erase_of_mem hk]
  have hpos : 0 < m.keys.length := List.length_pos_of_mem hk
  simp only [AList.keys, List.keys, List.length_map] at herase hpos
  omega

theorem length_entries_insert (v : α) (hk : k ∈ m) :
    (m.insert k v).entries.length = m.entries.length := by
  rw [← length_entries_erase hk]
  rfl

theorem length_entries_insert_of_notMem (v : α) (hk : k ∉ m) :
    (m.insert k v).entries.length = m.entries.length + 1 := by
  rw [AList.entries_insert_of_notMem hk, List.length_cons]

end Length

/-- Every entry of the map is in the bucket that its key's index names. -/
structure Filed (index : κ → ℕ) (tab : List (List (Entry κ α))) (m : FiniteMap κ α) : Prop where
  lt : ∀ k, index k < tab.length
  filed : ∀ i l, tab[i]? = some l → ∀ e ∈ l, index e.1 = i
  perm : tab.flatten.Perm m.entries

namespace Filed

variable {index : κ → ℕ} {tab : List (List (Entry κ α))} {m : FiniteMap κ α} {k : κ} {v : α}

theorem nodupKeys (h : Filed index tab m) : tab.flatten.NodupKeys :=
  (List.perm_nodupKeys h.perm).mpr m.nodupKeys

/-- **Only one bucket matters to a key.** -/
theorem split (h : Filed index tab m) (k : κ) :
    ∃ pre l post, tab = pre ++ l :: post ∧ pre.length = index k ∧
      (∀ e ∈ pre.flatten, k ≠ e.1) ∧ ∀ e ∈ post.flatten, k ≠ e.1 := by
  have hk := h.lt k
  refine ⟨tab.take (index k), tab[index k], tab.drop (index k + 1), ?_, ?_, ?_, ?_⟩
  · rw [List.getElem_cons_drop, List.take_append_drop]
  · exact List.length_take_of_le hk.le
  · rintro e he rfl
    obtain ⟨l, hl, hel⟩ := List.mem_flatten.mp he
    obtain ⟨i, hi, rfl⟩ := List.getElem_of_mem hl
    have hi' : i < index e.1 := hi.trans_le (List.length_take_le _ _)
    rw [List.getElem_take] at hel
    exact hi'.ne' (h.filed i _ (List.getElem?_eq_getElem _) e hel)
  · rintro e he rfl
    obtain ⟨l, hl, hel⟩ := List.mem_flatten.mp he
    obtain ⟨i, hi, rfl⟩ := List.getElem_of_mem hl
    rw [List.getElem_drop] at hel
    have heq := h.filed _ _ (List.getElem?_eq_getElem _) e hel
    omega

/-- A change to one bucket, with no key in it that belongs elsewhere. -/
theorem modify (h : Filed index tab m) {f : List (Entry κ α) → List (Entry κ α)} {m' : FiniteMap κ α}
    (hf : ∀ l, ∀ e ∈ f l, e ∈ l ∨ e.1 = k)
    (hperm : (tab.modify (index k) f).flatten.Perm m'.entries) :
    Filed index (tab.modify (index k) f) m' where
  lt k := (h.lt k).trans_eq (List.length_modify f tab _).symm
  filed i l hl e he := by
    rw [List.getElem?_modify, Option.map_eq_map, Option.map_eq_some_iff] at hl
    obtain ⟨l₀, hl₀, rfl⟩ := hl
    by_cases hi : index k = i
    · rw [if_pos hi] at he
      exact (hf l₀ e he).elim (h.filed i l₀ hl₀ e) fun hk => hk ▸ hi
    · rw [if_neg hi] at he
      exact h.filed i l₀ hl₀ e he
  perm := hperm

/-- The bucket of a key. -/
theorem flatten_modify {pre post : List (List (Entry κ α))} {l : List (Entry κ α)}
    {f : List (Entry κ α) → List (Entry κ α)} (hpre : pre.length = index k) :
    ((pre ++ l :: post).modify (index k) f).flatten = pre.flatten ++ f l ++ post.flatten := by
  rw [← hpre, List.modify_eq_take_drop, List.take_left, List.drop_left, List.modifyHead_cons,
    List.flatten_append, List.flatten_cons, List.append_assoc]

variable [DecidableEq κ]

/-- **Searching the bucket is looking up.** -/
theorem find?_bucket (h : Filed index tab m) (k : κ) :
    (tab[index k]?.getD []).find? (k = ·.1) = (m.lookup k).map (Sigma.mk k) := by
  obtain ⟨pre, l, post, rfl, hpre, hk, hk'⟩ := h.split k
  have hlookup : m.lookup k = l.dlookup k := by
    rw [AList.lookup, ← List.perm_dlookup k h.nodupKeys h.perm, List.flatten_append, List.flatten_cons,
      List.dlookup_append, List.dlookup_append]
    have hpre' : pre.flatten.dlookup k = none := List.dlookup_eq_none.mpr (List.ne_key.mpr hk)
    have hpost' : post.flatten.dlookup k = none := List.dlookup_eq_none.mpr (List.ne_key.mpr hk')
    rw [hpre', hpost', Option.none_or, Option.or_none]
  rw [hlookup, List.map_dlookup_eq_find, ← hpre, List.getElem?_append_right le_rfl, Nat.sub_self,
    List.getElem?_cons_zero, Option.getD_some]

/-- The bucket of a key that the map does not have, with an entry for it, is the map with it. -/
theorem append (h : Filed index tab m) (hk : k ∉ m) :
    Filed index (tab.modify (index k) (· ++ [⟨k, v⟩])) (m.insert k v) := by
  refine h.modify (fun l e he => ?_) ?_
  · exact (List.mem_append.mp he).imp_right fun he => by rw [List.mem_singleton.mp he]
  · obtain ⟨pre, l, post, rfl, hpre, -, -⟩ := h.split k
    have hperm := h.perm
    rw [List.flatten_append, List.flatten_cons] at hperm
    rw [flatten_modify hpre, AList.entries_insert_of_notMem hk]
    refine List.Perm.trans ?_ (hperm.cons ⟨k, v⟩)
    rw [List.append_assoc, List.append_assoc, List.singleton_append, ← List.append_assoc, ← List.append_assoc]
    exact List.perm_middle

/-- Replacing the value in the bucket is inserting it. -/
theorem replace (h : Filed index tab m) (hk : k ∈ m) :
    Filed index (tab.modify (index k) (List.kreplace k v)) (m.insert k v) := by
  refine h.modify (fun l e he => mem_of_mem_kreplace he) ?_
  obtain ⟨pre, l, post, rfl, hpre, hk₁, hk₂⟩ := h.split k
  have hperm := h.perm
  rw [List.flatten_append, List.flatten_cons] at hperm
  have hmem : k ∈ (pre.flatten ++ (l ++ post.flatten)).keys := (hperm.map _).mem_iff.mpr hk
  have hl : k ∈ l.keys := by
    rw [List.keys_append, List.keys_append, List.mem_append, List.mem_append] at hmem
    exact (hmem.resolve_left (List.ne_key.mpr hk₁)).resolve_right (List.ne_key.mpr hk₂)
  have hnodup : (pre.flatten ++ (l ++ post.flatten)).NodupKeys := (List.perm_nodupKeys hperm).mpr m.nodupKeys
  calc ((pre ++ l :: post).modify (index k) (List.kreplace k v)).flatten
      = pre.flatten ++ l.kreplace k v ++ post.flatten := flatten_modify hpre
    _ ~ pre.flatten ++ (⟨k, v⟩ :: l.kerase k) ++ post.flatten :=
        ((kreplace_perm hl).append_left _).append_right _
    _ ~ ⟨k, v⟩ :: (pre.flatten ++ (l.kerase k ++ post.flatten)) := by
        rw [List.append_assoc, List.cons_append]
        exact List.perm_middle
    _ = ⟨k, v⟩ :: (pre.flatten ++ (l ++ post.flatten)).kerase k := by
        rw [List.kerase_append_right (List.ne_key.mpr hk₁), List.kerase_append_left hl]
    _ ~ ⟨k, v⟩ :: m.entries.kerase k := (hperm.kerase hnodup).cons _

/-- Filtering the bucket is erasing. -/
theorem filter (h : Filed index tab m) :
    Filed index (tab.modify (index k) (List.filter (k ≠ ·.1))) (m.erase k) := by
  refine h.modify (fun l e he => .inl (List.mem_of_mem_filter he)) ?_
  obtain ⟨pre, l, post, rfl, hpre, hk₁, hk₂⟩ := h.split k
  have hperm := h.perm
  rw [List.flatten_append, List.flatten_cons] at hperm
  have hpre' : pre.flatten.filter (k ≠ ·.1) = pre.flatten :=
    List.filter_eq_self.mpr fun e he => decide_eq_true (hk₁ e he)
  have hpost' : post.flatten.filter (k ≠ ·.1) = post.flatten :=
    List.filter_eq_self.mpr fun e he => decide_eq_true (hk₂ e he)
  have hentries : (m.erase k).entries = m.entries.filter (k ≠ ·.1) := kerase_eq_filter m.nodupKeys
  rw [flatten_modify hpre, hentries, List.append_assoc]
  have hfilter := hperm.filter (k ≠ ·.1)
  rwa [List.filter_append, List.filter_append, hpre', hpost'] at hfilter

end Filed

/-! ## Other names for the keys

Naming the keys anew, each in its own way, changes nothing about the map: the operations on it are those under
the old names. -/

section Rename

variable {κ' : Type*} {name : κ → κ'}

/-- A finite map under other names for its keys. -/
def rename (hname : Function.Injective name) (m : FiniteMap κ α) : FiniteMap κ' α :=
  ⟨m.entries.map (Sigma.map name fun _ => id), m.nodupKeys.map₁ name hname⟩

variable {hname : Function.Injective name} {m : FiniteMap κ α} {k : κ} {v : α}

theorem entries_rename : (rename hname m).entries = m.entries.map (Sigma.map name fun _ => id) := rfl

@[simp] theorem rename_empty : rename hname (∅ : FiniteMap κ α) = ∅ := rfl

@[simp] theorem length_entries_rename : (rename hname m).entries.length = m.entries.length :=
  List.length_map _

@[simp] theorem keys_rename : (rename hname m).keys = m.keys.map name := by
  simp [rename, AList.keys, List.keys, Function.comp_def, Sigma.map]

@[simp] theorem mem_rename : name k ∈ rename hname m ↔ k ∈ m := by
  rw [AList.mem_keys, keys_rename, List.mem_map_of_injective hname, AList.mem_keys]

variable [DecidableEq κ] [DecidableEq κ']

@[simp] theorem lookup_rename : (rename hname m).lookup (name k) = m.lookup k :=
  List.dlookup_map₁ m.entries hname k

@[simp] theorem erase_rename : (rename hname m).erase (name k) = rename hname (m.erase k) := by
  apply AList.ext
  have hentries : (m.erase k).entries = m.entries.filter (k ≠ ·.1) := kerase_eq_filter m.nodupKeys
  have hentries' : ((rename hname m).erase (name k)).entries =
      (rename hname m).entries.filter (name k ≠ ·.1) := kerase_eq_filter (rename hname m).nodupKeys
  rw [hentries', entries_rename, entries_rename, hentries, List.filter_map]
  congr 1
  refine List.filter_congr fun e _ => ?_
  simp [Sigma.map, hname.eq_iff]

@[simp] theorem insert_rename : (rename hname m).insert (name k) v = rename hname (m.insert k v) := by
  apply AList.ext
  have herase : ((rename hname m).erase (name k)).entries = (rename hname (m.erase k)).entries := by
    rw [erase_rename]
  exact congrArg (⟨name k, v⟩ :: ·) herase

end Rename

end Machinery
