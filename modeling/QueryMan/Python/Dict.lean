import Mathlib.Data.List.Induction
import Mathlib.Order.Lattice
import Mathlib.Tactic.Common

/-!
# Dictionaries

A Python dictionary is the list of its items in the order of insertion. Two keys are the same where
a normal form of them is, as `1` and `True` are. Where the keys are their own normal forms, what a
dictionary holds is what `List.lookup` finds, and sorting the items forgets the order of insertion.
-/

namespace Python

variable {κ ν α : Type} [DecidableEq ν] {norm : κ → ν}

/-- `d[key] = value`: a key that is there keeps its place, and stays the key that it was. -/
def setItem (norm : κ → ν) (key : κ) (value : α) : List (κ × α) → List (κ × α)
  | [] => [(key, value)]
  | item :: items =>
    if norm item.1 = norm key then (item.1, value) :: items
    else item :: setItem norm key value items

/-- The dictionary of a list of pairs. -/
def dictOf (norm : κ → ν) (pairs : List (κ × α)) : List (κ × α) :=
  pairs.foldl (fun items pair => setItem norm pair.1 pair.2 items) []

/-- The keys of a dictionary are distinct. -/
def DistinctKeys (norm : κ → ν) (items : List (κ × α)) : Prop :=
  items.Pairwise fun item item' => norm item.1 ≠ norm item'.1

/-- Every item has a key of the dictionary or the new one. -/
theorem mem_setItem {key : κ} {value : α} {items : List (κ × α)} {item : κ × α}
    (h : item ∈ setItem norm key value items) :
    item ∈ items ∨ (item.2 = value ∧ (item.1 = key ∨ ∃ value', (item.1, value') ∈ items)) := by
  induction items with
  | nil =>
    obtain rfl := List.mem_singleton.1 h
    exact .inr ⟨rfl, .inl rfl⟩
  | cons head items ih =>
    rw [setItem] at h
    split at h
    · rcases List.mem_cons.1 h with rfl | h
      · exact .inr ⟨rfl, .inr ⟨head.2, List.mem_cons_self⟩⟩
      · exact .inl (List.mem_cons_of_mem _ h)
    · rcases List.mem_cons.1 h with rfl | h
      · exact .inl List.mem_cons_self
      · rcases ih h with h | ⟨hvalue, hkey | ⟨value', hmem⟩⟩
        · exact .inl (List.mem_cons_of_mem _ h)
        · exact .inr ⟨hvalue, .inl hkey⟩
        · exact .inr ⟨hvalue, .inr ⟨value', List.mem_cons_of_mem _ hmem⟩⟩

theorem DistinctKeys.setItem {key : κ} {value : α} {items : List (κ × α)}
    (h : DistinctKeys norm items) : DistinctKeys norm (setItem norm key value items) := by
  induction items with
  | nil => exact List.pairwise_singleton _ _
  | cons head items ih =>
    obtain ⟨hhead, hitems⟩ := List.pairwise_cons.1 h
    rw [Python.setItem]
    split
    · exact List.pairwise_cons.2 ⟨hhead, hitems⟩
    · next hne =>
      refine List.pairwise_cons.2 ⟨fun item hitem => ?_, ih hitems⟩
      rcases mem_setItem hitem with hmem | ⟨-, hkey | ⟨value', hmem⟩⟩
      · exact hhead item hmem
      · rw [hkey]
        exact hne
      · exact hhead (item.1, value') hmem

/-- A key that is not there comes last. -/
theorem setItem_of_new {key : κ} {value : α} {items : List (κ × α)}
    (h : ∀ item ∈ items, norm item.1 ≠ norm key) :
    setItem norm key value items = items ++ [(key, value)] := by
  induction items with
  | nil => rfl
  | cons head items ih =>
    rw [setItem, if_neg (h head List.mem_cons_self),
      ih fun item hitem => h item (List.mem_cons_of_mem _ hitem), List.cons_append]

section
variable (norm)

theorem dictOf_append (pairs : List (κ × α)) (pair : κ × α) :
    dictOf norm (pairs ++ [pair]) = setItem norm pair.1 pair.2 (dictOf norm pairs) := by
  unfold dictOf
  rw [List.foldl_append]
  rfl

theorem distinctKeys_dictOf (pairs : List (κ × α)) : DistinctKeys norm (dictOf norm pairs) := by
  induction pairs using List.reverseRecOn with
  | nil => exact List.Pairwise.nil
  | append_singleton pairs pair ih =>
    rw [dictOf_append]
    exact ih.setItem

end

/-- Pairs with distinct keys are the items of their dictionary. -/
theorem dictOf_eq_self {items : List (κ × α)} (h : DistinctKeys norm items) :
    dictOf norm items = items := by
  induction items using List.reverseRecOn with
  | nil => rfl
  | append_singleton items item ih =>
    obtain ⟨hitems, -, hnew⟩ := List.pairwise_append.1 h
    rw [dictOf_append, ih hitems,
      setItem_of_new fun item' hitem' => hnew item' hitem' item (List.mem_singleton.2 rfl)]

/-- Keys and values of a dictionary are those of its pairs. -/
theorem mem_dictOf {pairs : List (κ × α)} {item : κ × α} (h : item ∈ dictOf norm pairs) :
    (∃ value, (item.1, value) ∈ pairs) ∧ ∃ key, (key, item.2) ∈ pairs := by
  induction pairs using List.reverseRecOn generalizing item with
  | nil => exact absurd h List.not_mem_nil
  | append_singleton pairs pair ih =>
    have hlast : pair ∈ pairs ++ [pair] := List.mem_append_right _ (List.mem_singleton.2 rfl)
    have hkept : ∀ {item' : κ × α}, item' ∈ dictOf norm pairs →
        (∃ value, (item'.1, value) ∈ pairs ++ [pair]) ∧
          ∃ key, (key, item'.2) ∈ pairs ++ [pair] := by
      intro item' hitem'
      obtain ⟨⟨value, hvalue⟩, key, hkey⟩ := ih hitem'
      exact ⟨⟨value, List.mem_append_left _ hvalue⟩, key, List.mem_append_left _ hkey⟩
    rw [dictOf_append] at h
    rcases mem_setItem h with hmem | ⟨hvalue, hkey⟩
    · exact hkept hmem
    · refine ⟨?_, pair.1, hvalue ▸ hlast⟩
      rcases hkey with hkey | ⟨value', hmem⟩
      · exact ⟨pair.2, hkey ▸ hlast⟩
      · exact (hkept hmem).1

/-! ## Lookups -/

section
variable [DecidableEq κ] [BEq κ] [LawfulBEq κ]

theorem lookup_cons_eq (head : κ × α) (items : List (κ × α)) (key : κ) :
    (head :: items).lookup key = if key = head.1 then some head.2 else items.lookup key := by
  rw [List.lookup_cons]
  by_cases hkey : key = head.1
  · rw [if_pos hkey, beq_iff_eq.2 hkey]
  · rw [if_neg hkey, beq_eq_false_iff_ne.2 hkey]

/-- A lookup behind a write. -/
theorem lookup_setItem (key key' : κ) (value : α) (items : List (κ × α)) :
    (setItem id key value items).lookup key' =
      if key' = key then some value else items.lookup key' := by
  induction items with
  | nil => rw [setItem, lookup_cons_eq]
  | cons head items ih =>
    rw [setItem, lookup_cons_eq]
    split
    · next hhead =>
      have hkey : head.1 = key := hhead
      rw [lookup_cons_eq, hkey]
      split <;> rfl
    · next hhead =>
      have hkey : head.1 ≠ key := hhead
      rw [lookup_cons_eq, ih]
      by_cases heq : key' = head.1
      · rw [if_pos heq, if_pos heq, if_neg (heq ▸ hkey)]
      · rw [if_neg heq, if_neg heq]

/-- A lookup among the items with a key of some kind. -/
theorem lookup_filter_key (p : κ → Bool) (items : List (κ × α)) (key : κ) :
    (items.filter fun item => p item.1).lookup key = if p key then items.lookup key else none := by
  induction items with
  | nil => simp
  | cons head items ih =>
    rw [lookup_cons_eq, List.filter_cons]
    by_cases hkey : key = head.1
    · subst hkey
      by_cases hp : p head.1 <;> simp [hp, ih, lookup_cons_eq]
    · by_cases hp : p head.1 <;> simp [hp, ih, hkey, lookup_cons_eq]

/-- A lookup in a dictionary that is made from its keys. -/
theorem lookup_dictOf_map (keys : List κ) (value : κ → α) (key : κ) :
    (dictOf id (keys.map fun key => (key, value key))).lookup key =
      if key ∈ keys then some (value key) else none := by
  induction keys using List.reverseRecOn with
  | nil => rfl
  | append_singleton keys key' ih =>
    rw [List.map_append, List.map_singleton, dictOf_append, lookup_setItem, ih]
    by_cases hkey : key = key' <;> simp [hkey]

/-- The items of a dictionary are what is looked up. -/
theorem mem_iff_lookup {items : List (κ × α)} (h : DistinctKeys id items) {key : κ} {value : α} :
    (key, value) ∈ items ↔ items.lookup key = some value := by
  induction items with
  | nil => simp
  | cons head items ih =>
    obtain ⟨hhead, hitems⟩ := List.pairwise_cons.1 h
    rw [List.mem_cons, lookup_cons_eq]
    by_cases hkey : key = head.1
    · subst hkey
      rw [if_pos rfl, Option.some_inj]
      refine ⟨fun hmem => ?_, fun hvalue => .inl (Prod.ext rfl hvalue.symm)⟩
      rcases hmem with heq | hmem
      · exact (congrArg Prod.snd heq).symm
      · exact absurd rfl (hhead (head.1, value) hmem)
    · rw [if_neg hkey, ← ih hitems]
      refine ⟨fun hmem => hmem.resolve_left fun heq => hkey (congrArg Prod.fst heq), .inr⟩

end

/-! ## Sorted items -/

section
variable {β : Type} [LinearOrder β] {key : α → β} {items items' : List α}

/-- Distinct keys are strictly increasing once the items are sorted by them. -/
theorem pairwise_lt_mergeSort (h : (items.map key).Nodup) :
    (items.mergeSort fun a b => key a ≤ key b).Pairwise fun a b => key a < key b := by
  have htrans : ∀ a b c : α, decide (key a ≤ key b) = true → decide (key b ≤ key c) = true →
      decide (key a ≤ key c) = true := by
    intro a b c hab hbc
    exact decide_eq_true (le_trans (of_decide_eq_true hab) (of_decide_eq_true hbc))
  have hle : (items.mergeSort fun a b => key a ≤ key b).Pairwise
      fun a b => decide (key a ≤ key b) :=
    List.pairwise_mergeSort htrans (fun a b => by simpa using le_total (key a) (key b)) items
  have hperm := List.mergeSort_perm items fun a b => decide (key a ≤ key b)
  have hne : (items.mergeSort fun a b => key a ≤ key b).Pairwise fun a b => key a ≠ key b :=
    List.pairwise_map.1 ((hperm.map key).nodup_iff.2 h)
  exact (hle.and hne).imp fun ⟨hle, hne⟩ => lt_of_le_of_ne (of_decide_eq_true hle) hne

/-- Lists with increasing keys are equal if they have the same items. -/
theorem eq_of_increasing (h : items.Pairwise fun a b => key a < key b)
    (h' : items'.Pairwise fun a b => key a < key b) (hmem : ∀ a, a ∈ items ↔ a ∈ items') :
    items = items' := by
  have hne : ∀ {a b : α}, key a < key b → a ≠ b := fun hlt heq => absurd hlt (heq ▸ lt_irrefl _)
  have hperm : items.Perm items' :=
    (List.perm_ext_iff_of_nodup (h.imp hne) (h'.imp hne)).2 hmem
  exact hperm.eq_of_pairwise (fun a b _ _ hab hba => absurd hab (lt_asymm hba)) h h'

/-- Sorting forgets the order of insertion. -/
theorem mergeSort_key_congr (hperm : items.Perm items') (h : (items.map key).Nodup) :
    (items.mergeSort fun a b => key a ≤ key b) = items'.mergeSort fun a b => key a ≤ key b := by
  have h' : (items'.map key).Nodup := (hperm.map key).nodup_iff.1 h
  refine eq_of_increasing (pairwise_lt_mergeSort h) (pairwise_lt_mergeSort h') fun a => ?_
  rw [List.mem_mergeSort, List.mem_mergeSort, hperm.mem_iff]

end

end Python
