/-
Module: BairuiPlatform.Foundations.OrderedMap
Purpose: Maps that list their keys in the order in which these came in.
Trusted boundary: none
Main exports: OrderedMap, OrderedMap.get?, OrderedMap.set, OrderedMap.delete
-/
import BairuiPlatform.Foundations.Table

namespace BairuiPlatform.Foundations

/-- A map that keeps its entries in the order in which their keys came in. -/
structure OrderedMap (κ ν : Type*) where
  entries : List (κ × ν)
  keyed : Keyed Prod.fst entries

namespace OrderedMap

variable {κ ν : Type*} [DecidableEq κ]

/-- The map without entries. -/
def empty : OrderedMap κ ν :=
  { entries := []
    keyed := List.nodup_nil }

/-- The keys, the one that came in first first. -/
def keys (map : OrderedMap κ ν) : List κ :=
  map.entries.map Prod.fst

/-- The values, in the order of their keys. -/
def values (map : OrderedMap κ ν) : List ν :=
  map.entries.map Prod.snd

/-- The value of a key, if the map has the key. -/
@[grind =] def get? (map : OrderedMap κ ν) (key : κ) : Option ν :=
  (map.entries.find? fun entry => entry.1 = key).map Prod.snd

/-- The map has the key. -/
def has (map : OrderedMap κ ν) (key : κ) : Bool :=
  (map.get? key).isSome

theorem get?_eq_none {map : OrderedMap κ ν} {key : κ} :
    map.get? key = none ↔ key ∉ map.keys := by
  unfold get? keys
  rw [Option.map_eq_none_iff, List.find?_eq_none, List.mem_map]
  constructor
  · intro absent found
    obtain ⟨entry, member, same⟩ := found
    exact absent entry member (decide_eq_true same)
  · intro absent entry member same
    exact absent ⟨entry, member, of_decide_eq_true same⟩

/-- A key that the map has not keeps the keys apart. -/
theorem keyed_snoc {map : OrderedMap κ ν} {key : κ} (value : ν)
    (fresh : map.has key = false) : Keyed Prod.fst (map.entries ++ [(key, value)]) := by
  apply map.keyed.snoc
  intro entry member same
  have absent : key ∉ map.keys :=
    get?_eq_none.mp (Option.isNone_iff_eq_none.mp (Option.isSome_eq_false_iff.mp fresh))
  have own : entry.1 = key := same
  apply absent
  rw [← own]
  exact List.mem_map_of_mem member

/-- The map with a value for a key, which keeps its place if the map has it. -/
@[grind =] def set (map : OrderedMap κ ν) (key : κ) (value : ν) : OrderedMap κ ν :=
  if fresh : map.has key = false then
    { entries := map.entries ++ [(key, value)]
      keyed := keyed_snoc value fresh }
  else
    { entries := updateWhere (fun entry => entry.1 = key) (fun entry => (entry.1, value))
        map.entries
      keyed := map.keyed.update fun _ => rfl }

/-- The map without a key. -/
@[grind =] def delete (map : OrderedMap κ ν) (key : κ) : OrderedMap κ ν where
  entries := map.entries.filter fun entry => entry.1 ≠ key
  keyed := List.Nodup.sublist (List.Sublist.map _ List.filter_sublist) map.keyed

theorem ext_entries {map other : OrderedMap κ ν} (same : map.entries = other.entries) :
    map = other := by
  cases map
  cases other
  cases same
  rfl

@[simp] theorem get?_empty (key : κ) : (empty : OrderedMap κ ν).get? key = none := rfl

@[simp] theorem has_empty (key : κ) : (empty : OrderedMap κ ν).has key = false := rfl

theorem has_eq_true {map : OrderedMap κ ν} {key : κ} :
    map.has key = true ↔ key ∈ map.keys := by
  unfold has
  rw [Option.isSome_iff_ne_none, ne_eq, get?_eq_none, not_not]

/-- Entries with other keys do not matter to the value of a key. -/
theorem find?_filter_of_ne {key other : κ} (distinct : key ≠ other) (entries : List (κ × ν)) :
    (entries.filter fun entry => entry.1 ≠ other).find? (fun entry => entry.1 = key) =
      entries.find? fun entry => entry.1 = key := by
  induction entries with
  | nil => rfl
  | cons entry entries ih =>
      by_cases removed : entry.1 = other
      · have skipped : ¬entry.1 = key := fun same => distinct (same.symm.trans removed)
        rw [List.filter_cons_of_neg (by simpa using removed), ih,
          List.find?_cons_of_neg (by simpa using skipped)]
      · rw [List.filter_cons_of_pos (by simpa using removed)]
        by_cases own : entry.1 = key
        · rw [List.find?_cons_of_pos (by simpa using own),
            List.find?_cons_of_pos (by simpa using own)]
        · rw [List.find?_cons_of_neg (by simpa using own),
            List.find?_cons_of_neg (by simpa using own), ih]

@[simp] theorem get?_delete_self (map : OrderedMap κ ν) (key : κ) :
    (map.delete key).get? key = none := by
  unfold get? delete
  rw [Option.map_eq_none_iff, List.find?_filter, List.find?_eq_none]
  intro entry _
  simp

theorem get?_delete_of_ne {map : OrderedMap κ ν} {key other : κ} (distinct : key ≠ other) :
    (map.delete other).get? key = map.get? key := by
  unfold get? delete
  exact congrArg _ (find?_filter_of_ne distinct map.entries)

/-- The search of a key in entries whose values change. -/
theorem find?_updateWhere {key other : κ} (value : ν) (entries : List (κ × ν)) :
    (updateWhere (fun entry => entry.1 = other) (fun entry => (entry.1, value)) entries).find?
        (fun entry => entry.1 = key) =
      (entries.find? fun entry => entry.1 = key).map fun entry =>
        if key = other then (entry.1, value) else entry := by
  have kept (entry : κ × ν) :
      (if decide (entry.1 = other) = true then (entry.1, value) else entry).1 = entry.1 := by
    split <;> rfl
  unfold updateWhere
  rw [List.find?_map]
  simp only [Function.comp_def, kept]
  cases found : entries.find? fun entry => entry.1 = key with
  | none => rfl
  | some entry =>
      have own := List.find?_some found
      rw [decide_eq_true_eq] at own
      simp only [Option.map_some, own, decide_eq_true_eq]

@[simp] theorem get?_set_self (map : OrderedMap κ ν) (key : κ) (value : ν) :
    (map.set key value).get? key = some value := by
  unfold set
  by_cases fresh : map.has key = false
  · rw [dif_pos fresh]
    have absent : map.entries.find? (fun entry => entry.1 = key) = none := by
      unfold has get? at fresh
      simpa using fresh
    unfold get?
    dsimp only
    rw [List.find?_append, absent, Option.none_or, List.find?_cons_of_pos (by simp),
      Option.map_some]
  · rw [dif_neg fresh]
    have stored : (map.get? key).isSome = true := Bool.eq_true_of_not_eq_false fresh
    unfold get? at stored ⊢
    dsimp only
    rw [find?_updateWhere]
    cases found : map.entries.find? fun entry => entry.1 = key with
    | none => simp [found] at stored
    | some entry => simp

theorem get?_set_of_ne {map : OrderedMap κ ν} {key other : κ} {value : ν}
    (distinct : key ≠ other) : (map.set other value).get? key = map.get? key := by
  unfold set
  by_cases fresh : map.has other = false
  · rw [dif_pos fresh]
    unfold get?
    dsimp only
    rw [List.find?_append, List.find?_cons_of_neg (by simpa using distinct.symm),
      List.find?_nil, Option.or_none]
  · rw [dif_neg fresh]
    unfold get?
    dsimp only
    rw [find?_updateWhere]
    simp [distinct]

/-- Entries with keys that the map has not yet come after the ones it has. -/
theorem entries_foldl_set {added : List (κ × ν)} {map : OrderedMap κ ν}
    (keyed : Keyed Prod.fst (map.entries ++ added)) :
    (added.foldl (fun map entry => map.set entry.1 entry.2) map).entries =
      map.entries ++ added := by
  induction added generalizing map with
  | nil => rw [List.foldl_nil, List.append_nil]
  | cons entry added ih =>
      have fresh : map.has entry.1 = false := by
        rw [← Bool.not_eq_true, has_eq_true]
        intro held
        unfold Keyed at keyed
        rw [List.map_append, List.nodup_append] at keyed
        exact keyed.2.2 _ held _ (List.mem_map_of_mem List.mem_cons_self) rfl
      have entries : (map.set entry.1 entry.2).entries = map.entries ++ [entry] := by
        unfold set
        rw [dif_pos fresh]
      rw [List.foldl_cons, ih, entries, List.append_assoc, List.singleton_append]
      rw [entries, List.append_assoc, List.singleton_append]
      exact keyed

/-- A key that has the value already is set to no effect. -/
theorem set_eq_self {map : OrderedMap κ ν} {key : κ} {value : ν}
    (held : map.get? key = some value) : map.set key value = map := by
  have stored : ¬map.has key = false := by
    unfold has
    rw [held]
    exact Bool.noConfusion
  have same : updateWhere (fun entry => decide (entry.1 = key)) (fun entry => (entry.1, value))
      map.entries = map.entries := by
    rw [updateWhere_eq_self]
    intro entry member own
    have found : map.entries.find? (fun other => decide (other.1 = entry.1)) = some entry :=
      map.keyed.find?_eq_some.mpr ⟨member, rfl⟩
    unfold get? at held
    rw [← of_decide_eq_true own, found] at held
    cases held
    rfl
  unfold set
  rw [dif_neg stored]
  simp only [same]

theorem forall_mem_set {map : OrderedMap κ ν} {key : κ} {value : ν} {holds : κ × ν → Prop}
    (before : ∀ entry ∈ map.entries, holds entry) (now : holds (key, value)) :
    ∀ entry ∈ (map.set key value).entries, holds entry := by
  intro entry member
  unfold set at member
  split at member
  · rcases List.mem_append.mp member with inside | added
    · exact before entry inside
    · rw [List.mem_singleton.mp added]
      exact now
  · rcases mem_updateWhere.mp member with ⟨old, -, own, rfl⟩ | ⟨inside, -⟩
    · rw [of_decide_eq_true own]
      exact now
    · exact before _ inside

theorem get?_eq_some {map : OrderedMap κ ν} {key : κ} {value : ν} :
    map.get? key = some value ↔ (key, value) ∈ map.entries := by
  unfold get?
  rw [Option.map_eq_some_iff]
  constructor
  · rintro ⟨entry, found, rfl⟩
    rw [map.keyed.find?_eq_some] at found
    rw [← found.2]
    exact found.1
  · intro member
    exact ⟨_, map.keyed.find?_eq_some.mpr ⟨member, rfl⟩, rfl⟩

/-- The entries after a key was set: the new one and those of the other keys. -/
theorem mem_entries_set {map : OrderedMap κ ν} {key : κ} {value : ν} {entry : κ × ν} :
    entry ∈ (map.set key value).entries ↔
      entry = (key, value) ∨ entry.1 ≠ key ∧ entry ∈ map.entries := by
  have held : (map.set key value).get? entry.1 = some entry.2 ↔
      entry ∈ (map.set key value).entries := get?_eq_some
  by_cases own : entry.1 = key
  · rw [← held, own, get?_set_self, Option.some.injEq]
    constructor
    · intro same
      exact .inl (Prod.ext own same.symm)
    · rintro (rfl | ⟨other, -⟩)
      · rfl
      · exact absurd rfl other
  · rw [← held, get?_set_of_ne own, get?_eq_some]
    constructor
    · exact fun member => .inr ⟨own, member⟩
    · rintro (rfl | ⟨-, member⟩)
      · exact absurd rfl own
      · exact member

/-- Setting a key leaves the entries of the other keys. -/
theorem filter_entries_set (wanted : κ → Bool) {map : OrderedMap κ ν} {key : κ} {value : ν}
    (other : wanted key = false) :
    (map.set key value).entries.filter (fun entry => wanted entry.1) =
      map.entries.filter fun entry => wanted entry.1 := by
  unfold set
  split
  · rw [List.filter_append, List.filter_cons_of_neg (by simp [other]), List.filter_nil,
      List.append_nil]
  · dsimp only
    refine Eq.trans (filter_updateWhere fun _ => rfl) ?_
    apply updateWhere_of_none
    intro entry member
    rw [List.mem_filter] at member
    rw [decide_eq_false_iff_not]
    intro own
    rw [own, other] at member
    exact Bool.false_ne_true member.2

end OrderedMap

end BairuiPlatform.Foundations
