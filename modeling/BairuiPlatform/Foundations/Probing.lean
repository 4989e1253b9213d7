/-
Module: BairuiPlatform.Foundations.Probing
Purpose: Places that keys take in probing order, when no place is ever given back.
Trusted boundary: none
Main exports: Probing.Blocked, Probing.IsNext, Probing.Settled, Probing.Settled.place
-/
import Mathlib.Data.List.Basic

namespace BairuiPlatform.Foundations

namespace Probing

variable {κ σ : Type*} {probe : κ → List σ} {placed placed' : κ → σ → Prop} {key other : κ}
  {slot slot' : σ}

/-- Another key has the place. -/
def Blocked (placed : κ → σ → Prop) (key : κ) (slot : σ) : Prop :=
  ∃ other, other ≠ key ∧ placed other slot

/-- The first place in the order of the key that no other key has. -/
def IsNext (probe : κ → List σ) (placed : κ → σ → Prop) (key : κ) (slot : σ) : Prop :=
  ∃ before after, probe key = before ++ slot :: after ∧
    (∀ earlier ∈ before, Blocked placed key earlier) ∧ ¬Blocked placed key slot

/-- Every key that has a place has the first one that no other key has, and no two keys have
the same. -/
structure Settled (probe : κ → List σ) (placed : κ → σ → Prop) : Prop where
  next : ∀ {key slot}, placed key slot → IsNext probe placed key slot
  apart : ∀ {key other slot}, placed key slot → placed other slot → key = other

/-- A key has at most one next place. -/
theorem IsNext.unique (first : IsNext probe placed key slot)
    (second : IsNext probe placed key slot') : slot = slot' := by
  obtain ⟨before, after, order, blocked, free⟩ := first
  obtain ⟨before', after', order', blocked', free'⟩ := second
  rw [order, List.append_eq_append_iff] at order'
  rcases order' with ⟨more, rfl, same⟩ | ⟨more, rfl, same⟩
  · cases more with
    | nil => exact (List.cons.inj same).1
    | cons skipped more =>
        rw [← (List.cons.inj same).1] at blocked'
        exact absurd (blocked' slot (List.mem_append_right _ List.mem_cons_self)) free
  · cases more with
    | nil => exact (List.cons.inj same).1.symm
    | cons skipped more =>
        rw [← (List.cons.inj same).1] at blocked
        exact absurd (blocked slot' (List.mem_append_right _ List.mem_cons_self)) free'

theorem IsNext.mem (next : IsNext probe placed key slot) : slot ∈ probe key := by
  obtain ⟨before, after, order, -⟩ := next
  rw [order]
  exact List.mem_append_right _ List.mem_cons_self

/-- A key that has a place finds that place again. -/
theorem Settled.stable (settled : Settled probe placed) (held : placed key slot)
    (next : IsNext probe placed key slot') : slot' = slot :=
  next.unique (settled.next held)

theorem settled_of_empty (empty : ∀ key slot, ¬placed key slot) : Settled probe placed where
  next held := absurd held (empty _ _)
  apart held := absurd held (empty _ _)

/-- A key that takes its next place leaves all keys settled. -/
theorem Settled.place (settled : Settled probe placed) (next : IsNext probe placed key slot)
    (taken : ∀ other slot', placed' other slot' ↔
      placed other slot' ∨ other = key ∧ slot' = slot) : Settled probe placed' := by
  have free {other : κ} (held : placed other slot) : other = key := by
    by_contra different
    obtain ⟨_, _, -, -, open_⟩ := next
    exact open_ ⟨other, different, held⟩
  have grows {other : κ} {earlier : σ} (blocked : Blocked placed other earlier) :
      Blocked placed' other earlier := by
    obtain ⟨third, different, held⟩ := blocked
    exact ⟨third, different, (taken _ _).mpr (.inl held)⟩
  constructor
  · intro other slot' held
    have before : IsNext probe placed other slot' := by
      rcases (taken _ _).mp held with old | ⟨rfl, rfl⟩
      · exact settled.next old
      · exact next
    obtain ⟨first, rest, order, blocked, open_⟩ := before
    refine ⟨first, rest, order, fun earlier inside => grows (blocked earlier inside), ?_⟩
    rintro ⟨third, different, now⟩
    rcases (taken _ _).mp now with old | ⟨rfl, rfl⟩
    · exact open_ ⟨third, different, old⟩
    · rcases (taken _ _).mp held with old | ⟨rfl, -⟩
      · exact different (free old).symm
      · exact different rfl
  · intro first second slot' held held'
    rcases (taken _ _).mp held with old | ⟨rfl, rfl⟩
    · rcases (taken _ _).mp held' with old' | ⟨rfl, rfl⟩
      · exact settled.apart old old'
      · exact free old
    · rcases (taken _ _).mp held' with old' | ⟨rfl, -⟩
      · exact (free old').symm
      · rfl

end Probing

end BairuiPlatform.Foundations
