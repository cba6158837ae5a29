/-
The leader of a list under a key: the first element with the least key. A stable sort puts it in
front, and where the key is only close to another one, it is close to the least of the other.
-/
import Mathlib.Data.List.Sort
import Mathlib.Algebra.Order.Field.Basic
import Mathlib.Tactic.Linarith

namespace Stats

/-- `m` is the first element of `xs` with the least key. -/
def Leads {α β : Type} [LT β] [LE β] (key : α → β) (xs : List α) (m : α) : Prop :=
  ∃ before after, xs = before ++ m :: after ∧ (∀ y ∈ before, key m < key y) ∧ ∀ y ∈ after, key m ≤ key y

variable {α β γ : Type} [LinearOrder β] {key : α → β} {xs : List α} {m : α}

theorem Leads.mem (h : Leads key xs m) : m ∈ xs := by
  obtain ⟨before, after, rfl, -, -⟩ := h
  exact List.mem_append_right _ (List.mem_cons_self ..)

theorem Leads.le (h : Leads key xs m) : ∀ y ∈ xs, key m ≤ key y := by
  obtain ⟨before, after, rfl, hbefore, hafter⟩ := h
  intro y hy
  rcases List.mem_append.1 hy with hy | hy
  · exact (hbefore y hy).le
  · rcases List.mem_cons.1 hy with rfl | hy
    · exact le_rfl
    · exact hafter y hy

/-- The leader is the head, unless a later element has a smaller key. -/
theorem leads_cons {x : α} : Leads key (x :: xs) m ↔
    (m = x ∧ ∀ y ∈ xs, key x ≤ key y) ∨ (key m < key x ∧ Leads key xs m) := by
  constructor
  · rintro ⟨before, after, hxs, hbefore, hafter⟩
    cases before with
    | nil =>
      cases hxs
      exact .inl ⟨rfl, hafter⟩
    | cons b before =>
      cases hxs
      obtain ⟨hb, hbefore⟩ := List.forall_mem_cons.1 hbefore
      exact .inr ⟨hb, before, after, rfl, hbefore, hafter⟩
  · rintro (⟨rfl, hle⟩ | ⟨hlt, before, after, rfl, hbefore, hafter⟩)
    · exact ⟨[], xs, rfl, List.forall_mem_nil _, hle⟩
    · exact ⟨x :: before, after, rfl, List.forall_mem_cons.2 ⟨hlt, hbefore⟩, hafter⟩

theorem Leads.unique (h : Leads key xs m) {m' : α} (h' : Leads key xs m') : m = m' := by
  induction xs with
  | nil => exact absurd h.mem List.not_mem_nil
  | cons x xs ih =>
    rcases leads_cons.1 h with ⟨rfl, hle⟩ | ⟨hlt, htail⟩
    · rcases leads_cons.1 h' with ⟨rfl, -⟩ | ⟨hlt', htail'⟩
      · rfl
      · exact absurd (hle m' htail'.mem) (not_le.2 hlt')
    · rcases leads_cons.1 h' with ⟨rfl, hle⟩ | ⟨-, htail'⟩
      · exact absurd (hle m htail.mem) (not_le.2 hlt)
      · exact ih htail htail'

/-- Keys that are the same lead the same way. -/
theorem leads_congr {key' : α → β} (hkey : ∀ x ∈ xs, key x = key' x) : Leads key xs m ↔ Leads key' xs m := by
  induction xs with
  | nil => exact iff_of_false (fun h => absurd h.mem List.not_mem_nil) fun h => absurd h.mem List.not_mem_nil
  | cons x xs ih =>
    obtain ⟨hx, hxs⟩ := List.forall_mem_cons.1 hkey
    rw [leads_cons, leads_cons, ih hxs, hx]
    refine or_congr (and_congr_right fun _ => forall₂_congr fun y hy => by rw [hxs y hy]) ?_
    exact and_congr_left fun h => by rw [hxs m h.mem]

theorem leads_map {f : γ → α} {ys : List γ} :
    Leads key (ys.map f) m ↔ ∃ y, Leads (fun y => key (f y)) ys y ∧ f y = m := by
  induction ys with
  | nil => exact iff_of_false (fun h => absurd h.mem List.not_mem_nil) fun ⟨y, h, _⟩ => absurd h.mem List.not_mem_nil
  | cons y ys ih =>
    rw [List.map_cons, leads_cons, ih, List.forall_mem_map]
    constructor
    · rintro (⟨rfl, hle⟩ | ⟨hlt, z, hz, rfl⟩)
      · exact ⟨y, leads_cons.2 (.inl ⟨rfl, hle⟩), rfl⟩
      · exact ⟨z, leads_cons.2 (.inr ⟨hlt, hz⟩), rfl⟩
    · rintro ⟨z, hz, rfl⟩
      rcases leads_cons.1 hz with ⟨rfl, hle⟩ | ⟨hlt, hz⟩
      · exact .inl ⟨rfl, hle⟩
      · exact .inr ⟨hlt, z, hz, rfl⟩

/-- A stable sort puts the leader in front. -/
theorem head?_insertionSort_eq_some : (xs.insertionSort fun a b => key a ≤ key b).head? = some m ↔ Leads key xs m := by
  induction xs generalizing m with
  | nil => exact iff_of_false (by rintro ⟨⟩) fun h => absurd h.mem List.not_mem_nil
  | cons x xs ih =>
    rw [List.insertionSort_cons, leads_cons]
    cases hsort : xs.insertionSort fun a b => key a ≤ key b with
    | nil =>
      have hnil : xs = [] := by
        rw [← List.length_eq_zero_iff, ← List.length_insertionSort (fun a b => key a ≤ key b), hsort]; rfl
      subst hnil
      constructor
      · rintro ⟨⟩; exact .inl ⟨rfl, List.forall_mem_nil _⟩
      · rintro (⟨rfl, -⟩ | ⟨-, h⟩)
        · rfl
        · exact absurd h.mem List.not_mem_nil
    | cons y ys =>
      have hy : Leads key xs y := ih.1 (by rw [hsort]; rfl)
      rw [List.orderedInsert]
      split
      · rename_i hle
        constructor
        · rintro ⟨⟩; exact .inl ⟨rfl, fun z hz => hle.trans (hy.le z hz)⟩
        · rintro (⟨rfl, -⟩ | ⟨hlt, h⟩)
          · rfl
          · rw [h.unique hy] at hlt
            exact absurd hle (not_le.2 hlt)
      · rename_i hle
        constructor
        · rintro ⟨⟩; exact .inr ⟨not_le.1 hle, hy⟩
        · rintro (⟨rfl, hall⟩ | ⟨-, h⟩)
          · exact absurd (hall y hy.mem) hle
          · rw [h.unique hy]; rfl

/-- What leads by a key within `e` of a figure has a figure within twice that of the least. -/
theorem Leads.near {K : Type} [Field K] [LinearOrder K] [IsStrictOrderedRing K] {figure key : α → K} {e : K}
    (hnear : ∀ x ∈ xs, |key x - figure x| ≤ e) (h : Leads key xs m) : ∀ y ∈ xs, figure m ≤ figure y + 2 * e := by
  intro y hy
  have hm := (abs_le.1 (hnear m h.mem)).1
  have hy' := (abs_le.1 (hnear y hy)).2
  have hle := h.le y hy
  linarith

end Stats
