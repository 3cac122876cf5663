namespace GenericTypes

/-- Handles in the order opposite to that of their first visits, each once. -/
structure Visited (H : Type) where
  handles : List H

namespace Visited

variable {H : Type}

def empty : Visited H := ⟨[]⟩

def record [DecidableEq H] (visited : Visited H) (h : H) : Bool × Visited H :=
  if h ∈ visited.handles then (false, visited) else (true, ⟨h :: visited.handles⟩)

theorem mem_record [DecidableEq H] (visited : Visited H) (h other : H) :
    other ∈ (visited.record h).2.handles ↔ other = h ∨ other ∈ visited.handles := by
  by_cases known : h ∈ visited.handles
  · simp only [record, known, ↓reduceIte]
    exact ⟨Or.inr, fun either => either.elim (fun same => same ▸ known) id⟩
  · simp [record, known]

theorem nodup_record [DecidableEq H] {visited : Visited H} (distinct : visited.handles.Nodup)
    (h : H) : (visited.record h).2.handles.Nodup := by
  by_cases known : h ∈ visited.handles
  · simpa [record, known] using distinct
  · simp [record, known, distinct]

def count (visited : Visited H) : Nat := visited.handles.length

end Visited

end GenericTypes
