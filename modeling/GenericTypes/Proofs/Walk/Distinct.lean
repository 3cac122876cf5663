import GenericTypes.Proofs.Walk.Trace
import Mathlib.Data.List.Perm.Subperm

namespace GenericTypes.Trace

variable {α : Type} [DecidableEq α] {seen sequence : List α} {a : α} {trace : Trace α}

def distinctAfter (trace : Trace α) (seen : List α) : Trace α :=
  ⟨(trace.sequence.filter (· ∉ seen)).eraseDups, trace.ending⟩

theorem distinctAfter_nil (trace : Trace α) :
    trace.distinctAfter [] = ⟨trace.sequence.eraseDups, trace.ending⟩ := by
  simp [distinctAfter]

theorem distinctAfter_cons_known (known : a ∈ seen) :
    (trace.cons a).distinctAfter seen = trace.distinctAfter seen := by
  simp [distinctAfter, cons, known]

theorem distinctAfter_cons_fresh (fresh : a ∉ seen) :
    (trace.cons a).distinctAfter seen = (trace.distinctAfter (a :: seen)).cons a := by
  have kept : (a :: trace.sequence).filter (· ∉ seen) = a :: trace.sequence.filter (· ∉ seen) := by
    simp [fresh]
  simp only [distinctAfter, cons, kept, List.eraseDups_cons, List.filter_filter]
  congr 3
  apply List.filter_congr
  intro b _
  by_cases same : b = a <;> simp [same]

theorem distinctAfter_of_subset (known : ∀ a ∈ trace.sequence, a ∈ seen) :
    trace.distinctAfter seen = ⟨[], trace.ending⟩ := by
  have nothing : trace.sequence.filter (· ∉ seen) = [] := by simpa using known
  rw [distinctAfter, nothing, List.eraseDups_nil]

theorem distinctAfter_andThen (first second : Trace α) (seen : List α) :
    (first.andThen second).distinctAfter seen =
      (first.distinctAfter seen).andThen
        (second.distinctAfter ((first.distinctAfter seen).sequence.reverse ++ seen)) := by
  by_cases completed : first.ending = .completed
  · have completedDistinct : (first.distinctAfter seen).ending = .completed := completed
    rw [andThen_of_completed completed, andThen_of_completed completedDistinct]
    simp only [distinctAfter, mk.injEq, and_true, List.filter_append, List.eraseDups_append,
      List.append_cancel_left_eq]
    congr 1
    rw [List.removeAll, List.filter_filter]
    apply List.filter_congr
    intro a _
    by_cases known : a ∈ seen <;> simp [known, List.mem_eraseDups]
  · have endedDistinct : (first.distinctAfter seen).ending ≠ .completed := completed
    rw [andThen_of_ne_completed completed, andThen_of_ne_completed endedDistinct]

theorem length_le_eraseDups {part : List α} (distinct : part.Nodup) (inside : part ⊆ sequence) :
    part.length ≤ sequence.eraseDups.length :=
  (distinct.subperm fun _ member => List.mem_eraseDups.mpr (inside member)).length_le

end GenericTypes.Trace
