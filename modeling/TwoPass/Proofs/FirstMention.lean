import Mathlib.Data.List.Nodup
import TwoPass.Externals

/-!
# Lists in order of first mention

Literals and shared names are listed in the order in which they are first mentioned, each once.  For
a row of mentions that list is `List.eraseDups`.  The statements here say how it grows when a row
goes on, and that the names of a section are merged in this way.
-/

namespace TwoPass

section Rows

variable {α : Type} [DecidableEq α]

/-- A row of mentions lists each of them once. -/
theorem nodup_eraseDups (row : List α) : row.eraseDups.Nodup := by
  induction length : row.length using Nat.strongRecOn generalizing row with
  | ind count ih =>
    cases row with
    | nil => exact List.nodup_nil
    | cons first rest =>
      rw [List.eraseDups_cons, List.nodup_cons]
      refine ⟨?_, ih _ ?_ _ rfl⟩
      · rw [List.mem_eraseDups, List.mem_filter]
        simp
      · have shorter := List.length_filter_le (fun other => !other == first) rest
        rw [← length, List.length_cons]
        omega

/-- A row without repetitions is its own list of mentions. -/
theorem eraseDups_of_nodup {row : List α} (different : row.Nodup) : row.eraseDups = row := by
  induction row with
  | nil => rfl
  | cons first rest ih =>
    rw [List.nodup_cons] at different
    have kept : rest.filter (fun other => !other == first) = rest := by
      rw [List.filter_eq_self]
      intro other mem
      have apart : other ≠ first := fun same => different.1 (same ▸ mem)
      simpa using apart
    rw [List.eraseDups_cons, kept, ih different.2]

/-- A mention of what was mentioned before adds nothing. -/
theorem eraseDups_append_cons_of_mem {row : List α} {again : α} (known : again ∈ row)
    (rest : List α) : (row ++ again :: rest).eraseDups = (row ++ rest).eraseDups := by
  rw [List.eraseDups_append, List.eraseDups_append, List.cons_removeAll]
  simp [known]

/-- A further mention is listed behind all others, unless it was mentioned before. -/
theorem eraseDups_concat (row : List α) (last : α) :
    (row ++ [last]).eraseDups =
      if last ∈ row.eraseDups then row.eraseDups else row.eraseDups ++ [last] := by
  rw [List.eraseDups_append, List.cons_removeAll]
  by_cases known : last ∈ row
  · simp [known]
  · simp [known, eraseDups_of_nodup (List.nodup_singleton last)]

/-- The list of mentions may be taken of the front first. -/
theorem eraseDups_eraseDups_append (front back : List α) :
    (front.eraseDups ++ back).eraseDups = (front ++ back).eraseDups := by
  have same : back.removeAll front.eraseDups = back.removeAll front := by
    simp only [List.removeAll]
    apply List.filter_congr
    intro other _
    simp
  rw [List.eraseDups_append, List.eraseDups_append, same, eraseDups_of_nodup (nodup_eraseDups front)]

end Rows

namespace Externals

/-- Merging names into a list without repetitions lists the names of both in order of first mention.
-/
theorem merge_eq_eraseDups {names : List String} (different : names.Nodup) (new : List String) :
    merge names new = (names ++ new).eraseDups := by
  induction new generalizing names with
  | nil => rw [List.append_nil, eraseDups_of_nodup different, merge, List.foldl_nil]
  | cons name rest ih =>
    have step : merge names (name :: rest) =
        merge (if name ∈ names then names else names ++ [name]) rest := rfl
    rw [step]
    by_cases listed : name ∈ names
    · rw [if_pos listed, ih different, eraseDups_append_cons_of_mem listed]
    · have longer : (names ++ [name]).Nodup :=
        List.nodup_append.2 ⟨different, List.nodup_singleton name, by
          intro old mem other single same
          rw [List.mem_singleton] at single
          exact listed (single ▸ same ▸ mem)⟩
      rw [if_neg listed, ih longer, List.append_assoc, List.singleton_append]

/-- A list of mentions goes on with the names that are merged into it. -/
theorem merge_eraseDups (names new : List String) :
    merge names.eraseDups new = (names ++ new).eraseDups := by
  rw [merge_eq_eraseDups (nodup_eraseDups names), eraseDups_eraseDups_append]

end Externals

end TwoPass
