/-!
# Keyed lists

Pairs of a key and a value, in the order in which the keys first came. Putting a value under a
key that occurs replaces the value in its place, so no key occurs twice. Looking up is that of
lists.
-/

namespace CallGuard.Keyed

variable {κ α : Type} [DecidableEq κ]

/-- Puts a value in the place of the one with its key, or at the end. -/
def put (key : κ) (value : α) : List (κ × α) → List (κ × α)
  | [] => [(key, value)]
  | entry :: rest =>
    if entry.1 = key then (key, value) :: rest else entry :: put key value rest

def keys (entries : List (κ × α)) : List κ := entries.map Prod.fst

theorem lookup_put (key other : κ) (value : α) (entries : List (κ × α)) :
    (put key value entries).lookup other =
      if other = key then some value else entries.lookup other := by
  induction entries with
  | nil =>
    by_cases same : other = key
    · simp [put, same]
    · simp [put, List.lookup_cons, same, beq_false_of_ne same]
  | cons entry rest ih =>
    rcases entry with ⟨first, kept⟩
    unfold put
    by_cases held : first = key
    · subst held
      by_cases same : other = first
      · simp [same]
      · simp [List.lookup_cons, same, beq_false_of_ne same]
    · rw [if_neg held, List.lookup_cons, List.lookup_cons, ih]
      by_cases found : other = first
      · simp [found, held]
      · simp [beq_false_of_ne found]

theorem keys_put (key : κ) (value : α) (entries : List (κ × α)) :
    keys (put key value entries) =
      if key ∈ keys entries then keys entries else keys entries ++ [key] := by
  induction entries with
  | nil => simp [put, keys]
  | cons entry rest ih =>
    unfold put
    by_cases held : entry.1 = key
    · simp [keys, held]
    · have other : key ≠ entry.1 := fun same => held same.symm
      rw [if_neg held]
      unfold keys at ih ⊢
      rw [List.map_cons, List.map_cons, ih]
      by_cases later : key ∈ rest.map Prod.fst
      · simp [later]
      · simp [later, other]

theorem nodup_keys_put (key : κ) (value : α) {entries : List (κ × α)}
    (distinct : (keys entries).Nodup) : (keys (put key value entries)).Nodup := by
  rw [keys_put]
  split
  · exact distinct
  · next fresh =>
    rw [List.nodup_append]
    refine ⟨distinct, by simp, ?_⟩
    intro held isHeld added isAdded same
    rw [List.mem_singleton] at isAdded
    exact fresh (isAdded ▸ same ▸ isHeld)

end CallGuard.Keyed
