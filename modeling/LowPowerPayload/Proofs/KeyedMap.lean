import Mathlib
import LowPowerPayload.KeyedMap
/-!
# Updating one ordered map with another

`KeyedMap.update m n` inserts the entries of `n` into `m` one after the other, in `n`'s order:
keys of `m` keep their place and take `n`'s value, new keys follow in `n`'s order. The main
law, `ofList_append`, says that building a map from two runs of pairs is the map of the first
run updated with the map of the second: collapsing the second run's repeated keys first makes
no difference.

The argument is an algebra of `insert`: a second insertion of a key overrides the first, and
insertions of two keys commute once the first key is present.
-/

namespace LowPowerPayload

namespace KeyedMap

variable {α : Type}

/-- Inserts the entries of `n` into `m` in `n`'s order. -/
def update (m n : KeyedMap α) : KeyedMap α := n.entries.foldl (fun m (k, v) => m.insert k v) m

/-- Inserting pairs one after the other into a map. -/
private def insertAll (m : KeyedMap α) (ps : List (String × α)) : KeyedMap α :=
  ps.foldl (fun m (k, v) => m.insert k v) m

private theorem insertAll_cons (m : KeyedMap α) (k : String) (v : α) (ps : List (String × α)) :
    insertAll m ((k, v) :: ps) = insertAll (m.insert k v) ps := rfl

/-- The value of a key after an insertion: the inserted one for that key, the old one for any
other. -/
theorem get?_insert (m : KeyedMap α) (k k' : String) (v : α) :
    (m.insert k v).get? k' = if k = k' then some v else m.get? k' := by
  obtain ⟨es⟩ := m
  simp only [insert, get?]
  induction es with
  | nil => by_cases h : k = k' <;> simp [upsert, h]
  | cons e rest ih =>
    obtain ⟨j, w⟩ := e
    by_cases hj : j = k
    · subst hj
      by_cases h : j = k' <;> simp [upsert, h]
    · by_cases hk : j = k'
      · subst hk
        simp [upsert, hj, Ne.symm hj]
      · simpa [upsert, hj, hk] using ih

/-- Inserting a new key appends its entry. -/
theorem insert_of_not_mem {m : KeyedMap α} {k : String} (v : α) (h : k ∉ m.keys) :
    m.insert k v = ⟨m.entries ++ [(k, v)]⟩ := by
  obtain ⟨es⟩ := m
  simp only [insert, keys] at h ⊢
  congr 1
  induction es with
  | nil => rfl
  | cons e rest ih =>
    obtain ⟨j, w⟩ := e
    simp only [List.map_cons, List.mem_cons, not_or] at h
    simp [upsert, Ne.symm h.1, ih h.2]

/-- Inserting never lists a key twice. -/
theorem nodup_keys_insert (m : KeyedMap α) (k : String) (v : α) (h : m.keys.Nodup) :
    (m.insert k v).keys.Nodup := by
  rw [keys_insert]
  split
  · exact h
  · next hk =>
    refine List.nodup_append.mpr ⟨h, by simp, ?_⟩
    intro a ha b hb
    simp only [List.mem_singleton] at hb
    subst hb
    exact fun e => hk (e ▸ ha)

/-- A map built by insertions lists each key once. -/
theorem nodup_keys_ofList (ps : List (String × α)) : (ofList ps).keys.Nodup := by
  suffices ∀ m : KeyedMap α, m.keys.Nodup → (insertAll m ps).keys.Nodup from
    this empty List.nodup_nil
  induction ps with
  | nil => exact fun _ h => h
  | cons p rest ih =>
    intro m h
    exact ih _ (nodup_keys_insert m p.1 p.2 h)

/-- A map built by insertions has exactly the keys of its pairs. -/
theorem mem_keys_ofList (ps : List (String × α)) (k : String) :
    k ∈ (ofList ps).keys ↔ k ∈ ps.map Prod.fst := by
  suffices ∀ m : KeyedMap α, k ∈ (insertAll m ps).keys ↔ k ∈ m.keys ∨ k ∈ ps.map Prod.fst by
    simpa [ofList, insertAll] using this empty
  induction ps with
  | nil => simp [insertAll]
  | cons p rest ih =>
    intro m
    obtain ⟨j, w⟩ := p
    rw [insertAll_cons, ih, keys_insert]
    split
    · next hj => simp only [List.map_cons, List.mem_cons]; grind
    · simp only [List.mem_append, List.map_cons, List.mem_cons]; grind

/-- A second insertion of a key overrides the first. -/
theorem insert_insert_self (m : KeyedMap α) (k : String) (v v' : α) :
    (m.insert k v').insert k v = m.insert k v := by
  obtain ⟨es⟩ := m
  simp only [insert, mk.injEq]
  induction es with
  | nil => simp [upsert]
  | cons e rest ih =>
    obtain ⟨j, w⟩ := e
    by_cases hj : j = k <;> simp [upsert, hj, ih]

/-- Insertions of two keys commute when the first key is present already: it then only
changes its value in place. -/
theorem insert_comm_of_mem (m : KeyedMap α) {k k' : String} (v v' : α) (hk : k ∈ m.keys)
    (hne : k ≠ k') : (m.insert k v).insert k' v' = (m.insert k' v').insert k v := by
  obtain ⟨es⟩ := m
  simp only [insert, mk.injEq]
  simp only [keys] at hk
  induction es with
  | nil => simp at hk
  | cons e rest ih =>
    obtain ⟨j, w⟩ := e
    by_cases hj : j = k
    · subst hj
      simp [upsert, hne]
    · by_cases hj' : j = k'
      · subst hj'
        simp [upsert, hj]
      · have hr : k ∈ rest.map Prod.fst := by
          simp only [List.map_cons, List.mem_cons] at hk
          exact hk.resolve_left (Ne.symm hj)
        simp [upsert, hj, hj', ih hr]

/-- Inserting a present key before a run that does not mention it is inserting it after. -/
private theorem insertAll_insert_of_mem (m : KeyedMap α) (k : String) (v : α)
    (ps : List (String × α)) (hk : k ∈ m.keys) (hps : k ∉ ps.map Prod.fst) :
    insertAll (m.insert k v) ps = (insertAll m ps).insert k v := by
  induction ps generalizing m with
  | nil => rfl
  | cons p rest ih =>
    obtain ⟨j, w⟩ := p
    have hj : k ≠ j := fun h => hps (by simp [h])
    have hrest : k ∉ rest.map Prod.fst := fun h => hps (List.mem_cons_of_mem _ h)
    have hk' : k ∈ (m.insert j w).keys := by
      rw [keys_insert]; split <;> simp [hk]
    rw [insertAll_cons, insertAll_cons, ← ih _ hk' hrest, insert_comm_of_mem m v w hk hj]

/-- Inserting the entries of a map after an upsert is inserting them and then the upserted
pair. -/
private theorem insertAll_upsert (m : KeyedMap α) (k : String) (v : α)
    (es : List (String × α)) (hes : (es.map Prod.fst).Nodup) :
    insertAll m (upsert k v es) = (insertAll m es).insert k v := by
  induction es generalizing m with
  | nil => rfl
  | cons e rest ih =>
    obtain ⟨j, w⟩ := e
    simp only [List.map_cons, List.nodup_cons] at hes
    by_cases hj : j = k
    · subst hj
      -- `j` is present once it has been inserted, and the rest never mentions it again
      have hmem : j ∈ (m.insert j w).keys := by
        rw [keys_insert]; split <;> simp_all
      simp only [upsert, ↓reduceIte, insertAll_cons]
      rw [← insertAll_insert_of_mem _ j v rest hmem hes.1, insert_insert_self]
    · simp only [upsert, hj, if_false, insertAll_cons]
      exact ih _ hes.2

/-- Inserting the entries of the map a run builds is inserting the run itself. -/
private theorem insertAll_ofList (m : KeyedMap α) (ps : List (String × α)) :
    insertAll m (ofList ps).entries = insertAll m ps := by
  -- generalise the map the run is inserted into, which lists each key once
  suffices ∀ e : KeyedMap α, e.keys.Nodup →
      insertAll m (insertAll e ps).entries = insertAll (insertAll m e.entries) ps from
    this empty List.nodup_nil
  induction ps with
  | nil => exact fun _ _ => rfl
  | cons p rest ih =>
    obtain ⟨k, v⟩ := p
    intro e he
    rw [insertAll_cons, ih _ (nodup_keys_insert e k v he), insertAll_cons]
    exact congrArg (insertAll · rest) (insertAll_upsert m k v e.entries he)

/-- Building a map from two runs is updating the first run's map with the second's. -/
theorem ofList_append (ps qs : List (String × α)) :
    ofList (ps ++ qs) = (ofList ps).update (ofList qs) := by
  calc ofList (ps ++ qs) = insertAll (ofList ps) qs := List.foldl_append ..
    _ = (ofList ps).update (ofList qs) := (insertAll_ofList (ofList ps) qs).symm

end KeyedMap

end LowPowerPayload
