/-!
# Maps that keep the order of their keys

A `KeyedMap` lists text keys in the order of their first insertion. Inserting a key that is
already present replaces its value in place, so the later value wins and the key keeps the
position of its first insertion. `keys` and `get?` are the views; the laws below say what
`insert` does to them.
-/

namespace LowPowerPayload

/-- A map from text keys, listed in the order of first insertion. -/
structure KeyedMap (α : Type) where
  entries : List (String × α)
  deriving Inhabited

namespace KeyedMap

variable {α : Type}

/-- Replaces the value of `k` in place, or appends the entry when `k` is new. -/
def upsert (k : String) (v : α) : List (String × α) → List (String × α)
  | [] => [(k, v)]
  | (k', v') :: rest => if k' = k then (k', v) :: rest else (k', v') :: upsert k v rest

/-- The map without entries. -/
def empty : KeyedMap α := ⟨[]⟩

/-- Sets the value of a key. -/
def insert (m : KeyedMap α) (k : String) (v : α) : KeyedMap α := ⟨upsert k v m.entries⟩

/-- The keys in order. -/
def keys (m : KeyedMap α) : List String := m.entries.map Prod.fst

/-- The value of a key. -/
def get? (m : KeyedMap α) (k : String) : Option α := (m.entries.find? (·.1 == k)).map Prod.snd

/-- The map built by inserting the pairs in order. -/
def ofList (pairs : List (String × α)) : KeyedMap α :=
  pairs.foldl (fun m (k, v) => m.insert k v) empty

/-- Applies a function to every value. -/
def mapValues {β : Type} (f : α → β) (m : KeyedMap α) : KeyedMap β :=
  ⟨m.entries.map (fun (k, v) => (k, f v))⟩

@[simp] theorem keys_empty : (empty : KeyedMap α).keys = [] := rfl

theorem keys_upsert (k : String) (v : α) (es : List (String × α)) :
    (upsert k v es).map Prod.fst =
      if k ∈ es.map Prod.fst then es.map Prod.fst else es.map Prod.fst ++ [k] := by
  induction es with
  | nil => simp [upsert]
  | cons e rest ih =>
    obtain ⟨k', v'⟩ := e
    by_cases h : k' = k
    · subst h; simp [upsert]
    · simp only [upsert, h, if_false, List.map_cons, ih, List.mem_cons]
      by_cases hk : k ∈ rest.map Prod.fst
      · simp [hk]
      · have hne : ¬ k = k' := fun e => h e.symm
        simp [hk, hne]

/-- Inserting keeps the keys and their order, and appends a new key at the end. -/
theorem keys_insert (m : KeyedMap α) (k : String) (v : α) :
    (m.insert k v).keys = if k ∈ m.keys then m.keys else m.keys ++ [k] :=
  keys_upsert k v m.entries

end KeyedMap

end LowPowerPayload
