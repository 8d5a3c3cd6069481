/-
The string pool of a program.

Texts are kept in the order of their first use, each once; the slot of a text
is its place in that order.  A map beside the list finds the slot of a text
without a search, and a pool carries the proof that the two are inverse to each
other.
-/

namespace HttpRouting

structure Pool where
  entries : List String
  /-- The slot of each entry, under its text. -/
  slots : List (String × Nat)
  inverse : ∀ text slot,
    slots.lookup text = some slot ↔ entries[slot]? = some text
  deriving DecidableEq, Repr

/-- Behind the old entries a new text has the old length for its slot. -/
theorem inverse_push (entries : List String) (slots : List (String × Nat))
    (inverse : ∀ text slot,
      slots.lookup text = some slot ↔ entries[slot]? = some text)
    (text : String) (fresh : slots.lookup text = none) (other : String)
    (slot : Nat) :
    ((text, entries.length) :: slots).lookup other = some slot ↔
      (entries ++ [text])[slot]? = some other := by
  rw [List.lookup_cons, List.getElem?_append]
  by_cases old : slot < entries.length
  · rw [if_pos old]
    -- In front of the end the new text cannot stand, or the map would know it.
    by_cases same : other = text
    · have absent : entries[slot]? ≠ some text := by
        rw [ne_eq, ← inverse, fresh]
        nofun
      have behind : entries.length ≠ slot := Nat.ne_of_gt old
      simp [same, absent, behind]
    · rw [beq_eq_false_iff_ne.mpr same]
      exact inverse other slot
  · rw [if_neg old, List.getElem?_singleton]
    -- At the end no old text has its slot.
    by_cases same : other = text
    · have last : entries.length = slot ↔ slot - entries.length = 0 := by
        omega
      simp [same, last]
    · have outside : slots.lookup other ≠ some slot := by
        rw [ne_eq, inverse, List.getElem?_eq_none (Nat.le_of_not_lt old)]
        nofun
      have different : text ≠ other := fun equal => same equal.symm
      rw [beq_eq_false_iff_ne.mpr same]
      simp [outside, different]

namespace Pool

def empty : Pool :=
  { entries := []
    slots := []
    inverse := by simp }

instance : Inhabited Pool :=
  ⟨empty⟩

def size (pool : Pool) : Nat :=
  pool.entries.length

def isEmpty (pool : Pool) : Bool :=
  pool.entries.isEmpty

def slot? (pool : Pool) (text : String) : Option Nat :=
  pool.slots.lookup text

def push (pool : Pool) (text : String) (fresh : pool.slot? text = none) :
    Pool :=
  { entries := pool.entries ++ [text]
    slots := (text, pool.size) :: pool.slots
    inverse := inverse_push pool.entries pool.slots pool.inverse text fresh }

def intern (pool : Pool) (text : String) : Nat × Pool :=
  match known : pool.slot? text with
  | some slot => (slot, pool)
  | none => (pool.size, pool.push text known)

def internAll (pool : Pool) : List String → List Nat × Pool
  | [] => ([], pool)
  | text :: rest =>
      let (slot, pool) := pool.intern text
      let (slots, pool) := pool.internAll rest
      (slot :: slots, pool)

/-! ### The map and the list -/

theorem slot?_eq_some_iff (pool : Pool) (text : String) (slot : Nat) :
    pool.slot? text = some slot ↔ pool.entries[slot]? = some text :=
  pool.inverse text slot

theorem slot?_eq_none_iff (pool : Pool) (text : String) :
    pool.slot? text = none ↔ text ∉ pool.entries := by
  rw [Option.eq_none_iff_forall_ne_some, List.mem_iff_getElem?, not_exists]
  exact forall_congr' (fun slot => not_congr (pool.slot?_eq_some_iff text slot))

/-- No text stands twice, since the map has one slot for it. -/
theorem entries_nodup (pool : Pool) : pool.entries.Nodup := by
  rw [List.nodup_iff_pairwise_ne, List.pairwise_iff_getElem]
  intro first second firstInside secondInside before same
  have firstSlot : pool.slot? pool.entries[first] = some first :=
    (pool.slot?_eq_some_iff _ first).mpr (List.getElem?_eq_getElem firstInside)
  have secondSlot : pool.slot? pool.entries[second] = some second :=
    (pool.slot?_eq_some_iff _ second).mpr
      (List.getElem?_eq_getElem secondInside)
  rw [same, secondSlot] at firstSlot
  exact Nat.ne_of_gt before (Option.some.inj firstSlot)

/-! ### Interning -/

theorem intern_of_slot? (pool : Pool) (text : String) (slot : Nat)
    (known : pool.slot? text = some slot) :
    pool.intern text = (slot, pool) := by
  unfold intern
  split
  · rename_i other found
    rw [known] at found
    rw [Option.some.inj found]
  · rename_i fresh
    rw [known] at fresh
    cases fresh

theorem intern_of_fresh (pool : Pool) (text : String)
    (fresh : pool.slot? text = none) :
    pool.intern text = (pool.size, pool.push text fresh) := by
  unfold intern
  split
  · rename_i slot known
    rw [fresh] at known
    cases known
  · rfl

theorem intern_entries (pool : Pool) (text : String) :
    (pool.intern text).2.entries =
      if text ∈ pool.entries then pool.entries
      else pool.entries ++ [text] := by
  cases known : pool.slot? text with
  | none =>
      have absent : text ∉ pool.entries := (pool.slot?_eq_none_iff text).mp known
      rw [pool.intern_of_fresh text known, if_neg absent]
      rfl
  | some slot =>
      have present : text ∈ pool.entries :=
        List.mem_of_getElem? ((pool.slot?_eq_some_iff text slot).mp known)
      rw [pool.intern_of_slot? text slot known, if_pos present]

theorem intern_getElem? (pool : Pool) (text : String) :
    (pool.intern text).2.entries[(pool.intern text).1]? = some text := by
  cases known : pool.slot? text with
  | none =>
      rw [pool.intern_of_fresh text known]
      exact List.getElem?_concat_length
  | some slot =>
      rw [pool.intern_of_slot? text slot known]
      exact (pool.slot?_eq_some_iff text slot).mp known

theorem size_intern (pool : Pool) (text : String) :
    (pool.intern text).2.size =
      pool.size + if text ∈ pool.entries then 0 else 1 := by
  unfold size
  rw [intern_entries]
  by_cases present : text ∈ pool.entries
  · rw [if_pos present, if_pos present]
    rfl
  · rw [if_neg present, if_neg present, List.length_append]
    rfl

theorem entries_prefix_intern (pool : Pool) (text : String) :
    pool.entries <+: (pool.intern text).2.entries := by
  rw [intern_entries]
  by_cases present : text ∈ pool.entries
  · simp [present]
  · rw [if_neg present]
    exact List.prefix_append pool.entries [text]

end Pool

/-- A slot once handed out keeps its text however the pool grows. -/
theorem intern_getElem?_of_prefix (pool : Pool) (text : String)
    (entries : List String)
    (known : (pool.intern text).2.entries <+: entries) :
    entries[(pool.intern text).1]? = some text := by
  obtain ⟨within, same⟩ :=
    List.getElem?_eq_some_iff.mp (pool.intern_getElem? text)
  rw [List.prefix_iff_getElem?.mp known _ within, same]

end HttpRouting
