/-
Texts interned one after the other.

Whatever is interned, the pool lists the texts in the order of their first use
and none of them twice, and its map has one pair for each of them and no other.
A slot once handed out stays the place of its text, however many texts follow.
-/

import HttpRouting.Program.Pool
import HttpRouting.Proofs.Captures

namespace HttpRouting

namespace Pool

/-! ### Runs in two parts -/

theorem internAll_append (pool : Pool) (first second : List String) :
    (pool.internAll (first ++ second)).2 =
      ((pool.internAll first).2.internAll second).2 := by
  induction first generalizing pool with
  | nil =>
      rfl
  | cons text rest inductionHypothesis =>
      exact inductionHypothesis (pool.intern text).2

theorem internAll_append_answers (pool : Pool) (first second : List String) :
    (pool.internAll (first ++ second)).1 =
      (pool.internAll first).1 ++
        ((pool.internAll first).2.internAll second).1 := by
  induction first generalizing pool with
  | nil =>
      rfl
  | cons text rest inductionHypothesis =>
      exact congrArg (List.cons _) (inductionHypothesis (pool.intern text).2)

theorem internAll_singleton (pool : Pool) (text : String) :
    (pool.internAll [text]).2 = (pool.intern text).2 :=
  rfl

/-! ### What a run keeps -/

theorem entries_prefix_internAll (pool : Pool) (texts : List String) :
    pool.entries <+: (pool.internAll texts).2.entries := by
  induction texts generalizing pool with
  | nil =>
      exact List.prefix_refl pool.entries
  | cons text rest inductionHypothesis =>
      exact (pool.entries_prefix_intern text).trans
        (inductionHypothesis (pool.intern text).2)

theorem intern_slots_perm (pool : Pool) (text : String)
    (paired : pool.slots.Perm pool.entries.zipIdx) :
    (pool.intern text).2.slots.Perm (pool.intern text).2.entries.zipIdx := by
  cases known : pool.slot? text with
  | none =>
      rw [pool.intern_of_fresh text known]
      unfold push
      rw [List.zipIdx_append, List.zipIdx_singleton, Nat.zero_add]
      exact
        (paired.cons (text, pool.size)).trans
          (List.perm_append_singleton _ _).symm
  | some slot =>
      rw [pool.intern_of_slot? text slot known]
      exact paired

theorem internAll_slots_perm (pool : Pool) (texts : List String)
    (paired : pool.slots.Perm pool.entries.zipIdx) :
    (pool.internAll texts).2.slots.Perm
      (pool.internAll texts).2.entries.zipIdx := by
  induction texts generalizing pool with
  | nil =>
      exact paired
  | cons text rest inductionHypothesis =>
      exact inductionHypothesis (pool.intern text).2
        (pool.intern_slots_perm text paired)

/-- The answers are the places of the texts in any list that the last entries
begin. -/
theorem internAll_answers (pool : Pool) (texts : List String)
    (entries : List String)
    (known : (pool.internAll texts).2.entries <+: entries) :
    List.Forall₂ (fun text slot => entries[slot]? = some text) texts
      (pool.internAll texts).1 := by
  induction texts generalizing pool with
  | nil =>
      exact List.Forall₂.nil
  | cons text rest inductionHypothesis =>
      have own : (pool.intern text).2.entries <+: entries :=
        (entries_prefix_internAll _ rest).trans known
      have placed : entries[(pool.intern text).1]? = some text :=
        intern_getElem?_of_prefix pool text entries own
      exact
        List.Forall₂.cons placed
          (inductionHypothesis (pool.intern text).2 known)

/-- From an empty pool on, the entries are the texts without repetitions, in
the order of their first occurrences. -/
theorem internAll_empty_entries (texts : List String) :
    (empty.internAll texts).2.entries = texts.eraseDups := by
  induction texts using List.reverseRecOn with
  | nil =>
      rfl
  | append_singleton texts text inductionHypothesis =>
      rw [internAll_append, internAll_singleton, intern_entries,
        inductionHypothesis, eraseDups_append_singleton]
      simp only [List.mem_eraseDups]

theorem mem_internAll_empty_entries_iff (texts : List String) (text : String) :
    text ∈ (empty.internAll texts).2.entries ↔ text ∈ texts := by
  rw [internAll_empty_entries]
  exact List.mem_eraseDups

/-! ### Texts and slots, one for one -/

theorem mem_entries_iff_existsUnique_slot (pool : Pool) (text : String) :
    text ∈ pool.entries ↔ ∃! slot, pool.slot? text = some slot := by
  constructor
  · intro member
    obtain ⟨slot, own⟩ := List.mem_iff_getElem?.mp member
    have known : pool.slot? text = some slot :=
      (pool.slot?_eq_some_iff text slot).mpr own
    refine ⟨slot, known, ?_⟩
    intro other sameText
    rw [known] at sameText
    exact (Option.some.inj sameText).symm
  · rintro ⟨slot, known, _⟩
    exact List.mem_of_getElem? ((pool.slot?_eq_some_iff text slot).mp known)

theorem lt_size_iff_existsUnique_text (pool : Pool) (slot : Nat) :
    slot < pool.size ↔ ∃! text, pool.slot? text = some slot := by
  simp only [slot?_eq_some_iff]
  constructor
  · intro inside
    refine ⟨pool.entries[slot], List.getElem?_eq_getElem inside, ?_⟩
    intro other sameSlot
    rw [List.getElem?_eq_getElem inside] at sameSlot
    exact (Option.some.inj sameSlot).symm
  · rintro ⟨text, own, _⟩
    obtain ⟨inside, _⟩ := List.getElem?_eq_some_iff.mp own
    exact inside

/-- What the answers to some texts and the pool behind them must be when the
texts were interned in turn, with nothing interned before them. -/
structure Interned (texts : List String) (answers : List Nat)
    (pool : Pool) : Prop where
  /-- The list has the texts in the order of their first uses. -/
  entries : pool.entries = texts.eraseDups
  distinct : pool.entries.Nodup
  slots : pool.slots.Perm pool.entries.zipIdx
  inverse : ∀ text slot,
    pool.slot? text = some slot ↔ pool.entries[slot]? = some text
  domain : ∀ text, text ∈ texts ↔ ∃! slot, pool.slot? text = some slot
  /-- The slots run from zero up to the size without a gap. -/
  range : ∀ slot, slot < pool.size ↔ ∃! text, pool.slot? text = some slot
  /-- Each answer is the place of its text in the last list. -/
  answered : List.Forall₂ (fun text slot => pool.entries[slot]? = some text)
    texts answers

theorem interned_internAll (texts : List String) :
    Interned texts (empty.internAll texts).1 (empty.internAll texts).2 where
  entries := internAll_empty_entries texts
  distinct := entries_nodup _
  slots := internAll_slots_perm empty texts (List.Perm.refl [])
  inverse := slot?_eq_some_iff _
  domain := fun text => by
    rw [← mem_internAll_empty_entries_iff]
    exact mem_entries_iff_existsUnique_slot _ text
  range := lt_size_iff_existsUnique_text _
  answered := internAll_answers empty texts _ (List.prefix_refl _)

/-- A pool is a faithful interner over every run: its map and its list are the
same one-for-one correspondence of the given texts with the first numbers, it
grows by one exactly where a text is new, and what a run has answered and
listed stays whatever is interned after it. -/
theorem interning_faithful_and_stable (texts : List String) :
    Interned texts (empty.internAll texts).1 (empty.internAll texts).2 ∧
    (∀ text,
      (empty.internAll (texts ++ [text])).2.size =
        (empty.internAll texts).2.size + if text ∈ texts then 0 else 1) ∧
    (∀ after,
      (empty.internAll texts).1 <+: (empty.internAll (texts ++ after)).1 ∧
      (empty.internAll texts).2.entries <+:
        (empty.internAll (texts ++ after)).2.entries) := by
  refine ⟨interned_internAll texts, ?_, ?_⟩
  · intro text
    rw [internAll_append, internAll_singleton, size_intern]
    simp only [mem_internAll_empty_entries_iff]
  · intro after
    rw [internAll_append, internAll_append_answers]
    exact ⟨List.prefix_append _ _, entries_prefix_internAll _ after⟩

/-- A text that comes again gets its first slot again. -/
example :
    (empty.internAll ["obj", "a", "obj", "b"]).1 = [0, 1, 0, 2] ∧
      (empty.internAll ["obj", "a", "obj", "b"]).2.entries =
        ["obj", "a", "b"] := by
  decide

end Pool

end HttpRouting
