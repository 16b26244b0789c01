import Mathlib.Data.Finset.Card
import ChangeLint.Patch.LineSet

/-! # Tables of lines

A table holds its lines twice, and each operation reads only one of the two: a lookup goes to the
members, and the order, the number of lines and emptiness come from the list.  So what the table
answers is consistent only if the two stay in step.

* `InStep.insertAll` says that they do, whatever is inserted.
* `ordered_insertAll` says what is in the list after some insertions: behind the lines that were
  there, each new one where it comes first.
* `insertAll_ofList_keeps_firsts` says it for every way in which a table is built, and what the
  answers of the table are. -/

namespace ChangeLint.Patch.LineTable

/-! ## Section 1: Insertions -/

theorem insertAll_cons (table : LineTable) (line : String) (lines : List String) :
    table.insertAll (line :: lines) = (table.insert line).2.insertAll lines := rfl

/-- Insertions one after the other are one sequence of insertions. -/
theorem insertAll_append (table : LineTable) (lines others : List String) :
    table.insertAll (lines ++ others) = (table.insertAll lines).insertAll others :=
  List.foldl_append

/-- Any number of insertions keeps order and members in step. -/
theorem InStep.insertAll {table : LineTable} (h : table.InStep) (lines : List String) :
    (table.insertAll lines).InStep := by
  -- By induction on the lines, for every table in step: each insertion keeps it so.
  induction lines generalizing table with
  | nil => exact h
  | cons line lines ih =>
    rw [insertAll_cons]
    exact ih (h.insert line)

/-- The lines that are inserted come behind those that are there, without those and without
repetition, each where it comes first. -/
theorem ordered_insertAll {table : LineTable} (h : table.InStep) (lines : List String) :
    (table.insertAll lines).ordered
      = table.ordered ++ (lines.filter (· ∉ table.ordered)).eraseDups := by
  induction lines generalizing table with
  | nil => exact (List.append_nil table.ordered).symm
  | cons line lines ih =>
    rw [insertAll_cons, ih (h.insert line)]
    -- A line that is there changes neither the table nor what is left of the others.
    by_cases hline : line ∈ table.ordered
    · have hheld : (line :: lines).filter (· ∉ table.ordered)
          = lines.filter (· ∉ table.ordered) :=
        List.filter_cons_of_neg (by simpa using hline)
      rw [insert_of_contains ((h.agree line).mpr hline), hheld]
    · have hnew : (line :: lines).filter (· ∉ table.ordered)
          = line :: lines.filter (· ∉ table.ordered) :=
        List.filter_cons_of_pos (by simpa using hline)
      have habsent : table.contains line = false := by
        rw [← Bool.not_eq_true, h.agree line]
        exact hline
      -- What is left is passed over for two reasons: it is the line, or it was there before.
      have hrest : lines.filter (· ∉ table.ordered ++ [line])
          = (lines.filter (· ∉ table.ordered)).filter fun other => !other == line := by
        rw [List.filter_filter]
        apply List.filter_congr
        intro other _
        by_cases hother : other = line
        · simp [hother]
        · simp [hother]
      rw [insert_of_not_contains habsent, hnew, List.eraseDups_cons]
      show (table.ordered ++ [line]) ++ _ = _
      rw [hrest, List.append_assoc]
      rfl

/-- An insertion says whether the line was missing, and only then it changes the table. -/
theorem insert_answers (table : LineTable) (line : String) :
    let added := (table.insert line).1
    let next := (table.insert line).2
    (added = true ↔ table.contains line = false) ∧
      (added = true → next.ordered = table.ordered ++ [line] ∧
        ∀ other, next.members.contains other = true
          ↔ other = line ∨ table.members.contains other = true) ∧
      (added = false → next = table) := by
  intro added next
  by_cases hline : table.contains line = true
  · have hinsert : table.insert line = (false, table) := insert_of_contains hline
    simp [added, next, hinsert, hline]
  · have habsent : table.contains line = false := Bool.not_eq_true _ ▸ hline
    have hinsert := insert_of_not_contains habsent
    refine ⟨?_, fun _ => ?_, fun hadded => ?_⟩
    · simp [added, hinsert, habsent]
    · have hnext : next = ⟨table.ordered ++ [line], table.members.insert line⟩ :=
        congrArg Prod.snd hinsert
      rw [hnext]
      exact ⟨rfl, fun other => Members.contains_insert_iff⟩
    · simp [added, hinsert] at hadded

/-! ## Section 2: What a table is built from -/

/-- The members of a table are the lines that were there and those that were inserted. -/
theorem contains_insertAll_iff {table : LineTable} {lines : List String} {line : String} :
    (table.insertAll lines).contains line = true ↔ table.contains line = true ∨ line ∈ lines := by
  induction lines generalizing table with
  | nil => simp [insertAll]
  | cons first lines ih =>
    -- One insertion adds its line to the members, if it was not one already.
    have hstep : (table.insert first).2.contains line = true
        ↔ table.contains line = true ∨ line = first := by
      by_cases hfirst : table.contains first = true
      · rw [insert_of_contains hfirst]
        constructor
        · exact Or.inl
        · rintro (hline | rfl)
          · exact hline
          · exact hfirst
      · rw [insert_of_not_contains (Bool.not_eq_true _ ▸ hfirst)]
        show (table.members.insert first).contains line = true ↔ _
        rw [Members.contains_insert_iff]
        exact Or.comm
    rw [insertAll_cons, ih, hstep, List.mem_cons, or_assoc]

/-- Tables in step hold the same members exactly if they hold the same lines in some order. -/
theorem InStep.members_eq_iff {a b : LineTable} (ha : a.InStep) (hb : b.InStep) :
    a.members = b.members ↔ a.ordered.Perm b.ordered := by
  rw [List.perm_ext_iff_of_nodup ha.nodup hb.nodup]
  constructor
  · intro h line
    rw [← ha.agree line, ← hb.agree line, contains, contains, h]
  · intro h
    -- Members are told apart by lookups only.
    apply Members.ext
    intro line
    have hline : a.contains line = true ↔ b.contains line = true := by
      rw [ha.agree line, hb.agree line]
      exact h line
    exact hline

/-- Tables in step are the same exactly if they have the same order. -/
theorem InStep.eq_iff {a b : LineTable} (ha : a.InStep) (hb : b.InStep) :
    a = b ↔ a.ordered = b.ordered := by
  constructor
  · intro h
    rw [h]
  · intro h
    have hmembers : a.members = b.members := (ha.members_eq_iff hb).mpr (h ▸ List.Perm.refl _)
    obtain ⟨_, _⟩ := a
    obtain ⟨_, _⟩ := b
    cases h
    cases hmembers
    rfl

/-- **However a table is built, its order has no repetition and holds exactly its members.**  An
insertion says whether the line was missing; then the line comes behind the others, and otherwise
nothing changes.  The order is that of the lines inserted, each where it came first, the size is
the number of different ones, and the members are the lines inserted.  Of two such tables those
with the same members have the same lines in some order, but they are equal only if the order is
the same. -/
theorem insertAll_ofList_keeps_firsts (start lines : List String) :
    let table := (ofList start).insertAll lines
    let inserted := start ++ lines
    (table.ordered.Nodup ∧ ∀ line, table.members.contains line = true ↔ line ∈ table.ordered) ∧
    (∀ line,
      let added := (table.insert line).1
      let next := (table.insert line).2
      (added = true ↔ table.contains line = false) ∧
      (added = true → next.ordered = table.ordered ++ [line] ∧
        ∀ other, next.members.contains other = true
          ↔ other = line ∨ table.members.contains other = true) ∧
      (added = false → next = table)) ∧
    table.ordered = inserted.eraseDups ∧
    table.size = inserted.toFinset.card ∧
    (table.isEmpty = true ↔ table.size = 0) ∧
    (∀ line, table.contains line = true ↔ line ∈ inserted) ∧
    ∀ start' lines',
      let other := (ofList start').insertAll lines'
      (table.members = other.members ↔ table.ordered.Perm other.ordered) ∧
      ((table == other) = true ↔ table.ordered = other.ordered) := by
  intro table inserted
  have hinStep : ∀ start lines : List String, ((ofList start).insertAll lines).InStep :=
    fun start lines => (inStep_empty.insertAll start).insertAll lines
  -- Building a table is inserting into the empty one, so there is one sequence of insertions.
  have htable : table = empty.insertAll inserted := (insertAll_append empty start lines).symm
  have hstep : table.InStep := hinStep start lines
  have hordered : table.ordered = inserted.eraseDups := by
    rw [htable, ordered_insertAll inStep_empty]
    simp [empty]
  have hcontains : ∀ line, table.contains line = true ↔ line ∈ inserted := by
    intro line
    rw [htable, contains_insertAll_iff]
    simp [contains, empty]
  refine ⟨⟨hstep.nodup, hstep.agree⟩, table.insert_answers, hordered, ?_, ?_, hcontains, ?_⟩
  -- Without repetition the lines in order are as many as there are different ones.
  · have hsame : inserted.toFinset = table.ordered.toFinset := by
      ext line
      rw [List.mem_toFinset, List.mem_toFinset, ← hcontains line, hstep.agree line]
    rw [hsame, List.toFinset_card_of_nodup hstep.nodup]
    rfl
  · show table.ordered.isEmpty = true ↔ table.ordered.length = 0
    rw [List.isEmpty_iff, List.length_eq_zero_iff]
  · intro start' lines' other
    have hother : other.InStep := hinStep start' lines'
    rw [beq_iff_eq]
    exact ⟨hstep.members_eq_iff hother, hstep.eq_iff hother⟩

/-- The same lines in another order make another table. -/
example : ofList ["12", "3", "12"] ≠ (ofList ["3"]).insertAll ["12"] := by decide

end ChangeLint.Patch.LineTable
