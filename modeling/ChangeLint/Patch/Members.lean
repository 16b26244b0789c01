/-! # Members

The members of a set of lines, without any order.  They are what a membership test looks into,
and two of them are equal when they hold the same lines. -/

namespace ChangeLint.Patch

/-- Lists of lines that hold the same ones, in whatever order and how often soever. -/
def Members.alike : Setoid (List String) where
  r a b := ∀ line, line ∈ a ↔ line ∈ b
  iseqv :=
    { refl := fun _ _ => Iff.rfl
      symm := fun h line => (h line).symm
      trans := fun h h' line => (h line).trans (h' line) }

/-- Lines without order and repetition. -/
def Members : Type := Quotient Members.alike

namespace Members

/-- No line. -/
def empty : Members := Quotient.mk alike []

/-- Alike lists hold the same lines. -/
theorem mem_iff_of_alike {a b : List String} (h : alike.r a b) (line : String) :
    line ∈ a ↔ line ∈ b := h line

/-- Is the line a member? -/
def contains (members : Members) (line : String) : Bool :=
  Quotient.lift (fun list : List String => list.contains line)
    (fun a b h => by
      rw [Bool.eq_iff_iff, List.contains_iff_mem, List.contains_iff_mem, mem_iff_of_alike h line])
    members

/-- The members with one more. -/
def insert (members : Members) (line : String) : Members :=
  Quotient.lift (fun list : List String => Quotient.mk alike (line :: list))
    (fun a b h => Quotient.sound fun other => by
      rw [List.mem_cons, List.mem_cons, mem_iff_of_alike h other])
    members

@[simp] theorem contains_empty (line : String) : empty.contains line = false := rfl

theorem contains_insert_iff {members : Members} {line other : String} :
    (members.insert line).contains other = true ↔ other = line ∨ members.contains other = true := by
  induction members using Quotient.inductionOn with
  | h list =>
    show (line :: list).contains other = true ↔ other = line ∨ list.contains other = true
    rw [List.contains_iff_mem, List.contains_iff_mem, List.mem_cons]

/-- Nothing but what it contains belongs to a set of members. -/
theorem ext {a b : Members} (h : ∀ line, a.contains line = true ↔ b.contains line = true) :
    a = b := by
  induction a using Quotient.inductionOn with
  | h list =>
    induction b using Quotient.inductionOn with
    | h others =>
      refine Quotient.sound fun line => ?_
      have hline : list.contains line = true ↔ others.contains line = true := h line
      rwa [List.contains_iff_mem, List.contains_iff_mem] at hline

/-- Members are compared by looking each one up in the others. -/
instance : DecidableEq Members :=
  letI : ∀ a b : List String, Decidable (alike.r a b) := fun a b =>
    decidable_of_iff ((∀ line ∈ a, line ∈ b) ∧ ∀ line ∈ b, line ∈ a)
      ⟨fun h line => ⟨h.1 line, h.2 line⟩,
        fun h => ⟨fun line => (h line).mp, fun line => (h line).mpr⟩⟩
  inferInstanceAs (DecidableEq (Quotient alike))

end Members

end ChangeLint.Patch
