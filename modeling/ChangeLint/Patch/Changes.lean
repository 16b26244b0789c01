import ChangeLint.Patch.LineSet

/-! # Changed lines by file

The changed lines of several files, each file with one entry, in the order in which the
entries were made.  A file without a changed line may have an entry, whose set is empty. -/

namespace ChangeLint.Patch

/-- The changed lines of some files. -/
structure Changes where
  entries : List (String × LineSet)
  deriving DecidableEq

namespace Changes

/-- No file. -/
def empty : Changes := ⟨[]⟩

instance : EmptyCollection Changes := ⟨empty⟩
instance : Inhabited Changes := ⟨empty⟩

/-- Applies `f` to the set of a file, at the end of the entries with the empty set if the file
has none. -/
def updateEntries (path : String) (f : LineSet → LineSet) :
    List (String × LineSet) → List (String × LineSet)
  | [] => [(path, f ∅)]
  | entry :: entries =>
    if entry.1 = path then (entry.1, f entry.2) :: entries
    else entry :: updateEntries path f entries

/-- Applies `f` to the set of a file. -/
def update (changes : Changes) (path : String) (f : LineSet → LineSet) : Changes :=
  ⟨updateEntries path f changes.entries⟩

/-- Makes sure that the file has an entry. -/
def touch (changes : Changes) (path : String) : Changes := changes.update path id

/-- Adds a changed line of a file. -/
def insert (changes : Changes) (path line : String) : Changes :=
  changes.update path (·.insert line)

/-- The changed lines of a file, if it has an entry. -/
def get? (changes : Changes) (path : String) : Option LineSet := changes.entries.lookup path

/-- All changed lines, entry by entry, as one set. -/
def merged (changes : Changes) : LineSet :=
  changes.entries.foldl (fun set entry => set.union entry.2) ∅

/-- After an update the file has the updated set, and every other file what it had. -/
theorem get?_update (changes : Changes) (path other : String) (f : LineSet → LineSet) :
    (changes.update path f).get? other =
      if other = path then some (f ((changes.get? path).getD ∅)) else changes.get? other := by
  obtain ⟨entries⟩ := changes
  simp only [get?, update]
  induction entries with
  | nil =>
    by_cases h : other = path
    · simp [updateEntries, h]
    · have h' : (other == path) = false := by simpa using h
      simp [updateEntries, List.lookup_cons, h, h']
  | cons entry entries ih =>
    obtain ⟨key, set⟩ := entry
    by_cases hk : key = path
    · subst hk
      by_cases h : other = key
      · simp [updateEntries, h]
      · have h' : (other == key) = false := by simpa using h
        simp [updateEntries, List.lookup_cons, h, h']
    · by_cases h : other = path
      · subst h
        have hk' : (other == key) = false := by simpa using fun e => hk e.symm
        simp only [updateEntries, hk, if_false, List.lookup_cons, hk', if_true] at ih ⊢
        exact ih
      · simp only [updateEntries, hk, if_false, List.lookup_cons, h] at ih ⊢
        split
        · rfl
        · exact ih

end Changes

end ChangeLint.Patch
