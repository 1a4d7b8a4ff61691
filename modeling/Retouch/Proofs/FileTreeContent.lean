import Mathlib.Data.List.Basic
import Retouch.FileTree

/-!
# What names lead to

A file tree is seen through what each list of names leads to: nothing, a directory, or a file with
its content. Putting a file into a tree or removing one shows at its own names only.
-/

namespace Retouch.FileTree

/-- What names lead to. A directory has no content. -/
def contentAt? (root : FileTree) (names : List String) : Option (Option ByteArray) :=
  (root.entryAt? names).map fun
    | .file bytes => some bytes
    | .directory _ => none

theorem contentAt?_cons (root : FileTree) (name : String) (names : List String) :
    root.contentAt? (name :: names) =
      match root.lookup name with
      | none => none
      | some (.file bytes) => if names.isEmpty then some (some bytes) else none
      | some (.directory inner) => contentAt? inner names := by
  rw [contentAt?, entryAt?]
  cases root.lookup name with
  | none => rfl
  | some entry =>
    cases entry with
    | file bytes => cases names <;> rfl
    | directory inner => rfl

theorem lookup_eq_none_iff_any {name : String} {entries : FileTree} :
    entries.lookup name = none ↔ ¬ entries.any (·.1 == name) = true := by
  rw [List.lookup_eq_none_iff, List.any_eq_true]
  constructor
  · rintro h ⟨entry, hentry, hname⟩
    exact bne_iff_ne.1 (h entry hentry) (beq_iff_eq.1 hname).symm
  · intro h entry hentry
    exact bne_iff_ne.2 fun hname => h ⟨entry, hentry, beq_iff_eq.2 hname.symm⟩

theorem lookup_cons (n key : String) (value : Entry) (entries : FileTree) :
    List.lookup n ((key, value) :: entries) =
      if n = key then some value else entries.lookup n := by
  rw [List.lookup_cons]
  by_cases hn : n = key
  · rw [if_pos hn, beq_iff_eq.2 hn]
  · rw [if_neg hn, beq_false_of_ne hn]

theorem lookup_replace (name n : String) (entry : Entry) (entries : FileTree) :
    (entries.map fun old => if old.1 == name then (name, entry) else old).lookup n =
      if n = name then (entries.lookup name).map fun _ => entry else entries.lookup n := by
  induction entries with
  | nil => simp
  | cons old entries ih =>
    obtain ⟨key, value⟩ := old
    rw [List.map_cons]
    by_cases hkey : key = name
    · subst hkey
      rw [if_pos (beq_self_eq_true key), lookup_cons, ih, lookup_cons, lookup_cons, if_pos rfl]
      by_cases hn : n = key
      · rw [if_pos hn, if_pos hn, Option.map_some]
      · rw [if_neg hn, if_neg hn, if_neg hn, if_neg hn]
    · have hname : ¬ (key == name) = true := by simpa using hkey
      rw [if_neg hname, lookup_cons, ih, lookup_cons, lookup_cons, if_neg (Ne.symm hkey)]
      by_cases hn : n = name
      · subst hn
        rw [if_neg (Ne.symm hkey), if_pos rfl, if_pos rfl]
      · rw [if_neg hn, if_neg hn]

theorem lookup_setEntry (name n : String) (entry : Entry) (entries : FileTree) :
    (setEntry name entry entries).lookup n =
      if n = name then some entry else entries.lookup n := by
  unfold setEntry
  by_cases hany : entries.any (·.1 == name) = true
  · rw [if_pos hany, lookup_replace]
    by_cases hn : n = name
    · rw [if_pos hn, if_pos hn]
      cases hfound : entries.lookup name with
      | some old => rfl
      | none => exact absurd hany (lookup_eq_none_iff_any.1 hfound)
    · rw [if_neg hn, if_neg hn]
  · rw [if_neg hany, List.lookup_append, lookup_cons]
    by_cases hn : n = name
    · rw [if_pos hn, if_pos hn, hn, lookup_eq_none_iff_any.2 hany, Option.none_or]
    · rw [if_neg hn, if_neg hn, List.lookup_nil, Option.or_none]

theorem lookup_filter_ne (name n : String) (entries : FileTree) :
    (entries.filter fun entry => entry.1 != name).lookup n =
      if n = name then none else entries.lookup n := by
  induction entries with
  | nil => simp
  | cons entry entries ih =>
    obtain ⟨key, value⟩ := entry
    by_cases hkey : key = name
    · subst hkey
      rw [List.filter_cons_of_neg (by simp), ih, lookup_cons]
      by_cases hn : n = key <;> simp [hn]
    · rw [List.filter_cons_of_pos (by simpa using hkey), lookup_cons, ih, lookup_cons]
      by_cases hn : n = key
      · simp [hn, hkey]
      · simp [hn]

theorem contentAt?_singleton_ne {root : FileTree} {name : String} {others : List String}
    (h : root.contentAt? [name] ≠ some none) (hne : others ≠ []) :
    root.contentAt? (name :: others) = none := by
  rw [contentAt?_cons] at h ⊢
  cases hfound : root.lookup name with
  | none => rfl
  | some entry =>
    rw [hfound] at h
    cases entry with
    | file bytes => simp [hne]
    | directory inner => exact absurd rfl h

/-- What changes inside a directory shows below its name only. -/
theorem contentAt?_setEntry_directory (root inner : FileTree) (name n : String)
    (names : List String) :
    (setEntry name (.directory inner) root).contentAt? (n :: names) =
      if n = name then inner.contentAt? names else root.contentAt? (n :: names) := by
  rw [contentAt?_cons, lookup_setEntry, contentAt?_cons]
  by_cases hn : n = name
  · rw [if_pos hn, if_pos hn]
  · rw [if_neg hn, if_neg hn]

theorem lookup_of_contentAt?_cons {root : FileTree} {name : String} {names : List String}
    {content : Option ByteArray} (hne : names ≠ [] ∨ content = none)
    (h : root.contentAt? (name :: names) = some content) :
    ∃ inner : FileTree, root.lookup name = some (.directory inner) ∧
      inner.contentAt? names = some content := by
  rw [contentAt?_cons] at h
  cases hfound : root.lookup name with
  | none =>
    rw [hfound] at h
    cases h
  | some entry =>
    rw [hfound] at h
    cases entry with
    | directory inner => exact ⟨inner, rfl, h⟩
    | file bytes =>
      rcases hne with hne | rfl
      · simp [hne] at h
      · simp at h

theorem put_cons {root inner : FileTree} {name : String} {names : List String}
    (content : Option ByteArray) (hne : names ≠ [])
    (h : root.lookup name = some (.directory inner)) :
    root.put (name :: names) content =
      setEntry name (.directory (inner.put names content)) root := by
  cases names with
  | nil => exact absurd rfl hne
  | cons next names =>
    rw [put, h]
    simp

theorem remove_cons {root inner : FileTree} {name : String} {names : List String}
    (hne : names ≠ []) (h : root.lookup name = some (.directory inner)) :
    root.remove (name :: names) = setEntry name (.directory (inner.remove names)) root := by
  cases names with
  | nil => exact absurd rfl hne
  | cons next names =>
    rw [remove, h]
    simp

/-- A file is put into a directory that is there, in the place of nothing or of a file. Every other
name leads to what it led to. -/
theorem contentAt?_put {root : FileTree} {here : List String} {name : String}
    (hhere : root.contentAt? here = some none)
    (hname : root.contentAt? (here ++ [name]) ≠ some none) (bytes : ByteArray)
    (other : List String) :
    (root.put (here ++ [name]) (some bytes)).contentAt? other =
      if other = here ++ [name] then some (some bytes) else root.contentAt? other := by
  induction here generalizing root other with
  | nil =>
    cases other with
    | nil => rfl
    | cons n others =>
      rw [List.nil_append, put, contentAt?_cons, lookup_setEntry]
      by_cases hn : n = name
      · subst hn
        rw [if_pos rfl]
        cases others with
        | nil => simp
        | cons next others =>
          rw [contentAt?_singleton_ne hname (List.cons_ne_nil next others)]
          simp
      · rw [if_neg hn, ← contentAt?_cons]
        simp [hn]
  | cons d here ih =>
    obtain ⟨inner, hfound, hinner⟩ := lookup_of_contentAt?_cons (.inr rfl) hhere
    have hname' : inner.contentAt? (here ++ [name]) ≠ some none := by
      intro h
      rw [List.cons_append, contentAt?_cons, hfound] at hname
      exact hname h
    rw [List.cons_append, put_cons _ (by simp) hfound]
    cases other with
    | nil => rfl
    | cons n others =>
      rw [contentAt?_setEntry_directory, ih hinner hname']
      by_cases hn : n = d
      · subst hn
        rw [contentAt?_cons, hfound]
        simp
      · simp [hn]

theorem contentAt?_remove {root : FileTree} {names : List String} {bytes : ByteArray}
    (h : root.contentAt? names = some (some bytes)) (other : List String) :
    (root.remove names).contentAt? other =
      if other = names then none else root.contentAt? other := by
  induction names generalizing root other with
  | nil => cases h
  | cons name names ih =>
    cases names with
    | nil =>
      cases other with
      | nil => rfl
      | cons n others =>
        rw [remove, contentAt?_cons, lookup_filter_ne]
        by_cases hn : n = name
        · subst hn
          rw [if_pos rfl]
          cases others with
          | nil => simp
          | cons next others =>
            have hfile : root.contentAt? [n] ≠ some none := by simp [h]
            rw [contentAt?_singleton_ne hfile (List.cons_ne_nil next others)]
            simp
        · rw [if_neg hn, ← contentAt?_cons]
          simp [hn]
    | cons next names =>
      have hne : next :: names ≠ [] := List.cons_ne_nil next names
      obtain ⟨inner, hfound, hinner⟩ := lookup_of_contentAt?_cons (.inl hne) h
      rw [remove_cons hne hfound]
      cases other with
      | nil => rfl
      | cons n others =>
        rw [contentAt?_setEntry_directory, ih hinner]
        by_cases hn : n = name
        · subst hn
          rw [contentAt?_cons, hfound]
          simp
        · simp [hn]

theorem contentAt?_append {root inner : FileTree} {here : List String}
    (h : root.entryAt? here = some (.directory inner)) (names : List String) :
    root.contentAt? (here ++ names) = inner.contentAt? names := by
  induction here generalizing root with
  | nil =>
    obtain rfl : root = inner := by simpa [entryAt?] using h
    rfl
  | cons name here ih =>
    rw [entryAt?] at h
    rw [List.cons_append, contentAt?_cons]
    cases hfound : root.lookup name with
    | none =>
      rw [hfound] at h
      cases h
    | some entry =>
      rw [hfound] at h
      cases entry with
      | directory found => exact ih h
      | file bytes =>
        dsimp only at h
        split at h <;> cases h

theorem contentAt?_eq_directory_iff {root : FileTree} {names : List String} :
    root.contentAt? names = some none ↔ ∃ inner, root.entryAt? names = some (.directory inner) := by
  rw [contentAt?]
  cases root.entryAt? names with
  | none => simp
  | some entry => cases entry <;> simp

theorem contentAt?_eq_file_iff {root : FileTree} {names : List String} {bytes : ByteArray} :
    root.contentAt? names = some (some bytes) ↔ root.entryAt? names = some (.file bytes) := by
  rw [contentAt?]
  cases root.entryAt? names with
  | none => simp
  | some entry => cases entry <;> simp

/-- Only directories hold something. -/
theorem contentAt?_of_append_cons {root : FileTree} {here names : List String} {name : String}
    {content : Option ByteArray} (h : root.contentAt? (here ++ name :: names) = some content) :
    root.contentAt? here = some none := by
  induction here generalizing root with
  | nil => rfl
  | cons d here ih =>
    obtain ⟨inner, hfound, hinner⟩ := lookup_of_contentAt?_cons (.inl (by simp)) h
    rw [contentAt?_cons, hfound]
    exact ih hinner

end Retouch.FileTree
