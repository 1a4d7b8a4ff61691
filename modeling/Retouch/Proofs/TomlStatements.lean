import Retouch.Toml.Reader

/-!
# The statements of a document

A document is a list of statements, headers and pairs, with gaps between them. A text that can be
read is laid out as such a list, and its entries are what the statements build, one after the
other.
-/

namespace Retouch.Toml

inductive Statement where
  | header (header : Header) (mark : Mark)
  | pair (path : List Key) (key : Key) (value : Value) (mark : Mark)

/-- The statement at the front of a text, and the text behind its line. -/
inductive Starts : Text → Statement → Text → Prop
  | header {text rest after : Text} {header : Header} : text.head? = some '[' →
    header? text = some (header, rest) → lineEnd rest = some after →
    Starts text (.header header ⟨text.length, rest.length⟩) after
  | pair {text rest after : Text} {path : List Key} {key : Key} {value : Value} {mark : Mark} :
    text.head? ≠ some '[' →
    keyValue? (4 * text.length + 4) maxDepth (some ∘ skipBlanks) text =
      some (path, key, .value value mark, rest) →
    lineEnd rest = some after → Starts text (.pair path key value mark) after

/-- The statements of a text, with gaps before and behind them. -/
inductive Laid : Text → List Statement → Prop
  | done {text : Text} : skipGap text false = some [] → Laid text []
  | next {text start rest : Text} {s : Statement} {statements : List Statement} :
    skipGap text false = some start → Starts start s rest → Laid rest statements →
    Laid text (s :: statements)

/-- What a statement does to the finished entries and the current section. -/
def Statement.apply (root : Entries) (current : Section) :
    Statement → Option (Entries × Section)
  | header h mark => do
    let root ← current.finish root
    let (current, root) ← Section.start h mark root
    return (root, current)
  | pair path key value mark => do
    return (root, ← current.assign path key (.value value mark))

/-- The entries that statements build. -/
def build (root : Entries) (current : Section) : List Statement → Option Entries
  | [] => current.finish root
  | s :: statements =>
    (s.apply root current).bind fun (root, current) => build root current statements

theorem exists_value_of_keyValue? {fuel room : Nat} {skip : Text → Option Text} {text rest : Text}
    {path : List Key} {key : Key} {item : Item}
    (h : keyValue? fuel room skip text = some (path, key, item, rest)) :
    ∃ value mark, item = .value value mark := by
  cases fuel with
  | zero => simp [keyValue?] at h
  | succ fuel =>
    unfold keyValue? at h
    split at h
    · split at h
      · split at h
        · obtain ⟨-, -, rfl, -⟩ := by simpa using h
          exact ⟨_, _, rfl⟩
        · cases h
      · cases h
    · cases h

/-- Reading an expression is reading a statement and doing what it says. -/
theorem exists_statement {root root' : Entries} {current current' : Section} {text rest : Text}
    (h : expression? root current text = some (root', current', rest)) :
    ∃ s, Starts text s rest ∧ s.apply root current = some (root', current') := by
  unfold expression? at h
  split at h
  · next hbracket =>
    simp only [Option.bind_eq_bind, Option.bind_eq_some_iff, Option.pure_def, Option.some.injEq,
      Prod.mk.injEq, Prod.exists] at h
    obtain ⟨header, after, hheader, root1, hfinish, section1, root2, hstart, end1, hend,
      rfl, rfl, rfl⟩ := h
    refine ⟨.header header ⟨text.length, after.length⟩, .header hbracket hheader hend, ?_⟩
    simp [Statement.apply, hfinish, hstart]
  · next hbracket =>
    simp only [Option.bind_eq_bind, Option.bind_eq_some_iff, Option.pure_def, Option.some.injEq,
      Prod.mk.injEq, Prod.exists] at h
    obtain ⟨path, key, item, after, hpair, section1, hassign, end1, hend, rfl, rfl, rfl⟩ := h
    obtain ⟨value, mark, rfl⟩ := exists_value_of_keyValue? hpair
    refine ⟨.pair path key value mark, .pair hbracket hpair hend, ?_⟩
    simp [Statement.apply, hassign]

theorem exists_statements {fuel : Nat} {root entries : Entries} {current : Section} {text : Text}
    (h : expressions fuel root current text = .ok entries) :
    ∃ statements, Laid text statements ∧ build root current statements = some entries := by
  induction fuel generalizing root current text with
  | zero => cases h
  | succ fuel ih =>
    unfold expressions at h
    split at h
    · cases h
    · next hgap =>
      split at h
      · next hfinish =>
        obtain rfl := Except.ok.inj h
        exact ⟨[], .done hgap, hfinish⟩
      · cases h
    · next hgap =>
      split at h
      · next hexpression =>
        obtain ⟨s, hstarts, happly⟩ := exists_statement hexpression
        obtain ⟨statements, hlaid, hbuild⟩ := ih h
        refine ⟨s :: statements, .next hgap hstarts hlaid, ?_⟩
        rw [build, happly]
        exact hbuild
      · cases h

/-- The section before the first header. -/
def Section.first (text : Text) : Section := ⟨none, ⟨text.length, text.length⟩, []⟩

theorem exists_statements_of_read {text : Text} {entries : Entries}
    (h : read text = .ok entries) :
    ∃ statements, Laid (dropByteOrderMark text) statements ∧
      build [] (.first (dropByteOrderMark text)) statements = some entries :=
  exists_statements h

end Retouch.Toml
