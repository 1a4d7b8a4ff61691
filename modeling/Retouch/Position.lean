/-!
# Positions

A position names a place in a text by its line and its column. Both are counted from one, columns
in characters, and a newline is the only character that starts a new line.
-/

namespace Retouch

/-- A number counted from one. -/
structure Ordinal where
  value : Nat
  pos : 0 < value
deriving DecidableEq

namespace Ordinal

def first : Ordinal := ⟨1, Nat.one_pos⟩

def next (n : Ordinal) : Ordinal := ⟨n.value + 1, n.value.succ_pos⟩

def ofZeroBased (n : Nat) : Ordinal := ⟨n + 1, n.succ_pos⟩

def ofNat? (n : Nat) : Option Ordinal :=
  if h : 0 < n then some ⟨n, h⟩ else none

instance : Ord Ordinal := ⟨fun a b => compare a.value b.value⟩

@[ext] theorem ext {a b : Ordinal} (h : a.value = b.value) : a = b := by
  cases a
  cases b
  cases h
  rfl

@[simp] theorem value_first : first.value = 1 := rfl

@[simp] theorem value_next (n : Ordinal) : n.next.value = n.value + 1 := rfl

@[simp] theorem value_ofZeroBased (n : Nat) : (ofZeroBased n).value = n + 1 := rfl

end Ordinal

structure Position where
  line : Ordinal
  column : Ordinal
deriving DecidableEq

namespace Position

/-- The place of a text's first character. -/
def start : Position := ⟨.first, .first⟩

def ofZeroBased (row column : Nat) : Position :=
  ⟨.ofZeroBased row, .ofZeroBased column⟩

/-- Positions are ordered by line, then by column. -/
protected def Lt (a b : Position) : Prop :=
  a.line.value < b.line.value ∨
    a.line.value = b.line.value ∧ a.column.value < b.column.value

instance : LT Position := ⟨Position.Lt⟩

instance : LE Position := ⟨fun a b => ¬ b < a⟩

theorem lt_def {a b : Position} : a < b ↔ a.line.value < b.line.value ∨
    a.line.value = b.line.value ∧ a.column.value < b.column.value := Iff.rfl

theorem le_def {a b : Position} : a ≤ b ↔ ¬ b < a := Iff.rfl

instance (a b : Position) : Decidable (a < b) :=
  inferInstanceAs (Decidable (_ ∨ _ ∧ _))

instance (a b : Position) : Decidable (a ≤ b) :=
  inferInstanceAs (Decidable (¬ b < a))

instance : Ord Position := ⟨fun a b => compareOfLessAndEq a b⟩

def nextLine (p : Position) : Position := ⟨p.line.next, .first⟩

def nextColumn (p : Position) : Position := ⟨p.line, p.column.next⟩

/-- The position after the character `c` standing at `p`. -/
def advance (p : Position) (c : Char) : Position :=
  if c = '\n' then p.nextLine else p.nextColumn

/-- The position after a text that starts at `p`. -/
def after (p : Position) (text : List Char) : Position := text.foldl advance p

@[simp] theorem after_nil (p : Position) : p.after [] = p := rfl

@[simp] theorem after_cons (p : Position) (c : Char) (text : List Char) :
    p.after (c :: text) = (p.advance c).after text := rfl

theorem after_append (p : Position) (s t : List Char) :
    p.after (s ++ t) = (p.after s).after t := List.foldl_append

theorem lt_advance (p : Position) (c : Char) : p < p.advance c := by
  unfold advance
  split
  · exact Or.inl (Nat.lt_succ_self _)
  · exact Or.inr ⟨rfl, Nat.lt_succ_self _⟩

def render (p : Position) : String := s!"{p.line.value}:{p.column.value}"

end Position

/-- Why numbers are refused as a position or a span. -/
inductive PositionError where
  | zeroLine
  | zeroColumn
  | inverted (lower upper : Position)
deriving DecidableEq

def PositionError.message : PositionError → String
  | zeroLine => "invalid line number 0: lines start at 1"
  | zeroColumn => "invalid column number 0: columns start at 1"
  | inverted lower upper =>
    s!"inverted span: lower bound {lower.render} is after upper bound {upper.render}"

namespace Position

def line? (n : Nat) : Except PositionError Ordinal :=
  match Ordinal.ofNat? n with
  | some line => .ok line
  | none => .error .zeroLine

def column? (n : Nat) : Except PositionError Ordinal :=
  match Ordinal.ofNat? n with
  | some column => .ok column
  | none => .error .zeroColumn

/-- The line is looked at first. -/
def ofNat? (line column : Nat) : Except PositionError Position := do
  let line ← line? line
  let column ← column? column
  return ⟨line, column⟩

end Position

end Retouch
