import Mathlib.Algebra.Group.Nat.Even
import Mathlib.Data.List.DropRight
import Retouch.Command.Run
import Retouch.Proofs.CommandLine

/-!
# Texts written with escapes

Escapes are read from left to right, a backslash together with the character behind it. Reading
starts afresh wherever no backslash waits for its character, and that is so after an even number of
backslashes. Every text has a written form that is read as the text, so an annotation on a command
line can insert any text.
-/

namespace Retouch

theorem unescape_cons {c : Char} (hc : c ≠ '\\') (text : Text) :
    unescape (c :: text) = c :: unescape text := by
  cases text with
  | nil => rfl
  | cons d text => rw [unescape, if_neg hc]

theorem unescape_pair (d : Char) (text : Text) :
    unescape ('\\' :: d :: text) = unescape ['\\', d] ++ unescape text := by
  simp only [unescape, if_true]
  split_ifs <;> rfl

/-- Texts by what is read at their front: a character that stands for itself, a backslash with the
character behind it, or a backslash that ends the text. -/
@[elab_as_elim] theorem escapeInduction {motive : Text → Prop} (nil : motive [])
    (lone : motive ['\\']) (plain : ∀ c text, c ≠ '\\' → motive text → motive (c :: text))
    (pair : ∀ d text, motive text → motive ('\\' :: d :: text)) : ∀ text, motive text
  | [] => nil
  | [c] => by
    by_cases hc : c = '\\'
    · exact hc ▸ lone
    · exact plain c [] hc nil
  | c :: d :: text => by
    by_cases hc : c = '\\'
    · exact hc ▸ pair d text (escapeInduction nil lone plain pair text)
    · exact plain c (d :: text) hc (escapeInduction nil lone plain pair (d :: text))

theorem unescape_escape (text : Text) : unescape (escape text) = text := by
  induction text with
  | nil => rfl
  | cons c text ih =>
    rw [escape]
    split_ifs with hnewline htab hbackslash
    · rw [unescape_pair, ih, hnewline]
      rfl
    · rw [unescape_pair, ih, htab]
      rfl
    · rw [unescape_pair, ih, hbackslash]
      rfl
    · rw [unescape_cons hbackslash, ih]

/-- Texts at whose end no backslash waits for the character behind it. -/
inductive Settled : Text → Prop
  | nil : Settled []
  | plain {c : Char} {text : Text} (hc : c ≠ '\\') (h : Settled text) : Settled (c :: text)
  | pair (d : Char) {text : Text} (h : Settled text) : Settled ('\\' :: d :: text)

theorem Settled.unescape_append {a : Text} (h : Settled a) (b : Text) :
    unescape (a ++ b) = unescape a ++ unescape b := by
  induction h with
  | nil => rfl
  | plain hc _ ih =>
    rw [List.cons_append, unescape_cons hc, unescape_cons hc, ih, List.cons_append]
  | @pair d text _ ih =>
    rw [List.cons_append, List.cons_append, unescape_pair, unescape_pair d text, ih,
      List.append_assoc]

theorem Settled.append {a b : Text} (ha : Settled a) (hb : Settled b) : Settled (a ++ b) := by
  induction ha with
  | nil => exact hb
  | plain hc _ ih => exact .plain hc ih
  | pair d _ ih => exact .pair d ih

theorem settled_concat {c : Char} (hc : c ≠ '\\') (text : Text) : Settled (text ++ [c]) := by
  induction text using escapeInduction with
  | nil => exact .plain hc .nil
  | lone => exact .pair c .nil
  | plain d text hd ih => exact .plain hd ih
  | pair d text ih => exact .pair d ih

/-- The backslashes that a text ends in. -/
def endingBackslashes (text : Text) : Text := text.rtakeWhile (· = '\\')

theorem endingBackslashes_concat (text : Text) :
    endingBackslashes (text ++ ['\\']) = endingBackslashes text ++ ['\\'] :=
  List.rtakeWhile_concat_pos _ _ _ (decide_eq_true rfl)

theorem endingBackslashes_concat_of_ne {c : Char} (hc : c ≠ '\\') (text : Text) :
    endingBackslashes (text ++ [c]) = [] :=
  List.rtakeWhile_concat_neg _ _ _ (by simpa using hc)

/-- The parity of the backslashes at the end says whether the last of them waits. -/
theorem settled_or_pending (text : Text) :
    Even (endingBackslashes text).length ∧ Settled text ∨
      ¬ Even (endingBackslashes text).length ∧
        ∃ front, Settled front ∧ text = front ++ ['\\'] := by
  induction text using List.reverseRecOn with
  | nil => exact Or.inl ⟨Even.zero, .nil⟩
  | append_singleton text c ih =>
    by_cases hc : c = '\\'
    · subst hc
      rw [endingBackslashes_concat, List.length_append, List.length_singleton, Nat.even_add_one,
        not_not]
      rcases ih with ⟨heven, hsettled⟩ | ⟨hodd, front, hfront, rfl⟩
      · exact Or.inr ⟨heven, text, hsettled, rfl⟩
      · refine Or.inl ⟨hodd, ?_⟩
        rw [List.append_assoc]
        exact hfront.append (.pair '\\' .nil)
    · rw [endingBackslashes_concat_of_ne hc]
      exact Or.inl ⟨Even.zero, settled_concat hc text⟩

/-- Reading goes on as if it started after `a` exactly if `a` ends in an even number of
backslashes. After an odd number `n` would be read with the last of them. -/
theorem even_iff_unescape_append (a : Text) :
    Even (endingBackslashes a).length ↔
      ∀ b, unescape (a ++ b) = unescape a ++ unescape b := by
  rcases settled_or_pending a with ⟨heven, hsettled⟩ | ⟨hodd, front, hfront, rfl⟩
  · exact iff_of_true heven hsettled.unescape_append
  · refine iff_of_false hodd fun h => ?_
    have hread := h ['n']
    rw [List.append_assoc, hfront.unescape_append, hfront.unescape_append,
      List.append_assoc] at hread
    exact absurd (List.append_cancel_left hread) (by decide)

/-- The characters that stand for another one behind a backslash. -/
def escapeCodes : List Char := ['n', 't', '\\']

/-- Some backslash has one of the codes behind it. -/
def HasEscape (text : Text) : Prop := ∃ d ∈ escapeCodes, ['\\', d] <:+: text

theorem hasEscape_cons_iff {c : Char} {text : Text} :
    HasEscape (c :: text) ↔
      c = '\\' ∧ (∃ d ∈ escapeCodes, [d] <+: text) ∨ HasEscape text := by
  simp only [HasEscape, List.infix_cons_iff, List.cons_prefix_cons]
  constructor
  · rintro ⟨d, hd, ⟨rfl, hhead⟩ | hrest⟩
    · exact Or.inl ⟨rfl, d, hd, hhead⟩
    · exact Or.inr ⟨d, hd, hrest⟩
  · rintro (⟨rfl, d, hd, hhead⟩ | ⟨d, hd, hrest⟩)
    · exact ⟨d, hd, Or.inl ⟨rfl, hhead⟩⟩
    · exact ⟨d, hd, Or.inr hrest⟩

theorem hasEscape_cons {c : Char} (hc : c ≠ '\\') {text : Text} :
    HasEscape (c :: text) ↔ HasEscape text := by
  rw [hasEscape_cons_iff, or_iff_right fun h => hc h.1]

theorem hasEscape_pair_of_mem {d : Char} (hd : d ∈ escapeCodes) (text : Text) :
    HasEscape ('\\' :: d :: text) :=
  hasEscape_cons_iff.2 (Or.inl ⟨rfl, d, hd, List.prefix_append [d] text⟩)

theorem hasEscape_pair_of_not_mem {d : Char} (hd : d ∉ escapeCodes) {text : Text} :
    HasEscape ('\\' :: d :: text) ↔ HasEscape text := by
  have hplain : d ≠ '\\' := by
    rintro rfl
    exact hd (by decide)
  rw [hasEscape_cons_iff, or_iff_right, hasEscape_cons hplain]
  rintro ⟨-, e, he, hhead⟩
  exact hd (List.singleton_prefix_cons_iff.1 hhead ▸ he)

theorem length_unescape_pair_of_mem {d : Char} (hd : d ∈ escapeCodes) :
    (unescape ['\\', d]).length = 1 := by
  simp only [escapeCodes, List.mem_cons, List.not_mem_nil, or_false] at hd
  rcases hd with rfl | rfl | rfl <;> rfl

theorem unescape_pair_of_not_mem {d : Char} (hd : d ∉ escapeCodes) :
    unescape ['\\', d] = ['\\', d] := by
  simp only [escapeCodes, List.mem_cons, List.not_mem_nil, or_false, not_or] at hd
  obtain ⟨hn, ht, hbackslash⟩ := hd
  simp only [unescape, if_true, if_neg hn, if_neg ht, if_neg hbackslash]

theorem length_unescape_le (text : Text) : (unescape text).length ≤ text.length := by
  induction text using escapeInduction with
  | nil => exact le_rfl
  | lone => exact le_rfl
  | plain c text hc ih =>
    rw [unescape_cons hc, List.length_cons, List.length_cons]
    omega
  | pair d text ih =>
    rw [unescape_pair, List.length_append, List.length_cons, List.length_cons]
    by_cases hd : d ∈ escapeCodes
    · rw [length_unescape_pair_of_mem hd]
      omega
    · rw [unescape_pair_of_not_mem hd, List.length_cons, List.length_singleton]
      omega

/-- A text is read as itself exactly if it has no escape. Each escape that is read makes the text
shorter. -/
theorem unescape_eq_self_iff (text : Text) : unescape text = text ↔ ¬ HasEscape text := by
  induction text using escapeInduction with
  | nil =>
    refine iff_of_true rfl ?_
    rintro ⟨d, -, hinfix⟩
    cases List.infix_nil.1 hinfix
  | lone =>
    refine iff_of_true rfl ?_
    rintro ⟨d, -, hinfix⟩
    exact absurd hinfix.length_le (by simp)
  | plain c text hc ih =>
    rw [unescape_cons hc, hasEscape_cons hc, ← ih, List.cons_inj_right]
  | pair d text ih =>
    rw [unescape_pair]
    by_cases hd : d ∈ escapeCodes
    · refine iff_of_false (fun heq => ?_) (not_not.2 (hasEscape_pair_of_mem hd text))
      have hlength := congrArg List.length heq
      have hle := length_unescape_le text
      rw [List.length_append, length_unescape_pair_of_mem hd, List.length_cons,
        List.length_cons] at hlength
      omega
    · rw [unescape_pair_of_not_mem hd, hasEscape_pair_of_not_mem hd, ← ih]
      exact List.append_right_inj ['\\', d]

namespace Command

theorem Request.sayable_annotate {settings : Option String} {file : String}
    (hsettings : settings ≠ some "") (hfile : file ≠ "") (item name given : String) (after : Bool)
    (output : Output) :
    Request.Sayable ⟨settings, file,
      .annotate item name given (if after then .after else .before), output⟩ where
  file := hfile
  settings := hsettings
  placement _ _ _ heq := by
    obtain ⟨-, -, -, hplacement⟩ := Action.annotate.inj heq
    cases after <;> cases hplacement

/-- Given with its escapes, a text is inserted as it is. -/
theorem Action.pass_annotate_escape (source : Text) (item name : String) (text : Text)
    (placement : Placement) :
    (Action.annotate item name (String.ofList (escape text)) placement).pass source =
      .annotate source item name.toList text placement := by
  rw [pass, String.toList_ofList, unescape_escape]

/-- Writing a text with escapes and reading it again gives the text, so every text can be given to
an annotation. Reading splits exactly where an even number of backslashes ends, and leaves exactly
the texts without escapes as they are. -/
theorem escapes_read_left_to_right :
    (∀ text, unescape (escape text) = text) ∧
    (∀ (settings : Option String) (file item name : String) (text : Text) (after : Bool)
        (output : Output), settings ≠ some "" → file ≠ "" →
      ∃ arguments action,
        Invocation.ofArguments arguments = .request ⟨settings, file, action, output⟩ ∧
        ∀ source, Action.pass source action =
          .annotate source item name.toList text (if after then .after else .before)) ∧
    (∀ a, Even (endingBackslashes a).length ↔
      ∀ b, unescape (a ++ b) = unescape a ++ unescape b) ∧
    ∀ text, unescape text = text ↔ ¬ HasEscape text := by
  refine ⟨unescape_escape, ?_, even_iff_unescape_append, unescape_eq_self_iff⟩
  intro settings file item name text after output hsettings hfile
  have hsayable := Request.sayable_annotate hsettings hfile item name
    (String.ofList (escape text)) after output
  exact ⟨_, _, hsayable.ofArguments_arguments,
    fun source => Action.pass_annotate_escape source item name text _⟩

/-- A text with a line break and a backslash before an `n`, and two backslashes before an `n`. -/
theorem annotation_of_backslashes :
    (none : Option String) ≠ some "" ∧ "lib.rs" ≠ "" ∧
    (∃ arguments action,
      Invocation.ofArguments arguments =
        .request ⟨none, "lib.rs", action, ⟨false, true, true⟩⟩ ∧
      ∀ source, Action.pass source action =
        .annotate source "function_item" ['f'] ['a', '\n', '\\', 'n'] .before) ∧
    unescape ['x', '\\', '\\', 'n'] = ['x', '\\', 'n'] := by
  obtain ⟨-, harguments, happend, -⟩ := escapes_read_left_to_right
  have hsettings : (none : Option String) ≠ some "" := by decide
  have hfile : "lib.rs" ≠ "" := by decide
  refine ⟨hsettings, hfile, ?_, ?_⟩
  · exact harguments none "lib.rs" "function_item" "f" ['a', '\n', '\\', 'n'] false
      ⟨false, true, true⟩ hsettings hfile
  · exact (happend ['x', '\\', '\\']).1 (by decide) ['n']

end Command

end Retouch
