import Mathlib.Data.List.TakeWhile
import Retouch.Token.Trivia

/-!
# What stands between tokens

`Trivia` is the grammar of white space and ordinary comments: line comments with their newline and
block comments, which nest. Only the last line comment of a text needs no newline. What is skipped
in front of a token is a text of this grammar, and all of it is skipped.
-/

namespace Retouch.Token

/-- What follows the opening of a block comment, up to its own closing. -/
inductive BlockRest : Text → Prop
  | close : BlockRest ['*', '/']
  | inner {comment rest : Text} :
    BlockRest comment → BlockRest rest → BlockRest ('/' :: '*' :: (comment ++ rest))
  | char {c : Char} {rest : Text} : ¬(c = '/' ∧ rest.head? = some '*') →
    ¬(c = '*' ∧ rest.head? = some '/') → BlockRest rest → BlockRest (c :: rest)

/-- The body of a line comment that documents nothing: `//!` and `///` do, `////` does not. -/
def OrdinaryLine (body : Text) : Prop :=
  body.head? ≠ some '!' ∧ (body.head? = some '/' → body.tail.head? = some '/')

/-- The body of a block comment that documents nothing: `/*!` and `/**` do, `/***` and `/**/` do
not. -/
def OrdinaryBlock (body : Text) : Prop :=
  body.head? ≠ some '!' ∧
    (body.head? = some '*' → body.tail.head? = some '*' ∨ body.tail.head? = some '/')

inductive Trivia : Text → Prop
  | nil : Trivia []
  | space {c : Char} {rest : Text} : isSpace c = true → Trivia rest → Trivia (c :: rest)
  | line {body rest : Text} : OrdinaryLine body → '\n' ∉ body → Trivia rest →
    Trivia ('/' :: '/' :: (body ++ '\n' :: rest))
  | block {body rest : Text} : OrdinaryBlock body → BlockRest body → Trivia rest →
    Trivia ('/' :: '*' :: (body ++ rest))

/-- A line comment that ends with the text. -/
inductive OpenLine : Text → Prop
  | mk {body : Text} : OrdinaryLine body → '\n' ∉ body → OpenLine ('/' :: '/' :: body)

/-- What may stand behind the last token of a text. -/
def LastTrivia (text : Text) : Prop :=
  Trivia text ∨ ∃ front comment, text = front ++ comment ∧ Trivia front ∧ OpenLine comment

theorem afterBlock?_char {c : Char} {text : Text} (depth : Nat)
    (hopen : ¬(c = '/' ∧ text.head? = some '*')) (hclose : ¬(c = '*' ∧ text.head? = some '/')) :
    afterBlock? (c :: text) depth = afterBlock? text depth := by
  rw [afterBlock?]
  · rintro rest rfl rfl
    exact hopen ⟨rfl, rfl⟩
  · rintro rest rfl rfl
    exact hclose ⟨rfl, rfl⟩

theorem BlockRest.ne_nil {body : Text} (h : BlockRest body) : body ≠ [] := by
  cases h <;> simp

/-- The rest of a block comment closes one comment. -/
theorem BlockRest.afterBlock? {body : Text} (h : BlockRest body) (rest : Text) (depth : Nat) :
    afterBlock? (body ++ rest) (depth + 1) =
      if depth = 0 then some rest else Token.afterBlock? rest depth := by
  induction h generalizing rest depth with
  | close => cases depth <;> simp [Token.afterBlock?]
  | @inner comment body _ _ ihcomment ihbody =>
    calc Token.afterBlock? ('/' :: '*' :: (comment ++ body) ++ rest) (depth + 1)
        = Token.afterBlock? (comment ++ (body ++ rest)) (depth + 1 + 1) := by
          simp [Token.afterBlock?]
      _ = Token.afterBlock? (body ++ rest) (depth + 1) := by rw [ihcomment, if_neg (by omega)]
      _ = _ := ihbody rest depth
  | @char c body hopen hclose hbody ih =>
    have hhead : (body ++ rest).head? = body.head? := by
      cases body with
      | nil => exact absurd rfl hbody.ne_nil
      | cons d body => rfl
    rw [List.cons_append, afterBlock?_char _ (by rwa [hhead]) (by rwa [hhead]), ih]

/-- What is read of a block comment that is open `depth` times closes it so many times. -/
theorem exists_closings {text rest : Text} {depth : Nat} (hdepth : 0 < depth)
    (h : afterBlock? text depth = some rest) :
    ∃ closings : List Text, closings.length = depth ∧ (∀ body ∈ closings, BlockRest body) ∧
      text = closings.flatten ++ rest := by
  fun_induction afterBlock? text depth with
  | case1 text depth ih =>
    obtain ⟨closings, hlength, hbodies, rfl⟩ := ih (Nat.succ_pos depth) h
    match closings, hlength with
    | comment :: body :: closings, hlength =>
      simp only [List.forall_mem_cons] at hbodies
      obtain ⟨hcomment, hbody, hbodies⟩ := hbodies
      refine ⟨('/' :: '*' :: (comment ++ body)) :: closings, by simpa using hlength, ?_, by simp⟩
      exact List.forall_mem_cons.2 ⟨.inner hcomment hbody, hbodies⟩
    | [_], hlength => simp at hlength; omega
  | case2 text depth hlast =>
    obtain rfl := Option.some.inj h
    have hone : depth = 1 := by omega
    exact ⟨[['*', '/']], by simp [hone], by simpa using .close, rfl⟩
  | case3 text depth hlast ih =>
    obtain ⟨closings, hlength, hbodies, rfl⟩ := ih (by omega) h
    refine ⟨['*', '/'] :: closings, by simp; omega, ?_, rfl⟩
    exact List.forall_mem_cons.2 ⟨.close, hbodies⟩
  | case4 c text depth hopen hclose ih =>
    obtain ⟨closings, hlength, hbodies, rfl⟩ := ih hdepth h
    match closings, hlength with
    | body :: closings, hlength =>
      obtain ⟨hbody, hclosings⟩ := List.forall_mem_cons.1 hbodies
      obtain ⟨d, tail, rfl⟩ := List.exists_cons_of_ne_nil hbody.ne_nil
      refine ⟨(c :: d :: tail) :: closings, by simpa using hlength, ?_, rfl⟩
      refine List.forall_mem_cons.2 ⟨.char ?_ ?_ hbody, hclosings⟩
      · rintro ⟨rfl, hd⟩
        exact hopen _ rfl (by rw [Option.some.inj hd]; rfl)
      · rintro ⟨rfl, hd⟩
        exact hclose _ rfl (by rw [Option.some.inj hd]; rfl)
    | [], hlength => simp at hlength; omega
  | case5 => cases h

theorem afterBlock?_eq_some_iff {text rest : Text} :
    afterBlock? text 1 = some rest ↔ ∃ body, BlockRest body ∧ text = body ++ rest := by
  constructor
  · intro h
    obtain ⟨closings, hlength, hbodies, rfl⟩ := exists_closings Nat.one_pos h
    obtain ⟨body, rfl⟩ := List.length_eq_one_iff.1 hlength
    exact ⟨body, hbodies body List.mem_cons_self, by simp⟩
  · rintro ⟨body, hbody, rfl⟩
    exact hbody.afterBlock? rest 0

theorem isLineComment_iff {text : Text} :
    isLineComment text = true ↔ ∃ body, text = '/' :: '/' :: body ∧ OrdinaryLine body := by
  constructor
  · intro h
    unfold isLineComment at h
    split at h
    · exact ⟨_, rfl, by simp, by simp⟩
    · cases h
    · cases h
    · next body _ hslash hbang =>
      refine ⟨body, rfl, ?_, ?_⟩
      · intro hhead
        obtain ⟨rest, rfl⟩ := List.head?_eq_some_iff.1 hhead
        exact hbang rest rfl
      · intro hhead
        obtain ⟨rest, rfl⟩ := List.head?_eq_some_iff.1 hhead
        exact (hslash rest rfl).elim
    · cases h
  · rintro ⟨body, rfl, hbang, hslash⟩
    unfold isLineComment
    split
    · rfl
    · next rest hrest heq =>
      obtain rfl : body = '/' :: rest := by simpa using heq
      obtain ⟨more, hmore⟩ := List.head?_eq_some_iff.1 (hslash rfl)
      exact (hrest more hmore).elim
    · simp_all
    · rfl
    · simp_all

theorem isBlockComment_iff {text : Text} :
    isBlockComment text = true ↔ ∃ body, text = '/' :: '*' :: body ∧ OrdinaryBlock body := by
  constructor
  · intro h
    unfold isBlockComment at h
    split at h
    · exact ⟨_, rfl, by simp, by simp⟩
    · exact ⟨_, rfl, by simp, by simp⟩
    · cases h
    · cases h
    · next body _ _ hstar hbang =>
      refine ⟨body, rfl, ?_, ?_⟩
      · intro hhead
        obtain ⟨rest, rfl⟩ := List.head?_eq_some_iff.1 hhead
        exact hbang rest rfl
      · intro hhead
        obtain ⟨rest, rfl⟩ := List.head?_eq_some_iff.1 hhead
        exact (hstar rest rfl).elim
    · cases h
  · rintro ⟨body, rfl, hbang, hstar⟩
    unfold isBlockComment
    split
    · rfl
    · rfl
    · next rest hslash hrest heq =>
      obtain rfl : body = '*' :: rest := by simpa using heq
      rcases hstar rfl with hhead | hhead
      · obtain ⟨more, hmore⟩ := List.head?_eq_some_iff.1 hhead
        exact (hrest more hmore).elim
      · obtain ⟨more, hmore⟩ := List.head?_eq_some_iff.1 hhead
        exact (hslash more hmore).elim
    · simp_all
    · rfl
    · simp_all

theorem ordinaryLine_append_newline {body rest : Text} :
    OrdinaryLine (body ++ '\n' :: rest) ↔ OrdinaryLine body := by
  match body with
  | [] => simp [OrdinaryLine]
  | [c] => simp [OrdinaryLine]
  | c :: d :: body => simp [OrdinaryLine]

theorem ordinaryBlock_append {body rest : Text} (h : BlockRest body) :
    OrdinaryBlock (body ++ rest) ↔ OrdinaryBlock body := by
  match body, h with
  | [_], .char _ _ h => exact (h.ne_nil rfl).elim
  | c :: d :: body, _ => simp [OrdinaryBlock]

/-- What is left of a text without its leading trivia. -/
def afterTrivia (text : Text) : Text := skipTrivia (text.length + 1) text

theorem length_afterBlock?_lt {text rest : Text} {depth : Nat}
    (h : afterBlock? text depth = some rest) : rest.length < text.length := by
  fun_induction afterBlock? text depth with
  | case1 text depth ih => exact (ih h).trans (by simp only [List.length_cons]; omega)
  | case2 text depth hlast =>
    obtain rfl := Option.some.inj h
    simp only [List.length_cons]
    omega
  | case3 text depth hlast ih => exact (ih h).trans (by simp only [List.length_cons]; omega)
  | case4 c text depth hopen hclose ih => exact (ih h).trans (by simp)
  | case5 => cases h

theorem length_restOfLine_lt {text : Text} (h : isLineComment text = true) :
    (restOfLine text).2.length < text.length := by
  obtain ⟨body, rfl, -⟩ := isLineComment_iff.1 h
  have hle := (List.dropWhile_sublist (l := body) (· != '\n')).length_le
  simp [restOfLine]
  omega

theorem skipTrivia_succ (fuel : Nat) (text : Text) :
    skipTrivia (fuel + 1) text =
      if isLineComment text then skipTrivia fuel (restOfLine text).2
      else if isBlockComment text then
        match afterBlock? text 0 with
        | some rest => skipTrivia fuel rest
        | none => text
      else
        match text with
        | c :: rest => if isSpace c then skipTrivia fuel rest else text
        | [] => [] := by
  cases text <;> rfl

/-- Fuel beyond the length of the text makes no difference. -/
theorem skipTrivia_eq_skipTrivia {m n : Nat} {text : Text} (hm : text.length < m)
    (hn : text.length < n) : skipTrivia m text = skipTrivia n text := by
  induction m generalizing n text with
  | zero => omega
  | succ m ih =>
    obtain ⟨n, rfl⟩ : ∃ k, n = k + 1 := ⟨n - 1, by omega⟩
    rw [skipTrivia_succ, skipTrivia_succ]
    by_cases hline : isLineComment text = true
    · have hlt := length_restOfLine_lt hline
      rw [if_pos hline, if_pos hline, ih (n := n) (by omega) (by omega)]
    · rw [if_neg hline, if_neg hline]
      by_cases hblock : isBlockComment text = true
      · rw [if_pos hblock, if_pos hblock]
        cases hafter : afterBlock? text 0 with
        | none => rfl
        | some rest =>
          have hlt := length_afterBlock?_lt hafter
          exact ih (by omega) (by omega)
      · rw [if_neg hblock, if_neg hblock]
        cases text with
        | nil => rfl
        | cons c rest =>
          simp only [List.length_cons] at hm hn
          dsimp only
          rw [ih (n := n) (by omega) (by omega)]

theorem skipTrivia_eq_afterTrivia {fuel : Nat} {text : Text} (h : text.length < fuel) :
    skipTrivia fuel text = afterTrivia text :=
  skipTrivia_eq_skipTrivia h (Nat.lt_succ_self _)

theorem isLineComment_of_ne {c : Char} {text : Text} (h : c ≠ '/') :
    isLineComment (c :: text) = false := by
  rw [Bool.eq_false_iff]
  intro hline
  obtain ⟨body, heq, -⟩ := isLineComment_iff.1 hline
  exact h (List.cons.inj heq).1

theorem isBlockComment_of_ne {c : Char} {text : Text} (h : c ≠ '/') :
    isBlockComment (c :: text) = false := by
  rw [Bool.eq_false_iff]
  intro hblock
  obtain ⟨body, heq, -⟩ := isBlockComment_iff.1 hblock
  exact h (List.cons.inj heq).1

theorem ne_slash_of_isSpace {c : Char} (h : isSpace c = true) : c ≠ '/' := by
  rintro rfl
  revert h
  decide

theorem afterTrivia_space {c : Char} (h : isSpace c = true) (text : Text) :
    afterTrivia (c :: text) = afterTrivia text := by
  have hc := ne_slash_of_isSpace h
  rw [afterTrivia, skipTrivia_succ, isLineComment_of_ne hc, isBlockComment_of_ne hc]
  simp only [Bool.false_eq_true, if_false, h, if_true]
  rfl

theorem afterTrivia_eq_self {c : Char} (hspace : isSpace c = false) (hslash : c ≠ '/')
    (text : Text) : afterTrivia (c :: text) = c :: text := by
  rw [afterTrivia, skipTrivia_succ, isLineComment_of_ne hslash, isBlockComment_of_ne hslash]
  simp only [Bool.false_eq_true, if_false, hspace]

theorem dropWhile_body {body : Text} (hbody : '\n' ∉ body) (rest : Text) :
    (body ++ rest).dropWhile (· != '\n') = rest.dropWhile (· != '\n') := by
  apply List.dropWhile_append_of_pos
  intro c hc
  simpa using fun heq : c = '\n' => hbody (heq ▸ hc)

theorem afterTrivia_lineComment {text : Text} (h : isLineComment text = true) :
    afterTrivia text = afterTrivia (restOfLine text).2 := by
  rw [afterTrivia, skipTrivia_succ, if_pos h]
  exact skipTrivia_eq_afterTrivia (length_restOfLine_lt h)

theorem afterTrivia_line {body : Text} (hordinary : OrdinaryLine body) (hbody : '\n' ∉ body)
    (rest : Text) : afterTrivia ('/' :: '/' :: (body ++ '\n' :: rest)) = afterTrivia rest := by
  have hline : isLineComment ('/' :: '/' :: (body ++ '\n' :: rest)) = true :=
    isLineComment_iff.2 ⟨_, rfl, ordinaryLine_append_newline.2 hordinary⟩
  have hrest : (restOfLine ('/' :: '/' :: (body ++ '\n' :: rest))).2 = '\n' :: rest := by
    simp [restOfLine, dropWhile_body hbody]
  rw [afterTrivia_lineComment hline, hrest, afterTrivia_space (by decide)]

theorem OpenLine.afterTrivia {comment : Text} (h : OpenLine comment) :
    afterTrivia comment = [] := by
  obtain ⟨hordinary, hbody⟩ := h
  next body =>
  have hrest : (restOfLine ('/' :: '/' :: body)).2 = [] := by
    have hdrop := dropWhile_body hbody []
    rw [List.append_nil] at hdrop
    simp [restOfLine, hdrop]
  rw [afterTrivia_lineComment (isLineComment_iff.2 ⟨body, rfl, hordinary⟩), hrest]
  rfl

theorem afterTrivia_block {body : Text} (hordinary : OrdinaryBlock body) (hbody : BlockRest body)
    (rest : Text) : afterTrivia ('/' :: '*' :: (body ++ rest)) = afterTrivia rest := by
  have hblock : isBlockComment ('/' :: '*' :: (body ++ rest)) = true :=
    isBlockComment_iff.2 ⟨_, rfl, (ordinaryBlock_append hbody).2 hordinary⟩
  have hline : isLineComment ('/' :: '*' :: (body ++ rest)) = false := rfl
  have hafter : afterBlock? ('/' :: '*' :: (body ++ rest)) 0 = some rest :=
    afterBlock?_eq_some_iff.2 ⟨body, hbody, rfl⟩
  rw [afterTrivia, skipTrivia_succ, hline, if_neg (by simp), if_pos hblock, hafter]
  exact skipTrivia_eq_afterTrivia (length_afterBlock?_lt hafter)

/-- Trivia is skipped. -/
theorem Trivia.afterTrivia_append {front : Text} (h : Trivia front) (rest : Text) :
    afterTrivia (front ++ rest) = afterTrivia rest := by
  induction h with
  | nil => rfl
  | space hc _ ih => rw [List.cons_append, afterTrivia_space hc, ih]
  | line hordinary hbody _ ih =>
    rw [List.cons_append, List.cons_append, List.append_assoc, List.cons_append,
      afterTrivia_line hordinary hbody, ih]
  | block hordinary hbody _ ih =>
    rw [List.cons_append, List.cons_append, List.append_assoc,
      afterTrivia_block hordinary hbody, ih]

/-- Texts that one more piece of trivia may stand in front of. -/
def IsPiece (piece : Text) : Prop :=
  piece ≠ [] ∧ ∀ rest, Trivia rest → Trivia (piece ++ rest)

theorem IsPiece.lastTrivia_append {piece text : Text} (hpiece : IsPiece piece)
    (h : LastTrivia text) : LastTrivia (piece ++ text) := by
  rcases h with htrivia | ⟨front, comment, rfl, hfront, hcomment⟩
  · exact .inl (hpiece.2 text htrivia)
  · exact .inr ⟨piece ++ front, comment, by simp, hpiece.2 front hfront, hcomment⟩

theorem isLineComment_cases {text : Text} (h : isLineComment text = true) :
    OpenLine text ∨ ∃ piece rest, IsPiece piece ∧ text = piece ++ rest := by
  obtain ⟨body, rfl, hordinary⟩ := isLineComment_iff.1 h
  by_cases hbody : '\n' ∈ body
  · obtain ⟨line, rest, rfl, hline⟩ := List.eq_append_cons_of_mem hbody
    refine .inr ⟨'/' :: '/' :: (line ++ ['\n']), rest, ⟨by simp, fun more hmore => ?_⟩, by simp⟩
    have htrivia := Trivia.line (ordinaryLine_append_newline.1 hordinary) hline hmore
    simpa using htrivia
  · exact .inl (.mk hordinary hbody)

theorem isBlockComment_cases {text rest : Text} (h : isBlockComment text = true)
    (hafter : afterBlock? text 0 = some rest) : ∃ piece, IsPiece piece ∧ text = piece ++ rest := by
  obtain ⟨body, rfl, hordinary⟩ := isBlockComment_iff.1 h
  obtain ⟨body, hbody, rfl⟩ := afterBlock?_eq_some_iff.1 hafter
  refine ⟨'/' :: '*' :: body, ⟨by simp, fun more hmore => ?_⟩, rfl⟩
  exact .block ((ordinaryBlock_append hbody).1 hordinary) hbody hmore

/-- A text starts with a piece of trivia, or it is an open line comment, or nothing is skipped. -/
theorem exists_piece (text : Text) :
    afterTrivia text = text ∨ OpenLine text ∨
      ∃ piece rest, IsPiece piece ∧ text = piece ++ rest := by
  by_cases hline : isLineComment text = true
  · exact .inr (isLineComment_cases hline)
  by_cases hblock : isBlockComment text = true
  · cases hafter : afterBlock? text 0 with
    | none =>
      left
      rw [afterTrivia, skipTrivia_succ, if_neg hline, if_pos hblock, hafter]
    | some rest =>
      obtain ⟨piece, hpiece, htext⟩ := isBlockComment_cases hblock hafter
      exact .inr (.inr ⟨piece, rest, hpiece, htext⟩)
  cases text with
  | nil => exact .inl rfl
  | cons c rest =>
    by_cases hspace : isSpace c = true
    · exact .inr (.inr ⟨[c], rest, ⟨by simp, fun more => .space hspace⟩, rfl⟩)
    · left
      rw [afterTrivia, skipTrivia_succ, if_neg hline, if_neg hblock]
      simp only [hspace, Bool.false_eq_true, if_false]

/-- What is skipped is trivia. -/
theorem exists_trivia (text : Text) :
    (∃ front, text = front ++ afterTrivia text ∧ Trivia front) ∨
      afterTrivia text = [] ∧ LastTrivia text := by
  induction hlength : text.length using Nat.strong_induction_on generalizing text with
  | _ length ih =>
    rcases exists_piece text with hsame | hopen | ⟨piece, rest, hpiece, rfl⟩
    · exact .inl ⟨[], hsame.symm, .nil⟩
    · exact .inr ⟨hopen.afterTrivia, .inr ⟨[], text, rfl, .nil, hopen⟩⟩
    · have hskip : afterTrivia (piece ++ rest) = afterTrivia rest := by
        have htrivia := hpiece.2 [] .nil
        rw [List.append_nil] at htrivia
        exact htrivia.afterTrivia_append rest
      have hlt : rest.length < length := by
        have hpos := List.length_pos_iff.2 hpiece.1
        rw [← hlength, List.length_append]
        omega
      rw [hskip]
      rcases ih _ hlt rest rfl with ⟨front, hrest, hfront⟩ | ⟨hnil, hlast⟩
      · refine .inl ⟨piece ++ front, ?_, hpiece.2 front hfront⟩
        rw [List.append_assoc, ← hrest]
      · exact .inr ⟨hnil, hpiece.lastTrivia_append hlast⟩

theorem afterTrivia_eq_nil_iff {text : Text} : afterTrivia text = [] ↔ LastTrivia text := by
  constructor
  · intro h
    rcases exists_trivia text with ⟨front, htext, hfront⟩ | ⟨-, hlast⟩
    · rw [h, List.append_nil] at htext
      exact .inl (htext ▸ hfront)
    · exact hlast
  · rintro (htrivia | ⟨front, comment, rfl, hfront, hcomment⟩)
    · have hskip := htrivia.afterTrivia_append []
      rwa [List.append_nil] at hskip
    · rw [hfront.afterTrivia_append, hcomment.afterTrivia]

/-- The token after the trivia in front of it. -/
theorem eq_append_of_afterTrivia {text rest : Text} (h : afterTrivia text = rest)
    (hrest : rest ≠ []) : ∃ front, text = front ++ rest ∧ Trivia front := by
  rcases exists_trivia text with hfront | ⟨hnil, -⟩
  · exact h ▸ hfront
  · exact absurd (h.symm.trans hnil) hrest

end Retouch.Token
